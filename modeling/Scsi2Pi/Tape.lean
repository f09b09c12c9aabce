import Scsi2Pi.DiskDrives
import Scsi2Pi.S2pUtil
import Scsi2Pi.SimhUtil

/-! Tape: records, filemarks and the end-of-data marker of a SIMH image file, or
the plain contents of a tar file. A move along the tape ends at an object it
looks for, with an exception at another one, or at an end of the file. -/
namespace Scsi2Pi
open Slices MemoryUtil SimhUtil

structure Tape extends StorageDevice where
  isOpen : Bool := false
  currentMetaData : SimhMetaData := ⟨.tapeMarkGoodDataRecord,0⟩
  tapePosition : Int := 0
  initial : Bool := false
  fixed : Bool := false
  blockSizeForDescriptor : Nat := 0
  blocksRead : Int := 0
  recordStart : Int := 0
  recordLength : Nat := 0
  objectLocation : Int := 0
  byteCount : Nat := 0
  remainingCount : Nat := 0
  fileSize : Nat := 0
  maxFileSize : Nat := 0
  tarFile : Bool := false
  expl : Bool := false

instance : Derives Tape StorageDevice :=
  ⟨fun d => d.toStorageDevice,fun d b => { d with toStorageDevice := b },fun _ _ => rfl,fun _ => rfl,fun _ _ _ => rfl⟩

instance : Derives Tape PrimaryDevice :=
  ⟨fun d => d.toPrimaryDevice,fun d b => { d with toPrimaryDevice := b },fun _ _ => rfl,fun _ => rfl,fun _ _ _ => rfl⟩

/- The types of SSC. A private marker may contain any number. -/
abbrev ObjectType := Nat

namespace ObjectType

abbrev block : ObjectType := 0
abbrev filemark : ObjectType := 1
abbrev endOfData : ObjectType := 3

end ObjectType

namespace Tape
open Handler Derives

def checkReady : Handler Tape Unit := super PrimaryDevice.checkReady

def setInformation (value : Int) : Handler Tape Unit :=
  super (modifyDevice fun (d : PrimaryDevice) => d.setInformation value)

def resetPositions : Handler Tape Unit :=
  modifyDevice fun d => { d with tapePosition := 0, objectLocation := 0 }

/-! The file. -/

def stream (d : Tape) (w : World) : Option Bytes := if d.isOpen then w.files d.filename else none

/- seekg, read and CheckForReadError. A negative count or position fails. -/
def readFile (count : Int) : Handler Tape Bytes := do
  let d ← getDevice
  match d.stream (← getWorld) with
  | none => throw ⟨.mediumError,.readError⟩
  | some bytes =>
    if count < 0 ∨ d.tapePosition < 0 ∨ (bytes.length : Int) < d.tapePosition + count then
      throw ⟨.mediumError,.readError⟩
    return slice bytes d.tapePosition.toNat count.toNat

/- write and CheckForWriteError; the stream is always at the tape position here. -/
def writeFile (data : Bytes) : Handler Tape Unit := do
  let d ← getDevice
  let w ← getWorld
  if !d.isOpen ∨ d.tapePosition < 0 then throw ⟨.mediumError,.writeError⟩
  match w.files.writeAt d.filename d.tapePosition.toNat data with
  | none => throw ⟨.mediumError,.writeError⟩
  | some files => setWorld { w with files }

def checkForOverflow (length : Int) : Handler Tape Unit := do
  let d ← getDevice
  if d.maxFileSize < d.tapePosition + length then throw ⟨.volumeOverflow,.noAdditionalSenseInformation⟩

def writeSimhMetaData (cls : SimhClass) (value : Nat) : Handler Tape Unit := do
  checkForOverflow ((← getDevice).tapePosition + metaDataSize)
  writeFile (toLittleEndian ⟨cls,value⟩)

def advance (count : Int) : Handler Tape Unit :=
  modifyDevice fun d => { d with tapePosition := d.tapePosition + count }

/- There is always an end-of-data object behind the last position. -/
def writeEndOfData : Handler Tape Unit := do
  let d ← getDevice
  if d.tapePosition + metaDataSize ≤ d.fileSize then
    writeSimhMetaData .privateMarker (ObjectType.endOfData * 2^24 + privateMarkerMagic)
  if !d.isOpen ∨ d.tapePosition < 0 then throw ⟨.mediumError,.writeError⟩

def writeMetaData (type : ObjectType) (size : Nat) : Handler Tape Unit := do
  if (← getDevice).tarFile then return
  if type = .block ∨ type = .filemark then
    writeSimhMetaData .tapeMarkGoodDataRecord size
    advance metaDataSize
  writeEndOfData

/-! Exceptions. -/

def raiseBeginningOfPartition {α : Type} (info : Int) : Handler Tape α := do
  resetPositions
  setInformation info
  super (modifyDevice fun (d : PrimaryDevice) => { d with eom := .beginningOfPartitionMediumDetected })
  throw ⟨.noSense,.noAdditionalSenseInformation⟩

def raiseEndOfPartition {α : Type} (info : Int) : Handler Tape α := do
  setInformation info
  super (modifyDevice fun (d : PrimaryDevice) => { d with eom := .endOfPartitionMediumDetected })
  throw ⟨.mediumError,.noAdditionalSenseInformation⟩

def raiseEndOfData {α : Type} (info : Int) : Handler Tape α := do
  advance (-metaDataSize)
  setInformation info
  throw ⟨.blankCheck,.noAdditionalSenseInformation⟩

/- GetByteCount in a READ without FIXED is the length of the CDB. -/
def raiseFilemark {α : Type} (info : Int) (reverse read : Bool) : Handler Tape α := do
  let r ← getRequest
  let d ← getDevice
  if read && !d.fixed then setInformation (if d.expl then r.cdbInt24 12 else r.cdbInt24 2)
  else setInformation (if reverse then -info else info)
  super (modifyDevice fun (d : PrimaryDevice) => { d with filemark := true })
  throw ⟨.noSense,.noAdditionalSenseInformation⟩

def raiseReadError {α : Type} : Handler Tape α := do
  advance metaDataSize
  modifyDevice fun d => { d with blocksRead := d.blocksRead + 1 }
  let d ← getDevice
  setInformation (if d.fixed then d.blocksRead else d.byteCount)
  throw ⟨.mediumError,.readError⟩

/-! Moving along the tape. -/

def recordSize (m : SimhMetaData) : Int := if isRecord m then (pad m.value + metaDataSize : Nat) else 0

def readMetaDataHere : Handler Tape SimhMetaData := do
  let d ← getDevice
  match readMetaData (d.stream (← getWorld)) d.tapePosition with
  | none => throw ⟨.mediumError,.readError⟩
  | some metaData => return metaData

/- No result before the beginning of the tape. -/
def readNextMetaData (reverse : Bool) : Handler Tape (Option SimhMetaData) := do
  if reverse then
    advance (-metaDataSize)
    if (← getDevice).tapePosition < 0 then return none
    let metaData ← readMetaDataHere
    advance (-recordSize metaData)
    return some metaData
  else
    let metaData ← readMetaDataHere
    advance metaDataSize
    return some metaData

def isObject (m : SimhMetaData) : Bool :=
  isRecord m || m.cls = .badDataRecord && m.value = 0 || m.cls = .tapeMarkGoodDataRecord && m.value = 0

def updateObjectLocation (m : SimhMetaData) (reverse : Bool) : Handler Tape Unit :=
  modifyDevice fun d =>
    if isObject m then { d with objectLocation := d.objectLocation + if reverse then -1 else 1 } else d

/- The object that a meta data word stands for, and the length reported for it. -/
def objectOf (m : SimhMetaData) : Option (ObjectType × Nat) :=
  if m.cls = .tapeMarkGoodDataRecord then some (if m.value ≠ 0 then .block else .filemark,m.value)
  else if m.cls = .badDataRecord then some (.block,m.value)
  else if m.cls = .privateMarker ∧ m.value % 2^24 = privateMarkerMagic then some (m.value / 2^24 % 16,0)
  else none

/- Each word passed is at least one byte of the file, see scanLimit. -/
def readSimhMetaData (count : Int) (reverse : Bool) : Nat → Handler Tape ((ObjectType × Nat) × SimhMetaData)
  | 0 => throw ⟨.mediumError,.readError⟩
  | fuel+1 => do
    match ← readNextMetaData reverse with
    | none => raiseBeginningOfPartition count
    | some metaData =>
      updateObjectLocation metaData reverse
      match objectOf metaData with
      | some object => return (object,metaData)
      | none =>
        if metaData.cls = .reservedMarker ∧ metaData.value = endOfMedium then raiseEndOfPartition count
        if !reverse then advance (recordSize metaData)
        readSimhMetaData count reverse fuel

def scanLimit (file : Option Bytes) : Nat := (file.getD []).length + 2

def passObject (m : SimhMetaData) (reverse : Bool) : Handler Tape Unit := do
  if !reverse then advance (recordSize m)

/- What to do with an object: an exception, or how many objects are still to be found.
No result stands for the last one. The count is ignored for end-of-data. -/
def judgeObject (typeToFind : ObjectType) (reverse read : Bool) (typeFound : ObjectType) (count : Int) :
    Handler Tape (Option Int) := do
  if typeFound = .endOfData then
    if typeToFind = .endOfData then return none
    raiseEndOfData count
  if typeFound = .filemark ∧ typeToFind = .block then raiseFilemark count reverse read
  if typeToFind ≠ .endOfData ∧ typeFound = typeToFind then
    return if count - 1 ≤ 0 then none else some (count - 1)
  return some count

/- The count is that of the objects still to be found; read is false while spacing. -/
def findNextObject (limit : Nat) (typeToFind : ObjectType) (reverse read : Bool) :
    Nat → Int → Handler Tape SimhMetaData
  | 0, _ => throw ⟨.mediumError,.readError⟩
  | fuel+1, count => do
    let ((typeFound,length),metaData) ← readSimhMetaData count reverse limit
    if read ∧ typeFound = .block ∧ length = 0 then return metaData
    passObject metaData reverse
    match ← judgeObject typeToFind reverse read typeFound count with
    | none => return metaData
    | some rest => findNextObject limit typeToFind reverse read fuel rest

def findNext (typeToFind : ObjectType) (count : Int) (read : Bool) : Handler Tape SimhMetaData := do
  let limit := scanLimit ((← getDevice).stream (← getWorld))
  findNextObject limit typeToFind (count < 0) read limit count.natAbs

/- The identifier wraps around. -/
def findObjectFrom (limit : Nat) : Nat → Nat → Handler Tape Bool
  | 0, _ => throw ⟨.mediumError,.readError⟩
  | fuel+1, identifier => do
    let (_,metaData) ← readSimhMetaData 0 false limit
    if metaData.cls = .privateMarker ∧ metaData.value % 2^24 = privateMarkerMagic then return false
    if isObject metaData then
      advance (recordSize metaData)
      if uint32 (identifier - 1 : Int) = 0 then return true
      findObjectFrom limit fuel (uint32 (identifier - 1 : Int))
    else findObjectFrom limit fuel identifier

def findObject (identifier : Nat) : Handler Tape Bool := do
  let limit := scanLimit ((← getDevice).stream (← getWorld))
  findObjectFrom limit limit (uint32 identifier)

/- On true the position is that of the object. -/
def locate (locate16 : Bool) : Handler Tape Bool := do
  checkReady
  let r ← getRequest
  if r.cdbByte 1 &&& 0x02 ≠ 0 then throw ⟨.illegalRequest,.invalidFieldInCdb⟩
  let d ← getDevice
  let identifier := if locate16 then r.cdbInt64 4 else r.cdbInt32 3
  let bt := r.cdbByte 1 &&& 0x04 ≠ 0
  if d.tarFile then
    if bt then
      if identifier % d.blockSize ≠ 0 then throw ⟨.illegalRequest,.invalidFieldInCdb⟩
      modifyDevice fun d => { d with
        tapePosition := (identifier : Int).bmod (2^64)
        objectLocation := (identifier / d.blockSize : Nat) }
    else
      modifyDevice fun d => { d with
        tapePosition := (identifier * d.blockSize : Int).bmod (2^64)
        objectLocation := identifier }
    return true
  if bt ∧ identifier ≠ 0 then throw ⟨.illegalRequest,.invalidFieldInCdb⟩
  resetPositions
  if identifier ≠ 0 then findObject identifier else return true

/-! Transfers. -/

def getByteCount : Handler Tape Nat := do
  let r ← getRequest
  let fixed := r.cdbByte 1 &&& 0x01 ≠ 0
  modifyDevice fun d => { d with fixed }
  let d ← getDevice
  if fixed ∧ d.blockSizeForDescriptor = 0 then throw ⟨.illegalRequest,.invalidFieldInCdb⟩
  let length := if d.expl then r.cdbInt24 12 else r.cdbInt24 2
  return if fixed then uint32 (length * d.blockSize : Nat) else length

/- The result is that of the first comparison in the source that holds. -/
def atRecordBoundary (d : Tape) : Bool :=
  d.fixed || d.initial || d.remainingCount = 0 ||
    uint32 (d.byteCount - d.remainingCount : Int) = d.recordLength

def isAtRecordBoundary : Handler Tape Bool := do
  let d ← getDevice
  if d.tarFile then return false
  modifyDevice fun d => { d with initial := false }
  return d.atRecordBoundary

/- Reports an incorrect length; the result is the length to use instead, or 0. -/
def checkBlockLength : Handler Tape Nat := do
  let r ← getRequest
  let d ← getDevice
  if d.recordLength ≠ d.byteCount then
    let actual := if d.recordLength < d.byteCount then d.recordLength else d.byteCount
    let info : Option Int :=
      if d.fixed ∧ d.byteCount % d.recordLength ≠ 0 then
        some (uint32 (d.byteCount - d.remainingCount : Int) / d.blockSize - d.blocksRead)
      else if !d.fixed ∧ (r.cdbByte 1 &&& 0x02 = 0 ∨ d.recordLength < d.byteCount) then
        some ((d.byteCount : Int) - d.recordLength)
      else none
    match info with
    | some value =>
      super (modifyDevice fun (d : PrimaryDevice) => { d with ili := true })
      setInformation value
      modifyTransfer fun t => { t with status := .checkCondition }
      return actual
    | none => return 0
  return 0

/- The record at the position, which is moved to its data. -/
def openRecord : Handler Tape Unit := do
  let metaData ← findNext .block 0 true
  modifyDevice fun d => { d with currentMetaData := metaData, recordLength := metaData.value }
  if metaData.cls = .badDataRecord ∧ metaData.value = 0 then throw ⟨.mediumError,.readError⟩
  advance (-(metaData.value + metaDataSize : Nat))
  modifyDevice fun d => { d with recordStart := d.tapePosition }

def limitTransfer (actual : Nat) : Handler Tape Unit := do
  modifyDevice fun d =>
    let byteCount := if actual < d.byteCount then actual else d.byteCount
    { d with byteCount, remainingCount := byteCount }
  let d ← getDevice
  setTransferSize (int32 d.byteCount) (int32 d.blockSize)
  setCurrentLength (int32 d.blockSize)

/- The trailing length has to match the leading one. -/
def closeRecord : Handler Tape Unit := do
  modifyDevice fun d => { d with tapePosition := d.recordStart + pad d.recordLength }
  let trailingLength := (fromLittleEndian (← readFile metaDataSize)).value
  if (← getDevice).recordLength ≠ trailingLength then raiseReadError
  advance metaDataSize
  modifyDevice fun d => if d.remainingCount = 0 then { d with blocksRead := d.blocksRead + 1 } else d

/- The length of a chunk that starts with a new record. -/
def beginRecord (length : Int) : Handler Tape Int := do
  openRecord
  let actual ← checkBlockLength
  if actual = 0 then return length
  limitTransfer actual
  return min actual length

def readChunk (length : Int) : Handler Tape Int := do
  let data ← readFile length
  setBuffer (setBytes · 0 data)
  modifyDevice fun d => { d with remainingCount := uint32 (d.remainingCount - length) }
  advance length
  if (← isAtRecordBoundary) then closeRecord
  return length

def readData : Handler Tape Int := do
  let chunkSize := (← getTransfer).chunkSize
  if (← isAtRecordBoundary) then readChunk (← beginRecord chunkSize) else readChunk chunkSize

def locateExplicitly (explicit : Bool) : Handler Tape Unit := do
  modifyDevice fun d => { d with expl := explicit }
  if explicit then
    if !(← locate true) then
      setInformation ((← getRequest).cdbInt24 12)
      throw ⟨.noSense,.locateOperationFailure⟩

def read (read16 : Bool) : Handler Tape PhaseCall := do
  checkReady
  let r ← getRequest
  if r.cdbByte 1 &&& 0x03 = 0x03 ∨ read16 ∧ r.cdbByte 3 ≠ 0 then throw ⟨.illegalRequest,.invalidFieldInCdb⟩
  locateExplicitly read16
  let byteCount ← getByteCount
  modifyDevice fun d => { d with byteCount }
  if byteCount = 0 then return .status
  modifyDevice fun d => { d with blocksRead := 0, remainingCount := byteCount, initial := true }
  let d ← getDevice
  setTransferSize (int32 byteCount) (int32 d.blockSize)
  setCurrentLength (int32 d.blockSize)
  return .dataIn (← readData)

def write (write16 : Bool) : Handler Tape PhaseCall := do
  checkReady
  let r ← getRequest
  if write16 ∧ (r.cdbByte 1 &&& 0x0c ≠ 0 ∨ r.cdbByte 3 ≠ 0) then throw ⟨.illegalRequest,.invalidFieldInCdb⟩
  super StorageDevice.checkWritePreconditions
  locateExplicitly write16
  let byteCount ← getByteCount
  modifyDevice fun d => { d with byteCount }
  if byteCount = 0 then return .status
  modifyDevice fun d => { d with
    remainingCount := byteCount
    recordLength := if d.fixed then d.blockSize else byteCount
    initial := true }
  let d ← getDevice
  let size := int32 (if byteCount < d.blockSize then byteCount else d.blockSize)
  setTransferSize (int32 byteCount) size
  return .dataOut size

def finishRecord : Handler Tape Unit := do
  if (← getDevice).tapePosition % 2 ≠ 0 then
    writeFile [0]
    advance 1
  writeSimhMetaData .tapeMarkGoodDataRecord (← getDevice).recordLength
  advance metaDataSize
  modifyDevice fun d => { d with objectLocation := d.objectLocation + 1 }

def beginWrite : Handler Tape Unit := do
  if (← isAtRecordBoundary) then writeMetaData .block (← getDevice).recordLength

def endWrite : Handler Tape Unit := do
  if (← isAtRecordBoundary) then finishRecord
  if (← getDevice).remainingCount = 0 then writeMetaData .endOfData 0

def writeData (chunkSize : Int) : Handler Tape Int := do
  beginWrite
  let length := min (← getDevice).byteCount (uint32 chunkSize)
  checkForOverflow length
  writeFile ((← getTransfer).buffer.take length)
  modifyDevice fun d => { d with remainingCount := uint32 (d.remainingCount - length : Int) }
  advance length
  endWrite
  return chunkSize

/-! The other commands. -/

def gap : Bytes := toLittleEndian ⟨.tapeMarkGoodDataRecord,eraseGap⟩

def erasePattern (length : Nat) : Bytes := (List.replicate (length / 4 + 1) gap).flatten.take length

/- Chunks of 4096 bytes, as long as there is room for a gap. -/
def eraseChunks : Nat → Nat → Handler Tape Unit
  | 0, _ => pure ()
  | fuel+1, remaining => do
    if remaining < 4 then return
    let chunk := min remaining 4096
    writeFile (erasePattern chunk)
    advance chunk
    modifyDevice fun d => { d with objectLocation := d.objectLocation + (chunk / d.blockSize : Nat) }
    eraseChunks fuel (remaining-chunk)

/- The remaining size is unsigned. -/
def erase : Handler Tape Unit := do
  let d ← getDevice
  let remaining := ((d.fileSize - d.tapePosition) % 2^64).toNat
  eraseChunks (remaining / 4096 + 1) remaining

def checkNoTar : Handler Tape Unit := do
  if (← getDevice).tarFile then throw ⟨.illegalRequest,.invalidCommandOperationCode⟩

/- The position is undefined in the standard, here it is that of the beginning. -/
def eraseAll : Handler Tape Unit := do
  erase
  resetPositions

def erase6 : Handler Tape PhaseCall := do
  checkReady
  checkNoTar
  super StorageDevice.checkWritePreconditions
  if (← getRequest).cdbByte 1 &&& 0x01 ≠ 0 then eraseAll
  writeMetaData .endOfData 0
  return .status

def readBlockLimits : Handler Tape PhaseCall := do
  setBuffer fun buf => setInt16 (setInt32 buf 0 0x02fffffc) 4 4
  return .dataIn 6

def rewind : Handler Tape PhaseCall := do
  resetPositions
  return .status

def signedInt24 (value : Nat) : Int := if 0x800000 ≤ value then value - 0x1000000 else value

def spaceOver (code : ObjectType) : Handler Tape Unit := do
  let r ← getRequest
  if code = .block ∨ code = .filemark then
    let count := signedInt24 (r.cdbInt24 2)
    if count ≠ 0 then let _ ← findNext code count false
  else if code = .endOfData then
    let _ ← findNext .endOfData 0 false
    advance (-metaDataSize)
  else throw ⟨.illegalRequest,.invalidFieldInCdb⟩

def space6 : Handler Tape PhaseCall := do
  checkReady
  checkNoTar
  spaceOver ((← getRequest).cdbByte 1 &&& 0x07)
  return .status

def repeatFilemark : Nat → Handler Tape Unit
  | 0 => pure ()
  | count+1 => do
    writeMetaData .filemark 0
    repeatFilemark count

def locateFilemarks (identifier : Nat) : Handler Tape Unit := do
  resetPositions
  if !(← findObject identifier) then
    setInformation ((← getRequest).cdbInt24 12)
    throw ⟨.noSense,.locateOperationFailure⟩

def writeFilemarks (writeFilemarks16 : Bool) : Handler Tape PhaseCall := do
  checkReady
  let r ← getRequest
  if (← getDevice).tarFile then return .status
  if r.cdbByte 1 &&& 0x02 ≠ 0 ∨ writeFilemarks16 ∧ (r.cdbByte 1 &&& 0x0c ≠ 0 ∨ r.cdbByte 3 ≠ 0) then
    throw ⟨.illegalRequest,.invalidFieldInCdb⟩
  super StorageDevice.checkWritePreconditions
  if writeFilemarks16 ∧ uint32 (r.cdbInt64 4) ≠ 0 then locateFilemarks (r.cdbInt64 4)
  repeatFilemark (if writeFilemarks16 then r.cdbInt24 12 else r.cdbInt24 2)
  return .status

def locateCommand (locate16 : Bool) : Handler Tape PhaseCall := do
  let _ ← locate locate16
  return .status

def readPosition : Handler Tape PhaseCall := do
  checkReady
  let d ← getDevice
  let location :=
    if (← getRequest).cdbByte 1 &&& 0x01 ≠ 0 then uint32 d.tapePosition else uint32 d.objectLocation
  let flags := (if d.tapePosition = 0 then 0x80 else 0x00) + (if d.fileSize ≤ d.tapePosition then 0x40 else 0x00)
  setBuffer fun buf =>
    setInt32 (setInt32 (setBytes (setBytes buf 0 (List.replicate 20 0)) 0 [flags]) 4 location) 8 location
  return .dataIn 20

def formatMedium : Handler Tape PhaseCall := do
  checkReady
  checkNoTar
  super StorageDevice.checkWritePreconditions
  if (← getDevice).tapePosition ≠ 0 then throw ⟨.illegalRequest,.sequentialPositioningError⟩
  eraseAll
  writeMetaData .endOfData 0
  return .status

/-! Block sizes, mode pages and the image file. -/

/- Block size 0 selects variable block lengths, without a change of the block size. -/
def verifyBlockSizeChange (requested : Nat) (temporary : Bool) : Handler Tape Nat := do
  if requested = 0 ∧ temporary then
    modifyDevice fun d => { d with blockSizeForDescriptor := 0 }
    return 0
  super (StorageDevice.verifyBlockSizeChange requested temporary)

def deviceConfigurationPage (changeable : Bool) : Bytes :=
  if changeable then List.replicate 16 0 else ((List.replicate 16 0).set 8 0x40).set 10 0x10

def mediumPartitionPage (changeable : Bool) : Bytes :=
  if changeable then List.replicate 8 0 else (List.replicate 8 0).set 4 0x90

def setUpModePages (_ : Request) (_ : Tape) (page : Nat) (changeable : Bool) (pages : Pages) : Pages :=
  (((StorageDevice.setUpModePages page pages).setIf (pageAsked page 0x0f) 15 (List.replicate 16 0)).setIf
    (pageAsked page 0x10) 16 (deviceConfigurationPage changeable)).setIf
    (pageAsked page 0x11) 17 (mediumPartitionPage changeable)

def eject (force : Bool) : Handler Tape Bool := do
  let status ← super (StorageDevice.primaryEject force)
  if status then
    super StorageDevice.forgetFile
    modifyDevice fun d => { d with isOpen := false }
  return status

def virtual : StorageDevice.Virtual Tape where
  flushCache := pure ()
  eject
  setUpModePages
  changeBlockSize size := super (StorageDevice.changeBlockSize size)
  verifyBlockSizeChange
  blockSizeForDescriptor d changeable := if changeable then 0x00ffffff else d.blockSizeForDescriptor
  blockCountForDescriptor _ := 0

def inquiry : Handler Tape PhaseCall := PrimaryDevice.inquiry (inquiryInternal .sequentialAccess fun _ => true)

def commands : List (ScsiCommand × Handler Tape PhaseCall) :=
  PrimaryDevice.commands inquiry (super PrimaryDevice.requestSense) ++ [
    (.read6,read false),
    (.read16,read true),
    (.write6,write false),
    (.write16,write true),
    (.erase6,erase6),
    (.readBlockLimits,readBlockLimits),
    (.rewind,rewind),
    (.space6,space6),
    (.writeFilemarks6,writeFilemarks false),
    (.writeFilemarks16,writeFilemarks true),
    (.locate10,locateCommand false),
    (.locate16,locateCommand true),
    (.readPosition,readPosition),
    (.formatMedium,formatMedium)] ++
    StorageDevice.commands virtual true false

def methods : Methods Tape where
  dispatch := StorageDevice.dispatch commands
  readData := readData
  writeData _ length := writeData length
  modeSelect := StorageDevice.modeSelect virtual

/- The append parameter is the maximum file size. A file that is too small is
replaced by one with a single block. -/
def openFile (append : Nat) (readOnlyFile : Bool) : Handler Tape Bool := do
  let d ← getDevice
  let size := if d.configuredBlockSize ≠ 0 then d.configuredBlockSize else 512
  match d.setBlockSize size with
  | none => return false
  | some s =>
    if append ≠ 0 ∧ append < size then return false
    let w ← getWorld
    let fileSize := (d.getFileSize w).getD 0
    modifyDevice fun d => { d with
      toStorageDevice := { s with blocks := fileSize / size % 2^32 }
      maxFileSize := if append = 0 then fileSize else append
      blockSizeForDescriptor := size
      fileSize }
    if append ≠ 0 ∧ fileSize < size then
      setWorld { w with files := Function.update w.files d.filename (some (List.replicate size 0)) }
    if !(← super (StorageDevice.validateFile readOnlyFile)) then return false
    modifyDevice fun d => { d with isOpen := !readOnlyFile, tarFile := S2pUtil.getExtensionLowerCase d.filename = "tar" }
    resetPositions
    return true

end Tape
end Scsi2Pi
