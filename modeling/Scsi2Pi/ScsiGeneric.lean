import Scsi2Pi.CommandMetaData
import Scsi2Pi.Controller

/-! ScsiGeneric: commands are passed on to a device of the SG driver, with their
data in chunks of at most 64 KiB. The CDB is adapted for each chunk. -/
namespace Scsi2Pi
open Slices MemoryUtil CommandMetaData Handler Derives

namespace SgUtil

def getAllocationLength (cdb : Bytes) : Int :=
  let metaData := getCdbMetaData (cdb.getD 0 0)
  if metaData.allocationLengthOffset < 0 then -metaData.allocationLengthOffset
  else
    let offset := metaData.allocationLengthOffset.toNat
    match metaData.allocationLengthSize with
    | 1 => byteAt cdb offset
    | 2 => getInt16 cdb offset
    | 3 => getInt24 cdb offset
    | 4 => int32 (getInt32 cdb offset)
    | _ => 0

def setInt24 (buf : Bytes) (offset value : Nat) : Bytes := setBytes buf offset (bigEndian 3 value)

def updateStartBlock (cdb : Bytes) (length : Nat) : Bytes :=
  let metaData := getCdbMetaData (cdb.getD 0 0)
  let offset := metaData.blockOffset
  match metaData.blockSize with
  | 3 => setInt24 cdb offset (getInt24 cdb offset + length)
  | 4 => setInt32 cdb offset (getInt32 cdb offset + length)
  | 8 => setInt64 cdb offset (getInt64 cdb offset + length)
  | _ => cdb

def setBlockCount (cdb : Bytes) (length : Nat) : Bytes :=
  let metaData := getCdbMetaData (cdb.getD 0 0)
  let offset := metaData.allocationLengthOffset.toNat
  if metaData.blockSize = 0 then cdb
  else match metaData.allocationLengthSize with
    | 1 => setBytes cdb offset (bigEndian 1 length)
    | 2 => setInt16 cdb offset length
    | 3 => setInt24 cdb offset length
    | 4 => setInt32 cdb offset length
    | _ => cdb

end SgUtil

structure ScsiGeneric extends PrimaryDevice where
  device : String := ""
  blockSize : Nat := 512
  byteCount : Int := 0
  remainingCount : Int := 0
  localCdb : Bytes := []
  formatHeader : Bytes := []
  deferredSenseData : Bytes := List.replicate 18 0
  deferredSenseDataValid : Bool := false

instance : Derives ScsiGeneric PrimaryDevice :=
  ⟨fun d => d.toPrimaryDevice,fun d b => { d with toPrimaryDevice := b },fun _ _ => rfl,fun _ => rfl,fun _ _ _ => rfl⟩

namespace ScsiGeneric
open SgUtil

def maxTransferLength : Int := 65536

def localOpcode (d : ScsiGeneric) : ScsiCommand := d.localCdb.getD 0 0

/- FORMAT UNIT with a parameter list: its length is part of the data. -/
def formatsWithData (d : ScsiGeneric) : Bool := d.localOpcode = .formatUnit && byteAt d.localCdb 1 &&& 0x10 ≠ 0

/- There is only LUN 0. -/
def markMissingLun (status : Nat) : Handler ScsiGeneric Unit := do
  if status = 0 ∧ (← getDevice).localOpcode = .inquiry ∧ (← getRequest).effectiveLun ≠ 0 then
    setBuffer (setBytes · 0 [0x7f])

/- An error keeps the sense data for the next REQUEST SENSE. -/
def evaluateStatus (result : SgResult) (write : Bool) : Handler ScsiGeneric Unit := do
  if result.failed then throw ⟨.abortedCommand,if write then .writeError else .readError⟩
  let status := if result.status = StatusCode.conditionMet.code.toNat then 0 else result.status
  markMissingLun status
  if status ≠ 0 then
    modifyDevice fun d => { d with deferredSenseData := result.senseData, deferredSenseDataValid := true }
    throw ⟨.noSense,.noAdditionalSenseInformation⟩

/- READ CAPACITY tells the block size. -/
def updateInternalBlockSize (length : Int) : Handler ScsiGeneric Unit := do
  let d ← getDevice
  let buf := (← getTransfer).buffer
  let size :=
    if d.localOpcode = .readCapacity10 ∧ 8 ≤ length then getInt32 buf 4
    else if d.localOpcode = .readCapacityReadLong16 ∧ byteAt d.localCdb 1 &&& 0x10 ≠ 0 ∧ 12 ≤ length then getInt32 buf 8
    else d.blockSize
  if size ≠ 0 then modifyDevice fun d => { d with blockSize := size }

def storeResult (write : Bool) (result : SgResult) (length : Int) : Handler ScsiGeneric Unit := do
  if !write ∧ !result.failed then setBuffer (setBytes · 0 (result.data.take length.toNat))

/- A configured SCSI level replaces the one of the device. -/
def updateInquiryLevel : Handler ScsiGeneric Unit := do
  let d ← getDevice
  if d.localOpcode = .inquiry ∧ d.level ≠ .none then setBuffer (setBytes · 2 [UInt8.ofInt d.level])

/- The data to write are passed, data that are read go to the buffer. -/
def readWriteData (data : Bytes) (chunkSize : Int) : Handler ScsiGeneric Int := do
  let d ← getDevice
  let length := min (min d.remainingCount chunkSize) maxTransferLength
  modifyDevice fun d => { d with localCdb := setBlockCount d.localCdb (uint32 length / d.blockSize) }
  let d ← getDevice
  let write := (getCdbMetaData d.localOpcode).hasDataOut
  let result := (← getRequest).env.sgIo d.localCdb (if write then data.take length.toNat else []) length
  storeResult write result length
  modifyDevice fun d => { d with formatHeader := [] }
  evaluateStatus result write
  let transferredLength := length - result.resid
  updateInternalBlockSize length
  modifyDevice fun d => { d with localCdb := updateStartBlock d.localCdb (uint32 length / d.blockSize) }
  updateInquiryLevel
  -- Non-block oriented commands may return less than the allocation length
  modifyDevice fun d => { d with
    remainingCount := if (getCdbMetaData d.localOpcode).blockSize ≠ 0 then d.remainingCount - transferredLength else 0 }
  return transferredLength

def readData : Handler ScsiGeneric Int := do
  readWriteData [] (← getTransfer).chunkSize

/- The first chunk of FORMAT UNIT is the header of its parameter list. -/
def beginFormat (buf : Bytes) : Handler ScsiGeneric Int := do
  let byteCount := (getInt16 buf 2 + 4 : Nat)
  modifyDevice fun d => { d with formatHeader := slice buf 0 4, byteCount }
  setTransferSize byteCount byteCount
  return 0

def continueFormat (buf : Bytes) (length : Int) : Handler ScsiGeneric Int := do
  modifyDevice fun d => { d with
    formatHeader := d.formatHeader ++ buf.take (length - 4).toNat
    remainingCount := d.byteCount }
  readWriteData (← getDevice).formatHeader length

def writeData (length : Int) : Handler ScsiGeneric Int := do
  let d ← getDevice
  let buf := (← getTransfer).buffer
  if d.formatsWithData then
    if d.formatHeader.isEmpty then beginFormat buf else continueFormat buf length
  else readWriteData buf length

/- READ(6) and WRITE(6) become READ(10) and WRITE(10). -/
def convertCdb (cdb : Bytes) : Bytes :=
  let cmd : ScsiCommand := cdb.getD 0 0
  if cmd = .read6 ∨ cmd = .write6 then
    let long := cdb ++ [0,0,cdb.getD 4 0,cdb.getD 5 0]
    ((setInt32 long 2 (getInt24 cdb 1)).set 1 0).set 0 (if cmd = .write6 then 0x2a else 0x28)
  else cdb

def prepareCommand (r : Request) (cmd : ScsiCommand) (d : ScsiGeneric) : ScsiGeneric :=
  let localCdb := convertCdb (r.cdb.take (getByteCount cmd))
  let byteCount :=
    if cmd = .formatUnit ∧ byteAt localCdb 1 &&& 0x10 ≠ 0 then 4
    else if (getCdbMetaData cmd).blockSize ≠ 0 then int32 (getAllocationLength localCdb * d.blockSize)
    else getAllocationLength localCdb
  { d with localCdb, byteCount, remainingCount := byteCount }

def dispatch (cmd : ScsiCommand) : Handler ScsiGeneric PhaseCall := do
  let r ← getRequest
  if getByteCount cmd = 0 then throw ⟨.illegalRequest,.invalidCommandOperationCode⟩
  modifyDevice (prepareCommand r cmd)
  if r.effectiveLun ≠ 0 ∧ cmd ≠ .inquiry then throw ⟨.illegalRequest,.logicalUnitNotSupported⟩
  let d ← getDevice
  modifyDevice fun d => { d with deferredSenseDataValid := false }
  if cmd = .requestSense ∧ d.deferredSenseDataValid then
    let length := min 18 d.byteCount
    setBuffer (setBytes · 0 d.deferredSenseData)
    setTransferSize length length
    return .dataIn length
  let chunkSize := if d.byteCount < maxTransferLength then d.byteCount else maxTransferLength
  setTransferSize d.byteCount chunkSize
  if (getCdbMetaData cmd).hasDataOut then
    return .dataOut (if chunkSize ≠ 0 ∨ cmd ≠ .formatUnit then chunkSize else -1)
  setCurrentLength d.byteCount
  return .dataIn (← readData)

def methods : Methods ScsiGeneric where
  dispatch := dispatch
  readData := readData
  writeData _ length := writeData length
  modeSelect _ := throw ⟨.illegalRequest,.invalidFieldInCdb⟩

end ScsiGeneric
end Scsi2Pi
