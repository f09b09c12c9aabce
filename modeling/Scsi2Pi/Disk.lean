import Scsi2Pi.Cache
import Scsi2Pi.StorageDevice

/-! Disk: block devices with a cache. READ and WRITE move the sectors of one
command in chunks: one sector a chunk, or all of them in LINUX_OPTIMIZED mode. -/
namespace Scsi2Pi
open Slices MemoryUtil

structure Disk extends StorageDevice where
  cache : Option Cache := none
  cachingMode : CachingMode
  nextSector : Nat := 0
  sectorTransferCount : Nat := 0

instance : Derives Disk StorageDevice :=
  ⟨fun d => d.toStorageDevice,fun d b => { d with toStorageDevice := b },fun _ _ => rfl,fun _ => rfl,fun _ _ _ => rfl⟩

instance : Derives Disk PrimaryDevice :=
  ⟨fun d => d.toPrimaryDevice,fun d b => { d with toPrimaryDevice := b },fun _ _ => rfl,fun _ => rfl,fun _ _ _ => rfl⟩

namespace Disk
open Handler Derives

inductive AccessMode where
  | rw6 | rw10 | rw16 | seek6 | seek10
  deriving DecidableEq, Repr

/-! The cache. -/

def withFiles {α : Type} (run : Cache → FileSystem → α × Cache × FileSystem) (c : Cache) : Handler Disk α := do
  let w ← getWorld
  let (result,c,files) := run c w.files
  modifyDevice fun d => { d with cache := some c }
  setWorld { w with files }
  return result

def withStream {α : Type} (run : LinuxCache → FileSystem → α × LinuxCache × FileSystem) (c : LinuxCache) :
    Handler Disk α :=
  withFiles (fun _ fs => let (result,c,fs) := run c fs; (result,.stream c,fs)) (.stream c)

def flushCache : Handler Disk Unit := do
  let d ← getDevice
  match d.cache with
  | some c => if d.ready then let _ ← withFiles Cache.flush c
  | none => pure ()

/- The cache that is replaced or given up is destroyed. -/
def dropCache : Handler Disk Unit := do
  let d ← getDevice
  let w ← getWorld
  match d.cache with
  | some c => setWorld { w with files := c.drop w.files }
  | none => pure ()
  modifyDevice fun d => { d with cache := none }

def initCache (path : String) : Handler Disk Bool := do
  dropCache
  let d ← getDevice
  let cache :=
    if d.cachingMode = .piscsi then Cache.tracks (.new path d.blockSize d.blocks)
    else Cache.stream ⟨path,d.blockSize,d.blocks,d.cachingMode = .writeThrough,none⟩
  modifyDevice fun d => { d with cache := some cache }
  return cache.init (← getWorld).files

/- The track cache supports standard sector sizes only. -/
def setUpCache : Handler Disk Bool := do
  let d ← getDevice
  if d.blockSize ∉ d.supportedBlockSizes ∧ d.cachingMode = .piscsi then
    modifyDevice fun d => { d with cachingMode := .linux }
  initCache d.filename

def validateFile (readOnlyFile : Bool) : Handler Disk Bool := do
  if (← getDevice).blocks = 0 then return false
  if !(← super (StorageDevice.validateFile readOnlyFile)) then return false
  setUpCache

/- Open with the default block size of the class. The count is narrowed by some classes. -/
def openFile (defaultBlockSize : Nat) (count : Nat → Nat) (readOnlyFile : Bool) : Handler Disk Bool := do
  let d ← getDevice
  let size := if d.configuredBlockSize ≠ 0 then d.configuredBlockSize else defaultBlockSize
  match d.setBlockSize size, d.getFileSize (← getWorld) with
  | some s, some length =>
    modifyDevice fun d => { d with toStorageDevice := { s with blocks := count (length / size) } }
    validateFile readOnlyFile
  | _, _ => return false

def changeBlockSize (size : Nat) : Handler Disk Unit := do
  let d ← getDevice
  if size ≠ d.blockSize then
    super (StorageDevice.changeBlockSize size)
    flushCache
    if (← getDevice).cache.isSome then let _ ← setUpCache

def eject (force : Bool) : Handler Disk Bool := do
  let status ← super (StorageDevice.primaryEject force)
  if status then
    flushCache
    super StorageDevice.forgetFile
    dropCache
  return status

/-! Mode pages. -/

def appleData : Bytes :=
  [0x41,0x50,0x50,0x4c,0x45,0x20,0x43,0x4f,0x4d,0x50,0x55,0x54,0x45,0x52,0x2c,0x20,0x49,0x4e,0x43,0x20,0x20,0x20]

def setUpModePages (page : Nat) (changeable : Bool) (pages : Pages) : Pages :=
  let verifyErrorRecovery := if changeable then List.replicate 12 0 else (List.replicate 12 0).set 3 1
  let caching := if changeable then List.replicate 12 0 else [0,0,0,0,0xff,0xff,0,0,0xff,0xff,0xff,0xff]
  let appleVendor := if changeable then List.replicate 24 0 else [0,0] ++ appleData
  (((StorageDevice.setUpModePages page pages).setIf (pageAsked page 0x07) 7 verifyErrorRecovery).setIf
    (pageAsked page 0x08) 8 caching).setIf (pageAsked page 0x30) 48 appleVendor

/-! Addresses. -/

def checkReady : Handler Disk Unit := super PrimaryDevice.checkReady

def validateBlockAddress (mode : AccessMode) : Handler Disk Nat := do
  checkReady
  let r ← getRequest
  if mode = .rw10 ∧ r.cdbByte 1 &&& 0x01 ≠ 0 then throw ⟨.illegalRequest,.invalidFieldInCdb⟩
  let sector := if mode = .rw16 then r.cdbInt64 2 else r.cdbInt32 2
  if (← getDevice).blocks ≤ sector then throw ⟨.illegalRequest,.lbaOutOfRange⟩
  return sector

def startAndCount (r : Request) (mode : AccessMode) : Nat × Nat :=
  match mode with
  | .rw6 | .seek6 => (r.cdbInt24 1,if r.cdbByte 4 = 0 then 256 else r.cdbByte 4)
  | .rw16 => (r.cdbInt64 2,r.cdbInt32 10)
  | .rw10 => (r.cdbInt32 2,r.cdbInt16 7)
  | .seek10 => (r.cdbInt32 2,0)

/- The sum is that of the 64-bit type. -/
def checkAndGetStartAndCount (mode : AccessMode) : Handler Disk (Bool × Nat × Nat) := do
  checkReady
  let r ← getRequest
  let (start,count) := startAndCount r mode
  let capacity := (← getDevice).blocks
  if capacity = 0 ∨ capacity < (start + count) % 2^64 then throw ⟨.illegalRequest,.lbaOutOfRange⟩
  return (count ≠ 0 || mode = .seek6 || mode = .seek10,start,count)

/-! Transfers. Sizes are products of unsigned 32-bit numbers, passed on as int. -/

def size (count blockSize : Nat) : Int := int32 (count * blockSize : Nat)

def prepareTransfer (start count : Nat) : Handler Disk Nat := do
  let d ← getDevice
  let perChunk := if d.cachingMode = .linuxOptimized then count else 1
  modifyDevice fun d => { d with nextSector := start, sectorTransferCount := perChunk }
  setTransferSize (size count d.blockSize) (size perChunk d.blockSize)
  return perChunk

/- A read fills the buffer from its start. -/
def fillBuffer (data : Bytes) : Handler Disk Unit := setBuffer (setBytes · 0 data)

def readData : Handler Disk Int := do
  checkReady
  let d ← getDevice
  match d.cache with
  | none => throw ⟨.mediumError,.readError⟩
  | some c =>
    match ← withFiles (fun c fs => c.readSectors fs (uint32 d.nextSector) d.sectorTransferCount) c with
    | none => throw ⟨.mediumError,.readError⟩
    | some data =>
      fillBuffer data
      modifyDevice fun d => { d with nextSector := d.nextSector + d.sectorTransferCount }
      return size d.sectorTransferCount d.blockSize

def storeLong : Handler Disk Unit := do
  let d ← getDevice
  let t ← getTransfer
  match d.cache with
  | some (.stream c) =>
    if !(← withStream (fun c fs => c.writeLong fs t.buffer d.nextSector t.chunkSize) c) then
      throw ⟨.mediumError,.writeFault⟩
  | _ => throw ⟨.mediumError,.writeFault⟩

def storeSectors : Handler Disk Unit := do
  let d ← getDevice
  let t ← getTransfer
  match d.cache with
  | none => throw ⟨.mediumError,.writeFault⟩
  | some c =>
    if !(← withFiles (fun c fs => c.writeSectors fs t.buffer (uint32 d.nextSector) d.sectorTransferCount) c) then
      throw ⟨.mediumError,.writeFault⟩

def writeData (length : Int) : Handler Disk Int := do
  checkReady
  let r ← getRequest
  if r.opcode = .writeLong10 ∨ r.opcode = .writeLong16 then
    storeLong
    return length
  if r.opcode ≠ .verify10 ∧ r.opcode ≠ .verify16 then storeSectors
  modifyDevice fun d => { d with nextSector := d.nextSector + d.sectorTransferCount }
  return length

def writeVerify (start count : Nat) (dataOut : Bool) : Handler Disk PhaseCall := do
  if dataOut then
    let perChunk ← prepareTransfer start count
    return .dataOut (size perChunk (← getDevice).blockSize)
  return .status

def write (mode : AccessMode) : Handler Disk PhaseCall := do
  super StorageDevice.checkWritePreconditions
  let (valid,start,count) ← checkAndGetStartAndCount mode
  writeVerify start count valid

def verify (mode : AccessMode) : Handler Disk PhaseCall := do
  let (_,start,count) ← checkAndGetStartAndCount mode
  flushCache
  writeVerify start count false

/- READ LONG and WRITE LONG need a stream: another cache is replaced for good. -/
def replaceByStream : Handler Disk LinuxCache := do
  flushCache
  modifyDevice fun d => { d with cachingMode := .linux }
  let _ ← initCache (← getDevice).filename
  let d ← getDevice
  return ⟨d.filename,d.blockSize,d.blocks,false,none⟩

def switchToStream : Handler Disk LinuxCache := do
  match (← getDevice).cache with
  | some (.stream c) => return c
  | _ => replaceByStream

def checkLongLength (length : Nat) : Handler Disk Unit := do
  let d ← getDevice
  if length ≠ d.blockSize then
    super (modifyDevice fun (p : PrimaryDevice) =>
      ({ p with ili := true }).setInformation ((length : Int) - d.blockSize))
    throw ⟨.illegalRequest,.invalidFieldInCdb⟩

def transferLong (sector length : Nat) (write : Bool) : Handler Disk PhaseCall := do
  let c ← switchToStream
  checkReady
  setTransferSize length length
  if write then
    modifyDevice fun d => { d with nextSector := sector }
    return .dataOut length
  setCurrentLength length
  match ← withStream (fun c fs => c.readLong fs sector length) c with
  | none => return .dataIn 0
  | some data =>
    fillBuffer data
    return .dataIn length

def readWriteLong (sector length : Nat) (write : Bool) : Handler Disk PhaseCall := do
  if write then super StorageDevice.checkWritePreconditions
  if length = 0 then return .status
  checkLongLength length
  transferLong sector length write

/-! The other commands. -/

def rezero : Handler Disk PhaseCall := do
  checkReady
  return .status

def formatUnit : Handler Disk PhaseCall := do
  checkReady
  if (← getRequest).cdbByte 1 &&& 0x10 ≠ 0 then throw ⟨.illegalRequest,.invalidFieldInCdb⟩
  return .status

def seek (mode : AccessMode) : Handler Disk PhaseCall := do
  let _ ← checkAndGetStartAndCount mode
  return .status

def synchronizeCache : Handler Disk PhaseCall := do
  flushCache
  return .status

def readDefectData10 : Handler Disk PhaseCall := do
  let allocationLength := min ((← getRequest).cdbInt16 7) 4
  setCurrentLength allocationLength
  setBuffer (setBytes · 0 (List.replicate allocationLength 0))
  return .dataIn allocationLength

def readCapacity10 : Handler Disk PhaseCall := do
  checkReady
  let d ← getDevice
  if d.blocks = 0 then throw ⟨.illegalRequest,.mediumNotPresent⟩
  let capacity := if 0xffffffff < d.blocks - 1 then 0xffffffff else d.blocks - 1
  setBuffer fun buf => setInt32 (setInt32 buf 0 capacity) 4 d.blockSize
  return .dataIn 8

def readCapacity16 : Handler Disk PhaseCall := do
  checkReady
  let d ← getDevice
  if d.blocks = 0 then throw ⟨.illegalRequest,.mediumNotPresent⟩
  setBuffer fun buf =>
    setInt32 (setInt64 (setBytes buf 0 (List.replicate 32 0)) 0 (d.blocks - 1)) 8 d.blockSize
  return .dataIn (min 32 ((← getRequest).cdbInt32 10) : Nat)

def readFormatCapacities : Handler Disk PhaseCall := do
  checkReady
  let d ← getDevice
  let sizes := if d.readOnly then [] else d.supportedBlockSizes
  let capacities := sizes.flatMap fun size =>
    bigEndian 4 (d.blockSize * d.blocks % 2^64 / size) ++ bigEndian 4 size
  let offset := 12 + sizes.length * 8
  setBuffer fun buf =>
    setInt32 (setBytes (setInt32 (setInt32 buf 4 (d.blocks % 2^32)) 8 d.blockSize) 12 capacities) 0 (offset - 4)
  return .dataIn (min offset ((← getRequest).cdbInt16 7) : Nat)

def readCapacity16ReadLong16 : Handler Disk PhaseCall := do
  let r ← getRequest
  if r.cdbByte 1 &&& 0x1f = 0x10 then readCapacity16
  else if r.cdbByte 1 &&& 0x1f = 0x11 then
    readWriteLong (← validateBlockAddress .rw16) (r.cdbInt16 12) false
  else throw ⟨.illegalRequest,.invalidFieldInCdb⟩

def readLong10 : Handler Disk PhaseCall := do
  readWriteLong (← validateBlockAddress .rw10) ((← getRequest).cdbInt16 7) false

def writeLong10 : Handler Disk PhaseCall := do
  readWriteLong (← validateBlockAddress .rw10) ((← getRequest).cdbInt16 7) true

def writeLong16 : Handler Disk PhaseCall := do
  readWriteLong (← validateBlockAddress .rw16) ((← getRequest).cdbInt16 12) true

section
variable {δ : Type} [Derives δ Disk]

/- ReadData is virtual. -/
def read (readData : Handler δ Int) (mode : AccessMode) : Handler δ PhaseCall := do
  let (valid,start,count) ← super (checkAndGetStartAndCount mode)
  if valid then
    let _ ← super (prepareTransfer start count)
    let d : Disk := base (← getDevice)
    setCurrentLength (size count d.blockSize)
    return .dataIn (← readData)
  return .status

def commands (readData : Handler δ Int) : List (ScsiCommand × Handler δ PhaseCall) := [
  (.rezero,super rezero),
  (.formatUnit,super formatUnit),
  (.reassignBlocks,super rezero),
  (.read6,read readData .rw6),
  (.write6,super (write .rw6)),
  (.seek6,super (seek .seek6)),
  (.readCapacity10,super readCapacity10),
  (.read10,read readData .rw10),
  (.write10,super (write .rw10)),
  (.readLong10,super readLong10),
  (.writeLong10,super writeLong10),
  (.writeLong16,super writeLong16),
  (.seek10,super (seek .seek10)),
  (.verify10,super (verify .rw10)),
  (.synchronizeCache10,super synchronizeCache),
  (.synchronizeCacheSpace16,super synchronizeCache),
  (.readDefectData10,super readDefectData10),
  (.read16,read readData .rw16),
  (.write16,super (write .rw16)),
  (.verify16,super (verify .rw16)),
  (.readCapacityReadLong16,super readCapacity16ReadLong16),
  (.readFormatCapacities,super readFormatCapacities)]

/- What the classes of disks leave as it is in Disk. -/
def virtual [Derives δ StorageDevice] (setUpModePages : Request → δ → Nat → Bool → Pages → Pages) :
    StorageDevice.Virtual δ where
  flushCache := super flushCache
  eject force := super (eject force)
  setUpModePages
  changeBlockSize size := super (changeBlockSize size)
  verifyBlockSizeChange requested temporary := super (StorageDevice.verifyBlockSizeChange requested temporary)
  blockSizeForDescriptor d changeable := if changeable then 0x0000ffff else (base d : StorageDevice).blockSize
  blockCountForDescriptor d := (base d : StorageDevice).blocks

end

/-! What the remote interface and the end of the emulation do with a disk. -/

/- CleanUp, before the device itself is destroyed. -/
def cleanUp : Handler Disk Unit := do
  flushCache
  super StorageDevice.unreserveFile

end Disk
end Scsi2Pi
