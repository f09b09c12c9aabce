import Scsi2Pi.PageHandler

/-! StorageDevice: devices with an image file. The virtual functions that its
commands call are those of the class the device really has. -/
namespace Scsi2Pi
open Slices MemoryUtil

structure StorageDevice extends PrimaryDevice where
  blocks : Nat := 0
  supportedBlockSizes : List Nat
  configuredBlockSize : Nat := 0
  blockSize : Nat := 0
  filename : String := ""
  lastFilename : String := ""
  mediumChanged : Bool := false
  customModePages : Pages := []

instance : Derives StorageDevice PrimaryDevice :=
  ⟨fun d => d.toPrimaryDevice,fun d b => { d with toPrimaryDevice := b },fun _ _ => rfl,fun _ => rfl,fun _ _ _ => rfl⟩

namespace StorageDevice
open Handler Derives

structure Virtual (δ : Type) where
  flushCache : Handler δ Unit
  eject : Bool → Handler δ Bool
  setUpModePages : Request → δ → Nat → Bool → Pages → Pages
  changeBlockSize : Nat → Handler δ Unit
  verifyBlockSizeChange : Nat → Bool → Handler δ Nat
  blockSizeForDescriptor : δ → Bool → Nat
  blockCountForDescriptor : δ → Nat

/-! Opening a file. A false result is the IoException of the source. -/

def setBlockSize (d : StorageDevice) (size : Nat) : Option StorageDevice :=
  if size ∈ d.supportedBlockSizes ∨ size = d.configuredBlockSize then some { d with blockSize := size } else none

def getFileSize (d : StorageDevice) (w : World) : Option Nat := (w.files d.filename).map List.length

def validateFile (readOnlyFile : Bool) : Handler StorageDevice Bool := do
  let d ← getDevice
  match d.getFileSize (← getWorld) with
  | none => return false
  | some size =>
    if 2^41 < size then return false
    if readOnlyFile then
      modifyDevice fun d => { d with
        toPrimaryDevice := { d.toPrimaryDevice with readOnly := true, protectable := false }.setProtected false }
    modifyDevice fun d => { d with stopped := false, removed := false, locked := false, ready := true }
    return true

/-! Files. -/

def reserveFile (d : StorageDevice) (targetId : Int) (w : World) : Bool × World :=
  if d.filename.isEmpty || (w.reservedFiles d.filename).isSome then (false,w)
  else (true,{ w with reservedFiles := Function.update w.reservedFiles d.filename (some (targetId,d.lun)) })

def unreserveFile : Handler StorageDevice Unit := do
  let d ← getDevice
  let w ← getWorld
  setWorld { w with reservedFiles := Function.update w.reservedFiles d.filename none }
  modifyDevice fun d => { d with filename := "" }

def checkWritePreconditions : Handler StorageDevice Unit := do
  let d ← getDevice
  if d.writeProtected then throw ⟨.dataProtect,.writeProtected⟩

/- Eject of PrimaryDevice is that of Device. -/
def primaryEject (force : Bool) : Handler StorageDevice Bool := do
  let d ← getDevice
  let (status,base) := d.toPrimaryDevice.eject force
  modifyDevice fun d => { d with toPrimaryDevice := base }
  return status

/- What StorageDevice::Eject does around FlushCache. -/
def forgetFile : Handler StorageDevice Unit := do
  modifyDevice fun d => { d with lastFilename := d.filename }
  unreserveFile

/-! Block sizes. -/

def verifyBlockSizeChange (requested : Nat) (temporary : Bool) : Handler StorageDevice Nat := do
  let d ← getDevice
  if requested = d.blockSize then return requested
  if requested ≠ 0 ∧ requested % 4 = 0 ∧ temporary then return requested
  throw ⟨.illegalRequest,.invalidFieldInParameterList⟩

def changeBlockSize (size : Nat) : Handler StorageDevice Unit := do
  let d ← getDevice
  if size = 0 ∨ size ∉ d.supportedBlockSizes ∧ size % 4 ≠ 0 then
    throw ⟨.illegalRequest,.invalidFieldInParameterList⟩
  if size ≠ d.blockSize then
    modifyDevice fun d => { d with
      blockSize := size
      blocks := d.blockSize * d.blocks % 2^64 / size }

/-! Mode pages. -/

def setUpModePages (page : Nat) (pages : Pages) : Pages :=
  let errorRecovery := [0,0,0x26,1,0,0,0,0,1,0,0,218]
  ((pages.setIf (pageAsked page 0x01) 1 errorRecovery).setIf (pageAsked page 0x02) 2 (List.replicate 16 0)).setIf
    (pageAsked page 0x0a) 10 (List.replicate 8 0)

section
variable {δ : Type} [Derives δ StorageDevice] (v : Virtual δ)

def support : PageHandler.Support δ :=
  ⟨v.setUpModePages,fun d => (base d : StorageDevice).customModePages⟩

def saturate (count : Nat) : Nat := if count ≤ 0xffffffff then count else 0xffffffff

/- An empty result of AddModePages makes the size field wrap around. -/
def modeSense6 : Handler δ Nat := do
  let r ← getRequest
  if r.cdbByte 3 ≠ 0 then throw ⟨.illegalRequest,.invalidFieldInCdb⟩
  let t ← getTransfer
  let d ← getDevice
  let s : StorageDevice := base d
  let length := min t.buffer.length (r.cdbByte 4)
  setBuffer (setBytes · 0 (List.replicate length 0))
  if s.writeProtected then setBuffer (setBytes · 2 [0x80])
  let descriptor := r.cdbByte 1 &&& 0x08 = 0 ∧ s.ready
  if descriptor then
    setBuffer fun buf =>
      setInt32 (setInt32 (setBytes buf 3 [0x08]) 4 (saturate (v.blockCountForDescriptor d))) 8
        (v.blockSizeForDescriptor d (r.cdbByte 2 &&& 0x40 ≠ 0))
  let size := if descriptor then 12 else 4
  let size ← if r.cdbByte 2 &&& 0x3f ≠ 0 then PageHandler.addModePages (support v) size length 255 else pure size
  setBuffer (setBytes · 0 [UInt8.ofNat (size + 255)])
  return size

def modeSense10 : Handler δ Nat := do
  let r ← getRequest
  if r.cdbByte 3 ≠ 0 then throw ⟨.illegalRequest,.invalidFieldInCdb⟩
  let t ← getTransfer
  let d ← getDevice
  let s : StorageDevice := base d
  let length := min t.buffer.length (r.cdbInt16 7)
  setBuffer (setBytes · 0 (List.replicate length 0))
  if s.writeProtected then setBuffer (setBytes · 3 [0x80])
  let descriptor := r.cdbByte 1 &&& 0x08 = 0 ∧ s.ready
  let long := r.cdbByte 1 &&& 0x10 ≠ 0
  let blockSize := v.blockSizeForDescriptor d (r.cdbByte 2 &&& 0x40 ≠ 0)
  if descriptor then
    setBuffer fun buf =>
      if long then
        setInt32 (setInt64 (setBytes (setBytes buf 4 [0x01]) 7 [0x10]) 8 (v.blockCountForDescriptor d)) 20 blockSize
      else
        setInt32 (setInt32 (setBytes buf 7 [0x08]) 8
          (if v.blockCountForDescriptor d ≤ 0xffffffff then s.blocks % 2^32 else 0xffffffff)) 12 blockSize
  let size := if descriptor then (if long then 24 else 16) else 8
  let size ← if r.cdbByte 2 &&& 0x3f ≠ 0 then PageHandler.addModePages (support v) size length 65535 else pure size
  setBuffer (setInt16 · 0 ((size + 65534) % 65536))
  return size

/- The offset of the page data, and the block size of the first block descriptor. -/
def evaluateBlockDescriptors (length : Nat) (size : Nat) : Handler δ (Nat × Nat) := do
  let r ← getRequest
  let t ← getTransfer
  let required := if r.opcode = .modeSelect10 then 8 else 4
  if length < required then throw ⟨.illegalRequest,.parameterListLengthError⟩
  let descriptor := if r.opcode = .modeSelect10 then getInt16 t.buffer 6 else byteAt t.buffer 3
  if length < descriptor + required then throw ⟨.illegalRequest,.parameterListLengthError⟩
  if descriptor ≠ 0 ∧ required + 8 ≤ length then
    let size ← v.verifyBlockSizeChange (getInt16 t.buffer (required + 6)) true
    return (descriptor + required,size)
  return (descriptor + required,size)

/- Each page takes at least two bytes, so length passes are enough. -/
def selectPages (pages : Pages) : Nat → Nat → Nat → Handler δ Unit
  | 0, _, _ => pure ()
  | fuel+1, offset, length => do
    if length = 0 then return
    let buf := (← getTransfer).buffer
    let pageCode := byteAt buf offset
    match pages.lookup pageCode with
    | none => throw ⟨.illegalRequest,.invalidFieldInParameterList⟩
    | some data =>
      if pageCode = 0 then return
      if length < 2 then throw ⟨.illegalRequest,.parameterListLengthError⟩
      let pageSize := byteAt buf (offset+1) + 2
      if data.length ≠ pageSize ∨ length < pageSize then throw ⟨.illegalRequest,.invalidFieldInParameterList⟩
      if pageCode = 0x03 then
        let _ ← v.verifyBlockSizeChange (getInt16 buf (offset+12)) false
      else if pageCode ≠ 0x01 ∧ pageCode ≠ 0x07 ∧ pageCode ≠ 0x08 then
        throw ⟨.illegalRequest,.invalidFieldInParameterList⟩
      selectPages pages fuel (offset+pageSize) (length-pageSize)

/- Without PF the parameters are vendor-specific and ignored. -/
def selectModePages (length offset size : Nat) : Handler δ Unit := do
  let r ← getRequest
  if r.cdbByte 1 &&& 0x10 = 0 then return
  let pages := PageHandler.pagesOf (support v) r (← getDevice) 0x3f true
  selectPages v pages length offset (length-offset)
  v.changeBlockSize size

def modeSelect (length : Int) : Handler δ Unit := do
  if length = 0 then return
  let current : StorageDevice := base (← getDevice)
  let (offset,size) ← evaluateBlockDescriptors v length.toNat current.blockSize
  if size ≠ 0 then super (modifyDevice fun (d : StorageDevice) => { d with blockSize := size })
  selectModePages v length.toNat offset size

/-! Commands. -/

/- The two directions of START STOP UNIT. -/
def stopMedium (load : Bool) : Handler δ Unit := do
  if load then
    let d : StorageDevice := base (← getDevice)
    if d.locked then throw ⟨.illegalRequest,.mediumLoadOrEjectFailed⟩
    if !(← v.eject false) then throw ⟨.illegalRequest,.mediumLoadOrEjectFailed⟩
  else v.flushCache

def startMedium (load : Bool) : Handler δ Unit := do
  let r ← getRequest
  let d : StorageDevice := base (← getDevice)
  if load ∧ d.lastFilename ≠ "" then
    super (modifyDevice fun (d : StorageDevice) => { d with filename := d.lastFilename })
    let (reserved,w) := { d with filename := d.lastFilename }.reserveFile r.targetId (← getWorld)
    if !reserved then throw ⟨.illegalRequest,.mediumLoadOrEjectFailed⟩
    setWorld w
    super (modifyDevice fun (d : StorageDevice) => { d with mediumChanged := true })

def startStopUnit : Handler δ PhaseCall := do
  let r ← getRequest
  let start := r.cdbByte 4 &&& 0x01 ≠ 0
  let load := r.cdbByte 4 &&& 0x02 ≠ 0
  if !load then super (modifyDevice fun (d : StorageDevice) => { d with stopped := !start })
  if start then startMedium load else stopMedium v load
  return .status

def preventAllowMediumRemoval : Handler StorageDevice PhaseCall := do
  let r ← getRequest
  super PrimaryDevice.checkReady
  modifyDevice fun d => { d with locked := r.cdbByte 4 &&& 0x01 ≠ 0 }
  return .status

def commands (supportsModeSelect supportsSaveParameters : Bool) : List (ScsiCommand × Handler δ PhaseCall) :=
  (.startStop,startStopUnit v) :: (.preventAllowMediumRemoval,super preventAllowMediumRemoval) ::
    PageHandler.commands (modeSense6 v) (modeSense10 v) supportsModeSelect supportsSaveParameters

/- A media change is reported on the next access. -/
def reportMediumChange (cmd : ScsiCommand) : Handler StorageDevice Unit := do
  let d ← getDevice
  if cmd ≠ .inquiry ∧ cmd ≠ .requestSense ∧ d.mediumChanged then
    modifyDevice fun d => { d with mediumChanged := false }
    throw ⟨.unitAttention,.notReadyToReadyChange⟩

def dispatch (commands : List (ScsiCommand × Handler δ PhaseCall)) (cmd : ScsiCommand) : Handler δ PhaseCall := do
  super (reportMediumChange cmd)
  Handler.dispatch commands cmd

end
end StorageDevice
end Scsi2Pi
