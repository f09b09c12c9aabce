import Scsi2Pi.DaynaPort
import Scsi2Pi.HostServices
import Scsi2Pi.Printer
import Scsi2Pi.ScsiGeneric
import Scsi2Pi.Tape

/-! A device of any class, as the controllers and the remote interface see it:
calls of its virtual functions run those of its class. -/
namespace Scsi2Pi
open Handler Derives S2pUtil

inductive AnyDevice where
  | scsiHd (d : Disk)
  | sasiHd (d : Disk)
  | opticalMemory (d : Disk)
  | scsiCd (d : ScsiCd)
  | tape (d : Tape)
  | printer (d : Printer)
  | daynaPort (d : DaynaPort)
  | hostServices (d : HostServices)
  | scsiGeneric (d : ScsiGeneric)

namespace AnyDevice

def primary : AnyDevice → PrimaryDevice
  | .scsiHd d | .sasiHd d | .opticalMemory d => d.toPrimaryDevice
  | .scsiCd d => d.toPrimaryDevice
  | .tape d => d.toPrimaryDevice
  | .printer d => d.toPrimaryDevice
  | .daynaPort d => d.toPrimaryDevice
  | .hostServices d => d.toPrimaryDevice
  | .scsiGeneric d => d.toPrimaryDevice

def setPrimary (any : AnyDevice) (b : PrimaryDevice) : AnyDevice :=
  match any with
  | .scsiHd d => .scsiHd (setBase d b)
  | .sasiHd d => .sasiHd (setBase d b)
  | .opticalMemory d => .opticalMemory (setBase d b)
  | .scsiCd d => .scsiCd (setBase d b)
  | .tape d => .tape (setBase d b)
  | .printer d => .printer (setBase d b)
  | .daynaPort d => .daynaPort (setBase d b)
  | .hostServices d => .hostServices (setBase d b)
  | .scsiGeneric d => .scsiGeneric (setBase d b)

instance : Derives AnyDevice PrimaryDevice where
  base := primary
  setBase := setPrimary
  baseSet any b := by cases any <;> rfl
  setBaseSelf any := by cases any <;> rfl
  setBaseTwice any b b' := by cases any <;> rfl

/- The devices with image file support. -/
def storage : AnyDevice → Option StorageDevice
  | .scsiHd d | .sasiHd d | .opticalMemory d => some d.toStorageDevice
  | .scsiCd d => some d.toStorageDevice
  | .tape d => some d.toStorageDevice
  | .printer _ | .daynaPort _ | .hostServices _ | .scsiGeneric _ => none

def supportsImageFile (any : AnyDevice) : Bool := any.storage.isSome

def mapStorage (any : AnyDevice) (f : StorageDevice → StorageDevice) : AnyDevice :=
  match any with
  | .scsiHd d => .scsiHd { d with toStorageDevice := f d.toStorageDevice }
  | .sasiHd d => .sasiHd { d with toStorageDevice := f d.toStorageDevice }
  | .opticalMemory d => .opticalMemory { d with toStorageDevice := f d.toStorageDevice }
  | .scsiCd d => .scsiCd { d with toStorageDevice := f d.toStorageDevice }
  | .tape d => .tape { d with toStorageDevice := f d.toStorageDevice }
  | other => other

/-! Calls of virtual functions. -/

def within {δ α : Type} (put : δ → AnyDevice) (h : Handler δ α) (d : δ) : Handler AnyDevice α :=
  fun r s => let (result,t) := h r ⟨d,s.transfer,s.world⟩; (result,⟨put t.device,t.transfer,t.world⟩)

def virtual {α : Type} (f : {δ : Type} → Methods δ → Handler δ α) : Handler AnyDevice α := do
  match ← getDevice with
  | .scsiHd d => within .scsiHd (f ScsiHd.methods) d
  | .sasiHd d => within .sasiHd (f SasiHd.methods) d
  | .opticalMemory d => within .opticalMemory (f OpticalMemory.methods) d
  | .scsiCd d => within .scsiCd (f ScsiCd.methods) d
  | .tape d => within .tape (f Tape.methods) d
  | .printer d => within .printer (f Printer.methods) d
  | .daynaPort d => within .daynaPort (f DaynaPort.methods) d
  | .hostServices d => within .hostServices (f HostServices.methods) d
  | .scsiGeneric d => within .scsiGeneric (f ScsiGeneric.methods) d

def methods : Methods AnyDevice where
  dispatch cmd := virtual fun m => m.dispatch cmd
  readData := virtual fun m => m.readData
  writeData offset length := virtual fun m => m.writeData offset length
  modeSelect length := virtual fun m => m.modeSelect length

/- Eject of Device, for the devices that do not override it. -/
def ejectBase (force : Bool) : Handler PrimaryDevice Bool := do
  let (status,d) := (← getDevice).eject force
  modifyDevice fun _ => d
  return status

def eject (force : Bool) : Handler AnyDevice Bool := do
  match ← getDevice with
  | .scsiHd d => within .scsiHd (Disk.eject force) d
  | .sasiHd d => within .sasiHd (Disk.eject force) d
  | .opticalMemory d => within .opticalMemory (Disk.eject force) d
  | .scsiCd d => within .scsiCd (super (Disk.eject force)) d
  | .tape d => within .tape (Tape.eject force) d
  | .printer d => within .printer (super (ejectBase force)) d
  | .daynaPort d => within .daynaPort (super (ejectBase force)) d
  | .hostServices d => within .hostServices (super (ejectBase force)) d
  | .scsiGeneric d => within .scsiGeneric (super (ejectBase force)) d

inductive OpenResult where
  | opened
  | ioError
  | parserError (message : String)
  deriving DecidableEq, Repr

def opened : Bool → OpenResult
  | true => .opened
  | false => .ioError

/- An invalid maximum file size is reported after an invalid block size. -/
def openTape (readOnlyFile : Bool) : Handler Tape OpenResult := do
  let d ← getDevice
  let size := if d.configuredBlockSize ≠ 0 then d.configuredBlockSize else 512
  let param := (d.params.lookup "append").getD ""
  let append := parseAsUnsignedInt param
  if (d.setBlockSize size).isNone then return .ioError
  if append = -1 then return .parserError s!"Invalid maximum file size: '{param}'"
  if append < 0 then return .ioError
  return opened (← Tape.openFile append.toNat readOnlyFile)

def openFile (readOnlyFile : Bool) : Handler AnyDevice OpenResult := do
  match ← getDevice with
  | .scsiHd d => return opened (← within .scsiHd (ScsiHd.openFile readOnlyFile) d)
  | .sasiHd d => return opened (← within .sasiHd (SasiHd.openFile readOnlyFile) d)
  | .opticalMemory d => return opened (← within .opticalMemory (OpticalMemory.openFile readOnlyFile) d)
  | .scsiCd d => return opened (← within .scsiCd (ScsiCd.openFile readOnlyFile) d)
  | .tape d => within .tape (openTape readOnlyFile) d
  | .printer _ | .daynaPort _ | .hostServices _ | .scsiGeneric _ => return .opened

/- CleanUp and the end of the object: the cache of a disk is destroyed with it. -/
def cleanUp : Handler AnyDevice Unit := do
  match ← getDevice with
  | .scsiHd d => within .scsiHd (do Disk.cleanUp; Disk.dropCache) d
  | .sasiHd d => within .sasiHd (do Disk.cleanUp; Disk.dropCache) d
  | .opticalMemory d => within .opticalMemory (do Disk.cleanUp; Disk.dropCache) d
  | .scsiCd d => within .scsiCd (super (do Disk.cleanUp; Disk.dropCache)) d
  | .tape d => within .tape (super StorageDevice.unreserveFile) d
  | .printer d => within .printer Printer.cleanUp d
  | .daynaPort _ | .hostServices _ | .scsiGeneric _ => return

/-! Configuration. -/

def validateBlockSize (any : AnyDevice) (size : Nat) : Bool :=
  match any with
  | .scsiHd d => if d.removable then size ∈ d.supportedBlockSizes else size ≠ 0 && size % 4 = 0
  | .tape _ => size ≠ 0 && size % 4 = 0
  | _ => any.storage.any fun s => size ∈ s.supportedBlockSizes

def setConfiguredBlockSize (any : AnyDevice) (size : Nat) : Option AnyDevice :=
  if any.validateBlockSize size then some (any.mapStorage fun s => { s with configuredBlockSize := size })
  else none

def setCachingMode (any : AnyDevice) (mode : CachingMode) : AnyDevice :=
  match any with
  | .scsiHd d => .scsiHd { d with cachingMode := mode }
  | .sasiHd d => .sasiHd { d with cachingMode := mode }
  | .opticalMemory d => .opticalMemory { d with cachingMode := mode }
  | .scsiCd d => .scsiCd { d with toDisk := { d.toDisk with cachingMode := mode } }
  | other => other

/- The product data of a SCSG device are those that the SG driver reports. -/
def setProductData (any : AnyDevice) (vendor product revision : String) : Except String AnyDevice :=
  match any with
  | .scsiGeneric _ =>
    if vendor.isEmpty && product.isEmpty && revision.isEmpty then .ok any
    else .error "The product data of SCSG can't be changed"
  | _ => (any.primary.setProductData vendor product revision true).map any.setPrimary

def setScsiLevel (any : AnyDevice) (level : ScsiLevel) : Option AnyDevice :=
  (any.primary.setScsiLevel level).map any.setPrimary

end AnyDevice
end Scsi2Pi
