import Scsi2Pi.Controller
import Scsi2Pi.Disk

/-! The classes of disks: SCSI hard disks, SASI hard disks, CD-ROM and magneto-optical
drives. Each is a Disk with its own pages, identification and commands. -/
namespace Scsi2Pi
open Slices MemoryUtil Handler Derives

def inquiryInternal {δ : Type} [Derives δ PrimaryDevice] (type : DeviceType) (removable : PrimaryDevice → Bool) :
    Handler δ Bytes := do
  let d : PrimaryDevice := base (← getDevice)
  return PrimaryDevice.handleInquiry d type (removable d)

namespace ScsiHd

def formatPage (d : Disk) (changeable : Bool) : Bytes :=
  let buf := List.replicate 24 0
  if changeable then setInt16 buf 12 0x1ffc
  else
    let buf :=
      if d.ready then
        setInt16 (setInt16 (setInt16 (setInt16 (setInt16 (buf.set 3 0x08) 10 25) 12 d.blockSize) 14 1) 16 11) 18 20
      else buf
    buf.set 20 ((if d.removable then 0x20 else 0x00) ||| 0x40)

def drivePage (d : Disk) (changeable : Bool) : Bytes :=
  let buf := List.replicate 24 0
  if !changeable && d.ready then setInt16 ((setInt32 buf 0x01 (d.blocks / 8 / 25)).set 0x05 0x08) 0x14 7200 else buf

def setUpModePages (_ : Request) (d : Disk) (page : Nat) (changeable : Bool) (pages : Pages) : Pages :=
  ((((Disk.setUpModePages page changeable pages).setIf (pageAsked page 0x03) 3 (formatPage d changeable)).setIf
    (pageAsked page 0x04) 4 (drivePage d changeable)).setIf (pageAsked page 0x0c) 12 (List.replicate 24 0)).setIf
    (pageAsked page 0x25) 0x25 (List.replicate 25 0)

def inquiry : Handler Disk PhaseCall :=
  PrimaryDevice.inquiry (inquiryInternal .directAccess PrimaryDevice.removable)

def commands : List (ScsiCommand × Handler Disk PhaseCall) :=
  PrimaryDevice.commands inquiry (super PrimaryDevice.requestSense) ++ Disk.commands Disk.readData ++
    StorageDevice.commands (Disk.virtual setUpModePages) true true

def methods : Methods Disk where
  dispatch := StorageDevice.dispatch commands
  readData := Disk.readData
  writeData _ length := Disk.writeData length
  modeSelect := StorageDevice.modeSelect (Disk.virtual setUpModePages)

def productDataString (d : Disk) : String :=
  let capacity := d.blocks * d.blockSize % 2^64
  if 10485760000 ≤ capacity then s!"SCSI HD {capacity / 1073741824} GiB"
  else if 1048576 ≤ capacity then s!"SCSI HD {capacity / 1048576} MiB"
  else s!"SCSI HD {capacity / 1024} KiB"

/- Without removable media the capacity is part of the default product name. -/
def finalizeSetup (d : Disk) : Disk :=
  if d.removable then d
  else match d.toPrimaryDevice.setProductData "" (productDataString d) "" false with
    | .ok base => { d with toPrimaryDevice := base }
    | .error _ => d

def openFile (readOnlyFile : Bool) : Handler Disk Bool := do
  if !(← Disk.openFile 512 (· % 2^32) readOnlyFile) then return false
  modifyDevice finalizeSetup
  return true

end ScsiHd

namespace SasiHd

def inquiry : Handler Disk PhaseCall := do
  copyToBuffer [0,0]
  return .dataIn 2

/- Four bytes are sent, and copied unless the allocation length is smaller. -/
def requestSense : Handler Disk PhaseCall := do
  let r ← getRequest
  let d ← getDevice
  let allocationLength := if r.cdbByte 4 = 0 then 4 else r.cdbByte 4
  let buf := [d.senseKey.code,UInt8.ofNat (d.lun * 32),0,0] ++ List.replicate (allocationLength - 4) 0
  copyToBuffer (buf.take allocationLength)
  return .dataIn 4

def setUpModePages (_ : Request) (_ : Disk) (page : Nat) (changeable : Bool) (pages : Pages) : Pages :=
  Disk.setUpModePages page changeable pages

def commands : List (ScsiCommand × Handler Disk PhaseCall) :=
  PrimaryDevice.commands inquiry requestSense ++ Disk.commands Disk.readData ++
    StorageDevice.commands (Disk.virtual setUpModePages) false false

def methods : Methods Disk where
  dispatch := StorageDevice.dispatch commands
  readData := Disk.readData
  writeData _ length := Disk.writeData length
  modeSelect := StorageDevice.modeSelect (Disk.virtual setUpModePages)

def openFile (readOnlyFile : Bool) : Handler Disk Bool := Disk.openFile 256 (· % 2^32) readOnlyFile

end SasiHd

structure ScsiCd extends Disk where
  firstLba : Nat := 0
  lastLba : Nat := 0
  trackInitialized : Bool := false

instance : Derives ScsiCd Disk :=
  ⟨fun d => d.toDisk,fun d b => { d with toDisk := b },fun _ _ => rfl,fun _ => rfl,fun _ _ _ => rfl⟩

instance : Derives ScsiCd StorageDevice :=
  ⟨fun d => d.toStorageDevice,fun d b => { d with toStorageDevice := b },fun _ _ => rfl,fun _ => rfl,fun _ _ _ => rfl⟩

instance : Derives ScsiCd PrimaryDevice :=
  ⟨fun d => d.toPrimaryDevice,fun d b => { d with toPrimaryDevice := b },fun _ _ => rfl,fun _ => rfl,fun _ _ _ => rfl⟩

namespace ScsiCd

def createDataTrack : Handler ScsiCd Unit :=
  modifyDevice fun d => { d with
    firstLba := 0
    lastLba := uint32 (int32 d.blocks - 1)
    trackInitialized := true }

def lbaToMsf (lba : Nat) : Bytes :=
  let m := lba / (75*60)
  let s := lba % (75*60) / 75 + 2
  let f := lba % (75*60) % 75
  if 60 ≤ s then [0x00,UInt8.ofNat (m+1),UInt8.ofNat (s-60),UInt8.ofNat f]
  else [0x00,UInt8.ofNat m,UInt8.ofNat s,UInt8.ofNat f]

def readToc : Handler ScsiCd PhaseCall := do
  super PrimaryDevice.checkReady
  let r ← getRequest
  let d ← getDevice
  let track := r.cdbByte 6
  if 1 < track ∧ track ≠ 0xaa then throw ⟨.illegalRequest,.invalidFieldInCdb⟩
  if track ≠ 0 ∧ !d.trackInitialized ∧ track ≠ 0xaa then throw ⟨.illegalRequest,.invalidFieldInCdb⟩
  let leadOut := track ≠ 0 ∧ !d.trackInitialized
  let number := if leadOut then 0xaa else 1
  let address := if leadOut then (d.lastLba + 1) % 2^32 else d.firstLba
  let length := min (r.cdbInt16 7) 12
  setBuffer fun buf =>
    let buf := setInt16 (setBytes buf 0 (List.replicate length 0)) 0 10
    let buf := setBytes (setBytes buf 2 [1,1]) 5 [0x14,number]
    if r.cdbByte 1 &&& 0x02 ≠ 0 then setBytes buf 8 (lbaToMsf address) else setInt16 buf 10 address
  return .dataIn length

def initializeTrack : Handler ScsiCd Unit := do
  modifyDevice fun d => { d with blocks := uint32 (d.lastLba - d.firstLba + 1) }
  let d ← getDevice
  if !(← super (Disk.initCache d.filename)) then throw ⟨.mediumError,.readError⟩
  modifyDevice fun d => { d with trackInitialized := true }

def readData : Handler ScsiCd Int := do
  super PrimaryDevice.checkReady
  let d ← getDevice
  let lba := uint32 d.nextSector
  if lba < d.firstLba ∨ d.lastLba < lba then throw ⟨.illegalRequest,.lbaOutOfRange⟩
  if !d.trackInitialized then initializeTrack
  super Disk.readData

def setUpModePages (_ : Request) (_ : ScsiCd) (page : Nat) (changeable : Bool) (pages : Pages) : Pages :=
  (Disk.setUpModePages page changeable pages).setIf (pageAsked page 0x0d) 13
    (if changeable then List.replicate 8 0 else [0,0,0,0x05,0,60,0,75])

def inquiry : Handler ScsiCd PhaseCall := PrimaryDevice.inquiry (inquiryInternal .cdDvd fun _ => true)

def commands : List (ScsiCommand × Handler ScsiCd PhaseCall) :=
  PrimaryDevice.commands inquiry (super PrimaryDevice.requestSense) ++ (.readToc,readToc) :: Disk.commands readData ++
    StorageDevice.commands (Disk.virtual setUpModePages) true false

def methods : Methods ScsiCd where
  dispatch := StorageDevice.dispatch commands
  readData := readData
  writeData _ length := super (Disk.writeData length)
  modeSelect length := do
    StorageDevice.modeSelect (Disk.virtual setUpModePages) length
    createDataTrack

/- The opened drive reports the medium that has become ready. -/
def openFile (readOnlyFile : Bool) : Handler ScsiCd Bool := do
  modifyDevice fun d => { d with trackInitialized := false }
  if !(← super (Disk.openFile 2048 id readOnlyFile)) then return false
  modifyDevice fun d => { d with readOnly := true, protectable := false }
  createDataTrack
  modifyDevice fun d => if d.ready then { d with attn := true } else d
  return true

end ScsiCd

namespace OpticalMemory

/- The capacities with a fixed sector size and number of sectors. -/
def geometries : List (Nat × Nat × Nat) := [
  (512*248826,512,248826),
  (512*446325,512,446325),
  (512*1041500,512,1041500),
  (2048*310352,2048,310352)]

/- Spare blocks and bands of the known media. -/
def spareAndBands (blockSize blocks : Nat) : Nat × Nat :=
  if blockSize = 512 then
    if blocks = 248826 then (1024,1)
    else if blocks = 446325 then (1025,10)
    else if blocks = 1041500 then (2250,18)
    else (0,0)
  else if blockSize = 2048 then
    if blocks = 310352 then (2244,11)
    else if blocks = 605846 then (4437,18)
    else (0,0)
  else (0,0)

def vendorPage (d : Disk) (changeable : Bool) : Bytes :=
  let buf := List.replicate 12 0
  if !changeable && d.ready then
    let (spare,bands) := spareAndBands d.blockSize d.blocks
    setInt16 (setInt16 (setInt32 buf 4 (d.blocks % 2^32)) 8 spare) 10 bands
  else buf

def setUpModePages (_ : Request) (d : Disk) (page : Nat) (changeable : Bool) (pages : Pages) : Pages :=
  ((Disk.setUpModePages page changeable pages).setIf (pageAsked page 0x06) 6 (List.replicate 4 0)).setIf
    (pageAsked page 0x20) 32 (vendorPage d changeable)

def inquiry : Handler Disk PhaseCall := PrimaryDevice.inquiry (inquiryInternal .opticalMemory fun _ => true)

def commands : List (ScsiCommand × Handler Disk PhaseCall) :=
  PrimaryDevice.commands inquiry (super PrimaryDevice.requestSense) ++ Disk.commands Disk.readData ++
    StorageDevice.commands (Disk.virtual setUpModePages) true true

def methods : Methods Disk where
  dispatch := StorageDevice.dispatch commands
  readData := Disk.readData
  writeData _ length := Disk.writeData length
  modeSelect := StorageDevice.modeSelect (Disk.virtual setUpModePages)

def openFile (readOnlyFile : Bool) : Handler Disk Bool := do
  let d ← getDevice
  let opened ← match (d.getFileSize (← getWorld)).bind (fun size => geometries.lookup size) with
    | some (size,count) => do
      modifyDevice fun d => { d with blockSize := size, blocks := count }
      Disk.validateFile readOnlyFile
    | none => Disk.openFile 512 id readOnlyFile
  if !opened then return false
  modifyDevice fun d => if d.ready then { d with attn := true } else d
  return true

end OpticalMemory
end Scsi2Pi
