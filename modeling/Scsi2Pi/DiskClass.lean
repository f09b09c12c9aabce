import Scsi2Pi.AnyDevice

/-! The classes of disks have the commands of Disk in common. What is proved for
one class description holds for every disk, whatever its class. -/
namespace Scsi2Pi
open Handler Derives Eff

theorem Handler.superRan {δ β α : Type} [Derives δ β] {h : Handler β α} {r : Request} {s : HandlerState δ}
    {result : Except ScsiException α} {t : HandlerState β}
    (ran : h r ⟨base s.device,s.transfer,s.world⟩ = (result,t)) :
    super h r s = (result,⟨setBase s.device t.device,t.transfer,t.world⟩) := by
  simp only [super,zoom,ran]

theorem Handler.getDeviceRan {δ : Type} (r : Request) (s : HandlerState δ) :
    (getDevice : Handler δ δ) r s = (.ok s.device,s) := rfl

theorem Handler.setCurrentLengthRan {δ : Type} (length : Int) (r : Request) (s : HandlerState δ) :
    (setCurrentLength length : Handler δ Unit) r s =
      (.ok (),{ s with transfer := s.transfer.setCurrentLength length }) := rfl

namespace AnyDevice

def disk : AnyDevice → Option Disk
  | .scsiHd d | .sasiHd d | .opticalMemory d => some d
  | .scsiCd d => some d.toDisk
  | .tape _ | .printer _ | .daynaPort _ | .hostServices _ | .scsiGeneric _ => none

theorem withinRan {δ α : Type} {put : δ → AnyDevice} {h : Handler δ α} {d : δ} {r : Request} {s : HandlerState AnyDevice}
    {result : Except ScsiException α} {t : HandlerState δ} (ran : h r ⟨d,s.transfer,s.world⟩ = (result,t)) :
    within put h d r s = (result,⟨put t.device,t.transfer,t.world⟩) := by
  unfold within
  rw [ran]

def setDisk (any : AnyDevice) (d : Disk) : AnyDevice :=
  match any with
  | .scsiHd _ => .scsiHd d
  | .sasiHd _ => .sasiHd d
  | .opticalMemory _ => .opticalMemory d
  | .scsiCd cd => .scsiCd { cd with toDisk := d }
  | other => other

end AnyDevice

theorem PrimaryDevice.checkReadyWp {r : Request} {s : HandlerState PrimaryDevice} {Q : Unit → HandlerState PrimaryDevice → Prop}
    {E : ScsiException → HandlerState PrimaryDevice → Prop} (ready : Q () s) (busy : ∀ e d, E e { s with device := d }) :
    wp checkReady r s Q E := by
  unfold checkReady
  simp only [wpBind,wpGetDevice,wpIte,wpModifyDevice,wpThrow,wpPure]
  exact ⟨fun _ => busy _ _,fun _ => ⟨fun _ => busy _ _,fun _ => ⟨fun _ => busy _ _,fun _ => ready⟩⟩⟩

namespace Disk

/- What a successful ReadData does to the fields of the transfer. -/
structure DataRead (d d' : Disk) (t t' : Transfer) (n : Int) : Prop where
  length : n = size d.sectorTransferCount d.blockSize
  next : d'.nextSector = d.nextSector + d.sectorTransferCount
  perCall : d'.sectorTransferCount = d.sectorTransferCount
  blockSize : d'.blockSize = d.blockSize
  remaining : t'.remainingLength = t.remainingLength
  chunk : t'.chunkSize = t.chunkSize

variable {r : Request}

theorem readDataReads (s : HandlerState Disk) : wp readData r s
    (fun n t => DataRead s.device t.device s.transfer t.transfer n) fun _ _ => True := by
  unfold readData checkReady
  rw [wpBind,wpSuper]
  refine PrimaryDevice.checkReadyWp ?_ fun _ _ => trivial
  rw [setBaseSelf,wpBind,wpGetDevice]
  cases s.device.cache with
  | none => trivial
  | some c =>
    unfold withFiles
    simp only [wpBind,wpGetWorld,wpModifyDevice,wpSetWorld,wpPure]
    cases (c.readSectors s.world.files (uint32 s.device.nextSector) s.device.sectorTransferCount).1 with
    | none => trivial
    | some data => exact ⟨rfl,rfl,rfl,rfl,rfl,rfl⟩

end Disk

namespace ScsiCd

theorem initializeTrackKeeps (s : HandlerState ScsiCd) : wp initializeTrack r s
    (fun _ t => t.device.nextSector = s.device.nextSector ∧ t.device.sectorTransferCount = s.device.sectorTransferCount ∧
      t.device.blockSize = s.device.blockSize ∧ t.transfer = s.transfer) fun _ _ => True := by
  unfold initializeTrack Disk.initCache Disk.dropCache
  simp only [wpBind,wpModifyDevice,wpGetDevice,wpSuper,wpGetWorld,wpIte,wpThrow]
  cases s.device.cache with
  | none => simp [base,setBase]
  | some c => simp [base,setBase]

theorem readDataReads (s : HandlerState ScsiCd) : wp readData r s
    (fun n t => Disk.DataRead s.device.toDisk t.device.toDisk s.transfer t.transfer n) fun _ _ => True := by
  unfold readData
  rw [wpBind,wpSuper]
  refine PrimaryDevice.checkReadyWp ?_ fun _ _ => trivial
  rw [setBaseSelf]
  simp only [wpBind,wpGetDevice,wpIte,wpThrow]
  refine ⟨fun _ => trivial,fun _ => ⟨fun _ => ?_,fun _ => ?_⟩⟩
  · refine wpMono (initializeTrackKeeps s) (fun _ t kept => ?_) fun _ _ _ => trivial
    obtain ⟨next,perCall,blockSize,transfer⟩ := kept
    refine (wpSuper _).mpr (wpMono (Disk.readDataReads _) (fun n u reads => ?_) fun _ _ _ => trivial)
    exact ⟨reads.length.trans (by rw [← perCall,← blockSize]; rfl),reads.next.trans (by rw [← perCall,← next]; rfl),
      reads.perCall.trans perCall,reads.blockSize.trans blockSize,reads.remaining.trans (by rw [← transfer]),
      reads.chunk.trans (by rw [← transfer])⟩
  · exact (wpSuper _).mpr (wpMono (Disk.readDataReads _) (fun n u reads => reads) fun _ _ _ => trivial)

end ScsiCd

structure DiskClass where
  Device : Type
  toDisk : Derives Device Disk
  toStorage : Derives Device StorageDevice
  methods : Methods Device
  put : Device → AnyDevice
  storageBase : ∀ d, toStorage.base d = (toDisk.base d).toStorageDevice
  setStorageBase : ∀ d b, toStorage.setBase d b = toDisk.setBase d { toDisk.base d with toStorageDevice := b }
  putDisk : ∀ d, (put d).disk = some (toDisk.base d)
  setPutDisk : ∀ d b, (put d).setDisk b = put (toDisk.setBase d b)
  virtual : ∀ {α : Type} (f : {δ : Type} → Methods δ → Handler δ α) d r t w,
    AnyDevice.virtual f r ⟨put d,t,w⟩ = AnyDevice.within put (f methods) d r ⟨put d,t,w⟩
  dispatch : ∀ {cmd : ScsiCommand} {h : Handler Device PhaseCall}, (cmd,h) ∈ Disk.commands methods.readData →
    methods.dispatch cmd = (super (StorageDevice.reportMediumChange cmd) >>= fun _ => h)
  writeData : ∀ offset length, methods.writeData offset length = super (Disk.writeData length)
  readData : ∀ r s, wp methods.readData r s
    (fun n t => Disk.DataRead (toDisk.base s.device) (toDisk.base t.device) s.transfer t.transfer n) fun _ _ => True

attribute [instance] DiskClass.toDisk DiskClass.toStorage

namespace DiskClass

/- With every opcode once in the table the order of the table is of no importance. -/
theorem lookupListed {δ : Type} {commands : List (ScsiCommand × Handler δ PhaseCall)} {cmd : ScsiCommand}
    {h : Handler δ PhaseCall} (once : (commands.map Prod.fst).Nodup) (listed : (cmd,h) ∈ commands) :
    commands.lookup cmd = some h := by
  induction commands with
  | nil => cases listed
  | cons command commands ih =>
    rw [List.map_cons,List.nodup_cons] at once
    rcases List.mem_cons.mp listed with rfl | later
    · exact List.lookup_cons_self
    · have other : cmd ≠ command.1 := fun same => once.1 (same ▸ List.mem_map_of_mem later)
      rw [List.lookup_cons,beq_false_of_ne other]
      exact ih once.2 later

theorem dispatchListed {δ : Type} [Derives δ StorageDevice] {commands : List (ScsiCommand × Handler δ PhaseCall)}
    {cmd : ScsiCommand} {h : Handler δ PhaseCall} (once : (commands.map Prod.fst).Nodup) (listed : (cmd,h) ∈ commands) :
    StorageDevice.dispatch commands cmd = (super (StorageDevice.reportMediumChange cmd) >>= fun _ => h) := by
  unfold StorageDevice.dispatch Handler.dispatch
  rw [lookupListed once listed]

theorem scsiHdOnce : (ScsiHd.commands.map Prod.fst).Nodup := by decide

theorem sasiHdOnce : (SasiHd.commands.map Prod.fst).Nodup := by decide

theorem opticalMemoryOnce : (OpticalMemory.commands.map Prod.fst).Nodup := by decide

theorem scsiCdOnce : (ScsiCd.commands.map Prod.fst).Nodup := by decide

def scsiHd : DiskClass where
  Device := Disk
  toDisk := inferInstance
  toStorage := inferInstance
  methods := ScsiHd.methods
  put := .scsiHd
  storageBase _ := rfl
  setStorageBase _ _ := rfl
  putDisk _ := rfl
  setPutDisk _ _ := rfl
  virtual _ _ _ _ _ := rfl
  dispatch listed := dispatchListed scsiHdOnce (List.mem_append_left _ (List.mem_append_right _ listed))
  writeData _ _ := rfl
  readData _ s := Disk.readDataReads s

def sasiHd : DiskClass where
  Device := Disk
  toDisk := inferInstance
  toStorage := inferInstance
  methods := SasiHd.methods
  put := .sasiHd
  storageBase _ := rfl
  setStorageBase _ _ := rfl
  putDisk _ := rfl
  setPutDisk _ _ := rfl
  virtual _ _ _ _ _ := rfl
  dispatch listed := dispatchListed sasiHdOnce (List.mem_append_left _ (List.mem_append_right _ listed))
  writeData _ _ := rfl
  readData _ s := Disk.readDataReads s

def opticalMemory : DiskClass where
  Device := Disk
  toDisk := inferInstance
  toStorage := inferInstance
  methods := OpticalMemory.methods
  put := .opticalMemory
  storageBase _ := rfl
  setStorageBase _ _ := rfl
  putDisk _ := rfl
  setPutDisk _ _ := rfl
  virtual _ _ _ _ _ := rfl
  dispatch listed := dispatchListed opticalMemoryOnce (List.mem_append_left _ (List.mem_append_right _ listed))
  writeData _ _ := rfl
  readData _ s := Disk.readDataReads s

def scsiCd : DiskClass where
  Device := ScsiCd
  toDisk := inferInstance
  toStorage := inferInstance
  methods := ScsiCd.methods
  put := .scsiCd
  storageBase _ := rfl
  setStorageBase _ _ := rfl
  putDisk _ := rfl
  setPutDisk _ _ := rfl
  virtual _ _ _ _ _ := rfl
  dispatch listed :=
    dispatchListed scsiCdOnce (List.mem_append_left _ (List.mem_append_right _ (List.mem_cons_of_mem _ listed)))
  writeData _ _ := rfl
  readData _ s := ScsiCd.readDataReads s

/- Every disk is of one of the classes. -/
theorem ofDisk {any : AnyDevice} {d : Disk} (disk : any.disk = some d) :
    ∃ (K : DiskClass) (device : K.Device), any = K.put device ∧ base device = d := by
  cases any with
  | scsiHd _ =>
    cases disk
    exact ⟨scsiHd,d,rfl,rfl⟩
  | sasiHd _ =>
    cases disk
    exact ⟨sasiHd,d,rfl,rfl⟩
  | opticalMemory _ =>
    cases disk
    exact ⟨opticalMemory,d,rfl,rfl⟩
  | scsiCd device =>
    cases disk
    exact ⟨scsiCd,device,rfl,rfl⟩
  | _ => cases disk

/-! A command of Disk, dispatched to a device of a class. -/

variable {K : DiskClass} {cmd : ScsiCommand} {h : Handler K.Device PhaseCall} {r : Request} {s : HandlerState K.Device}

theorem dispatchOk (listed : (cmd,h) ∈ Disk.commands K.methods.readData)
    (unchanged : (base s.device : Disk).mediumChanged = false) : K.methods.dispatch cmd r s = h r s := by
  rw [K.dispatch listed]
  refine bindOk (a := ()) (ranOk ?_)
  unfold StorageDevice.reportMediumChange
  simp only [wpSuper,wpBind,wpGetDevice,wpIte,wpModifyDevice,wpThrow,wpPure]
  refine ⟨fun changed => ?_,fun _ => ⟨trivial,?_⟩⟩
  · rw [K.storageBase] at changed
    exact absurd (changed.2.2.symm.trans unchanged) (by decide)
  · rw [setBaseSelf]

theorem dispatchChanged (listed : (cmd,h) ∈ Disk.commands K.methods.readData)
    (other : cmd ≠ .inquiry ∧ cmd ≠ .requestSense) (changed : (base s.device : Disk).mediumChanged = true) :
    ∃ d, K.methods.dispatch cmd r s = (.error ⟨.unitAttention,.notReadyToReadyChange⟩,{ s with device := d }) := by
  refine ⟨setBase s.device ({ (base s.device : StorageDevice) with mediumChanged := false } : StorageDevice),?_⟩
  rw [K.dispatch listed]
  refine bindError (ranError ?_)
  unfold StorageDevice.reportMediumChange
  simp only [wpSuper,wpBind,wpGetDevice,wpIte,wpModifyDevice,wpThrow,wpPure]
  refine ⟨fun _ => ⟨trivial,trivial⟩,fun same => same ⟨other.1,other.2,?_⟩⟩
  rw [K.storageBase]
  exact changed

end DiskClass
end Scsi2Pi
