import Scsi2Pi.AnyDevice
import Scsi2Pi.HandlerContract

/-! What the virtual functions that deal with a medium do: opening and ejecting
it, and cleaning up. The cache and the contents of files aside, the effect is
one on the StorageDevice part and on the reserved files. -/
namespace Scsi2Pi
open Handler Derives Eff

namespace PrimaryDevice

def canEject (d : PrimaryDevice) (force : Bool) : Bool := d.ready && d.removable && (force || !d.locked)

def ejected (d : PrimaryDevice) : PrimaryDevice :=
  { d with ready := false, attn := false, removed := true, writeProtected := false, locked := false, stopped := true }

theorem ejectEq (d : PrimaryDevice) (force : Bool) :
    d.eject force = if d.canEject force then (true,d.ejected) else (false,d) := by
  unfold eject canEject ejected
  cases d.ready <;> cases d.removable <;> cases force <;> cases d.locked <;> rfl

end PrimaryDevice

/-! What lies behind a StorageDevice: the cache, and the contents of files. -/

section
variable {δ : Type} [Derives δ StorageDevice]

structure Behind (s t : HandlerState δ) : Prop where
  storage : (base t.device : StorageDevice) = base s.device
  transfer : t.transfer = s.transfer
  world : ∃ files, t.world = { s.world with files }

theorem Behind.refl (s : HandlerState δ) : Behind s s := ⟨rfl,rfl,s.world.files,rfl⟩

theorem Behind.trans {s t u : HandlerState δ} (h : Behind s t) (h' : Behind t u) : Behind s u := by
  obtain ⟨files,world⟩ := h'.world
  obtain ⟨_,earlier⟩ := h.world
  exact ⟨h'.storage.trans h.storage,h'.transfer.trans h.transfer,files,by rw [world,earlier]⟩

instance : IsPreorder (HandlerState δ) Behind where
  refl := Behind.refl
  trans _ _ _ := Behind.trans

/- A handler that always ends normally. -/
def Runs {α : Type} (h : Handler δ α) (Q : HandlerState δ → α → HandlerState δ → Prop) : Prop :=
  ∀ r s, wp h r s (Q s) fun _ _ => False

end

namespace Disk

theorem withFilesBehind {α : Type} (run : Cache → FileSystem → α × Cache × FileSystem) (c : Cache) :
    Runs (withFiles run c) fun s _ t => Behind s t := by
  intro r s
  simp only [withFiles,wpBind,wpGetWorld,wpModifyDevice,wpSetWorld,wpPure]
  exact ⟨rfl,rfl,_,rfl⟩

theorem flushCacheBehind : Runs flushCache fun s _ t => Behind s t := by
  intro r s
  simp only [flushCache,wpBind,wpGetDevice]
  cases s.device.cache with
  | none => exact Behind.refl s
  | some c =>
    simp only [wpIte,wpBind,wpPure]
    exact ⟨fun _ => withFilesBehind Cache.flush c r s,fun _ => Behind.refl s⟩

theorem dropCacheBehind : Runs dropCache fun s _ t => Behind s t := by
  intro r s
  simp only [dropCache,wpBind,wpGetDevice,wpGetWorld]
  cases s.device.cache with
  | none => exact ⟨rfl,rfl,_,rfl⟩
  | some c => exact ⟨rfl,rfl,_,rfl⟩

theorem initCacheBehind (path : String) : Runs (initCache path) fun s _ t => Behind s t := by
  intro r s
  simp only [initCache,wpBind]
  refine wpMono (dropCacheBehind r s) (fun _ t behind => ?_) fun _ _ failed => failed
  simp only [wpGetDevice,wpModifyDevice,wpGetWorld,wpPure]
  exact behind.trans ⟨rfl,rfl,_,rfl⟩

theorem setUpCacheBehind : Runs setUpCache fun s _ t => Behind s t := by
  intro r s
  simp only [setUpCache,wpBind,wpGetDevice,wpIte,wpModifyDevice]
  refine ⟨fun _ => ?_,fun _ => initCacheBehind _ r s⟩
  have switched : Behind s ⟨{ s.device with cachingMode := .linux },s.transfer,s.world⟩ := ⟨rfl,rfl,_,rfl⟩
  exact wpMono (initCacheBehind _ r _) (fun _ t behind => switched.trans behind) fun _ _ failed => failed

end Disk

/-! The reserved files. -/

namespace StorageDevice

theorem reserveFileRefused {d : StorageDevice} {w : World} (reserved : w.reservedFiles d.filename ≠ none)
    (targetId : Int) : d.reserveFile targetId w = (false,w) := by
  unfold reserveFile
  rw [if_pos]
  cases found : w.reservedFiles d.filename with
  | none => exact absurd found reserved
  | some _ => simp

theorem reserveFileDone {d : StorageDevice} {w : World} (named : d.filename ≠ "")
    (free : w.reservedFiles d.filename = none) (targetId : Int) :
    d.reserveFile targetId w =
      (true,{ w with reservedFiles := Function.update w.reservedFiles d.filename (some (targetId,d.lun)) }) := by
  unfold reserveFile
  rw [if_neg]
  simp [free,named]

/-! Eject. -/

/- The file name is kept for a later load. -/
def ejected (d : StorageDevice) : StorageDevice :=
  { d with toPrimaryDevice := d.toPrimaryDevice.ejected, lastFilename := d.filename, filename := "" }

theorem primaryEjectEq (force : Bool) (r : Request) (s : HandlerState StorageDevice) :
    primaryEject force r s = if s.device.canEject force
      then (.ok true,{ s with device := { s.device with toPrimaryDevice := s.device.toPrimaryDevice.ejected } })
      else (.ok false,s) := by
  simp only [primaryEject,bind,getDevice,modifyDevice,pure,PrimaryDevice.ejectEq]
  split <;> rfl

theorem forgetFileEq (r : Request) (s : HandlerState StorageDevice) :
    forgetFile r s = (.ok (),⟨{ s.device with lastFilename := s.device.filename, filename := "" },s.transfer,
      { s.world with reservedFiles := Function.update s.world.reservedFiles s.device.filename none }⟩) :=
  rfl

end StorageDevice

section
variable {δ : Type} [Derives δ StorageDevice]

/- The effect of Eject, if the medium can be ejected. -/
structure Ejects (s t : HandlerState δ) : Prop where
  storage : (base t.device : StorageDevice) = (base s.device : StorageDevice).ejected
  transfer : t.transfer = s.transfer
  world : ∃ files, t.world = { s.world with
    files, reservedFiles := Function.update s.world.reservedFiles (base s.device : StorageDevice).filename none }

end

namespace Disk

theorem ejectRefused {force : Bool} {s : HandlerState Disk} (refused : s.device.canEject force = false) (r : Request) :
    eject force r s = (.ok false,s) := by
  simp only [eject,bind,super,Eff.zoom,StorageDevice.primaryEjectEq]
  have same : (base s.device : StorageDevice).canEject force = false := refused
  rw [if_neg (by simp [same])]
  rfl

theorem ejectDone {force : Bool} (r : Request) {s : HandlerState Disk} (able : s.device.canEject force) :
    wp (eject force) r s (fun status t => status = true ∧ Ejects s t) fun _ _ => False := by
  have first : wp (super (StorageDevice.primaryEject force) : Handler Disk Bool) r s
      (fun status t => status = true ∧ t = { s with device := { s.device with
        toPrimaryDevice := s.device.toPrimaryDevice.ejected } }) fun _ _ => False := by
    have same : (base s.device : StorageDevice).canEject force = true := able
    simp only [wp,super,Eff.zoom,StorageDevice.primaryEjectEq]
    rw [if_pos same]
    exact ⟨rfl,rfl⟩
  unfold eject
  rw [wpBind]
  refine wpMono first (fun status t ended => ?_) fun _ _ failed => failed
  obtain ⟨rfl,rfl⟩ := ended
  simp only [wpBind,wpIte,wpPure]
  refine ⟨fun _ => ?_,fun no => absurd trivial no⟩
  refine wpMono (flushCacheBehind r _) (fun _ t flushed => ?_) fun _ _ failed => failed
  simp only [wpSuper]
  rw [wp,StorageDevice.forgetFileEq]
  refine wpMono (dropCacheBehind r _) (fun _ u dropped => ⟨trivial,?_⟩) fun _ _ failed => failed
  obtain ⟨files,flushedWorld⟩ := flushed.world
  obtain ⟨files',droppedWorld⟩ := dropped.world
  refine ⟨?_,dropped.transfer.trans flushed.transfer,files',?_⟩
  · rw [dropped.storage,baseSet,flushed.storage]
    rfl
  · rw [droppedWorld,flushedWorld,flushed.storage]
    rfl

end Disk

namespace Tape

theorem ejectRefused {force : Bool} {s : HandlerState Tape} (refused : s.device.canEject force = false) (r : Request) :
    eject force r s = (.ok false,s) := by
  simp only [eject,bind,super,Eff.zoom,StorageDevice.primaryEjectEq]
  have same : (base s.device : StorageDevice).canEject force = false := refused
  rw [if_neg (by simp [same])]
  rfl

theorem ejectDone {force : Bool} (r : Request) {s : HandlerState Tape} (able : s.device.canEject force) :
    wp (eject force) r s (fun status t => status = true ∧ Ejects s t) fun _ _ => False := by
  have same : (base s.device : StorageDevice).canEject force = true := able
  simp only [eject,wp,bind,super,Eff.zoom,StorageDevice.primaryEjectEq]
  rw [if_pos same]
  exact ⟨rfl,rfl,rfl,_,rfl⟩

end Tape

namespace AnyDevice

theorem primaryStorage {d : AnyDevice} {s : StorageDevice} (h : d.storage = some s) : d.primary = s.toPrimaryDevice := by
  cases d <;> cases h <;> rfl

theorem withinEjects {δ : Type} [Derives δ StorageDevice] (put : δ → AnyDevice)
    (putStorage : ∀ d, (put d).storage = some (base d)) {h : Handler δ Bool} {r : Request} {d : δ} {transfer : Transfer}
    {w : World} (any : AnyDevice)
    (ends : wp h r ⟨d,transfer,w⟩ (fun status t => status = true ∧ Ejects ⟨d,transfer,w⟩ t) fun _ _ => False) :
    ∃ d' files, within put h d r ⟨any,transfer,w⟩ = (.ok true,⟨d',transfer,{ w with
        files, reservedFiles := Function.update w.reservedFiles (base d : StorageDevice).filename none }⟩) ∧
      d'.storage = some (base d : StorageDevice).ejected := by
  obtain ⟨status,t,ran,rfl,ejected⟩ := wpRuns ends
  obtain ⟨files,world⟩ := ejected.world
  refine ⟨put t.device,files,?_,by rw [putStorage,ejected.storage]⟩
  simp only [within,ran]
  rw [ejected.transfer,world]

theorem ejectDone {d : AnyDevice} {s : StorageDevice} (h : d.storage = some s) {force : Bool}
    (able : s.canEject force) (r : Request) (transfer : Transfer) (w : World) :
    ∃ d' files, eject force r ⟨d,transfer,w⟩ = (.ok true,⟨d',transfer,{ w with
        files, reservedFiles := Function.update w.reservedFiles s.filename none }⟩) ∧ d'.storage = some s.ejected := by
  cases d <;> cases h
  case scsiHd d => exact withinEjects _ (fun _ => rfl) _ (Disk.ejectDone r (s := ⟨d,transfer,w⟩) able)
  case sasiHd d => exact withinEjects _ (fun _ => rfl) _ (Disk.ejectDone r (s := ⟨d,transfer,w⟩) able)
  case opticalMemory d => exact withinEjects _ (fun _ => rfl) _ (Disk.ejectDone r (s := ⟨d,transfer,w⟩) able)
  case tape d => exact withinEjects _ (fun _ => rfl) _ (Tape.ejectDone r (s := ⟨d,transfer,w⟩) able)
  case scsiCd d =>
    have ends : wp (super (Disk.eject force) : Handler ScsiCd Bool) r ⟨d,transfer,w⟩
        (fun status t => status = true ∧ Ejects ⟨d,transfer,w⟩ t) fun _ _ => False := by
      rw [wpSuper]
      refine wpMono (Disk.ejectDone r (s := ⟨d.toDisk,transfer,w⟩) able) (fun status t ended => ?_) fun _ _ failed => failed
      exact ⟨ended.1,ended.2.storage,ended.2.transfer,ended.2.world⟩
    exact withinEjects .scsiCd (fun _ => rfl) _ ends

theorem superUnchanged {δ β α : Type} [Derives δ β] {h : Handler β α} {r : Request} {d : δ} {transfer : Transfer}
    {w : World} {a : α} (ran : h r ⟨base d,transfer,w⟩ = (.ok a,⟨base d,transfer,w⟩)) :
    super h r ⟨d,transfer,w⟩ = (.ok a,⟨d,transfer,w⟩) := by
  simp [super,Eff.zoom,ran]

theorem withinUnchanged {δ α : Type} (put : δ → AnyDevice) {h : Handler δ α} {r : Request} {d : δ}
    {transfer : Transfer} {w : World} {a : α} (ran : h r ⟨d,transfer,w⟩ = (.ok a,⟨d,transfer,w⟩)) :
    within put h d r ⟨put d,transfer,w⟩ = (.ok a,⟨put d,transfer,w⟩) := by
  simp [within,ran]

theorem ejectBaseRefused {force : Bool} {b : PrimaryDevice} (refused : b.canEject force = false) (r : Request)
    (transfer : Transfer) (w : World) : ejectBase force r ⟨b,transfer,w⟩ = (.ok false,⟨b,transfer,w⟩) := by
  simp only [ejectBase,bind,getDevice,modifyDevice,pure,PrimaryDevice.ejectEq,refused]
  rfl

theorem ejectRefused {d : AnyDevice} {force : Bool} (refused : d.primary.canEject force = false) (r : Request)
    (transfer : Transfer) (w : World) : eject force r ⟨d,transfer,w⟩ = (.ok false,⟨d,transfer,w⟩) := by
  cases d with
  | scsiHd d => exact withinUnchanged .scsiHd (Disk.ejectRefused refused r)
  | sasiHd d => exact withinUnchanged .sasiHd (Disk.ejectRefused refused r)
  | opticalMemory d => exact withinUnchanged .opticalMemory (Disk.ejectRefused refused r)
  | scsiCd d => exact withinUnchanged .scsiCd (superUnchanged (Disk.ejectRefused refused r))
  | tape d => exact withinUnchanged .tape (Tape.ejectRefused refused r)
  | printer d => exact withinUnchanged .printer (superUnchanged (ejectBaseRefused refused r transfer w))
  | daynaPort d => exact withinUnchanged .daynaPort (superUnchanged (ejectBaseRefused refused r transfer w))
  | hostServices d => exact withinUnchanged .hostServices (superUnchanged (ejectBaseRefused refused r transfer w))
  | scsiGeneric d => exact withinUnchanged .scsiGeneric (superUnchanged (ejectBaseRefused refused r transfer w))

theorem withinEjectBase {δ : Type} [Derives δ PrimaryDevice] (put : δ → AnyDevice) {force : Bool} {d : δ}
    (able : (base d : PrimaryDevice).canEject force) (any : AnyDevice) (r : Request) (transfer : Transfer) (w : World) :
    within put (super (ejectBase force)) d r ⟨any,transfer,w⟩ =
      (.ok true,⟨put (setBase d (base d : PrimaryDevice).ejected),transfer,w⟩) := by
  have done : ejectBase force r ⟨base d,transfer,w⟩ = (.ok true,⟨(base d : PrimaryDevice).ejected,transfer,w⟩) := by
    simp only [ejectBase,bind,getDevice,modifyDevice,pure,PrimaryDevice.ejectEq,able]
    rfl
  simp only [within,super,Eff.zoom,done]

theorem ejectBaseDone {d : AnyDevice} (h : d.storage = none) {force : Bool} (able : d.primary.canEject force)
    (r : Request) (transfer : Transfer) (w : World) :
    eject force r ⟨d,transfer,w⟩ = (.ok true,⟨d.setPrimary d.primary.ejected,transfer,w⟩) := by
  cases d with
  | printer d => exact withinEjectBase .printer (d := d) able _ r transfer w
  | daynaPort d => exact withinEjectBase .daynaPort (d := d) able _ r transfer w
  | hostServices d => exact withinEjectBase .hostServices (d := d) able _ r transfer w
  | scsiGeneric d => exact withinEjectBase .scsiGeneric (d := d) able _ r transfer w
  | _ => cases h

end AnyDevice

/-! Opening a file. -/

/- What opening a file leaves as it is. Only a device that is not removable is named
after its file. -/
structure StorageDevice.Opening (d e : StorageDevice) : Prop where
  type : e.type = d.type
  lun : e.lun = d.lun
  stoppable : e.stoppable = d.stoppable
  removable : e.removable = d.removable
  params : e.params = d.params
  productData : d.removable = true → e.productData = d.productData
  configuredBlockSize : e.configuredBlockSize = d.configuredBlockSize
  filename : e.filename = d.filename
  lastFilename : e.lastFilename = d.lastFilename
  mediumChanged : e.mediumChanged = d.mediumChanged
  removed : e.removed = d.removed ∨ e.removed = false

namespace StorageDevice

theorem Opening.refl (d : StorageDevice) : Opening d d :=
  ⟨rfl,rfl,rfl,rfl,rfl,fun _ => rfl,rfl,rfl,rfl,rfl,.inl rfl⟩

theorem Opening.trans {d e f : StorageDevice} (h : Opening d e) (h' : Opening e f) : Opening d f where
  type := h'.type.trans h.type
  lun := h'.lun.trans h.lun
  stoppable := h'.stoppable.trans h.stoppable
  removable := h'.removable.trans h.removable
  params := h'.params.trans h.params
  productData removable := (h'.productData (by rw [h.removable,removable])).trans (h.productData removable)
  configuredBlockSize := h'.configuredBlockSize.trans h.configuredBlockSize
  filename := h'.filename.trans h.filename
  lastFilename := h'.lastFilename.trans h.lastFilename
  mediumChanged := h'.mediumChanged.trans h.mediumChanged
  removed := by
    rcases h'.removed with same | inserted
    · rw [same]
      exact h.removed
    · exact .inr inserted

end StorageDevice

section
variable {δ : Type} [Derives δ StorageDevice]

structure Opens (s : HandlerState δ) (opened : Bool) (t : HandlerState δ) : Prop where
  opening : StorageDevice.Opening (base s.device) (base t.device)
  transfer : t.transfer = s.transfer
  world : ∃ files, t.world = { s.world with files }
  inserted : opened → (base t.device : StorageDevice).ready = true ∧ (base t.device : StorageDevice).removed = false

theorem opensRefl (s : HandlerState δ) : Opens s false s :=
  ⟨.refl _,rfl,⟨_,rfl⟩,fun no => Bool.noConfusion no⟩

theorem Opens.trans {s t u : HandlerState δ} {first second : Bool} (h : Opens s first t) (h' : Opens t second u) :
    Opens s second u := by
  obtain ⟨_,earlier⟩ := h.world
  obtain ⟨files,world⟩ := h'.world
  exact ⟨h.opening.trans h'.opening,h'.transfer.trans h.transfer,⟨files,by rw [world,earlier]⟩,h'.inserted⟩

theorem Opens.failed {s t : HandlerState δ} {opened : Bool} (h : Opens s opened t) : Opens s false t :=
  ⟨h.opening,h.transfer,h.world,fun no => Bool.noConfusion no⟩

/- An update of the device, before its file is opened. -/
theorem opensUpdate {s : HandlerState δ} {d : δ} (opening : StorageDevice.Opening (base s.device) (base d)) :
    Opens s false { s with device := d } :=
  ⟨opening,rfl,⟨_,rfl⟩,fun no => Bool.noConfusion no⟩

/- What happens behind a StorageDevice once the file has been opened. -/
theorem Opens.behind {s t u : HandlerState δ} {opened : Bool} (h : Opens s opened t) (behind : Behind t u) :
    Opens s opened u := by
  obtain ⟨_,earlier⟩ := h.world
  obtain ⟨files,world⟩ := behind.world
  refine ⟨by rw [behind.storage]; exact h.opening,behind.transfer.trans h.transfer,⟨files,by rw [world,earlier]⟩,?_⟩
  rw [behind.storage]
  exact h.inserted

/- An update of the device once the file has been opened. -/
theorem Opens.update {s t : HandlerState δ} {opened : Bool} (h : Opens s opened t) {d : δ}
    (opening : StorageDevice.Opening (base t.device) (base d))
    (ready : (base d : StorageDevice).ready = (base t.device : StorageDevice).ready)
    (removed : (base d : StorageDevice).removed = (base t.device : StorageDevice).removed) :
    Opens s opened { t with device := d } := by
  refine ⟨h.opening.trans opening,h.transfer,h.world,fun yes => ?_⟩
  rw [ready,removed]
  exact h.inserted yes

end

namespace StorageDevice

theorem setBlockSizeOpening {d e : StorageDevice} {size : Nat} (h : d.setBlockSize size = some e) :
    Opening d e := by
  simp only [setBlockSize] at h
  split at h
  · cases h
    exact ⟨rfl,rfl,rfl,rfl,rfl,fun _ => rfl,rfl,rfl,rfl,rfl,.inl rfl⟩
  · cases h

theorem validateFileOpens (readOnlyFile : Bool) : Runs (validateFile readOnlyFile) Opens := by
  intro r s
  simp only [validateFile,wpBind,wpGetDevice,wpGetWorld]
  cases s.device.getFileSize s.world with
  | none => exact opensRefl s
  | some size =>
    simp only [wpIte,wpPure,wpBind,wpModifyDevice]
    refine ⟨fun _ => opensRefl s,fun _ => ⟨fun _ => ?_,fun _ => ?_⟩⟩
    · exact ⟨⟨rfl,rfl,rfl,rfl,rfl,fun _ => rfl,rfl,rfl,rfl,rfl,.inr rfl⟩,rfl,⟨_,rfl⟩,fun _ => ⟨rfl,rfl⟩⟩
    · exact ⟨⟨rfl,rfl,rfl,rfl,rfl,fun _ => rfl,rfl,rfl,rfl,rfl,.inr rfl⟩,rfl,⟨_,rfl⟩,fun _ => ⟨rfl,rfl⟩⟩

end StorageDevice

/- The part of a derived class that opens a file. -/
theorem superOpens {δ β : Type} [Derives δ StorageDevice] [Derives β StorageDevice] [Derives δ β]
    (same : ∀ d : δ, (base (base d : β) : StorageDevice) = base d) {h : Handler β Bool} (opens : Runs h Opens) :
    Runs (super h : Handler δ Bool) Opens := by
  intro r s
  rw [wpSuper]
  refine wpMono (opens r _) (fun opened t ended => ?_) fun _ _ failed => failed
  have after : (base (setBase s.device t.device) : StorageDevice) = base t.device := by rw [← same,baseSet]
  refine ⟨?_,ended.transfer,ended.world,?_⟩
  · rw [after,← same]
    exact ended.opening
  · rw [after]
    exact ended.inserted

namespace Disk

theorem validateFileOpens (readOnlyFile : Bool) : Runs (validateFile readOnlyFile) Opens := by
  intro r s
  simp only [validateFile,wpBind,wpGetDevice,wpIte,wpPure]
  refine ⟨fun _ => opensRefl s,fun _ => ?_⟩
  have first := superOpens (δ := Disk) (β := StorageDevice) (fun _ => rfl) (StorageDevice.validateFileOpens readOnlyFile)
  refine wpMono (first r s) (fun opened t validated => ⟨fun _ => validated.failed,fun done => ?_⟩) fun _ _ failed => failed
  refine wpMono (setUpCacheBehind r t) (fun ready u behind => ?_) fun _ _ failed => failed
  cases ready with
  | false => exact validated.failed.behind behind
  | true =>
    have yes : opened = true := by simpa using done
    rw [← yes]
    exact validated.behind behind

theorem openFileOpens (defaultBlockSize : Nat) (count : Nat → Nat) (readOnlyFile : Bool) :
    Runs (openFile defaultBlockSize count readOnlyFile) Opens := by
  intro r s
  simp only [openFile,wpBind,wpGetDevice,wpGetWorld]
  split
  · next sized length hs _ =>
    simp only [wpBind,wpModifyDevice]
    have updated : Opens s false { s with device := { s.device with
        toStorageDevice := { sized with blocks := count (length / if s.device.configuredBlockSize ≠ 0
          then s.device.configuredBlockSize else defaultBlockSize) } } } := by
      refine opensUpdate ((StorageDevice.setBlockSizeOpening hs).trans ?_)
      exact ⟨rfl,rfl,rfl,rfl,rfl,fun _ => rfl,rfl,rfl,rfl,rfl,.inl rfl⟩
    exact wpMono (validateFileOpens readOnlyFile r _) (fun opened t validated => updated.trans validated)
      fun _ _ failed => failed
  · exact opensRefl s

end Disk

namespace ScsiHd

theorem finalizeSetupOpening (d : Disk) :
    StorageDevice.Opening d.toStorageDevice (finalizeSetup d).toStorageDevice ∧
      (finalizeSetup d).ready = d.ready ∧ (finalizeSetup d).removed = d.removed := by
  simp only [finalizeSetup,PrimaryDevice.setProductData]
  split
  · exact ⟨.refl _,rfl,rfl⟩
  · next fixed =>
    split
    · next b named =>
      split at named
      · cases named
      · split at named
        · cases named
        · split at named
          · cases named
          · cases named
            exact ⟨⟨rfl,rfl,rfl,rfl,rfl,fun yes => absurd yes fixed,rfl,rfl,rfl,rfl,.inl rfl⟩,rfl,rfl⟩
    · exact ⟨.refl _,rfl,rfl⟩

theorem openFileOpens (readOnlyFile : Bool) : Runs (openFile readOnlyFile) Opens := by
  intro r s
  simp only [openFile,wpBind,wpIte,wpPure,wpModifyDevice]
  refine wpMono (Disk.openFileOpens _ _ readOnlyFile r s) (fun opened t ended => ?_) fun _ _ failed => failed
  obtain ⟨named,ready,removed⟩ := finalizeSetupOpening t.device
  refine ⟨fun _ => ended.failed,fun yes => ?_⟩
  obtain rfl : opened = true := by simpa using yes
  exact ended.update named ready removed

end ScsiHd

namespace OpticalMemory

theorem openFileOpens (readOnlyFile : Bool) : Runs (openFile readOnlyFile) Opens := by
  have attention : ∀ (s : HandlerState Disk) (opened : Bool) (t : HandlerState Disk), Opens s opened t →
      ∀ r, wp (if !opened then return false else do
        modifyDevice fun d => if d.ready then { d with attn := true } else d
        return true : Handler Disk Bool) r t (Opens s) fun _ _ => False := by
    intro s opened t ended r
    simp only [wpIte,wpPure,wpBind,wpModifyDevice]
    refine ⟨fun _ => ended.failed,fun yes => ?_⟩
    obtain rfl : opened = true := by simpa using yes
    split
    · exact ended.update ⟨rfl,rfl,rfl,rfl,rfl,fun _ => rfl,rfl,rfl,rfl,rfl,.inl rfl⟩ rfl rfl
    · exact ended
  intro r s
  simp only [openFile,wpBind,wpGetDevice,wpGetWorld]
  split
  · next size count _ =>
    simp only [wpBind,wpModifyDevice]
    have updated : Opens s false { s with device := { s.device with blockSize := size, blocks := count } } :=
      opensUpdate ⟨rfl,rfl,rfl,rfl,rfl,fun _ => rfl,rfl,rfl,rfl,rfl,.inl rfl⟩
    exact wpMono (Disk.validateFileOpens readOnlyFile r _)
      (fun opened t validated => attention s opened t (updated.trans validated) r) fun _ _ failed => failed
  · rw [wpBind]
    exact wpMono (Disk.openFileOpens _ _ readOnlyFile r s) (fun opened t ended => attention s opened t ended r)
      fun _ _ failed => failed

end OpticalMemory

namespace ScsiCd

theorem openFileOpens (readOnlyFile : Bool) : Runs (openFile readOnlyFile) Opens := by
  intro r s
  simp only [openFile,createDataTrack,wpBind,wpModifyDevice]
  have first : Opens s false { s with device := { s.device with trackInitialized := false } } :=
    opensUpdate (.refl _)
  have opens := superOpens (δ := ScsiCd) (β := Disk) (fun _ => rfl) (Disk.openFileOpens 2048 id readOnlyFile)
  refine wpMono (opens r _) (fun opened t ended => ?_) fun _ _ failed => failed
  simp only [wpIte,wpPure,wpBind,wpModifyDevice]
  refine ⟨fun _ => (first.trans ended).failed,fun yes => ?_⟩
  obtain rfl : opened = true := by simpa using yes
  have done := first.trans ended
  split
  · exact done.update ⟨rfl,rfl,rfl,rfl,rfl,fun _ => rfl,rfl,rfl,rfl,rfl,.inl rfl⟩ rfl rfl
  · exact done.update ⟨rfl,rfl,rfl,rfl,rfl,fun _ => rfl,rfl,rfl,rfl,rfl,.inl rfl⟩ rfl rfl

end ScsiCd

namespace Tape

/- What follows once the size of the file is known. -/
theorem finishOpens {s u : HandlerState Tape} (sized : Opens s false u) (readOnlyFile : Bool) (r : Request) :
    wp (do
      if !(← super (StorageDevice.validateFile readOnlyFile)) then return false
      modifyDevice fun d => { d with
        isOpen := !readOnlyFile, tarFile := S2pUtil.getExtensionLowerCase d.filename = "tar" }
      resetPositions
      return true : Handler Tape Bool) r u (Opens s) fun _ _ => False := by
  have opens := superOpens (δ := Tape) (β := StorageDevice) (fun _ => rfl) (StorageDevice.validateFileOpens readOnlyFile)
  rw [wpBind]
  refine wpMono (opens r u) (fun opened t ended => ?_) fun _ _ failed => failed
  simp only [resetPositions,wpIte,wpPure,wpBind,wpModifyDevice]
  refine ⟨fun _ => (sized.trans ended).failed,fun yes => ?_⟩
  obtain rfl : opened = true := by simpa using yes
  exact (sized.trans ended).update (.refl _) rfl rfl

theorem openFileOpens (append : Nat) (readOnlyFile : Bool) : Runs (openFile append readOnlyFile) Opens := by
  intro r s
  unfold openFile
  rw [wpBind,wpGetDevice]
  dsimp only
  split
  · exact opensRefl s
  · next sized hs =>
    rw [wpIte]
    refine ⟨fun _ => opensRefl s,fun _ => ?_⟩
    rw [wpBind,wpGetWorld,wpBind,wpModifyDevice,wpIte]
    have sizes := (StorageDevice.setBlockSizeOpening hs).trans
      (f := { sized with blocks := (s.device.getFileSize s.world).getD 0 / (if s.device.configuredBlockSize ≠ 0
        then s.device.configuredBlockSize else 512) % 2^32 })
      ⟨rfl,rfl,rfl,rfl,rfl,fun _ => rfl,rfl,rfl,rfl,rfl,.inl rfl⟩
    refine ⟨fun _ => ?_,fun _ => finishOpens (opensUpdate sizes) readOnlyFile r⟩
    rw [wpBind,wpSetWorld]
    refine finishOpens ?_ readOnlyFile r
    exact ⟨sizes,rfl,⟨_,rfl⟩,fun no => Bool.noConfusion no⟩

end Tape

namespace AnyDevice

theorem openTapeOpens (readOnlyFile : Bool) :
    Runs (openTape readOnlyFile) fun s result t => Opens s (decide (result = .opened)) t := by
  intro r s
  simp only [openTape,wpBind,wpGetDevice,wpIte,wpPure]
  refine ⟨fun _ => opensRefl s,fun _ => ⟨fun _ => opensRefl s,fun _ => ⟨fun _ => opensRefl s,fun _ => ?_⟩⟩⟩
  refine wpMono (Tape.openFileOpens _ readOnlyFile r s) (fun ok t ended => ?_) fun _ _ failed => failed
  cases ok <;> exact ended

theorem withinOpens {δ α : Type} [Derives δ StorageDevice] (put : δ → AnyDevice)
    (putStorage : ∀ d, (put d).storage = some (base d)) (ok : α → Bool) {h : Handler δ α}
    (opens : Runs h fun s result t => Opens s (ok result) t) (r : Request) (d : δ) (transfer : Transfer) (w : World) :
    ∃ result d' s' files, within put h d r ⟨put d,transfer,w⟩ = (.ok result,⟨d',transfer,{ w with files }⟩) ∧
      d'.storage = some s' ∧ StorageDevice.Opening (base d) s' ∧ (ok result → s'.ready = true ∧ s'.removed = false) := by
  obtain ⟨result,t,ran,ended⟩ := wpRuns (opens r ⟨d,transfer,w⟩)
  obtain ⟨files,world⟩ := ended.world
  refine ⟨result,put t.device,base t.device,files,?_,putStorage _,ended.opening,ended.inserted⟩
  simp only [within,ran]
  rw [ended.transfer,world]

/- The calls that report opened files by a Boolean. -/
theorem withinOpened {δ : Type} [Derives δ StorageDevice] (put : δ → AnyDevice)
    (putStorage : ∀ d, (put d).storage = some (base d)) {h : Handler δ Bool} (opens : Runs h Opens) (r : Request) (d : δ)
    (transfer : Transfer) (w : World) :
    ∃ result d' s' files, (do return opened (← within put h d) : Handler AnyDevice OpenResult) r ⟨put d,transfer,w⟩ =
        (.ok result,⟨d',transfer,{ w with files }⟩) ∧
      d'.storage = some s' ∧ StorageDevice.Opening (base d) s' ∧
      (result = .opened → s'.ready = true ∧ s'.removed = false) := by
  obtain ⟨ok,d',s',files,ran,storage,opening,inserted⟩ := withinOpens put putStorage id opens r d transfer w
  refine ⟨opened ok,d',s',files,?_,storage,opening,fun same => inserted ?_⟩
  · simp only [bind,pure,ran]
  · cases ok
    · cases same
    · rfl

theorem openFileOpens {d : AnyDevice} {s : StorageDevice} (h : d.storage = some s) (readOnlyFile : Bool) (r : Request)
    (transfer : Transfer) (w : World) :
    ∃ result d' s' files, openFile readOnlyFile r ⟨d,transfer,w⟩ = (.ok result,⟨d',transfer,{ w with files }⟩) ∧
      d'.storage = some s' ∧ s.Opening s' ∧ (result = .opened → s'.ready = true ∧ s'.removed = false) := by
  cases d with
  | scsiHd d => cases h; exact withinOpened .scsiHd (fun _ => rfl) (ScsiHd.openFileOpens readOnlyFile) r d transfer w
  | sasiHd d => cases h; exact withinOpened .sasiHd (fun _ => rfl) (Disk.openFileOpens _ _ readOnlyFile) r d transfer w
  | opticalMemory d =>
    cases h
    exact withinOpened .opticalMemory (fun _ => rfl) (OpticalMemory.openFileOpens readOnlyFile) r d transfer w
  | scsiCd d => cases h; exact withinOpened .scsiCd (fun _ => rfl) (ScsiCd.openFileOpens readOnlyFile) r d transfer w
  | tape d =>
    cases h
    obtain ⟨result,d',s',files,ran,storage,opening,inserted⟩ :=
      withinOpens .tape (fun _ => rfl) _ (openTapeOpens readOnlyFile) r d transfer w
    exact ⟨result,d',s',files,ran,storage,opening,fun same => inserted (by simp [same])⟩
  | _ => cases h

/-! Cleaning up. -/

theorem diskCleanUp (r : Request) (d : Disk) (transfer : Transfer) (w : World) :
    wp (do Disk.cleanUp; Disk.dropCache) r ⟨d,transfer,w⟩ (fun _ t => t.transfer = transfer ∧ ∃ files, t.world = { w with
      files, reservedFiles := Function.update w.reservedFiles d.filename none }) fun _ _ => False := by
  simp only [Disk.cleanUp,wpBind]
  refine wpMono (Disk.flushCacheBehind r ⟨d,transfer,w⟩) (fun _ t flushed => ?_) fun _ _ failed => failed
  obtain ⟨files,world⟩ := flushed.world
  have name : (base t.device : StorageDevice).filename = d.filename := by rw [flushed.storage]; rfl
  simp only [StorageDevice.unreserveFile,wpSuper,wpBind,wpGetDevice,wpGetWorld,wpSetWorld,wpModifyDevice]
  refine wpMono (Disk.dropCacheBehind r _) (fun _ u dropped => ?_) fun _ _ failed => failed
  obtain ⟨files',world'⟩ := dropped.world
  exact ⟨dropped.transfer.trans flushed.transfer,files',by rw [world',world,name]⟩

theorem withinCleanUp {δ : Type} (put : δ → AnyDevice) {h : Handler δ Unit} {r : Request} {d : δ} {transfer : Transfer}
    {w : World} {name : String} (any : AnyDevice)
    (ends : wp h r ⟨d,transfer,w⟩ (fun _ t => t.transfer = transfer ∧ ∃ files, t.world = { w with
      files, reservedFiles := Function.update w.reservedFiles name none }) fun _ _ => False) :
    ∃ d' files, within put h d r ⟨any,transfer,w⟩ = (.ok (),⟨d',transfer,{ w with
      files, reservedFiles := Function.update w.reservedFiles name none }⟩) := by
  obtain ⟨_,t,ran,same,files,world⟩ := wpRuns ends
  refine ⟨put t.device,files,?_⟩
  simp only [within,ran]
  rw [same,world]

theorem cleanUpDone {d : AnyDevice} {s : StorageDevice} (h : d.storage = some s) (r : Request) (transfer : Transfer)
    (w : World) :
    ∃ d' files, cleanUp r ⟨d,transfer,w⟩ = (.ok (),⟨d',transfer,{ w with
      files, reservedFiles := Function.update w.reservedFiles s.filename none }⟩) := by
  cases d with
  | scsiHd d => cases h; exact withinCleanUp .scsiHd _ (diskCleanUp r d transfer w)
  | sasiHd d => cases h; exact withinCleanUp .sasiHd _ (diskCleanUp r d transfer w)
  | opticalMemory d => cases h; exact withinCleanUp .opticalMemory _ (diskCleanUp r d transfer w)
  | scsiCd d =>
    cases h
    have ends := diskCleanUp r d.toDisk transfer w
    exact withinCleanUp .scsiCd (h := super _) (d := d) _ ((wpSuper _).mpr ends)
  | tape d => cases h; exact ⟨_,w.files,rfl⟩
  | _ => cases h

theorem cleanUpOther {d : AnyDevice} (h : d.storage = none) (r : Request) (transfer : Transfer) (w : World) :
    ∃ d' files, cleanUp r ⟨d,transfer,w⟩ = (.ok (),⟨d',transfer,{ w with files }⟩) := by
  cases d with
  | printer d =>
    by_cases named : d.filename ≠ ""
    · refine ⟨.printer { d with isOpen := false, filename := "" },Function.update w.files d.filename none,?_⟩
      simp [cleanUp,Printer.cleanUp,bind,getDevice,within,named,getWorld,setWorld,modifyDevice]
    · refine ⟨.printer { d with isOpen := false, filename := "" },w.files,?_⟩
      simp [cleanUp,Printer.cleanUp,bind,getDevice,within,named,modifyDevice]
  | daynaPort d => exact ⟨_,w.files,rfl⟩
  | hostServices d => exact ⟨_,w.files,rfl⟩
  | scsiGeneric d => exact ⟨_,w.files,rfl⟩
  | _ => cases h

end AnyDevice
end Scsi2Pi
