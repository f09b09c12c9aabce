import Scsi2Pi.DeviceFactory
import Scsi2Pi.Medium

/-! What identifies an attached device, its LUN, its type and its medium, and that
the configuration of a device leaves it as it is. -/
namespace Scsi2Pi.AnyDevice

/- The names of the files in use and used last, and the flags about the medium. -/
def medium (d : AnyDevice) : Option (String × String × Bool × Bool) :=
  d.storage.map fun s => (s.filename,s.lastFilename,s.mediumChanged,s.removed)

theorem mediumStorage {d : AnyDevice} {s : StorageDevice} (h : d.storage = some s) :
    d.medium = some (s.filename,s.lastFilename,s.mediumChanged,s.removed) := by
  rw [medium,h]
  rfl

structure SameUnit (d e : AnyDevice) : Prop where
  lun : e.primary.lun = d.primary.lun
  type : e.primary.type = d.primary.type
  removed : e.primary.removed = d.primary.removed
  medium : e.medium = d.medium

theorem SameUnit.refl (d : AnyDevice) : SameUnit d d := ⟨rfl,rfl,rfl,rfl⟩

theorem SameUnit.trans {d e f : AnyDevice} (h : SameUnit d e) (h' : SameUnit e f) : SameUnit d f :=
  ⟨h'.lun.trans h.lun,h'.type.trans h.type,h'.removed.trans h.removed,h'.medium.trans h.medium⟩

theorem setPrimaryPrimary (d : AnyDevice) (b : PrimaryDevice) : (d.setPrimary b).primary = b := by
  cases d <;> rfl

theorem setPrimaryStorage (d : AnyDevice) (b : PrimaryDevice) :
    (d.setPrimary b).storage = d.storage.map fun s => { s with toPrimaryDevice := b } := by
  cases d <;> rfl

theorem mapStorageStorage (d : AnyDevice) (f : StorageDevice → StorageDevice) :
    (d.mapStorage f).storage = d.storage.map f := by
  cases d <;> rfl

theorem setPrimarySameUnit (d : AnyDevice) {b : PrimaryDevice} (lun : b.lun = d.primary.lun)
    (type : b.type = d.primary.type) (removed : b.removed = d.primary.removed) : SameUnit d (d.setPrimary b) := by
  refine ⟨?_,?_,?_,?_⟩
  · rw [setPrimaryPrimary,lun]
  · rw [setPrimaryPrimary,type]
  · rw [setPrimaryPrimary,removed]
  · simp only [medium,setPrimaryStorage]
    cases h : d.storage with
    | none => rfl
    | some s => simp [removed,primaryStorage h]

theorem configuredSameUnit (d : AnyDevice) (size : Nat) :
    SameUnit d (d.mapStorage fun s => { s with configuredBlockSize := size }) := by
  cases d <;> exact ⟨rfl,rfl,rfl,rfl⟩

theorem setCachingModeStorage (d : AnyDevice) (mode : CachingMode) : (d.setCachingMode mode).storage = d.storage := by
  cases d <;> rfl

theorem setCachingModePrimary (d : AnyDevice) (mode : CachingMode) : (d.setCachingMode mode).primary = d.primary := by
  cases d <;> rfl

theorem setCachingModeSameUnit (d : AnyDevice) (mode : CachingMode) : SameUnit d (d.setCachingMode mode) := by
  cases d <;> exact ⟨rfl,rfl,rfl,rfl⟩

theorem setParamsSameUnit (d : AnyDevice) (host : Host) (params : List (String × String)) :
    SameUnit d (d.setParams host params) :=
  setPrimarySameUnit d rfl rfl rfl

theorem setScsiLevelSameUnit {d e : AnyDevice} {level : ScsiLevel} (h : d.setScsiLevel level = some e) :
    SameUnit d e := by
  simp only [setScsiLevel,PrimaryDevice.setScsiLevel] at h
  split at h
  · cases h
  · cases h
    exact setPrimarySameUnit d rfl rfl rfl

theorem setProductDataSource {d b : PrimaryDevice} {vendor product revision : String} {force : Bool}
    (h : d.setProductData vendor product revision force = .ok b) : ∃ p, b = { d with productData := p } := by
  simp only [PrimaryDevice.setProductData] at h
  split at h
  · cases h
  · split at h
    · cases h
    · split at h
      · cases h
      · cases h
        exact ⟨_,rfl⟩

theorem setProductDataSameUnit {d e : AnyDevice} {vendor product revision : String}
    (h : d.setProductData vendor product revision = .ok e) : SameUnit d e := by
  have named : (d.primary.setProductData vendor product revision true).map d.setPrimary = .ok e → SameUnit d e := by
    intro h
    cases changed : d.primary.setProductData vendor product revision true with
    | error text =>
      rw [changed] at h
      cases h
    | ok b =>
      rw [changed] at h
      cases h
      obtain ⟨p,rfl⟩ := setProductDataSource changed
      exact setPrimarySameUnit d rfl rfl rfl
  cases d with
  | scsiGeneric d =>
    simp only [setProductData] at h
    split at h
    · cases h
      exact .refl _
    · cases h
  | _ => exact named h

theorem initSameUnit {d e : AnyDevice} {host : Host} (h : d.init host = .ok e) : SameUnit d e := by
  cases d with
  | printer d =>
    simp only [init] at h
    split at h
    · cases h
      exact .refl _
    · cases h
  | daynaPort d =>
    simp only [init] at h
    split at h
    · cases h
      exact .refl _
    · cases h
  | scsiGeneric d =>
    cases answer : host.sgDevice d.device with
    | error text => simp [init,answer,Except.map] at h
    | ok sg =>
      simp only [init,answer,Except.map,Except.ok.injEq] at h
      subst h
      exact ⟨rfl,rfl,rfl,rfl⟩
  | _ =>
    cases h
    exact .refl _

end Scsi2Pi.AnyDevice
