import Scsi2Pi.SharedDisk

/-! Several disks on one controller. Each of them is an array of sectors with an owner, and
what goes on at one LUN is nothing to the others. -/
namespace Scsi2Pi
open Slices SectorArray

/-! Caches do not care about the files of others. -/

section
variable {name : String} {size count : Nat} {before fs fs' : FileSystem} {rest : Bytes} {a : Sectors}

theorem LinuxCache.Represents.elsewhere {c : LinuxCache} (rep : LinuxCache.Represents name size count before rest c fs a)
    (same : fs' name = fs name) : LinuxCache.Represents name size count fs' rest c fs' a := by
  obtain ⟨filename,sectorSize,sectors,_,whole,⟨file,here,contents⟩,length,beyond,values⟩ := rep
  refine ⟨filename,sectorSize,sectors,fun _ _ => rfl,whole,⟨file,?_,contents⟩,length,beyond,values⟩
  rw [filename] at here ⊢
  exact same.trans here

theorem DiskCache.Represents.elsewhere {bits : Nat} {c : DiskCache} (rep : DiskCache.Represents name bits count before rest (c,fs) a)
    (same : fs' name = fs name) : DiskCache.Represents name bits count fs' rest (c,fs') a := by
  obtain ⟨path,shift,_,file,sound,beyond,values⟩ := rep
  dsimp only at path sound
  refine ⟨path,shift,fun _ _ => rfl,file,{ sound with here := ?_ },beyond,values⟩
  have here := sound.here
  rw [path] at here ⊢
  exact same.trans here

theorem Cache.Represents.elsewhere {c : Cache} (rep : Cache.Represents name size count before rest (c,fs) a) (same : fs' name = fs name) :
    Cache.Represents name size count fs' rest (c,fs') a := by
  cases rep with
  | tracks power rep => exact .tracks power (rep.elsewhere same)
  | stream some_ bound rep => exact .stream some_ bound (rep.elsewhere same)

theorem Cache.Represents.others {c : Cache} (rep : Cache.Represents name size count before rest (c,fs) a) :
    ∀ other ≠ name, fs other = before other := by
  cases rep with
  | tracks _ rep => exact rep.others
  | stream _ _ rep => exact rep.others

end

namespace DiskOnBus
open BoardTarget Controller

variable {medium : Medium} {a : Sectors} {lun targetId : Nat} {c d : Controller AnyDevice} {o : Order} {steps : Nat}

/- With what is beside the disk now. -/
def Medium.among (medium : Medium) (c : Controller AnyDevice) : Medium := { medium with files := c.world.files, luns := c.luns }

theorem OnBus.files (onBus : OnBus medium lun c a) : ∀ other ≠ medium.name, c.world.files other = medium.files other := by
  obtain ⟨_,_,_,_,holds⟩ := onBus.serves
  obtain ⟨_,_,represents,_⟩ := holds.cached
  exact represents.others

/- Nothing has happened to the disk or to its file. -/
theorem OnBus.elsewhere (onBus : OnBus medium lun c a) (idle : Idle d) (room : 0 < d.transfer.buffer.length) (luns : d.luns lun = c.luns lun)
    (file : d.world.files medium.name = c.world.files medium.name) : OnBus (medium.among d) lun d a := by
  obtain ⟨_,_,⟨dev,here,disk,plain,holds⟩,_⟩ := onBus
  obtain ⟨accessible,writable,unchanged,reserved,size,blocks,nonempty,addressable,sized,cache,has,represents,streams⟩ := holds
  exact ⟨idle,room,⟨dev,luns.trans here,disk,plain,accessible,writable,unchanged,reserved,size,blocks,nonempty,addressable,sized,cache,has,
    represents.elsewhere file,streams⟩,fun _ _ => rfl⟩

/- The disks at these LUNs are these arrays. -/
structure Several (luns : List Nat) (medium : Nat → Medium) (targetId : Nat) (c : Controller AnyDevice) (s : Nat → Sectors × Int) : Prop where
  targetId : c.targetId = targetId
  disks : ∀ lun ∈ luns, OnBus { (medium lun).among c with owner := (s lun).2 } lun c (s lun).1

def severalStep (medium : Nat → Medium) (steps : Nat) (c : Controller AnyDevice) (o : Nat × Order) : Reply × Controller AnyDevice :=
  busStep ⟨o.1⟩ (medium o.1).name steps c o.2

def arraysStep (medium : Nat → Medium) (targetId : Nat) (s : Sectors × Int) (o : Nat × Order) : Reply × (Sectors × Int) :=
  sharedStep (medium o.1) targetId s o.2

theorem severalAgree {luns : List Nat} {medium : Nat → Medium} {s : Nat → Sectors × Int} (several : Several luns medium targetId c s)
    (distinct : ∀ l ∈ luns, ∀ m ∈ luns, (medium l).name = (medium m).name → l = m) {x : Nat × Order} (member : x.1 ∈ luns) (lun : x.1 < 32)
    (legal : LegalShared (medium x.1) steps x.2) :
    (severalStep medium steps c x).1 = (Mealy.beside Prod.fst (arraysStep medium targetId) s x).1 ∧
      Several luns medium targetId (severalStep medium steps c x).2 (Mealy.beside Prod.fst (arraysStep medium targetId) s x).2 := by
  obtain ⟨l,o⟩ := x
  have onBus := several.disks l member
  have shared : Shared ((medium l).among c) l targetId c (s l) := ⟨onBus,several.targetId⟩
  obtain ⟨same,next⟩ := @sharedAgrees ((medium l).among c) c o ⟨l⟩ steps targetId (s l) lun shared (legal.sized rfl)
  have kept := next.onBus.others
  have files := next.onBus.files
  refine ⟨same,next.targetId,fun m other => ?_⟩
  by_cases here : m = l
  · subst here
    have own : (Mealy.beside Prod.fst (arraysStep medium targetId) s (m,o)).2 m = (sharedStep (medium m) targetId (s m) o).2 :=
      Function.update_self _ _ _
    rw [own]
    exact next.onBus.elsewhere next.onBus.idle next.onBus.room rfl rfl
  · have apart : (Mealy.beside Prod.fst (arraysStep medium targetId) s (l,o)).2 m = s m := Function.update_of_ne here _ _
    rw [apart]
    refine (several.disks m other).elsewhere next.onBus.idle next.onBus.room (kept m here) (files _ fun same => here ?_)
    exact distinct m other l member same

/- A disk and its image file. -/
structure Drive where
  disk : Disk
  path : String
  file : Bytes

def Drive.mediumIn (drive : Drive) (files : FileSystem) : Medium := mediumOf drive.disk drive.path files drive.file

def Drive.array (drive : Drive) : Sectors × Int := (ofImage drive.disk.blockSize drive.file,drive.disk.reservingInitiator)

/- The drives at these LUNs have just been opened, each of them with a file of its own. -/
structure Attached (luns : List Nat) (drives : Nat → Drive) (c : Controller AnyDevice) : Prop where
  numbers : ∀ lun ∈ luns, lun < 32
  here : ∀ lun ∈ luns, ∃ dev, c.luns lun = some dev ∧ dev.plainDisk = some (drives lun).disk
  opened : ∀ lun ∈ luns, Opened (drives lun).disk (drives lun).path c.world.files (drives lun).file
  distinct : ∀ l ∈ luns, ∀ m ∈ luns, (drives l).path = (drives m).path → l = m

theorem Attached.several {luns : List Nat} {drives : Nat → Drive} (attached : Attached luns drives c) (idle : Idle c)
    (room : 0 < c.transfer.buffer.length) :
    Several luns (fun lun => (drives lun).mediumIn c.world.files) c.targetId c fun lun => (drives lun).array := by
  refine ⟨rfl,fun lun member => ?_⟩
  obtain ⟨dev,here,plain⟩ := attached.here lun member
  exact ⟨idle,room,⟨dev,here,_,plain,(attached.opened lun member).holds.beside c.luns⟩,fun _ _ => rfl⟩

end DiskOnBus
open DiskOnBus BoardTarget

section
variable {luns : List Nat} {drives : Nat → Drive} {c : Controller AnyDevice} {orders : List (Nat × Order)}

/- The disks and the arrays go through a run side by side. -/
theorem severalRun (idle : Idle c) (room : 0 < c.transfer.buffer.length) (attached : Attached luns drives c) (steps : Nat)
    (legal : ∀ o ∈ orders, o.1 ∈ luns ∧ LegalShared ((drives o.1).mediumIn c.world.files) steps o.2) :
    let medium (l : Nat) := (drives l).mediumIn c.world.files
    Mealy.outputs (severalStep medium steps) c orders =
        Mealy.outputs (Mealy.beside Prod.fst (arraysStep medium c.targetId)) (fun l => (drives l).array) orders ∧
      Several luns medium c.targetId (Mealy.final (severalStep medium steps) c orders)
        (Mealy.final (Mealy.beside Prod.fst (arraysStep medium c.targetId)) (fun l => (drives l).array) orders) := by
  intro medium
  have agree : ∀ c' s o, Several luns medium c.targetId c' s → (o.1 ∈ luns ∧ LegalShared (medium o.1) steps o.2) →
      (severalStep medium steps c' o).1 = (Mealy.beside Prod.fst (arraysStep medium c.targetId) s o).1 ∧
        Several luns medium c.targetId (severalStep medium steps c' o).2 (Mealy.beside Prod.fst (arraysStep medium c.targetId) s o).2 :=
    fun _ _ o several legal => severalAgree several attached.distinct legal.1 (attached.numbers _ legal.1) legal.2
  exact Mealy.simulation agree (attached.several idle room) legal

/- The commands for one of the disks, for its array. -/
theorem ownOrders {medium : Nat → Medium} {targetId lun : Nat} {o : Nat × Order} (s : SectorArray.Sectors × Int)
    (member : o ∈ orders.filter fun o => o.1 = lun) : arraysStep medium targetId s o = sharedStep (medium lun) targetId s o.2 := by
  have here : o.1 = lun := of_decide_eq_true (List.mem_filter.mp member).2
  unfold arraysStep
  rw [here]

end

namespace DiskOnBus

/- Disks in both caching modes, with the same size and different files. -/
def twoDrives (lun : Nat) : Drive :=
  if lun = 3 then ⟨smallDisk .piscsi 7,"small.hds",blank⟩
  else ⟨{ smallDisk .linux 7 with cache := some (MediumGeometry.newCache (smallDisk .linux 7) "other.hds") },"other.hds",blank⟩

def withTwoDisks : Controller AnyDevice where
  luns lun := if lun = 3 ∨ lun = 4 then some (.scsiHd (twoDrives lun).disk) else none
  world := { files := fun name => if name = "small.hds" ∨ name = "other.hds" then some blank else none }

/- The commands for one of the disks go to each of them in turn. -/
def alternating : List (Nat × Order) := someOrders.flatMap fun o => [(3,o),(4,o)]

theorem twoRoom : 0 < withTwoDisks.transfer.buffer.length := by
  change 0 < (List.replicate 512 (0 : UInt8)).length
  rw [List.length_replicate]
  decide

theorem twoAttached : Attached [3,4] twoDrives withTwoDisks := by
  refine ⟨fun lun member => ?_,fun lun member => ?_,fun lun member => ?_,fun l first m second same => ?_⟩
  all_goals simp only [List.mem_cons,List.not_mem_nil,or_false] at *
  · omega
  · rcases member with rfl | rfl <;> exact ⟨_,rfl,rfl⟩
  · have fits : 2 * 512 ≤ blank.length := by
      rw [blank,List.length_replicate]
    rcases member with rfl | rfl
    · exact ⟨⟨rfl,rfl,rfl⟩,rfl,rfl,Nat.succ_pos _,by change 2 ≤ 2^32; decide,rfl,by simp [twoDrives,smallDisk,ImageAccess.standardSizes],
        fun _ => by change 2 < 2^31; decide,rfl,fits⟩
    · exact ⟨⟨rfl,rfl,rfl⟩,rfl,rfl,Nat.succ_pos _,by change 2 ≤ 2^32; decide,rfl,by simp [twoDrives,smallDisk,ImageAccess.standardSizes],
        fun _ => by change 2 < 2^31; decide,rfl,fits⟩
  · rcases first with rfl | rfl <;> rcases second with rfl | rfl
    · rfl
    · exact absurd same (by decide)
    · exact absurd same (by decide)
    · rfl

theorem alternatingLegal : ∀ o ∈ alternating, o.1 ∈ [3,4] ∧ LegalShared ((twoDrives o.1).mediumIn withTwoDisks.world.files) 4 o.2 := by
  intro x member
  obtain ⟨o,some_,here⟩ := List.mem_flatMap.mp member
  simp only [List.mem_cons,List.not_mem_nil,or_false] at here
  rcases here with rfl | rfl
  · exact ⟨by simp,.inl (someLegal rfl o some_)⟩
  · exact ⟨by simp,.inl (someLegal rfl o some_)⟩

end DiskOnBus

end Scsi2Pi
