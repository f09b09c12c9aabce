import Scsi2Pi.CommandExecutor
import Scsi2Pi.SeveralDisks

/-! Disks that leave service: DETACH_ALL writes the caches back, and every image file is the
array of its disk. -/
namespace Scsi2Pi
open Slices SectorArray Handler Eff

namespace Cache

variable {name : String} {size count : Nat} {before fs : FileSystem} {rest : Bytes} {c : Cache} {a : Sectors}

/- There is nothing left to be written by the end of the cache. -/
theorem dropFlushed (rep : Represents name size count before rest (c,fs) a) (stored : fs name = some (image count a ++ rest)) :
    c.drop fs name = some (image count a ++ rest) ∧ ∀ other ≠ name, c.drop fs other = fs other := by
  cases rep with
  | tracks _ _ => exact ⟨stored,fun _ _ => rfl⟩
  | @stream c _ _ _ _ rep =>
    obtain ⟨c',fs',ran,again,next⟩ := LinuxCache.flushRepresents rep
    have closed : c.close fs = fs' := congrArg (fun s => s.2.2) ran
    have others := (rep.elsewhere rfl).others
    obtain ⟨whole,holds,_⟩ := rep.whole
    have synced := LinuxCache.syncHolds holds
    have closes : c.close fs = Function.update fs c.filename (some whole) := congrArg (fun s => s.2.2) synced
    change c.close fs name = _ ∧ _
    rw [next.filename] at again
    refine ⟨by rw [closed,again],fun other apart => ?_⟩
    change c.close fs other = _
    rw [closes,rep.filename,Function.update_of_ne apart]

end Cache

namespace DiskOnBus
open Disk

variable {medium : Medium} {a : Sectors} {any : AnyDevice} {d : Disk} {r : Request} {t : Transfer} {w : World}

/- The file of the disk is its array, and the files of others are as before. -/
def Stored (medium : Medium) (a : Sectors) (before after : FileSystem) : Prop :=
  after medium.name = some (image medium.count a ++ medium.rest) ∧ ∀ other ≠ medium.name, after other = before other

/- The cache is written back and given up. -/
theorem Holds.cleansUp (holds : Holds medium a d w) : ∃ u, (do Disk.cleanUp; Disk.dropCache : Handler Disk Unit) r ⟨d,t,w⟩ = (.ok (),u) ∧
    Stored medium a w.files u.world.files := by
  obtain ⟨c,has,represents,_⟩ := holds.cached
  obtain ⟨c',files,ran,stored,after,_⟩ := Cache.flushImage represents
  obtain ⟨closed,kept⟩ := Cache.dropFlushed after stored
  suffices ends : wp (do Disk.cleanUp; Disk.dropCache : Handler Disk Unit) r ⟨d,t,w⟩
      (fun _ u => Stored medium a w.files u.world.files) fun _ _ => False by
    obtain ⟨_,u,ran,stored⟩ := wpRuns ends
    exact ⟨u,ran,stored⟩
  unfold Disk.cleanUp flushCache StorageDevice.unreserveFile dropCache withFiles
  simp only [wpBind,wpGetDevice,has,holds.accessible.2.2,wpIte,wpGetWorld,wpModifyDevice,wpSetWorld,wpPure,wpSuper,ran]
  refine ⟨fun _ => ⟨closed,fun other apart => ?_⟩,fun wrong => absurd trivial wrong⟩
  exact (kept other apart).trans ((after.others other apart).trans (represents.others other apart).symm)

theorem Serves.cleansUp (serves : Serves medium a any w) : ∃ u, AnyDevice.cleanUp r ⟨any,t,w⟩ = (.ok (),u) ∧
    Stored medium a w.files u.world.files := by
  obtain ⟨d,plain,holds⟩ := serves
  obtain ⟨u,ran,stored⟩ := holds.cleansUp (r := r) (t := t)
  cases any with
  | scsiHd _ =>
    cases plain
    have within : AnyDevice.within .scsiHd (do Disk.cleanUp; Disk.dropCache) d r ⟨.scsiHd d,t,w⟩ = _ := AnyDevice.withinRan ran
    exact ⟨_,within,stored⟩
  | sasiHd _ =>
    cases plain
    have within : AnyDevice.within .sasiHd (do Disk.cleanUp; Disk.dropCache) d r ⟨.sasiHd d,t,w⟩ = _ := AnyDevice.withinRan ran
    exact ⟨_,within,stored⟩
  | opticalMemory _ =>
    cases plain
    have within : AnyDevice.within .opticalMemory (do Disk.cleanUp; Disk.dropCache) d r ⟨.opticalMemory d,t,w⟩ = _ := AnyDevice.withinRan ran
    exact ⟨_,within,stored⟩
  | _ => cases plain

theorem Serves.elsewhere {w' : World} (serves : Serves medium a any w) (file : w'.files medium.name = w.files medium.name) :
    Serves { medium with files := w'.files } a any w' := by
  obtain ⟨d,plain,accessible,writable,unchanged,reserved,size,blocks,nonempty,addressable,sized,cache,has,represents,streams⟩ := serves
  exact ⟨d,plain,accessible,writable,unchanged,reserved,size,blocks,nonempty,addressable,sized,cache,has,represents.elsewhere file,streams⟩

/-! All devices. -/

open CommandExecutor

variable {medium : Nat → Medium} {arrays : Nat → Sectors} {device : Nat → AnyDevice} {luns : List Nat} {e : CommandExecutor}

theorem callsCleanUp {a : Sectors} {m : Medium} (serves : Serves m a any e.world) (host : Host) (id : Int) : ∃ d' w',
    call AnyDevice.cleanUp id any host e = (.ok ((),d'),{ e with world := w' }) ∧ Stored m a e.world.files w'.files := by
  obtain ⟨u,ran,stored⟩ := serves.cleansUp (r := { cdb := [], targetId := id }) (t := {})
  refine ⟨u.device,u.world,ranOk ?_,stored⟩
  unfold call
  generalize ({} : Transfer) = t at ran ⊢
  simp [ran]

/- One after the other. -/
theorem cleansUpAll (nodup : luns.Nodup) (distinct : ∀ l ∈ luns, ∀ m ∈ luns, (medium l).name = (medium m).name → l = m)
    (serves : ∀ lun ∈ luns, ∃ owner beside,
      Serves { medium lun with files := e.world.files, owner := owner, luns := beside } (arrays lun) (device lun) e.world)
    (host : Host) (id : Int) :
    ∃ w, cleanUpAll (luns.map fun lun => (id,device lun)) host e = (.ok (),{ e with world := w }) ∧
      (∀ lun ∈ luns, w.files (medium lun).name = some (image (medium lun).count (arrays lun) ++ (medium lun).rest)) ∧
      ∀ other, (∀ lun ∈ luns, other ≠ (medium lun).name) → w.files other = e.world.files other := by
  induction luns generalizing e with
  | nil => exact ⟨e.world,rfl,fun _ member => absurd member List.not_mem_nil,fun _ _ => rfl⟩
  | cons lun rest ih =>
    obtain ⟨fresh,nodup'⟩ := List.nodup_cons.mp nodup
    obtain ⟨_,_,first⟩ := serves lun List.mem_cons_self
    obtain ⟨d',w',called,stored,kept⟩ := callsCleanUp first host id
    have apart : ∀ m ∈ rest, (medium m).name ≠ (medium lun).name := fun m member same =>
      fresh (distinct m (List.mem_cons_of_mem _ member) lun List.mem_cons_self same ▸ member)
    obtain ⟨w,ran,files,others⟩ := @ih { e with world := w' } nodup'
      (fun l first m second => distinct l (List.mem_cons_of_mem _ first) m (List.mem_cons_of_mem _ second))
      (fun m member => by
        obtain ⟨owner,beside,later⟩ := serves m (List.mem_cons_of_mem _ member)
        exact ⟨owner,beside,later.elsewhere (kept _ (apart m member))⟩)
    refine ⟨w,(bindOk called).trans ran,fun l member => ?_,fun other outside => ?_⟩
    · rcases List.mem_cons.mp member with rfl | later
      · rw [others _ fun m member => (apart m member).symm]
        exact stored
      · exact files l later
    · rw [others other fun m member => outside m (List.mem_cons_of_mem _ member)]
      exact kept other (outside lun List.mem_cons_self)

end DiskOnBus
open DiskOnBus BoardTarget CommandExecutor

namespace DiskOnBus

/- The two disks behind their commands. -/
def usedDisks : Controller AnyDevice :=
  Mealy.final (severalStep (fun l => (twoDrives l).mediumIn withTwoDisks.world.files) 4) withTwoDisks alternating

theorem usedDisksEq : Mealy.final (severalStep (fun l => (twoDrives l).mediumIn withTwoDisks.world.files) 4) withTwoDisks alternating = usedDisks :=
  rfl

def diskOf (c : Controller AnyDevice) (lun : Nat) : AnyDevice := (c.luns lun).getD (.scsiHd (twoDrives lun).disk)

def executorOf (c : Controller AnyDevice) : CommandExecutor where
  controllers := AList.insert 0 (AList.insert 3 (diskOf c 3) (AList.insert 4 (diskOf c 4) ∅)) ∅
  world := c.world

theorem executorWorld (c : Controller AnyDevice) : (executorOf c).world = c.world := rfl

theorem executorDevices (c : Controller AnyDevice) : (executorOf c).getAllDevices = [3,4].map fun lun => (0,diskOf c lun) := rfl

theorem diskHere {c : Controller AnyDevice} {lun : Nat} {dev : AnyDevice} (here : c.luns lun = some dev) : c.luns lun = some (diskOf c lun) := by
  rw [diskOf,here]
  rfl

theorem usedHere : ∀ lun ∈ [3,4], usedDisks.luns lun = some (diskOf usedDisks lun) := by
  intro lun member
  obtain ⟨_,several⟩ := severalRun ⟨rfl,rfl,rfl,rfl⟩ twoRoom twoAttached 4 alternatingLegal
  rw [usedDisksEq] at several
  obtain ⟨_,here,_⟩ := (several.disks lun member).serves
  exact diskHere here

end DiskOnBus

end Scsi2Pi
