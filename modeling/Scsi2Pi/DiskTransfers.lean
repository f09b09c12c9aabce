import Scsi2Pi.ChunkedTransfers
import Scsi2Pi.SectorAddresses
import Scsi2Pi.SectorTransfers

/-! The chunks of READ and WRITE: what ReadData and WriteData of a disk do to the sectors
behind it. -/
namespace Scsi2Pi
open Slices MemoryUtil Handler Derives Eff SectorArray

namespace AnyDevice
open Disk

/- The disks that read with ReadData of Disk. -/
def plainDisk : AnyDevice → Option Disk
  | .scsiHd d | .sasiHd d | .opticalMemory d => some d
  | .scsiCd _ | .tape _ | .printer _ | .daynaPort _ | .hostServices _ | .scsiGeneric _ => none

variable {any : AnyDevice} {d : Disk} {r : Request} {t : Transfer} {w : World}

theorem plainIsDisk (plain : any.plainDisk = some d) : any.disk = some d := by
  cases any with
  | scsiHd _ | sasiHd _ | opticalMemory _ => exact plain
  | _ => cases plain

theorem plainSet (plain : any.plainDisk = some d) (d' : Disk) : (any.setDisk d').plainDisk = some d' := by
  cases any with
  | scsiHd _ | sasiHd _ | opticalMemory _ => rfl
  | _ => cases plain

theorem plainPrimary (plain : any.plainDisk = some d) : any.primary = d.toPrimaryDevice := by
  cases any with
  | scsiHd _ | sasiHd _ | opticalMemory _ =>
    cases plain
    rfl
  | _ => cases plain

theorem plainFresh (plain : any.plainDisk = some d) :
    (BoardTarget.fresh any).plainDisk = some { d with toPrimaryDevice := d.toPrimaryDevice.resetStatus } := by
  cases any with
  | scsiHd _ | sasiHd _ | opticalMemory _ =>
    cases plain
    rfl
  | _ => cases plain

theorem plainReads (plain : any.plainDisk = some d) {result : Except ScsiException Int} {u : HandlerState Disk}
    (ran : Disk.readData r ⟨d,t,w⟩ = (result,u)) : methods.readData r ⟨any,t,w⟩ = (result,⟨any.setDisk u.device,u.transfer,u.world⟩) := by
  cases any with
  | scsiHd _ =>
    cases plain
    exact virtualRuns DiskClass.scsiHd (fun m => m.readData) ran
  | sasiHd _ =>
    cases plain
    exact virtualRuns DiskClass.sasiHd (fun m => m.readData) ran
  | opticalMemory _ =>
    cases plain
    exact virtualRuns DiskClass.opticalMemory (fun m => m.readData) ran
  | _ => cases plain

theorem plainWrites (plain : any.plainDisk = some d) {offset length : Int} {result : Except ScsiException Int} {u : HandlerState Disk}
    (ran : Disk.writeData length r ⟨d,t,w⟩ = (result,u)) :
    methods.writeData offset length r ⟨any,t,w⟩ = (result,⟨any.setDisk u.device,u.transfer,u.world⟩) := by
  cases any with
  | scsiHd _ =>
    cases plain
    exact virtualRuns DiskClass.scsiHd (fun m => m.writeData offset length) ran
  | sasiHd _ =>
    cases plain
    exact virtualRuns DiskClass.sasiHd (fun m => m.writeData offset length) ran
  | opticalMemory _ =>
    cases plain
    exact virtualRuns DiskClass.opticalMemory (fun m => m.writeData offset length) ran
  | _ => cases plain

end AnyDevice

namespace DiskOnBus
open Disk Controller BoardTarget

/- The file of a disk, the sectors in it, what is behind them, who has reserved the disk, and what is beside it. -/
structure Medium where
  name : String
  size : Nat
  count : Nat
  files : FileSystem
  rest : Bytes
  owner : Int := PrimaryDevice.notReserved
  luns : Nat → Option AnyDevice := fun _ => none

/- An accessible disk whose cache and file are these sectors. -/
structure Holds (medium : Medium) (a : Sectors) (d : Disk) (w : World) : Prop where
  accessible : d.Accessible
  writable : d.Writable
  unchanged : d.mediumChanged = false
  reserved : d.reservingInitiator = medium.owner
  size : d.blockSize = medium.size
  blocks : d.blocks = medium.count
  nonempty : 0 < medium.count
  addressable : medium.count ≤ 2^32
  sized : ∀ k < medium.count, (a k).length = medium.size
  cached : ∃ c, d.cache = some c ∧ Cache.Represents medium.name medium.size medium.count medium.files medium.rest (c,w.files) a ∧
    (d.cachingMode = .linuxOptimized → c.Streams)

/- So many sectors with each call of ReadData or WriteData, from this one on. -/
structure At (s p : Nat) (d : Disk) : Prop where
  next : d.nextSector = s
  perChunk : d.sectorTransferCount = p
  together : p = 1 ∨ d.cachingMode = .linuxOptimized

def Serves (medium : Medium) (a : Sectors) (any : AnyDevice) (w : World) : Prop := ∃ d, any.plainDisk = some d ∧ Holds medium a d w

def Moving (medium : Medium) (a : Sectors) (s p : Nat) (any : AnyDevice) (w : World) : Prop :=
  ∃ d, any.plainDisk = some d ∧ Holds medium a d w ∧ At s p d

variable {medium : Medium} {a : Sectors} {any : AnyDevice} {d : Disk} {w : World} {s p k : Nat}

theorem Moving.serves (moving : Moving medium a s p any w) : Serves medium a any w := by
  obtain ⟨d,plain,holds,_⟩ := moving
  exact ⟨d,plain,holds⟩

theorem Holds.sensed (holds : Holds medium a d w) : Holds medium a { d with toPrimaryDevice := d.toPrimaryDevice.resetStatus } w := by
  obtain ⟨accessible,writable,unchanged,reserved,size,blocks,nonempty,addressable,sized,cached⟩ := holds
  exact ⟨accessible,writable,unchanged,reserved,size,blocks,nonempty,addressable,sized,cached⟩

theorem Serves.fresh (serves : Serves medium a any w) : Serves medium a (fresh any) w := by
  obtain ⟨d,plain,holds⟩ := serves
  exact ⟨_,AnyDevice.plainFresh plain,holds.sensed⟩

theorem Holds.prepared (holds : Holds medium a d w) (start count : Nat) : Holds medium a (d.prepared start count) w := by
  obtain ⟨accessible,writable,unchanged,reserved,size,blocks,nonempty,addressable,sized,cached⟩ := holds
  exact ⟨accessible,writable,unchanged,reserved,size,blocks,nonempty,addressable,sized,cached⟩

theorem preparedAt (start count : Nat) : At start (d.perChunk count) (d.prepared start count) := by
  refine ⟨rfl,rfl,?_⟩
  change d.perChunk count = 1 ∨ d.cachingMode = .linuxOptimized
  by_cases optimized : d.cachingMode = .linuxOptimized
  · exact .inr optimized
  · exact .inl (if_neg optimized)

/- The disk behind a chunk. -/
theorem Holds.moved {b : Sectors} {c : Cache} {files : FileSystem} (holds : Holds medium a d w) (at_ : At s p d)
    (sized : ∀ k < medium.count, (b k).length = medium.size)
    (cached : Cache.Represents medium.name medium.size medium.count medium.files medium.rest (c,files) b)
    (streams : d.cachingMode = .linuxOptimized → c.Streams) :
    Holds medium b { d with cache := some c, nextSector := d.nextSector + d.sectorTransferCount } { w with files } ∧
      At (s + p) p { d with cache := some c, nextSector := d.nextSector + d.sectorTransferCount } := by
  obtain ⟨accessible,writable,unchanged,reserved,size,blocks,nonempty,addressable,_,_⟩ := holds
  obtain ⟨next,perChunk,together⟩ := at_
  refine ⟨⟨accessible,writable,unchanged,reserved,size,blocks,nonempty,addressable,sized,c,rfl,cached,streams⟩,?_,perChunk,together⟩
  change d.nextSector + d.sectorTransferCount = s + p
  rw [next,perChunk]

/-! A chunk. -/

theorem together {c : Cache} (at_ : At s p d) (streams : d.cachingMode = .linuxOptimized → c.Streams) : p = 1 ∨ c.Streams :=
  at_.together.imp_right streams

theorem withFilesRuns {α : Type} {q : Cache → FileSystem → α × Cache × FileSystem} {c c' : Cache} {result : α} {files : FileSystem}
    {r : Request} {t : Transfer} (ran : q c w.files = (result,c',files)) :
    withFiles q c r ⟨d,t,w⟩ = (.ok result,⟨{ d with cache := some c' },t,{ w with files }⟩) := by
  refine ranOk ?_
  unfold withFiles
  simp only [wpBind,wpGetWorld,wpModifyDevice,wpSetWorld,wpPure,ran]
  exact ⟨trivial,trivial⟩

theorem Holds.sector (holds : Holds medium a d w) (at_ : At s p d) (some_ : 0 < p) (inside : s + p ≤ medium.count) :
    uint32 d.nextSector = s := by
  have addressable := holds.addressable
  rw [at_.next]
  exact uint32Fits (by omega)

theorem loadsSectors (moving : Moving medium a s p any w) (some_ : 0 < p * medium.size) (bound : p * medium.size < 2^31)
    (inside : s + p ≤ medium.count) : ∃ any' w', Loads any w (span a s p) any' w' ∧ (span a s p).length = p * medium.size ∧
      Moving medium a (s + p) p any' w' := by
  obtain ⟨d,plain,holds,at_⟩ := moving
  obtain ⟨c,has,represents,streams⟩ := holds.cached
  obtain ⟨c',files,ran,after,kind⟩ := Cache.readSpan represents (together at_ streams) some_ bound inside
  obtain ⟨holds',at_'⟩ := holds.moved at_ holds.sized after fun optimized => kind (streams optimized)
  have length : (span a s p).length = p * medium.size := spanLength holds.sized inside
  refine ⟨_,_,fun r t => ?_,length,_,AnyDevice.plainSet plain _,holds',at_'⟩
  refine AnyDevice.plainReads plain (u := ⟨_,{ t with buffer := setBytes t.buffer 0 (span a s p) },{ w with files }⟩) ?_
  unfold readData
  refine (bindOk (checkReadyOk holds.accessible)).trans ((bindOk (getDeviceRan _ _)).trans ?_)
  dsimp only
  rw [has]
  dsimp only
  have loaded : c.readSectors w.files (uint32 d.nextSector) d.sectorTransferCount = (some (span a s p),c',files) := by
    rw [at_.perChunk,holds.sector at_ (Nat.pos_of_mul_pos_right some_) inside]
    exact ran
  refine (bindOk (withFilesRuns loaded)).trans ?_
  dsimp only
  refine ranOk ?_
  unfold fillBuffer
  simp only [wpBind,wpSetBuffer,wpModifyDevice,wpPure]
  rw [at_.perChunk,holds.size,sizeFits bound,length]
  exact ⟨rfl,trivial⟩

/- WRITE, not VERIFY or WRITE LONG. -/
def storing : List ScsiCommand := [.write6,.write10,.write16]

theorem storesSectors {asked : Request} {chunk : Bytes} (moving : Moving medium a s p any w) (write : asked.opcode ∈ storing)
    (some_ : 0 < p * medium.size) (bound : p * medium.size < 2^31) (inside : s + p ≤ medium.count)
    (full : chunk.length = p * medium.size) : ∃ any' w', Puts asked (p * medium.size) any w chunk any' w' ∧
      Moving medium (store medium.size a s p chunk) (s + p) p any' w' := by
  obtain ⟨d,plain,holds,at_⟩ := moving
  obtain ⟨c,has,represents,streams⟩ := holds.cached
  obtain ⟨c',files,ran,after,kind⟩ := Cache.writeSpan represents (together at_ streams) some_ bound inside full.ge
  obtain ⟨holds',at_'⟩ := holds.moved at_ (storeSized holds.sized full.ge) after fun optimized => kind (streams optimized)
  refine ⟨_,_,fun r t repeats front => ?_,_,AnyDevice.plainSet plain _,holds',at_'⟩
  refine AnyDevice.plainWrites plain (u := ⟨_,t,{ w with files }⟩) ?_
  have other : r.opcode ≠ .writeLong10 ∧ r.opcode ≠ .writeLong16 ∧ r.opcode ≠ .verify10 ∧ r.opcode ≠ .verify16 := by
    have opcode : r.opcode = asked.opcode := congrArg (·.getD 0 0) repeats.cdb
    rw [opcode]
    simp only [storing,List.mem_cons,List.not_mem_nil,or_false] at write
    rcases write with same | same | same <;> rw [same] <;> decide
  have stored : c.writeSectors w.files t.buffer (uint32 d.nextSector) d.sectorTransferCount = (true,c',files) := by
    rw [at_.perChunk,holds.sector at_ (Nat.pos_of_mul_pos_right some_) inside,
      ← Cache.writeTaken represents (together at_ streams) bound inside,front]
    exact ran
  have done : storeSectors r ⟨d,t,w⟩ = (.ok (),⟨{ d with cache := some c' },t,{ w with files }⟩) := by
    unfold storeSectors
    refine (bindOk (getDeviceRan _ _)).trans ((bindOk (x := getTransfer) rfl).trans ?_)
    dsimp only
    rw [has]
    refine (bindOk (withFilesRuns (q := fun c fs => c.writeSectors fs t.buffer (uint32 d.nextSector) d.sectorTransferCount) stored)).trans ?_
    rfl
  unfold writeData
  refine (bindOk (checkReadyOk holds.accessible)).trans ((bindOk (x := getRequest) rfl).trans ?_)
  rw [if_neg (by simp only [other,or_self,not_false_eq_true]),if_pos ⟨other.2.2.1,other.2.2.2⟩]
  exact bindOk done

/-! All chunks. -/

theorem suppliesSectors (moving : Moving medium a s p any w) (some_ : 0 < p * medium.size) (bound : p * medium.size < 2^31)
    (inside : s + k * p ≤ medium.count) : ∃ any' w', Supplies (p * medium.size) k any w (span a s (k * p)) any' w' ∧ Serves medium a any' w' := by
  induction k generalizing s any w with
  | zero =>
    rw [Nat.zero_mul,spanNone]
    exact ⟨any,w,.none,moving.serves⟩
  | succ k ih =>
    have several : (k+1) * p = p + k * p := by rw [Nat.succ_mul,Nat.add_comm]
    rw [several] at inside ⊢
    obtain ⟨next,w',loads,length,moving'⟩ := loadsSectors moving some_ bound (by omega)
    obtain ⟨last,w'',supplies,serves⟩ := ih moving' (by omega)
    rw [spanAppend]
    exact ⟨last,w'',.chunk loads length supplies,serves⟩

theorem takesSectors (asked : Request) {data : Bytes} (moving : Moving medium a s p any w) (write : asked.opcode ∈ storing) (some_ : 0 < p * medium.size)
    (bound : p * medium.size < 2^31) (inside : s + k * p ≤ medium.count) (full : k * (p * medium.size) ≤ data.length) :
    ∃ any' w', Takes asked (p * medium.size) k any w data any' w' ∧ Serves medium (store medium.size a s (k * p) data) any' w' := by
  induction k generalizing s any w a data with
  | zero =>
    rw [Nat.zero_mul,storeNone]
    exact ⟨any,w,.none,moving.serves⟩
  | succ k ih =>
    have several : (k+1) * p = p + k * p := by rw [Nat.succ_mul,Nat.add_comm]
    rw [several] at inside ⊢
    have one : p * medium.size ≤ data.length := (Nat.le_mul_of_pos_left _ (Nat.succ_pos k)).trans full
    have taken : (data.take (p * medium.size)).length = p * medium.size := List.length_take_of_le one
    obtain ⟨next,w',puts,moving'⟩ := storesSectors moving write some_ bound (by omega) taken
    rw [storeTake] at moving'
    obtain ⟨last,w'',takes,serves⟩ := @ih _ _ _ _ (data.drop (p * medium.size)) moving' (by omega)
      (by rw [List.length_drop]; rw [Nat.succ_mul] at full; omega)
    rw [storeAppend] at serves
    exact ⟨last,w'',.chunk puts takes,serves⟩

end DiskOnBus
end Scsi2Pi
