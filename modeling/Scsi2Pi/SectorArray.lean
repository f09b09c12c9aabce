import Scsi2Pi.FileSystem
import Scsi2Pi.Mealy

/-! What a disk image is for its user: an array of sectors of one size. A read
returns the sector last written, a flush makes the image file this array. -/
namespace Scsi2Pi.SectorArray
open Slices

inductive Op where
  | read (sector : Nat)
  | write (sector : Nat) (buf : Bytes)
  | flush
  deriving DecidableEq, Repr

inductive Reply where
  | data (bytes : Option Bytes)
  | written (ok : Bool)
  | flushed (ok : Bool) (image : Option Bytes)
  deriving DecidableEq, Repr

/- The buffer of a write may be longer than the sector. -/
def Op.Valid (size count : Nat) : Op → Prop
  | .read s => s < count
  | .write s buf => s < count ∧ size ≤ buf.length
  | .flush => True

abbrev Sectors := Nat → Bytes

def ofImage (size : Nat) (image : Bytes) : Sectors := block size image

def image (count : Nat) (a : Sectors) : Bytes := (List.range count).flatMap a

def step (size count : Nat) (a : Sectors) : Op → Reply × Sectors
  | .read s => (.data (some (a s)),a)
  | .write s buf => (.written true,Function.update a s (buf.take size))
  | .flush => (.flushed true (some (image count a)),a)

/- The file may go on behind the array. -/
def Reply.before (rest : Bytes) : Reply → Reply
  | .flushed ok image => .flushed ok (image.map (· ++ rest))
  | reply => reply

def stepBefore (size count : Nat) (rest : Bytes) (a : Sectors) (op : Op) : Reply × Sectors :=
  ((step size count a op).1.before rest,(step size count a op).2)

theorem stepBeforeNil (size count : Nat) : stepBefore size count [] = step size count := by
  funext a op
  cases op with
  | read _ | write _ _ => rfl
  | flush => simp [stepBefore,step,Reply.before]

theorem imageOfBlocks {size count : Nat} {file : Bytes} (len : file.length = count*size) {a : Sectors}
    (same : ∀ s < count, block size file s = a s) : image count a = file := by
  have blocks : (List.range count).map a = (List.range count).map (block size file) :=
    List.map_congr_left fun s hs => (same s (List.mem_range.mp hs)).symm
  rw [image,List.flatMap_def,blocks,← List.flatMap_def]
  exact flatMapBlocks file count len

/- Writes inside the array keep every sector at its size. -/
theorem stepSized {size count : Nat} (a : Sectors) (op : Op) (sized : ∀ s < count, (a s).length = size)
    (valid : op.Valid size count) : ∀ s < count, ((step size count a op).2 s).length = size := by
  intro s hs
  cases op with
  | read _ => exact sized s hs
  | flush => exact sized s hs
  | write sector buf =>
    simp only [step,Function.update_apply]
    split
    · exact List.length_take_of_le valid.2
    · exact sized s hs

theorem imageLength {size count : Nat} {a : Sectors} (sized : ∀ s < count, (a s).length = size) :
    (image count a).length = count*size := by
  have each : (List.range count).map (fun s => (a s).length) = (List.range count).map fun _ => size :=
    List.map_congr_left fun s hs => sized s (List.mem_range.mp hs)
  simp [image,each]

theorem finalSized {size count : Nat} {file : Bytes} (len : file.length = count*size) {ops : List Op}
    (valid : ∀ op ∈ ops, op.Valid size count) :
    ∀ s < count, (Mealy.final (step size count) (ofImage size file) ops s).length = size :=
  Mealy.runInvariant stepSized (fun _ hs => blockLength len hs) valid

/-! The array after any operations holds in every sector the bytes written last,
or those of the image if the sector was never written. -/

def lastWritten (size sector : Nat) : List Op → Option Bytes
  | [] => none
  | .write s buf :: later => match lastWritten size sector later with
    | some bytes => some bytes
    | none => if s = sector then some (buf.take size) else none
  | _ :: later => lastWritten size sector later

theorem finalLastWritten (size count : Nat) (a : Sectors) (ops : List Op) (s : Nat) :
    Mealy.final (step size count) a ops s = (lastWritten size s ops).getD (a s) := by
  induction ops generalizing a with
  | nil => rfl
  | cons op later ih =>
    rw [Mealy.finalCons,ih]
    cases op with
    | read _ => rfl
    | flush => rfl
    | write sector buf =>
      simp only [lastWritten,step,Function.update_apply]
      cases lastWritten size s later with
      | some bytes => rfl
      | none =>
        by_cases same : s = sector
        · simp [same]
        · simp [same,Ne.symm same]

end Scsi2Pi.SectorArray
