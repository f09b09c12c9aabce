import Scsi2Pi.TapeDump
import Scsi2Pi.TapeRestore

/-! Copying a tape: what s2pdump restores is what it has dumped, even where the file in between is
none that other programs can read. -/
namespace Scsi2Pi
open Slices MemoryUtil SimhUtil Eff DumpEff

namespace TapeCopy
open S2pDumpExecutor RecordingDrive TapeRestore
open TapeDump (Valid RecordedTape Written recorded)

variable {i : BoardExecutor.Initiator} {s : DumpState RecordingDrive} {contents : List TapeItem} {before buf : Bytes} {passes : Nat}
  {items : List TapeItem}

theorem lengthWordLength (length : Nat) : (lengthWord length).length = metaDataSize := rfl

/- The data between the length words, without a pad byte. -/
theorem blockParts (before data after : Bytes) :
    slice (before ++ (recorded (.block data) ++ after)) (before.length + metaDataSize) data.length = data ∧
      (before ++ recorded (.block data)).length = before.length + metaDataSize + data.length + metaDataSize := by
  have front : before ++ (recorded (.block data) ++ after) = (before ++ lengthWord data.length) ++ (data ++ (lengthWord data.length ++ after)) := by
    simp only [recorded,List.append_assoc]
  constructor
  · have here := sliceMiddle (before ++ lengthWord data.length) data (lengthWord data.length ++ after)
    rw [List.length_append,lengthWordLength] at here
    rw [front]
    exact here
  · simp only [recorded,List.length_append,lengthWordLength]
    omega

theorem wordLength (item : TapeItem) (bare : ∀ data, item ≠ .block data) : (before ++ recorded item).length = before.length + metaDataSize := by
  cases item with
  | block data => exact absurd rfl (bare data)
  | unreadable => rw [List.length_append]; rfl
  | filemark => rw [List.length_append]; rfl

/- An item comes back, and the next one is where the loop goes on. -/
theorem copyItem {item : TapeItem} {after : Bytes} {Q : Unit → DumpState RecordingDrive → Prop}
    (valid : ∀ data, item = .block data → 0 < data.length ∧ data.length < 2^24) (known : Has items s)
    (rest : ∀ buf t, Has (items ++ recordedItems [item]) t →
      wp (S2pDump.restoreTape (BoardExecutor.virtual i) (before ++ (recorded item ++ after)) passes (before ++ recorded item).length buf) answer t Q
        fun _ _ => False) :
    wp (S2pDump.restoreTape (BoardExecutor.virtual i) (before ++ (recorded item ++ after)) (passes+1) before.length buf) answer s Q
      fun _ _ => False := by
  cases item with
  | block data =>
    obtain ⟨some_,small⟩ := valid data rfl
    obtain ⟨here,behind⟩ := blockParts before data after
    have word : readMetaData (some (before ++ (recorded (.block data) ++ after))) before.length = some ⟨.tapeMarkGoodDataRecord,data.length⟩ := by
      rw [recorded,TapeDump.lengthWordMetaData (by omega),List.append_assoc,List.append_assoc]
      exact readMetaDataAt (by exact Nat.lt_trans small (by decide)) before _
    refine restoreRecord word (.inl rfl) (List.ne_nil_of_length_pos some_) small here known fun buf t known => ?_
    rw [← behind]
    exact rest buf t known
  | unreadable =>
    have word : readMetaData (some (before ++ (recorded .unreadable ++ after))) before.length = some ⟨.badDataRecord,0⟩ :=
      readMetaDataAt (m := ⟨.badDataRecord,0⟩) (by decide) before after
    refine restoreOther word (by decide) (by decide) (by decide) ?_
    rw [← wordLength .unreadable fun _ => by simp]
    exact rest buf s ((List.append_nil items).symm ▸ known)
  | filemark =>
    have word : readMetaData (some (before ++ (recorded .filemark ++ after))) before.length = some ⟨.tapeMarkGoodDataRecord,0⟩ :=
      readMetaDataAt (m := ⟨.tapeMarkGoodDataRecord,0⟩) (by decide) before after
    refine restoreFilemark word known fun t known => ?_
    rw [← wordLength .filemark fun _ => by simp]
    exact rest buf t known

theorem copyFrom (valid : Valid contents) (more : contents.length < passes) (known : Has items s) :
    wp (S2pDump.restoreTape (BoardExecutor.virtual i) (before ++ contents.flatMap recorded) passes before.length buf) answer s
      (fun _ t => Has (items ++ recordedItems contents) t) fun _ _ => False := by
  induction contents generalizing before items buf s passes with
  | nil =>
    obtain ⟨passes,rfl⟩ := Nat.exists_eq_add_of_le' more
    refine restoreBehind ?_ ((List.append_nil items).symm ▸ known)
    simp [metaDataSize]
  | cons item contents ih =>
    obtain ⟨passes,rfl⟩ := Nat.exists_eq_add_of_le' (show 1 ≤ passes by omega)
    rw [List.flatMap_cons]
    refine copyItem (fun data block => valid data (block ▸ List.mem_cons_self)) known fun buf t known => ?_
    have split : items ++ recordedItems (item::contents) = items ++ recordedItems [item] ++ recordedItems contents := by
      rw [List.append_assoc]
      unfold recordedItems
      rw [← List.filter_append]
      rfl
    rw [split,← List.append_assoc]
    exact ih (fun data listed => valid data (List.mem_cons_of_mem _ listed)) (by rw [List.length_cons] at more; omega) known

/- Blocks of any length, odd ones too, and filemarks are on the second tape as they have been on the first one. Blocks that
could not be read are left out. -/
theorem tapeCopied (i i' : BoardExecutor.Initiator) (buf buf' : Bytes) (tape : RecordedTape) (file : Bytes)
    (written : Written i buf tape.contents file) : Restored i' buf' file (recordedItems tape.contents) := by
  obtain ⟨_,rfl⟩ := (TapeDump.writtenIff tape.valid).mp written
  refine ⟨tape.contents.length + 1,fun bound more => ?_⟩
  have start : Has [] { target := {} } := rfl
  have run : wp (S2pDump.restoreTape (BoardExecutor.virtual i') ([] ++ tape.contents.flatMap recorded) bound 0 buf') answer { target := {} }
      (fun _ t => Has ([] ++ recordedItems tape.contents) t) fun _ _ => False := copyFrom tape.valid (Nat.lt_of_succ_le more) start
  obtain ⟨_,t,ran,has⟩ := wpRuns run
  exact ⟨t,ran,has⟩

/- Two blocks of odd length, with a filemark and a block that cannot be read between them. -/
def oddTape : RecordedTape where
  contents := [.block [0x2a],.unreadable,.filemark,.block [1,2,3]]
  valid := by
    intro data listed
    simp only [List.mem_cons,List.not_mem_nil,or_false,reduceCtorEq,false_or,TapeItem.block.injEq] at listed
    rcases listed with rfl | rfl <;> decide

theorem oddTapeCopied : Restored {} [] (oddTape.contents.flatMap recorded) [.block [0x2a],.filemark,.block [1,2,3]] := by
  have fits : ∀ item ∈ oddTape.contents, TapeDump.Fits (List.replicate 8 0) item := by
    rintro item listed data rfl
    simp only [oddTape,List.mem_cons,List.not_mem_nil,or_false,reduceCtorEq,false_or,TapeItem.block.injEq] at listed
    rcases listed with rfl | rfl <;> decide
  exact tapeCopied {} {} (List.replicate 8 0) [] oddTape _ ((TapeDump.writtenIff oddTape.valid).mpr ⟨fits,rfl⟩)

end TapeCopy
end Scsi2Pi
