import Mathlib.Algebra.Group.Int.Defs
import Mathlib.Algebra.Group.Nat.Defs
import Mathlib.Data.List.Basic

/-! Slices of a list and overwriting of a slice. A list cut into blocks of one
size is determined by its blocks, and an overwritten range changes exactly the
positions it covers. Positions past the end are padded, as in a sparse file. -/
namespace Scsi2Pi.Slices

variable {α : Type}

def slice (xs : List α) (start count : Nat) : List α := (xs.drop start).take count

def overwrite (pad : α) (xs : List α) (start : Nat) (ys : List α) : List α :=
  xs.take start ++ List.replicate (start - xs.length) pad ++ ys ++ xs.drop (start + ys.length)

def block (size : Nat) (xs : List α) (i : Nat) : List α := slice xs (i*size) size

@[simp] theorem sliceLength (xs : List α) (start count : Nat) :
    (slice xs start count).length = min count (xs.length - start) := by
  simp [slice]

theorem sliceLengthWithin {xs : List α} {start count : Nat} (h : start + count ≤ xs.length) :
    (slice xs start count).length = count := by
  rw [sliceLength]
  omega

theorem sliceGet (xs : List α) (start count i : Nat) :
    (slice xs start count)[i]? = if i < count then xs[start+i]? else none := by
  simp only [slice,List.getElem?_take,List.getElem?_drop]

theorem sliceAll (xs : List α) : slice xs 0 xs.length = xs := by simp [slice]

theorem sliceSlice (xs : List α) (a n b m : Nat) (h : b + m ≤ n) :
    slice (slice xs a n) b m = slice xs (a+b) m := by
  apply List.ext_getElem?
  intro i
  rw [sliceGet,sliceGet,sliceGet]
  by_cases hi : i < m
  · have inside : b + i < n := by omega
    simp only [hi,inside,if_true,Nat.add_assoc]
  · simp only [hi,if_false]

theorem sliceAppend (xs : List α) (start a b : Nat) :
    slice xs start (a+b) = slice xs start a ++ slice xs (start+a) b := by
  simp only [slice,List.take_add,List.drop_drop]

theorem overwriteLength {pad : α} {xs : List α} {start : Nat} {ys : List α}
    (h : start + ys.length ≤ xs.length) : (overwrite pad xs start ys).length = xs.length := by
  simp only [overwrite,List.length_append,List.length_take,List.length_replicate,List.length_drop]
  omega

/- The three cases of a position: before, inside and behind the written range. -/
theorem overwriteGet {pad : α} {xs : List α} {start : Nat} {ys : List α}
    (h : start + ys.length ≤ xs.length) (i : Nat) :
    (overwrite pad xs start ys)[i]? =
      if start ≤ i ∧ i < start + ys.length then ys[i-start]? else xs[i]? := by
  have none : start - xs.length = 0 := by omega
  simp only [overwrite,none,List.replicate_zero,List.append_nil]
  have front : (xs.take start).length = start := by simp; omega
  by_cases before : i < start
  · have outside : ¬(start ≤ i ∧ i < start + ys.length) := by omega
    rw [if_neg outside,List.append_assoc,List.getElem?_append_left (by omega),List.getElem?_take,
      if_pos before]
  · by_cases inside : i < start + ys.length
    · rw [if_pos ⟨by omega,inside⟩,List.append_assoc,List.getElem?_append_right (by omega),front,
        List.getElem?_append_left (by omega)]
    · have outside : ¬(start ≤ i ∧ i < start + ys.length) := by omega
      have joined : (xs.take start ++ ys).length = start + ys.length := by simp; omega
      rw [if_neg outside,List.getElem?_append_right (by omega),joined,List.getElem?_drop]
      congr 1
      omega

theorem sliceOverwriteSame {pad : α} {xs : List α} {start : Nat} {ys : List α}
    (h : start + ys.length ≤ xs.length) :
    slice (overwrite pad xs start ys) start ys.length = ys := by
  apply List.ext_getElem?
  intro i
  rw [sliceGet]
  by_cases hi : i < ys.length
  · rw [if_pos hi,overwriteGet h,if_pos ⟨by omega,by omega⟩,Nat.add_sub_cancel_left]
  · rw [if_neg hi,List.getElem?_eq_none (by omega)]

theorem sliceOverwriteOther {pad : α} {xs : List α} {start : Nat} {ys : List α}
    (h : start + ys.length ≤ xs.length) {a n : Nat}
    (apart : a + n ≤ start ∨ start + ys.length ≤ a) :
    slice (overwrite pad xs start ys) a n = slice xs a n := by
  apply List.ext_getElem?
  intro i
  rw [sliceGet,sliceGet]
  by_cases hi : i < n
  · have outside : ¬(start ≤ a+i ∧ a+i < start + ys.length) := by omega
    rw [if_pos hi,if_pos hi,overwriteGet h,if_neg outside]
  · rw [if_neg hi,if_neg hi]

theorem sliceOverwriteInside {pad : α} {xs : List α} {start : Nat} {ys : List α}
    (h : start + ys.length ≤ xs.length) {a n : Nat} (within : a + n ≤ ys.length) :
    slice (overwrite pad xs start ys) (start+a) n = slice ys a n := by
  have cut := sliceSlice (overwrite pad xs start ys) start ys.length a n within
  rw [sliceOverwriteSame h] at cut
  exact cut.symm

theorem dropOfSlices {xs ys : List α} {n : Nat} (length : xs.length = ys.length)
    (same : slice xs n ys.length = slice ys n ys.length) : xs.drop n = ys.drop n := by
  rwa [slice,slice,List.take_of_length_le (by rw [List.length_drop]; omega),
    List.take_of_length_le (by rw [List.length_drop]; omega)] at same

/-! Blocks of one size. -/

theorem blockFits {n count i : Nat} (h : i < count) : i*n + n ≤ count*n := by
  have step : (i+1)*n ≤ count*n := Nat.mul_le_mul_right n h
  rwa [Nat.succ_mul] at step

theorem blockLength {size count : Nat} {xs : List α} (len : xs.length = count*size) {i : Nat}
    (h : i < count) : (block size xs i).length = size :=
  sliceLengthWithin (by rw [len]; exact blockFits h)

theorem blockApart {size i j : Nat} (h : i ≠ j) : i*size + size ≤ j*size ∨ j*size + size ≤ i*size := by
  rcases Nat.lt_or_gt_of_ne h with less | more
  · exact .inl (blockFits less)
  · exact .inr (blockFits more)

theorem flatMapBlocks {size : Nat} (xs : List α) (count : Nat) (len : xs.length = count*size) :
    (List.range count).flatMap (block size xs) = xs := by
  have first : ∀ n, n ≤ count → (List.range n).flatMap (block size xs) = xs.take (n*size) := by
    intro n
    induction n with
    | zero => simp
    | succ n ih =>
      intro hn
      rw [List.range_succ,List.flatMap_append,ih (by omega),Nat.succ_mul,List.take_add]
      simp [block,slice]
  rw [first count (Nat.le_refl _),← len,List.take_length]

/- Overwriting one block replaces that block and keeps the others. -/
theorem blockOverwrite {pad : α} {size count : Nat} {xs : List α} (len : count*size ≤ xs.length)
    {i : Nat} (h : i < count) {ys : List α} (full : ys.length = size) (j : Nat) :
    block size (overwrite pad xs (i*size) ys) j = if j = i then ys else block size xs j := by
  have fits : i*size + ys.length ≤ xs.length := by
    rw [full]
    exact Nat.le_trans (blockFits h) len
  unfold block
  by_cases same : j = i
  · rw [if_pos same,same,← full]
    exact sliceOverwriteSame (by simpa [full] using fits)
  · rw [if_neg same]
    exact sliceOverwriteOther fits (by rw [full]; exact blockApart same)

end Scsi2Pi.Slices
