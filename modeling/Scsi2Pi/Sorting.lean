import Mathlib.Data.List.Sort
import Mathlib.Order.RelIso.Set

/-! Sorting by a comparison. A sort promises something on strict weak orders only, and nothing on
the order of elements that the comparison does not tell apart. -/
namespace Scsi2Pi

variable {α : Type}

/- The comparison is a strict weak order on the elements of a list. -/
abbrev WeakOn (comp : α → α → Bool) (xs : List α) : Prop :=
  IsStrictWeakOrder {a // a ∈ xs} (Subrel (fun a b => comp a b = true) (· ∈ xs))

structure Sorter (α : Type) where
  sort : (α → α → Bool) → List α → List α
  perm : ∀ comp xs, WeakOn comp xs → (sort comp xs).Perm xs
  ordered : ∀ comp xs, WeakOn comp xs → (sort comp xs).Pairwise fun a b => comp b a = false

namespace WeakOn

variable {comp : α → α → Bool} {xs : List α} {a b c : α}

theorem asymm (weak : WeakOn comp xs) (ma : a ∈ xs) (mb : b ∈ xs) (before : comp a b = true) : comp b a = false := by
  refine Bool.eq_false_iff.mpr fun behind => ?_
  have loop : comp a a = true := weak.trans ⟨a,ma⟩ ⟨b,mb⟩ ⟨a,ma⟩ before behind
  exact weak.irrefl ⟨a,ma⟩ loop

/- Not behind is a total preorder. -/
theorem total (weak : WeakOn comp xs) (ma : a ∈ xs) (mb : b ∈ xs) : comp b a = false ∨ comp a b = false := by
  cases before : comp b a with
  | false => exact .inl rfl
  | true => exact .inr (weak.asymm mb ma before)

theorem notBehind (weak : WeakOn comp xs) (ma : a ∈ xs) (mb : b ∈ xs) (mc : c ∈ xs) (first : comp b a = false)
    (second : comp c b = false) : comp c a = false := by
  refine Bool.eq_false_iff.mpr fun behind => ?_
  have notBefore {x y : α} (none : comp x y = false) : ¬comp x y = true := Bool.eq_false_iff.mp none
  cases down : comp a b with
  | true => exact notBefore second (weak.trans ⟨c,mc⟩ ⟨a,ma⟩ ⟨b,mb⟩ behind down)
  | false =>
    cases up : comp b c with
    | true => exact notBefore first (weak.trans ⟨b,mb⟩ ⟨c,mc⟩ ⟨a,ma⟩ up behind)
    | false =>
      have tied := weak.incomp_trans ⟨a,ma⟩ ⟨b,mb⟩ ⟨c,mc⟩ ⟨notBefore down,notBefore first⟩ ⟨notBefore up,notBefore second⟩
      exact tied.2 behind

/- One element is not behind another one. -/
def UpTo (comp : α → α → Bool) (xs : List α) (a b : {a // a ∈ xs}) : Prop := comp b.val a.val = false

instance : DecidableRel (UpTo comp xs) := fun _ _ => inferInstanceAs (Decidable (_ = _))

theorem upToTotal (weak : WeakOn comp xs) : Std.Total (UpTo comp xs) := ⟨fun a b => weak.total a.property b.property⟩

theorem upToTrans (weak : WeakOn comp xs) : IsTrans _ (UpTo comp xs) := ⟨fun a b c => weak.notBehind a.property b.property c.property⟩

theorem insertionOrdered (weak : WeakOn comp xs) : (xs.insertionSort fun a b => comp b a = false).Pairwise fun a b => comp b a = false := by
  have := upToTotal weak
  have := upToTrans weak
  have sorted := List.pairwise_insertionSort (UpTo comp xs) xs.attach
  have mapped := List.map_insertionSort (UpTo comp xs) (fun a b => comp b a = false) Subtype.val xs.attach fun _ _ _ _ => Iff.rfl
  rw [List.attach_map_subtype_val] at mapped
  rw [← mapped]
  exact List.pairwise_map.mpr sorted

end WeakOn

namespace Sorter

/- Insertion, as libraries sort short lists. -/
def insertion : Sorter α where
  sort comp xs := xs.insertionSort fun a b => comp b a = false
  perm _ xs _ := List.perm_insertionSort _ xs
  ordered _ _ weak := weak.insertionOrdered

open Classical in
/- The least that a sort has to do. -/
noncomputable def careless : Sorter α where
  sort comp xs := if WeakOn comp xs then insertion.sort comp xs else []
  perm comp xs weak := by
    rw [if_pos weak]
    exact insertion.perm comp xs weak
  ordered comp xs weak := by
    rw [if_pos weak]
    exact insertion.ordered comp xs weak

theorem carelessFails {comp : α → α → Bool} {xs : List α} (fails : ¬WeakOn comp xs) : careless.sort comp xs = [] := if_neg fails

/- A relation that holds of different elements that are in order holds throughout the result. -/
theorem pairwise (s : Sorter α) {comp : α → α → Bool} {xs : List α} {R : α → α → Prop} (weak : WeakOn comp xs) (nodup : xs.Nodup)
    (holds : ∀ a ∈ xs, ∀ b ∈ xs, a ≠ b → comp b a = false → R a b) : (s.sort comp xs).Pairwise R := by
  have perm := s.perm comp xs weak
  have different := perm.nodup_iff.mpr nodup
  refine (different.and (s.ordered comp xs weak)).imp_of_mem ?_
  rintro a b ma mb ⟨differ,behind⟩
  exact holds a (perm.mem_iff.mp ma) b (perm.mem_iff.mp mb) differ behind

end Sorter
end Scsi2Pi
