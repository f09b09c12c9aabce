import Mathlib.Data.Fintype.Basic
import Mathlib.Logic.Function.Basic

/-! A table of slots whose occupants carry a key. While no two occupants share
a key, a lookup by key follows every change of a single slot. -/
namespace Scsi2Pi.SlotTable

variable {n : Nat} {α κ : Type} [DecidableEq κ]

def search (key : α → κ) (slots : Fin n → Option α) (k : κ) : Option (Fin n) :=
  (List.finRange n).find? fun i => (slots i).any fun a => key a = k

def free (slots : Fin n → Option α) : Option (Fin n) :=
  (List.finRange n).find? fun i => (slots i).isNone

def lookup (key : α → κ) (slots : Fin n → Option α) (k : κ) : Option α :=
  (search key slots k).bind slots

def Distinct (key : α → κ) (slots : Fin n → Option α) : Prop :=
  ∀ i j a b, slots i = some a → slots j = some b → key a = key b → i = j

def Absent (key : α → κ) (slots : Fin n → Option α) (k : κ) : Prop :=
  ∀ i a, slots i = some a → key a ≠ k

variable {key : α → κ} {slots : Fin n → Option α}

theorem searchSome {k : κ} {i : Fin n} (found : search key slots k = some i) :
    ∃ a, slots i = some a ∧ key a = k := by
  have holds := List.find?_some found
  cases h : slots i with
  | none => simp [h] at holds
  | some a => exact ⟨a,rfl,by simpa [h] using holds⟩

theorem searchNone {k : κ} (missing : search key slots k = none) : Absent key slots k := by
  intro i a h same
  have none := List.find?_eq_none.mp missing i (List.mem_finRange i)
  simp [h,same] at none

theorem freeSome {i : Fin n} (found : free slots = some i) : slots i = none := by
  simpa using List.find?_some found

theorem freeNone (missing : free slots = none) (i : Fin n) : ∃ a, slots i = some a := by
  have occupied := List.find?_eq_none.mp missing i (List.mem_finRange i)
  cases h : slots i with
  | none => simp [h] at occupied
  | some a => exact ⟨a,rfl⟩

theorem searchSlot (distinct : Distinct key slots) {i : Fin n} {a : α} (h : slots i = some a) :
    search key slots (key a) = some i := by
  cases found : search key slots (key a) with
  | none => exact absurd rfl (searchNone found i a h)
  | some j =>
    obtain ⟨b,hb,same⟩ := searchSome found
    rw [distinct j i b a hb h same]

theorem lookupSlot (distinct : Distinct key slots) {i : Fin n} {a : α} (h : slots i = some a) :
    lookup key slots (key a) = some a := by
  simp [lookup,searchSlot distinct h,h]

theorem lookupAbsent {k : κ} (absent : Absent key slots k) : lookup key slots k = none := by
  cases found : search key slots k with
  | none => simp [lookup,found]
  | some i =>
    obtain ⟨a,ha,same⟩ := searchSome found
    exact absurd same (absent i a ha)

theorem lookupSome {k : κ} {a : α} (found : lookup key slots k = some a) :
    ∃ i, slots i = some a ∧ key a = k := by
  obtain ⟨i,hi,ha⟩ := Option.bind_eq_some_iff.mp found
  obtain ⟨b,hb,same⟩ := searchSome hi
  cases Option.some.inj (hb.symm.trans ha)
  exact ⟨i,ha,same⟩

/- Two tables with distinct keys agree on a key when the same occupants carry it. -/
theorem lookupCongr {other : Fin n → Option α} (distinct : Distinct key slots)
    (distinct' : Distinct key other) {k : κ}
    (same : ∀ a, key a = k → ((∃ i, slots i = some a) ↔ ∃ i, other i = some a)) :
    lookup key slots k = lookup key other k := by
  cases left : lookup key slots k with
  | some a =>
    obtain ⟨i,hi,hk⟩ := lookupSome left
    obtain ⟨j,hj⟩ := (same a hk).mp ⟨i,hi⟩
    rw [← hk,lookupSlot distinct' hj]
  | none =>
    cases right : lookup key other k with
    | none => rfl
    | some a =>
      obtain ⟨i,hi,hk⟩ := lookupSome right
      obtain ⟨j,hj⟩ := (same a hk).mpr ⟨i,hi⟩
      rw [← hk,lookupSlot distinct hj] at left
      cases left

omit [DecidableEq κ] in
theorem distinctSet (distinct : Distinct key slots) {i : Fin n} {a : α}
    (fresh : ∀ j b, j ≠ i → slots j = some b → key b ≠ key a) :
    Distinct key (Function.update slots i (some a)) := by
  intro j l b c hj hl same
  by_cases ji : j = i
  · by_cases li : l = i
    · rw [ji,li]
    · rw [ji,Function.update_self] at hj
      rw [Function.update_of_ne li] at hl
      cases Option.some.inj hj
      exact absurd same.symm (fresh l c li hl)
  · rw [Function.update_of_ne ji] at hj
    by_cases li : l = i
    · rw [li,Function.update_self] at hl
      cases Option.some.inj hl
      exact absurd same (fresh j b ji hj)
    · rw [Function.update_of_ne li] at hl
      exact distinct j l b c hj hl same

omit [DecidableEq κ] in
theorem distinctClear (distinct : Distinct key slots) (i : Fin n) :
    Distinct key (Function.update slots i none) := by
  intro j l b c hj hl same
  have kept : ∀ j b, Function.update slots i none j = some b → slots j = some b := by
    intro j b h
    by_cases ji : j = i
    · rw [ji,Function.update_self] at h
      cases h
    · rwa [Function.update_of_ne ji] at h
  exact distinct j l b c (kept j b hj) (kept l c hl) same

theorem lookupSetSelf {i : Fin n} {a : α}
    (distinct : Distinct key (Function.update slots i (some a))) :
    lookup key (Function.update slots i (some a)) (key a) = some a :=
  lookupSlot distinct (Function.update_self i (some a) slots)

theorem lookupSetOther (distinct : Distinct key slots) {i : Fin n} {a : α}
    (distinct' : Distinct key (Function.update slots i (some a))) {k : κ} (new : key a ≠ k)
    (old : ∀ b, slots i = some b → key b ≠ k) :
    lookup key (Function.update slots i (some a)) k = lookup key slots k := by
  refine lookupCongr distinct' distinct fun b hb => ⟨fun ⟨j,hj⟩ => ?_,fun ⟨j,hj⟩ => ?_⟩
  · by_cases ji : j = i
    · rw [ji,Function.update_self] at hj
      cases Option.some.inj hj
      exact absurd hb new
    · exact ⟨j,by rwa [Function.update_of_ne ji] at hj⟩
  · by_cases ji : j = i
    · rw [ji] at hj
      exact absurd hb (old b hj)
    · exact ⟨j,by rwa [Function.update_of_ne ji]⟩

theorem lookupClear (distinct : Distinct key slots) {i : Fin n} {a : α} (h : slots i = some a) (k : κ) :
    lookup key (Function.update slots i none) k = if k = key a then none else lookup key slots k := by
  split
  · next same =>
    refine lookupAbsent fun j b hj hb => ?_
    by_cases ji : j = i
    · rw [ji,Function.update_self] at hj
      cases hj
    · rw [Function.update_of_ne ji] at hj
      exact ji (distinct j i b a hj h (hb.trans same))
  · next other =>
    refine lookupCongr (distinctClear distinct i) distinct fun b hb => ⟨fun ⟨j,hj⟩ => ?_,fun ⟨j,hj⟩ => ?_⟩
    · by_cases ji : j = i
      · rw [ji,Function.update_self] at hj
        cases hj
      · exact ⟨j,by rwa [Function.update_of_ne ji] at hj⟩
    · refine ⟨j,?_⟩
      have ji : j ≠ i := by
        rintro rfl
        cases Option.some.inj (hj.symm.trans h)
        exact other hb.symm
      rwa [Function.update_of_ne ji]

end Scsi2Pi.SlotTable
