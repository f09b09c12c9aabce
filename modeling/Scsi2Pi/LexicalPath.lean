import Mathlib.Data.List.Infix

/-! Lexical normalisation of a path, given by its names: one name stands for the
folder itself, one for the folder above. Names that never climb above their start
only add to what is in front of them. -/
namespace Scsi2Pi.LexicalPath

variable {ν : Type} [DecidableEq ν] {here up : ν}

/- The last name is the first one of the list. There is nothing above the root. -/
def enter (here up : ν) (absolute : Bool) (names : List ν) (name : ν) : List ν :=
  if name = here then names
  else if name = up then
    match names with
    | [] => if absolute then [] else [up]
    | last :: front => if last = up then up :: names else front
  else name :: names

def normal (here up : ν) (absolute : Bool) (names : List ν) : List ν :=
  (names.foldl (enter here up absolute) []).reverse

def Inside (here up : ν) (absolute : Bool) (base names : List ν) : Prop :=
  normal here up absolute base <+: normal here up absolute names

instance (absolute : Bool) (base names : List ν) : Decidable (Inside here up absolute base names) :=
  inferInstanceAs (Decidable (_ <+: _))

/- The names start at a depth, and never climb above 0. -/
def staysFrom (here up : ν) : Nat → List ν → Bool
  | _, [] => true
  | depth, name :: names =>
    if name = here then staysFrom here up depth names
    else if name = up then 0 < depth && staysFrom here up (depth - 1) names
    else staysFrom here up (depth + 1) names

def Stays (here up : ν) (names : List ν) : Prop := staysFrom here up 0 names = true

instance (names : List ν) : Decidable (Stays here up names) := inferInstanceAs (Decidable (_ = true))

theorem enterHere (absolute : Bool) (names : List ν) : enter here up absolute names here = names := by
  unfold enter
  exact if_pos rfl

theorem enterUp {absolute : Bool} {last : ν} (front : List ν) (other : up ≠ here) (plain : last ≠ up) :
    enter here up absolute (last :: front) up = front := by
  unfold enter
  rw [if_neg other,if_pos rfl]
  exact if_neg plain

theorem enterName {absolute : Bool} (names : List ν) {name : ν} (other : name ≠ here) (plain : name ≠ up) :
    enter here up absolute names name = name :: names := by
  unfold enter
  rw [if_neg other,if_neg plain]

/- What has been entered since the start is on top of what there was. -/
theorem enteredKeeps {absolute : Bool} {names front base : List ν} (stays : staysFrom here up front.length names = true)
    (plain : up ∉ front) : ∃ top, names.foldl (enter here up absolute) (front ++ base) = top ++ base := by
  induction names generalizing front with
  | nil => exact ⟨front,rfl⟩
  | cons name names ih =>
    rw [staysFrom] at stays
    rw [List.foldl_cons]
    by_cases same : name = here
    · rw [if_pos same] at stays
      rw [same,enterHere]
      exact ih stays plain
    · rw [if_neg same] at stays
      by_cases above : name = up
      · rw [if_pos above,Bool.and_eq_true,decide_eq_true_iff] at stays
        cases front with
        | nil => exact absurd stays.1 (Nat.lt_irrefl 0)
        | cons last front =>
          have other : last ≠ up := fun same => plain (same ▸ List.mem_cons_self)
          rw [above,List.cons_append,enterUp _ (above ▸ same) other]
          exact ih stays.2 fun listed => plain (List.mem_cons_of_mem _ listed)
      · rw [if_neg above] at stays
        rw [enterName _ same above,← List.cons_append]
        refine ih stays fun listed => ?_
        rcases List.mem_cons.mp listed with rfl | listed
        · exact above rfl
        · exact plain listed

theorem insideAppend (absolute : Bool) (base : List ν) {names : List ν} (stays : Stays here up names) :
    Inside here up absolute base (base ++ names) := by
  obtain ⟨top,entered⟩ := @enteredKeeps _ _ here up absolute names [] (base.foldl (enter here up absolute) []) stays
    List.not_mem_nil
  rw [List.nil_append] at entered
  rw [Inside,normal,normal,List.foldl_append,entered,List.reverse_append]
  exact List.prefix_append _ _

theorem staysFromFront {depth : Nat} {names more : List ν} (stays : staysFrom here up depth (names ++ more) = true) :
    staysFrom here up depth names = true := by
  induction names generalizing depth with
  | nil => rfl
  | cons name names ih =>
    rw [List.cons_append,staysFrom] at stays
    rw [staysFrom]
    split at stays
    · next same => rw [if_pos same]; exact ih stays
    · next other =>
      rw [if_neg other]
      split at stays
      · next above =>
        rw [if_pos above]
        rw [Bool.and_eq_true] at stays ⊢
        exact ⟨stays.1,ih stays.2⟩
      · next plain => rw [if_neg plain]; exact ih stays

/- What lies in front of a name stays, too. -/
theorem staysFront {names more : List ν} (stays : Stays here up (names ++ more)) : Stays here up names :=
  staysFromFront stays

theorem staysPrefix {names more : List ν} (stays : Stays here up more) (front : names <+: more) : Stays here up names := by
  obtain ⟨rest,rfl⟩ := front
  exact staysFront stays

/- Without a name for the folder above there is nothing to climb. -/
theorem staysPlain {depth : Nat} {names : List ν} (plain : up ∉ names) : staysFrom here up depth names = true := by
  induction names generalizing depth with
  | nil => rfl
  | cons name names ih =>
    have rest : up ∉ names := fun listed => plain (List.mem_cons_of_mem _ listed)
    have other : name ≠ up := fun same => plain (same ▸ List.mem_cons_self)
    rw [staysFrom,if_neg other]
    split <;> exact ih rest

theorem insideRefl (absolute : Bool) (names : List ν) : Inside here up absolute names names := List.prefix_rfl

theorem insideTrans {absolute : Bool} {a b c : List ν} (first : Inside here up absolute a b)
    (second : Inside here up absolute b c) : Inside here up absolute a c := List.IsPrefix.trans first second

end Scsi2Pi.LexicalPath
