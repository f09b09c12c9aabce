/-! Computations whose accesses to lists are checked. They end with a value, with an exception
of their own or with an access outside of a list. -/
namespace Scsi2Pi

inductive Fault (ε : Type) where
  | exception (e : ε)
  | outside
  deriving DecidableEq, Repr

abbrev Checked (ε α : Type) := Except (Fault ε) α

namespace Checked

variable {ε α β : Type}

def throws (e : ε) : Checked ε α := .error (.exception e)

def lift : Except ε α → Checked ε α
  | .ok a => .ok a
  | .error e => throws e

def readAt (xs : List α) (i : Nat) : Checked ε α :=
  match xs[i]? with
  | some a => .ok a
  | none => .error .outside

def setAt (xs : List α) (i : Nat) (a : α) : Checked ε (List α) :=
  if i < xs.length then .ok (xs.set i a) else .error .outside

/- A range is overwritten. -/
def copyAt (xs : List α) (i : Nat) (ys : List α) : Checked ε (List α) :=
  if i + ys.length ≤ xs.length then .ok (xs.take i ++ ys ++ xs.drop (i + ys.length)) else .error .outside

/- No access is outside, and P holds of the value if there is one. -/
def Meets (P : α → Prop) : Checked ε α → Prop
  | .ok a => P a
  | .error (.exception _) => True
  | .error .outside => False

variable {P : α → Prop} {Q : β → Prop} {x : Checked ε α} {xs ys : List α} {i : Nat}

theorem meetsInside (meets : Meets P x) : x ≠ .error .outside := by
  rintro rfl
  exact meets

theorem meetsPure {a : α} (holds : P a) : Meets P (pure a : Checked ε α) := holds

theorem meetsThrows (e : ε) : Meets P (throws e : Checked ε α) := trivial

theorem meetsBind {f : α → Checked ε β} (first : Meets P x) (next : ∀ a, P a → Meets Q (f a)) : Meets Q (x >>= f) := by
  match x, first with
  | .ok a, first => exact next a first
  | .error (.exception _), _ => trivial

theorem meetsIte {c : Prop} [Decidable c] {y : Checked ε α} (yes : c → Meets P x) (no : ¬c → Meets P y) :
    Meets P (if c then x else y) := by
  split
  · next holds => exact yes holds
  · next fails => exact no fails

theorem meetsLift (y : Except ε α) : Meets (fun _ => True) (lift y) := by
  cases y <;> trivial

theorem readInside (inside : i < xs.length) : (readAt xs i : Checked ε α) = .ok xs[i] := by
  unfold readAt
  rw [List.getElem?_eq_getElem inside]

theorem readOutside (behind : xs.length ≤ i) : (readAt xs i : Checked ε α) = .error .outside := by
  unfold readAt
  rw [List.getElem?_eq_none behind]

theorem meetsRead (inside : i < xs.length) : Meets (· = xs[i]) (readAt xs i : Checked ε α) := by
  rw [readInside inside]
  exact rfl

theorem setInside (inside : i < xs.length) (a : α) : (setAt xs i a : Checked ε (List α)) = .ok (xs.set i a) := if_pos inside

theorem meetsCopy (inside : i + ys.length ≤ xs.length) : Meets (fun _ => True) (copyAt xs i ys : Checked ε (List α)) := by
  unfold copyAt
  rw [if_pos inside]
  trivial

theorem okBind (a : α) (f : α → Checked ε β) : ((.ok a : Checked ε α) >>= f) = f a := rfl

theorem outsideBind {f : α → Checked ε β} (outside : x = .error .outside) : (x >>= f) = .error .outside := by
  subst outside
  rfl

end Checked
end Scsi2Pi
