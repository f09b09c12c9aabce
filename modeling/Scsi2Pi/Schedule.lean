import Mathlib.Data.Option.Basic

/-! Machines whose actions can be blocked, run along a schedule of actions. A
schedule is careful when each of its actions meets a condition on the state it
is taken in, and a careful schedule keeps what every careful step keeps. -/
namespace Scsi2Pi.Schedule

variable {σ ι : Type}

def run (act : σ → ι → Option σ) : σ → List ι → Option σ
  | s, [] => some s
  | s, i::is => (act s i).bind fun s => run act s is

def Careful (act : σ → ι → Option σ) (ok : σ → ι → Prop) : σ → List ι → Prop
  | _, [] => True
  | s, i::is => ok s i ∧ match act s i with
    | none => True
    | some s' => Careful act ok s' is

instance decidableCareful (act : σ → ι → Option σ) (ok : σ → ι → Prop) [∀ s i, Decidable (ok s i)] :
    ∀ s is, Decidable (Careful act ok s is)
  | _, [] => .isTrue trivial
  | s, i::is =>
    have : Decidable (match act s i with | none => True | some s' => Careful act ok s' is) :=
      match act s i with
      | none => .isTrue trivial
      | some s' => decidableCareful act ok s' is
    inferInstanceAs (Decidable (ok s i ∧ _))

variable {act : σ → ι → Option σ} {ok : σ → ι → Prop} {P : σ → Prop}

theorem runCons {s t : σ} {i : ι} {is : List ι} (ran : run act s (i::is) = some t) :
    ∃ s', act s i = some s' ∧ run act s' is = some t :=
  Option.bind_eq_some_iff.mp ran

/- Induction on the schedule; the step lemma of the machine is keeps. -/
theorem carefulInvariant (keeps : ∀ s i s', P s → ok s i → act s i = some s' → P s') :
    ∀ {s t : σ} {is : List ι}, P s → Careful act ok s is → run act s is = some t → P t := by
  intro s t is
  induction is generalizing s with
  | nil =>
    intro start _ ran
    cases Option.some.inj ran
    exact start
  | cons i is ih =>
    intro start careful ran
    obtain ⟨s',stepped,rest⟩ := runCons ran
    have later := careful.2
    rw [stepped] at later
    exact ih (keeps s i s' start careful.1 stepped) later rest

/-! Machines that no action is blocked for. -/

def Along (step : σ → ι → σ) (ok : σ → ι → Prop) : σ → List ι → Prop
  | _, [] => True
  | s, i::is => ok s i ∧ Along step ok (step s i) is

instance decidableAlong (step : σ → ι → σ) (ok : σ → ι → Prop) [∀ s i, Decidable (ok s i)] : ∀ s is, Decidable (Along step ok s is)
  | _, [] => .isTrue trivial
  | s, i::is =>
    have : Decidable (Along step ok (step s i) is) := decidableAlong step ok (step s i) is
    inferInstanceAs (Decidable (ok s i ∧ _))

theorem alongInvariant {step : σ → ι → σ} (keeps : ∀ s i, P s → ok s i → P (step s i)) :
    ∀ {s : σ} {is : List ι}, P s → Along step ok s is → P (is.foldl step s) := by
  intro s is
  induction is generalizing s with
  | nil =>
    intro start _
    exact start
  | cons i is ih =>
    intro start along
    exact ih (keeps s i start along.1) along.2

end Scsi2Pi.Schedule
