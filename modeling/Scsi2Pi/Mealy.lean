import Mathlib.Logic.Function.Basic

/-! Deterministic machines that answer each input: runs over a list of inputs,
invariants of runs, and simulation of one machine by another. -/
namespace Scsi2Pi.Mealy

variable {σ τ ι ο : Type}

def run (step : σ → ι → ο × σ) : σ → List ι → List ο × σ
  | s, [] => ([],s)
  | s, i::is =>
    let first := step s i
    let rest := run step first.2 is
    (first.1::rest.1,rest.2)

def outputs (step : σ → ι → ο × σ) (s : σ) (is : List ι) : List ο := (run step s is).1

def final (step : σ → ι → ο × σ) (s : σ) (is : List ι) : σ := (run step s is).2

variable {step : σ → ι → ο × σ} {other : τ → ι → ο × τ}

theorem finalNil (s : σ) : final step s [] = s := rfl

theorem finalCons (s : σ) (i : ι) (is : List ι) :
    final step s (i::is) = final step (step s i).2 is := rfl

theorem outputsCons (s : σ) (i : ι) (is : List ι) :
    outputs step s (i::is) = (step s i).1 :: outputs step (step s i).2 is := rfl

theorem runInvariant {P : σ → Prop} {legal : ι → Prop}
    (keeps : ∀ s i, P s → legal i → P (step s i).2) {s : σ} (start : P s) {is : List ι}
    (inputs : ∀ i ∈ is, legal i) : P (final step s is) := by
  induction is generalizing s with
  | nil => exact start
  | cons i is ih =>
    exact ih (keeps s i start (inputs i List.mem_cons_self))
      (fun j hj => inputs j (List.mem_cons_of_mem i hj))

/- Answers agree and the relation holds again: then it holds along every run. -/
theorem simulation {R : σ → τ → Prop} {legal : ι → Prop}
    (agree : ∀ s t i, R s t → legal i → (step s i).1 = (other t i).1 ∧ R (step s i).2 (other t i).2)
    {s : σ} {t : τ} (start : R s t) {is : List ι} (inputs : ∀ i ∈ is, legal i) :
    outputs step s is = outputs other t is ∧ R (final step s is) (final other t is) := by
  induction is generalizing s t with
  | nil => exact ⟨rfl,start⟩
  | cons i is ih =>
    obtain ⟨same,next⟩ := agree s t i start (inputs i List.mem_cons_self)
    obtain ⟨rest,last⟩ := ih next (fun j hj => inputs j (List.mem_cons_of_mem i hj))
    exact ⟨by rw [outputsCons,outputsCons,same,rest],last⟩

/- Inputs in another form. -/
theorem outputsMap {κ : Type} {form : κ → ι} {other : σ → κ → ο × σ} {ks : List κ} (same : ∀ s, ∀ k ∈ ks, other s k = step s (form k)) (s : σ) :
    outputs other s ks = outputs step s (ks.map form) := by
  induction ks generalizing s with
  | nil => rfl
  | cons k ks ih =>
    rw [List.map_cons,outputsCons,outputsCons,same s k List.mem_cons_self,ih fun s j later => same s j (List.mem_cons_of_mem k later)]

theorem finalMap {κ : Type} {form : κ → ι} {other : σ → κ → ο × σ} {ks : List κ} (same : ∀ s, ∀ k ∈ ks, other s k = step s (form k)) (s : σ) :
    final other s ks = final step s (ks.map form) := by
  induction ks generalizing s with
  | nil => rfl
  | cons k ks ih =>
    rw [List.map_cons,finalCons,finalCons,same s k List.mem_cons_self,ih fun s j later => same s j (List.mem_cons_of_mem k later)]

/- What holds of each input and its output. -/
theorem outputsEach {P : σ → Prop} {Q : ι → ο → Prop} {legal : ι → Prop}
    (keeps : ∀ s i, P s → legal i → P (step s i).2) (each : ∀ s i, P s → legal i → Q i (step s i).1)
    {s : σ} (start : P s) {is : List ι} (inputs : ∀ i ∈ is, legal i) : ∀ x ∈ is.zip (outputs step s is), Q x.1 x.2 := by
  induction is generalizing s with
  | nil => simp
  | cons i is ih =>
    have here := inputs i List.mem_cons_self
    rw [outputsCons,List.zip_cons_cons]
    intro x member
    rcases List.mem_cons.mp member with rfl | later
    · exact each s i start here
    · exact ih (keeps s i start here) (fun j hj => inputs j (List.mem_cons_of_mem i hj)) x later

/- Inputs that leave the state alone do not matter to the others. -/
theorem outputsFilter {P : σ → Prop} {legal : ι → Prop} (mine : ι → Bool)
    (keeps : ∀ s i, P s → legal i → mine i = true → P (step s i).2)
    (skips : ∀ s i, P s → legal i → mine i = false → (step s i).2 = s) {s : σ} (start : P s) {is : List ι}
    (inputs : ∀ i ∈ is, legal i) :
    ((is.zip (outputs step s is)).filter fun x => mine x.1).map Prod.snd = outputs step s (is.filter mine) := by
  induction is generalizing s with
  | nil => rfl
  | cons i is ih =>
    have here := inputs i List.mem_cons_self
    have later : ∀ j ∈ is, legal j := fun j hj => inputs j (List.mem_cons_of_mem i hj)
    rw [outputsCons,List.zip_cons_cons,List.filter_cons,List.filter_cons]
    cases own : mine i with
    | true => rw [if_pos rfl,if_pos rfl,List.map_cons,outputsCons,ih (keeps s i start here own) later]
    | false => rw [if_neg Bool.false_ne_true,if_neg Bool.false_ne_true,skips s i start here own,ih start later]

/- Equal machines beside each other. An input is for one of them. -/
section
variable {κ : Type} [DecidableEq κ] (key : ι → κ) (one : σ → ι → ο × σ)

def beside (all : κ → σ) (i : ι) : ο × (κ → σ) :=
  let (o,s) := one (all (key i)) i
  (o,Function.update all (key i) s)

/- Each of them sees its own inputs only. -/
theorem besideOutputs (all : κ → σ) (is : List ι) (k : κ) :
    ((is.zip (outputs (beside key one) all is)).filter fun x => key x.1 = k).map Prod.snd =
      outputs one (all k) (is.filter fun i => key i = k) := by
  induction is generalizing all with
  | nil => rfl
  | cons i is ih =>
    have rest := ih (beside key one all i).2
    rw [outputsCons,List.zip_cons_cons,List.filter_cons,List.filter_cons]
    by_cases here : key i = k
    · subst here
      have own : (beside key one all i).2 (key i) = (one (all (key i)) i).2 := Function.update_self _ _ _
      rw [if_pos (decide_eq_true rfl),if_pos (decide_eq_true rfl),List.map_cons,outputsCons,rest,own]
      rfl
    · have other : (beside key one all i).2 k = all k := Function.update_of_ne (fun same => here same.symm) _ _
      rw [if_neg (by simpa using here),if_neg (by simpa using here),rest,other]

theorem besideFinal (all : κ → σ) (is : List ι) (k : κ) :
    final (beside key one) all is k = final one (all k) (is.filter fun i => key i = k) := by
  induction is generalizing all with
  | nil => rfl
  | cons i is ih =>
    have rest := ih (beside key one all i).2
    rw [List.filter_cons]
    by_cases here : key i = k
    · subst here
      have own : (beside key one all i).2 (key i) = (one (all (key i)) i).2 := Function.update_self _ _ _
      rw [if_pos (decide_eq_true rfl),finalCons,finalCons,rest,own]
    · have other : (beside key one all i).2 k = all k := Function.update_of_ne (fun same => here same.symm) _ _
      rw [if_neg (by simpa using here),finalCons,rest,other]

theorem besideOther (all : κ → σ) {is : List ι} {k : κ} (others : ∀ i ∈ is, key i ≠ k) : final (beside key one) all is k = all k := by
  have none : is.filter (fun i => key i = k) = [] := List.filter_eq_nil_iff.mpr fun i member => by simpa using others i member
  rw [besideFinal,none,finalNil]

end

end Scsi2Pi.Mealy
