import Scsi2Pi.Effect

/-! Two computations in step: from related states both end alike, in related states. What is
known of one of them then holds of the other one. -/
namespace Scsi2Pi.Eff

variable {ρ ρ' σ σ' ε α β : Type} {r : ρ} {r' : ρ'} {R : σ → σ' → Prop} {P : α → Prop}

/- P holds of the result. -/
def InStep (R : σ → σ' → Prop) (P : α → Prop) (x : Eff ρ σ ε α) (r : ρ) (y : Eff ρ' σ' ε α) (r' : ρ') : Prop :=
  ∀ s s', R s s' → wp x r s (fun a t => P a ∧ ∃ t', y r' s' = (.ok a,t') ∧ R t t') fun e t => ∃ t', y r' s' = (.error e,t') ∧ R t t'

namespace InStep

theorem pure {a : α} (holds : P a) : InStep R P (Pure.pure a : Eff ρ σ ε α) r (Pure.pure a : Eff ρ' σ' ε α) r' :=
  fun _ s' related => ⟨holds,s',rfl,related⟩

theorem throw (e : ε) : InStep R P (throw e : Eff ρ σ ε α) r (throw e : Eff ρ' σ' ε α) r' :=
  fun _ s' related => ⟨s',rfl,related⟩

theorem bind {x : Eff ρ σ ε α} {y : Eff ρ' σ' ε α} {f : α → Eff ρ σ ε β} {g : α → Eff ρ' σ' ε β} {Q : β → Prop}
    (first : InStep R P x r y r') (next : ∀ a, P a → InStep R Q (f a) r (g a) r') : InStep R Q (x >>= f) r (y >>= g) r' := by
  intro s s' related
  rw [wpBind]
  refine wpMono (first s s' related) (fun a t ended => ?_) fun e t ended => ?_
  · obtain ⟨holds,t',ran,related⟩ := ended
    rw [bindOk ran]
    exact next a holds t t' related
  · obtain ⟨t',ran,related⟩ := ended
    exact ⟨t',bindError ran,related⟩

theorem ite {c : Prop} [Decidable c] {x z : Eff ρ σ ε α} {y w : Eff ρ' σ' ε α} (yes : c → InStep R P x r y r')
    (no : ¬c → InStep R P z r w r') : InStep R P (if c then x else z) r (if c then y else w) r' := by
  split
  · next holds => exact yes holds
  · next fails => exact no fails

/- The pre- and postconditions of the one are those of the other one. -/
theorem carries {x : Eff ρ σ ε α} {y : Eff ρ' σ' ε α} (inStep : InStep R P x r y r') {s : σ} {s' : σ'} (related : R s s')
    {Q : α → σ' → Prop} {E : ε → σ' → Prop} (h : wp y r' s' Q E) :
    wp x r s (fun a t => ∃ t', R t t' ∧ Q a t') fun e t => ∃ t', R t t' ∧ E e t' := by
  refine wpMono (inStep s s' related) (fun a t ended => ?_) fun e t ended => ?_
  · obtain ⟨_,t',ran,related⟩ := ended
    exact ⟨t',related,wpOk h ran⟩
  · obtain ⟨t',ran,related⟩ := ended
    exact ⟨t',related,wpError h ran⟩

end InStep

end Scsi2Pi.Eff
