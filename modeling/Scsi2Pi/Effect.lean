/-! Computations over a state that may end with an exception. The exception keeps
the state reached, as in a language with mutable objects. Pre- and
postconditions are given by the weakest precondition of each construct. -/
namespace Scsi2Pi

/- ρ is read only, σ the state, ε the exceptions. -/
def Eff (ρ σ ε α : Type) := ρ → σ → Except ε α × σ

namespace Eff

variable {ρ σ τ ε α β : Type}

instance : Monad (Eff ρ σ ε) where
  pure a := fun _ s => (.ok a,s)
  bind x f := fun r s => match x r s with
    | (.ok a,s) => f a r s
    | (.error e,s) => (.error e,s)

instance : MonadReaderOf ρ (Eff ρ σ ε) := ⟨fun r s => (.ok r,s)⟩

instance : MonadStateOf σ (Eff ρ σ ε) where
  get := fun _ s => (.ok s,s)
  set s := fun _ _ => (.ok ⟨⟩,s)
  modifyGet f := fun _ s => (.ok (f s).1,(f s).2)

instance : MonadExceptOf ε (Eff ρ σ ε) where
  throw e := fun _ s => (.error e,s)
  tryCatch x handle := fun r s => match x r s with
    | (.ok a,s) => (.ok a,s)
    | (.error e,s) => handle e r s

/- Running on a part of a larger state. -/
def zoom (get : τ → σ) (put : τ → σ → τ) (x : Eff ρ σ ε α) : Eff ρ τ ε α :=
  fun r t => let (a,s) := x r (get t); (a,put t s)

/- Q holds after a normal end, E after an exception. -/
def wp (x : Eff ρ σ ε α) (r : ρ) (s : σ) (Q : α → σ → Prop) (E : ε → σ → Prop) : Prop :=
  match x r s with
  | (.ok a,s) => Q a s
  | (.error e,s) => E e s

variable {r : ρ} {s : σ} {Q : α → σ → Prop} {E : ε → σ → Prop}

@[simp] theorem wpPure (a : α) : wp (pure a : Eff ρ σ ε α) r s Q E ↔ Q a s := Iff.rfl

@[simp] theorem wpBind (x : Eff ρ σ ε β) (f : β → Eff ρ σ ε α) :
    wp (x >>= f) r s Q E ↔ wp x r s (fun b s => wp (f b) r s Q E) E := by
  simp only [wp,bind]
  cases h : x r s with
  | mk result s' => cases result <;> rfl

@[simp] theorem wpThrow (e : ε) : wp (throw e : Eff ρ σ ε α) r s Q E ↔ E e s := Iff.rfl

@[simp] theorem wpRead {Q : ρ → σ → Prop} : wp (read : Eff ρ σ ε ρ) r s Q E ↔ Q r s := Iff.rfl

@[simp] theorem wpGet {Q : σ → σ → Prop} : wp (get : Eff ρ σ ε σ) r s Q E ↔ Q s s := Iff.rfl

@[simp] theorem wpSet {Q : PUnit → σ → Prop} (t : σ) :
    wp (set t : Eff ρ σ ε PUnit) r s Q E ↔ Q ⟨⟩ t := Iff.rfl

@[simp] theorem wpModify {Q : PUnit → σ → Prop} (f : σ → σ) :
    wp (modify f : Eff ρ σ ε PUnit) r s Q E ↔ Q ⟨⟩ (f s) := Iff.rfl

@[simp] theorem wpTryCatch (x : Eff ρ σ ε α) (handle : ε → Eff ρ σ ε α) :
    wp (tryCatch x handle) r s Q E ↔ wp x r s Q fun e t => wp (handle e) r t Q E := by
  simp only [wp,tryCatch,tryCatchThe,MonadExceptOf.tryCatch]
  cases h : x r s with
  | mk result s' => cases result <;> rfl

@[simp] theorem wpIte (c : Prop) [Decidable c] (x y : Eff ρ σ ε α) :
    wp (if c then x else y) r s Q E ↔ (c → wp x r s Q E) ∧ (¬c → wp y r s Q E) := by
  by_cases h : c <;> simp [h]

@[simp] theorem wpZoom {get : τ → σ} {put : τ → σ → τ} (x : Eff ρ σ ε α) {t : τ}
    {Q : α → τ → Prop} {E : ε → τ → Prop} :
    wp (zoom get put x) r t Q E ↔ wp x r (get t) (fun a s => Q a (put t s)) (fun e s => E e (put t s)) := by
  simp only [wp,zoom]
  cases h : x r (get t) with
  | mk result s' => cases result <;> rfl

/- The rule of consequence. -/
theorem wpMono {x : Eff ρ σ ε α} {Q' : α → σ → Prop} {E' : ε → σ → Prop} (h : wp x r s Q E)
    (normal : ∀ a s, Q a s → Q' a s) (error : ∀ e s, E e s → E' e s) : wp x r s Q' E' := by
  unfold wp at h ⊢
  split at h
  · exact normal _ _ h
  · exact error _ _ h

theorem wpCongr {Q' : α → σ → Prop} {x : Eff ρ σ ε α} (same : ∀ a s, Q a s ↔ Q' a s) : wp x r s Q E ↔ wp x r s Q' E :=
  ⟨fun h => wpMono h (fun a s => (same a s).mp) fun _ _ => id,fun h => wpMono h (fun a s => (same a s).mpr) fun _ _ => id⟩

/- What holds at any end. -/
theorem wpAlways {x : Eff ρ σ ε α} (normal : ∀ a t, Q a t) (error : ∀ e t, E e t) : wp x r s Q E := by
  unfold wp
  split
  · exact normal _ _
  · exact error _ _

/- Two results of one run. -/
theorem wpBoth {x : Eff ρ σ ε α} {Q' : α → σ → Prop} {E' : ε → σ → Prop} (h : wp x r s Q E) (h' : wp x r s Q' E') :
    wp x r s (fun a t => Q a t ∧ Q' a t) fun e t => E e t ∧ E' e t := by
  unfold wp at h h' ⊢
  cases ran : x r s with
  | mk result t =>
    rw [ran] at h h'
    cases result with
    | ok a => exact ⟨h,h'⟩
    | error e => exact ⟨h,h'⟩

/- From a precondition to the result of a run. -/
theorem wpOk {x : Eff ρ σ ε α} (h : wp x r s Q E) {a : α} {s' : σ} (ran : x r s = (.ok a,s')) : Q a s' := by
  simpa [wp,ran] using h

theorem wpError {x : Eff ρ σ ε α} (h : wp x r s Q E) {e : ε} {s' : σ} (ran : x r s = (.error e,s')) :
    E e s' := by
  simpa [wp,ran] using h

/- A computation without exceptions. -/
theorem wpRuns {x : Eff ρ σ ε α} (h : wp x r s Q fun _ _ => False) : ∃ a t, x r s = (.ok a,t) ∧ Q a t := by
  unfold wp at h
  split at h
  · next a t ran => exact ⟨a,t,ran,h⟩
  · exact h.elim

theorem wpRan {x : Eff ρ σ ε α} {t : σ} {a : α} (ran : x r s = (.ok a,t)) : wp x r s Q E ↔ Q a t := by
  unfold wp
  rw [ran]

/- An exception ends a sequence, a result is passed on. -/
theorem bindOk {x : Eff ρ σ ε α} {f : α → Eff ρ σ ε β} {r : ρ} {s t : σ} {a : α} (ran : x r s = (.ok a,t)) : (x >>= f) r s = f a r t := by
  simp only [bind,ran]

theorem bindError {x : Eff ρ σ ε α} {f : α → Eff ρ σ ε β} {r : ρ} {s t : σ} {e : ε} (ran : x r s = (.error e,t)) :
    (x >>= f) r s = (.error e,t) := by
  simp only [bind,ran]

/- How a run ends, from what holds of its end. -/
theorem ranOk {ρ σ ε α : Type} {x : Eff ρ σ ε α} {r : ρ} {s t : σ} {a : α}
    (ends : wp x r s (fun b u => b = a ∧ u = t) fun _ _ => False) : x r s = (.ok a,t) := by
  unfold wp at ends
  split at ends
  · next ran => rw [ran,ends.1,ends.2]
  · exact ends.elim

theorem ranError {ρ σ ε α : Type} {x : Eff ρ σ ε α} {r : ρ} {s t : σ} {e : ε}
    (ends : wp x r s (fun _ _ => False) fun f u => f = e ∧ u = t) : x r s = (.error e,t) := by
  unfold wp at ends
  split at ends
  · exact ends.elim
  · next ran => rw [ran,ends.1,ends.2]

end Eff
end Scsi2Pi
