/-! A lock that is not recursive, as one thread uses it: the thread must not
acquire it while it already holds it. -/
namespace Scsi2Pi

inductive LockEvent where
  | acquire | release
  deriving DecidableEq, Repr

namespace LockEvent

/- Is the lock held after the events? None if it was acquired while it was held. -/
def after : Bool → List LockEvent → Option Bool
  | held, [] => some held
  | true, .acquire::_ => none
  | false, .acquire::rest => after true rest
  | _, .release::rest => after false rest

def NeverTwice (events : List LockEvent) : Prop := after false events ≠ none

instance (events : List LockEvent) : Decidable (NeverTwice events) := by unfold NeverTwice; infer_instance

theorem afterAppend (held : Bool) (first second : List LockEvent) :
    after held (first ++ second) = (after held first).bind (after · second) := by
  induction first generalizing held with
  | nil => rfl
  | cons event rest ih => cases event <;> cases held <;> simp [after,ih]

/- Parts that leave the lock as they found it. -/
theorem afterParts {held : Bool} {parts : List (List LockEvent)}
    (each : ∀ part ∈ parts, after held part = some held) : after held parts.flatten = some held := by
  induction parts with
  | nil => rfl
  | cons part rest ih =>
    rw [List.flatten_cons,afterAppend,each part (by simp)]
    exact ih fun other member => each other (by simp [member])

/- A part that acquires the held lock is not made good by what follows. -/
theorem afterPartsNone {held : Bool} {parts : List (List LockEvent)}
    (each : ∀ part ∈ parts, after held part = some held ∨ after held part = none) :
    after held parts.flatten = none ↔ ∃ part ∈ parts, after held part = none := by
  induction parts with
  | nil => simp [after]
  | cons part rest ih =>
    have tail := ih fun other member => each other (by simp [member])
    simp only [List.flatten_cons,afterAppend,List.mem_cons,exists_eq_or_imp]
    rcases each part (by simp) with neutral | twice
    · rw [neutral]
      simpa using tail
    · simp [twice]

end LockEvent
end Scsi2Pi
