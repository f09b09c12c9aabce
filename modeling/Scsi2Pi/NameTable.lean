import Mathlib.Logic.Function.Basic

/-! A table that tells who uses a name, next to users that each know their own
name. As long as a name is entered when it is taken and removed when it is given
up, the table is the inverse of the naming. -/
namespace Scsi2Pi.NameTable

variable {α β : Type} {table : β → Option α} {name : α → Option β}

def Inverse (table : β → Option α) (name : α → Option β) : Prop :=
  ∀ b a, table b = some a ↔ name a = some b

theorem inverseEmpty : Inverse (fun _ : β => (none : Option α)) fun _ => none := by
  intro b a
  constructor
  · intro h
    cases h
  · intro h
    cases h

/- No two users have the same name. -/
theorem inverseInjective (h : Inverse table name) {a a' : α} {b : β} (first : name a = some b)
    (second : name a' = some b) : a = a' :=
  Option.some.inj (((h b a).mpr first).symm.trans ((h b a').mpr second))

theorem inverseUnused (h : Inverse table name) {b : β} (unused : ∀ a, name a ≠ some b) : table b = none := by
  cases found : table b with
  | none => rfl
  | some a => exact absurd ((h b a).mp found) (unused a)

variable [DecidableEq α] [DecidableEq β]

theorem inverseClaim (h : Inverse table name) {a : α} {b : β} (unnamed : name a = none) (free : table b = none) :
    Inverse (Function.update table b (some a)) (Function.update name a (some b)) := by
  intro c x
  by_cases entry : c = b
  · subst entry
    rw [Function.update_self]
    by_cases user : x = a
    · subst user
      simp
    · rw [Function.update_of_ne user]
      constructor
      · intro same
        exact absurd (Option.some.inj same).symm user
      · intro named
        rw [(h c x).mpr named] at free
        cases free
  · rw [Function.update_of_ne entry]
    by_cases user : x = a
    · subst user
      rw [Function.update_self]
      constructor
      · intro found
        rw [(h c x).mp found] at unnamed
        cases unnamed
      · intro same
        exact absurd (Option.some.inj same).symm entry
    · rw [Function.update_of_ne user]
      exact h c x

theorem inverseRelease (h : Inverse table name) {a : α} {b : β} (named : name a = some b) :
    Inverse (Function.update table b none) (Function.update name a none) := by
  intro c x
  by_cases entry : c = b
  · subst entry
    rw [Function.update_self]
    by_cases user : x = a
    · subst user
      simp
    · rw [Function.update_of_ne user]
      constructor
      · intro found
        cases found
      · intro same
        exact absurd (inverseInjective h same named) user
  · rw [Function.update_of_ne entry]
    by_cases user : x = a
    · subst user
      rw [Function.update_self]
      constructor
      · intro found
        rw [(h c x).mp found] at named
        exact absurd (Option.some.inj named) entry
      · intro found
        cases found
    · rw [Function.update_of_ne user]
      exact h c x

end Scsi2Pi.NameTable
