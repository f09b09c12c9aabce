import Mathlib.Logic.Relation

/-! A write-back cell: a stored value and, while the cell is cached, the cached
value with its dirty mark. Loading, saving and dropping a clean copy keep the
value a reader sees; a write-back cache is a family of such cells. -/
namespace Scsi2Pi.WriteBack

structure Cell (β : Type) where
  stored : β
  cached : Option (β × Bool)

variable {β : Type}

def Cell.value (c : Cell β) : β := match c.cached with
  | some (v,_) => v
  | none => c.stored

def Cell.Clean (c : Cell β) : Prop := ∀ v dirty, c.cached = some (v,dirty) → dirty = false

def Cell.Coherent (c : Cell β) : Prop := ∀ v, c.cached = some (v,false) → c.stored = v

/- One step of the cache that is not a write of its client. -/
inductive Move : Cell β → Cell β → Prop where
  | load (v : β) : Move ⟨v,none⟩ ⟨v,some (v,false)⟩
  | save (old v : β) : Move ⟨old,some (v,true)⟩ ⟨v,some (v,false)⟩
  | drop (v w : β) : Move ⟨v,some (w,false)⟩ ⟨v,none⟩

abbrev Moves : Cell β → Cell β → Prop := Relation.ReflTransGen Move

theorem moveCoherent {a b : Cell β} (m : Move a b) (coherent : a.Coherent) : b.Coherent := by
  cases m with
  | load v => intro w h; cases h; rfl
  | save old v => intro w h; cases h; rfl
  | drop v w => intro u h; cases h

theorem moveValue {a b : Cell β} (m : Move a b) (coherent : a.Coherent) : b.value = a.value := by
  cases m with
  | load v => rfl
  | save old v => rfl
  | drop v w => exact coherent w rfl

theorem movesCoherent {a b : Cell β} (m : Moves a b) (coherent : a.Coherent) : b.Coherent := by
  induction m with
  | refl => exact coherent
  | tail _ last ih => exact moveCoherent last ih

theorem movesValue {a b : Cell β} (m : Moves a b) (coherent : a.Coherent) : b.value = a.value := by
  induction m with
  | refl => rfl
  | tail before last ih => exact (moveValue last (movesCoherent before coherent)).trans ih

theorem cleanStored {c : Cell β} (coherent : c.Coherent) (clean : c.Clean) : c.stored = c.value := by
  obtain ⟨stored,cached⟩ := c
  cases cached with
  | none => rfl
  | some entry =>
    obtain ⟨v,dirty⟩ := entry
    cases clean v dirty rfl
    exact coherent v rfl

def Cell.write (c : Cell β) (v : β) : Cell β := ⟨c.stored,some (v,true)⟩

theorem writeCoherent (c : Cell β) (v : β) : (c.write v).Coherent := by
  intro w h
  cases h

/- A client that compares first leaves the cell alone when nothing changes. -/
theorem unchangedWrite {c : Cell β} {v : β} (same : c.value = v) : c.value = (c.write v).value := same

end Scsi2Pi.WriteBack
