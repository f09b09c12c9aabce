import Scsi2Pi.DiskCache
import Scsi2Pi.FaultyFile

/-! Tracks that are saved to a file with faults. A save that fails may have stored some of the ranges. -/
namespace Scsi2Pi
open Slices FaultyFile

namespace DiskTrack

/- The loop of Save from sector i on. -/
def storeRanges (t : DiskTrack) : Nat → Nat → FaultyFile → Bool × FaultyFile
  | 0, _, f => (true,f)
  | fuel+1, i, f =>
    if i < t.sectorCount then
      if t.flag i then
        let total := t.modifiedRange i
        match f.write (t.offset + i * 2^t.shiftCount) (slice t.buffer (i * 2^t.shiftCount) (total * 2^t.shiftCount)) with
        | none => (false,f)
        | some f => storeRanges t fuel (i + total) f
      else storeRanges t fuel (i+1) f
    else (true,f)

/- Save. The file is opened for each track. -/
def store (t : DiskTrack) (f : FaultyFile) : Bool × FaultyFile :=
  if !t.isInitialized || !t.isModified then (true,f)
  else if !f.opens then (false,f)
  else t.storeRanges t.sectorCount 0 f

/- A byte of a sector from sector i on that has been modified. -/
structure DirtyFrom (t : DiskTrack) (i p : Nat) : Prop where
  from_ : t.offset + i * 2^t.shiftCount ≤ p
  behind : p < t.offset + t.sectorCount * 2^t.shiftCount
  held : p < t.offset + t.buffer.length
  flagged : t.flag ((p - t.offset) / 2^t.shiftCount) = true

/- A byte that Save has to store. -/
def Dirty (t : DiskTrack) (p : Nat) : Prop := t.isInitialized = true ∧ t.isModified = true ∧ t.DirtyFrom 0 p

instance (t : DiskTrack) (i p : Nat) : Decidable (t.DirtyFrom i p) :=
  decidable_of_iff (t.offset + i * 2^t.shiftCount ≤ p ∧ p < t.offset + t.sectorCount * 2^t.shiftCount ∧ p < t.offset + t.buffer.length ∧
    t.flag ((p - t.offset) / 2^t.shiftCount) = true) ⟨fun h => ⟨h.1,h.2.1,h.2.2.1,h.2.2.2⟩,fun h => ⟨h.1,h.2,h.3,h.4⟩⟩

instance (t : DiskTrack) (p : Nat) : Decidable (t.Dirty p) := inferInstanceAs (Decidable (_ ∧ _ ∧ _))

/- What the track has over the contents of the file. -/
def overFrom (t : DiskTrack) (i : Nat) (contents : Nat → UInt8) (p : Nat) : UInt8 :=
  if t.DirtyFrom i p then t.buffer.getD (p - t.offset) 0 else contents p

def overlay (t : DiskTrack) (contents : Nat → UInt8) (p : Nat) : UInt8 :=
  if t.Dirty p then t.buffer.getD (p - t.offset) 0 else contents p

/- The file takes whatever the track has to store. -/
structure Stores (t : DiskTrack) (f : FaultyFile) : Prop where
  opens : t.isInitialized = true → t.isModified = true → f.opens = true
  storable : ∀ p, t.Dirty p → f.storable p = true

variable {t : DiskTrack} {f g : FaultyFile} {i : Nat}

/- An unmodified sector has nothing to store. -/
theorem dirtySkip (unmarked : t.flag i = false) (p : Nat) : t.DirtyFrom i p ↔ t.DirtyFrom (i+1) p := by
  have size : 0 < 2^t.shiftCount := Nat.two_pow_pos _
  have next : (i+1) * 2^t.shiftCount = i * 2^t.shiftCount + 2^t.shiftCount := Nat.succ_mul ..
  refine ⟨fun dirty => ⟨?_,dirty.behind,dirty.held,dirty.flagged⟩,fun dirty => ⟨?_,dirty.behind,dirty.held,dirty.flagged⟩⟩
  · by_contra before
    have from_ := dirty.from_
    have sector : (p - t.offset) / 2^t.shiftCount = i :=
      Nat.div_eq_of_lt_le (by omega) (by omega)
    have flagged := dirty.flagged
    rw [sector,unmarked] at flagged
    cases flagged
  · have from_ := dirty.from_
    omega

/- A run of modified sectors is stored at once. -/
theorem dirtyRun (inside : i < t.sectorCount) (marked : t.flag i = true) (p : Nat) : t.DirtyFrom i p ↔
    (t.offset + i * 2^t.shiftCount ≤ p ∧ p < t.offset + i * 2^t.shiftCount +
      (slice t.buffer (i * 2^t.shiftCount) (t.modifiedRange i * 2^t.shiftCount)).length) ∨ t.DirtyFrom (i + t.modifiedRange i) p := by
  obtain ⟨positive,bounded,flags⟩ := modifiedRangeFlags inside marked
  have size : 0 < 2^t.shiftCount := Nat.two_pow_pos _
  have whole : (i + t.modifiedRange i) * 2^t.shiftCount = i * 2^t.shiftCount + t.modifiedRange i * 2^t.shiftCount := Nat.add_mul ..
  have fits : (i + t.modifiedRange i) * 2^t.shiftCount ≤ t.sectorCount * 2^t.shiftCount := Nat.mul_le_mul_right _ bounded
  rw [sliceLength]
  constructor
  · intro dirty
    have from_ := dirty.from_
    have held := dirty.held
    by_cases within : p < t.offset + (i + t.modifiedRange i) * 2^t.shiftCount
    · exact .inl ⟨from_,by omega⟩
    · exact .inr ⟨by omega,dirty.behind,held,dirty.flagged⟩
  · rintro (⟨from_,within⟩ | dirty)
    · refine ⟨from_,by omega,by omega,?_⟩
      have least : i ≤ (p - t.offset) / 2^t.shiftCount := (Nat.le_div_iff_mul_le size).mpr (by omega)
      have less : (p - t.offset) / 2^t.shiftCount < i + t.modifiedRange i := (Nat.div_lt_iff_lt_mul size).mpr (by omega)
      have flagged := flags ((p - t.offset) / 2^t.shiftCount - i) (by omega)
      rwa [Nat.add_sub_cancel' least] at flagged
    · have from_ := dirty.from_
      exact ⟨by omega,dirty.behind,dirty.held,dirty.flagged⟩

theorem dirtyBehind (behind : t.sectorCount ≤ i) (p : Nat) : ¬t.DirtyFrom i p := by
  intro dirty
  have from_ := dirty.from_
  have below := dirty.behind
  have fits : t.sectorCount * 2^t.shiftCount ≤ i * 2^t.shiftCount := Nat.mul_le_mul_right _ behind
  omega

theorem overSkip (same : ∀ p, t.DirtyFrom i p ↔ t.DirtyFrom (i+1) p) (contents : Nat → UInt8) :
    t.overFrom (i+1) contents = t.overFrom i contents := by
  funext p
  unfold overFrom
  simp only [same p]

/- The bytes of a run, and those of the sectors behind it. -/
theorem overRun (inside : i < t.sectorCount) (marked : t.flag i = true) (contents : Nat → UInt8) :
    t.overFrom (i + t.modifiedRange i) (laid (t.offset + i * 2^t.shiftCount)
      (slice t.buffer (i * 2^t.shiftCount) (t.modifiedRange i * 2^t.shiftCount)) contents) = t.overFrom i contents := by
  funext p
  unfold overFrom laid
  have run := dirtyRun inside marked p
  by_cases later : t.DirtyFrom (i + t.modifiedRange i) p
  · rw [if_pos later,if_pos (run.mpr (.inr later))]
  · rw [if_neg later]
    by_cases within : t.offset + i * 2^t.shiftCount ≤ p ∧ p < t.offset + i * 2^t.shiftCount +
        (slice t.buffer (i * 2^t.shiftCount) (t.modifiedRange i * 2^t.shiftCount)).length
    · have count := within.2
      rw [sliceLength] at count
      rw [if_pos within,if_pos (run.mpr (.inl within)),List.getD_eq_getElem?_getD,List.getD_eq_getElem?_getD,sliceGet,
        if_pos (by omega)]
      congr 2
      omega
    · rw [if_neg within,if_neg fun dirty => (run.mp dirty).elim within later]

/- What a loop over the sectors from sector i on has done. -/
structure StoresFrom (t : DiskTrack) (i : Nat) (f : FaultyFile) (result : Bool × FaultyFile) : Prop where
  same : Same f result.2
  ok : result.1 = true ↔ ∀ p, t.DirtyFrom i p → f.storable p = true
  stored : result.1 = true → Stored f (t.DirtyFrom i) (t.overFrom i f.get) result.2

theorem storesBehind (behind : t.sectorCount ≤ i) (f : FaultyFile) : t.StoresFrom i f (true,f) := by
  have nothing := dirtyBehind (t := t) behind
  refine ⟨.refl f,iff_of_true rfl fun p dirty => absurd dirty (nothing p),fun _ => ?_⟩
  have same : t.overFrom i f.get = f.get := funext fun p => if_neg (nothing p)
  rw [same]
  exact .refl nothing f

/- Induction on the fuel; one iteration handles an unmodified sector or a whole run of modified ones. -/
theorem storeRangesEnds (fuel : Nat) (enough : t.sectorCount ≤ i + fuel) (f : FaultyFile) :
    t.StoresFrom i f (t.storeRanges fuel i f) := by
  induction fuel generalizing i f with
  | zero => exact storesBehind enough f
  | succ fuel ih =>
    unfold storeRanges
    by_cases inside : i < t.sectorCount
    swap
    · rw [if_neg inside]
      exact storesBehind (Nat.le_of_not_lt inside) f
    rw [if_pos inside]
    cases marked : t.flag i with
    | false =>
      have skip := dirtySkip marked
      have rest := ih (i := i+1) (by omega) f
      rw [if_neg Bool.false_ne_true]
      refine ⟨rest.same,rest.ok.trans ?_,fun ok => ?_⟩
      · simp only [skip]
      · rw [← overSkip skip]
        exact (rest.stored ok).congr skip
    | true =>
      rw [if_pos rfl]
      dsimp only
      have run := dirtyRun inside marked
      by_cases storable : f.Storable (t.offset + i * 2^t.shiftCount)
          (slice t.buffer (i * 2^t.shiftCount) (t.modifiedRange i * 2^t.shiftCount)).length
      · obtain ⟨g,written,stored⟩ := writeSome storable
        have positive := (modifiedRangeFlags inside marked).1
        have rest := ih (i := i + t.modifiedRange i) (by omega) g
        rw [written]
        refine ⟨stored.same.trans rest.same,rest.ok.trans ?_,fun ok => ?_⟩
        · rw [stored.same.storable]
          refine ⟨fun later p dirty => ?_,fun all p dirty => all p ((run p).mpr (.inr dirty))⟩
          exact ((run p).mp dirty).elim (storableRange.mp storable p) (later p)
        · rw [← overRun inside marked f.get,← stored.get]
          exact stored.trans (rest.stored ok) run
      · rw [writeNone storable]
        refine ⟨.refl f,iff_of_false Bool.false_ne_true fun all => storable ?_,fun wrong => Bool.noConfusion wrong⟩
        exact storableRange.mpr fun p within => all p ((run p).mpr (.inl within))

theorem storeEnds (t : DiskTrack) (f : FaultyFile) : Same f (t.store f).2 ∧ ((t.store f).1 = true ↔ t.Stores f) ∧
    ((t.store f).1 = true → Stored f t.Dirty (t.overlay f.get) (t.store f).2) := by
  unfold store
  by_cases clean : t.isInitialized = true ∧ t.isModified = true
  · obtain ⟨initialized,modified⟩ := clean
    have dirty (p : Nat) : t.Dirty p ↔ t.DirtyFrom 0 p := ⟨fun dirty => dirty.2.2,fun dirty => ⟨initialized,modified,dirty⟩⟩
    rw [initialized,modified,if_neg (by decide)]
    cases opens : f.opens with
    | false =>
      refine ⟨.refl f,iff_of_false Bool.false_ne_true fun stores => ?_,fun wrong => Bool.noConfusion wrong⟩
      rw [stores.opens initialized modified] at opens
      cases opens
    | true =>
      obtain ⟨same,stores,stored⟩ := storeRangesEnds (t := t) (i := 0) t.sectorCount (by omega) f
      rw [if_neg (by decide)]
      refine ⟨same,stores.trans ⟨fun storable => ⟨fun _ _ => opens,fun p p_ => storable p p_.2.2⟩,fun stores p dirty_ => ?_⟩,fun ok => ?_⟩
      · exact stores.storable p ((dirty p).mpr dirty_)
      · have contents : t.overlay f.get = t.overFrom 0 f.get := funext fun p => by
          unfold overFrom overlay
          simp only [dirty p]
        rw [contents]
        exact (stored ok).congr dirty
  · have unmodified (p : Nat) : ¬t.Dirty p := fun dirty => clean ⟨dirty.1,dirty.2.1⟩
    rw [if_pos (by cases h : t.isInitialized <;> cases h' : t.isModified <;> simp_all)]
    refine ⟨.refl f,iff_of_true rfl ⟨fun initialized modified => absurd ⟨initialized,modified⟩ clean,fun p dirty => absurd dirty (unmodified p)⟩,
      fun _ => ?_⟩
    have same : t.overlay f.get = f.get := funext fun p => if_neg (unmodified p)
    rw [same]
    exact .refl unmodified f

end DiskTrack

namespace DiskCache

/- Flush. The cache is given up afterwards. -/
def storeTracks (c : DiskCache) : List (Fin cacheMax) → FaultyFile → Bool × FaultyFile
  | [], f => (true,f)
  | i::rest, f => match c.disktrks i with
    | none => storeTracks c rest f
    | some t => match t.store f with
      | (false,f) => (false,f)
      | (true,f) => storeTracks c rest f

def store (c : DiskCache) (f : FaultyFile) : Bool × FaultyFile := c.storeTracks (List.finRange cacheMax) f

def overTracks (c : DiskCache) (slots : List (Fin cacheMax)) (contents : Nat → UInt8) : Nat → UInt8 :=
  slots.foldl (fun contents i => match c.disktrks i with
    | none => contents
    | some t => t.overlay contents) contents

/- The contents of the file with the sectors that the tracks have to store. -/
def contents (c : DiskCache) (f : FaultyFile) : Nat → UInt8 := c.overTracks (List.finRange cacheMax) f.get

/- A byte that a track has to store. -/
def UnsavedIn (c : DiskCache) (slots : List (Fin cacheMax)) (p : Nat) : Prop := ∃ i ∈ slots, ∃ t, c.disktrks i = some t ∧ t.Dirty p

def Unsaved (c : DiskCache) (p : Nat) : Prop := ∃ i t, c.disktrks i = some t ∧ t.Dirty p

/- Each track can be stored. -/
def Stores (c : DiskCache) (f : FaultyFile) : Prop := ∀ i t, c.disktrks i = some t → t.Stores f

variable {c : DiskCache} {f : FaultyFile}

theorem storesSame {t : DiskTrack} {g : FaultyFile} (same : Same f g) : t.Stores g ↔ t.Stores f :=
  ⟨fun stores => ⟨fun a b => same.opens ▸ stores.opens a b,fun p dirty => same.storable ▸ stores.storable p dirty⟩,
    fun stores => ⟨fun a b => same.opens.trans (stores.opens a b),fun p dirty => same.storable ▸ stores.storable p dirty⟩⟩

/- The bytes of the first slot, and those of the others. -/
theorem heldCons {i : Fin cacheMax} {rest : List (Fin cacheMax)} {t : DiskTrack} (track : c.disktrks i = some t) (p : Nat) :
    c.UnsavedIn (i::rest) p ↔ t.Dirty p ∨ c.UnsavedIn rest p := by
  unfold UnsavedIn
  simp only [List.exists_mem_cons_iff,track,Option.some.injEq,exists_eq_left']

theorem storeTracksEnds (c : DiskCache) (slots : List (Fin cacheMax)) (f : FaultyFile) : Same f (c.storeTracks slots f).2 ∧
    ((c.storeTracks slots f).1 = true ↔ ∀ i ∈ slots, ∀ t, c.disktrks i = some t → t.Stores f) ∧
    ((c.storeTracks slots f).1 = true → Stored f (c.UnsavedIn slots) (c.overTracks slots f.get) (c.storeTracks slots f).2) := by
  induction slots generalizing f with
  | nil =>
    refine ⟨.refl f,iff_of_true rfl fun _ listed => (List.not_mem_nil listed).elim,fun _ => .refl ?_ f⟩
    rintro p ⟨i,listed,_⟩
    cases listed
  | cons i rest ih =>
    unfold storeTracks overTracks
    rw [List.foldl_cons]
    cases track : c.disktrks i with
    | none =>
      obtain ⟨same,ok,stored⟩ := ih f
      refine ⟨same,ok.trans ⟨fun all j listed t here => ?_,fun all j listed => all j (List.mem_cons_of_mem _ listed)⟩,
        fun done => (stored done).congr fun p => ?_⟩
      · rcases List.mem_cons.mp listed with rfl | listed
        · rw [track] at here
          cases here
        · exact all j listed t here
      · unfold UnsavedIn
        simp only [List.exists_mem_cons_iff,track,reduceCtorEq,false_and,exists_false,false_or]
    | some t =>
      obtain ⟨same,ok,stored⟩ := t.storeEnds f
      dsimp only
      generalize t.store f = result at *
      obtain ⟨done,g⟩ := result
      cases done with
      | false =>
        refine ⟨same,iff_of_false Bool.false_ne_true fun all => ?_,fun wrong => Bool.noConfusion wrong⟩
        exact Bool.noConfusion (ok.mpr (all i (List.mem_cons_self ..) t track))
      | true =>
        obtain ⟨same',ok',stored'⟩ := ih g
        have first := ok.mp rfl
        refine ⟨same.trans same',ok'.trans ⟨fun all j listed u here => ?_,fun all j listed u here => ?_⟩,fun done => ?_⟩
        · rcases List.mem_cons.mp listed with rfl | listed
          · rw [track] at here
            cases here
            exact first
          · exact (storesSame same).mp (all j listed u here)
        · exact (storesSame same).mpr (all j (List.mem_cons_of_mem _ listed) u here)
        · have rest_ := stored' done
          rw [(stored rfl).get] at rest_
          exact (stored rfl).trans rest_ (heldCons track)

theorem storeEnds (c : DiskCache) (f : FaultyFile) : Same f (c.store f).2 ∧ ((c.store f).1 = true ↔ c.Stores f) ∧
    ((c.store f).1 = true → Stored f c.Unsaved (c.contents f) (c.store f).2) := by
  obtain ⟨same,ok,stored⟩ := c.storeTracksEnds (List.finRange cacheMax) f
  refine ⟨same,ok.trans ⟨fun all i => all i (List.mem_finRange i),fun all i _ => all i⟩,fun done => (stored done).congr fun p => ?_⟩
  unfold Unsaved UnsavedIn
  simp only [List.mem_finRange,true_and]

/- With a file that opens it is the bytes that decide. -/
theorem storesUnsaved (opens : f.opens = true) : c.Stores f ↔ ∀ p, c.Unsaved p → f.storable p = true :=
  ⟨fun stores p ⟨i,t,track,dirty⟩ => (stores i t track).storable p dirty,
    fun storable i t track => ⟨fun _ _ => opens,fun p dirty => storable p ⟨i,t,track,dirty⟩⟩⟩

end DiskCache
end Scsi2Pi
