import Scsi2Pi.FileSystem

/-! A file with faults, and a stream on it. The stream keeps the data written last until the next seek or
flush, and keeps them when they cannot be stored. -/
namespace Scsi2Pi
open Slices

/- A byte past the end reads as zero in the contents, but not in a read. -/
structure FaultyFile where
  bytes : Bytes
  opens : Bool := true
  readable : Nat → Bool := fun _ => true
  storable : Nat → Bool := fun _ => true

structure Stream where
  opened : Bool
  pending : Option (Nat × Bytes) := none

/- Data over other contents. -/
def laid (start : Nat) (data : Bytes) (contents : Nat → UInt8) (p : Nat) : UInt8 :=
  if start ≤ p ∧ p < start + data.length then data.getD (p - start) 0 else contents p

namespace FaultyFile

def get (f : FaultyFile) (p : Nat) : UInt8 := f.bytes.getD p 0

def Readable (f : FaultyFile) (start count : Nat) : Prop :=
  start + count ≤ f.bytes.length ∧ ∀ k < count, f.readable (start + k) = true

instance (f : FaultyFile) (start count : Nat) : Decidable (f.Readable start count) := inferInstanceAs (Decidable (_ ∧ _))

def Storable (f : FaultyFile) (start count : Nat) : Prop := ∀ k < count, f.storable (start + k) = true

instance (f : FaultyFile) (start count : Nat) : Decidable (f.Storable start count) := Nat.decidableBallLT ..

def read (f : FaultyFile) (start count : Nat) : Option Bytes :=
  if f.Readable start count then some (slice f.bytes start count) else none

/- Without data nothing is written. -/
def write (f : FaultyFile) (start : Nat) (data : Bytes) : Option FaultyFile :=
  if f.Storable start data.length then some { f with bytes := if data = [] then f.bytes else overwrite 0 f.bytes start data } else none

/- The same faults. -/
structure Same (f g : FaultyFile) : Prop where
  opens : g.opens = f.opens
  readable : g.readable = f.readable
  storable : g.storable = f.storable

theorem Same.refl (f : FaultyFile) : Same f f := ⟨rfl,rfl,rfl⟩

theorem Same.trans {f g h : FaultyFile} (first : Same f g) (second : Same g h) : Same f h :=
  ⟨second.opens.trans first.opens,second.readable.trans first.readable,second.storable.trans first.storable⟩

/- Bytes that were held back have been stored. Now the file has these contents. -/
structure Stored (f : FaultyFile) (held : Nat → Prop) (contents : Nat → UInt8) (g : FaultyFile) : Prop where
  same : Same f g
  get : g.get = contents
  reaches : ∀ q, q ≤ g.bytes.length ↔ q ≤ f.bytes.length ∨ ∃ p, held p ∧ q ≤ p + 1

variable {f g h : FaultyFile} {start count : Nat} {data : Bytes} {held later all : Nat → Prop} {contents changed : Nat → UInt8}

theorem Stored.refl (nothing : ∀ p, ¬held p) (f : FaultyFile) : Stored f held f.get f :=
  ⟨.refl f,rfl,fun _ => ⟨.inl,fun reach => reach.elim id fun ⟨p,here,_⟩ => absurd here (nothing p)⟩⟩

theorem Stored.trans (first : Stored f held contents g) (second : Stored g later changed h) (both : ∀ p, all p ↔ held p ∨ later p) :
    Stored f all changed h := by
  refine ⟨first.same.trans second.same,second.get,fun q => ?_⟩
  rw [second.reaches,first.reaches]
  simp only [both,or_and_right,exists_or,or_assoc]

theorem Stored.congr (stored : Stored f held contents g) (same : ∀ p, all p ↔ held p) : Stored f all contents g :=
  ⟨stored.same,stored.get,fun q => (stored.reaches q).trans (by simp only [same])⟩

theorem overwriteGetD (xs : Bytes) (start : Nat) (data : Bytes) (p : Nat) :
    (overwrite 0 xs start data).getD p 0 = laid start data (fun p => xs.getD p 0) p := by
  have front : (xs.take start ++ List.replicate (start - xs.length) (0 : UInt8)).length = start := by
    rw [List.length_append,List.length_take,List.length_replicate]
    omega
  unfold laid overwrite
  simp only [List.getD_eq_getElem?_getD]
  by_cases before : p < start
  · rw [if_neg fun both => by omega,List.append_assoc,List.getElem?_append_left (by omega)]
    by_cases inside : p < xs.length
    · rw [List.getElem?_append_left (by rw [List.length_take]; omega),List.getElem?_take,if_pos before]
    · rw [List.getElem?_append_right (by rw [List.length_take]; omega),List.getElem?_eq_none (Nat.le_of_not_lt inside),
        List.getElem?_replicate]
      split <;> rfl
  · by_cases written : p < start + data.length
    · rw [if_pos ⟨by omega,written⟩,List.append_assoc,List.getElem?_append_right (by omega),front,List.getElem?_append_left (by omega)]
    · rw [if_neg fun both => written both.2,List.getElem?_append_right (by rw [List.length_append]; omega),List.length_append,front,
        List.getElem?_drop]
      congr 2
      omega

theorem overwriteLength (xs : Bytes) (start : Nat) (data : Bytes) :
    (overwrite 0 xs start data).length = max xs.length (start + data.length) := by
  simp only [overwrite,List.length_append,List.length_take,List.length_replicate,List.length_drop]
  omega

theorem writeSome (storable : f.Storable start data.length) : ∃ g, f.write start data = some g ∧
    Stored f (fun p => start ≤ p ∧ p < start + data.length) (laid start data f.get) g := by
  refine ⟨_,if_pos storable,⟨rfl,rfl,rfl⟩,?_,fun q => ?_⟩
  · funext p
    unfold get
    dsimp only
    split
    · next empty =>
      subst empty
      exact (if_neg fun both => by have := both.2; rw [List.length_nil] at this; omega).symm
    · exact overwriteGetD f.bytes start data p
  · dsimp only
    split
    · next empty =>
      subst empty
      refine ⟨.inl,fun reach => reach.elim id fun ⟨p,here,_⟩ => ?_⟩
      have within := here.2
      rw [List.length_nil] at within
      omega
    · next data_ =>
      have some_ : 0 < data.length := List.length_pos_iff.mpr data_
      rw [overwriteLength]
      refine ⟨fun reach => ?_,fun reach => reach.elim (by omega) fun ⟨p,here,_⟩ => by omega⟩
      by_cases inside : q ≤ f.bytes.length
      · exact .inl inside
      · exact .inr ⟨start + data.length - 1,⟨by omega,by omega⟩,by omega⟩

theorem storableRange : f.Storable start count ↔ ∀ p, start ≤ p ∧ p < start + count → f.storable p = true := by
  refine ⟨fun storable p within => ?_,fun storable k less => storable _ ⟨by omega,by omega⟩⟩
  have byte := storable (p - start) (by omega)
  rwa [Nat.add_sub_cancel' within.1] at byte

theorem writeNone (fails : ¬f.Storable start data.length) : f.write start data = none := if_neg fails

theorem readSome (readable : f.Readable start count) : f.read start count = some ((List.range count).map fun k => f.get (start + k)) := by
  unfold read
  rw [if_pos readable]
  refine congrArg some (List.ext_getElem? fun i => ?_)
  rw [sliceGet,List.getElem?_map]
  by_cases within : i < count
  · have inside : start + i < f.bytes.length := Nat.lt_of_lt_of_le (by omega) readable.1
    have byte : f.get (start + i) = f.bytes[start + i] := by
      unfold get
      rw [List.getD_eq_getElem?_getD,List.getElem?_eq_getElem inside]
      rfl
    rw [if_pos within,List.getElem?_range within,List.getElem?_eq_getElem inside,Option.map_some,byte]
  · rw [if_neg within,List.getElem?_eq_none (by rw [List.length_range]; omega)]
    rfl

theorem readNone (fails : ¬f.Readable start count) : f.read start count = none := if_neg fails

end FaultyFile

namespace Stream
open FaultyFile

def openFile (f : FaultyFile) : Stream := { opened := f.opens }

/- What the stream holds goes to the file. -/
def sync (s : Stream) (f : FaultyFile) : Bool × Stream × FaultyFile :=
  match s.pending with
  | none => (true,s,f)
  | some (start,data) => match f.write start data with
    | none => (false,s,f)
    | some f => (true,{ s with pending := none },f)

def read (s : Stream) (f : FaultyFile) (start count : Nat) : Option Bytes × Stream × FaultyFile :=
  let (ok,s,f) := s.sync f
  if !s.opened || !ok then (none,s,f) else (f.read start count,s,f)

def write (s : Stream) (f : FaultyFile) (start : Nat) (data : Bytes) (through : Bool) : Bool × Stream × FaultyFile :=
  let (ok,s,f) := s.sync f
  if !s.opened || !ok then (false,s,f)
  else
    let s := { s with pending := some (start,data) }
    if through then s.sync f else (true,s,f)

/- The contents of the file as a reader of the stream sees them. -/
def contents (s : Stream) (f : FaultyFile) : Nat → UInt8 :=
  match s.pending with
  | none => f.get
  | some (start,data) => laid start data f.get

/- A byte that the stream holds. -/
def Held (s : Stream) (p : Nat) : Prop :=
  match s.pending with
  | none => False
  | some (start,data) => start ≤ p ∧ p < start + data.length

/- What the stream holds can be stored. -/
def Synced (s : Stream) (f : FaultyFile) : Prop := ∀ p, s.Held p → f.storable p = true

variable {s : Stream} {f : FaultyFile}

theorem syncOk (synced : s.Synced f) : ∃ g, s.sync f = (true,{ s with pending := none },g) ∧ Stored f s.Held (s.contents f) g := by
  obtain ⟨opened,pending⟩ := s
  cases pending with
  | none => exact ⟨f,rfl,.refl (fun _ => id) f⟩
  | some held =>
    obtain ⟨g,written,stored⟩ := writeSome (storableRange.mpr synced)
    refine ⟨g,?_,stored⟩
    unfold sync
    dsimp only
    rw [written]

theorem syncFails (fails : ¬s.Synced f) : s.sync f = (false,s,f) := by
  obtain ⟨opened,pending⟩ := s
  cases pending with
  | none => exact absurd (fun _ held => held.elim) fails
  | some held =>
    have unstorable : ¬f.Storable held.1 held.2.length := fun storable => fails (storableRange.mp storable)
    unfold sync
    dsimp only
    rw [writeNone unstorable]

/- Whatever happens, the contents stay the same. -/
theorem syncContents (s : Stream) (f : FaultyFile) : (s.sync f).2.1.contents (s.sync f).2.2 = s.contents f := by
  by_cases synced : s.Synced f
  · obtain ⟨g,ran,stored⟩ := syncOk synced
    rw [ran]
    exact stored.get
  · rw [syncFails synced]

theorem syncOpened (s : Stream) (f : FaultyFile) : (s.sync f).2.1.opened = s.opened := by
  by_cases synced : s.Synced f
  · obtain ⟨g,ran,_⟩ := syncOk synced
    rw [ran]
  · rw [syncFails synced]

variable {start count : Nat} {data : Bytes} {through : Bool}

/- What a read needs. The end of the range is in the file or is stored before. -/
structure Reads (s : Stream) (f : FaultyFile) (start count : Nat) : Prop where
  opened : s.opened = true
  synced : s.Synced f
  within : start + count ≤ f.bytes.length ∨ ∃ p, s.Held p ∧ start + count ≤ p + 1
  readable : ∀ k < count, f.readable (start + k) = true

theorem readOk (reads : s.Reads f start count) :
    (s.read f start count).1 = some ((List.range count).map fun k => s.contents f (start + k)) := by
  obtain ⟨g,ran,stored⟩ := syncOk reads.synced
  have readable : g.Readable start count := ⟨(stored.reaches _).mpr reads.within,stored.same.readable ▸ reads.readable⟩
  unfold read
  rw [ran]
  dsimp only
  rw [reads.opened,if_neg (by decide),readSome readable,stored.get]

theorem readFails (fails : ¬s.Reads f start count) : (s.read f start count).1 = none := by
  unfold read
  by_cases synced : s.Synced f
  · obtain ⟨g,ran,stored⟩ := syncOk synced
    rw [ran]
    dsimp only
    cases opened : s.opened with
    | false => rfl
    | true =>
      refine (congrArg Prod.fst (if_neg (by decide))).trans (readNone fun readable => fails ⟨opened,synced,?_,?_⟩)
      · exact (stored.reaches _).mp readable.1
      · exact stored.same.readable ▸ readable.2
  · rw [syncFails synced]
    dsimp only
    rw [Bool.not_false,Bool.or_true,if_pos rfl]

theorem readContents (s : Stream) (f : FaultyFile) (start count : Nat) :
    (s.read f start count).2.1.contents (s.read f start count).2.2 = s.contents f := by
  have kept := syncContents s f
  unfold read
  dsimp only
  split <;> exact kept

theorem readOpened (s : Stream) (f : FaultyFile) (start count : Nat) : (s.read f start count).2.1.opened = s.opened := by
  have kept := syncOpened s f
  unfold read
  dsimp only
  split <;> exact kept

theorem writeFails (fails : ¬(s.opened = true ∧ s.Synced f)) (start : Nat) (data : Bytes) (through : Bool) :
    s.write f start data through = (false,(s.sync f).2) := by
  unfold write
  by_cases synced : s.Synced f
  · obtain ⟨g,ran,_⟩ := syncOk synced
    have closed : s.opened = false := Bool.eq_false_iff.mpr fun opened => fails ⟨opened,synced⟩
    rw [ran]
    dsimp only
    rw [closed]
    rfl
  · rw [syncFails synced]
    dsimp only
    rw [Bool.not_false,Bool.or_true,if_pos rfl]

/- The data are in the file or in the stream. -/
theorem writeContents (opened : s.opened = true) (synced : s.Synced f) (start : Nat) (data : Bytes) (through : Bool) :
    (s.write f start data through).2.1.contents (s.write f start data through).2.2 = laid start data (s.contents f) := by
  obtain ⟨g,ran,stored⟩ := syncOk synced
  have held : ({ opened := s.opened, pending := some (start,data) } : Stream).contents g = laid start data (s.contents f) :=
    congrArg (laid start data) stored.get
  unfold write
  rw [ran]
  dsimp only
  rw [opened,if_neg (by decide)]
  split
  · exact (syncContents _ g).trans held
  · exact held

theorem writeOpened (s : Stream) (f : FaultyFile) (start : Nat) (data : Bytes) (through : Bool) :
    (s.write f start data through).2.1.opened = s.opened := by
  have kept := syncOpened s f
  unfold write
  dsimp only
  split
  · exact kept
  · split
    · exact (syncOpened _ _).trans kept
    · exact kept

/- Data that have been accepted are seen from now on, and other bytes stay as they are in any case. -/
theorem writeDone (done : (s.write f start data through).1 = true) :
    (s.write f start data through).2.1.contents (s.write f start data through).2.2 = laid start data (s.contents f) := by
  by_cases writes : s.opened = true ∧ s.Synced f
  · exact writeContents writes.1 writes.2 start data through
  · rw [writeFails writes] at done
    cases done

theorem writeOutside (s : Stream) (f : FaultyFile) (through : Bool) {p : Nat} (outside : ¬(start ≤ p ∧ p < start + data.length)) :
    (s.write f start data through).2.1.contents (s.write f start data through).2.2 p = s.contents f p := by
  by_cases writes : s.opened = true ∧ s.Synced f
  · rw [writeContents writes.1 writes.2]
    exact if_neg outside
  · rw [writeFails writes]
    exact congrFun (syncContents s f) p

theorem writeAccepts (opened : s.opened = true) (synced : s.Synced f) (start : Nat) (data : Bytes) :
    (s.write f start data false).1 = true := by
  obtain ⟨g,ran,_⟩ := syncOk synced
  unfold write
  rw [ran]
  dsimp only
  rw [opened]
  rfl

end Stream
end Scsi2Pi
