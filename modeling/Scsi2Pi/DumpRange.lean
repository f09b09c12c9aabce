import Mathlib.Data.Int.ModEq
import Scsi2Pi.S2pDumpDisk
import Scsi2Pi.Slices

/-! Which sectors a dump or a restore of a disk covers, and with how many bytes. The
sizes are computed in 32 bits, the buffer may be of any size. -/
namespace Scsi2Pi.S2pDump
open Slices MemoryUtil Eff S2pDumpExecutor

/-! The size. -/

/- The sectors asked for: the whole rest of the disk without a count. -/
def requested (p : S2pDump) : Int := if p.count = 0 then p.capacity - p.start else p.count

def total (p : S2pDump) : Int := p.requested * p.sectorSize

def imageSize (p : S2pDump) : Nat := p.imageFileSize.getD 0

def expectedSize (p : S2pDump) : Int := if p.restore then min (p.imageSize : Int) p.total else p.total

/- The sizes of the integer types. -/
structure Typed (p : S2pDump) : Prop where
  capacity : p.capacity < 2^64
  startLow : -2^31 ≤ p.start
  startHigh : p.start < 2^31
  countLow : -2^31 ≤ p.count
  countHigh : p.count < 2^31

/- An accepted range has the right size, and a range beyond the end is not accepted. -/
def SizeExact (p : S2pDump) : Prop :=
  (∀ size, p.calculateEffectiveSize = some size → (size : Int) = p.expectedSize) ∧
    (p.capacity < p.start + p.requested → p.calculateEffectiveSize = none)

/- The checks, in the types of the source. -/
def Refused (p : S2pDump) : Prop :=
  p.capacity ≤ uint64 p.start ∨ p.capacity < uint64 (int32 (p.start + int32 p.requested)) ∨
    p.restore = true ∧ p.imageFileSize = none

instance (p : S2pDump) : Decidable p.Refused := inferInstanceAs (Decidable (_ ∨ _))

def Fits (p : S2pDump) : Prop :=
  0 ≤ p.total ∧ (p.total < 2^32 ∨ p.restore = true ∧ (p.imageSize : Int) ≤ p.total % 2^32)

variable {p : S2pDump}

theorem int32Uint64 (x : Int) : int32 (uint64 x) = int32 x := by
  have positive : 0 ≤ x % 2^64 := Int.emod_nonneg _ (by decide)
  unfold int32 uint64
  rw [Int.toNat_of_nonneg positive,← Int.emod_bmod,Int.emod_emod_of_dvd x (by decide),Int.emod_bmod]

theorem chosenCount (typed : p.Typed) :
    (if p.count = 0 then int32 (uint64 (p.capacity - p.start)) else p.count) = int32 p.requested := by
  unfold requested
  split
  · exact int32Uint64 _
  · exact (int32Fits typed.countLow typed.countHigh).symm

theorem int32Mod (x : Int) : int32 x ≡ x [ZMOD 2^32] := by
  unfold int32
  exact Int.bmod_emod

theorem productSame (x : Int) (size : Nat) : uint32 (int32 x * size) = uint32 (x * size) := by
  have same : (int32 x * size) % 2^32 = (x * size) % 2^32 := (int32Mod x).mul_right _
  unfold uint32
  rw [same]

theorem offsetSum (first n : Nat) : int32 (int32 first + n) = int32 ((first + n : Nat) : Int) := by
  rw [Int.natCast_add]
  unfold int32
  rw [Int.bmod_add_bmod]

theorem refusedNone (typed : p.Typed) (refused : p.Refused) : p.calculateEffectiveSize = none := by
  unfold calculateEffectiveSize
  dsimp only
  rw [chosenCount typed]
  split
  · rfl
  · next first =>
    split
    · rfl
    · next second =>
      obtain ⟨restore,missing⟩ := (refused.resolve_left first).resolve_left second
      rw [restore,missing]
      rfl

theorem acceptedSize (typed : p.Typed) (accepted : ¬p.Refused) :
    p.calculateEffectiveSize = some (if p.restore then min p.imageSize (uint32 p.total) else uint32 p.total) := by
  simp only [Refused,not_or,not_and] at accepted
  obtain ⟨first,second,known⟩ := accepted
  unfold calculateEffectiveSize
  dsimp only
  rw [chosenCount typed,if_neg first,if_neg second,productSame]
  cases restore : p.restore with
  | false => rfl
  | true =>
    obtain ⟨size,here⟩ := Option.ne_none_iff_exists'.mp (known restore)
    simp only [here,imageSize,Option.getD_some,if_true,Option.map_some,total]

/- A sum of two int that is too large is negative, and no capacity is that large as an unsigned number. -/
theorem beyondRefused (typed : p.Typed) (beyond : p.capacity < p.start + p.requested) : p.Refused := by
  have capacity := typed.capacity
  have startLow := typed.startLow
  have startHigh := typed.startHigh
  have countLow := typed.countLow
  have countHigh := typed.countHigh
  unfold requested at beyond
  split at beyond
  · omega
  · next given =>
    by_cases first : p.capacity ≤ uint64 p.start
    · exact .inl first
    refine .inr (.inl ?_)
    have count : int32 p.requested = p.count := by
      rw [requested,if_neg given]
      exact int32Fits countLow countHigh
    rw [count]
    unfold uint64 int32
    rw [Int.bmod_def]
    split <;> omega

theorem exactIff :
    ((if p.restore then min p.imageSize (uint32 p.total) else uint32 p.total : Nat) : Int) = p.expectedSize ↔ p.Fits := by
  have positive : 0 ≤ p.total % 2^32 := Int.emod_nonneg _ (by decide)
  have below : p.total % 2^32 < 2^32 := Int.emod_lt_of_pos _ (by decide)
  have product : ((uint32 p.total : Nat) : Int) = p.total % 2^32 := Int.toNat_of_nonneg positive
  unfold expectedSize Fits
  cases p.restore with
  | false =>
    simp only [Bool.false_eq_true,if_false,false_and,or_false,product]
    omega
  | true =>
    simp only [if_true,true_and]
    omega

/- The size that a dump or a restore is told is exact if it does not need more than 32 bits. -/
theorem effectiveSizeExactIff (typed : p.Typed) : p.SizeExact ↔ p.Refused ∨ p.Fits := by
  by_cases refused : p.Refused
  · have none := refusedNone typed refused
    refine ⟨fun _ => .inl refused,fun _ => ⟨fun size some => ?_,fun _ => none⟩⟩
    rw [none] at some
    cases some
  · have size := acceptedSize typed refused
    constructor
    · intro exactly
      exact .inr (exactIff.mp (exactly.1 _ size))
    · rintro (wrong | fits)
      · exact absurd wrong refused
      · refine ⟨fun other same => ?_,fun beyond => absurd (beyondRefused typed beyond) refused⟩
        cases size.symm.trans same
        exact exactIff.mpr fits

/- Ten sectors of a small disk. -/
def tenSectors : S2pDump := { scsiCapacity := 100, scsiSectorSize := 512, start := 20, count := 10 }

theorem tenSectorsTyped : tenSectors.Typed := by
  constructor <;> decide

theorem tenSectorsExact : tenSectors.SizeExact :=
  (effectiveSizeExactIff tenSectorsTyped).mpr (.inr ⟨by decide,.inl (by decide)⟩)

/- A disk of 4 GiB. -/
def largeDisk : S2pDump := { scsiCapacity := 2^23, scsiSectorSize := 512 }

theorem largeDiskInexact : largeDisk.Typed ∧ largeDisk.calculateEffectiveSize = some 0 ∧ ¬largeDisk.SizeExact := by
  have zero : largeDisk.calculateEffectiveSize = some 0 := by decide +kernel
  refine ⟨by constructor <;> decide,zero,fun exactly => ?_⟩
  have wrong := exactly.1 0 zero
  exact absurd wrong (by decide)

/-! The chunks of a range. -/

/- What an accepted disk and an accepted buffer have in common. -/
structure Sized (p : S2pDump) : Prop where
  sector : 0 < p.sectorSize
  sectorFits : p.sectorSize < 2^32
  buffer : 0 < p.bufferSize
  bufferFits : p.bufferSize < 2^31

/- The size of all chunks but the last one. -/
def limit (p : S2pDump) : Nat := if p.sasi then min p.bufferSize (256 * p.sectorSize) else p.bufferSize

/- As many sectors as so many bytes are on. -/
def sectorsFor (p : S2pDump) (bytes : Nat) : Nat := (bytes + p.sectorSize - 1) / p.sectorSize

theorem sectorsForIff (sized : p.Sized) {bytes n : Nat} :
    p.sectorsFor bytes = n ↔ bytes ≤ n * p.sectorSize ∧ n * p.sectorSize < bytes + p.sectorSize := by
  have positive := sized.sector
  unfold sectorsFor
  rw [Nat.div_eq_iff positive]
  omega

theorem sectorsForBounds (sized : p.Sized) (bytes : Nat) :
    bytes ≤ p.sectorsFor bytes * p.sectorSize ∧ p.sectorsFor bytes * p.sectorSize < bytes + p.sectorSize :=
  (sectorsForIff sized).mp rfl

theorem sectorsForNone (sized : p.Sized) : p.sectorsFor 0 = 0 := by
  have positive := sized.sector
  exact (sectorsForIff sized).mpr ⟨by omega,by omega⟩

theorem sectorsForWhole (sized : p.Sized) (n : Nat) : p.sectorsFor (n * p.sectorSize) = n := by
  have positive := sized.sector
  exact (sectorsForIff sized).mpr ⟨Nat.le_refl _,by omega⟩

theorem sectorsForAdd (sized : p.Sized) (n bytes : Nat) :
    p.sectorsFor (n * p.sectorSize + bytes) = n + p.sectorsFor bytes := by
  have bounds := sectorsForBounds sized bytes
  refine (sectorsForIff sized).mpr ?_
  rw [Nat.add_mul]
  omega

theorem sectorsForMono {a b : Nat} (le : a ≤ b) : p.sectorsFor a ≤ p.sectorsFor b :=
  Nat.div_le_div_right (by omega)

theorem sectorsForPositive (sized : p.Sized) {bytes : Nat} (some : 0 < bytes) : 0 < p.sectorsFor bytes := by
  have bounds := sectorsForBounds sized bytes
  refine Nat.pos_of_ne_zero fun none => ?_
  rw [none] at bounds
  omega

theorem limitBounds (sized : p.Sized) : 0 < p.limit ∧ p.limit ≤ p.bufferSize ∧
    (p.limit = p.bufferSize ∨ p.limit = 256 * p.sectorSize) := by
  have sector := sized.sector
  have buffer := sized.buffer
  unfold limit
  split <;> omega

theorem nextChunkIs (sized : p.Sized) (sectorOffset : Int) (remaining : Nat) :
    p.nextChunk sectorOffset remaining =
      ⟨sectorOffset,p.sectorsFor (min remaining p.limit),min remaining p.limit⟩ := by
  have rounded (n : Nat) : (if n % p.sectorSize ≠ 0 then n / p.sectorSize + 1 else n / p.sectorSize) = p.sectorsFor n := by
    have cut := Nat.div_add_mod n p.sectorSize
    have less := Nat.mod_lt n sized.sector
    refine ((sectorsForIff sized).mpr ?_).symm
    rw [Nat.mul_comm] at cut
    split
    · rw [Nat.succ_mul]
      omega
    · omega
  unfold nextChunk
  dsimp only
  rw [rounded]
  have bounds := sectorsForBounds sized (min remaining p.bufferSize)
  split
  · next limited =>
    have many : 257 * p.sectorSize ≤ p.sectorsFor (min remaining p.bufferSize) * p.sectorSize :=
      Nat.mul_le_mul_right _ limited.2
    have least : min remaining p.limit = 256 * p.sectorSize := by
      rw [limit,if_pos limited.1]
      omega
    rw [least,sectorsForWhole sized]
  · next other =>
    have same : min remaining p.limit = min remaining p.bufferSize := by
      unfold limit
      split
      · next sasi =>
        have few : p.sectorsFor (min remaining p.bufferSize) * p.sectorSize ≤ 256 * p.sectorSize :=
          Nat.mul_le_mul_right _ (Nat.not_lt.mp fun more => other ⟨sasi,more⟩)
        omega
      · rfl
    rw [same]

theorem chunksMore (sized : p.Sized) (fuel : Nat) (sectorOffset : Int) {remaining : Nat} (some : 0 < remaining) :
    p.chunks (fuel+1) sectorOffset remaining =
      ⟨sectorOffset,p.sectorsFor (min remaining p.limit),min remaining p.limit⟩ ::
        p.chunks fuel (int32 (sectorOffset + p.sectorsFor (min remaining p.limit))) (remaining - min remaining p.limit) := by
  rw [chunks,if_neg (by omega)]
  dsimp only
  rw [nextChunkIs sized]

theorem chunksFirst (sized : p.Sized) {fuel remaining : Nat} (some : 0 < remaining) (enough : remaining ≤ fuel)
    (sectorOffset : Int) : (⟨sectorOffset,p.sectorsFor (min remaining p.limit),min remaining p.limit⟩ : Chunk) ∈
      p.chunks fuel sectorOffset remaining := by
  obtain ⟨fuel,rfl⟩ : ∃ n, fuel = n + 1 := Nat.exists_eq_add_one_of_ne_zero (by omega)
  rw [chunksMore sized fuel sectorOffset some]
  exact List.mem_cons_self

theorem chunksNone (fuel : Nat) (sectorOffset : Int) : p.chunks fuel sectorOffset 0 = [] := by
  cases fuel <;> rfl

theorem chunksBytes (sized : p.Sized) {fuel : Nat} {sectorOffset : Int} {remaining : Nat} (enough : remaining ≤ fuel) :
    ((p.chunks fuel sectorOffset remaining).map Chunk.currentCount).sum = remaining := by
  have positive := (limitBounds sized).1
  induction fuel generalizing sectorOffset remaining with
  | zero =>
    rw [Nat.le_zero.mp enough]
    rfl
  | succ fuel ih =>
    rcases Nat.eq_zero_or_pos remaining with rfl | some
    · rw [chunksNone]
      rfl
    · rw [chunksMore sized fuel sectorOffset some,List.map_cons,List.sum_cons,ih (by omega)]
      dsimp only
      omega

/- Consecutive chunks, of whole sectors up to the last one, which the buffer has room for. -/
inductive Split (p : S2pDump) : Nat → Nat → List Chunk → Prop where
  | nil (first : Nat) : Split p first 0 []
  | cons {first bytes : Nat} {chunk : Chunk} {rest : List Chunk} : chunk.sectorOffset = int32 first →
      0 < chunk.currentCount → chunk.currentCount ≤ bytes → chunk.sectorCount = p.sectorsFor chunk.currentCount →
      chunk.sectorCount * p.sectorSize ≤ p.bufferSize →
      (chunk.currentCount < bytes → chunk.currentCount = chunk.sectorCount * p.sectorSize) →
      Split p (first+chunk.sectorCount) (bytes-chunk.currentCount) rest → Split p first bytes (chunk::rest)

/- The first chunk is the largest one. -/
theorem chunksSplit (sized : p.Sized) {fuel first remaining : Nat} (enough : remaining ≤ fuel)
    (room : p.sectorsFor (min remaining p.limit) * p.sectorSize ≤ p.bufferSize) :
    Split p first remaining (p.chunks fuel (int32 first) remaining) := by
  obtain ⟨positive,below,whole⟩ := limitBounds sized
  induction fuel generalizing first remaining with
  | zero =>
    rw [Nat.le_zero.mp enough]
    exact .nil first
  | succ fuel ih =>
    rcases Nat.eq_zero_or_pos remaining with rfl | some
    · rw [chunksNone]
      exact .nil first
    · rw [chunksMore sized fuel (int32 first) some,offsetSum]
      have later (room : p.sectorsFor (min (remaining - min remaining p.limit) p.limit) * p.sectorSize ≤ p.bufferSize) :
          Split p (first + p.sectorsFor (min remaining p.limit)) (remaining - min remaining p.limit) _ := ih (by omega) room
      generalize same : int32 first = offset
      refine .cons same.symm (by dsimp only; omega) (Nat.min_le_left _ _) rfl room (fun more => ?_) (later ?_)
      · dsimp only at more ⊢
        have full : min remaining p.limit = p.limit := by omega
        rw [full] at room ⊢
        have bounds := sectorsForBounds sized p.limit
        rcases whole with buffer | limited
        · omega
        · rw [limited,sectorsForWhole sized]
      · refine Nat.le_trans (Nat.mul_le_mul_right _ (sectorsForMono ?_)) room
        omega

theorem Split.last {first : Nat} {list : List Chunk} (split : Split p first 0 list) : list = [] := by
  cases split with
  | nil => rfl
  | cons _ positive within _ _ _ _ => omega

/- Rounding up is left to the last chunk. -/
theorem Split.step (sized : p.Sized) {bytes : Nat} {chunk : Chunk} (within : chunk.currentCount ≤ bytes)
    (count : chunk.sectorCount = p.sectorsFor chunk.currentCount)
    (whole : chunk.currentCount < bytes → chunk.currentCount = chunk.sectorCount * p.sectorSize) :
    p.sectorsFor bytes = chunk.sectorCount + p.sectorsFor (bytes - chunk.currentCount) := by
  rcases Nat.lt_or_ge chunk.currentCount bytes with more | same
  · have all : bytes = chunk.sectorCount * p.sectorSize + (bytes - chunk.currentCount) := by
      have here := whole more
      omega
    conv_lhs => rw [all]
    exact sectorsForAdd sized _ _
  · have all : bytes = chunk.currentCount := by omega
    rw [all,Nat.sub_self,sectorsForNone sized]
    exact count.symm

/-! The commands. -/

def sectors (c : Command) : List Nat := List.range' c.lba c.count

def commands (p : S2pDump) : List Command := p.plan.map p.command

/- Each chunk begins at a sector that a command can address. -/
def Begins : Nat → List Chunk → Prop
  | _, [] => True
  | first, chunk::rest => first < 2^32 ∧ Begins (first+chunk.sectorCount) rest

def Counted (list : List Chunk) : Prop := ∀ chunk ∈ list, chunk.sectorCount < 2^16

theorem commandLba {first : Nat} {chunk : Chunk} (offset : chunk.sectorOffset = int32 first) :
    (p.command chunk).lba = first % 2^32 := by
  change uint32 chunk.sectorOffset = _
  have same : int32 first % 2^32 = (first : Int) % 2^32 := int32Mod first
  rw [offset,uint32,same]
  omega

theorem lengthFits (sized : p.Sized) {n : Nat} (room : n * p.sectorSize ≤ p.bufferSize) :
    int32 (uint32 (n * p.sectorSize : Nat)) = (n * p.sectorSize : Nat) := by
  have small := sized.bufferFits
  rw [uint32Fits (by omega),int32Fits (by omega) (by omega)]

theorem commandLength (sized : p.Sized) {chunk : Chunk} (room : chunk.sectorCount * p.sectorSize ≤ p.bufferSize) :
    (p.command chunk).length = (chunk.sectorCount * p.sectorSize : Nat) := by
  have fits := lengthFits sized room
  simpa only [command] using fits

theorem rangeSplit (first a b : Nat) : List.range' first (a+b) = List.range' first a ++ List.range' (first+a) b :=
  List.range'_append_1.symm

/- The commands of consecutive chunks cover consecutive sectors. -/
theorem Split.covers (sized : p.Sized) {first bytes : Nat} {list : List Chunk} (split : Split p first bytes list)
    (counted : Counted list) (begins : Begins first list) :
    (list.map p.command).flatMap sectors = List.range' first (p.sectorsFor bytes) := by
  induction split with
  | nil first =>
    rw [sectorsForNone sized]
    rfl
  | cons offset positive within count room whole rest ih =>
    next first bytes chunk list =>
    have here : sectors (p.command chunk) = List.range' first chunk.sectorCount := by
      unfold sectors
      rw [commandLba offset,Nat.mod_eq_of_lt begins.1]
      change List.range' first (chunk.sectorCount % 2^16) = _
      rw [Nat.mod_eq_of_lt (counted chunk List.mem_cons_self)]
    rw [List.map_cons,List.flatMap_cons,here,Split.step sized within count whole,rangeSplit,
      ih (fun other member => counted other (List.mem_cons_of_mem _ member)) begins.2]

theorem countBelow (c : Command) : (sectors c).length = c.count := List.length_range'

/- Otherwise there are sectors that are not covered. -/
theorem Split.uncovered (sized : p.Sized) {first bytes : Nat} {list : List Chunk} (split : Split p first bytes list)
    (covers : (list.map p.command).flatMap sectors = List.range' first (p.sectorsFor bytes)) :
    Counted list ∧ Begins first list := by
  have fewer : ∀ {first bytes : Nat} {list : List Chunk}, Split p first bytes list →
      ((list.map p.command).flatMap sectors).length ≤ p.sectorsFor bytes := by
    intro first bytes list split
    induction split with
    | nil => exact Nat.zero_le _
    | cons offset positive within count room whole rest ih =>
      next first bytes chunk list =>
      rw [List.map_cons,List.flatMap_cons,List.length_append,countBelow,Split.step sized within count whole]
      have least : (p.command chunk).count ≤ chunk.sectorCount := Nat.mod_le _ _
      omega
  induction split with
  | nil => exact ⟨fun _ none => absurd none List.not_mem_nil,trivial⟩
  | cons offset positive within count room whole rest ih =>
    next first bytes chunk list =>
    rw [List.map_cons,List.flatMap_cons,Split.step sized within count whole,rangeSplit] at covers
    have lengths := congrArg List.length covers
    have later := fewer rest
    rw [List.length_append,countBelow,List.length_append,List.length_range',List.length_range'] at lengths
    have least : (p.command chunk).count ≤ chunk.sectorCount := Nat.mod_le _ _
    have all : (p.command chunk).count = chunk.sectorCount := by omega
    obtain ⟨here,behind⟩ := List.append_inj covers (by rw [countBelow,List.length_range',all])
    obtain ⟨counted,begins⟩ := ih behind
    have some : 0 < chunk.sectorCount := count ▸ sectorsForPositive sized positive
    refine ⟨fun other member => ?_,?_,begins⟩
    · rcases List.mem_cons.mp member with rfl | member
      · change _ % 2^16 = _ at all
        omega
      · exact counted other member
    · unfold sectors at here
      rw [commandLba offset,all] at here
      obtain ⟨n,next⟩ := Nat.exists_eq_add_of_lt some
      rw [next,Nat.zero_add,List.range'_succ,List.range'_succ] at here
      have heads := (List.cons.inj here).1
      omega

/- The last chunk begins behind all others. -/
theorem beginsIff (sized : p.Sized) {fuel first remaining : Nat} (some : 0 < remaining) (enough : remaining ≤ fuel) :
    Begins first (p.chunks fuel (int32 first) remaining) ↔
      first + (remaining-1) / p.limit * p.sectorsFor p.limit < 2^32 := by
  have positive := (limitBounds sized).1
  induction fuel generalizing first remaining with
  | zero => omega
  | succ fuel ih =>
    rw [chunksMore sized fuel (int32 first) some]
    rw [offsetSum]
    rcases Nat.lt_or_ge p.limit remaining with more | last
    · have full : min remaining p.limit = p.limit := by omega
      have quotient : (remaining-1) / p.limit = (remaining - p.limit - 1) / p.limit + 1 := by
        rw [← Nat.add_div_right _ positive]
        congr 1
        omega
      have later : Begins (first + p.sectorsFor p.limit) (p.chunks fuel _ (remaining - p.limit)) ↔ _ := ih (by omega) (by omega)
      rw [full,quotient,Nat.succ_mul]
      refine (and_congr_right fun _ => later).trans ?_
      omega
    · have full : min remaining p.limit = remaining := by omega
      have quotient : (remaining-1) / p.limit = 0 := Nat.div_eq_of_lt (by omega)
      rw [full,Nat.sub_self,chunksNone,quotient]
      simp only [Begins,and_true,Nat.zero_mul,Nat.add_zero]

theorem countedIff (sized : p.Sized) {fuel first remaining : Nat} (some : 0 < remaining) (enough : remaining ≤ fuel) :
    Counted (p.chunks fuel (int32 first) remaining) ↔ p.sectorsFor (min remaining p.limit) < 2^16 := by
  have smaller : ∀ (fuel : Nat) (offset : Int) (rest : Nat), ∀ chunk ∈ p.chunks fuel offset rest,
      chunk.sectorCount ≤ p.sectorsFor (min rest p.limit) := by
    intro fuel
    induction fuel with
    | zero => exact fun _ _ _ none => absurd none List.not_mem_nil
    | succ fuel ih =>
      intro offset rest chunk member
      rcases Nat.eq_zero_or_pos rest with rfl | some
      · rw [chunksNone] at member
        exact absurd member List.not_mem_nil
      · rw [chunksMore sized fuel offset some] at member
        rcases List.mem_cons.mp member with rfl | member
        · exact Nat.le_refl _
        · exact Nat.le_trans (ih _ _ chunk member) (sectorsForMono (by omega))
  constructor
  · intro counted
    exact counted _ (chunksFirst sized some enough _)
  · exact fun bound chunk member => Nat.lt_of_le_of_lt (smaller fuel _ remaining chunk member) bound

/-! A target without errors. -/

def transferCdb (isWrite : Bool) (lba count : Nat) : Bytes :=
  setInt16 (setInt32 (newCdb 10 (if isWrite then .write10 else .read10)) 2 lba) 7 count

/- READ and WRITE of sectors that are there move exactly their bytes. -/
structure Serves {τ : Type} (v : ExecutorVirtual τ) (target : Target τ) (contents : τ → Bytes) (size : Nat) : Prop where
  read : ∀ lba count s buf, lba < 2^32 → count < 2^16 → (lba+count) * size ≤ (contents s.target).length →
    count * size ≤ buf.length → wp (v.readWrite (transferCdb false lba count) buf (count * size)) target s
      (fun e t => e.returned = true ∧ contents t.target = contents s.target ∧
        e.buf = setBytes buf 0 (slice (contents s.target) (lba * size) (count * size))) fun _ _ => False
  write : ∀ lba count s buf, lba < 2^32 → count < 2^16 → (lba+count) * size ≤ (contents s.target).length →
    count * size ≤ buf.length → wp (v.readWrite (transferCdb true lba count) buf (count * size)) target s
      (fun e t => e.returned = true ∧ e.buf = buf ∧
        contents t.target = overwrite 0 (contents s.target) (lba * size) (buf.take (count * size))) fun _ _ => False
  synchronizeCache : ∀ s, wp (synchronizeCache v) target s (fun _ t => contents t.target = contents s.target) fun _ _ => False

section
variable {τ : Type} {v : ExecutorVirtual τ} {target : Target τ} {contents : τ → Bytes}

theorem sliceNone (xs : Bytes) (start : Nat) : slice xs start 0 = [] := List.take_zero

/- The buffer after a READ, and what goes to the file. -/
theorem readBuffer {buf data : Bytes} {count : Nat} (room : data.length ≤ buf.length) (taken : count ≤ data.length) :
    (setBytes buf 0 data).length = buf.length ∧ (setBytes buf 0 data).take count = data.take count := by
  refine ⟨overwriteLength (by omega),?_⟩
  have fits : 0 + data.length ≤ buf.length := by omega
  have front : 0 + count ≤ data.length := by omega
  exact sliceOverwriteInside fits front

/- What goes from one chunk to the next. -/
theorem sliceStep {xs : Bytes} {first n count bytes size : Nat} (inside : count ≤ bytes)
    (whole : count < bytes → count = n * size) :
    slice xs (first * size) bytes = slice xs (first * size) count ++ slice xs ((first+n) * size) (bytes-count) := by
  have all : bytes = count + (bytes-count) := by omega
  conv_lhs => rw [all,sliceAppend]
  rcases Nat.lt_or_ge count bytes with more | last
  · have here := whole more
    rw [Nat.add_mul,← here]
  · have none : bytes - count = 0 := by omega
    rw [none,sliceNone,sliceNone]

/- The file grows by the sectors that are read. -/
theorem Split.dumps (sized : p.Sized) (serves : Serves v target contents p.sectorSize) {first bytes : Nat} {list : List Chunk}
    (split : Split p first bytes list) (counted : Counted list) (begins : Begins first list) {s : DumpState τ}
    (within : (first + p.sectorsFor bytes) * p.sectorSize ≤ (contents s.target).length) {state : Bytes × Bytes}
    (buffer : state.1.length = p.bufferSize) :
    wp (p.dumpChunks v list state) target s
      (fun end_ _ => end_.2 = state.2 ++ slice (contents s.target) (first * p.sectorSize) bytes) fun _ _ => False := by
  induction split generalizing s state with
  | nil first =>
    rw [sliceNone,List.append_nil]
    rfl
  | cons offset positive inside count room whole rest ih =>
    next first bytes chunk list =>
    have few := counted chunk List.mem_cons_self
    have enough := (sectorsForBounds sized chunk.currentCount).1
    rw [← count] at enough
    rw [Split.step sized inside count whole,← Nat.add_assoc] at within
    have here : (first + chunk.sectorCount) * p.sectorSize ≤ (contents s.target).length :=
      Nat.le_trans (Nat.mul_le_mul_right _ (Nat.le_add_right _ _)) within
    have sectors : (slice (contents s.target) (first * p.sectorSize) (chunk.sectorCount * p.sectorSize)).length =
        chunk.sectorCount * p.sectorSize := by
      refine sliceLengthWithin ?_
      rw [← Nat.add_mul]
      exact here
    obtain ⟨still,filled⟩ := readBuffer (sectors.trans_le (room.trans_eq buffer.symm)) (enough.trans_eq sectors.symm)
    have lba : (p.command chunk).lba = first := (commandLba offset).trans (Nat.mod_eq_of_lt begins.1)
    have length : (p.command chunk).length.toNat = chunk.sectorCount * p.sectorSize := by
      rw [commandLength sized room,Int.toNat_natCast]
    unfold dumpChunks dumpChunk S2pDumpExecutor.readWrite
    dsimp only
    rw [wpBind,wpBind,wpBind,lba,length]
    refine wpMono (serves.read first chunk.sectorCount s state.1 begins.1 few here (by rw [buffer]; exact room))
      (fun e t done => ?_) fun _ _ failed => failed
    obtain ⟨ok,same,buf⟩ := done
    have taken : e.buf.take chunk.currentCount = slice (contents s.target) (first * p.sectorSize) chunk.currentCount := by
      rw [buf,filled]
      exact sliceSlice _ _ _ 0 _ (by rw [Nat.zero_add]; exact enough)
    rw [wpPure,ok]
    dsimp only
    rw [if_neg (by decide),wpPure]
    have room' : (e.buf,state.2 ++ e.buf.take chunk.currentCount).1.length = p.bufferSize := by
      rw [buf]
      exact still.trans buffer
    refine wpMono (ih (fun other member => counted other (List.mem_cons_of_mem _ member)) begins.2 (by rw [same]; exact within)
      room') (fun end_ _ ended => ?_) fun _ _ failed => failed
    rw [ended,taken,same,List.append_assoc,← sliceStep inside whole]

theorem overwriteBefore {xs ys : Bytes} {start : Nat} (within : start + ys.length ≤ xs.length) :
    (overwrite 0 xs start ys).take start = xs.take start := by
  apply List.ext_getElem?
  intro i
  rw [List.getElem?_take,List.getElem?_take,overwriteGet within]
  split
  · rw [if_neg (by omega)]
  · rfl

theorem overwriteBehind {xs ys : Bytes} {start n : Nat} (within : start + ys.length ≤ xs.length) (behind : start + ys.length ≤ n) :
    (overwrite 0 xs start ys).drop n = xs.drop n := by
  apply List.ext_getElem?
  intro i
  rw [List.getElem?_drop,List.getElem?_drop,overwriteGet within,if_neg (by omega)]

theorem sliceFront {xs ys : Bytes} {n a b : Nat} (same : xs.take n = ys.take n) (within : a + b ≤ n) :
    slice xs a b = slice ys a b := by
  have front (zs : Bytes) : slice zs a b = slice (zs.take n) a b := by
    have cut := sliceSlice zs 0 n a b within
    rw [Nat.zero_add] at cut
    exact cut.symm
  rw [front xs,same,← front ys]

/- So many bytes of an image replace those of the sectors they are on, and no others. -/
structure Restored (size first bytes sectors : Nat) (image before after : Bytes) : Prop where
  length : after.length = before.length
  range : slice after (first * size) bytes = image.take bytes
  start : after.take (first * size) = before.take (first * size)
  rest : after.drop ((first+sectors) * size) = before.drop ((first+sectors) * size)

theorem Split.restores (sized : p.Sized) (serves : Serves v target contents p.sectorSize) {first bytes : Nat} {list : List Chunk}
    (split : Split p first bytes list) (counted : Counted list) (begins : Begins first list) {s : DumpState τ}
    (within : (first + p.sectorsFor bytes) * p.sectorSize ≤ (contents s.target).length) {state : Bytes × Bytes}
    (buffer : state.1.length = p.bufferSize) (image : bytes ≤ state.2.length) :
    wp (p.restoreChunks v list state) target s
      (fun _ t => Restored p.sectorSize first bytes (p.sectorsFor bytes) state.2 (contents s.target) (contents t.target))
      fun _ _ => False := by
  induction split generalizing s state with
  | nil first =>
    rw [sectorsForNone sized]
    exact ⟨rfl,by rw [sliceNone,List.take_zero],rfl,rfl⟩
  | cons offset positive inside count room whole rest ih =>
    next first bytes chunk list =>
    have few := counted chunk List.mem_cons_self
    have enough := (sectorsForBounds sized chunk.currentCount).1
    rw [← count] at enough
    rw [Split.step sized inside count whole] at within ⊢
    rw [← Nat.add_assoc] at within
    have here : (first + chunk.sectorCount) * p.sectorSize ≤ (contents s.target).length :=
      Nat.le_trans (Nat.mul_le_mul_right _ (Nat.le_add_right _ _)) within
    have part : (state.2.take chunk.currentCount).length = chunk.currentCount := by
      rw [List.length_take]
      omega
    obtain ⟨still,filled⟩ := readBuffer (part.trans_le ((enough.trans room).trans_eq buffer.symm)) part.symm.le
    have sectors : ((setBytes state.1 0 (state.2.take chunk.currentCount)).take (chunk.sectorCount * p.sectorSize)).length =
        chunk.sectorCount * p.sectorSize := by
      rw [List.length_take,still,buffer]
      omega
    have fits : first * p.sectorSize + ((setBytes state.1 0 (state.2.take chunk.currentCount)).take
        (chunk.sectorCount * p.sectorSize)).length ≤ (contents s.target).length := by
      rw [sectors,← Nat.add_mul]
      exact here
    have lba : (p.command chunk).lba = first := (commandLba offset).trans (Nat.mod_eq_of_lt begins.1)
    have length : (p.command chunk).length.toNat = chunk.sectorCount * p.sectorSize := by
      rw [commandLength sized room,Int.toNat_natCast]
    unfold restoreChunks restoreChunk S2pDumpExecutor.readWrite
    dsimp only
    rw [wpBind,wpIte]
    refine ⟨fun short => absurd (image.trans_lt short) (by omega),fun _ => ?_⟩
    rw [wpBind,wpBind,lba,length]
    clear lba length
    refine wpMono (serves.write first chunk.sectorCount s _ begins.1 few here (by rw [still,buffer]; exact room))
      (fun e t done => ?_) fun _ _ failed => failed
    obtain ⟨ok,buf,same⟩ := done
    rw [wpPure,ok]
    dsimp only
    rw [if_neg (by decide),wpPure]
    have kept : (contents t.target).length = (contents s.target).length := by
      rw [same]
      exact overwriteLength fits
    have room' : (e.buf,state.2.drop chunk.currentCount).1.length = p.bufferSize := by
      rw [buf]
      exact still.trans buffer
    refine wpMono (ih (fun other member => counted other (List.mem_cons_of_mem _ member)) begins.2 (by rw [kept]; exact within)
      room' (by rw [List.length_drop]; omega)) (fun _ u later => ?_) fun _ _ failed => failed
    have front : slice (contents u.target) (first * p.sectorSize) chunk.currentCount = state.2.take chunk.currentCount := by
      have upTo : first * p.sectorSize + chunk.currentCount ≤ (first + chunk.sectorCount) * p.sectorSize := by
        rw [Nat.add_mul]
        omega
      rw [sliceFront later.start upTo,same]
      have front : 0 + chunk.currentCount ≤ ((setBytes state.1 0 (state.2.take chunk.currentCount)).take
          (chunk.sectorCount * p.sectorSize)).length := by
        rw [sectors]
        omega
      refine (sliceOverwriteInside fits front).trans ?_
      rw [slice,List.drop_zero,List.take_take,Nat.min_eq_left enough,filled,List.take_take,Nat.min_self]
    have less : first * p.sectorSize ≤ (first + chunk.sectorCount) * p.sectorSize := Nat.mul_le_mul_right _ (Nat.le_add_right _ _)
    refine ⟨later.length.trans kept,?_,?_,?_⟩
    · rw [sliceStep inside whole,front,later.range]
      have all : bytes = chunk.currentCount + (bytes - chunk.currentCount) := by omega
      conv_rhs => rw [all,List.take_add]
    · have cut := congrArg (List.take (first * p.sectorSize)) later.start
      rw [List.take_take,List.take_take,Nat.min_eq_left less,same,overwriteBefore fits] at cut
      exact cut
    · have beyond : first * p.sectorSize + ((setBytes state.1 0 (state.2.take chunk.currentCount)).take
          (chunk.sectorCount * p.sectorSize)).length ≤
          (first + chunk.sectorCount + p.sectorsFor (bytes - chunk.currentCount)) * p.sectorSize := by
        rw [sectors,← Nat.add_mul]
        exact Nat.mul_le_mul_right _ (Nat.le_add_right _ _)
      have tail := later.rest
      rw [same,overwriteBehind fits beyond] at tail
      rw [← Nat.add_assoc]
      exact tail

end

/-! Whole runs. -/

/- The sectors that the transfer touches, and the image is as large as it should be. -/
structure CoveredFrom (p : S2pDump) (first : Nat) : Prop where
  sectors : p.commands.flatMap sectors = List.range' first (p.sectorsFor p.expectedSize.toNat)
  bytes : (((p.plan.map Chunk.currentCount).sum : Nat) : Int) = p.expectedSize
  buffer : ∀ c ∈ p.commands, 0 ≤ c.length ∧ c.length ≤ p.bufferSize
  dump : ∀ {τ : Type} {v : ExecutorVirtual τ} {target : Target τ} {contents : τ → Bytes},
    Serves v target contents p.sectorSize → ∀ s : DumpState τ, (contents s.target).length = p.capacity * p.sectorSize →
      wp (p.dumpDisk v) target s
        (fun file _ => file = slice (contents s.target) (first * p.sectorSize) p.expectedSize.toNat) fun _ _ => False
  restore : ∀ {τ : Type} {v : ExecutorVirtual τ} {target : Target τ} {contents : τ → Bytes},
    Serves v target contents p.sectorSize → ∀ s : DumpState τ, (contents s.target).length = p.capacity * p.sectorSize →
      ∀ image : Bytes, p.restore = true → p.imageFileSize = some image.length →
        wp (p.restoreDisk v image) target s (fun _ t => Restored p.sectorSize first p.expectedSize.toNat
          (p.sectorsFor p.expectedSize.toNat) image (contents s.target) (contents t.target)) fun _ _ => False

def Covered (p : S2pDump) : Prop := ∃ first : Nat, p.start = first ∧ p.CoveredFrom first

/- The size is exact, the largest transfer is one that the buffer has room for and that the transfer length of the
CDB can express, and no chunk begins behind the sectors that a CDB can address. -/
structure Manageable (p : S2pDump) : Prop where
  fits : p.Fits
  start : 0 ≤ p.start
  room : p.sectorsFor (min p.expectedSize.toNat p.limit) * p.sectorSize ≤ p.bufferSize
  count : p.sectorsFor (min p.expectedSize.toNat p.limit) < 2^16
  last : p.start + ((p.expectedSize.toNat-1) / p.limit * p.sectorsFor p.limit : Nat) < 2^32

theorem acceptedExpected (typed : p.Typed) (accepted : ¬p.Refused) (fits : p.Fits) :
    p.calculateEffectiveSize = some p.expectedSize.toNat := by
  have size := acceptedSize typed accepted
  have same := exactIff.mpr fits
  rw [size,← same,Int.toNat_natCast]

theorem planIs {size first : Nat} (typed : p.Typed) (accepted : p.calculateEffectiveSize = some size) (start : p.start = first) :
    p.plan = p.chunks size (int32 first) size := by
  have fixed : int32 p.start = p.start := int32Fits typed.startLow typed.startHigh
  unfold plan
  rw [accepted,← start,fixed]

theorem planBytes (sized : p.Sized) {size : Nat} (accepted : p.calculateEffectiveSize = some size) :
    (p.plan.map Chunk.currentCount).sum = size := by
  unfold plan
  rw [accepted]
  exact chunksBytes sized (Nat.le_refl _)

/- The range is one of sectors that are there. -/
theorem rangeWithin (typed : p.Typed) (sized : p.Sized) (accepted : ¬p.Refused) (fits : p.Fits) {first : Nat}
    (start : p.start = first) : (first + p.sectorsFor p.expectedSize.toNat) * p.sectorSize ≤ p.capacity * p.sectorSize := by
  have positive := sized.sector
  have some_ : 0 ≤ p.requested := by
    by_contra negative
    have below : p.requested * p.sectorSize < 0 := Int.mul_neg_of_neg_of_pos (by omega) (by omega)
    exact absurd fits.1 (Int.not_le.mpr below)
  obtain ⟨n,sectors⟩ : ∃ n : Nat, p.requested = n := ⟨p.requested.toNat,by omega⟩
  have whole : p.total = (n * p.sectorSize : Nat) := by
    rw [total,sectors,Int.natCast_mul]
  have less : p.expectedSize.toNat ≤ n * p.sectorSize := by
    unfold expectedSize
    rw [whole]
    split
    · have least := Int.min_le_right (p.imageSize : Int) (n * p.sectorSize : Nat)
      omega
    · rw [Int.toNat_natCast]
  have touched : p.sectorsFor p.expectedSize.toNat ≤ n := by
    have most : p.sectorsFor p.expectedSize.toNat ≤ p.sectorsFor (n * p.sectorSize) := sectorsForMono less
    rwa [sectorsForWhole sized] at most
  have inside : ¬(p.capacity : Int) < p.start + p.requested := fun beyond => accepted (beyondRefused typed beyond)
  refine Nat.mul_le_mul_right _ ?_
  omega

theorem Manageable.covers (typed : p.Typed) (sized : p.Sized) (accepted : ¬p.Refused) (h : p.Manageable) : p.Covered := by
  obtain ⟨first,start⟩ : ∃ first : Nat, p.start = first := ⟨p.start.toNat,by have := h.start; omega⟩
  have size := acceptedExpected typed accepted h.fits
  have plan := planIs typed size start
  have within := rangeWithin typed sized accepted h.fits start
  have split : Split p first p.expectedSize.toNat p.plan := by
    rw [plan]
    exact chunksSplit sized (Nat.le_refl _) h.room
  have both : Counted p.plan ∧ Begins first p.plan := by
    rw [plan]
    rcases Nat.eq_zero_or_pos p.expectedSize.toNat with none | some
    · rw [none]
      exact ⟨fun _ member => absurd member List.not_mem_nil,trivial⟩
    · have last := h.last
      rw [start] at last
      exact ⟨(countedIff sized some (Nat.le_refl _)).mpr h.count,(beginsIff sized some (Nat.le_refl _)).mpr (by exact_mod_cast last)⟩
  have rooms : ∀ {first bytes : Nat} {list : List Chunk}, Split p first bytes list →
      ∀ chunk ∈ list, chunk.sectorCount * p.sectorSize ≤ p.bufferSize := by
    intro first bytes list split
    induction split with
    | nil => exact fun _ member => absurd member List.not_mem_nil
    | cons _ _ _ _ room _ _ ih =>
      intro chunk member
      rcases List.mem_cons.mp member with rfl | member
      · exact room
      · exact ih chunk member
  have ready : (List.replicate p.bufferSize (0 : UInt8)).length = p.bufferSize := List.length_replicate
  refine ⟨first,start,split.covers sized both.1 both.2,?_,fun c member => ?_,fun serves s there => ?_,
    fun serves s there image restore known => ?_⟩
  · rw [planBytes sized size]
    exact Int.toNat_of_nonneg (by rw [← exactIff.mpr h.fits]; exact Int.natCast_nonneg _)
  · obtain ⟨chunk,listed,rfl⟩ := List.mem_map.mp member
    have room := rooms split chunk listed
    rw [commandLength sized room]
    exact ⟨Int.natCast_nonneg _,by exact_mod_cast room⟩
  · unfold dumpDisk
    rw [wpBind]
    exact split.dumps sized serves both.1 both.2 (there.symm ▸ within) ready
  · unfold restoreDisk
    have long : p.expectedSize.toNat ≤ image.length := by
      have same : p.imageSize = image.length := by
        rw [imageSize,known]
        rfl
      have least := Int.min_le_left (p.imageSize : Int) p.total
      rw [expectedSize,if_pos restore]
      omega
    rw [wpIte]
    refine ⟨fun _ => ?_,fun none => ?_⟩
    · rw [wpBind]
      refine wpMono (split.restores sized serves both.1 both.2 (there.symm ▸ within) ready long) (fun _ t restored => ?_)
        fun _ _ failed => failed
      exact wpMono (serves.synchronizeCache t) (fun _ u same => by rw [same]; exact restored) fun _ _ failed => failed
    · have empty : p.plan = [] := not_not.mp none
      have nothing := planBytes sized size
      rw [empty] at nothing
      change (0 : Nat) = _ at nothing
      rw [← nothing,sectorsForNone sized]
      exact ⟨rfl,by rw [sliceNone,List.take_zero],rfl,rfl⟩

/- The length of a transfer that the buffer has no room for is wrong. -/
theorem tooLong (sized : p.Sized) {n : Nat} (small : n * p.sectorSize < p.bufferSize + p.sectorSize) (some : n ≠ 0)
    (positive : 0 ≤ int32 (uint32 (n * p.sectorSize : Nat))) (fits : int32 (uint32 (n * p.sectorSize : Nat)) ≤ p.bufferSize) :
    n * p.sectorSize ≤ p.bufferSize := by
  have buffer := sized.bufferFits
  have sector := sized.sectorFits
  have below : n * p.sectorSize < 2^32 := by
    rcases Nat.lt_or_ge p.bufferSize p.sectorSize with large | _
    · have one : n = 1 := by
        by_contra more
        have two : 2 * p.sectorSize ≤ n * p.sectorSize := Nat.mul_le_mul_right _ (by omega)
        omega
      rw [one]
      omega
    · omega
  rw [uint32Fits below] at positive fits
  generalize n * p.sectorSize = length at *
  unfold int32 at positive fits
  rw [Int.bmod_def] at positive fits
  split at fits <;> omega

theorem Covered.manageable (typed : p.Typed) (sized : p.Sized) (accepted : ¬p.Refused) (h : p.Covered) : p.Manageable := by
  obtain ⟨first,start,covered⟩ := h
  have fits : p.Fits := by
    have bytes := covered.bytes
    rw [planBytes sized (acceptedSize typed accepted)] at bytes
    exact exactIff.mp bytes
  have size := acceptedExpected typed accepted fits
  have plan := planIs typed size start
  have below := (limitBounds sized).2.1
  have positive : 0 ≤ p.start := by
    rw [start]
    exact Int.natCast_nonneg _
  rcases Nat.eq_zero_or_pos p.expectedSize.toNat with none | some
  · have high := typed.startHigh
    refine ⟨fits,positive,?_,?_,?_⟩
    · rw [none,Nat.zero_min,sectorsForNone sized,Nat.zero_mul]
      exact Nat.zero_le _
    · rw [none,Nat.zero_min,sectorsForNone sized]
      decide
    · rw [none,Nat.zero_sub,Nat.zero_div,Nat.zero_mul]
      omega
  · have room : p.sectorsFor (min p.expectedSize.toNat p.limit) * p.sectorSize ≤ p.bufferSize := by
      have bounds := sectorsForBounds sized (min p.expectedSize.toNat p.limit)
      have listed : p.command ⟨int32 first,p.sectorsFor (min p.expectedSize.toNat p.limit),
          min p.expectedSize.toNat p.limit⟩ ∈ p.commands := by
        refine List.mem_map_of_mem ?_
        rw [plan]
        exact chunksFirst sized some (Nat.le_refl _) _
      obtain ⟨low,high⟩ := covered.buffer _ listed
      simp only [command] at low high
      have positive := (limitBounds sized).1
      have one : 0 < p.sectorsFor (min p.expectedSize.toNat p.limit) := sectorsForPositive sized (by omega)
      exact tooLong sized (by omega) (by omega) low high
    have split : Split p first p.expectedSize.toNat p.plan := by
      rw [plan]
      exact chunksSplit sized (Nat.le_refl _) room
    obtain ⟨counted,begins⟩ := split.uncovered sized covered.sectors
    rw [plan] at counted begins
    refine ⟨fits,positive,room,(countedIff sized some (Nat.le_refl _)).mp counted,?_⟩
    have last := (beginsIff sized some (Nat.le_refl _)).mp begins
    rw [start]
    exact_mod_cast last

/- A dump or a restore on a target without errors, for any executor. -/
theorem diskCoveredIff (typed : p.Typed) (sized : p.Sized) : (¬p.Refused → p.Covered) ↔ p.Refused ∨ p.Manageable := by
  by_cases refused : p.Refused
  · exact ⟨fun _ => .inl refused,fun _ accepted => absurd refused accepted⟩
  · constructor
    · exact fun covered => .inr ((covered refused).manageable typed sized refused)
    · rintro (wrong | manageable)
      · exact absurd wrong refused
      · exact fun _ => manageable.covers typed sized refused

/-! The executor of the board and a disk without errors. -/

def disk (size : Nat) : Target Bytes := fun bytes cdb data =>
  let start := getInt32 cdb 2 * size
  let length := getInt16 cdb 7 * size
  if cdb.getD 0 0 = ScsiCommand.read10 then ({ dataIn := slice bytes start length },bytes)
  else if cdb.getD 0 0 = ScsiCommand.write10 then ({ taken := length },overwrite 0 bytes start (data.take length))
  else ({},bytes)

/- The CDB that is sent contains the LUN. -/
def sentCdb (i : BoardExecutor.Initiator) (isWrite : Bool) (lba count : Nat) : Bytes :=
  BoardExecutor.encodeLun i ((transferCdb isWrite lba count).set 0 ((transferCdb isWrite lba count).getD 0 0))

variable {i : BoardExecutor.Initiator} {lba count : Nat}

theorem sentFields (isWrite : Bool) (address : lba < 2^32) (number : count < 2^16) :
    (sentCdb i isWrite lba count).getD 0 0 = (if isWrite then ScsiCommand.write10 else ScsiCommand.read10) ∧
      getInt32 (sentCdb i isWrite lba count) 2 = lba ∧ getInt16 (sentCdb i isWrite lba count) 7 = count := by
  have bytes : (transferCdb isWrite lba count).set 0 ((transferCdb isWrite lba count).getD 0 0) =
      [if isWrite then ScsiCommand.write10 else ScsiCommand.read10,0,UInt8.ofNat (lba / 256^3),UInt8.ofNat (lba / 256^2),
        UInt8.ofNat (lba / 256^1),UInt8.ofNat (lba / 256^0),0,UInt8.ofNat (count / 256^1),UInt8.ofNat (count / 256^0),0] := rfl
  unfold sentCdb BoardExecutor.encodeLun
  rw [bytes]
  split <;>
  · refine ⟨rfl,?_,?_⟩ <;>
    · simp only [getInt32,getInt16,byteAt,List.set_cons_succ,List.set_cons_zero,List.getD_cons_succ,List.getD_cons_zero,
        UInt8.toNat_ofNat']
      omega

theorem diskReads (size : Nat) (bytes data : Bytes) (address : lba < 2^32) (number : count < 2^16) :
    disk size bytes (sentCdb i false lba count) data =
      ({ dataIn := slice bytes (lba * size) (count * size) },bytes) := by
  obtain ⟨opcode,start,length⟩ := sentFields (i := i) false address number
  unfold disk
  rw [opcode,start,length]
  rfl

theorem diskWrites (size : Nat) (bytes data : Bytes) (address : lba < 2^32) (number : count < 2^16) :
    disk size bytes (sentCdb i true lba count) data =
      ({ taken := count * size },overwrite 0 bytes (lba * size) (data.take (count * size))) := by
  obtain ⟨opcode,start,length⟩ := sentFields (i := i) true address number
  unfold disk
  rw [opcode,start,length]
  rfl

theorem boardServes (i : BoardExecutor.Initiator) (size : Nat) : Serves (BoardExecutor.virtual i) (disk size) id size where
  read lba count s buf address number inside room := by
    unfold BoardExecutor.virtual BoardExecutor.execute
    dsimp only
    rw [wpBind,wpBind,DumpEff.wpSend,wpBind,DumpEff.wpReceive]
    have answer := diskReads (i := i) size s.target (buf.take (count * size)) address number
    unfold sentCdb at answer
    rw [answer]
    have sized : (slice s.target (lba * size) (count * size)).length = count * size := by
      refine sliceLengthWithin ?_
      rw [← Nat.add_mul]
      exact inside
    have all : (slice s.target (lba * size) (count * size)).take (count * size) = slice s.target (lba * size) (count * size) :=
      List.take_of_length_le sized.le
    dsimp only
    rw [all,sized]
    refine ⟨fun short => absurd room (Nat.not_le.mpr short),fun _ => ⟨?_,rfl,rfl⟩⟩
    have answered : BoardExecutor.answers { dataIn := slice s.target (lba * size) (count * size) } (count * size) :=
      ⟨sized.le,.inl rfl⟩
    simp only [Executed.succeeded,Executed.map,answered,if_true,decide_true]
  write lba count s buf address number inside room := by
    unfold BoardExecutor.virtual BoardExecutor.execute
    dsimp only
    rw [wpBind,wpBind,DumpEff.wpSend,wpBind,DumpEff.wpReceive]
    have answer := diskWrites (i := i) size s.target (buf.take (count * size)) address number
    unfold sentCdb at answer
    rw [answer]
    have none : ((([] : Bytes)).take (count * size)).length = 0 := by rw [List.take_nil]; rfl
    dsimp only
    rw [none]
    refine ⟨fun short => absurd short (Nat.not_lt_zero _),fun _ => ⟨?_,?_,?_⟩⟩
    · have answered : BoardExecutor.answers { taken := count * size } (count * size) := ⟨Nat.zero_le _,.inr rfl⟩
      simp only [Executed.succeeded,Executed.map,answered,if_true,decide_true]
    · simp [Executed.succeeded,Executed.map,setBytes,overwrite]
    · simp only [id,List.take_take,Nat.min_self]
  synchronizeCache s := by
    unfold synchronizeCache BoardExecutor.virtual BoardExecutor.execute
    dsimp only
    rw [wpBind,wpBind,wpBind,DumpEff.wpSend,wpBind,DumpEff.wpReceive]
    refine ⟨fun short => absurd short (Nat.not_lt_zero _),fun _ => ?_⟩
    have other : (BoardExecutor.encodeLun i ((newCdb 10 .synchronizeCache10).set 0 ScsiCommand.synchronizeCache10)).getD 0 0 =
        ScsiCommand.synchronizeCache10 := BoardExecutor.encodedOpcode _
    unfold disk
    dsimp only
    rw [other]
    rfl

theorem tenSectorsSized : tenSectors.Sized := by
  constructor <;> decide

theorem tenSectorsCovered : tenSectors.Covered := by
  refine (diskCoveredIff tenSectorsTyped tenSectorsSized).mpr (.inr ?_) (by decide)
  exact ⟨⟨by decide,.inl (by decide)⟩,by decide,by decide,by decide,by decide⟩

/- A buffer of one byte more than 64 KiB. -/
def oddBuffer : S2pDump := { scsiCapacity := 1000, scsiSectorSize := 512, bufferSize := 2^16 + 1 }

theorem oddBufferOverrun : oddBuffer.Typed ∧ oddBuffer.Sized ∧ ¬oddBuffer.Refused ∧ ¬oddBuffer.Covered := by
  have typed : oddBuffer.Typed := by constructor <;> decide
  have sized : oddBuffer.Sized := by constructor <;> decide
  have accepted : ¬oddBuffer.Refused := by decide
  exact ⟨typed,sized,accepted,fun covered => absurd (covered.manageable typed sized accepted).room (by decide)⟩

end Scsi2Pi.S2pDump
