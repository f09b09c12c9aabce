import Scsi2Pi.SgExecutor

/-! The pieces of a READ or WRITE that the SG adapter sends to its driver: the blocks they
address, against those of the CDB. -/
namespace Scsi2Pi
open Slices MemoryUtil CommandMetaData SgUtil

/- Where the CDB of READ and WRITE has its first block and the number of blocks. -/
inductive BlockForm where
  | six | ten | twelve | sixteen
  deriving DecidableEq, Repr

namespace BlockForm

def length : BlockForm → Nat
  | .six => 6
  | .ten => 10
  | .twelve => 12
  | .sixteen => 16

/- The numbers that a field can hold. -/
def blockLimit : BlockForm → Nat
  | .six => 2^21
  | .ten | .twelve => 2^32
  | .sixteen => 2^64

def countLimit : BlockForm → Nat
  | .six => 2^8
  | .ten => 2^16
  | .twelve | .sixteen => 2^32

/- The three bits of a LUN are no part of a block number. -/
def start (f : BlockForm) (cdb : Bytes) : Nat :=
  match f with
  | .six => getInt24 cdb 1 % 2^21
  | .ten | .twelve => getInt32 cdb 2
  | .sixteen => getInt64 cdb 2

def field (f : BlockForm) (cdb : Bytes) : Nat :=
  match f with
  | .six => byteAt cdb 4
  | .ten => getInt16 cdb 7
  | .twelve => getInt32 cdb 6
  | .sixteen => getInt32 cdb 10

/- The number of blocks for what the field holds. -/
def blocks (f : BlockForm) (value : Nat) : Nat := if f = .six ∧ value = 0 then 256 else value

def count (f : BlockForm) (cdb : Bytes) : Nat := f.blocks (f.field cdb)

def metaData (f : BlockForm) (write : Bool) : CdbMetaData :=
  match f with
  | .six => ⟨4,1,1,3,write⟩
  | .ten => ⟨7,2,2,4,write⟩
  | .twelve => ⟨6,4,2,4,write⟩
  | .sixteen => ⟨10,4,2,8,write⟩

def transfers : List (ScsiCommand × BlockForm) := [
  (.read6,.six),(.write6,.six),(.read10,.ten),(.write10,.ten),(.read12,.twelve),(.write12,.twelve),(.read16,.sixteen),
  (.write16,.sixteen)]

theorem transfersMetaData : ∀ t ∈ transfers, getCdbMetaData t.1 = t.2.metaData false ∨ getCdbMetaData t.1 = t.2.metaData true := by
  decide

/- A complete CDB of READ or WRITE. -/
structure Transfers (f : BlockForm) (cdb : Bytes) : Prop where
  length : cdb.length = f.length
  opcode : (cdb.getD 0 0,f) ∈ transfers

variable {f : BlockForm} {cdb : Bytes}

theorem Transfers.metaData (transfers : f.Transfers cdb) : ∃ write, getCdbMetaData (cdb.getD 0 0) = f.metaData write := by
  rcases transfersMetaData _ transfers.opcode with read | write
  · exact ⟨_,read⟩
  · exact ⟨_,write⟩

theorem Transfers.blockSize (transfers : f.Transfers cdb) : (getCdbMetaData (cdb.getD 0 0)).blockSize ≠ 0 := by
  obtain ⟨write,metaData⟩ := transfers.metaData
  rw [metaData]
  cases f <;> exact Nat.succ_ne_zero _

/- A field behind the opcode has been set. -/
theorem Transfers.set {bytes : Bytes} {offset : Nat} (transfers : f.Transfers cdb) (behind : 0 < offset)
    (fits : offset + bytes.length ≤ cdb.length) : f.Transfers (setBytes cdb offset bytes) := by
  refine ⟨(setBytesLength fits).trans transfers.length,?_⟩
  have same : (setBytes cdb offset bytes).getD 0 0 = cdb.getD 0 0 := UInt8.toNat_inj.mp (byteAtOther (.inl behind))
  rw [same]
  exact transfers.opcode

/-! The two fields, when one of them is set. -/

theorem getInt24Same {buf : Bytes} {offset : Nat} (value : Nat) :
    getInt24 (SgUtil.setInt24 buf offset value) offset = value % 2^24 := by
  have byte {i : Nat} (inside : i < 3) : byteAt (setBytes buf offset (bigEndian 3 value)) (offset+i) = value / 256^(3-1-i) % 256 :=
    byteAtField inside value
  have high := byte (show 0 < 3 by decide)
  have middle := byte (show 1 < 3 by decide)
  have low := byte (show 2 < 3 by decide)
  rw [Nat.add_zero] at high
  unfold getInt24 SgUtil.setInt24
  rw [high,middle,low]
  omega

theorem getInt24Other {buf bytes : Bytes} {offset a : Nat} (apart : a + 3 ≤ offset ∨ offset + bytes.length ≤ a) :
    getInt24 (setBytes buf offset bytes) a = getInt24 buf a := by
  unfold getInt24
  rw [byteAtOther (by omega),byteAtOther (by omega),byteAtOther (by omega)]

/- What changes with a field of a CDB. -/
structure Sets (f : BlockForm) (cdb cdb' : Bytes) (start field : Nat) : Prop where
  transfers : f.Transfers cdb'
  start : f.start cdb' = start
  field : f.field cdb' = field

theorem setBlockCountSets (transfers : f.Transfers cdb) (n : Nat) :
    f.Sets cdb (setBlockCount cdb n) (f.start cdb) (n % f.countLimit) := by
  obtain ⟨write,metaData⟩ := transfers.metaData
  have length := transfers.length
  unfold setBlockCount
  rw [metaData]
  cases f with
  | six =>
    change Sets _ cdb (setBytes cdb 4 (bigEndian 1 n)) _ _
    have fits : 4 + (bigEndian 1 n).length ≤ cdb.length := by rw [bigEndianLength,length]; decide
    have own : byteAt (setBytes cdb 4 (bigEndian 1 n)) (4+0) = n / 256^(1-1-0) % 256 := byteAtField (by decide) n
    refine ⟨transfers.set (by decide) fits,congrArg (· % 2^21) (getInt24Other (.inl (by decide))),own.trans ?_⟩
    rw [Nat.pow_zero,Nat.div_one]
    rfl
  | ten =>
    change Sets _ cdb (setInt16 cdb 7 n) _ _
    have fits : 7 + (bigEndian 2 n).length ≤ cdb.length := by rw [bigEndianLength,length]; decide
    exact ⟨transfers.set (by decide) fits,getInt32Other (.inl (by decide)),getInt16Same n⟩
  | twelve =>
    change Sets _ cdb (setInt32 cdb 6 n) _ _
    have fits : 6 + (bigEndian 4 n).length ≤ cdb.length := by rw [bigEndianLength,length]; decide
    exact ⟨transfers.set (by decide) fits,getInt32Other (.inl (by decide)),getInt32Same n⟩
  | sixteen =>
    change Sets _ cdb (setInt32 cdb 10 n) _ _
    have fits : 10 + (bigEndian 4 n).length ≤ cdb.length := by rw [bigEndianLength,length]; decide
    exact ⟨transfers.set (by decide) fits,getInt64Other (.inl (by decide)),getInt32Same n⟩

theorem updateStartBlockSets (transfers : f.Transfers cdb) (n : Nat) :
    f.Sets cdb (updateStartBlock cdb n) ((f.start cdb + n) % f.blockLimit) (f.field cdb) := by
  obtain ⟨write,metaData⟩ := transfers.metaData
  have length := transfers.length
  unfold updateStartBlock
  rw [metaData]
  cases f with
  | six =>
    change Sets _ cdb (SgUtil.setInt24 cdb 1 (getInt24 cdb 1 + n)) _ _
    have fits : 1 + (bigEndian 3 (getInt24 cdb 1 + n)).length ≤ cdb.length := by rw [bigEndianLength,length]; decide
    refine ⟨transfers.set (by decide) fits,?_,byteAtOther (.inr (by simp))⟩
    refine (congrArg (· % 2^21) (getInt24Same _)).trans ?_
    change (getInt24 cdb 1 + n) % 2^24 % 2^21 = (getInt24 cdb 1 % 2^21 + n) % 2^21
    omega
  | ten =>
    change Sets _ cdb (setInt32 cdb 2 (getInt32 cdb 2 + n)) _ _
    have fits : 2 + (bigEndian 4 (getInt32 cdb 2 + n)).length ≤ cdb.length := by rw [bigEndianLength,length]; decide
    exact ⟨transfers.set (by decide) fits,getInt32Same _,getInt16Other (.inr (by simp))⟩
  | twelve =>
    change Sets _ cdb (setInt32 cdb 2 (getInt32 cdb 2 + n)) _ _
    have fits : 2 + (bigEndian 4 (getInt32 cdb 2 + n)).length ≤ cdb.length := by rw [bigEndianLength,length]; decide
    exact ⟨transfers.set (by decide) fits,getInt32Same _,getInt32Other (.inr (by simp))⟩
  | sixteen =>
    change Sets _ cdb (setInt64 cdb 2 (getInt64 cdb 2 + n)) _ _
    have fits : 2 + (bigEndian 8 (getInt64 cdb 2 + n)).length ≤ cdb.length := by rw [bigEndianLength,length]; decide
    exact ⟨transfers.set (by decide) fits,getInt64Same _,getInt32Other (.inr (by simp))⟩

theorem startLt (f : BlockForm) (cdb : Bytes) : f.start cdb < f.blockLimit := by
  cases f with
  | six => exact Nat.mod_lt _ (by decide)
  | ten | twelve => exact getInt32Lt _ _
  | sixteen => exact getInt64Lt _ _

theorem fieldLt (f : BlockForm) (cdb : Bytes) : f.field cdb < f.countLimit := by
  cases f with
  | six => exact (cdb.getD 4 0).toNat_lt
  | ten => exact getInt16Lt _ _
  | twelve | sixteen => exact getInt32Lt _ _

theorem blocksZero (f : BlockForm) (value : Nat) : f.blocks value = 0 ↔ value = 0 ∧ f ≠ .six := by
  unfold blocks
  split <;> grind

/- The field of a piece stands for the blocks that are written to it. -/
theorem blocksOfPiece {n : Nat} (positive : 0 < n) (some : n ≤ f.count cdb) : f.blocks (n % f.countLimit) = n := by
  have below := f.fieldLt cdb
  unfold count blocks at some
  unfold blocks
  cases f with
  | six =>
    change byteAt cdb 4 < 256 at below
    change (if BlockForm.six = .six ∧ n % 256 = 0 then 256 else n % 256) = n
    simp only [true_and] at some ⊢
    change n ≤ if byteAt cdb 4 = 0 then 256 else byteAt cdb 4 at some
    split at some <;> split <;> omega
  | ten | twelve | sixteen =>
    rw [if_neg (by simp)] at some
    rw [if_neg (by simp)]
    exact Nat.mod_eq_of_lt (Nat.lt_of_le_of_lt some below)

theorem allocationField (transfers : f.Transfers cdb) (small : f.field cdb < 2^31) : getAllocationLength cdb = f.field cdb := by
  obtain ⟨write,metaData⟩ := transfers.metaData
  have signed : int32 (f.field cdb) = f.field cdb := int32Fits (by omega) (by omega)
  have behind : ¬(f.metaData write).allocationLengthOffset < 0 := by cases f <;> cases write <;> decide
  unfold getAllocationLength
  simp only [metaData,if_neg behind]
  cases f with
  | six | ten => rfl
  | twelve | sixteen =>
    simp only [BlockForm.metaData]
    exact signed

end BlockForm

/- A request to the driver, with the place of its data in the buffer. -/
structure DriverRequest where
  cdb : Bytes
  offset : Nat
  length : Nat
  deriving DecidableEq, Repr

namespace SgAdapter

/- The requests of SendCommand when the driver completes each of them. -/
def requests (size : Nat) : Nat → Bytes → Nat → Nat → List DriverRequest
  | 0, _, _, _ => []
  | pieces+1, cdb, offset, total =>
    let length := min total maxTransferLength
    let piece := setBlockCount cdb (length / size)
    ⟨piece,offset,length⟩ :: if (getCdbMetaData (cdb.getD 0 0)).blockSize = 0 ∨ total ≤ length then []
      else requests size pieces (updateStartBlock piece (length / size)) (offset + length) (total - length)

def requestsOf (cdb : Bytes) (size length : Nat) : List DriverRequest :=
  requests size (totalLength cdb length / maxTransferLength + 1) cdb 0 (totalLength cdb length)

/- What SendCommand reports to its caller. -/
def byteCount : List DriverRequest → Nat
  | [] => 0
  | r :: rs => r.length + byteCount rs

variable {size : Nat}

theorem requestsLast {pieces total offset : Nat} {cdb : Bytes} (last : total ≤ maxTransferLength) :
    requests size (pieces+1) cdb offset total = [⟨setBlockCount cdb (total / size),offset,total⟩] := by
  unfold requests
  rw [Nat.min_eq_left last]
  simp

theorem requestsMore {pieces total offset : Nat} {cdb : Bytes} (blocks : (getCdbMetaData (cdb.getD 0 0)).blockSize ≠ 0)
    (more : maxTransferLength < total) : requests size (pieces+1) cdb offset total =
      ⟨setBlockCount cdb (maxTransferLength / size),offset,maxTransferLength⟩ ::
        requests size pieces (updateStartBlock (setBlockCount cdb (maxTransferLength / size)) (maxTransferLength / size))
          (offset + maxTransferLength) (total - maxTransferLength) := by
  conv_lhs => unfold requests
  rw [Nat.min_eq_right (Nat.le_of_lt more)]
  dsimp only
  rw [if_neg (not_or.mpr ⟨blocks,Nat.not_le.mpr more⟩)]

end SgAdapter

namespace BlockForm
open SgAdapter
variable {f : BlockForm} {cdb : Bytes} {size : Nat}

/- The pieces address the blocks from the first to the last position, one behind the other, and each
has the data of its blocks, behind those of the piece before. -/
inductive Splits (f : BlockForm) (size : Nat) : Nat → Nat → List DriverRequest → Nat → Nat → Prop where
  | nil (start offset) : Splits f size start offset [] start offset
  | cons {start offset r rs stop last} : f.start r.cdb = start → r.offset = offset → r.length = f.count r.cdb * size →
      Splits f size (start + f.count r.cdb) (offset + r.length) rs stop last → Splits f size start offset (r :: rs) stop last

/- The pieces are the blocks of the CDB, and their length is reported. -/
structure Exact (f : BlockForm) (size : Nat) (cdb : Bytes) (rs : List DriverRequest) : Prop where
  pieces : f.Splits size (f.start cdb) 0 rs (f.start cdb + f.count cdb) (f.count cdb * size)
  reported : byteCount rs = f.count cdb * size

theorem splitsTotal {start offset stop last rs} (splits : f.Splits size start offset rs stop last) :
    offset + byteCount rs = last := by
  induction splits with
  | nil => rfl
  | cons _ _ _ _ ih => exact (Nat.add_assoc _ _ _).symm.trans ih

/- The CDBs of a piece, and of the pieces behind it. -/
theorem pieceSets (transfers : f.Transfers cdb) (n : Nat) :
    f.Sets cdb (setBlockCount cdb n) (f.start cdb) (n % f.countLimit) ∧
    ∃ field, f.Sets (setBlockCount cdb n) (updateStartBlock (setBlockCount cdb n) n) ((f.start cdb + n) % f.blockLimit) field := by
  have piece := setBlockCountSets transfers n
  have behind := updateStartBlockSets piece.transfers n
  rw [piece.start] at behind
  exact ⟨piece,_,behind⟩

theorem requestsTotal {pieces total : Nat} (offset : Nat) (transfers : f.Transfers cdb) (enough : total < pieces * maxTransferLength) :
    byteCount (requests size pieces cdb offset total) = total := by
  induction pieces generalizing cdb total offset with
  | zero => omega
  | succ pieces ih =>
    by_cases last : total ≤ maxTransferLength
    · rw [requestsLast last]
      rfl
    · have more := Nat.not_le.mp last
      obtain ⟨_,_,rest⟩ := pieceSets transfers (maxTransferLength / size)
      rw [requestsMore transfers.blockSize more]
      rw [Nat.succ_mul] at enough
      have others := ih (offset + maxTransferLength) rest.transfers
        (show total - maxTransferLength < pieces * maxTransferLength by omega)
      change maxTransferLength + byteCount _ = total
      omega

theorem piecesEnough (total : Nat) : total < (total / maxTransferLength + 1) * maxTransferLength := by
  have split := Nat.div_add_mod total maxTransferLength
  have below := Nat.mod_lt total (show 0 < maxTransferLength by decide)
  rw [Nat.succ_mul,Nat.mul_comm]
  omega

/- The first request of several ones is as long as possible. -/
theorem firstWhole {pieces total start offset stop last : Nat} (transfers : f.Transfers cdb) (more : maxTransferLength < total)
    (splits : f.Splits size start offset (requests size (pieces+1) cdb offset total) stop last) : size ∣ maxTransferLength := by
  rw [requestsMore transfers.blockSize more] at splits
  cases splits with
  | cons _ _ whole _ => exact ⟨_,whole.trans (Nat.mul_comm _ _)⟩

theorem splitsStart {pieces total start offset stop last : Nat} (transfers : f.Transfers cdb)
    (splits : f.Splits size start offset (requests size (pieces+1) cdb offset total) stop last) : start = f.start cdb := by
  have piece (n : Nat) := (setBlockCountSets transfers n).start
  by_cases one : total ≤ maxTransferLength
  · rw [requestsLast one] at splits
    cases splits with
    | cons start _ _ _ => exact start.symm.trans (piece _)
  · rw [requestsMore transfers.blockSize (Nat.not_le.mp one)] at splits
    cases splits with
    | cons start _ _ _ => exact start.symm.trans (piece _)

/- A single request. -/
theorem splitsLast {n : Nat} (pieces offset : Nat) (transfers : f.Transfers cdb) (positive : 0 < size) (last : n * size ≤ maxTransferLength)
    (decodes : f.blocks (n % f.countLimit) = n) :
    f.Splits size (f.start cdb) offset (requests size (pieces+1) cdb offset (n * size)) (f.start cdb + n) (offset + n * size) := by
  have piece := setBlockCountSets transfers (n * size / size)
  have count : f.count (setBlockCount cdb (n * size / size)) = n := by
    unfold BlockForm.count
    rw [piece.field,Nat.mul_div_cancel n positive,decodes]
  rw [requestsLast last]
  refine .cons piece.start rfl (by rw [count]) ?_
  rw [count]
  exact .nil _ _

/- Several requests, each of the same number of blocks but the last one. -/
theorem splitsWhole {pieces n per : Nat} (offset : Nat) (transfers : f.Transfers cdb) (whole : per * size = maxTransferLength)
    (enough : n * size < pieces * maxTransferLength) (some : 0 < n)
    (decodes : ∀ k, 0 < k → k ≤ n → f.blocks (k % f.countLimit) = k) :
    f.Splits size (f.start cdb) offset (requests size pieces cdb offset (n * size)) (f.start cdb + n) (offset + n * size) ↔
      f.start cdb + per * ((n - 1) / per) < f.blockLimit := by
  have positive : 0 < size := Nat.pos_of_ne_zero fun none => by simp [none,maxTransferLength] at whole
  have nonempty : 0 < per := Nat.pos_of_ne_zero fun none => by simp [none,maxTransferLength] at whole
  have each : maxTransferLength / size = per := by rw [←whole,Nat.mul_div_cancel per positive]
  induction pieces generalizing cdb n offset with
  | zero => omega
  | succ pieces ih =>
    by_cases last : n ≤ per
    · have one : n * size ≤ maxTransferLength := whole ▸ Nat.mul_le_mul_right size last
      rw [Nat.div_eq_of_lt (by omega),Nat.mul_zero,Nat.add_zero]
      exact ⟨fun _ => f.startLt cdb,fun _ => splitsLast pieces offset transfers positive one (decodes n some (Nat.le_refl n))⟩
    · have behind := Nat.not_le.mp last
      have more : maxTransferLength < n * size := whole ▸ Nat.mul_lt_mul_of_pos_right behind positive
      obtain ⟨piece,_,rest⟩ := pieceSets transfers per
      have count : f.count (setBlockCount cdb per) = per := by
        unfold BlockForm.count
        rw [piece.field,decodes per nonempty (Nat.le_of_lt behind)]
      have left : n * size - maxTransferLength = (n - per) * size := by rw [←whole,Nat.sub_mul]
      rw [Nat.succ_mul] at enough
      obtain ⟨pieces,rfl⟩ : ∃ k, pieces = k + 1 := Nat.exists_eq_succ_of_ne_zero fun none => by
        rw [none] at enough
        omega
      have others := ih (offset + maxTransferLength) rest.transfers
        (show (n - per) * size < (pieces + 1) * maxTransferLength by omega) (by omega)
        fun k low high => decodes k low (by omega)
      have steps : (n - 1) / per = (n - per - 1) / per + 1 := by
        rw [show n - 1 = n - per - 1 + per by omega,Nat.add_div_right _ nonempty]
      rw [requestsMore transfers.blockSize more,each,left,steps,Nat.mul_succ]
      have wholeCount : maxTransferLength = f.count (setBlockCount cdb per) * size := by rw [count,whole]
      have ends : f.start cdb + per + (n - per) = f.start cdb + n ∧
          offset + maxTransferLength + (n - per) * size = offset + n * size := by omega
      constructor
      · intro splits
        cases splits with
        | cons _ _ _ behind =>
          change Splits _ _ (_ + f.count (setBlockCount cdb per)) (offset + maxTransferLength) _ _ _ at behind
          rw [count] at behind
          have start := splitsStart rest.transfers behind
          rw [start,←ends.1,←ends.2,start] at behind
          have inside := others.mp behind
          omega
      · intro inside
        refine .cons piece.start rfl wholeCount ?_
        change Splits _ _ (_ + f.count (setBlockCount cdb per)) (offset + maxTransferLength) _ _ _
        have start : (f.start cdb + per) % f.blockLimit = f.start cdb + per := Nat.mod_eq_of_lt (by omega)
        rw [rest.start,start,ends.1,ends.2] at others
        rw [count]
        exact others.mpr (by omega)

theorem decodesCount (f : BlockForm) (cdb : Bytes) : f.blocks (f.count cdb % f.countLimit) = f.count cdb := by
  by_cases none : f.count cdb = 0
  · rw [none,Nat.zero_mod]
    exact (f.blocksZero 0).mpr ⟨rfl,((f.blocksZero _).mp none).2⟩
  · exact blocksOfPiece (Nat.pos_of_ne_zero none) (Nat.le_refl _)

/- The number of blocks is taken for the number of bytes, except that no number leaves the length of the caller. -/
theorem totalLengthBlocks (transfers : f.Transfers cdb) (small : f.field cdb < 2^31) (length : Nat) :
    totalLength cdb length = if f.field cdb = 0 then length else f.field cdb := by
  unfold totalLength
  rw [allocationField transfers small]
  by_cases none : f.field cdb = 0 <;> simp [none]

theorem fieldLeCount (f : BlockForm) (cdb : Bytes) : f.field cdb ≤ f.count cdb := by
  unfold BlockForm.count blocks
  split <;> omega

theorem countOfField (some : f.field cdb ≠ 0) : f.count cdb = f.field cdb := if_neg fun six => some six.2

/- One piece is enough, or all but the last one are as long as possible and start at a number that the field can hold. -/
def Divides (f : BlockForm) (size start n : Nat) : Prop :=
  n * size ≤ maxTransferLength ∨
    size ∣ maxTransferLength ∧ start + maxTransferLength / size * ((n - 1) / (maxTransferLength / size)) < f.blockLimit

theorem splitsIff (transfers : f.Transfers cdb) (positive : 0 < size) :
    f.Splits size (f.start cdb) 0
      (requests size (f.count cdb * size / maxTransferLength + 1) cdb 0 (f.count cdb * size))
      (f.start cdb + f.count cdb) (f.count cdb * size) ↔ f.Divides size (f.start cdb) (f.count cdb) := by
  have zero : 0 + f.count cdb * size = f.count cdb * size := Nat.zero_add _
  by_cases one : f.count cdb * size ≤ maxTransferLength
  · have last := splitsLast (f.count cdb * size / maxTransferLength) 0 transfers positive one
      (f.decodesCount cdb)
    rw [zero] at last
    exact ⟨fun _ => .inl one,fun _ => last⟩
  · have more := Nat.not_le.mp one
    have some : 0 < f.count cdb := Nat.pos_of_ne_zero fun none => one (by rw [none,Nat.zero_mul]; exact Nat.zero_le _)
    have whole (divides : size ∣ maxTransferLength) := splitsWhole 0 transfers (Nat.div_mul_cancel divides)
      (piecesEnough (f.count cdb * size)) some fun k low high => blocksOfPiece low high
    rw [zero] at whole
    constructor
    · intro splits
      have divides := firstWhole transfers more splits
      exact .inr ⟨divides,(whole divides).mp splits⟩
    · rintro (short | ⟨divides,inside⟩)
      · exact (one short).elim
      · exact (whole divides).mpr inside

/-! The requests are those that the driver gets. -/

theorem transferOpcodes : ∀ t ∈ transfers, t.1 ≠ ScsiCommand.requestSense ∧ t.1 ≠ ScsiCommand.inquiry := by
  decide

section
open DumpEff Eff S2pDumpExecutor
variable {τ : Type} {r : Target τ} {s : DumpState τ} {buf : Bytes} {E : DumpException → DumpState τ → Prop}

/- A completed request, with room for its data. -/
theorem wpCompleted {length : Nat} {Q : Executed Nat → DumpState τ → Prop} (transfers : f.Transfers cdb)
    (completes : ∀ t cdb data, driverStatus (r t cdb data).1 = 0) (room : length ≤ buf.length)
    (sent : ∀ buf' t, buf'.length = buf.length → t.sent = s.sent ++ [cdb] → t.adapter.blockSize = s.adapter.blockSize →
      Q ⟨0,cdb,buf'⟩ t) : wp (sendCommandInternal cdb buf length) r s Q E := by
  obtain ⟨noSense,noInquiry⟩ := transferOpcodes _ transfers.opcode
  unfold sendCommandInternal sendToDriver
  have kept : ¬(cdb.getD 0 0 = ScsiCommand.requestSense ∧ s.adapter.senseDataValid = true) := fun sense => noSense sense.1
  have unmarked (buf : Bytes) (status : Nat) : markMissingLun cdb buf status = buf := if_neg fun missing => noInquiry missing.2.1
  simp only [wpBind,wpGet,wpIte,wpSend,wpReceive,wpPure,wpModify,kept,false_implies,true_and,not_false_eq_true,true_implies,
    unmarked,completes]
  generalize hread : (if (getCdbMetaData (cdb.getD 0 0)).hasDataOut then [] else _ : Bytes) = read
  have short : read.length ≤ buf.length := by
    rw [←hread]
    split
    · exact Nat.zero_le _
    · exact Nat.le_trans (List.length_take_le _ _) room
  refine ⟨fun full => (Nat.not_lt.mpr short full).elim,fun _ => sent _ _ (setBytesLength ?_) rfl rfl⟩
  rwa [Nat.zero_add]

/- The driver gets the CDBs of the requests. -/
theorem piecesSent {pieces total : Nat} (offset : Nat) (transfers : f.Transfers cdb) (completes : ∀ t cdb data, driverStatus (r t cdb data).1 = 0)
    (positive : 0 < size) (sized : s.adapter.blockSize = size) (enough : total < pieces * maxTransferLength)
    (room : total ≤ buf.length) :
    wp (sendPieces pieces cdb buf total) r s
      (fun _ t => t.sent = s.sent ++ (requests size pieces cdb offset total).map DriverRequest.cdb) E := by
  induction pieces generalizing cdb buf total offset s with
  | zero => omega
  | succ pieces ih =>
    have piece := (pieceSets transfers (min total maxTransferLength / size)).1.transfers
    have nonzero : size ≠ 0 := Nat.ne_of_gt positive
    unfold sendPieces
    simp only [wpBind,wpGet,wpIte,wpThrow,wpPure,sized,nonzero,false_implies,true_and,not_false_eq_true,true_implies]
    refine wpCompleted piece completes (Nat.le_trans (Nat.min_le_left _ _) room) fun buf' t length sent same => ?_
    simp only [transfers.blockSize,ne_eq,not_true,false_or]
    by_cases last : total ≤ maxTransferLength
    · rw [requestsLast last]
      rw [Nat.min_eq_left last] at sent ⊢
      exact ⟨fun _ => sent,fun more => (more (Nat.le_refl _)).elim⟩
    · have more := Nat.not_le.mp last
      obtain ⟨_,_,rest⟩ := pieceSets transfers (maxTransferLength / size)
      rw [requestsMore transfers.blockSize more]
      rw [Nat.min_eq_right (Nat.le_of_lt more)] at sent ⊢
      refine ⟨fun done => (last done).elim,fun _ => ?_⟩
      rw [Nat.succ_mul] at enough
      have others := ih (offset + maxTransferLength) rest.transfers (same.trans sized)
        (show total - maxTransferLength < pieces * maxTransferLength by omega)
        (show total - maxTransferLength ≤ (buf'.drop maxTransferLength).length by rw [List.length_drop,length]; omega)
      refine wpMono others (fun executed t' known => ?_) fun _ _ known => known
      rw [sent] at known
      rw [known,List.map_cons,List.append_assoc]
      rfl

/- The same for SendCommand. -/
theorem commandSent {length : Nat} (transfers : f.Transfers cdb) (completes : ∀ t cdb data, driverStatus (r t cdb data).1 = 0)
    (positive : 0 < size) (sized : s.adapter.blockSize = size) (room : totalLength cdb length ≤ buf.length) :
    wp (sendCommand cdb buf length) r s
      (fun _ t => t.sent = s.sent ++ (requestsOf cdb size length).map DriverRequest.cdb) E := by
  unfold sendCommand
  simp only [wpBind,wpPure]
  exact piecesSent 0 transfers completes positive sized (piecesEnough _) room

end

end BlockForm

/- The pieces of a transfer are its blocks exactly if no number of blocks is taken for a number of bytes,
and if the blocks can be divided. -/
theorem transferSplit {f : BlockForm} {cdb : Bytes} {size : Nat} (transfers : f.Transfers cdb) (positive : 0 < size)
    (fits : f.count cdb * size < 2^31) :
    f.Exact size cdb (SgAdapter.requestsOf cdb size (f.count cdb * size)) ↔
      (f.field cdb = 0 ∨ size = 1) ∧ f.Divides size (f.start cdb) (f.count cdb) := by
  have field := f.fieldLeCount cdb
  have small : f.field cdb < 2^31 :=
    Nat.lt_of_le_of_lt (Nat.le_trans field (Nat.le_mul_of_pos_right _ positive)) fits
  have total := BlockForm.totalLengthBlocks transfers small (f.count cdb * size)
  have bytes (same : f.field cdb = 0 ∨ size = 1) : SgAdapter.totalLength cdb (f.count cdb * size) = f.count cdb * size := by
    rw [total]
    split
    · rfl
    · rename_i some
      rw [same.resolve_left some,BlockForm.countOfField some,Nat.mul_one]
  constructor
  · intro exact
    have reported := exact.reported
    unfold SgAdapter.requestsOf at reported
    rw [BlockForm.requestsTotal 0 transfers (BlockForm.piecesEnough _),total] at reported
    have same : f.field cdb = 0 ∨ size = 1 := by
      by_cases none : f.field cdb = 0
      · exact .inl none
      · rw [if_neg none,BlockForm.countOfField none] at reported
        exact .inr (Nat.eq_of_mul_eq_mul_left (Nat.pos_of_ne_zero none) (by rw [←reported,Nat.mul_one]))
    have pieces := exact.pieces
    unfold SgAdapter.requestsOf at pieces
    rw [bytes same] at pieces
    exact ⟨same,(BlockForm.splitsIff transfers positive).mp pieces⟩
  · rintro ⟨same,divides⟩
    unfold SgAdapter.requestsOf
    rw [bytes same]
    exact ⟨(BlockForm.splitsIff transfers positive).mpr divides,
      BlockForm.requestsTotal 0 transfers (BlockForm.piecesEnough _)⟩

namespace BlockForm

/- READ(6) with 0 for 256 blocks. -/
theorem halvesSent : BlockForm.six.Exact 512 [0x08,0,0,16,0,0] (SgAdapter.requestsOf [0x08,0,0,16,0,0] 512 (256 * 512)) :=
  (transferSplit (show BlockForm.six.Transfers [0x08,0,0,16,0,0] from ⟨rfl,by decide⟩) (by decide) (by decide)).mpr
    ⟨.inl rfl,.inr ⟨⟨128,rfl⟩,by decide⟩⟩

/- READ(10) of a block: a single byte is requested, without a block. -/
theorem blockTakenForByte : ¬∀ (f : BlockForm) (cdb : Bytes) (size : Nat), f.Transfers cdb → 0 < size → f.count cdb * size < 2^31 →
    f.Exact size cdb (SgAdapter.requestsOf cdb size (f.count cdb * size)) := fun all => by
  have exact := all .ten [0x28,0,0,0,0,0,0,0,1,0] 512 ⟨rfl,by decide⟩ (by decide) (by decide)
  have reported : SgAdapter.byteCount (SgAdapter.requestsOf [0x28,0,0,0,0,0,0,0,1,0] 512 512) = 512 := exact.reported
  exact absurd reported (by decide)

end BlockForm
end Scsi2Pi
