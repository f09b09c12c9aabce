import Mathlib.Algebra.Order.Ring.Int
import Scsi2Pi.Medium
import Scsi2Pi.TransferSizes

/-! The sectors that the commands of a disk work on, against those their CDBs name. -/
namespace Scsi2Pi
open Handler Derives Eff

/-! A transfer ends when nothing remains. ReadData or WriteData is called once for each
chunk and moves the next sectors. -/

inductive Transfer.Chunks : Transfer → Nat → Prop where
  | last {t} : (t.updateTransferLength t.chunkSize).remainingLength = 0 → Chunks t 1
  | next {t n} : (t.updateTransferLength t.chunkSize).remainingLength ≠ 0 →
      Chunks (t.updateTransferLength t.chunkSize) n → Chunks t (n+1)

namespace Transfer.Chunks

variable {t : Transfer} {m n : Nat}

theorem positive (chunks : Chunks t n) : 0 < n := by
  cases chunks <;> exact Nat.succ_pos _

theorem unique (chunks : Chunks t m) (others : Chunks t n) : m = n := by
  induction chunks generalizing n with
  | last ends =>
    cases others with
    | last => rfl
    | next goesOn _ => exact absurd ends goesOn
  | next goesOn _ ih =>
    cases others with
    | last ends => exact absurd ends goesOn
    | next _ later => rw [ih later]

/- A chunk that is all of the transfer. -/
theorem whole (same : t.remainingLength = t.chunkSize) : Chunks t 1 :=
  .last (by rw [updateTransferLength,same,Int.sub_self]; rfl)

theorem oneChunk (t : Transfer) (length : Int) : Chunks (t.setTransferSize length length) 1 :=
  whole (by simp only [setTransferSize,Int.lt_irrefl,if_false])

/- As many chunks as sectors, of one sector each. -/
theorem ofSectors {blockSize : Nat} (sized : 0 < blockSize) (chunk : t.chunkSize = blockSize)
    (remaining : t.remainingLength = ((n+1) * blockSize : Nat)) : Chunks t (n+1) := by
  induction n generalizing t with
  | zero => exact whole (by rw [remaining,chunk,Nat.zero_add,Nat.one_mul])
  | succ n ih =>
    have step : (((n+1+1) * blockSize : Nat) : Int) = ((n+1) * blockSize : Nat) + (blockSize : Nat) := by
      rw [Nat.succ_mul (n+1)]
      exact Int.natCast_add _ _
    have least : blockSize ≤ (n+1) * blockSize := Nat.le_mul_of_pos_left _ (Nat.succ_pos n)
    have left : (t.updateTransferLength t.chunkSize).remainingLength = ((n+1) * blockSize : Nat) := by
      simp only [updateTransferLength,remaining,chunk,step]
      omega
    refine .next (by rw [left]; omega) (ih ?_ left)
    have kept : (t.updateTransferLength t.chunkSize).chunkSize =
        if (t.updateTransferLength t.chunkSize).remainingLength < t.chunkSize
        then (t.updateTransferLength t.chunkSize).remainingLength else t.chunkSize := rfl
    rw [kept,left,chunk,if_neg (by omega)]

/- All chunks but the last one are full. -/
theorem bound (chunks : Chunks t (n+1)) (sized : 0 < t.chunkSize) : n = 0 ∨ n * t.chunkSize < t.remainingLength := by
  generalize several : n + 1 = m at chunks
  induction chunks generalizing n with
  | last _ => exact .inl (Nat.succ_inj.mp several)
  | @next t m goesOn later ih =>
    cases Nat.succ_inj.mp several
    have left : (t.updateTransferLength t.chunkSize).remainingLength = max (t.remainingLength - t.chunkSize) 0 := rfl
    have kept : (t.updateTransferLength t.chunkSize).chunkSize =
        if (t.updateTransferLength t.chunkSize).remainingLength < t.chunkSize
        then (t.updateTransferLength t.chunkSize).remainingLength else t.chunkSize := rfl
    have more : 0 < t.remainingLength - t.chunkSize := by omega
    rw [max_eq_left (Int.le_of_lt more)] at left
    rw [left] at kept
    obtain ⟨k,rfl⟩ := Nat.exists_eq_succ_of_ne_zero (Nat.pos_iff_ne_zero.mp later.positive)
    refine .inr ?_
    rw [Nat.succ_eq_add_one,Int.natCast_add,Int.add_mul]
    by_cases first : k = 0
    · rw [first]
      omega
    · have full : k * (t.updateTransferLength t.chunkSize).chunkSize <
          (t.updateTransferLength t.chunkSize).remainingLength := by
        refine (ih ?_ rfl).resolve_left first
        rw [kept]
        split <;> omega
      rw [left] at full
      split at kept
      · have least : t.remainingLength - t.chunkSize ≤ k * (t.remainingLength - t.chunkSize) :=
          le_mul_of_one_le_left (Int.le_of_lt more) (by omega)
        rw [kept] at full
        omega
      · rw [kept] at full
        omega

end Transfer.Chunks
namespace Disk

/- The sectors of the cache that so many calls work on, next_sector being converted to uint32_t. -/
def sectorsOf (d : Disk) (chunks : Nat) : List Nat :=
  (List.range chunks).flatMap fun k =>
    (List.range d.sectorTransferCount).map fun j => uint32 (d.nextSector + k * d.sectorTransferCount : Nat) + j

/- The transfer moves these sectors, one after the other, and no others. -/
def Moves (d : Disk) (t : Transfer) (lba count : Nat) : Prop :=
  ∃ chunks, t.Chunks chunks ∧ d.sectorsOf chunks = (List.range count).map (lba + ·)

/- The lengths do not wrap around, and neither does a sector number. -/
def Representable (d : Disk) (lba count : Nat) : Prop :=
  if d.cachingMode = .linuxOptimized then lba < 2^32 else count * d.blockSize < 2^31 ∧ lba + count ≤ 2^32

section
variable {d : Disk} {t : Transfer} {lba count : Nat}

theorem uint32Iff {x : Nat} : uint32 x = x ↔ x < 2^32 :=
  ⟨fun same => same ▸ uint32Lt _,uint32Fits⟩

theorem movesAtOnce (optimized : d.cachingMode = .linuxOptimized) (some : count ≠ 0) :
    (d.prepared lba count).Moves (d.preparedTransfer t count) lba count ↔ lba < 2^32 := by
  have perChunk : d.perChunk count = count := if_pos optimized
  have once : (d.preparedTransfer t count).Chunks 1 := by
    unfold preparedTransfer
    rw [perChunk]
    exact .oneChunk _ _
  have sectors : (d.prepared lba count).sectorsOf 1 = (List.range count).map (uint32 (lba : Nat) + ·) := by
    simp [sectorsOf,prepared,perChunk]
  constructor
  · rintro ⟨chunks,chunked,same⟩
    rw [chunked.unique once,sectors] at same
    have first := List.map_inj_left.mp same 0 (List.mem_range.mpr (Nat.pos_of_ne_zero some))
    exact uint32Iff.mp (by simpa using first)
  · intro fits
    exact ⟨1,once,by rw [sectors,uint32Fits fits]⟩

theorem wrapsBelow {x : Nat} (large : 2^31 ≤ x) : int32 x ≤ (x : Int) - 2^32 := by
  unfold int32 Int.bmod
  simp only [Nat.cast_ofNat,Nat.cast_pow]
  split <;> omega

theorem sectorsOfOne (single : d.cachingMode ≠ .linuxOptimized) (chunks : Nat) :
    (d.prepared lba count).sectorsOf chunks = (List.range chunks).map fun k => uint32 (lba + k : Nat) := by
  have perChunk : d.perChunk count = 1 := if_neg single
  simp only [sectorsOf,prepared,perChunk,List.range_one,List.map_singleton,Nat.mul_one,Nat.add_zero]
  exact List.flatMap_pure_eq_map _ _

theorem movesSectors (single : d.cachingMode ≠ .linuxOptimized) (some : count ≠ 0) (sized : 0 < d.blockSize)
    (small : d.blockSize < 2^31) : (d.prepared lba count).Moves (d.preparedTransfer t count) lba count ↔
      count * d.blockSize < 2^31 ∧ lba + count ≤ 2^32 := by
  have perChunk : d.perChunk count = 1 := if_neg single
  have chunkSize : size 1 d.blockSize = d.blockSize := by
    rw [sizeFits (by omega),Nat.one_mul]
  obtain ⟨n,rfl⟩ := Nat.exists_eq_succ_of_ne_zero some
  have sizes : d.preparedTransfer t (n+1) = t.setTransferSize (size (n+1) d.blockSize) d.blockSize := by
    rw [preparedTransfer,perChunk,chunkSize]
  rw [Nat.succ_eq_add_one,sizes]
  constructor
  · rintro ⟨chunks,chunked,same⟩
    rw [sectorsOfOne single] at same
    have number : chunks = n+1 := by simpa using congrArg List.length same
    subst number
    have each := List.map_inj_left.mp same n (List.mem_range.mpr (Nat.lt_succ_self n))
    have last := uint32Iff.mp each
    refine ⟨?_,by omega⟩
    by_contra large
    have wrapped : size (n+1) d.blockSize ≤ _ := wrapsBelow (Nat.not_lt.mp large)
    have several : n ≠ 0 := by
      rintro rfl
      omega
    rw [Nat.add_mul] at wrapped
    generalize size (n+1) d.blockSize = length at chunked wrapped
    by_cases short : length < d.blockSize
    · have one := chunked.unique (.whole (if_pos short).symm)
      omega
    · have chunk : (t.setTransferSize length d.blockSize).chunkSize = d.blockSize := if_neg short
      have full := (chunked.bound (by rw [chunk]; exact Int.natCast_pos.mpr sized)).resolve_left several
      rw [chunk] at full
      have remaining : (t.setTransferSize length d.blockSize).remainingLength = length := rfl
      rw [remaining] at full
      push_cast at wrapped full
      omega
  · rintro ⟨fits,within⟩
    refine ⟨n+1,.ofSectors sized ?_ ?_,?_⟩
    · rw [size,int32Fits (by omega) (by exact_mod_cast fits)]
      have least : d.blockSize ≤ (n+1) * d.blockSize := Nat.le_mul_of_pos_left _ (Nat.succ_pos n)
      exact if_neg (Int.not_lt.mpr (Int.ofNat_le.mpr least))
    · rw [Transfer.setTransferSizeRemaining]
      exact sizeFits fits
    · rw [sectorsOfOne single]
      refine List.map_congr_left fun k below => uint32Fits ?_
      have := List.mem_range.mp below
      omega

theorem movesIff (some : count ≠ 0) (sized : 0 < d.blockSize) (small : d.blockSize < 2^31) :
    (d.prepared lba count).Moves (d.preparedTransfer t count) lba count ↔ d.Representable lba count := by
  unfold Representable
  split
  · next optimized => exact movesAtOnce optimized some
  · next single => exact movesSectors single some sized small

/- Starting elsewhere the transfer moves other sectors. -/
theorem movesFrom {start : Nat} (some : count ≠ 0) (low : start < 2^32)
    (moves : (d.prepared start count).Moves (d.preparedTransfer t count) lba count) : start = lba := by
  obtain ⟨chunks,chunked,same⟩ := moves
  obtain ⟨n,rfl⟩ := Nat.exists_eq_succ_of_ne_zero (Nat.pos_iff_ne_zero.mp chunked.positive)
  obtain ⟨m,positive⟩ := Nat.exists_eq_succ_of_ne_zero (Nat.pos_iff_ne_zero.mp (perChunkPositive (d := d) some))
  obtain ⟨k,rfl⟩ := Nat.exists_eq_succ_of_ne_zero some
  have first := congrArg List.head? same
  simp only [sectorsOf,prepared,positive,List.range_succ_eq_map,List.flatMap_cons,List.map_cons,List.cons_append,
    List.head?_cons,Option.some.injEq,Nat.zero_mul,Nat.add_zero] at first
  rw [uint32Fits low] at first
  exact first

end

/-! The commands that name sectors. -/

inductive Addressing where
  | transfer (mode : AccessMode) (dataOut : Bool)
  | verify (mode : AccessMode)
  | seek (mode : AccessMode)
  | long (mode : AccessMode) (write : Bool)

def addressingCommands : List (ScsiCommand × Addressing) :=
  transferCommands.map (fun (cmd,mode,dataOut) => (cmd,.transfer mode dataOut)) ++ [
    (.verify10,.verify .rw10),
    (.verify16,.verify .rw16),
    (.seek6,.seek .seek6),
    (.seek10,.seek .seek10),
    (.readLong10,.long .rw10 false),
    (.readCapacityReadLong16,.long .rw16 false),
    (.writeLong10,.long .rw10 true),
    (.writeLong16,.long .rw16 true)]

/- The first sector that a CDB names. With 6 bytes the LUN has the upper bits of byte 1. -/
def lba (r : Request) (mode : AccessMode) : Nat :=
  match mode with
  | .rw6 | .seek6 => r.cdbInt24 1 % 2^21
  | .rw16 => r.cdbInt64 2
  | .rw10 | .seek10 => r.cdbInt32 2

def sixBytes (mode : AccessMode) : Prop := mode = .rw6 ∨ mode = .seek6

def LunBitsClear (r : Request) (mode : AccessMode) : Prop := sixBytes mode → r.cdbByte 1 / 32 = 0

variable {d : Disk} {t : Transfer} {r : Request} {mode : AccessMode}

theorem startOfSix (six : sixBytes mode) : start r mode = lba r mode + r.cdbByte 1 / 32 * 2^21 ∧
    start r mode < 2^24 ∧ count r mode ≠ 0 ∧ count r mode ≤ 256 := by
  have high : r.cdbByte 1 < 2^8 := MemoryUtil.byteAtLt _ _
  have mid : r.cdbByte 2 < 2^8 := MemoryUtil.byteAtLt _ _
  have low : r.cdbByte 3 < 2^8 := MemoryUtil.byteAtLt _ _
  have length : r.cdbByte 4 < 2^8 := MemoryUtil.byteAtLt _ _
  have address : r.cdbInt24 1 = r.cdbByte 1 * 2^16 + r.cdbByte 2 * 2^8 + r.cdbByte 3 := rfl
  rcases six with rfl | rfl <;> simp only [start,count,startAndCount,lba,address] <;> split <;> omega

theorem startOfOther (other : ¬sixBytes mode) : start r mode = lba r mode := by
  cases mode with
  | rw6 => exact absurd (.inl rfl) other
  | seek6 => exact absurd (.inr rfl) other
  | _ => rfl

variable (r mode) in
theorem lbaBound : lba r mode < 2^64 ∧ count r mode < 2^32 ∧ (mode ≠ .rw16 → lba r mode + count r mode < 2^64) := by
  have two := MemoryUtil.getInt16Lt r.cdb 7
  have four := MemoryUtil.getInt32Lt r.cdb 2
  have length := MemoryUtil.getInt32Lt r.cdb 10
  have eight := MemoryUtil.getInt64Lt r.cdb 2
  by_cases six : sixBytes mode
  · obtain ⟨same,low,_,short⟩ := startOfSix (r := r) six
    omega
  · cases mode with
    | rw6 => exact absurd (.inl rfl) six
    | seek6 => exact absurd (.inr rfl) six
    | rw16 => exact ⟨eight,length,fun other => absurd rfl other⟩
    | rw10 =>
      simp only [lba,count,startAndCount,Request.cdbInt16,Request.cdbInt32]
      omega
    | seek10 =>
      simp only [lba,count,startAndCount,Request.cdbInt32]
      omega

end Disk

/-! The same for a device that is a disk of any class. -/

namespace AnyDevice
open Disk

variable {any : AnyDevice} {d : Disk} {cmd : ScsiCommand} {r : Request} {t : Transfer} {w : World} {mode : AccessMode}

theorem virtualRuns (K : DiskClass) {α : Type} (f : {δ : Type} → Methods δ → Handler δ α) {device : K.Device}
    {result : Except ScsiException α} {u : HandlerState K.Device} (ran : f K.methods r ⟨device,t,w⟩ = (result,u)) :
    virtual f r ⟨K.put device,t,w⟩ = (result,⟨K.put u.device,u.transfer,u.world⟩) := by
  rw [K.virtual f device r t w]
  exact withinRan ran

variable (cmd) in
/- A command that the classes of disks leave as it is in Disk. -/
theorem dispatchDisk (disk : any.disk = some d) {h : Handler Disk PhaseCall}
    (listed : ∀ {δ : Type} [Derives δ Disk] (readData : Handler δ Int), (cmd,super h) ∈ Disk.commands readData)
    (unchanged : d.mediumChanged = false) {result : Except ScsiException PhaseCall} {u : HandlerState Disk}
    (ran : h r ⟨d,t,w⟩ = (result,u)) :
    methods.dispatch cmd r ⟨any,t,w⟩ = (result,⟨any.setDisk u.device,u.transfer,u.world⟩) := by
  obtain ⟨K,device,rfl,rfl⟩ := DiskClass.ofDisk disk
  rw [K.setPutDisk]
  exact virtualRuns K (fun m => m.dispatch cmd) (u := ⟨setBase device u.device,u.transfer,u.world⟩)
    ((K.dispatchOk (listed _) unchanged).trans (superRan ran))

/- READ has got past its checks. -/
theorem dispatchRead (disk : any.disk = some d) (listed : (cmd,mode,false) ∈ transferCommands)
    (unchanged : d.mediumChanged = false) (ready : d.Accessible) (range : d.InRange r mode)
    (some : transfers r mode = true) :
    methods.dispatch cmd r ⟨any,t,w⟩ = (methods.readData >>= fun n => pure (.dataIn n)) r
      ⟨any.setDisk (d.prepared (start r mode) (count r mode)),
        (d.preparedTransfer t (count r mode)).setCurrentLength (size (count r mode) d.blockSize),w⟩ := by
  obtain ⟨K,device,rfl,rfl⟩ := DiskClass.ofDisk disk
  have passed : K.methods.dispatch cmd r ⟨device,t,w⟩ = read K.methods.readData mode r ⟨device,t,w⟩ :=
    K.dispatchOk (listedCommand listed) unchanged
  rw [K.setPutDisk]
  cases reading : K.methods.readData r (readyToRead ⟨device,t,w⟩ (start r mode) (count r mode)) with
  | mk result u =>
    have first : methods.readData r ⟨K.put (setBase device ((base device : Disk).prepared (start r mode) (count r mode))),
        ((base device : Disk).preparedTransfer t (count r mode)).setCurrentLength
          (size (count r mode) (base device : Disk).blockSize),w⟩ = (result,⟨K.put u.device,u.transfer,u.world⟩) :=
      virtualRuns K (fun m => m.readData) reading
    cases result with
    | ok n =>
      refine (virtualRuns K (fun m => m.dispatch cmd) (passed.trans (readStarts ready range some reading))).trans ?_
      exact (bindOk (f := fun n => pure (PhaseCall.dataIn n)) first).symm
    | error e =>
      refine (virtualRuns K (fun m => m.dispatch cmd) (passed.trans (readStops ready range some reading))).trans ?_
      exact (bindError first).symm

theorem dispatchReadOther (disk : any.disk = some d) (listed : (cmd,mode,false) ∈ transferCommands)
    (unchanged : d.mediumChanged = false) (ready : d.Accessible) (rests : d.InRange r mode → transfers r mode = false) :
    methods.dispatch cmd r ⟨any,t,w⟩ =
      (if d.InRange r mode then .ok .status else .error ⟨.illegalRequest,.lbaOutOfRange⟩,⟨any,t,w⟩) := by
  obtain ⟨K,device,rfl,rfl⟩ := DiskClass.ofDisk disk
  have passed : K.methods.dispatch cmd r ⟨device,t,w⟩ = read K.methods.readData mode r ⟨device,t,w⟩ :=
    K.dispatchOk (listedCommand listed) unchanged
  refine virtualRuns K (fun m => m.dispatch cmd) (u := ⟨device,t,w⟩) (passed.trans ?_)
  split
  · next range => exact readNothing ready range (rests range)
  · next range => exact readOutOfRange ready range

end AnyDevice

namespace Disk

/-! What a command has to do with the sectors its CDB names. -/

namespace Addressing

def mode : Addressing → AccessMode
  | .transfer mode _ | .verify mode | .seek mode | .long mode _ => mode

/- The data of READ LONG and WRITE LONG are those of one sector. -/
def sectors (r : Request) : Addressing → Nat
  | .transfer mode _ | .verify mode | .seek mode => count r mode
  | .long _ _ => 1

end Addressing

def longLength (r : Request) (mode : AccessMode) : Nat := if mode = .rw16 then r.cdbInt16 12 else r.cdbInt16 7

/- What else may be wrong with a command that an accessible disk receives. -/
def Allows (d : Disk) (r : Request) : Addressing → Prop
  | .transfer _ dataOut => dataOut = true → d.Writable
  | .verify _ | .seek _ => True
  | .long mode write => (write = true → d.Writable) ∧ (mode = .rw10 → r.cdbByte 1 &&& 0x01 = 0) ∧
      (mode = .rw16 ∧ write = false → r.cdbByte 1 &&& 0x1f = 0x11) ∧ (longLength r mode = 0 ∨ longLength r mode = d.blockSize)

def Passes (d : Disk) (r : Request) (a : Addressing) : Prop :=
  d.mediumChanged = false ∧ d.Accessible ∧ d.Allows r a

def WorksOn (any : AnyDevice) (d : Disk) (r : Request) (t : Transfer) (w : World)
    (ran : Except ScsiException PhaseCall × HandlerState AnyDevice) : Addressing → Prop
  | .verify _ | .seek _ => ran.1 = .ok .status
  | .transfer mode dataOut =>
    let d' := d.prepared (start r mode) (count r mode)
    let t' := d.preparedTransfer t (count r mode)
    if count r mode = 0 then ran.1 = .ok .status
    else d'.Moves t' (lba r mode) (count r mode) ∧
      if dataOut then (∃ length, ran.1 = .ok (.dataOut length)) ∧ ran.2 = ⟨any.setDisk d',t',w⟩
      else ran = (AnyDevice.methods.readData >>= fun n => pure (.dataIn n)) r
        ⟨any.setDisk d',t'.setCurrentLength (size (count r mode) d.blockSize),w⟩
  | .long mode write =>
    if longLength r mode = 0 then ran.1 = .ok .status
    else ∃ u, transferLong (lba r mode) (longLength r mode) write r ⟨d,t,w⟩ = (ran.1,u) ∧
      ran.2 = ⟨any.setDisk u.device,u.transfer,u.world⟩

def AddressesExactly (any : AnyDevice) (d : Disk) (r : Request) (a : Addressing) (t : Transfer) (w : World) : Prop :=
  let ran := AnyDevice.methods.dispatch r.opcode r ⟨any,t,w⟩
  d.Passes r a → (d.blocks < lba r a.mode + a.sectors r → ran.1 = .error ⟨.illegalRequest,.lbaOutOfRange⟩) ∧
    (lba r a.mode + a.sectors r ≤ d.blocks → WorksOn any d r t w ran a)

/-! When it does so. -/

def SumFits (d : Disk) (r : Request) (mode : AccessMode) : Prop :=
  lba r mode + count r mode < 2^64 ∨ d.blocks = 0 ∨ d.blocks < (lba r mode + count r mode) % 2^64

/- A CD-ROM drive compares the sector once more when it reads it. -/
def FoundByReadData (any : AnyDevice) (d : Disk) (r : Request) (mode : AccessMode) (t : Transfer) (w : World) : Prop :=
  (AnyDevice.methods.readData r ⟨any.setDisk (d.prepared (start r mode) (count r mode)),
    (d.preparedTransfer t (count r mode)).setCurrentLength (size (count r mode) d.blockSize),w⟩).1 =
      .error ⟨.illegalRequest,.lbaOutOfRange⟩

def Unambiguous (any : AnyDevice) (d : Disk) (r : Request) (t : Transfer) (w : World) : Addressing → Prop
  | .long _ _ => True
  | .verify mode | .seek mode =>
    (LunBitsClear r mode ∨ d.blocks < lba r mode + count r mode ∨ start r mode + count r mode ≤ d.blocks) ∧
      d.SumFits r mode ∧ (d.blocks ≠ 0 ∨ lba r mode + count r mode ≠ 0)
  | .transfer mode dataOut =>
    (LunBitsClear r mode ∨ d.blocks < lba r mode + count r mode) ∧
      (d.SumFits r mode ∨ dataOut = false ∧ FoundByReadData any d r mode t w) ∧
      (d.blocks ≠ 0 ∨ lba r mode + count r mode ≠ 0) ∧
      (count r mode ≠ 0 → lba r mode + count r mode ≤ d.blocks → d.Representable (lba r mode) (count r mode))

variable {any : AnyDevice} {d : Disk} {r : Request} {mode : AccessMode} {t : Transfer} {w : World}

/- The check of the source against the sum of natural numbers. -/
theorem rangeAgrees (limit : d.blocks < 2^64) (range : d.InRange r mode) (fits : lba r mode + count r mode ≤ d.blocks) :
    d.SumFits r mode ∧ (d.blocks ≠ 0 ∨ lba r mode + count r mode ≠ 0) :=
  ⟨.inl (by omega),.inl range.1⟩

theorem bothRefuse (range : ¬d.InRange r mode) (beyond : d.blocks < lba r mode + count r mode) :
    d.SumFits r mode ∧ (d.blocks ≠ 0 ∨ lba r mode + count r mode ≠ 0) := by
  refine ⟨?_,.inr (by omega)⟩
  by_cases none : d.blocks = 0
  · exact .inr (.inl none)
  · have out : d.blocks < (start r mode + count r mode) % 2^64 := Nat.not_le.mp fun inside => range ⟨none,inside⟩
    by_cases six : sixBytes mode
    · obtain ⟨same,low,_,short⟩ := startOfSix (r := r) six
      exact .inl (by omega)
    · rw [startOfOther six] at out
      exact .inr (.inr out)

theorem wronglyRefused (limit : d.blocks < 2^64) (range : ¬d.InRange r mode) (fits : lba r mode + count r mode ≤ d.blocks) :
    ¬((LunBitsClear r mode ∨ d.blocks < lba r mode + count r mode ∨ start r mode + count r mode ≤ d.blocks) ∧
      (d.blocks ≠ 0 ∨ lba r mode + count r mode ≠ 0)) := by
  rintro ⟨clear,some⟩
  have here : d.blocks ≠ 0 := by omega
  have out : d.blocks < (start r mode + count r mode) % 2^64 := Nat.not_le.mp fun inside => range ⟨here,inside⟩
  by_cases six : sixBytes mode
  · obtain ⟨same,low,_,short⟩ := startOfSix (r := r) six
    rcases clear with clear | beyond | inside
    · rw [clear six] at same
      omega
    · omega
    · omega
  · rw [startOfOther six] at out
    omega

theorem wronglyAccepted (range : d.InRange r mode) (beyond : d.blocks < lba r mode + count r mode) :
    ¬d.SumFits r mode ∧ count r mode ≠ 0 := by
  obtain ⟨here,inside⟩ := range
  by_cases six : sixBytes mode
  · obtain ⟨same,low,_,short⟩ := startOfSix (r := r) six
    omega
  · rw [startOfOther six] at inside
    obtain ⟨low,_,_⟩ := lbaBound r mode
    unfold SumFits
    omega

/- SEEK and VERIFY end with GOOD if the check of the source accepts the sectors. -/
theorem acceptanceIff (limit : d.blocks < 2^64) :
    ((d.blocks < lba r mode + count r mode → ¬d.InRange r mode) ∧
      (lba r mode + count r mode ≤ d.blocks → d.InRange r mode)) ↔
    (LunBitsClear r mode ∨ d.blocks < lba r mode + count r mode ∨ start r mode + count r mode ≤ d.blocks) ∧
      d.SumFits r mode ∧ (d.blocks ≠ 0 ∨ lba r mode + count r mode ≠ 0) := by
  by_cases fits : lba r mode + count r mode ≤ d.blocks
  · by_cases range : d.InRange r mode
    · refine ⟨fun _ => ⟨.inr (.inr ?_),rangeAgrees limit range fits⟩,fun _ => ⟨by omega,fun _ => range⟩⟩
      by_cases six : sixBytes mode
      · obtain ⟨_,low,_,short⟩ := startOfSix (r := r) six
        have inside := range.2
        omega
      · rw [startOfOther six]
        exact fits
    · exact ⟨fun accepts => absurd (accepts.2 fits) range,
        fun holds => absurd ⟨holds.1,holds.2.2⟩ (wronglyRefused limit range fits)⟩
  · have beyond := Nat.not_le.mp fits
    by_cases range : d.InRange r mode
    · exact ⟨fun accepts => absurd range (accepts.1 beyond),fun holds => absurd holds.2.1 (wronglyAccepted range beyond).1⟩
    · exact ⟨fun _ => ⟨.inr (.inl beyond),bothRefuse range beyond⟩,fun _ => ⟨fun _ => range,fun wrong => absurd wrong fits⟩⟩

theorem seekRuns {s : HandlerState Disk} (ready : s.device.Accessible) : seek mode r s =
    (if s.device.InRange r mode then .ok .status else .error ⟨.illegalRequest,.lbaOutOfRange⟩,s) := by
  split
  · next range => exact bindOk (addressOk ready range)
  · next range => exact bindError (addressOutOfRange ready range)

theorem flushCacheEnds (r : Request) (s : HandlerState Disk) : ∃ u, flushCache r s = (.ok (),u) := by
  have ends : wp flushCache r s (fun _ _ => True) fun _ _ => False := by
    unfold flushCache withFiles
    rw [wpBind,wpGetDevice]
    cases s.device.cache with
    | none => trivial
    | some c =>
      simp only [wpBind,wpGetWorld,wpModifyDevice,wpSetWorld,wpPure,wpIte]
      exact ⟨fun _ => trivial,fun _ => trivial⟩
  obtain ⟨_,u,ran,_⟩ := wpRuns ends
  exact ⟨u,ran⟩

variable (mode) in
theorem verifyRuns {s : HandlerState Disk} (ready : s.device.Accessible) : ∃ u, verify mode r s =
    (if s.device.InRange r mode then .ok .status else .error ⟨.illegalRequest,.lbaOutOfRange⟩,u) := by
  split
  · next range =>
    obtain ⟨u,flushed⟩ := flushCacheEnds r s
    exact ⟨u,(bindOk (addressOk ready range)).trans (bindOk flushed)⟩
  · next range => exact ⟨s,bindError (addressOutOfRange ready range)⟩

theorem listedAddressing {cmd : ScsiCommand} {a : Addressing} (listed : (cmd,a) ∈ addressingCommands) :
    (∃ mode dataOut, a = .transfer mode dataOut ∧ (cmd,mode,dataOut) ∈ transferCommands) ∨
    (∃ mode, a = .verify mode ∧ (cmd = .verify10 ∧ mode = .rw10 ∨ cmd = .verify16 ∧ mode = .rw16)) ∨
    (∃ mode, a = .seek mode ∧ (cmd = .seek6 ∧ mode = .seek6 ∨ cmd = .seek10 ∧ mode = .seek10)) ∨
    ∃ mode write, a = .long mode write ∧ (cmd = .readLong10 ∧ mode = .rw10 ∧ write = false ∨
      cmd = .readCapacityReadLong16 ∧ mode = .rw16 ∧ write = false ∨ cmd = .writeLong10 ∧ mode = .rw10 ∧ write = true ∨
      cmd = .writeLong16 ∧ mode = .rw16 ∧ write = true) := by
  rcases List.mem_append.mp listed with transfer | other
  · obtain ⟨⟨cmd',mode,dataOut⟩,command,same⟩ := List.mem_map.mp transfer
    cases same
    exact .inl ⟨mode,dataOut,rfl,command⟩
  · simp only [List.mem_cons,List.not_mem_nil,or_false,Prod.mk.injEq] at other
    rcases other with ⟨rfl,rfl⟩ | ⟨rfl,rfl⟩ | ⟨rfl,rfl⟩ | ⟨rfl,rfl⟩ | ⟨rfl,rfl⟩ | ⟨rfl,rfl⟩ | ⟨rfl,rfl⟩ | ⟨rfl,rfl⟩ <;>
      simp

/- VERIFY and SEEK, whose result tells whether the sectors were accepted. -/
theorem acceptedIff (limit : d.blocks < 2^64) {result : Except ScsiException PhaseCall}
    (ran : result = if d.InRange r mode then .ok .status else .error ⟨.illegalRequest,.lbaOutOfRange⟩) :
    ((d.blocks < lba r mode + count r mode → result = .error ⟨.illegalRequest,.lbaOutOfRange⟩) ∧
      (lba r mode + count r mode ≤ d.blocks → result = .ok .status)) ↔
    (LunBitsClear r mode ∨ d.blocks < lba r mode + count r mode ∨ start r mode + count r mode ≤ d.blocks) ∧
      d.SumFits r mode ∧ (d.blocks ≠ 0 ∨ lba r mode + count r mode ≠ 0) := by
  rw [← acceptanceIff limit,ran]
  split
  · next range => simp [range]
  · next range => simp [range]

theorem clearIff : LunBitsClear r mode ↔ start r mode = lba r mode := by
  by_cases six : sixBytes mode
  · have same := (startOfSix (r := r) six).1
    constructor
    · intro clear
      rw [clear six] at same
      omega
    · intro equal _
      omega
  · exact ⟨fun _ => startOfOther six,fun _ wrong => absurd wrong six⟩

theorem movesHere (some : count r mode ≠ 0) (sized : 0 < d.blockSize) (small : d.blockSize < 2^31) :
    (d.prepared (start r mode) (count r mode)).Moves (d.preparedTransfer t (count r mode)) (lba r mode) (count r mode) ↔
      LunBitsClear r mode ∧ d.Representable (lba r mode) (count r mode) := by
  rw [clearIff,← movesIff (t := t) some sized small]
  constructor
  · intro moves
    have same : start r mode = lba r mode := by
      by_cases six : sixBytes mode
      · exact movesFrom some (Nat.lt_trans (startOfSix six).2.1 (by decide)) moves
      · exact startOfOther six
    exact ⟨same,same ▸ moves⟩
  · rintro ⟨same,moves⟩
    rw [same]
    exact moves

/- What READ and WRITE have in common. -/
theorem transferIff {ran : Except ScsiException PhaseCall × HandlerState AnyDevice} {dataOut : Bool}
    (limit : d.blocks < 2^64) (sized : 0 < d.blockSize) (small : d.blockSize < 2^31)
    (refuses : ¬d.InRange r mode → ran.1 = .error ⟨.illegalRequest,.lbaOutOfRange⟩)
    (rests : d.InRange r mode → count r mode = 0 → ran.1 = .ok .status)
    (starts : d.InRange r mode → count r mode ≠ 0 →
      (WorksOn any d r t w ran (.transfer mode dataOut) ↔ (d.prepared (start r mode) (count r mode)).Moves
        (d.preparedTransfer t (count r mode)) (lba r mode) (count r mode)))
    (caught : d.InRange r mode → count r mode ≠ 0 →
      (ran.1 = .error ⟨.illegalRequest,.lbaOutOfRange⟩ ↔ dataOut = false ∧ FoundByReadData any d r mode t w)) :
    ((d.blocks < lba r mode + count r mode → ran.1 = .error ⟨.illegalRequest,.lbaOutOfRange⟩) ∧
      (lba r mode + count r mode ≤ d.blocks → WorksOn any d r t w ran (.transfer mode dataOut))) ↔
    Unambiguous any d r t w (.transfer mode dataOut) := by
  by_cases fits : lba r mode + count r mode ≤ d.blocks
  · have inside : ¬d.blocks < lba r mode + count r mode := Nat.not_lt.mpr fits
    by_cases range : d.InRange r mode
    · obtain ⟨sum,some⟩ := rangeAgrees limit range fits
      by_cases none : count r mode = 0
      · have clear : LunBitsClear r mode := fun six => absurd none (startOfSix six).2.2.1
        refine ⟨fun _ => ⟨.inl clear,.inl sum,some,fun wrong => absurd none wrong⟩,fun _ => ⟨fun wrong => absurd wrong inside,
          fun _ => ?_⟩⟩
        simp only [WorksOn,none,if_true]
        exact rests range none
      · have moves := (starts range none).trans (movesHere none sized small)
        constructor
        · intro works
          obtain ⟨clear,represents⟩ := moves.mp (works.2 fits)
          exact ⟨.inl clear,.inl sum,some,fun _ _ => represents⟩
        · rintro ⟨clear,_,_,represents⟩
          exact ⟨fun wrong => absurd wrong inside,fun _ => moves.mpr ⟨clear.resolve_right inside,represents none fits⟩⟩
    · constructor
      · intro works
        have ends := works.2 fits
        by_cases none : count r mode = 0
        · simp only [WorksOn,none,if_true] at ends
          cases (refuses range).symm.trans ends
        · simp only [WorksOn,none,if_false] at ends
          have clear := ((movesHere none sized small).mp ends.1).1
          exact absurd ⟨.inl clear,.inr (by omega)⟩ (wronglyRefused limit range fits)
      · rintro ⟨clear,_,some,_⟩
        exact absurd ⟨clear.imp_right .inl,some⟩ (wronglyRefused limit range fits)
  · have beyond := Nat.not_le.mp fits
    by_cases range : d.InRange r mode
    · obtain ⟨wraps,some⟩ := wronglyAccepted range beyond
      constructor
      · intro works
        exact ⟨.inr beyond,.inr ((caught range some).mp (works.1 beyond)),.inl range.1,fun _ wrong => absurd wrong fits⟩
      · rintro ⟨_,found,_,_⟩
        exact ⟨fun _ => (caught range some).mpr (found.resolve_left wraps),fun wrong => absurd wrong fits⟩
    · obtain ⟨sum,some⟩ := bothRefuse range beyond
      exact ⟨fun _ => ⟨.inr beyond,.inl sum,some,fun _ wrong => absurd wrong fits⟩,
        fun _ => ⟨fun _ => refuses range,fun wrong => absurd wrong fits⟩⟩

/- An exception of READ is one of ReadData. -/
theorem bindFails (readData : Handler AnyDevice Int) (s : HandlerState AnyDevice) (e : ScsiException) :
    ((readData >>= fun n => pure (PhaseCall.dataIn n)) r s).1 = .error e ↔ (readData r s).1 = .error e := by
  cases ran : readData r s with
  | mk result u =>
    cases result with
    | ok n =>
      rw [bindOk ran]
      exact ⟨fun wrong => (by cases wrong),fun wrong => (by cases wrong)⟩
    | error e =>
      rw [bindError ran]
      exact ⟨fun same => (by cases same; rfl),fun same => (by cases same; rfl)⟩

/-! READ LONG and WRITE LONG. -/

theorem validated {s : HandlerState Disk} (ready : s.device.Accessible) (form : mode = .rw10 ∨ mode = .rw16)
    (relative : mode = .rw10 → r.cdbByte 1 &&& 0x01 = 0) : validateBlockAddress mode r s =
      (if s.device.blocks ≤ lba r mode then .error ⟨.illegalRequest,.lbaOutOfRange⟩ else .ok (lba r mode),s) := by
  have sector : (if mode = .rw16 then r.cdbInt64 2 else r.cdbInt32 2) = lba r mode := by
    rcases form with rfl | rfl <;> rfl
  have address : ¬(mode = .rw10 ∧ r.cdbByte 1 &&& 0x01 ≠ 0) := fun wrong => wrong.2 (relative wrong.1)
  by_cases beyond : s.device.blocks ≤ lba r mode
  · rw [if_pos beyond]
    refine (bindOk (checkReadyOk ready)).trans (ranError ?_)
    simp only [wpBind,wpGetRequest,wpGetDevice,wpIte,wpThrow,wpPure,sector]
    exact ⟨fun wrong => absurd wrong address,fun _ => ⟨fun _ => ⟨trivial,trivial⟩,fun inside => absurd beyond inside⟩⟩
  · rw [if_neg beyond]
    refine (bindOk (checkReadyOk ready)).trans (ranOk ?_)
    simp only [wpBind,wpGetRequest,wpGetDevice,wpIte,wpThrow,wpPure,sector]
    exact ⟨fun wrong => absurd wrong address,fun _ => ⟨fun wrong => absurd wrong beyond,fun _ => ⟨trivial,trivial⟩⟩⟩

theorem readWriteLongRuns {s : HandlerState Disk} {sector length : Nat} {write : Bool} (writable : write = true → s.device.Writable)
    (whole : length = 0 ∨ length = s.device.blockSize) : readWriteLong sector length write r s =
      if length = 0 then (.ok .status,s) else transferLong sector length write r s := by
  have allowed : (if write then (super StorageDevice.checkWritePreconditions : Handler Disk Unit) else pure ()) r s = (.ok (),s) := by
    split
    · next writes => exact preconditionsOk (writable writes)
    · rfl
  have body : readWriteLong sector length write = ((if write then super StorageDevice.checkWritePreconditions else pure ()) >>=
      fun _ => if length = 0 then return .status else checkLongLength length >>= fun _ => transferLong sector length write) := by
    cases write <;> rfl
  rw [body]
  refine (bindOk allowed).trans ?_
  split
  · rfl
  · next some =>
    have same : length = s.device.blockSize := whole.resolve_left some
    refine bindOk (a := ()) (ranOk ?_)
    unfold checkLongLength
    simp only [wpBind,wpGetDevice,wpIte,wpPure]
    exact ⟨fun wrong => absurd same wrong,fun _ => ⟨trivial,trivial⟩⟩

section
variable {cmd : ScsiCommand} (disk : any.disk = some d) (unchanged : d.mediumChanged = false) (ready : d.Accessible)
  (limit : d.blocks < 2^64)

include disk unchanged ready limit

theorem seekAddressed (command : cmd = .seek6 ∧ mode = .seek6 ∨ cmd = .seek10 ∧ mode = .seek10) :
    ((d.blocks < lba r mode + count r mode →
        (AnyDevice.methods.dispatch cmd r ⟨any,t,w⟩).1 = .error ⟨.illegalRequest,.lbaOutOfRange⟩) ∧
      (lba r mode + count r mode ≤ d.blocks →
        WorksOn any d r t w (AnyDevice.methods.dispatch cmd r ⟨any,t,w⟩) (.seek mode))) ↔
    Unambiguous any d r t w (.seek mode) := by
  have ran := AnyDevice.dispatchDisk cmd disk (h := seek mode)
    (fun _ => by rcases command with ⟨rfl,rfl⟩ | ⟨rfl,rfl⟩ <;> simp [commands]) unchanged (seekRuns (s := ⟨d,t,w⟩) ready) (r := r)
  exact acceptedIff limit (congrArg Prod.fst ran)

theorem verifyAddressed (command : cmd = .verify10 ∧ mode = .rw10 ∨ cmd = .verify16 ∧ mode = .rw16) :
    ((d.blocks < lba r mode + count r mode →
        (AnyDevice.methods.dispatch cmd r ⟨any,t,w⟩).1 = .error ⟨.illegalRequest,.lbaOutOfRange⟩) ∧
      (lba r mode + count r mode ≤ d.blocks →
        WorksOn any d r t w (AnyDevice.methods.dispatch cmd r ⟨any,t,w⟩) (.verify mode))) ↔
    Unambiguous any d r t w (.verify mode) := by
  obtain ⟨u,verified⟩ := verifyRuns (s := ⟨d,t,w⟩) (r := r) mode ready
  have ran := AnyDevice.dispatchDisk cmd disk (h := verify mode)
    (fun _ => by rcases command with ⟨rfl,rfl⟩ | ⟨rfl,rfl⟩ <;> simp [commands]) unchanged verified
  exact acceptedIff limit (congrArg Prod.fst ran)

omit limit in
/- Whatever their handlers look like, the sector they access is the one of the CDB. -/
theorem longAddressed {h : Handler Disk PhaseCall} {write : Bool} (form : mode = .rw10 ∨ mode = .rw16)
    (allowed : d.Allows r (.long mode write))
    (listed : ∀ {δ : Type} [Derives δ Disk] (readData : Handler δ Int), (cmd,super h) ∈ commands readData)
    (body : ∀ s, h r s = (validateBlockAddress mode >>= fun sector => readWriteLong sector (longLength r mode) write) r s) :
    (d.blocks < lba r mode + 1 →
        (AnyDevice.methods.dispatch cmd r ⟨any,t,w⟩).1 = .error ⟨.illegalRequest,.lbaOutOfRange⟩) ∧
      (lba r mode + 1 ≤ d.blocks →
        WorksOn any d r t w (AnyDevice.methods.dispatch cmd r ⟨any,t,w⟩) (.long mode write)) := by
  obtain ⟨writable,relative,_,whole⟩ := allowed
  have address := validated (s := ⟨d,t,w⟩) ready form relative
  by_cases beyond : d.blocks ≤ lba r mode
  · rw [if_pos beyond] at address
    refine ⟨fun _ => ?_,fun wrong => by omega⟩
    exact congrArg Prod.fst (AnyDevice.dispatchDisk _ disk listed unchanged ((body _).trans (bindError address)))
  · rw [if_neg beyond] at address
    refine ⟨fun wrong => by omega,fun _ => ?_⟩
    have runs := (body ⟨d,t,w⟩).trans ((bindOk address).trans (readWriteLongRuns writable whole))
    simp only [WorksOn]
    by_cases none : longLength r mode = 0
    · rw [if_pos none] at runs ⊢
      exact congrArg Prod.fst (AnyDevice.dispatchDisk _ disk listed unchanged runs)
    · rw [if_neg none] at runs ⊢
      cases ran : transferLong (lba r mode) (longLength r mode) write r ⟨d,t,w⟩ with
      | mk result u =>
        have ends := AnyDevice.dispatchDisk _ disk listed unchanged (runs.trans ran)
        rw [ends]
        exact ⟨u,rfl,rfl⟩

variable (sized : 0 < d.blockSize) (small : d.blockSize < 2^31)

include sized small

theorem writeAddressed (command : (cmd,mode,true) ∈ transferCommands) (writable : d.Writable) :
    ((d.blocks < lba r mode + count r mode →
        (AnyDevice.methods.dispatch cmd r ⟨any,t,w⟩).1 = .error ⟨.illegalRequest,.lbaOutOfRange⟩) ∧
      (lba r mode + count r mode ≤ d.blocks →
        WorksOn any d r t w (AnyDevice.methods.dispatch cmd r ⟨any,t,w⟩) (.transfer mode true))) ↔
    Unambiguous any d r t w (.transfer mode true) := by
  have moves := transfersIff (r := r) (listedMode command).1
  have dispatched {result : Except ScsiException PhaseCall} {u : HandlerState Disk}
      (ran : write mode r ⟨d,t,w⟩ = (result,u)) :=
    AnyDevice.dispatchDisk cmd disk (fun _ => listedCommand command) unchanged ran
  refine transferIff limit sized small (fun range => ?_) (fun range none => ?_) (fun range some => ?_) (fun range some => ?_)
  · exact congrArg Prod.fst (dispatched (writeOutOfRange (s := ⟨d,t,w⟩) ready writable range))
  · exact congrArg Prod.fst (dispatched (writeNothing (s := ⟨d,t,w⟩) ready writable range
      (Bool.eq_false_iff.mpr fun wrong => moves.mp wrong none)))
  · rw [dispatched (writeStarts (s := ⟨d,t,w⟩) ready writable range (moves.mpr some))]
    simp only [WorksOn,some,if_false,if_true]
    exact and_iff_left ⟨⟨_,rfl⟩,trivial⟩
  · rw [dispatched (writeStarts (s := ⟨d,t,w⟩) ready writable range (moves.mpr some))]
    exact ⟨fun wrong => (by cases wrong),fun wrong => absurd wrong.1 (by decide)⟩

theorem readAddressed (command : (cmd,mode,false) ∈ transferCommands) :
    ((d.blocks < lba r mode + count r mode →
        (AnyDevice.methods.dispatch cmd r ⟨any,t,w⟩).1 = .error ⟨.illegalRequest,.lbaOutOfRange⟩) ∧
      (lba r mode + count r mode ≤ d.blocks →
        WorksOn any d r t w (AnyDevice.methods.dispatch cmd r ⟨any,t,w⟩) (.transfer mode false))) ↔
    Unambiguous any d r t w (.transfer mode false) := by
  have moves := transfersIff (r := r) (listedMode command).1
  refine transferIff limit sized small (fun range => ?_) (fun range none => ?_) (fun range some => ?_) (fun range some => ?_)
  · rw [AnyDevice.dispatchReadOther disk command unchanged ready fun inside => absurd inside range,if_neg range]
  · rw [AnyDevice.dispatchReadOther disk command unchanged ready fun _ => Bool.eq_false_iff.mpr fun wrong => moves.mp wrong none,
      if_pos range]
  · rw [AnyDevice.dispatchRead disk command unchanged ready range (moves.mpr some)]
    simp only [WorksOn,some,if_false,Bool.false_eq_true]
    exact and_iff_left trivial
  · rw [AnyDevice.dispatchRead disk command unchanged ready range (moves.mpr some)]
    exact (bindFails _ _ _).trans (and_iff_right rfl).symm

end

end Disk

namespace Disk

/- WRITE(6) of sector 0, with LUN 1 in the CDB. -/
def writeLunOne : Request := { cdb := [0x0a,0x20,0,0,1,0], effectiveLun := 1 }

end Disk
end Scsi2Pi
