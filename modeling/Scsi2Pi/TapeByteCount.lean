import Scsi2Pi.TapeAccess

/-! The byte counts of READ and WRITE with fixed block sizes. They are products of a
number of blocks and the block size, computed in 32 bits and handed on as int. -/
namespace Scsi2Pi
open Handler Derives Eff SimhUtil

namespace Tape

/- A command that is not rejected transfers all the bytes asked for, or there are none. -/
def CountExact (d : Tape) (r : Request) (long : Bool) (ran : Except ScsiException PhaseCall × HandlerState AnyDevice) : Prop :=
  ∀ call t, ran = (.ok call,t) → t.transfer.status = .good →
    transferLength r long = 0 ∧ call = .status ∨
    transferLength r long ≠ 0 ∧ call ≠ .status ∧ t.transfer.remainingLength = (transferLength r long * d.blockSize : Nat) ∧
      ∃ after, t.device = .tape after ∧ after.byteCount = transferLength r long * d.blockSize

/- READ reads its first chunk before it asks for the DATA IN phase. -/
def Unreadable (r : Request) (long : Bool) (s : HandlerState Tape) : Prop :=
  uint32 (s.device.total r long) ≠ 0 ∧
    ∀ n t, readData r (readsFrom (positioned r long s) (uint32 (s.device.total r long))) = (.ok n,t) →
      t.transfer.status ≠ .good

/- Neither the checks nor, for READ, the first chunk let the command through. -/
def Rejected (r : Request) (long dataOut : Bool) (s : HandlerState Tape) : Prop :=
  Refused r long dataOut s ∨ dataOut = false ∧ Unreadable r long s

/-! A READ keeps its sizes, or it ends with CHECK CONDITION. -/

structure Counted (s t : HandlerState Tape) : Prop where
  good : t.transfer.status = .good → s.transfer.status = .good ∧ t.device.byteCount = s.device.byteCount ∧
    t.transfer.remainingLength = s.transfer.remainingLength

instance : IsPreorder (HandlerState Tape) Counted where
  refl _ := ⟨fun good => ⟨good,rfl,rfl⟩⟩
  trans _ _ _ h h' := ⟨fun good => by
    obtain ⟨good,count,remaining⟩ := h'.good good
    obtain ⟨good,count',remaining'⟩ := h.good good
    exact ⟨good,count.trans count',remaining.trans remaining'⟩⟩

theorem movesCounted {α : Type} {P : α → Prop} {h : Handler Tape α} (moves : Moves P h) : Meets Counted P h := by
  have counted {s t : HandlerState Tape} (moved : Moved s t) : Counted s t := ⟨fun good =>
    ⟨moved.transfer ▸ good,moved.same (fun d => d.byteCount) fun _ => rfl,congrArg (·.remainingLength) moved.transfer⟩⟩
  exact fun r s => wpMono (moves r s) (fun _ _ ended => ⟨counted ended.1,ended.2⟩) (fun _ _ failed => counted failed.1)

theorem modifyCounted {f : Tape → Tape} (same : ∀ d, (f d).byteCount = d.byteCount) : Does Counted (modifyDevice f) :=
  fun _ s => ⟨⟨fun good => ⟨good,same s.device,rfl⟩⟩,trivial⟩

theorem isAtRecordBoundaryCounted : Does Counted isAtRecordBoundary := by
  refine meetsThen doesGetDevice fun _ _ => meetsIte (fun _ => doesPure _) (fun _ => ?_)
  exact meetsThen (modifyCounted fun _ => rfl) fun _ _ => doesPure _

theorem openRecordCounted : Does Counted openRecord := by
  refine meetsThen (movesCounted (findNextMoves _ _ _)) fun m _ => ?_
  refine meetsThen (modifyCounted fun _ => rfl) fun _ _ => meetsUnless fun _ => ?_
  exact meetsThen (movesCounted (advanceMoves _)) fun _ _ => modifyCounted fun _ => rfl

theorem raiseReadErrorCounted : Does Counted (raiseReadError : Handler Tape Unit) := by
  refine meetsThen (movesCounted (advanceMoves _)) fun _ _ => meetsThen (modifyCounted fun _ => rfl) fun _ _ => ?_
  exact meetsThen doesGetDevice fun _ _ => meetsThen (movesCounted (setInformationMoves _)) fun _ _ => meetsThrow _

theorem closeRecordCounted : Does Counted closeRecord := by
  refine meetsThen (modifyCounted fun _ => rfl) fun _ _ => meetsThen (movesCounted (readFileMoves _)) fun _ _ => ?_
  refine meetsThen doesGetDevice fun d _ => ?_
  have count : Does Counted (do
      advance metaDataSize
      modifyDevice fun d => if d.remainingCount = 0 then { d with blocksRead := d.blocksRead + 1 } else d) := by
    refine meetsThen (movesCounted (advanceMoves _)) fun _ _ => modifyCounted fun d => ?_
    split <;> rfl
  exact meetsIte (fun _ => meetsThen raiseReadErrorCounted fun _ _ => count) (fun _ => count)

theorem setBufferCounted (f : Bytes → Bytes) : Does Counted (setBuffer f : Handler Tape Unit) :=
  fun _ _ => ⟨⟨fun good => ⟨good,rfl,rfl⟩⟩,trivial⟩

theorem readChunkCounted (length : Int) : Does Counted (readChunk length) := by
  refine meetsThen (movesCounted (readFileMoves _)) fun _ _ => meetsThen (setBufferCounted _) fun _ _ => ?_
  refine meetsThen (modifyCounted fun _ => rfl) fun _ _ => meetsThen (movesCounted (advanceMoves _)) fun _ _ => ?_
  refine meetsThen isAtRecordBoundaryCounted fun _ _ => meetsIte (fun _ => ?_) (fun _ => doesPure _)
  exact meetsThen closeRecordCounted fun _ _ => doesPure _

/- With another length the status is not GOOD any more. -/
theorem wpCheckBlockLength {r : Request} {s : HandlerState Tape} {E : ScsiException → HandlerState Tape → Prop} :
    wp checkBlockLength r s (fun actual t => actual = 0 ∧ t = s ∨ t.transfer.status = .checkCondition) E := by
  unfold checkBlockLength
  simp only [wpBind,wpGetRequest,wpGetDevice,wpIte,wpPure]
  refine ⟨fun _ => ?_,fun _ => .inl ⟨trivial,trivial⟩⟩
  split
  · exact .inr rfl
  · exact .inl ⟨rfl,rfl⟩

/- An incorrect length stays reported. -/
structure Reported (s t : HandlerState Tape) : Prop where
  failed : s.transfer.status = .checkCondition → t.transfer.status = .checkCondition

instance : IsPreorder (HandlerState Tape) Reported where
  refl _ := ⟨id⟩
  trans _ _ _ h h' := ⟨fun failed => h'.failed (h.failed failed)⟩

theorem limitTransferReported (actual : Nat) : Does Reported (limitTransfer actual) := by
  have modify (f : Tape → Tape) : Does Reported (modifyDevice f) := fun _ _ => ⟨⟨id⟩,trivial⟩
  have size (length size : Int) : Does Reported (setTransferSize length size : Handler Tape Unit) :=
    fun _ _ => ⟨⟨id⟩,trivial⟩
  have current (length : Int) : Does Reported (setCurrentLength length : Handler Tape Unit) := fun _ _ => ⟨⟨id⟩,trivial⟩
  refine meetsThen (modify _) fun _ _ => meetsThen doesGetDevice fun _ _ => ?_
  exact meetsThen (size _ _) fun _ _ => current _

theorem beginRecordCounted (length : Int) : Does Counted (beginRecord length) := by
  refine meetsThen openRecordCounted fun _ _ r s => ?_
  rw [wpBind]
  refine wpMono wpCheckBlockLength (fun actual t known => ?_) fun _ _ wrong => wrong
  rw [wpIte]
  refine ⟨fun none => ?_,fun other => ?_⟩
  · rcases known with ⟨-,rfl⟩ | failed
    · exact ⟨refl t,trivial⟩
    · exact ⟨⟨fun good => absurd (good.symm.trans failed) (by decide)⟩,trivial⟩
  · have failed := known.resolve_left fun same => other same.1
    rw [wpBind]
    refine wpMono (limitTransferReported actual r t) (fun _ u same => ?_) fun _ u same => ?_
    · exact ⟨⟨fun good => absurd (good.symm.trans (same.1.failed failed)) (by decide)⟩,trivial⟩
    · exact ⟨fun good => absurd (good.symm.trans (same.failed failed)) (by decide)⟩

theorem readDataCounted : Does Counted readData := by
  refine meetsThen doesGetTransfer fun t _ => meetsThen isAtRecordBoundaryCounted fun _ _ => ?_
  refine meetsIte (fun _ => ?_) (fun _ => readChunkCounted _)
  exact meetsThen (beginRecordCounted _) fun _ _ => readChunkCounted _

/-! The count of an accepted command. -/

section
variable {r : Request} {s : HandlerState Tape} {long dataOut : Bool}

theorem smallTotal {n : Nat} (small : n < 2^31) : uint32 n = n ∧ int32 n = n :=
  ⟨uint32Fits (by omega),int32Fits (by omega) (by omega)⟩

/- An int is below 2^31. -/
theorem exactSmall {n : Nat} (same : int32 (uint32 n) = n) : n < 2^31 := by
  have below : int32 (uint32 n) < 2^31 := by
    have bound := Int.bmod_lt (x := (uint32 n : Nat)) (m := 2^32) (by decide)
    unfold int32
    omega
  omega

theorem readsFromSizes (s : HandlerState Tape) (count : Nat) : (readsFrom s count).device.byteCount = count ∧
    (readsFrom s count).transfer.remainingLength = int32 count := by
  unfold readsFrom
  exact ⟨rfl,by rw [Transfer.setCurrentLengthRemaining,Transfer.setTransferSizeRemaining]⟩

theorem writesFromSizes (s : HandlerState Tape) (count : Nat) : (writesFrom s count).device.byteCount = count ∧
    (writesFrom s count).transfer.remainingLength = int32 count ∧
    (writesFrom s count).transfer.status = s.transfer.status := by
  unfold writesFrom
  exact ⟨rfl,by rw [Transfer.setTransferSizeRemaining],by rw [Transfer.setTransferSizeStatus]⟩

/- What an accepted command with these sizes does is exact as long as they fit. -/
theorem sizesExact {call : PhaseCall} {t : HandlerState Tape} (fixed : isFixed r)
    (moves : call ≠ .status) (some : uint32 (s.device.total r long) ≠ 0)
    (count : t.transfer.status = .good → t.device.byteCount = uint32 (s.device.total r long) ∧
      t.transfer.remainingLength = int32 (uint32 (s.device.total r long))) :
    s.device.CountExact r long (.ok call,⟨.tape t.device,t.transfer,t.world⟩) ↔
      transferLength r long * s.device.blockSize < 2^31 ∨ t.transfer.status ≠ .good := by
  rw [total,if_pos fixed] at some count
  constructor
  · intro exact_
    by_cases good : t.transfer.status = .good
    · rcases exact_ _ _ rfl good with ⟨-,wrong⟩ | ⟨-,-,same,-⟩
      · exact absurd wrong moves
      · exact .inl (exactSmall ((count good).2.symm.trans same))
    · exact .inr good
  · rintro (small | failed) call u accepted good
    · cases accepted
      have fits := smallTotal small
      obtain ⟨bytes,remaining⟩ := count good
      rw [fits.1] at bytes remaining some
      refine .inr ⟨fun none => some ?_,moves,remaining.trans fits.2,t.device,rfl,bytes⟩
      rw [none,Nat.zero_mul]
    · cases accepted
      exact absurd good failed

theorem acceptedExact {call : PhaseCall} {t : HandlerState Tape} (sized : 0 < s.device.blockSize) (fixed : isFixed r)
    (good : s.transfer.status = .good) (passed : ¬Refused r long dataOut s) (accepted : Accepted r long s dataOut call t) :
    s.device.CountExact r long (.ok call,⟨.tape t.device,t.transfer,t.world⟩) ↔
      transferLength r long * s.device.blockSize < 2^31 ∨ Rejected r long dataOut s := by
  have start : (positioned r long s).transfer = s.transfer := (positionedMoved passed).transfer
  cases accepted with
  | nothing _ t none status =>
    rw [total,if_pos fixed] at none
    constructor
    · intro exact_
      refine .inl ?_
      rcases exact_ _ _ rfl (status.trans good) with ⟨nothing,-⟩ | ⟨-,wrong,-⟩
      · rw [nothing,Nat.zero_mul]
        decide
      · exact absurd rfl wrong
    · rintro (small | refused | unreadable) call u accepted -
      · cases accepted
        have zero := (smallTotal small).1.symm.trans none
        exact .inl ⟨(Nat.mul_eq_zero.mp zero).resolve_right (Nat.ne_of_gt sized),rfl⟩
      · exact absurd refused passed
      · refine absurd ?_ unreadable.2.1
        rw [total,if_pos fixed]
        exact none
  | receives length some =>
    obtain ⟨bytes,remaining,status⟩ := writesFromSizes (positioned r long s) (uint32 (s.device.total r long))
    refine (sizesExact fixed (fun wrong => by cases wrong) some fun _ => ⟨bytes,remaining⟩).trans ?_
    refine or_congr Iff.rfl ⟨fun failed => absurd (status.trans (start ▸ good)) failed,?_⟩
    exact fun rejected => rejected.elim (absurd · passed) fun wrong => by cases wrong.1
  | sends length t some ran =>
    have counted := wpOk (readDataCounted r _) ran
    obtain ⟨bytes,remaining⟩ := readsFromSizes (positioned r long s) (uint32 (s.device.total r long))
    refine (sizesExact fixed (fun wrong => by cases wrong) some fun ended => ?_).trans (or_congr Iff.rfl ?_)
    · obtain ⟨-,count,length⟩ := counted.1.good ended
      exact ⟨count.trans bytes,length.trans remaining⟩
    · constructor
      · intro ended
        refine .inr ⟨rfl,some,fun n u again => ?_⟩
        cases ran.symm.trans again
        exact ended
      · rintro (refused | unreadable)
        · exact absurd refused passed
        · exact unreadable.2.2 length t ran

end

end Tape

theorem byteCountExactIff {d : Tape} (sized : 0 < d.blockSize) {r : Request} {long dataOut : Bool}
    (listed : (r.opcode,long,dataOut) ∈ Tape.transferCommands) (fixed : Tape.isFixed r) {t : Transfer}
    (good : t.status = .good) (w : World) :
    d.CountExact r long (AnyDevice.methods.dispatch r.opcode r ⟨.tape d,t,w⟩) ↔
      Tape.transferLength r long * d.blockSize < 2^31 ∨ Tape.Refused r long dataOut ⟨d,t,w⟩ ∨
        dataOut = false ∧ Tape.Unreadable r long ⟨d,t,w⟩ := by
  have ends := Tape.wpTransfer (s := ⟨d,t,w⟩) (E := fun _ _ => Tape.Rejected r long dataOut ⟨d,t,w⟩) listed
    (fun refused _ _ _ => .inl refused) fun back some e u failed => .inr ⟨back,some,fun n v ran => by
      exact absurd (failed.symm.trans ran) (by simp)⟩
  have dispatched : AnyDevice.methods.dispatch r.opcode r ⟨.tape d,t,w⟩ =
      AnyDevice.within .tape (Tape.methods.dispatch r.opcode) d r ⟨.tape d,t,w⟩ := rfl
  unfold wp at ends
  rw [dispatched]
  cases ran : Tape.methods.dispatch r.opcode r ⟨d,t,w⟩ with
  | mk result u =>
    rw [ran] at ends
    rw [AnyDevice.withinRan ran]
    cases result with
    | error e => exact ⟨fun _ => .inr ends,fun _ call v wrong => by cases wrong⟩
    | ok call => exact Tape.acceptedExact sized fixed good ends.1 ends.2

namespace Tape

/- A drive with a tape that can be written, at its beginning. -/
def exampleTape : Tape where
  type := .sctp
  ready := true
  supportedBlockSizes := [512]
  blockSize := 512
  blockSizeForDescriptor := 512
  isOpen := true
  maxFileSize := 2^20

/- WRITE(6) of one block, with FIXED. -/
def writeOne : Request := { cdb := [0x0a,1,0,0,1,0] }

theorem writeOneExact : exampleTape.CountExact writeOne false
    (AnyDevice.methods.dispatch writeOne.opcode writeOne ⟨.tape exampleTape,{},{}⟩) :=
  (byteCountExactIff (by decide) (.tail _ (.tail _ (.head _))) (by unfold isFixed; decide) rfl {}).mpr (.inl (by decide))

/- WRITE(6) of 2^23 blocks, which are 2^32 bytes. -/
def writeAll : Request := { cdb := [0x0a,1,0x80,0,0,0] }

theorem writeAllIgnored :
    (AnyDevice.methods.dispatch writeAll.opcode writeAll ⟨.tape exampleTape,{},{}⟩).1 = .ok .status ∧
    (AnyDevice.methods.dispatch writeAll.opcode writeAll ⟨.tape exampleTape,{},{}⟩).2.transfer.status = .good ∧
    ¬exampleTape.CountExact writeAll false
      (AnyDevice.methods.dispatch writeAll.opcode writeAll ⟨.tape exampleTape,{},{}⟩) := by
  have ran : (AnyDevice.methods.dispatch writeAll.opcode writeAll ⟨.tape exampleTape,{},{}⟩).1 = .ok .status := rfl
  have good : (AnyDevice.methods.dispatch writeAll.opcode writeAll ⟨.tape exampleTape,{},{}⟩).2.transfer.status = .good := rfl
  refine ⟨ran,good,fun exact_ => ?_⟩
  rcases exact_ .status _ (Prod.ext ran rfl) good with ⟨nothing,-⟩ | ⟨-,wrong,-⟩
  · exact absurd nothing (by decide)
  · exact wrong rfl

end Tape
end Scsi2Pi
