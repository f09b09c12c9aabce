import Scsi2Pi.DiskClass
import Scsi2Pi.TapeMotion

/-! What READ and WRITE of a tape do up to the first data: the checks that refuse them,
the LOCATE of a 16-byte CDB, and what they leave behind for ReadData and WriteData. -/
namespace Scsi2Pi
open MemoryUtil Handler Derives Eff

namespace Tape

/- READ and WRITE with the form of their CDB and whether they receive data. -/
def transferCommands : List (ScsiCommand × Bool × Bool) := [
  (.read6,false,false),
  (.read16,true,false),
  (.write6,false,true),
  (.write16,true,true)]

def transferLength (r : Request) (long : Bool) : Nat := if long then r.cdbInt24 12 else r.cdbInt24 2

def isFixed (r : Request) : Prop := r.cdbByte 1 &&& 0x01 ≠ 0

instance : DecidablePred isFixed := fun _ => inferInstanceAs (Decidable (_ ≠ _))

/- The number of bytes asked for. -/
def total (d : Tape) (r : Request) (long : Bool) : Nat :=
  if isFixed r then transferLength r long * d.blockSize else transferLength r long

/- The checks of the fields before anything is moved. -/
def fieldsRefused (r : Request) (long dataOut : Bool) : Prop :=
  if dataOut then long = true ∧ (r.cdbByte 1 &&& 0x0c ≠ 0 ∨ r.cdbByte 3 ≠ 0)
  else r.cdbByte 1 &&& 0x03 = 0x03 ∨ long = true ∧ r.cdbByte 3 ≠ 0

/- The checks of the command, with the LOCATE of a 16-byte CDB. -/
def Refused (r : Request) (long dataOut : Bool) (s : HandlerState Tape) : Prop :=
  s.device.mediumChanged = true ∨ s.device.reset = true ∨ s.device.attn = true ∨ s.device.ready = false ∨
    fieldsRefused r long dataOut ∨ dataOut = true ∧ s.device.writeProtected = true ∨
    (∃ e t, locateExplicitly long r s = (.error e,t)) ∨ isFixed r ∧ s.device.blockSizeForDescriptor = 0

/- Where the transfer of an accepted command starts. -/
def positioned (r : Request) (long : Bool) (s : HandlerState Tape) : HandlerState Tape :=
  let t := (locateExplicitly long r s).2
  { t with device := { t.device with fixed := isFixed r } }

def readsFrom (s : HandlerState Tape) (count : Nat) : HandlerState Tape where
  device := { s.device with byteCount := count, blocksRead := 0, remainingCount := count, initial := true }
  transfer := (s.transfer.setTransferSize (int32 count) (int32 s.device.blockSize)).setCurrentLength (int32 s.device.blockSize)
  world := s.world

def writesFrom (s : HandlerState Tape) (count : Nat) : HandlerState Tape where
  device := { s.device with
    byteCount := count
    remainingCount := count
    recordLength := if s.device.fixed then s.device.blockSize else count
    initial := true }
  transfer := s.transfer.setTransferSize (int32 count) (int32 (if count < s.device.blockSize then count else s.device.blockSize))
  world := s.world

/- How an accepted command ends: without a phase for data, or with the first one. -/
inductive Accepted (r : Request) (long : Bool) (s : HandlerState Tape) : Bool → PhaseCall → HandlerState Tape → Prop where
  | nothing (dataOut : Bool) (t : HandlerState Tape) (none : uint32 (s.device.total r long) = 0)
      (status : t.transfer.status = s.transfer.status)
      (here : t.device.tapePosition = (positioned r long s).device.tapePosition) : Accepted r long s dataOut .status t
  | receives (length : Int) (some : uint32 (s.device.total r long) ≠ 0) :
      Accepted r long s true (.dataOut length) (writesFrom (positioned r long s) (uint32 (s.device.total r long)))
  | sends (length : Int) (t : HandlerState Tape) (some : uint32 (s.device.total r long) ≠ 0)
      (ran : readData r (readsFrom (positioned r long s) (uint32 (s.device.total r long))) = (.ok length,t)) :
      Accepted r long s false (.dataIn length) t

theorem acceptedWrite {r : Request} {long : Bool} {s t : HandlerState Tape} {call : PhaseCall}
    (accepted : Accepted r long s true call t) : uint32 (s.device.total r long) = 0 ∧ call = .status ∨
      uint32 (s.device.total r long) ≠ 0 ∧ (∃ length, call = .dataOut length) ∧
        t = writesFrom (positioned r long s) (uint32 (s.device.total r long)) := by
  cases accepted with
  | nothing _ t none status => exact .inl ⟨none,rfl⟩
  | receives length some => exact .inr ⟨some,⟨length,rfl⟩,rfl⟩

section
variable {r : Request} {s : HandlerState Tape} {long dataOut : Bool} {E : ScsiException → HandlerState Tape → Prop}

/- The error of a check that fails. -/
def Declines (s : HandlerState Tape) (e : ScsiException) (t : HandlerState Tape) : Prop :=
  NoOverflow e ∧ t.world = s.world

theorem wpSelf {α : Type} (x : Handler Tape α) :
    wp x r s (fun a t => x r s = (.ok a,t)) fun e t => x r s = (.error e,t) := by
  unfold wp
  cases ran : x r s with
  | mk result t => cases result <;> rfl

theorem wpCheckReady {Q : Unit → HandlerState Tape → Prop}
    (busy : s.device.reset = true ∨ s.device.attn = true ∨ s.device.ready = false → ∀ e t, Declines s e t → E e t)
    (ready : s.device.reset = false → s.device.attn = false → s.device.ready = true → Q () s) :
    wp checkReady r s Q E := by
  simp only [checkReady,PrimaryDevice.checkReady,wpSuper,wpBind,wpGetDevice,wpIte,wpModifyDevice,wpThrow,wpPure]
  refine ⟨fun reset => ?_,fun reset => ⟨fun attn => ?_,fun attn => ⟨fun empty => ?_,fun full => ?_⟩⟩⟩
  · exact busy (.inl reset) _ _ ⟨by decide,rfl⟩
  · exact busy (.inr (.inl attn)) _ _ ⟨by decide,rfl⟩
  · exact busy (.inr (.inr ((Bool.not_eq_true' _).mp empty))) _ _ ⟨by decide,rfl⟩
  · refine ready (Bool.eq_false_iff.mpr reset) (Bool.eq_false_iff.mpr attn) ?_
    exact Bool.eq_true_of_not_eq_false fun empty => full ((Bool.not_eq_true' _).mpr empty)

theorem wpCheckNoTar {Q : Unit → HandlerState Tape → Prop}
    (tar : s.device.tarFile = true → E ⟨.illegalRequest,.invalidCommandOperationCode⟩ s)
    (simh : s.device.tarFile = false → Q () s) : wp checkNoTar r s Q E := by
  unfold checkNoTar
  rw [wpBind,wpGetDevice,wpIte]
  exact ⟨tar,fun other => simh (Bool.eq_false_iff.mpr other)⟩

theorem wpCheckWritePreconditions {Q : Unit → HandlerState Tape → Prop}
    (denied : s.device.writeProtected = true → ∀ e t, Declines s e t → E e t)
    (allowed : ¬s.device.writeProtected = true → Q () s) : wp (super StorageDevice.checkWritePreconditions) r s Q E := by
  simp only [StorageDevice.checkWritePreconditions,wpSuper,wpBind,wpGetDevice,wpIte,wpThrow,wpPure]
  exact ⟨fun protect => denied protect _ _ ⟨by decide,rfl⟩,fun writable => allowed writable⟩

theorem transferLengthSmall : transferLength r long < 2^24 := by
  unfold transferLength
  split
  · exact getInt24Lt _ _
  · exact getInt24Lt _ _

/- What is asked for depends on nothing that LOCATE changes. -/
theorem totalSame {d d' : Tape} (size : d.blockSize = d'.blockSize) : d.total r long = d'.total r long := by
  rw [total,total,size]

theorem wpGetByteCount {Q : Nat → HandlerState Tape → Prop}
    (unsized : isFixed r ∧ s.device.blockSizeForDescriptor = 0 → ∀ e t, NoOverflow e → E e t)
    (counted : ¬(isFixed r ∧ s.device.blockSizeForDescriptor = 0) → Q (uint32 (s.device.total r s.device.expl))
      { s with device := { s.device with fixed := isFixed r } }) : wp getByteCount r s Q E := by
  unfold getByteCount
  simp only [wpBind,wpGetRequest,wpModifyDevice,wpGetDevice,wpIte,wpThrow,wpPure]
  refine ⟨fun wrong => unsized wrong _ _ (by decide),fun right => ?_⟩
  have count : (if r.cdbByte 1 &&& 0x01 ≠ 0 then uint32 (transferLength r s.device.expl * s.device.blockSize : Nat)
      else transferLength r s.device.expl) = uint32 (s.device.total r s.device.expl) := by
    by_cases fixed : isFixed r
    · rw [total,if_pos fixed]
      exact if_pos fixed
    · rw [total,if_neg fixed,uint32Fits (Nat.lt_trans transferLengthSmall (by decide))]
      exact if_neg fixed
  have result := counted right
  rw [← count] at result
  exact result

theorem locateExplicitlyMoves (r : Request) (s : HandlerState Tape) (long : Bool) : wp (locateExplicitly long) r s
    (fun _ t => Moved { s with device := { s.device with expl := long } } t) fun e _ => NoOverflow e := by
  unfold locateExplicitly
  rw [wpBind,wpModifyDevice,wpIte]
  refine ⟨fun _ => ?_,fun _ => refl _⟩
  rw [wpBind]
  refine wpMono (locateMoves true r _) (fun found t moved => ?_) fun _ _ failed => failed.2
  rw [wpIte]
  refine ⟨fun _ => ?_,fun _ => moved.1⟩
  rw [wpBind,wpGetRequest,wpBind]
  have other : NoOverflow ⟨.noSense,.locateOperationFailure⟩ := by decide
  exact wpMono (setInformationMoves _ r t) (fun _ _ _ => other) fun _ _ failed => failed.2

theorem wpLocateExplicitly {Q : Unit → HandlerState Tape → Prop}
    (lost : (∃ e t, locateExplicitly long r s = (.error e,t)) → ∀ e t, NoOverflow e → E e t)
    (located : (¬∃ e t, locateExplicitly long r s = (.error e,t)) → ∀ t, t = (locateExplicitly long r s).2 →
      Moved { s with device := { s.device with expl := long } } t → Q () t) :
    wp (locateExplicitly long) r s Q E := by
  have moved := locateExplicitlyMoves r s long
  unfold wp at moved ⊢
  cases ran : locateExplicitly long r s with
  | mk result t =>
    rw [ran] at moved
    cases result with
    | error e => exact lost ⟨e,t,ran⟩ e t moved
    | ok _ =>
      refine located (fun failed => ?_) t (by rw [ran]) moved
      obtain ⟨e,u,failed⟩ := failed
      exact absurd (ran.symm.trans failed) (by simp)

/- LOCATE moves, and the two flags are those of the command. -/
theorem positionedMoved (passed : ¬Refused r long dataOut s) :
    Moved { s with device := { s.device with expl := long, fixed := isFixed r } } (positioned r long s) := by
  have moved := locateExplicitlyMoves r s long
  unfold wp at moved
  unfold positioned
  cases ran : locateExplicitly long r s with
  | mk result t =>
    rw [ran] at moved
    cases result with
    | error e => exact absurd (.inr (.inr (.inr (.inr (.inr (.inr (.inl ⟨e,t,ran⟩))))))) passed
    | ok _ => exact ⟨congrArg (fun d => { d with fixed := decide (isFixed r) }) moved.device,moved.transfer,moved.world⟩

theorem acceptedChecks (unchanged : s.device.mediumChanged = false) (reset : s.device.reset = false)
    (attn : s.device.attn = false) (ready : s.device.ready = true) (fields : ¬fieldsRefused r long dataOut)
    (writable : ¬(dataOut = true ∧ s.device.writeProtected = true))
    (located : ¬∃ e t, locateExplicitly long r s = (.error e,t))
    (sized : ¬(isFixed r ∧ s.device.blockSizeForDescriptor = 0)) : ¬Refused r long dataOut s := by
  rintro (wrong | wrong | wrong | wrong | wrong | wrong | wrong | wrong)
  · exact absurd (wrong.symm.trans unchanged) (by decide)
  · exact absurd (wrong.symm.trans reset) (by decide)
  · exact absurd (wrong.symm.trans attn) (by decide)
  · exact absurd (wrong.symm.trans ready) (by decide)
  · exact fields wrong
  · exact writable wrong
  · exact located wrong
  · exact sized wrong

/- LOCATE and GetByteCount, with which READ and WRITE go on. -/
theorem wpPosition {f : Nat → Handler Tape PhaseCall} {Q : PhaseCall → HandlerState Tape → Prop}
    (refused : (∃ e t, locateExplicitly long r s = (.error e,t)) ∨ isFixed r ∧ s.device.blockSizeForDescriptor = 0 →
      ∀ e t, NoOverflow e → E e t)
    (accepted : (¬∃ e t, locateExplicitly long r s = (.error e,t)) → ¬(isFixed r ∧ s.device.blockSizeForDescriptor = 0) →
      (positioned r long s).transfer = s.transfer →
      wp (f (uint32 (s.device.total r long))) r (positioned r long s) Q E) :
    wp (locateExplicitly long >>= fun _ => getByteCount >>= f) r s Q E := by
  rw [wpBind]
  refine wpLocateExplicitly (fun lost => refused (.inl lost)) fun located t same moved => ?_
  have descriptor : t.device.blockSizeForDescriptor = s.device.blockSizeForDescriptor :=
    moved.same (fun d => d.blockSizeForDescriptor) fun _ => rfl
  have expl : t.device.expl = long := moved.same (fun d => d.expl) fun _ => rfl
  have size : t.device.blockSize = s.device.blockSize := moved.same (fun d => d.blockSize) fun _ => rfl
  have position : positioned r long s = { t with device := { t.device with fixed := isFixed r } } := by
    unfold positioned
    rw [← same]
  rw [wpBind]
  refine wpGetByteCount (fun unsized => refused (.inr (descriptor ▸ unsized))) fun sized => ?_
  rw [expl,totalSame size,← position]
  refine accepted located (descriptor ▸ sized) ?_
  rw [position]
  exact moved.transfer

theorem wpRead (unchanged : s.device.mediumChanged = false)
    (refused : Refused r long false s → ∀ e t, NoOverflow e → E e t)
    (failed : uint32 (s.device.total r long) ≠ 0 → ∀ e t,
      readData r (readsFrom (positioned r long s) (uint32 (s.device.total r long))) = (.error e,t) → E e t) :
    wp (read long) r s (fun call t => ¬Refused r long false s ∧ Accepted r long s false call t) E := by
  unfold read
  rw [wpBind]
  refine wpCheckReady (fun busy e t declined => ?_) fun reset attn ready => ?_
  · exact refused (.inr (busy.imp_right fun busy => busy.imp_right .inl)) e t declined.1
  rw [wpBind,wpGetRequest,wpIte]
  refine ⟨fun wrong => refused (.inr (.inr (.inr (.inr (.inl wrong))))) _ _ (by decide),fun fields => ?_⟩
  refine wpPosition (fun wrong => ?_) fun located sized transfer => ?_
  · exact refused (.inr (.inr (.inr (.inr (.inr (.inr wrong))))))
  have passed : ¬Refused r long false s :=
    acceptedChecks unchanged reset attn ready fields (fun wrong => by cases wrong.1) located sized
  rw [wpBind,wpModifyDevice,wpIte]
  refine ⟨fun none => ⟨passed,.nothing _ _ none (congrArg (·.status) transfer) rfl⟩,fun some => ?_⟩
  simp only [wpBind,wpModifyDevice,wpGetDevice,wpSetTransferSize,wpSetCurrentLength,wpPure]
  refine wpMono (wpSelf _) (fun length u ran => ⟨passed,?_⟩) fun e u ran => ?_
  · exact .sends length u some ran
  · exact failed some e u ran

theorem wpWrite (unchanged : s.device.mediumChanged = false)
    (refused : Refused r long true s → ∀ e t, NoOverflow e → E e t) :
    wp (write long) r s (fun call t => ¬Refused r long true s ∧ Accepted r long s true call t) E := by
  unfold write
  rw [wpBind]
  refine wpCheckReady (fun busy e t declined => ?_) fun reset attn ready => ?_
  · exact refused (.inr (busy.imp_right fun busy => busy.imp_right .inl)) e t declined.1
  rw [wpBind,wpGetRequest,wpIte]
  refine ⟨fun wrong => refused (.inr (.inr (.inr (.inr (.inl wrong))))) _ _ (by decide),fun fields => ?_⟩
  rw [wpBind]
  refine wpCheckWritePreconditions (fun protect e t declined => ?_) fun writable => ?_
  · exact refused (.inr (.inr (.inr (.inr (.inr (.inl ⟨rfl,protect⟩)))))) e t declined.1
  refine wpPosition (fun wrong => ?_) fun located sized transfer => ?_
  · exact refused (.inr (.inr (.inr (.inr (.inr (.inr wrong))))))
  have passed : ¬Refused r long true s :=
    acceptedChecks unchanged reset attn ready fields (fun wrong => writable wrong.2) located sized
  rw [wpBind,wpModifyDevice,wpIte]
  refine ⟨fun none => ⟨passed,.nothing _ _ none (congrArg (·.status) transfer) rfl⟩,fun some => ⟨passed,?_⟩⟩
  exact .receives _ some

/- A registered command, behind the report of a media change. -/
theorem wpDispatch {cmd : ScsiCommand} {h : Handler Tape PhaseCall} {Q : PhaseCall → HandlerState Tape → Prop}
    (other : cmd ≠ .inquiry ∧ cmd ≠ .requestSense) (registered : Handler.dispatch commands cmd = h)
    (changed : s.device.mediumChanged = true → ∀ e t, Declines s e t → E e t)
    (unchanged : s.device.mediumChanged = false → wp h r s Q E) : wp (methods.dispatch cmd) r s Q E := by
  unfold methods StorageDevice.dispatch
  simp only [wpBind,wpSuper,StorageDevice.reportMediumChange,wpGetDevice,wpIte,wpModifyDevice,wpThrow,wpPure]
  refine ⟨fun reported => changed reported.2.2 _ _ ⟨by decide,rfl⟩,fun silent => ?_⟩
  rw [registered]
  exact unchanged (Bool.eq_false_iff.mpr fun changed => silent ⟨other.1,other.2,changed⟩)

theorem wpTransfer {cmd : ScsiCommand} (listed : (cmd,long,dataOut) ∈ transferCommands)
    (refused : Refused r long dataOut s → ∀ e t, NoOverflow e → E e t)
    (failed : dataOut = false → uint32 (s.device.total r long) ≠ 0 → ∀ e t,
      readData r (readsFrom (positioned r long s) (uint32 (s.device.total r long))) = (.error e,t) → E e t) :
    wp (methods.dispatch cmd) r s (fun call t => ¬Refused r long dataOut s ∧ Accepted r long s dataOut call t) E := by
  have command : (cmd ≠ .inquiry ∧ cmd ≠ .requestSense) ∧
      Handler.dispatch commands cmd = if dataOut then write long else read long := by
    simp only [transferCommands,List.mem_cons,List.not_mem_nil,or_false,Prod.mk.injEq] at listed
    rcases listed with ⟨rfl,rfl,rfl⟩ | ⟨rfl,rfl,rfl⟩ | ⟨rfl,rfl,rfl⟩ | ⟨rfl,rfl,rfl⟩ <;> exact ⟨by decide,rfl⟩
  refine wpDispatch command.1 command.2 (fun changed e t declined => refused (.inl changed) e t declined.1) fun unchanged => ?_
  cases dataOut with
  | true => exact wpWrite unchanged refused
  | false => exact wpRead unchanged refused (failed rfl)

end
end Tape
end Scsi2Pi
