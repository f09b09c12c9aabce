import Scsi2Pi.DeviceContract
import Scsi2Pi.Schedule
import Scsi2Pi.Trace

/-! The protocol of linked commands, as a bus analyzer checks it: the message
after a status byte and the phase after this message. -/
namespace Scsi2Pi
namespace LinkedCommands
open Controller Slices MemoryUtil Derives

inductive Stage where
  | idle
  | status (code : UInt8)
  | message (code : UInt8)
  | violated
  deriving DecidableEq, Repr

structure Watcher where
  flag : Bool := false
  stage : Stage := .idle
  deriving DecidableEq, Repr

/- The message that has to follow a status byte. -/
def dueMessage (code : UInt8) (flag : Bool) : UInt8 :=
  if code = StatusCode.intermediate.code then
    if flag then MessageCode.linkedCommandCompleteWithFlag else MessageCode.linkedCommandComplete
  else MessageCode.commandComplete

/- A chain goes on with COMMAND after INTERMEDIATE only. A message byte that the
initiator does not take ends the command with a reset. -/
def advance (flag : Bool) : Stage → Event → Stage
  | .violated, _ => .violated
  | _, .reset => .idle
  | .idle, .sent .status [code] => .status code
  | .status code, .sent .msgIn [message] => if message = dueMessage code flag then .message code else .violated
  | .status _, .sent .msgIn [] => .idle
  | .status _, .sent _ _ => .violated
  | .status _, .entered .command => .violated
  | .status _, .entered .busFree => .violated
  | .message code, .entered .command => if code = StatusCode.intermediate.code then .idle else .violated
  | .message code, .entered .busFree => if code = StatusCode.intermediate.code then .violated else .idle
  | .message _, .sent _ _ => .violated
  | stage, _ => stage

/- The FLAG bit is that of the last CDB. -/
def observe (w : Watcher) (e : Event) : Watcher :=
  { flag := match e with
      | .fetched _ cdb => (byteAt cdb (cdb.length - 1)).testBit 1
      | _ => w.flag
    stage := advance w.flag w.stage e }

variable {δ : Type}

def watch (c : Controller δ) : Watcher := c.trace.foldl observe {}

/- A linked command may only report its status byte if it succeeded. -/
def Careful (c : Controller δ) : Controller.Action → Prop
  | .select _ => True
  | .process _ => c.phase = .status → c.transfer.currentLength ≠ 0 → c.linked = true → c.transfer.status = .good

instance (c : Controller δ) : (a : Controller.Action) → Decidable (Careful c a)
  | .select _ => inferInstanceAs (Decidable True)
  | .process _ => inferInstanceAs (Decidable (_ → _ → _ → _))

/- The device commands leave the status codes of linked commands to the controller. -/
def Proper (s : HandlerState δ) : Prop := s.transfer.status ≠ .intermediate

/-! The watcher along the functions of the controller. -/

section
variable {c d : Controller δ}

theorem notAsserted {line : Bool} {P : Prop} (released : line = false) (asserted : line = true) : P :=
  absurd (released.symm.trans asserted) (by decide)

theorem watchLogged {e : Event} (logged : d.trace = c.trace ++ [e]) : watch d = observe (watch c) e := by
  rw [watch,logged,List.foldl_append]
  rfl

theorem watchSame (same : d.trace = c.trace) : watch d = watch c := by rw [watch,same,watch]

@[simp] theorem observeFailed (w : Watcher) (a : Assertion) : observe w (.failed a) = w := by
  cases w with
  | mk flag stage => cases stage <;> rfl

@[simp] theorem watchCheck (holds : Bool) (a : Assertion) : watch (c.check holds a) = watch c := by
  cases holds with
  | true => exact watchSame (List.append_nil _)
  | false => exact (watchLogged rfl).trans (observeFailed _ a)

/- No status byte is under way. -/
structure Idle (c : Controller δ) : Prop where
  flag : c.linked = true → (watch c).flag = c.flag
  proper : c.transfer.status ≠ .intermediate
  stage : (watch c).stage = .idle

/- A status byte is under way, and tells whether the chain goes on. -/
def Underway (c : Controller δ) (stage : UInt8 → Stage) : Prop :=
  (watch c).stage = .idle ∨
    ∃ code, (watch c).stage = stage code ∧ (code = StatusCode.intermediate.code ↔ c.linked = true)

/- What is to be sent next, and what has been sent. -/
def Sending (c : Controller δ) : Prop :=
  match c.phase with
  | .status =>
    if c.transfer.currentLength = 0 then Underway c .status
    else c.transfer.currentLength = 1 ∧ c.offset = 0 ∧
      c.transfer.buffer.head? = some c.statusByte ∧ (watch c).stage = .idle
  | .msgIn =>
    if c.transfer.currentLength = 0 then Underway c .message
    else c.transfer.currentLength = 1 ∧ c.offset = 0 ∧
      c.transfer.buffer.head? = some c.endMessage ∧ Underway c .status
  | _ => (watch c).stage = .idle

structure Inv (c : Controller δ) : Prop where
  flag : c.linked = true → (watch c).flag = c.flag
  proper : c.transfer.status ≠ .intermediate
  atnMsg : c.atnMsg = true → c.phase = .msgOut
  sending : Sending c

theorem Inv.notViolated (h : Inv c) : (watch c).stage ≠ .violated := by
  have sending := h.sending
  have underway : ∀ {stage : UInt8 → Stage}, (∀ code, stage code ≠ .violated) → Underway c stage →
      (watch c).stage ≠ .violated := by
    intro stage other h
    rcases h with idle | ⟨code,at_,_⟩
    · rw [idle]
      decide
    · rw [at_]
      exact other code
  unfold Sending at sending
  split at sending
  · split at sending
    · exact underway (by simp) sending
    · rw [sending.2.2.2]
      decide
  · split at sending
    · exact underway (by simp) sending
    · exact underway (by simp) sending.2.2.2
  · rw [sending]
    decide

/-! Functions that leave the watcher idle. -/

@[simp] theorem advanceEntered (flag : Bool) (p : BusPhase) : advance flag .idle (.entered p) = .idle := rfl

/- Only the trace, the link flags and the status count. -/
theorem Idle.keeps (h : Idle c) (trace : d.trace = c.trace) (linked : d.linked = c.linked)
    (flag : d.flag = c.flag) (proper : d.transfer.status ≠ .intermediate) : Idle d :=
  ⟨by rw [linked,flag,watchSame trace]; exact h.flag,proper,by rw [watchSame trace]; exact h.stage⟩

theorem Idle.logged (h : Idle c) {e : Event} (logged : d.trace = c.trace ++ [e])
    (unfetched : (observe (watch c) e).flag = (watch c).flag) (quiet : advance (watch c).flag .idle e = .idle)
    (linked : d.linked = c.linked) (flag : d.flag = c.flag) (proper : d.transfer.status ≠ .intermediate) : Idle d := by
  refine ⟨?_,proper,?_⟩
  · rw [linked,flag,watchLogged logged,unfetched]
    exact h.flag
  · rw [watchLogged logged]
    simp only [observe,h.stage,quiet]

theorem Idle.entered (h : Idle c) {p : BusPhase} (logged : d.trace = c.trace ++ [.entered p])
    (linked : d.linked = c.linked) (flag : d.flag = c.flag) (proper : d.transfer.status ≠ .intermediate) : Idle d :=
  h.logged logged rfl rfl linked flag proper

/- Where nothing is to be sent, an idle watcher is enough. -/
theorem Idle.inv (h : Idle c) (status : c.phase ≠ .status) (msgIn : c.phase ≠ .msgIn)
    (atnMsg : c.atnMsg = true → c.phase = .msgOut) : Inv c := by
  refine ⟨h.flag,h.proper,atnMsg,?_⟩
  unfold Sending
  split
  · next at_ => exact absurd at_ status
  · next at_ => exact absurd at_ msgIn
  · exact h.stage

theorem Idle.check (h : Idle c) (holds : Bool) (a : Assertion) : Idle (c.check holds a) :=
  ⟨by rw [watchCheck]; exact h.flag,h.proper,by rw [watchCheck]; exact h.stage⟩

theorem Idle.updateTransferLength (h : Idle c) (length : Int) : Idle (c.updateTransferLength length) :=
  (h.check (decide (0 ≤ c.transfer.remainingLength - length)) .remainingLength).keeps rfl rfl rfl h.proper

theorem Idle.busFree (h : Idle c) : Idle c.busFree := by
  unfold Controller.busFree
  split
  · exact h.entered rfl rfl rfl (by simp [enterBusFree,Controller.setStatus])
  · split
    · exact h.entered rfl rfl rfl h.proper
    · exact h

theorem Idle.invBusFree (h : Idle c) (atnMsg : c.atnMsg = true → c.phase ≠ .busFree) : Inv c.busFree := by
  have idle := h.busFree
  by_cases free : c.phase = .busFree
  · have entered : c.busFree.phase = .busFree ∨ c.busFree.phase = .selection := by
      simp only [Controller.busFree,free,ne_eq,not_true,if_false]
      split
      · exact .inr rfl
      · exact .inl free
    have atn : c.busFree.atnMsg = c.atnMsg := by
      simp only [Controller.busFree,free,ne_eq,not_true,if_false]
      split <;> rfl
    refine idle.inv ?_ ?_ (fun asserted => absurd free (atnMsg (atn ▸ asserted)))
    · rcases entered with at_ | at_ <;> rw [at_] <;> decide
    · rcases entered with at_ | at_ <;> rw [at_] <;> decide
  · have entered : c.busFree = c.enterBusFree := by simp [Controller.busFree,free]
    rw [entered] at idle ⊢
    exact idle.inv (by simp [enterBusFree,setPhase,log,Controller.setStatus])
      (by simp [enterBusFree,setPhase,log,Controller.setStatus]) (by simp [enterBusFree])

theorem Idle.enterStatus (h : Idle c) (atnMsg : c.atnMsg = false) : Inv c.enterStatus := by
  have idle : Idle c.enterStatus := h.entered rfl rfl rfl h.proper
  exact ⟨idle.flag,idle.proper,notAsserted atnMsg,
    rfl,rfl,setFirstByte _ _,idle.stage⟩

theorem Idle.enterMsgIn (h : Idle c) (atnMsg : c.atnMsg = false) :
    Inv ((((c.setCurrentLength 1).setTransferSize 1 1).setBufferByte c.endMessage).enterMsgIn) := by
  have idle : Idle ((((c.setCurrentLength 1).setTransferSize 1 1).setBufferByte c.endMessage).enterMsgIn) :=
    h.entered rfl rfl rfl h.proper
  exact ⟨idle.flag,idle.proper,notAsserted atnMsg,
    rfl,rfl,setFirstByte _ _,.inl idle.stage⟩

/-! The bytes that are sent in STATUS and MESSAGE IN. -/

theorem Inv.released (h : Inv c) (other : c.phase ≠ .msgOut) : c.atnMsg = false := by
  cases asserted : c.atnMsg with
  | false => rfl
  | true => exact absurd (h.atnMsg asserted) other

theorem Inv.idle (h : Inv c) (status : c.phase ≠ .status) (msgIn : c.phase ≠ .msgIn) : Idle c := by
  refine ⟨h.flag,h.proper,?_⟩
  have sending := h.sending
  unfold Sending at sending
  split at sending
  · next at_ => exact absurd at_ status
  · next at_ => exact absurd at_ msgIn
  · exact sending

theorem Inv.check (h : Inv c) (holds : Bool) (a : Assertion) : Inv (c.check holds a) := by
  refine ⟨by rw [watchCheck]; exact h.flag,h.proper,h.atnMsg,?_⟩
  have sending := h.sending
  unfold Sending Underway at sending ⊢
  rw [watchCheck]
  exact sending

/- A byte that is not taken ends the command with a reset. -/
theorem acceptedOne (i : Input) : i.accepted 1 = 0 ∨ i.accepted 1 = 1 := by
  unfold Input.accepted
  have : min (i.taken.getD (1 : Int).toNat) (1 : Int).toNat ≤ 1 := Nat.min_le_right _ _
  omega

theorem sliceFirst {buf : Bytes} {b : UInt8} (first : buf.head? = some b) : slice buf 0 1 = [b] := by
  cases buf with
  | nil => simp at first
  | cons x rest =>
    cases Option.some.inj first
    rfl

/- The status byte tells whether the chain goes on. -/
theorem statusByteLinked (proper : c.transfer.status ≠ .intermediate)
    (careful : c.linked = true → c.transfer.status = .good) :
    c.statusByte = StatusCode.intermediate.code ↔ c.linked = true := by
  unfold statusByte
  cases linked : c.linked with
  | false =>
    simp only [Bool.false_and,Bool.false_eq_true,if_false,iff_false]
    exact fun same => proper (statusCodeInjective same)
  | true => simp [careful linked]

theorem endMessageDue {code : UInt8} (flag : c.linked = true → (watch c).flag = c.flag)
    (linked : code = StatusCode.intermediate.code ↔ c.linked = true) :
    c.endMessage = dueMessage code (watch c).flag := by
  unfold endMessage dueMessage
  by_cases on : c.linked = true
  · rw [if_pos on,if_pos (linked.mpr on),flag on]
  · rw [if_neg on,if_neg (fun same => on (linked.mp same))]

theorem Inv.updateTransferLength (h : Inv c) (sent : c.transfer.currentLength = 0) (length : Int) :
    Inv (c.updateTransferLength length) := by
  obtain ⟨flag,proper,atnMsg,sending⟩ := h.check (decide (0 ≤ c.transfer.remainingLength - length)) .remainingLength
  refine ⟨flag,proper,atnMsg,?_⟩
  unfold Sending at sending ⊢
  have still : (c.updateTransferLength length).transfer.currentLength = 0 := sent
  have before : (c.check (decide (0 ≤ c.transfer.remainingLength - length)) .remainingLength).transfer.currentLength = 0 :=
    sent
  rw [if_pos before,if_pos before] at sending
  rw [if_pos still,if_pos still]
  exact sending

/- After the status byte comes MESSAGE IN. -/
theorem Inv.statusSent (h : Inv c) (phase : c.phase = .status) (sent : c.transfer.currentLength = 0)
    (host message : Controller δ → Controller δ) : Inv (c.chunkSent host message) := by
  have updated := h.updateTransferLength sent c.transfer.chunkSize
  have still : (c.updateTransferLength c.transfer.chunkSize).transfer.currentLength = 0 := sent
  have at_ : (c.updateTransferLength c.transfer.chunkSize).phase = .status := phase
  unfold chunkSent
  generalize c.updateTransferLength c.transfer.chunkSize = c at *
  dsimp only
  split
  · rw [if_neg (by rw [at_]; decide)]
    exact updated
  · rw [at_]
    dsimp only
    have sending := updated.sending
    unfold Sending at sending
    rw [at_] at sending
    simp only [if_pos still] at sending
    refine ⟨?_,updated.proper,notAsserted (updated.released (by rw [at_]; decide)),
      rfl,rfl,setFirstByte _ _,?_⟩
    · intro linked
      rw [watchLogged (c := c) rfl]
      exact updated.flag linked
    · unfold Underway
      rw [watchLogged (c := c) rfl]
      rcases sending with idle | ⟨code,sent,linked⟩
      · exact .inl (by simp [observe,idle])
      · exact .inr ⟨code,by simp only [observe,sent]; rfl,linked⟩

/- A handler changes its device, the transfer data and the files only. -/
theorem Idle.runHandler {α : Type} (h : Idle c) {handler : Handler δ α} (keeps : handler.Keeps Proper)
    (env : Env) (lun : Nat) (dev : δ) : Idle (c.runHandler env lun dev handler).2 :=
  h.keeps rfl rfl rfl (keeps _ _ h.proper)

/- The FLAG bit of the CDB is the one the bus analyzer has seen. -/
theorem Idle.storeCdb (h : Idle c) {buf : Bytes} (filled : buf ≠ []) : Idle (c.storeCdb buf) := by
  have control : byteAt (setBytes c.cdb 0 buf) (buf.length - 1) = byteAt buf (buf.length - 1) := by
    have inside : buf.length - 1 < buf.length := Nat.sub_lt (List.length_pos_of_ne_nil filled) Nat.one_pos
    simp only [byteAt,setBytes,overwrite,List.take_zero,Nat.zero_sub,List.replicate_zero,List.nil_append,
      List.getD_eq_getElem?_getD,List.getElem?_append_left inside]
  have seen : watch (c.storeCdb buf) =
      { flag := (byteAt buf (buf.length - 1)).testBit 1, stage := .idle } := by
    rw [watchLogged (c := c) rfl]
    simp only [observe,h.stage]
    rfl
  refine ⟨fun _ => ?_,h.proper,by rw [seen]⟩
  rw [seen,← control]
  rfl

theorem handShakeBytes (bytes : Bytes) (received : 0 < (commandHandShake bytes).2) :
    (commandHandShake bytes).1 ≠ [] := by
  unfold commandHandShake at received ⊢
  cases bytes : skipIcdPrefix bytes with
  | nil => simp [bytes] at received
  | cons opcode rest =>
    rw [bytes] at received
    dsimp only at received ⊢
    by_cases unknown : CommandMetaData.getByteCount opcode = 0
    · simp [unknown] at received
    · by_cases short : (opcode::rest).length < CommandMetaData.getByteCount opcode
      · simp only [if_neg unknown,if_pos short] at received
        exact absurd received (by decide)
      · simp only [if_neg unknown,if_neg short]
        simp [List.take_eq_nil_iff,unknown]

/-! Functions that report an error or send a byte. -/

variable [Derives δ PrimaryDevice]

theorem Idle.error (h : Idle c) (atnMsg : c.atnMsg = true → c.lines.rst = true ∧ c.phase ≠ .busFree)
    (s : SenseKey) (a : Asc) {status : StatusCode} (proper : status ≠ .intermediate) : Inv (c.error s a status) := by
  unfold Controller.error
  split
  · exact h.invBusFree fun asserted => (atnMsg asserted).2
  · next running =>
    have released : c.atnMsg = false := by
      cases asserted : c.atnMsg with
      | false => rfl
      | true => exact absurd (by simp [(atnMsg asserted).1]) running
    dsimp only
    split
    · exact Idle.enterStatus (h.keeps rfl rfl rfl proper) released
    · exact Idle.enterStatus (h.keeps rfl rfl rfl proper) released

theorem Idle.modifyBase (h : Idle c) (lun : Nat) (f : PrimaryDevice → PrimaryDevice) : Idle (c.modifyBase lun f) :=
  h.keeps rfl rfl rfl h.proper

theorem Idle.raiseDeferredError (h : Idle c) (atnMsg : c.atnMsg = false) (s : SenseKey) (a : Asc) :
    Inv (c.raiseDeferredError s a) :=
  Idle.error (c := { c with deferredSenseKey := s, deferredAsc := a }) (h.keeps rfl rfl rfl h.proper)
    (notAsserted atnMsg) s a (by decide)

/- A single byte of the buffer is sent: it is taken, or the bus is reset. -/
theorem sendsByte {b : UInt8} (length : c.transfer.currentLength = 1) (offset : c.offset = 0)
    (first : c.transfer.buffer.head? = some b) (i : Input) :
    c.sendBytes i = (c.log (.sent c.phase [])).setRst.error .abortedCommand .dataPhaseError ∨
      c.sendBytes i = (c.log (.sent c.phase [b])).updateOffsetAndLength := by
  unfold sendBytes
  simp only [length,offset]
  rcases acceptedOne i with none | one
  · left
    rw [none]
    simp [slice]
  · right
    rw [one,show (0 : Int).toNat = 0 from rfl,sliceFirst first]
    simp

theorem Inv.sendStatus (h : Inv c) (phase : c.phase = .status)
    (careful : c.transfer.currentLength ≠ 0 → c.linked = true → c.transfer.status = .good)
    (waiting : c.transfer.currentLength ≠ 0) (i : Input) : Inv (c.sendBytes i) := by
  have sending := h.sending
  unfold Sending at sending
  rw [phase] at sending
  simp only [if_neg waiting] at sending
  obtain ⟨length,offset,first,idle⟩ := sending
  have released := h.released (by rw [phase]; decide)
  have start : Idle c := ⟨h.flag,h.proper,idle⟩
  rcases sendsByte length offset first i with failed | sent
  · rw [failed]
    have idle : Idle (c.log (.sent c.phase [])) :=
      start.logged rfl rfl (by rw [phase]; rfl) rfl rfl h.proper
    exact Idle.error (c := (c.log (.sent c.phase [])).setRst) (idle.keeps rfl rfl rfl h.proper)
      (notAsserted released) _ _ (by decide)
  · rw [sent]
    have seen : watch ((c.log (.sent c.phase [c.statusByte])).updateOffsetAndLength) =
        { flag := (watch c).flag, stage := .status c.statusByte } := by
      rw [watchLogged (c := c) rfl,phase]
      simp only [observe,idle]
      rfl
    refine ⟨by rw [seen]; exact h.flag,h.proper,
      notAsserted released,?_⟩
    unfold Sending
    rw [show ((c.log (.sent c.phase [c.statusByte])).updateOffsetAndLength).phase = .status from phase]
    refine .inr ⟨c.statusByte,by rw [seen],statusByteLinked h.proper (careful waiting)⟩

/- The message agrees with the status byte before it. -/
theorem Inv.sendMsgIn (h : Inv c) (phase : c.phase = .msgIn) (waiting : c.transfer.currentLength ≠ 0)
    (i : Input) : Inv (c.sendBytes i) := by
  have sending := h.sending
  unfold Sending at sending
  rw [phase] at sending
  simp only [if_neg waiting] at sending
  obtain ⟨length,offset,first,underway⟩ := sending
  have released := h.released (by rw [phase]; decide)
  rcases sendsByte length offset first i with failed | sent
  · rw [failed]
    have stage : (watch (c.log (.sent c.phase []))).stage = .idle := by
      rw [watchLogged (c := c) rfl,phase]
      rcases underway with idle | ⟨code,at_,_⟩
      · simp only [observe,idle]
        rfl
      · simp only [observe,at_]
        rfl
    have idle : Idle (c.log (.sent c.phase [])).setRst :=
      ⟨by rw [watchSame traceSetRst,watchLogged (c := c) rfl]; exact h.flag,h.proper,stage⟩
    exact Idle.error idle (notAsserted released) _ _ (by decide)
  · rw [sent]
    have seen : watch ((c.log (.sent c.phase [c.endMessage])).updateOffsetAndLength) =
        observe (watch c) (.sent .msgIn [c.endMessage]) := by
      rw [← phase]
      exact watchLogged rfl
    refine ⟨by rw [seen]; exact h.flag,h.proper,
      notAsserted released,?_⟩
    unfold Sending
    rw [show ((c.log (.sent c.phase [c.endMessage])).updateOffsetAndLength).phase = .msgIn from phase]
    change Underway ((c.log (.sent c.phase [c.endMessage])).updateOffsetAndLength) .message
    unfold Underway
    rw [seen]
    rcases underway with idle | ⟨code,at_,linked⟩
    · exact .inl (by simp only [observe,idle]; rfl)
    · refine .inr ⟨code,?_,linked⟩
      simp only [observe,at_]
      exact if_pos (endMessageDue h.flag linked)

/- In DATA IN the watcher stays idle. -/
theorem Inv.sendDataIn (h : Inv c) (phase : c.phase = .dataIn) (i : Input) : Inv (c.sendBytes i) := by
  have idle := h.idle (by rw [phase]; decide) (by rw [phase]; decide)
  have released := h.released (by rw [phase]; decide)
  unfold sendBytes
  dsimp only
  generalize slice _ _ _ = bytes
  have sent : Idle (c.log (.sent c.phase bytes)) :=
    idle.logged rfl rfl (by rw [phase]; rfl) rfl rfl h.proper
  split
  · exact Idle.error (c := (c.log (.sent c.phase bytes)).setRst) (sent.keeps rfl rfl rfl sent.proper)
      (notAsserted released) _ _ (by decide)
  · exact Idle.inv (c := (c.log (.sent c.phase bytes)).updateOffsetAndLength) (sent.keeps rfl rfl rfl sent.proper)
      (by change c.phase ≠ _; rw [phase]; decide) (by change c.phase ≠ _; rw [phase]; decide) (notAsserted released)

/-! The functions that Command and the transfers end with. -/

theorem Idle.status (h : Idle c) (atnMsg : c.atnMsg = false) (done : c.phase = .status → c.transfer.currentLength = 0)
    (i : Input) : Inv (c.status i) := by
  unfold Controller.status
  split
  · next at_ =>
    have inv : Inv c := by
      refine ⟨h.flag,h.proper,notAsserted atnMsg,?_⟩
      unfold Sending
      rw [at_]
      simp only [if_pos (done at_)]
      exact .inl h.stage
    have checked : Inv c.checkSend := (inv.check _ _).check _ _
    unfold sendWith
    dsimp only
    rw [if_neg (not_not.mpr (show c.checkSend.transfer.currentLength = 0 from done at_))]
    exact checked.statusSent at_ (done at_) id id
  · exact h.enterStatus atnMsg

theorem Idle.startDataIn (h : Idle c) (atnMsg : c.atnMsg = false) (i : Input) : Inv (c.startDataIn i) := by
  unfold Controller.startDataIn
  split
  · next nothing => exact h.status atnMsg (fun _ => nothing) i
  · exact (Idle.entered (d := c.enterDataIn) h rfl rfl rfl h.proper).inv
      (show BusPhase.dataIn ≠ .status by decide) (show BusPhase.dataIn ≠ .msgIn by decide) (notAsserted atnMsg)

theorem Idle.startDataOut (h : Idle c) (atnMsg : c.atnMsg = false) (i : Input) : Inv (c.startDataOut i) := by
  unfold Controller.startDataOut
  split
  · next nothing => exact h.status atnMsg (fun _ => nothing) i
  · have sized : Idle (if c.transfer.currentLength = -1 then c.setCurrentLength 0 else c) := by
      split
      · exact h.keeps rfl rfl rfl h.proper
      · exact h
    have released : (if c.transfer.currentLength = -1 then c.setCurrentLength 0 else c).atnMsg = false := by
      split <;> exact atnMsg
    generalize (if c.transfer.currentLength = -1 then c.setCurrentLength 0 else c) = c at *
    exact (Idle.entered (d := ((c.setPhase .dataOut).setLines false false false).resetOffset) sized rfl rfl rfl
      sized.proper).inv (show BusPhase.dataOut ≠ .status by decide) (show BusPhase.dataOut ≠ .msgIn by decide) (notAsserted released)

theorem Idle.callPhase (h : Idle c) (atnMsg : c.atnMsg = false) (other : c.phase ≠ .status) (i : Input)
    (call : PhaseCall) : Inv (c.callPhase i call) := by
  cases call with
  | status => exact h.status atnMsg (fun at_ => absurd at_ other) i
  | dataIn length => exact Idle.startDataIn (c := c.setCurrentLength length) (h.keeps rfl rfl rfl h.proper) atnMsg i
  | dataOut length => exact Idle.startDataOut (c := c.setCurrentLength length) (h.keeps rfl rfl rfl h.proper) atnMsg i
  | errorThenDataIn length =>
    exact Idle.startDataIn (c := (((c.setPhase .status).setLines false true true).resetOffset).setCurrentLength length)
      (h.entered rfl rfl rfl h.proper) atnMsg i

variable {m : Methods δ} (keeps : m.Keeps Proper)

include keeps

theorem Idle.dispatchTo (h : Idle c) (atnMsg : c.atnMsg = false) (other : c.phase ≠ .status) (i : Input)
    (lun : Nat) (dev : δ) : Inv (c.dispatchTo m i lun dev) := by
  unfold Controller.dispatchTo
  split
  · have idle := h.runHandler (keeps.dispatch c.opcode) i.env lun dev
    have released : (c.runHandler i.env lun dev (m.dispatch c.opcode)).2.atnMsg = false := atnMsg
    have still : (c.runHandler i.env lun dev (m.dispatch c.opcode)).2.phase ≠ .status := other
    cases ran : c.runHandler i.env lun dev (m.dispatch c.opcode) with
    | mk result c' =>
      rw [ran] at idle released still
      cases result with
      | ok call => exact idle.callPhase released still i call
      | error e =>
        exact idle.error (notAsserted released) _ _ (by decide)
  · exact h.error (notAsserted atnMsg) _ _ (by decide)

theorem Idle.execute (h : Idle c) (atnMsg : c.atnMsg = false) (phase : c.phase = .command) (i : Input) :
    Inv (c.execute m i) := by
  unfold Controller.execute
  have start : Idle (((c.setCurrentLength 0).resetOffset).setTransferSize 0 0) := h.keeps rfl rfl rfl h.proper
  have released : (((c.setCurrentLength 0).resetOffset).setTransferSize 0 0).atnMsg = false := atnMsg
  have at_ : (((c.setCurrentLength 0).resetOffset).setTransferSize 0 0).phase = .command := phase
  generalize ((c.setCurrentLength 0).resetOffset).setTransferSize 0 0 = c at *
  dsimp only
  split
  · exact start.error (notAsserted released) _ _ (by decide)
  · generalize (if (c.luns c.getEffectiveLun).isNone then 0 else c.getEffectiveLun) = lun
    have cleared : Idle (c.discardSense lun) := by
      unfold discardSense
      split
      · exact start.keeps rfl rfl rfl (by simp [Controller.modifyBase,modifyLun,Controller.setStatus])
      · exact start
    have released : (c.discardSense lun).atnMsg = false := by
      unfold discardSense
      split <;> exact released
    have at_ : (c.discardSense lun).phase = .command := by
      unfold discardSense
      split <;> exact at_
    split
    · exact cleared.inv (by rw [at_]; decide) (by rw [at_]; decide)
        (notAsserted released)
    · exact Idle.dispatchTo keeps cleared released (by rw [at_]; decide) i lun _

theorem Idle.acceptCdb (h : Idle c) (atnMsg : c.atnMsg = false) (phase : c.phase = .command) (i : Input)
    {buf : Bytes} (filled : buf ≠ []) : Inv (c.acceptCdb m i buf) := by
  have stored := h.storeCdb filled
  have released : (c.storeCdb buf).atnMsg = false := atnMsg
  have at_ : (c.storeCdb buf).phase = .command := phase
  unfold Controller.acceptCdb
  generalize c.storeCdb buf = c at *
  dsimp only
  split
  · exact stored.raiseDeferredError released _ _
  · split
    · unfold provideSenseData
      refine Idle.startDataIn (stored.keeps ?_ ?_ ?_ ?_) ?_ i
      · rfl
      · rfl
      · rfl
      · exact stored.proper
      · exact released
    · exact Idle.execute keeps (c := c.discardDeferredError) (stored.keeps rfl rfl rfl stored.proper) released at_ i

/- The chain goes on, or a command begins. -/
theorem Inv.command (flag : c.linked = true → (watch c).flag = c.flag) (proper : c.transfer.status ≠ .intermediate)
    (atnMsg : c.atnMsg = false) (other : c.phase ≠ .command)
    (goesOn : advance (watch c).flag (watch c).stage (.entered .command) = .idle) (i : Input) :
    Inv (c.command m i) := by
  unfold Controller.command
  rw [if_neg other]
  have filled := handShakeBytes i.bytes
  generalize commandHandShake i.bytes = shaken at filled
  obtain ⟨buf,count⟩ := shaken
  dsimp only at filled ⊢
  have entered : Idle (c.enterCommand buf) := by
    refine ⟨?_,proper,?_⟩
    · rw [watchLogged (c := c) rfl]
      exact flag
    · rw [watchLogged (c := c) rfl]
      exact goesOn
  have released : (c.enterCommand buf).atnMsg = false := atnMsg
  have at_ : (c.enterCommand buf).phase = .command := rfl
  generalize c.enterCommand buf = c at *
  split
  · exact entered.raiseDeferredError released _ _
  · next known =>
    split
    · exact Idle.raiseDeferredError (c := c.setRst) (entered.keeps rfl rfl rfl entered.proper) released _ _
    · next short => exact Idle.acceptCdb keeps entered released at_ i (filled (by omega))

theorem Inv.endOfMessage (h : Inv c) (phase : c.phase = .msgIn) (sent : c.transfer.currentLength = 0) (i : Input) :
    Inv (c.processEndOfMessage m i) := by
  have sending := h.sending
  unfold Sending at sending
  rw [phase] at sending
  simp only [if_pos sent] at sending
  have released := h.released (by rw [phase]; decide)
  unfold processEndOfMessage
  rw [released,Bool.false_or]
  split
  · next linked =>
    refine Inv.command keeps (c := c.resetFlags) (by simp [resetFlags]) h.proper rfl
      (by rw [show c.resetFlags.phase = c.phase from rfl,phase]; decide) ?_ i
    rw [watchSame traceResetFlags]
    rcases sending with idle | ⟨code,at_,goesOn⟩
    · rw [idle]
      rfl
    · rw [at_]
      exact if_pos (goesOn.mpr linked)
  · next alone =>
    have entered : c.busFree = c.enterBusFree := by simp [Controller.busFree,phase]
    rw [entered]
    have idle : Idle c.enterBusFree := by
      refine ⟨fun linked => absurd linked alone,by simp [enterBusFree,Controller.setStatus],?_⟩
      rw [watchLogged (c := c) rfl]
      rcases sending with idle | ⟨code,at_,goesOn⟩
      · simp [observe,idle]
      · simp only [observe,at_]
        exact if_neg fun same => alone (goesOn.mp same)
    exact idle.inv (show BusPhase.busFree ≠ .status by decide) (show BusPhase.busFree ≠ .msgIn by decide)
      (notAsserted rfl)

theorem Inv.transferToHost (h : Inv c) (phase : c.phase = .dataIn) (i : Input) : Inv (c.transferToHost m i) := by
  have checked := h.check (!c.hasDataOut) .dataInCommand
  have at_ : (c.check (!c.hasDataOut) .dataInCommand).phase = .dataIn := phase
  unfold Controller.transferToHost
  generalize c.check (!c.hasDataOut) .dataInCommand = c at *
  have idle := checked.idle (by rw [at_]; decide) (by rw [at_]; decide)
  have released := checked.released (by rw [at_]; decide)
  dsimp only
  split
  · exact checked
  · next dev _ =>
    have ended := idle.runHandler keeps.readData i.env c.getEffectiveLun dev
    have still : (c.runHandler i.env c.getEffectiveLun dev m.readData).2.phase = .dataIn := at_
    have released : (c.runHandler i.env c.getEffectiveLun dev m.readData).2.atnMsg = false := released
    cases ran : c.runHandler i.env c.getEffectiveLun dev m.readData with
    | mk result c' =>
      rw [ran] at ended still released
      cases result with
      | ok _ =>
        dsimp only
        split
        · exact Idle.inv (ended.keeps rfl rfl rfl ended.proper) (by change c'.phase ≠ _; rw [still]; decide)
            (by change c'.phase ≠ _; rw [still]; decide) (notAsserted released)
        · exact ended.inv (by rw [still]; decide) (by rw [still]; decide) (notAsserted released)
      | error e => exact ended.error (notAsserted released) _ _ (by decide)

theorem Inv.dataInSent (h : Inv c) (phase : c.phase = .dataIn) (sent : c.transfer.currentLength = 0) (i : Input) :
    Inv (c.chunkSent (Controller.transferToHost m · i) (processEndOfMessage m · i)) := by
  have updated := h.updateTransferLength sent c.transfer.chunkSize
  have at_ : (c.updateTransferLength c.transfer.chunkSize).phase = .dataIn := phase
  unfold chunkSent
  generalize c.updateTransferLength c.transfer.chunkSize = c at *
  dsimp only
  split
  · exact Inv.transferToHost keeps updated at_ i
  · rw [at_]
    exact (updated.idle (by rw [at_]; decide) (by rw [at_]; decide)).enterStatus
      (updated.released (by rw [at_]; decide))

theorem Inv.msgInSent (h : Inv c) (phase : c.phase = .msgIn) (sent : c.transfer.currentLength = 0) (i : Input) :
    Inv (c.chunkSent (Controller.transferToHost m · i) (processEndOfMessage m · i)) := by
  have updated := h.updateTransferLength sent c.transfer.chunkSize
  have still : (c.updateTransferLength c.transfer.chunkSize).transfer.currentLength = 0 := sent
  have at_ : (c.updateTransferLength c.transfer.chunkSize).phase = .msgIn := phase
  unfold chunkSent
  generalize c.updateTransferLength c.transfer.chunkSize = c at *
  dsimp only
  split
  · rw [if_neg (by rw [at_]; decide)]
    exact updated
  · rw [at_]
    exact Inv.endOfMessage keeps updated at_ still i

theorem Inv.send (h : Inv c) (phase : c.phase = .status ∨ c.phase = .msgIn ∨ c.phase = .dataIn)
    (careful : c.phase = .status → c.transfer.currentLength ≠ 0 → c.linked = true → c.transfer.status = .good)
    (i : Input) : Inv (c.send m i) := by
  have checked : Inv c.checkSend := (h.check _ _).check _ _
  unfold Controller.send sendWith
  dsimp only
  by_cases waiting : c.checkSend.transfer.currentLength ≠ 0
  · rw [if_pos waiting]
    rcases phase with at_ | at_ | at_
    · exact checked.sendStatus at_ (careful at_) waiting i
    · exact checked.sendMsgIn at_ waiting i
    · exact checked.sendDataIn at_ i
  · rw [if_neg waiting]
    rcases phase with at_ | at_ | at_
    · exact checked.statusSent at_ (not_not.mp waiting) _ _
    · exact Inv.msgInSent keeps checked at_ (not_not.mp waiting) i
    · exact Inv.dataInSent keeps checked at_ (not_not.mp waiting) i

/-! Receiving. -/

theorem Inv.dataOutReceived (h : Inv c) (phase : c.phase = .dataOut) (i : Input) (length : Int) :
    let ended := c.transferFromHost m i length
    Inv ended.2 ∧ (ended.1 = true → ended.2.phase = .dataOut) := by
  have checked := h.check c.hasDataOut .dataOutCommand
  have at_ : (c.check c.hasDataOut .dataOutCommand).phase = .dataOut := phase
  unfold transferFromHost
  generalize c.check c.hasDataOut .dataOutCommand = c at *
  have idle := checked.idle (by rw [at_]; decide) (by rw [at_]; decide)
  have released := checked.released (by rw [at_]; decide)
  dsimp only
  split
  · exact ⟨checked,by simp⟩
  · next dev _ =>
    have parameters : (c.receiveParameters m dev length).Keeps Proper := by
      unfold receiveParameters
      split
      · intro r s proper
        have kept := keeps.modeSelect c.offset r s proper
        change Proper ((m.modeSelect c.offset >>= fun _ => pure length) r s).2
        simp only [bind]
        cases ran : m.modeSelect c.offset r s with
        | mk result s' =>
          rw [ran] at kept
          cases result <;> exact kept
      · exact keeps.writeData c.offset length
    have ended := idle.runHandler parameters i.env c.getEffectiveLun dev
    have still : (c.runHandler i.env c.getEffectiveLun dev (c.receiveParameters m dev length)).2.phase = .dataOut := at_
    have released : (c.runHandler i.env c.getEffectiveLun dev (c.receiveParameters m dev length)).2.atnMsg = false :=
      released
    cases ran : c.runHandler i.env c.getEffectiveLun dev (c.receiveParameters m dev length) with
    | mk result c' =>
      rw [ran] at ended still released
      cases result with
      | ok transferred =>
        have updated := ended.updateTransferLength transferred
        exact ⟨Idle.inv (c := ((c'.updateTransferLength transferred).setCurrentLength _).resetOffset)
          (updated.keeps rfl rfl rfl updated.proper) (by change c'.phase ≠ _; rw [still]; decide)
          (by change c'.phase ≠ _; rw [still]; decide) (notAsserted released),fun _ => still⟩
      | error e => exact ⟨ended.error (notAsserted released) _ _ (by decide),by simp⟩

omit keeps in
theorem Idle.receiveBytes (h : Idle c) (phase : c.phase = .dataOut ∨ c.phase = .msgOut)
    (atnMsg : c.atnMsg = true → c.phase = .msgOut) (i : Input) : Inv (c.receiveBytes i) := by
  unfold Controller.receiveBytes
  dsimp only
  generalize i.bytes.take _ = bytes
  have received : Idle { c.log (.received c.phase bytes) with
      transfer := { c.transfer with buffer := setBytes c.transfer.buffer c.offset.toNat bytes } } :=
    h.logged rfl rfl rfl rfl rfl h.proper
  have status : c.phase ≠ .status := by rcases phase with at_ | at_ <;> rw [at_] <;> decide
  have msgIn : c.phase ≠ .msgIn := by rcases phase with at_ | at_ <;> rw [at_] <;> decide
  have busy : c.phase ≠ .busFree := by rcases phase with at_ | at_ <;> rw [at_] <;> decide
  split
  · exact Idle.error (c := setRst { c.log (.received c.phase bytes) with
        transfer := { c.transfer with buffer := setBytes c.transfer.buffer c.offset.toNat bytes } })
      (received.keeps rfl rfl rfl received.proper) (fun _ => ⟨rfl,busy⟩) _ _ (by decide)
  · exact Idle.inv (c := updateOffsetAndLength { c.log (.received c.phase bytes) with
        transfer := { c.transfer with buffer := setBytes c.transfer.buffer c.offset.toNat bytes } })
      (received.keeps rfl rfl rfl received.proper) status msgIn atnMsg

omit keeps in
/- The messages of the initiator do not touch the chain. -/
theorem Idle.parseMessage (h : Idle c) (atnMsg : c.atnMsg = false) (phase : c.phase ≠ .command) (ext : Bool)
    (messages : Bytes) :
    Idle (c.parseMessage ext messages) ∧ (c.parseMessage ext messages).atnMsg = false ∧
      (c.parseMessage ext messages).phase ≠ .command := by
  have free : ∀ {c : Controller δ}, Idle c → c.atnMsg = false → c.phase ≠ .command →
      Idle c.busFree ∧ c.busFree.atnMsg = false ∧ c.busFree.phase ≠ .command := by
    intro c h atnMsg phase
    refine ⟨h.busFree,?_⟩
    unfold Controller.busFree
    split
    · exact ⟨rfl,show BusPhase.busFree ≠ .command by decide⟩
    · split
      · exact ⟨atnMsg,show BusPhase.selection ≠ .command by decide⟩
      · exact ⟨atnMsg,phase⟩
  induction messages generalizing c ext with
  | nil => cases ext <;> exact ⟨h,atnMsg,phase⟩
  | cons b rest ih =>
    cases ext with
    | true => exact ⟨h.entered rfl rfl rfl h.proper,atnMsg,show BusPhase.msgIn ≠ .command by decide⟩
    | false =>
      unfold Controller.parseMessage
      split
      · exact ih h atnMsg phase true
      · split
        · exact free h atnMsg phase
        · split
          · exact free (h.modifyBase _ _) atnMsg phase
          · split
            · exact ih (c := { c with identifiedLun := some (b &&& 0x1f).toNat })
                (h.keeps rfl rfl rfl h.proper) atnMsg phase false
            · exact ih h atnMsg phase false

theorem Idle.processMessage (h : Idle c) (phase : c.phase = .msgOut) (i : Input) : Inv (c.processMessage m i) := by
  unfold Controller.processMessage
  split
  · exact Idle.inv (c := ((c.resetOffset).setCurrentLength 1).setTransferSize 1 1) (h.keeps rfl rfl rfl h.proper)
      (by change c.phase ≠ _; rw [phase]; decide) (by change c.phase ≠ _; rw [phase]; decide) (fun _ => phase)
  · have parsed : Idle (if c.atnMsg then { c with atnMsg := false }.parseMessage false c.msgBytes else c) ∧
        (if c.atnMsg then { c with atnMsg := false }.parseMessage false c.msgBytes else c).atnMsg = false ∧
        (if c.atnMsg then { c with atnMsg := false }.parseMessage false c.msgBytes else c).phase ≠ .command := by
      split
      · exact Idle.parseMessage (c := { c with atnMsg := false }) (h.keeps rfl rfl rfl h.proper) rfl
          (by change c.phase ≠ _; rw [phase]; decide) false c.msgBytes
      · next released => exact ⟨h,by simpa using released,by rw [phase]; decide⟩
    obtain ⟨idle,released,other⟩ := parsed
    dsimp only
    refine Inv.command keeps idle.flag idle.proper released other ?_ i
    rw [idle.stage]
    rfl

theorem Inv.receive (h : Inv c) (phase : c.phase = .dataOut ∨ c.phase = .msgOut) (i : Input) : Inv (c.receive m i) := by
  have checked : Inv c.checkReceive := (h.check _ _).check _ _
  have at_ : c.checkReceive.phase = .dataOut ∨ c.checkReceive.phase = .msgOut := phase
  unfold Controller.receive
  generalize c.checkReceive = c at *
  have idle : Idle c := checked.idle (by rcases at_ with at_ | at_ <;> rw [at_] <;> decide)
    (by rcases at_ with at_ | at_ <;> rw [at_] <;> decide)
  dsimp only
  split
  · exact idle.receiveBytes at_ checked.atnMsg i
  · unfold chunkReceived
    dsimp only
    rcases at_ with at_ | at_
    · rw [at_]
      dsimp only
      obtain ⟨inv,still⟩ := Inv.dataOutReceived keeps checked at_ i (min c.transfer.chunkSize c.transfer.remainingLength)
      generalize c.transferFromHost m i (min c.transfer.chunkSize c.transfer.remainingLength) = ended at *
      obtain ⟨done,c'⟩ := ended
      dsimp only at inv still ⊢
      split
      · exact inv
      · next finished =>
        have at_ := still (by simpa using finished)
        split
        · exact (inv.check _ _).check _ _
        · exact (inv.idle (by rw [at_]; decide) (by rw [at_]; decide)).status
            (inv.released (by rw [at_]; decide)) (fun status => absurd (at_.symm.trans status) (by decide)) i
    · rw [at_]
      dsimp only
      have updated := idle.updateTransferLength (min c.transfer.chunkSize c.transfer.remainingLength)
      have taken : Idle (c.updateTransferLength (min c.transfer.chunkSize c.transfer.remainingLength)).xferMsg :=
        updated.keeps rfl rfl rfl updated.proper
      split
      · exact ((taken.inv (by change c.phase ≠ _; rw [at_]; decide) (by change c.phase ≠ _; rw [at_]; decide)
          (fun _ => at_)).check _ _).check _ _
      · exact Idle.processMessage keeps taken at_ i

/-! The steps of the target. -/

omit keeps in
theorem Inv.reset (h : Inv c) : Inv c.reset := by
  have stage : (watch c.reset).stage = .idle := by
    rw [watchLogged (c := c) rfl]
    simp only [observe]
    cases at_ : (watch c).stage with
    | violated => exact absurd at_ h.notViolated
    | idle => rfl
    | status code => rfl
    | message code => rfl
  exact Idle.inv ⟨by simp [Controller.reset,resetFlags],by simp [Controller.reset,resetFlags],stage⟩
    (show BusPhase.busFree ≠ .status by decide) (show BusPhase.busFree ≠ .msgIn by decide) (notAsserted rfl)

theorem Inv.selection (h : Inv c) (phase : c.phase = .selection) (i : Input) : Inv (c.selection m i) := by
  have idle := h.idle (by rw [phase]; decide) (by rw [phase]; decide)
  unfold Controller.selection
  split
  · split
    · unfold msgOut
      rw [if_neg (by rw [phase]; decide)]
      unfold enterMsgOut
      rw [if_pos phase]
      exact Idle.inv (idle.entered (p := .msgOut) rfl rfl rfl idle.proper) (show BusPhase.msgOut ≠ .status by decide)
        (show BusPhase.msgOut ≠ .msgIn by decide) (fun _ => rfl)
    · refine Inv.command keeps h.flag h.proper (h.released (by rw [phase]; decide)) (by rw [phase]; decide) ?_ i
      rw [idle.stage]
      rfl
  · exact h

theorem Inv.processPhase (h : Inv c)
    (careful : c.phase = .status → c.transfer.currentLength ≠ 0 → c.linked = true → c.transfer.status = .good)
    (i : Input) : Inv (c.processPhase m i) := by
  unfold Controller.processPhase
  have error : ∀ {p : BusPhase}, c.phase = p → p ≠ .status → p ≠ .msgIn → p ≠ .msgOut →
      Inv (c.error .abortedCommand .internalTargetFailure) := by
    intro p at_ status msgIn msgOut
    exact (h.idle (by rw [at_]; exact status) (by rw [at_]; exact msgIn)).error
      (notAsserted (h.released (by rw [at_]; exact msgOut))) _ _ (by decide)
  cases at_ : c.phase with
  | busFree =>
    exact (h.idle (by rw [at_]; decide) (by rw [at_]; decide)).invBusFree
      (notAsserted (h.released (by rw [at_]; decide)))
  | selection => exact Inv.selection keeps h at_ i
  | command => simpa [Controller.command,at_] using h
  | dataIn => exact Inv.send keeps h (.inr (.inr at_)) careful i
  | dataOut => exact Inv.receive keeps h (.inl at_) i
  | status => exact Inv.send keeps h (.inl at_) careful i
  | msgIn => exact Inv.send keeps h (.inr (.inl at_)) careful i
  | msgOut => exact Inv.receive keeps h (.inr at_) i
  | arbitration => exact error at_ (by decide) (by decide) (by decide)
  | reselection => exact error at_ (by decide) (by decide) (by decide)
  | reserved => exact error at_ (by decide) (by decide) (by decide)

theorem Inv.step (h : Inv c) (action : Action) (careful : Careful c action) : Inv (c.step m action) := by
  cases action with
  | select ids =>
    unfold Controller.step
    dsimp only
    split
    · exact ⟨h.flag,h.proper,h.atnMsg,h.sending⟩
    · exact h
  | process i =>
    have acquired : Inv (c.acquire i) := ⟨h.flag,h.proper,h.atnMsg,h.sending⟩
    change Inv (c.process m i)
    unfold process
    dsimp only
    split
    · exact acquired.reset
    · exact Inv.processPhase keeps acquired careful i

end

/-! The devices of all classes. -/

theorem afterProper {δ : Type} [Derives δ PrimaryDevice] {cmd : ScsiCommand} {s t : HandlerState δ} (after : Handler.After cmd s t)
    (proper : Proper s) : Proper t := by
  unfold Proper at *
  rcases after.status with same | good | check
  · rwa [same]
  · rw [good]
    decide
  · rw [check]
    decide

theorem keepsProper : AnyDevice.methods.Keeps Proper where
  dispatch cmd := Handler.keepsOfWp fun r s proper =>
    Eff.wpMono (AnyDevice.dispatchEnds cmd r s) (fun _ _ ended => afterProper ended.1.after proper) fun _ _ failed => afterProper failed.after proper
  readData := Handler.keepsOfWp fun r s proper =>
    Eff.wpMono (AnyDevice.readDataEnds r.opcode r s) (fun _ _ ended => afterProper ended.after proper) fun _ _ failed => afterProper failed.after proper
  writeData offset length := Handler.keepsOfWp fun r s proper =>
    Eff.wpMono (AnyDevice.writeDataEnds r.opcode offset length r s) (fun _ _ ended => afterProper ended.1.after proper)
      fun _ _ failed => afterProper failed.after proper
  modeSelect length := Handler.keepsOfWp fun r s proper =>
    Eff.wpMono (AnyDevice.modeSelectEnds length r s) (fun _ _ ended => afterProper (ended.1.after r.opcode) proper)
      fun _ _ failed => afterProper (failed.1.after r.opcode) proper

theorem startInv {δ : Type} {c : Controller δ} (created : c = { luns := c.luns, targetId := c.targetId, world := c.world }) : Inv c := by
  rw [created]
  exact ⟨fun linked => Bool.noConfusion linked,fun wrong => (by cases wrong),fun atnMsg => Bool.noConfusion atnMsg,rfl⟩

end LinkedCommands
open LinkedCommands Controller

namespace LinkedCommands

/- A hard disk drive that is not ready as the only LUN. -/
def emptyDrive (lun : Nat) : Option AnyDevice :=
  if lun = 0 then some (.scsiHd { type := .scrm, removable := true, supportedBlockSizes := [512], cachingMode := .linux }) else none

/- TEST UNIT READY with LINK, and with another CDB after the message. -/
def linkedTest (cdb : Bytes) : List Action :=
  [.select 129,.process { sel := true },.process { bytes := cdb },.process {},.process {},.process {},.process { bytes := [0,0,0,0,0,0] }]

/- The host services are always ready. -/
def services (lun : Nat) : Option AnyDevice := if lun = 0 then some (.hostServices { type := .schs, ready := true }) else none

end LinkedCommands
end Scsi2Pi
