import Scsi2Pi.DeviceContract
import Scsi2Pi.Schedule

/-! The assertions of the transfer bookkeeping over the runs of a target with
devices of any class: what is transferred is never more than what remains, and
the transfer functions are called in the phases and for the commands they are for. -/
namespace Scsi2Pi
namespace Bookkeeping
open Controller Slices MemoryUtil Derives Handler Eff CommandMetaData

abbrev Target := Controller AnyDevice

/- The assertion about the next chunk is neither about a length that has been
transferred nor about a phase or a command. -/
def Booked (c : Target) : Prop := ∀ a, Event.failed a ∈ c.trace → a = .nextChunk

/- The effective LUN is a network adapter. -/
def networked (c : Target) : Bool := (c.luns c.getEffectiveLun).any AnyDevice.isDaynaPort

/- No data of a DATA OUT phase are handed to a network adapter. -/
def Careful (c : Target) : Action → Prop
  | .select _ => True
  | .process i => c.lines.rst = false → i.rst = false → c.phase = .dataOut → c.transfer.currentLength = 0 →
    networked c = false

instance (c : Target) : (a : Action) → Decidable (Careful c a)
  | .select _ => inferInstanceAs (Decidable True)
  | .process _ => inferInstanceAs (Decidable (_ → _ → _ → _ → _))

structure Kept (c : Target) : Prop where
  booked : Booked c
  chunk : c.transfer.chunkSize ≤ c.transfer.remainingLength
  req : c.lines.req = false

/- The I/O line and the command agree with the phase. -/
def Directed (c : Target) : Prop :=
  match c.phase with
  | .dataIn => c.lines.io = true ∧ c.hasDataOut = false
  | .dataOut => c.lines.io = false ∧ (c.hasDataOut = true ∨ networked c = true)
  | .status | .msgIn => c.lines.io = true
  | .msgOut => c.lines.io = false
  | _ => True

structure Inv (c : Target) : Prop where
  kept : Kept c
  directed : Directed c

variable {c d : Target}

theorem directedIn (phase : c.phase = .dataIn) (io : c.lines.io = true) (declared : c.hasDataOut = false) : Directed c := by
  unfold Directed
  rw [phase]
  exact ⟨io,declared⟩

theorem directedOut (phase : c.phase = .dataOut) (io : c.lines.io = false) (declared : c.hasDataOut = true) : Directed c := by
  unfold Directed
  rw [phase]
  exact ⟨io,.inl declared⟩

/- In COMMAND and BUS FREE nothing is transferred. -/
theorem directedElse (phase : c.phase = .command ∨ c.phase = .busFree) : Directed c := by
  unfold Directed
  rcases phase with at_ | at_
  · rw [at_]
    trivial
  · rw [at_]
    trivial

theorem Kept.keeps (h : Kept c) (trace : d.trace = c.trace) (chunk : d.transfer.chunkSize ≤ d.transfer.remainingLength)
    (req : d.lines.req = false) : Kept d :=
  ⟨by unfold Booked; rw [trace]; exact h.booked,chunk,req⟩

theorem Kept.logged (h : Kept c) {e : Event} (logged : d.trace = c.trace ++ [e]) (quiet : ∀ a, e = .failed a → a = .nextChunk)
    (chunk : d.transfer.chunkSize ≤ d.transfer.remainingLength) (req : d.lines.req = false) : Kept d := by
  refine ⟨?_,chunk,req⟩
  intro a member
  rw [logged] at member
  rcases List.mem_append.mp member with before | now
  · exact h.booked a before
  · exact quiet a (List.mem_singleton.mp now).symm

theorem Kept.entered (h : Kept c) {p : BusPhase} (logged : d.trace = c.trace ++ [.entered p])
    (chunk : d.transfer.chunkSize ≤ d.transfer.remainingLength) (req : d.lines.req = false) : Kept d :=
  h.logged logged (by simp) chunk req

/- A check that holds leaves the trace as it is. -/
theorem checkHolds {holds : Bool} (sound : holds = true) (a : Assertion) : c.check holds a = c := by
  subst sound
  simp [check]

theorem Kept.checkNextChunk (h : Kept c) : Kept c.checkNextChunk := by
  have checked : ∀ {c : Target} (holds : Bool), Kept c → Kept (c.check holds .nextChunk) := by
    intro c holds h
    cases holds with
    | true => rwa [checkHolds rfl]
    | false => exact h.logged (e := .failed .nextChunk) rfl (by simp) h.chunk h.req
  exact checked _ (checked _ h)

/-! The lengths. -/

theorem updateHolds {length : Int} (within : length ≤ c.transfer.remainingLength) :
    c.updateTransferLength length = { c with transfer := c.transfer.updateTransferLength length } := by
  unfold updateTransferLength
  rw [checkHolds (decide_eq_true (by omega))]

theorem updateChunk (t : Transfer) (length : Int) : (t.updateTransferLength length).chunkSize ≤ (t.updateTransferLength length).remainingLength := by
  unfold Transfer.updateTransferLength
  dsimp only
  split <;> omega

theorem Inv.updateTransferLength (h : Inv c) {length : Int} (within : length ≤ c.transfer.remainingLength) :
    Inv (c.updateTransferLength length) := by
  rw [updateHolds within]
  exact ⟨h.kept.keeps rfl (updateChunk _ _) h.kept.req,h.directed⟩

/-! Functions that enter a phase. -/

theorem Kept.busFree (h : Kept c) : Inv c.busFree := by
  unfold Controller.busFree
  split
  · exact ⟨h.entered rfl h.chunk rfl,trivial⟩
  · next free =>
    split
    · exact ⟨h.entered rfl h.chunk h.req,trivial⟩
    · exact ⟨h,directedElse (.inr (not_not.mp free))⟩

theorem Kept.enterStatus (h : Kept c) : Inv c.enterStatus :=
  ⟨h.entered rfl (by decide : (1 : Int) ≤ 1) h.req,rfl⟩

theorem Kept.enterMsgIn (h : Kept c) (b : UInt8) : Inv ((((c.setCurrentLength 1).setTransferSize 1 1).setBufferByte b).enterMsgIn) :=
  ⟨h.entered rfl (by decide : (1 : Int) ≤ 1) h.req,rfl⟩

theorem Kept.enterDataIn (h : Kept c) (declared : c.hasDataOut = false) : Inv c.enterDataIn :=
  ⟨h.entered rfl h.chunk h.req,rfl,declared⟩

theorem Kept.error (h : Kept c) (s : SenseKey) (a : Asc) (status : StatusCode := .checkCondition) : Inv (c.error s a status) := by
  unfold Controller.error
  split
  · exact h.busFree
  · dsimp only
    split
    · exact Kept.enterStatus (h.keeps rfl h.chunk h.req)
    · exact Kept.enterStatus (h.keeps rfl h.chunk h.req)

theorem Kept.raiseDeferredError (h : Kept c) (s : SenseKey) (a : Asc) : Inv (c.raiseDeferredError s a) :=
  Kept.error (c := { c with deferredSenseKey := s, deferredAsc := a }) (h.keeps rfl h.chunk h.req) s a

/-! Sending. -/

/- The phases that Send is for. -/
def Sends (c : Target) : Prop := c.phase = .dataIn ∨ c.phase = .status ∨ c.phase = .msgIn

theorem Inv.sendsIo (h : Inv c) (sends : Sends c) : c.lines.io = true := by
  have directed := h.directed
  unfold Directed at directed
  rcases sends with at_ | at_ | at_
  · rw [at_] at directed
    exact directed.1
  · rw [at_] at directed
    exact directed
  · rw [at_] at directed
    exact directed

theorem Inv.checkSend (h : Inv c) (sends : Sends c) : c.checkSend = c := by
  have free : c.check (!c.lines.req) .sendLines = c := checkHolds (by rw [h.kept.req]; rfl) _
  unfold Controller.checkSend
  rw [free,checkHolds (h.sendsIo sends)]

theorem Inv.sendBytes (h : Inv c) (i : Input) : Inv (c.sendBytes i) := by
  unfold Controller.sendBytes
  dsimp only
  generalize slice _ _ _ = bytes
  have sent : Kept (c.log (.sent c.phase bytes)) := h.kept.logged (e := .sent c.phase bytes) rfl (by simp) h.kept.chunk h.kept.req
  split
  · exact Kept.error (c := (c.log (.sent c.phase bytes)).setRst) (sent.keeps rfl sent.chunk sent.req) _ _
  · exact ⟨sent.keeps rfl sent.chunk sent.req,h.directed⟩

theorem Inv.chunkSent (h : Inv c) (sends : Sends c) {toHost endOfMessage : Target → Target}
    (host : ∀ {c : Target}, Inv c → c.phase = .dataIn → Inv (toHost c)) (message : ∀ {c : Target}, Inv c → Inv (endOfMessage c)) :
    Inv (c.chunkSent toHost endOfMessage) := by
  have updated := h.updateTransferLength h.kept.chunk
  have at_ : Sends (c.updateTransferLength c.transfer.chunkSize) := sends
  unfold Controller.chunkSent
  generalize c.updateTransferLength c.transfer.chunkSize = c at *
  dsimp only
  split
  · split
    · next phase => exact host updated phase
    · exact updated
  · rcases at_ with at_ | at_ | at_
    · rw [at_]
      exact updated.kept.enterStatus
    · rw [at_]
      exact updated.kept.enterMsgIn _
    · rw [at_]
      exact message updated

theorem Inv.sendWith (h : Inv c) (sends : Sends c) (i : Input) {toHost endOfMessage : Target → Target}
    (host : ∀ {c : Target}, Inv c → c.phase = .dataIn → Inv (toHost c)) (message : ∀ {c : Target}, Inv c → Inv (endOfMessage c)) :
    Inv (c.sendWith i toHost endOfMessage) := by
  unfold Controller.sendWith
  rw [h.checkSend sends]
  dsimp only
  split
  · exact h.sendBytes i
  · exact h.chunkSent sends host message

theorem Kept.status (h : Kept c) (io : c.phase = .status → c.lines.io = true) (i : Input) : Inv (c.status i) := by
  unfold Controller.status
  split
  · next at_ =>
    have inv : Inv c := by
      refine ⟨h,?_⟩
      unfold Directed
      rw [at_]
      exact io at_
    exact inv.sendWith (.inr (.inl at_)) i (fun inv _ => inv) (fun inv => inv)
  · exact h.enterStatus

/-! The phases that the handlers ask for. -/

theorem Kept.startDataIn (h : Kept c) (io : c.phase = .status → c.lines.io = true) (declared : c.hasDataOut = false) (i : Input) :
    Inv (c.startDataIn i) := by
  unfold Controller.startDataIn
  split
  · exact h.status io i
  · exact h.enterDataIn declared

theorem Kept.startDataOut (h : Kept c) (io : c.phase = .status → c.lines.io = true)
    (declared : c.hasDataOut = true ∨ networked c = true) (i : Input) : Inv (c.startDataOut i) := by
  unfold Controller.startDataOut
  split
  · exact h.status io i
  · dsimp only
    split
    · exact ⟨h.entered rfl h.chunk h.req,rfl,declared⟩
    · exact ⟨h.entered rfl h.chunk h.req,rfl,declared⟩

theorem undeclaredIn {cmd : ScsiCommand} (undeclared : AnyDevice.Undeclared cmd) : (getCdbMetaData cmd).hasDataOut = false := by
  rcases undeclared with same | same
  · rw [same]
    decide
  · rw [same]
    decide

theorem Kept.callPhase (h : Kept c) (phase : c.phase = .command) {call : PhaseCall}
    (fits : Fits c.opcode call ∨ networked c = true ∧ AnyDevice.Undeclared c.opcode) (i : Input) : Inv (c.callPhase i call) := by
  have notStatus : c.phase = .status → c.lines.io = true := fun at_ => absurd (phase.symm.trans at_) (by decide)
  cases call with
  | status => exact h.status notStatus i
  | dataIn length =>
    have declared : c.hasDataOut = false := fits.elim id fun loose => undeclaredIn loose.2
    exact Kept.startDataIn (c := c.setCurrentLength length) (h.keeps rfl h.chunk h.req) notStatus declared i
  | dataOut length =>
    have declared : c.hasDataOut = true ∨ networked c = true := fits.imp id And.left
    exact Kept.startDataOut (c := c.setCurrentLength length) (h.keeps rfl h.chunk h.req) notStatus declared i
  | errorThenDataIn length =>
    have declared : c.hasDataOut = false := by
      rcases fits with sense | loose
      · unfold hasDataOut
        rw [sense]
        decide
      · exact undeclaredIn loose.2
    exact Kept.startDataIn (c := (((c.setPhase .status).setLines false true true).resetOffset).setCurrentLength length)
      (h.entered rfl h.chunk h.req) (fun _ => rfl) declared i

/-! The command. -/

/- A handler has ended. -/
def handled (c : Target) (lun : Nat) (t : HandlerState AnyDevice) : Target :=
  { c with
    luns := Function.update c.luns lun (some t.device)
    transfer := t.transfer
    world := t.world }

theorem Kept.handled (h : Kept c) (lun : Nat) {t : HandlerState AnyDevice} (chunk : t.transfer.chunkSize ≤ t.transfer.remainingLength) :
    Kept (handled c lun t) :=
  h.keeps rfl chunk h.req

theorem Kept.dispatchTo (h : Kept c) (phase : c.phase = .command) (i : Input) {lun : Nat} {dev : AnyDevice}
    (own : c.getEffectiveLun = lun ∨ c.opcode = .inquiry ∨ c.opcode = .requestSense) : Inv (c.dispatchTo AnyDevice.methods i lun dev) := by
  unfold Controller.dispatchTo
  split
  · have ends := AnyDevice.dispatchEnds c.opcode (c.request i.env) ⟨dev,c.transfer,c.world⟩
    unfold wp at ends
    unfold runHandler
    cases ran : AnyDevice.methods.dispatch c.opcode (c.request i.env) ⟨dev,c.transfer,c.world⟩ with
    | mk result t =>
      rw [ran] at ends
      cases result with
      | ok call =>
        have fits : Fits c.opcode call ∨ networked (Bookkeeping.handled c lun t) = true ∧ AnyDevice.Undeclared c.opcode := by
          refine ends.2.imp id fun loose => ⟨?_,loose.2⟩
          rcases own with same | inquiry | sense
          · have here : Function.update c.luns lun (some t.device) c.getEffectiveLun = some t.device := by
              rw [same,Function.update_self]
            have still : t.device.isDaynaPort = true := ends.1.same.trans loose.1
            change Option.any _ (Function.update c.luns lun (some t.device) c.getEffectiveLun) = true
            rw [here]
            exact still
          · rw [inquiry] at loose
            exact absurd loose.2 (by unfold AnyDevice.Undeclared; decide)
          · rw [sense] at loose
            exact absurd loose.2 (by unfold AnyDevice.Undeclared; decide)
        exact (h.handled lun (ends.1.after.chunk h.chunk)).callPhase phase fits i
      | error e => exact (h.handled lun (ends.after.chunk h.chunk)).error _ _
  · exact h.error _ _ _

theorem Kept.execute (h : Kept c) (phase : c.phase = .command) (i : Input) : Inv (c.execute AnyDevice.methods i) := by
  have start : Kept (((c.setCurrentLength 0).resetOffset).setTransferSize 0 0) := h.keeps rfl (by decide : (0 : Int) ≤ 0) h.req
  have at_ : (((c.setCurrentLength 0).resetOffset).setTransferSize 0 0).phase = .command := phase
  unfold Controller.execute
  generalize ((c.setCurrentLength 0).resetOffset).setTransferSize 0 0 = c at *
  dsimp only
  split
  · exact start.error _ _
  · next known =>
    have own : c.getEffectiveLun = (if (c.luns c.getEffectiveLun).isNone then 0 else c.getEffectiveLun) ∨
        c.opcode = .inquiry ∨ c.opcode = .requestSense := by
      cases missing : (c.luns c.getEffectiveLun).isNone with
      | false => exact .inl rfl
      | true =>
        right
        by_contra other
        rw [not_or] at other
        exact known (by simp [missing,other.1,other.2])
    generalize (if (c.luns c.getEffectiveLun).isNone then 0 else c.getEffectiveLun) = lun at *
    have cleared : Kept (c.discardSense lun) ∧ (c.discardSense lun).phase = .command ∧
        (c.discardSense lun).getEffectiveLun = c.getEffectiveLun ∧ (c.discardSense lun).opcode = c.opcode := by
      unfold discardSense
      split
      · exact ⟨start.keeps rfl start.chunk start.req,at_,rfl,rfl⟩
      · exact ⟨start,at_,rfl,rfl⟩
    obtain ⟨kept,phase,effective,opcode⟩ := cleared
    split
    · exact ⟨kept,directedElse (.inl phase)⟩
    · exact kept.dispatchTo phase i (by rw [effective,opcode]; exact own)

theorem Kept.acceptCdb (h : Kept c) (phase : c.phase = .command) (i : Input) (buf : Bytes) : Inv (c.acceptCdb AnyDevice.methods i buf) := by
  have stored : Kept (c.storeCdb buf) := h.logged rfl (by simp) h.chunk h.req
  have at_ : (c.storeCdb buf).phase = .command := phase
  unfold Controller.acceptCdb
  generalize c.storeCdb buf = c at *
  dsimp only
  split
  · exact stored.raiseDeferredError _ _
  · split
    · next sense =>
      have declared : c.hasDataOut = false := by
        rw [Bool.and_eq_true] at sense
        unfold hasDataOut
        rw [of_decide_eq_true sense.2]
        decide
      unfold provideSenseData
      refine Kept.startDataIn (stored.keeps ?_ ?_ ?_) ?_ ?_ i
      · rfl
      · exact stored.chunk
      · exact stored.req
      · exact fun status => absurd (at_.symm.trans status) (by decide)
      · exact declared
    · exact Kept.execute (c := c.discardDeferredError) (stored.keeps rfl stored.chunk stored.req) at_ i

theorem Kept.command (h : Kept c) (other : c.phase ≠ .command) (i : Input) : Inv (c.command AnyDevice.methods i) := by
  unfold Controller.command
  rw [if_neg other]
  generalize commandHandShake i.bytes = shaken
  obtain ⟨buf,count⟩ := shaken
  have entered : Kept (c.enterCommand buf) := h.entered rfl h.chunk h.req
  have at_ : (c.enterCommand buf).phase = .command := rfl
  dsimp only
  generalize c.enterCommand buf = c at *
  split
  · exact entered.raiseDeferredError _ _
  · split
    · exact Kept.raiseDeferredError (c := c.setRst) (entered.keeps rfl entered.chunk entered.req) _ _
    · exact entered.acceptCdb at_ i buf

theorem Inv.command (h : Inv c) (i : Input) : Inv (c.command AnyDevice.methods i) := by
  by_cases at_ : c.phase = .command
  · unfold Controller.command
    rwa [if_pos at_]
  · exact h.kept.command at_ i

theorem Inv.processEndOfMessage (h : Inv c) (i : Input) : Inv (c.processEndOfMessage AnyDevice.methods i) := by
  unfold Controller.processEndOfMessage
  split
  · exact Inv.command (c := c.resetFlags) ⟨h.kept.keeps rfl h.kept.chunk h.kept.req,h.directed⟩ i
  · exact h.kept.busFree

/-! The transfers. -/

theorem Inv.transferToHost (h : Inv c) (phase : c.phase = .dataIn) (i : Input) : Inv (c.transferToHost AnyDevice.methods i) := by
  have directed := h.directed
  unfold Directed at directed
  rw [phase] at directed
  unfold Controller.transferToHost
  rw [checkHolds (by rw [directed.2]; rfl)]
  dsimp only
  split
  · exact h
  · next dev _ =>
    have ends := AnyDevice.readDataEnds c.opcode (c.request i.env) ⟨dev,c.transfer,c.world⟩
    unfold wp at ends
    unfold runHandler
    cases ran : AnyDevice.methods.readData (c.request i.env) ⟨dev,c.transfer,c.world⟩ with
    | mk result t =>
      rw [ran] at ends
      cases result with
      | ok _ =>
        have kept := h.kept.handled c.getEffectiveLun (ends.after.chunk h.kept.chunk)
        dsimp only
        split
        · exact ⟨kept.keeps rfl kept.chunk kept.req,directedIn phase directed.1 directed.2⟩
        · exact ⟨kept,directedIn phase directed.1 directed.2⟩
      | error e => exact (h.kept.handled c.getEffectiveLun (ends.after.chunk h.kept.chunk)).error _ _

/- What a device that is not a network adapter has taken is not more than what remains. -/
theorem parametersEnd {dev : AnyDevice} (other : dev.isDaynaPort = false) {length : Int} (within : length ≤ c.transfer.remainingLength)
    (chunk : c.transfer.chunkSize ≤ c.transfer.remainingLength) (r : Request) :
    wp (c.receiveParameters AnyDevice.methods dev length) r ⟨dev,c.transfer,c.world⟩
      (fun l t => l ≤ t.transfer.remainingLength)
      fun _ t => t.transfer.chunkSize ≤ t.transfer.remainingLength := by
  unfold receiveParameters
  split
  · rw [wpBind]
    refine wpMono (AnyDevice.modeSelectEnds c.offset r _) (fun _ t ended => ?_) fun _ t failed => ?_
    · rw [wpPure,ended.1.transfer]
      exact within
    · rw [failed.1.transfer]
      exact chunk
  · exact wpMono (AnyDevice.writeDataEnds c.opcode c.offset length r _) (fun _ _ ended => ended.2 other within) fun _ _ failed => failed.after.chunk chunk

theorem Inv.transferFromHost (h : Inv c) (phase : c.phase = .dataOut) (other : networked c = false) (i : Input) {length : Int}
    (within : length ≤ c.transfer.remainingLength) :
    let ended := c.transferFromHost AnyDevice.methods i length
    Inv ended.2 ∧ (ended.1 = true → ended.2.phase = .dataOut) := by
  have directed := h.directed
  unfold Directed at directed
  rw [phase] at directed
  have declared : c.hasDataOut = true := directed.2.resolve_right (by rw [other]; decide)
  unfold Controller.transferFromHost
  rw [checkHolds declared]
  dsimp only
  split
  · exact ⟨h,fun wrong => Bool.noConfusion wrong⟩
  · next dev found =>
    have strict : dev.isDaynaPort = false := by
      unfold networked at other
      rw [found] at other
      exact other
    have ends := parametersEnd strict within h.kept.chunk (c.request i.env)
    unfold wp at ends
    unfold runHandler
    cases ran : c.receiveParameters AnyDevice.methods dev length (c.request i.env) ⟨dev,c.transfer,c.world⟩ with
    | mk result t =>
      rw [ran] at ends
      cases result with
      | ok transferred =>
        dsimp only
        change Inv ((((Bookkeeping.handled c c.getEffectiveLun t).updateTransferLength transferred).setCurrentLength _).resetOffset) ∧ _
        rw [updateHolds ends]
        exact ⟨⟨h.kept.keeps rfl (updateChunk _ _) h.kept.req,directedOut phase directed.1 declared⟩,fun _ => phase⟩
      | error e => exact ⟨(h.kept.handled c.getEffectiveLun ends).error _ _,fun wrong => Bool.noConfusion wrong⟩

/-! Receiving. -/

theorem Inv.receivesIo (h : Inv c) (phase : c.phase = .dataOut ∨ c.phase = .msgOut) : c.lines.io = false := by
  have directed := h.directed
  unfold Directed at directed
  rcases phase with at_ | at_
  · rw [at_] at directed
    exact directed.1
  · rw [at_] at directed
    exact directed

theorem Inv.checkReceive (h : Inv c) (phase : c.phase = .dataOut ∨ c.phase = .msgOut) : c.checkReceive = c := by
  have free : c.check (!c.lines.req) .receiveLines = c := checkHolds (by rw [h.kept.req]; rfl) _
  unfold Controller.checkReceive
  rw [free,checkHolds (by rw [h.receivesIo phase]; rfl)]

theorem Inv.receiveBytes (h : Inv c) (i : Input) : Inv (c.receiveBytes i) := by
  unfold Controller.receiveBytes
  dsimp only
  generalize i.bytes.take _ = bytes
  have received : Kept { c.log (.received c.phase bytes) with
      transfer := { c.transfer with buffer := setBytes c.transfer.buffer c.offset.toNat bytes } } :=
    h.kept.logged (e := .received c.phase bytes) rfl (by simp) h.kept.chunk h.kept.req
  split
  · exact Kept.error (c := setRst { c.log (.received c.phase bytes) with
        transfer := { c.transfer with buffer := setBytes c.transfer.buffer c.offset.toNat bytes } })
      (received.keeps rfl received.chunk received.req) _ _
  · exact ⟨received.keeps rfl received.chunk received.req,h.directed⟩

/- The messages of the initiator, read in MESSAGE OUT. -/
theorem Inv.parseMessage (h : Inv c) (phase : c.phase = .msgOut) (ext : Bool) (messages : Bytes) : Inv (c.parseMessage ext messages) := by
  induction messages generalizing c ext with
  | nil => cases ext <;> exact h
  | cons b rest ih =>
    cases ext with
    | true => exact h.kept.enterMsgIn _
    | false =>
      unfold Controller.parseMessage
      split
      · exact ih h phase true
      · split
        · exact h.kept.busFree
        · split
          · exact Kept.busFree (h.kept.keeps rfl h.kept.chunk h.kept.req)
          · split
            · refine ih (c := { c with identifiedLun := some (b &&& 0x1f).toNat }) ⟨h.kept.keeps rfl h.kept.chunk h.kept.req,?_⟩ phase false
              unfold Directed
              rw [show Controller.phase _ = .msgOut from phase]
              exact h.receivesIo (.inr phase)
            · exact ih h phase false

theorem Inv.processMessage (h : Inv c) (phase : c.phase = .msgOut) (i : Input) : Inv (c.processMessage AnyDevice.methods i) := by
  unfold Controller.processMessage
  split
  · exact ⟨h.kept.keeps rfl (by decide : (1 : Int) ≤ 1) h.kept.req,h.directed⟩
  · have parsed : Inv (if c.atnMsg then { c with atnMsg := false }.parseMessage false c.msgBytes else c) := by
      split
      · exact Inv.parseMessage (c := { c with atnMsg := false }) ⟨h.kept.keeps rfl h.kept.chunk h.kept.req,h.directed⟩ phase false c.msgBytes
      · exact h
    exact parsed.command i

theorem Inv.receiveMsgOut (h : Inv c) (phase : c.phase = .msgOut) (i : Input) : Inv (c.receive AnyDevice.methods i) := by
  unfold Controller.receive
  rw [h.checkReceive (.inr phase)]
  dsimp only
  split
  · exact h.receiveBytes i
  · unfold chunkReceived
    rw [phase]
    dsimp only
    have updated := h.updateTransferLength (min_le_right c.transfer.chunkSize c.transfer.remainingLength)
    have taken : Inv (c.updateTransferLength (min c.transfer.chunkSize c.transfer.remainingLength)).xferMsg :=
      ⟨updated.kept.keeps rfl updated.kept.chunk updated.kept.req,updated.directed⟩
    have still : (c.updateTransferLength (min c.transfer.chunkSize c.transfer.remainingLength)).xferMsg.phase = .msgOut := phase
    generalize (c.updateTransferLength (min c.transfer.chunkSize c.transfer.remainingLength)).xferMsg = c at *
    split
    · exact ⟨taken.kept.checkNextChunk,taken.directed⟩
    · exact taken.processMessage still i

theorem Inv.receiveDataOut (h : Inv c) (phase : c.phase = .dataOut) (careful : c.transfer.currentLength = 0 → networked c = false) (i : Input) :
    Inv (c.receive AnyDevice.methods i) := by
  unfold Controller.receive
  rw [h.checkReceive (.inl phase)]
  dsimp only
  split
  · exact h.receiveBytes i
  · next handed =>
    unfold chunkReceived
    rw [phase]
    dsimp only
    obtain ⟨inv,still⟩ := h.transferFromHost phase (careful (not_not.mp handed)) i (min_le_right c.transfer.chunkSize c.transfer.remainingLength)
    generalize c.transferFromHost AnyDevice.methods i (min c.transfer.chunkSize c.transfer.remainingLength) = ended at *
    obtain ⟨done,c'⟩ := ended
    dsimp only at inv still ⊢
    split
    · exact inv
    · next finished =>
      have at_ := still (by simpa using finished)
      split
      · exact ⟨inv.kept.checkNextChunk,inv.directed⟩
      · exact inv.kept.status (fun status => absurd (at_.symm.trans status) (by decide)) i

/-! The steps of the target. -/

theorem Kept.reset (h : Kept c) : Inv c.reset :=
  ⟨h.logged (e := .reset) rfl (by simp) (by decide : (0 : Int) ≤ 0) rfl,directedElse (.inr rfl)⟩

theorem Inv.selection (h : Inv c) (phase : c.phase = .selection) (i : Input) : Inv (c.selection AnyDevice.methods i) := by
  unfold Controller.selection
  split
  · split
    · unfold msgOut
      rw [if_neg (by rw [phase]; decide)]
      unfold enterMsgOut
      rw [if_pos phase]
      exact ⟨h.kept.entered rfl (by decide : (1 : Int) ≤ 1) h.kept.req,rfl⟩
    · exact h.command i
  · exact h

theorem Inv.send (h : Inv c) (sends : Sends c) (i : Input) : Inv (c.send AnyDevice.methods i) :=
  h.sendWith sends i (fun inv phase => inv.transferToHost phase i) fun inv => inv.processEndOfMessage i

theorem Inv.processPhase (h : Inv c) (careful : c.phase = .dataOut → c.transfer.currentLength = 0 → networked c = false) (i : Input) :
    Inv (c.processPhase AnyDevice.methods i) := by
  unfold Controller.processPhase
  cases at_ : c.phase with
  | busFree => exact h.kept.busFree
  | selection => exact h.selection at_ i
  | command => exact h.command i
  | dataIn => exact h.send (.inl at_) i
  | dataOut => exact h.receiveDataOut at_ (careful at_) i
  | status => exact h.send (.inr (.inl at_)) i
  | msgIn => exact h.send (.inr (.inr at_)) i
  | msgOut => exact h.receiveMsgOut at_ i
  | arbitration => exact h.kept.error _ _
  | reselection => exact h.kept.error _ _
  | reserved => exact h.kept.error _ _

theorem Inv.step (h : Inv c) (action : Action) (careful : Careful c action) : Inv (c.step AnyDevice.methods action) := by
  cases action with
  | select ids =>
    unfold Controller.step
    dsimp only
    split
    · exact ⟨h.kept.keeps rfl h.kept.chunk h.kept.req,h.directed⟩
    · exact h
  | process i =>
    have acquired : Inv (c.acquire i) := ⟨h.kept.keeps rfl h.kept.chunk h.kept.req,h.directed⟩
    change Inv (c.process AnyDevice.methods i)
    unfold process
    dsimp only
    split
    · exact acquired.kept.reset
    · next running =>
      have lines : c.lines.rst = false ∧ i.rst = false := by
        change ¬(c.lines.rst || i.rst) = true at running
        simpa using running
      exact acquired.processPhase (careful lines.1 lines.2) i

theorem startInv {luns : Nat → Option AnyDevice} {targetId : Nat} {world : World} : Inv { luns, targetId, world } :=
  ⟨⟨fun _ member => absurd member List.not_mem_nil,le_refl (0 : Int),rfl⟩,directedElse (.inr rfl)⟩

end Bookkeeping
open Bookkeeping Controller

/- Every state of a run in which no network adapter is given data of a DATA OUT phase. -/
theorem bookkeepingSound (luns : Nat → Option AnyDevice) (targetId : Nat) (world : World) (actions : List Action)
    (careful : Schedule.Along (step AnyDevice.methods) Careful { luns, targetId, world } actions) :
    Booked (({ luns, targetId, world } : Controller AnyDevice).run AnyDevice.methods actions) :=
  (Schedule.alongInvariant (P := Inv) (fun _ a inv ok => Inv.step inv a ok) startInv careful).kept.booked

namespace Bookkeeping

/- A network adapter as the only LUN. -/
def adapter (lun : Nat) : Option AnyDevice := if lun = 0 then some (.daynaPort { type := .scdp, ready := true }) else none

/- SEND MESSAGE(6) with a packet of six bytes, up to its status. -/
def sendPacket : List Action :=
  [.select 129,.process { sel := true },.process { bytes := [0x0a,0,0,0,6,0] },.process { bytes := [1,2,3,4,5,6] },.process {}]

/- What remains is set to 0 before the six bytes are subtracted. -/
theorem packetOverdrawn : ¬Booked (({ luns := adapter } : Controller AnyDevice).run AnyDevice.methods sendPacket) := by
  have failed : Event.failed .remainingLength ∈ (({ luns := adapter } : Controller AnyDevice).run AnyDevice.methods sendPacket).trace := by
    decide +kernel
  exact fun booked => absurd (booked _ failed) (by decide)

def services (lun : Nat) : Option AnyDevice := if lun = 0 then some (.hostServices { type := .schs, ready := true }) else none

/- EXECUTE OPERATION with two bytes and their result, up to the end of the command. -/
def executeOperation : List Action :=
  [.select 129,.process { sel := true },.process { bytes := [0xc0,1,0,0,0,0,0,0,2,0] },.process { bytes := [8,0] },
    .process { env := { parse := fun _ _ => some .noOperation, dispatch := fun _ _ => some [8,1] } },.process {},.process {},.process {},.process {}]

theorem operationBooked : Booked (({ luns := services, targetId := 0, world := {} } : Controller AnyDevice).run AnyDevice.methods executeOperation) :=
  bookkeepingSound services 0 {} executeOperation (by decide +kernel)

end Bookkeeping
end Scsi2Pi
