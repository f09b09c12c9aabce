import Scsi2Pi.ScriptText
import Scsi2Pi.MessageOut

/-! The script of a controller: what each step adds to it, and that it replays the commands
that have been received. -/
namespace Scsi2Pi.ScriptReplay
open Controller ScriptText Slices MemoryUtil

variable {δ : Type} {c d e : Controller δ}

/- The events that lead to an entry in the script. -/
def scripted : Event → Bool
  | .fetched _ _ | .received .dataOut _ => true
  | _ => false

def Writes (c d : Controller δ) (events : List Event) : Prop :=
  ∃ new, d.trace = c.trace ++ new ∧ new.filter scripted = events

def Later (p : BusPhase) : Prop := p = .busFree ∨ p = .dataIn ∨ p = .status ∨ p = .msgIn

instance : DecidablePred Later := fun _ => inferInstanceAs (Decidable (_ ∨ _))

/- The script does not change, and DATA OUT only starts with a command. -/
structure Aside (c d : Controller δ) : Prop where
  writes : Writes c d []
  phase : d.phase = c.phase ∨ Later d.phase ∨ c.phase = .command ∧ d.phase = .dataOut
  target : d.targetId = c.targetId
  lun : ∀ l, d.identifiedLun = some l → c.identifiedLun = some l ∨ l < 32

theorem Writes.trans {a b : List Event} (before : Writes c d a) (after : Writes d e b) :
    Writes c e (a ++ b) := by
  obtain ⟨new,grown,rfl⟩ := before
  obtain ⟨more,grown',rfl⟩ := after
  exact ⟨new ++ more,by rw [grown',grown,List.append_assoc],List.filter_append ..⟩

theorem writesNothing (same : d.trace = c.trace) : Writes c d [] := ⟨[],by rw [same,List.append_nil],rfl⟩

theorem writesLog {x : Event} (logged : d.trace = c.trace ++ [x]) (quiet : scripted x = false) : Writes c d [] :=
  ⟨[x],logged,by rw [List.filter_cons,quiet]; rfl⟩

theorem asideSame (trace : d.trace = c.trace) (phase : d.phase = c.phase) (target : d.targetId = c.targetId)
    (lun : d.identifiedLun = c.identifiedLun) : Aside c d :=
  ⟨writesNothing trace,.inl phase,target,fun _ known => .inl (lun ▸ known)⟩

theorem Aside.trans (before : Aside c d) (after : Aside d e) : Aside c e := by
  refine ⟨before.writes.trans after.writes,?_,after.target.trans before.target,fun l known => ?_⟩
  · rcases after.phase with same | later | ⟨command,out⟩
    · rw [same]
      exact before.phase
    · exact .inr (.inl later)
    · rcases before.phase with same | later | ⟨_,out'⟩
      · exact .inr (.inr ⟨same.symm.trans command,out⟩)
      · rw [command] at later
        exact absurd later (by decide)
      · rw [command] at out'
        cases out'
  · rcases after.lun l known with known | small
    · exact before.lun l known
    · exact .inr small

theorem asideEntered {p : BusPhase} (logged : d.trace = c.trace ++ [.entered p]) (phase : Later d.phase)
    (target : d.targetId = c.targetId) (lun : d.identifiedLun = c.identifiedLun ∨ d.identifiedLun = none) : Aside c d := by
  refine ⟨writesLog logged rfl,.inr (.inl phase),target,fun l known => ?_⟩
  rcases lun with same | none
  · exact .inl (same ▸ known)
  · rw [none] at known
    cases known

theorem asideCheck (holds : Bool) (a : Assertion) : Aside c (c.check holds a) := by
  cases holds with
  | true => exact asideSame (List.append_nil _) rfl rfl rfl
  | false => exact ⟨writesLog rfl rfl,.inl rfl,rfl,fun _ known => .inl known⟩

theorem asideCheckSend : Aside c c.checkSend := Aside.trans (d := c.check (!c.lines.req) .sendLines) (asideCheck ..) (asideCheck ..)

theorem asideCheckReceive : Aside c c.checkReceive :=
  Aside.trans (d := c.check (!c.lines.req) .receiveLines) (asideCheck ..) (asideCheck ..)

theorem asideCheckNextChunk : Aside c c.checkNextChunk :=
  Aside.trans (d := c.check (c.transfer.currentLength ≠ 0) .nextChunk) (asideCheck ..) (asideCheck ..)

theorem asideUpdate (length : Int) : Aside c (c.updateTransferLength length) :=
  (asideCheck (decide (0 ≤ c.transfer.remainingLength - length)) .remainingLength).trans (asideSame rfl rfl rfl rfl)

theorem asideBusFree (busy : c.phase ≠ .busFree) : Aside c c.busFree := by
  unfold busFree
  rw [if_pos busy]
  exact asideEntered rfl (.inl rfl) rfl (.inr rfl)

theorem asideEnterStatus : Aside c c.enterStatus := asideEntered rfl (.inr (.inr (.inl rfl))) rfl (.inl rfl)

theorem asideEnterMsgIn : Aside c c.enterMsgIn := asideEntered rfl (.inr (.inr (.inr rfl))) rfl (.inl rfl)

theorem asideEnterDataIn : Aside c c.enterDataIn := asideEntered rfl (.inr (.inl rfl)) rfl (.inl rfl)

theorem asideChunkSent {toHost endOfMessage : Controller δ → Controller δ}
    (host : ∀ d, d.phase = c.phase → Aside d (toHost d)) (message : ∀ d, d.phase = c.phase → c.phase = .msgIn →
      Aside d (endOfMessage d)) : Aside c (c.chunkSent toHost endOfMessage) := by
  unfold chunkSent
  have phase : (c.updateTransferLength c.transfer.chunkSize).phase = c.phase := rfl
  refine Aside.trans (asideUpdate c.transfer.chunkSize) ?_
  generalize c.updateTransferLength c.transfer.chunkSize = d at *
  dsimp only
  split
  · split
    · exact host d phase
    · exact asideSame rfl rfl rfl rfl
  · split
    · next at_ => exact message d phase (phase ▸ at_)
    · exact asideEnterStatus
    · exact asideEntered rfl (.inr (.inr (.inr rfl))) rfl (.inl rfl)
    · exact asideCheck ..

theorem asideRunHandler {α : Type} (env : Env) (lun : Nat) (dev : δ) (h : Handler δ α) :
    Aside c (c.runHandler env lun dev h).2 := asideSame rfl rfl rfl rfl

section
variable [Derives δ PrimaryDevice] (m : Methods δ) (i : Input)

theorem asideError (busy : c.phase ≠ .busFree) (s : SenseKey) (a : Asc) (status : StatusCode) :
    Aside c (c.error s a status) := by
  unfold error
  split
  · exact asideBusFree busy
  · dsimp only
    split
    · exact asideEntered rfl (.inr (.inr (.inl rfl))) rfl (.inl rfl)
    · exact asideEntered rfl (.inr (.inr (.inl rfl))) rfl (.inl rfl)

theorem errorLater (busy : c.phase ≠ .busFree) (s : SenseKey) (a : Asc) (status : StatusCode) :
    Later (c.error s a status).phase := by
  unfold error
  split
  · unfold busFree
    rw [if_pos busy]
    exact .inl rfl
  · exact .inr (.inr (.inl rfl))

theorem asideRaise (busy : c.phase ≠ .busFree) (s : SenseKey) (a : Asc) : Aside c (c.raiseDeferredError s a) :=
  Aside.trans (d := { c with deferredSenseKey := s, deferredAsc := a }) (asideSame rfl rfl rfl rfl)
    (asideError (c := { c with deferredSenseKey := s, deferredAsc := a }) busy s a .checkCondition)

theorem asideSendBytes (busy : c.phase ≠ .busFree) : Aside c (c.sendBytes i) := by
  unfold sendBytes
  dsimp only
  generalize slice _ _ _ = bytes
  have sent : Aside c (c.log (.sent c.phase bytes)) := ⟨writesLog rfl rfl,.inl rfl,rfl,fun _ known => .inl known⟩
  refine sent.trans ?_
  split
  · exact Aside.trans (d := (c.log (.sent c.phase bytes)).setRst) (asideSame rfl rfl rfl rfl)
      (asideError (c := (c.log (.sent c.phase bytes)).setRst) busy ..)
  · exact asideSame rfl rfl rfl rfl

theorem asideSendWith (busy : c.phase ≠ .busFree) {toHost endOfMessage : Controller δ → Controller δ}
    (host : ∀ d, d.phase = c.phase → Aside d (toHost d)) (message : ∀ d, d.phase = c.phase → c.phase = .msgIn →
      Aside d (endOfMessage d)) : Aside c (c.sendWith i toHost endOfMessage) := by
  unfold sendWith
  refine asideCheckSend.trans ?_
  dsimp only
  split
  · exact asideSendBytes (c := c.checkSend) i busy
  · exact asideChunkSent (c := c.checkSend) host message

theorem asideStatus (busy : c.phase ≠ .busFree) : Aside c (c.status i) := by
  unfold status
  split
  · next at_ =>
    refine asideSendWith i busy (fun d _ => asideSame rfl rfl rfl rfl) fun d _ wrong => ?_
    rw [at_] at wrong
    cases wrong
  · exact asideEnterStatus

theorem asideStartDataIn (busy : c.phase ≠ .busFree) : Aside c (c.startDataIn i) := by
  unfold startDataIn
  split
  · exact asideStatus i busy
  · exact asideEnterDataIn

theorem asideStartDataOut (command : c.phase = .command) : Aside c (c.startDataOut i) := by
  have busy : c.phase ≠ .busFree := by
    rw [command]
    decide
  unfold startDataOut
  split
  · exact asideStatus i busy
  · dsimp only
    refine ⟨writesLog (x := .entered .dataOut) ?_ rfl,.inr (.inr ⟨command,?_⟩),?_,fun l known => .inl ?_⟩
    · split <;> rfl
    · split <;> rfl
    · split <;> rfl
    · split at known <;> exact known

theorem asideCallPhase (command : c.phase = .command) (call : PhaseCall) : Aside c (c.callPhase i call) := by
  have busy : c.phase ≠ .busFree := by
    rw [command]
    decide
  cases call with
  | status => exact asideStatus i busy
  | dataIn length =>
    exact Aside.trans (d := c.setCurrentLength length) (asideSame rfl rfl rfl rfl) (asideStartDataIn i busy)
  | dataOut length =>
    exact Aside.trans (d := c.setCurrentLength length) (asideSame rfl rfl rfl rfl) (asideStartDataOut i command)
  | errorThenDataIn length =>
    refine Aside.trans (d := (((c.setPhase .status).setLines false true true).resetOffset).setCurrentLength length)
      (asideEntered rfl (.inr (.inr (.inl rfl))) rfl (.inl rfl)) (asideStartDataIn i ?_)
    change BusPhase.status ≠ .busFree
    decide

theorem asideDispatchTo (command : c.phase = .command) (lun : Nat) (dev : δ) : Aside c (c.dispatchTo m i lun dev) := by
  have busy : c.phase ≠ .busFree := by
    rw [command]
    decide
  unfold dispatchTo
  split
  · have ran := asideRunHandler (c := c) i.env lun dev (m.dispatch c.opcode)
    have still : (c.runHandler i.env lun dev (m.dispatch c.opcode)).2.phase = .command := command
    split
    · next call d same =>
      rw [same] at ran still
      exact ran.trans (asideCallPhase i still call)
    · next x d same =>
      rw [same] at ran still
      exact ran.trans (asideError (still ▸ by decide) ..)
  · exact asideError busy ..

theorem asideExecute (command : c.phase = .command) : Aside c (c.execute m i) := by
  have prepared : Aside c (((c.setCurrentLength 0).resetOffset).setTransferSize 0 0) := asideSame rfl rfl rfl rfl
  have still : (((c.setCurrentLength 0).resetOffset).setTransferSize 0 0).phase = .command := command
  unfold execute
  refine prepared.trans ?_
  generalize ((c.setCurrentLength 0).resetOffset).setTransferSize 0 0 = c at still ⊢
  dsimp only
  split
  · exact asideError (still ▸ by decide) ..
  · generalize (if (c.luns c.getEffectiveLun).isNone then 0 else c.getEffectiveLun) = lun
    have discarded : Aside c (c.discardSense lun) ∧ (c.discardSense lun).phase = .command := by
      unfold discardSense
      split
      · exact ⟨asideSame rfl rfl rfl rfl,still⟩
      · exact ⟨asideSame rfl rfl rfl rfl,still⟩
    refine discarded.1.trans ?_
    split
    · exact asideSame rfl rfl rfl rfl
    · exact asideDispatchTo m i discarded.2 lun _

theorem asideProvideSenseData (busy : c.phase ≠ .busFree) : Aside c (c.provideSenseData i) := by
  unfold provideSenseData
  dsimp only
  generalize setBytes _ 0 _ = buffer
  refine Aside.trans (d := discardDeferredError { (c.setCurrentLength 18) with
    transfer := { (c.setCurrentLength 18).transfer with buffer } }) (asideSame rfl rfl rfl rfl) ?_
  exact asideStartDataIn i busy

theorem asideTransferToHost (busy : c.phase ≠ .busFree) : Aside c (c.transferToHost m i) := by
  have checked : Aside c (c.check (!c.hasDataOut) .dataInCommand) := asideCheck ..
  have still : (c.check (!c.hasDataOut) .dataInCommand).phase ≠ .busFree := busy
  unfold transferToHost
  refine checked.trans ?_
  generalize c.check (!c.hasDataOut) .dataInCommand = c at still ⊢
  dsimp only
  split
  · exact asideSame rfl rfl rfl rfl
  · next dev _ =>
    have ran := asideRunHandler (c := c) i.env c.getEffectiveLun dev m.readData
    have phase : (c.runHandler i.env c.getEffectiveLun dev m.readData).2.phase = c.phase := rfl
    split
    · next result d same =>
      rw [same] at ran
      refine ran.trans ?_
      split
      · exact asideSame rfl rfl rfl rfl
      · exact asideSame rfl rfl rfl rfl
    · next x d same =>
      rw [same] at ran phase
      exact ran.trans (asideError (phase ▸ still) ..)

theorem asideTransferFromHost (busy : c.phase ≠ .busFree) (length : Int) : Aside c (c.transferFromHost m i length).2 := by
  have checked : Aside c (c.check c.hasDataOut .dataOutCommand) := asideCheck ..
  have still : (c.check c.hasDataOut .dataOutCommand).phase ≠ .busFree := busy
  unfold transferFromHost
  refine checked.trans ?_
  generalize c.check c.hasDataOut .dataOutCommand = c at still ⊢
  dsimp only
  split
  · exact asideSame rfl rfl rfl rfl
  · next dev _ =>
    have ran := asideRunHandler (c := c) i.env c.getEffectiveLun dev (c.receiveParameters m dev length)
    have phase : (c.runHandler i.env c.getEffectiveLun dev (c.receiveParameters m dev length)).2.phase = c.phase := rfl
    split
    · next transferred d same =>
      rw [same] at ran
      exact ran.trans ((asideUpdate transferred).trans (asideSame rfl rfl rfl rfl))
    · next x d same =>
      rw [same] at ran phase
      exact ran.trans (asideError (phase ▸ still) ..)

/-! The start of a command. -/

/- A CDB as it is received. -/
def Whole (buf : Bytes) : Prop := buf ≠ [] ∧ CommandMetaData.getByteCount (buf.getD 0 0) = buf.length

/- Either nothing is added to the script, or the CDB. -/
structure Opens (c d : Controller δ) : Prop where
  writes : Writes c d [] ∧ Later d.phase ∨ ∃ lun buf, Writes c d [.fetched lun buf] ∧ Whole buf ∧
    ((∀ l, c.identifiedLun = some l → l < 32) → lun < 32) ∧ (d.phase = .command ∨ d.phase = .dataOut ∨ Later d.phase)
  target : d.targetId = c.targetId
  lun : ∀ l, d.identifiedLun = some l → c.identifiedLun = some l ∨ l < 32

theorem handShakeWhole (bytes : Bytes) (received : 0 < (commandHandShake bytes).2) : Whole (commandHandShake bytes).1 := by
  unfold commandHandShake at received ⊢
  cases skipped : skipIcdPrefix bytes with
  | nil => simp [skipped] at received
  | cons opcode rest =>
    rw [skipped] at received
    dsimp only at received ⊢
    by_cases unknown : CommandMetaData.getByteCount opcode = 0
    · simp [unknown] at received
    · by_cases short : (opcode::rest).length < CommandMetaData.getByteCount opcode
      · simp only [if_neg unknown,if_pos short] at received
        exact absurd received (by decide)
      · simp only [if_neg unknown,if_neg short]
        obtain ⟨count,same⟩ := Nat.exists_eq_succ_of_ne_zero unknown
        have first : ((opcode::rest).take (CommandMetaData.getByteCount opcode)).getD 0 0 = opcode := by
          rw [same]
          rfl
        refine ⟨by rw [same]; exact List.cons_ne_nil _ _,?_⟩
        rw [first,List.length_take]
        omega

/- The CDB is added before anything else happens. -/
structure Accepts (buf : Bytes) (c d : Controller δ) : Prop where
  writes : ∃ lun, Writes c d [.fetched lun buf] ∧ ((∀ l, c.identifiedLun = some l → l < 32) → lun < 32)
  phase : d.phase = .command ∨ d.phase = .dataOut ∨ Later d.phase
  target : d.targetId = c.targetId
  lun : ∀ l, d.identifiedLun = some l → c.identifiedLun = some l ∨ l < 32

theorem acceptsCdb (command : c.phase = .command) (buf : Bytes) : Accepts buf c (c.acceptCdb m i buf) := by
  have stored : ∃ lun, Writes c (c.storeCdb buf) [.fetched lun buf] ∧ ((∀ l, c.identifiedLun = some l → l < 32) → lun < 32) := by
    refine ⟨_,⟨[_],rfl,rfl⟩,fun small => ?_⟩
    change c.identifiedLun.getD (byteAt (setBytes c.cdb 0 buf) 1 / 32) < 32
    cases known : c.identifiedLun with
    | none =>
      have byte : byteAt (setBytes c.cdb 0 buf) 1 < 256 := UInt8.toNat_lt _
      simp only [Option.getD_none]
      omega
    | some l => exact small l known
  have phase : (c.storeCdb buf).phase = .command := command
  have target : (c.storeCdb buf).targetId = c.targetId := rfl
  have lun : (c.storeCdb buf).identifiedLun = c.identifiedLun := rfl
  obtain ⟨l,writes,fits⟩ := stored
  unfold acceptCdb
  generalize c.storeCdb buf = d at *
  have busy : d.phase ≠ .busFree := by
    rw [phase]
    decide
  have ended {x : Controller δ} (same : Aside d x) : Accepts buf c x := by
    refine ⟨⟨l,writes.trans same.writes,fits⟩,?_,same.target.trans target,fun l known => lun ▸ same.lun l known⟩
    rcases same.phase with still | later | ⟨_,out⟩
    · exact .inl (still.trans phase)
    · exact .inr (.inr later)
    · exact .inr (.inl out)
  dsimp only
  split
  · exact ended (asideRaise busy ..)
  · split
    · exact ended (asideProvideSenseData i busy)
    · exact ended (Aside.trans (d := d.discardDeferredError) (asideSame rfl rfl rfl rfl)
        (asideExecute (c := d.discardDeferredError) m i phase))

theorem opensCommand (early : c.phase ≠ .command) : Opens c (c.command m i) := by
  unfold command
  rw [if_neg early]
  have whole := handShakeWhole i.bytes
  generalize commandHandShake i.bytes = shaken at whole ⊢
  obtain ⟨buf,count⟩ := shaken
  dsimp only at whole ⊢
  have entered : Writes c (c.enterCommand buf) [] := writesLog rfl rfl
  have phase : (c.enterCommand buf).phase = .command := rfl
  have target : (c.enterCommand buf).targetId = c.targetId := rfl
  have lun : (c.enterCommand buf).identifiedLun = c.identifiedLun := rfl
  generalize c.enterCommand buf = d at *
  have busy : d.phase ≠ .busFree := by
    rw [phase]
    decide
  have failed (s : SenseKey) (a : Asc) {x : Controller δ} (same : x.trace = d.trace) (at_ : x.phase = d.phase)
      (target' : x.targetId = d.targetId) (lun' : x.identifiedLun = d.identifiedLun) : Opens c (x.raiseDeferredError s a) := by
    have raised := (asideSame same at_ target' lun').trans (asideRaise (at_ ▸ busy) s a)
    refine ⟨.inl ⟨entered.trans raised.writes,?_⟩,raised.target.trans target,fun l known => lun ▸ raised.lun l known⟩
    exact errorLater (c := { x with deferredSenseKey := s, deferredAsc := a }) (at_ ▸ busy) s a .checkCondition
  split
  · exact failed _ _ rfl rfl rfl rfl
  · split
    · exact failed _ _ rfl rfl rfl rfl
    · next known enough =>
      have accepted := acceptsCdb m i phase buf
      obtain ⟨l,writes,fits⟩ := accepted.writes
      refine ⟨.inr ⟨l,buf,entered.trans writes,whole (by omega),fun small => fits fun l same => small l (lun ▸ same),?_⟩,
        accepted.target.trans target,fun l known => lun ▸ accepted.lun l known⟩
      exact accepted.phase

end

/-! One call of Process. -/

/- What may happen next on the bus without an entry in the script. -/
def Moves (c d : Controller δ) : Prop :=
  d.phase = c.phase ∨ Later d.phase ∨ c.phase = .busFree ∧ d.phase = .selection ∨ c.phase = .selection ∧ d.phase = .msgOut

/- A command follows a selection or its messages, or another command of the same selection. -/
def MayOpen (c : Controller δ) : Prop :=
  c.phase = .selection ∨ c.phase = .msgOut ∨
    c.phase = .msgIn ∧ c.transfer.currentLength = 0 ∧ (c.atnMsg = true ∨ c.linked = true)

inductive Entry (i : Input) (c d : Controller δ) : Prop where
  | nothing : Writes c d [] → Moves c d → Entry i c d
  | command (lun : Nat) (buf : Bytes) : MayOpen c → Writes c d [.fetched lun buf] → Whole buf →
      ((∀ l, c.identifiedLun = some l → l < 32) → lun < 32) → d.phase = .command ∨ d.phase = .dataOut ∨ Later d.phase → Entry i c d
  | data : c.phase = .dataOut → c.transfer.currentLength ≠ 0 →
      Writes c d [.received .dataOut (i.bytes.take c.transfer.currentLength.toNat)] → d.phase = .dataOut ∨ Later d.phase →
      Entry i c d

structure Does (i : Input) (c d : Controller δ) : Prop where
  entry : Entry i c d
  target : d.targetId = c.targetId
  lun : ∀ l, d.identifiedLun = some l → c.identifiedLun = some l ∨ l < 32

theorem Aside.does (same : Aside c d) (other : c.phase ≠ .command) : Does i c d := by
  refine ⟨.nothing same.writes ?_,same.target,same.lun⟩
  rcases same.phase with still | later | ⟨command,_⟩
  · exact .inl still
  · exact .inr (.inl later)
  · exact absurd command other

theorem Opens.does (opens : Opens c d) (may : MayOpen c) : Does i c d := by
  refine ⟨?_,opens.target,opens.lun⟩
  rcases opens.writes with ⟨writes,later⟩ | ⟨lun,buf,writes,whole,fits,phase⟩
  · exact .nothing writes (.inr (.inl later))
  · exact .command lun buf may writes whole fits phase

/- Before a command is opened nothing is added. -/
theorem Opens.after (before : Writes c d []) (target : d.targetId = c.targetId)
    (lun : ∀ l, d.identifiedLun = some l → c.identifiedLun = some l ∨ l < 32) (opens : Opens d e) : Opens c e := by
  refine ⟨?_,opens.target.trans target,fun l known => ?_⟩
  · rcases opens.writes with ⟨writes,later⟩ | ⟨l,buf,writes,whole,fits,phase⟩
    · exact .inl ⟨before.trans writes,later⟩
    · refine .inr ⟨l,buf,before.trans writes,whole,fun small => fits fun l known => ?_,phase⟩
      exact (lun l known).elim (small l) fun h => h
  · exact (opens.lun l known).elim (lun l) .inr

section
variable [Derives δ PrimaryDevice] (m : Methods δ) (i : Input)

/- What the messages of a selection change. -/
structure Parsed (c d : Controller δ) : Prop where
  writes : Writes c d []
  phase : d.phase ≠ .command
  target : d.targetId = c.targetId
  lun : ∀ l, d.identifiedLun = some l → c.identifiedLun = some l ∨ l < 32

omit [Derives δ PrimaryDevice] in
theorem Aside.parsed (same : Aside c d) (later : Later d.phase) : Parsed c d := by
  refine ⟨same.writes,fun command => ?_,same.target,same.lun⟩
  rw [command] at later
  exact absurd later (by decide)

theorem parsedMessages (out : c.phase = .msgOut) (ext : Bool) (messages : Bytes) : Parsed c (c.parseMessage ext messages) := by
  have busy {d : Controller δ} (at_ : d.phase = .msgOut) : d.phase ≠ .busFree := by
    rw [at_]
    decide
  induction messages generalizing c ext with
  | nil =>
    refine ⟨writesNothing rfl,?_,rfl,fun _ known => .inl known⟩
    change c.phase ≠ .command
    rw [out]
    decide
  | cons b rest ih =>
    cases ext with
    | true =>
      refine Aside.parsed ?_ (.inr (.inr (.inr rfl)))
      exact Aside.trans (d := ((c.setCurrentLength 1).setTransferSize 1 1).setBufferByte MessageCode.messageReject)
        (asideSame rfl rfl rfl rfl) asideEnterMsgIn
    | false =>
      rw [parseMessage]
      have free {d : Controller δ} (same : Aside c d) (at_ : d.phase = .msgOut) : Parsed c d.busFree := by
        refine (same.trans (asideBusFree (busy at_))).parsed ?_
        unfold busFree
        rw [if_pos (busy at_)]
        exact .inl rfl
      split
      · exact ih out true
      · split
        · exact free (asideSame rfl rfl rfl rfl) out
        · split
          · exact free (asideSame rfl rfl rfl rfl) out
          · split
            · have parsed := ih (c := { c with identifiedLun := some (b &&& 0x1f).toNat }) out false
              refine ⟨parsed.writes,parsed.phase,parsed.target,fun l known => ?_⟩
              rcases parsed.lun l known with same | small
              · refine .inr ?_
                rw [← Option.some.inj same,UInt8.toNat_and]
                exact Nat.lt_of_le_of_lt Nat.and_le_right (by decide)
              · exact .inr small
            · exact ih out false

theorem opensProcessMessage (out : c.phase = .msgOut) : Does i c (c.processMessage m i) := by
  unfold processMessage
  split
  · exact Aside.does (asideSame rfl rfl rfl rfl) (by rw [out]; decide)
  · have parsed : Parsed c (if c.atnMsg then { c with atnMsg := false }.parseMessage false c.msgBytes else c) := by
      split
      · have same := parsedMessages (c := { c with atnMsg := false }) out false c.msgBytes
        exact ⟨same.writes,same.phase,same.target,same.lun⟩
      · exact ⟨writesNothing rfl,by rw [out]; decide,rfl,fun _ known => .inl known⟩
    generalize (if c.atnMsg then { c with atnMsg := false }.parseMessage false c.msgBytes else c) = d at parsed ⊢
    exact Opens.does (Opens.after parsed.writes parsed.target parsed.lun (opensCommand m i parsed.phase)) (.inr (.inl out))

omit [Derives δ PrimaryDevice] in
/- What is done behind an aside step. -/
theorem Does.after (same : Aside c d) (phase : d.phase = c.phase) (early : c.phase ≠ .msgIn)
    (length : d.transfer.currentLength = c.transfer.currentLength) (does : Does i d e) : Does i c e := by
  refine ⟨?_,does.target.trans same.target,fun l known => (does.lun l known).elim (same.lun l) .inr⟩
  cases does.entry with
  | nothing writes moves =>
    refine .nothing (same.writes.trans writes) ?_
    unfold Moves at moves
    rw [phase] at moves
    exact moves
  | command lun buf may writes whole fits ends =>
    refine .command lun buf ?_ (same.writes.trans writes) whole (fun small => fits fun l known => ?_) ends
    · rcases may with at_ | at_ | ⟨at_,_⟩
      · exact .inl (phase.symm.trans at_)
      · exact .inr (.inl (phase.symm.trans at_))
      · exact absurd (phase.symm.trans at_) early
    · exact (same.lun l known).elim (small l) fun h => h
  | data at_ more writes ends =>
    rw [length] at more writes
    exact .data (phase.symm.trans at_) more (same.writes.trans writes) ends

theorem doesReceiveBytes (out : c.phase = .msgOut ∨ c.phase = .dataOut) (more : c.transfer.currentLength ≠ 0) :
    Does i c (c.receiveBytes i) := by
  unfold receiveBytes
  dsimp only
  generalize taken : i.bytes.take c.transfer.currentLength.toNat = bytes
  have busy : c.phase ≠ .busFree := by
    rcases out with at_ | at_ <;> rw [at_] <;> decide
  have logged : ∀ {d : Controller δ}, Aside (c.log (.received c.phase bytes)) d → Does i c d := by
    intro d same
    refine ⟨?_,same.target,same.lun⟩
    have ends : d.phase = c.phase ∨ Later d.phase := by
      rcases same.phase with still | later | ⟨command,_⟩
      · exact .inl still
      · exact .inr later
      · change c.phase = .command at command
        rcases out with at_ | at_ <;> exact absurd (at_.symm.trans command) (by decide)
    rcases out with at_ | at_
    · refine .nothing (Writes.trans (writesLog rfl ?_) same.writes) (ends.imp_right .inl)
      rw [at_]
      rfl
    · refine .data at_ more ?_ (at_ ▸ ends)
      rw [taken]
      refine Writes.trans (a := [.received .dataOut bytes]) ⟨[_],rfl,?_⟩ same.writes
      rw [at_]
      rfl
  split
  · refine logged ?_
    generalize setBytes _ _ bytes = buffer
    exact Aside.trans (d := setRst { c.log (.received c.phase bytes) with transfer := { c.transfer with buffer } })
      (asideSame rfl rfl rfl rfl)
      (asideError (c := setRst { c.log (.received c.phase bytes) with transfer := { c.transfer with buffer } }) busy ..)
  · exact logged (asideSame rfl rfl rfl rfl)

theorem transferPhase (length : Int) (all : (c.transferFromHost m i length).1 = true) :
    (c.transferFromHost m i length).2.phase = c.phase := by
  have phase : (c.check c.hasDataOut .dataOutCommand).phase = c.phase := rfl
  unfold transferFromHost at all ⊢
  rw [← phase]
  generalize c.check c.hasDataOut .dataOutCommand = c at all ⊢
  dsimp only at all ⊢
  cases here : c.luns c.getEffectiveLun with
  | none =>
    rw [here] at all
  | some dev =>
    rw [here] at all
    dsimp only at all ⊢
    cases ran : c.runHandler i.env c.getEffectiveLun dev (c.receiveParameters m dev length) with
    | mk result d =>
      have still : d.phase = c.phase := (congrArg (·.2.phase) ran).symm
      rw [ran] at all
      cases result with
      | ok transferred => exact still
      | error x => exact Bool.noConfusion all

theorem doesReceive (out : c.phase = .msgOut ∨ c.phase = .dataOut) : Does i c (c.receive m i) := by
  have checked : Aside c c.checkReceive := asideCheckReceive
  have phase : c.checkReceive.phase = c.phase := rfl
  have early : c.phase ≠ .msgIn := by
    rcases out with at_ | at_ <;> rw [at_] <;> decide
  unfold receive
  refine Does.after i checked phase early rfl ?_
  rw [← phase] at out
  generalize c.checkReceive = c at out ⊢
  dsimp only
  split
  · next more => exact doesReceiveBytes i out more
  · unfold chunkReceived
    dsimp only
    rcases out with at_ | at_
    · rw [at_]
      dsimp only
      generalize min c.transfer.chunkSize c.transfer.remainingLength = length
      have same : Aside c (c.updateTransferLength length).xferMsg := (asideUpdate length).trans (asideSame rfl rfl rfl rfl)
      have still : (c.updateTransferLength length).xferMsg.phase = .msgOut := at_
      refine Does.after i same (still.trans at_.symm) (by rw [at_]; decide) rfl ?_
      generalize (c.updateTransferLength length).xferMsg = c at still ⊢
      split
      · exact asideCheckNextChunk.does (by rw [still]; decide)
      · exact opensProcessMessage m i still
    · rw [at_]
      dsimp only
      have busy : c.phase ≠ .busFree := by
        rw [at_]
        decide
      have same := asideTransferFromHost m i busy (min c.transfer.chunkSize c.transfer.remainingLength)
      have other : c.phase ≠ .command := by
        rw [at_]
        decide
      have still := transferPhase m i (min c.transfer.chunkSize c.transfer.remainingLength) (c := c)
      refine Aside.does (same.trans ?_) other
      generalize c.transferFromHost m i (min c.transfer.chunkSize c.transfer.remainingLength) = result at still ⊢
      obtain ⟨done,d⟩ := result
      dsimp only at still ⊢
      split
      · exact asideSame rfl rfl rfl rfl
      · next all =>
        have phase := still (by simpa using all)
        split
        · exact asideCheckNextChunk
        · exact asideStatus i (phase ▸ busy)

theorem doesSend (sending : c.phase = .dataIn ∨ c.phase = .status ∨ c.phase = .msgIn) : Does i c (c.send m i) := by
  have busy : c.phase ≠ .busFree := by
    rcases sending with at_ | at_ | at_ <;> rw [at_] <;> decide
  have other : c.phase ≠ .command := by
    rcases sending with at_ | at_ | at_ <;> rw [at_] <;> decide
  have host (d : Controller δ) (same : d.phase = c.phase) : Aside d (d.transferToHost m i) :=
    asideTransferToHost m i (same ▸ busy)
  unfold send
  by_cases message : c.phase = .msgIn
  · have checked : Aside c c.checkSend := asideCheckSend
    have phase : c.checkSend.phase = .msgIn := message
    have may : c.transfer.currentLength = 0 → (c.atnMsg || c.linked) = true → MayOpen c := fun sent chained =>
      .inr (.inr ⟨message,sent,Bool.or_eq_true_iff.mp chained⟩)
    unfold sendWith
    have length : c.checkSend.transfer.currentLength = c.transfer.currentLength := rfl
    have flags : (c.checkSend.atnMsg || c.checkSend.linked) = (c.atnMsg || c.linked) := rfl
    rw [← length,← flags] at may
    generalize c.checkSend = d at *
    dsimp only
    split
    · exact (checked.trans (asideSendBytes i (phase ▸ by decide))).does other
    · next sent =>
      have sent := Decidable.not_not.mp sent
      have updated := checked.trans (asideUpdate d.transfer.chunkSize)
      have phase : (d.updateTransferLength d.transfer.chunkSize).phase = .msgIn := phase
      have flags : ((d.updateTransferLength d.transfer.chunkSize).atnMsg || (d.updateTransferLength d.transfer.chunkSize).linked) =
        (d.atnMsg || d.linked) := rfl
      unfold chunkSent
      rw [← flags] at may
      generalize d.updateTransferLength d.transfer.chunkSize = x at *
      dsimp only
      rw [phase]
      split
      · exact updated.does other
      · unfold processEndOfMessage
        dsimp only
        split
        · next chained =>
          refine Opens.does (Opens.after updated.writes updated.target updated.lun ?_) (may sent chained)
          have opens := opensCommand (c := x.resetFlags) m i (show x.phase ≠ .command by rw [phase]; decide)
          exact ⟨opens.writes,opens.target,opens.lun⟩
        · exact (updated.trans (asideBusFree (phase ▸ by decide))).does other
  · exact Aside.does (asideSendWith i busy host fun d _ at_ => absurd at_ message) other

theorem doesReset : Does i c c.reset := by
  refine ⟨.nothing ⟨[.reset],rfl,rfl⟩ (.inr (.inl (.inl rfl))),rfl,fun l known => ?_⟩
  cases known

omit [Derives δ PrimaryDevice] in
theorem doesBusFree (free : c.phase = .busFree) : Does i c c.busFree := by
  unfold busFree
  rw [if_neg (by rw [free]; decide)]
  split
  · exact ⟨.nothing (writesLog rfl rfl) (.inr (.inr (.inl ⟨free,rfl⟩))),rfl,fun _ known => .inl known⟩
  · exact (asideSame rfl rfl rfl rfl).does (by rw [free]; decide)

theorem doesSelection (selected : c.phase = .selection) : Does i c (c.selection m i) := by
  unfold selection
  split
  · split
    · unfold msgOut
      rw [if_neg (by rw [selected]; decide)]
      refine ⟨.nothing (writesLog (x := .entered .msgOut) traceEnterMsgOut rfl) (.inr (.inr (.inr ⟨selected,?_⟩))),?_,?_⟩
      · rfl
      · unfold enterMsgOut
        split <;> rfl
      · intro l known
        unfold enterMsgOut at known
        split at known <;> exact .inl known
    · exact (opensCommand m i (by rw [selected]; decide)).does (.inl selected)
  · exact (asideSame rfl rfl rfl rfl).does (by rw [selected]; decide)

theorem doesProcess : Does i c (c.process m i) := by
  have acquired {d : Controller δ} (does : Does i (c.acquire i) d) : Does i c d := by
    refine ⟨?_,does.target,does.lun⟩
    cases does.entry with
    | nothing writes moves => exact .nothing writes moves
    | command lun buf may writes whole fits ends => exact .command lun buf may writes whole fits ends
    | data at_ more writes ends => exact .data at_ more writes ends
  unfold process
  refine acquired ?_
  generalize c.acquire i = c
  dsimp only
  split
  · exact doesReset i
  · unfold processPhase
    cases at_ : c.phase with
    | busFree => exact doesBusFree i at_
    | selection => exact doesSelection m i at_
    | command =>
      unfold command
      rw [if_pos at_]
      exact ⟨.nothing (writesNothing rfl) (.inl rfl),rfl,fun _ known => .inl known⟩
    | dataIn => exact doesSend m i (.inl at_)
    | dataOut => exact doesReceive m i (.inr at_)
    | status => exact doesSend m i (.inr (.inl at_))
    | msgIn => exact doesSend m i (.inr (.inr at_))
    | msgOut => exact doesReceive m i (.inl at_)
    | _ => exact (asideError (by rw [at_]; decide) ..).does (by rw [at_]; decide)

end

/-! Whole runs. -/

/- The commands that have been received so far. Data belong to the last one. -/
def record (commands : List Received) : Event → List Received
  | .fetched lun buf => commands ++ [{ lun, cdb := buf }]
  | .received .dataOut bytes => commands.dropLast ++ (commands.getLast?.map fun r => { r with data := r.data ++ bytes }).toList
  | _ => commands

def received (trace : List Event) : List Received := trace.foldl record []

/- No command follows another one without a selection, and the data of a command are a
single chunk that arrives as a whole. -/
def Careful (c : Controller δ) : Action → Prop
  | .select _ => True
  | .process i =>
    (c.phase = .msgIn → c.transfer.currentLength = 0 → c.atnMsg = false ∧ c.linked = false) ∧
    (c.phase = .dataOut → c.transfer.currentLength ≠ 0 → i.bytes.take c.transfer.currentLength.toNat = [] ∨
      c.transfer.currentLength ≤ i.bytes.length ∧ ∀ r, (received c.trace).getLast? = some r → r.data = [])

section
variable [Derives δ PrimaryDevice] (m : Methods δ)

def CarefulRun (c : Controller δ) : List Action → Prop
  | [] => True
  | action::rest => Careful c action ∧ CarefulRun (c.step m action) rest

end

/- Where a command is, and where none is. -/
structure Placed (p : BusPhase) (last : Option Received) : Prop where
  before : p = .busFree ∨ p = .selection ∨ p = .msgOut → last = none
  data : p = .dataOut → last ≠ none
  phase : p ∉ [.arbitration,.reselection,.reserved]

structure Script (id : Nat) (p : BusPhase) (commands : List Received) (file : List Char) : Prop where
  parts : ∃ lines last, file = scriptText id lines last ∧ commands = lines.filterMap (·) ++ last.toList ∧
    (∀ r, some r ∈ lines ∨ last = some r → r.Valid) ∧ Placed p last

structure Kept (id : Nat) (s : ScriptedController δ) : Prop where
  target : s.controller.targetId = id
  lun : ∀ l, s.controller.identifiedLun = some l → l < 32
  script : Script id s.controller.phase (received s.controller.trace) s.file

theorem writesReceived {events : List Event} (writes : Writes c d events) :
    received d.trace = events.foldl record (received c.trace) := by
  obtain ⟨new,grown,rfl⟩ := writes
  unfold received
  rw [grown,List.foldl_append]
  generalize c.trace.foldl record [] = commands
  clear grown
  induction new generalizing commands with
  | nil => rfl
  | cons event new ih =>
    rw [List.foldl_cons,ih]
    cases quiet : scripted event with
    | true => rw [List.filter_cons_of_pos quiet,List.foldl_cons]
    | false =>
      have same : record commands event = commands := by
        cases event with
        | fetched => cases quiet
        | received p bytes => cases p <;> first | rfl | cases quiet
        | _ => rfl
      rw [List.filter_cons_of_neg (by rw [quiet]; decide),same]

theorem writesText {events : List Event} (writes : Writes c d events) :
    (d.trace.drop c.trace.length).flatMap (ScriptedController.addToScript c) =
      events.flatMap (ScriptedController.addToScript c) := by
  obtain ⟨new,grown,rfl⟩ := writes
  rw [grown,List.drop_left]
  clear grown
  induction new with
  | nil => rfl
  | cons event new ih =>
    rw [List.flatMap_cons]
    cases quiet : scripted event with
    | true => rw [List.filter_cons_of_pos quiet,List.flatMap_cons,ih]
    | false =>
      have same : ScriptedController.addToScript c event = [] := by
        cases event with
        | fetched => cases quiet
        | received p bytes => cases p <;> first | rfl | cases quiet
        | _ => rfl
      rw [List.filter_cons_of_neg (by rw [quiet]; decide),same,ih,List.nil_append]

theorem wholeText {buf : Bytes} (whole : Whole buf) (id lun : Nat) (cdb : Bytes) :
    ScriptGenerator.addCdb id lun (setBytes cdb 0 buf) = Received.text id { lun, cdb := buf } := by
  have some : buf.length ≠ 0 := fun none => whole.1 (List.length_eq_zero_iff.mp none)
  have stored : setBytes cdb 0 buf = buf ++ cdb.drop buf.length := by
    simp [setBytes,overwrite]
  have first : (setBytes cdb 0 buf).getD 0 0 = buf.getD 0 0 := by
    rw [stored]
    cases buf with
    | nil => exact absurd rfl whole.1
    | cons b buf => rfl
  unfold Received.text ScriptGenerator.addCdb
  dsimp only
  rw [first,whole.2,if_neg some,if_pos rfl,stored,List.take_left,if_neg some,List.take_length,List.append_nil]

theorem wholeValid {buf : Bytes} (whole : Whole buf) {lun : Nat} (fits : lun < 32) : Received.Valid { lun, cdb := buf } :=
  ⟨fits,whole.1,whole.2⟩

theorem recordNothing {commands : List Received} : record commands (.received .dataOut []) = commands := by
  have same (r : Received) : { r with data := r.data ++ [] } = r := by rw [List.append_nil]
  rw [record]
  rcases List.eq_nil_or_concat commands with rfl | ⟨commands,r,rfl⟩
  · rfl
  · rw [List.concat_eq_append,List.dropLast_concat,List.getLast?_concat,Option.map_some,same]
    rfl

/-! What the entries are. -/

variable {id : Nat} {lines : List (Option Received)} {last : Option Received} {r : Received}

theorem textLine : scriptText id lines last ++ ScriptGenerator.writeEol = scriptText id (lines ++ [last]) none := by
  simp only [scriptText,List.flatMap_append,List.flatMap_cons,List.flatMap_nil,List.append_nil,List.append_assoc,Option.elim]

theorem textCommand : scriptText id lines none ++ r.text id = scriptText id lines (some r) := by
  simp only [scriptText,Option.elim,List.append_nil]

theorem textData (none : r.data = []) {bytes : Bytes} (some : bytes ≠ []) :
    scriptText id lines (.some r) ++ ScriptGenerator.addData bytes =
      scriptText id lines (.some { r with data := r.data ++ bytes }) := by
  simp only [scriptText,Option.elim,Received.text,none,if_true,List.nil_append,if_neg some,List.append_nil,List.append_assoc]

/- The line ends with the selection. -/
theorem Script.ended {p : BusPhase} {commands : List Received} {file : List Char} (script : Script id p commands file) :
    Script id .busFree commands (file ++ ScriptGenerator.writeEol) := by
  obtain ⟨lines,last,rfl,rfl,valid,placed⟩ := script.parts
  refine ⟨lines ++ [last],none,textLine,?_,fun r listed => valid r ?_,⟨fun _ => rfl,fun wrong => (by cases wrong),by decide⟩⟩
  · cases last <;> simp
  · rcases listed with listed | wrong
    · exact (List.mem_append.mp listed).imp_right fun same => (List.mem_singleton.mp same).symm
    · cases wrong

/- The phase is one in which nothing changes for the script. -/
theorem Script.moved {p q : BusPhase} {commands : List Received} {file : List Char} (script : Script id p commands file)
    (phase : q = p ∨ Later q ∧ q ≠ .busFree ∨ p = .busFree ∧ q = .selection ∨ p = .selection ∧ q = .msgOut) :
    Script id q commands file := by
  obtain ⟨lines,last,text,same,valid,placed⟩ := script.parts
  refine ⟨lines,last,text,same,valid,?_⟩
  rcases phase with rfl | ⟨later,busy⟩ | ⟨free,rfl⟩ | ⟨selected,rfl⟩
  · exact placed
  · refine ⟨?_,?_,?_⟩
    · rintro (rfl | rfl | rfl)
      · exact absurd rfl busy
      · exact absurd later (by decide)
      · exact absurd later (by decide)
    · rintro rfl
      exact absurd later (by decide)
    · rcases later with rfl | rfl | rfl | rfl <;> decide
  · exact ⟨fun _ => placed.before (.inl free),fun wrong => (by cases wrong),by decide⟩
  · exact ⟨fun _ => placed.before (.inr (.inl selected)),fun wrong => (by cases wrong),by decide⟩

theorem Script.command {p q : BusPhase} {commands : List Received} {file : List Char} (script : Script id p commands file)
    (early : p = .selection ∨ p = .msgOut) (valid : r.Valid) (working : q = .command ∨ q = .dataOut ∨ Later q ∧ q ≠ .busFree) :
    Script id q (commands ++ [r]) (file ++ r.text id) := by
  obtain ⟨lines,last,rfl,rfl,known,placed⟩ := script.parts
  cases placed.before (.inr early)
  refine ⟨lines,some r,textCommand,?_,?_,?_⟩
  · rw [Option.toList_none,List.append_nil]
    rfl
  · intro x listed
    rcases listed with listed | same
    · exact known x (.inl listed)
    · exact Option.some.inj same ▸ valid
  · refine ⟨?_,fun _ wrong => (by cases wrong),?_⟩
    · rintro (rfl | rfl | rfl)
      · rcases working with wrong | wrong | wrong
        · cases wrong
        · cases wrong
        · exact absurd rfl wrong.2
      · exact absurd working (by decide)
      · exact absurd working (by decide)
    · rcases working with rfl | rfl | ⟨rfl | rfl | rfl | rfl,_⟩ <;> decide

theorem Script.data {p q : BusPhase} {commands : List Received} {file : List Char} (script : Script id p commands file)
    (out : p = .dataOut) {bytes : Bytes} (some : bytes ≠ []) (first : ∀ r, commands.getLast? = .some r → r.data = [])
    (working : q = .dataOut ∨ Later q ∧ q ≠ .busFree) :
    Script id q (record commands (.received .dataOut bytes)) (file ++ ScriptGenerator.addData bytes) := by
  obtain ⟨lines,last,rfl,rfl,known,placed⟩ := script.parts
  cases last with
  | none => exact absurd rfl (placed.data out)
  | some r =>
    have last : (lines.filterMap (·) ++ (Option.some r).toList).getLast? = .some r := List.getLast?_concat
    refine ⟨lines,.some { r with data := r.data ++ bytes },textData (first r last) some,?_,?_,?_⟩
    · rw [record,last]
      exact congrArg (· ++ _) List.dropLast_concat
    · intro x listed
      rcases listed with listed | same
      · exact known x (.inl listed)
      · have valid := known r (.inr rfl)
        cases same
        exact ⟨valid.lun,valid.some,valid.count⟩
    · refine ⟨?_,fun _ wrong => (by cases wrong),?_⟩
      · rintro (rfl | rfl | rfl)
        · rcases working with wrong | wrong
          · cases wrong
          · exact absurd rfl wrong.2
        · exact absurd working (by decide)
        · exact absurd working (by decide)
      · rcases working with rfl | ⟨rfl | rfl | rfl | rfl,_⟩ <;> decide

section
variable [Derives δ PrimaryDevice] {m : Methods δ}

/- Process is called again until the bus is free. -/
theorem againIff {i : Input} (valid : c.phase ∉ [.arbitration,.reselection,.reserved]) :
    ScriptedController.processAgain m c i = decide ((c.process m i).phase ≠ .busFree) := by
  unfold ScriptedController.processAgain
  cases reset : (c.acquire i).lines.rst with
  | true =>
    have free : (c.process m i).phase = .busFree := by
      unfold process
      rw [if_pos reset]
      rfl
    simp [free]
  | false => simp [valid]

theorem stepKept {s : ScriptedController δ} {action : Action} (careful : Careful s.controller action) (kept : Kept id s) :
    Kept id (s.step m action) := by
  cases action with
  | select ids =>
    have same : Aside s.controller (s.controller.step m (.select ids)) := by
      unfold Controller.step
      dsimp only
      split <;> exact asideSame rfl rfl rfl rfl
    have phase : (s.controller.step m (.select ids)).phase = s.controller.phase := by
      unfold Controller.step
      dsimp only
      split <;> rfl
    refine ⟨same.target.trans kept.target,fun l known => (same.lun l known).elim (kept.lun l) fun h => h,?_⟩
    change Script id (s.controller.step m (.select ids)).phase (received (s.controller.step m (.select ids)).trace)
      (s.file ++ _ ++ [])
    rw [phase,writesReceived same.writes,writesText same.writes,List.append_nil,List.flatMap_nil,List.append_nil]
    exact kept.script
  | process i =>
    obtain ⟨entry,target,lun⟩ := doesProcess m i (c := s.controller)
    refine ⟨target.trans kept.target,fun l known => (lun l known).elim (kept.lun l) fun h => h,?_⟩
    have valid : s.controller.phase ∉ [.arbitration,.reselection,.reserved] := by
      obtain ⟨lines,last,_,_,_,placed⟩ := kept.script.parts
      exact placed.phase
    change Script id (s.controller.process m i).phase (received (s.controller.process m i).trace)
      (s.file ++ ((s.controller.process m i).trace.drop s.controller.trace.length).flatMap
        (ScriptedController.addToScript s.controller) ++ if ScriptedController.processAgain m s.controller i then [] else ScriptGenerator.writeEol)
    rw [againIff valid]
    generalize s.controller.process m i = d at *
    -- Where the bus is free now, the line is ended after the entry.
    have ended {commands : List Received} {file : List Char}
        (script : Script id (if d.phase = .busFree then .status else d.phase) commands file) :
        Script id d.phase commands (file ++ if decide (d.phase ≠ .busFree) then [] else ScriptGenerator.writeEol) := by
      by_cases free : d.phase = .busFree
      · rw [if_pos free] at script
        rw [free]
        exact script.ended
      · rw [if_neg free] at script
        rw [if_pos (decide_eq_true free),List.append_nil]
        exact script
    have settled (later : Later d.phase) : Later (if d.phase = .busFree then .status else d.phase) ∧
        (if d.phase = .busFree then BusPhase.status else d.phase) ≠ .busFree := by
      by_cases free : d.phase = .busFree
      · rw [if_pos free]
        decide
      · rw [if_neg free]
        exact ⟨later,free⟩
    have busy {p : BusPhase} (same : d.phase = p) (other : p ≠ .busFree) :
        (if d.phase = .busFree then BusPhase.status else d.phase) = p := by
      rw [if_neg (same ▸ other),same]
    refine ended ?_
    cases entry with
    | nothing writes moves =>
      rw [writesReceived writes,writesText writes,List.flatMap_nil,List.append_nil]
      refine kept.script.moved ?_
      rcases moves with still | later | ⟨free,selected⟩ | ⟨selected,out⟩
      · by_cases free : d.phase = .busFree
        · rw [if_pos free]
          exact .inr (.inl (by decide))
        · rw [if_neg free]
          exact .inl still
      · exact .inr (.inl (settled later))
      · exact .inr (.inr (.inl ⟨free,busy selected (by decide)⟩))
      · exact .inr (.inr (.inr ⟨selected,busy out (by decide)⟩))
    | command lun buf may writes whole fits phase =>
      have early : s.controller.phase = .selection ∨ s.controller.phase = .msgOut := by
        rcases may with at_ | at_ | ⟨at_,sent,chained⟩
        · exact .inl at_
        · exact .inr at_
        · obtain ⟨released,single⟩ := careful.1 at_ sent
          rcases chained with wrong | wrong
          · exact Bool.noConfusion (released.symm.trans wrong)
          · exact Bool.noConfusion (single.symm.trans wrong)
      rw [writesReceived writes,writesText writes,List.flatMap_singleton]
      change Script id _ (_ ++ [{ lun, cdb := buf }]) (s.file ++ ScriptGenerator.addCdb s.controller.targetId lun _)
      rw [wholeText whole,kept.target]
      refine kept.script.command early (wholeValid whole (fits kept.lun)) ?_
      rcases phase with at_ | at_ | later
      · exact .inl (busy at_ (by decide))
      · exact .inr (.inl (busy at_ (by decide)))
      · exact .inr (.inr (settled later))
    | data out more writes phase =>
      rw [writesReceived writes,writesText writes,List.flatMap_singleton]
      have working : (if d.phase = .busFree then BusPhase.status else d.phase) = .dataOut ∨
          Later (if d.phase = .busFree then .status else d.phase) ∧
            (if d.phase = .busFree then BusPhase.status else d.phase) ≠ .busFree := by
        rcases phase with at_ | later
        · exact .inl (busy at_ (by decide))
        · exact .inr (settled later)
      rw [List.foldl_cons,List.foldl_nil,ScriptedController.addToScript]
      by_cases none : i.bytes.take s.controller.transfer.currentLength.toNat = []
      · have empty : ((([] : Bytes).length : Nat) : Int) ≠ s.controller.transfer.currentLength := fun same => more same.symm
        rw [none,recordNothing,if_neg empty,List.append_nil]
        refine kept.script.moved ?_
        rcases working with still | later
        · exact .inl (still.trans out.symm)
        · exact .inr (.inl later)
      · obtain ⟨whole,first⟩ := (careful.2 out more).resolve_left none
        have all : ((i.bytes.take s.controller.transfer.currentLength.toNat).length : Int) =
            s.controller.transfer.currentLength := by
          have some : s.controller.transfer.currentLength.toNat ≠ 0 := fun zero => none (by rw [zero,List.take_zero])
          rw [List.length_take]
          omega
        rw [if_pos all]
        exact kept.script.data out none first working

theorem runKept {s : ScriptedController δ} {actions : List Action} (careful : CarefulRun m s.controller actions)
    (kept : Kept id s) : Kept id (s.run m actions) := by
  induction actions generalizing s with
  | nil => exact kept
  | cons action rest ih => exact ih careful.2 (stepKept careful.1 kept)

/- A controller that has been created for a target ID and has not been selected yet. -/
structure Fresh (c : Controller δ) : Prop where
  phase : c.phase = .busFree
  lun : c.identifiedLun = none
  trace : c.trace = []

/- The script of a run replays all commands that have been received, in their order. -/
def Replayed (m : Methods δ) (env : ExecEnv) (c : Controller δ) (actions : List Action) : Prop :=
  (S2pExec.feed env (ScriptedController.run m ⟨c,[]⟩ actions).file).executions =
    (received (c.run m actions).trace).map (Received.execution c.targetId)

omit [Derives δ PrimaryDevice] in
theorem freshKept (fresh : Fresh c) : Kept c.targetId ⟨c,[]⟩ := by
  refine ⟨rfl,fun l known => ?_,⟨[],none,rfl,?_,?_,?_⟩⟩
  · rw [fresh.lun] at known
    cases known
  · change received c.trace = _
    rw [fresh.trace]
    rfl
  · intro r listed
    rcases listed with wrong | wrong
    · exact absurd wrong List.not_mem_nil
    · cases wrong
  · change Placed c.phase none
    rw [fresh.phase]
    exact ⟨fun _ => rfl,fun wrong => (by cases wrong),by decide⟩

theorem runController (s : ScriptedController δ) (actions : List Action) :
    (s.run m actions).controller = s.controller.run m actions := by
  induction actions generalizing s with
  | nil => rfl
  | cons action rest ih => exact ih (s.step m action)

/- In each run in which a selection is for one command, and the data of a command are one
chunk, the script replays the commands, unless the ID is the one of the initiator. -/
theorem scriptReplays (m : Methods δ) (env : ExecEnv) (bus : env.initBus = true) (c : Controller δ) (fresh : Fresh c)
    (other : c.targetId < 7) (actions : List Action) (careful : CarefulRun m c actions) : Replayed m env c actions := by
  have kept := runKept (s := ⟨c,[]⟩) careful (freshKept fresh)
  obtain ⟨lines,last,text,commands,valid,_⟩ := kept.script.parts
  have started : Ready {} := ⟨rfl,rfl,rfl,rfl,rfl,rfl,rfl⟩
  unfold Replayed S2pExec.feed
  rw [runController] at commands
  rw [text,commands]
  exact scriptFed other bus valid started (Nat.lt_succ_self _)

end

/-! A device that knows TEST UNIT READY. -/

def selectThen (cdbs : List Bytes) : List Action :=
  .select 0x81 :: .process { sel := true } :: cdbs.flatMap fun cdb =>
    [.process { bytes := cdb },.process {},.process {},.process {}]

def linkedTestUnitReady : Bytes := [0,0,0,0,0,1]

theorem targetFresh : Fresh MessageOut.target := ⟨rfl,rfl,rfl⟩

/- Nothing is sent or received that the script could miss. -/
def quietly (c : Controller PrimaryDevice) : List Action → Bool
  | [] => true
  | action::rest => c.phase ≠ .dataOut && (c.phase ≠ .msgIn || (!c.atnMsg && !c.linked)) &&
    quietly (c.step MessageOut.methods action) rest

theorem quietlyCareful {c : Controller PrimaryDevice} {actions : List Action} (quiet : quietly c actions = true) :
    CarefulRun MessageOut.methods c actions := by
  induction actions generalizing c with
  | nil => trivial
  | cons action rest ih =>
    rw [quietly] at quiet
    simp only [Bool.and_eq_true,Bool.or_eq_true,decide_eq_true_eq,Bool.not_eq_true'] at quiet
    refine ⟨?_,ih quiet.2⟩
    cases action with
    | select ids => trivial
    | process i => exact ⟨fun at_ _ => quiet.1.2.resolve_left fun other => other at_,fun at_ => absurd at_ quiet.1.1⟩

theorem testUnitReadyReplayed : Replayed MessageOut.methods {} MessageOut.target (selectThen [MessageOut.testUnitReady]) :=
  scriptReplays MessageOut.methods {} rfl MessageOut.target targetFresh (by decide) _ (quietlyCareful (by decide +kernel))

/- Two linked commands are on one line, and only the last one is executed. -/
theorem linkedCommandLost : ¬∀ (δ : Type) (_ : Derives δ PrimaryDevice) (m : Methods δ) (env : ExecEnv) (c : Controller δ)
    (actions : List Action), env.initBus = true → Fresh c → c.targetId < 8 → Replayed m env c actions := by
  intro claimed
  have replayed := claimed PrimaryDevice inferInstance MessageOut.methods {} MessageOut.target
    (selectThen [linkedTestUnitReady,MessageOut.testUnitReady]) rfl targetFresh (by decide)
  have single : (S2pExec.feed {} (ScriptedController.run MessageOut.methods ⟨MessageOut.target,[]⟩
      (selectThen [linkedTestUnitReady,MessageOut.testUnitReady])).file).executions.length = 1 := by decide +kernel
  have two : (received (MessageOut.target.run MessageOut.methods
      (selectThen [linkedTestUnitReady,MessageOut.testUnitReady])).trace).length = 2 := by decide +kernel
  unfold Replayed at replayed
  rw [replayed,List.length_map,two] at single
  cases single

end Scsi2Pi.ScriptReplay
