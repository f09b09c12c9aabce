import Scsi2Pi.Trace

/-! The messages of one selection, and what the target owes for them. A byte
takes two steps of the target: it is received, and then looked at. ATN stays
asserted until the last byte has been received. -/
namespace Scsi2Pi.MessageOut
open Controller Slices MemoryUtil

variable {δ : Type} [Derives δ PrimaryDevice]

def bytesOut (cdb : Bytes) (env : Env) : Bytes → List Action
  | [] => []
  | [b] => [.process { atn := true, bytes := [b] },.process { bytes := cdb, env }]
  | b::next::rest =>
    .process { atn := true, bytes := [b] } :: .process { atn := true } :: bytesOut cdb env (next::rest)

/- A selection with ATN, the messages, and the CDB for the COMMAND phase. -/
def selection (ids : Nat) (messages cdb : Bytes) (env : Env) : List Action :=
  .select ids :: .process { sel := true, atn := true } :: .process { atn := true } ::
    bytesOut cdb env messages

/- The LUN that the last IDENTIFY names. -/
def lastIdentify (messages : Bytes) : Option Nat :=
  (messages.filter (MessageCode.identify ≤ ·)).getLast?.map fun b => (b &&& 0x1f).toNat

abbrev extended : UInt8 := 0x01

/- What a selection with these messages has to lead to, whatever the initiator
does later. -/
def Handled (m : Methods δ) (c : Controller δ) (ids : Nat) (messages cdb : Bytes) (env : Env) : Prop :=
  let actions := selection ids messages cdb env
  let events (later : List Action) := (c.run m (actions ++ later)).trace.drop c.trace.length
  if MessageCode.abort ∈ messages ∨ MessageCode.busDeviceReset ∈ messages then
    (c.run m actions).phase = .busFree ∧ ∀ e ∈ events [], Quiet e
  else if extended ∈ messages then
    ∀ later before after, events later = before ++ .entered .command :: after →
      .sent .msgIn [MessageCode.messageReject] ∈ before
  else ∃ before after, events [] = before ++ .entered .command :: after ∧
    (0 < (commandHandShake cdb).2 → ∃ lun rest,
      after = .fetched lun (commandHandShake cdb).1 :: rest ∧ (∀ e ∈ rest, Quiet e) ∧
        ∀ l, lastIdentify messages = some l → lun = l)

/- A message that the target only notes. -/
def Plain (b : UInt8) : Prop :=
  b ≠ extended ∧ b ≠ MessageCode.abort ∧ b ≠ MessageCode.busDeviceReset

instance : DecidablePred Plain := fun _ => inferInstanceAs (Decidable (_ ∧ _ ∧ _))

/- Events before the COMMAND phase; nothing is sent to the initiator. -/
abbrev Silent (e : Event) : Prop := Quiet e ∧ ∀ p bytes, e ≠ .sent p bytes

/-! Parsing. -/

theorem silentEntered {p : BusPhase} (other : p ≠ .command) : Silent (.entered p) :=
  ⟨by cases p <;> first | rfl | exact absurd rfl other,by simp⟩

/- Whatever the messages are, the target does nothing that the initiator sees. -/
theorem parseSilent (c : Controller δ) (inMsgOut : c.phase = .msgOut) (ext : Bool) (messages : Bytes) :
    Adds Silent c (c.parseMessage ext messages) ∧ (c.parseMessage ext messages).phase ≠ .command := by
  have free : ∀ d : Controller δ, d.trace = c.trace → d.phase = .msgOut →
      Adds Silent c d.busFree ∧ d.busFree.phase ≠ .command := by
    intro d same inMsgOut
    have entered : d.busFree = d.enterBusFree := by simp [busFree,inMsgOut]
    rw [entered]
    exact ⟨addsLog (by rw [traceEnterBusFree,same]) (silentEntered (by decide)),by simp [enterBusFree,setPhase,log,setStatus]⟩
  induction messages generalizing c ext with
  | nil =>
    cases ext <;> exact ⟨addsNothing rfl,by simp [parseMessage,inMsgOut]⟩
  | cons b rest ih =>
    cases ext with
    | true =>
      exact ⟨addsLog rfl (silentEntered (by decide)),by simp [parseMessage,enterMsgIn,setPhase,log,setLines,resetOffset]⟩
    | false =>
      unfold parseMessage
      split
      · exact ih c inMsgOut true free
      · split
        · exact free c rfl inMsgOut
        · split
          · exact free _ rfl inMsgOut
          · split
            · exact ih { c with identifiedLun := some (b &&& 0x1f).toNat } inMsgOut false free
            · exact ih c inMsgOut false free

/- Plain messages only set the LUN. -/
theorem parsePlain (c : Controller δ) (messages : Bytes) (plain : ∀ b ∈ messages, Plain b) :
    c.parseMessage false messages =
      { c with identifiedLun := (lastIdentify messages).or c.identifiedLun } := by
  induction messages generalizing c with
  | nil => rfl
  | cons b rest ih =>
    obtain ⟨notExtended,notAbort,notReset⟩ := plain b List.mem_cons_self
    have plainRest : ∀ b ∈ rest, Plain b := fun x member => plain x (List.mem_cons_of_mem b member)
    unfold parseMessage
    rw [if_neg notExtended,if_neg notAbort,if_neg notReset]
    by_cases identify : MessageCode.identify ≤ b
    · rw [if_pos identify,ih _ plainRest]
      have last : lastIdentify (b::rest) = (lastIdentify rest).or (some (b &&& 0x1f).toNat) := by
        unfold lastIdentify
        rw [List.filter_cons_of_pos (by simpa using identify),List.getLast?_cons]
        cases (rest.filter (MessageCode.identify ≤ ·)).getLast? <;> rfl
      rw [last]
      cases lastIdentify rest <;> rfl
    · rw [if_neg identify,ih _ plainRest]
      have last : lastIdentify (b::rest) = lastIdentify rest := by
        unfold lastIdentify
        rw [List.filter_cons_of_neg (by simpa using identify)]
      rw [last]

/-! The selection. -/

/- The bus is free and nobody drives it. -/
structure Idle (c : Controller δ) : Prop where
  phase : c.phase = .busFree
  bsy : c.lines.bsy = false
  rst : c.lines.rst = false

/- The target waits for the next message byte. -/
structure Receiving (start : Controller δ) (done : Bytes) (c : Controller δ) : Prop where
  phase : c.phase = .msgOut
  rst : c.lines.rst = false
  currentLength : c.transfer.currentLength = 1
  remainingLength : c.transfer.remainingLength = 1
  chunkSize : c.transfer.chunkSize = 1
  offset : c.offset = 0
  atnMsg : c.atnMsg = true
  msgBytes : c.msgBytes = done
  identifiedLun : c.identifiedLun = start.identifiedLun
  events : Adds Silent start c

theorem selected (m : Methods δ) {c : Controller δ} (idle : Idle c) (ids : Nat) :
    Receiving c [] (c.run m [.select ids,.process { sel := true, atn := true },.process { atn := true }]) := by
  obtain ⟨phase,bsy,rst⟩ := idle
  constructor <;>
    simp [run,step,process,acquire,rst,phase,processPhase,busFree,bsy,enterSelection,setPhase,log,
      Controller.selection,msgOut,enterMsgOut,setLines,resetOffset,Controller.setCurrentLength,
      Controller.setTransferSize,Transfer.setCurrentLength,Transfer.setTransferSize]
  exact ⟨[.entered .selection,.entered .msgOut],by simp,by simp [Silent,Quiet,opensCommand]⟩

/- The first step takes the byte off the bus. -/
theorem takesByte (m : Methods δ) {c : Controller δ} (phase : c.phase = .msgOut) (rst : c.lines.rst = false)
    (length : c.transfer.currentLength = 1) (offset : c.offset = 0) (b : UInt8) :
    let i : Input := { atn := true, bytes := [b] }
    c.process m i = { (c.acquire i).checkReceive with
      trace := (c.acquire i).checkReceive.trace ++ [.received .msgOut [b]]
      offset := 1
      transfer := { c.transfer with buffer := b :: c.transfer.buffer.drop 1, currentLength := 0 } } := by
  simp [process,acquire,rst,phase,processPhase,receive,checkReceive,check,length,offset,receiveBytes,log,
    updateOffsetAndLength,setBytes,overwrite]

/- The second step looks at it. -/
theorem readsByte (m : Methods δ) {c : Controller δ} (phase : c.phase = .msgOut) (rst : c.lines.rst = false)
    (length : c.transfer.currentLength = 0) (remaining : c.transfer.remainingLength = 1)
    (chunk : c.transfer.chunkSize = 1) (i : Input) (running : i.rst = false) :
    c.process m i = (((c.acquire i).checkReceive.updateTransferLength 1).xferMsg).processMessage m i := by
  have inMsgOut : (c.acquire i).checkReceive.phase = .msgOut := phase
  have done : (((c.acquire i).checkReceive.updateTransferLength 1).xferMsg).transfer.remainingLength = 0 := by
    simp [updateTransferLength,xferMsg,check,checkReceive,acquire,Transfer.updateTransferLength,remaining]
  have sizes : min (c.acquire i).checkReceive.transfer.chunkSize
      (c.acquire i).checkReceive.transfer.remainingLength = 1 := by
    simp [checkReceive,check,acquire,chunk,remaining]
  have empty : ¬(c.acquire i).checkReceive.transfer.currentLength ≠ 0 := not_not.mpr length
  have up : (c.acquire i).lines.rst = false := by simp [acquire,rst,running]
  calc c.process m i = (c.acquire i).receive m i := by
        simp only [process,up,processPhase]
        rw [show (c.acquire i).phase = .msgOut from phase]
        rfl
    _ = (c.acquire i).checkReceive.chunkReceived m i := by
        simp only [receive,if_neg empty]
    _ = _ := by
        simp only [chunkReceived,inMsgOut,sizes,done]
        rfl

/- What the target knows when it looks at a byte. -/
structure Received (start : Controller δ) (done : Bytes) (i : Input) (c : Controller δ) : Prop where
  phase : c.phase = .msgOut
  rst : c.lines.rst = false
  atn : c.lines.atn = i.atn
  atnMsg : c.atnMsg = true
  msgBytes : c.msgBytes = done
  identifiedLun : c.identifiedLun = start.identifiedLun
  events : Adds Silent start c

theorem receivesByte (m : Methods δ) {start c : Controller δ} {done : Bytes} (h : Receiving start done c)
    (b : UInt8) (i : Input) (running : i.rst = false) :
    ∃ d : Controller δ, c.run m [.process { atn := true, bytes := [b] },.process i] = d.processMessage m i ∧
      Received start (done ++ [b]) i d := by
  obtain ⟨phase,rst,currentLength,remainingLength,chunkSize,offset,atnMsg,msgBytes,lun,events⟩ := h
  have first := takesByte m phase rst currentLength offset b
  dsimp only at first
  have second := readsByte m (c := c.process m { atn := true, bytes := [b] }) (by rw [first]; exact phase)
    (by rw [first]; simp [acquire,checkReceive,check,rst]) (by rw [first]) (by rw [first]; exact remainingLength)
    (by rw [first]; exact chunkSize) i running
  have checked : ∀ c : Controller δ, Adds Silent c c.checkReceive := fun c =>
    addsTrans (d := c.check (!c.lines.req) .receiveLines) (addsCheck _ (by simp [Silent,Quiet,opensCommand]))
      (addsCheck _ (by simp [Silent,Quiet,opensCommand]))
  refine ⟨_,second,?_⟩
  rw [first]
  constructor
  · exact phase
  · simp [xferMsg,updateTransferLength,check,checkReceive,acquire,rst,running]
  · rfl
  · exact atnMsg
  · simp [xferMsg,updateTransferLength,check,checkReceive,acquire,Transfer.updateTransferLength,atnMsg,msgBytes]
  · exact lun
  · let taking := (c.acquire { atn := true, bytes := [b] }).checkReceive
    have taken : Adds Silent c (taking.log (.received .msgOut [b])) :=
      addsTrans (d := taking) (checked (c.acquire { atn := true, bytes := [b] }))
        (addsLog rfl (by simp [Silent,Quiet,opensCommand]))
    rw [← first]
    refine addsTrans events (addsTrans (d := c.process m { atn := true, bytes := [b] }) ?_ ?_)
    · rw [first]
      exact taken
    · exact addsTrans (d := ((c.process m { atn := true, bytes := [b] }).acquire i).checkReceive)
        (checked ((c.process m { atn := true, bytes := [b] }).acquire i))
        (addsTrans (addsUpdateTransferLength (by simp [Silent,Quiet,opensCommand]) 1) (addsNothing rfl))

/- With ATN still asserted the next byte is due. -/
theorem receivesNext (m : Methods δ) {start d : Controller δ} {done : Bytes} {i : Input} (h : Received start done i d)
    (atn : i.atn = true) : Receiving start done (d.processMessage m i) := by
  have more : d.processMessage m i = ((d.resetOffset).setCurrentLength 1).setTransferSize 1 1 := by
    simp [processMessage,h.atn,atn]
  rw [more]
  exact ⟨h.phase,h.rst,rfl,rfl,rfl,rfl,h.atnMsg,h.msgBytes,h.identifiedLun,h.events⟩

/- With ATN released the messages are parsed, and COMMAND follows in any case. -/
theorem receivesLast (m : Methods δ) {start d : Controller δ} {done : Bytes} {i : Input} (h : Received start done i d)
    (atn : i.atn = false) :
    d.processMessage m i = ({ d with atnMsg := false }.parseMessage false done).command m i := by
  simp [processMessage,h.atn,atn,h.atnMsg,h.msgBytes]

/- The whole selection ends with parsing its messages and entering COMMAND. -/
theorem endsInCommand (m : Methods δ) {c : Controller δ} (idle : Idle c) (ids : Nat) (first : UInt8)
    (rest cdb : Bytes) (env : Env) :
    ∃ d : Controller δ, d.phase = .msgOut ∧ d.identifiedLun = c.identifiedLun ∧ Adds Silent c d ∧
      c.run m (selection ids (first::rest) cdb env) =
        (d.parseMessage false (first::rest)).command m { bytes := cdb, env } := by
  have messages : ∀ (rest done : Bytes) (b : UInt8) (e : Controller δ), Receiving c done e →
      ∃ d : Controller δ, d.phase = .msgOut ∧ d.identifiedLun = c.identifiedLun ∧ Adds Silent c d ∧
        e.run m (bytesOut cdb env (b::rest)) =
          (d.parseMessage false (done ++ b::rest)).command m { bytes := cdb, env } := by
    intro rest
    induction rest with
    | nil =>
      intro done b e waiting
      obtain ⟨d,ran,received⟩ := receivesByte m waiting b { bytes := cdb, env } rfl
      exact ⟨{ d with atnMsg := false },received.phase,received.identifiedLun,received.events,
        ran.trans (receivesLast m received rfl)⟩
    | cons next rest ih =>
      intro done b e waiting
      obtain ⟨d,ran,received⟩ := receivesByte m waiting b { atn := true } rfl
      obtain ⟨d',phase,lun,events,ended⟩ := ih (done ++ [b]) next _ (receivesNext m received rfl)
      refine ⟨d',phase,lun,events,?_⟩
      rw [List.append_assoc] at ended
      exact (congrArg (run m · (bytesOut cdb env (next::rest))) ran).trans ended
  exact messages rest [] first _ (selected m idle ids)

/- In COMMAND the LUN of the last IDENTIFY is in effect, if the messages are plain. -/
theorem eventsOfSelection (m : Methods δ) {c : Controller δ} (idle : Idle c) (ids : Nat) (first : UInt8)
    (rest cdb : Bytes) (env : Env) :
    ∃ before after, (c.run m (selection ids (first::rest) cdb env)).trace =
        c.trace ++ (before ++ .entered .command :: after) ∧ (∀ e ∈ before, Silent e) ∧
      ((∀ b ∈ first::rest, Plain b) → 0 < (commandHandShake cdb).2 → ∃ lun later,
        after = .fetched lun (commandHandShake cdb).1 :: later ∧ (∀ e ∈ later, Quiet e) ∧
          ∀ l, lastIdentify (first::rest) = some l → lun = l) := by
  obtain ⟨d,phase,lun,events,ran⟩ := endsInCommand m idle ids first rest cdb env
  obtain ⟨parsed,other⟩ := parseSilent d phase false (first::rest)
  obtain ⟨before,grown,silent⟩ := addsTrans events parsed
  obtain ⟨after,entered,fetched⟩ := addsCommand m { bytes := cdb, env } other
  refine ⟨before,after,?_,silent,?_⟩
  · rw [ran,entered,grown,List.append_assoc]
  · intro plain arrives
    obtain ⟨lun,later,opened,quiet,identified⟩ := fetched arrives
    refine ⟨lun,later,opened,quiet,fun l last => identified l ?_⟩
    rw [parsePlain d _ plain,last]
    rfl

/- The target does what the messages ask for exactly when it may ignore them all
but IDENTIFY: it enters COMMAND in any case. -/
theorem handledIffPlain (m : Methods δ) {c : Controller δ} (idle : Idle c) (ids : Nat) (first : UInt8)
    (rest cdb : Bytes) (env : Env) :
    Handled m c ids (first::rest) cdb env ↔ ∀ b ∈ first::rest, Plain b := by
  obtain ⟨before,after,grown,silent,fetched⟩ := eventsOfSelection m idle ids first rest cdb env
  have events : ((c.run m (selection ids (first::rest) cdb env ++ [])).trace.drop c.trace.length) =
      before ++ .entered .command :: after := by
    rw [List.append_nil,grown,List.drop_left]
  unfold Handled
  dsimp only
  rw [events]
  by_cases freed : MessageCode.abort ∈ first::rest ∨ MessageCode.busDeviceReset ∈ first::rest
  · rw [if_pos freed]
    constructor
    · intro ⟨_,quiet⟩
      exact absurd (quiet (.entered .command) (by simp)) (by decide)
    · intro plain
      rcases freed with abort | reset
      · exact absurd rfl (plain _ abort).2.1
      · exact absurd rfl (plain _ reset).2.2
  · rw [if_neg freed]
    by_cases rejected : extended ∈ first::rest
    · rw [if_pos rejected]
      constructor
      · intro rejects
        exact absurd rfl ((silent _ (rejects [] before after events)).2 _ _)
      · exact fun plain => absurd rfl (plain _ rejected).1
    · rw [if_neg rejected]
      have plain : ∀ b ∈ first::rest, Plain b := by
        intro b member
        exact ⟨fun same => rejected (same ▸ member),fun same => freed (.inl (same ▸ member)),
          fun same => freed (.inr (same ▸ member))⟩
      exact ⟨fun _ => plain,fun _ => ⟨before,after,rfl,fetched plain⟩⟩

/-! A target with one device that knows the commands of all devices. -/

def methods : Methods PrimaryDevice where
  dispatch := Handler.dispatch (PrimaryDevice.commands (PrimaryDevice.inquiry (pure [])) PrimaryDevice.requestSense)
  readData := pure 0
  writeData _ length := pure length
  modeSelect _ := pure ()

def target : Controller PrimaryDevice where
  luns lun := if lun = 0 then some { type := .scdp, ready := true } else none

def testUnitReady : Bytes := [0,0,0,0,0,0]

theorem handledIffPlainIdentify :
    Handled methods target 0x81 [0xc0] testUnitReady {} ↔ ∀ b ∈ ([0xc0] : Bytes), Plain b :=
  handledIffPlain methods ⟨rfl,rfl,rfl⟩ 0x81 0xc0 [] testUnitReady {}

/- IDENTIFY and ABORT: the command that follows is executed. -/
theorem abortIgnored : ¬Handled methods target 0x81 [0xc0,0x06] testUnitReady {} := by
  intro handled
  obtain ⟨before,after,grown,_⟩ :=
    eventsOfSelection methods (c := target) ⟨rfl,rfl,rfl⟩ 0x81 0xc0 [0x06] testUnitReady {}
  unfold Handled at handled
  dsimp only at handled
  rw [if_pos (by decide)] at handled
  have quiet := handled.2
  rw [List.append_nil,grown,List.drop_left] at quiet
  exact absurd (quiet (.entered .command) (by simp)) (by decide)

end Scsi2Pi.MessageOut
