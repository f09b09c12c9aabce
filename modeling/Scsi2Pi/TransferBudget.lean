import Mathlib.Algebra.GroupWithZero.Nat
import Scsi2Pi.ScsiAccess
import Scsi2Pi.Trace

/-! How many bytes one command sends in DATA IN: what the transfer data of the
controller still allow, along any run. Outside of the data phases the chunk being
worked on is always the last one. -/
namespace Scsi2Pi.TransferBudget
open Controller Slices MemoryUtil Derives

def sentBy : Event → Nat
  | .sent .dataIn bytes => bytes.length
  | _ => 0

def startedBy : Event → Nat
  | .entered .command => 1
  | _ => 0

variable {δ : Type}

/- The DATA IN bytes and the COMMAND phases so far. -/
def dataInSent (c : Controller δ) : Nat := (c.trace.map sentBy).sum

def commands (c : Controller δ) : Nat := (c.trace.map startedBy).sum

def LastChunk (t : Transfer) : Prop := t.remainingLength ≤ t.chunkSize ∧ 0 ≤ t.chunkSize

/- A reset clears the transfer data, and a DATA OUT phase ends with a new transfer. -/
def Settled (c : Controller δ) : Prop :=
  c.lines.rst = true ∨ c.phase = .dataIn ∨ c.phase = .dataOut ∨ LastChunk c.transfer

/- Neither DATA IN bytes nor a new command. -/
abbrev Hushed (e : Event) : Prop := sentBy e = 0 ∧ startedBy e = 0

structure Rests (c d : Controller δ) : Prop where
  hushed : Adds Hushed c d
  phase : d.phase ≠ .dataIn
  settled : Settled d

/- Where Command is called: not in a data phase, and without a reset. -/
structure Ready (c d : Controller δ) : Prop where
  hushed : Adds Hushed c d
  phase : d.phase ≠ .command
  rst : d.lines.rst = false
  last : LastChunk d.transfer

variable {c d e : Controller δ}

theorem sumHushed {events : List Event} (hushed : ∀ e ∈ events, Hushed e) :
    (events.map sentBy).sum = 0 ∧ (events.map startedBy).sum = 0 := by
  induction events with
  | nil => exact ⟨rfl,rfl⟩
  | cons e rest ih =>
    have here := hushed e List.mem_cons_self
    have later := ih fun x member => hushed x (List.mem_cons_of_mem _ member)
    rw [List.map_cons,List.sum_cons,here.1,later.1,List.map_cons,List.sum_cons,here.2,later.2]
    exact ⟨rfl,rfl⟩

theorem hushedSame (h : Adds Hushed c d) : dataInSent d = dataInSent c ∧ commands d = commands c := by
  obtain ⟨new,grown,hushed⟩ := h
  have none := sumHushed hushed
  rw [dataInSent,commands,grown,List.map_append,List.sum_append,none.1,List.map_append,List.sum_append,none.2]
  exact ⟨rfl,rfl⟩

theorem sentLogged (event : Event) (logged : d.trace = c.trace ++ [event]) :
    dataInSent d = dataInSent c + sentBy event ∧ commands d = commands c + startedBy event := by
  simp only [dataInSent,commands,logged,List.map_append,List.sum_append,List.map_cons,List.map_nil,List.sum_cons,
    List.sum_nil,Nat.add_zero]
  exact ⟨trivial,trivial⟩

theorem hushedEntered {p : BusPhase} (other : p ≠ .command) : Hushed (.entered p) := by
  cases p with
  | command => exact absurd rfl other
  | _ => exact ⟨rfl,rfl⟩

theorem hushedSent {p : BusPhase} (other : p ≠ .dataIn) (bytes : Bytes) : Hushed (.sent p bytes) := by
  cases p with
  | dataIn => exact absurd rfl other
  | _ => exact ⟨rfl,rfl⟩

theorem Rests.after (first : Adds Hushed c d) (h : Rests d e) : Rests c e :=
  ⟨addsTrans first h.hushed,h.phase,h.settled⟩

theorem Ready.after (first : Adds Hushed c d) (h : Ready d e) : Ready c e :=
  ⟨addsTrans first h.hushed,h.phase,h.rst,h.last⟩

theorem lastOne (t : Transfer) (length : Int) :
    LastChunk ((t.setCurrentLength length).setTransferSize 1 1) := ⟨Int.le_refl 1,Int.zero_le_ofNat 1⟩

/- The last chunk is all that remains. -/
theorem updatedLast {t : Transfer} (h : LastChunk t) {length : Int} (all : t.remainingLength ≤ length) :
    (t.updateTransferLength length).remainingLength = 0 ∧ LastChunk (t.updateTransferLength length) := by
  have none : max (t.remainingLength - length) 0 = 0 := by omega
  have positive := h.2
  unfold LastChunk Transfer.updateTransferLength
  dsimp only
  rw [none]
  split
  · exact ⟨rfl,by decide,by decide⟩
  · next notLess => exact ⟨rfl,positive,positive⟩

/-! Ends of a command. -/

theorem restsEnterStatus (c : Controller δ) : Rests c c.enterStatus :=
  ⟨addsLog rfl (hushedEntered (by decide)),by change BusPhase.status ≠ _; decide,
    .inr (.inr (.inr (lastOne c.resetOffset.transfer 1)))⟩

theorem restsBusFree (h : c.lines.rst = true ∨ LastChunk c.transfer) : Rests c c.busFree := by
  have kept : ∀ {d : Controller δ}, d.lines.rst = c.lines.rst → d.transfer.remainingLength = c.transfer.remainingLength →
      d.transfer.chunkSize = c.transfer.chunkSize → Settled d := by
    intro d rst remaining chunk
    rcases h with reset | last
    · exact .inl (rst.trans reset)
    · refine .inr (.inr (.inr ?_))
      rw [LastChunk,remaining,chunk]
      exact last
  unfold busFree
  split
  · exact ⟨addsLog rfl (hushedEntered (by decide)),by change BusPhase.busFree ≠ _; decide,kept rfl rfl rfl⟩
  · next free =>
    split
    · exact ⟨addsLog rfl (hushedEntered (by decide)),by change BusPhase.selection ≠ _; decide,kept rfl rfl rfl⟩
    · refine ⟨addsNothing rfl,?_,kept rfl rfl rfl⟩
      rw [not_not.mp free]
      decide

theorem restsCheck {holds : Bool} {a : Assertion} (phase : c.phase ≠ .dataIn) (settled : Settled c) :
    Rests c (c.check holds a) :=
  ⟨addsCheck holds ⟨rfl,rfl⟩,phase,settled⟩

theorem addsCheckSend : Adds Hushed c c.checkSend :=
  addsTrans (d := c.check (!c.lines.req) .sendLines) (addsCheck _ ⟨rfl,rfl⟩) (addsCheck _ ⟨rfl,rfl⟩)

theorem addsUpdate (length : Int) : Adds Hushed c (c.updateTransferLength length) :=
  addsUpdateTransferLength (P := Hushed) ⟨rfl,rfl⟩ length

/- Only the end of a message goes on with something else. -/
theorem chunkSentEnds (phase : c.phase ≠ .dataIn) (last : LastChunk c.transfer)
    (toHost endOfMessage : Controller δ → Controller δ) :
    Rests c (c.chunkSent toHost endOfMessage) ∨
      c.phase = .msgIn ∧ ∃ d, c.chunkSent toHost endOfMessage = endOfMessage d ∧ Adds Hushed c d ∧
        d.phase = .msgIn ∧ d.lines = c.lines ∧ LastChunk d.transfer := by
  have updated := updatedLast last last.1
  unfold chunkSent
  have added := addsUpdate (c := c) c.transfer.chunkSize
  have sameLines : (c.updateTransferLength c.transfer.chunkSize).lines = c.lines := rfl
  have samePhase : (c.updateTransferLength c.transfer.chunkSize).phase = c.phase := rfl
  change (c.updateTransferLength c.transfer.chunkSize).transfer.remainingLength = 0 ∧
    LastChunk (c.updateTransferLength c.transfer.chunkSize).transfer at updated
  generalize c.updateTransferLength c.transfer.chunkSize = u at *
  dsimp only
  rw [if_neg (not_not.mpr updated.1)]
  split
  · next at_ => exact .inr ⟨samePhase ▸ at_,u,rfl,added,at_,sameLines,updated.2⟩
  · next at_ => exact absurd (samePhase ▸ at_) phase
  · refine .inl (Rests.after added ⟨addsLog rfl (hushedEntered (by decide)),?_,?_⟩)
    · change BusPhase.msgIn ≠ _
      decide
    · exact .inr (.inr (.inr (lastOne u.transfer 1)))
  · exact .inl ((restsCheck (by rw [samePhase]; exact phase) (.inr (.inr (.inr updated.2)))).after added)

theorem addsCheckReceive : Adds Hushed c c.checkReceive :=
  addsTrans (d := c.check (!c.lines.req) .receiveLines) (addsCheck _ ⟨rfl,rfl⟩) (addsCheck _ ⟨rfl,rfl⟩)

theorem restsCheckNextChunk (phase : c.phase ≠ .dataIn) (settled : Settled c) : Rests c c.checkNextChunk :=
  Rests.after (d := c.check (c.transfer.currentLength ≠ 0) .nextChunk) (addsCheck _ ⟨rfl,rfl⟩)
    (restsCheck phase settled)

theorem settledAcquire (settled : Settled c) (i : Input) : Settled (c.acquire i) := by
  rcases settled with reset | data | out | last
  · refine .inl ?_
    change (c.lines.rst || i.rst) = true
    rw [reset]
    rfl
  · exact .inr (.inl data)
  · exact .inr (.inr (.inl out))
  · exact .inr (.inr (.inr last))

theorem runHandlerRan {α : Type} {env : Env} {lun : Nat} {dev : δ} {h : Handler δ α} {t : HandlerState δ}
    {result : Except ScsiException α} (ran : h (c.request env) ⟨dev,c.transfer,c.world⟩ = (result,t)) :
    c.runHandler env lun dev h = (result,c.ranHandler lun t) := by
  unfold runHandler
  rw [ran]
  rfl

theorem dataInChunkEnds (toHost endOfMessage : Controller δ → Controller δ) (phase : c.phase = .dataIn) :
    Rests c (c.chunkSent toHost endOfMessage) ∨
      (c.updateTransferLength c.transfer.chunkSize).transfer.remainingLength ≠ 0 ∧
        c.chunkSent toHost endOfMessage = toHost (c.updateTransferLength c.transfer.chunkSize) := by
  have added := addsUpdate (c := c) c.transfer.chunkSize
  have at_ : (c.updateTransferLength c.transfer.chunkSize).phase = .dataIn := phase
  unfold chunkSent
  generalize c.updateTransferLength c.transfer.chunkSize = u at *
  dsimp only
  split
  · next more => exact .inr ⟨more,rfl⟩
  · rw [at_]
    exact .inl ((restsEnterStatus u).after added)

/-! Accounting. -/

/- A DATA IN phase with this many bytes in the buffer. -/
structure Offers (count : Int) (c d : Controller δ) : Prop where
  hushed : Adds Hushed c d
  phase : d.phase = .dataIn
  length : d.transfer.currentLength = count
  offset : d.offset = 0
  buffer : count.toNat ≤ d.transfer.buffer.length
  remaining : d.transfer.remainingLength = c.transfer.remainingLength
  chunk : d.transfer.chunkSize = c.transfer.chunkSize
  lun : d.luns d.getEffectiveLun = c.luns c.getEffectiveLun
  rst : d.lines.rst = c.lines.rst

/- Bytes that are still to be sent: those of the chunk, and those of the chunks after it. -/
def owed (c : Controller δ) : Nat :=
  if c.phase = .dataIn then
    c.transfer.currentLength.toNat + (c.transfer.remainingLength - c.transfer.chunkSize).toNat
  else 0

theorem owedIn (phase : c.phase = .dataIn) :
    owed c = c.transfer.currentLength.toNat + (c.transfer.remainingLength - c.transfer.chunkSize).toNat := if_pos phase

/- Only certain devices send more than one chunk. -/
def Orderly (S : δ → Prop) (c : Controller δ) : Prop :=
  c.transfer.remainingLength ≤ c.transfer.chunkSize ∨
    0 ≤ c.transfer.chunkSize ∧ ∃ d, c.luns c.getEffectiveLun = some d ∧ S d

structure Within (S : δ → Prop) (limit : Nat) (c : Controller δ) : Prop where
  bytes : dataInSent c + owed c ≤ limit
  settled : Settled c
  orderly : c.phase = .dataIn → Orderly S c

variable {S : δ → Prop} {limit : Nat}

theorem Within.rests (sent : dataInSent c ≤ limit) (h : Rests c d) : Within S limit d := by
  refine ⟨?_,h.settled,fun at_ => absurd at_ h.phase⟩
  rw [(hushedSame h.hushed).1,owed,if_neg h.phase]
  exact sent

theorem Within.offers {count : Int} (h : Offers count c d)
    (fits : dataInSent c + count.toNat + (c.transfer.remainingLength - c.transfer.chunkSize).toNat ≤ limit)
    (orderly : Orderly S c) : Within S limit d := by
  refine ⟨?_,.inr (.inl h.phase),fun _ => ?_⟩
  · rw [(hushedSame h.hushed).1,owed,if_pos h.phase,h.length,h.remaining,h.chunk,← Nat.add_assoc]
    exact fits
  · rw [Orderly,h.remaining,h.chunk,h.lun]
    exact orderly

/- The rest of the transfer when a chunk has been sent. -/
theorem updatedChunk (t : Transfer) (length : Int) :
    (t.updateTransferLength length).remainingLength = max (t.remainingLength - length) 0 ∧
      ((t.updateTransferLength length).chunkSize = t.chunkSize ∨
        (t.updateTransferLength length).chunkSize = (t.updateTransferLength length).remainingLength) ∧
      (t.updateTransferLength length).chunkSize ≤ (t.updateTransferLength length).remainingLength := by
  unfold Transfer.updateTransferLength
  dsimp only
  split
  · exact ⟨rfl,.inr rfl,by omega⟩
  · exact ⟨rfl,.inl rfl,by omega⟩

section
variable [Derives δ PrimaryDevice]

/- An error reported late in a command releases the bus. -/
theorem restsError (s : SenseKey) (a : Asc) (status : StatusCode)
    (late : c.lines.rst = true ∨ c.phase ≠ .status ∧ c.phase ≠ .msgIn ∨ LastChunk c.transfer) :
    Rests c (c.error s a status) := by
  unfold error
  split
  · next free =>
    refine restsBusFree ?_
    rcases late with reset | ⟨status,msgIn⟩ | last
    · exact .inl reset
    · simp only [status,msgIn,decide_false,Bool.or_false] at free
      exact .inl free
    · exact .inr last
  · refine (restsEnterStatus _).after (addsNothing ?_)
    split <;> rfl

theorem restsRaise (s : SenseKey) (a : Asc) (late : c.phase ≠ .status ∧ c.phase ≠ .msgIn) :
    Rests c (c.raiseDeferredError s a) :=
  Rests.after (d := { c with deferredSenseKey := s, deferredAsc := a }) (addsNothing rfl)
    (restsError s a .checkCondition (.inr (.inl late)))

/-! STATUS and MESSAGE IN. -/

theorem restsSendBytes (i : Input) (phase : c.phase ≠ .dataIn) (last : LastChunk c.transfer) :
    Rests c (c.sendBytes i) := by
  unfold sendBytes
  dsimp only
  generalize slice _ _ _ = bytes
  have logged : Adds Hushed c (c.log (.sent c.phase bytes)) := addsLog rfl (hushedSent phase bytes)
  split
  · exact Rests.after (d := (c.log (.sent c.phase bytes)).setRst) (addsTrans logged (addsNothing rfl))
      (restsError _ _ _ (.inl rfl))
  · exact ⟨addsTrans logged (addsNothing rfl),phase,.inr (.inr (.inr last))⟩

theorem restsStatus (i : Input) (phase : c.phase ≠ .dataIn) (last : c.phase = .status → LastChunk c.transfer) :
    Rests c (c.status i) := by
  unfold status
  split
  · next at_ =>
    have checked : c.checkSend.phase ≠ .dataIn := phase
    have ended : LastChunk c.checkSend.transfer := last at_
    unfold sendWith
    refine Rests.after (d := c.checkSend) addsCheckSend ?_
    dsimp only
    split
    · exact restsSendBytes i checked ended
    · rcases chunkSentEnds checked ended id id with rests | ⟨msgIn,_⟩
      · exact rests
      · exact absurd (at_.symm.trans msgIn) (by decide)
  · exact restsEnterStatus c

/-! One step outside of DATA IN: either nothing is sent there, or Command is called. -/

variable (m : Methods δ)

def Onward (i : Input) (c d : Controller δ) : Prop := Rests c d ∨ ∃ e, Ready c e ∧ d = e.command m i

variable {m}

theorem Onward.after {i : Input} (first : Adds Hushed c d) (h : Onward m i d e) : Onward m i c e := by
  rcases h with rests | ⟨x,ready,same⟩
  · exact .inl (rests.after first)
  · exact .inr ⟨x,ready.after first,same⟩

theorem endOfMessageOnward (i : Input) (phase : c.phase = .msgIn) (rst : c.lines.rst = false)
    (last : LastChunk c.transfer) : Onward m i c (c.processEndOfMessage m i) := by
  unfold processEndOfMessage
  split
  · refine .inr ⟨c.resetFlags,⟨addsNothing rfl,?_,rst,last⟩,rfl⟩
    change c.phase ≠ _
    rw [phase]
    decide
  · exact .inl (restsBusFree (.inr last))

theorem sendOnward (i : Input) (phase : c.phase ≠ .dataIn) (rst : c.lines.rst = false)
    (last : LastChunk c.transfer) : Onward m i c (c.send m i) := by
  unfold send sendWith
  refine Onward.after (d := c.checkSend) addsCheckSend ?_
  have checked : c.checkSend.phase ≠ .dataIn := phase
  have ended : LastChunk c.checkSend.transfer := last
  have running : c.checkSend.lines.rst = false := rst
  generalize c.checkSend = c at *
  dsimp only
  split
  · exact .inl (restsSendBytes i checked ended)
  · rcases chunkSentEnds checked ended (transferToHost m · i) (processEndOfMessage m · i) with
      rests | ⟨_,d,same,added,at_,lines,last⟩
    · exact .inl rests
    · rw [same]
      exact (endOfMessageOnward i at_ (by rw [lines]; exact running) last).after added

theorem restsReceiveBytes (i : Input) (phase : c.phase ≠ .dataIn) (settled : Settled c) :
    Rests c (c.receiveBytes i) := by
  unfold receiveBytes
  dsimp only
  generalize i.bytes.take _ = bytes
  have logged : Adds Hushed c (c.log (.received c.phase bytes)) := addsLog rfl ⟨rfl,rfl⟩
  split
  · refine Rests.after ?_ (restsError _ _ _ (.inl rfl))
    exact addsTrans logged (addsNothing rfl)
  · exact ⟨addsTrans logged (addsNothing rfl),phase,settled⟩

/- The chunk is given to the device. -/
theorem transferFromHostEnds (i : Input) (length : Int) (phase : c.phase = .dataOut) :
    Adds Hushed c (c.transferFromHost m i length).2 ∧ (c.transferFromHost m i length).2.phase = .dataOut ∨
      (c.transferFromHost m i length).1 = false ∧ Rests c (c.transferFromHost m i length).2 := by
  unfold transferFromHost
  have added : Adds Hushed c (c.check c.hasDataOut .dataOutCommand) := addsCheck _ ⟨rfl,rfl⟩
  have at_ : (c.check c.hasDataOut .dataOutCommand).phase = .dataOut := phase
  generalize c.check c.hasDataOut .dataOutCommand = d at *
  dsimp only
  split
  · exact .inl ⟨added,at_⟩
  · next device here =>
    have same := d.traceRunHandler i.env d.getEffectiveLun device (d.receiveParameters m device length)
    have still : (d.runHandler i.env d.getEffectiveLun device (d.receiveParameters m device length)).2.phase = .dataOut :=
      at_
    cases ran : d.runHandler i.env d.getEffectiveLun device (d.receiveParameters m device length) with
    | mk result e =>
      rw [ran] at same still
      have reached : Adds Hushed c e := addsTrans added (addsNothing same)
      cases result with
      | ok transferred =>
        exact .inl ⟨addsTrans reached (addsTrans (addsUpdate transferred) (addsNothing rfl)),still⟩
      | error x =>
        refine .inr ⟨rfl,(restsError _ _ _ (.inr (.inl ?_))).after reached⟩
        rw [still]
        exact ⟨by decide,by decide⟩

theorem restsReceiveOut (i : Input) (phase : c.phase = .dataOut) : Rests c (c.receive m i) := by
  unfold receive
  refine Rests.after (d := c.checkReceive) addsCheckReceive ?_
  have at_ : c.checkReceive.phase = .dataOut := phase
  generalize c.checkReceive = c at *
  dsimp only
  split
  · exact restsReceiveBytes i (by rw [at_]; decide) (.inr (.inr (.inl at_)))
  · unfold chunkReceived
    generalize min c.transfer.chunkSize c.transfer.remainingLength = length
    rw [at_]
    dsimp only
    rcases transferFromHostEnds (m := m) i length at_ with ⟨added,still⟩ | ⟨failed,rests⟩
    · have out : (c.transferFromHost m i length).2.phase ≠ .dataIn := by
        rw [still]
        decide
      split
      · exact ⟨added,out,.inr (.inr (.inl still))⟩
      · split
        · exact (restsCheckNextChunk out (.inr (.inr (.inl still)))).after added
        · refine (restsStatus i out fun wrong => ?_).after added
          exact absurd (still.symm.trans wrong) (by decide)
    · rw [failed]
      exact rests

/-! Messages. -/

theorem readyParse (h : Ready c d) (ext : Bool) (bytes : Bytes) : Ready c (d.parseMessage ext bytes) := by
  have free : ∀ {e : Controller δ}, Ready c e → Ready c e.busFree := by
    intro e h
    have phase := h.phase
    unfold busFree
    split
    · exact ⟨addsTrans h.hushed (addsLog rfl (hushedEntered (by decide))),by change BusPhase.busFree ≠ _; decide,
        h.rst,h.last⟩
    · split
      · exact ⟨addsTrans h.hushed (addsLog rfl (hushedEntered (by decide))),by change BusPhase.selection ≠ _; decide,
          h.rst,h.last⟩
      · exact h
  induction bytes generalizing d ext with
  | nil => cases ext <;> exact h
  | cons b rest ih =>
    cases ext with
    | true =>
      exact ⟨addsTrans h.hushed (addsLog rfl (hushedEntered (by decide))),by change BusPhase.msgIn ≠ _; decide,h.rst,
        lastOne d.transfer 1⟩
    | false =>
      unfold parseMessage
      split
      · exact ih h true
      · split
        · exact free h
        · split
          · exact free ⟨addsTrans h.hushed (addsNothing rfl),h.phase,h.rst,h.last⟩
          · split
            · refine ih ?_ false
              exact ⟨addsTrans h.hushed (addsNothing rfl),h.phase,h.rst,h.last⟩
            · exact ih h false

theorem messageOnward (i : Input) (phase : c.phase = .msgOut) (rst : c.lines.rst = false)
    (last : LastChunk c.transfer) : Onward m i c (c.processMessage m i) := by
  have out : c.phase ≠ .command := by
    rw [phase]
    decide
  unfold processMessage
  split
  · refine .inl ⟨addsNothing rfl,?_,.inr (.inr (.inr (lastOne c.transfer 1)))⟩
    change c.phase ≠ _
    rw [phase]
    decide
  · refine .inr ⟨_,?_,rfl⟩
    split
    · refine readyParse ?_ false _
      exact ⟨addsNothing rfl,out,rst,last⟩
    · exact ⟨addsNothing rfl,out,rst,last⟩

theorem receiveMessageOnward (i : Input) (phase : c.phase = .msgOut) (rst : c.lines.rst = false)
    (last : LastChunk c.transfer) : Onward m i c (c.receive m i) := by
  unfold receive
  refine Onward.after (d := c.checkReceive) addsCheckReceive ?_
  have at_ : c.checkReceive.phase = .msgOut := phase
  have running : c.checkReceive.lines.rst = false := rst
  have ended : LastChunk c.checkReceive.transfer := last
  generalize c.checkReceive = c at *
  dsimp only
  split
  · exact .inl (restsReceiveBytes i (by rw [at_]; decide) (.inr (.inr (.inr ended))))
  · unfold chunkReceived
    rw [at_]
    dsimp only
    have all : c.transfer.remainingLength ≤ min c.transfer.chunkSize c.transfer.remainingLength :=
      by have first := ended.1; omega
    have updated := updatedLast ended all
    have added := addsUpdate (c := c) (min c.transfer.chunkSize c.transfer.remainingLength)
    change (c.updateTransferLength (min c.transfer.chunkSize c.transfer.remainingLength)).xferMsg.transfer.remainingLength = 0 ∧
      LastChunk (c.updateTransferLength (min c.transfer.chunkSize c.transfer.remainingLength)).xferMsg.transfer at updated
    rw [if_neg (not_not.mpr updated.1)]
    have noted : Adds Hushed c (c.updateTransferLength (min c.transfer.chunkSize c.transfer.remainingLength)).xferMsg :=
      addsTrans added (addsNothing rfl)
    refine Onward.after noted (messageOnward i ?_ ?_ updated.2)
    · exact at_
    · exact running

theorem selectionOnward (i : Input) (phase : c.phase = .selection) (rst : c.lines.rst = false)
    (last : LastChunk c.transfer) : Onward m i c (c.selection m i) := by
  unfold selection
  split
  · split
    · refine .inl ?_
      unfold msgOut
      rw [if_neg (by rw [phase]; decide)]
      refine ⟨addsLog traceEnterMsgOut (hushedEntered (by decide)),?_,.inr (.inr (.inr ?_))⟩
      · unfold enterMsgOut
        change BusPhase.msgOut ≠ _
        decide
      · unfold enterMsgOut
        exact lastOne _ 1
    · exact .inr ⟨c,⟨addsNothing rfl,by rw [phase]; decide,rst,last⟩,rfl⟩
  · exact .inl ⟨addsNothing rfl,by rw [phase]; decide,.inr (.inr (.inr last))⟩

theorem processPhaseOnward (i : Input) (settled : Settled c) (phase : c.phase ≠ .dataIn) (rst : c.lines.rst = false) :
    Onward m i c (c.processPhase m i) := by
  have last : c.phase ≠ .dataOut → LastChunk c.transfer := by
    intro other
    rcases settled with reset | at_ | at_ | last
    · rw [rst] at reset
      exact absurd reset (by decide)
    · exact absurd at_ phase
    · exact absurd at_ other
    · exact last
  unfold processPhase
  have lost : c.phase ≠ .dataOut → Rests c (c.error .abortedCommand .internalTargetFailure) :=
    fun other => restsError _ _ _ (.inr (.inr (last other)))
  cases at_ : c.phase with
  | dataIn => exact absurd at_ phase
  | dataOut => exact .inl (restsReceiveOut i at_)
  | busFree => exact .inl (restsBusFree (.inr (last (by rw [at_]; decide))))
  | selection => exact selectionOnward i at_ rst (last (by rw [at_]; decide))
  | command =>
    refine .inl ⟨addsNothing (by simp [command,at_]),?_,.inr (.inr (.inr ?_))⟩
    · simp [command,at_]
    · simp only [command,at_,if_true]
      exact last (by rw [at_]; decide)
  | status => exact sendOnward i phase rst (last (by rw [at_]; decide))
  | msgIn => exact sendOnward i phase rst (last (by rw [at_]; decide))
  | msgOut => exact receiveMessageOnward i at_ rst (last (by rw [at_]; decide))
  | arbitration => exact .inl (lost (by rw [at_]; decide))
  | reselection => exact .inl (lost (by rw [at_]; decide))
  | reserved => exact .inl (lost (by rw [at_]; decide))

theorem restsReset (c : Controller δ) : Rests c c.reset :=
  ⟨addsLog (e := .reset) rfl ⟨rfl,rfl⟩,by change BusPhase.busFree ≠ _; decide,
    .inr (.inr (.inr ⟨Int.le_refl 0,Int.le_refl 0⟩))⟩

theorem processOnward (i : Input) (settled : Settled c) (phase : c.phase ≠ .dataIn) :
    Onward m i c (c.process m i) := by
  refine Onward.after (d := c.acquire i) (addsNothing rfl) ?_
  have settled := settledAcquire settled i
  have at_ : (c.acquire i).phase ≠ .dataIn := phase
  unfold process
  generalize c.acquire i = c at *
  dsimp only
  split
  · exact .inl (restsReset c)
  · next running => exact processPhaseOnward i settled at_ (by simpa using running)

/-! Command. -/

theorem offersDataIn (i : Input) {count : Int} (nonzero : count ≠ 0) :
    Offers count c ((c.setCurrentLength count).startDataIn i) := by
  have entered : (c.setCurrentLength count).startDataIn i = (c.setCurrentLength count).enterDataIn := if_neg nonzero
  rw [entered]
  refine ⟨addsLog rfl (hushedEntered (by decide)),rfl,rfl,rfl,?_,rfl,rfl,rfl,rfl⟩
  change count.toNat ≤ (c.transfer.buffer ++ List.replicate (count.toNat - c.transfer.buffer.length) 0).length
  rw [List.length_append,List.length_replicate]
  omega

theorem startDataInEnds (i : Input) (length : Int) (phase : c.phase ≠ .dataIn)
    (last : c.phase = .status → LastChunk c.transfer) :
    Rests c ((c.setCurrentLength length).startDataIn i) ∨
      length ≠ 0 ∧ Offers length c ((c.setCurrentLength length).startDataIn i) := by
  by_cases none : length = 0
  · refine .inl (Rests.after (d := c.setCurrentLength length) (addsNothing rfl) ?_)
    have skipped : (c.setCurrentLength length).startDataIn i = (c.setCurrentLength length).status i := if_pos none
    rw [skipped]
    exact restsStatus i phase last
  · exact .inr ⟨none,offersDataIn i none⟩

/- The length that a handler hands over with DATA IN. -/
def Hands (call : PhaseCall) (length : Int) : Prop := call = .dataIn length ∨ call = .errorThenDataIn length

theorem callPhaseEnds (i : Input) (call : PhaseCall) (phase : c.phase ≠ .dataIn ∧ c.phase ≠ .status)
    (last : ∀ length, call = .errorThenDataIn length → LastChunk c.transfer) :
    Rests c (c.callPhase i call) ∨ ∃ length, length ≠ 0 ∧ Hands call length ∧ Offers length c (c.callPhase i call) := by
  have other : c.phase = .status → LastChunk c.transfer := fun at_ => absurd at_ phase.2
  cases call with
  | status => exact .inl (restsStatus i phase.1 other)
  | dataIn length =>
    rcases startDataInEnds i length phase.1 other with rests | ⟨nonzero,offers⟩
    · exact .inl rests
    · exact .inr ⟨length,nonzero,.inl rfl,offers⟩
  | dataOut length =>
    refine .inl ?_
    unfold callPhase startDataOut
    dsimp only
    split
    · exact Rests.after (d := c.setCurrentLength length) (addsNothing rfl) (restsStatus i phase.1 other)
    · refine ⟨addsLog (e := .entered .dataOut) ?_ (hushedEntered (by decide)),?_,.inr (.inr (.inl rfl))⟩
      · split <;> rfl
      · change BusPhase.dataOut ≠ _
        decide
  | errorThenDataIn length =>
    have ended := last length rfl
    let d := ((c.setPhase .status).setLines false true true).resetOffset
    have entered : Adds Hushed c d := addsLog rfl (hushedEntered (by decide))
    have at_ : d.phase ≠ .dataIn := by
      change BusPhase.status ≠ _
      decide
    rcases startDataInEnds (c := d) i length at_ fun _ => ended with rests | ⟨nonzero,offers⟩
    · exact .inl (rests.after entered)
    · refine .inr ⟨length,nonzero,.inr rfl,?_⟩
      exact ⟨addsTrans entered offers.hushed,offers.phase,offers.length,offers.offset,offers.buffer,offers.remaining,
        offers.chunk,offers.lun,offers.rst⟩

/- An error in REQUEST SENSE leaves a single byte to be sent. -/
def Accountable (m : Methods δ) : Prop :=
  ∀ cmd r s length t, m.dispatch cmd r s = (.ok (.errorThenDataIn length),t) → LastChunk t.transfer

/- The controller when the handler of a command is called. -/
def prepared (c : Controller δ) (lun : Nat) : Controller δ :=
  (((c.setCurrentLength 0).resetOffset).setTransferSize 0 0).discardSense lun

/- The LUN that executes a command: LUN 0 stands in for a missing one. -/
def executing (c : Controller δ) : Nat := if (c.luns c.getEffectiveLun).isNone then 0 else c.getEffectiveLun

/- A handler that has run and asked for DATA IN with so many bytes. -/
structure Runs (m : Methods δ) (i : Input) (c : Controller δ) (lun : Nat) (dev : δ) (t : HandlerState δ) (count : Int) :
    Prop where
  allowed : (base dev : PrimaryDevice).checkReservation (c.request i.env) = true
  ran : ∃ call, Hands call count ∧ m.dispatch c.opcode (c.request i.env) ⟨dev,c.transfer,c.world⟩ = (.ok call,t)

theorem dispatchToEnds (accountable : Accountable m) (i : Input) (lun : Nat) (dev : δ) (phase : c.phase = .command) :
    Rests c (c.dispatchTo m i lun dev) ∨
      ∃ t count, count ≠ 0 ∧ Runs m i c lun dev t count ∧ Offers count (c.ranHandler lun t) (c.dispatchTo m i lun dev) := by
  have early : ∀ {p : BusPhase}, p = .command → p ≠ .status ∧ p ≠ .msgIn := by
    rintro p rfl
    exact ⟨by decide,by decide⟩
  cases allowed : (base dev : PrimaryDevice).checkReservation (c.request i.env) with
  | false =>
    rw [dispatchRefused m allowed]
    exact .inl (restsError _ _ _ (.inr (.inl (early phase))))
  | true =>
    cases ran : m.dispatch c.opcode (c.request i.env) ⟨dev,c.transfer,c.world⟩ with
    | mk result t =>
      have added : Adds Hushed c (c.ranHandler lun t) := addsNothing rfl
      cases result with
      | error e =>
        have failed : c.dispatchTo m i lun dev = (c.ranHandler lun t).error e.senseKey e.asc := by
          rw [dispatchTo,if_pos allowed,runHandler,ran]
          rfl
        rw [failed]
        refine .inl ((restsError _ _ _ (.inr (.inl (early ?_)))).after added)
        exact phase
      | ok call =>
        rw [dispatchOk m allowed ran]
        have still : (c.ranHandler lun t).phase ≠ .dataIn ∧ (c.ranHandler lun t).phase ≠ .status := by
          change c.phase ≠ _ ∧ c.phase ≠ _
          rw [phase]
          exact ⟨by decide,by decide⟩
        rcases callPhaseEnds i call still (fun length asked => accountable _ _ _ length t (asked ▸ ran)) with
          rests | ⟨length,nonzero,hands,offers⟩
        · exact .inl (rests.after added)
        · exact .inr ⟨t,length,nonzero,⟨allowed,call,hands,ran⟩,offers⟩

theorem preparedSame (c : Controller δ) (lun : Nat) :
    (prepared c lun).trace = c.trace ∧ (prepared c lun).phase = c.phase ∧ (prepared c lun).lines = c.lines ∧
      (prepared c lun).opcode = c.opcode ∧ (prepared c lun).world = c.world ∧ (prepared c lun).cdb = c.cdb ∧
      (prepared c lun).transfer.remainingLength = 0 ∧ (prepared c lun).transfer.chunkSize = 0 ∧
      (prepared c lun).getEffectiveLun = c.getEffectiveLun ∧ (prepared c lun).initiatorId = c.initiatorId := by
  unfold prepared discardSense
  split <;> exact ⟨rfl,rfl,rfl,rfl,rfl,rfl,rfl,rfl,rfl,rfl⟩

/- Only INQUIRY and REQUEST SENSE are executed without their LUN. -/
theorem executeEnds (accountable : Accountable m) (i : Input) (phase : c.phase = .command) :
    Rests c (c.execute m i) ∨
      ∃ dev t count, count ≠ 0 ∧ (prepared c (executing c)).luns (executing c) = some dev ∧
        ((c.luns c.getEffectiveLun).isNone = true → c.opcode = .inquiry ∨ c.opcode = .requestSense) ∧
        Runs m i (prepared c (executing c)) (executing c) dev t count ∧
        Offers count ((prepared c (executing c)).ranHandler (executing c) t) (c.execute m i) := by
  have ready : Adds Hushed c (((c.setCurrentLength 0).resetOffset).setTransferSize 0 0) := addsNothing rfl
  obtain ⟨trace,at_,_,opcode,world,_,remaining,chunk,_⟩ := preparedSame c (executing c)
  have added : Adds Hushed c (prepared c (executing c)) := addsNothing trace
  unfold execute
  dsimp only
  split
  · refine .inl ((restsError _ _ _ (.inr (.inl ?_))).after ready)
    change c.phase ≠ _ ∧ c.phase ≠ _
    rw [phase]
    exact ⟨by decide,by decide⟩
  · next present =>
    have present : (c.luns c.getEffectiveLun).isNone = true → c.opcode = .inquiry ∨ c.opcode = .requestSense := by
      intro missing
      change ¬((c.luns c.getEffectiveLun).isNone && decide (c.opcode ≠ .inquiry) &&
        decide (c.opcode ≠ .requestSense)) = true at present
      rw [missing] at present
      by_cases inquiry : c.opcode = .inquiry
      · exact .inl inquiry
      · refine .inr ?_
        simpa [inquiry] using present
    split
    · refine .inl ⟨added,?_,.inr (.inr (.inr ?_))⟩
      · change (prepared c (executing c)).phase ≠ _
        rw [at_,phase]
        decide
      · change LastChunk (prepared c (executing c)).transfer
        rw [LastChunk,remaining,chunk]
        exact ⟨Int.le_refl 0,Int.le_refl 0⟩
    · next dev found =>
      rcases dispatchToEnds accountable i (executing c) dev (at_.trans phase) with
        rests | ⟨t,count,nonzero,runs,offers⟩
      · exact .inl (rests.after added)
      · exact .inr ⟨dev,t,count,nonzero,found,present,runs,offers⟩

/- The handler of a device that is there, or of LUN 0 in its place. -/
theorem executeRuns (i : Input) {dev : δ} {t : HandlerState δ} {call : PhaseCall}
    (present : (c.luns c.getEffectiveLun).isNone = true → c.opcode = .inquiry ∨ c.opcode = .requestSense)
    (found : (prepared c (executing c)).luns (executing c) = some dev)
    (allowed : (base dev : PrimaryDevice).checkReservation ((prepared c (executing c)).request i.env) = true)
    (ran : m.dispatch (prepared c (executing c)).opcode ((prepared c (executing c)).request i.env)
      ⟨dev,(prepared c (executing c)).transfer,(prepared c (executing c)).world⟩ = (.ok call,t)) :
    c.execute m i = ((prepared c (executing c)).ranHandler (executing c) t).callPhase i call := by
  unfold execute
  dsimp only
  split
  · next missing =>
    change ((c.luns c.getEffectiveLun).isNone && decide (c.opcode ≠ .inquiry) &&
      decide (c.opcode ≠ .requestSense)) = true at missing
    simp only [Bool.and_eq_true,decide_eq_true_eq] at missing
    rcases present missing.1.1 with inquiry | sense
    · exact absurd inquiry missing.1.2
    · exact absurd sense missing.2
  · split
    · next none => exact absurd (found.symm.trans none) (by simp)
    · next other here =>
      cases Option.some.inj (found.symm.trans here)
      exact dispatchOk m allowed ran

/-! DATA IN. -/

/- The bytes of the chunk, fewer if the initiator does not take all of them. -/
theorem sendBytesEnds (i : Input) : ∃ bytes, bytes.length ≤ c.transfer.currentLength.toNat ∧
    (c.sendBytes i = (c.log (.sent c.phase bytes)).updateOffsetAndLength ∨
      Rests (c.log (.sent c.phase bytes)) (c.sendBytes i)) := by
  refine ⟨slice c.transfer.buffer c.offset.toNat (i.accepted c.transfer.currentLength),?_,?_⟩
  · rw [sliceLength]
    have most : i.accepted c.transfer.currentLength ≤ c.transfer.currentLength.toNat := Nat.min_le_right _ _
    omega
  · unfold sendBytes
    dsimp only
    generalize slice _ _ _ = bytes
    split
    · exact .inr (Rests.after (d := (c.log (.sent c.phase bytes)).setRst) (addsNothing rfl)
        (restsError _ _ _ (.inl rfl)))
    · exact .inl rfl

/- The controller when the next chunk has been read. -/
def refill (c : Controller δ) : Controller δ :=
  if c.transfer.remainingLength ≠ 0 then
    (c.setCurrentLength (min c.transfer.remainingLength c.transfer.chunkSize)).resetOffset
  else c

/- Another chunk is read from the device, or an error ends the command. -/
theorem transferToHostEnds (i : Input) (phase : c.phase = .dataIn) :
    Rests c (c.transferToHost m i) ∨
      c.luns c.getEffectiveLun = none ∧ c.transferToHost m i = c.check (!c.hasDataOut) .dataInCommand ∨
      ∃ dev result t, c.luns c.getEffectiveLun = some dev ∧
        m.readData (c.request i.env) ⟨dev,c.transfer,c.world⟩ = (.ok result,t) ∧
        c.transferToHost m i = refill ((c.check (!c.hasDataOut) .dataInCommand).ranHandler c.getEffectiveLun t) := by
  have added : Adds Hushed c (c.check (!c.hasDataOut) .dataInCommand) := addsCheck _ ⟨rfl,rfl⟩
  cases here : c.luns c.getEffectiveLun with
  | none =>
    refine .inr (.inl ⟨rfl,?_⟩)
    unfold transferToHost
    dsimp only
    split
    · rfl
    · next dev found => exact absurd (here.symm.trans found) (by simp)
  | some dev =>
    cases ran : m.readData (c.request i.env) ⟨dev,c.transfer,c.world⟩ with
    | mk result t =>
      have ended : (c.check (!c.hasDataOut) .dataInCommand).runHandler i.env
          (c.check (!c.hasDataOut) .dataInCommand).getEffectiveLun dev m.readData =
          (result,(c.check (!c.hasDataOut) .dataInCommand).ranHandler c.getEffectiveLun t) := runHandlerRan ran
      have reached : Adds Hushed c ((c.check (!c.hasDataOut) .dataInCommand).ranHandler c.getEffectiveLun t) := added
      have still : ((c.check (!c.hasDataOut) .dataInCommand).ranHandler c.getEffectiveLun t).phase = .dataIn := phase
      unfold transferToHost
      dsimp only
      split
      · next missing => exact absurd (here.symm.trans missing) (by simp)
      · next other found =>
        cases Option.some.inj (here.symm.trans found)
        rw [ended]
        cases result with
        | error e =>
          refine .inl (Rests.after reached (restsError _ _ _ (.inr (.inl ?_))))
          rw [still]
          exact ⟨by decide,by decide⟩
        | ok transferred => exact .inr (.inr ⟨dev,transferred,t,rfl,ran,rfl⟩)

/-! Runs. -/

theorem dataInSettled (i : Input) (phase : c.phase = .dataIn) : Settled (c.send m i) := by
  unfold send sendWith
  have at_ : c.checkSend.phase = .dataIn := phase
  generalize c.checkSend = c at *
  dsimp only
  split
  · obtain ⟨bytes,_,sent | rests⟩ := sendBytesEnds (c := c) i
    · rw [sent]
      exact .inr (.inl at_)
    · exact rests.settled
  · rcases dataInChunkEnds (transferToHost m · i) (processEndOfMessage m · i) at_ with rests | ⟨_,same⟩
    · exact rests.settled
    · rw [same]
      have still : (c.updateTransferLength c.transfer.chunkSize).phase = .dataIn := at_
      generalize c.updateTransferLength c.transfer.chunkSize = u at *
      rcases transferToHostEnds (m := m) i still with rests | ⟨_,same⟩ | ⟨dev,result,t,_,_,same⟩
      · exact rests.settled
      · rw [same]
        exact .inr (.inl still)
      · rw [same]
        refine .inr (.inl ?_)
        unfold refill
        split <;> exact still

/- The sense data of the controller have a fixed length. -/
theorem provideSenseDataOffers (c : Controller δ) (i : Input) : Offers 18 c (c.provideSenseData i) := by
  unfold provideSenseData startDataIn
  dsimp only
  generalize set_ : setBytes _ 0 _ = buffer
  have filled : 18 ≤ buffer.length := by
    subst set_
    simp only [setBytes,overwrite,List.length_append,List.length_set,List.length_replicate]
    omega
  split
  · next none => exact absurd none (by change (18 : Int) ≠ 0; decide)
  · exact ⟨addsLog rfl (hushedEntered (by decide)),rfl,rfl,rfl,filled,rfl,rfl,rfl,rfl⟩

/- What Command starts. -/
theorem commandStarts (accountable : Accountable m) (i : Input) (phase : c.phase ≠ .command) :
    commands (c.command m i) = commands c + 1 ∧ dataInSent (c.command m i) = dataInSent c ∧
      Settled (c.command m i) := by
  unfold command
  rw [if_neg phase]
  generalize commandHandShake i.bytes = shaken
  obtain ⟨buf,count⟩ := shaken
  dsimp only
  have entered : dataInSent (c.enterCommand buf) = dataInSent c ∧ commands (c.enterCommand buf) = commands c + 1 :=
    sentLogged (.entered .command) rfl
  have at_ : (c.enterCommand buf).phase = .command := rfl
  generalize c.enterCommand buf = d at *
  have raised : ∀ {e : Controller δ} (s : SenseKey) (a : Asc), Adds Hushed d e → e.phase = .command →
      commands (e.raiseDeferredError s a) = commands c + 1 ∧ dataInSent (e.raiseDeferredError s a) = dataInSent c ∧
        Settled (e.raiseDeferredError s a) := by
    intro e s a added at_
    have rests := (restsRaise (c := e) s a (by rw [at_]; exact ⟨by decide,by decide⟩)).after added
    have same := hushedSame rests.hushed
    exact ⟨same.2.trans entered.2,same.1.trans entered.1,rests.settled⟩
  have starts : ∀ {e f : Controller δ} (length : Int), Adds Hushed d e → Rests e f ∨ Offers length e f →
      commands f = commands c + 1 ∧ dataInSent f = dataInSent c ∧ Settled f := by
    intro e f length added ends
    rcases ends with rests | offers
    · have same := hushedSame (addsTrans added rests.hushed)
      exact ⟨same.2.trans entered.2,same.1.trans entered.1,rests.settled⟩
    · have same := hushedSame (addsTrans added offers.hushed)
      exact ⟨same.2.trans entered.2,same.1.trans entered.1,.inr (.inl offers.phase)⟩
  split
  · exact raised _ _ (addsNothing rfl) at_
  · split
    · exact raised _ _ (addsNothing traceSetRst) at_
    · have fetched : Adds Hushed d (d.storeCdb buf) := addsLog (e := .fetched _ buf) rfl ⟨rfl,rfl⟩
      have still : (d.storeCdb buf).phase = .command := at_
      unfold acceptCdb
      generalize d.storeCdb buf = a at *
      dsimp only
      split
      · exact raised _ _ fetched still
      · split
        · exact starts 18 fetched (.inr (provideSenseDataOffers a i))
        · have ready : Adds Hushed d a.discardDeferredError := addsTrans fetched (addsNothing rfl)
          rcases executeEnds accountable i (c := a.discardDeferredError) still with
            rests | ⟨dev,t,count,_,_,_,_,offers⟩
          · exact starts 0 ready (.inl rests)
          · refine starts count ?_ (.inr offers)
            exact addsTrans ready (addsNothing (preparedSame a.discardDeferredError _).1)

theorem settledStep (accountable : Accountable m) (h : Settled c) (action : Action) : Settled (c.step m action) := by
  cases action with
  | select ids =>
    unfold step
    dsimp only
    split <;> exact h
  | process i =>
    by_cases data : c.phase = .dataIn
    · change Settled (c.process m i)
      have at_ : (c.acquire i).phase = .dataIn := data
      unfold process
      generalize c.acquire i = a at *
      dsimp only
      split
      · exact (restsReset a).settled
      · unfold processPhase
        rw [at_]
        exact dataInSettled i at_
    · rcases processOnward (m := m) i h data with rests | ⟨d,ready,same⟩
      · exact rests.settled
      · change Settled (c.process m i)
        rw [same]
        exact (commandStarts accountable i ready.phase).2.2

theorem settledRun (accountable : Accountable m) (h : Settled c) (actions : List Action) :
    Settled (c.run m actions) := by
  induction actions generalizing c with
  | nil => exact h
  | cons action rest ih => exact ih (settledStep accountable h action)

/- The states of a controller as long as it has not entered another COMMAND phase. -/
inductive During (m : Methods δ) (c : Controller δ) : Controller δ → Prop where
  | start : During m c c
  | step {d : Controller δ} (action : Action) (before : During m c d)
      (same : commands (d.step m action) = commands d) : During m c (d.step m action)

/- Devices whose ReadData leaves the sizes of the transfer alone. -/
def Streams (m : Methods δ) (S : δ → Prop) : Prop :=
  ∀ r s, S s.device → S (m.readData r s).2.device ∧
    (m.readData r s).2.transfer.remainingLength = s.transfer.remainingLength ∧
    (m.readData r s).2.transfer.chunkSize = s.transfer.chunkSize

theorem Within.send (streams : Streams m S) (h : Within S limit c) (i : Input) (phase : c.phase = .dataIn) :
    Within S limit (c.send m i) := by
  have bytes := h.bytes
  have orderly := h.orderly phase
  rw [owed,if_pos phase] at bytes
  have same := hushedSame (addsCheckSend (c := c))
  unfold Controller.send sendWith
  have at_ : c.checkSend.phase = .dataIn := phase
  have orderly : Orderly S c.checkSend := orderly
  have bytes : dataInSent c.checkSend + (c.checkSend.transfer.currentLength.toNat +
      (c.checkSend.transfer.remainingLength - c.checkSend.transfer.chunkSize).toNat) ≤ limit := by
    rw [same.1]
    exact bytes
  generalize c.checkSend = c at *
  dsimp only
  split
  · obtain ⟨sent,fits,ended⟩ := sendBytesEnds (c := c) i
    have logged := (sentLogged (c := c) (d := c.log (.sent c.phase sent)) (.sent c.phase sent) rfl).1
    rw [at_] at logged ended
    change _ = _ + sent.length at logged
    rcases ended with same | rests
    · rw [same]
      refine ⟨?_,.inr (.inl at_),fun _ => orderly⟩
      have owing := owedIn (c := (c.log (.sent .dataIn sent)).updateOffsetAndLength) at_
      rw [owing]
      change dataInSent (c.log (.sent .dataIn sent)) +
        (0 + (c.transfer.remainingLength - c.transfer.chunkSize).toNat) ≤ limit
      omega
    · exact Within.rests (by omega) rests
  · rcases dataInChunkEnds (transferToHost m · i) (processEndOfMessage m · i) at_ with rests | ⟨more,same⟩
    · exact Within.rests (by omega) rests
    · rw [same]
      have sent := (hushedSame (addsUpdate (c := c) c.transfer.chunkSize)).1
      obtain ⟨remaining,chunk,within⟩ := updatedChunk c.transfer c.transfer.chunkSize
      have next : (c.updateTransferLength c.transfer.chunkSize).phase = .dataIn := at_
      have lun : (c.updateTransferLength c.transfer.chunkSize).luns
          (c.updateTransferLength c.transfer.chunkSize).getEffectiveLun = c.luns c.getEffectiveLun := rfl
      change (c.updateTransferLength c.transfer.chunkSize).transfer.remainingLength = _ at remaining
      change (c.updateTransferLength c.transfer.chunkSize).transfer.chunkSize = _ ∨
        (c.updateTransferLength c.transfer.chunkSize).transfer.chunkSize =
          (c.updateTransferLength c.transfer.chunkSize).transfer.remainingLength at chunk
      change (c.updateTransferLength c.transfer.chunkSize).transfer.chunkSize ≤
        (c.updateTransferLength c.transfer.chunkSize).transfer.remainingLength at within
      generalize c.updateTransferLength c.transfer.chunkSize = u at *
      -- Another chunk: the device is one of those that send several
      obtain first | ⟨positive,dev,here,streaming⟩ := orderly
      · omega
      · rcases transferToHostEnds (m := m) i next with rests | ⟨missing,_⟩ | ⟨other,result,t,found,ran,ended⟩
        · exact Within.rests (by omega) rests
        · rw [lun,here] at missing
          exact absurd missing (by simp)
        · rw [lun,here] at found
          cases Option.some.inj found
          obtain ⟨stays,sameRemaining,sameChunk⟩ := streams (u.request i.env) ⟨dev,u.transfer,u.world⟩ streaming
          rw [ran] at stays sameRemaining sameChunk
          dsimp only at stays sameRemaining sameChunk
          have checked : Adds Hushed u ((u.check (!u.hasDataOut) .dataInCommand).ranHandler u.getEffectiveLun t) :=
            addsCheck (c := u) (!u.hasDataOut) ⟨rfl,rfl⟩
          have still := (hushedSame checked).1
          have filled : refill ((u.check (!u.hasDataOut) .dataInCommand).ranHandler u.getEffectiveLun t) =
              (((u.check (!u.hasDataOut) .dataInCommand).ranHandler u.getEffectiveLun t).setCurrentLength
                (min t.transfer.remainingLength t.transfer.chunkSize)).resetOffset :=
            if_pos (by change t.transfer.remainingLength ≠ 0; omega)
          rw [ended,filled]
          refine ⟨?_,.inr (.inl next),fun _ => .inr ⟨?_,t.device,Function.update_self ..,stays⟩⟩
          · rw [owedIn (by exact next)]
            change dataInSent ((u.check (!u.hasDataOut) .dataInCommand).ranHandler u.getEffectiveLun t) +
              ((min t.transfer.remainingLength t.transfer.chunkSize).toNat +
                (t.transfer.remainingLength - t.transfer.chunkSize).toNat) ≤ limit
            omega
          · change 0 ≤ t.transfer.chunkSize
            omega

theorem Within.step (accountable : Accountable m) (streams : Streams m S) (h : Within S limit c) (action : Action)
    (same : commands (c.step m action) = commands c) : Within S limit (c.step m action) := by
  cases action with
  | select ids =>
    unfold Controller.step
    dsimp only
    split
    · next free =>
      exact ⟨h.bytes,h.settled,fun at_ => absurd (free.symm.trans at_) (by decide)⟩
    · exact h
  | process i =>
    change Within S limit (c.process m i)
    change commands (c.process m i) = commands c at same
    have sent := h.bytes
    by_cases data : c.phase = .dataIn
    · have acquired : Within S limit (c.acquire i) := ⟨h.bytes,settledAcquire h.settled i,h.orderly⟩
      have at_ : (c.acquire i).phase = .dataIn := data
      unfold process
      generalize c.acquire i = a at *
      have sent := acquired.bytes
      dsimp only
      split
      · exact Within.rests (by omega) (restsReset a)
      · unfold processPhase
        rw [at_]
        exact acquired.send streams i at_
    · rcases processOnward (m := m) i h.settled data with rests | ⟨d,ready,ended⟩
      · exact Within.rests (by omega) rests
      · have started := (commandStarts accountable i ready.phase).1
        rw [← ended,same,(hushedSame ready.hushed).2] at started
        omega

/- What one command sends in DATA IN, however the initiator goes on. -/
theorem Within.during (accountable : Accountable m) (streams : Streams m S) (h : Within S limit c)
    {d : Controller δ} (during : During m c d) :
    Within S limit d := by
  induction during with
  | start => exact h
  | step action _ same ih => exact ih.step accountable streams action same

/- An initiator that takes what it is offered. -/
theorem offersSent {count : Int} (h : Offers count c d) (positive : 0 < count) (rst : c.lines.rst = false) :
    ∃ e, During m d e ∧ dataInSent e = dataInSent c + count.toNat := by
  have at_ : (d.acquire {}).checkSend.phase = .dataIn := h.phase
  have sent : d.process m {} = (d.acquire {}).checkSend.sendBytes {} := by
    have running : ¬(d.acquire {}).lines.rst = true := by
      change ¬(d.lines.rst || false) = true
      rw [h.rst,rst]
      decide
    have phase : (d.acquire {}).phase = .dataIn := h.phase
    have waiting : (d.acquire {}).checkSend.transfer.currentLength ≠ 0 := by
      change d.transfer.currentLength ≠ 0
      rw [h.length]
      omega
    unfold process
    dsimp only
    rw [if_neg running]
    unfold processPhase
    rw [phase]
    unfold Controller.send sendWith
    exact if_pos waiting
  have same : Adds Hushed d (d.acquire {}).checkSend := addsTrans (d := d.acquire {}) (addsNothing rfl) addsCheckSend
  have length : (d.acquire {}).checkSend.transfer.currentLength = count := h.length
  have offset : (d.acquire {}).checkSend.offset = 0 := h.offset
  have buffer : count.toNat ≤ (d.acquire {}).checkSend.transfer.buffer.length := h.buffer
  generalize (d.acquire {}).checkSend = x at *
  have all : Input.accepted {} count = count.toNat := Nat.min_self _
  have fits : (slice x.transfer.buffer 0 count.toNat).length = count.toNat := by
    rw [sliceLength]
    omega
  have ended : x.sendBytes {} = (x.log (.sent .dataIn (slice x.transfer.buffer 0 count.toNat))).updateOffsetAndLength := by
    unfold sendBytes
    dsimp only
    rw [length,offset,all,at_,if_neg (by omega)]
    rfl
  have logged := sentLogged (c := x) (d := x.sendBytes {}) (.sent .dataIn (slice x.transfer.buffer 0 count.toNat))
    (by rw [ended]; rfl)
  refine ⟨d.step m (.process {}),.step _ .start ?_,?_⟩
  · change commands (d.process m {}) = _
    rw [sent,logged.2,(hushedSame same).2]
    rfl
  · change dataInSent (d.process m {}) = _
    rw [sent,logged.1,(hushedSame same).1,(hushedSame h.hushed).1]
    exact congrArg (dataInSent c + ·) fits

end
end Scsi2Pi.TransferBudget
