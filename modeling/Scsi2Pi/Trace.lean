import Scsi2Pi.Controller

/-! What the functions of the controller add to the trace. Nothing is ever
removed from it, and only Command opens a command. -/
namespace Scsi2Pi.Controller
open Slices MemoryUtil

variable {δ : Type} {P : Event → Prop} {c d e : Controller δ}

def Adds (P : Event → Prop) (c c' : Controller δ) : Prop :=
  ∃ new, c'.trace = c.trace ++ new ∧ ∀ e ∈ new, P e

theorem addsNothing (same : d.trace = c.trace) : Adds P c d :=
  ⟨[],by simp [same],by simp⟩

theorem addsLog {e : Event} (logged : d.trace = c.trace ++ [e]) (allowed : P e) : Adds P c d :=
  ⟨[_],logged,by simpa using allowed⟩

theorem addsTrans (first : Adds P c d) (second : Adds P d e) : Adds P c e := by
  obtain ⟨new,grown,allowed⟩ := first
  obtain ⟨more,grown',allowed'⟩ := second
  refine ⟨new ++ more,by rw [grown',grown,List.append_assoc],fun x member => ?_⟩
  rcases List.mem_append.mp member with member | member
  · exact allowed x member
  · exact allowed' x member

theorem addsWeaken {Q : Event → Prop} (weaker : ∀ e, P e → Q e) (h : Adds P c d) : Adds Q c d := by
  obtain ⟨new,grown,allowed⟩ := h
  exact ⟨new,grown,fun x member => weaker x (allowed x member)⟩

/-! The setters. -/

@[simp] theorem traceLog (event : Event) : (c.log event).trace = c.trace ++ [event] := rfl

@[simp] theorem traceSetPhase (p : BusPhase) : (c.setPhase p).trace = c.trace ++ [.entered p] := rfl

@[simp] theorem traceSetLines (msg cd io : Bool) : (c.setLines msg cd io).trace = c.trace := rfl

@[simp] theorem traceSetRst : c.setRst.trace = c.trace := rfl

@[simp] theorem traceSetCurrentLength (length : Int) : (c.setCurrentLength length).trace = c.trace := rfl

@[simp] theorem traceSetTransferSize (length size : Int) : (c.setTransferSize length size).trace = c.trace := rfl

@[simp] theorem traceSetStatus (status : StatusCode) : (c.setStatus status).trace = c.trace := rfl

@[simp] theorem traceSetBufferByte (b : UInt8) : (c.setBufferByte b).trace = c.trace := rfl

@[simp] theorem traceResetOffset : c.resetOffset.trace = c.trace := rfl

@[simp] theorem traceUpdateOffsetAndLength : c.updateOffsetAndLength.trace = c.trace := rfl

@[simp] theorem traceResetFlags : c.resetFlags.trace = c.trace := rfl

@[simp] theorem traceXferMsg : c.xferMsg.trace = c.trace := rfl

@[simp] theorem traceEnterBusFree : c.enterBusFree.trace = c.trace ++ [.entered .busFree] := rfl

@[simp] theorem traceEnterSelection : c.enterSelection.trace = c.trace ++ [.entered .selection] := rfl

@[simp] theorem traceEnterStatus : c.enterStatus.trace = c.trace ++ [.entered .status] := rfl

@[simp] theorem traceEnterMsgIn : c.enterMsgIn.trace = c.trace ++ [.entered .msgIn] := rfl

@[simp] theorem traceEnterDataIn : c.enterDataIn.trace = c.trace ++ [.entered .dataIn] := rfl

@[simp] theorem traceEnterMsgOut : c.enterMsgOut.trace = c.trace ++ [.entered .msgOut] := by
  unfold enterMsgOut
  split <;> rfl

theorem addsCheck {a : Assertion} (holds : Bool) (allowed : P (.failed a)) : Adds P c (c.check holds a) := by
  cases holds with
  | true => exact addsNothing (List.append_nil _)
  | false => exact addsLog rfl allowed

theorem addsUpdateTransferLength (allowed : P (.failed .remainingLength)) (length : Int) :
    Adds P c (c.updateTransferLength length) :=
  addsTrans (addsCheck _ allowed) (addsNothing rfl)

theorem addsBusFree (free : P (.entered .busFree)) (selected : P (.entered .selection)) : Adds P c c.busFree := by
  unfold busFree
  split
  · exact addsLog rfl free
  · split
    · exact addsLog rfl selected
    · exact addsNothing rfl

/-! The functions that Command ends with. -/

/- The start of a COMMAND phase, and a CDB. -/
def opensCommand : Event → Bool
  | .entered .command => true
  | .fetched _ _ => true
  | _ => false

abbrev Quiet (e : Event) : Prop := opensCommand e = false

theorem addsCheckSend : Adds Quiet c c.checkSend :=
  addsTrans (d := c.check (!c.lines.req) .sendLines) (addsCheck _ rfl) (addsCheck _ rfl)

theorem addsChunkSent {toHost endOfMessage : Controller δ → Controller δ}
    (host : ∀ c, Adds Quiet c (toHost c)) (message : ∀ c, Adds Quiet c (endOfMessage c)) :
    Adds Quiet c (c.chunkSent toHost endOfMessage) := by
  unfold chunkSent
  refine addsTrans (d := c.updateTransferLength c.transfer.chunkSize) (addsUpdateTransferLength (P := Quiet) rfl _) ?_
  generalize c.updateTransferLength c.transfer.chunkSize = c
  dsimp only
  split
  · split
    · exact host c
    · exact addsNothing rfl
  · split
    · exact message c
    · exact addsLog rfl rfl
    · exact addsLog rfl rfl
    · exact addsCheck _ rfl

theorem traceRunHandler {α : Type} (env : Env) (lun : Nat) (dev : δ) (h : Handler δ α) :
    (c.runHandler env lun dev h).2.trace = c.trace := rfl

section
variable [Derives δ PrimaryDevice]

@[simp] theorem traceModifyBase (lun : Nat) (f : PrimaryDevice → PrimaryDevice) :
    (c.modifyBase lun f).trace = c.trace := rfl

theorem addsError (s : SenseKey) (a : Asc) (status : StatusCode) : Adds Quiet c (c.error s a status) := by
  unfold error
  split
  · exact addsBusFree rfl rfl
  · refine addsLog (e := .entered .status) ?_ rfl
    dsimp only
    split <;> rfl

theorem addsRaiseDeferredError (s : SenseKey) (a : Asc) : Adds Quiet c (c.raiseDeferredError s a) :=
  addsTrans (d := { c with deferredSenseKey := s, deferredAsc := a }) (addsNothing rfl) (addsError s a _)

theorem addsSendBytes (i : Input) : Adds Quiet c (c.sendBytes i) := by
  unfold sendBytes
  dsimp only
  generalize slice _ _ _ = bytes
  refine addsTrans (d := c.log (.sent c.phase bytes)) (addsLog rfl rfl) ?_
  split
  · exact addsTrans (addsNothing traceSetRst) (addsError _ _ _)
  · exact addsNothing rfl

theorem addsSendWith (i : Input) {toHost endOfMessage : Controller δ → Controller δ}
    (host : ∀ c, Adds Quiet c (toHost c)) (message : ∀ c, Adds Quiet c (endOfMessage c)) :
    Adds Quiet c (c.sendWith i toHost endOfMessage) := by
  unfold sendWith
  refine addsTrans (d := c.checkSend) addsCheckSend ?_
  dsimp only
  split
  · exact addsSendBytes i
  · exact addsChunkSent host message

theorem addsStatus (i : Input) : Adds Quiet c (c.status i) := by
  unfold status
  split
  · exact addsSendWith i (fun _ => addsNothing rfl) (fun _ => addsNothing rfl)
  · exact addsLog rfl rfl

theorem addsStartDataIn (i : Input) : Adds Quiet c (c.startDataIn i) := by
  unfold startDataIn
  split
  · exact addsStatus i
  · exact addsLog rfl rfl

theorem addsStartDataOut (i : Input) : Adds Quiet c (c.startDataOut i) := by
  unfold startDataOut
  split
  · exact addsStatus i
  · refine addsLog (e := .entered .dataOut) ?_ rfl
    dsimp only
    split <;> rfl

theorem addsCallPhase (i : Input) (call : PhaseCall) : Adds Quiet c (c.callPhase i call) := by
  cases call with
  | status => exact addsStatus i
  | dataIn length => exact addsTrans (addsNothing (traceSetCurrentLength length)) (addsStartDataIn i)
  | dataOut length => exact addsTrans (addsNothing (traceSetCurrentLength length)) (addsStartDataOut i)
  | errorThenDataIn length =>
    exact addsTrans (addsLog (e := .entered .status) rfl rfl) (addsStartDataIn (c :=
      (((c.setPhase .status).setLines false true true).resetOffset).setCurrentLength length) i)

theorem addsDiscardSense (lun : Nat) : Adds Quiet c (c.discardSense lun) := by
  unfold discardSense
  split <;> exact addsNothing rfl

theorem addsDispatchTo (m : Methods δ) (i : Input) (lun : Nat) (dev : δ) :
    Adds Quiet c (c.dispatchTo m i lun dev) := by
  unfold dispatchTo
  split
  · have same := c.traceRunHandler i.env lun dev (m.dispatch c.opcode)
    cases ran : c.runHandler i.env lun dev (m.dispatch c.opcode) with
    | mk result c' =>
      rw [ran] at same
      cases result with
      | ok call => exact addsTrans (addsNothing same) (addsCallPhase i call)
      | error e => exact addsTrans (addsNothing same) (addsError _ _ _)
  · exact addsError _ _ _

theorem addsExecute (m : Methods δ) (i : Input) : Adds Quiet c (c.execute m i) := by
  unfold execute
  refine addsTrans (d := ((c.setCurrentLength 0).resetOffset).setTransferSize 0 0) (addsNothing rfl) ?_
  generalize ((c.setCurrentLength 0).resetOffset).setTransferSize 0 0 = c
  dsimp only
  split
  · exact addsError _ _ _
  · generalize (if (c.luns c.getEffectiveLun).isNone then 0 else c.getEffectiveLun) = lun
    refine addsTrans (d := c.discardSense lun) (addsDiscardSense lun) ?_
    split
    · exact addsNothing rfl
    · exact addsDispatchTo m i lun _

theorem addsProvideSenseData (i : Input) : Adds Quiet c (c.provideSenseData i) :=
  addsTrans (addsNothing rfl) (addsStartDataIn i)

/- A CDB is recorded together with the LUN it is for. -/
theorem addsAcceptCdb (m : Methods δ) (i : Input) (buf : Bytes) :
    ∃ lun rest, (c.acceptCdb m i buf).trace = c.trace ++ .fetched lun buf :: rest ∧
      (∀ e ∈ rest, Quiet e) ∧ ∀ l, c.identifiedLun = some l → lun = l := by
  have later : ∀ {d d' : Controller δ} {lun : Nat}, d.trace = c.trace ++ [.fetched lun buf] →
      Adds Quiet d d' → (∀ l, c.identifiedLun = some l → lun = l) →
      ∃ lun rest, d'.trace = c.trace ++ .fetched lun buf :: rest ∧ (∀ e ∈ rest, Quiet e) ∧
        ∀ l, c.identifiedLun = some l → lun = l := by
    intro d d' lun logged ⟨rest,grown,quiet⟩ identified
    exact ⟨lun,rest,by rw [grown,logged,List.append_assoc]; rfl,quiet,identified⟩
  have identified : ∀ l, c.identifiedLun = some l →
      getEffectiveLun { c with cdb := setBytes c.cdb 0 buf } = l := by
    intro l found
    simp [getEffectiveLun,found]
  unfold acceptCdb storeCdb
  dsimp only
  split
  · exact later rfl (addsRaiseDeferredError _ _) identified
  · split
    · exact later rfl (addsProvideSenseData i) identified
    · exact later rfl (addsExecute m i) identified

theorem addsCommand (m : Methods δ) (i : Input) (other : c.phase ≠ .command) :
    ∃ after, (c.command m i).trace = c.trace ++ .entered .command :: after ∧
      (0 < (commandHandShake i.bytes).2 → ∃ lun rest,
        after = .fetched lun (commandHandShake i.bytes).1 :: rest ∧ (∀ e ∈ rest, Quiet e) ∧
          ∀ l, c.identifiedLun = some l → lun = l) := by
  unfold command
  rw [if_neg other]
  generalize commandHandShake i.bytes = shaken
  obtain ⟨buf,count⟩ := shaken
  dsimp only
  have failed : ∀ {d : Controller δ} (s : SenseKey) (a : Asc), ¬0 < count →
      d.trace = c.trace ++ [.entered .command] →
      ∃ after, (d.raiseDeferredError s a).trace = c.trace ++ .entered .command :: after ∧
        (0 < count → ∃ lun rest, after = .fetched lun buf :: rest ∧ (∀ e ∈ rest, Quiet e) ∧
          ∀ l, c.identifiedLun = some l → lun = l) := by
    intro d s a nothing logged
    obtain ⟨after,grown,_⟩ := addsRaiseDeferredError (c := d) s a
    exact ⟨after,by rw [grown,logged,List.append_assoc]; rfl,fun some => absurd some nothing⟩
  by_cases unknown : count = 0
  · rw [if_pos unknown]
    exact failed _ _ (by omega) rfl
  · rw [if_neg unknown]
    by_cases short : count < 0
    · rw [if_pos short]
      exact failed _ _ (by omega) rfl
    · rw [if_neg short]
      obtain ⟨lun,rest,grown,quiet,identified⟩ := addsAcceptCdb m i buf
      exact ⟨.fetched lun buf::rest,grown.trans (List.append_assoc _ _ _),fun _ => ⟨lun,rest,rfl,quiet,identified⟩⟩

end
end Scsi2Pi.Controller
