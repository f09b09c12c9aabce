import Scsi2Pi.PacketSend
import Scsi2Pi.ScriptReplay

/-! DATA IN and DATA OUT in several chunks: the controller sends or receives one chunk after
the other, and the device is asked for each of them. -/
namespace Scsi2Pi.BoardTarget
open Slices MemoryUtil Handler Derives Controller TransferBudget

variable {x : Exchange} {c d : Controller AnyDevice} {dev dev' : AnyDevice} {w w' : World} {size k lun : Nat}

/- What chunks leave alone: nothing but the device, the world and the transfer has changed. -/
structure Turns (lun : Nat) (dev : AnyDevice) (w : World) (c d : Controller AnyDevice) : Prop where
  cdb : d.cdb = c.cdb
  identified : d.identifiedLun = c.identifiedLun
  luns : d.luns = Function.update c.luns lun (some dev)
  world : d.world = w
  initiatorId : d.initiatorId = c.initiatorId
  targetId : d.targetId = c.targetId
  linked : d.linked = c.linked
  status : d.transfer.status = c.transfer.status
  grows : c.transfer.buffer.length ≤ d.transfer.buffer.length

theorem Turns.trans {e : Controller AnyDevice} (first : Turns lun dev w c d) (second : Turns lun dev' w' d e) : Turns lun dev' w' c e := by
  refine ⟨second.cdb.trans first.cdb,second.identified.trans first.identified,?_,second.world,second.initiatorId.trans first.initiatorId,
    second.targetId.trans first.targetId,second.linked.trans first.linked,second.status.trans first.status,first.grows.trans second.grows⟩
  rw [second.luns,first.luns,Function.update_idem]

theorem Turns.here (turns : Turns lun dev w c d) : d.luns lun = some dev := by
  rw [turns.luns]
  exact Function.update_self _ _ _

theorem Turns.effective (turns : Turns lun dev w c d) : d.getEffectiveLun = c.getEffectiveLun := by
  unfold getEffectiveLun
  rw [turns.identified,turns.cdb]

theorem SameRequest.turns (same : SameRequest c d) (here : c.luns lun = some dev) (grows : c.transfer.buffer.length ≤ d.transfer.buffer.length) :
    Turns lun dev c.world c d := by
  refine ⟨same.cdb,same.lun,?_,same.world,same.initiatorId,same.targetId,same.linked,same.status,grows⟩
  rw [same.luns,← here,Function.update_eq_self]

theorem Turns.same {e : Controller AnyDevice} (turns : Turns lun dev w c d) (same : SameRequest d e)
    (grows : d.transfer.buffer.length ≤ e.transfer.buffer.length) : Turns lun dev w c e :=
  ⟨same.cdb.trans turns.cdb,same.lun.trans turns.identified,same.luns.trans turns.luns,same.world.trans turns.world,
    same.initiatorId.trans turns.initiatorId,same.targetId.trans turns.targetId,same.linked.trans turns.linked,
    same.status.trans turns.status,turns.grows.trans grows⟩

/- Only the lengths of the transfer have changed. -/
structure Resized (c d : Controller AnyDevice) : Prop where
  same : SameRequest c d
  lines : d.lines = c.lines
  phase : d.phase = c.phase
  atnMsg : d.atnMsg = c.atnMsg
  buffer : d.transfer.buffer = c.transfer.buffer

theorem Resized.grows (resized : Resized c d) : c.transfer.buffer.length ≤ d.transfer.buffer.length := by
  rw [resized.buffer]

theorem updatedLength (c : Controller AnyDevice) (n : Int) : Resized c (c.updateTransferLength n) :=
  ⟨⟨rfl,rfl,rfl,rfl,rfl,rfl,rfl,rfl⟩,rfl,rfl,rfl,rfl⟩

theorem Turns.statusByte (turns : Turns lun dev w c d) : d.statusByte = c.statusByte := by
  unfold Controller.statusByte
  rw [turns.linked,turns.status]

/- Events without bytes. -/
def Silent (events : List Event) : Prop := ∀ p, transferred p events = []

theorem Silent.check (holds : Bool) (a : Assertion) : Silent (if holds then [] else [.failed a]) := fun _ => checkSilent holds a

/- Events with these bytes and nothing else. -/
structure Moves (dataIn dataOut : Bytes) (events : List Event) : Prop where
  status : transferred .status events = []
  dataIn : transferred .dataIn events = dataIn
  dataOut : transferred .dataOut events = dataOut

theorem Silent.sent {bytes : Bytes} {events : List Event} (silent : Silent events) : Moves bytes [] ([.sent .dataIn bytes] ++ events) := by
  constructor <;> rw [transferredAppend,silent] <;> simp [transferred,transferredBy]

theorem Silent.received {bytes : Bytes} {events : List Event} (silent : Silent events) : Moves [] bytes ([.received .dataOut bytes] ++ events) := by
  constructor <;> rw [transferredAppend,silent] <;> simp [transferred,transferredBy]

theorem serveTwice {next : Controller AnyDevice → Controller AnyDevice} {e : Controller AnyDevice} (first : next c = d) (second : next d = e)
    (busy : d.phase ≠ .busFree) (later : e.phase ≠ .busFree) (steps : Nat) : serve next (steps+2) c = serve next steps e := by
  have shape : steps + 2 = steps + 1 + 1 := rfl
  rw [shape,serveOn (by rw [first]; exact busy),first,serveOn (by rw [second]; exact later),second]

/-! The buffer of the controller. -/

theorem chunkInFront {buffer chunk : Bytes} (length : chunk.length = size) : (setBytes buffer 0 chunk).take size = chunk := by
  subst length
  exact takeFront buffer chunk

theorem chunkFits {buffer chunk : Bytes} (length : chunk.length = size) : size ≤ (setBytes buffer 0 chunk).length := by
  have front := congrArg List.length (@chunkInFront size buffer chunk length)
  rw [List.length_take,length] at front
  exact min_eq_left_iff.mp front

theorem extendedGrows (t : Transfer) (length : Int) : t.buffer.length ≤ (t.setCurrentLength length).buffer.length := by
  change t.buffer.length ≤ (t.buffer ++ _).length
  rw [List.length_append]
  exact Nat.le_add_right _ _

/-! DATA IN. -/

/- A chunk is to be sent or has been sent, and it is the first of those that remain. -/
structure Streaming (size left : Nat) (length : Int) (c : Controller AnyDevice) : Prop where
  phase : c.phase = .dataIn
  rst : c.lines.rst = false
  req : c.lines.req = false
  io : c.lines.io = true
  linked : c.linked = false
  atnMsg : c.atnMsg = false
  currentLength : c.transfer.currentLength = length
  remaining : c.transfer.remainingLength = (left * size : Nat)
  chunk : c.transfer.chunkSize = size

theorem sendsChunk {left : Nat} (streaming : Streaming size left size c) (positive : 0 < size) (offset : c.offset = 0) :
    ∃ d, respond x c = d ∧ Streaming size left 0 d ∧ SameRequest c d ∧ d.transfer.buffer = c.transfer.buffer ∧
      d.trace = c.trace ++ [.sent .dataIn (c.transfer.buffer.take size)] := by
  obtain ⟨phase,rst,req,io,linked,atnMsg,currentLength,remaining,chunk⟩ := streaming
  obtain ⟨_,⟨_,_,_,_,_,_,_,_,_,_⟩,⟨buffer,_,_,_,_,_⟩,_,_,_,_,_,_,_,_,_,_,_,_,_,_⟩ := c
  dsimp only at phase rst req io linked atnMsg currentLength remaining chunk offset
  subst phase rst req io linked atnMsg currentLength remaining chunk offset
  have nonzero : (size : Int) ≠ 0 := by omega
  have all : ¬((({ env := x.env } : Input).accepted size : Nat) : Int) ≠ size := by
    rw [acceptedAll]
    exact fun wrong => wrong rfl
  refine ⟨_,(if_pos nonzero).trans (if_neg all),⟨rfl,rfl,rfl,rfl,rfl,rfl,rfl,rfl,rfl⟩,⟨rfl,rfl,rfl,rfl,rfl,rfl,rfl,rfl⟩,rfl,?_⟩
  change ((_ ++ []) ++ []) ++ [Event.sent .dataIn (slice buffer 0 (({ env := x.env } : Input).accepted size))] = _
  rw [acceptedAll]
  simp only [List.append_nil]
  rfl

theorem nextChunk (k size : Nat) : (((k+1) * size : Nat) : Int) = (k * size : Nat) + (size : Nat) := by
  rw [Nat.succ_mul]
  exact Int.natCast_add _ _

theorem wholeChunk {a : Controller AnyDevice} (remaining : a.transfer.remainingLength = ((k+1) * size : Nat)) (chunk : a.transfer.chunkSize = size) :
    min a.transfer.chunkSize a.transfer.remainingLength = size := by
  rw [chunk,remaining,nextChunk]
  omega

/- The lengths behind a chunk. -/
theorem chunkBehind {a : Controller AnyDevice} (remaining : a.transfer.remainingLength = ((k+1) * size : Nat)) (chunk : a.transfer.chunkSize = size) :
    (a.updateTransferLength size).transfer.remainingLength = (k * size : Nat) ∧
      (a.updateTransferLength size).transfer.chunkSize = (min size (k * size) : Nat) ∧
      (a.updateTransferLength size).trace = a.trace := by
  have left : (a.updateTransferLength size).transfer.remainingLength = (k * size : Nat) := by
    change max (a.transfer.remainingLength - size) 0 = _
    rw [remaining,nextChunk]
    omega
  refine ⟨left,?_,?_⟩
  · change (if (a.updateTransferLength size).transfer.remainingLength < a.transfer.chunkSize
      then (a.updateTransferLength size).transfer.remainingLength else a.transfer.chunkSize) = _
    rw [left,chunk]
    split <;> omega
  · change a.trace ++ (if decide (0 ≤ a.transfer.remainingLength - size) then [] else _) = _
    rw [remaining,nextChunk,if_pos (by rw [decide_eq_true_iff]; omega),List.append_nil]

/- Only the lines that the initiator drives have changed. -/
theorem reachesNext {left : Nat} (streaming : Streaming size left 0 c) : ∃ a i,
    respond x c = a.chunkSent (transferToHost AnyDevice.methods · i) (processEndOfMessage AnyDevice.methods · i) ∧ i.env = x.env ∧
      Streaming size left 0 a ∧ SameRequest c a ∧ a.transfer = c.transfer ∧ a.trace = c.trace := by
  obtain ⟨phase,rst,req,io,linked,atnMsg,currentLength,remaining,chunk⟩ := streaming
  let i : Input := { env := x.env }
  have given : input x.initiator x.env x.cdb (x.dataOut.drop (transferred .dataOut (c.trace.drop x.before)).length) c = i := by
    unfold input
    rw [phase]
  have line : (c.acquire i).lines.rst = false := by
    change (c.lines.rst || false) = false
    rw [rst]
    rfl
  have here : (c.acquire i).phase = .dataIn := phase
  refine ⟨(c.acquire i).checkSend,i,?_,rfl,⟨phase,line,req,io,linked,atnMsg,currentLength,remaining,chunk⟩,
    ⟨rfl,rfl,rfl,rfl,rfl,rfl,rfl,rfl⟩,rfl,?_⟩
  · rw [respondsPhase line given]
    unfold processPhase
    rw [here]
    exact if_neg fun wrong => wrong currentLength
  · change (c.trace ++ (if !c.lines.req then [] else _)) ++ (if c.lines.io then [] else _) = _
    rw [req,io]
    simp

/- Behind the last chunk there is the status. -/
theorem sentLast (streaming : Streaming size 1 0 c) (here : c.luns lun = some dev) : ∃ q, respond x c = q.enterStatus ∧
    Turns lun dev c.world c q ∧ q.lines.rst = false ∧ q.lines.req = false ∧ q.atnMsg = false ∧ q.trace = c.trace := by
  obtain ⟨a,i,asked,env,next,same,transfer,trace⟩ := reachesNext (x := x) streaming
  obtain ⟨left,_,kept⟩ := chunkBehind (k := 0) (by rw [next.remaining]) next.chunk
  rw [Nat.zero_mul] at left
  have none : (a.updateTransferLength a.transfer.chunkSize).transfer.remainingLength = 0 := by
    rw [next.chunk]
    exact left
  have phase : (a.updateTransferLength a.transfer.chunkSize).phase = .dataIn := next.phase
  refine ⟨a.updateTransferLength a.transfer.chunkSize,?_,?_,next.rst,next.req,next.atnMsg,?_⟩
  · rw [asked]
    unfold chunkSent
    dsimp only
    rw [if_neg (fun wrong => wrong none),phase]
  · exact (same.turns here (by rw [transfer])).same (updatedLength a _).same (updatedLength a _).grows
  · rw [next.chunk,kept,trace]

/- The device loads the buffer with the next chunk. -/
def Loads (dev : AnyDevice) (w : World) (chunk : Bytes) (dev' : AnyDevice) (w' : World) : Prop :=
  ∀ (r : Request) (t : Transfer), AnyDevice.methods.readData r ⟨dev,t,w⟩ =
    (.ok chunk.length,⟨dev',{ t with buffer := setBytes t.buffer 0 chunk },w'⟩)

/- The controller after ReadData. -/
def fetchedChunk (b : Controller AnyDevice) (lun : Nat) (u : HandlerState AnyDevice) : Controller AnyDevice :=
  let q := (b.check (!b.hasDataOut) .dataInCommand).ranHandler lun u
  (q.setCurrentLength (min q.transfer.remainingLength q.transfer.chunkSize)).resetOffset

theorem transfersToHost {b : Controller AnyDevice} {i : Input} {n : Int} {u : HandlerState AnyDevice} (effective : b.getEffectiveLun = lun)
    (here : b.luns lun = some dev) (ran : AnyDevice.methods.readData (b.request i.env) ⟨dev,b.transfer,b.world⟩ = (.ok n,u))
    (left : u.transfer.remainingLength ≠ 0) : transferToHost AnyDevice.methods b i = fetchedChunk b lun u := by
  subst effective
  have handled := handlerRan (c := b.check (!b.hasDataOut) .dataInCommand) i.env (b.check (!b.hasDataOut) .dataInCommand).getEffectiveLun ran
  unfold transferToHost
  dsimp only
  split
  · next none => cases here.symm.trans none
  · next there =>
    cases here.symm.trans there
    rw [handled]
    exact if_pos left

theorem fetchesChunk {chunk : Bytes} (streaming : Streaming size (k+2) 0 c) (positive : 0 < size) (effective : c.getEffectiveLun = lun)
    (here : c.luns lun = some dev) (loads : Loads dev c.world chunk dev' w') (length : chunk.length = size) : ∃ d events, respond x c = d ∧
      Streaming size (k+1) size d ∧ d.offset = 0 ∧ d.transfer.buffer.take size = chunk ∧ Turns lun dev' w' c d ∧
      d.trace = c.trace ++ events ∧ Silent events := by
  obtain ⟨a,i,asked,env,next,same,transfer,trace⟩ := reachesNext (x := x) streaming
  obtain ⟨left,part,kept⟩ := chunkBehind (k := k+1) (by rw [next.remaining]) next.chunk
  have more : 0 < (k + 1) * size := Nat.mul_pos (Nat.succ_pos k) positive
  have least : min size ((k+1) * size) = size := Nat.min_eq_left (Nat.le_mul_of_pos_left _ (Nat.succ_pos k))
  rw [least] at part
  have some_ : (a.updateTransferLength size).transfer.remainingLength ≠ 0 := by
    rw [left]
    omega
  have resized := updatedLength a size
  have reached : respond x c = transferToHost AnyDevice.methods (a.updateTransferLength size) i := by
    rw [asked]
    unfold chunkSent
    dsimp only
    rw [next.chunk,if_pos some_,resized.phase,next.phase,if_pos rfl]
  generalize a.updateTransferLength size = b at *
  have same' := same.trans resized.same
  have buffer : b.transfer.buffer = c.transfer.buffer := by rw [resized.buffer,transfer]
  let u : HandlerState AnyDevice := ⟨dev',{ b.transfer with buffer := setBytes b.transfer.buffer 0 chunk },w'⟩
  have ran : AnyDevice.methods.readData (b.request i.env) ⟨dev,b.transfer,b.world⟩ = (.ok (chunk.length : Int),u) := by
    rw [same'.world]
    exact loads _ _
  have whole : min u.transfer.remainingLength u.transfer.chunkSize = (size : Nat) := by
    change min b.transfer.remainingLength b.transfer.chunkSize = _
    rw [left,part]
    have := least
    omega
  have goes : respond x c = (((b.check (!b.hasDataOut) .dataInCommand).ranHandler lun u).setCurrentLength size).resetOffset := by
    rw [reached,transfersToHost (same'.effectiveLun.trans effective) (by rw [same'.luns]; exact here) ran some_,← whole]
    rfl
  let q := (b.check (!b.hasDataOut) .dataInCommand).ranHandler lun u
  have stays : (q.setCurrentLength size).transfer.buffer = setBytes c.transfer.buffer 0 chunk := by
    have taken := @chunkFits size c.transfer.buffer chunk length
    change setBytes b.transfer.buffer 0 chunk ++ List.replicate ((size : Int).toNat - (setBytes b.transfer.buffer 0 chunk).length) 0 = _
    rw [buffer,Int.toNat_natCast,Nat.sub_eq_zero_of_le taken,List.replicate_zero,List.append_nil]
  refine ⟨_,if !b.hasDataOut then [] else [.failed .dataInCommand],goes,
    ⟨resized.phase.trans next.phase,(congrArg (·.rst) resized.lines).trans next.rst,(congrArg (·.req) resized.lines).trans next.req,
      (congrArg (·.io) resized.lines).trans next.io,resized.same.linked.trans next.linked,resized.atnMsg.trans next.atnMsg,rfl,left,part⟩,rfl,?_,
    ⟨same'.cdb,same'.lun,?_,rfl,same'.initiatorId,same'.targetId,same'.linked,same'.status,?_⟩,?_,.check _ _⟩
  · change (q.setCurrentLength size).transfer.buffer.take size = chunk
    rw [stays]
    exact chunkInFront length
  · change Function.update b.luns lun (some dev') = _
    rw [same'.luns]
  · change _ ≤ (q.setCurrentLength size).transfer.buffer.length
    rw [stays]
    exact setBytesGrows _ _ _
  · change b.trace ++ _ = _
    rw [kept,trace]

/- A chunk is sent and the next one is in the buffer. -/
theorem streamsNext {chunk : Bytes} (streaming : Streaming size (k+2) size c) (positive : 0 < size) (offset : c.offset = 0)
    (effective : c.getEffectiveLun = lun) (here : c.luns lun = some dev) (loads : Loads dev c.world chunk dev' w') (length : chunk.length = size) :
    ∃ d events, Streaming size (k+1) size d ∧ d.offset = 0 ∧ d.transfer.buffer.take size = chunk ∧ Turns lun dev' w' c d ∧
      d.trace = c.trace ++ events ∧ Moves (c.transfer.buffer.take size) [] events ∧
      ∀ steps, serve (respond x) (steps+2) c = serve (respond x) steps d := by
  obtain ⟨sent,sends,streamed,same,buffer,first⟩ := sendsChunk (x := x) streaming positive offset
  have turned := same.turns here (by rw [buffer])
  obtain ⟨next,silent,fetches,streaming',offset',loaded,turns,second,quiet⟩ := fetchesChunk (x := x) streamed positive
    (turned.effective.trans effective) turned.here (by rw [turned.world]; exact loads) length
  have trace : next.trace = c.trace ++ ([.sent .dataIn (c.transfer.buffer.take size)] ++ silent) := by
    rw [second,first,List.append_assoc]
  exact ⟨next,_,streaming',offset',loaded,turned.trans turns,trace,quiet.sent,
    serveTwice sends fetches (by rw [streamed.phase]; decide) (by rw [streaming'.phase]; decide)⟩

/- The last chunk is sent, and the status follows. -/
theorem streamsLast (streaming : Streaming size 1 size c) (positive : 0 < size) (offset : c.offset = 0) (here : c.luns lun = some dev)
    (status : c.transfer.status = .good) : ∃ q events, Resting .good q ∧ Turns lun dev c.world c q ∧ q.trace = c.trace ++ events ∧
      Moves (c.transfer.buffer.take size) [] events ∧ ∀ steps, serve (respond x) (steps+2) c = serve (respond x) steps q.enterStatus := by
  obtain ⟨sent,sends,streamed,same,buffer,first⟩ := sendsChunk (x := x) streaming positive offset
  obtain ⟨q,enters,turns,rst,req,atnMsg,kept⟩ := sentLast (x := x) streamed (by rw [same.luns]; exact here)
  rw [same.world] at turns
  have turned := (same.turns here (by rw [buffer])).trans turns
  have code : q.statusByte = StatusCode.good.code := by
    rw [turned.statusByte,Controller.statusByte,streaming.linked,status]
    rfl
  have silent : Silent [] := fun _ => rfl
  exact ⟨q,_,⟨rst,req,turned.linked.trans streaming.linked,atnMsg,code⟩,turned,kept.trans first,silent.sent,
    serveTwice sends enters (by rw [streamed.phase]; decide) (fun wrong => by cases wrong)⟩

/- The chunks that ReadData loads, one after the other. -/
inductive Supplies (size : Nat) : Nat → AnyDevice → World → Bytes → AnyDevice → World → Prop where
  | none {dev : AnyDevice} {w : World} : Supplies size 0 dev w [] dev w
  | chunk {k : Nat} {dev dev' dev'' : AnyDevice} {w w' w'' : World} {chunk rest : Bytes} (loads : Loads dev w chunk dev' w')
      (length : chunk.length = size) (later : Supplies size k dev' w' rest dev'' w'') :
      Supplies size (k+1) dev w (chunk ++ rest) dev'' w''

/- From a chunk in the buffer to the free bus. -/
theorem streams {data : Bytes} (streaming : Streaming size (k+1) size c) (positive : 0 < size) (offset : c.offset = 0)
    (effective : c.getEffectiveLun = lun) (here : c.luns lun = some dev) (supplies : Supplies size k dev c.world data dev' w')
    (status : c.transfer.status = .good) : ∃ d events, Idle d ∧ d.luns = Function.update c.luns lun (some dev') ∧ d.world = w' ∧
      d.initiatorId = c.initiatorId ∧ d.targetId = c.targetId ∧ c.transfer.buffer.length ≤ d.transfer.buffer.length ∧
      d.trace = c.trace ++ events ∧ Concludes StatusCode.good.code (c.transfer.buffer.take size ++ data) events ∧
      ∀ steps, serve (respond x) (steps + 2 * (k+1) + 4) c = d := by
  induction k generalizing c dev data with
  | zero =>
    cases supplies with
    | none =>
      obtain ⟨q,first,resting,turns,trace,moves,goes⟩ := streamsLast (x := x) streaming positive offset here status
      obtain ⟨d,more,idle,follows,concludes,finish⟩ := resting.ends (x := x)
      refine ⟨d,first ++ more,idle,?_,follows.world.trans turns.world,follows.initiatorId.trans turns.initiatorId,
        follows.targetId.trans turns.targetId,turns.grows.trans follows.buffer.grows,?_,?_,fun steps => ?_⟩
      · rw [follows.luns,turns.luns]
      · rw [follows.trace,trace,List.append_assoc]
      · exact Concludes.append ⟨moves.status,moves.dataIn,moves.dataOut⟩ concludes
      · exact (goes (steps+4)).trans (finish steps)
  | succ k ih =>
    cases supplies with
    | chunk loads length later =>
      obtain ⟨next,first,streaming',offset',loaded,turns,trace,moves,goes⟩ :=
        streamsNext (x := x) streaming positive offset effective here loads length
      obtain ⟨d,events,idle,luns,world,initiatorId,targetId,grows,second,concludes,finish⟩ := ih streaming' offset'
        (turns.effective.trans effective) turns.here (by rw [turns.world]; exact later) (turns.status.trans status)
      rw [loaded] at concludes
      refine ⟨d,first ++ events,idle,?_,world,initiatorId.trans turns.initiatorId,
        targetId.trans turns.targetId,turns.grows.trans grows,?_,?_,fun steps => ?_⟩
      · rw [luns,turns.luns,Function.update_idem]
      · rw [second,trace,List.append_assoc]
      · exact Concludes.append ⟨moves.status,moves.dataIn,moves.dataOut⟩ concludes
      · have shape : steps + 2 * (k+1+1) + 4 = steps + 2 * (k+1) + 4 + 2 := by omega
        rw [shape,goes]
        exact finish steps

/-! DATA OUT. -/

/- A chunk is to be received or has been received, and it is the first of those that remain. -/
structure Receiving (size left : Nat) (length : Int) (c : Controller AnyDevice) : Prop where
  phase : c.phase = .dataOut
  rst : c.lines.rst = false
  req : c.lines.req = false
  io : c.lines.io = false
  linked : c.linked = false
  atnMsg : c.atnMsg = false
  currentLength : c.transfer.currentLength = length
  remaining : c.transfer.remainingLength = (left * size : Nat)
  chunk : c.transfer.chunkSize = size

/- What the initiator has not sent yet. -/
def unsent (x : Exchange) (c : Controller AnyDevice) : Bytes := x.dataOut.drop (transferred .dataOut (c.trace.drop x.before)).length

theorem receivesChunk {left : Nat} (receiving : Receiving size left size c) (offset : c.offset = 0) (positive : 0 < size)
    (enough : size ≤ (unsent x c).length) : ∃ d, respond x c = d ∧ Receiving size left 0 d ∧ d.offset = size ∧ SameRequest c d ∧
      d.transfer.buffer = setBytes c.transfer.buffer 0 ((unsent x c).take size) ∧
      d.trace = c.trace ++ [.received .dataOut ((unsent x c).take size)] := by
  unfold unsent at *
  obtain ⟨phase,rst,req,io,linked,atnMsg,currentLength,remaining,chunk⟩ := receiving
  obtain ⟨_,⟨_,_,_,_,_,_,_,_,_,_⟩,⟨buffer,_,_,_,_,_⟩,_,_,_,_,_,_,_,_,_,_,_,_,_,trace⟩ := c
  dsimp only at phase rst req io linked atnMsg currentLength remaining chunk offset enough
  subst phase rst req io linked atnMsg currentLength remaining chunk offset
  have nonzero : (size : Int) ≠ 0 := by omega
  have all : ¬((((x.dataOut.drop (transferred .dataOut (trace.drop x.before)).length).take size).length : Nat) : Int) ≠ size := by
    rw [List.length_take,Nat.min_eq_left enough]
    exact fun wrong => wrong rfl
  refine ⟨_,(if_pos nonzero).trans (if_neg all),⟨rfl,rfl,rfl,rfl,rfl,rfl,rfl,rfl,rfl⟩,Int.zero_add _,
    ⟨rfl,rfl,rfl,rfl,rfl,rfl,rfl,rfl⟩,rfl,?_⟩
  change ((trace ++ []) ++ []) ++ [Event.received .dataOut _] = _
  simp only [List.append_nil]
  rfl

/- Only the lines that the initiator drives have changed. -/
theorem reachesReceived {left : Nat} (receiving : Receiving size left 0 c) : ∃ a i,
    respond x c = a.chunkReceived AnyDevice.methods i ∧ i.env = x.env ∧ Receiving size left 0 a ∧ SameRequest c a ∧
      a.transfer = c.transfer ∧ a.offset = c.offset ∧ a.trace = c.trace := by
  obtain ⟨phase,rst,req,io,linked,atnMsg,currentLength,remaining,chunk⟩ := receiving
  obtain ⟨i,env,line,responds⟩ := reachesDataOut (x := x) phase rst currentLength
  exact ⟨(c.acquire i).checkReceive,i,responds,env,⟨phase,line,req,io,linked,atnMsg,currentLength,remaining,chunk⟩,
    ⟨rfl,rfl,rfl,rfl,rfl,rfl,rfl,rfl⟩,rfl,rfl,checkedReceive i req io⟩

/- What a device asks the controller about does not change from one chunk to the next. -/
structure Repeats (asked r : Request) : Prop where
  cdb : r.cdb = asked.cdb
  initiatorId : r.initiatorId = asked.initiatorId
  env : r.env = asked.env

theorem Repeats.again {asked : Request} (repeats : Repeats asked (c.request x.env)) (cdb : d.cdb = c.cdb) (initiatorId : d.initiatorId = c.initiatorId) :
    Repeats asked (d.request x.env) := ⟨cdb.trans repeats.cdb,initiatorId.trans repeats.initiatorId,repeats.env⟩

/- The device takes a chunk from the start of the buffer. -/
def Puts (asked : Request) (size : Nat) (dev : AnyDevice) (w : World) (chunk : Bytes) (dev' : AnyDevice) (w' : World) : Prop :=
  ∀ (r : Request) (t : Transfer), Repeats asked r → t.buffer.take size = chunk →
    AnyDevice.methods.writeData size size r ⟨dev,t,w⟩ = (.ok size,⟨dev',t,w'⟩)

/- The controller after a chunk has been given to the device. -/
structure Put (size k lun : Nat) (dev : AnyDevice) (w : World) (c q : Controller AnyDevice) : Prop where
  turns : Turns lun dev w c q
  phase : q.phase = .dataOut
  rst : q.lines.rst = false
  req : q.lines.req = false
  io : q.lines.io = false
  atnMsg : q.atnMsg = false
  remaining : q.transfer.remainingLength = (k * size : Nat)
  chunk : q.transfer.chunkSize = (min size (k * size) : Nat)
  currentLength : q.transfer.currentLength = (min size (k * size) : Nat)
  offset : q.offset = 0
  trace : ∃ events, q.trace = c.trace ++ events ∧ Silent events

/- Any command but MODE SELECT hands its chunks on as they are. -/
theorem receivesPlain {a : Controller AnyDevice} (offset : a.offset = size)
    (other : a.opcode ≠ ScsiCommand.modeSelect6 ∧ a.opcode ≠ ScsiCommand.modeSelect10) (dev : AnyDevice) :
    a.receiveParameters AnyDevice.methods dev size = AnyDevice.methods.writeData size size := by
  unfold receiveParameters
  rw [offset,if_neg]
  rintro ⟨select | select,_⟩
  · exact other.1 select
  · exact other.2 select

theorem putsChunk {chunk : Bytes} (receiving : Receiving size (k+1) 0 c) (offset : c.offset = size)
    (effective : c.getEffectiveLun = lun) (here : c.luns lun = some dev)
    (other : c.opcode ≠ ScsiCommand.modeSelect6 ∧ c.opcode ≠ ScsiCommand.modeSelect10)
    (front : c.transfer.buffer.take size = chunk) {asked : Request} (repeats : Repeats asked (c.request x.env))
    (puts : Puts asked size dev c.world chunk dev' w') : ∃ q i,
      respond x c = (if q.transfer.remainingLength ≠ 0 then q.checkNextChunk else q.status i) ∧ Put size k lun dev' w' c q := by
  obtain ⟨a,i,asked,env,got,same,transfer,offset',trace⟩ := reachesReceived (x := x) receiving
  have lun' : a.getEffectiveLun = lun := same.effectiveLun.trans effective
  have handler := receivesPlain (offset'.trans offset) (by rw [same.opcode]; exact other) dev
  have ran : a.receiveParameters AnyDevice.methods dev size (a.request i.env) ⟨dev,a.transfer,a.world⟩ = (.ok (size : Int),⟨dev',a.transfer,w'⟩) := by
    rw [handler,same.world]
    exact puts _ _ ⟨same.cdb.trans repeats.cdb,same.initiatorId.trans repeats.initiatorId,env.trans repeats.env⟩ (by rw [transfer]; exact front)
  have moved := transfersFromHost (i := i) lun' (by rw [same.luns]; exact here) ran
  have whole := wholeChunk got.remaining got.chunk
  let b := (a.check a.hasDataOut .dataOutCommand).ranHandler lun ⟨dev',a.transfer,w'⟩
  obtain ⟨left,part,kept⟩ := chunkBehind (a := b) (k := k) got.remaining got.chunk
  refine ⟨storedChunk a lun ⟨dev',a.transfer,w'⟩ size,i,?_,?_⟩
  · rw [asked]
    unfold chunkReceived
    dsimp only
    rw [whole,got.phase]
    dsimp only
    rw [moved]
    rfl
  · have shape : storedChunk a lun ⟨dev',a.transfer,w'⟩ size =
        ((b.updateTransferLength size).setCurrentLength (b.updateTransferLength size).transfer.chunkSize).resetOffset := rfl
    have resized := updatedLength b size
    have handled : Turns lun dev' w' a b := ⟨rfl,rfl,rfl,rfl,rfl,rfl,rfl,rfl,le_rfl⟩
    have events : b.trace = a.trace ++ (if a.hasDataOut then [] else [.failed .dataOutCommand]) := rfl
    rw [shape]
    generalize b.updateTransferLength size = q at *
    have turns := (same.turns here (by rw [transfer])).trans (handled.same resized.same resized.grows)
    refine ⟨turns.same ⟨rfl,rfl,rfl,rfl,rfl,rfl,rfl,rfl⟩ (extendedGrows q.transfer _),resized.phase.trans got.phase,
      (congrArg (·.rst) resized.lines).trans got.rst,(congrArg (·.req) resized.lines).trans got.req,
      (congrArg (·.io) resized.lines).trans got.io,resized.atnMsg.trans got.atnMsg,left,part,part,rfl,
      if a.hasDataOut then [] else [.failed .dataOutCommand],?_,.check _ _⟩
    change q.trace = _
    rw [kept,events,trace]

theorem refusesChunk {a : Controller AnyDevice} {i : Input} {length : Int} {e : ScsiException} {u : HandlerState AnyDevice}
    (effective : a.getEffectiveLun = lun) (here : a.luns lun = some dev)
    (ran : a.receiveParameters AnyDevice.methods dev length (a.request i.env) ⟨dev,a.transfer,a.world⟩ = (.error e,u)) :
    a.transferFromHost AnyDevice.methods i length =
      (false,((a.check a.hasDataOut .dataOutCommand).ranHandler lun u).error e.senseKey e.asc) := by
  subst effective
  have handled := handlerRan (c := a.check a.hasDataOut .dataOutCommand) i.env
    (a.check a.hasDataOut .dataOutCommand).getEffectiveLun ran
  unfold transferFromHost
  dsimp only
  split
  · next none => cases here.symm.trans none
  · next there =>
    cases here.symm.trans there
    have unchanged : (a.check a.hasDataOut .dataOutCommand).receiveParameters AnyDevice.methods dev length =
        a.receiveParameters AnyDevice.methods dev length := rfl
    rw [unchanged,handled]
    rfl

/- The device does not accept a chunk. -/
theorem chunkFails {chunk : Bytes} {e : ScsiException} (receiving : Receiving size (k+1) 0 c) (offset : c.offset = size)
    (effective : c.getEffectiveLun = lun) (here : c.luns lun = some dev)
    (other : c.opcode ≠ ScsiCommand.modeSelect6 ∧ c.opcode ≠ ScsiCommand.modeSelect10)
    (front : c.transfer.buffer.take size = chunk) {asked : Request} (repeats : Repeats asked (c.request x.env))
    (fails : ∀ (r : Request) (t : Transfer), Repeats asked r → t.buffer.take size = chunk →
      AnyDevice.methods.writeData size size r ⟨dev,t,c.world⟩ = (.error e,⟨dev',t,w'⟩)) : ∃ b events,
      respond x c = b.error e.senseKey e.asc ∧ b.phase = .dataOut ∧ b.lines.rst = false ∧ b.lines.req = false ∧ b.atnMsg = false ∧
      Turns lun dev' w' c b ∧ b.trace = c.trace ++ events ∧ Silent events := by
  obtain ⟨a,i,asks,env,got,same,transfer,offset',trace⟩ := reachesReceived (x := x) receiving
  have lun' : a.getEffectiveLun = lun := same.effectiveLun.trans effective
  have handler := receivesPlain (offset'.trans offset) (by rw [same.opcode]; exact other) dev
  have failed : a.receiveParameters AnyDevice.methods dev size (a.request i.env) ⟨dev,a.transfer,a.world⟩ = (.error e,⟨dev',a.transfer,w'⟩) := by
    rw [handler,same.world]
    exact fails _ _ ⟨same.cdb.trans repeats.cdb,same.initiatorId.trans repeats.initiatorId,env.trans repeats.env⟩ (by rw [transfer]; exact front)
  have whole := wholeChunk got.remaining got.chunk
  refine ⟨(a.check a.hasDataOut .dataOutCommand).ranHandler lun ⟨dev',a.transfer,w'⟩,if a.hasDataOut then [] else [.failed .dataOutCommand],
    ?_,got.phase,got.rst,got.req,got.atnMsg,
    ⟨same.cdb,same.lun,?_,rfl,same.initiatorId,same.targetId,same.linked,same.status,?_⟩,?_,.check _ _⟩
  · rw [asks]
    unfold chunkReceived
    dsimp only
    rw [whole,got.phase]
    dsimp only
    rw [refusesChunk lun' (by rw [same.luns]; exact here) failed]
    rfl
  · change Function.update a.luns lun (some dev') = _
    rw [same.luns]
  · change _ ≤ a.transfer.buffer.length
    rw [transfer]
  · change a.trace ++ _ = _
    rw [trace]

/- The chunks that WriteData takes, one after the other. -/
inductive Takes (asked : Request) (size : Nat) : Nat → AnyDevice → World → Bytes → AnyDevice → World → Prop where
  | none {dev : AnyDevice} {w : World} {data : Bytes} : Takes asked size 0 dev w data dev w
  | chunk {k : Nat} {dev dev' dev'' : AnyDevice} {w w' w'' : World} {data : Bytes} (puts : Puts asked size dev w (data.take size) dev' w')
      (later : Takes asked size k dev' w' (data.drop size) dev'' w'') : Takes asked size (k+1) dev w data dev'' w''

theorem unsentBehind {d : Controller AnyDevice} {bytes : Bytes} {events : List Event} (before : x.before ≤ c.trace.length)
    (trace : d.trace = c.trace ++ events) (sent : transferred .dataOut events = bytes) :
    unsent x d = (unsent x c).drop bytes.length := by
  unfold unsent
  rw [trace,List.drop_append_of_le_length before,transferredAppend,sent,List.length_append,List.drop_drop]

/- A chunk is received and goes to the device. -/
theorem takesChunk (receiving : Receiving size (k+1) size c) (positive : 0 < size) (offset : c.offset = 0)
    (effective : c.getEffectiveLun = lun) (here : c.luns lun = some dev)
    (other : c.opcode ≠ ScsiCommand.modeSelect6 ∧ c.opcode ≠ ScsiCommand.modeSelect10) {asked : Request} (repeats : Repeats asked (c.request x.env))
    (puts : Puts asked size dev c.world ((unsent x c).take size) dev' w') (enough : size ≤ (unsent x c).length) :
    ∃ got q i events, respond x c = got ∧ got.phase = .dataOut ∧
      respond x got = (if q.transfer.remainingLength ≠ 0 then q.checkNextChunk else q.status i) ∧ Put size k lun dev' w' got q ∧
      Turns lun dev' w' c q ∧ q.trace = c.trace ++ events ∧ Moves [] ((unsent x c).take size) events := by
  obtain ⟨got,receives,received,place,same,buffer,first⟩ := receivesChunk (x := x) receiving offset positive enough
  have front : got.transfer.buffer.take size = (unsent x c).take size := by
    rw [buffer]
    exact chunkInFront (List.length_take_of_le enough)
  have turned := same.turns here (by rw [buffer]; exact setBytesGrows _ _ _)
  obtain ⟨q,i,stores,put⟩ := putsChunk (x := x) received place (turned.effective.trans effective) turned.here
    (by rw [same.opcode]; exact other) front (repeats.again same.cdb same.initiatorId) (by rw [same.world]; exact puts)
  obtain ⟨silent,second,quiet⟩ := put.trace
  have trace : q.trace = c.trace ++ ([.received .dataOut ((unsent x c).take size)] ++ silent) := by
    rw [second,first,List.append_assoc]
  exact ⟨got,q,i,_,receives,received.phase,stores,put,turned.trans put.turns,trace,quiet.received⟩

/- A chunk is received, and the next one is waited for. -/
theorem collectsNext (receiving : Receiving size (k+2) size c) (positive : 0 < size) (offset : c.offset = 0)
    (effective : c.getEffectiveLun = lun) (here : c.luns lun = some dev)
    (other : c.opcode ≠ ScsiCommand.modeSelect6 ∧ c.opcode ≠ ScsiCommand.modeSelect10) {asked : Request} (repeats : Repeats asked (c.request x.env))
    (puts : Puts asked size dev c.world ((unsent x c).take size) dev' w') (enough : size ≤ (unsent x c).length) :
    ∃ d events, Receiving size (k+1) size d ∧ d.offset = 0 ∧ Turns lun dev' w' c d ∧ d.opcode = c.opcode ∧ d.trace = c.trace ++ events ∧
      Moves [] ((unsent x c).take size) events ∧ ∀ steps, serve (respond x) (steps+2) c = serve (respond x) steps d := by
  obtain ⟨got,q,i,events,receives,phase,stores,put,both,trace,moves⟩ :=
    takesChunk (x := x) receiving positive offset effective here other repeats puts enough
  have more : 0 < (k+1) * size := Nat.mul_pos (Nat.succ_pos k) positive
  have least : min size ((k+1) * size) = size := Nat.min_eq_left (Nat.le_mul_of_pos_left _ (Nat.succ_pos k))
  have some_ : q.transfer.remainingLength ≠ 0 := by
    rw [put.remaining]
    omega
  have goes : respond x got = q.checkNextChunk := by
    rw [stores,if_pos some_]
  have current : q.transfer.currentLength = size := by rw [put.currentLength,least]
  have checked : q.checkNextChunk.trace = q.trace := by
    change (q.trace ++ (if decide (q.transfer.currentLength ≠ 0) then [] else _)) ++ (if decide (q.offset = 0) then [] else _) = _
    rw [current,put.offset,if_pos (by rw [decide_eq_true_iff]; omega),if_pos (by decide),List.append_nil,List.append_nil]
  have next : Receiving size (k+1) size q.checkNextChunk :=
    ⟨put.phase,put.rst,put.req,put.io,both.linked.trans receiving.linked,put.atnMsg,current,put.remaining,by
      change q.transfer.chunkSize = _
      rw [put.chunk,least]⟩
  have turns : Turns lun dev' w' c q.checkNextChunk := both.same ⟨rfl,rfl,rfl,rfl,rfl,rfl,rfl,rfl⟩ le_rfl
  have opcode : q.checkNextChunk.opcode = c.opcode := by
    unfold Controller.opcode
    rw [turns.cdb]
  exact ⟨_,events,next,put.offset,turns,opcode,checked.trans trace,moves,
    serveTwice receives goes (by rw [phase]; decide) (by rw [next.phase]; decide)⟩

/- The last chunk is received, and the status follows. -/
theorem collectsLast (receiving : Receiving size 1 size c) (positive : 0 < size) (offset : c.offset = 0)
    (effective : c.getEffectiveLun = lun) (here : c.luns lun = some dev)
    (other : c.opcode ≠ ScsiCommand.modeSelect6 ∧ c.opcode ≠ ScsiCommand.modeSelect10) {asked : Request} (repeats : Repeats asked (c.request x.env))
    (puts : Puts asked size dev c.world ((unsent x c).take size) dev' w') (enough : size ≤ (unsent x c).length)
    (status : c.transfer.status = .good) : ∃ q events, Resting .good q ∧ Turns lun dev' w' c q ∧ q.trace = c.trace ++ events ∧
      Moves [] ((unsent x c).take size) events ∧ ∀ steps, serve (respond x) (steps+2) c = serve (respond x) steps q.enterStatus := by
  obtain ⟨got,q,i,events,receives,phase,stores,put,both,trace,moves⟩ :=
    takesChunk (x := x) (k := 0) receiving positive offset effective here other repeats puts enough
  have none : q.transfer.remainingLength = 0 := by
    rw [put.remaining,Nat.zero_mul]
    rfl
  have enters : respond x got = q.enterStatus := by
    rw [stores,if_neg (fun wrong => wrong none)]
    exact if_neg (by rw [put.phase]; decide)
  have code : q.statusByte = StatusCode.good.code := by
    rw [both.statusByte,Controller.statusByte,receiving.linked,status]
    rfl
  exact ⟨q,events,⟨put.rst,put.req,both.linked.trans receiving.linked,put.atnMsg,code⟩,both,trace,moves,
    serveTwice receives enters (by rw [phase]; decide) (fun wrong => by cases wrong)⟩

/- From the first byte of a chunk to the free bus. -/
theorem collects (receiving : Receiving size (k+1) size c) (positive : 0 < size) (offset : c.offset = 0)
    (effective : c.getEffectiveLun = lun) (here : c.luns lun = some dev)
    (other : c.opcode ≠ ScsiCommand.modeSelect6 ∧ c.opcode ≠ ScsiCommand.modeSelect10) (before : x.before ≤ c.trace.length)
    {asked : Request} (repeats : Repeats asked (c.request x.env))
    (takes : Takes asked size (k+1) dev c.world (unsent x c) dev' w') (enough : (k+1) * size ≤ (unsent x c).length)
    (status : c.transfer.status = .good) : ∃ d events, Idle d ∧ d.luns = Function.update c.luns lun (some dev') ∧ d.world = w' ∧
      d.initiatorId = c.initiatorId ∧ d.targetId = c.targetId ∧ c.transfer.buffer.length ≤ d.transfer.buffer.length ∧
      d.trace = c.trace ++ events ∧ transferred .status events = [StatusCode.good.code] ∧ transferred .dataIn events = [] ∧
      (transferred .dataOut events).length = (k+1) * size ∧
      ∀ steps, serve (respond x) (steps + 2 * (k+1) + 4) c = d := by
  induction k generalizing c dev with
  | zero =>
    cases takes with
    | chunk puts later =>
      cases later
      rw [Nat.zero_add,Nat.one_mul] at enough
      obtain ⟨q,first,resting,turns,trace,moves,goes⟩ :=
        collectsLast (x := x) receiving positive offset effective here other repeats puts enough status
      obtain ⟨d,more,idle,follows,concludes,finish⟩ := resting.ends (x := x)
      refine ⟨d,first ++ more,idle,?_,follows.world.trans turns.world,follows.initiatorId.trans turns.initiatorId,
        follows.targetId.trans turns.targetId,turns.grows.trans follows.buffer.grows,?_,?_,?_,?_,fun steps => ?_⟩
      · rw [follows.luns,turns.luns]
      · rw [follows.trace,trace,List.append_assoc]
      · rw [transferredAppend,moves.status,concludes.status]
        rfl
      · rw [transferredAppend,moves.dataIn,concludes.dataIn]
        rfl
      · rw [transferredAppend,moves.dataOut,concludes.dataOut,List.append_nil,List.length_take_of_le enough,Nat.zero_add,Nat.one_mul]
      · exact (goes (steps+4)).trans (finish steps)
  | succ k ih =>
    cases takes with
    | chunk puts later =>
      have split : (k+1+1) * size = (k+1) * size + size := Nat.succ_mul _ _
      have one : size ≤ (unsent x c).length := by omega
      have taken : ((unsent x c).take size).length = size := List.length_take_of_le one
      obtain ⟨next,first,receiving',offset',turns,opcode,trace,moves,goes⟩ :=
        collectsNext (x := x) receiving positive offset effective here other repeats puts one
      have left : unsent x next = (unsent x c).drop size := by
        rw [unsentBehind before trace moves.dataOut,taken]
      obtain ⟨d,events,idle,luns,world,initiatorId,targetId,grows,second,statuses,dataIn,dataOut,finish⟩ := ih receiving' offset'
        (turns.effective.trans effective) turns.here (by rw [opcode]; exact other)
        (before.trans (by rw [trace,List.length_append]; exact Nat.le_add_right _ _))
        (repeats.again turns.cdb turns.initiatorId) (by rw [turns.world,left]; exact later) (by rw [left,List.length_drop]; omega) (turns.status.trans status)
      refine ⟨d,first ++ events,idle,?_,world,initiatorId.trans turns.initiatorId,
        targetId.trans turns.targetId,turns.grows.trans grows,?_,?_,?_,?_,fun steps => ?_⟩
      · rw [luns,turns.luns,Function.update_idem]
      · rw [second,trace,List.append_assoc]
      · rw [transferredAppend,moves.status,statuses]
        rfl
      · rw [transferredAppend,moves.dataIn,dataIn]
        rfl
      · rw [transferredAppend,moves.dataOut,List.length_append,taken,dataOut]
        omega
      · have shape : steps + 2 * (k+1+1) + 4 = steps + 2 * (k+1) + 4 + 2 := by omega
        rw [shape,goes]
        exact finish steps

/-! The command as a whole. -/

/- What has happened on the bus behind the dispatch of a command. -/
structure Answering (status : UInt8) (dataIn : Bytes) (taken : Nat) (events : List Event) : Prop where
  status : transferred .status events = [status]
  dataIn : transferred .dataIn events = dataIn
  taken : (transferred .dataOut events).length = taken

theorem Concludes.answering {status : UInt8} {data : Bytes} {events : List Event} (concludes : Concludes status data events) :
    Answering status data 0 events := ⟨concludes.status,concludes.dataIn,by rw [concludes.dataOut]; rfl⟩

/- The controller when the handler is called, and what follows when the handler has ended. -/
structure Dispatches (x : Exchange) (ids : Nat) (dev : AnyDevice) (c p : Controller AnyDevice) : Prop where
  prepared : Prepared x.initiator x.cdb dev { c with initiatorId := initiatorOf ids c.targetId } p
  before : x.before ≤ p.trace.length
  silent : transferred .dataOut (p.trace.drop x.before) = []
  answer : ∀ {q d : Controller AnyDevice} {events : List Event} {n taken : Nat} {status : UInt8} {data : Bytes},
    p.dispatchTo AnyDevice.methods { bytes := x.cdb, env := x.env } x.initiator.targetLun (fresh dev) = q → q.phase ≠ .busFree →
    (∀ steps, serve (respond x) (steps + n) q = d) → d.trace = p.trace ++ events → Answering status data taken events → ∀ steps,
    target x.initiator x.env (steps + n + 4) ids c x.cdb x.dataOut = ({ status := status.toNat, dataIn := data, taken },d)

theorem dispatches (ids : Nat) {dev : AnyDevice} (idle : Idle c) (lun : x.initiator.targetLun < 32) (room : 0 < c.transfer.buffer.length)
    (single : Single x.cdb) (here : c.luns x.initiator.targetLun = some dev) (before : x.before = c.trace.length) :
    ∃ p, Dispatches x ids dev c p := by
  obtain ⟨i,env,cdb,dataOut,start⟩ := x
  dsimp only at lun single here before
  subst before
  have selects : c.step AnyDevice.methods (.select ids) = { c with initiatorId := initiatorOf ids c.targetId } := if_pos idle.phase
  have idleSelected : Idle { c with initiatorId := initiatorOf ids c.targetId } := ⟨idle.phase,idle.bsy,idle.rst,idle.req⟩
  obtain ⟨p,events,prepared,trace,silent,serves⟩ := reaches (x := ⟨i,env,cdb,dataOut,c.trace.length⟩) idleSelected lun room single here
  have added : p.trace.drop c.trace.length = events := by
    rw [trace,List.drop_left]
  refine ⟨p,prepared,?_,?_,?_⟩
  · rw [trace,List.length_append]
    exact Nat.le_add_right _ _
  · rw [added]
    exact silent.2.2
  · intro q d more n taken status data dispatched busy finish whole answering steps
    have served := (serves q dispatched busy (steps + n)).trans (finish steps)
    have events' : d.trace.drop c.trace.length = events ++ more := by
      rw [whole,trace,List.append_assoc,List.drop_left]
    unfold target
    dsimp only
    rw [selects,served,events',transferredAppend,transferredAppend,transferredAppend,silent.1,silent.2.1,silent.2.2,answering.status,
      answering.dataIn,List.nil_append,List.nil_append,List.nil_append,answering.taken]
    rfl

/- A handler that ends with GOOD at once. -/
theorem statusEnds {p : Controller AnyDevice} {u : HandlerState AnyDevice} (dispatched : Dispatches x k dev c p)
    (allowed : (base (fresh dev) : PrimaryDevice).checkReservation (p.request x.env) = true)
    (ran : AnyDevice.methods.dispatch p.opcode (p.request x.env) ⟨fresh dev,p.transfer,p.world⟩ = (.ok .status,u))
    (status : u.transfer.status = .good) (grows : c.transfer.buffer.length ≤ u.transfer.buffer.length) (steps : Nat) : ∃ d, Idle d ∧
      d.luns = Function.update c.luns x.initiator.targetLun (some u.device) ∧ d.world = u.world ∧
      c.transfer.buffer.length ≤ d.transfer.buffer.length ∧
      target x.initiator x.env (steps + 8) k c x.cdb x.dataOut = ({ status := StatusCode.good.code.toNat },d) := by
  have prepared := dispatched.prepared
  have phase : p.phase ≠ .status := by
    rw [prepared.phase]
    decide
  have called : p.dispatchTo AnyDevice.methods { bytes := x.cdb, env := x.env } x.initiator.targetLun (fresh dev) =
      (p.ranHandler x.initiator.targetLun u).enterStatus := by
    rw [dispatchOk AnyDevice.methods allowed ran]
    exact if_neg phase
  have code : (p.ranHandler x.initiator.targetLun u).statusByte = StatusCode.good.code := by
    change (if (p.linked && _) = true then _ else u.transfer.status.code) = _
    rw [prepared.linked,status]
    rfl
  obtain ⟨d,events,idle,follows,concludes,finish⟩ := (Resting.mk (c := p.ranHandler x.initiator.targetLun u) prepared.rst prepared.req
    prepared.linked prepared.atnMsg code).ends (x := x)
  refine ⟨d,idle,?_,follows.world,grows.trans follows.buffer.grows,?_⟩
  · rw [follows.luns]
    change Function.update p.luns _ _ = _
    rw [prepared.luns,Function.update_idem]
  · exact dispatched.answer called (fun wrong => by cases wrong) finish follows.trace concludes.answering steps

/- The sense data that Error leaves with the device. -/
def reported (key : SenseKey) (a : Asc) (b : PrimaryDevice) : PrimaryDevice :=
  if key ≠ .noSense || a ≠ .noAdditionalSenseInformation then b.setStatus key a else b

@[simp] theorem reportedReset (key : SenseKey) (a : Asc) (b : PrimaryDevice) : (reported key a b).resetStatus = b.resetStatus := by
  unfold reported
  split <;> rfl

/- From Error to the free bus. -/
theorem errorConcludes {q : Controller AnyDevice} (key : SenseKey) {a : Asc} (status : StatusCode) (supported : a ≠ .logicalUnitNotSupported)
    (phase : q.phase ≠ .status ∧ q.phase ≠ .msgIn) (rst : q.lines.rst = false) (req : q.lines.req = false) (linked : q.linked = false)
    (atnMsg : q.atnMsg = false) (effective : q.getEffectiveLun = lun) (here : q.luns lun = some dev) :
    (q.error key a status).phase ≠ .busFree ∧ ∃ d events, Idle d ∧
      d.luns = Function.update q.luns lun (some (setBase dev (reported key a (base dev)))) ∧ d.world = q.world ∧
      q.transfer.buffer.length ≤ d.transfer.buffer.length ∧ d.trace = q.trace ++ events ∧ Concludes status.code [] events ∧
      ∀ steps, serve (respond x) (steps+4) (q.error key a status) = d := by
  have going : ¬(q.lines.rst || q.phase = .status || q.phase = .msgIn) = true := by simp [rst,phase]
  have place : (if (a = .logicalUnitNotSupported || (q.luns lun).isNone) then 0 else lun) = lun := by
    rw [here]
    simp [supported]
  let e := if key ≠ .noSense || a ≠ .noAdditionalSenseInformation then q.modifyBase lun (·.setStatus key a) else q
  have ends : q.error key a status = (e.setStatus status).enterStatus := by
    unfold error
    rw [if_neg going]
    dsimp only
    rw [effective,place]
  have kept : e.luns = Function.update q.luns lun (some (setBase dev (reported key a (base dev)))) ∧ e.lines = q.lines ∧ e.linked = q.linked ∧
      e.atnMsg = q.atnMsg ∧ e.world = q.world ∧ e.trace = q.trace ∧ e.transfer = q.transfer := by
    unfold reported
    by_cases raised : (key ≠ .noSense || a ≠ .noAdditionalSenseInformation) = true
    · have same : e = q.modifyBase lun (·.setStatus key a) := if_pos raised
      rw [same,if_pos raised]
      refine ⟨?_,rfl,rfl,rfl,rfl,rfl,rfl⟩
      change Function.update q.luns lun ((q.luns lun).map _) = _
      rw [here]
      rfl
    · have same : e = q := if_neg raised
      rw [same,if_neg raised]
      refine ⟨?_,rfl,rfl,rfl,rfl,rfl,rfl⟩
      rw [setBaseSelf,← here,Function.update_eq_self]
  obtain ⟨stored,lines,link,atn,world,events,transfer⟩ := kept
  have code : (e.setStatus status).statusByte = status.code := by
    change (if (e.linked && _) = true then _ else status.code) = _
    rw [link,linked]
    rfl
  obtain ⟨d,more,idle,follows,concludes,finish⟩ := (Resting.mk (c := e.setStatus status) (by change e.lines.rst = _; rw [lines,rst])
    (by change e.lines.req = _; rw [lines,req]) (link.trans linked) (atn.trans atnMsg) code).ends (x := x)
  rw [ends]
  refine ⟨(by decide : BusPhase.status ≠ .busFree),d,more,idle,follows.luns.trans stored,follows.world.trans world,?_,?_,concludes,finish⟩
  · rw [← transfer]
    exact follows.buffer.grows
  · exact follows.trace.trans (congrArg (· ++ more) events)

/- A command that ends with an error: the device has got sense data. -/
theorem errorEnds {p q : Controller AnyDevice} {ids : Nat} {dev' : AnyDevice} (dispatched : Dispatches x ids dev c p) (key : SenseKey) {a : Asc}
    (status : StatusCode) (supported : a ≠ .logicalUnitNotSupported) (phase : q.phase = .command) (rst : q.lines.rst = false)
    (req : q.lines.req = false) (linked : q.linked = false) (atnMsg : q.atnMsg = false) (trace : q.trace = p.trace)
    (effective : q.getEffectiveLun = lun) (luns : q.luns = Function.update c.luns lun (some dev'))
    (grows : c.transfer.buffer.length ≤ q.transfer.buffer.length)
    (called : p.dispatchTo AnyDevice.methods { bytes := x.cdb, env := x.env } x.initiator.targetLun (fresh dev) = q.error key a status)
    (steps : Nat) : ∃ d : Controller AnyDevice, Idle d ∧
      d.luns = Function.update c.luns lun (some (setBase dev' (reported key a (base dev')))) ∧ d.world = q.world ∧
      c.transfer.buffer.length ≤ d.transfer.buffer.length ∧
      target x.initiator x.env (steps + 8) ids c x.cdb x.dataOut = ({ status := status.code.toNat },d) := by
  have here : q.luns lun = some dev' := by rw [luns,Function.update_self]
  obtain ⟨busy,d,more,idle,stored,world,room,events,concludes,finish⟩ := errorConcludes (x := x) key status supported (by rw [phase]; decide) rst req
    linked atnMsg effective here
  refine ⟨d,idle,?_,world,grows.trans room,?_⟩
  · rw [stored,luns,Function.update_idem]
  · exact dispatched.answer called busy finish (events.trans (congrArg (· ++ more) trace)) concludes.answering steps

theorem failureEnds {p : Controller AnyDevice} {ids : Nat} {e : ScsiException} {u : HandlerState AnyDevice} (dispatched : Dispatches x ids dev c p)
    (allowed : (base (fresh dev) : PrimaryDevice).checkReservation (p.request x.env) = true)
    (ran : AnyDevice.methods.dispatch p.opcode (p.request x.env) ⟨fresh dev,p.transfer,p.world⟩ = (.error e,u))
    (supported : e.asc ≠ .logicalUnitNotSupported) (grows : c.transfer.buffer.length ≤ u.transfer.buffer.length) (steps : Nat) :
    ∃ d : Controller AnyDevice, Idle d ∧
      d.luns = Function.update c.luns x.initiator.targetLun (some (setBase u.device (reported e.senseKey e.asc (base u.device)))) ∧ d.world = u.world ∧
      c.transfer.buffer.length ≤ d.transfer.buffer.length ∧
      target x.initiator x.env (steps + 8) ids c x.cdb x.dataOut = ({ status := StatusCode.checkCondition.code.toNat },d) := by
  have prepared := dispatched.prepared
  refine errorEnds (q := p.ranHandler x.initiator.targetLun u) dispatched e.senseKey .checkCondition supported prepared.phase prepared.rst
    prepared.req prepared.linked prepared.atnMsg rfl prepared.lun ?_ grows (dispatchError AnyDevice.methods allowed ran) steps
  change Function.update p.luns _ _ = _
  rw [prepared.luns,Function.update_idem]

theorem conflictEnds {p : Controller AnyDevice} {ids : Nat} (dispatched : Dispatches x ids dev c p)
    (refused : (base (fresh dev) : PrimaryDevice).checkReservation (p.request x.env) = false) (steps : Nat) :
    ∃ d : Controller AnyDevice, Idle d ∧
      d.luns = Function.update c.luns x.initiator.targetLun
        (some (setBase (fresh dev) (reported .illegalRequest .noAdditionalSenseInformation (base (fresh dev))))) ∧ d.world = c.world ∧
      c.transfer.buffer.length ≤ d.transfer.buffer.length ∧
      target x.initiator x.env (steps + 8) ids c x.cdb x.dataOut = ({ status := StatusCode.reservationConflict.code.toNat },d) := by
  have prepared := dispatched.prepared
  obtain ⟨d,idle,luns,world,room,answer⟩ := errorEnds dispatched .illegalRequest .reservationConflict (by decide) prepared.phase
    prepared.rst prepared.req prepared.linked prepared.atnMsg rfl prepared.lun prepared.luns prepared.buffer.grows
    (dispatchRefused AnyDevice.methods refused) steps
  exact ⟨d,idle,luns,world.trans prepared.world,room,answer⟩

/- A handler that ends with its first chunk. -/
theorem dataInChunks {p : Controller AnyDevice} {u : HandlerState AnyDevice} {ids : Nat} {data : Bytes} (dispatched : Dispatches x ids dev c p)
    (allowed : (base (fresh dev) : PrimaryDevice).checkReservation (p.request x.env) = true)
    (ran : AnyDevice.methods.dispatch p.opcode (p.request x.env) ⟨fresh dev,p.transfer,p.world⟩ = (.ok (.dataIn size),u))
    (status : u.transfer.status = .good) (grows : c.transfer.buffer.length ≤ u.transfer.buffer.length)
    (remaining : u.transfer.remainingLength = ((k+1) * size : Nat)) (chunk : u.transfer.chunkSize = size) (positive : 0 < size)
    (full : size ≤ u.transfer.buffer.length) (supplies : Supplies size k u.device u.world data dev' w') (steps : Nat) : ∃ d, Idle d ∧
      d.luns = Function.update c.luns x.initiator.targetLun (some dev') ∧ d.world = w' ∧
      c.transfer.buffer.length ≤ d.transfer.buffer.length ∧
      target x.initiator x.env (steps + 2 * (k+1) + 8) ids c x.cdb x.dataOut =
        ({ status := StatusCode.good.code.toNat, dataIn := u.transfer.buffer.take size ++ data },d) := by
  have prepared := dispatched.prepared
  have nonzero : ¬(size : Int) = 0 := by omega
  have called : p.dispatchTo AnyDevice.methods { bytes := x.cdb, env := x.env } x.initiator.targetLun (fresh dev) =
      ((p.ranHandler x.initiator.targetLun u).setCurrentLength size).enterDataIn := by
    rw [dispatchOk AnyDevice.methods allowed ran]
    exact if_neg nonzero
  have buffer : ((p.ranHandler x.initiator.targetLun u).setCurrentLength size).enterDataIn.transfer.buffer = u.transfer.buffer := by
    change u.transfer.buffer ++ List.replicate ((size : Int).toNat - u.transfer.buffer.length) 0 = _
    rw [Int.toNat_natCast,Nat.sub_eq_zero_of_le full,List.replicate_zero,List.append_nil]
  have streaming : Streaming size (k+1) size ((p.ranHandler x.initiator.targetLun u).setCurrentLength size).enterDataIn :=
    ⟨rfl,prepared.rst,prepared.req,rfl,prepared.linked,prepared.atnMsg,rfl,remaining,chunk⟩
  obtain ⟨d,events,idle,luns,world,_,_,more,trace,concludes,finish⟩ := streams (x := x) streaming positive rfl prepared.lun
    (Function.update_self _ _ _) supplies status
  rw [buffer] at more concludes
  refine ⟨d,idle,?_,world,grows.trans more,?_⟩
  · rw [luns]
    change Function.update (Function.update p.luns _ _) _ _ = _
    rw [prepared.luns,Function.update_idem,Function.update_idem]
  · have phases : d.trace = p.trace ++ ([.entered .dataIn] ++ events) := by
      rw [trace,← List.append_assoc]
      rfl
    exact dispatched.answer called (fun wrong => by cases wrong) (n := 2 * (k+1) + 4) (fun more => by rw [← Nat.add_assoc]; exact finish more)
      phases (Concludes.append ⟨rfl,rfl,rfl⟩ concludes).answering steps

theorem enteredGrows (q : Controller AnyDevice) (n : Nat) : q.transfer.buffer.length ≤ (enteredDataOut q n).transfer.buffer.length :=
  extendedGrows q.transfer n

theorem Dispatches.nothingSent {p q : Controller AnyDevice} {ids : Nat} (dispatched : Dispatches x ids dev c p)
    (entered : q.trace = p.trace ++ [.entered .dataOut]) : unsent x q = x.dataOut := by
  unfold unsent
  rw [entered,List.drop_append_of_le_length dispatched.before,transferredAppend,dispatched.silent]
  rfl

/- The handler asks for a first chunk, and the controller waits for it. -/
theorem Dispatches.asks {p : Controller AnyDevice} {u : HandlerState AnyDevice} {ids : Nat} (dispatched : Dispatches x ids dev c p)
    (allowed : (base (fresh dev) : PrimaryDevice).checkReservation (p.request x.env) = true)
    (ran : AnyDevice.methods.dispatch p.opcode (p.request x.env) ⟨fresh dev,p.transfer,p.world⟩ = (.ok (.dataOut size),u))
    (remaining : u.transfer.remainingLength = ((k+1) * size : Nat)) (chunk : u.transfer.chunkSize = size) (positive : 0 < size) :
    p.dispatchTo AnyDevice.methods { bytes := x.cdb, env := x.env } x.initiator.targetLun (fresh dev) =
        enteredDataOut (p.ranHandler x.initiator.targetLun u) size ∧
      Receiving size (k+1) size (enteredDataOut (p.ranHandler x.initiator.targetLun u) size) := by
  have prepared := dispatched.prepared
  exact ⟨(dispatchOk AnyDevice.methods allowed ran).trans (asksDataOut { bytes := x.cdb, env := x.env } positive),
    ⟨rfl,prepared.rst,prepared.req,rfl,prepared.linked,prepared.atnMsg,rfl,remaining,chunk⟩⟩

/- A handler that asks for its first chunk. -/
theorem dataOutChunks {p : Controller AnyDevice} {u : HandlerState AnyDevice} {ids : Nat} (dispatched : Dispatches x ids dev c p)
    (allowed : (base (fresh dev) : PrimaryDevice).checkReservation (p.request x.env) = true)
    (ran : AnyDevice.methods.dispatch p.opcode (p.request x.env) ⟨fresh dev,p.transfer,p.world⟩ = (.ok (.dataOut size),u))
    (status : u.transfer.status = .good) (grows : c.transfer.buffer.length ≤ u.transfer.buffer.length)
    (remaining : u.transfer.remainingLength = ((k+1) * size : Nat)) (chunk : u.transfer.chunkSize = size) (positive : 0 < size)
    (other : p.opcode ≠ ScsiCommand.modeSelect6 ∧ p.opcode ≠ ScsiCommand.modeSelect10)
    (takes : Takes (p.request x.env) size (k+1) u.device u.world x.dataOut dev' w') (enough : (k+1) * size ≤ x.dataOut.length) (steps : Nat) :
    ∃ d, Idle d ∧ d.luns = Function.update c.luns x.initiator.targetLun (some dev') ∧ d.world = w' ∧
      c.transfer.buffer.length ≤ d.transfer.buffer.length ∧
      target x.initiator x.env (steps + 2 * (k+1) + 8) ids c x.cdb x.dataOut =
        ({ status := StatusCode.good.code.toNat, taken := (k+1) * size },d) := by
  have prepared := dispatched.prepared
  let q := p.ranHandler x.initiator.targetLun u
  obtain ⟨called,receiving⟩ := dispatched.asks allowed ran remaining chunk positive
  have first : (enteredDataOut q size).trace = p.trace ++ [.entered .dataOut] := rfl
  have repeats : Repeats (p.request x.env) ((enteredDataOut q size).request x.env) := ⟨rfl,rfl,rfl⟩
  have data : unsent x (enteredDataOut q size) = x.dataOut := dispatched.nothingSent first
  have before : x.before ≤ (enteredDataOut q size).trace.length := by
    rw [first,List.length_append]
    exact dispatched.before.trans (Nat.le_add_right _ _)
  have room : u.transfer.buffer.length ≤ (enteredDataOut q size).transfer.buffer.length := enteredGrows q size
  obtain ⟨d,events,idle,luns,world,_,_,more,trace,statuses,dataIn,dataOut,finish⟩ := collects (x := x) receiving positive rfl prepared.lun
    (Function.update_self _ _ _) other before repeats (by rw [data]; exact takes) (by rw [data]; exact enough) status
  refine ⟨d,idle,?_,world,(grows.trans room).trans more,?_⟩
  · rw [luns]
    change Function.update (Function.update p.luns _ _) _ _ = _
    rw [prepared.luns,Function.update_idem,Function.update_idem]
  · have phases : d.trace = p.trace ++ ([.entered .dataOut] ++ events) := by
      rw [trace,first,List.append_assoc]
    refine dispatched.answer called (fun wrong => by cases wrong) (n := 2 * (k+1) + 4) (fun more => by rw [← Nat.add_assoc]; exact finish more)
      phases ⟨?_,?_,?_⟩ steps
    · rw [transferredAppend,statuses]
      rfl
    · rw [transferredAppend,dataIn]
      rfl
    · rw [transferredAppend,List.length_append,dataOut]
      exact Nat.zero_add _

/- A handler that asks for a chunk that the device does not accept. -/
theorem dataOutFails {p : Controller AnyDevice} {u : HandlerState AnyDevice} {ids : Nat} {e : ScsiException} (dispatched : Dispatches x ids dev c p)
    (allowed : (base (fresh dev) : PrimaryDevice).checkReservation (p.request x.env) = true)
    (ran : AnyDevice.methods.dispatch p.opcode (p.request x.env) ⟨fresh dev,p.transfer,p.world⟩ = (.ok (.dataOut size),u))
    (grows : c.transfer.buffer.length ≤ u.transfer.buffer.length)
    (remaining : u.transfer.remainingLength = ((k+1) * size : Nat)) (chunk : u.transfer.chunkSize = size) (positive : 0 < size)
    (other : p.opcode ≠ ScsiCommand.modeSelect6 ∧ p.opcode ≠ ScsiCommand.modeSelect10)
    (fails : ∀ (r : Request) (t : Transfer), Repeats (p.request x.env) r → t.buffer.take size = x.dataOut.take size →
      AnyDevice.methods.writeData size size r ⟨u.device,t,u.world⟩ = (.error e,⟨dev',t,w'⟩))
    (supported : e.asc ≠ .logicalUnitNotSupported) (enough : size ≤ x.dataOut.length) (steps : Nat) :
    ∃ d : Controller AnyDevice, Idle d ∧
      d.luns = Function.update c.luns x.initiator.targetLun (some (setBase dev' (reported e.senseKey e.asc (base dev')))) ∧ d.world = w' ∧
      c.transfer.buffer.length ≤ d.transfer.buffer.length ∧
      target x.initiator x.env (steps + 10) ids c x.cdb x.dataOut =
        ({ status := StatusCode.checkCondition.code.toNat, taken := size },d) := by
  have prepared := dispatched.prepared
  let q := p.ranHandler x.initiator.targetLun u
  obtain ⟨called,receiving⟩ := dispatched.asks allowed ran remaining chunk positive
  have first : (enteredDataOut q size).trace = p.trace ++ [.entered .dataOut] := rfl
  have data : unsent x (enteredDataOut q size) = x.dataOut := dispatched.nothingSent first
  have room : u.transfer.buffer.length ≤ (enteredDataOut q size).transfer.buffer.length := enteredGrows q size
  obtain ⟨got,receives,received,offset,same,buffer,second⟩ := receivesChunk (x := x) receiving rfl positive (by rw [data]; exact enough)
  rw [data] at buffer second
  have front : got.transfer.buffer.take size = x.dataOut.take size := by
    rw [buffer]
    exact chunkInFront (List.length_take_of_le enough)
  have here : got.luns x.initiator.targetLun = some u.device := by
    rw [same.luns]
    exact Function.update_self _ _ _
  have lun : got.getEffectiveLun = x.initiator.targetLun := same.effectiveLun.trans prepared.lun
  have repeats : Repeats (p.request x.env) (got.request x.env) := ⟨same.cdb,same.initiatorId,rfl⟩
  obtain ⟨b,silent,ends,phase,rst,req,atnMsg,turns,third,quiet⟩ := chunkFails (x := x) received offset lun here (by rw [same.opcode]; exact other)
    front repeats (by rw [same.world]; exact fails)
  obtain ⟨busy,d,more,idle,luns,world,grown,trace,concludes,finish⟩ := errorConcludes (x := x) e.senseKey .checkCondition supported
    (by rw [phase]; decide) rst req (turns.linked.trans received.linked) atnMsg (turns.effective.trans lun) turns.here
  have moves : Moves [] (x.dataOut.take size) ([.received .dataOut (x.dataOut.take size)] ++ silent) := quiet.received
  have phases : d.trace = p.trace ++ ([.entered .dataOut] ++ ([.received .dataOut (x.dataOut.take size)] ++ silent) ++ more) := by
    rw [trace,third,second,first]
    simp only [List.append_assoc]
  refine ⟨d,idle,?_,world.trans turns.world,?_,?_⟩
  · rw [luns,turns.luns,same.luns]
    change Function.update (Function.update (Function.update p.luns _ _) _ _) _ _ = _
    rw [prepared.luns,Function.update_idem,Function.update_idem,Function.update_idem]
  · have received : (enteredDataOut q size).transfer.buffer.length ≤ got.transfer.buffer.length := by
      rw [buffer]
      exact setBytesGrows _ _ _
    exact (grows.trans room).trans (received.trans (turns.grows.trans grown))
  · refine dispatched.answer called (fun wrong => by cases wrong) (n := 6) (fun rest => ?_) phases ⟨?_,?_,?_⟩ steps
    · exact (serveTwice receives ends (by rw [received.phase]; decide) busy (rest+4)).trans (finish rest)
    · rw [transferredAppend,transferredAppend,moves.status,concludes.status]
      rfl
    · rw [transferredAppend,transferredAppend,moves.dataIn,concludes.dataIn]
      rfl
    · rw [transferredAppend,transferredAppend,moves.dataOut,concludes.dataOut]
      simp [transferred,transferredBy,enough]

/- A handler that has all its data. -/
theorem dataInOnce {p : Controller AnyDevice} {u : HandlerState AnyDevice} {ids count : Nat} (dispatched : Dispatches x ids dev c p)
    (allowed : (base (fresh dev) : PrimaryDevice).checkReservation (p.request x.env) = true)
    (ran : AnyDevice.methods.dispatch p.opcode (p.request x.env) ⟨fresh dev,p.transfer,p.world⟩ = (.ok (.dataIn count),u))
    (remaining : u.transfer.remainingLength = 0) (chunk : u.transfer.chunkSize = 0) (status : u.transfer.status = .good)
    (fits : count ≤ u.transfer.buffer.length) (grows : c.transfer.buffer.length ≤ u.transfer.buffer.length) (steps : Nat) :
    ∃ d : Controller AnyDevice, Idle d ∧ d.luns = Function.update c.luns x.initiator.targetLun (some u.device) ∧ d.world = u.world ∧
      c.transfer.buffer.length ≤ d.transfer.buffer.length ∧
      target x.initiator x.env (steps + 10) ids c x.cdb x.dataOut =
        ({ status := StatusCode.good.code.toNat, dataIn := u.transfer.buffer.take count },d) := by
  have prepared := dispatched.prepared
  have handed : Handed count (p.ranHandler x.initiator.targetLun u) :=
    ⟨prepared.phase,prepared.rst,prepared.req,prepared.linked,prepared.atnMsg,remaining,chunk,status,fits⟩
  obtain ⟨busy,d,more,idle,follows,concludes,finish⟩ := @dataInEnds x _ count { bytes := x.cdb, env := x.env } handed
  refine ⟨d,idle,?_,follows.world,grows.trans follows.buffer.grows,
    dispatched.answer (dispatchOk AnyDevice.methods allowed ran) busy finish follows.trace concludes.answering steps⟩
  rw [follows.luns]
  change Function.update p.luns _ _ = _
  rw [prepared.luns,Function.update_idem]

/-! Commands one after the other. -/

/- A complete CDB of a known command has the length of the command. -/
theorem singleLength {cdb : Bytes} (single : Single cdb) (other : cdb.getD 0 0 ≠ (0x1f : ScsiCommand))
    (known : CommandMetaData.getByteCount (cdb.getD 0 0) ≠ 0) : cdb.length = CommandMetaData.getByteCount (cdb.getD 0 0) := by
  have complete := single.complete
  cases cdb with
  | nil => cases single.nonempty
  | cons opcode rest =>
    change opcode ≠ 0x1f at other
    change CommandMetaData.getByteCount opcode ≠ 0 at known
    have skips : skipIcdPrefix (opcode::rest) = opcode::rest := by
      unfold skipIcdPrefix
      split
      · next same => exact absurd (List.cons.inj same).1 other
      · rfl
    unfold commandHandShake at complete
    rw [skips] at complete
    dsimp only at complete
    rw [if_neg known] at complete
    split at complete
    · have wrong := (Prod.mk.inj complete).2
      omega
    · have length := (Prod.mk.inj complete).2
      exact (Int.ofNat_inj.mp length).symm

/- A command of an initiator with these IDs on the data lines. -/
structure Order where
  ids : Nat
  env : Env := {}
  cdb : Bytes
  dataOut : Bytes := []

namespace Order

def opcode (o : Order) : ScsiCommand := o.cdb.getD 0 0

def request (o : Order) : Request := { cdb := o.cdb }

end Order

theorem serveTargetId (x : Exchange) (steps : Nat) (c : Controller AnyDevice) : (serve (respond x) steps c).targetId = c.targetId := by
  induction steps generalizing c with
  | zero => rfl
  | succ steps ih =>
    have kept : (respond x c).targetId = c.targetId := (ScriptReplay.doesProcess _ _).target
    unfold serve
    split
    · exact kept
    · exact (ih _).trans kept

theorem targetIdKept (i : BoardExecutor.Initiator) (env : Env) (steps ids : Nat) (c : Controller AnyDevice) (cdb dataOut : Bytes) :
    (target i env steps ids c cdb dataOut).2.targetId = c.targetId := by
  refine (serveTargetId _ _ _).trans ?_
  change (if c.phase = .busFree then _ else _ : Controller AnyDevice).targetId = _
  split <;> rfl

end Scsi2Pi.BoardTarget
