import Scsi2Pi.BoardTarget

/-! SEND MESSAGE(6) of DaynaPort: what is received in the DATA OUT phase of the command,
and what the TAP driver gets. -/
namespace Scsi2Pi
open Slices MemoryUtil Handler Derives Eff Controller

namespace BoardTarget
open TransferBudget CommandMetaData

/-! DATA OUT with a single chunk. -/

variable {x : Exchange} {c d : Controller AnyDevice}

/- A chunk is to be received or has been received. -/
structure Collecting (count : Nat) (length : Int) (c : Controller AnyDevice) : Prop where
  phase : c.phase = .dataOut
  rst : c.lines.rst = false
  req : c.lines.req = false
  io : c.lines.io = false
  linked : c.linked = false
  atnMsg : c.atnMsg = false
  currentLength : c.transfer.currentLength = length
  remaining : c.transfer.remainingLength = count
  chunk : c.transfer.chunkSize = count

def enteredDataOut (c : Controller AnyDevice) (count : Nat) : Controller AnyDevice :=
  (((c.setCurrentLength count).setPhase .dataOut).setLines false false false).resetOffset

theorem asksDataOut {count : Nat} (entry : Input) (positive : 0 < count) :
    c.callPhase entry (.dataOut count) = enteredDataOut c count := by
  have nonzero : ¬(count : Int) = 0 := by omega
  have valid : ¬(count : Int) = -1 := by omega
  refine (if_neg nonzero).trans ?_
  change (((if (count : Int) = -1 then _ else c.setCurrentLength count).setPhase .dataOut).setLines false false false).resetOffset = _
  rw [if_neg valid]
  rfl

/- What does not matter to a handler. -/
structure SameRequest (c d : Controller AnyDevice) : Prop where
  cdb : d.cdb = c.cdb
  lun : d.identifiedLun = c.identifiedLun
  luns : d.luns = c.luns
  world : d.world = c.world
  initiatorId : d.initiatorId = c.initiatorId
  targetId : d.targetId = c.targetId
  linked : d.linked = c.linked
  status : d.transfer.status = c.transfer.status

theorem SameRequest.trans {e : Controller AnyDevice} (first : SameRequest c d) (second : SameRequest d e) : SameRequest c e :=
  ⟨second.cdb.trans first.cdb,second.lun.trans first.lun,second.luns.trans first.luns,second.world.trans first.world,
    second.initiatorId.trans first.initiatorId,second.targetId.trans first.targetId,second.linked.trans first.linked,
    second.status.trans first.status⟩

/- The bytes of a chunk are stored from the start of the buffer. -/
theorem receivesData {count : Nat} (collecting : Collecting count count c) (offset : c.offset = 0) (positive : 0 < count)
    {bytes : Bytes} (same : x.dataOut.drop (transferred .dataOut (c.trace.drop x.before)).length = bytes)
    (enough : count ≤ bytes.length) : ∃ d, respond x c = d ∧ Collecting count 0 d ∧ d.offset = count ∧ SameRequest c d ∧
      d.transfer.buffer = setBytes c.transfer.buffer 0 (bytes.take count) ∧
      d.trace = c.trace ++ [.received .dataOut (bytes.take count)] := by
  subst same
  obtain ⟨phase,rst,req,io,linked,atnMsg,currentLength,remaining,chunk⟩ := collecting
  obtain ⟨_,⟨_,_,_,_,_,_,_,_,_,_⟩,⟨buffer,_,_,_,_,_⟩,_,_,_,_,_,_,_,_,_,_,_,_,_,trace⟩ := c
  dsimp only at phase rst req io linked atnMsg currentLength remaining chunk offset enough
  subst phase rst req io linked atnMsg currentLength remaining chunk offset
  have nonzero : (count : Int) ≠ 0 := by omega
  have all : ¬((((x.dataOut.drop (transferred .dataOut (trace.drop x.before)).length).take count).length : Nat) : Int) ≠ count := by
    rw [List.length_take,Nat.min_eq_left enough]
    exact fun wrong => wrong rfl
  refine ⟨_,(if_pos nonzero).trans (if_neg all),⟨rfl,rfl,rfl,rfl,rfl,rfl,rfl,rfl,rfl⟩,Int.zero_add _,
    ⟨rfl,rfl,rfl,rfl,rfl,rfl,rfl,rfl⟩,rfl,?_⟩
  change ((trace ++ []) ++ []) ++ [Event.received .dataOut _] = _
  simp only [List.append_nil]
  rfl

def storedChunk (a : Controller AnyDevice) (lun : Nat) (u : HandlerState AnyDevice) (n : Int) : Controller AnyDevice :=
  let b := ((a.check a.hasDataOut .dataOutCommand).ranHandler lun u).updateTransferLength n
  (b.setCurrentLength b.transfer.chunkSize).resetOffset

theorem handlerRan {α : Type} (env : Env) (lun : Nat) {dev : AnyDevice} {h : Handler AnyDevice α}
    {result : Except ScsiException α} {u : HandlerState AnyDevice}
    (ran : h (c.request env) ⟨dev,c.transfer,c.world⟩ = (result,u)) :
    c.runHandler env lun dev h = (result,c.ranHandler lun u) := by
  unfold runHandler
  rw [ran]
  rfl

theorem transfersFromHost {a : Controller AnyDevice} {i : Input} {lun : Nat} {dev : AnyDevice} {length n : Int}
    {u : HandlerState AnyDevice} (effective : a.getEffectiveLun = lun) (here : a.luns lun = some dev)
    (ran : a.receiveParameters AnyDevice.methods dev length (a.request i.env) ⟨dev,a.transfer,a.world⟩ = (.ok n,u)) :
    a.transferFromHost AnyDevice.methods i length = (true,storedChunk a lun u n) := by
  subst effective
  have handled := handlerRan (c := a.check a.hasDataOut .dataOutCommand) i.env
    (a.check a.hasDataOut .dataOutCommand).getEffectiveLun ran
  unfold transferFromHost
  dsimp only
  split
  · next none => cases here.symm.trans none
  · next there =>
    cases here.symm.trans there
    have unchanged : (a.check a.hasDataOut .dataOutCommand).receiveParameters AnyDevice.methods dev length =
        a.receiveParameters AnyDevice.methods dev length := rfl
    rw [unchanged,handled]
    rfl

/- Without a reset Process goes on with the phase. -/
theorem respondsPhase {i : Input} (line : (c.acquire i).lines.rst = false)
    (given : input x.initiator x.env x.cdb (x.dataOut.drop (transferred .dataOut (c.trace.drop x.before)).length) c = i) :
    respond x c = (c.acquire i).processPhase AnyDevice.methods i := by
  unfold respond
  rw [given]
  unfold process
  dsimp only
  rw [if_neg (by rw [line]; decide)]

/- The initiator offers what it has not sent yet. -/
theorem reachesDataOut (phase : c.phase = .dataOut) (rst : c.lines.rst = false) (sent : c.transfer.currentLength = 0) : ∃ i : Input,
    i.env = x.env ∧ (c.acquire i).lines.rst = false ∧ respond x c = (c.acquire i).checkReceive.chunkReceived AnyDevice.methods i := by
  let i : Input := { bytes := x.dataOut.drop (transferred .dataOut (c.trace.drop x.before)).length, env := x.env }
  have given : input x.initiator x.env x.cdb (x.dataOut.drop (transferred .dataOut (c.trace.drop x.before)).length) c = i := by
    unfold input
    rw [phase]
  have line : (c.acquire i).lines.rst = false := by
    change (c.lines.rst || false) = false
    rw [rst]
    rfl
  refine ⟨i,rfl,line,?_⟩
  have here : (c.acquire i).phase = .dataOut := phase
  rw [respondsPhase line given]
  unfold processPhase
  rw [here]
  exact if_neg fun wrong => wrong sent

theorem checkedReceive (i : Input) (req : c.lines.req = false) (io : c.lines.io = false) : (c.acquire i).checkReceive.trace = c.trace := by
  change (c.trace ++ (if !c.lines.req then [] else _)) ++ (if !c.lines.io then [] else _) = _
  rw [req,io]
  simp

/- Only the lines that the initiator drives have changed. -/
theorem reachesChunk {count : Nat} (collecting : Collecting count 0 c) : ∃ a i,
    respond x c = a.chunkReceived AnyDevice.methods i ∧ i.env = x.env ∧ Collecting count 0 a ∧ SameRequest c a ∧
      a.transfer = c.transfer ∧ a.offset = c.offset ∧ a.trace = c.trace := by
  obtain ⟨phase,rst,req,io,linked,atnMsg,currentLength,remaining,chunk⟩ := collecting
  obtain ⟨i,env,line,responds⟩ := reachesDataOut (x := x) phase rst currentLength
  exact ⟨(c.acquire i).checkReceive,i,responds,env,⟨phase,line,req,io,linked,atnMsg,currentLength,remaining,chunk⟩,
    ⟨rfl,rfl,rfl,rfl,rfl,rfl,rfl,rfl⟩,rfl,rfl,checkedReceive i req io⟩

/- The controller after the only chunk, before it enters STATUS. -/
structure Stored (lun : Nat) (c q : Controller AnyDevice) (u : HandlerState AnyDevice) : Prop where
  rst : q.lines.rst = false
  req : q.lines.req = false
  linked : q.linked = false
  atnMsg : q.atnMsg = false
  status : q.transfer.status = u.transfer.status
  luns : q.luns = Function.update c.luns lun (some u.device)
  world : q.world = u.world
  trace : ∃ events, q.trace = c.trace ++ events ∧ transferred .status events = [] ∧ transferred .dataIn events = [] ∧
    transferred .dataOut events = []

theorem checkSilent {p : BusPhase} (holds : Bool) (a : Assertion) : transferred p (if holds then [] else [.failed a]) = [] := by
  cases holds <;> rfl

theorem storesData {count : Nat} {lun : Nat} {dev : AnyDevice} {n : Int} {u : HandlerState AnyDevice}
    (collecting : Collecting count 0 c) (effective : c.getEffectiveLun = lun) (here : c.luns lun = some dev)
    (ran : c.receiveParameters AnyDevice.methods dev count (c.request x.env) ⟨dev,c.transfer,c.world⟩ = (.ok n,u))
    (left : u.transfer.remainingLength ≤ n) : ∃ q, respond x c = q.enterStatus ∧ Stored lun c q u := by
  obtain ⟨a,i,asked,env,got,same,transfer,offset,trace⟩ := reachesChunk (x := x) collecting
  have lun' : a.getEffectiveLun = lun := by
    unfold getEffectiveLun
    rw [same.lun,same.cdb]
    exact effective
  have request : a.request i.env = c.request x.env := by
    unfold request getEffectiveLun
    rw [same.lun,same.cdb,same.luns,same.initiatorId,same.targetId,same.linked,env]
  have handler : a.receiveParameters AnyDevice.methods dev count = c.receiveParameters AnyDevice.methods dev count := by
    unfold receiveParameters opcode
    rw [same.cdb,offset]
  have moved := transfersFromHost (i := i) lun' (by rw [same.luns]; exact here)
    (by rw [handler,request,transfer,same.world]; exact ran)
  have whole : min a.transfer.chunkSize a.transfer.remainingLength = count := by
    rw [got.chunk,got.remaining,Int.min_self]
  have done : (storedChunk a lun u n).transfer.remainingLength = 0 := by
    change max (u.transfer.remainingLength - n) 0 = 0
    omega
  refine ⟨storedChunk a lun u n,?_,?_⟩
  · rw [asked]
    unfold chunkReceived
    dsimp only
    rw [whole,got.phase]
    dsimp only
    rw [moved]
    dsimp only
    rw [if_neg (by decide),if_neg (by rw [done]; exact fun wrong => wrong rfl)]
    exact if_neg (by change a.phase ≠ .status; rw [got.phase]; decide)
  · refine ⟨got.rst,got.req,got.linked,got.atnMsg,rfl,?_,rfl,(if a.hasDataOut then [] else [.failed .dataOutCommand]) ++
      (if decide (0 ≤ u.transfer.remainingLength - n) then [] else [.failed .remainingLength]),?_,?_,?_,?_⟩
    · change Function.update a.luns lun (some u.device) = _
      rw [same.luns]
    · change (a.trace ++ (if a.hasDataOut then [] else [.failed .dataOutCommand])) ++
        (if decide (0 ≤ u.transfer.remainingLength - n) then [] else [.failed .remainingLength]) = _
      rw [trace,List.append_assoc]
    all_goals
      rw [transferredAppend,checkSilent,checkSilent]
      rfl

/- What the handler finds in the buffer: the data, and behind them what was there before. -/
def collected (buffer data : Bytes) (count : Nat) : Bytes :=
  setBytes (buffer ++ List.replicate (count - buffer.length) 0) 0 (data.take count)

/- A handler that stores the only chunk. -/
def Stores (h : Handler AnyDevice Int) (cdb : Bytes) (dev : AnyDevice) (w : World) (buffer : Bytes)
    (ends : HandlerState AnyDevice → Prop) : Prop :=
  ∀ (r : Request) (t : Transfer), r.cdb = cdb → t.buffer = buffer → t.status = .good → ∃ n v,
    h r ⟨dev,t,w⟩ = (.ok n,v) ∧ v.transfer.remainingLength ≤ n ∧ ends v

theorem SameRequest.effectiveLun (same : SameRequest c d) : d.getEffectiveLun = c.getEffectiveLun := by
  unfold getEffectiveLun
  rw [same.lun,same.cdb]

theorem SameRequest.opcode (same : SameRequest c d) : d.opcode = c.opcode := by
  unfold Controller.opcode
  rw [same.cdb]

/- From the DATA OUT phase to the free bus. -/
theorem dataOutEnds {count : Nat} (entry : Input) {lun : Nat} {dev : AnyDevice} {ends : HandlerState AnyDevice → Prop}
    (rst : c.lines.rst = false) (req : c.lines.req = false) (linked : c.linked = false) (atnMsg : c.atnMsg = false)
    (remaining : c.transfer.remainingLength = count) (chunk : c.transfer.chunkSize = count)
    (status : c.transfer.status = .good) (positive : 0 < count) (enough : count ≤ x.dataOut.length)
    (before : x.before ≤ c.trace.length) (silent : transferred .dataOut (c.trace.drop x.before) = [])
    (effective : c.getEffectiveLun = lun) (here : c.luns lun = some dev)
    (other : c.opcode ≠ ScsiCommand.modeSelect6 ∧ c.opcode ≠ ScsiCommand.modeSelect10)
    (stores : Stores (AnyDevice.methods.writeData count count) c.cdb dev c.world
      (collected c.transfer.buffer x.dataOut count) ends) :
    (c.callPhase entry (.dataOut count)).phase ≠ .busFree ∧ ∃ v d events, ends v ∧ d.world = v.world ∧
      d.trace = c.trace ++ events ∧ transferred .status events = [v.transfer.status.code] ∧
      transferred .dataIn events = [] ∧ (transferred .dataOut events).length = count ∧
      ∀ steps, serve (respond x) (steps+6) (c.callPhase entry (.dataOut count)) = d := by
  have asks := asksDataOut (c := c) entry positive
  have collecting : Collecting count count (enteredDataOut c count) := ⟨rfl,rst,req,rfl,linked,atnMsg,rfl,remaining,chunk⟩
  have entered : SameRequest c (enteredDataOut c count) := ⟨rfl,rfl,rfl,rfl,rfl,rfl,rfl,rfl⟩
  have first : (enteredDataOut c count).trace = c.trace ++ [.entered .dataOut] := rfl
  have data : x.dataOut.drop (transferred .dataOut ((enteredDataOut c count).trace.drop x.before)).length = x.dataOut := by
    rw [first,List.drop_append_of_le_length before,transferredAppend,silent]
    rfl
  obtain ⟨got,receives,collected,offset,received,buffer,second⟩ := receivesData collecting rfl positive data enough
  have same := entered.trans received
  have opcode := same.opcode
  have handler : got.receiveParameters AnyDevice.methods dev count = AnyDevice.methods.writeData count count := by
    unfold receiveParameters
    rw [opcode,offset,if_neg]
    rintro ⟨select | select,_⟩
    · exact other.1 select
    · exact other.2 select
  obtain ⟨n,v,ran,left,ended⟩ := stores (got.request x.env) got.transfer same.cdb buffer (same.status.trans status)
  obtain ⟨q,stored,after⟩ := storesData (x := x) collected (same.effectiveLun.trans effective)
    (by rw [same.luns]; exact here) (by rw [handler,same.world]; exact ran) left
  obtain ⟨third,trace,noStatus,noDataIn,noDataOut⟩ := after.trace
  have resting : Resting v.transfer.status q := by
    refine ⟨after.rst,after.req,after.linked,after.atnMsg,?_⟩
    unfold statusByte
    rw [after.linked,after.status]
    rfl
  obtain ⟨d,fourth,idle,follows,concludes,finish⟩ := resting.ends (x := x)
  have phases : d.trace = c.trace ++ (([.entered .dataOut] ++ [.received .dataOut (x.dataOut.take count)]) ++ third ++ fourth) := by
    rw [follows.trace,trace,second,first]
    simp only [List.append_assoc]
  refine ⟨?_,v,d,_,ended,follows.world.trans after.world,phases,?_,?_,?_,fun steps => ?_⟩
  · rw [asks]
    exact (by decide : BusPhase.dataOut ≠ .busFree)
  · rw [transferredAppend,transferredAppend,noStatus,concludes.status]
    rfl
  · rw [transferredAppend,transferredAppend,noDataIn,concludes.dataIn]
    rfl
  · rw [transferredAppend,transferredAppend,noDataOut,concludes.dataOut]
    simp [transferred,transferredBy,enough]
  · rw [asks,serveOn (by rw [receives,collected.phase]; decide),receives,
      serveOn (by rw [stored]; exact (by decide : BusPhase.status ≠ .busFree)),stored]
    exact finish steps

theorem errorWorld (s : SenseKey) (a : Asc) (status : StatusCode) (rst : c.lines.rst = false) (phase : c.phase = .command) :
    (c.error s a status).world = c.world := by
  have going : ¬(c.lines.rst || c.phase = .status || c.phase = .msgIn) = true := by
    rw [rst,phase]
    decide
  unfold error
  rw [if_neg going]
  dsimp only
  split <;> rfl

/- A command of one chunk, when it is refused, when it fails and when its data are stored. -/
structure Writes (x : Exchange) (steps ids : Nat) (dev : AnyDevice) (c p : Controller AnyDevice) : Prop where
  refused : (base (fresh dev) : PrimaryDevice).checkReservation (p.request x.env) = false → ∃ d, d.world = c.world ∧
    target x.initiator x.env (steps+10) ids c x.cdb x.dataOut = ({ status := StatusCode.reservationConflict.code.toNat },d)
  failed : (base (fresh dev) : PrimaryDevice).checkReservation (p.request x.env) = true → ∀ e u,
    AnyDevice.methods.dispatch p.opcode (p.request x.env) ⟨fresh dev,p.transfer,p.world⟩ = (.error e,u) → ∃ d, d.world = u.world ∧
    target x.initiator x.env (steps+10) ids c x.cdb x.dataOut = ({ status := StatusCode.checkCondition.code.toNat },d)
  dataOut : (base (fresh dev) : PrimaryDevice).checkReservation (p.request x.env) = true → ∀ (count : Nat) u,
    AnyDevice.methods.dispatch p.opcode (p.request x.env) ⟨fresh dev,p.transfer,p.world⟩ = (.ok (.dataOut count),u) →
    0 < count → u.transfer.remainingLength = count → u.transfer.chunkSize = count → u.transfer.status = .good →
    count ≤ x.dataOut.length → ∀ ends,
    Stores (AnyDevice.methods.writeData count count) p.cdb u.device u.world (collected u.transfer.buffer x.dataOut count) ends →
    ∃ v d, ends v ∧ d.world = v.world ∧ target x.initiator x.env (steps+10) ids c x.cdb x.dataOut =
      ({ status := v.transfer.status.code.toNat, taken := count },d)

theorem writes (steps ids : Nat) {dev : AnyDevice} (idle : Idle c) (lun : x.initiator.targetLun < 32)
    (room : 0 < c.transfer.buffer.length) (single : Single x.cdb) (here : c.luns x.initiator.targetLun = some dev)
    (before : x.before = c.trace.length)
    (other : x.cdb.getD 0 0 ≠ ScsiCommand.modeSelect6 ∧ x.cdb.getD 0 0 ≠ ScsiCommand.modeSelect10) :
    ∃ p, Prepared x.initiator x.cdb dev { c with initiatorId := initiatorOf ids c.targetId } p ∧ Writes x steps ids dev c p := by
  obtain ⟨i,env,cdb,dataOut,start⟩ := x
  dsimp only at lun single here before other
  subst before
  have selects : c.step AnyDevice.methods (.select ids) = { c with initiatorId := initiatorOf ids c.targetId } := if_pos idle.phase
  have idleSelected : Idle { c with initiatorId := initiatorOf ids c.targetId } := ⟨idle.phase,idle.bsy,idle.rst,idle.req⟩
  obtain ⟨p,events,prepared,trace,silent,serves⟩ := reaches (x := ⟨i,env,cdb,dataOut,c.trace.length⟩) idleSelected lun room
    single here
  dsimp only at serves
  have rests : ∀ {status : StatusCode} {w : World} {q : Controller AnyDevice}, Resting status q → q.trace = p.trace → q.world = w →
      p.dispatchTo AnyDevice.methods { bytes := cdb, env } i.targetLun (fresh dev) = q.enterStatus → ∃ d, d.world = w ∧
      target i env (steps+10) ids c cdb dataOut = ({ status := status.code.toNat },d) := by
    intro status w q resting same world ends
    obtain ⟨d,more,_,follows,concludes,finish⟩ := resting.ends (x := ⟨i,env,cdb,dataOut,c.trace.length⟩)
    refine ⟨d,follows.world.trans world,answerOf selects ?_ ?_ (Concludes.append silent concludes)⟩
    · exact (serves _ ends (by decide : BusPhase.status ≠ .busFree) (steps+6)).trans (finish (steps+2))
    · rw [follows.trace,same,trace,List.append_assoc]
  refine ⟨p,prepared,?_,?_,?_⟩
  · intro refused
    obtain ⟨q,ends,same,resting⟩ := errorRests .illegalRequest .noAdditionalSenseInformation .reservationConflict
      prepared.phase prepared.rst prepared.req prepared.linked prepared.atnMsg
    have world := errorWorld .illegalRequest .noAdditionalSenseInformation .reservationConflict prepared.rst prepared.phase
    rw [ends] at world
    exact rests resting same (world.trans prepared.world) ((dispatchRefused AnyDevice.methods refused).trans ends)
  · intro allowed e u ran
    obtain ⟨q,ends,same,resting⟩ := errorRests e.senseKey e.asc .checkCondition (c := p.ranHandler i.targetLun u)
      prepared.phase prepared.rst prepared.req prepared.linked prepared.atnMsg
    have world := errorWorld (c := p.ranHandler i.targetLun u) e.senseKey e.asc .checkCondition prepared.rst prepared.phase
    rw [ends] at world
    exact rests resting same world ((dispatchError AnyDevice.methods allowed ran).trans ends)
  · intro allowed count u ran positive remaining chunk status enough ends stores
    have added : p.trace.drop c.trace.length = events := by
      rw [trace,List.drop_left]
    have opcode := prepared.opcode
    obtain ⟨busy,v,d,more,ended,world,whole,statuses,dataIn,taken,finish⟩ := dataOutEnds
      (x := ⟨i,env,cdb,dataOut,c.trace.length⟩) (c := p.ranHandler i.targetLun u) { bytes := cdb, env }
      prepared.rst prepared.req prepared.linked prepared.atnMsg remaining chunk status positive enough
      (by change c.trace.length ≤ p.trace.length; rw [trace,List.length_append]; exact Nat.le_add_right _ _)
      (by change transferred .dataOut (p.trace.drop c.trace.length) = []; rw [added]; exact silent.2.2)
      prepared.lun (Function.update_self _ _ _)
      (by change p.opcode ≠ _ ∧ p.opcode ≠ _; rw [opcode]; exact other) stores
    have served := serves _ (dispatchOk AnyDevice.methods allowed ran) busy (steps+6)
    have events' : d.trace.drop c.trace.length = events ++ more := by
      rw [whole]
      change (p.trace ++ more).drop _ = _
      rw [trace,List.append_assoc,List.drop_left]
    refine ⟨v,d,ended,world,?_⟩
    unfold target
    dsimp only
    rw [selects,served.trans (finish steps),events',transferredAppend,transferredAppend,transferredAppend,silent.1,silent.2.1,
      silent.2.2,statuses,dataIn,List.nil_append,List.nil_append,List.nil_append,taken]
    rfl

end BoardTarget

namespace PacketSend
open BoardTarget

/-! The command, and what is to be sent. -/

/- SEND MESSAGE(6) in one of its two formats. -/
structure SendMessage (cdb : Bytes) : Prop where
  length : cdb.length = 6
  opcode : cdb.getD 0 0 = ScsiCommand.sendMessage6
  format : byteAt cdb 5 = 0x00 ∨ byteAt cdb 5 = 0x80

/- The bytes in the DATA OUT phase. -/
def asked (cdb : Bytes) : Nat := if byteAt cdb 5 = 0x00 then getInt16 cdb 3 else getInt16 cdb 3 + 8

/- In format $80 there are 4 bytes in front of the packet and 4 bytes behind it. -/
def Consistent (cdb data : Bytes) : Prop := byteAt cdb 5 = 0x80 → getInt16 data 0 + 8 = asked cdb

def packet (cdb data : Bytes) : Bytes := if byteAt cdb 5 = 0x00 then data else slice data 4 (getInt16 data 0)

/- One packet with GOOD, and no packet without. -/
def SendsExactly (cdb data : Bytes) (before after : List Bytes) (status : Nat) : Prop :=
  (status = StatusCode.good.code.toNat → after = before ++ [packet cdb data]) ∧
    (status ≠ StatusCode.good.code.toNat → after = before) ∧
    (¬Consistent cdb data → status = StatusCode.checkCondition.code.toNat ∨ status = StatusCode.reservationConflict.code.toNat)

variable {cdb data : Bytes} {d : DaynaPort} {r : Request} {t : Transfer} {w : World}

theorem sixBytes (send : SendMessage cdb) : ∃ b1 b2 b3 b4 b5, cdb = [ScsiCommand.sendMessage6,b1,b2,b3,b4,b5] := by
  obtain ⟨a,b1,b2,b3,b4,b5,rfl⟩ := BoardExecutor.six send.length
  obtain rfl : a = ScsiCommand.sendMessage6 := send.opcode
  exact ⟨b1,b2,b3,b4,b5,rfl⟩

theorem sendSingle (send : SendMessage cdb) : Single cdb := by
  have format := send.format
  obtain ⟨b1,b2,b3,b4,b5,rfl⟩ := sixBytes send
  refine ⟨rfl,Nat.zero_lt_succ _,?_,fun wrong => by cases wrong⟩
  change (b5.toNat).testBit 0 = false ∧ (b5.toNat).testBit 1 = false
  rcases format with plain | framed
  · rw [show b5.toNat = 0x00 from plain]
    decide
  · rw [show b5.toNat = 0x80 from framed]
    decide

/-! The handlers. -/

theorem sendMessageRan (format : r.cdbByte 5 = 0x00 ∨ r.cdbByte 5 = 0x80) (some : asked r.cdb ≠ 0) :
    AnyDevice.methods.dispatch .sendMessage6 r ⟨.daynaPort d,t,w⟩ =
      (.ok (.dataOut (asked r.cdb : Nat)),⟨.daynaPort d,t.setTransferSize (asked r.cdb) (asked r.cdb),w⟩) := by
  have length : (if r.cdbByte 5 = 0x00 then r.cdbInt16 3 else if r.cdbByte 5 = 0x80 then r.cdbInt16 3 + 8 else 0) =
      asked r.cdb := by
    unfold asked
    rcases format with plain | framed
    · rw [if_pos plain]
      exact (if_pos plain).symm
    · have other : ¬r.cdbByte 5 = 0x00 := by omega
      rw [if_neg other,if_pos framed]
      exact (if_neg other).symm
  have ran : DaynaPort.sendMessage6 r ⟨d,t,w⟩ =
      (.ok (.dataOut (asked r.cdb : Nat)),⟨d,t.setTransferSize (asked r.cdb) (asked r.cdb),w⟩) := by
    refine ranOk ?_
    unfold DaynaPort.sendMessage6
    simp only [wpBind,wpGetRequest,wpIte,wpThrow,wpPure,wpSetTransferSize,length]
    exact ⟨fun none => some none,fun _ => ⟨trivial,trivial⟩⟩
  have within : AnyDevice.within .daynaPort DaynaPort.sendMessage6 d r ⟨.daynaPort d,t,w⟩ = _ := AnyDevice.withinRan ran
  exact within

theorem sendMessageFails (none : asked r.cdb = 0) (plain : r.cdbByte 5 = 0x00) : ∃ u, u.world = w ∧
    AnyDevice.methods.dispatch .sendMessage6 r ⟨.daynaPort d,t,w⟩ = (.error ⟨.illegalRequest,.invalidFieldInCdb⟩,u) := by
  have length : r.cdbInt16 3 = 0 := (if_pos plain).symm.trans none
  have ran : DaynaPort.sendMessage6 r ⟨d,t,w⟩ = (.error ⟨.illegalRequest,.invalidFieldInCdb⟩,⟨d,t,w⟩) := by
    refine ranError ?_
    unfold DaynaPort.sendMessage6
    simp only [wpBind,wpGetRequest,wpIte,wpThrow,wpPure,wpSetTransferSize,if_pos plain,length]
    exact ⟨fun _ => ⟨trivial,trivial⟩,fun wrong => wrong trivial⟩
  have within : AnyDevice.within .daynaPort DaynaPort.sendMessage6 d r ⟨.daynaPort d,t,w⟩ = _ := AnyDevice.withinRan ran
  exact ⟨_,rfl,within⟩

/- What is sent of the buffer. -/
def written (cdb buffer : Bytes) : Bytes := if byteAt cdb 5 = 0x00 then buffer else slice buffer 4 (getInt16 buffer 0)

theorem writeDataRan (opcode : r.opcode = ScsiCommand.sendMessage6) (format : r.cdbByte 5 = 0x00 ∨ r.cdbByte 5 = 0x80)
    (offset length : Int) : AnyDevice.methods.writeData offset length r ⟨.daynaPort d,t,w⟩ =
      (.ok length,⟨.daynaPort d,t.setTransferSize 0 0,{ w with network := w.network ++ [written r.cdb t.buffer] }⟩) := by
  have ran : DaynaPort.writeData length r ⟨d,t,w⟩ =
      (.ok length,⟨d,t.setTransferSize 0 0,{ w with network := w.network ++ [written r.cdb t.buffer] }⟩) := by
    refine ranOk ?_
    unfold DaynaPort.writeData DaynaPort.sendPacket
    simp only [wpBind,wpGetRequest,wpIte,wpThrow,wpPure,wpSetTransferSize,wpGetTransfer,wpGetWorld,wpSetWorld]
    refine ⟨fun wrong => wrong opcode,fun _ => ⟨fun plain => ?_,fun other => ⟨fun framed => ?_,fun wrong => ?_⟩⟩⟩
    · have buffer : written r.cdb t.buffer = t.buffer := if_pos plain
      rw [buffer]
      exact ⟨trivial,rfl⟩
    · have part : written r.cdb t.buffer = slice t.buffer 4 (getInt16 t.buffer 0) := if_neg other
      rw [part]
      exact ⟨trivial,rfl⟩
    · exact absurd (format.resolve_left other) wrong
  have within : AnyDevice.within .daynaPort (DaynaPort.writeData length) d r ⟨.daynaPort d,t,w⟩ = _ := AnyDevice.withinRan ran
  exact within

/-! The buffer. -/

theorem collectedSplit {buffer : Bytes} {count : Nat} (length : data.length = count) :
    collected buffer data count = data ++ buffer.drop count := by
  have all : data.take count = data := List.take_of_length_le (Nat.le_of_eq length)
  have rest : (buffer ++ List.replicate (count - buffer.length) 0).drop count = buffer.drop count := by
    rw [List.drop_append,List.drop_replicate,Nat.sub_self,List.replicate_zero,List.append_nil]
  unfold collected setBytes overwrite
  rw [all,Nat.zero_add,length,rest]
  simp

theorem getInt16Append {rest : Bytes} (inside : 2 ≤ data.length) : getInt16 (data ++ rest) 0 = getInt16 data 0 := by
  have first : data[0]? = (data ++ rest)[0]? := (List.getElem?_append_left (by omega)).symm
  have second : data[1]? = (data ++ rest)[1]? := (List.getElem?_append_left (by omega)).symm
  unfold getInt16 byteAt
  simp only [List.getD_eq_getElem?_getD,Nat.zero_add,first,second]

/- Only the whole buffer is sent if it is not longer than the packet. -/
theorem writtenPlain {buffer : Bytes} (plain : byteAt cdb 5 = 0x00) (length : data.length = asked cdb) :
    written cdb (collected buffer data (asked cdb)) = packet cdb data ↔ buffer.length ≤ asked cdb := by
  have sent : written cdb (collected buffer data (asked cdb)) = collected buffer data (asked cdb) := if_pos plain
  have given : packet cdb data = data := if_pos plain
  rw [sent,given,collectedSplit length,List.append_right_eq_self,List.drop_eq_nil_iff]

theorem writtenFramed {buffer : Bytes} (framed : byteAt cdb 5 = 0x80) (length : data.length = asked cdb)
    (consistent : Consistent cdb data) : written cdb (collected buffer data (asked cdb)) = packet cdb data := by
  have other : ¬byteAt cdb 5 = 0x00 := by omega
  have total := consistent framed
  have sent : written cdb (collected buffer data (asked cdb)) =
      slice (collected buffer data (asked cdb)) 4 (getInt16 (collected buffer data (asked cdb)) 0) := if_neg other
  have given : packet cdb data = slice data 4 (getInt16 data 0) := if_neg other
  rw [sent,given,collectedSplit length,getInt16Append (by omega)]
  unfold slice
  rw [List.drop_append_of_le_length (by omega),List.take_append_of_le_length (by rw [List.length_drop]; omega)]

/-! The whole command. -/

def Reserved (d : DaynaPort) (initiator : Int) : Prop :=
  d.reservingInitiator ≠ PrimaryDevice.notReserved ∧ d.reservingInitiator ≠ initiator

variable {i : BoardExecutor.Initiator} {c p : Controller AnyDevice}

theorem preparedAsks (send : SendMessage cdb) {dev : AnyDevice} (prepared : Prepared i cdb dev c p) :
    p.opcode = ScsiCommand.sendMessage6 ∧ byteAt p.cdb 5 = byteAt cdb 5 ∧ asked p.cdb = asked cdb := by
  have length := send.length
  have bytes := prepared.cdb
  have format := bytes 5 (by omega)
  refine ⟨prepared.opcode.trans send.opcode,format,?_⟩
  unfold asked getInt16
  rw [format,bytes 3 (by omega),bytes (3+1) (by omega)]

theorem reservedFor (env : Env) (send : SendMessage cdb) (prepared : Prepared i cdb (.daynaPort d) c p) :
    (base (fresh (.daynaPort d)) : PrimaryDevice).checkReservation (p.request env) = false ↔ Reserved d c.initiatorId := by
  have exempt : PrimaryDevice.reservationExempt (p.request env) = false := by
    have op : (p.request env).opcode = ScsiCommand.sendMessage6 := (preparedAsks send prepared).1
    unfold PrimaryDevice.reservationExempt
    rw [op]
    rfl
  rw [freshReservation env prepared exempt,Bool.or_eq_false_iff,decide_eq_false_iff_not,decide_eq_false_iff_not]
  exact Iff.rfl

/- The command is refused for its CDB, without data. -/
theorem refusesNone (env : Env) (send : SendMessage cdb) (prepared : Prepared i cdb (.daynaPort d) c p) (none : asked cdb = 0) :
    ∃ u, u.world = p.world ∧ AnyDevice.methods.dispatch p.opcode (p.request env) ⟨fresh (.daynaPort d),p.transfer,p.world⟩ =
      (.error ⟨.illegalRequest,.invalidFieldInCdb⟩,u) := by
  obtain ⟨opcode,format,asks⟩ := preparedAsks send prepared
  have plain : byteAt cdb 5 = 0x00 := by
    by_contra other
    have framed : asked cdb = getInt16 cdb 3 + 8 := if_neg other
    omega
  rw [opcode]
  exact sendMessageFails (asks.trans none) (format.trans plain)

theorem takesData (env : Env) (send : SendMessage cdb) (prepared : Prepared i cdb (.daynaPort d) c p) (some : asked cdb ≠ 0) :
    ∃ d', AnyDevice.methods.dispatch p.opcode (p.request env) ⟨fresh (.daynaPort d),p.transfer,p.world⟩ =
      (.ok (.dataOut (asked cdb : Nat)),⟨.daynaPort d',p.transfer.setTransferSize (asked cdb) (asked cdb),p.world⟩) := by
  obtain ⟨opcode,format,asks⟩ := preparedAsks send prepared
  have valid : (p.request env).cdbByte 5 = 0x00 ∨ (p.request env).cdbByte 5 = 0x80 := by
    change byteAt p.cdb 5 = 0x00 ∨ byteAt p.cdb 5 = 0x80
    rw [format]
    exact send.format
  rw [opcode,← asks]
  exact ⟨_,sendMessageRan valid (by change asked p.cdb ≠ 0; rw [asks]; exact some)⟩

theorem storesPacket {dev : AnyDevice} (send : SendMessage cdb) (prepared : Prepared i cdb dev c p) (w : World) (buffer : Bytes) (count : Nat) :
    Stores (AnyDevice.methods.writeData count count) p.cdb (.daynaPort d) w buffer fun v =>
      v.transfer.status = .good ∧ v.world.network = w.network ++ [written cdb buffer] := by
  intro r t same filled good
  obtain ⟨opcode,format,_⟩ := preparedAsks send prepared
  have own : written r.cdb t.buffer = written cdb buffer := by
    unfold written
    rw [same,format,filled]
  have op : r.opcode = ScsiCommand.sendMessage6 := by
    unfold Request.opcode
    rw [same]
    exact opcode
  have valid : r.cdbByte 5 = 0x00 ∨ r.cdbByte 5 = 0x80 := by
    unfold Request.cdbByte
    rw [same,format]
    exact send.format
  refine ⟨_,_,writeDataRan op valid count count,Int.natCast_nonneg count,good,?_⟩
  rw [own]

/- With GOOD there has been a packet. -/
theorem sendsGood {before after : List Bytes} {bytes : Bytes} (sent : after = before ++ [bytes]) :
    SendsExactly cdb data before after StatusCode.good.code.toNat ↔ bytes = packet cdb data ∧ Consistent cdb data := by
  subst sent
  constructor
  · rintro ⟨right,_,sound⟩
    refine ⟨List.singleton_inj.mp (List.append_cancel_left (right rfl)),?_⟩
    by_contra wrong
    rcases sound wrong with status | status <;> cases status
  · rintro ⟨rfl,sound⟩
    exact ⟨fun _ => rfl,fun wrong => absurd rfl wrong,fun wrong => absurd sound wrong⟩

end PacketSend
open PacketSend

/- Exactly the packet is sent if it fills the whole buffer, or if it is framed as long as it says. -/
theorem packetSentExactly {i : BoardExecutor.Initiator} {d : DaynaPort} {env : Env} {cdb data : Bytes} {steps ids : Nat}
    {c : Controller AnyDevice} (idle : BoardTarget.Idle c) (lun : i.targetLun < 32) (room : 6 ≤ c.transfer.buffer.length)
    (here : c.luns i.targetLun = some (.daynaPort d)) (send : SendMessage cdb) (whole : data.length = asked cdb) :
    SendsExactly cdb data c.world.network (BoardTarget.target i env (steps+10) ids c cdb data).2.world.network
        (BoardTarget.target i env (steps+10) ids c cdb data).1.status ↔
      Reserved d (initiatorOf ids c.targetId) ∨ asked cdb = 0 ∨
        byteAt cdb 5 = 0x00 ∧ c.transfer.buffer.length ≤ asked cdb ∨ byteAt cdb 5 = 0x80 ∧ Consistent cdb data := by
  obtain ⟨p,prepared,refused,failed,dataOut⟩ := BoardTarget.writes (x := ⟨i,env,cdb,data,c.trace.length⟩) steps ids idle lun
    (by omega) (sendSingle send) here rfl (by
      change cdb.getD 0 0 ≠ _ ∧ cdb.getD 0 0 ≠ _
      rw [send.opcode]
      exact ⟨(fun wrong => by cases wrong),(fun wrong => by cases wrong)⟩)
  obtain ⟨opcode,format,asks⟩ := preparedAsks send prepared
  have buffer : p.transfer.buffer.length = c.transfer.buffer.length := prepared.buffer.same (by
    rw [send.length]
    exact room)
  by_cases reserved : Reserved d (initiatorOf ids c.targetId)
  · obtain ⟨e,world,answer⟩ := refused ((reservedFor env send prepared).mpr reserved)
    dsimp only at answer
    rw [answer,world]
    exact ⟨fun _ => .inl reserved,fun _ => ⟨(fun wrong => by cases wrong),fun _ => rfl,fun _ => .inr rfl⟩⟩
  · have allowed := Bool.eq_true_of_not_eq_false fun wrong => reserved ((reservedFor env send prepared).mp wrong)
    by_cases none : asked cdb = 0
    · obtain ⟨u,same,ran⟩ := refusesNone env send prepared none
      obtain ⟨e,world,answer⟩ := failed allowed _ u ran
      dsimp only at answer
      rw [answer,world,same,prepared.world]
      exact ⟨fun _ => .inr (.inl none),fun _ => ⟨(fun wrong => by cases wrong),fun _ => rfl,fun _ => .inl rfl⟩⟩
    · obtain ⟨d',ran⟩ := takesData env send prepared none
      have stores := storesPacket (d := d') send prepared p.world (BoardTarget.collected p.transfer.buffer data (asked cdb))
        (asked cdb)
      obtain ⟨v,e,⟨good,network⟩,world,answer⟩ := dataOut allowed (asked cdb) _ ran (Nat.pos_of_ne_zero none) rfl (ite_self _)
        prepared.status (Nat.le_of_eq whole.symm) _ stores
      rw [prepared.world] at network
      dsimp only at answer
      rw [answer,good,world,sendsGood network]
      rcases send.format with plain | framed
      · have sound : Consistent cdb data := fun framed => by omega
        rw [writtenPlain plain whole,buffer]
        exact ⟨fun full => .inr (.inr (.inl ⟨plain,full.1⟩)),fun holds => by
          rcases holds with wrong | wrong | ⟨_,full⟩ | ⟨framed,_⟩
          · exact absurd wrong reserved
          · exact absurd wrong none
          · exact ⟨full,sound⟩
          · omega⟩
      · exact ⟨fun sound => .inr (.inr (.inr ⟨framed,sound.2⟩)),fun holds => by
          rcases holds with wrong | wrong | ⟨plain,_⟩ | ⟨_,sound⟩
          · exact absurd wrong reserved
          · exact absurd wrong none
          · omega
          · exact ⟨writtenFramed framed whole sound,sound⟩⟩

namespace PacketSend

def adapter : DaynaPort := { type := .scdp }

def withAdapter : Controller AnyDevice := { luns := fun lun => if lun = 0 then some (.daynaPort adapter) else none }

def framed : Bytes := [0x00,0x02,0x00,0x00,0xaa,0xbb,0x00,0x00,0x00,0x00]

theorem framedSent : SendsExactly [0x0a,0,0,0,2,0x80] framed withAdapter.world.network
    (BoardTarget.target {} {} (0+10) 129 withAdapter [0x0a,0,0,0,2,0x80] framed).2.world.network
    (BoardTarget.target {} {} (0+10) 129 withAdapter [0x0a,0,0,0,2,0x80] framed).1.status ↔
      Reserved adapter (initiatorOf 129 0) ∨ asked [0x0a,0,0,0,2,0x80] = 0 ∨
        byteAt [0x0a,0,0,0,2,0x80] 5 = 0x00 ∧ withAdapter.transfer.buffer.length ≤ asked [0x0a,0,0,0,2,0x80] ∨
        byteAt [0x0a,0,0,0,2,0x80] 5 = 0x80 ∧ Consistent [0x0a,0,0,0,2,0x80] framed := by
  have room : 6 ≤ withAdapter.transfer.buffer.length := by
    change 6 ≤ (List.replicate 512 (0 : UInt8)).length
    rw [List.length_replicate]
    decide
  exact packetSentExactly ⟨rfl,rfl,rfl,rfl⟩ (by change 0 < 32; decide) room rfl ⟨rfl,rfl,.inr rfl⟩ rfl

/- A packet of two bytes without a frame is sent with the rest of the buffer. -/
theorem plainSent : (BoardTarget.target {} {} 10 129 withAdapter [0x0a,0,0,0,2,0x00] [0xaa,0xbb]).2.world.network.map
      List.length = [512] ∧
    ¬SendsExactly [0x0a,0,0,0,2,0x00] [0xaa,0xbb] withAdapter.world.network
      (BoardTarget.target {} {} 10 129 withAdapter [0x0a,0,0,0,2,0x00] [0xaa,0xbb]).2.world.network
      (BoardTarget.target {} {} 10 129 withAdapter [0x0a,0,0,0,2,0x00] [0xaa,0xbb]).1.status := by
  have status : (BoardTarget.target {} {} 10 129 withAdapter [0x0a,0,0,0,2,0x00] [0xaa,0xbb]).1.status =
      StatusCode.good.code.toNat := by decide +kernel
  have lengths : (BoardTarget.target {} {} 10 129 withAdapter [0x0a,0,0,0,2,0x00] [0xaa,0xbb]).2.world.network.map
      List.length = [512] := by decide +kernel
  refine ⟨lengths,fun exactly => ?_⟩
  rw [exactly.1 status] at lengths
  cases lengths

end PacketSend
end Scsi2Pi
