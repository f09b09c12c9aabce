import Scsi2Pi.ChunkedTransfers
import Scsi2Pi.Mealy

/-! Remote operations through the processor device: EXECUTE OPERATION keeps the result for the
initiator that has sent it, and RECEIVE OPERATION RESULTS delivers it once. -/
namespace Scsi2Pi
namespace OperationResults
open Slices MemoryUtil Handler Derives Eff Controller BoardTarget

/-! One initiator. -/

/- The format in byte 1. -/
def formatOf (cdb : Bytes) : Option ProtobufFormat :=
  if byteAt cdb 1 &&& 0x1f = 0x01 then some .binary
  else if byteAt cdb 1 &&& 0x1f = 0x02 then some .json
  else if byteAt cdb 1 &&& 0x1f = 0x04 then some .text
  else none

/- The answer, and the operations that have been dispatched. -/
abbrev Reply := Answer × List PbOperation

def refused (taken : Nat) : Answer := { status := StatusCode.checkCondition.code.toNat, taken }

/- What comes of the data. -/
def dispatched (env : Env) (format : ProtobufFormat) (message : Bytes) : List PbOperation × Option Bytes :=
  match env.parse format message with
  | none => ([],none)
  | some operation => ([operation],env.dispatch format message)

/- What there is to be delivered. -/
def delivered (env : Env) (format : ProtobufFormat) (result : Bytes) : Bytes :=
  if format = .binary then result else env.format format result

def execute (o : Order) : Reply × Option Bytes :=
  match formatOf o.cdb with
  | none => ((refused 0,[]),none)
  | some format =>
    let length := getInt16 o.cdb 7
    if length = 0 then ((refused 0,[]),none)
    else match dispatched o.env format (o.dataOut.take length) with
      | (operations,none) => ((refused length,operations),none)
      | (operations,some result) => (({ taken := length },operations),some result)

def receive (box : Option Bytes) (o : Order) : Reply × Option Bytes :=
  match formatOf o.cdb, box with
  | some format, some result => (({ dataIn := (delivered o.env format result).take (getInt16 o.cdb 7) },[]),none)
  | _, _ => ((refused 0,[]),box)

/- What an initiator sees that has the device for itself. -/
def boxStep (box : Option Bytes) (o : Order) : Reply × Option Bytes :=
  if o.opcode = .executeOperation then execute o else receive box o

/- With the data that EXECUTE OPERATION asks for. -/
structure Legal (o : Order) : Prop where
  single : Single o.cdb
  opcode : o.opcode = .executeOperation ∨ o.opcode = .receiveOperationResults
  data : o.opcode = .executeOperation → getInt16 o.cdb 7 ≤ o.dataOut.length

/-! The bus. -/

def busStep (i : BoardExecutor.Initiator) (steps : Nat) (c : Controller AnyDevice) (o : Order) : Reply × Controller AnyDevice :=
  let (answer,d) := target i o.env (steps + 10) o.ids c o.cdb o.dataOut
  ((answer,d.world.dispatched.drop c.world.dispatched.length),d)

/- The bus is free, and the results are those of the initiators. -/
structure Serving (lun targetId : Nat) (c : Controller AnyDevice) (boxes : Int → Option Bytes) : Prop where
  idle : Idle c
  room : 0 < c.transfer.buffer.length
  targetId : c.targetId = targetId
  serves : ∃ d, c.luns lun = some (.hostServices d) ∧ d.executionResults = boxes ∧ d.reservingInitiator = PrimaryDevice.notReserved

/-! The handlers. -/

variable {d : HostServices} {r : Request} {t : Transfer} {w : World} {format : ProtobufFormat}

theorem converts {s : HandlerState HostServices} : HostServices.convertFormat r s = match formatOf r.cdb with
    | some format => (.ok format,s)
    | none => (.error ⟨.illegalRequest,.invalidFieldInCdb⟩,s) := by
  have same : HostServices.convertFormat r s = (if byteAt r.cdb 1 &&& 0x1f = 0x01 then pure .binary
      else if byteAt r.cdb 1 &&& 0x1f = 0x02 then pure .json
      else if byteAt r.cdb 1 &&& 0x1f = 0x04 then pure .text
      else throw ⟨.illegalRequest,.invalidFieldInCdb⟩ : Handler HostServices ProtobufFormat) r s := rfl
  rw [same]
  unfold formatOf
  split_ifs <;> rfl

@[simp] theorem wpConverts {s : HandlerState HostServices} {Q : ProtobufFormat → HandlerState HostServices → Prop}
    {E : ScsiException → HandlerState HostServices → Prop} : wp HostServices.convertFormat r s Q E ↔
      match formatOf r.cdb with
      | some format => Q format s
      | none => E ⟨.illegalRequest,.invalidFieldInCdb⟩ s := by
  unfold wp
  rw [converts]
  cases formatOf r.cdb <;> rfl

theorem runsWithin {result : Except ScsiException PhaseCall} {u : HandlerState HostServices}
    (ran : HostServices.executeOperation r ⟨d,t,w⟩ = (result,u)) :
    AnyDevice.methods.dispatch .executeOperation r ⟨.hostServices d,t,w⟩ = (result,⟨.hostServices u.device,u.transfer,u.world⟩) := by
  have within : AnyDevice.within .hostServices HostServices.executeOperation d r ⟨.hostServices d,t,w⟩ = _ := AnyDevice.withinRan ran
  exact within

def keeping (d : HostServices) (initiator : Int) (result : Option Bytes) : HostServices :=
  { d with executionResults := Function.update d.executionResults initiator result }

/- The result of this initiator is erased first. -/
def erased (d : HostServices) (initiator : Int) : HostServices := keeping d initiator none

theorem executeRefused (invalid : ∀ format, formatOf r.cdb = some format → getInt16 r.cdb 7 = 0) : ∃ inputFormat,
    AnyDevice.methods.dispatch .executeOperation r ⟨.hostServices d,t,w⟩ = (.error ⟨.illegalRequest,.invalidFieldInCdb⟩,
      ⟨.hostServices { erased d r.initiatorId with inputFormat },t,w⟩) := by
  cases known : formatOf r.cdb with
  | none =>
    have ran : HostServices.executeOperation r ⟨d,t,w⟩ = (.error ⟨.illegalRequest,.invalidFieldInCdb⟩,⟨erased d r.initiatorId,t,w⟩) := by
      refine ranError ?_
      unfold HostServices.executeOperation HostServices.setResult
      simp only [wpBind,wpGetRequest,wpModifyDevice,wpConverts,known]
      exact ⟨trivial,rfl⟩
    exact ⟨d.inputFormat,runsWithin ran⟩
  | some format =>
    have length : r.cdbInt16 7 = 0 := invalid format known
    have ran : HostServices.executeOperation r ⟨d,t,w⟩ =
        (.error ⟨.illegalRequest,.invalidFieldInCdb⟩,⟨{ erased d r.initiatorId with inputFormat := format },t,w⟩) := by
      refine ranError ?_
      unfold HostServices.executeOperation HostServices.setResult
      simp only [wpBind,wpGetRequest,wpModifyDevice,wpConverts,known,wpIte,wpThrow,length]
      exact ⟨fun _ => ⟨trivial,rfl⟩,fun wrong => absurd trivial wrong⟩
    exact ⟨format,runsWithin ran⟩

theorem executeAsks (valid : formatOf r.cdb = some format) (positive : getInt16 r.cdb 7 ≠ 0) :
    AnyDevice.methods.dispatch .executeOperation r ⟨.hostServices d,t,w⟩ = (.ok (.dataOut (getInt16 r.cdb 7 : Nat)),
      ⟨.hostServices { erased d r.initiatorId with inputFormat := format },t.setTransferSize (getInt16 r.cdb 7) (getInt16 r.cdb 7),w⟩) := by
  have length : ¬r.cdbInt16 7 = 0 := positive
  have ran : HostServices.executeOperation r ⟨d,t,w⟩ = (.ok (.dataOut (getInt16 r.cdb 7 : Nat)),
      ⟨{ erased d r.initiatorId with inputFormat := format },t.setTransferSize (getInt16 r.cdb 7) (getInt16 r.cdb 7),w⟩) := by
    refine ranOk ?_
    unfold HostServices.executeOperation HostServices.setResult
    simp only [wpBind,wpGetRequest,wpModifyDevice,wpConverts,valid,wpIte,wpThrow,wpSetTransferSize]
    exact ⟨fun wrong => absurd wrong length,fun _ => ⟨rfl,rfl⟩⟩
  exact runsWithin ran

section
variable {operations : List PbOperation} {length : Nat} {message result : Bytes} (opcode : r.opcode = .executeOperation)
  (same : r.cdbInt16 7 = length) (positive : length ≠ 0) (front : t.buffer.take length = message)
include opcode same positive front

theorem operationFails (failed : dispatched r.env d.inputFormat message = (operations,none)) (offset n : Int) :
    AnyDevice.methods.writeData offset n r ⟨.hostServices d,t,w⟩ =
      (.error ⟨.abortedCommand,.internalTargetFailure⟩,⟨.hostServices d,t,{ w with dispatched := w.dispatched ++ operations }⟩) := by
  subst same front
  have ran : HostServices.writeData n r ⟨d,t,w⟩ =
      (.error ⟨.abortedCommand,.internalTargetFailure⟩,⟨d,t,{ w with dispatched := w.dispatched ++ operations }⟩) := by
    refine ranError ?_
    unfold HostServices.writeData HostServices.dispatchCommand
    simp only [wpBind,wpGetRequest,wpIte,wpThrow,wpPure,wpGetTransfer,wpGetDevice]
    refine ⟨fun wrong => absurd opcode wrong,fun _ => ⟨fun none => absurd none positive,fun _ => ?_⟩⟩
    unfold dispatched at failed
    cases parsed : r.env.parse d.inputFormat (t.buffer.take (r.cdbInt16 7)) with
    | none =>
      rw [parsed] at failed
      cases failed
      simp
    | some operation =>
      rw [parsed] at failed
      obtain ⟨rfl,none⟩ := Prod.mk.inj failed
      simp [none]
  have within : AnyDevice.within .hostServices (HostServices.writeData n) d r ⟨.hostServices d,t,w⟩ = _ := AnyDevice.withinRan ran
  exact within

theorem operationStored (executed : dispatched r.env d.inputFormat message = (operations,some result)) (offset n : Int) :
    AnyDevice.methods.writeData offset n r ⟨.hostServices d,t,w⟩ =
      (.ok n,⟨.hostServices (keeping d r.initiatorId (some result)),t,
        { w with dispatched := w.dispatched ++ operations }⟩) := by
  subst same front
  have ran : HostServices.writeData n r ⟨d,t,w⟩ =
      (.ok n,⟨keeping d r.initiatorId (some result),t,
        { w with dispatched := w.dispatched ++ operations }⟩) := by
    refine ranOk ?_
    unfold HostServices.writeData HostServices.dispatchCommand HostServices.setResult
    simp only [wpBind,wpGetRequest,wpIte,wpThrow,wpPure,wpGetTransfer,wpGetDevice]
    refine ⟨fun wrong => absurd opcode wrong,fun _ => ⟨fun none => absurd none positive,fun _ => ?_⟩⟩
    unfold dispatched at executed
    cases parsed : r.env.parse d.inputFormat (t.buffer.take (r.cdbInt16 7)) with
    | none =>
      rw [parsed] at executed
      cases executed
    | some operation =>
      rw [parsed] at executed
      obtain ⟨rfl,found⟩ := Prod.mk.inj executed
      simp [found,keeping]
  have within : AnyDevice.within .hostServices (HostServices.writeData n) d r ⟨.hostServices d,t,w⟩ = _ := AnyDevice.withinRan ran
  exact within

end

theorem receiveDelivers {result : Bytes} (valid : formatOf r.cdb = some format) (here : d.executionResults r.initiatorId = some result) :
    AnyDevice.methods.dispatch .receiveOperationResults r ⟨.hostServices d,t,w⟩ =
      (.ok (.dataIn ((min (getInt16 r.cdb 7) (delivered r.env format result).length : Nat) : Int)),
        ⟨.hostServices (erased d r.initiatorId),t.copyToBuffer ((delivered r.env format result).take (getInt16 r.cdb 7)),w⟩) := by
  have ran : HostServices.receiveOperationResults r ⟨d,t,w⟩ =
      (.ok (.dataIn ((min (getInt16 r.cdb 7) (delivered r.env format result).length : Nat) : Int)),
        ⟨erased d r.initiatorId,t.copyToBuffer ((delivered r.env format result).take (getInt16 r.cdb 7)),w⟩) := by
    refine ranOk ?_
    unfold HostServices.receiveOperationResults HostServices.setResult
    simp only [wpBind,wpGetRequest,wpGetDevice,wpConverts,valid,here,wpModifyDevice,wpCopyToBuffer,wpPure]
    have part : (delivered r.env format result).take (min (r.cdbInt16 7) (delivered r.env format result).length) =
        (delivered r.env format result).take (getInt16 r.cdb 7) := List.take_eq_take_min.symm
    exact ⟨rfl,congrArg (fun data => HandlerState.mk (erased d r.initiatorId) (t.copyToBuffer data) w) part⟩
  have within : AnyDevice.within .hostServices HostServices.receiveOperationResults d r ⟨.hostServices d,t,w⟩ = _ := AnyDevice.withinRan ran
  exact within

theorem receiveRefused (unavailable : ∀ format, formatOf r.cdb = some format → d.executionResults r.initiatorId = none) : ∃ a : Asc,
    a ≠ .logicalUnitNotSupported ∧ AnyDevice.methods.dispatch .receiveOperationResults r ⟨.hostServices d,t,w⟩ =
      (.error ⟨.illegalRequest,a⟩,⟨.hostServices d,t,w⟩) := by
  have ran : ∃ a : Asc, a ≠ .logicalUnitNotSupported ∧
      HostServices.receiveOperationResults r ⟨d,t,w⟩ = (.error ⟨.illegalRequest,a⟩,⟨d,t,w⟩) := by
    cases known : formatOf r.cdb with
    | none =>
      refine ⟨.invalidFieldInCdb,by decide,ranError ?_⟩
      unfold HostServices.receiveOperationResults
      simp [known]
    | some format =>
      refine ⟨.dataCurrentlyUnavailable,by decide,ranError ?_⟩
      unfold HostServices.receiveOperationResults
      simp [known,unavailable format known]
  obtain ⟨a,other,ran⟩ := ran
  have within : AnyDevice.within .hostServices HostServices.receiveOperationResults d r ⟨.hostServices d,t,w⟩ = _ := AnyDevice.withinRan ran
  exact ⟨a,other,within⟩

/-! The commands. -/

variable {c p : Controller AnyDevice} {o : Order} {boxes : Int → Option Bytes} {i : BoardExecutor.Initiator} {targetId : Nat}

/- A command for the device, as its handler is called. -/
structure Called (i : BoardExecutor.Initiator) (boxes : Int → Option Bytes) (o : Order) (c p : Controller AnyDevice) (d : HostServices) : Prop where
  dispatched : Dispatches ⟨i,o.env,o.cdb,o.dataOut,c.trace.length⟩ o.ids (.hostServices d) c p
  permitted : (base (fresh (.hostServices d)) : PrimaryDevice).checkReservation (p.request o.env) = true
  results : d.executionResults = boxes
  unreserved : d.reservingInitiator = PrimaryDevice.notReserved
  world : p.world = c.world
  opcode : p.opcode = o.opcode
  initiator : p.initiatorId = initiatorOf o.ids c.targetId
  format : formatOf p.cdb = formatOf o.cdb
  length : getInt16 p.cdb 7 = getInt16 o.cdb 7

theorem legalLength (legal : Legal o) : o.cdb.length = 10 := by
  have known : o.cdb.getD 0 0 ≠ (0x1f : ScsiCommand) ∧ CommandMetaData.getByteCount (o.cdb.getD 0 0) = 10 := by
    rcases legal.opcode with same | same
    · rw [show o.cdb.getD 0 0 = ScsiCommand.executeOperation from same]
      decide
    · rw [show o.cdb.getD 0 0 = ScsiCommand.receiveOperationResults from same]
      decide
  exact (singleLength legal.single known.1 (by rw [known.2]; decide)).trans known.2

theorem calls (serving : Serving i.targetLun targetId c boxes) (lun : i.targetLun < 32) (legal : Legal o) : ∃ p d, Called i boxes o c p d := by
  obtain ⟨d,here,results,unreserved⟩ := serving.serves
  obtain ⟨p,dispatched⟩ := dispatches (x := ⟨i,o.env,o.cdb,o.dataOut,c.trace.length⟩) o.ids serving.idle lun serving.room legal.single here rfl
  have prepared := dispatched.prepared
  have bytes : ∀ k < 10, byteAt p.cdb k = byteAt o.cdb k := by
    rw [← legalLength legal]
    exact prepared.cdb
  have permitted : (base (fresh (.hostServices d)) : PrimaryDevice).checkReservation (p.request o.env) = true := by
    unfold PrimaryDevice.checkReservation
    change (decide (d.reservingInitiator = PrimaryDevice.notReserved) || _ || _) = true
    simp [unreserved]
  refine ⟨p,d,dispatched,permitted,results,unreserved,prepared.world,prepared.opcode,prepared.initiatorId,?_,?_⟩
  · unfold formatOf
    rw [bytes 1 (by decide)]
  · unfold getInt16
    rw [bytes 7 (by decide),bytes (7+1) (by decide)]

/- The command is answered, and the bus is as before but for the results. -/
def Answers (i : BoardExecutor.Initiator) (targetId steps : Nat) (c : Controller AnyDevice) (o : Order) (boxes : Int → Option Bytes)
    (reply : Reply) : Prop :=
  ∃ e, Serving i.targetLun targetId e boxes ∧ e.world.dispatched = c.world.dispatched ++ reply.2 ∧
    target i o.env (steps + 10) o.ids c o.cdb o.dataOut = (reply.1,e)

theorem answersOf {e : Controller AnyDevice} {given : Answer} {operations : List PbOperation} {steps : Nat}
    (serving : Serving i.targetLun targetId c boxes) {boxes' : Int → Option Bytes} (idle : Idle e)
    (luns : e.luns = Function.update c.luns i.targetLun (some (.hostServices d))) (results : d.executionResults = boxes')
    (unreserved : d.reservingInitiator = PrimaryDevice.notReserved) (world : e.world.dispatched = c.world.dispatched ++ operations)
    (room : c.transfer.buffer.length ≤ e.transfer.buffer.length)
    (answer : target i o.env (steps + 10) o.ids c o.cdb o.dataOut = (given,e)) : Answers i targetId steps c o boxes' (given,operations) := by
  have kept := targetIdKept i o.env (steps + 10) o.ids c o.cdb o.dataOut
  rw [answer] at kept
  refine ⟨e,⟨idle,serving.room.trans_le room,kept.trans serving.targetId,d,?_,results,unreserved⟩,world,answer⟩
  rw [luns,Function.update_self]

theorem copiedGrows (t : Transfer) (data : Bytes) : t.buffer.length ≤ (t.copyToBuffer data).buffer.length :=
  (extendedGrows t data.length).trans (setBytesGrows (t.setCurrentLength data.length).buffer data 0)

theorem copiedFront (t : Transfer) (data : Bytes) : (t.copyToBuffer data).buffer.take data.length = data :=
  takeFront (t.setCurrentLength data.length).buffer data

theorem copiedFits (t : Transfer) (data : Bytes) : data.length ≤ (t.copyToBuffer data).buffer.length := chunkFits rfl

/- Without sense data of the last command. -/
def rested (d : HostServices) : HostServices := { d with toPrimaryDevice := d.toPrimaryDevice.resetStatus }

theorem erasedResults (called : Called i boxes o c p d) :
    (erased (rested d) (p.request o.env).initiatorId).executionResults = Function.update boxes (initiatorOf o.ids c.targetId) none := by
  have initiator : (p.request o.env).initiatorId = initiatorOf o.ids c.targetId := called.initiator
  rw [initiator,← called.results]
  rfl

/- A chunk later the handler sees the same command. -/
theorem Called.repeated (called : Called i boxes o c p d) {r : Request} (repeats : Repeats (p.request o.env) r) :
    r.opcode = o.opcode ∧ r.cdbInt16 7 = getInt16 o.cdb 7 ∧ r.initiatorId = initiatorOf o.ids c.targetId ∧ r.env = o.env := by
  refine ⟨?_,?_,repeats.initiatorId.trans called.initiator,repeats.env⟩
  · unfold Request.opcode
    rw [repeats.cdb]
    exact called.opcode
  · unfold Request.cdbInt16
    rw [repeats.cdb]
    exact called.length

theorem executeInvalid (invalid : ∀ format, formatOf o.cdb = some format → getInt16 o.cdb 7 = 0) : execute o = ((refused 0,[]),none) := by
  unfold execute
  cases known : formatOf o.cdb with
  | none => rfl
  | some format => exact if_pos (invalid format known)

theorem executeValid {format : ProtobufFormat} (valid : formatOf o.cdb = some format) (positive : getInt16 o.cdb 7 ≠ 0) :
    execute o = match dispatched o.env format (o.dataOut.take (getInt16 o.cdb 7)) with
      | (operations,none) => ((refused (getInt16 o.cdb 7),operations),none)
      | (operations,some result) => (({ taken := getInt16 o.cdb 7 },operations),some result) := by
  unfold execute
  rw [valid]
  exact if_neg positive

theorem receiveInvalid {box : Option Bytes} (unavailable : ∀ format, formatOf o.cdb = some format → box = none) :
    receive box o = ((refused 0,[]),box) := by
  unfold receive
  cases known : formatOf o.cdb with
  | none => rfl
  | some format => rw [unavailable format known]

theorem receiveValid {format : ProtobufFormat} {box : Option Bytes} {result : Bytes} (valid : formatOf o.cdb = some format) (found : box = some result) :
    receive box o = (({ dataIn := (delivered o.env format result).take (getInt16 o.cdb 7) },[]),none) := by
  unfold receive
  rw [valid,found]

theorem executeAnswers (serving : Serving i.targetLun targetId c boxes) (lun : i.targetLun < 32) (legal : Legal o)
    (opcode : o.opcode = .executeOperation) (steps : Nat) :
    Answers i targetId steps c o (Function.update boxes (initiatorOf o.ids targetId) (execute o).2) (execute o).1 := by
  obtain ⟨p,d,called⟩ := calls serving lun legal
  have erases := erasedResults called
  have grows : c.transfer.buffer.length ≤ p.transfer.buffer.length := called.dispatched.prepared.buffer.grows
  have asked : p.opcode = .executeOperation := called.opcode.trans opcode
  have world : p.world = c.world := called.world
  have initiator : (p.request o.env).initiatorId = initiatorOf o.ids c.targetId := called.initiator
  rw [serving.targetId] at erases initiator
  by_cases invalid : ∀ format, formatOf o.cdb = some format → getInt16 o.cdb 7 = 0
  · obtain ⟨inputFormat,ran⟩ := executeRefused (r := p.request o.env) (d := rested d) (t := p.transfer) (w := p.world) fun format known => by
      rw [show getInt16 (p.request o.env).cdb 7 = getInt16 o.cdb 7 from called.length]
      exact invalid format (called.format.symm.trans known)
    rw [← asked] at ran
    obtain ⟨e,idle,luns,still,room,answer⟩ := failureEnds called.dispatched called.permitted ran (by decide) grows (steps + 2)
    rw [executeInvalid invalid]
    exact answersOf serving idle luns erases called.unreserved (by rw [still,world,List.append_nil]) room answer
  · obtain ⟨format,valid,positive⟩ : ∃ format, formatOf o.cdb = some format ∧ getInt16 o.cdb 7 ≠ 0 := by
      simpa only [not_forall,exists_prop] using invalid
    have same : getInt16 (p.request o.env).cdb 7 = getInt16 o.cdb 7 := called.length
    have enough := legal.data opcode
    have executes := executeValid valid positive
    have front {r : Request} (repeats : Repeats (p.request o.env) r) := called.repeated repeats
    rw [opcode,serving.targetId] at front
    have ran := executeAsks (r := p.request o.env) (d := rested d) (t := p.transfer) (w := p.world) (called.format.trans valid)
      (by rw [same]; exact positive)
    rw [← asked,same] at ran
    generalize sized : getInt16 o.cdb 7 = length at *
    have sizes : (p.transfer.setTransferSize length length).remainingLength = ((0+1) * length : Nat) ∧
        (p.transfer.setTransferSize length length).chunkSize = length := by
      rw [Nat.one_mul]
      exact ⟨rfl,if_neg (lt_irrefl _)⟩
    have other : p.opcode ≠ ScsiCommand.modeSelect6 ∧ p.opcode ≠ ScsiCommand.modeSelect10 := by
      rw [asked]
      decide
    rw [executes]
    cases outcome : dispatched o.env format (o.dataOut.take length) with
    | mk operations result =>
      cases result with
      | none =>
        obtain ⟨e,idle,luns,still,room,answer⟩ := dataOutFails (k := 0) called.dispatched called.permitted ran grows sizes.1 sizes.2
          (Nat.pos_of_ne_zero positive) other (fun r t repeats given => by
            obtain ⟨op,len,_,env⟩ := front repeats
            exact operationFails op len positive given (by rw [env]; exact outcome) _ _) (by decide) enough steps
        exact answersOf serving idle luns erases called.unreserved (by rw [still,world]) room answer
      | some result =>
        have puts : Puts (p.request o.env) length (.hostServices { erased (rested d) (p.request o.env).initiatorId with inputFormat := format })
            p.world (o.dataOut.take length) (.hostServices (keeping { erased (rested d) (p.request o.env).initiatorId with inputFormat := format }
              (initiatorOf o.ids targetId) (some result))) { p.world with dispatched := p.world.dispatched ++ operations } := by
          intro r t repeats given
          obtain ⟨op,len,ini,env⟩ := front repeats
          rw [← ini]
          exact operationStored op len positive given (by rw [env]; exact outcome) _ _
        obtain ⟨e,idle,luns,still,room,answer⟩ := dataOutChunks (k := 0) called.dispatched called.permitted ran called.dispatched.prepared.status grows sizes.1
          sizes.2 (Nat.pos_of_ne_zero positive) other (.chunk puts .none) (by rw [Nat.one_mul]; exact enough) steps
        rw [Nat.one_mul] at answer
        refine answersOf serving idle luns ?_ called.unreserved (by rw [still,world]) room answer
        change Function.update (erased (rested d) (p.request o.env).initiatorId).executionResults _ _ = _
        rw [erases,Function.update_idem]

theorem receiveAnswers (serving : Serving i.targetLun targetId c boxes) (lun : i.targetLun < 32) (legal : Legal o)
    (opcode : o.opcode = .receiveOperationResults) (steps : Nat) :
    Answers i targetId steps c o (Function.update boxes (initiatorOf o.ids targetId) (receive (boxes (initiatorOf o.ids targetId)) o).2)
      (receive (boxes (initiatorOf o.ids targetId)) o).1 := by
  obtain ⟨p,d,called⟩ := calls serving lun legal
  have erases := erasedResults called
  have grows : c.transfer.buffer.length ≤ p.transfer.buffer.length := called.dispatched.prepared.buffer.grows
  have asked : p.opcode = .receiveOperationResults := called.opcode.trans opcode
  have world : p.world = c.world := called.world
  have initiator : (p.request o.env).initiatorId = initiatorOf o.ids c.targetId := called.initiator
  rw [serving.targetId] at erases initiator
  have results : (rested d).executionResults (p.request o.env).initiatorId = boxes (initiatorOf o.ids targetId) := by
    rw [initiator,← called.results]
    rfl
  by_cases unavailable : ∀ format, formatOf o.cdb = some format → boxes (initiatorOf o.ids targetId) = none
  · obtain ⟨a,supported,ran⟩ := receiveRefused (r := p.request o.env) (d := rested d) (t := p.transfer) (w := p.world) fun format known =>
      results.trans (unavailable format (called.format.symm.trans known))
    rw [← asked] at ran
    obtain ⟨e,idle,luns,still,room,answer⟩ := failureEnds called.dispatched called.permitted ran supported grows (steps + 2)
    rw [receiveInvalid unavailable,Function.update_eq_self]
    exact answersOf serving idle luns called.results called.unreserved (by rw [still,world,List.append_nil]) room answer
  · obtain ⟨format,valid,some_⟩ : ∃ format, formatOf o.cdb = some format ∧ boxes (initiatorOf o.ids targetId) ≠ none := by
      simpa only [not_forall,exists_prop] using unavailable
    obtain ⟨result,found⟩ := Option.ne_none_iff_exists'.mp some_
    have ran := receiveDelivers (r := p.request o.env) (d := rested d) (t := p.transfer) (w := p.world) (called.format.trans valid) (results.trans found)
    have same : getInt16 (p.request o.env).cdb 7 = getInt16 o.cdb 7 := called.length
    have env : (p.request o.env).env = o.env := rfl
    have gives := receiveValid valid found
    rw [← asked,same,env] at ran
    rw [gives]
    generalize delivered o.env format result = data at ran ⊢
    have bytes : (data.take (getInt16 o.cdb 7)).length = min (getInt16 o.cdb 7) data.length := List.length_take
    have front := copiedFront p.transfer (data.take (getInt16 o.cdb 7))
    have fits := copiedFits p.transfer (data.take (getInt16 o.cdb 7))
    rw [bytes] at front fits
    obtain ⟨e,idle,luns,still,room,answer⟩ := dataInOnce called.dispatched called.permitted ran called.dispatched.prepared.remaining
      called.dispatched.prepared.chunk called.dispatched.prepared.status fits (grows.trans (copiedGrows p.transfer _)) steps
    rw [front] at answer
    exact answersOf serving idle luns erases called.unreserved (by rw [still,world,List.append_nil]) room answer

/-! Runs. -/

/- The initiator of an order is known from the data lines. -/
def sender (targetId : Nat) (o : Order) : Int := initiatorOf o.ids targetId

theorem orderAnswers (serving : Serving i.targetLun targetId c boxes) (lun : i.targetLun < 32) (legal : Legal o) (steps : Nat) :
    (busStep i steps c o).1 = (Mealy.beside (sender targetId) boxStep boxes o).1 ∧
      Serving i.targetLun targetId (busStep i steps c o).2 (Mealy.beside (sender targetId) boxStep boxes o).2 := by
  have answers : Answers i targetId steps c o (Function.update boxes (sender targetId o) (boxStep (boxes (sender targetId o)) o).2)
      (boxStep (boxes (sender targetId o)) o).1 := by
    unfold boxStep
    rcases legal.opcode with opcode | opcode
    · rw [if_pos opcode]
      exact executeAnswers serving lun legal opcode steps
    · rw [if_neg (by rw [opcode]; decide)]
      exact receiveAnswers serving lun legal opcode steps
  obtain ⟨e,next,world,answer⟩ := answers
  have ran : busStep i steps c o = ((boxStep (boxes (sender targetId o)) o).1,e) := by
    unfold busStep
    rw [answer]
    dsimp only
    rw [world,List.drop_left]
  rw [ran]
  exact ⟨rfl,next⟩

end OperationResults
open OperationResults

/- Whatever any number of initiators have executed, each of them gets the results of its own operations only,
as if it had the device for itself. An operation is dispatched once, when its command is sent. -/
theorem resultsAreTheSenders {i : BoardExecutor.Initiator} {c : Controller AnyDevice} {d : HostServices} {orders : List BoardTarget.Order}
    (lun : i.targetLun < 32) (idle : BoardTarget.Idle c) (room : 0 < c.transfer.buffer.length) (here : c.luns i.targetLun = some (.hostServices d))
    (unreserved : d.reservingInitiator = PrimaryDevice.notReserved) (legal : ∀ o ∈ orders, Legal o) (steps : Nat) (k : Int) :
    ((orders.zip (Mealy.outputs (busStep i steps) c orders)).filter fun x => sender c.targetId x.1 = k).map Prod.snd =
      Mealy.outputs boxStep (d.executionResults k) (orders.filter fun o => sender c.targetId o = k) := by
  have start : Serving i.targetLun c.targetId c d.executionResults := ⟨idle,room,rfl,d,here,rfl,unreserved⟩
  obtain ⟨same,_⟩ := Mealy.simulation (R := Serving i.targetLun c.targetId) (fun _ _ _ serving legal => orderAnswers serving lun legal steps) start legal
  rw [same]
  exact Mealy.besideOutputs (sender c.targetId) boxStep d.executionResults orders k

namespace OperationResults

def processor : HostServices := { type := .schs, ready := true }

def withProcessor : Controller AnyDevice where
  luns lun := if lun = 0 then some (.hostServices processor) else none

theorem processorRoom : 0 < withProcessor.transfer.buffer.length := by
  change 0 < (List.replicate 512 (0 : UInt8)).length
  rw [List.length_replicate]
  decide

/- The dispatcher answers with the message behind a header. -/
def echoing : Env := { parse := fun _ _ => some .noOperation, dispatch := fun _ message => some (8::message) }

def executeCdb : Bytes := [0xc0,1,0,0,0,0,0,0,2,0]
def receiveCdb : Bytes := [0xc1,1,0,0,0,0,0,0,9,0]

/- Two initiators execute an operation each, and ask for the results in the same order. -/
def crossing : List BoardTarget.Order := [
  { ids := 129, env := echoing, cdb := executeCdb, dataOut := [5,6] },
  { ids := 65, env := echoing, cdb := executeCdb, dataOut := [7,8] },
  { ids := 129, cdb := receiveCdb },
  { ids := 65, cdb := receiveCdb }]

theorem crossingLegal : ∀ o ∈ crossing, Legal o := by
  intro o member
  simp only [crossing,List.mem_cons,List.not_mem_nil,or_false] at member
  rcases member with rfl | rfl | rfl | rfl
  · exact ⟨⟨by decide,by decide,by decide,by decide⟩,.inl rfl,fun _ => by decide⟩
  · exact ⟨⟨by decide,by decide,by decide,by decide⟩,.inl rfl,fun _ => by decide⟩
  · exact ⟨⟨by decide,by decide,by decide,by decide⟩,.inr rfl,fun wrong => absurd wrong (by decide)⟩
  · exact ⟨⟨by decide,by decide,by decide,by decide⟩,.inr rfl,fun wrong => absurd wrong (by decide)⟩

end OperationResults

theorem crossingResults :
    ((crossing.zip (Mealy.outputs (busStep ⟨0⟩ 0) withProcessor crossing)).filter fun x => sender withProcessor.targetId x.1 = 7).map Prod.snd =
      Mealy.outputs boxStep (processor.executionResults 7) (crossing.filter fun o => sender withProcessor.targetId o = 7) :=
  resultsAreTheSenders (i := ⟨0⟩) (by change 0 < 32; decide) ⟨rfl,rfl,rfl,rfl⟩ processorRoom rfl rfl crossingLegal 0 7

end Scsi2Pi
