import Scsi2Pi.OperationResults

/-! S2pProtoExecutor: s2pproto sends an operation to the processor device of s2p, and reads the
result of the operation. Meanwhile other initiators use this device, too. -/
namespace Scsi2Pi
open Slices MemoryUtil Handler Eff

/- A target is selected with ATN for IDENTIFY or without. -/
abbrev ProtoEff (τ α : Type) := Eff (Bool → Target τ) τ DumpException α

namespace S2pProtoExecutor
open BoardExecutor

variable {τ ρ : Type}

def bufferSize : Nat := 65535

/- Execute of InitiatorExecutor for a command without a link. -/
structure Ran where
  status : Nat
  byteCount : Nat
  cdb : Bytes
  buf : Bytes

def send (withIdentify : Bool) (cdb dataOut : Bytes) : ProtoEff τ Answer := fun target t =>
  (.ok (target withIdentify t cdb dataOut).1,(target withIdentify t cdb dataOut).2)

@[simp] theorem wpSend {T : Bool → Target τ} {t : τ} {Q : Answer → τ → Prop} {E : DumpException → τ → Prop} (withIdentify : Bool)
    (cdb dataOut : Bytes) : wp (send withIdentify cdb dataOut) T t Q E ↔ Q (T withIdentify t cdb dataOut).1 (T withIdentify t cdb dataOut).2 := Iff.rfl

/- With a LUN in the CDB of the caller there is no IDENTIFY. The LUN is added to this CDB. -/
def run (i : Initiator) (cmd : ScsiCommand) (cdb buf : Bytes) (length : Nat) : ProtoEff τ Ran := do
  let explicitLun := byteAt cdb 1 &&& 0xe0 ≠ 0
  let cdb := encodeLun i (cdb.set 0 cmd)
  let a ← send (!explicitLun) cdb (buf.take length)
  let data := a.dataIn.take length
  if buf.length < data.length then throw .undefinedBehaviour
  let status := if answers a length then a.status else 0xff
  return ⟨status,if a.taken ≠ 0 then a.taken else data.length,cdb,setBytes buf 0 data⟩

def formatCode : ProtobufFormat → UInt8
  | .binary => 0x01
  | .json => 0x02
  | .text => 0x04

def cantParse : ProtobufFormat → String
  | .binary => "Can't parse binary protobuf data"
  | .json => "Can't parse JSON protobuf data"
  | .text => "Can't parse text format protobuf data"

def parsed (parse : ProtobufFormat → Bytes → Option ρ) (inputFormat : ProtobufFormat) (data : Bytes) : Except String ρ :=
  match parse inputFormat data with
  | none => .error (cantParse inputFormat)
  | some result => .ok result

/- The input is the content of a file, or why it cannot be opened. -/
def execute (i : Initiator) (parse : ProtobufFormat → Bytes → Option ρ) (filename : String) (input : Except String Bytes)
    (inputFormat : ProtobufFormat) (buffer : Bytes) : ProtoEff τ (Except String ρ) := do
  match input with
  | .error reason => return .error ("Can't open input file '" ++ filename ++ "': " ++ reason)
  | .ok data =>
    if buffer.length < data.length then throw .undefinedBehaviour
    let buffer := setBytes buffer 0 data
    let cdb := setInt16 ((List.replicate 10 0).set 1 (formatCode inputFormat)) 7 data.length
    let executed ← run i .executeOperation cdb buffer data.length
    if executed.status ≠ 0 then return .error "Can't execute operation"
    let received ← run i .receiveOperationResults (setInt16 executed.cdb 7 bufferSize) executed.buf bufferSize
    if received.status ≠ 0 then return .error "Can't read operation result"
    return parsed parse inputFormat (received.buf.take received.byteCount)

end S2pProtoExecutor

namespace S2pProto
open BoardTarget OperationResults S2pProtoExecutor BoardExecutor

variable {ρ : Type} {i : Initiator} {c : Controller AnyDevice} {boxes : Int → Option Bytes} {env : Env} {ids steps targetId : Nat}
  {format : ProtobufFormat} {data buffer : Bytes} {orders : List Order}

/- Before each command of the tool, the device executes what others have sent. -/
def busy (i : Initiator) (env : Env) (steps ids : Nat) : Target (Controller AnyDevice × List (List Order)) := fun (c,others) cdb dataOut =>
  let (answer,d) := target i env (steps + 10) ids (Mealy.final (OperationResults.busStep i steps) c (others.headD [])) cdb dataOut
  (answer,(d,others.tail))

/- What comes of the operation. -/
def executed (env : Env) (format : ProtobufFormat) (data : Bytes) : Option Bytes := if data = [] then none else (dispatched env format data).2

/- What the tool reports. -/
def outcome (parse : ProtobufFormat → Bytes → Option ρ) (env : Env) (format : ProtobufFormat) (data : Bytes) : Except String ρ :=
  match executed env format data with
  | none => .error "Can't execute operation"
  | some result => parsed parse format ((delivered env format result).take bufferSize)

/-! The commands. -/

def executeCdb (format : ProtobufFormat) (length : Nat) : Bytes :=
  [ScsiCommand.executeOperation,formatCode format,0,0,0,0,0,UInt8.ofNat (length / 256^1),UInt8.ofNat (length / 256^0),0]

def receiveCdb (format : ProtobufFormat) : Bytes := [ScsiCommand.receiveOperationResults,formatCode format,0,0,0,0,0,0xff,0xff,0]

/- LUNs that are not a part of the CDB. -/
theorem plainLun (lun : i.targetLun = 0 ∨ 8 ≤ i.targetLun) {opcode code : UInt8} {rest : Bytes} :
    encodeLun i (opcode::code::rest) = opcode::code::rest := by
  unfold encodeLun
  split
  · have none : i.targetLun = 0 := by omega
    rw [none]
    change opcode::UInt8.ofNat (code.toNat + 0 * 2^5)::rest = _
    rw [Nat.zero_mul,Nat.add_zero,UInt8.ofNat_toNat]
  · rfl

theorem codesWithLun : ∀ lun < 8, 0 < lun → ∀ code ∈ [formatCode .binary,formatCode .json,formatCode .text],
    (UInt8.ofNat (code.toNat + lun * 2^5)).toNat &&& 0xe0 ≠ 0 ∧
      (UInt8.ofNat ((UInt8.ofNat (code.toNat + lun * 2^5)).toNat + lun * 2^5)).toNat / 2^5 = 2 * lun % 8 := by decide +kernel

/- Any other LUN is in the CDB already when the second command is sent: there is no IDENTIFY, and it is added twice. -/
theorem lunDoubles (some_ : 0 < i.targetLun) (coded : i.targetLun < 8) (length : Nat) :
    let cdb := setInt16 (encodeLun i (executeCdb format length)) 7 bufferSize
    byteAt cdb 1 &&& 0xe0 ≠ 0 ∧ byteAt (encodeLun i (cdb.set 0 ScsiCommand.receiveOperationResults)) 1 / 2^5 = 2 * i.targetLun % 8 := by
  have listed : formatCode format ∈ [formatCode .binary,formatCode .json,formatCode .text] := by
    cases format <;> simp
  have codes := codesWithLun i.targetLun coded some_ (formatCode format) listed
  unfold encodeLun
  dsimp only
  rw [if_pos coded,if_pos coded]
  exact codes

theorem formatRead {cdb : Bytes} (code : byteAt cdb 1 = (formatCode format).toNat) : formatOf cdb = some format := by
  unfold formatOf
  rw [code]
  cases format <;> decide

theorem executeLength (fits : data.length ≤ bufferSize) : getInt16 (executeCdb format data.length) 7 = data.length := by
  unfold executeCdb bufferSize at *
  change (UInt8.ofNat (data.length / 256^1)).toNat * 256 + (UInt8.ofNat (data.length / 256^0)).toNat = _
  simp
  omega

theorem executeLegal (fits : data.length ≤ bufferSize) {dataOut : Bytes} (given : dataOut = data) :
    OperationResults.Legal { ids, env, cdb := executeCdb format data.length, dataOut } := by
  refine ⟨⟨rfl,by simp [executeCdb],?_,?_⟩,.inl rfl,fun _ => ?_⟩
  · exact ⟨Nat.zero_testBit 0,Nat.zero_testBit 1⟩
  · change ScsiCommand.executeOperation ≠ ScsiCommand.requestSense
    decide
  · rw [given]
    exact (executeLength fits).le

theorem receiveLegal {dataOut : Bytes} : OperationResults.Legal { ids, env, cdb := receiveCdb format, dataOut } := by
  refine ⟨⟨rfl,by simp [receiveCdb],?_,?_⟩,.inr rfl,fun wrong => ?_⟩
  · exact ⟨Nat.zero_testBit 0,Nat.zero_testBit 1⟩
  · change ScsiCommand.receiveOperationResults ≠ ScsiCommand.requestSense
    decide
  · exact absurd (show ScsiCommand.receiveOperationResults = ScsiCommand.executeOperation from wrong) (by decide)

theorem executeFor (fits : data.length ≤ bufferSize) : ∃ a operations,
    OperationResults.execute { ids, env, cdb := executeCdb format data.length, dataOut := data } = ((a,operations),executed env format data) ∧
      a.dataIn = [] ∧ (a.taken = 0 ∨ a.taken = data.length) ∧ (a.status = 0 ↔ (executed env format data).isSome) := by
  have known : formatOf (executeCdb format data.length) = some format := formatRead rfl
  have length := @executeLength format data fits
  unfold OperationResults.execute executed
  dsimp only
  rw [known,length]
  dsimp only
  by_cases empty : data = []
  · subst empty
    exact ⟨_,_,rfl,rfl,.inl rfl,by simp [refused,StatusCode.code]⟩
  · have positive : data.length ≠ 0 := fun none => empty (List.length_eq_zero_iff.mp none)
    rw [if_neg positive,if_neg empty,List.take_length]
    cases outcome : dispatched env format data with
    | mk operations result =>
      cases result with
      | none => exact ⟨_,_,rfl,rfl,.inr rfl,by simp [refused,StatusCode.code]⟩
      | some result => exact ⟨_,_,rfl,rfl,.inr rfl,by simp⟩

theorem receiveFor {stored dataOut : Bytes} : boxStep (some stored) { ids, env, cdb := receiveCdb format, dataOut } =
    (({ dataIn := (delivered env format stored).take bufferSize },[]),none) := by
  have known : formatOf (receiveCdb format) = some format := formatRead rfl
  have other : ¬Order.opcode { ids, env, cdb := receiveCdb format, dataOut } = .executeOperation := by
    change ¬ScsiCommand.receiveOperationResults = ScsiCommand.executeOperation
    decide
  have length : getInt16 (receiveCdb format) 7 = bufferSize := by
    change (0xff : UInt8).toNat * 256 + (0xff : UInt8).toNat = 65535
    decide
  unfold boxStep OperationResults.receive
  rw [if_neg other]
  dsimp only
  rw [known,length]

/-! Everybody else. -/

/- What others send. -/
def Foreign (targetId ids : Nat) (orders : List Order) : Prop :=
  ∀ o ∈ orders, OperationResults.Legal o ∧ sender targetId o ≠ Controller.initiatorOf ids targetId

theorem crowdServes (serving : Serving i.targetLun targetId c boxes) (lun : i.targetLun < 32) (foreign : Foreign targetId ids orders) (steps : Nat) :
    ∃ boxes', Serving i.targetLun targetId (Mealy.final (OperationResults.busStep i steps) c orders) boxes' ∧
      boxes' (Controller.initiatorOf ids targetId) = boxes (Controller.initiatorOf ids targetId) := by
  obtain ⟨_,next⟩ := Mealy.simulation (R := Serving i.targetLun targetId) (fun _ _ _ serving legal => orderAnswers serving lun legal steps)
    serving fun o member => (foreign o member).1
  exact ⟨_,next,Mealy.besideOther (sender targetId) boxStep boxes fun o member => (foreign o member).2⟩

theorem busyAnswers {others : List (List Order)} {cdb dataOut : Bytes} (serving : Serving i.targetLun targetId c boxes) (lun : i.targetLun < 32)
    (foreign : Foreign targetId ids (others.headD [])) (legal : OperationResults.Legal { ids, env, cdb, dataOut }) (steps : Nat) :
    ∃ e boxes', busy i env steps ids (c,others) cdb dataOut =
        ((boxStep (boxes (Controller.initiatorOf ids targetId)) { ids, env, cdb, dataOut }).1.1,(e,others.tail)) ∧
      Serving i.targetLun targetId e boxes' ∧
      boxes' (Controller.initiatorOf ids targetId) = (boxStep (boxes (Controller.initiatorOf ids targetId)) { ids, env, cdb, dataOut }).2 := by
  obtain ⟨boxes',between,same⟩ := crowdServes serving lun foreign steps
  obtain ⟨answer,next⟩ := orderAnswers between lun legal steps
  have own : sender targetId { ids, env, cdb, dataOut } = Controller.initiatorOf ids targetId := rfl
  unfold Mealy.beside at answer next
  rw [own,same] at answer next
  refine ⟨_,_,?_,next,Function.update_self _ _ _⟩
  have first := congrArg Prod.fst answer
  exact Prod.ext first rfl

/-! The tool. -/

theorem runs {τ : Type} {T : Bool → Target τ} {t u : τ} {cmd : ScsiCommand} {cdb wire buf : Bytes} {length : Nat} {a : Answer}
    (plain : byteAt cdb 1 &&& 0xe0 = 0) (sent : encodeLun i (cdb.set 0 cmd) = wire) (answer : T true t wire (buf.take length) = (a,u))
    (accepted : answers a length) (room : length ≤ buf.length) : run i cmd cdb buf length T t =
      (.ok ⟨a.status,if a.taken ≠ 0 then a.taken else a.dataIn.length,wire,setBytes buf 0 a.dataIn⟩,u) := by
  have all : a.dataIn.take length = a.dataIn := List.take_of_length_le accepted.1
  have enough : ¬buf.length < a.dataIn.length := by
    have := accepted.1
    omega
  refine ranOk ?_
  unfold run
  rw [sent]
  simp only [wpBind,wpSend,wpIte,wpThrow,wpPure,plain,ne_eq,not_true_eq_false,decide_false,Bool.not_false,answer,all]
  exact ⟨fun wrong => absurd wrong enough,fun _ => ⟨by rw [if_pos accepted],trivial⟩⟩

section
variable {T : Bool → Target (Controller AnyDevice × List (List Order))} {d : HostServices} {before between : List Order}

theorem keepsNothing (buf : Bytes) : setBytes buf 0 [] = buf := by
  simp [setBytes,overwrite]

theorem formatClear (format : ProtobufFormat) : (formatCode format).toNat &&& 0xe0 = 0 := by
  cases format <;> decide

/- The first command leaves the result of the operation with the device. -/
theorem operationSent (format : ProtobufFormat) (identifies : T true = busy i env steps ids) (plain : i.targetLun = 0 ∨ 8 ≤ i.targetLun) (lun : i.targetLun < 32)
    (serving : Serving i.targetLun targetId c boxes) (fits : data.length ≤ bufferSize) (sized : buffer.length = bufferSize)
    (first : Foreign targetId ids before) : ∃ e boxes' status taken,
      run i .executeOperation (setInt16 ((List.replicate 10 0).set 1 (formatCode format)) 7 data.length) (setBytes buffer 0 data) data.length
        T (c,[before,between]) = (.ok ⟨status,taken,executeCdb format data.length,setBytes buffer 0 data⟩,(e,[between])) ∧
      Serving i.targetLun targetId e boxes' ∧ boxes' (Controller.initiatorOf ids targetId) = executed env format data ∧
      (status = 0 ↔ (executed env format data).isSome) := by
  have stored : (setBytes buffer 0 data).take data.length = data := takeFront _ _
  have whole : (setBytes buffer 0 data).length = bufferSize := (setBytesLength (by omega)).trans sized
  have wire : encodeLun i ((setInt16 ((List.replicate 10 0).set 1 (formatCode format)) 7 data.length).set 0 ScsiCommand.executeOperation) =
      executeCdb format data.length := plainLun plain
  have clear : byteAt (setInt16 ((List.replicate 10 0).set 1 (formatCode format)) 7 data.length) 1 &&& 0xe0 = 0 := formatClear format
  obtain ⟨e,boxes',answered,next,box⟩ := @busyAnswers i c boxes env ids targetId [before,between] (executeCdb format data.length)
    data serving lun first (executeLegal fits rfl) steps
  obtain ⟨a,operations,executes,nothing,taken,good⟩ := @executeFor env ids format data fits
  have step : boxStep (boxes (Controller.initiatorOf ids targetId)) { ids, env, cdb := executeCdb format data.length, dataOut := data } =
      ((a,operations),executed env format data) := executes
  rw [step] at answered box
  have ran := runs (T := T) clear wire (by rw [identifies,stored]; exact answered)
    ⟨by rw [nothing]; exact Nat.zero_le _,taken⟩ (by rw [whole]; exact fits)
  rw [nothing,keepsNothing] at ran
  exact ⟨e,boxes',_,_,ran,next,box,good⟩

/- The second command fetches it. -/
theorem resultFetched (format : ProtobufFormat) (identifies : T true = busy i env steps ids) (plain : i.targetLun = 0 ∨ 8 ≤ i.targetLun) (lun : i.targetLun < 32)
    (serving : Serving i.targetLun targetId c boxes) {stored buf : Bytes} (box : boxes (Controller.initiatorOf ids targetId) = some stored)
    (sized : buf.length = bufferSize) (second : Foreign targetId ids between) (length : Nat) : ∃ f ran,
      run i .receiveOperationResults (setInt16 (executeCdb format length) 7 bufferSize) buf bufferSize T (c,[between]) = (.ok ran,(f,[])) ∧
      ran.status = 0 ∧ ran.buf.take ran.byteCount = (delivered env format stored).take bufferSize := by
  have wire : encodeLun i ((setInt16 (executeCdb format length) 7 bufferSize).set 0 ScsiCommand.receiveOperationResults) = receiveCdb format :=
    plainLun plain
  have clear : byteAt (setInt16 (executeCdb format length) 7 bufferSize) 1 &&& 0xe0 = 0 := formatClear format
  have all : buf.take bufferSize = buf := List.take_of_length_le sized.le
  obtain ⟨f,_,answered,_,_⟩ := @busyAnswers i c boxes env ids targetId [between] (receiveCdb format) buf serving lun second receiveLegal steps
  have delivers := @receiveFor env ids format stored buf
  rw [box,delivers] at answered
  have part : ((delivered env format stored).take bufferSize).length ≤ bufferSize := List.length_take_le _ _
  have answer : T true (c,[between]) (receiveCdb format) (buf.take bufferSize) =
      ({ dataIn := (delivered env format stored).take bufferSize },(f,[])) := by
    rw [identifies,all]
    exact answered
  have ran := runs clear wire answer ⟨part,.inl rfl⟩ sized.ge
  exact ⟨f,_,ran,rfl,takeFront _ _⟩

/- Without a LUN in the CDB, the tool sends both commands to the same LUN. -/
theorem toolRuns (identifies : T true = busy i env steps ids) (plain : i.targetLun = 0 ∨ 8 ≤ i.targetLun) (lun : i.targetLun < 32)
    (serving : Serving i.targetLun targetId c boxes) (fits : data.length ≤ bufferSize) (sized : buffer.length = bufferSize)
    (first : Foreign targetId ids before) (second : Foreign targetId ids between) (parse : ProtobufFormat → Bytes → Option ρ) (filename : String) :
    ∃ t, S2pProtoExecutor.execute i parse filename (.ok data) format buffer T (c,[before,between]) = (.ok (outcome parse env format data),t) := by
  have whole : (setBytes buffer 0 data).length = bufferSize := (setBytesLength (by omega)).trans sized
  obtain ⟨e,boxes',status,taken,sends,next,box,good⟩ := operationSent format identifies plain lun serving fits sized first
  suffices ends : wp (S2pProtoExecutor.execute i parse filename (.ok data) format buffer) T (c,[before,between])
      (fun result _ => result = outcome parse env format data) fun _ _ => False by
    obtain ⟨result,t,ran,rfl⟩ := wpRuns ends
    exact ⟨t,ran⟩
  unfold S2pProtoExecutor.execute outcome
  dsimp only
  simp only [wpBind,wpIte,wpThrow,wpPure]
  refine ⟨fun wrong => absurd wrong (by omega),fun _ => (wpRan sends).mpr ?_⟩
  cases result : executed env format data with
  | none =>
    rw [result] at good
    refine ⟨fun _ => rfl,fun wrong => ?_⟩
    exact absurd (good.mp (not_not.mp wrong)) (by simp)
  | some stored =>
    rw [result] at good box
    have fine : status = 0 := good.mpr rfl
    obtain ⟨f,ran,fetches,accepted,delivers⟩ := resultFetched format identifies plain lun next box whole second data.length
    refine ⟨fun wrong => absurd fine wrong,fun _ => (wpRan fetches).mpr ⟨fun wrong => absurd accepted wrong,fun _ => ?_⟩⟩
    exact congrArg (parsed parse format) delivers

end

end S2pProto
open S2pProto S2pProtoExecutor OperationResults

/- Without a LUN in the CDB, s2pproto reports the result of its own operation, up to the size of its buffer,
whatever other initiators have executed before its commands and between them. -/
theorem protoGetsItsResult {ρ : Type} {i : BoardExecutor.Initiator} {c : Controller AnyDevice} {d : HostServices} {env : Env} {ids steps : Nat}
    {format : ProtobufFormat} {data buffer : Bytes} {before between : List BoardTarget.Order}
    {T : Bool → Target (Controller AnyDevice × List (List BoardTarget.Order))} (identifies : T true = busy i env steps ids)
    (plain : i.targetLun = 0 ∨ 8 ≤ i.targetLun) (lun : i.targetLun < 32) (idle : BoardTarget.Idle c) (room : 0 < c.transfer.buffer.length)
    (here : c.luns i.targetLun = some (.hostServices d)) (unreserved : d.reservingInitiator = PrimaryDevice.notReserved)
    (fits : data.length ≤ bufferSize) (sized : buffer.length = bufferSize) (first : Foreign c.targetId ids before)
    (second : Foreign c.targetId ids between) (parse : ProtobufFormat → Bytes → Option ρ) (filename : String) :
    ∃ t, S2pProtoExecutor.execute i parse filename (.ok data) format buffer T (c,[before,between]) = (.ok (outcome parse env format data),t) :=
  toolRuns identifies plain lun ⟨idle,room,rfl,d,here,rfl,unreserved⟩ fits sized first second parse filename

namespace S2pProto

/- Another initiator asks for results before and after the operation of the tool. -/
def nosy : List BoardTarget.Order := [{ ids := 65, cdb := OperationResults.receiveCdb }]

theorem nosyForeign : Foreign withProcessor.targetId 129 nosy := by
  intro o member
  obtain rfl := List.mem_singleton.mp member
  exact ⟨crossingLegal _ (by simp [crossing]),by decide⟩

def untouched : Bytes := List.replicate bufferSize 0

end S2pProto

theorem nosyGetsNothing : ∃ t, S2pProtoExecutor.execute ⟨0⟩ (fun _ data => some data) "operation" (.ok [5,6]) .binary untouched
    (fun _ => busy ⟨0⟩ echoing 0 129) (withProcessor,[nosy,nosy]) = (.ok (outcome (fun _ data => some data) echoing .binary [5,6]),t) :=
  protoGetsItsResult rfl (.inl rfl) (by decide) ⟨rfl,rfl,rfl,rfl⟩ processorRoom (d := processor) rfl rfl (by decide) (List.length_replicate ..)
    nosyForeign nosyForeign _ _

end Scsi2Pi
