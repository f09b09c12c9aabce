import Scsi2Pi.Bus
import Scsi2Pi.CommandMetaData
import Scsi2Pi.PrimaryDevice

/-! The phase machine of the target. Process runs the function of the current
phase once; its input is what the initiator and the outside world do during
that time. The functions call each other as in the source, where one that the
source calls in a single phase only is defined for that phase. -/
namespace Scsi2Pi
open Slices MemoryUtil CommandMetaData Bus

/- The virtual functions of a device that the controller calls. -/
structure Methods (δ : Type) where
  dispatch : ScsiCommand → Handler δ PhaseCall
  readData : Handler δ Int
  writeData : Int → Int → Handler δ Int
  modeSelect : Int → Handler δ Unit

structure Methods.Keeps {δ : Type} (I : HandlerState δ → Prop) (m : Methods δ) : Prop where
  dispatch : ∀ cmd, Handler.Keeps I (m.dispatch cmd)
  readData : Handler.Keeps I m.readData
  writeData : ∀ offset length, Handler.Keeps I (m.writeData offset length)
  modeSelect : ∀ length, Handler.Keeps I (m.modeSelect length)

inductive Assertion where
  | remainingLength | dataInCommand | dataOutCommand | sendLines | receiveLines | sendPhase
  | receivePhase | nextChunk
  deriving DecidableEq, Repr

/- What a bus analyzer records, and the assertions that do not hold. -/
inductive Event where
  | entered (phase : BusPhase)
  | sent (phase : BusPhase) (bytes : Bytes)
  | received (phase : BusPhase) (bytes : Bytes)
  | fetched (lun : Nat) (cdb : Bytes)
  | reset
  | failed (assertion : Assertion)
  deriving DecidableEq, Repr

/- bytes is what the initiator sends, taken how many bytes it accepts if not all. -/
structure Input where
  sel : Bool := false
  atn : Bool := false
  rst : Bool := false
  bytes : Bytes := []
  taken : Option Nat := none
  env : Env := {}

def Input.accepted (i : Input) (length : Int) : Nat := min (i.taken.getD length.toNat) length.toNat

structure Controller (δ : Type) where
  phase : BusPhase := .busFree
  lines : Lines := { bsy := false }
  transfer : Transfer := {}
  offset : Int := 0
  cdb : Bytes := List.replicate 16 0
  identifiedLun : Option Nat := none
  atnMsg : Bool := false
  linked : Bool := false
  flag : Bool := false
  deferredSenseKey : SenseKey := .noSense
  deferredAsc : Asc := .noAdditionalSenseInformation
  msgBytes : Bytes := []
  initiatorId : Int := -1
  targetId : Nat := 0
  luns : Nat → Option δ
  world : World := {}
  trace : List Event := []

namespace Controller
open Derives

variable {δ : Type} [Derives δ PrimaryDevice]

def log (c : Controller δ) (e : Event) : Controller δ := { c with trace := c.trace ++ [e] }

def check (c : Controller δ) (holds : Bool) (a : Assertion) : Controller δ :=
  { c with trace := c.trace ++ if holds then [] else [.failed a] }

def setPhase (c : Controller δ) (p : BusPhase) : Controller δ := { c with phase := p }.log (.entered p)

def setLines (c : Controller δ) (msg cd io : Bool) : Controller δ :=
  { c with lines := { c.lines with msg, cd, io } }

def setRst (c : Controller δ) : Controller δ := { c with lines := { c.lines with rst := true } }

def setCurrentLength (c : Controller δ) (length : Int) : Controller δ :=
  { c with transfer := c.transfer.setCurrentLength length }

def setTransferSize (c : Controller δ) (length size : Int) : Controller δ :=
  { c with transfer := c.transfer.setTransferSize length size }

def setStatus (c : Controller δ) (status : StatusCode) : Controller δ :=
  { c with transfer := { c.transfer with status } }

def setBufferByte (c : Controller δ) (b : UInt8) : Controller δ :=
  { c with transfer := { c.transfer with buffer := setBytes c.transfer.buffer 0 [b] } }

def resetOffset (c : Controller δ) : Controller δ := { c with offset := 0 }

def updateOffsetAndLength (c : Controller δ) : Controller δ :=
  { c with
    offset := c.offset + c.transfer.currentLength
    transfer := { c.transfer with currentLength := 0 } }

def updateTransferLength (c : Controller δ) (length : Int) : Controller δ :=
  let c := c.check (decide (0 ≤ c.transfer.remainingLength - length)) .remainingLength
  { c with transfer := c.transfer.updateTransferLength length }

def resetFlags (c : Controller δ) : Controller δ :=
  { c with linked := false, flag := false, atnMsg := false }

def modifyLun (c : Controller δ) (lun : Nat) (f : δ → δ) : Controller δ :=
  { c with luns := Function.update c.luns lun ((c.luns lun).map f) }

def modifyBase (c : Controller δ) (lun : Nat) (f : PrimaryDevice → PrimaryDevice) : Controller δ :=
  c.modifyLun lun fun d => setBase d (f (base d))

def getEffectiveLun (c : Controller δ) : Nat := c.identifiedLun.getD (byteAt c.cdb 1 / 32)

def opcode (c : Controller δ) : ScsiCommand := c.cdb.getD 0 0

/-! Setting up a phase. -/

def enterBusFree (c : Controller δ) : Controller δ :=
  let c := (c.setPhase .busFree).setStatus .good
  { c with
    lines := { c.lines with req := false, msg := false, cd := false, io := false, bsy := false }
    identifiedLun := none
    atnMsg := false }

def enterSelection (c : Controller δ) : Controller δ :=
  let c := c.setPhase .selection
  { c with lines := { c.lines with bsy := true } }

def busFree (c : Controller δ) : Controller δ :=
  if c.phase ≠ .busFree then c.enterBusFree
  else if c.lines.sel && !c.lines.bsy then c.enterSelection
  else c

/- A linked command that ended with GOOD reports INTERMEDIATE. -/
def statusByte (c : Controller δ) : UInt8 :=
  if c.linked && c.transfer.status = .good then StatusCode.intermediate.code
  else c.transfer.status.code

def enterStatus (c : Controller δ) : Controller δ :=
  let c := ((((c.setPhase .status).setLines false true true).resetOffset).setCurrentLength 1).setTransferSize 1 1
  c.setBufferByte c.statusByte

def enterMsgIn (c : Controller δ) : Controller δ :=
  ((c.setPhase .msgIn).setLines true true true).resetOffset

def enterMsgOut (c : Controller δ) : Controller δ :=
  let c := if c.phase = .selection then { c with atnMsg := true, msgBytes := [] } else c
  ((((c.setPhase .msgOut).setLines true true false).resetOffset).setCurrentLength 1).setTransferSize 1 1

/- Sense data are kept by LUN 0 when there is no device for the effective LUN. -/
def error (c : Controller δ) (s : SenseKey) (a : Asc) (status : StatusCode := .checkCondition) :
    Controller δ :=
  if c.lines.rst || c.phase = .status || c.phase = .msgIn then c.busFree
  else
    let lun := c.getEffectiveLun
    let lun := if a = .logicalUnitNotSupported || (c.luns lun).isNone then 0 else lun
    let c :=
      if s ≠ .noSense || a ≠ .noAdditionalSenseInformation then c.modifyBase lun (·.setStatus s a)
      else c
    (c.setStatus status).enterStatus

def raiseDeferredError (c : Controller δ) (s : SenseKey) (a : Asc) : Controller δ :=
  { c with deferredSenseKey := s, deferredAsc := a }.error s a

/-! Sending. The two functions that Send calls in DATA IN and at the end of
MESSAGE IN are parameters: Status calls Send in the STATUS phase, where neither
is reached. -/

/- What the initiator takes is recorded, all or not. -/
def sendBytes (c : Controller δ) (i : Input) : Controller δ :=
  let length := c.transfer.currentLength
  let c := c.log (.sent c.phase (slice c.transfer.buffer c.offset.toNat (i.accepted length)))
  if (i.accepted length : Int) ≠ length then c.setRst.error .abortedCommand .dataPhaseError
  else c.updateOffsetAndLength

def endMessage (c : Controller δ) : UInt8 :=
  if c.linked then
    if c.flag then MessageCode.linkedCommandCompleteWithFlag else MessageCode.linkedCommandComplete
  else MessageCode.commandComplete

/- All bytes of the chunk have been sent. -/
def chunkSent (c : Controller δ) (transferToHost processEndOfMessage : Controller δ → Controller δ) :
    Controller δ :=
  let c := c.updateTransferLength c.transfer.chunkSize
  if c.transfer.remainingLength ≠ 0 then
    if c.phase = .dataIn then transferToHost c else c
  else match c.phase with
    | .msgIn => processEndOfMessage c
    | .dataIn => c.enterStatus
    | .status => (((c.setCurrentLength 1).setTransferSize 1 1).setBufferByte c.endMessage).enterMsgIn
    | _ => c.check false .sendPhase

def checkSend (c : Controller δ) : Controller δ :=
  (c.check (!c.lines.req) .sendLines).check c.lines.io .sendLines

def sendWith (c : Controller δ) (i : Input) (transferToHost processEndOfMessage : Controller δ → Controller δ) :
    Controller δ :=
  let c := c.checkSend
  if c.transfer.currentLength ≠ 0 then c.sendBytes i
  else c.chunkSent transferToHost processEndOfMessage

def status (c : Controller δ) (i : Input) : Controller δ :=
  if c.phase = .status then c.sendWith i id id else c.enterStatus

def enterDataIn (c : Controller δ) : Controller δ :=
  ((c.setPhase .dataIn).setLines false false true).resetOffset

/- DataIn in any other phase than DATA IN. -/
def startDataIn (c : Controller δ) (i : Input) : Controller δ :=
  if c.transfer.currentLength = 0 then c.status i else c.enterDataIn

/- A current length of -1 enforces a DATA OUT phase. -/
def startDataOut (c : Controller δ) (i : Input) : Controller δ :=
  if c.transfer.currentLength = 0 then c.status i
  else
    let c := if c.transfer.currentLength = -1 then c.setCurrentLength 0 else c
    ((c.setPhase .dataOut).setLines false false false).resetOffset

/-! Running a handler of a device. -/

def request (c : Controller δ) (env : Env) : Request :=
  { cdb := c.cdb
    initiatorId := c.initiatorId
    targetId := c.targetId
    effectiveLun := c.getEffectiveLun
    hasLun := fun lun => (c.luns lun).isSome
    linked := c.linked
    env }

def runHandler {α : Type} (c : Controller δ) (env : Env) (lun : Nat) (d : δ) (h : Handler δ α) :
    Except ScsiException α × Controller δ :=
  let (result,s) := h (c.request env) ⟨d,c.transfer,c.world⟩
  (result,{ c with
    luns := Function.update c.luns lun (some s.device)
    transfer := s.transfer
    world := s.world })

def callPhase (c : Controller δ) (i : Input) : PhaseCall → Controller δ
  | .status => c.status i
  | .dataIn length => (c.setCurrentLength length).startDataIn i
  | .dataOut length => (c.setCurrentLength length).startDataOut i
  | .errorThenDataIn length =>
    ((((c.setPhase .status).setLines false true true).resetOffset).setCurrentLength length).startDataIn i

variable (m : Methods δ)

/- Pending sense data are discarded, unless the command is REQUEST SENSE. -/
def discardSense (c : Controller δ) (lun : Nat) : Controller δ :=
  if c.opcode ≠ .requestSense then (c.setStatus .good).modifyBase lun PrimaryDevice.resetStatus else c

def dispatchTo (c : Controller δ) (i : Input) (lun : Nat) (d : δ) : Controller δ :=
  if (base d : PrimaryDevice).checkReservation (c.request i.env) then
    match c.runHandler i.env lun d (m.dispatch c.opcode) with
    | (.ok call,c) => c.callPhase i call
    | (.error e,c) => c.error e.senseKey e.asc
  else c.error .illegalRequest .noAdditionalSenseInformation .reservationConflict

def execute (c : Controller δ) (i : Input) : Controller δ :=
  let c := ((c.setCurrentLength 0).resetOffset).setTransferSize 0 0
  let lun := c.getEffectiveLun
  if (c.luns lun).isNone && c.opcode ≠ .inquiry && c.opcode ≠ .requestSense then
    c.error .illegalRequest .logicalUnitNotSupported
  else
    let lun := if (c.luns lun).isNone then 0 else lun
    let c := c.discardSense lun
    match c.luns lun with
    | none => c
    | some d => c.dispatchTo m i lun d

def discardDeferredError (c : Controller δ) : Controller δ :=
  { c with deferredSenseKey := .noSense, deferredAsc := .noAdditionalSenseInformation }

/- Fixed format sense data for an error that the controller and not the device reported. -/
def provideSenseData (c : Controller δ) (i : Input) : Controller δ :=
  let data := (((List.replicate 18 0).set 0 0x70).set 2 c.deferredSenseKey.code).set 7 10
  let c := c.setCurrentLength 18
  let c := { c with
    transfer := { c.transfer with
      buffer := setBytes c.transfer.buffer 0 (data.set 12 c.deferredAsc.code) } }
  c.discardDeferredError.startDataIn i

/- ICD drivers send a leading $1F, which is skipped. -/
def skipIcdPrefix : Bytes → Bytes
  | 0x1f::rest => rest
  | bytes => bytes

/- CommandHandShake: the bytes received and its result. The handshake times out
when no more bytes come. -/
def commandHandShake (bytes : Bytes) : Bytes × Int :=
  match skipIcdPrefix bytes with
  | [] => ([],-1)
  | opcode::rest =>
    let count := getByteCount opcode
    if count = 0 then ([opcode],0)
    else if (opcode::rest).length < count then (opcode::rest,-1)
    else ((opcode::rest).take count,count)

/- Link and flag are bits of the control byte, the last byte of the CDB. -/
def storeCdb (c : Controller δ) (buf : Bytes) : Controller δ :=
  let c := { c with cdb := setBytes c.cdb 0 buf }
  let c := c.log (.fetched c.getEffectiveLun buf)
  let control := byteAt c.cdb (buf.length - 1)
  { c with linked := control.testBit 0, flag := control.testBit 1 }

def acceptCdb (c : Controller δ) (i : Input) (buf : Bytes) : Controller δ :=
  let c := c.storeCdb buf
  if c.flag && !c.linked then c.raiseDeferredError .illegalRequest .invalidFieldInCdb
  else if c.deferredSenseKey ≠ .noSense && c.opcode = .requestSense then c.provideSenseData i
  else c.discardDeferredError.execute m i

/- The COMMAND phase with the bytes received in the buffer. -/
def enterCommand (c : Controller δ) (buf : Bytes) : Controller δ :=
  let c := (c.setPhase .command).setLines false true false
  { c with transfer := { c.transfer with buffer := setBytes c.transfer.buffer 0 buf } }

def command (c : Controller δ) (i : Input) : Controller δ :=
  if c.phase = .command then c
  else
    let (buf,count) := commandHandShake i.bytes
    let c := c.enterCommand buf
    if count = 0 then c.raiseDeferredError .illegalRequest .invalidCommandOperationCode
    else if count < 0 then c.setRst.raiseDeferredError .abortedCommand .commandPhaseError
    else c.acceptCdb m i buf

/- Completed sending the response to an extended message, or executing a linked command. -/
def processEndOfMessage (c : Controller δ) (i : Input) : Controller δ :=
  if c.atnMsg || c.linked then c.resetFlags.command m i else c.busFree

def hasDataOut (c : Controller δ) : Bool := (getCdbMetaData c.opcode).hasDataOut

def transferToHost (c : Controller δ) (i : Input) : Controller δ :=
  let c := c.check (!c.hasDataOut) .dataInCommand
  let lun := c.getEffectiveLun
  match c.luns lun with
  | none => c
  | some d => match c.runHandler i.env lun d m.readData with
    | (.ok _,c) =>
      let t := c.transfer
      if t.remainingLength ≠ 0 then
        (c.setCurrentLength (min t.remainingLength t.chunkSize)).resetOffset
      else c
    | (.error e,c) => c.error e.senseKey e.asc

def send (c : Controller δ) (i : Input) : Controller δ :=
  c.sendWith i (transferToHost m · i) (processEndOfMessage m · i)

/-! Receiving. -/

/- The result of WriteData, or the length itself after MODE SELECT. -/
def receiveParameters (c : Controller δ) (d : δ) (length : Int) : Handler δ Int :=
  if (c.opcode = .modeSelect6 ∨ c.opcode = .modeSelect10) ∧ (base d : PrimaryDevice).type ≠ .scsg then do
    m.modeSelect c.offset
    return length
  else m.writeData c.offset length

def transferFromHost (c : Controller δ) (i : Input) (length : Int) : Bool × Controller δ :=
  let c := c.check c.hasDataOut .dataOutCommand
  let lun := c.getEffectiveLun
  match c.luns lun with
  | none => (false,c)
  | some d => match c.runHandler i.env lun d (c.receiveParameters m d length) with
    | (.ok transferred,c) =>
      let c := c.updateTransferLength transferred
      (true,(c.setCurrentLength c.transfer.chunkSize).resetOffset)
    | (.error e,c) => (false,c.error e.senseKey e.asc)

def xferMsg (c : Controller δ) : Controller δ :=
  { c with
    msgBytes := if c.atnMsg then c.msgBytes ++ [c.transfer.buffer.getD 0 0] else c.msgBytes }

/- The loop of ParseMessage; the flag is set behind an extended message byte. -/
def parseMessage (c : Controller δ) : Bool → Bytes → Controller δ
  | _, [] => c
  | true, _::_ =>
    (((c.setCurrentLength 1).setTransferSize 1 1).setBufferByte MessageCode.messageReject).enterMsgIn
  | false, b::rest =>
    if b = 0x01 then parseMessage c true rest
    else if b = MessageCode.abort then c.busFree
    else if b = MessageCode.busDeviceReset then
      (c.modifyBase c.getEffectiveLun fun d => { d.discardReservation with reset := true }).busFree
    else if MessageCode.identify ≤ b then
      parseMessage { c with identifiedLun := some (b &&& 0x1f).toNat } false rest
    else parseMessage c false rest

def processMessage (c : Controller δ) (i : Input) : Controller δ :=
  if c.lines.atn then ((c.resetOffset).setCurrentLength 1).setTransferSize 1 1
  else
    let c := if c.atnMsg then { c with atnMsg := false }.parseMessage false c.msgBytes else c
    c.command m i

def receiveBytes (c : Controller δ) (i : Input) : Controller δ :=
  let length := c.transfer.currentLength
  let bytes := i.bytes.take length.toNat
  let c := c.log (.received c.phase bytes)
  let c := { c with
    transfer := { c.transfer with buffer := setBytes c.transfer.buffer c.offset.toNat bytes } }
  if (bytes.length : Int) ≠ length then c.setRst.error .abortedCommand .dataPhaseError
  else c.updateOffsetAndLength

def checkNextChunk (c : Controller δ) : Controller δ :=
  (c.check (c.transfer.currentLength ≠ 0) .nextChunk).check (c.offset = 0) .nextChunk

/- All bytes of the chunk have been received. -/
def chunkReceived (c : Controller δ) (i : Input) : Controller δ :=
  let length := min c.transfer.chunkSize c.transfer.remainingLength
  match c.phase with
  | .dataOut =>
    let (done,c) := c.transferFromHost m i length
    if !done then c
    else if c.transfer.remainingLength ≠ 0 then c.checkNextChunk
    else c.status i
  | .msgOut =>
    let c := (c.updateTransferLength length).xferMsg
    if c.transfer.remainingLength ≠ 0 then c.checkNextChunk
    else c.processMessage m i
  | _ => c.check false .receivePhase

def checkReceive (c : Controller δ) : Controller δ :=
  (c.check (!c.lines.req) .receiveLines).check (!c.lines.io) .receiveLines

def receive (c : Controller δ) (i : Input) : Controller δ :=
  let c := c.checkReceive
  if c.transfer.currentLength ≠ 0 then c.receiveBytes i
  else c.chunkReceived m i

/-! The functions that Process runs. -/

def msgOut (c : Controller δ) (i : Input) : Controller δ :=
  if c.phase = .msgOut then c.receive m i else c.enterMsgOut

def selection (c : Controller δ) (i : Input) : Controller δ :=
  if !c.lines.sel && c.lines.bsy then
    if c.lines.atn then c.msgOut m i else c.command m i
  else c

def reset (c : Controller δ) : Controller δ :=
  { c.log .reset with
    phase := .busFree
    lines := { bsy := false }
    offset := 0
    transfer := { c.transfer with
      currentLength := 0
      remainingLength := 0
      chunkSize := 0
      status := .good }
    initiatorId := -1
    luns := fun lun => (c.luns lun).map fun d => setBase d (base d : PrimaryDevice).busReset
    identifiedLun := none }.resetFlags

def processPhase (c : Controller δ) (i : Input) : Controller δ :=
  match c.phase with
  | .busFree => c.busFree
  | .selection => c.selection m i
  | .command => c.command m i
  | .dataIn => c.send m i
  | .dataOut => c.receive m i
  | .status => c.send m i
  | .msgIn => c.send m i
  | .msgOut => c.receive m i
  | .arbitration | .reselection | .reserved => c.error .abortedCommand .internalTargetFailure

/- Acquire samples the lines that the initiator drives. -/
def acquire (c : Controller δ) (i : Input) : Controller δ :=
  { c with lines := { c.lines with sel := i.sel, atn := i.atn, rst := c.lines.rst || i.rst } }

def process (c : Controller δ) (i : Input) : Controller δ :=
  let c := c.acquire i
  if c.lines.rst then c.reset else c.processPhase m i

/- The loop around Process: a selection tells the initiator from the IDs on the bus. -/
inductive Action where
  | select (ids : Nat)
  | process (input : Input)

def initiatorOf (ids targetId : Nat) : Int :=
  match (List.range 8).find? fun k => (ids - 2^targetId).testBit k with
  | some k => k
  | none => -1

def step (c : Controller δ) : Action → Controller δ
  | .select ids => if c.phase = .busFree then { c with initiatorId := initiatorOf ids c.targetId } else c
  | .process i => c.process m i

def run (c : Controller δ) (actions : List Action) : Controller δ := actions.foldl (step m) c

end Controller
end Scsi2Pi
