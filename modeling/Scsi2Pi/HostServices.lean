import Scsi2Pi.Controller
import Scsi2Pi.DiskDrives

/-! HostServices: remote operations and shutdown through a processor device. -/
namespace Scsi2Pi
open Slices MemoryUtil Handler Derives

structure HostServices extends PrimaryDevice where
  executionResults : Int → Option Bytes := fun _ => none
  inputFormat : ProtobufFormat := .binary
  customModePages : Pages := []

instance : Derives HostServices PrimaryDevice :=
  ⟨fun d => d.toPrimaryDevice,fun d b => { d with toPrimaryDevice := b },fun _ _ => rfl,fun _ => rfl,fun _ _ _ => rfl⟩

namespace HostServices

def startStopUnit : Handler HostServices PhaseCall := do
  let r ← getRequest
  let start := r.cdbByte 4 &&& 0x01 ≠ 0
  let load := r.cdbByte 4 &&& 0x02 ≠ 0
  if !start then
    modifyTransfer fun t => { t with shutdownMode := if load then .stopPi else .stopS2p }
  else if load then modifyTransfer fun t => { t with shutdownMode := .restartPi }
  else throw ⟨.illegalRequest,.invalidFieldInCdb⟩
  return .status

def convertFormat : Handler HostServices ProtobufFormat := do
  let r ← getRequest
  if r.cdbByte 1 &&& 0x1f = 0x01 then return .binary
  if r.cdbByte 1 &&& 0x1f = 0x02 then return .json
  if r.cdbByte 1 &&& 0x1f = 0x04 then return .text
  throw ⟨.illegalRequest,.invalidFieldInCdb⟩

def setResult (initiator : Int) (result : Option Bytes) : Handler HostServices Unit :=
  modifyDevice fun d => { d with executionResults := Function.update d.executionResults initiator result }

def executeOperation : Handler HostServices PhaseCall := do
  let r ← getRequest
  setResult r.initiatorId none
  let inputFormat ← convertFormat
  modifyDevice fun d => { d with inputFormat }
  let length := r.cdbInt16 7
  if length = 0 then throw ⟨.illegalRequest,.invalidFieldInCdb⟩
  setTransferSize length length
  return .dataOut length

def receiveOperationResults : Handler HostServices PhaseCall := do
  let r ← getRequest
  let outputFormat ← convertFormat
  match (← getDevice).executionResults r.initiatorId with
  | none => throw ⟨.illegalRequest,.dataCurrentlyUnavailable⟩
  | some result =>
    let data := if outputFormat = .binary then result else r.env.format outputFormat result
    setResult r.initiatorId none
    let length := min (r.cdbInt16 7) data.length
    copyToBuffer (data.take length)
    return .dataIn length

def realtimeClockPage (r : Request) (changeable : Bool) : Bytes :=
  if changeable then List.replicate 10 0
  else [0,0,0x01,0x00] ++ (r.env.localTime ++ List.replicate 6 0).take 6

def setUpModePages (r : Request) (_ : HostServices) (page : Nat) (changeable : Bool) (pages : Pages) : Pages :=
  pages.setIf (pageAsked page 0x20) 32 (realtimeClockPage r changeable)

def support : PageHandler.Support HostServices := ⟨setUpModePages,fun d => d.customModePages⟩

/- Block descriptors cannot be returned, subpages are not supported. -/
def prepareModeSense (allocationLength : Nat) : Handler HostServices Nat := do
  let r ← getRequest
  if r.cdbByte 3 ≠ 0 ∨ r.cdbByte 1 &&& 0x08 = 0 then throw ⟨.illegalRequest,.invalidFieldInCdb⟩
  let length := min (← getTransfer).buffer.length allocationLength
  setBuffer (setBytes · 0 (List.replicate length 0))
  return length

def modeSense6 : Handler HostServices Nat := do
  let length ← prepareModeSense ((← getRequest).cdbByte 4)
  let size ← PageHandler.addModePages support 4 length 255
  setBuffer (setBytes · 0 [UInt8.ofNat (size + 255)])
  return size

def modeSense10 : Handler HostServices Nat := do
  let length ← prepareModeSense ((← getRequest).cdbInt16 7)
  let size ← PageHandler.addModePages support 8 length 65535
  setBuffer (setInt16 · 0 ((size + 65534) % 65536))
  return size

/- The operation is given to the command dispatcher, which may fail to execute it. -/
def dispatchCommand (message : Bytes) : Handler HostServices Unit := do
  let r ← getRequest
  let format := (← getDevice).inputFormat
  match r.env.parse format message with
  | none => throw ⟨.abortedCommand,.internalTargetFailure⟩
  | some operation =>
    let w ← getWorld
    setWorld { w with dispatched := w.dispatched ++ [operation] }
    match r.env.dispatch format message with
    | none => throw ⟨.abortedCommand,.internalTargetFailure⟩
    | some result => setResult r.initiatorId (some result)

def writeData (length : Int) : Handler HostServices Int := do
  let r ← getRequest
  if r.opcode ≠ .executeOperation then throw ⟨.abortedCommand,.internalTargetFailure⟩
  let size := r.cdbInt16 7
  if size = 0 then
    setResult r.initiatorId (some [])
    return length
  dispatchCommand ((← getTransfer).buffer.take size)
  return length

def inquiry : Handler HostServices PhaseCall := PrimaryDevice.inquiry (inquiryInternal .processor fun _ => false)

def commands : List (ScsiCommand × Handler HostServices PhaseCall) :=
  PrimaryDevice.commands inquiry (super PrimaryDevice.requestSense) ++ [
    (.startStop,startStopUnit),
    (.executeOperation,executeOperation),
    (.receiveOperationResults,receiveOperationResults)] ++
    PageHandler.commands modeSense6 modeSense10 false false

def methods : Methods HostServices where
  dispatch := Handler.dispatch commands
  readData := return 0
  writeData _ length := writeData length
  modeSelect _ := throw ⟨.illegalRequest,.invalidFieldInCdb⟩

end HostServices
end Scsi2Pi
