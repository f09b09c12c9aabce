import Scsi2Pi.Effect
import Scsi2Pi.MachineInt
import Scsi2Pi.MemoryUtil
import Scsi2Pi.PbOperation
import Scsi2Pi.Scsi

/-! Command handlers. A handler reads the current command, changes its device,
the transfer data of the controller and the files, and ends with the phase it
asks for or with an exception. Handlers of a base class work on the part of the
object this class declares. -/
namespace Scsi2Pi
open Slices MemoryUtil

inductive ShutdownMode where
  | none | stopS2p | stopPi | restartPi
  deriving DecidableEq, Repr

/- The fields of AbstractController that the devices work with. -/
structure Transfer where
  buffer : Bytes := List.replicate 512 0
  currentLength : Int := 0
  remainingLength : Int := 0
  chunkSize : Int := 0
  status : StatusCode := .good
  shutdownMode : ShutdownMode := .none
  deriving DecidableEq, Repr

namespace Transfer

def setCurrentLength (t : Transfer) (length : Int) : Transfer :=
  let missing := length.toNat - t.buffer.length
  { t with buffer := t.buffer ++ List.replicate missing 0, currentLength := length }

def setTransferSize (t : Transfer) (length size : Int) : Transfer :=
  { t with remainingLength := length, chunkSize := if length < size then length else size }

def copyToBuffer (t : Transfer) (data : Bytes) : Transfer :=
  let t := t.setCurrentLength data.length
  { t with buffer := overwrite 0 t.buffer 0 data }

/- A negative remainder trips the assertion of the source and becomes 0. -/
def updateTransferLength (t : Transfer) (length : Int) : Transfer :=
  let remaining := max (t.remainingLength - length) 0
  { t with
    remainingLength := remaining
    chunkSize := if remaining < t.chunkSize then remaining else t.chunkSize }

end Transfer

/- The files, which of them are in use, the packets sent to the network, and the
operations that devices have given to the command dispatcher. -/
structure World where
  files : FileSystem := fun _ => none
  reservedFiles : String → Option (Int × Nat) := fun _ => none
  network : List Bytes := []
  dispatched : List PbOperation := []

inductive ProtobufFormat where
  | binary | json | text
  deriving DecidableEq, Repr

/- The answer of the SG driver. It reports underruns only: resid is not negative. -/
structure SgResult where
  failed : Bool := false
  status : Nat := 0
  senseData : Bytes := []
  resid : Nat := 0
  data : Bytes := []

/- What the outside world answers during one step: the network (a packet comes
with its CRC), the clock, the print system, the remote interface and the SG driver. -/
structure Env where
  packet : Bytes := []
  pendingPackets : Bool := false
  macAddress : Bytes := []
  ipLinkError : Bool := false
  localTime : Bytes := []
  parse : ProtobufFormat → Bytes → Option PbOperation := fun _ _ => none
  dispatch : ProtobufFormat → Bytes → Option Bytes := fun _ _ => none
  format : ProtobufFormat → Bytes → Bytes := fun _ data => data
  temporaryFile : Option String := none
  printFails : Bool := false
  sgIo : Bytes → Bytes → Int → SgResult := fun _ _ _ => {}

structure Request where
  cdb : Bytes
  initiatorId : Int := -1
  targetId : Int := 0
  effectiveLun : Nat := 0
  hasLun : Nat → Bool := fun _ => true
  linked : Bool := false
  env : Env := {}

namespace Request

def cdbByte (r : Request) (i : Nat) : Nat := byteAt r.cdb i
def opcode (r : Request) : ScsiCommand := r.cdb.getD 0 0
def cdbInt16 (r : Request) (i : Nat) : Nat := getInt16 r.cdb i
def cdbInt24 (r : Request) (i : Nat) : Nat := getInt24 r.cdb i
def cdbInt32 (r : Request) (i : Nat) : Nat := getInt32 r.cdb i
def cdbInt64 (r : Request) (i : Nat) : Nat := getInt64 r.cdb i

end Request

structure HandlerState (δ : Type) where
  device : δ
  transfer : Transfer
  world : World

abbrev Handler (δ α : Type) := Eff Request (HandlerState δ) ScsiException α

/- How a handler ends: StatusPhase, DataInPhase or DataOutPhase. The last case is
that of a handler that called Error of the controller before DataInPhase. -/
inductive PhaseCall where
  | status
  | dataIn (length : Int)
  | dataOut (length : Int)
  | errorThenDataIn (length : Int)
  deriving DecidableEq, Repr

class Derives (δ β : Type) where
  base : δ → β
  setBase : δ → β → δ
  baseSet : ∀ d b, base (setBase d b) = b
  setBaseSelf : ∀ d, setBase d (base d) = d
  setBaseTwice : ∀ d b b', setBase (setBase d b) b' = setBase d b'

attribute [simp] Derives.baseSet Derives.setBaseSelf Derives.setBaseTwice

instance (δ : Type) : Derives δ δ := ⟨id,fun _ b => b,fun _ _ => rfl,fun _ => rfl,fun _ _ _ => rfl⟩

namespace Handler
open Derives

variable {δ β α : Type}

def super [Derives δ β] (h : Handler β α) : Handler δ α :=
  Eff.zoom (fun s => ⟨base s.device,s.transfer,s.world⟩)
    (fun s t => ⟨setBase s.device t.device,t.transfer,t.world⟩) h

def getRequest : Handler δ Request := fun r s => (.ok r,s)

def getDevice : Handler δ δ := fun _ s => (.ok s.device,s)

def modifyDevice (f : δ → δ) : Handler δ Unit := fun _ s => (.ok (),{ s with device := f s.device })

def getTransfer : Handler δ Transfer := fun _ s => (.ok s.transfer,s)

def modifyTransfer (f : Transfer → Transfer) : Handler δ Unit :=
  fun _ s => (.ok (),{ s with transfer := f s.transfer })

def getWorld : Handler δ World := fun _ s => (.ok s.world,s)

def setWorld (w : World) : Handler δ Unit := fun _ s => (.ok (),{ s with world := w })

def setCurrentLength (length : Int) : Handler δ Unit := modifyTransfer (·.setCurrentLength length)

def setTransferSize (length size : Int) : Handler δ Unit := modifyTransfer (·.setTransferSize length size)

def copyToBuffer (data : Bytes) : Handler δ Unit := modifyTransfer (·.copyToBuffer data)

def setBuffer (f : Bytes → Bytes) : Handler δ Unit :=
  modifyTransfer fun t => { t with buffer := f t.buffer }

/- The table that AddCommand fills. -/
def dispatch (commands : List (ScsiCommand × Handler δ PhaseCall)) (cmd : ScsiCommand) :
    Handler δ PhaseCall :=
  match commands.lookup cmd with
  | some command => command
  | none => throw ⟨.illegalRequest,.invalidCommandOperationCode⟩

section
variable {r : Request} {s : HandlerState δ} {E : ScsiException → HandlerState δ → Prop}
open Eff

@[simp] theorem wpGetRequest {Q : Request → HandlerState δ → Prop} :
    wp (getRequest : Handler δ Request) r s Q E ↔ Q r s := Iff.rfl

@[simp] theorem wpGetDevice {Q : δ → HandlerState δ → Prop} :
    wp (getDevice : Handler δ δ) r s Q E ↔ Q s.device s := Iff.rfl

@[simp] theorem wpModifyDevice {Q : Unit → HandlerState δ → Prop} (f : δ → δ) :
    wp (modifyDevice f) r s Q E ↔ Q () { s with device := f s.device } := Iff.rfl

@[simp] theorem wpGetTransfer {Q : Transfer → HandlerState δ → Prop} :
    wp (getTransfer : Handler δ Transfer) r s Q E ↔ Q s.transfer s := Iff.rfl

@[simp] theorem wpModifyTransfer {Q : Unit → HandlerState δ → Prop} (f : Transfer → Transfer) :
    wp (modifyTransfer f) r s Q E ↔ Q () { s with transfer := f s.transfer } := Iff.rfl

@[simp] theorem wpGetWorld {Q : World → HandlerState δ → Prop} :
    wp (getWorld : Handler δ World) r s Q E ↔ Q s.world s := Iff.rfl

@[simp] theorem wpSetWorld {Q : Unit → HandlerState δ → Prop} (w : World) :
    wp (setWorld w) r s Q E ↔ Q () { s with world := w } := Iff.rfl

@[simp] theorem wpSetCurrentLength {Q : Unit → HandlerState δ → Prop} (length : Int) :
    wp (setCurrentLength length) r s Q E ↔
      Q () { s with transfer := s.transfer.setCurrentLength length } := Iff.rfl

@[simp] theorem wpSetTransferSize {Q : Unit → HandlerState δ → Prop} (length size : Int) :
    wp (setTransferSize length size) r s Q E ↔
      Q () { s with transfer := s.transfer.setTransferSize length size } := Iff.rfl

@[simp] theorem wpCopyToBuffer {Q : Unit → HandlerState δ → Prop} (data : Bytes) :
    wp (copyToBuffer data) r s Q E ↔
      Q () { s with transfer := s.transfer.copyToBuffer data } := Iff.rfl

@[simp] theorem wpSetBuffer {Q : Unit → HandlerState δ → Prop} (f : Bytes → Bytes) :
    wp (setBuffer f) r s Q E ↔
      Q () { s with transfer := { s.transfer with buffer := f s.transfer.buffer } } := Iff.rfl

/- A base class handler cannot see what the derived class adds. -/
@[simp] theorem wpSuper [Derives δ β] (h : Handler β α) {Q : α → HandlerState δ → Prop} :
    wp (super h) r s Q E ↔ wp h r ⟨base s.device,s.transfer,s.world⟩
      (fun a t => Q a ⟨setBase s.device t.device,t.transfer,t.world⟩)
      (fun e t => E e ⟨setBase s.device t.device,t.transfer,t.world⟩) :=
  wpZoom h

/- What a handler preserves, however it ends. -/
def Keeps (I : HandlerState δ → Prop) (h : Handler δ α) : Prop :=
  ∀ r s, I s → I (h r s).2

theorem keepsOfWp {I : HandlerState δ → Prop} {h : Handler δ α}
    (each : ∀ r s, I s → wp h r s (fun _ t => I t) (fun _ t => I t)) : Keeps I h := by
  intro r s start
  have ends := each r s start
  unfold wp at ends
  cases ran : h r s with
  | mk result t =>
    rw [ran] at ends
    cases result <;> exact ends

end
end Handler
end Scsi2Pi
