import Scsi2Pi.Bus
import Scsi2Pi.Schedule

/-! SendHandShake and ReceiveHandShake in target and initiator mode, as processes
over the shared lines. Every step sets or samples the lines once, and a step
that waits for a signal is blocked until the signal has the awaited state. -/
namespace Scsi2Pi.Handshake
open Bus

inductive TargetPc where
  | loop | waitAckOff | setReq | waitAck | getDat | clearReq | waitEnd | finished
  deriving DecidableEq, Repr

structure Target where
  pc : TargetPc := .loop
  bytes : Nat := 0
  buf : Bytes := []
  deriving DecidableEq, Repr

def targetSend (buf : Bytes) (t : Target) (l : Lines) : Option (Target × Lines) :=
  match t.pc with
  | .loop => match buf[t.bytes]? with
    | some b => some ({ t with pc := .waitAckOff },{ l with dat := b })
    | none => some ({ t with pc := .waitEnd },l)
  | .waitAckOff => if l.ack then none else some ({ t with pc := .setReq },l)
  | .setReq => some ({ t with pc := .waitAck },{ l with req := true })
  | .waitAck => if l.ack then some ({ t with pc := .clearReq },l) else none
  | .clearReq => some ({ t with pc := .loop, bytes := t.bytes+1 },{ l with req := false })
  | .waitEnd => if l.ack then none else some ({ t with pc := .finished },l)
  | .getDat | .finished => none

def targetReceive (count : Nat) (t : Target) (l : Lines) : Option (Target × Lines) :=
  match t.pc with
  | .loop =>
    if t.bytes < count then some ({ t with pc := .waitAck },{ l with req := true })
    else some ({ t with pc := .finished },l)
  | .waitAck => if l.ack then some ({ t with pc := .getDat },l) else none
  | .getDat => some ({ t with pc := .clearReq, buf := t.buf.take t.bytes ++ [l.dat] },l)
  | .clearReq => some ({ t with pc := .waitAckOff },{ l with req := false })
  | .waitAckOff => if l.ack then none else some ({ t with pc := .loop, bytes := t.bytes+1 },l)
  | .setReq | .waitEnd | .finished => none

inductive InitiatorPc where
  | start | loop | waitReq | clearAtn | checkPhase | getDat | setAck | waitReqOff | clearAck
  | samplePhase | finished
  deriving DecidableEq, Repr

structure Initiator where
  pc : InitiatorPc := .start
  bytes : Nat := 0
  buf : Bytes := []
  phase : BusPhase := .busFree
  deriving DecidableEq, Repr

/- The phase is compared twice for each byte, the second time after ACK was released. -/
def initiatorReceive (count : Nat) (i : Initiator) (l : Lines) : Option (Initiator × Lines) :=
  match i.pc with
  | .start => some ({ i with pc := .loop, phase := getPhase l },l)
  | .loop => some ({ i with pc := if i.bytes < count then .waitReq else .finished },l)
  | .waitReq => if l.req then some ({ i with pc := .checkPhase },l) else none
  | .checkPhase => some ({ i with pc := if getPhase l ≠ i.phase then .finished else .getDat },l)
  | .getDat => some ({ i with pc := .setAck, buf := i.buf.take i.bytes ++ [l.dat] },l)
  | .setAck => some ({ i with pc := .waitReqOff },{ l with ack := true })
  | .waitReqOff => if l.req then none else some ({ i with pc := .clearAck },l)
  | .clearAck => some ({ i with pc := .samplePhase },{ l with ack := false })
  | .samplePhase =>
    if getPhase l ≠ i.phase then some ({ i with pc := .finished },l)
    else some ({ i with pc := .loop, bytes := i.bytes+1 },l)
  | .clearAtn | .finished => none

def initiatorSend (buf : Bytes) (i : Initiator) (l : Lines) : Option (Initiator × Lines) :=
  match i.pc with
  | .start => some ({ i with pc := .loop, phase := getPhase l },l)
  | .loop => match buf[i.bytes]? with
    | some b => some ({ i with pc := .waitReq },{ l with dat := b })
    | none => some ({ i with pc := .finished },l)
  | .waitReq => if l.req then some ({ i with pc := .clearAtn },l) else none
  | .clearAtn =>
    let last := i.phase = .msgOut ∧ i.bytes + 1 = buf.length
    some ({ i with pc := .checkPhase },if last then { l with atn := false } else l)
  | .checkPhase => some ({ i with pc := if getPhase l ≠ i.phase then .finished else .setAck },l)
  | .setAck => some ({ i with pc := .waitReqOff },{ l with ack := true })
  | .waitReqOff => if l.req then none else some ({ i with pc := .clearAck },l)
  | .clearAck => some ({ i with pc := .samplePhase },{ l with ack := false })
  | .samplePhase =>
    if getPhase l ≠ i.phase then some ({ i with pc := .finished },l)
    else some ({ i with pc := .loop, bytes := i.bytes+1 },l)
  | .getDat | .finished => none

/- One of the two directions: the data, and how many bytes the receiver asks for. -/
inductive Transfer where
  | toInitiator (buf : Bytes) (count : Nat)
  | toTarget (count : Nat) (buf : Bytes)
  deriving DecidableEq, Repr

namespace Transfer

def target : Transfer → Target → Lines → Option (Target × Lines)
  | .toInitiator buf _ => targetSend buf
  | .toTarget count _ => targetReceive count

def initiator : Transfer → Initiator → Lines → Option (Initiator × Lines)
  | .toInitiator _ count => initiatorReceive count
  | .toTarget _ buf => initiatorSend buf

def sent : Transfer → Bytes
  | .toInitiator buf _ => buf
  | .toTarget _ buf => buf

end Transfer

structure State where
  target : Target := {}
  initiator : Initiator := {}
  lines : Lines := {}
  deriving DecidableEq, Repr

/- leave is what the target does to its lines once its loop has ended: it ends
the phase and may already request the first byte of the next one. -/
inductive Action where
  | target
  | initiator
  | leave (l : Lines)
  deriving DecidableEq, Repr

def act (x : Transfer) (phase : BusPhase) (s : State) : Action → Option State
  | .target => (x.target s.target s.lines).map fun (t,l) => { s with target := t, lines := l }
  | .initiator => (x.initiator s.initiator s.lines).map fun (i,l) => { s with initiator := i, lines := l }
  | .leave l =>
    if s.target.pc = .finished ∧ l.ack = s.lines.ack ∧ l.atn = s.lines.atn ∧ getPhase l ≠ phase then
      some { s with lines := l }
    else none

def received (x : Transfer) (s : State) : Bytes :=
  match x with
  | .toInitiator .. => s.initiator.buf
  | .toTarget .. => s.target.buf

/- The bytes the target has put on the bus and seen acknowledged, or has taken from it. -/
def transferred (x : Transfer) (s : State) : Nat :=
  match x with
  | .toInitiator .. => s.target.bytes
  | .toTarget .. => s.target.buf.length

end Scsi2Pi.Handshake
