import Scsi2Pi.FileSystem

/-! The bus lines and the phases they encode. -/
namespace Scsi2Pi

inductive BusPhase where
  | busFree | arbitration | selection | reselection | command | dataIn | dataOut | status
  | msgIn | msgOut | reserved
  deriving DecidableEq, Repr

namespace Bus

structure Lines where
  sel : Bool := false
  bsy : Bool := true
  msg : Bool := false
  cd : Bool := false
  io : Bool := false
  req : Bool := false
  ack : Bool := false
  atn : Bool := false
  rst : Bool := false
  dat : UInt8 := 0
  deriving DecidableEq, Repr

/- The phase table over MSG, C/D and I/O. -/
def phases : Bool → Bool → Bool → BusPhase
  | false, false, false => .dataOut
  | false, false, true => .dataIn
  | false, true, false => .command
  | false, true, true => .status
  | true, false, _ => .reserved
  | true, true, false => .msgOut
  | true, true, true => .msgIn

/- Acquire samples all lines at once. -/
def getPhase (l : Lines) : BusPhase :=
  if l.sel then .selection
  else if !l.bsy then .busFree
  else phases l.msg l.cd l.io

end Bus
end Scsi2Pi
