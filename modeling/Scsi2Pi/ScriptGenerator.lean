import Scsi2Pi.Controller

/-! The script that a controller writes while it executes commands: options for s2pexec, one
line for each selection, and continued lines for long data. -/
namespace Scsi2Pi
open MemoryUtil

namespace ScriptGenerator

/- Hexadecimal with a width of two. -/
def hexByte (n : Nat) : List Char :=
  let digits := Nat.toDigits 16 n
  List.replicate (2 - digits.length) '0' ++ digits

/- The text in front of the byte with an index. -/
def cdbSeparator (i : Nat) : List Char := if i = 0 then [] else [':']

def dataSeparator (i : Nat) : List Char :=
  if i = 0 then [] else if i % 16 = 0 then ['\\','\n'] else [':']

def writeBytes (separator : Nat → List Char) : Nat → Bytes → List Char
  | _, [] => []
  | i, b::bytes => separator i ++ hexByte b.toNat ++ writeBytes separator (i+1) bytes

/- All available CDB data are added for an unknown command. -/
def addCdb (id lun : Nat) (cdb : Bytes) : List Char :=
  let count := CommandMetaData.getByteCount (cdb.getD 0 0)
  let count := if count = 0 then cdb.length else count
  "-i ".toList ++ Nat.toDigits 10 id ++ ":".toList ++ Nat.toDigits 10 lun ++ " -c ".toList ++
    writeBytes cdbSeparator 0 (cdb.take count)

def addData (data : Bytes) : List Char := " -d ".toList ++ writeBytes dataSeparator 0 data

def writeEol : List Char := ['\n']

end ScriptGenerator

/- A controller with the file of its script generator. -/
structure ScriptedController (δ : Type) where
  controller : Controller δ
  file : List Char := []

namespace ScriptedController
open Controller ScriptGenerator

variable {δ : Type} [Derives δ PrimaryDevice] (m : Methods δ)

/- AddCdbToScript when a CDB has been stored, and AddDataToScript when all bytes of a chunk
have been received in a DATA OUT phase. The controller is the one before the step. -/
def addToScript (c : Controller δ) : Event → List Char
  | .fetched lun buf => addCdb c.targetId lun (setBytes c.cdb 0 buf)
  | .received .dataOut bytes => if (bytes.length : Int) = c.transfer.currentLength then addData bytes else []
  | _ => []

/- Whether Process asks for another call. -/
def processAgain (c : Controller δ) (i : Input) : Bool :=
  !(c.acquire i).lines.rst && c.phase ∉ [.arbitration,.reselection,.reserved] && (c.process m i).phase ≠ .busFree

/- ProcessOnController ends a line when Process does not have to be called again. -/
def step (s : ScriptedController δ) (action : Action) : ScriptedController δ :=
  let c := s.controller.step m action
  let added := (c.trace.drop s.controller.trace.length).flatMap (addToScript s.controller)
  let eol := match action with
    | .select _ => []
    | .process i => if processAgain m s.controller i then [] else writeEol
  ⟨c,s.file ++ added ++ eol⟩

def run (s : ScriptedController δ) (actions : List Action) : ScriptedController δ := actions.foldl (step m) s

end ScriptedController
end Scsi2Pi
