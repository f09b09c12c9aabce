import Mathlib.Logic.Function.Basic
import Scsi2Pi.Slices

/-! The image files as the streams of the emulator see them: a read succeeds
only inside an existing file, a write needs an existing file and extends it. -/
namespace Scsi2Pi
open Slices

abbrev Bytes := List UInt8

abbrev FileSystem := String → Option Bytes

namespace FileSystem

/- ifstream, seekg, read and good(): reading past the end sets the fail bit. -/
def readAt (fs : FileSystem) (path : String) (start count : Nat) : Option Bytes := do
  let file ← fs path
  if start + count ≤ file.length then some (slice file start count) else none

/- ofstream with ios::in, seekp and write: the file is neither created nor truncated. -/
def writeAt (fs : FileSystem) (path : String) (start : Nat) (data : Bytes) : Option FileSystem := do
  let file ← fs path
  some (Function.update fs path (some (overwrite 0 file start data)))

theorem readAtFile {fs : FileSystem} {path : String} {file : Bytes} (here : fs path = some file)
    {start count : Nat} (within : start + count ≤ file.length) :
    fs.readAt path start count = some (slice file start count) := by
  simp [readAt,here,within]

theorem writeAtFile {fs : FileSystem} {path : String} {file : Bytes} (here : fs path = some file)
    (start : Nat) (data : Bytes) :
    fs.writeAt path start data = some (Function.update fs path (some (overwrite 0 file start data))) := by
  simp [writeAt,here]

end FileSystem
end Scsi2Pi
