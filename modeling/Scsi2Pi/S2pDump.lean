import Scsi2Pi.S2pDumpExecutor
import Scsi2Pi.SimhImage

/-! S2pDump: the loops that write a SIMH image with the contents of a tape, and write
the contents of an image to a tape. -/
namespace Scsi2Pi
open Slices MemoryUtil SimhUtil

namespace SimhUtil

def lengthWord (length : Nat) : Bytes := (bigEndian 4 length).reverse

/- Without a pad byte. -/
def writeGoodData (file data : Bytes) (length : Nat) : Bytes :=
  file ++ lengthWord length ++ data.take length ++ lengthWord length

def writeFilemark (file : Bytes) : Bytes := file ++ [0,0,0,0]

end SimhUtil

namespace S2pDump
open S2pDumpExecutor

variable {τ : Type}

/- More data than there are in the buffer are not defined. -/
def dumpObject (file buf : Bytes) (length : Int) : DumpEff τ Bytes := do
  if length = badBlock then return file ++ [0x00,0x00,0x00,0x80]
  if length = 0 then return writeFilemark file
  if length < 0 ∨ buf.length < length.toNat then throw .undefinedBehaviour
  return writeGoodData file buf length.toNat

/- The result is the file. -/
def dumpTape (v : ExecutorVirtual τ) (attempts : Nat) : Nat → Bytes → Bytes → DumpEff τ Bytes
  | 0, _, _ => throw .pending
  | passes+1, buf, file => do
    let (length,buf) ← readWriteTape v attempts buf 0
    if length = noMoreData then return file
    dumpTape v attempts passes buf (← dumpObject file buf length)

/- As for a std::vector: what is there remains, and the rest is 0. -/
def resize (buf : Bytes) (size : Nat) : Bytes := buf.take size ++ List.replicate (size - buf.length) 0

/- The last 4 bytes passed are the trailing length. A record that is not complete leaves the
stream in a state in which nothing else can be read. -/
def restoreTape (v : ExecutorVirtual τ) (file : Bytes) : Nat → Nat → Bytes → DumpEff τ Unit
  | 0, _, _ => throw .pending
  | passes+1, position, buf =>
    match readMetaData (some file) position with
    | none => return
    | some m => do
      let position := position + metaDataSize
      if m.cls = .reservedMarker ∧ m.value = endOfMedium then return
      if m.cls = .tapeMarkGoodDataRecord ∧ m.value = 0 then
        let status ← S2pDumpExecutor.writeFilemark v
        if status ≠ 0 then throw (.ioException "Can't write filemark")
        restoreTape v file passes position buf
      else if (m.cls = .tapeMarkGoodDataRecord ∨ m.cls = .badDataRecord) ∧ m.value ≠ 0 then
        let record := slice file position m.value
        let (count,buf) ← readWriteTape v passes (setBytes (resize buf m.value) 0 record) m.value
        if count ≠ m.value then throw (.ioException "Can't write block")
        if record.length < m.value then return
        restoreTape v file passes (position + m.value + metaDataSize) buf
      else restoreTape v file passes position buf

end S2pDump
end Scsi2Pi
