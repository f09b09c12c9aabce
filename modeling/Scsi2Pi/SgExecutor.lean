import Scsi2Pi.S2pDumpExecutor

/-! The executor of the SG driver. The driver gets a copy of the CDB, for each of the
pieces a long transfer is split into. -/
namespace Scsi2Pi
open Slices MemoryUtil CommandMetaData DumpEff

variable {τ : Type}

namespace SgAdapter
open SgUtil

def maxTransferLength : Nat := 65536

def driverStatus (a : Answer) : Nat := if a.status = StatusCode.conditionMet.code.toNat then 0 else a.status

def keepSense (adapter : SgAdapter) (a : Answer) : SgAdapter :=
  { adapter with
    senseData := setBytes adapter.senseData 0 (a.senseData.take 18)
    senseDataValid := driverStatus a ≠ 0 }

/- There is only LUN 0. -/
def markMissingLun (cdb buf : Bytes) (status : Nat) : Bytes :=
  if status = 0 ∧ cdb.getD 0 0 = ScsiCommand.inquiry ∧ byteAt cdb 1 &&& 0xe0 ≠ 0 then setBytes buf 0 [0x7f] else buf

def sendToDriver (cdb buf : Bytes) (length : Nat) : DumpEff τ (Executed Nat) := do
  let write := (getCdbMetaData (cdb.getD 0 0)).hasDataOut
  let a ← send cdb (if write then buf.take length else [])
  let buf ← receive buf (if write then [] else a.dataIn.take length)
  modify fun s => { s with adapter := s.adapter.keepSense a }
  return ⟨driverStatus a,cdb,markMissingLun cdb buf (driverStatus a)⟩

def sendCommandInternal (cdb buf : Bytes) (length : Nat) : DumpEff τ (Executed Nat) := do
  let adapter := (← get).adapter
  if cdb.getD 0 0 = ScsiCommand.requestSense ∧ adapter.senseDataValid then
    modify fun s => { s with adapter := { s.adapter with senseDataValid := false } }
    return ⟨0,cdb,setBytes buf 0 (adapter.senseData.take length)⟩
  sendToDriver cdb buf length

/- The last piece is that of a command without blocks, of an error, or the last one of the data. -/
def sendPieces : Nat → Bytes → Bytes → Nat → DumpEff τ (Executed Nat)
  | 0, _, _, _ => throw .pending
  | pieces+1, cdb, buf, total => do
    let size := (← get).adapter.blockSize
    if size = 0 then throw .undefinedBehaviour
    let length := min total maxTransferLength
    let executed ← sendCommandInternal (setBlockCount cdb (length / size)) buf length
    if executed.returned ≠ 0 ∨ (getCdbMetaData (cdb.getD 0 0)).blockSize = 0 ∨ total ≤ length then
      return executed
    let rest ← sendPieces pieces (updateStartBlock executed.cdb (length / size)) (executed.buf.drop length) (total - length)
    return { rest with buf := executed.buf.take length ++ rest.buf }

/- The length that the CDB asks for, if there is one. For a command with blocks it is their number. -/
def totalLength (cdb : Bytes) (length : Nat) : Nat :=
  let allocationLength := getAllocationLength cdb
  if allocationLength ≠ 0 then allocationLength.toNat else length

def sendCommand (cdb buf : Bytes) (length : Nat) : DumpEff τ (Executed Nat) := do
  let total := totalLength cdb length
  let executed ← sendPieces (total / maxTransferLength + 1) cdb buf total
  return { executed with cdb }

end SgAdapter

namespace SgExecutor
open SgAdapter Executed

/- The result of rewind is the negated status. -/
def negated (e : Executed Nat) : Executed Nat := e.map fun status => if status = 0 then 1 else 0

def virtual : ExecutorVirtual τ where
  testUnitReady cdb := do return done (← sendCommand cdb [] 0)
  requestSense cdb buf := sendCommand cdb buf buf.length
  inquiry cdb buf := do return succeeded (← sendCommand cdb buf buf.length)
  modeSense6 cdb buf := do return succeeded (← sendCommand cdb buf buf.length)
  readCapacity10 cdb buf := sendCommand cdb buf 8
  readCapacity16 cdb buf := sendCommand cdb buf 14
  readWrite cdb buf length := do return succeeded (← sendCommand cdb buf length)
  synchronizeCache cdb := do return done (← sendCommand cdb [] 0)
  rewind cdb := do return negated (← sendCommand cdb [] 0)
  spaceBack cdb := do
    let executed ← sendCommand cdb [] 0
    if executed.returned ≠ 0 then throw (.ioException "Can't space back one block")
    return done executed
  writeFilemark cdb := sendCommand cdb [] 0
  read cdb buf length := do return failed (← sendCommand cdb buf length)
  write cdb buf length := do return failed (← sendCommand cdb buf length)

end SgExecutor
end Scsi2Pi
