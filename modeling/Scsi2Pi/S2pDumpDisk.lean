import Scsi2Pi.S2pDumpExecutor

/-! S2pDump: the size of the transfer and the loop that copies the sectors of a disk to
an image file, or the image file to the disk. -/
namespace Scsi2Pi
open Slices MemoryUtil

/- The members that describe the range. The start sector and the sector count are int, no
count is 0. The size of the image file is not known if it cannot be determined. -/
structure S2pDump where
  sasi : Bool := false
  sasiCapacity : Nat := 0
  sasiSectorSize : Nat := 0
  scsiCapacity : Nat := 0
  scsiSectorSize : Nat := 0
  start : Int := 0
  count : Int := 0
  restore : Bool := false
  imageFileSize : Option Nat := none
  bufferSize : Nat := 2^20

namespace S2pDump
open S2pDumpExecutor

def capacity (p : S2pDump) : Nat := if p.sasi then p.sasiCapacity else p.scsiCapacity

def sectorSize (p : S2pDump) : Nat := if p.sasi then p.sasiSectorSize else p.scsiSectorSize

def uint64 (x : Int) : Nat := (x % 2^64).toNat

/- No result stands for a range that is rejected. The product is that of an unsigned type. -/
def calculateEffectiveSize (p : S2pDump) : Option Nat :=
  if p.capacity ≤ uint64 p.start then none
  else
    let count := if p.count = 0 then int32 (uint64 (p.capacity - p.start)) else p.count
    if p.capacity < uint64 (int32 (p.start + count)) then none
    else
      let diskSizeInBytes := uint32 (count * p.sectorSize)
      if p.restore then p.imageFileSize.map fun size => min size diskSizeInBytes
      else some diskSizeInBytes

/-! The loop. -/

structure Chunk where
  sectorOffset : Int
  sectorCount : Nat
  currentCount : Nat
  deriving DecidableEq, Repr

/- Whole sectors, and not more than 256 of them with SASI. -/
def nextChunk (p : S2pDump) (sectorOffset : Int) (remaining : Nat) : Chunk :=
  let currentCount := min remaining p.bufferSize
  let sectorCount := currentCount / p.sectorSize
  let sectorCount := if currentCount % p.sectorSize ≠ 0 then sectorCount + 1 else sectorCount
  if p.sasi ∧ 256 < sectorCount then ⟨sectorOffset,256,256 * p.sectorSize⟩
  else ⟨sectorOffset,sectorCount,currentCount⟩

/- Each chunk has at least one byte. -/
def chunks (p : S2pDump) : Nat → Int → Nat → List Chunk
  | 0, _, _ => []
  | fuel+1, sectorOffset, remaining =>
    if remaining = 0 then []
    else
      let chunk := p.nextChunk sectorOffset remaining
      chunk :: p.chunks fuel (int32 (sectorOffset + chunk.sectorCount)) (remaining - chunk.currentCount)

/- What DumpRestoreDisk goes through: nothing for a range that is rejected. -/
def plan (p : S2pDump) : List Chunk :=
  match p.calculateEffectiveSize with
  | none => []
  | some size => p.chunks size p.start size

/- What the command for a chunk asks for, and the length of its transfer. -/
structure Command where
  lba : Nat
  count : Nat
  length : Int
  deriving DecidableEq, Repr

def command (p : S2pDump) (chunk : Chunk) : Command :=
  ⟨uint32 chunk.sectorOffset,chunk.sectorCount % 2^16,int32 (uint32 (chunk.sectorCount * p.sectorSize : Nat))⟩

section
variable {τ : Type}

/- The buffer and the file, to which the bytes of the chunk are appended. -/
def dumpChunk (p : S2pDump) (v : ExecutorVirtual τ) (state : Bytes × Bytes) (chunk : Chunk) : DumpEff τ (Bytes × Bytes) := do
  let c := p.command chunk
  let (ok,buf) ← readWrite v state.1 c.lba chunk.sectorCount c.length.toNat false
  if !ok then throw (.ioException "Can't read from device")
  return (buf,state.2 ++ buf.take chunk.currentCount)

/- The buffer and what has not been read of the file yet. -/
def restoreChunk (p : S2pDump) (v : ExecutorVirtual τ) (state : Bytes × Bytes) (chunk : Chunk) : DumpEff τ (Bytes × Bytes) := do
  if state.2.length < chunk.currentCount then throw (.ioException "Can't read from file")
  let c := p.command chunk
  let (ok,buf) ← readWrite v (setBytes state.1 0 (state.2.take chunk.currentCount)) c.lba chunk.sectorCount c.length.toNat true
  if !ok then throw (.ioException "Can't write to device")
  return (buf,state.2.drop chunk.currentCount)

def dumpChunks (p : S2pDump) (v : ExecutorVirtual τ) : List Chunk → Bytes × Bytes → DumpEff τ (Bytes × Bytes)
  | [], state => return state
  | chunk::rest, state => do p.dumpChunks v rest (← p.dumpChunk v state chunk)

def restoreChunks (p : S2pDump) (v : ExecutorVirtual τ) : List Chunk → Bytes × Bytes → DumpEff τ (Bytes × Bytes)
  | [], state => return state
  | chunk::rest, state => do p.restoreChunks v rest (← p.restoreChunk v state chunk)

/- The result is the image file. -/
def dumpDisk (p : S2pDump) (v : ExecutorVirtual τ) : DumpEff τ Bytes := do
  let (_,file) ← p.dumpChunks v p.plan (List.replicate p.bufferSize 0,[])
  return file

/- The cache of the target is flushed at the end. -/
def restoreDisk (p : S2pDump) (v : ExecutorVirtual τ) (file : Bytes) : DumpEff τ Unit := do
  if p.plan ≠ [] then
    let _ ← p.restoreChunks v p.plan (List.replicate p.bufferSize 0,file)
    synchronizeCache v

end

end S2pDump
end Scsi2Pi
