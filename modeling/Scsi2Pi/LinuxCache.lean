import Scsi2Pi.FileSystem
import Scsi2Pi.MachineInt

/-! The cache of the LINUX caching modes: a stream on the image file. A stream
keeps the data written last until the next seek or flush, or until it is closed. -/
namespace Scsi2Pi
open Slices

structure LinuxCache where
  filename : String
  sectorSize : Nat
  sectors : Nat
  writeThrough : Bool := false
  pending : Option (Nat × Bytes) := none
  deriving DecidableEq, Repr

namespace LinuxCache

def init (c : LinuxCache) (fs : FileSystem) : Bool :=
  c.sectorSize ≠ 0 && c.sectors ≠ 0 && !c.filename.isEmpty && (fs c.filename).isSome

/- What the stream still holds goes to the file. -/
def sync (c : LinuxCache) (fs : FileSystem) : Bool × LinuxCache × FileSystem :=
  match c.pending with
  | none => (true,c,fs)
  | some (start,data) => match fs.writeAt c.filename start data with
    | none => (false,{ c with pending := none },fs)
    | some fs => (true,{ c with pending := none },fs)

def flush (c : LinuxCache) (fs : FileSystem) : Bool × LinuxCache × FileSystem := c.sync fs

/- The destructor of the stream. -/
def close (c : LinuxCache) (fs : FileSystem) : FileSystem := (c.sync fs).2.2

def read (c : LinuxCache) (fs : FileSystem) (start : Nat) (length : Int) :
    Option Bytes × LinuxCache × FileSystem :=
  let (ok,c,fs) := c.sync fs
  if !ok || length ≤ 0 then (none,c,fs)
  else (fs.readAt c.filename (c.sectorSize*start) length.toNat,c,fs)

def write (c : LinuxCache) (fs : FileSystem) (buf : Bytes) (start : Nat) (length : Int) :
    Bool × LinuxCache × FileSystem :=
  let (ok,c,fs) := c.sync fs
  if !ok || length ≤ 0 then (false,c,fs)
  else
    let c := { c with pending := some (c.sectorSize*start,buf.take length.toNat) }
    if c.writeThrough then c.flush fs else (true,c,fs)

/- The product of an int and an uint32_t, passed on as an int. -/
def bytes (c : LinuxCache) (count : Nat) : Int := int32 (c.sectorSize * count : Nat)

def readSectors (c : LinuxCache) (fs : FileSystem) (start count : Nat) : Option Bytes × LinuxCache × FileSystem :=
  if c.sectors < start + count then (none,c,fs) else c.read fs start (c.bytes count)

def writeSectors (c : LinuxCache) (fs : FileSystem) (buf : Bytes) (start count : Nat) :
    Bool × LinuxCache × FileSystem :=
  if c.sectors < start + count then (false,c,fs) else c.write fs buf start (c.bytes count)

def readLong (c : LinuxCache) (fs : FileSystem) (start : Nat) (length : Int) :
    Option Bytes × LinuxCache × FileSystem :=
  if c.sectors ≤ start then (none,c,fs) else c.read fs start length

def writeLong (c : LinuxCache) (fs : FileSystem) (buf : Bytes) (start : Nat) (length : Int) :
    Bool × LinuxCache × FileSystem :=
  if c.sectors ≤ start then (false,c,fs) else c.write fs buf start length

end LinuxCache
end Scsi2Pi
