import Scsi2Pi.DiskCache
import Scsi2Pi.LinuxCache

/-! The two caches of a disk behind one interface. -/
namespace Scsi2Pi

inductive CachingMode where
  | default | piscsi | writeThrough | linux | linuxOptimized
  deriving DecidableEq, Repr

inductive Cache where
  | tracks (c : DiskCache)
  | stream (c : LinuxCache)

namespace Cache

def init (c : Cache) (fs : FileSystem) : Bool :=
  match c with
  | .tracks c => c.init
  | .stream c => c.init fs

def readSectors (c : Cache) (fs : FileSystem) (start count : Nat) : Option Bytes × Cache × FileSystem :=
  match c with
  | .tracks c => let (data,c,fs) := c.readSectors fs start count; (data,.tracks c,fs)
  | .stream c => let (data,c,fs) := c.readSectors fs start count; (data,.stream c,fs)

def writeSectors (c : Cache) (fs : FileSystem) (buf : Bytes) (start count : Nat) : Bool × Cache × FileSystem :=
  match c with
  | .tracks c => let (ok,c,fs) := c.writeSectors fs buf start count; (ok,.tracks c,fs)
  | .stream c => let (ok,c,fs) := c.writeSectors fs buf start count; (ok,.stream c,fs)

def flush (c : Cache) (fs : FileSystem) : Bool × Cache × FileSystem :=
  match c with
  | .tracks c => let (ok,c,fs) := c.flush fs; (ok,.tracks c,fs)
  | .stream c => let (ok,c,fs) := c.flush fs; (ok,.stream c,fs)

/- Dropping a cache closes the stream; the tracks are gone. -/
def drop (c : Cache) (fs : FileSystem) : FileSystem :=
  match c with
  | .tracks _ => fs
  | .stream c => c.close fs

end Cache
end Scsi2Pi
