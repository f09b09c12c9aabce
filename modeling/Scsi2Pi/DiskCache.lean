import Scsi2Pi.DiskTrack
import Scsi2Pi.MachineInt
import Scsi2Pi.SlotTable

/-! The track cache of the PISCSI caching mode: 16 slots, filled on demand. A
full cache saves and reuses the track with the smallest access serial. -/
namespace Scsi2Pi
open Slices

structure CacheData where
  disktrk : Option DiskTrack := none
  serial : UInt32 := 0

abbrev cacheMax : Nat := 16

structure DiskCache where
  cache : Fin cacheMax → CacheData := fun _ => {}
  serial : UInt32 := 0
  secPath : String
  shiftCount : Nat := 8
  blocks : Int

namespace DiskCache

/- The loop of the constructor: the first shift from 8 on that gives the size. -/
def findShift (size : Nat) : Nat → Nat → Nat
  | 0, shift => shift
  | fuel+1, shift => if 2^shift = size then shift else findShift size fuel (shift+1)

def new (path : String) (size sectors : Nat) : DiskCache :=
  { secPath := path, shiftCount := findShift size 23 8, blocks := int32 sectors }

def init (c : DiskCache) : Bool := c.blocks ≠ 0 && !c.secPath.isEmpty

def disktrks (c : DiskCache) : Fin cacheMax → Option DiskTrack := fun i => (c.cache i).disktrk

def setDisktrk (c : DiskCache) (i : Fin cacheMax) (t : Option DiskTrack) : DiskCache :=
  { c with cache := Function.update c.cache i { c.cache i with disktrk := t } }

def setSerial (c : DiskCache) (i : Fin cacheMax) : DiskCache :=
  { c with cache := Function.update c.cache i { c.cache i with serial := c.serial } }

def updateSerial (c : DiskCache) : DiskCache :=
  let serial := c.serial + 1
  if serial ≠ 0 then { c with serial }
  else { c with serial, cache := fun i => { c.cache i with serial := 0 } }

/- A negative number of sectors fails, at the latest when the flags are resized. -/
def load (c : DiskCache) (fs : FileSystem) (index : Fin cacheMax) (track : Nat)
    (disktrk : Option DiskTrack) : Option DiskCache :=
  let sectors := int32 (c.blocks - int32 (track * 256))
  let sectors := if 0x100 < sectors then 0x100 else sectors
  if sectors < 0 then none
  else do
    let t ← ((disktrk.getD {}).init track c.shiftCount sectors.toNat).load fs c.secPath
    some (c.setDisktrk index (some t))

/- The candidate starts at slot 0 and moves to every smaller serial found behind it. -/
def youngest (c : DiskCache) : Fin cacheMax :=
  ((List.finRange cacheMax).foldl (fun (s,candidate) i =>
    if (c.cache i).serial < s then ((c.cache i).serial,i) else (s,candidate))
    ((c.cache 0).serial,0)).2

def assign (c : DiskCache) (fs : FileSystem) (track : Nat) :
    Option (Fin cacheMax) × DiskCache × FileSystem :=
  match SlotTable.search DiskTrack.trackNumber c.disktrks track with
  | some i => (some i,c.setSerial i,fs)
  | none => match SlotTable.free c.disktrks with
    | some i => match c.load fs i track none with
      | some c => (some i,c.setSerial i,fs)
      | none => (none,c,fs)
    | none =>
      let i := c.youngest
      match (c.disktrks i).bind fun t => t.save fs c.secPath with
      | none => (none,c,fs)
      | some (t,fs) =>
        let c := c.setDisktrk i none
        match c.load fs i track (some t) with
        | some c => (some i,c.setSerial i,fs)
        | none => (none,c,fs)

def getTrack (c : DiskCache) (fs : FileSystem) (block : Nat) :
    Option (Fin cacheMax) × DiskCache × FileSystem :=
  c.updateSerial.assign fs (block / 256)

def readSectors (c : DiskCache) (fs : FileSystem) (sector count : Nat) :
    Option Bytes × DiskCache × FileSystem :=
  if count ≠ 1 then (none,c,fs)
  else
    let (slot,c,fs) := c.getTrack fs (uint32 sector)
    ((slot.bind c.disktrks).bind fun t => t.readSector (sector % 256),c,fs)

def writeSectors (c : DiskCache) (fs : FileSystem) (buf : Bytes) (sector count : Nat) :
    Bool × DiskCache × FileSystem :=
  if count ≠ 1 then (false,c,fs)
  else
    let (slot,c,fs) := c.getTrack fs (uint32 sector)
    match slot with
    | none => (false,c,fs)
    | some i => match (c.disktrks i).bind fun t => t.writeSector buf (sector % 256) with
      | none => (false,c,fs)
      | some t => (true,c.setDisktrk i (some t),fs)

/- none_of stops at the first track that cannot be saved. -/
def flushSlots : List (Fin cacheMax) → DiskCache → FileSystem → Bool × DiskCache × FileSystem
  | [], c, fs => (true,c,fs)
  | i::rest, c, fs => match c.disktrks i with
    | none => flushSlots rest c fs
    | some t => match t.save fs c.secPath with
      | none => (false,c,fs)
      | some (t,fs) => flushSlots rest (c.setDisktrk i (some t)) fs

def flush (c : DiskCache) (fs : FileSystem) : Bool × DiskCache × FileSystem :=
  flushSlots (List.finRange cacheMax) c fs

end DiskCache
end Scsi2Pi
