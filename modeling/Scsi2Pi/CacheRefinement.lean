import Scsi2Pi.Cache
import Scsi2Pi.DiskCacheRefinement
import Scsi2Pi.LinuxCacheRefinement

/-! Either cache of a disk, together with the image file, is an array of sectors in
front of the bytes that do not fill a sector. -/
namespace Scsi2Pi
open Slices SectorArray

namespace LinuxCache

structure Represents (name : String) (size count : Nat) (before : FileSystem) (rest : Bytes)
    (c : LinuxCache) (fs : FileSystem) (a : Sectors) : Prop where
  filename : c.filename = name
  sectorSize : c.sectorSize = size
  sectors : count ≤ c.sectors
  others : ∀ other ≠ name, fs other = before other
  whole : ∃ whole, c.Holds fs whole ∧ count * size ≤ whole.length ∧ whole.drop (count * size) = rest ∧
    ∀ s < count, block size whole s = a s

variable {name : String} {size count : Nat} {before : FileSystem} {rest : Bytes}
  {c c' : LinuxCache} {fs fs' : FileSystem} {a b : Sectors}

theorem leavesRepresents (rep : Represents name size count before rest c fs a) {whole : Bytes}
    (leaves : Leaves c fs c' fs' whole) (length : count * size ≤ whole.length) (beyond : whole.drop (count * size) = rest)
    (values : ∀ s < count, block size whole s = b s) : Represents name size count before rest c' fs' b where
  filename := leaves.stream.filename.trans rep.filename
  sectorSize := leaves.stream.sectorSize.trans rep.sectorSize
  sectors := by rw [leaves.stream.sectors]; exact rep.sectors
  others := fun other ne => (leaves.others other (by rwa [rep.filename])).trans (rep.others other ne)
  whole := ⟨whole,leaves.holds,length,beyond,values⟩

theorem readRepresents (rep : Represents name size count before rest c fs a) (some_ : 0 < size) (bound : size < 2^31)
    {s : Nat} (inside : s < count) :
    ∃ c' fs', c.readSectors fs s 1 = (some (a s),c',fs') ∧ Represents name size count before rest c' fs' a := by
  obtain ⟨whole,holds,length,beyond,values⟩ := rep.whole
  have one : c.sectorSize * 1 = size := by rw [Nat.mul_one,rep.sectorSize]
  have start : c.sectorSize * s = s * size := by rw [rep.sectorSize,Nat.mul_comm]
  have within : s + 1 ≤ c.sectors := Nat.le_trans inside rep.sectors
  obtain ⟨c',fs',ran,leaves⟩ := readSectorsLeaves holds (by rwa [one]) (by rwa [one])
    within (by rw [one,start]; exact (blockFits inside).trans length)
  rw [one,start] at ran
  refine ⟨c',fs',?_,leavesRepresents rep leaves length beyond values⟩
  rw [ran,← values s inside]
  rfl

theorem writeRepresents (rep : Represents name size count before rest c fs a) (some_ : 0 < size) (bound : size < 2^31)
    {s : Nat} (inside : s < count) {buf : Bytes} (full : size ≤ buf.length) :
    ∃ c' fs', c.writeSectors fs buf s 1 = (true,c',fs') ∧
      Represents name size count before rest c' fs' (Function.update a s (buf.take size)) := by
  obtain ⟨whole,holds,length,beyond,values⟩ := rep.whole
  have one : c.sectorSize * 1 = size := by rw [Nat.mul_one,rep.sectorSize]
  have start : c.sectorSize * s = s * size := by rw [rep.sectorSize,Nat.mul_comm]
  have within : s + 1 ≤ c.sectors := Nat.le_trans inside rep.sectors
  obtain ⟨c',fs',ran,leaves⟩ := writeSectorsLeaves holds (by rwa [one]) (by rwa [one])
    within buf
  rw [one,start] at leaves
  have data : (buf.take size).length = size := List.length_take_of_le full
  have fits := blockFits (n := size) inside
  have room : s * size + (buf.take size).length ≤ whole.length := by rw [data]; exact fits.trans length
  have same : (overwrite 0 whole (s * size) (buf.take size)).length = whole.length := overwriteLength room
  refine ⟨c',fs',ran,leavesRepresents rep leaves (by rwa [same]) ?_ fun k hk => ?_⟩
  · rw [← beyond]
    exact dropOfSlices same (sliceOverwriteOther room (.inr (by rw [data]; exact fits)))
  · rw [blockOverwrite length inside data k,Function.update_apply]
    split
    · rfl
    · exact values k hk

theorem flushRepresents (rep : Represents name size count before rest c fs a) :
    ∃ c' fs', c.flush fs = (true,c',fs') ∧ fs' c'.filename = some (image count a ++ rest) ∧
      Represents name size count before rest c' fs' a := by
  obtain ⟨whole,holds,length,beyond,values⟩ := rep.whole
  obtain ⟨c',fs',ran,leaves,stored⟩ := flushLeaves holds
  refine ⟨c',fs',ran,?_,leavesRepresents rep leaves length beyond values⟩
  have front : image count a = whole.take (count * size) := by
    refine imageOfBlocks (List.length_take_of_le length) fun s inside => ?_
    rw [← values s inside,block,block,slice,slice,List.drop_take,List.take_take,min_eq_left]
    have fits := blockFits (n := size) inside
    exact Nat.le_sub_of_add_le (by rwa [Nat.add_comm])
  rw [leaves.stream.filename,stored,front,← beyond,List.take_append_drop]

end LinuxCache

namespace Cache

def path : Cache → String
  | .tracks c => c.secPath
  | .stream c => c.filename

/- The cache together with the files, driven by the operations of the array. -/
def step : Cache × FileSystem → Op → Reply × Cache × FileSystem
  | (c,fs), .read s =>
    let (data,c,fs) := c.readSectors fs s 1
    (.data data,c,fs)
  | (c,fs), .write s buf =>
    let (ok,c,fs) := c.writeSectors fs buf s 1
    (.written ok,c,fs)
  | (c,fs), .flush =>
    let (ok,c,fs) := c.flush fs
    (.flushed ok (fs c.path),c,fs)

inductive Represents (name : String) (size count : Nat) (before : FileSystem) (rest : Bytes) :
    Cache × FileSystem → Sectors → Prop where
  | tracks {shift : Nat} {c : DiskCache} {fs : FileSystem} {a : Sectors} (power : size = 2^shift)
      (rep : DiskCache.Represents name shift count before rest (c,fs) a) : Represents name size count before rest (.tracks c,fs) a
  | stream {c : LinuxCache} {fs : FileSystem} {a : Sectors} (some_ : 0 < size) (bound : size < 2^31)
      (rep : LinuxCache.Represents name size count before rest c fs a) : Represents name size count before rest (.stream c,fs) a

variable {name : String} {size count : Nat} {before : FileSystem} {rest : Bytes}

theorem stepTracks (c : DiskCache) (fs : FileSystem) (op : Op) :
    step (.tracks c,fs) op = ((DiskCache.step (c,fs) op).1,.tracks (DiskCache.step (c,fs) op).2.1,(DiskCache.step (c,fs) op).2.2) := by
  cases op <;> rfl

theorem stepRepresents (s : Cache × FileSystem) (a : Sectors) (op : Op) (rep : Represents name size count before rest s a)
    (valid : op.Valid size count) :
    (step s op).1 = (stepBefore size count rest a op).1 ∧
      Represents name size count before rest (step s op).2 (stepBefore size count rest a op).2 := by
  cases rep with
  | tracks power rep =>
    subst power
    obtain ⟨same,next⟩ := DiskCache.stepRepresents _ a op rep valid
    rw [stepTracks]
    exact ⟨same,.tracks rfl next⟩
  | stream some_ bound rep =>
    cases op with
    | read s =>
      obtain ⟨c',fs',ran,next⟩ := LinuxCache.readRepresents rep some_ bound valid
      simp only [step,readSectors,ran]
      exact ⟨rfl,.stream some_ bound next⟩
    | write s buf =>
      obtain ⟨c',fs',ran,next⟩ := LinuxCache.writeRepresents rep some_ bound valid.1 valid.2
      simp only [step,writeSectors,ran]
      exact ⟨rfl,.stream some_ bound next⟩
    | flush =>
      obtain ⟨c',fs',ran,stored,next⟩ := LinuxCache.flushRepresents rep
      simp only [step,flush,path,ran,stored]
      exact ⟨rfl,.stream some_ bound next⟩

end Cache
end Scsi2Pi
