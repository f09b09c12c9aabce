import Scsi2Pi.LinuxCache
import Scsi2Pi.SectorArray

/-! The stream cache and the image file: what the stream still holds lies on top of the
file. With it the file is an array of sectors that reads and writes of any number of
sectors deal with. -/
namespace Scsi2Pi.LinuxCache
open Slices

/- The file after a flush. -/
def contents (c : LinuxCache) (file : Bytes) : Bytes :=
  match c.pending with
  | none => file
  | some (start,data) => overwrite 0 file start data

def Holds (c : LinuxCache) (fs : FileSystem) (whole : Bytes) : Prop :=
  ∃ file, fs c.filename = some file ∧ c.contents file = whole

/- The geometry that no operation changes. -/
structure SameStream (c c' : LinuxCache) : Prop where
  filename : c'.filename = c.filename
  sectorSize : c'.sectorSize = c.sectorSize
  sectors : c'.sectors = c.sectors

structure Leaves (c : LinuxCache) (fs : FileSystem) (c' : LinuxCache) (fs' : FileSystem) (whole : Bytes) : Prop where
  stream : SameStream c c'
  others : ∀ other ≠ c.filename, fs' other = fs other
  holds : c'.Holds fs' whole

variable {c : LinuxCache} {fs : FileSystem} {whole : Bytes}

theorem syncHolds (holds : c.Holds fs whole) :
    c.sync fs = (true,{ c with pending := none },Function.update fs c.filename (some whole)) := by
  obtain ⟨file,here,same⟩ := holds
  obtain ⟨filename,sectorSize,sectors,writeThrough,pending⟩ := c
  change fs filename = some file at here
  cases pending with
  | none =>
    have unchanged : Function.update fs filename (some file) = fs := by
      rw [← here]
      exact Function.update_eq_self filename fs
    cases same
    change (true,_,fs) = (true,_,Function.update fs filename (some file))
    rw [unchanged]
  | some p =>
    obtain ⟨start,data⟩ := p
    cases same
    simp only [sync,FileSystem.writeAtFile here start data]
    rfl

theorem storedLeaves (others : FileSystem) :
    Leaves c others { c with pending := none } (Function.update others c.filename (some whole)) whole where
  stream := ⟨rfl,rfl,rfl⟩
  others := fun _ ne => Function.update_of_ne ne _ _
  holds := ⟨whole,Function.update_self _ _ _,rfl⟩

theorem flushLeaves (holds : c.Holds fs whole) :
    ∃ c' fs', c.flush fs = (true,c',fs') ∧ Leaves c fs c' fs' whole ∧ fs' c.filename = some whole :=
  ⟨_,_,syncHolds holds,storedLeaves fs,Function.update_self _ _ _⟩

theorem readLeaves (holds : c.Holds fs whole) {start length : Nat} (some_ : 0 < length)
    (within : c.sectorSize*start + length ≤ whole.length) :
    ∃ c' fs', c.read fs start length = (some (slice whole (c.sectorSize*start) length),c',fs') ∧ Leaves c fs c' fs' whole := by
  have after : Function.update fs c.filename (some whole) c.filename = some whole := Function.update_self _ _ _
  refine ⟨_,_,?_,storedLeaves fs⟩
  simp only [read,syncHolds holds]
  rw [if_neg (by simp; omega),Int.toNat_natCast,FileSystem.readAtFile after within]

theorem writeLeaves (holds : c.Holds fs whole) {start length : Nat} (some_ : 0 < length) (buf : Bytes) :
    ∃ c' fs', c.write fs buf start length = (true,c',fs') ∧
      Leaves c fs c' fs' (overwrite 0 whole (c.sectorSize*start) (buf.take length)) := by
  let held : LinuxCache := { c with pending := some (c.sectorSize*start,buf.take length) }
  let synced := Function.update fs c.filename (some whole)
  have others : ∀ other ≠ c.filename, synced other = fs other := fun other ne => Function.update_of_ne ne _ _
  have written : held.Holds synced (overwrite 0 whole (c.sectorSize*start) (buf.take length)) :=
    ⟨whole,Function.update_self _ _ _,rfl⟩
  have ran : c.write fs buf start length = if c.writeThrough then held.flush synced else (true,held,synced) := by
    simp only [write,syncHolds holds]
    rw [if_neg (by simp; omega),Int.toNat_natCast]
  rw [ran]
  cases c.writeThrough with
  | false => exact ⟨held,synced,rfl,⟨rfl,rfl,rfl⟩,others,written⟩
  | true =>
    obtain ⟨c',fs',flushed,leaves,_⟩ := flushLeaves written
    refine ⟨c',fs',flushed,⟨leaves.stream.filename,leaves.stream.sectorSize,leaves.stream.sectors⟩,?_,leaves.holds⟩
    exact fun other ne => (leaves.others other ne).trans (others other ne)

theorem bytesFit {count : Nat} (bound : c.sectorSize * count < 2^31) : c.bytes count = (c.sectorSize * count : Nat) := by
  unfold bytes
  exact int32Fits (by omega) (by omega)

theorem readSectorsLeaves (holds : c.Holds fs whole) {start count : Nat} (some_ : 0 < c.sectorSize * count)
    (bound : c.sectorSize * count < 2^31) (inside : start + count ≤ c.sectors)
    (within : c.sectorSize*start + c.sectorSize*count ≤ whole.length) :
    ∃ c' fs', c.readSectors fs start count = (some (slice whole (c.sectorSize*start) (c.sectorSize*count)),c',fs') ∧
      Leaves c fs c' fs' whole := by
  unfold readSectors
  rw [if_neg (by omega),bytesFit bound]
  exact readLeaves holds some_ within

theorem writeSectorsLeaves (holds : c.Holds fs whole) {start count : Nat} (some_ : 0 < c.sectorSize * count)
    (bound : c.sectorSize * count < 2^31) (inside : start + count ≤ c.sectors) (buf : Bytes) :
    ∃ c' fs', c.writeSectors fs buf start count = (true,c',fs') ∧
      Leaves c fs c' fs' (overwrite 0 whole (c.sectorSize*start) (buf.take (c.sectorSize*count))) := by
  unfold writeSectors
  rw [if_neg (by omega),bytesFit bound]
  exact writeLeaves holds some_ buf

end Scsi2Pi.LinuxCache
