import Scsi2Pi.CacheRefinement

/-! Consecutive sectors: what a transfer of a disk reads from its cache and writes to it,
whether it deals with one sector or with all of them at once. -/
namespace Scsi2Pi
open Slices SectorArray

namespace SectorArray

def span (a : Sectors) (start count : Nat) : Bytes := (List.range count).flatMap fun k => a (start + k)

def store (size : Nat) (a : Sectors) (start count : Nat) (data : Bytes) : Sectors := fun s =>
  if start ≤ s ∧ s < start + count then block size data (s - start) else a s

variable {a : Sectors} {size start count m n : Nat} {data whole : Bytes}

@[simp] theorem spanNone (a : Sectors) (start : Nat) : span a start 0 = [] := rfl

@[simp] theorem spanOne (a : Sectors) (start : Nat) : span a start 1 = a start := by simp [span]

theorem spanAppend (a : Sectors) (start m n : Nat) : span a start (m + n) = span a start m ++ span a (start + m) n := by
  simp only [span,List.range_add,List.flatMap_append,List.flatMap_map,Nat.add_assoc]

theorem spanLength (sized : ∀ s < count, (a s).length = size) (inside : start + n ≤ count) : (span a start n).length = n * size := by
  induction n with
  | zero => simp
  | succ n ih =>
    rw [spanAppend,List.length_append,ih (by omega),spanOne,sized _ (by omega),Nat.succ_mul]

theorem spanCongr {b : Sectors} (same : ∀ s < count, a s = b s) (inside : start + n ≤ count) : span a start n = span b start n := by
  induction n with
  | zero => rfl
  | succ n ih => rw [spanAppend,spanAppend,ih (by omega),spanOne,spanOne,same _ (by omega)]

/- The same bytes as one slice. -/
theorem spanSlice (size : Nat) (whole : Bytes) (start n : Nat) : span (block size whole) start n = slice whole (start * size) (n * size) := by
  induction n with
  | zero => simp [slice]
  | succ n ih =>
    have place : (start + n) * size = start * size + n * size := Nat.add_mul ..
    rw [spanAppend,ih,spanOne,block,place,Nat.succ_mul,sliceAppend]

@[simp] theorem storeNone (size : Nat) (a : Sectors) (start : Nat) (data : Bytes) : store size a start 0 data = a := by
  funext s
  rw [store,if_neg (by omega)]

theorem storeOne (size : Nat) (a : Sectors) (start : Nat) (data : Bytes) :
    store size a start 1 data = Function.update a start (data.take size) := by
  funext s
  rw [store,Function.update_apply]
  by_cases here : s = start
  · subst here
    rw [if_pos (by omega),if_pos rfl,Nat.sub_self,block,Nat.zero_mul,slice,List.drop_zero]
  · rw [if_neg (by omega),if_neg here]

theorem storeAppend (size : Nat) (a : Sectors) (start m n : Nat) (data : Bytes) :
    store size (store size a start m data) (start + m) n (data.drop (m * size)) = store size a start (m + n) data := by
  funext s
  simp only [store]
  by_cases later : start + m ≤ s ∧ s < start + m + n
  · have place : m * size + (s - (start + m)) * size = (s - start) * size := by
      rw [← Nat.add_mul]
      congr 1
      omega
    rw [if_pos later,if_pos (by omega),block,block,slice,slice,List.drop_drop,place]
  · rw [if_neg later]
    by_cases first : start ≤ s ∧ s < start + m
    · rw [if_pos first,if_pos (by omega)]
    · rw [if_neg first,if_neg (by omega)]

/- Only the first bytes are stored. -/
theorem storeTake (size : Nat) (a : Sectors) (start n : Nat) (data : Bytes) :
    store size a start n (data.take (n * size)) = store size a start n data := by
  funext s
  simp only [store]
  by_cases inside : start ≤ s ∧ s < start + n
  · have fits : (s - start) * size + size ≤ n * size := blockFits (by omega)
    have short : min size (n * size - (s - start) * size) = size := by omega
    rw [if_pos inside,if_pos inside,block,block,slice,slice,List.drop_take,List.take_take,short]
  · rw [if_neg inside,if_neg inside]

theorem storeSized (sized : ∀ s < count, (a s).length = size) (full : n * size ≤ data.length) :
    ∀ s < count, (store size a start n data s).length = size := by
  intro s inside
  rw [store]
  split
  · next here =>
    have fits : (s - start) * size + size ≤ n * size := blockFits (by omega)
    exact sliceLengthWithin (fits.trans full)
  · exact sized s inside

theorem rangeFits (inside : start + n ≤ count) : start * size + n * size ≤ count * size := by
  rw [← Nat.add_mul]
  exact Nat.mul_le_mul_right _ inside

/- In a file the sectors are overwritten. -/
theorem blockStored (length : count * size ≤ whole.length) (inside : start + n ≤ count) (full : n * size ≤ data.length) (k : Nat) :
    block size (overwrite 0 whole (start * size) (data.take (n * size))) k = store size (block size whole) start n data k := by
  have taken : (data.take (n * size)).length = n * size := List.length_take_of_le full
  have fits : start * size + n * size ≤ count * size := rangeFits inside
  have room : start * size + (data.take (n * size)).length ≤ whole.length := by rw [taken]; exact fits.trans length
  rw [store]
  by_cases here : start ≤ k ∧ k < start + n
  · have part : (k - start) * size + size ≤ n * size := blockFits (by omega)
    have place : k * size = start * size + (k - start) * size := by
      rw [← Nat.add_mul]
      congr 1
      omega
    have short : min size (n * size - (k - start) * size) = size := by omega
    rw [if_pos here,block,place,sliceOverwriteInside room (by rw [taken]; exact part),block,slice,slice,List.drop_take,List.take_take,short]
  · rw [if_neg here]
    refine sliceOverwriteOther room ?_
    rw [taken]
    by_cases before : k < start
    · exact .inl (blockFits before)
    · refine .inr ?_
      rw [← Nat.add_mul]
      exact Nat.mul_le_mul_right _ (by omega)

/- The image of the array. -/
theorem imageBlock (sized : ∀ s < count, (a s).length = size) {k : Nat} (inside : k < count) : block size (image count a) k = a k := by
  induction count with
  | zero => exact absurd inside (Nat.not_lt_zero k)
  | succ n ih =>
    have before : ∀ s < n, (a s).length = size := fun s less => sized s (Nat.lt_succ_of_lt less)
    have length := imageLength before
    have more : image (n+1) a = image n a ++ a n := by simp [image,List.range_succ]
    rw [more]
    rcases Nat.lt_succ_iff_lt_or_eq.mp inside with less | rfl
    · have fits : k * size + size ≤ (image n a).length := by
        rw [length]
        exact blockFits less
      conv_rhs => rw [← ih before less]
      rw [block,block,slice,slice,List.drop_append_of_le_length (by omega),List.take_append_of_le_length (by rw [List.length_drop]; omega)]
    · have last := sized k inside
      rw [block,← length,slice,List.drop_left,← last,List.take_length]

theorem spanImage (sized : ∀ s < count, (a s).length = size) (inside : start + n ≤ count) :
    span a start n = slice (image count a) (start * size) (n * size) := by
  rw [← spanSlice]
  exact spanCongr (fun s less => (imageBlock sized less).symm) inside

theorem storeImage (sized : ∀ s < count, (a s).length = size) (inside : start + n ≤ count) (full : n * size ≤ data.length) :
    image count (store size a start n data) = overwrite 0 (image count a) (start * size) (data.take (n * size)) := by
  have length := imageLength sized
  have taken : (data.take (n * size)).length = n * size := List.length_take_of_le full
  have fits : start * size + (data.take (n * size)).length ≤ (image count a).length := by
    rw [taken,length]
    exact rangeFits inside
  refine imageOfBlocks ((overwriteLength fits).trans length) fun s less => ?_
  rw [blockStored length.ge inside full,store,store,imageBlock sized less]

end SectorArray

namespace LinuxCache

variable {name : String} {size count n s : Nat} {before : FileSystem} {rest : Bytes} {c : LinuxCache} {fs : FileSystem} {a : Sectors}

theorem Represents.bytesOf (rep : Represents name size count before rest c fs a) (k : Nat) : c.sectorSize * k = k * size := by
  rw [rep.sectorSize,Nat.mul_comm]

theorem readSpan (rep : Represents name size count before rest c fs a) (some_ : 0 < n * size) (bound : n * size < 2^31)
    (inside : s + n ≤ count) :
    ∃ c' fs', c.readSectors fs s n = (some (span a s n),c',fs') ∧ Represents name size count before rest c' fs' a := by
  obtain ⟨whole,holds,length,beyond,values⟩ := rep.whole
  have several : c.sectorSize * n = n * size := rep.bytesOf n
  have start : c.sectorSize * s = s * size := rep.bytesOf s
  have within : s + n ≤ c.sectors := Nat.le_trans inside rep.sectors
  have fits : s * size + n * size ≤ count * size := rangeFits inside
  obtain ⟨c',fs',ran,leaves⟩ := readSectorsLeaves holds (by rwa [several]) (by rwa [several]) within
    (by rw [several,start]; exact fits.trans length)
  rw [several,start,← spanSlice,spanCongr values inside] at ran
  exact ⟨c',fs',ran,leavesRepresents rep leaves length beyond values⟩

theorem writeSpan (rep : Represents name size count before rest c fs a) (some_ : 0 < n * size) (bound : n * size < 2^31)
    (inside : s + n ≤ count) {buf : Bytes} (full : n * size ≤ buf.length) :
    ∃ c' fs', c.writeSectors fs buf s n = (true,c',fs') ∧ Represents name size count before rest c' fs' (store size a s n buf) := by
  obtain ⟨whole,holds,length,beyond,values⟩ := rep.whole
  have several : c.sectorSize * n = n * size := rep.bytesOf n
  have start : c.sectorSize * s = s * size := rep.bytesOf s
  have within : s + n ≤ c.sectors := Nat.le_trans inside rep.sectors
  obtain ⟨c',fs',ran,leaves⟩ := writeSectorsLeaves holds (by rwa [several]) (by rwa [several]) within buf
  rw [several,start] at leaves
  have fits : s * size + n * size ≤ count * size := rangeFits inside
  have data : (buf.take (n * size)).length = n * size := List.length_take_of_le full
  have room : s * size + (buf.take (n * size)).length ≤ whole.length := by rw [data]; exact fits.trans length
  have same : (overwrite 0 whole (s * size) (buf.take (n * size))).length = whole.length := overwriteLength room
  refine ⟨c',fs',ran,leavesRepresents rep leaves (by rwa [same]) ?_ fun k below => ?_⟩
  · rw [← beyond]
    exact dropOfSlices same (sliceOverwriteOther room (.inr (by rw [data]; exact fits)))
  · rw [blockStored length inside full,store,store,values k below]

/- Only the bytes of the sectors matter. -/
theorem writeTaken (rep : Represents name size count before rest c fs a) (bound : n * size < 2^31) (buf : Bytes) :
    c.writeSectors fs (buf.take (n * size)) s n = c.writeSectors fs buf s n := by
  have several : c.sectorSize * n = n * size := rep.bytesOf n
  have length : (c.bytes n).toNat = n * size := by
    rw [bytesFit (by rwa [several]),several]
    exact Int.toNat_natCast _
  unfold writeSectors write
  rw [length,List.take_take,Nat.min_self]

end LinuxCache

namespace DiskCache

variable {c : DiskCache} {fs : FileSystem} {file : Bytes} {count s : Nat}

theorem writeTaken (sound : Sound c fs file count) (inside : s < count) (buf : Bytes) :
    c.writeSectors fs (buf.take (2^c.shiftCount)) s 1 = c.writeSectors fs buf s 1 := by
  obtain ⟨i,t,c₁,fs₁,file₁,ran,here,_,moved⟩ := getTrackBlock sound inside
  have shift : t.shiftCount = c.shiftCount := (moved.sound.tracks i t here).shift.trans moved.disk.shift
  have same : t.writeSector (buf.take (2^c.shiftCount)) (s % 256) = t.writeSector buf (s % 256) := by
    unfold DiskTrack.writeSector
    rw [shift,List.take_take,Nat.min_self]
  simp only [writeSectors,ran,here,Option.bind_some,same]

end DiskCache

namespace Cache

/- Only a stream deals with several sectors in the way of one. -/
def Streams : Cache → Prop
  | .tracks _ => False
  | .stream _ => True

variable {name : String} {size count n s : Nat} {before : FileSystem} {rest : Bytes} {c : Cache} {fs : FileSystem} {a : Sectors}

theorem readSpan (rep : Represents name size count before rest (c,fs) a) (together : n = 1 ∨ c.Streams) (some_ : 0 < n * size)
    (bound : n * size < 2^31) (inside : s + n ≤ count) : ∃ c' fs', c.readSectors fs s n = (some (span a s n),c',fs') ∧
      Represents name size count before rest (c',fs') a ∧ (c.Streams → c'.Streams) := by
  cases rep with
  | @tracks _ c _ _ power rep =>
    obtain rfl := together.resolve_right id
    obtain ⟨same,next⟩ := DiskCache.stepRepresents _ _ (.read s) rep inside
    cases ran : c.readSectors fs s 1 with
    | mk data later =>
      simp only [DiskCache.step,ran,stepBefore,SectorArray.step,Reply.before,Reply.data.injEq] at same next
      refine ⟨.tracks later.1,later.2,?_,.tracks power next,id⟩
      simp only [readSectors,ran,same,spanOne]
  | stream positive small rep =>
    obtain ⟨c',fs',ran,next⟩ := LinuxCache.readSpan rep some_ bound inside
    refine ⟨.stream c',fs',?_,.stream positive small next,id⟩
    simp only [readSectors,ran]

theorem writeSpan (rep : Represents name size count before rest (c,fs) a) (together : n = 1 ∨ c.Streams) (some_ : 0 < n * size)
    (bound : n * size < 2^31) (inside : s + n ≤ count) {buf : Bytes} (full : n * size ≤ buf.length) :
    ∃ c' fs', c.writeSectors fs buf s n = (true,c',fs') ∧
      Represents name size count before rest (c',fs') (store size a s n buf) ∧ (c.Streams → c'.Streams) := by
  cases rep with
  | @tracks _ c _ _ power rep =>
    obtain rfl := together.resolve_right id
    rw [Nat.one_mul,power] at full
    obtain ⟨same,next⟩ := DiskCache.stepRepresents _ _ (.write s buf) rep ⟨inside,full⟩
    cases ran : c.writeSectors fs buf s 1 with
    | mk ok later =>
      simp only [DiskCache.step,ran,stepBefore,SectorArray.step,Reply.before,Reply.written.injEq] at same next
      refine ⟨.tracks later.1,later.2,?_,?_,id⟩
      · simp only [writeSectors,ran,same]
      · rw [storeOne,power]
        exact .tracks rfl next
  | stream positive small rep =>
    obtain ⟨c',fs',ran,next⟩ := LinuxCache.writeSpan rep some_ bound inside full
    refine ⟨.stream c',fs',?_,.stream positive small next,id⟩
    simp only [writeSectors,ran]

theorem writeTaken (rep : Represents name size count before rest (c,fs) a) (together : n = 1 ∨ c.Streams) (bound : n * size < 2^31)
    (inside : s + n ≤ count) (buf : Bytes) : c.writeSectors fs (buf.take (n * size)) s n = c.writeSectors fs buf s n := by
  cases rep with
  | @tracks _ c _ _ power rep =>
    obtain rfl := together.resolve_right id
    obtain ⟨_,shift,_,file,sound,_,_⟩ := rep
    dsimp only at shift sound
    have same := DiskCache.writeTaken (s := s) sound (by omega) buf
    rw [shift,← power] at same
    rw [Nat.one_mul]
    simp only [writeSectors,same]
  | stream positive small rep => simp only [writeSectors,LinuxCache.writeTaken rep bound buf]

theorem flushImage (rep : Represents name size count before rest (c,fs) a) : ∃ c' fs', c.flush fs = (true,c',fs') ∧
    fs' name = some (image count a ++ rest) ∧ Represents name size count before rest (c',fs') a ∧ (c.Streams → c'.Streams) := by
  cases rep with
  | @tracks _ c _ _ power rep =>
    obtain ⟨same,next⟩ := DiskCache.stepRepresents _ _ .flush rep trivial
    cases ran : c.flush fs with
    | mk ok later =>
      simp only [DiskCache.step,ran,stepBefore,SectorArray.step,Reply.before,Option.map_some,Reply.flushed.injEq] at same next
      refine ⟨.tracks later.1,later.2,?_,?_,.tracks power next,id⟩
      · simp only [flush,ran,same.1]
      · rw [← next.path]
        exact same.2
  | stream positive small rep =>
    obtain ⟨c',fs',ran,stored,next⟩ := LinuxCache.flushRepresents rep
    refine ⟨.stream c',fs',?_,?_,.stream positive small next,id⟩
    · simp only [flush,ran]
    · rw [← next.filename]
      exact stored

end Cache
end Scsi2Pi
