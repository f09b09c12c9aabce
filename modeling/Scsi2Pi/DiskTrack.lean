import Scsi2Pi.FileSystem

/-! One track of the disk cache: up to 256 sectors held in a buffer, with a
modification flag for each sector. The track is filled from the image file
once and saved range by range, where a range is a run of modified sectors. -/
namespace Scsi2Pi
open Slices

structure DiskTrack where
  trackNumber : Nat := 0
  shiftCount : Nat := 0
  sectorCount : Nat := 0
  buffer : Bytes := []
  isInitialized : Bool := false
  isModified : Bool := false
  modifiedFlags : List Bool := []
  deriving DecidableEq, Repr

namespace DiskTrack

def init (t : DiskTrack) (track size sectors : Nat) : DiskTrack :=
  { t with
    trackNumber := track
    shiftCount := size
    sectorCount := sectors
    isInitialized := false
    isModified := false }

/- Previous tracks are considered to hold 256 sectors. -/
def offset (t : DiskTrack) : Nat := t.trackNumber * 256 * 2^t.shiftCount

/- The buffer is reallocated when its length differs, and the flags are resized
and cleared, so nothing of the track that used this object before is left. -/
def load (t : DiskTrack) (fs : FileSystem) (path : String) : Option DiskTrack :=
  if t.isInitialized then some t
  else do
    let data ← fs.readAt path t.offset (t.sectorCount * 2^t.shiftCount)
    some { t with
      buffer := data
      modifiedFlags := List.replicate t.sectorCount false
      isInitialized := true
      isModified := false }

def flag (t : DiskTrack) (i : Nat) : Bool := t.modifiedFlags.getD i false

/- The number of consecutive modified sectors from sector i on. -/
def modifiedRange (t : DiskTrack) (i : Nat) : Nat :=
  (((t.modifiedFlags.take t.sectorCount).drop i).takeWhile id).length

/- The loop of Save from sector i on, the fuel bounds its iterations. -/
def saveRanges (t : DiskTrack) (path : String) : Nat → Nat → FileSystem → Option FileSystem
  | 0, _, fs => some fs
  | fuel+1, i, fs =>
    if i < t.sectorCount then
      if t.flag i then do
        let total := t.modifiedRange i
        let fs ← fs.writeAt path (t.offset + i * 2^t.shiftCount)
          (slice t.buffer (i * 2^t.shiftCount) (total * 2^t.shiftCount))
        saveRanges t path fuel (i + total) fs
      else saveRanges t path fuel (i+1) fs
    else some fs

def save (t : DiskTrack) (fs : FileSystem) (path : String) : Option (DiskTrack × FileSystem) :=
  if !t.isInitialized || !t.isModified then some (t,fs)
  else do
    let fs ← t.saveRanges path t.sectorCount 0 fs
    some ({ t with modifiedFlags := t.modifiedFlags.map fun _ => false, isModified := false },fs)

def readSector (t : DiskTrack) (sector : Nat) : Option Bytes :=
  if !t.isInitialized || decide (t.sectorCount ≤ sector) then none
  else some (slice t.buffer (sector * 2^t.shiftCount) (2^t.shiftCount))

/- Nothing is marked when the data equal those already in the buffer. -/
def writeSector (t : DiskTrack) (buf : Bytes) (sector : Nat) : Option DiskTrack :=
  if !t.isInitialized || decide (t.sectorCount ≤ sector) then none
  else
    let data := buf.take (2^t.shiftCount)
    if data ≠ slice t.buffer (sector * 2^t.shiftCount) (2^t.shiftCount) then
      some { t with
        buffer := overwrite 0 t.buffer (sector * 2^t.shiftCount) data
        modifiedFlags := t.modifiedFlags.set sector true
        isModified := true }
    else some t

/-! What the three operations do to the sectors of a track. -/

def sector (t : DiskTrack) (i : Nat) : Bytes := block (2^t.shiftCount) t.buffer i

/- A track that Load has filled and WriteSector may have changed since. -/
structure Filled (t : DiskTrack) : Prop where
  initialized : t.isInitialized = true
  bufferLength : t.buffer.length = t.sectorCount * 2^t.shiftCount
  flagsLength : t.modifiedFlags.length = t.sectorCount
  unmodified : t.isModified = false → ∀ i, t.flag i = false

theorem loadFilled {t t' : DiskTrack} {fs : FileSystem} {path : String} {file : Bytes}
    (fresh : t.isInitialized = false) (here : fs path = some file)
    (within : t.offset + t.sectorCount * 2^t.shiftCount ≤ file.length)
    (ok : t.load fs path = some t') :
    t'.Filled ∧ t'.trackNumber = t.trackNumber ∧ t'.shiftCount = t.shiftCount ∧
      t'.sectorCount = t.sectorCount ∧ (∀ i, t'.flag i = false) ∧
      ∀ i < t.sectorCount, t'.sector i = slice file (t.offset + i * 2^t.shiftCount) (2^t.shiftCount) := by
  simp only [load,fresh,Bool.false_eq_true,if_false,FileSystem.readAtFile here within,bind,Option.bind] at ok
  cases Option.some.inj ok
  have cleared : ∀ i, (List.replicate t.sectorCount false).getD i false = false := by
    intro i
    by_cases hi : i < t.sectorCount <;> simp [List.getD,hi]
  refine ⟨⟨rfl,?_,by simp,fun _ => cleared⟩,rfl,rfl,rfl,cleared,?_⟩
  · exact sliceLengthWithin within
  · intro i hi
    exact sliceSlice file _ _ _ _ (blockFits hi)

theorem loadSucceeds {t : DiskTrack} {fs : FileSystem} {path : String} {file : Bytes}
    (here : fs path = some file)
    (within : t.offset + t.sectorCount * 2^t.shiftCount ≤ file.length) :
    ∃ t', t.load fs path = some t' := by
  unfold load
  split
  · exact ⟨t,rfl⟩
  · rw [FileSystem.readAtFile here within]
    exact ⟨_,rfl⟩

theorem readFilled {t : DiskTrack} (filled : t.Filled) {i : Nat} (h : i < t.sectorCount) :
    t.readSector i = some (t.sector i) := by
  simp [readSector,filled.initialized,Nat.not_le.mpr h,sector,block]

/- The only two results of WriteSector: the sector changes and is marked, or it
already held the data. -/
theorem writeFilled {t : DiskTrack} (filled : t.Filled) {i : Nat} (h : i < t.sectorCount)
    {buf : Bytes} (full : 2^t.shiftCount ≤ buf.length) :
    ∃ t', t.writeSector buf i = some t' ∧ t'.Filled ∧ t'.trackNumber = t.trackNumber ∧
      t'.shiftCount = t.shiftCount ∧ t'.sectorCount = t.sectorCount ∧
      (∀ j < t.sectorCount, t'.sector j = if j = i then buf.take (2^t.shiftCount) else t.sector j) ∧
      ((∀ j, t'.flag j = if j = i then true else t.flag j) ∨
        (t' = t ∧ t.sector i = buf.take (2^t.shiftCount))) := by
  have dataLength : (buf.take (2^t.shiftCount)).length = 2^t.shiftCount := by
    rw [List.length_take]
    omega
  have fits : i * 2^t.shiftCount + (buf.take (2^t.shiftCount)).length ≤ t.buffer.length := by
    rw [dataLength,filled.bufferLength]
    exact blockFits h
  by_cases same : buf.take (2^t.shiftCount) = slice t.buffer (i * 2^t.shiftCount) (2^t.shiftCount)
  · refine ⟨t,by simp [writeSector,filled.initialized,Nat.not_le.mpr h,same],filled,rfl,rfl,rfl,?_,
      .inr ⟨rfl,same.symm⟩⟩
    intro j _
    split
    · next equal => rw [equal]; exact same.symm
    · rfl
  · have changed : t.writeSector buf i = some { t with
        buffer := overwrite 0 t.buffer (i * 2^t.shiftCount) (buf.take (2^t.shiftCount))
        modifiedFlags := t.modifiedFlags.set i true
        isModified := true } := by
      simp [writeSector,filled.initialized,Nat.not_le.mpr h,same]
    refine ⟨_,changed,⟨filled.initialized,?_,?_,fun clean => by simp at clean⟩,rfl,rfl,rfl,?_,.inl ?_⟩
    · exact (overwriteLength fits).trans filled.bufferLength
    · simpa using filled.flagsLength
    · intro j _
      exact blockOverwrite (Nat.le_of_eq filled.bufferLength.symm) h dataLength j
    · intro j
      by_cases equal : j = i
      · simp [flag,List.getD,equal,filled.flagsLength,h]
      · simp [flag,List.getD,equal,Ne.symm equal]

theorem flagAt {t : DiskTrack} {i : Nat} (h : i < t.modifiedFlags.length) :
    t.flag i = t.modifiedFlags[i] := by
  simp [flag,List.getD,h]

theorem flagInside {t : DiskTrack} {i : Nat} (marked : t.flag i = true) : i < t.modifiedFlags.length := by
  by_contra behind
  unfold flag at marked
  rw [List.getD_eq_getElem?_getD,List.getElem?_eq_none (Nat.le_of_not_lt behind)] at marked
  cases marked

theorem modifiedRangeFlags {t : DiskTrack} {i : Nat} (h : i < t.sectorCount) (marked : t.flag i = true) :
    0 < t.modifiedRange i ∧ i + t.modifiedRange i ≤ t.sectorCount ∧
      ∀ k < t.modifiedRange i, t.flag (i+k) = true := by
  have listed := flagInside marked
  have length : (t.modifiedFlags.take t.sectorCount).length = min t.sectorCount t.modifiedFlags.length := List.length_take
  have inside : i < (t.modifiedFlags.take t.sectorCount).length := by omega
  simp only [modifiedRange]
  have front := List.takeWhile_prefix (l := (t.modifiedFlags.take t.sectorCount).drop i) id
  have bounded := front.length_le
  rw [List.length_drop] at bounded
  refine ⟨?_,by omega,?_⟩
  · rw [List.drop_eq_getElem_cons inside,List.getElem_take,← flagAt listed,marked]
    simp
  · intro k hk
    have at' := front.getElem hk
    have holds := List.all_eq_true.mp List.all_takeWhile _ (List.getElem_mem hk)
    rw [at',List.getElem_drop,List.getElem_take] at holds
    rw [flagAt (by omega)]
    exact holds

/- The saved ranges cover exactly the marked sectors from i on. Induction on the
fuel; one iteration handles an unmarked sector or a whole run of marked ones. -/
theorem saveRangesFile {t : DiskTrack} (filled : t.Filled) {path : String} :
    ∀ (fuel i : Nat) (fs : FileSystem) (file : Bytes), fs path = some file →
    t.offset + t.sectorCount * 2^t.shiftCount ≤ file.length → t.sectorCount ≤ i + fuel →
    ∃ file', t.saveRanges path fuel i fs = some (Function.update fs path (some file')) ∧
      file'.length = file.length ∧
      (∀ j < t.sectorCount, slice file' (t.offset + j * 2^t.shiftCount) (2^t.shiftCount) =
        if i ≤ j ∧ t.flag j = true then t.sector j
        else slice file (t.offset + j * 2^t.shiftCount) (2^t.shiftCount)) ∧
      (∀ a n, (a + n ≤ t.offset ∨ t.offset + t.sectorCount * 2^t.shiftCount ≤ a) →
        slice file' a n = slice file a n) := by
  intro fuel
  induction fuel with
  | zero =>
    intro i fs file here fits enough
    refine ⟨file,by simp [saveRanges,← here],rfl,?_,fun _ _ _ => rfl⟩
    intro j hj
    rw [if_neg (by omega)]
  | succ fuel ih =>
    intro i fs file here fits enough
    by_cases hi : i < t.sectorCount
    · cases marked : t.flag i with
      | false =>
        obtain ⟨file',run,length,inside,outside⟩ := ih (i+1) fs file here fits (by omega)
        refine ⟨file',by simpa [saveRanges,hi,marked] using run,length,?_,outside⟩
        intro j hj
        rw [inside j hj]
        by_cases same : j = i
        · simp [same,marked]
        · congr 1
          simp only [eq_iff_iff,and_congr_left_iff]
          omega
      | true =>
        obtain ⟨positive,bounded,flags⟩ := modifiedRangeFlags hi marked
        generalize htotal : t.modifiedRange i = total at positive bounded flags
        have inBuffer : i * 2^t.shiftCount + total * 2^t.shiftCount ≤ t.buffer.length := by
          rw [filled.bufferLength,← Nat.add_mul]
          exact Nat.mul_le_mul_right _ bounded
        have dataLength : (slice t.buffer (i * 2^t.shiftCount) (total * 2^t.shiftCount)).length =
            total * 2^t.shiftCount := sliceLengthWithin inBuffer
        have inFile : t.offset + i * 2^t.shiftCount +
            (slice t.buffer (i * 2^t.shiftCount) (total * 2^t.shiftCount)).length ≤ file.length := by
          rw [filled.bufferLength] at inBuffer
          omega
        obtain ⟨file',run,length,inside,outside⟩ := ih (i+total)
          (Function.update fs path (some (overwrite 0 file (t.offset + i * 2^t.shiftCount)
            (slice t.buffer (i * 2^t.shiftCount) (total * 2^t.shiftCount))))) _
          (Function.update_self ..) (by rw [overwriteLength inFile]; exact fits) (by omega)
        refine ⟨file',?_,length.trans (overwriteLength inFile),?_,?_⟩
        · rw [Function.update_idem] at run
          simpa [saveRanges,hi,marked,htotal,FileSystem.writeAtFile here] using run
        · intro j hj
          rw [inside j hj]
          by_cases before : j < i
          · rw [if_neg (by omega),if_neg (by omega)]
            exact sliceOverwriteOther inFile (.inl (by
              have := blockFits (n := 2^t.shiftCount) before; omega))
          · by_cases within : j < i + total
            · obtain ⟨k,rfl⟩ : ∃ k, j = i + k := ⟨j-i,by omega⟩
              have hk : k < total := by omega
              rw [if_neg (by omega),if_pos ⟨by omega,flags k hk⟩,Nat.add_mul,← Nat.add_assoc,
                sliceOverwriteInside inFile (by rw [dataLength]; exact blockFits hk),
                sliceSlice _ _ _ _ _ (blockFits hk),← Nat.add_mul]
              rfl
            · by_cases flagged : t.flag j = true
              · rw [if_pos ⟨by omega,flagged⟩,if_pos ⟨by omega,flagged⟩]
              · rw [if_neg (by simp [flagged]),if_neg (by simp [flagged])]
                refine sliceOverwriteOther inFile (.inr ?_)
                have behind : (i + total) * 2^t.shiftCount ≤ j * 2^t.shiftCount :=
                  Nat.mul_le_mul_right _ (by omega)
                rw [Nat.add_mul] at behind
                rw [dataLength]
                omega
        · intro a n apart
          rw [outside a n apart]
          refine sliceOverwriteOther inFile ?_
          rw [filled.bufferLength] at inBuffer
          rw [dataLength]
          omega
    · refine ⟨file,by simp [saveRanges,hi,← here],rfl,?_,fun _ _ _ => rfl⟩
      intro j hj
      rw [if_neg (by omega)]

/- After Save the file holds every sector of the track and no flag is set. -/
theorem saveFilled {t : DiskTrack} (filled : t.Filled) {fs : FileSystem} {path : String} {file : Bytes}
    (here : fs path = some file) (fits : t.offset + t.sectorCount * 2^t.shiftCount ≤ file.length) :
    ∃ t' file', t.save fs path = some (t',Function.update fs path (some file')) ∧
      t'.Filled ∧ t'.trackNumber = t.trackNumber ∧ t'.shiftCount = t.shiftCount ∧
      t'.sectorCount = t.sectorCount ∧ t'.buffer = t.buffer ∧ (∀ i, t'.flag i = false) ∧
      file'.length = file.length ∧
      (∀ j < t.sectorCount, slice file' (t.offset + j * 2^t.shiftCount) (2^t.shiftCount) =
        if t.flag j = true then t.sector j
        else slice file (t.offset + j * 2^t.shiftCount) (2^t.shiftCount)) ∧
      (∀ a n, (a + n ≤ t.offset ∨ t.offset + t.sectorCount * 2^t.shiftCount ≤ a) →
        slice file' a n = slice file a n) := by
  cases modified : t.isModified with
  | false =>
    have flags := filled.unmodified modified
    refine ⟨t,file,by simp [save,modified,← here],filled,rfl,rfl,rfl,rfl,flags,rfl,?_,fun _ _ _ => rfl⟩
    intro j _
    simp [flags j]
  | true =>
    obtain ⟨file',run,length,inside,outside⟩ :=
      saveRangesFile filled t.sectorCount 0 fs file here fits (by omega)
    have cleared : ∀ i, (t.modifiedFlags.map fun _ => false).getD i false = false := by
      intro i
      by_cases hi : i < t.modifiedFlags.length <;> simp [List.getD,hi]
    have saved : t.save fs path = some ({ t with
        modifiedFlags := t.modifiedFlags.map fun _ => false
        isModified := false },Function.update fs path (some file')) := by
      simp [save,filled.initialized,modified,run]
    refine ⟨_,file',saved,
      ⟨filled.initialized,filled.bufferLength,?_,fun _ => cleared⟩,rfl,rfl,rfl,rfl,cleared,length,?_,outside⟩
    · simpa using filled.flagsLength
    · intro j hj
      simpa using inside j hj

end DiskTrack
end Scsi2Pi
