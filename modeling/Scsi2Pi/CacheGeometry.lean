import Scsi2Pi.Cache

/-! What no operation of a cache changes: the sector size and the number of sectors
it has been set up with. The files that it writes never get shorter. -/
namespace Scsi2Pi
open Slices

/- No file disappears or gets shorter. -/
def FileSystem.Grows (fs fs' : FileSystem) : Prop :=
  ∀ path file, fs path = some file → ∃ file', fs' path = some file' ∧ file.length ≤ file'.length

namespace FileSystem

theorem Grows.refl (fs : FileSystem) : Grows fs fs := fun _ file here => ⟨file,here,le_rfl⟩

theorem Grows.trans {fs fs' fs'' : FileSystem} (h : Grows fs fs') (h' : Grows fs' fs'') : Grows fs fs'' := by
  intro path file here
  obtain ⟨file',here',longer⟩ := h path file here
  obtain ⟨file'',here'',longer'⟩ := h' path file' here'
  exact ⟨file'',here'',longer.trans longer'⟩

theorem updateGrows {fs : FileSystem} {path : String} {file data : Bytes} (here : fs path = some file)
    (longer : file.length ≤ data.length) : Grows fs (Function.update fs path (some data)) := by
  intro other old there
  by_cases same : other = path
  · subst same
    cases here.symm.trans there
    exact ⟨data,Function.update_self ..,longer⟩
  · exact ⟨old,by rw [Function.update_of_ne same,there],le_rfl⟩

theorem writeAtGrows {fs fs' : FileSystem} {path : String} {start : Nat} {data : Bytes}
    (ran : fs.writeAt path start data = some fs') : Grows fs fs' := by
  unfold writeAt at ran
  cases here : fs path with
  | none =>
    rw [here] at ran
    cases ran
  | some file =>
    rw [here] at ran
    cases Option.some.inj ran
    refine updateGrows here ?_
    unfold overwrite
    simp only [List.length_append,List.length_take,List.length_replicate,List.length_drop]
    omega

end FileSystem

namespace DiskTrack
open FileSystem

variable {t t' : DiskTrack} {fs fs' : FileSystem} {path : String}

theorem saveRangesGrows (fuel i : Nat) (ran : t.saveRanges path fuel i fs = some fs') : Grows fs fs' := by
  induction fuel generalizing i fs with
  | zero =>
    cases Option.some.inj ran
    exact .refl _
  | succ fuel ih =>
    unfold saveRanges at ran
    split at ran
    · split at ran
      · obtain ⟨middle,written,rest⟩ := Option.bind_eq_some_iff.mp ran
        exact (writeAtGrows written).trans (ih _ rest)
      · exact ih _ ran
    · cases Option.some.inj ran
      exact .refl _

theorem saveGrows (ran : t.save fs path = some (t',fs')) : Grows fs fs' := by
  unfold save at ran
  split at ran
  · cases Option.some.inj ran
    exact .refl _
  · obtain ⟨middle,saved,rest⟩ := Option.bind_eq_some_iff.mp ran
    cases Option.some.inj rest
    exact saveRangesGrows _ _ saved

end DiskTrack

namespace DiskCache
open FileSystem

/- How an operation may change a track cache and the files. -/
structure Follows (c : DiskCache) (fs : FileSystem) (c' : DiskCache) (fs' : FileSystem) : Prop where
  shiftCount : c'.shiftCount = c.shiftCount
  blocks : c'.blocks = c.blocks
  secPath : c'.secPath = c.secPath
  files : FileSystem.Grows fs fs'

variable {c c' c'' : DiskCache} {fs fs' fs'' : FileSystem}

theorem Follows.refl (c : DiskCache) (fs : FileSystem) : Follows c fs c fs := ⟨rfl,rfl,rfl,.refl fs⟩

theorem Follows.trans (h : Follows c fs c' fs') (h' : Follows c' fs' c'' fs'') : Follows c fs c'' fs'' :=
  ⟨h'.shiftCount.trans h.shiftCount,h'.blocks.trans h.blocks,h'.secPath.trans h.secPath,h.files.trans h'.files⟩

theorem loadFollows {index : Fin cacheMax} {track : Nat} {old : Option DiskTrack}
    (ran : c.load fs index track old = some c') : Follows c fs c' fs := by
  unfold load at ran
  dsimp only at ran
  generalize (if 0x100 < int32 (c.blocks - int32 (track * 256)) then 0x100
    else int32 (c.blocks - int32 (track * 256)) : Int) = sectors at ran
  split at ran
  · cases ran
  · obtain ⟨t,_,rest⟩ := Option.bind_eq_some_iff.mp ran
    cases Option.some.inj rest
    exact ⟨rfl,rfl,rfl,.refl fs⟩

theorem setSerialFollows (c : DiskCache) (fs : FileSystem) (i : Fin cacheMax) : Follows c fs (c.setSerial i) fs :=
  ⟨rfl,rfl,rfl,.refl fs⟩

theorem setDisktrkFollows (c : DiskCache) (i : Fin cacheMax) (t : Option DiskTrack) (files : Grows fs fs') :
    Follows c fs (c.setDisktrk i t) fs' :=
  ⟨rfl,rfl,rfl,files⟩

theorem assignFollows (c : DiskCache) (fs : FileSystem) (track : Nat) :
    Follows c fs (c.assign fs track).2.1 (c.assign fs track).2.2 := by
  unfold assign
  cases SlotTable.search DiskTrack.trackNumber c.disktrks track with
  | some i => exact setSerialFollows c fs i
  | none =>
    cases SlotTable.free c.disktrks with
    | some i =>
      dsimp only
      cases loaded : c.load fs i track none with
      | some c' => exact (loadFollows loaded).trans (setSerialFollows c' fs i)
      | none => exact .refl c fs
    | none =>
      dsimp only
      generalize c.youngest = i
      cases saved : (c.disktrks i).bind fun t => t.save fs c.secPath with
      | none => exact .refl c fs
      | some result =>
        obtain ⟨t,fs'⟩ := result
        obtain ⟨_,_,saved⟩ := Option.bind_eq_some_iff.mp saved
        have emptied := setDisktrkFollows c i none (DiskTrack.saveGrows saved)
        dsimp only
        cases loaded : (c.setDisktrk i none).load fs' i track (some t) with
        | some c' => exact (emptied.trans (loadFollows loaded)).trans (setSerialFollows c' fs' i)
        | none => exact emptied

theorem updateSerialFollows (c : DiskCache) (fs : FileSystem) : Follows c fs c.updateSerial fs := by
  unfold updateSerial
  dsimp only
  split <;> exact ⟨rfl,rfl,rfl,.refl fs⟩

theorem getTrackFollows (c : DiskCache) (fs : FileSystem) (block : Nat) :
    Follows c fs (c.getTrack fs block).2.1 (c.getTrack fs block).2.2 :=
  (updateSerialFollows c fs).trans (assignFollows _ fs _)

theorem readSectorsFollows (c : DiskCache) (fs : FileSystem) (sector count : Nat) :
    Follows c fs (c.readSectors fs sector count).2.1 (c.readSectors fs sector count).2.2 := by
  unfold readSectors
  split
  · exact .refl c fs
  · exact getTrackFollows c fs _

theorem writeSectorsFollows (c : DiskCache) (fs : FileSystem) (buf : Bytes) (sector count : Nat) :
    Follows c fs (c.writeSectors fs buf sector count).2.1 (c.writeSectors fs buf sector count).2.2 := by
  have track := getTrackFollows c fs (uint32 sector)
  unfold writeSectors
  split
  · exact .refl c fs
  · split
    next slot middle files ran =>
    rw [ran] at track
    split
    · exact track
    · split
      · exact track
      · exact track.trans (setDisktrkFollows _ _ _ (.refl _))

theorem flushSlotsFollows (slots : List (Fin cacheMax)) (c : DiskCache) (fs : FileSystem) :
    Follows c fs (flushSlots slots c fs).2.1 (flushSlots slots c fs).2.2 := by
  induction slots generalizing c fs with
  | nil => exact .refl c fs
  | cons i rest ih =>
    unfold flushSlots
    split
    · exact ih c fs
    · split
      · exact .refl c fs
      · next t fs' saved => exact (setDisktrkFollows c i (some t) (DiskTrack.saveGrows saved)).trans (ih _ fs')

theorem flushFollows (c : DiskCache) (fs : FileSystem) : Follows c fs (c.flush fs).2.1 (c.flush fs).2.2 :=
  flushSlotsFollows _ c fs

end DiskCache

namespace LinuxCache
open FileSystem

/- How an operation may change a stream and the files. -/
structure Follows (c : LinuxCache) (fs : FileSystem) (c' : LinuxCache) (fs' : FileSystem) : Prop where
  sectorSize : c'.sectorSize = c.sectorSize
  sectors : c'.sectors = c.sectors
  filename : c'.filename = c.filename
  files : FileSystem.Grows fs fs'

variable {c c' c'' : LinuxCache} {fs fs' fs'' : FileSystem}

theorem Follows.refl (c : LinuxCache) (fs : FileSystem) : Follows c fs c fs := ⟨rfl,rfl,rfl,.refl fs⟩

theorem Follows.trans (h : Follows c fs c' fs') (h' : Follows c' fs' c'' fs'') : Follows c fs c'' fs'' :=
  ⟨h'.sectorSize.trans h.sectorSize,h'.sectors.trans h.sectors,h'.filename.trans h.filename,h.files.trans h'.files⟩

theorem syncFollows (c : LinuxCache) (fs : FileSystem) : Follows c fs (c.sync fs).2.1 (c.sync fs).2.2 := by
  unfold sync
  split
  · exact .refl c fs
  · split
    · exact ⟨rfl,rfl,rfl,.refl fs⟩
    · next written => exact ⟨rfl,rfl,rfl,writeAtGrows written⟩

theorem pendingFollows (c : LinuxCache) (fs : FileSystem) (pending : Option (Nat × Bytes)) :
    Follows c fs { c with pending } fs :=
  ⟨rfl,rfl,rfl,.refl fs⟩

theorem readFollows (c : LinuxCache) (fs : FileSystem) (start : Nat) (length : Int) :
    Follows c fs (c.read fs start length).2.1 (c.read fs start length).2.2 := by
  have synced := syncFollows c fs
  unfold read
  split
  next ran =>
  rw [ran] at synced
  split <;> exact synced

theorem writeFollows (c : LinuxCache) (fs : FileSystem) (buf : Bytes) (start : Nat) (length : Int) :
    Follows c fs (c.write fs buf start length).2.1 (c.write fs buf start length).2.2 := by
  have synced := syncFollows c fs
  unfold write
  generalize c.sync fs = ran at synced ⊢
  obtain ⟨ok,c',fs'⟩ := ran
  dsimp only at synced ⊢
  split
  · exact synced
  · have noted := synced.trans (pendingFollows c' fs' (some (c'.sectorSize*start,buf.take length.toNat)))
    split
    · exact noted.trans (syncFollows _ fs')
    · exact noted

theorem readSectorsFollows (c : LinuxCache) (fs : FileSystem) (start count : Nat) :
    Follows c fs (c.readSectors fs start count).2.1 (c.readSectors fs start count).2.2 := by
  unfold readSectors
  split
  · exact .refl c fs
  · exact readFollows c fs _ _

theorem writeSectorsFollows (c : LinuxCache) (fs : FileSystem) (buf : Bytes) (start count : Nat) :
    Follows c fs (c.writeSectors fs buf start count).2.1 (c.writeSectors fs buf start count).2.2 := by
  unfold writeSectors
  split
  · exact .refl c fs
  · exact writeFollows c fs _ _ _

theorem readLongFollows (c : LinuxCache) (fs : FileSystem) (start : Nat) (length : Int) :
    Follows c fs (c.readLong fs start length).2.1 (c.readLong fs start length).2.2 := by
  unfold readLong
  split
  · exact .refl c fs
  · exact readFollows c fs _ _

theorem writeLongFollows (c : LinuxCache) (fs : FileSystem) (buf : Bytes) (start : Nat) (length : Int) :
    Follows c fs (c.writeLong fs buf start length).2.1 (c.writeLong fs buf start length).2.2 := by
  unfold writeLong
  split
  · exact .refl c fs
  · exact writeFollows c fs _ _ _

end LinuxCache

namespace Cache
open FileSystem

/- The geometry that the constructor of a cache gets. -/
def SetUpWith (c : Cache) (size blocks : Nat) : Prop :=
  match c with
  | .tracks c => c.shiftCount = DiskCache.findShift size 23 8 ∧ c.blocks = int32 blocks
  | .stream c => c.sectorSize = size ∧ c.sectors = blocks

/- An operation keeps the geometry, and the files grow. -/
def Follows (c : Cache) (fs : FileSystem) (c' : Cache) (fs' : FileSystem) : Prop :=
  (∀ size blocks, c.SetUpWith size blocks → c'.SetUpWith size blocks) ∧ Grows fs fs'

theorem tracksFollow {c c' : DiskCache} {fs fs' : FileSystem} (h : c.Follows fs c' fs') :
    Follows (.tracks c) fs (.tracks c') fs' :=
  ⟨fun _ _ same => ⟨h.shiftCount.trans same.1,h.blocks.trans same.2⟩,h.files⟩

theorem streamFollows {c c' : LinuxCache} {fs fs' : FileSystem} (h : c.Follows fs c' fs') :
    Follows (.stream c) fs (.stream c') fs' :=
  ⟨fun _ _ same => ⟨h.sectorSize.trans same.1,h.sectors.trans same.2⟩,h.files⟩

variable (c : Cache) (fs : FileSystem)

theorem readSectorsFollows (start count : Nat) :
    Follows c fs (c.readSectors fs start count).2.1 (c.readSectors fs start count).2.2 := by
  cases c with
  | tracks c => exact tracksFollow (c.readSectorsFollows fs start count)
  | stream c => exact streamFollows (c.readSectorsFollows fs start count)

theorem writeSectorsFollows (buf : Bytes) (start count : Nat) :
    Follows c fs (c.writeSectors fs buf start count).2.1 (c.writeSectors fs buf start count).2.2 := by
  cases c with
  | tracks c => exact tracksFollow (c.writeSectorsFollows fs buf start count)
  | stream c => exact streamFollows (c.writeSectorsFollows fs buf start count)

theorem flushFollows : Follows c fs (c.flush fs).2.1 (c.flush fs).2.2 := by
  cases c with
  | tracks c => exact tracksFollow (c.flushFollows fs)
  | stream c => exact streamFollows (c.syncFollows fs)

theorem dropGrows : Grows fs (c.drop fs) := by
  cases c with
  | tracks c => exact .refl fs
  | stream c => exact (c.syncFollows fs).files

end Cache
end Scsi2Pi
