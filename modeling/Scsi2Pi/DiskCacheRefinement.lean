import Scsi2Pi.DiskCache
import Scsi2Pi.Mealy
import Scsi2Pi.SectorArray
import Scsi2Pi.WriteBack

/-! The track cache and the image file together are a family of write-back
cells, one for each sector. Hits, loads, saves and evictions only move cells;
only WriteSectors changes a value. So the cache refines an array of sectors. -/
namespace Scsi2Pi.DiskCache
open Slices SlotTable WriteBack

@[simp] theorem setSerialDisktrks (c : DiskCache) (i : Fin cacheMax) :
    (c.setSerial i).disktrks = c.disktrks := by
  funext j
  by_cases h : j = i <;> simp [disktrks,setSerial,h]

@[simp] theorem setDisktrkDisktrks (c : DiskCache) (i : Fin cacheMax) (t : Option DiskTrack) :
    (c.setDisktrk i t).disktrks = Function.update c.disktrks i t := by
  funext j
  by_cases h : j = i <;> simp [disktrks,setDisktrk,h]

@[simp] theorem updateSerialDisktrks (c : DiskCache) : c.updateSerial.disktrks = c.disktrks := by
  simp only [updateSerial]
  split <;> rfl

theorem setDisktrkTwice (c : DiskCache) (i : Fin cacheMax) (t u : Option DiskTrack) :
    (c.setDisktrk i t).setDisktrk i u = c.setDisktrk i u := by
  simp [setDisktrk]

def cell (c : DiskCache) (file : Bytes) (s : Nat) : Cell Bytes :=
  ⟨block (2^c.shiftCount) file s,
    (lookup DiskTrack.trackNumber c.disktrks (s/256)).map fun t => (t.sector (s%256),t.flag (s%256))⟩

/- The tracks of a device with count sectors: only the last one is short. -/
structure Held (c : DiskCache) (count : Nat) (t : DiskTrack) : Prop where
  filled : t.Filled
  shift : t.shiftCount = c.shiftCount
  starts : t.trackNumber*256 < count
  sectors : t.sectorCount = min 256 (count - t.trackNumber*256)

/- There may be a part of a sector at the end of the file. -/
structure Sound (c : DiskCache) (fs : FileSystem) (file : Bytes) (count : Nat) : Prop where
  here : fs c.secPath = some file
  length : count * 2^c.shiftCount ≤ file.length
  blocks : c.blocks = count
  bound : count < 2^31
  distinct : Distinct DiskTrack.trackNumber c.disktrks
  tracks : ∀ i t, c.disktrks i = some t → Held c count t
  coherent : ∀ s < count, (cell c file s).Coherent

/- The geometry that no operation changes. -/
structure SameDisk (c c' : DiskCache) : Prop where
  path : c'.secPath = c.secPath
  shift : c'.shiftCount = c.shiftCount
  blocks : c'.blocks = c.blocks

theorem sameDiskTrans {a b c : DiskCache} (ab : SameDisk a b) (bc : SameDisk b c) : SameDisk a c :=
  ⟨bc.path.trans ab.path,bc.shift.trans ab.shift,bc.blocks.trans ab.blocks⟩

theorem sameDiskSetDisktrk (c : DiskCache) (i : Fin cacheMax) (t : Option DiskTrack) :
    SameDisk c (c.setDisktrk i t) := ⟨rfl,rfl,rfl⟩

theorem cellCongr {c c' : DiskCache} (disk : SameDisk c c') (same : c'.disktrks = c.disktrks)
    (file : Bytes) (s : Nat) : cell c' file s = cell c file s := by
  simp only [cell,disk.shift,same]

theorem heldCongr {c c' : DiskCache} (disk : SameDisk c c') {count : Nat} {t : DiskTrack}
    (held : Held c count t) : Held c' count t :=
  ⟨held.filled,held.shift.trans disk.shift.symm,held.starts,held.sectors⟩

theorem soundCongr {c c' : DiskCache} (disk : SameDisk c c') (same : c'.disktrks = c.disktrks)
    {fs : FileSystem} {file : Bytes} {count : Nat} (sound : Sound c fs file count) :
    Sound c' fs file count where
  here := by rw [disk.path]; exact sound.here
  length := by rw [disk.shift]; exact sound.length
  blocks := by rw [disk.blocks]; exact sound.blocks
  bound := sound.bound
  distinct := by rw [same]; exact sound.distinct
  tracks := fun i t h => heldCongr disk (sound.tracks i t (by rwa [same] at h))
  coherent := fun s hs => by rw [cellCongr disk same]; exact sound.coherent s hs

/- What an operation that is not a write leaves behind. -/
structure Moved (c : DiskCache) (fs : FileSystem) (file : Bytes) (count : Nat)
    (c' : DiskCache) (fs' : FileSystem) (file' : Bytes) : Prop where
  disk : SameDisk c c'
  files : fs' = Function.update fs c.secPath (some file')
  sound : Sound c' fs' file' count
  beyond : file'.drop (count * 2^c.shiftCount) = file.drop (count * 2^c.shiftCount)
  moves : ∀ s < count, Moves (cell c file s) (cell c' file' s)

variable {c : DiskCache} {fs : FileSystem} {file : Bytes} {count : Nat}

theorem movedOfSame {c' : DiskCache} (sound : Sound c fs file count) (disk : SameDisk c c')
    (same : c'.disktrks = c.disktrks) : Moved c fs file count c' fs file :=
  ⟨disk,by simp [← sound.here],soundCongr disk same sound,rfl,fun s _ => by rw [cellCongr disk same]⟩

theorem movedTrans {c₁ c₂ : DiskCache} {fs₁ fs₂ : FileSystem} {file₁ file₂ : Bytes}
    (first : Moved c fs file count c₁ fs₁ file₁) (next : Moved c₁ fs₁ file₁ count c₂ fs₂ file₂) :
    Moved c fs file count c₂ fs₂ file₂ where
  disk := sameDiskTrans first.disk next.disk
  files := by rw [next.files,first.files,first.disk.path,Function.update_idem]
  sound := next.sound
  beyond := by
    have later := next.beyond
    rw [first.disk.shift] at later
    exact later.trans first.beyond
  moves := fun s hs => (first.moves s hs).trans (next.moves s hs)

theorem movedValue {c' : DiskCache} {fs' : FileSystem} {file' : Bytes} (sound : Sound c fs file count)
    (moved : Moved c fs file count c' fs' file') {s : Nat} (hs : s < count) :
    (cell c' file' s).value = (cell c file s).value :=
  movesValue (moved.moves s hs) (sound.coherent s hs)

/- Coherence of the new cells follows from the moves. -/
theorem movedOf {c' : DiskCache} {fs' : FileSystem} {file' : Bytes} (sound : Sound c fs file count)
    (disk : SameDisk c c') (files : fs' = Function.update fs c.secPath (some file'))
    (length : file'.length = file.length)
    (beyond : file'.drop (count * 2^c.shiftCount) = file.drop (count * 2^c.shiftCount)) (distinct : Distinct DiskTrack.trackNumber c'.disktrks)
    (tracks : ∀ i t, c'.disktrks i = some t → Held c count t)
    (moves : ∀ s < count, Moves (cell c file s) (cell c' file' s)) :
    Moved c fs file count c' fs' file' where
  disk := disk
  files := files
  sound := {
    here := by rw [files,disk.path,Function.update_self]
    length := by rw [length,disk.shift]; exact sound.length
    blocks := by rw [disk.blocks]; exact sound.blocks
    bound := sound.bound
    distinct := distinct
    tracks := fun i t h => heldCongr disk (tracks i t h)
    coherent := fun s hs => movesCoherent (moves s hs) (sound.coherent s hs) }
  beyond := beyond
  moves := moves

/-! Sectors of a held track and blocks of the file. -/

theorem heldSector {t : DiskTrack} (held : Held c count t) {s : Nat} (hs : s < count)
    (onTrack : s/256 = t.trackNumber) : s%256 < t.sectorCount := by
  rw [held.sectors]
  omega

theorem heldBlock {t : DiskTrack} (held : Held c count t) (file : Bytes) {s : Nat}
    (onTrack : s/256 = t.trackNumber) :
    slice file (t.offset + (s%256) * 2^t.shiftCount) (2^t.shiftCount) =
      block (2^c.shiftCount) file s := by
  have position : t.offset + (s%256) * 2^t.shiftCount = s * 2^t.shiftCount := by
    rw [DiskTrack.offset,← onTrack,← Nat.add_mul]
    congr 1
    omega
  rw [position,held.shift,block]

theorem heldFits (sound : Sound c fs file count) {t : DiskTrack} (held : Held c count t) :
    t.offset + t.sectorCount * 2^t.shiftCount ≤ file.length := by
  rw [DiskTrack.offset,← Nat.add_mul,held.shift]
  refine (Nat.mul_le_mul_right _ ?_).trans sound.length
  have := held.starts
  rw [held.sectors]
  omega

theorem heldApart {t : DiskTrack} (held : Held c count t) {s : Nat}
    (elsewhere : s/256 ≠ t.trackNumber) :
    s * 2^c.shiftCount + 2^c.shiftCount ≤ t.offset ∨
      t.offset + t.sectorCount * 2^t.shiftCount ≤ s * 2^c.shiftCount := by
  rw [DiskTrack.offset,held.shift,← Nat.add_mul]
  by_cases before : s < t.trackNumber*256
  · exact .inl (blockFits before)
  · refine .inr (Nat.mul_le_mul_right _ ?_)
    rw [held.sectors]
    omega

/-! Save, release and load of one slot. -/

theorem saveSlot (sound : Sound c fs file count) {i : Fin cacheMax} {t : DiskTrack}
    (here : c.disktrks i = some t) :
    ∃ t' fs' file', t.save fs c.secPath = some (t',fs') ∧ (∀ k, t'.flag k = false) ∧
      t'.trackNumber = t.trackNumber ∧
      Moved c fs file count (c.setDisktrk i (some t')) fs' file' := by
  have held := sound.tracks i t here
  obtain ⟨t',file',ran,filled,number,shift,sectors,buffer,clean,length,inside,outside⟩ :=
    DiskTrack.saveFilled held.filled sound.here (heldFits sound held)
  have sameSector : ∀ k, t'.sector k = t.sector k := by
    intro k
    simp only [DiskTrack.sector,shift,buffer]
  have distinct : Distinct DiskTrack.trackNumber (Function.update c.disktrks i (some t')) := by
    refine distinctSet sound.distinct fun j u ji hu same => ji ?_
    exact sound.distinct j i u t hu here (same.trans number)
  refine ⟨t',_,file',ran,clean,number,?_⟩
  have beyond : file'.drop (count * 2^c.shiftCount) = file.drop (count * 2^c.shiftCount) := by
    have tracks : t.offset + t.sectorCount * 2^t.shiftCount ≤ count * 2^c.shiftCount := by
      have starts := held.starts
      rw [DiskTrack.offset,← Nat.add_mul,held.shift]
      refine Nat.mul_le_mul_right _ ?_
      rw [held.sectors]
      omega
    exact dropOfSlices length (outside _ _ (.inr tracks))
  refine movedOf sound (sameDiskSetDisktrk c i _) rfl length beyond (by simpa using distinct) ?_ ?_
  · intro j u hu
    rw [setDisktrkDisktrks] at hu
    by_cases ji : j = i
    · rw [ji,Function.update_self] at hu
      cases Option.some.inj hu
      exact ⟨filled,shift.trans held.shift,by rw [number]; exact held.starts,
        by rw [sectors,number]; exact held.sectors⟩
    · rw [Function.update_of_ne ji] at hu
      exact sound.tracks j u hu
  · intro s hs
    by_cases onTrack : s/256 = t.trackNumber
    · have old : lookup DiskTrack.trackNumber c.disktrks (s/256) = some t := by
        rw [onTrack]
        exact lookupSlot sound.distinct here
      have new : lookup DiskTrack.trackNumber (Function.update c.disktrks i (some t')) (s/256) = some t' := by
        rw [onTrack,← number]
        exact lookupSetSelf distinct
      have stored := inside (s%256) (heldSector held hs onTrack)
      rw [heldBlock held file' onTrack,heldBlock held file onTrack] at stored
      have coherent := sound.coherent s hs
      simp only [cell,setDisktrkDisktrks,old,new,Option.map_some,sameSector,clean] at coherent ⊢
      change Moves _ (Cell.mk (block (2^c.shiftCount) file' s) _)
      rw [stored]
      cases marked : t.flag (s%256) with
      | true => exact .single (.save _ _)
      | false =>
        rw [if_neg (by simp)]
    · have old : lookup DiskTrack.trackNumber (Function.update c.disktrks i (some t')) (s/256) =
          lookup DiskTrack.trackNumber c.disktrks (s/256) := by
        refine lookupSetOther sound.distinct distinct (by rw [number]; exact Ne.symm onTrack) ?_
        intro u hu
        cases Option.some.inj (hu.symm.trans here)
        exact Ne.symm onTrack
      have stored : block (2^c.shiftCount) file' s = block (2^c.shiftCount) file s :=
        outside _ _ (heldApart held onTrack)
      simp only [cell,setDisktrkDisktrks,old]
      change Moves _ (Cell.mk (block (2^c.shiftCount) file' s) _)
      rw [stored]

theorem releaseSlot (sound : Sound c fs file count) {i : Fin cacheMax} {t : DiskTrack}
    (here : c.disktrks i = some t) (clean : ∀ k, t.flag k = false) :
    Moved c fs file count (c.setDisktrk i none) fs file := by
  refine movedOf sound (sameDiskSetDisktrk c i _) (by simp [← sound.here]) rfl rfl ?_ ?_ ?_
  · rw [setDisktrkDisktrks]
    exact distinctClear sound.distinct i
  · intro j u hu
    rw [setDisktrkDisktrks] at hu
    by_cases ji : j = i
    · rw [ji,Function.update_self] at hu
      cases hu
    · rw [Function.update_of_ne ji] at hu
      exact sound.tracks j u hu
  · intro s hs
    have after := lookupClear sound.distinct here (s/256)
    by_cases onTrack : s/256 = t.trackNumber
    · have before : lookup DiskTrack.trackNumber c.disktrks (s/256) = some t := by
        rw [onTrack]
        exact lookupSlot sound.distinct here
      rw [if_pos onTrack] at after
      simp only [cell,setDisktrkDisktrks,before,after,Option.map_some,Option.map_none,clean]
      exact .single (.drop _ _)
    · rw [if_neg onTrack] at after
      simp only [cell,setDisktrkDisktrks,after]
      exact .refl

theorem loadSlot (sound : Sound c fs file count) {i : Fin cacheMax} (empty : c.disktrks i = none)
    {track : Nat} (absent : Absent DiskTrack.trackNumber c.disktrks track) (inside : track*256 < count)
    (reused : Option DiskTrack) :
    ∃ c' t, c.load fs i track reused = some c' ∧ c'.disktrks i = some t ∧ t.trackNumber = track ∧
      Moved c fs file count c' fs file := by
  have bound := sound.bound
  have remaining : int32 (c.blocks - int32 (track * 256)) = (count - track*256 : Nat) := by
    rw [sound.blocks,int32Fits (x := track * 256) (by omega) (by omega),int32Fits (by omega) (by omega)]
    omega
  generalize hfresh : (reused.getD {}).init track c.shiftCount (min 256 (count - track*256)) = fresh
  have number : fresh.trackNumber = track := by rw [← hfresh]; rfl
  have shift : fresh.shiftCount = c.shiftCount := by rw [← hfresh]; rfl
  have sectors : fresh.sectorCount = min 256 (count - track*256) := by rw [← hfresh]; rfl
  have blank : fresh.isInitialized = false := by rw [← hfresh]; rfl
  have fits : fresh.offset + fresh.sectorCount * 2^fresh.shiftCount ≤ file.length := by
    rw [DiskTrack.offset,← Nat.add_mul,number,shift,sectors]
    exact (Nat.mul_le_mul_right _ (by omega)).trans sound.length
  obtain ⟨t,loaded⟩ := DiskTrack.loadSucceeds sound.here fits
  obtain ⟨filled,number',shift',sectors',clean,contents⟩ :=
    DiskTrack.loadFilled blank sound.here fits loaded
  have held : Held c count t :=
    ⟨filled,shift'.trans shift,by rw [number',number]; exact inside,by rw [sectors',sectors,number',number]⟩
  have distinct : Distinct DiskTrack.trackNumber (Function.update c.disktrks i (some t)) :=
    distinctSet sound.distinct fun j u _ hu => by rw [number',number]; exact absent j u hu
  refine ⟨c.setDisktrk i (some t),t,?_,by simp,number'.trans number,?_⟩
  · have clipped : (if (0x100 : Int) < (count - track*256 : Nat) then (0x100 : Int)
        else (count - track*256 : Nat)) = (min 256 (count - track*256) : Nat) := by
      split <;> omega
    simp only [load,remaining,clipped,Int.toNat_natCast,hfresh,loaded]
    rw [if_neg (by omega)]
    rfl
  · refine movedOf sound (sameDiskSetDisktrk c i _) (by simp [← sound.here]) rfl rfl (by simpa using distinct) ?_ ?_
    · intro j u hu
      rw [setDisktrkDisktrks] at hu
      by_cases ji : j = i
      · rw [ji,Function.update_self] at hu
        cases Option.some.inj hu
        exact held
      · rw [Function.update_of_ne ji] at hu
        exact sound.tracks j u hu
    · intro s hs
      by_cases onTrack : s/256 = track
      · have onLoaded : s/256 = t.trackNumber := onTrack.trans (number'.trans number).symm
        have before : lookup DiskTrack.trackNumber c.disktrks (s/256) = none := by
          rw [onTrack]
          exact lookupAbsent absent
        have after : lookup DiskTrack.trackNumber (Function.update c.disktrks i (some t)) (s/256) = some t := by
          rw [onLoaded]
          exact lookupSetSelf distinct
        have sector : t.sector (s%256) = block (2^c.shiftCount) file s := by
          rw [contents _ (by rw [← sectors']; exact heldSector held hs onLoaded),← heldBlock held file onLoaded]
          simp only [DiskTrack.offset,number',shift']
        simp only [cell,setDisktrkDisktrks,before,after,Option.map_some,Option.map_none,clean,sector]
        exact .single (.load _)
      · have after : lookup DiskTrack.trackNumber (Function.update c.disktrks i (some t)) (s/256) =
            lookup DiskTrack.trackNumber c.disktrks (s/256) :=
          lookupSetOther sound.distinct distinct (by rw [number',number]; exact Ne.symm onTrack)
            (by simp [empty])
        simp only [cell,setDisktrkDisktrks,after]
        exact .refl

/-! Assign finds, loads or evicts: the slot it returns holds the track. -/

theorem sameDiskSerial (c : DiskCache) (i : Fin cacheMax) : SameDisk c (c.setSerial i) :=
  ⟨rfl,rfl,rfl⟩

theorem sameDiskUpdateSerial (c : DiskCache) : SameDisk c c.updateSerial := by
  simp only [updateSerial]
  split <;> exact ⟨rfl,rfl,rfl⟩

theorem assignTrack (sound : Sound c fs file count) {track : Nat} (inside : track*256 < count) :
    ∃ i t c' fs' file', c.assign fs track = (some i,c',fs') ∧ c'.disktrks i = some t ∧
      t.trackNumber = track ∧ Moved c fs file count c' fs' file' := by
  cases hit : search DiskTrack.trackNumber c.disktrks track with
  | some i =>
    obtain ⟨t,here,number⟩ := searchSome hit
    exact ⟨i,t,c.setSerial i,fs,file,by simp only [assign,hit],by rw [setSerialDisktrks,here],number,
      movedOfSame sound (sameDiskSerial c i) (setSerialDisktrks c i)⟩
  | none =>
    have absent := searchNone hit
    cases empty : free c.disktrks with
    | some i =>
      obtain ⟨c',t,loaded,here,number,moved⟩ := loadSlot sound (freeSome empty) absent inside none
      exact ⟨i,t,c'.setSerial i,fs,file,by simp only [assign,hit,empty,loaded],
        by rw [setSerialDisktrks,here],number,
        movedTrans moved (movedOfSame moved.sound (sameDiskSerial c' i) (setSerialDisktrks c' i))⟩
    | none =>
      -- eviction: the three moves of one slot follow each other
      obtain ⟨t,here⟩ := freeNone empty c.youngest
      obtain ⟨t',fs',file',saved,clean,number,stored⟩ := saveSlot sound here
      have kept : (c.setDisktrk c.youngest (some t')).disktrks c.youngest = some t' := by simp
      have released := releaseSlot stored.sound kept clean
      rw [setDisktrkTwice] at released
      have gone : Absent DiskTrack.trackNumber (c.setDisktrk c.youngest none).disktrks track := by
        intro j u hu
        rw [setDisktrkDisktrks] at hu
        by_cases same : j = c.youngest
        · rw [same,Function.update_self] at hu
          cases hu
        · rw [Function.update_of_ne same] at hu
          exact absent j u hu
      obtain ⟨c',u,loaded,held,number',moved⟩ :=
        loadSlot released.sound (i := c.youngest) (by simp) gone inside (some t')
      have ran : c.assign fs track = (some c.youngest,c'.setSerial c.youngest,fs') := by
        simp only [assign,hit,empty,here,Option.bind_some,saved,loaded]
      exact ⟨c.youngest,u,c'.setSerial c.youngest,fs',file',ran,by rw [setSerialDisktrks,held],number',
        movedTrans (movedTrans (movedTrans stored released) moved)
          (movedOfSame moved.sound (sameDiskSerial c' _) (setSerialDisktrks c' _))⟩

theorem getTrackBlock (sound : Sound c fs file count) {s : Nat} (hs : s < count) :
    ∃ i t c' fs' file', c.getTrack fs (uint32 s) = (some i,c',fs') ∧ c'.disktrks i = some t ∧
      t.trackNumber = s/256 ∧ Moved c fs file count c' fs' file' := by
  have updated := movedOfSame sound (sameDiskUpdateSerial c) (updateSerialDisktrks c)
  have bound := sound.bound
  have word : uint32 s = s := uint32Fits (by omega)
  have inside : s/256*256 < count := by omega
  obtain ⟨i,t,c',fs',file',ran,here,number,moved⟩ := assignTrack updated.sound inside
  exact ⟨i,t,c',fs',file',by rw [getTrack,word]; exact ran,here,number,movedTrans updated moved⟩

/-! The three operations of the cache. -/

theorem cellHeld (sound : Sound c fs file count) {i : Fin cacheMax} {t : DiskTrack}
    (here : c.disktrks i = some t) {s : Nat} (onTrack : s/256 = t.trackNumber) :
    cell c file s = ⟨block (2^c.shiftCount) file s,some (t.sector (s%256),t.flag (s%256))⟩ := by
  have found : lookup DiskTrack.trackNumber c.disktrks (s/256) = some t := by
    rw [onTrack]
    exact lookupSlot sound.distinct here
  rw [cell,found,Option.map_some]

theorem readSectorsValue (sound : Sound c fs file count) {s : Nat} (hs : s < count) :
    ∃ c' fs' file', c.readSectors fs s 1 = (some (cell c file s).value,c',fs') ∧
      Moved c fs file count c' fs' file' := by
  obtain ⟨i,t,c',fs',file',ran,here,number,moved⟩ := getTrackBlock sound hs
  have held := moved.sound.tracks i t here
  have read := DiskTrack.readFilled held.filled (heldSector held hs number.symm)
  have seen := movedValue sound moved hs
  rw [cellHeld moved.sound here number.symm] at seen
  refine ⟨c',fs',file',?_,moved⟩
  simp only [readSectors,ran,Option.bind_some,here,read,ne_eq,not_true_eq_false,if_false]
  rw [← seen]
  rfl

theorem writeSectorsValue (sound : Sound c fs file count) {s : Nat} (hs : s < count) {buf : Bytes}
    (full : 2^c.shiftCount ≤ buf.length) :
    ∃ c' fs' file', c.writeSectors fs buf s 1 = (true,c',fs') ∧ SameDisk c c' ∧
      fs' = Function.update fs c.secPath (some file') ∧ Sound c' fs' file' count ∧
      file'.drop (count * 2^c.shiftCount) = file.drop (count * 2^c.shiftCount) ∧
      ∀ k < count, (cell c' file' k).value =
        if k = s then buf.take (2^c.shiftCount) else (cell c file k).value := by
  obtain ⟨i,t,c₁,fs₁,file₁,ran,here,number,moved⟩ := getTrackBlock sound hs
  have held := moved.sound.tracks i t here
  have inTrack : s%256 < t.sectorCount := heldSector held hs number.symm
  have shift : t.shiftCount = c.shiftCount := held.shift.trans moved.disk.shift
  obtain ⟨t',wrote,filled,number',shift',sectors,contents,marks⟩ :=
    DiskTrack.writeFilled held.filled inTrack (by rw [shift]; exact full)
  have held' : Held c₁ count t' :=
    ⟨filled,shift'.trans held.shift,by rw [number']; exact held.starts,
      by rw [sectors,number']; exact held.sectors⟩
  have distinct : Distinct DiskTrack.trackNumber (Function.update c₁.disktrks i (some t')) := by
    refine distinctSet moved.sound.distinct fun j u ji hu same => ji ?_
    exact moved.sound.distinct j i u t hu here (same.trans number')
  have onTrack' : ∀ k, k/256 = s/256 →
      lookup DiskTrack.trackNumber (Function.update c₁.disktrks i (some t')) (k/256) = some t' := by
    intro k hk
    rw [hk,← number,← number']
    exact lookupSetSelf distinct
  have offTrack : ∀ k, k/256 ≠ s/256 →
      cell (c₁.setDisktrk i (some t')) file₁ k = cell c₁ file₁ k := by
    intro k hk
    have same := lookupSetOther moved.sound.distinct distinct (k := k/256)
      (by rw [number',number]; exact Ne.symm hk)
      (fun u hu => by cases Option.some.inj (hu.symm.trans here); rw [number]; exact Ne.symm hk)
    simp only [cell,setDisktrkDisktrks,same]
    rfl
  refine ⟨c₁.setDisktrk i (some t'),fs₁,file₁,?_,sameDiskTrans moved.disk (sameDiskSetDisktrk c₁ i _),moved.files,?_,moved.beyond,?_⟩
  · simp only [writeSectors,ran,here,Option.bind_some,wrote,ne_eq,not_true_eq_false,if_false]
  · refine ⟨moved.sound.here,moved.sound.length,moved.sound.blocks,moved.sound.bound,
      by simpa using distinct,?_,?_⟩
    · intro j u hu
      rw [setDisktrkDisktrks] at hu
      by_cases ji : j = i
      · rw [ji,Function.update_self] at hu
        cases Option.some.inj hu
        exact heldCongr (sameDiskSetDisktrk c₁ i (some t')) held'
      · rw [Function.update_of_ne ji] at hu
        exact heldCongr (sameDiskSetDisktrk c₁ i (some t')) (moved.sound.tracks j u hu)
    · intro k hk
      by_cases onTrack : k/256 = s/256
      · have coherent := moved.sound.coherent k hk
        rw [cellHeld moved.sound here (onTrack.trans number.symm)] at coherent
        simp only [cell,setDisktrkDisktrks,onTrack' k onTrack,Option.map_some]
        rcases marks with flags | ⟨same,_⟩
        · intro v hv
          simp only [flags,Option.some.injEq,Prod.mk.injEq] at hv
          by_cases written : k%256 = s%256
          · simp [written] at hv
          · rw [if_neg written] at hv
            refine coherent v ?_
            rw [← hv.1,← hv.2,contents _ (heldSector held hk (onTrack.trans number.symm)),if_neg written]
        · rw [same]
          exact coherent
      · rw [offTrack k onTrack]
        exact moved.sound.coherent k hk
  · intro k hk
    have before := movedValue sound moved hk
    by_cases onTrack : k/256 = s/256
    · rw [cellHeld moved.sound here (onTrack.trans number.symm)] at before
      have sector := contents _ (heldSector held hk (onTrack.trans number.symm))
      simp only [cell,setDisktrkDisktrks,onTrack' k onTrack,Option.map_some,Cell.value] at before ⊢
      rw [sector,shift]
      by_cases written : k = s
      · rw [if_pos (by rw [written]),if_pos written]
      · rw [if_neg (by omega),if_neg written]
        exact before
    · have other : k ≠ s := by
        rintro rfl
        exact onTrack rfl
      rw [offTrack k onTrack,if_neg other]
      exact before

def Saved (c : DiskCache) (i : Fin cacheMax) : Prop :=
  ∀ t, c.disktrks i = some t → ∀ k, t.flag k = false

/- Induction on the slots that are left; a saved slot stays saved. -/
theorem flushSlotsMoved : ∀ (slots : List (Fin cacheMax)) {c : DiskCache} {fs : FileSystem}
    {file : Bytes}, Sound c fs file count →
    ∃ c' fs' file', flushSlots slots c fs = (true,c',fs') ∧ Moved c fs file count c' fs' file' ∧
      ∀ i, i ∈ slots ∨ Saved c i → Saved c' i := by
  intro slots
  induction slots with
  | nil =>
    intro c fs file sound
    exact ⟨c,fs,file,rfl,movedOfSame sound ⟨rfl,rfl,rfl⟩ rfl,fun i h => h.resolve_left (by simp)⟩
  | cons i rest ih =>
    intro c fs file sound
    cases here : c.disktrks i with
    | none =>
      obtain ⟨c',fs',file',ran,moved,saved⟩ := ih sound
      refine ⟨c',fs',file',by simp only [flushSlots,here,ran],moved,fun j hj => saved j ?_⟩
      rcases hj with listed | already
      · rcases List.mem_cons.mp listed with rfl | later
        · exact .inr fun t ht => by rw [here] at ht; cases ht
        · exact .inl later
      · exact .inr already
    | some t =>
      obtain ⟨t',fs₁,file₁,save,clean,_,stored⟩ := saveSlot sound here
      obtain ⟨c',fs',file',ran,moved,saved⟩ := ih stored.sound
      refine ⟨c',fs',file',by simp only [flushSlots,here,save,ran],movedTrans stored moved,
        fun j hj => saved j ?_⟩
      by_cases same : j = i
      · refine .inr fun u hu => ?_
        rw [setDisktrkDisktrks,same,Function.update_self] at hu
        cases Option.some.inj hu
        exact clean
      · refine hj.imp (fun listed => ?_) (fun already u hu => already u ?_)
        · exact (List.mem_cons.mp listed).resolve_left same
        · rwa [setDisktrkDisktrks,Function.update_of_ne same] at hu

theorem flushStored (sound : Sound c fs file count) :
    ∃ c' fs' file', c.flush fs = (true,c',fs') ∧ Moved c fs file count c' fs' file' ∧
      ∀ s < count, block (2^c.shiftCount) file' s = (cell c file s).value := by
  obtain ⟨c',fs',file',ran,moved,saved⟩ := flushSlotsMoved (List.finRange cacheMax) sound
  refine ⟨c',fs',file',ran,moved,fun s hs => ?_⟩
  have clean : (cell c' file' s).Clean := by
    intro v dirty h
    obtain ⟨t,found,pair⟩ := Option.map_eq_some_iff.mp h
    obtain ⟨i,here,_⟩ := lookupSome found
    cases pair
    exact saved i (.inl (List.mem_finRange i)) t here _
  rw [← movedValue sound moved hs,← cleanStored (moved.sound.coherent s hs) clean,← moved.disk.shift]
  rfl

/-! The cache together with the files, driven by the operations of the array. -/

def step : DiskCache × FileSystem → SectorArray.Op → SectorArray.Reply × DiskCache × FileSystem
  | (c,fs), .read s =>
    let (data,c,fs) := c.readSectors fs s 1
    (.data data,c,fs)
  | (c,fs), .write s buf =>
    let (ok,c,fs) := c.writeSectors fs buf s 1
    (.written ok,c,fs)
  | (c,fs), .flush =>
    let (ok,c,fs) := c.flush fs
    (.flushed ok (fs c.secPath),c,fs)

structure Represents (name : String) (bits count : Nat) (before : FileSystem) (rest : Bytes)
    (s : DiskCache × FileSystem) (a : SectorArray.Sectors) : Prop where
  path : s.1.secPath = name
  shift : s.1.shiftCount = bits
  others : ∀ other ≠ name, s.2 other = before other
  file : ∃ file, Sound s.1 s.2 file count ∧ file.drop (count * 2^s.1.shiftCount) = rest ∧ ∀ k < count, (cell s.1 file k).value = a k

theorem representsMoved {path : String} {shift : Nat} {others : FileSystem} {rest : Bytes} {a b : SectorArray.Sectors}
    {c' : DiskCache} {fs' : FileSystem} {file' : Bytes}
    (rep : Represents path shift count others rest (c,fs) a) (disk : SameDisk c c')
    (files : fs' = Function.update fs c.secPath (some file')) (sound : Sound c' fs' file' count)
    (beyond : file'.drop (count * 2^c.shiftCount) = rest)
    (values : ∀ k < count, (cell c' file' k).value = b k) :
    Represents path shift count others rest (c',fs') b where
  path := disk.path.trans rep.path
  shift := disk.shift.trans rep.shift
  others := fun other ne => by
    rw [← rep.others other ne]
    simp only [files]
    exact Function.update_of_ne (fun same => ne (same.trans rep.path)) _ _
  file := ⟨file',sound,by rw [disk.shift]; exact beyond,values⟩

theorem stepRepresents {path : String} {shift : Nat} {others : FileSystem} {rest : Bytes}
    (s : DiskCache × FileSystem) (a : SectorArray.Sectors) (op : SectorArray.Op)
    (rep : Represents path shift count others rest s a) (valid : op.Valid (2^shift) count) :
    (step s op).1 = (SectorArray.stepBefore (2^shift) count rest a op).1 ∧
      Represents path shift count others rest (step s op).2 (SectorArray.stepBefore (2^shift) count rest a op).2 := by
  obtain ⟨c,fs⟩ := s
  obtain ⟨file,sound,beyond,values⟩ := rep.file
  have size : c.shiftCount = shift := rep.shift
  cases op with
  | read s =>
    obtain ⟨c',fs',file',ran,moved⟩ := readSectorsValue sound valid
    simp only [step,SectorArray.stepBefore,SectorArray.step,SectorArray.Reply.before,ran]
    refine ⟨by rw [values s valid],representsMoved rep moved.disk moved.files moved.sound (moved.beyond.trans beyond) ?_⟩
    exact fun k hk => (movedValue sound moved hk).trans (values k hk)
  | write s buf =>
    obtain ⟨hs,full⟩ := valid
    obtain ⟨c',fs',file',ran,disk,files,sound',kept,written⟩ :=
      writeSectorsValue sound hs (by rw [size]; exact full)
    simp only [step,SectorArray.stepBefore,SectorArray.step,SectorArray.Reply.before,ran]
    refine ⟨trivial,representsMoved rep disk files sound' (kept.trans beyond) fun k hk => ?_⟩
    rw [written k hk,size,Function.update_apply]
    split
    · rfl
    · exact values k hk
  | flush =>
    obtain ⟨c',fs',file',ran,moved,stored⟩ := flushStored sound
    have front : SectorArray.image count a = file'.take (count * 2^c.shiftCount) := by
      have length := moved.sound.length
      rw [moved.disk.shift] at length
      refine SectorArray.imageOfBlocks (List.length_take_of_le length) fun s hs => ?_
      rw [← values s hs,← stored s hs,block,block,slice,slice,List.drop_take,List.take_take,min_eq_left]
      have fits := blockFits (n := 2^c.shiftCount) hs
      exact Nat.le_sub_of_add_le (by rwa [Nat.add_comm])
    have whole : SectorArray.image count a ++ rest = file' := by
      rw [front,← beyond,← moved.beyond,List.take_append_drop]
    simp only [step,SectorArray.stepBefore,SectorArray.step,SectorArray.Reply.before,ran,Option.map_some,whole]
    refine ⟨by rw [moved.sound.here],representsMoved rep moved.disk moved.files moved.sound (moved.beyond.trans beyond) ?_⟩
    exact fun k hk => (movedValue sound moved hk).trans (values k hk)

theorem findShiftPower {shift : Nat} (low : 8 ≤ shift) (high : shift ≤ 12) :
    findShift (2^shift) 23 8 = shift := by
  rcases (by omega : shift = 8 ∨ shift = 9 ∨ shift = 10 ∨ shift = 11 ∨ shift = 12) with
    rfl | rfl | rfl | rfl | rfl <;> rfl

theorem newRepresents {path : String} {shift : Nat} {image : Bytes} (here : fs path = some image)
    (low : 8 ≤ shift) (high : shift ≤ 12) (length : count * 2^shift ≤ image.length)
    (bound : count < 2^31) :
    Represents path shift count fs (image.drop (count * 2^shift)) (new path (2^shift) count,fs) (SectorArray.ofImage (2^shift) image) := by
  have power := findShiftPower low high
  have fits : int32 (count : Int) = count := int32Fits (by omega) (by omega)
  have empty : ∀ i, (new path (2^shift) count).disktrks i = none := fun _ => rfl
  have uncached : ∀ s, cell (new path (2^shift) count) image s = ⟨block (2^shift) image s,none⟩ := by
    intro s
    have missing : lookup DiskTrack.trackNumber (new path (2^shift) count).disktrks (s/256) = none :=
      lookupAbsent fun i t h => by rw [empty i] at h; cases h
    simp only [cell,missing,Option.map_none]
    simp only [new,power]
  refine ⟨rfl,power,fun _ _ => rfl,image,⟨here,?_,?_,bound,?_,?_,?_⟩,?_,?_⟩
  · rw [new,power]
    exact length
  · simp only [new,fits]
  · intro i j t u hi
    rw [empty i] at hi
    cases hi
  · intro i t h
    rw [empty i] at h
    cases h
  · intro s _
    rw [uncached]
    intro v h
    cases h
  · rw [new,power]
  · intro s _
    rw [uncached]
    rfl

/- Every answer is that of the array, so a read returns what was written last,
and a flush leaves the image with exactly the written sectors replaced. -/
theorem cacheRefinesSectors {path : String} {shift blocks : Nat} {fs : FileSystem} {image : Bytes}
    (named : path ≠ "") (here : fs path = some image) (low : 8 ≤ shift) (high : shift ≤ 12)
    (nonempty : 1 ≤ blocks) (bound : blocks < 2^31) (length : image.length = blocks * 2^shift)
    (ops : List SectorArray.Op) (valid : ∀ op ∈ ops, op.Valid (2^shift) blocks) :
    let start := (new path (2^shift) blocks,fs)
    let now := Mealy.final step start ops
    let last := fun s => (SectorArray.lastWritten (2^shift) s ops).getD (block (2^shift) image s)
    (new path (2^shift) blocks).init = true ∧
      Mealy.outputs step start ops = Mealy.outputs (SectorArray.step (2^shift) blocks)
        (SectorArray.ofImage (2^shift) image) ops ∧
      (∀ s < blocks, (step now (.read s)).1 = .data (last s)) ∧
      (step now .flush).1 = .flushed true (some (SectorArray.image blocks last)) ∧
      (SectorArray.image blocks last).length = image.length ∧
      ∀ other ≠ path, now.2 other = fs other := by
  intro start now last
  have begun : Represents path shift blocks fs [] start (SectorArray.ofImage (2^shift) image) := by
    have fresh := newRepresents here low high length.ge bound
    rwa [← length,List.drop_length] at fresh
  have simulates (s : DiskCache × FileSystem) (a : SectorArray.Sectors) (op : SectorArray.Op)
      (rep : Represents path shift blocks fs [] s a) (valid : op.Valid (2^shift) blocks) := stepRepresents s a op rep valid
  rw [SectorArray.stepBeforeNil] at simulates
  obtain ⟨same,rep⟩ := Mealy.simulation simulates begun valid
  have contents : Mealy.final (SectorArray.step (2^shift) blocks)
      (SectorArray.ofImage (2^shift) image) ops = last :=
    funext fun s => SectorArray.finalLastWritten ..
  have sized := SectorArray.finalSized length valid
  rw [contents] at rep sized
  have flushed := (simulates now last .flush rep trivial).1
  refine ⟨?_,same,fun s hs => (simulates now last (.read s) rep hs).1,flushed,?_,rep.others⟩
  · have fits : int32 (blocks : Int) = blocks := int32Fits (by omega) (by omega)
    simp [init,new,fits,named]
    omega
  · rw [SectorArray.imageLength sized,length]

theorem cacheRefinesSectorsDisk :
    let image := List.replicate 512 (0 : UInt8)
    let ops := [SectorArray.Op.write 1 (List.replicate 256 7),.read 1,.flush]
    let now := Mealy.final step (new "disk" 256 2,fun _ => some image) ops
    (step now (.read 1)).1 = .data ((SectorArray.lastWritten 256 1 ops).getD (block 256 image 1)) := by
  intro image ops now
  have named : "disk" ≠ "" := by decide
  have here : (fun _ => some image : FileSystem) "disk" = some image := rfl
  have length : image.length = 2 * 2^8 := List.length_replicate
  have valid : ∀ op ∈ ops, op.Valid (2^8) 2 := by
    intro op listed
    simp only [ops,List.mem_cons,List.not_mem_nil,or_false] at listed
    rcases listed with rfl | rfl | rfl
    · exact ⟨by decide,Nat.le_of_eq List.length_replicate.symm⟩
    · exact Nat.lt_succ_self 1
    · trivial
  exact (cacheRefinesSectors named here (by decide) (by decide) (by decide) (by decide) length
    ops valid).2.2.1 1 (by decide)

end Scsi2Pi.DiskCache
