import Scsi2Pi.CacheRefinement
import Scsi2Pi.MediumGeometry

/-! What an opened image is good for: whether the cache of a disk that has just been
opened reaches each sector at its place in the file. -/
namespace Scsi2Pi.ImageAccess
open Handler Derives Eff Slices SectorArray MediumGeometry

/-! The cache of an opened disk. -/

/- The assertions of DiskCache and DiskTrack, for an access to any sector. -/
def tracksAssert (c : DiskCache) (blocks : Nat) : Prop :=
  8 ≤ c.shiftCount ∧ c.shiftCount ≤ 12 ∧ ∀ s < blocks, ((s % 256 : Nat) : Int) < int32 (c.blocks - int32 (s / 256 * 256 : Nat))

def Asserts (blocks : Nat) : Cache → Prop
  | .tracks c => tracksAssert c blocks
  | .stream _ => True

/- No sector is missing, and each access deals with the right part of the file. -/
structure FullyAccessible (d : Disk) (c : Cache) (files : FileSystem) (file : Bytes) : Prop where
  path : c.path = d.filename
  blocks : d.blocks = file.length / d.blockSize
  asserts : Asserts d.blocks c
  accesses : ∀ ops, (∀ op ∈ ops, op.Valid d.blockSize d.blocks) →
    Mealy.outputs Cache.step (c,files) ops =
      Mealy.outputs (stepBefore d.blockSize d.blocks (file.drop (d.blocks * d.blockSize))) (ofImage d.blockSize file) ops

def Accessible (s : HandlerState AnyDevice) : Prop :=
  ∃ d c file, s.device.disk = some d ∧ d.cache = some c ∧ s.world.files d.filename = some file ∧
    FullyAccessible d c s.world.files file

/- The sizes that the track cache can deal with. -/
def standardSizes : List Nat := [256,512,1024,2048,4096]

theorem standardShift {size : Nat} (standard : size ∈ standardSizes) : ∃ shift, 8 ≤ shift ∧ shift ≤ 12 ∧ size = 2^shift := by
  simp only [standardSizes,List.mem_cons,List.not_mem_nil,or_false] at standard
  rcases standard with rfl | rfl | rfl | rfl | rfl
  · exact ⟨8,by decide,by decide,rfl⟩
  · exact ⟨9,by decide,by decide,rfl⟩
  · exact ⟨10,by decide,by decide,rfl⟩
  · exact ⟨11,by decide,by decide,rfl⟩
  · exact ⟨12,by decide,by decide,rfl⟩

theorem newTracksAssert {path : String} {size blocks : Nat} (standard : size ∈ standardSizes) (bound : blocks < 2^31) :
    tracksAssert (.new path size blocks) blocks := by
  obtain ⟨shift,low,high,rfl⟩ := standardShift standard
  have power := DiskCache.findShiftPower low high
  have fits : int32 (blocks : Int) = blocks := int32Fits (by omega) (by omega)
  refine ⟨?_,?_,fun s inside => ?_⟩
  · simp only [DiskCache.new,power]
    exact low
  · simp only [DiskCache.new,power]
    exact high
  · have track : int32 (s / 256 * 256 : Nat) = (s / 256 * 256 : Nat) := int32Fits (by omega) (by omega)
    simp only [DiskCache.new,fits]
    rw [track,int32Fits (by omega) (by omega)]
    omega

theorem newRepresents {d : Disk} {path : String} {files : FileSystem} {file : Bytes} (here : files path = some file)
    (standard : d.blockSize ∈ standardSizes) (bound : d.cachingMode = .piscsi → d.blocks < 2^31)
    (fits : d.blocks * d.blockSize ≤ file.length) :
    Cache.Represents path d.blockSize d.blocks files (file.drop (d.blocks * d.blockSize)) (newCache d path,files)
      (ofImage d.blockSize file) := by
  unfold newCache
  split
  · next mode =>
    obtain ⟨shift,low,high,size⟩ := standardShift standard
    rw [size] at fits ⊢
    exact .tracks rfl (DiskCache.newRepresents here low high fits (bound mode))
  · have sized : 0 < d.blockSize ∧ d.blockSize < 2^31 := by
      simp only [standardSizes,List.mem_cons,List.not_mem_nil,or_false] at standard
      omega
    exact .stream sized.1 sized.2 ⟨rfl,rfl,le_rfl,fun _ _ => rfl,file,⟨file,here,rfl⟩,fits,rfl,fun _ _ => rfl⟩

/- A track that seems to have a negative number of sectors cannot be loaded. -/
theorem loadFails {c : DiskCache} {files : FileSystem} {track : Nat} (i : Fin cacheMax) (old : Option DiskTrack)
    (negative : int32 (c.blocks - int32 (track * 256)) < 0) : c.load files i track old = none := by
  unfold DiskCache.load
  generalize int32 (c.blocks - int32 (track * 256)) = sectors at negative ⊢
  have clipped : (if 0x100 < sectors then 0x100 else sectors) = sectors := if_neg (by omega)
  simp only [clipped,negative,if_true]

theorem emptyFails {c : DiskCache} (empty : ∀ i, c.disktrks i = none) {files : FileSystem} {s : Nat} {n : Int} (count : c.blocks = n)
    (negative : int32 (n - int32 ((uint32 s / 256 : Nat) * 256)) < 0) : (c.readSectors files s 1).1 = none := by
  have still (i : Fin cacheMax) : c.updateSerial.disktrks i = none := by
    rw [DiskCache.updateSerialDisktrks]
    exact empty i
  have missing : SlotTable.search DiskTrack.trackNumber c.updateSerial.disktrks (uint32 s / 256) = none := by
    cases found : SlotTable.search DiskTrack.trackNumber c.updateSerial.disktrks (uint32 s / 256) with
    | none => rfl
    | some i =>
      obtain ⟨t,here,_⟩ := SlotTable.searchSome found
      rw [still i] at here
      cases here
  have geometry := (DiskCache.sameDiskUpdateSerial c).blocks
  rw [← count,← geometry] at negative
  unfold DiskCache.readSectors DiskCache.getTrack DiskCache.assign
  rw [if_neg (by simp),missing]
  dsimp only
  cases free : SlotTable.free c.updateSerial.disktrks with
  | none =>
    obtain ⟨t,here⟩ := SlotTable.freeNone free 0
    rw [still 0] at here
    cases here
  | some i =>
    dsimp only
    rw [loadFails i none negative]
    rfl

theorem int32Negative {n : Nat} (low : 2^31 ≤ n) (high : n < 2^32) : int32 n < 0 := by
  unfold int32
  rw [Int.bmod_def]
  split <;> omega

theorem subWraps (a b : Int) : int32 (a - int32 b) = int32 (a - b) := Int.sub_bmod_bmod

/- The number of sectors of the first track seems to be negative, or that of a later one. -/
theorem manyFail {blocks : Nat} (many : 2^31 ≤ blocks) (some_ : int32 blocks ≠ 0) :
    ∃ s < blocks, int32 (int32 blocks - int32 ((uint32 s / 256 : Nat) * 256)) < 0 := by
  have low : -2^31 ≤ int32 (blocks : Int) := by
    unfold int32
    exact Int.le_bmod (by decide)
  have high : int32 (blocks : Int) < 2^31 := by
    unfold int32
    exact Int.bmod_lt (by decide)
  by_cases negative : int32 (blocks : Int) < 0
  · refine ⟨0,by omega,?_⟩
    have first : uint32 (0 : Nat) / 256 = 0 := rfl
    rw [first,subWraps]
    generalize int32 (blocks : Int) = n at low high negative ⊢
    rw [int32Fits (by omega) (by omega)]
    omega
  · have wide : 2^32 ≤ blocks := by
      by_contra narrow
      exact negative (int32Negative many (by omega))
    generalize int32 (blocks : Int) = n at *
    obtain ⟨m,rfl⟩ : ∃ m : Nat, n = m := ⟨n.toNat,by omega⟩
    refine ⟨(m/256+1)*256,by omega,?_⟩
    rw [uint32Fits (by omega),subWraps,int32Fits (by omega) (by omega)]
    omega

/-! Opening a file. -/

/- The disk has been given its block size and block count. -/
structure Mounted (d : Disk) (w : World) (t : HandlerState Disk) : Prop where
  blockSize : t.device.blockSize = d.blockSize
  blocks : t.device.blocks = d.blocks
  filename : t.device.filename = d.filename
  cache : t.device.cache = some (newCache d d.filename)
  files : t.world.files = w.files

structure Mountable (d : Disk) (w : World) : Prop where
  blocks : d.blocks ≠ 0
  file : ∃ file, w.files d.filename = some file ∧ file.length ≤ 2^41
  cache : (newCache d d.filename).init w.files = true

def Mounts (d : Disk) (w : World) (opened : Bool) (t : HandlerState Disk) : Prop :=
  (opened = true ↔ Mountable d w) ∧ (opened = true → Mounted d w t)

theorem Mounts.refused {d : Disk} {w : World} (refuses : ¬Mountable d w) (t : HandlerState Disk) : Mounts d w false t :=
  ⟨⟨fun wrong => (by cases wrong),fun able => absurd able refuses⟩,fun wrong => by cases wrong⟩

theorem Mounts.update {d : Disk} {w : World} {opened : Bool} {t : HandlerState Disk} (h : Mounts d w opened t) {e : Disk}
    (blockSize : e.blockSize = t.device.blockSize) (blocks : e.blocks = t.device.blocks)
    (filename : e.filename = t.device.filename) (cache : e.cache = t.device.cache) : Mounts d w opened { t with device := e } := by
  refine ⟨h.1,fun yes => ?_⟩
  have mounted := h.2 yes
  exact ⟨blockSize.trans mounted.blockSize,blocks.trans mounted.blocks,filename.trans mounted.filename,cache.trans mounted.cache,
    mounted.files⟩

theorem initCacheUnused {s : HandlerState Disk} (unused : s.device.cache = none) (path : String) (r : Request) :
    Disk.initCache path r s = (.ok ((newCache s.device path).init s.world.files),
      { s with device := { s.device with cache := some (newCache s.device path) } }) := by
  have dropped : Disk.dropCache r s = (.ok (),s) := by
    obtain ⟨d,t,w⟩ := s
    obtain ⟨storage,cache,mode,next,count⟩ := d
    cases unused
    rfl
  exact bindOk dropped

theorem setUpCacheUnused {s : HandlerState Disk} (standard : s.device.blockSize ∈ s.device.supportedBlockSizes) (r : Request) :
    Disk.setUpCache r s = Disk.initCache s.device.filename r s := by
  unfold Disk.setUpCache
  refine (bindOk (rfl : getDevice r s = (.ok s.device,s))).trans ?_
  rw [if_neg fun wrong => wrong.1 standard]

/- A file of up to 2 TiB makes the device ready. -/
theorem storageValidates {r : Request} {s : HandlerState StorageDevice} (readOnlyFile : Bool) :
    wp (StorageDevice.validateFile readOnlyFile) r s (fun ok t => t.transfer = s.transfer ∧ t.world = s.world ∧
      (∃ p : PrimaryDevice, t.device = { s.device with toPrimaryDevice := p }) ∧
      (ok = true ↔ ∃ file, s.world.files s.device.filename = some file ∧ file.length ≤ 2^41)) fun _ _ => False := by
  unfold StorageDevice.validateFile StorageDevice.getFileSize
  rw [wpBind,wpGetDevice,wpBind,wpGetWorld]
  cases here : s.world.files s.device.filename with
  | none => exact ⟨rfl,rfl,⟨_,rfl⟩,fun wrong => (by cases wrong),fun ⟨_,wrong,_⟩ => by cases wrong⟩
  | some file =>
    have refused (large : 2^41 < file.length) : ¬∃ file', some file = some file' ∧ file'.length ≤ 2^41 := by
      rintro ⟨_,same,small⟩
      cases same
      omega
    simp only [Option.map_some,wpIte,wpPure,wpBind,wpModifyDevice]
    refine ⟨fun large => ⟨trivial,trivial,⟨_,rfl⟩,fun wrong => (by cases wrong),fun wrong => absurd wrong (refused large)⟩,
      fun small => ⟨fun _ => ?_,fun _ => ?_⟩⟩
    · exact ⟨trivial,trivial,⟨_,rfl⟩,fun _ => ⟨file,rfl,by omega⟩,fun _ => trivial⟩
    · exact ⟨trivial,trivial,⟨_,rfl⟩,fun _ => ⟨file,rfl,by omega⟩,fun _ => trivial⟩

theorem validateFileMounts {r : Request} {s : HandlerState Disk} (readOnlyFile : Bool) (unused : s.device.cache = none)
    (standard : s.device.blockSize ∈ s.device.supportedBlockSizes) :
    wp (Disk.validateFile readOnlyFile) r s (fun opened t => Mounts s.device s.world opened t) fun _ _ => False := by
  unfold Disk.validateFile
  rw [wpBind,wpGetDevice,wpIte,wpPure]
  refine ⟨fun none => .refused (fun able => able.blocks none) _,fun some_ => ?_⟩
  rw [wpBind,wpSuper]
  refine wpMono (storageValidates readOnlyFile) (fun ok t done => ?_) fun _ _ failed => failed
  obtain ⟨transfer,world,⟨p,device⟩,exactly⟩ := done
  cases ok with
  | false => exact .refused (fun able => absurd (exactly.mpr able.file) (by decide)) _
  | true =>
    let u : HandlerState Disk := ⟨{ s.device with toPrimaryDevice := p },t.transfer,t.world⟩
    have same : (⟨setBase s.device t.device,t.transfer,t.world⟩ : HandlerState Disk) = u := by rw [device]; rfl
    rw [same]
    change wp Disk.setUpCache r u _ _
    unfold wp
    rw [setUpCacheUnused (s := u) standard,initCacheUnused (s := u) unused]
    change Mounts s.device s.world ((newCache s.device s.device.filename).init t.world.files) _
    rw [world]
    refine ⟨⟨fun ready => ⟨some_,exactly.mp rfl,ready⟩,fun able => able.cache⟩,fun _ => ⟨rfl,rfl,rfl,rfl,rfl⟩⟩

theorem openFileMounts {r : Request} {s : HandlerState Disk} (defaultBlockSize : Nat) (count : Nat → Nat) (readOnlyFile : Bool)
    (unused : s.device.cache = none) {size : Nat}
    (chosen : size = if s.device.configuredBlockSize ≠ 0 then s.device.configuredBlockSize else defaultBlockSize)
    (standard : size ∈ s.device.supportedBlockSizes) {file : Bytes} (here : s.world.files s.device.filename = some file) :
    wp (Disk.openFile defaultBlockSize count readOnlyFile) r s
      (fun opened t => Mounts { s.device with blockSize := size, blocks := count (file.length / size) } s.world opened t)
      fun _ _ => False := by
  unfold Disk.openFile
  rw [wpBind,wpGetDevice]
  dsimp only
  rw [wpBind,wpGetWorld,← chosen]
  have sized : s.device.setBlockSize size = some { s.device.toStorageDevice with blockSize := size } := if_pos (.inl standard)
  have measured : s.device.getFileSize s.world = some file.length := by
    unfold StorageDevice.getFileSize
    rw [here]
    rfl
  rw [sized,measured]
  exact validateFileMounts readOnlyFile unused standard

def configuredSize (d : Disk) (defaultBlockSize : Nat) : Nat :=
  if d.configuredBlockSize ≠ 0 then d.configuredBlockSize else defaultBlockSize

/- The sector size that an image file of a given length gets. -/
def sectorSize (any : AnyDevice) (length : Nat) : Nat :=
  match any with
  | .scsiHd d => configuredSize d 512
  | .sasiHd d => configuredSize d 256
  | .opticalMemory d => match OpticalMemory.geometries.lookup length with
    | some (size,_) => size
    | none => configuredSize d 512
  | .scsiCd d => configuredSize d.toDisk 2048
  | _ => 0

/- Hard disk drives count their sectors with 32 bits. -/
def narrows : AnyDevice → Bool
  | .scsiHd _ | .sasiHd _ => true
  | _ => false

def sectorCount (any : AnyDevice) (length : Nat) : Nat := length / sectorSize any length

def blockCount (any : AnyDevice) (length : Nat) : Nat :=
  if narrows any then sectorCount any length % 2^32 else sectorCount any length

def withGeometry (any : AnyDevice) (d : Disk) (length : Nat) : Disk :=
  { d with blockSize := sectorSize any length, blocks := blockCount any length }

theorem geometryCount {length size count : Nat} (known : OpticalMemory.geometries.lookup length = some (size,count))
    (standard : size ∈ standardSizes) : length / size = count := by
  obtain ⟨before,after,split_,_⟩ := List.lookup_eq_some_iff.mp known
  have product : count * size = length := geometriesExact (length,size,count) (by rw [split_]; simp)
  rw [← product]
  refine Nat.mul_div_cancel _ ?_
  simp only [standardSizes,List.mem_cons,List.not_mem_nil,or_false] at standard
  omega

section
variable {r : Request} {t : Transfer} {w : World} {file : Bytes} (readOnlyFile : Bool)

theorem scsiHdMounts {d : Disk} (unused : d.cache = none) (here : w.files d.filename = some file)
    (standard : sectorSize (.scsiHd d) file.length ∈ d.supportedBlockSizes) :
    wp (ScsiHd.openFile readOnlyFile) r ⟨d,t,w⟩
      (fun opened u => Mounts (withGeometry (.scsiHd d) d file.length) w opened u) fun _ _ => False := by
  unfold ScsiHd.openFile
  rw [wpBind]
  refine wpMono (openFileMounts 512 (· % 2^32) readOnlyFile unused rfl standard here) (fun opened u done => ?_)
    fun _ _ failed => failed
  cases opened with
  | false => exact done
  | true =>
    obtain ⟨p,same,_⟩ := finalizeSetupDisk u.device
    change Mounts _ w true { u with device := ScsiHd.finalizeSetup u.device }
    rw [same]
    exact done.update rfl rfl rfl rfl

theorem opticalMemoryMounts {d : Disk} (unused : d.cache = none) (here : w.files d.filename = some file)
    (standard : sectorSize (.opticalMemory d) file.length ∈ d.supportedBlockSizes)
    (sizes : ∀ size ∈ d.supportedBlockSizes, size ∈ standardSizes) :
    wp (OpticalMemory.openFile readOnlyFile) r ⟨d,t,w⟩
      (fun opened u => Mounts (withGeometry (.opticalMemory d) d file.length) w opened u) fun _ _ => False := by
  have noted {e : Disk} (opened : Bool) (u : HandlerState Disk) (done : Mounts e w opened u) :
      wp (do
        if !opened then return false
        modifyDevice fun d => if d.ready then { d with attn := true } else d
        return true : Handler Disk Bool) r u (fun opened u => Mounts e w opened u) fun _ _ => False := by
    cases opened with
    | false => exact done
    | true =>
      change Mounts e w true { u with device := if u.device.ready then { u.device with attn := true } else u.device }
      split
      · exact done.update rfl rfl rfl rfl
      · exact done
  unfold OpticalMemory.openFile
  have measured : d.getFileSize w = some file.length := by
    unfold StorageDevice.getFileSize
    rw [here]
    rfl
  rw [wpBind,wpGetDevice,wpBind,wpGetWorld,measured,Option.bind_some]
  unfold withGeometry blockCount sectorCount
  unfold sectorSize at standard ⊢
  cases known : OpticalMemory.geometries.lookup file.length with
  | none =>
    rw [known] at standard
    rw [wpBind]
    exact wpMono (openFileMounts 512 id readOnlyFile unused rfl standard here) (fun opened u done => noted opened u done)
      fun _ _ failed => failed
  | some geometry =>
    obtain ⟨size,count⟩ := geometry
    rw [known] at standard
    dsimp only at standard ⊢
    rw [geometryCount known (sizes size standard),wpBind,wpModifyDevice,wpBind]
    exact wpMono (validateFileMounts readOnlyFile unused standard) (fun opened u done => noted opened u done) fun _ _ failed => failed

theorem scsiCdMounts {d : ScsiCd} (unused : d.cache = none) (here : w.files d.filename = some file)
    (standard : sectorSize (.scsiCd d) file.length ∈ d.supportedBlockSizes) :
    wp (ScsiCd.openFile readOnlyFile) r ⟨d,t,w⟩ (fun opened u =>
      Mounts (withGeometry (.scsiCd d) d.toDisk file.length) w opened ⟨u.device.toDisk,u.transfer,u.world⟩) fun _ _ => False := by
  unfold ScsiCd.openFile
  rw [wpBind,wpModifyDevice,wpBind,wpSuper]
  refine wpMono (openFileMounts 2048 id readOnlyFile unused rfl standard here) (fun opened u done => ?_) fun _ _ failed => failed
  cases opened with
  | false => exact done
  | true =>
    change wp (do
      modifyDevice fun (d : ScsiCd) => { d with readOnly := true, protectable := false }
      ScsiCd.createDataTrack
      modifyDevice fun (d : ScsiCd) => if d.ready then { d with attn := true } else d
      return true : Handler ScsiCd Bool) r _ _ _
    unfold ScsiCd.createDataTrack
    rw [wpBind,wpModifyDevice,wpBind,wpModifyDevice,wpBind,wpModifyDevice,wpPure]
    dsimp only
    split
    · exact done.update rfl rfl rfl rfl
    · exact done.update rfl rfl rfl rfl

end

section
variable {any : AnyDevice} {d : Disk} {r : Request} {t : Transfer} {w : World} {file : Bytes}

/- An image is opened if it has a sector, is not too large, and if its cache starts. -/
theorem imageMounts (disk : any.disk = some d) (unused : d.cache = none) (here : w.files d.filename = some file)
    (standard : sectorSize any file.length ∈ d.supportedBlockSizes)
    (sizes : ∀ size ∈ d.supportedBlockSizes, size ∈ standardSizes) (readOnlyFile : Bool) :
    ∃ opened u e, AnyDevice.openFile readOnlyFile r ⟨any,t,w⟩ = (.ok (AnyDevice.opened opened),u) ∧ u.device.disk = some e ∧
      Mounts (withGeometry any d file.length) w opened ⟨e,u.transfer,u.world⟩ := by
  have plain {δ : Type} {put : δ → AnyDevice} (disk : δ → Disk) (same : ∀ x, (put x).disk = some (disk x)) {h : Handler δ Bool}
      {x : δ} {e : Disk} (opens : wp h r ⟨x,t,w⟩ (fun opened u => Mounts e w opened ⟨disk u.device,u.transfer,u.world⟩)
        fun _ _ => False) :
      ∃ opened u e', (do return AnyDevice.opened (← AnyDevice.within put h x) : Handler AnyDevice _) r ⟨any,t,w⟩ =
        (.ok (AnyDevice.opened opened),u) ∧ u.device.disk = some e' ∧ Mounts e w opened ⟨e',u.transfer,u.world⟩ := by
    obtain ⟨opened,u,ran,mounts⟩ := wpRuns opens
    refine ⟨opened,_,disk u.device,bindOk (t := ⟨put u.device,u.transfer,u.world⟩) ?_,same _,mounts⟩
    unfold AnyDevice.within
    rw [ran]
  cases any with
  | scsiHd d =>
    cases disk
    exact plain id (fun _ => rfl) (scsiHdMounts readOnlyFile unused here standard)
  | sasiHd d =>
    cases disk
    exact plain id (fun _ => rfl) (openFileMounts 256 (· % 2^32) readOnlyFile unused rfl standard here)
  | opticalMemory d =>
    cases disk
    exact plain id (fun _ => rfl) (opticalMemoryMounts readOnlyFile unused here standard sizes)
  | scsiCd d =>
    cases disk
    exact plain ScsiCd.toDisk (fun _ => rfl) (scsiCdMounts readOnlyFile unused here standard)
  | _ => cases disk

/- What the numbers of sectors must be for each sector to be reached. -/
def Narrow (any : AnyDevice) (d : Disk) (length : Nat) : Prop :=
  (d.cachingMode = .piscsi → sectorCount any length < 2^31) ∧ (narrows any = true → sectorCount any length < 2^32)

theorem narrowCounts (narrow : narrows any = true → sectorCount any n < 2^32) : blockCount any n = sectorCount any n := by
  unfold blockCount
  split
  · next hd => exact Nat.mod_eq_of_lt (narrow hd)
  · rfl

theorem newCachePath (d : Disk) (path : String) : (newCache d path).path = path := by
  unfold newCache
  split <;> rfl

theorem startsSome {c : DiskCache} (started : c.init = true) : c.blocks ≠ 0 := by
  unfold DiskCache.init at started
  simp only [Bool.and_eq_true,decide_eq_true_eq] at started
  exact started.1

theorem stepReadFails {c : DiskCache} {files : FileSystem} {s : Nat} (failed : (c.readSectors files s 1).1 = none) :
    (Cache.step (.tracks c,files) (.read s)).1 = .data none :=
  congrArg Reply.data failed

/- Enough sectors for an int make a track cache fail. -/
theorem manyUnreachable {d : Disk} {path : String} {files : FileSystem} (mode : d.cachingMode = .piscsi) (many : 2^31 ≤ d.blocks)
    (started : (newCache d path).init files = true) :
    ∃ s < d.blocks, (Cache.step (newCache d path,files) (.read s)).1 = .data none := by
  unfold newCache at started ⊢
  rw [if_pos mode] at started ⊢
  simp only [Cache.init] at started
  have some_ : (DiskCache.new path d.blockSize d.blocks).blocks ≠ 0 := startsSome started
  simp only [DiskCache.new] at some_
  obtain ⟨s,inside,negative⟩ := manyFail many some_
  have empty : ∀ i, (DiskCache.new path d.blockSize d.blocks).disktrks i = none := fun _ => rfl
  have count : (DiskCache.new path d.blockSize d.blocks).blocks = int32 d.blocks := by simp only [DiskCache.new]
  exact ⟨s,inside,stepReadFails (emptyFails empty count negative)⟩

theorem accessibleIff {e : Disk} (here : w.files e.filename = some file) (standard : e.blockSize ∈ standardSizes)
    (started : (newCache e e.filename).init w.files = true) :
    FullyAccessible e (newCache e e.filename) w.files file ↔
      e.blocks = file.length / e.blockSize ∧ (e.cachingMode = .piscsi → e.blocks < 2^31) := by
  constructor
  · refine fun full => ⟨full.blocks,fun tracks => ?_⟩
    by_contra many
    obtain ⟨s,inside,failed⟩ := manyUnreachable tracks (by omega) started
    have answers := full.accesses [.read s] fun op listed => by
      rw [List.mem_singleton] at listed
      subst listed
      exact inside
    rw [Mealy.outputsCons,Mealy.outputsCons,failed] at answers
    cases (List.cons.inj answers).1
  · rintro ⟨exact_,bound⟩
    have fits : e.blocks * e.blockSize ≤ file.length := by
      rw [exact_]
      exact Nat.div_mul_le_self _ _
    have start := newRepresents here standard bound fits
    refine ⟨newCachePath _ _,exact_,?_,fun ops valid => (Mealy.simulation Cache.stepRepresents start valid).1⟩
    unfold newCache
    split
    · next tracks => exact newTracksAssert standard (bound tracks)
    · trivial

/- An opened disk is as accessible as the disk that it has been made from its image. -/
theorem openedAccessible {e : Disk} {u : HandlerState AnyDevice} (disk : u.device.disk = some e)
    (mounted : Mounted d w ⟨e,u.transfer,u.world⟩) (here : w.files d.filename = some file) :
    Accessible u ↔ FullyAccessible d (newCache d d.filename) w.files file := by
  have files : u.world.files = w.files := mounted.files
  constructor
  · rintro ⟨e',c,file',disk',cache,here',full⟩
    cases disk.symm.trans disk'
    cases mounted.cache.symm.trans cache
    rw [mounted.filename,files] at here'
    cases here.symm.trans here'
    rw [files] at full
    refine ⟨?_,?_,?_,?_⟩
    · exact full.path.trans mounted.filename
    · rw [← mounted.blocks,← mounted.blockSize]
      exact full.blocks
    · rw [← mounted.blocks]
      exact full.asserts
    · rw [← mounted.blocks,← mounted.blockSize]
      exact full.accesses
  · intro full
    refine ⟨e,_,file,disk,mounted.cache,?_,?_,?_,?_,?_⟩
    · rw [files,mounted.filename]
      exact here
    · exact full.path.trans mounted.filename.symm
    · rw [mounted.blocks,mounted.blockSize]
      exact full.blocks
    · rw [mounted.blocks]
      exact full.asserts
    · rw [mounted.blocks,mounted.blockSize,files]
      exact full.accesses

theorem openedImageAccessibleIff (disk : any.disk = some d) (unused : d.cache = none) (here : w.files d.filename = some file)
    (standard : sectorSize any file.length ∈ d.supportedBlockSizes)
    (sizes : ∀ size ∈ d.supportedBlockSizes, size ∈ standardSizes) {readOnlyFile : Bool} {u : HandlerState AnyDevice}
    (opened : AnyDevice.openFile readOnlyFile r ⟨any,t,w⟩ = (.ok .opened,u)) :
    Accessible u ↔ Narrow any d file.length := by
  obtain ⟨yes,u',e,ran,disk',exactly,mounted⟩ := imageMounts (r := r) (t := t) disk unused here standard sizes readOnlyFile
  rw [opened] at ran
  obtain ⟨same,rfl⟩ := Prod.mk.inj ran
  obtain rfl : yes = true := by
    cases yes with
    | false => cases same
    | true => rfl
  have able := exactly.mp rfl
  have after := mounted rfl
  have counts := accessibleIff (e := withGeometry any d file.length) here (sizes _ standard) able.cache
  refine (openedAccessible disk' after here).trans (counts.trans ?_)
  change blockCount any file.length = sectorCount any file.length ∧ (d.cachingMode = .piscsi → blockCount any file.length < 2^31) ↔ _
  constructor
  · rintro ⟨exact_,bound⟩
    rw [exact_] at bound
    refine ⟨bound,fun hd => ?_⟩
    rw [← exact_,blockCount,if_pos hd]
    exact Nat.mod_lt _ (by decide)
  · rintro ⟨bound,narrow⟩
    have exact_ := narrowCounts narrow
    rw [exact_]
    exact ⟨rfl,bound⟩

end

def drive : Disk :=
  { type := .schd, lun := 0, filename := "drive.hds", supportedBlockSizes := [512,1024,2048,4096], cachingMode := .piscsi }

/- Two sectors and a part of a third one. -/
def smallImage : Bytes := List.replicate 1034 0

def smallWorld : World := { files := fun _ => some smallImage }

theorem endsOk {ε α σ : Type} {p : Except ε α × σ} {a : α} (ok : p.1 = .ok a) : p = (.ok a,p.2) := Prod.ext ok rfl

theorem smallImageAccessible :
    Accessible (AnyDevice.openFile false { cdb := [] } ⟨.scsiHd drive,{},smallWorld⟩).2 := by
  have length : smallImage.length = 1034 := List.length_replicate
  have ends : (AnyDevice.openFile false { cdb := [] } ⟨.scsiHd drive,{},smallWorld⟩).1 = .ok .opened := by decide +kernel
  have count : sectorCount (.scsiHd drive) smallImage.length = 2 := by
    rw [sectorCount,length]
    decide
  have standard : 512 ∈ drive.supportedBlockSizes := by decide
  have sizes : ∀ size ∈ drive.supportedBlockSizes, size ∈ standardSizes := by decide
  have disk : (AnyDevice.scsiHd drive).disk = some drive := rfl
  refine (openedImageAccessibleIff disk rfl rfl standard sizes (endsOk ends)).mpr ⟨fun _ => ?_,fun _ => ?_⟩
  · rw [count]
    decide
  · rw [count]
    decide

theorem tracksStart {d : Disk} {path : String} {files : FileSystem} (mode : d.cachingMode = .piscsi) (some_ : int32 d.blocks ≠ 0)
    (named : path.isEmpty = false) : (newCache d path).init files = true := by
  unfold newCache
  rw [if_pos mode]
  simp [Cache.init,DiskCache.init,DiskCache.new,some_,named]

/- An image of 1 TiB has 2^31 sectors. -/
theorem largeImageInaccessible : ¬∀ any d r t w file readOnlyFile u, any.disk = some d → d.cache = none →
    w.files d.filename = some file → sectorSize any file.length ∈ d.supportedBlockSizes →
    (∀ size ∈ d.supportedBlockSizes, size ∈ standardSizes) →
    AnyDevice.openFile readOnlyFile r ⟨any,t,w⟩ = (.ok .opened,u) → Accessible u := by
  intro claim
  obtain ⟨file,length⟩ : ∃ file : Bytes, file.length = 2^40 := ⟨List.replicate (2^40) 0,List.length_replicate⟩
  let w : World := { files := fun _ => some file }
  have standard : 512 ∈ drive.supportedBlockSizes := by decide
  have sizes : ∀ size ∈ drive.supportedBlockSizes, size ∈ standardSizes := by decide
  have count : sectorCount (.scsiHd drive) file.length = 2^31 := by
    rw [sectorCount,length]
    decide
  have disk : (AnyDevice.scsiHd drive).disk = some drive := rfl
  have here : w.files drive.filename = some file := rfl
  obtain ⟨opened,u,_,ran,disk',exactly,mounted⟩ : ∃ opened u e, AnyDevice.openFile false { cdb := [] } ⟨.scsiHd drive,{},w⟩ = _ ∧ _ :=
    imageMounts disk rfl here standard sizes false
  have blocks : blockCount (.scsiHd drive) file.length = 2^31 := (narrowCounts fun _ => by rw [count]; decide).trans count
  have able : Mountable (withGeometry (.scsiHd drive) drive file.length) w := by
    refine ⟨?_,⟨file,rfl,?_⟩,?_⟩
    · change blockCount (.scsiHd drive) file.length ≠ 0
      rw [blocks]
      decide
    · rw [length]
      decide
    · have named : drive.filename.isEmpty = false := by decide
      refine tracksStart rfl ?_ named
      change int32 (blockCount (.scsiHd drive) file.length) ≠ 0
      rw [blocks]
      exact (int32Negative (by decide) (by decide)).ne
  cases exactly.mpr able
  have accessible := claim (.scsiHd drive) drive _ _ w file false u rfl rfl rfl standard sizes ran
  have full := (openedAccessible disk' (mounted rfl) here).mp accessible
  have size : (withGeometry (.scsiHd drive) drive file.length).blockSize ∈ standardSizes := sizes _ standard
  have here' : w.files (withGeometry (.scsiHd drive) drive file.length).filename = some file := rfl
  have bound := ((accessibleIff here' size able.cache).mp full).2 rfl
  change blockCount (.scsiHd drive) file.length < 2^31 at bound
  rw [blocks] at bound
  exact absurd bound (by decide)

end Scsi2Pi.ImageAccess
