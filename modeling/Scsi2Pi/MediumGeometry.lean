import Scsi2Pi.CacheGeometry
import Scsi2Pi.DiskAccess
import Scsi2Pi.ParameterList
import Scsi2Pi.StartStop

/-! The geometry of a medium: block size and block count fit into the image file, and
the cache has been set up with both. Commands keep it unless MODE SELECT selects
another block size or the wrong image file is loaded. -/
namespace Scsi2Pi.MediumGeometry
open Handler Derives Eff FileSystem

/- The cache in use has been set up with the current block size and block count. -/
def Fitted (d : Disk) : Prop := ∃ c, d.cache = some c ∧ c.SetUpWith d.blockSize d.blocks

/-! What the commands leave as it is. -/

structure KeptPrimary (s t : HandlerState PrimaryDevice) : Prop where
  ready : t.device.ready = s.device.ready
  removed : t.device.removed = s.device.removed
  world : t.world = s.world

structure KeptStorage (s t : HandlerState StorageDevice) : Prop where
  ready : t.device.ready = s.device.ready
  removed : t.device.removed = s.device.removed
  blockSize : t.device.blockSize = s.device.blockSize
  blocks : t.device.blocks = s.device.blocks
  filename : t.device.filename = s.device.filename
  world : t.world = s.world

structure Kept (s t : HandlerState Disk) : Prop where
  ready : t.device.ready = s.device.ready
  removed : t.device.removed = s.device.removed
  blockSize : t.device.blockSize = s.device.blockSize
  blocks : t.device.blocks = s.device.blocks
  filename : t.device.filename = s.device.filename
  fitted : Fitted s.device → Fitted t.device
  files : Grows s.world.files t.world.files

instance : IsPreorder (HandlerState PrimaryDevice) KeptPrimary where
  refl _ := ⟨rfl,rfl,rfl⟩
  trans _ _ _ h h' := ⟨h'.ready.trans h.ready,h'.removed.trans h.removed,h'.world.trans h.world⟩

instance : IsPreorder (HandlerState StorageDevice) KeptStorage where
  refl _ := ⟨rfl,rfl,rfl,rfl,rfl,rfl⟩
  trans _ _ _ h h' := ⟨h'.ready.trans h.ready,h'.removed.trans h.removed,h'.blockSize.trans h.blockSize,
    h'.blocks.trans h.blocks,h'.filename.trans h.filename,h'.world.trans h.world⟩

theorem Kept.refl (s : HandlerState Disk) : Kept s s := ⟨rfl,rfl,rfl,rfl,rfl,id,.refl _⟩

theorem Kept.trans {s t u : HandlerState Disk} (h : Kept s t) (h' : Kept t u) : Kept s u :=
  ⟨h'.ready.trans h.ready,h'.removed.trans h.removed,h'.blockSize.trans h.blockSize,h'.blocks.trans h.blocks,
    h'.filename.trans h.filename,fun fitted => h'.fitted (h.fitted fitted),h.files.trans h'.files⟩

instance : IsPreorder (HandlerState Disk) Kept where
  refl := Kept.refl
  trans _ _ _ := Kept.trans

section
variable {α : Type} {P : α → Prop} {s : HandlerState Disk}

theorem fittedSame {d e : Disk} (cache : e.cache = d.cache) (blockSize : e.blockSize = d.blockSize) (blocks : e.blocks = d.blocks)
    (fitted : Fitted d) : Fitted e := by
  obtain ⟨c,here,same⟩ := fitted
  exact ⟨c,cache.trans here,by rw [blockSize,blocks]; exact same⟩

theorem superPrimaryKept {h : Handler PrimaryDevice α} (kept : Meets KeptPrimary P h) :
    Meets Kept P (super h : Handler Disk α) := by
  have whole {s : HandlerState Disk} {t : HandlerState PrimaryDevice} (k : KeptPrimary ⟨base s.device,s.transfer,s.world⟩ t) :
      Kept s ⟨setBase s.device t.device,t.transfer,t.world⟩ :=
    ⟨k.ready,k.removed,rfl,rfl,rfl,fittedSame rfl rfl rfl,by rw [k.world]; exact .refl _⟩
  intro r s
  rw [wpSuper]
  exact wpMono (kept r _) (fun _ _ done => ⟨whole done.1,done.2⟩) fun _ _ failed => whole failed

theorem superStorageKept {h : Handler StorageDevice α} (kept : Meets KeptStorage P h) :
    Meets Kept P (super h : Handler Disk α) := by
  have whole {s : HandlerState Disk} {t : HandlerState StorageDevice} (k : KeptStorage ⟨base s.device,s.transfer,s.world⟩ t) :
      Kept s ⟨setBase s.device t.device,t.transfer,t.world⟩ :=
    ⟨k.ready,k.removed,k.blockSize,k.blocks,k.filename,fittedSame rfl k.blockSize k.blocks,by rw [k.world]; exact .refl _⟩
  intro r s
  rw [wpSuper]
  exact wpMono (kept r _) (fun _ _ done => ⟨whole done.1,done.2⟩) fun _ _ failed => whole failed

theorem keptModifyTransfer {δ : Type} {R : HandlerState δ → HandlerState δ → Prop} {f : Transfer → Transfer}
    (same : ∀ s, R s { s with transfer := f s.transfer }) : Does R (modifyTransfer f : Handler δ Unit) :=
  fun _ s => ⟨same s,trivial⟩

theorem keptBuffer (f : Bytes → Bytes) : Does Kept (setBuffer f : Handler Disk Unit) :=
  keptModifyTransfer fun _ => ⟨rfl,rfl,rfl,rfl,rfl,id,.refl _⟩

theorem keptCurrentLength (length : Int) : Does Kept (setCurrentLength length : Handler Disk Unit) :=
  keptModifyTransfer fun _ => ⟨rfl,rfl,rfl,rfl,rfl,id,.refl _⟩

theorem keptTransferSize (length size : Int) : Does Kept (setTransferSize length size : Handler Disk Unit) :=
  keptModifyTransfer fun _ => ⟨rfl,rfl,rfl,rfl,rfl,id,.refl _⟩

theorem keptCopy (data : Bytes) : Does Kept (copyToBuffer data : Handler Disk Unit) :=
  keptModifyTransfer fun _ => ⟨rfl,rfl,rfl,rfl,rfl,id,.refl _⟩

/- The counters of a transfer, and the caching mode. -/
theorem keptFields {f : Disk → Disk}
    (same : ∀ d, (f d).toStorageDevice = d.toStorageDevice ∧ (f d).cache = d.cache) : Does Kept (modifyDevice f) := by
  intro r s
  obtain ⟨storage,cache⟩ := same s.device
  refine ⟨⟨?_,?_,?_,?_,?_,fittedSame cache ?_ ?_,.refl _⟩,trivial⟩ <;> rw [storage]

end

/-! The functions of PrimaryDevice and StorageDevice. -/

theorem keptPrimaryIff {s t : HandlerState PrimaryDevice} : KeptPrimary s t ↔
    t.device.ready = s.device.ready ∧ t.device.removed = s.device.removed ∧ t.world = s.world :=
  ⟨fun h => ⟨h.ready,h.removed,h.world⟩,fun ⟨ready,removed,world⟩ => ⟨ready,removed,world⟩⟩

theorem keptStorageIff {s t : HandlerState StorageDevice} : KeptStorage s t ↔
    t.device.ready = s.device.ready ∧ t.device.removed = s.device.removed ∧ t.device.blockSize = s.device.blockSize ∧
      t.device.blocks = s.device.blocks ∧ t.device.filename = s.device.filename ∧ t.world = s.world :=
  ⟨fun h => ⟨h.ready,h.removed,h.blockSize,h.blocks,h.filename,h.world⟩,
    fun ⟨ready,removed,blockSize,blocks,filename,world⟩ => ⟨ready,removed,blockSize,blocks,filename,world⟩⟩

theorem checkReadyKept : Does KeptPrimary PrimaryDevice.checkReady := by
  intro r s
  simp [PrimaryDevice.checkReady,keptPrimaryIff]

theorem requestSenseKept : Does KeptPrimary PrimaryDevice.requestSense := by
  intro r s
  simp [PrimaryDevice.requestSense,PrimaryDevice.handleRequestSense,PrimaryDevice.reportMissingLun,keptPrimaryIff,
    PrimaryDevice.setStatus,PrimaryDevice.resetStatus]

theorem preconditionsKept : Does KeptStorage StorageDevice.checkWritePreconditions :=
  meetsThen doesGetDevice fun _ _ => meetsIte (fun _ => meetsThrow _) fun _ => doesPure _

theorem reportMediumChangeKept (cmd : ScsiCommand) : Does KeptStorage (StorageDevice.reportMediumChange cmd) := by
  intro r s
  simp [StorageDevice.reportMediumChange,keptStorageIff]

theorem preventKept : Does KeptStorage StorageDevice.preventAllowMediumRemoval := by
  intro r s
  simp [StorageDevice.preventAllowMediumRemoval,PrimaryDevice.checkReady,keptStorageIff,base,setBase]

/-! The cache. -/

section
variable {α : Type}

theorem withFilesKept {run : Cache → FileSystem → α × Cache × FileSystem} {c : Cache} {r : Request} {s : HandlerState Disk}
    (here : s.device.cache = some c) (follows : c.Follows s.world.files (run c s.world.files).2.1 (run c s.world.files).2.2) :
    wp (Disk.withFiles run c) r s (fun a t => a = (run c s.world.files).1 ∧ Kept s t) fun _ _ => False := by
  unfold Disk.withFiles
  simp only [wpBind,wpGetWorld,wpModifyDevice,wpSetWorld,wpPure]
  refine ⟨trivial,rfl,rfl,rfl,rfl,rfl,fun fitted => ?_,follows.2⟩
  obtain ⟨d,here',same⟩ := fitted
  cases here.symm.trans here'
  exact ⟨_,rfl,follows.1 _ _ same⟩

theorem flushCacheRuns (r : Request) (s : HandlerState Disk) :
    wp Disk.flushCache r s (fun _ t => Kept s t) fun _ _ => False := by
  unfold Disk.flushCache
  rw [wpBind,wpGetDevice]
  cases here : s.device.cache with
  | none => exact Kept.refl s
  | some c =>
    simp only [wpIte,wpPure,wpBind]
    refine ⟨fun _ => ?_,fun _ => Kept.refl s⟩
    exact wpMono (withFilesKept here (c.flushFollows _)) (fun _ _ done => done.2) fun _ _ failed => failed

theorem flushCacheKept : Does Kept Disk.flushCache := fun r s =>
  wpMono (flushCacheRuns r s) (fun _ _ kept => ⟨kept,trivial⟩) fun _ _ failed => failed.elim

/- A new cache always fits. -/
structure Renewed (s t : HandlerState Disk) : Prop where
  ready : t.device.ready = s.device.ready
  removed : t.device.removed = s.device.removed
  blockSize : t.device.blockSize = s.device.blockSize
  blocks : t.device.blocks = s.device.blocks
  filename : t.device.filename = s.device.filename
  fitted : Fitted t.device
  files : Grows s.world.files t.world.files

theorem Renewed.kept {s t : HandlerState Disk} (h : Renewed s t) : Kept s t :=
  ⟨h.ready,h.removed,h.blockSize,h.blocks,h.filename,fun _ => h.fitted,h.files⟩

def newCache (d : Disk) (path : String) : Cache :=
  if d.cachingMode = .piscsi then .tracks (.new path d.blockSize d.blocks)
  else .stream ⟨path,d.blockSize,d.blocks,d.cachingMode = .writeThrough,none⟩

theorem newCacheFits (d : Disk) (path : String) : (newCache d path).SetUpWith d.blockSize d.blocks := by
  unfold newCache
  split <;> simp only [Cache.SetUpWith,DiskCache.new,and_self]

theorem dropCacheRuns (s : HandlerState Disk) (r : Request) : ∃ files, Grows s.world.files files ∧
    Disk.dropCache r s = (.ok (),⟨{ s.device with cache := none },s.transfer,{ s.world with files }⟩) := by
  unfold Disk.dropCache
  cases here : s.device.cache with
  | none => exact ⟨s.world.files,.refl _,by simp [bind,getDevice,getWorld,modifyDevice,here]⟩
  | some c =>
    exact ⟨c.drop s.world.files,c.dropGrows _,by simp [bind,getDevice,getWorld,modifyDevice,setWorld,here]⟩

theorem initCacheRuns (path : String) (s : HandlerState Disk) (r : Request) : ∃ files, Grows s.world.files files ∧
    Disk.initCache path r s = (.ok ((newCache s.device path).init files),
      ⟨{ s.device with cache := some (newCache s.device path) },s.transfer,{ s.world with files }⟩) := by
  obtain ⟨files,grows,dropped⟩ := dropCacheRuns s r
  exact ⟨files,grows,bindOk dropped⟩

theorem initCacheRenews (path : String) (r : Request) (s : HandlerState Disk) :
    wp (Disk.initCache path) r s (fun ok t => Renewed s t ∧ ok = (newCache s.device path).init t.world.files)
      fun _ _ => False := by
  obtain ⟨files,grows,ran⟩ := initCacheRuns path s r
  unfold wp
  rw [ran]
  exact ⟨⟨rfl,rfl,rfl,rfl,rfl,⟨_,rfl,newCacheFits s.device path⟩,grows⟩,rfl⟩

theorem setUpCacheRenews (r : Request) (s : HandlerState Disk) :
    wp Disk.setUpCache r s (fun ok t => Renewed s t ∧ ∃ d : Disk, d.toStorageDevice = s.device.toStorageDevice ∧
      ok = (newCache d s.device.filename).init t.world.files) fun _ _ => False := by
  unfold Disk.setUpCache
  simp only [wpBind,wpGetDevice,wpIte,wpModifyDevice]
  refine ⟨fun _ => ?_,fun _ => ?_⟩
  · refine wpMono (initCacheRenews _ r _) (fun _ _ done => ?_) fun _ _ failed => failed
    obtain ⟨h,same⟩ := done
    exact ⟨⟨h.ready,h.removed,h.blockSize,h.blocks,h.filename,h.fitted,h.files⟩,{ s.device with cachingMode := .linux },rfl,same⟩
  · exact wpMono (initCacheRenews _ r _) (fun _ _ done => ⟨done.1,_,rfl,done.2⟩) fun _ _ failed => failed

/-! The commands of Disk. -/

theorem diskReadyKept : Does Kept Disk.checkReady := superPrimaryKept checkReadyKept

theorem startAndCountKept (mode : Disk.AccessMode) : Does Kept (Disk.checkAndGetStartAndCount mode) := by
  refine meetsThen diskReadyKept fun _ _ => meetsThen doesGetRequest fun r _ => meetsThen doesGetDevice fun d _ => ?_
  exact meetsUnless fun _ => doesPure _

theorem blockAddressKept (mode : Disk.AccessMode) : Does Kept (Disk.validateBlockAddress mode) := by
  refine meetsThen diskReadyKept fun _ _ => meetsThen doesGetRequest fun r _ => meetsUnless fun _ => ?_
  exact meetsThen doesGetDevice fun d _ => meetsUnless fun _ => doesPure _

theorem prepareTransferKept (start count : Nat) : Does Kept (Disk.prepareTransfer start count) := by
  refine meetsThen doesGetDevice fun d _ => meetsThen (keptFields fun _ => ⟨rfl,rfl⟩) fun _ _ => ?_
  exact meetsThen (keptTransferSize _ _) fun _ _ => doesPure _

theorem readDataKept : Does Kept Disk.readData := by
  refine meetsThen diskReadyKept fun _ _ => ?_
  intro r s
  rw [wpBind,wpGetDevice]
  cases here : s.device.cache with
  | none => exact Kept.refl s
  | some c =>
    rw [wpBind]
    refine wpMono (withFilesKept here (c.readSectorsFollows _ _ _)) (fun found t done => ?_) fun _ _ failed => failed.elim
    have kept := done.2
    cases found with
    | none => exact kept
    | some data =>
      have rest : Does Kept (do
          Disk.fillBuffer data
          modifyDevice fun d => { d with nextSector := d.nextSector + d.sectorTransferCount }
          return Disk.size s.device.sectorTransferCount s.device.blockSize : Handler Disk Int) :=
        meetsThen (keptBuffer _) fun _ _ => meetsThen (keptFields fun _ => ⟨rfl,rfl⟩) fun _ _ => doesPure _
      exact wpMono (rest r t) (fun _ _ ended => ⟨kept.trans ended.1,trivial⟩) fun _ _ failed => kept.trans failed

theorem withStreamKept {run : LinuxCache → FileSystem → α × LinuxCache × FileSystem} {c : LinuxCache} {r : Request}
    {s : HandlerState Disk} (here : s.device.cache = some (.stream c))
    (follows : c.Follows s.world.files (run c s.world.files).2.1 (run c s.world.files).2.2) :
    wp (Disk.withStream run c) r s (fun _ t => Kept s t) fun _ _ => False :=
  wpMono (withFilesKept here (Cache.streamFollows follows)) (fun _ _ done => done.2) fun _ _ failed => failed

theorem storeLongKept : Does Kept Disk.storeLong := by
  intro r s
  unfold Disk.storeLong
  rw [wpBind,wpGetDevice,wpBind,wpGetTransfer]
  cases here : s.device.cache with
  | none => exact Kept.refl s
  | some c =>
    cases c with
    | tracks c => exact Kept.refl s
    | stream c =>
      rw [wpBind]
      refine wpMono (withStreamKept here (c.writeLongFollows _ _ _ _)) (fun ok t done => ?_) fun _ _ failed => failed.elim
      rw [wpIte]
      exact ⟨fun _ => done,fun _ => ⟨done,trivial⟩⟩

theorem storeSectorsKept : Does Kept Disk.storeSectors := by
  intro r s
  unfold Disk.storeSectors
  rw [wpBind,wpGetDevice,wpBind,wpGetTransfer]
  cases here : s.device.cache with
  | none => exact Kept.refl s
  | some c =>
    rw [wpBind]
    refine wpMono (withFilesKept here (c.writeSectorsFollows _ _ _ _)) (fun ok t done => ?_) fun _ _ failed => failed.elim
    rw [wpIte]
    exact ⟨fun _ => done.2,fun _ => ⟨done.2,trivial⟩⟩

theorem writeDataKept (length : Int) : Does Kept (Disk.writeData length) := by
  have next : Does Kept (do
      modifyDevice fun d => { d with nextSector := d.nextSector + d.sectorTransferCount }
      return length : Handler Disk Int) := meetsThen (keptFields fun _ => ⟨rfl,rfl⟩) fun _ _ => doesPure _
  refine meetsThen diskReadyKept fun _ _ => meetsThen doesGetRequest fun r _ => meetsIte (fun _ => ?_) (fun _ => ?_)
  · exact meetsThen storeLongKept fun _ _ => doesPure _
  · exact meetsIte (fun _ => meetsThen storeSectorsKept fun _ _ => next) (fun _ => next)

theorem writeVerifyKept (start count : Nat) (dataOut : Bool) : Does Kept (Disk.writeVerify start count dataOut) := by
  refine meetsIte (fun _ => ?_) (fun _ => doesPure _)
  exact meetsThen (prepareTransferKept start count) fun _ _ => meetsThen doesGetDevice fun _ _ => doesPure _

theorem writeKept (mode : Disk.AccessMode) : Does Kept (Disk.write mode) := by
  refine meetsThen (superStorageKept preconditionsKept) fun _ _ => meetsThen (startAndCountKept mode) fun found _ => ?_
  obtain ⟨valid,start,count⟩ := found
  exact writeVerifyKept start count valid

theorem verifyKept (mode : Disk.AccessMode) : Does Kept (Disk.verify mode) := by
  refine meetsThen (startAndCountKept mode) fun found _ => meetsThen flushCacheKept fun _ _ => ?_
  exact writeVerifyKept _ _ false

/- A cache that is replaced is replaced by a stream of the same geometry. -/
theorem switchToStreamKept (r : Request) (s : HandlerState Disk) : wp Disk.switchToStream r s
    (fun c t => Kept s t ∧ t.device.cache = some (.stream c)) fun _ _ => False := by
  have replaced : wp Disk.replaceByStream r s (fun c t => Kept s t ∧ t.device.cache = some (.stream c)) fun _ _ => False := by
    unfold Disk.replaceByStream
    rw [wpBind]
    refine wpMono (flushCacheRuns r s) (fun _ t kept => ?_) fun _ _ failed => failed
    rw [wpBind,wpModifyDevice,wpBind,wpGetDevice,wpBind]
    obtain ⟨files,grows,ran⟩ := initCacheRuns t.device.filename { t with device := { t.device with cachingMode := .linux } } r
    unfold wp
    dsimp only at ran ⊢
    rw [ran]
    have fits := newCacheFits { t.device with cachingMode := .linux } t.device.filename
    exact ⟨kept.trans ⟨rfl,rfl,rfl,rfl,rfl,fun _ => ⟨_,rfl,fits⟩,grows⟩,rfl⟩
  unfold Disk.switchToStream
  rw [wpBind,wpGetDevice]
  cases here : s.device.cache with
  | none => exact replaced
  | some c =>
    cases c with
    | tracks c => exact replaced
    | stream c => exact ⟨Kept.refl s,here⟩

theorem longLengthKept (length : Nat) : Does Kept (Disk.checkLongLength length) := by
  refine meetsThen doesGetDevice fun d _ => meetsIte (fun _ => ?_) (fun _ => doesPure _)
  have noted : Does KeptPrimary (modifyDevice fun (p : PrimaryDevice) =>
      ({ p with ili := true }).setInformation ((length : Int) - d.blockSize)) := fun _ _ => ⟨⟨rfl,rfl,rfl⟩,trivial⟩
  exact meetsThen (superPrimaryKept noted) fun _ _ => meetsThrow _

theorem readWriteLongKept (sector length : Nat) (write : Bool) : Does Kept (Disk.readWriteLong sector length write) := by
  have transfer : Does Kept (Disk.transferLong sector length write) := by
    intro r s
    unfold Disk.transferLong
    rw [wpBind]
    refine wpMono (switchToStreamKept r s) (fun c t done => ?_) fun _ _ failed => failed.elim
    obtain ⟨kept,here⟩ := done
    unfold Disk.checkReady
    rw [wpBind,wpSuper]
    have whole {u : HandlerState PrimaryDevice} (k : KeptPrimary ⟨base t.device,t.transfer,t.world⟩ u) :
        Kept t ⟨setBase t.device u.device,u.transfer,u.world⟩ :=
      ⟨k.ready,k.removed,rfl,rfl,rfl,fittedSame rfl rfl rfl,by rw [k.world]; exact .refl _⟩
    refine wpMono (checkReadyKept r _) (fun _ u ready => ?_) fun _ _ failed => kept.trans (whole failed)
    have sofar := kept.trans (whole ready.1)
    have there : (setBase t.device u.device : Disk).cache = some (.stream c) := here
    simp only [wpBind,wpSetTransferSize,wpIte,wpModifyDevice,wpPure,wpSetCurrentLength]
    refine ⟨fun _ => ⟨sofar.trans ⟨rfl,rfl,rfl,rfl,rfl,fittedSame rfl rfl rfl,.refl _⟩,trivial⟩,fun _ => ?_⟩
    refine wpMono (withStreamKept there (c.readLongFollows _ _ _)) (fun found v done => ?_) fun _ _ failed => failed.elim
    have sized : Kept ⟨setBase t.device u.device,u.transfer,u.world⟩ ⟨setBase t.device u.device,
        (u.transfer.setTransferSize length length).setCurrentLength length,u.world⟩ := ⟨rfl,rfl,rfl,rfl,rfl,id,.refl _⟩
    have last := sofar.trans (sized.trans done)
    cases found with
    | none => exact ⟨last,trivial⟩
    | some data => exact ⟨last.trans ⟨rfl,rfl,rfl,rfl,rfl,id,.refl _⟩,trivial⟩
  have checked : Does Kept (if length = 0 then pure .status else do
      Disk.checkLongLength length
      Disk.transferLong sector length write) :=
    meetsIte (fun _ => doesPure _) fun _ => meetsThen (longLengthKept length) fun _ _ => transfer
  exact meetsIte (fun _ => meetsThen (superStorageKept preconditionsKept) fun _ _ => checked) fun _ => checked

theorem capacityKept : Does Kept Disk.readCapacity16 := by
  refine meetsThen diskReadyKept fun _ _ => meetsThen doesGetDevice fun _ _ => meetsUnless fun _ => ?_
  exact meetsThen (keptBuffer _) fun _ _ => meetsThen doesGetRequest fun _ _ => doesPure _

end

/-! Devices of the classes of disks. -/

/- The tracks of all devices but CD-ROM drives always are initialized. -/
def tracked : AnyDevice → Bool
  | .scsiCd d => d.trackInitialized
  | _ => true

/- The sectors fit into the file, even if the number of sectors is still to be set. -/
def Room (any : AnyDevice) (d : Disk) (file : Bytes) : Prop :=
  d.blocks * d.blockSize ≤ file.length ∧ (tracked any = false → 2^32 * d.blockSize ≤ file.length)

structure SoundDisk (any : AnyDevice) (d : Disk) (w : World) : Prop where
  removed : d.removed = true → d.ready = false
  fitted : d.ready = true → Fitted d
  room : d.ready = true → ∃ file, w.files d.filename = some file ∧ Room any d file

def Sound (any : AnyDevice) (w : World) : Prop := ∀ d, any.disk = some d → SoundDisk any d w

structure DiskUnit {δ : Type} [Derives δ Disk] [Derives δ StorageDevice] [Derives δ PrimaryDevice] (put : δ → AnyDevice) :
    Prop where
  disk : ∀ d, (put d).disk = some (base d)
  tracked : ∀ d (b : Disk), tracked (put (setBase d b)) = tracked (put d)
  baseStorage : ∀ d : δ, (base d : StorageDevice) = (base d : Disk).toStorageDevice
  setStorage : ∀ (d : δ) (b : StorageDevice),
    (setBase d b : δ) = setBase d ({ (base d : Disk) with toStorageDevice := b } : Disk)
  basePrimary : ∀ d : δ, (base d : PrimaryDevice) = (base d : Disk).toPrimaryDevice
  setPrimary : ∀ (d : δ) (b : PrimaryDevice),
    (setBase d b : δ) = setBase d ({ (base d : Disk) with toPrimaryDevice := b } : Disk)

section
variable {δ α : Type}

/- A handler of a class whose devices are put under a common type. -/
def Preserves (put : δ → AnyDevice) (s t : HandlerState δ) : Prop :=
  Sound (put s.device) s.world → Sound (put t.device) t.world

instance (put : δ → AnyDevice) : IsPreorder (HandlerState δ) (Preserves put) where
  refl _ := id
  trans _ _ _ h h' := h' ∘ h

variable [Derives δ Disk] [Derives δ StorageDevice] [Derives δ PrimaryDevice] {put : δ → AnyDevice} {P : α → Prop}

/- A disk that is not ready has no geometry. -/
theorem idleSound (unit : DiskUnit put) {d : δ} {w : World} (idle : (base d : Disk).ready = false) : Sound (put d) w := by
  intro e disk
  cases (unit.disk d).symm.trans disk
  have never : ¬(base d : Disk).ready = true := by simp [idle]
  exact ⟨fun _ => idle,fun ready => absurd ready never,fun ready => absurd ready never⟩

theorem keptSound (unit : DiskUnit put) {d : δ} {t : Transfer} {w : World} {u : HandlerState Disk} (kept : Kept ⟨base d,t,w⟩ u) :
    Preserves put ⟨d,t,w⟩ ⟨setBase d u.device,u.transfer,u.world⟩ := by
  intro sound e disk
  cases (unit.disk _).symm.trans disk
  rw [baseSet]
  have before := sound _ (unit.disk d)
  refine ⟨fun removed => ?_,fun ready => ?_,fun ready => ?_⟩
  · rw [kept.ready]
    exact before.removed (kept.removed.symm.trans removed)
  · exact kept.fitted (before.fitted (kept.ready.symm.trans ready))
  · obtain ⟨file,here,fits,more⟩ := before.room (kept.ready.symm.trans ready)
    obtain ⟨file',here',longer⟩ := kept.files _ file here
    refine ⟨file',by rw [kept.filename]; exact here',?_⟩
    unfold Room
    rw [unit.tracked,kept.blocks,kept.blockSize]
    exact ⟨fits.trans longer,fun untracked => (more untracked).trans longer⟩

theorem superKept (unit : DiskUnit put) {h : Handler Disk α} (kept : Meets Kept P h) :
    Meets (Preserves put) P (super h : Handler δ α) := by
  intro r s
  rw [wpSuper]
  exact wpMono (kept r _) (fun _ _ done => ⟨keptSound unit done.1,done.2⟩) fun _ _ failed => keptSound unit failed

theorem superStorageTwice (unit : DiskUnit put) (h : Handler StorageDevice α) :
    (super h : Handler δ α) = super (super h : Handler Disk α) := by
  funext r s
  simp only [super,zoom,unit.baseStorage,unit.setStorage]
  rfl

theorem superPrimaryTwice (unit : DiskUnit put) (h : Handler PrimaryDevice α) :
    (super h : Handler δ α) = super (super h : Handler Disk α) := by
  funext r s
  simp only [super,zoom,unit.basePrimary,unit.setPrimary]
  rfl

theorem storagePreserves (unit : DiskUnit put) {h : Handler StorageDevice α} (kept : Meets KeptStorage P h) :
    Meets (Preserves put) P (super h : Handler δ α) := by
  rw [superStorageTwice unit]
  exact superKept unit (superStorageKept kept)

theorem primaryPreserves (unit : DiskUnit put) {h : Handler PrimaryDevice α} (kept : Meets KeptPrimary P h) :
    Meets (Preserves put) P (super h : Handler δ α) := by
  rw [superPrimaryTwice unit]
  exact superKept unit (superPrimaryKept kept)

omit [Derives δ Disk] [Derives δ StorageDevice] [Derives δ PrimaryDevice] in
theorem bufferPreserves (f : Bytes → Bytes) : Does (Preserves put) (setBuffer f : Handler δ Unit) :=
  keptModifyTransfer fun _ => id

theorem readPreserves (unit : DiskUnit put) {readData : Handler δ Int} (data : Does (Preserves put) readData)
    (mode : Disk.AccessMode) : Does (Preserves put) (Disk.read readData mode) := by
  refine meetsThen (superKept unit (startAndCountKept mode)) fun found _ => ?_
  obtain ⟨valid,start,count⟩ := found
  refine meetsIte (fun _ => ?_) (fun _ => doesPure _)
  refine meetsThen (superKept unit (prepareTransferKept start count)) fun _ _ => meetsThen doesGetDevice fun _ _ => ?_
  exact meetsThen (keptModifyTransfer fun _ => id) fun _ _ => meetsThen data fun _ _ => doesPure _

theorem diskCommandsPreserve (unit : DiskUnit put) {readData : Handler δ Int} (data : Does (Preserves put) readData) :
    ∀ c ∈ Disk.commands readData, Does (Preserves put) c.2 := by
  have ready : Does Kept (do Disk.checkReady; return PhaseCall.status) := meetsThen diskReadyKept fun _ _ => doesPure _
  have seeks (mode : Disk.AccessMode) : Does Kept (Disk.seek mode) :=
    meetsThen (startAndCountKept mode) fun _ _ => doesPure _
  have long10 (write : Bool) : Does Kept (do
      Disk.readWriteLong (← Disk.validateBlockAddress .rw10) ((← getRequest).cdbInt16 7) write) :=
    meetsThen (blockAddressKept _) fun _ _ => meetsThen doesGetRequest fun _ _ => readWriteLongKept _ _ _
  have synchronizes : Does Kept Disk.synchronizeCache := meetsThen flushCacheKept fun _ _ => doesPure _
  simp only [Disk.commands,List.forall_mem_cons,List.not_mem_nil,false_implies,implies_true,and_true]
  refine ⟨superKept unit ready,superKept unit ?_,superKept unit ready,readPreserves unit data _,
    superKept unit (writeKept _),superKept unit (seeks _),superKept unit ?_,readPreserves unit data _,
    superKept unit (writeKept _),superKept unit (long10 false),superKept unit (long10 true),superKept unit ?_,
    superKept unit (seeks _),superKept unit (verifyKept _),superKept unit synchronizes,superKept unit synchronizes,
    superKept unit ?_,readPreserves unit data _,superKept unit (writeKept _),superKept unit (verifyKept _),
    superKept unit ?_,superKept unit ?_⟩
  · refine meetsThen diskReadyKept fun _ _ => meetsThen doesGetRequest fun _ _ => meetsUnless fun _ => doesPure _
  · refine meetsThen diskReadyKept fun _ _ => meetsThen doesGetDevice fun _ _ => meetsUnless fun _ => ?_
    exact meetsThen (keptBuffer _) fun _ _ => doesPure _
  · exact meetsThen (blockAddressKept _) fun _ _ => meetsThen doesGetRequest fun _ _ => readWriteLongKept _ _ _
  · refine meetsThen doesGetRequest fun _ _ => meetsThen (keptCurrentLength _) fun _ _ => ?_
    exact meetsThen (keptBuffer _) fun _ _ => doesPure _
  · refine meetsThen doesGetRequest fun _ _ => meetsIte (fun _ => capacityKept) (fun _ => ?_)
    refine meetsIte (fun _ => ?_) (fun _ => meetsThrow _)
    exact meetsThen (blockAddressKept _) fun _ _ => readWriteLongKept _ _ _
  · refine meetsThen diskReadyKept fun _ _ => meetsThen doesGetDevice fun _ _ => ?_
    exact meetsThen (keptBuffer _) fun _ _ => meetsThen doesGetRequest fun _ _ => doesPure _

theorem primaryCommandsPreserve (unit : DiskUnit put) {inquiry requestSense : Handler δ PhaseCall}
    (hi : Does (Preserves put) inquiry) (hr : Does (Preserves put) requestSense) :
    ∀ c ∈ PrimaryDevice.commands inquiry requestSense, Does (Preserves put) c.2 := by
  simp only [PrimaryDevice.commands,List.forall_mem_cons,List.not_mem_nil,false_implies,implies_true,and_true]
  refine ⟨primaryPreserves unit ?_,hi,primaryPreserves unit ?_,hr,primaryPreserves unit ?_,primaryPreserves unit ?_,
    primaryPreserves unit ?_⟩
  · exact meetsThen checkReadyKept fun _ _ => doesPure _
  · intro r s
    simp [PrimaryDevice.reportLuns,keptPrimaryIff]
  · intro r s
    simp [PrimaryDevice.reserve,keptPrimaryIff]
  · intro r s
    simp [PrimaryDevice.release,keptPrimaryIff,PrimaryDevice.discardReservation]
  · intro r s
    simp [PrimaryDevice.sendDiagnostic,keptPrimaryIff]

omit [Derives δ Disk] [Derives δ StorageDevice] [Derives δ PrimaryDevice] in
theorem copyPreserves (data : Bytes) : Does (Preserves put) (copyToBuffer data : Handler δ Unit) :=
  keptModifyTransfer fun _ => id

omit [Derives δ Disk] [Derives δ StorageDevice] in
theorem inquiryPreserves (type : DeviceType) (removable : PrimaryDevice → Bool) :
    Does (Preserves put) (PrimaryDevice.inquiry (inquiryInternal type removable) : Handler δ PhaseCall) := by
  refine meetsThen doesGetRequest fun r _ => meetsUnless fun _ => ?_
  refine meetsThen (meetsThen doesGetDevice fun _ _ => doesPure _) fun buf _ => meetsThen (copyPreserves _) fun _ _ => ?_
  refine meetsIte (fun _ => ?_) (fun _ => doesPure _)
  exact meetsThen (bufferPreserves _) fun _ _ => doesPure _

omit [Derives δ Disk] [Derives δ PrimaryDevice] in
theorem modeSense6Preserves (v : StorageDevice.Virtual δ) : Does (Preserves put) (StorageDevice.modeSense6 v) := by
  intro r s
  simp [StorageDevice.modeSense6,PageHandler.addModePages,Preserves]

omit [Derives δ Disk] [Derives δ PrimaryDevice] in
theorem modeSense10Preserves (v : StorageDevice.Virtual δ) : Does (Preserves put) (StorageDevice.modeSense10 v) := by
  intro r s
  simp [StorageDevice.modeSense10,PageHandler.addModePages,Preserves]

omit [Derives δ Disk] [Derives δ PrimaryDevice] in
theorem pageCommandsPreserve (v : StorageDevice.Virtual δ) (supportsModeSelect supportsSaveParameters : Bool) :
    ∀ c ∈ PageHandler.commands (StorageDevice.modeSense6 v) (StorageDevice.modeSense10 v) supportsModeSelect
      supportsSaveParameters, Does (Preserves put) c.2 := by
  have select (length : Nat) : Does (Preserves put)
      (PageHandler.modeSelect supportsModeSelect supportsSaveParameters length : Handler δ PhaseCall) :=
    meetsThen doesGetRequest fun _ _ => meetsUnless fun _ => doesPure _
  simp only [PageHandler.commands,List.forall_mem_cons,List.not_mem_nil,false_implies,implies_true,and_true]
  refine ⟨?_,?_,?_,?_⟩
  · exact meetsThen (modeSense6Preserves v) fun _ _ => doesPure _
  · exact meetsThen (modeSense10Preserves v) fun _ _ => doesPure _
  · exact meetsThen doesGetRequest fun _ _ => select _
  · exact meetsThen doesGetRequest fun _ _ => select _

/-! START STOP UNIT. -/

open StorageDevice in
/- A load puts a file in the place of the one in use, which does not close it. -/
def LoadFits (any : AnyDevice) (r : Request) (w : World) : Prop :=
  ∀ d, any.disk = some d → d.mediumChanged = false → startBit r = true → loadBit r = true → d.ready = true →
    d.lastFilename ≠ "" → ∃ file, w.files d.lastFilename = some file ∧ Room any d file

theorem ejectPreserves (unit : DiskUnit put) (force : Bool) :
    Does (Preserves put) (super (Disk.eject force) : Handler δ Bool) := by
  intro r s
  rw [wpSuper]
  cases able : (base s.device : Disk).canEject force with
  | false =>
    rw [wp,Disk.ejectRefused able]
    refine ⟨?_,trivial⟩
    rw [setBaseSelf]
    exact refl s
  | true =>
    refine wpMono (Disk.ejectDone r able) (fun _ t ended => ⟨fun _ => ?_,trivial⟩) fun _ _ failed => failed.elim
    have idle : t.device.ready = false := congrArg (·.ready) ended.2.storage
    exact idleSound unit (by rw [baseSet]; exact idle)

/- Another file name, and the flag of a media change. -/
theorem loadedSound (unit : DiskUnit put) {s : HandlerState δ} {r : Request} (fits : LoadFits (put s.device) r s.world)
    (same : (base s.device : StorageDevice).mediumChanged = false) (start : StorageDevice.startBit r = true)
    (load : StorageDevice.loadBit r = true) (named : (base s.device : StorageDevice).lastFilename ≠ "") (changed : Bool)
    (reserved : String → Option (Int × Nat)) :
    Sound (put s.device) s.world → Sound (put (setBase s.device { (base s.device : StorageDevice) with
      filename := (base s.device : StorageDevice).lastFilename, mediumChanged := changed }))
        { s.world with reservedFiles := reserved } := by
  intro sound e disk
  rw [unit.setStorage] at disk ⊢
  cases (unit.disk _).symm.trans disk
  rw [baseSet]
  rw [unit.baseStorage] at same named ⊢
  have before := sound _ (unit.disk s.device)
  refine ⟨before.removed,fun ready => fittedSame rfl rfl rfl (before.fitted ready),fun ready => ?_⟩
  obtain ⟨file,here,fits,more⟩ := fits _ (unit.disk s.device) same start load ready named
  refine ⟨file,here,?_⟩
  unfold Room
  rw [unit.tracked]
  exact ⟨fits,more⟩

theorem startMediumPreserves (unit : DiskUnit put) {r : Request} {s : HandlerState δ}
    (fits : LoadFits (put s.device) r s.world) (same : (base s.device : StorageDevice).mediumChanged = false)
    (start : StorageDevice.startBit r = true) (load : Bool) (loads : load = StorageDevice.loadBit r) :
    wp (StorageDevice.startMedium load : Handler δ Unit) r s (fun _ t => Preserves put s t) fun _ t => Preserves put s t := by
  unfold StorageDevice.startMedium
  simp only [wpBind,wpGetRequest,wpGetDevice,wpIte,wpPure,wpSuper,wpModifyDevice,wpGetWorld,wpThrow,wpSetWorld]
  refine ⟨fun asked => ?_,fun _ => refl s⟩
  have loaded := loadedSound unit fits same start (loads.symm.trans asked.1) asked.2
  refine ⟨fun _ => ?_,fun _ => ?_⟩
  · intro sound
    exact loaded _ _ sound
  · intro sound
    rw [baseSet,setBaseTwice]
    unfold StorageDevice.reserveFile
    split
    · exact loaded true s.world.reservedFiles sound
    · exact loaded true _ sound

theorem startStopPreserves (unit : DiskUnit put) (pages : Request → δ → Nat → Bool → Pages → Pages) {r : Request}
    {s : HandlerState δ} (fits : LoadFits (put s.device) r s.world)
    (same : (base s.device : StorageDevice).mediumChanged = false) :
    wp (StorageDevice.startStopUnit (Disk.virtual pages)) r s (fun _ t => Preserves put s t) fun _ t => Preserves put s t := by
  rw [wp,StorageDevice.startStopUnitEq]
  change wp (StorageDevice.startStop (Disk.virtual pages) (StorageDevice.startBit r) (StorageDevice.loadBit r)) r s _ _
  have flags (stopped : Bool) : Does KeptStorage (modifyDevice fun (d : StorageDevice) => { d with stopped }) :=
    fun _ _ => ⟨⟨rfl,rfl,rfl,rfl,rfl,rfl⟩,trivial⟩
  have weaken {h : Handler δ PhaseCall} (does : Does (Preserves put) h) :
      wp h r s (fun _ t => Preserves put s t) fun _ t => Preserves put s t :=
    wpMono (does r s) (fun _ _ ended => ended.1) fun _ _ failed => failed
  cases load : StorageDevice.loadBit r with
  | true =>
    cases start : StorageDevice.startBit r with
    | true =>
      refine (wpBind _ _).mpr (wpMono (startMediumPreserves unit fits same start true load.symm) (fun _ _ ended => ended) ?_)
      exact fun _ _ failed => failed
    | false =>
      refine weaken (meetsThen (?_ : Does (Preserves put) (StorageDevice.stopMedium (Disk.virtual pages) true)) fun _ _ => doesPure _)
      refine meetsThen doesGetDevice fun d _ => meetsUnless fun _ => ?_
      exact meetsThen (ejectPreserves unit false) fun _ _ => meetsIte (fun _ => meetsThrow _) fun _ => doesPure _
  | false =>
    cases start : StorageDevice.startBit r with
    | true => exact weaken (meetsThen (storagePreserves unit (flags _)) fun _ _ => doesPure _)
    | false =>
      refine weaken (meetsThen (storagePreserves unit (flags _)) fun _ _ => ?_)
      exact meetsThen (superKept unit flushCacheKept) fun _ _ => doesPure _

theorem dispatchPreserves (unit : DiskUnit put) {pages : Request → δ → Nat → Bool → Pages → Pages}
    {commands : List (ScsiCommand × Handler δ PhaseCall)}
    (each : ∀ c ∈ commands, c.1 ≠ .startStop → Does (Preserves put) c.2)
    (found : commands.lookup .startStop = some (StorageDevice.startStopUnit (Disk.virtual pages))) {cmd : ScsiCommand}
    {r : Request} {s : HandlerState δ} (fits : cmd = .startStop → LoadFits (put s.device) r s.world) :
    wp (StorageDevice.dispatch commands cmd) r s (fun _ t => Preserves put s t) fun _ t => Preserves put s t := by
  by_cases start : cmd = .startStop
  · subst start
    have known : Handler.dispatch commands .startStop = StorageDevice.startStopUnit (Disk.virtual pages) := by
      unfold Handler.dispatch
      rw [found]
    have noted := storagePreserves unit (reportMediumChangeKept .startStop) r s
    simp only [StorageDevice.dispatch,known,StorageDevice.reportMediumChange,wpBind,wpSuper,wpGetDevice,wpIte,wpModifyDevice,
      wpThrow,wpPure,setBaseSelf] at noted ⊢
    refine ⟨noted.1,fun unchanged => startStopPreserves unit pages (fits rfl) ?_⟩
    exact Bool.eq_false_iff.mpr fun changed => unchanged ⟨by decide,by decide,changed⟩
  · have does : Does (Preserves put) (StorageDevice.dispatch commands cmd) := by
      refine meetsThen (storagePreserves unit (reportMediumChangeKept cmd)) fun _ _ => ?_
      unfold Handler.dispatch
      cases listed : commands.lookup cmd with
      | none => exact meetsThrow _
      | some command =>
        obtain ⟨before,after,split,_⟩ := List.lookup_eq_some_iff.mp listed
        exact each (cmd,command) (by rw [split]; simp) start
    exact wpMono (does r s) (fun _ _ ended => ended.1) fun _ _ failed => failed

/- A ready disk does not get another block size. -/
def SizeStays (any : AnyDevice) (r : Request) (buf : Bytes) (length : Nat) : Prop :=
  ∀ d, any.disk = some d → d.ready = true → ¬ParameterList.Selects r buf length d.blockSize

theorem modeSelectPreserves (unit : DiskUnit put) {v : StorageDevice.Virtual δ} (checks : ParameterList.Checks v False id)
    {length : Int} {r : Request} {s : HandlerState δ} (stays : SizeStays (put s.device) r s.transfer.buffer length.toNat) :
    wp (StorageDevice.modeSelect v length) r s (fun _ t => Preserves put s t) fun _ t => Preserves put s t := by
  have preserved {t : HandlerState δ} (stores : ParameterList.Stores r length.toNat s t) : Preserves put s t := by
    obtain ⟨world,same | ⟨selects,changed⟩⟩ := stores
    · intro sound
      rw [same,world]
      exact sound
    · intro _
      refine idleSound unit ?_
      rw [changed,ParameterList.withSize,unit.setStorage,baseSet]
      refine Bool.eq_false_iff.mpr fun ready => stays _ (unit.disk s.device) ?_ ?_
      · have ready' : (base s.device : StorageDevice).ready = true := ready
        rw [unit.baseStorage] at ready'
        exact ready'
      · have size : ParameterList.sizeOf s = (base s.device : Disk).blockSize := by
          rw [ParameterList.sizeOf,unit.baseStorage]
        rw [← size]
        exact selects
  exact wpMono (ParameterList.modeSelectStores checks length s) (fun _ _ stores => preserved stores) fun _ _ stores => preserved stores

end

/-! Opening a file. -/

/- A file of an idle disk that is opened: if the cache cannot be set up the disk is ready
all the same. -/
structure Opened (s : HandlerState Disk) (opened : Bool) (t : HandlerState Disk) : Prop where
  removed : t.device.removed = true → t.device.ready = false
  fitted : t.device.ready = true → Fitted t.device
  room : t.device.ready = true → ∃ file, t.world.files t.device.filename = some file ∧
    t.device.blocks * t.device.blockSize ≤ file.length ∧ (opened = false → 2^32 * t.device.blockSize ≤ file.length)

theorem openedIdle {s t : HandlerState Disk} {opened : Bool} (idle : t.device.ready = false) : Opened s opened t :=
  ⟨fun _ => idle,fun ready => Bool.noConfusion (idle.symm.trans ready),fun ready => Bool.noConfusion (idle.symm.trans ready)⟩

theorem int32Zero {n : Nat} (some_ : n ≠ 0) (zero : int32 n = 0) : 2^32 ≤ n := by
  unfold int32 at zero
  rw [Int.bmod_def] at zero
  split at zero <;> omega

theorem noSectors {c : DiskCache} (named : c.secPath.isEmpty = false) (failed : c.init = false) : c.blocks = 0 := by
  simpa [DiskCache.init,named] using failed

/- The number of sectors of a track cache becomes 0, or the block size is 0. -/
theorem initFails {d : Disk} {path : String} {files : FileSystem} {file : Bytes} (some_ : d.blocks ≠ 0) (named : path ≠ "")
    (here : files path = some file) (failed : (newCache d path).init files = false) : 2^32 ≤ d.blocks ∨ d.blockSize = 0 := by
  have filename : path.isEmpty = false := by simpa using named
  unfold newCache at failed
  split at failed
  · refine .inl ?_
    have zero := noSectors (c := .new path d.blockSize d.blocks) filename failed
    simp only [DiskCache.new] at zero
    exact int32Zero some_ zero
  · refine .inr ?_
    simp only [Cache.init,LinuxCache.init,here,filename] at failed
    simpa [some_] using failed

theorem validateFileOpens {r : Request} {s : HandlerState Disk} (readOnlyFile : Bool) (idle : s.device.ready = false)
    (named : s.device.filename ≠ "")
    (fits : ∀ file, s.world.files s.device.filename = some file → s.device.blocks * s.device.blockSize ≤ file.length) :
    wp (Disk.validateFile readOnlyFile) r s (fun opened t => Opened s opened t) fun _ _ => False := by
  unfold Disk.validateFile
  simp only [wpBind,wpGetDevice,wpIte,wpPure]
  refine ⟨fun _ => openedIdle idle,fun some_ => ?_⟩
  rw [wpSuper]
  have validated : wp (StorageDevice.validateFile readOnlyFile) r ⟨base s.device,s.transfer,s.world⟩ (fun ok t =>
      t.world = s.world ∧ t.device.blocks = s.device.blocks ∧ t.device.blockSize = s.device.blockSize ∧
        t.device.filename = s.device.filename ∧ (ok = false → t.device.ready = false) ∧
        (ok = true → t.device.removed = false ∧ ∃ file, s.world.files s.device.filename = some file)) fun _ _ => False := by
    unfold StorageDevice.validateFile StorageDevice.getFileSize
    simp only [wpBind,wpGetDevice,wpGetWorld]
    cases here : s.world.files s.device.filename with
    | none =>
      exact ⟨rfl,rfl,rfl,rfl,fun _ => idle,fun wrong => by cases wrong⟩
    | some file =>
      simp only [Option.map_some,wpIte,wpPure,wpBind,wpModifyDevice]
      refine ⟨fun _ => ?_,fun _ => ⟨fun _ => ?_,fun _ => ?_⟩⟩ <;> simp [base,idle]
  refine wpMono validated (fun ok t done => ?_) fun _ _ failed => failed
  obtain ⟨world,blocks,blockSize,filename,failed,ran⟩ := done
  refine ⟨fun no => ?_,fun yes => ?_⟩
  · exact openedIdle (failed (by simpa using no))
  · obtain ⟨removed,file,here⟩ := ran (by simpa using yes)
    refine wpMono (setUpCacheRenews r _) (fun opened u done => ?_) fun _ _ failed => failed
    obtain ⟨renewed,d,storage,same⟩ := done
    have kept := renewed.files s.device.filename file (by rw [world]; exact here)
    obtain ⟨file',here',longer⟩ := kept
    have names : u.device.filename = s.device.filename := renewed.filename.trans filename
    have room : u.device.blocks * u.device.blockSize ≤ file'.length := by
      rw [renewed.blocks,renewed.blockSize]
      change t.device.blocks * t.device.blockSize ≤ _
      rw [blocks,blockSize]
      exact (fits file here).trans longer
    refine ⟨fun wrong => ?_,fun _ => renewed.fitted,fun _ => ⟨file',by rw [names]; exact here',room,fun no => ?_⟩⟩
    · exact absurd (wrong.symm.trans (renewed.removed.trans removed)) (by decide)
    · have count : d.blocks = u.device.blocks := (congrArg (·.blocks) storage).trans renewed.blocks.symm
      have size : d.blockSize = u.device.blockSize := (congrArg (·.blockSize) storage).trans renewed.blockSize.symm
      have left : d.blocks ≠ 0 := by
        rw [count,renewed.blocks]
        change t.device.blocks ≠ 0
        rw [blocks]
        exact some_
      have path : (setBase s.device t.device : Disk).filename = s.device.filename := filename
      rw [no] at same
      rcases initFails left (by rw [path]; exact named) (by rw [path]; exact here') same.symm with many | none
      · rw [count] at many
        exact (Nat.mul_le_mul_right _ many).trans room
      · rw [← size,none]
        omega

theorem openFileOpens {r : Request} {s : HandlerState Disk} (defaultBlockSize : Nat) {count : Nat → Nat}
    (narrowed : ∀ n, count n ≤ n) (readOnlyFile : Bool) (idle : s.device.ready = false) (named : s.device.filename ≠ "") :
    wp (Disk.openFile defaultBlockSize count readOnlyFile) r s (fun opened t => Opened s opened t) fun _ _ => False := by
  unfold Disk.openFile
  simp only [wpBind,wpGetDevice,wpGetWorld]
  generalize (if s.device.configuredBlockSize ≠ 0 then s.device.configuredBlockSize else defaultBlockSize) = size
  cases chosen : s.device.setBlockSize size with
  | none => exact openedIdle idle
  | some b =>
    cases measured : s.device.getFileSize s.world with
    | none => exact openedIdle idle
    | some length =>
      obtain ⟨file,here,rfl⟩ := Option.map_eq_some_iff.mp measured
      unfold StorageDevice.setBlockSize at chosen
      split at chosen
      · cases Option.some.inj chosen
        simp only [wpBind,wpModifyDevice]
        refine wpMono (validateFileOpens readOnlyFile idle named fun other there => ?_) (fun _ _ opened => ?_) fun _ _ failed => failed
        · cases here.symm.trans there
          exact (Nat.mul_le_mul_right _ (narrowed _)).trans (Nat.div_mul_le_self _ _)
        · exact ⟨opened.removed,opened.fitted,opened.room⟩
      · cases chosen

/- An update that the geometry has nothing to do with. -/
theorem Opened.update {s t : HandlerState Disk} {opened opened' : Bool} (h : Opened s opened t) {d : Disk}
    (ready : d.ready = t.device.ready) (removed : d.removed = t.device.removed) (blockSize : d.blockSize = t.device.blockSize)
    (blocks : d.blocks = t.device.blocks) (filename : d.filename = t.device.filename) (cache : d.cache = t.device.cache)
    (same : opened' = opened) : Opened s opened' { t with device := d } := by
  subst same
  refine ⟨?_,?_,?_⟩
  · rw [removed,ready]
    exact h.removed
  · rw [ready]
    exact fun yes => fittedSame cache blockSize blocks (h.fitted yes)
  · rw [ready,filename,blocks,blockSize]
    exact h.room

/- Only the product data change. -/
theorem finalizeSetupDisk (d : Disk) : ∃ p : PrimaryDevice,
    ScsiHd.finalizeSetup d = { d with toPrimaryDevice := p } ∧ p.ready = d.ready ∧ p.removed = d.removed := by
  unfold ScsiHd.finalizeSetup PrimaryDevice.setProductData
  dsimp only
  split
  · exact ⟨d.toPrimaryDevice,rfl,rfl,rfl⟩
  · split
    · next p chosen =>
      refine ⟨p,rfl,?_⟩
      split at chosen
      · cases chosen
      · split at chosen
        · cases chosen
        · split at chosen
          · cases chosen
          · cases chosen
            exact ⟨rfl,rfl⟩
    · exact ⟨d.toPrimaryDevice,rfl,rfl,rfl⟩

theorem scsiHdOpens {r : Request} {s : HandlerState Disk} (readOnlyFile : Bool) (idle : s.device.ready = false)
    (named : s.device.filename ≠ "") :
    wp (ScsiHd.openFile readOnlyFile) r s (fun opened t => Opened s opened t) fun _ _ => False := by
  unfold ScsiHd.openFile
  rw [wpBind]
  refine wpMono (openFileOpens 512 (fun n => Nat.mod_le n _) readOnlyFile idle named) (fun opened t done => ?_) fun _ _ failed => failed
  cases opened with
  | false => exact done
  | true =>
    obtain ⟨p,same,ready,removed⟩ := finalizeSetupDisk t.device
    change Opened s true { t with device := ScsiHd.finalizeSetup t.device }
    rw [same]
    exact done.update ready removed rfl rfl rfl rfl rfl

/- The known capacities are those of their geometries. -/
theorem geometriesExact : ∀ g ∈ OpticalMemory.geometries, g.2.2 * g.2.1 = g.1 := by decide

theorem opticalMemoryOpens {r : Request} {s : HandlerState Disk} (readOnlyFile : Bool) (idle : s.device.ready = false)
    (named : s.device.filename ≠ "") :
    wp (OpticalMemory.openFile readOnlyFile) r s (fun opened t => Opened s opened t) fun _ _ => False := by
  have noted (opened : Bool) (t : HandlerState Disk) (done : Opened s opened t) :
      wp (do
        if !opened then return false
        modifyDevice fun d => if d.ready then { d with attn := true } else d
        return true : Handler Disk Bool) r t (fun opened t => Opened s opened t) fun _ _ => False := by
    cases opened with
    | false => exact done
    | true =>
      change Opened s true { t with device := if t.device.ready then { t.device with attn := true } else t.device }
      split
      · exact done.update rfl rfl rfl rfl rfl rfl rfl
      · exact done
  unfold OpticalMemory.openFile
  rw [wpBind,wpGetDevice,wpBind,wpGetWorld]
  cases known : (s.device.getFileSize s.world).bind fun size => OpticalMemory.geometries.lookup size with
  | none =>
    rw [wpBind]
    exact wpMono (openFileOpens 512 (fun n => le_rfl) readOnlyFile idle named) (fun opened t done => noted opened t done)
      fun _ _ failed => failed
  | some geometry =>
    obtain ⟨size,count⟩ := geometry
    obtain ⟨length,measured,found⟩ := Option.bind_eq_some_iff.mp known
    obtain ⟨file,here,rfl⟩ := Option.map_eq_some_iff.mp measured
    obtain ⟨before,after,split_,_⟩ := List.lookup_eq_some_iff.mp found
    have exact_ := geometriesExact (file.length,size,count) (by rw [split_]; simp)
    rw [wpBind,wpModifyDevice,wpBind]
    refine wpMono (validateFileOpens readOnlyFile idle named fun other there => ?_) (fun opened t done => ?_) fun _ _ failed => failed
    · cases here.symm.trans there
      exact exact_.le
    · exact noted opened t ⟨done.removed,done.fitted,done.room⟩

/- On success the track is initialized. -/
theorem scsiCdOpens {r : Request} {s : HandlerState ScsiCd} (readOnlyFile : Bool) (idle : s.device.ready = false)
    (named : s.device.filename ≠ "") :
    wp (ScsiCd.openFile readOnlyFile) r s (fun opened t => t.device.trackInitialized = opened ∧
      ∃ u : HandlerState Disk, Opened u opened ⟨t.device.toDisk,t.transfer,t.world⟩) fun _ _ => False := by
  unfold ScsiCd.openFile
  rw [wpBind,wpModifyDevice,wpBind,wpSuper]
  refine wpMono (openFileOpens 2048 (fun n => le_rfl) readOnlyFile idle named) (fun opened t done => ?_) fun _ _ failed => failed
  cases opened with
  | false => exact ⟨rfl,_,done⟩
  | true =>
    change wp (do
      modifyDevice fun (d : ScsiCd) => { d with readOnly := true, protectable := false }
      ScsiCd.createDataTrack
      modifyDevice fun (d : ScsiCd) => if d.ready then { d with attn := true } else d
      return true : Handler ScsiCd Bool) r _ _ _
    unfold ScsiCd.createDataTrack
    rw [wpBind,wpModifyDevice,wpBind,wpModifyDevice,wpBind,wpModifyDevice,wpPure]
    dsimp only
    split
    · exact ⟨rfl,_,done.update rfl rfl rfl rfl rfl rfl rfl⟩
    · exact ⟨rfl,_,done.update rfl rfl rfl rfl rfl rfl rfl⟩

/-! Any device. -/

section
variable {δ α : Type} {put : δ → AnyDevice} {any : AnyDevice} {h : Handler δ α} {d : δ} {r : Request} {t : Transfer} {w : World}

theorem withinSound (ends : wp h r ⟨d,t,w⟩ (fun _ u => Sound (put u.device) u.world) fun _ u => Sound (put u.device) u.world) :
    Sound (AnyDevice.within put h d r ⟨any,t,w⟩).2.device (AnyDevice.within put h d r ⟨any,t,w⟩).2.world := by
  unfold AnyDevice.within
  unfold wp at ends
  cases ran : h r ⟨d,t,w⟩ with
  | mk result u =>
    rw [ran] at ends
    cases result <;> exact ends

theorem doesSound (does : Does (Preserves put) h) (sound : Sound (put d) w) :
    Sound (AnyDevice.within put h d r ⟨any,t,w⟩).2.device (AnyDevice.within put h d r ⟨any,t,w⟩).2.world :=
  withinSound (wpMono (does r ⟨d,t,w⟩) (fun _ _ ended => ended.1 sound) fun _ _ failed => failed sound)

theorem wpSound (ends : wp h r ⟨d,t,w⟩ (fun _ u => Preserves put ⟨d,t,w⟩ u) fun _ u => Preserves put ⟨d,t,w⟩ u)
    (sound : Sound (put d) w) :
    Sound (AnyDevice.within put h d r ⟨any,t,w⟩).2.device (AnyDevice.within put h d r ⟨any,t,w⟩).2.world :=
  withinSound (wpMono ends (fun _ _ ended => ended sound) fun _ _ failed => failed sound)

theorem scsiHdUnit : DiskUnit AnyDevice.scsiHd :=
  ⟨fun _ => rfl,fun _ _ => rfl,fun _ => rfl,fun _ _ => rfl,fun _ => rfl,fun _ _ => rfl⟩

theorem sasiHdUnit : DiskUnit AnyDevice.sasiHd :=
  ⟨fun _ => rfl,fun _ _ => rfl,fun _ => rfl,fun _ _ => rfl,fun _ => rfl,fun _ _ => rfl⟩

theorem opticalMemoryUnit : DiskUnit AnyDevice.opticalMemory :=
  ⟨fun _ => rfl,fun _ _ => rfl,fun _ => rfl,fun _ _ => rfl,fun _ => rfl,fun _ _ => rfl⟩

theorem scsiCdUnit : DiskUnit AnyDevice.scsiCd :=
  ⟨fun _ => rfl,fun _ _ => rfl,fun _ => rfl,fun _ _ => rfl,fun _ => rfl,fun _ _ => rfl⟩

end

/- The number of sectors is that of the last medium, as an unsigned 32-bit number. -/
theorem initializeTrackPreserves (r : Request) {s : HandlerState ScsiCd} (untracked : s.device.trackInitialized = false) :
    wp ScsiCd.initializeTrack r s (fun _ t => Preserves .scsiCd s t) fun _ t => Preserves .scsiCd s t := by
  let n := uint32 (s.device.lastLba - s.device.firstLba + 1)
  let renewed : Disk := { s.device.toDisk with blocks := n }
  obtain ⟨files,grows,ran⟩ := initCacheRuns renewed.filename ⟨renewed,s.transfer,s.world⟩ r
  have kept (tracked_ : Bool) : Preserves AnyDevice.scsiCd s ⟨{ s.device with
      toDisk := { renewed with cache := some (newCache renewed renewed.filename) }, trackInitialized := tracked_ },s.transfer,
      { s.world with files }⟩ := by
    intro sound e disk
    cases disk
    have before := sound _ rfl
    refine ⟨before.removed,fun _ => ⟨_,rfl,newCacheFits renewed _⟩,fun ready => ?_⟩
    obtain ⟨file,here,_,more⟩ := before.room ready
    obtain ⟨file',here',longer⟩ := grows _ file here
    have most := (more untracked).trans longer
    refine ⟨file',here',?_,fun _ => most⟩
    exact (Nat.mul_le_mul_right _ (uint32Lt _).le).trans most
  unfold ScsiCd.initializeTrack
  rw [wpBind,wpModifyDevice,wpBind,wpGetDevice,wpBind,wpSuper]
  change wp (Disk.initCache renewed.filename) r ⟨renewed,s.transfer,s.world⟩ _ _
  unfold wp
  rw [ran]
  change wp (do
    if !(newCache renewed renewed.filename).init files then throw ⟨.mediumError,.readError⟩
    modifyDevice fun (d : ScsiCd) => { d with trackInitialized := true }) r _ _ _
  simp only [wpBind,wpIte,wpThrow,wpModifyDevice]
  exact ⟨fun _ => kept s.device.trackInitialized,fun _ => kept true⟩

theorem scsiCdReadPreserves : Does (Preserves AnyDevice.scsiCd) ScsiCd.readData := by
  intro r s
  unfold ScsiCd.readData
  rw [wpBind]
  refine wpMono (primaryPreserves scsiCdUnit checkReadyKept r s) (fun _ t ready => ?_) fun _ _ failed => failed
  have first := ready.1
  have rest (u : HandlerState ScsiCd) (sofar : Preserves .scsiCd s u) : wp (super Disk.readData : Handler ScsiCd Int) r u
      (fun _ v => Preserves .scsiCd s v ∧ True) fun _ v => Preserves .scsiCd s v :=
    wpMono (superKept scsiCdUnit readDataKept r u) (fun _ _ ended => ⟨ended.1 ∘ sofar,trivial⟩) fun _ _ failed => failed ∘ sofar
  rw [wpBind,wpGetDevice]
  dsimp only
  rw [wpIte]
  refine ⟨fun _ => first,fun _ => ?_⟩
  rw [wpIte]
  refine ⟨fun untracked => ?_,fun _ => rest t first⟩
  rw [wpBind]
  refine wpMono (initializeTrackPreserves r (by simpa using untracked)) (fun _ u track => rest u (track ∘ first)) ?_
  exact fun _ _ failed => failed ∘ first

theorem modeSelectSound {any : AnyDevice} {d : Disk} (disk : any.disk = some d) {length : Int} {r : Request} {t : Transfer}
    {w : World} (stays : SizeStays any r t.buffer length.toNat) (sound : Sound any w) :
    Sound (AnyDevice.methods.modeSelect length r ⟨any,t,w⟩).2.device (AnyDevice.methods.modeSelect length r ⟨any,t,w⟩).2.world := by
  cases any with
  | scsiHd d => exact wpSound (modeSelectPreserves scsiHdUnit (ParameterList.diskChecks .scsiHd _) stays) sound
  | sasiHd d => exact wpSound (modeSelectPreserves sasiHdUnit (ParameterList.diskChecks .sasiHd _) stays) sound
  | opticalMemory d =>
    exact wpSound (modeSelectPreserves opticalMemoryUnit (ParameterList.diskChecks .opticalMemory _) stays) sound
  | scsiCd d =>
    refine wpSound ?_ sound
    refine (wpBind _ _).mpr (wpMono (modeSelectPreserves scsiCdUnit (ParameterList.diskChecks .scsiCd ScsiCd.setUpModePages) stays)
      (fun _ u kept before => ?_) fun _ _ kept => kept)
    intro e same
    cases same
    have after := kept before _ rfl
    refine ⟨after.removed,fun ready => fittedSame rfl rfl rfl (after.fitted ready),fun ready => ?_⟩
    obtain ⟨file,here,fits,_⟩ := after.room ready
    exact ⟨file,here,fits,fun wrong => by cases wrong⟩
  | _ => cases disk

theorem dataSound {any : AnyDevice} {d : Disk} (disk : any.disk = some d) {r : Request} {t : Transfer} {w : World}
    (sound : Sound any w) (offset length : Int) :
    Sound (AnyDevice.methods.readData r ⟨any,t,w⟩).2.device (AnyDevice.methods.readData r ⟨any,t,w⟩).2.world ∧
      Sound (AnyDevice.methods.writeData offset length r ⟨any,t,w⟩).2.device
        (AnyDevice.methods.writeData offset length r ⟨any,t,w⟩).2.world := by
  cases any with
  | scsiHd d =>
    exact ⟨doesSound (superKept scsiHdUnit readDataKept) sound,doesSound (superKept scsiHdUnit (writeDataKept length)) sound⟩
  | sasiHd d =>
    exact ⟨doesSound (superKept sasiHdUnit readDataKept) sound,doesSound (superKept sasiHdUnit (writeDataKept length)) sound⟩
  | opticalMemory d =>
    exact ⟨doesSound (superKept opticalMemoryUnit readDataKept) sound,
      doesSound (superKept opticalMemoryUnit (writeDataKept length)) sound⟩
  | scsiCd d => exact ⟨doesSound scsiCdReadPreserves sound,doesSound (superKept scsiCdUnit (writeDataKept length)) sound⟩
  | _ => cases disk

section
variable {δ : Type} [Derives δ Disk] [Derives δ StorageDevice] [Derives δ PrimaryDevice] {put : δ → AnyDevice}

/- Every command but START STOP UNIT. -/
theorem commandsPreserve (unit : DiskUnit put) {inquiry requestSense : Handler δ PhaseCall} {readData : Handler δ Int}
    (hi : Does (Preserves put) inquiry) (hr : Does (Preserves put) requestSense) (data : Does (Preserves put) readData)
    {more : List (ScsiCommand × Handler δ PhaseCall)} (others : ∀ c ∈ more, Does (Preserves put) c.2)
    (v : StorageDevice.Virtual δ) (supportsModeSelect supportsSaveParameters : Bool) :
    ∀ c ∈ PrimaryDevice.commands inquiry requestSense ++ (more ++ Disk.commands readData) ++
      StorageDevice.commands v supportsModeSelect supportsSaveParameters, c.1 ≠ .startStop → Does (Preserves put) c.2 := by
  intro c listed other
  simp only [List.mem_append,StorageDevice.commands,List.mem_cons] at listed
  rcases listed with (listed | listed | listed) | rfl | rfl | listed
  · exact primaryCommandsPreserve unit hi hr c listed
  · exact others c listed
  · exact diskCommandsPreserve unit data c listed
  · exact absurd rfl other
  · exact storagePreserves unit preventKept
  · exact pageCommandsPreserve v _ _ c listed

end

theorem dispatchSound {any : AnyDevice} {d : Disk} (disk : any.disk = some d) {cmd : ScsiCommand} {r : Request} {t : Transfer}
    {w : World} (fits : cmd = .startStop → LoadFits any r w) (sound : Sound any w) :
    Sound (AnyDevice.methods.dispatch cmd r ⟨any,t,w⟩).2.device (AnyDevice.methods.dispatch cmd r ⟨any,t,w⟩).2.world := by
  cases any with
  | scsiHd d =>
    exact wpSound (dispatchPreserves scsiHdUnit (commandsPreserve scsiHdUnit (inquiryPreserves _ _)
      (primaryPreserves scsiHdUnit requestSenseKept) (superKept scsiHdUnit readDataKept) (by simp : ∀ c ∈ [], _) _ _ _) rfl fits) sound
  | sasiHd d =>
    have senses : Does (Preserves .sasiHd) SasiHd.requestSense :=
      meetsThen doesGetRequest fun _ _ => meetsThen doesGetDevice fun _ _ => meetsThen (copyPreserves _) fun _ _ => doesPure _
    exact wpSound (dispatchPreserves sasiHdUnit (commandsPreserve sasiHdUnit (meetsThen (copyPreserves _) fun _ _ => doesPure _)
      senses (superKept sasiHdUnit readDataKept) (by simp : ∀ c ∈ [], _) _ _ _) rfl fits) sound
  | opticalMemory d =>
    exact wpSound (dispatchPreserves opticalMemoryUnit (commandsPreserve opticalMemoryUnit (inquiryPreserves _ _)
      (primaryPreserves opticalMemoryUnit requestSenseKept) (superKept opticalMemoryUnit readDataKept) (by simp : ∀ c ∈ [], _)
      _ _ _) rfl fits) sound
  | scsiCd d =>
    have toc : Does (Preserves .scsiCd) ScsiCd.readToc := by
      refine meetsThen (primaryPreserves scsiCdUnit checkReadyKept) fun _ _ => meetsThen doesGetRequest fun _ _ => ?_
      refine meetsThen doesGetDevice fun _ _ => meetsUnless fun _ => meetsUnless fun _ => ?_
      exact meetsThen (bufferPreserves _) fun _ _ => doesPure _
    exact wpSound (dispatchPreserves scsiCdUnit (commandsPreserve scsiCdUnit (inquiryPreserves _ _)
      (primaryPreserves scsiCdUnit requestSenseKept) scsiCdReadPreserves
      (by simpa using toc : ∀ c ∈ [(ScsiCommand.readToc,ScsiCd.readToc)], Does (Preserves .scsiCd) c.2)
      _ _ _) rfl fits) sound
  | _ => cases disk

theorem ejectSound {any : AnyDevice} {d : Disk} (disk : any.disk = some d) {force : Bool} {r : Request} {t : Transfer} {w : World}
    (sound : Sound any w) : Sound (AnyDevice.eject force r ⟨any,t,w⟩).2.device (AnyDevice.eject force r ⟨any,t,w⟩).2.world := by
  unfold AnyDevice.eject
  cases any with
  | scsiHd d => exact doesSound (ejectPreserves scsiHdUnit force) sound
  | sasiHd d => exact doesSound (ejectPreserves sasiHdUnit force) sound
  | opticalMemory d => exact doesSound (ejectPreserves opticalMemoryUnit force) sound
  | scsiCd d => exact doesSound (ejectPreserves scsiCdUnit force) sound
  | _ => cases disk

theorem openedSound {δ : Type} {put : δ → AnyDevice} {h : Handler δ Bool} {d : δ} {r : Request} {s : HandlerState AnyDevice}
    (sound : Sound (AnyDevice.within put h d r s).2.device (AnyDevice.within put h d r s).2.world) :
    Sound ((do return AnyDevice.opened (← AnyDevice.within put h d) : Handler AnyDevice _) r s).2.device
      ((do return AnyDevice.opened (← AnyDevice.within put h d) : Handler AnyDevice _) r s).2.world := by
  have state : ((do return AnyDevice.opened (← AnyDevice.within put h d) : Handler AnyDevice _) r s).2 =
      (AnyDevice.within put h d r s).2 := by
    simp only [bind,pure]
    cases AnyDevice.within put h d r s with
    | mk result t => cases result <;> rfl
  rw [state]
  exact sound

/- The number of sectors of a disk whose tracks are initialized is final. -/
theorem Opened.sound {s t : HandlerState Disk} {opened : Bool} (h : Opened s opened t) {any : AnyDevice}
    (disk : any.disk = some t.device) (final : tracked any = false → opened = false) : Sound any t.world := by
  intro e same
  cases disk.symm.trans same
  refine ⟨h.removed,h.fitted,fun ready => ?_⟩
  obtain ⟨file,here,fits,more⟩ := h.room ready
  exact ⟨file,here,fits,fun still => more (final still)⟩

theorem openSound {any : AnyDevice} {d : Disk} (disk : any.disk = some d) (idle : d.ready = false) (named : d.filename ≠ "")
    (readOnlyFile : Bool) (r : Request) (t : Transfer) (w : World) :
    Sound (AnyDevice.openFile readOnlyFile r ⟨any,t,w⟩).2.device (AnyDevice.openFile readOnlyFile r ⟨any,t,w⟩).2.world := by
  have plain {put : Disk → AnyDevice} (same : ∀ e, (put e).disk = some e) (fixed : ∀ e, tracked (put e) = true)
      {h : Handler Disk Bool} (opens : wp h r ⟨d,t,w⟩ (fun opened u => Opened ⟨d,t,w⟩ opened u) fun _ _ => False) :
      Sound (AnyDevice.within put h d r ⟨any,t,w⟩).2.device (AnyDevice.within put h d r ⟨any,t,w⟩).2.world := by
    refine withinSound (wpMono opens (fun _ u opened => opened.sound (same _) fun wrong => ?_) fun _ _ failed => failed.elim)
    exact Bool.noConfusion ((fixed u.device).symm.trans wrong)
  unfold AnyDevice.openFile
  cases any with
  | scsiHd d =>
    cases disk
    exact openedSound (plain (fun _ => rfl) (fun _ => rfl) (scsiHdOpens readOnlyFile idle named))
  | sasiHd d =>
    cases disk
    exact openedSound (plain (fun _ => rfl) (fun _ => rfl) (openFileOpens 256 (fun n => Nat.mod_le n _) readOnlyFile idle named))
  | opticalMemory d =>
    cases disk
    exact openedSound (plain (fun _ => rfl) (fun _ => rfl) (opticalMemoryOpens readOnlyFile idle named))
  | scsiCd d =>
    cases disk
    refine openedSound (withinSound (wpMono (scsiCdOpens readOnlyFile idle named) (fun opened u done => ?_)
      fun _ _ failed => failed.elim))
    obtain ⟨track,_,done⟩ := done
    have here : (AnyDevice.scsiCd u.device).disk = some u.device.toDisk := rfl
    exact done.sound here fun still => track.symm.trans still
  | _ => cases disk

/-! Runs of a device. -/

/- `image` is what CommandExecutor does for an insertion, `elsewhere` what happens outside
the device. -/
inductive Action where
  | dispatch (cmd : ScsiCommand) (r : Request)
  | readData (r : Request)
  | writeData (offset length : Int) (r : Request)
  | modeSelect (length : Int) (r : Request)
  | transferred (t : Transfer)
  | primary (p : PrimaryDevice)
  | configure (size : Nat)
  | insert (filename : String) (readOnlyFile reserved isProtected : Bool) (r : Request)
  | eject (force : Bool) (r : Request)
  | elsewhere (w : World)

def insert (filename : String) (readOnlyFile reserved isProtected : Bool) (r : Request) (s : HandlerState AnyDevice) :
    HandlerState AnyDevice :=
  let (result,t) := AnyDevice.openFile readOnlyFile r { s with device := s.device.mapStorage fun b => { b with filename } }
  match result with
  | .ok .opened =>
    if reserved then
      { t with device := t.device.mapStorage fun b => { b with
        toPrimaryDevice := b.toPrimaryDevice.setProtected isProtected
        mediumChanged := true } }
    else t
  | _ => t

def step (s : HandlerState AnyDevice) : Action → HandlerState AnyDevice
  | .dispatch cmd r => (AnyDevice.methods.dispatch cmd r s).2
  | .readData r => (AnyDevice.methods.readData r s).2
  | .writeData offset length r => (AnyDevice.methods.writeData offset length r s).2
  | .modeSelect length r => (AnyDevice.methods.modeSelect length r s).2
  | .transferred t => { s with transfer := t }
  | .primary p => { s with device := s.device.mapStorage fun b => { b with toPrimaryDevice := p } }
  | .configure size => { s with device := s.device.mapStorage fun b => { b with configuredBlockSize := size } }
  | .insert filename readOnlyFile reserved isProtected r => insert filename readOnlyFile reserved isProtected r s
  | .eject force r => (AnyDevice.eject force r s).2
  | .elsewhere w => { s with world := w }

/- Only devices without a medium get one, and nobody else truncates the image file. -/
def Possible (s : HandlerState AnyDevice) : Action → Prop
  | .primary p => ∀ d, s.device.disk = some d → (p.ready = true → d.ready = true) ∧ p.removed = d.removed
  | .insert filename _ _ _ _ => filename ≠ "" ∧ ∀ d, s.device.disk = some d → d.removed = true
  | .elsewhere w => ∀ d file, s.device.disk = some d → d.ready = true → s.world.files d.filename = some file →
      ∃ file', w.files d.filename = some file' ∧ file.length ≤ file'.length
  | _ => True

/- No other block size is selected for a ready disk, and the file that START STOP UNIT
puts in the place of the one in use has room for its sectors. -/
def Careful (s : HandlerState AnyDevice) : Action → Prop
  | .dispatch cmd r => cmd = .startStop → LoadFits s.device r s.world
  | .modeSelect length r => SizeStays s.device r s.transfer.buffer length.toNat
  | _ => True

inductive Run (allowed : HandlerState AnyDevice → Action → Prop) : HandlerState AnyDevice → HandlerState AnyDevice → Prop where
  | start (s : HandlerState AnyDevice) : Run allowed s s
  | next {s t : HandlerState AnyDevice} (run : Run allowed s t) (a : Action) (possible : Possible t a) (this : allowed t a) :
      Run allowed s (step t a)

/- A disk that has been created, or has been attached with a file. -/
inductive Attached : HandlerState AnyDevice → Prop where
  | created (any : AnyDevice) (idle : ∀ d, any.disk = some d → d.ready = false) (t : Transfer) (w : World) : Attached ⟨any,t,w⟩
  | opened (any : AnyDevice) (idle : ∀ d, any.disk = some d → d.ready = false ∧ d.filename ≠ "") (readOnlyFile : Bool)
      (r : Request) (t : Transfer) (w : World) : Attached (AnyDevice.openFile readOnlyFile r ⟨any,t,w⟩).2

def GeometryHolds (s : HandlerState AnyDevice) : Prop :=
  ∀ d, s.device.disk = some d → d.ready = true → Fitted d ∧
    ∃ file, s.world.files d.filename = some file ∧ d.blocks * d.blockSize ≤ file.length

/-! What a step preserves. -/

theorem mapStorageDisk (any : AnyDevice) (f : StorageDevice → StorageDevice) :
    (any.mapStorage f).disk = any.disk.map fun d => { d with toStorageDevice := f d.toStorageDevice } := by
  cases any <;> rfl

theorem mapStorageTracked (any : AnyDevice) (f : StorageDevice → StorageDevice) : tracked (any.mapStorage f) = tracked any := by
  cases any <;> rfl

/- An update that the geometry has nothing to do with. -/
theorem Sound.mapStorage {any : AnyDevice} {w : World} (sound : Sound any w) {f : StorageDevice → StorageDevice}
    (ready : ∀ d, any.disk = some d → (f d.toStorageDevice).ready = true → d.ready = true)
    (removed : ∀ d, any.disk = some d → (f d.toStorageDevice).removed = d.removed)
    (geometry : ∀ b, (f b).blockSize = b.blockSize ∧ (f b).blocks = b.blocks ∧ (f b).filename = b.filename) :
    Sound (any.mapStorage f) w := by
  intro e same
  rw [mapStorageDisk] at same
  obtain ⟨d,disk,rfl⟩ := Option.map_eq_some_iff.mp same
  have before := sound d disk
  obtain ⟨size,blocks,filename⟩ := geometry d.toStorageDevice
  refine ⟨fun gone => ?_,fun on => ?_,fun on => ?_⟩
  · have idle := before.removed ((removed d disk).symm.trans gone)
    exact Bool.eq_false_iff.mpr fun on => Bool.noConfusion (idle.symm.trans (ready d disk on))
  · exact fittedSame (d := d) rfl size blocks (before.fitted (ready d disk on))
  · obtain ⟨file,here,fits,more⟩ := before.room (ready d disk on)
    refine ⟨file,?_,?_,?_⟩
    · change w.files (f d.toStorageDevice).filename = some file
      rw [filename]
      exact here
    · change (f d.toStorageDevice).blocks * (f d.toStorageDevice).blockSize ≤ file.length
      rw [blocks,size]
      exact fits
    · rw [mapStorageTracked]
      change _ → 2^32 * (f d.toStorageDevice).blockSize ≤ file.length
      rw [size]
      exact more

theorem notDisk {any : AnyDevice} (other : any.disk = none) (w : World) : Sound any w := fun _ disk => by
  cases other.symm.trans disk

/- A medium that has been inserted is write-protected as requested. -/
theorem insertEnds {P : HandlerState AnyDevice → Prop} (filename : String) (readOnlyFile reserved isProtected : Bool) (r : Request)
    (s : HandlerState AnyDevice)
    (opened : P (AnyDevice.openFile readOnlyFile r { s with device := s.device.mapStorage fun b => { b with filename } }).2)
    (marked : ∀ t, P t → P { t with device := t.device.mapStorage fun b => { b with
      toPrimaryDevice := b.toPrimaryDevice.setProtected isProtected, mediumChanged := true } }) :
    P (insert filename readOnlyFile reserved isProtected r s) := by
  unfold insert
  generalize AnyDevice.openFile readOnlyFile r _ = ended at opened ⊢
  obtain ⟨result,t⟩ := ended
  dsimp only
  split
  · split
    · exact marked t opened
    · exact opened
  · exact opened

/- Devices do not change their class. -/
theorem otherStays {s : HandlerState AnyDevice} (other : s.device.disk = none) (a : Action) : (step s a).device.disk = none := by
  have marked (b : Bool) (t : HandlerState AnyDevice) (same : t.device.disk = none) : (t.device.mapStorage fun b' => { b' with
      toPrimaryDevice := b'.toPrimaryDevice.setProtected b, mediumChanged := true }).disk = none := by
    rw [mapStorageDisk,same]
    rfl
  obtain ⟨any,t,w⟩ := s
  cases any with
  | scsiHd | sasiHd | opticalMemory | scsiCd => cases other
  | tape | printer | daynaPort | hostServices | scsiGeneric => cases a with
    | insert filename readOnlyFile reserved isProtected r =>
      exact insertEnds (P := fun s => s.device.disk = none) filename readOnlyFile reserved isProtected r _ rfl (marked isProtected)
    | _ => rfl

theorem setProtectedGeometry (p : PrimaryDevice) (b : Bool) :
    (p.setProtected b).ready = p.ready ∧ (p.setProtected b).removed = p.removed := by
  unfold PrimaryDevice.setProtected
  split <;> exact ⟨rfl,rfl⟩

theorem insertSound {s : HandlerState AnyDevice} {filename : String} (readOnlyFile reserved isProtected : Bool) (r : Request)
    (named : filename ≠ "") {d : Disk} (disk : s.device.disk = some d) (removed : d.removed = true)
    (sound : Sound s.device s.world) :
    Sound (insert filename readOnlyFile reserved isProtected r s).device
      (insert filename readOnlyFile reserved isProtected r s).world := by
  refine insertEnds (P := fun t => Sound t.device t.world) filename readOnlyFile reserved isProtected r s ?_ fun t opened => ?_
  · have idle := (sound d disk).removed removed
    have here : (s.device.mapStorage fun b => { b with filename }).disk =
        some { d with toStorageDevice := { d.toStorageDevice with filename } } := by
      rw [mapStorageDisk,disk]
      rfl
    exact openSound here idle named readOnlyFile r s.transfer s.world
  · refine opened.mapStorage (f := fun b => { b with
      toPrimaryDevice := b.toPrimaryDevice.setProtected isProtected, mediumChanged := true }) (fun e _ on => ?_) (fun e _ => ?_)
      fun b => ⟨rfl,rfl,rfl⟩
    · exact (setProtectedGeometry e.toPrimaryDevice isProtected).1.symm.trans on
    · exact (setProtectedGeometry e.toPrimaryDevice isProtected).2

theorem stepSound {s : HandlerState AnyDevice} (sound : Sound s.device s.world) (a : Action) (possible : Possible s a)
    (careful : Careful s a) : Sound (step s a).device (step s a).world := by
  cases disk : s.device.disk with
  | none => exact notDisk (otherStays disk a) _
  | some d =>
    cases a with
    | dispatch cmd r => exact dispatchSound disk careful sound
    | readData r => exact (dataSound disk sound 0 0).1
    | writeData offset length r => exact (dataSound disk sound offset length).2
    | modeSelect length r => exact modeSelectSound disk careful sound
    | transferred t => exact sound
    | primary p =>
      exact sound.mapStorage (f := fun b => { b with toPrimaryDevice := p }) (fun e same => (possible e same).1)
        (fun e same => (possible e same).2) fun b => ⟨rfl,rfl,rfl⟩
    | configure size =>
      exact sound.mapStorage (f := fun b => { b with configuredBlockSize := size }) (fun _ _ => id) (fun _ _ => rfl)
        fun b => ⟨rfl,rfl,rfl⟩
    | insert filename readOnlyFile reserved isProtected r =>
      exact insertSound readOnlyFile reserved isProtected r possible.1 disk (possible.2 d disk) sound
    | eject force r => exact ejectSound disk sound
    | elsewhere w =>
      intro e same
      have before := sound e same
      refine ⟨before.removed,before.fitted,fun ready => ?_⟩
      obtain ⟨file,here,fits,more⟩ := before.room ready
      obtain ⟨file',here',longer⟩ := possible e file same ready here
      exact ⟨file',here',fits.trans longer,fun still => (more still).trans longer⟩

theorem attachedSound {s : HandlerState AnyDevice} (attached : Attached s) : Sound s.device s.world := by
  cases attached with
  | created any idle t w =>
    intro d disk
    have off := idle d disk
    exact ⟨fun _ => off,fun on => Bool.noConfusion (off.symm.trans on),fun on => Bool.noConfusion (off.symm.trans on)⟩
  | opened any idle readOnlyFile r t w =>
    cases disk : any.disk with
    | none =>
      refine notDisk ?_ _
      cases any <;> cases disk <;> rfl
    | some d => exact openSound disk (idle d disk).1 (idle d disk).2 readOnlyFile r t w

theorem runSound {s t : HandlerState AnyDevice} (attached : Attached s) (run : Run Careful s t) : Sound t.device t.world := by
  induction run with
  | start => exact attachedSound attached
  | next _ a possible careful sound => exact stepSound sound a possible careful

/- The geometry of a ready disk holds in all states. -/
theorem carefulRunKeepsGeometry {s t : HandlerState AnyDevice} (attached : Attached s) (run : Run Careful s t) : GeometryHolds t := by
  intro d disk ready
  have sound := runSound attached run d disk
  obtain ⟨file,here,fits,_⟩ := sound.room ready
  exact ⟨sound.fitted ready,file,here,fits⟩

/- A drive without a medium, and the file of a medium with four sectors. -/
def emptyDrive : AnyDevice :=
  .opticalMemory { type := .scmo, lun := 0, removable := true, removed := true, supportedBlockSizes := [512,1024,2048],
                   cachingMode := .linux }

def discWorld : World := { files := fun name => if name = "disc.mos" then some (List.replicate 2048 0) else none }

def atStart : HandlerState AnyDevice := ⟨emptyDrive,{},discWorld⟩

def insertion : Action := .insert "disc.mos" false true false { cdb := [] }

theorem startAttached : Attached atStart :=
  .created _ (fun d disk => by cases disk; rfl) _ _

theorem insertionRuns {allowed : HandlerState AnyDevice → Action → Prop} (this : allowed atStart insertion) :
    Run allowed atStart (step atStart insertion) := by
  refine .next (.start _) insertion ⟨by decide,fun d disk => ?_⟩ this
  cases disk
  rfl

/- The medium is inserted and read. -/
theorem readKeepsGeometry : (step atStart insertion).device.primary.ready = true ∧
    GeometryHolds (step (step atStart insertion) (.dispatch .read6 { cdb := [8,0,0,0,1,0] })) := by
  refine ⟨by decide +kernel,carefulRunKeepsGeometry startAttached (.next (insertionRuns trivial) _ trivial ?_)⟩
  exact fun wrong => by cases wrong

/- MODE SELECT(6) with the PF bit and 12 bytes of parameters: sectors of 1024 bytes. -/
def selected : HandlerState AnyDevice :=
  step (step (step atStart insertion) (.transferred { buffer := [0,0,0,8] ++ [0,0,0,0,0,0,4,0] }))
    (.modeSelect 12 { cdb := [0x15,0x10,0,0,12,0] })

def sizes (d : Disk) : Bool × Nat × String := (d.ready,d.blocks * d.blockSize,d.filename)

theorem otherLengthOverruns : ¬∀ s t, Attached s → Run (fun _ _ => True) s t → GeometryHolds t := by
  intro claim
  have run : Run (fun _ _ => True) atStart selected :=
    .next (.next (insertionRuns trivial) (.transferred _) trivial trivial) (.modeSelect _ _) trivial trivial
  have ends : selected.device.disk.map sizes = some (true,4096,"disc.mos") := by decide +kernel
  obtain ⟨d,disk,now⟩ := Option.map_eq_some_iff.mp ends
  obtain ⟨ready,size,filename⟩ : d.ready = true ∧ d.blocks * d.blockSize = 4096 ∧ d.filename = "disc.mos" := by
    simpa only [sizes,Prod.mk.injEq] using now
  obtain ⟨_,file,here,fits⟩ := claim _ _ startAttached run d disk ready
  have length : (selected.world.files "disc.mos").map List.length = some 2048 := by decide +kernel
  rw [← filename,here,Option.map_some] at length
  have short := Option.some.inj length
  omega

end Scsi2Pi.MediumGeometry
