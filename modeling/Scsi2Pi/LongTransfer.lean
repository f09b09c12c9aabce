import Scsi2Pi.DirtyTracks
import Scsi2Pi.Disk

/-! READ LONG and WRITE LONG of a disk whose image file can fail. A cache of tracks is replaced by a stream
first; whether the tracks have been stored and whether the stream could be opened is not asked for, and a sector
that cannot be read becomes a transfer without data. -/
namespace Scsi2Pi
open Slices MemoryUtil FaultyFile

structure StreamCache where
  sectorSize : Nat
  sectors : Nat
  writeThrough : Bool := false
  file : Stream

inductive FileCache where
  | tracks (c : DiskCache)
  | stream (c : StreamCache)

/- The file operations that have failed are counted. -/
structure FileDisk extends StorageDevice where
  cache : Option FileCache := none
  cachingMode : CachingMode
  nextSector : Nat := 0
  image : FaultyFile
  failures : Nat := 0

instance : Derives FileDisk StorageDevice :=
  ⟨fun d => d.toStorageDevice,fun d b => { d with toStorageDevice := b },fun _ _ => rfl,fun _ => rfl,fun _ _ _ => rfl⟩

instance : Derives FileDisk PrimaryDevice :=
  ⟨fun d => d.toPrimaryDevice,fun d b => { d with toPrimaryDevice := b },fun _ _ => rfl,fun _ => rfl,fun _ _ _ => rfl⟩

inductive LongCommand where
  | readLong10 | readLong16 | writeLong10 | writeLong16
  deriving DecidableEq, Repr

namespace LongCommand

def mode : LongCommand → Disk.AccessMode
  | readLong10 | writeLong10 => .rw10
  | readLong16 | writeLong16 => .rw16

def write : LongCommand → Bool
  | readLong10 | readLong16 => false
  | writeLong10 | writeLong16 => true

def sector (c : LongCommand) (r : Request) : Nat := if c.mode = .rw16 then r.cdbInt64 2 else r.cdbInt32 2

def length (c : LongCommand) (r : Request) : Nat := if c.mode = .rw16 then r.cdbInt16 12 else r.cdbInt16 7

end LongCommand

namespace FileDisk
open Handler Derives

def failed (ok : Bool) : Nat := if ok then 0 else 1

/- The result of Flush is ignored. -/
def flush (d : FileDisk) : FileDisk :=
  match d.cache with
  | none => d
  | some (.tracks c) => { d with image := (c.store d.image).2, failures := d.failures + failed (c.store d.image).1 }
  | some (.stream c) => { d with
      cache := some (.stream { c with file := (c.file.sync d.image).2.1 })
      image := (c.file.sync d.image).2.2
      failures := d.failures + failed (c.file.sync d.image).1 }

def flushCache : Handler FileDisk Unit := do
  if (← getDevice).ready then modifyDevice flush

/- The stream that InitCache opens. -/
def newStream (d : FileDisk) : StreamCache where
  sectorSize := d.blockSize
  sectors := d.blocks
  writeThrough := d.cachingMode = .writeThrough
  file := if d.blockSize = 0 ∨ d.blocks = 0 ∨ d.filename.isEmpty then { opened := false } else .openFile d.image

def initCache : Handler FileDisk StreamCache := do
  let c := newStream (← getDevice)
  modifyDevice fun d => { d with cache := some (.stream c), failures := d.failures + failed c.file.opened }
  return c

def replaceByStream : Handler FileDisk StreamCache := do
  flushCache
  modifyDevice fun d => { d with cachingMode := .linux }
  initCache

def switchToStream : Handler FileDisk StreamCache := do
  match (← getDevice).cache with
  | some (.stream c) => return c
  | _ => replaceByStream

def checkReady : Handler FileDisk Unit := super PrimaryDevice.checkReady

def validateBlockAddress (c : LongCommand) : Handler FileDisk Nat := do
  checkReady
  let r ← getRequest
  if c.mode = .rw10 ∧ r.cdbByte 1 &&& 0x01 ≠ 0 then throw ⟨.illegalRequest,.invalidFieldInCdb⟩
  if (← getDevice).blocks ≤ c.sector r then throw ⟨.illegalRequest,.lbaOutOfRange⟩
  return c.sector r

def checkLongLength (length : Nat) : Handler FileDisk Unit := do
  let d ← getDevice
  if length ≠ d.blockSize then
    super (modifyDevice fun (p : PrimaryDevice) =>
      ({ p with ili := true }).setInformation ((length : Int) - d.blockSize))
    throw ⟨.illegalRequest,.invalidFieldInCdb⟩

/- What an operation of the stream leaves behind. -/
def after (k : StreamCache) (ok : Bool) (file : Stream) (image : FaultyFile) (d : FileDisk) : FileDisk :=
  { d with cache := some (.stream { k with file }), image, failures := d.failures + failed ok }

/- ReadLong of the stream. A failure is a length of 0. -/
def readLong (c : StreamCache) (sector length : Nat) : Handler FileDisk PhaseCall := do
  if c.sectors ≤ sector then return .dataIn 0
  let (data,file,image) := c.file.read (← getDevice).image (c.sectorSize * sector) length
  modifyDevice (after c data.isSome file image)
  match data with
  | none => return .dataIn 0
  | some data =>
    setBuffer (setBytes · 0 data)
    return .dataIn length

def transferLong (sector length : Nat) (write : Bool) : Handler FileDisk PhaseCall := do
  let c ← switchToStream
  checkReady
  setTransferSize length length
  if write then
    modifyDevice fun d => { d with nextSector := sector }
    return .dataOut length
  setCurrentLength length
  readLong c sector length

def readWriteLong (sector length : Nat) (write : Bool) : Handler FileDisk PhaseCall := do
  if write then super StorageDevice.checkWritePreconditions
  if length = 0 then return .status
  checkLongLength length
  transferLong sector length write

def execute (c : LongCommand) : Handler FileDisk PhaseCall := do
  let sector ← validateBlockAddress c
  readWriteLong sector (c.length (← getRequest)) c.write

/- WriteLong of the stream. -/
def writeLong (c : StreamCache) (sector : Nat) (data : Bytes) : Handler FileDisk Bool := do
  if c.sectors ≤ sector then return false
  let (ok,file,image) := c.file.write (← getDevice).image (c.sectorSize * sector) data c.writeThrough
  modifyDevice (after c ok file image)
  return ok

/- WriteData for WRITE LONG. -/
def writeData : Handler FileDisk Unit := do
  checkReady
  let d ← getDevice
  let t ← getTransfer
  match d.cache with
  | some (.stream c) =>
    if !(← writeLong c d.nextSector (t.buffer.take t.chunkSize.toNat)) then throw ⟨.mediumError,.writeFault⟩
  | _ => throw ⟨.mediumError,.writeFault⟩

/-! Whole commands. The data that WRITE LONG asks for arrive in the buffer. -/

inductive Outcome where
  | good (sent : Bytes) (d : FileDisk)
  | checkCondition (d : FileDisk)

def receive (t : Transfer) (data : Bytes) : Transfer := { t with buffer := setBytes t.buffer 0 data }

def finishWrite (r : Request) (s : HandlerState FileDisk) (data : Bytes) : Outcome :=
  match writeData r { s with transfer := receive s.transfer data } with
  | (.ok _,t) => .good [] t.device
  | (.error _,t) => .checkCondition t.device

/- A DATA IN phase of no bytes is a STATUS phase. -/
def run (c : LongCommand) (r : Request) (s : HandlerState FileDisk) (data : Bytes) : Outcome :=
  match execute c r s with
  | (.error _,t) => .checkCondition t.device
  | (.ok (.dataIn n),t) => .good (t.transfer.buffer.take n.toNat) t.device
  | (.ok (.dataOut _),t) => finishWrite r t data
  | (.ok _,t) => .good [] t.device

/- The contents of the medium as READ sees them. -/
def contents (d : FileDisk) : Nat → UInt8 :=
  match d.cache with
  | none => d.image.get
  | some (.tracks c) => c.contents d.image
  | some (.stream c) => c.file.contents d.image

/- A stream that is not open neither reads nor writes. -/
def Usable (d : FileDisk) : Prop :=
  match d.cache with
  | some (.stream c) => c.file.opened = true
  | _ => True

/- A byte that is in the cache only. -/
def Held (d : FileDisk) (p : Nat) : Prop :=
  match d.cache with
  | none => False
  | some (.tracks c) => c.Unsaved p
  | some (.stream c) => c.file.Held p

/- The file is open or can be opened. -/
def Opens (d : FileDisk) : Prop :=
  match d.cache with
  | some (.stream c) => c.file.opened = true
  | _ => d.filename ≠ "" ∧ d.image.opens = true

def Streams (d : FileDisk) : Prop :=
  match d.cache with
  | some (.stream _) => True
  | _ => False

/- Each stream is opened for the sectors of the disk. -/
def Built (d : FileDisk) : Prop := ∀ c, d.cache = some (.stream c) → c.sectorSize = d.blockSize ∧ c.sectors = d.blocks

/- What the file needs to let the cache be replaced. -/
structure Sound (d : FileDisk) : Prop where
  opens : d.Opens
  stored : ∀ p, d.Held p → d.image.storable p = true

/- The end of the range is in the file, or something behind it is stored before. -/
structure Readable (d : FileDisk) (start count : Nat) : Prop where
  within : start + count ≤ d.image.bytes.length ∨ ∃ p, d.Held p ∧ start + count ≤ p + 1
  readable : ∀ k < count, d.image.readable (start + k) = true

/- The checks before the transfer. -/
structure Accepted (c : LongCommand) (r : Request) (d : FileDisk) : Prop where
  reset : d.reset = false
  attn : d.attn = false
  ready : d.ready = true
  absolute : ¬(c.mode = .rw10 ∧ r.cdbByte 1 &&& 0x01 ≠ 0)
  within : c.sector r < d.blocks
  writable : c.write = true → d.writeProtected = false
  length : c.length r = d.blockSize

def place (c : LongCommand) (r : Request) (d : FileDisk) : Nat := d.blockSize * c.sector r

/- What a disk that reports its failures does. -/
def Reports (c : LongCommand) (r : Request) (d : FileDisk) (data : Bytes) : Outcome → Prop
  | .good sent d' => d'.failures = d.failures ∧
      (c.write = true → d'.contents = laid (place c r d) data d.contents) ∧
      (c.write = false → sent = (List.range (c.length r)).map (fun k => d.contents (place c r d + k)) ∧ d'.contents = d.contents)
  | .checkCondition d' => (d.Usable → d'.Usable) ∧
      ∀ p, (c.write = true → ¬(place c r d ≤ p ∧ p < place c r d + c.length r)) → d'.contents p = d.contents p

def HoldsWhen (c : LongCommand) (r : Request) (d : FileDisk) : Prop :=
  if c.write then d.Streams ∨ d.Sound else d.Sound ∧ d.Readable (place c r d) (c.length r)

variable {c : LongCommand} {r : Request} {s t : HandlerState FileDisk} {d d' : FileDisk} {k : StreamCache}

/- The cache and the file are as before. -/
structure Untouched (s t : HandlerState FileDisk) : Prop where
  cache : t.device.cache = s.device.cache
  image : t.device.image = s.device.image

theorem Untouched.refl (s : HandlerState FileDisk) : Untouched s s := ⟨rfl,rfl⟩

theorem contentsSame (cache : d'.cache = d.cache) (image : d'.image = d.image) : d'.contents = d.contents := by
  unfold contents
  rw [cache,image]

theorem usableSame (cache : d'.cache = d.cache) : d'.Usable ↔ d.Usable := by
  unfold Usable
  rw [cache]

theorem readyEnds (s : HandlerState FileDisk) : Eff.wp checkReady r s
    (fun _ t => t = s ∧ s.device.reset = false ∧ s.device.attn = false ∧ s.device.ready = true)
    fun _ t => Untouched s t ∧ ¬(s.device.reset = false ∧ s.device.attn = false ∧ s.device.ready = true) := by
  unfold checkReady PrimaryDevice.checkReady
  simp only [Handler.wpSuper,Eff.wpBind,Handler.wpGetDevice,Eff.wpIte,Handler.wpModifyDevice,Eff.wpThrow,Eff.wpPure]
  refine ⟨fun reset => ⟨⟨rfl,rfl⟩,fun ready => ?_⟩,fun reset => ⟨fun attn => ⟨⟨rfl,rfl⟩,fun ready => ?_⟩,
    fun attn => ⟨fun ready => ⟨⟨rfl,rfl⟩,fun all => ?_⟩,fun ready => ⟨rfl,?_,?_,?_⟩⟩⟩⟩
  · exact absurd reset (Bool.eq_false_iff.mp ready.1)
  · exact absurd attn (Bool.eq_false_iff.mp ready.2.1)
  · exact absurd ready (by rw [Bool.not_eq_true']; exact Bool.not_eq_false _ |>.mpr all.2.2)
  · exact Bool.eq_false_iff.mpr reset
  · exact Bool.eq_false_iff.mpr attn
  · exact Bool.not_eq_false _ |>.mp (by rwa [Bool.not_eq_true'] at ready)

theorem readyOk (reset : s.device.reset = false) (attn : s.device.attn = false) (ready : s.device.ready = true) :
    (checkReady : Handler FileDisk Unit) r s = (.ok (),s) :=
  Eff.ranOk (Eff.wpMono (readyEnds s) (fun _ _ ended => ⟨rfl,ended.1⟩) fun _ _ failed => failed.2 ⟨reset,attn,ready⟩)

/- The address is accepted, or the command ends here. -/
theorem addressEnds (s : HandlerState FileDisk) : Eff.wp (validateBlockAddress c) r s
    (fun n t => n = c.sector r ∧ t = s ∧ s.device.reset = false ∧ s.device.attn = false ∧ s.device.ready = true ∧
      ¬(c.mode = .rw10 ∧ r.cdbByte 1 &&& 0x01 ≠ 0) ∧ c.sector r < s.device.blocks)
    fun _ t => Untouched s t ∧ ¬Accepted c r s.device := by
  unfold validateBlockAddress
  rw [Eff.wpBind]
  refine Eff.wpMono (readyEnds s) (fun _ t ended => ?_) fun _ t failed =>
    ⟨failed.1,fun accepted => failed.2 ⟨accepted.reset,accepted.attn,accepted.ready⟩⟩
  obtain ⟨rfl,ready⟩ := ended
  simp only [Eff.wpBind,Handler.wpGetRequest,Handler.wpGetDevice,Eff.wpIte,Eff.wpThrow,Eff.wpPure]
  refine ⟨fun relative => ⟨.refl t,fun accepted => accepted.absolute relative⟩,fun absolute => ⟨fun beyond => ⟨.refl t,fun accepted => ?_⟩,
    fun within => ⟨trivial,trivial,ready.1,ready.2.1,ready.2.2,absolute,Nat.not_le.mp within⟩⟩⟩
  exact absurd accepted.within (Nat.not_lt.mpr beyond)

theorem writableEnds (s : HandlerState FileDisk) : Eff.wp (super StorageDevice.checkWritePreconditions : Handler FileDisk Unit) r s
    (fun _ t => t = s ∧ s.device.writeProtected = false) fun _ t => Untouched s t ∧ s.device.writeProtected = true := by
  unfold StorageDevice.checkWritePreconditions
  simp only [Handler.wpSuper,Eff.wpBind,Handler.wpGetDevice,Eff.wpIte,Eff.wpThrow,Eff.wpPure]
  exact ⟨fun locked => ⟨⟨rfl,rfl⟩,locked⟩,fun free => ⟨rfl,Bool.eq_false_iff.mpr free⟩⟩

theorem lengthEnds (n : Nat) (s : HandlerState FileDisk) : Eff.wp (checkLongLength n) r s
    (fun _ t => t = s ∧ n = s.device.blockSize) fun _ t => Untouched s t ∧ n ≠ s.device.blockSize := by
  unfold checkLongLength
  simp only [Handler.wpSuper,Eff.wpBind,Handler.wpGetDevice,Handler.wpModifyDevice,Eff.wpIte,Eff.wpThrow,Eff.wpPure]
  exact ⟨fun differ => ⟨⟨rfl,rfl⟩,differ⟩,fun same => ⟨trivial,Decidable.not_not.mp same⟩⟩

/- Only an accepted command goes on with the transfer. -/
theorem executeEnds (some_ : c.length r ≠ 0) (s : HandlerState FileDisk) : Eff.wp (execute c) r s
    (fun _ _ => Accepted c r s.device) fun _ t => Accepted c r s.device ∨ Untouched s t := by
  unfold execute
  rw [Eff.wpBind]
  refine Eff.wpMono (addressEnds s) (fun n t ended => ?_) fun _ t failed => .inr failed.1
  obtain ⟨rfl,rfl,reset,attn,ready,absolute,within⟩ := ended
  rw [Eff.wpBind,Handler.wpGetRequest]
  have transfers (writable : c.write = true → t.device.writeProtected = false) :
      Eff.wp (do checkLongLength (c.length r); transferLong (c.sector r) (c.length r) c.write) r t
        (fun _ _ => Accepted c r t.device) fun _ u => Accepted c r t.device ∨ Untouched t u := by
    rw [Eff.wpBind]
    refine Eff.wpMono (lengthEnds _ t) (fun _ u ended => ?_) fun _ _ failed => .inr failed.1
    obtain ⟨rfl,length⟩ := ended
    have accepted : Accepted c r u.device := ⟨reset,attn,ready,absolute,within,writable,length⟩
    exact Eff.wpAlways (fun _ _ => accepted) fun _ _ => .inl accepted
  unfold readWriteLong
  cases write : c.write with
  | false =>
    rw [write] at transfers
    simp only [Bool.false_eq_true,↓reduceIte,some_]
    exact transfers fun wrong => Bool.noConfusion wrong
  | true =>
    rw [write] at transfers
    simp only [↓reduceIte,some_]
    rw [Eff.wpBind]
    refine Eff.wpMono (writableEnds t) (fun _ u ended => ?_) fun _ _ failed => .inr failed.1
    obtain ⟨rfl,writable⟩ := ended
    exact transfers fun _ => writable

theorem executeAccepted (some_ : c.length r ≠ 0) (accepted : Accepted c r s.device) :
    execute c r s = transferLong (c.sector r) (c.length r) c.write r s := by
  have address : validateBlockAddress c r s = (.ok (c.sector r),s) :=
    Eff.ranOk (Eff.wpMono (addressEnds s) (fun _ _ ended => ⟨ended.1,ended.2.1⟩) fun _ _ failed => failed.2 accepted)
  have length : checkLongLength (c.length r) r s = (.ok (),s) :=
    Eff.ranOk (Eff.wpMono (lengthEnds _ s) (fun _ _ ended => ⟨rfl,ended.1⟩) fun _ _ failed => failed.2 accepted.length)
  unfold execute
  rw [Eff.bindOk address,Eff.bindOk (show getRequest r s = (.ok r,s) from rfl)]
  unfold readWriteLong
  cases write : c.write with
  | false =>
    simp only [Bool.false_eq_true,↓reduceIte,some_]
    exact Eff.bindOk length
  | true =>
    have writable : (super StorageDevice.checkWritePreconditions : Handler FileDisk Unit) r s = (.ok (),s) :=
      Eff.ranOk (Eff.wpMono (writableEnds s) (fun _ _ ended => ⟨rfl,ended.1⟩) fun _ _ failed =>
        Bool.noConfusion ((accepted.writable write).symm.trans failed.2))
    simp only [↓reduceIte,some_]
    rw [Eff.bindOk writable]
    exact Eff.bindOk length

theorem executeRefused (some_ : c.length r ≠ 0) (refused : ¬Accepted c r s.device) :
    ∃ e t, execute c r s = (.error e,t) ∧ Untouched s t := by
  have ends := executeEnds (c := c) (r := r) some_ s
  unfold Eff.wp at ends
  split at ends
  · exact absurd ends refused
  · next e t ran => exact ⟨e,t,ran,ends.resolve_left refused⟩

/- How the cache is flushed that is not a stream. -/
theorem flushEnds (noStream : ¬d.Streams) : ∃ ok image, d.flush = { d with image, failures := d.failures + failed ok } ∧
    Same d.image image ∧ (d.image.opens = true → (ok = true ↔ ∀ p, d.Held p → d.image.storable p = true)) ∧
    (ok = true → Stored d.image d.Held d.contents image) := by
  obtain ⟨base,cache,mode,next,image,failures⟩ := d
  cases cache with
  | none => exact ⟨true,image,rfl,.refl _,fun _ => iff_of_true rfl fun _ => False.elim,fun _ => .refl (fun _ => id) image⟩
  | some held =>
    cases held with
    | stream k => exact absurd trivial noStream
    | tracks k =>
      obtain ⟨same,ok,stored⟩ := k.storeEnds image
      exact ⟨(k.store image).1,(k.store image).2,rfl,same,fun opens => ok.trans (DiskCache.storesUnsaved opens),stored⟩

theorem newStreamOpened (size : d.blockSize ≠ 0) (blocks : d.blocks ≠ 0) :
    (newStream d).file.opened = true ↔ d.filename ≠ "" ∧ d.image.opens = true := by
  unfold newStream Stream.openFile
  dsimp only
  by_cases empty : d.filename = ""
  · rw [if_pos (.inr (.inr (String.isEmpty_iff.mpr empty)))]
    exact iff_of_false Bool.false_ne_true fun both => both.1 empty
  · rw [if_neg fun bad => bad.elim size fun bad => bad.elim blocks fun bad => empty (String.isEmpty_iff.mp bad)]
    exact ⟨fun opens => ⟨empty,opens⟩,fun both => both.2⟩

theorem newStreamPending (d : FileDisk) : (newStream d).file.pending = none := by
  unfold newStream Stream.openFile
  dsimp only
  split <;> rfl

/- The stream that the transfer works on, and what has become of the disk. -/
structure Switched (d d' : FileDisk) (k : StreamCache) : Prop where
  cache : d'.cache = some (.stream k)
  base : d'.toStorageDevice = d.toStorageDevice
  size : k.sectorSize = d.blockSize
  sectors : k.sectors = d.blocks
  kept : d.Streams → d' = d ∧ (k.file.opened = true → k.file.Synced d'.image → d.Sound)
  fresh : ¬d.Streams → k.writeThrough = false ∧ k.file.Synced d'.image ∧ (d'.failures = d.failures → d.Sound) ∧
    (k.file.opened = true ∨ d'.failures ≠ d.failures)
  sound : d.Sound → d'.failures = d.failures ∧ d'.contents = d.contents ∧ k.file.opened = true
  reads : d.Sound → ∀ start count, k.file.Reads d'.image start count ↔ d.Readable start count

theorem switchStream (cache : s.device.cache = some (.stream k)) : switchToStream r s = (.ok k,s) := by
  unfold switchToStream
  rw [Eff.bindOk (show getDevice r s = (.ok s.device,s) from rfl),cache]
  rfl

theorem switchReplaces (noStream : ¬s.device.Streams) : switchToStream r s = replaceByStream r s := by
  unfold switchToStream
  rw [Eff.bindOk (show getDevice r s = (.ok s.device,s) from rfl)]
  unfold Streams at noStream
  cases cache : s.device.cache with
  | none => rfl
  | some held =>
    cases held with
    | tracks _ => rfl
    | stream _ =>
      rw [cache] at noStream
      exact absurd trivial noStream

theorem switchKeeps (cache : d.cache = some (.stream k)) (built : d.Built) : Switched d d k := by
  have streams : d.Streams := by
    unfold Streams
    rw [cache]
    trivial
  have opens : d.Opens ↔ k.file.opened = true := by
    unfold Opens
    rw [cache]
  have held : d.Held = k.file.Held := by
    unfold Held
    rw [cache]
  obtain ⟨size,sectors⟩ := built k cache
  have keeps (opened : k.file.opened = true) (synced : k.file.Synced d.image) : d.Sound := ⟨opens.mpr opened,by rwa [held]⟩
  refine ⟨cache,rfl,size,sectors,fun _ => ⟨rfl,keeps⟩,fun noStream => absurd streams noStream,fun sound => ⟨rfl,rfl,opens.mp sound.opens⟩,
    fun sound start count => ⟨fun reads => ⟨?_,reads.readable⟩,fun readable => ⟨opens.mp sound.opens,?_,?_,readable.readable⟩⟩⟩
  · rw [held]
    exact reads.within
  · have stored := sound.stored
    rwa [held] at stored
  · have within := readable.within
    rwa [held] at within

theorem opensFile (noStream : ¬d.Streams) : d.Opens ↔ d.filename ≠ "" ∧ d.image.opens = true := by
  unfold Streams at noStream
  unfold Opens
  cases cache : d.cache with
  | none => rfl
  | some held =>
    cases held with
    | tracks _ => rfl
    | stream _ =>
      rw [cache] at noStream
      exact absurd trivial noStream

theorem failedZero {ok opened : Bool} {n : Nat} : n + failed ok + failed opened = n ↔ ok = true ∧ opened = true := by
  cases ok <;> cases opened <;> simp [failed]
  omega

/- The disk between the flush and the new stream, and with the stream. -/
def unbuffered (d : FileDisk) : FileDisk := { flush d with cachingMode := .linux }

def replaced (d : FileDisk) : FileDisk :=
  { unbuffered d with
    cache := some (.stream (newStream (unbuffered d)))
    failures := (unbuffered d).failures + failed (newStream (unbuffered d)).file.opened }

theorem replaceRuns (ready : s.device.ready = true) :
    replaceByStream r s = (.ok (newStream (unbuffered s.device)),{ s with device := replaced s.device }) := by
  have ran : flushCache r s = (.ok (),{ s with device := flush s.device }) := by
    refine Eff.ranOk ?_
    unfold flushCache
    simp only [Eff.wpBind,Handler.wpGetDevice,Eff.wpIte,Handler.wpModifyDevice,Eff.wpPure]
    exact ⟨fun _ => ⟨trivial,trivial⟩,fun unready => absurd ready unready⟩
  unfold replaceByStream
  rw [Eff.bindOk ran]
  rfl

/- The new stream sees what the tracks have stored. -/
theorem switchOpens (noStream : ¬d.Streams) (size : d.blockSize ≠ 0) (blocks : d.blocks ≠ 0) :
    Switched d (replaced d) (newStream (unbuffered d)) := by
  obtain ⟨ok,image,flushed,same,ok_,stored⟩ := flushEnds noStream
  unfold replaced unbuffered
  rw [flushed]
  dsimp only
  have opened := newStreamOpened (d := { d with image, failures := d.failures + failed ok, cachingMode := .linux }) size blocks
  have pending := newStreamPending { d with image, failures := d.failures + failed ok, cachingMode := .linux }
  have written : (newStream { d with image, failures := d.failures + failed ok, cachingMode := .linux }).writeThrough = false := rfl
  have sectors : (newStream { d with image, failures := d.failures + failed ok, cachingMode := .linux }).sectors = d.blocks := rfl
  have bytes : (newStream { d with image, failures := d.failures + failed ok, cachingMode := .linux }).sectorSize = d.blockSize := rfl
  generalize newStream { d with image, failures := d.failures + failed ok, cachingMode := .linux } = k at *
  dsimp only at opened
  rw [same.opens] at opened
  have nothing (p : Nat) : ¬k.file.Held p := fun held => by
    unfold Stream.Held at held
    rw [pending] at held
    exact held
  have opens := opensFile noStream
  have sound : d.Sound ↔ ok = true ∧ k.file.opened = true := by
    rw [opened]
    refine ⟨fun sound => ⟨(ok_ (opens.mp sound.opens).2).mpr sound.stored,opens.mp sound.opens⟩,fun both => ⟨opens.mpr both.2,?_⟩⟩
    exact (ok_ both.2.2).mp both.1
  refine ⟨rfl,rfl,bytes,sectors,fun streams => absurd streams noStream,fun _ => ⟨written,fun p held => absurd held (nothing p),?_,?_⟩,?_,?_⟩
  · exact fun fails => sound.mpr (failedZero.mp fails)
  · cases open_ : k.file.opened with
    | true => exact .inl rfl
    | false =>
      refine .inr fun fails => ?_
      have both := (failedZero.mp fails).2
      cases both
  · intro is
    obtain ⟨done,open_⟩ := sound.mp is
    refine ⟨failedZero.mpr ⟨done,open_⟩,?_,open_⟩
    have seen : k.file.contents image = image.get := by
      unfold Stream.contents
      rw [pending]
    exact seen.trans (stored done).get
  · intro is start count
    obtain ⟨done,open_⟩ := sound.mp is
    refine ⟨fun reads => ⟨?_,?_⟩,fun readable => ⟨open_,fun p held => absurd held (nothing p),?_,?_⟩⟩
    · exact ((stored done).reaches _).mp (reads.within.elim id fun ⟨p,held,_⟩ => absurd held (nothing p))
    · exact same.readable ▸ reads.readable
    · exact .inl (((stored done).reaches _).mpr readable.within)
    · exact same.readable.symm ▸ readable.readable

theorem switched (built : s.device.Built) (ready : s.device.ready = true) (size : s.device.blockSize ≠ 0) (blocks : s.device.blocks ≠ 0) :
    ∃ k d', switchToStream r s = (.ok k,{ s with device := d' }) ∧ Switched s.device d' k := by
  by_cases streams : s.device.Streams
  · have streams_ := streams
    unfold Streams at streams_
    split at streams_
    · next k cache => exact ⟨k,s.device,switchStream cache,switchKeeps cache built⟩
    · exact streams_.elim
  · exact ⟨_,_,(switchReplaces streams).trans (replaceRuns ready),switchOpens streams size blocks⟩

/- A disk that only differs in the cache, the file and the next sector is as ready as before. -/
theorem readySame (accepted : Accepted c r s.device) (base : d'.toStorageDevice = s.device.toStorageDevice) (transfer : Transfer) :
    (checkReady : Handler FileDisk Unit) r ⟨d',transfer,s.world⟩ = (.ok (),⟨d',transfer,s.world⟩) := by
  refine readyOk ?_ ?_ ?_
  · exact (congrArg (fun b => b.reset) base).trans accepted.reset
  · exact (congrArg (fun b => b.attn) base).trans accepted.attn
  · exact (congrArg (fun b => b.ready) base).trans accepted.ready

variable {data : Bytes}

/- The buffer after a read of the stream. -/
def filled (t : Transfer) (data : Option Bytes) : Transfer :=
  match data with
  | none => t
  | some data => { t with buffer := setBytes t.buffer 0 data }

theorem readLongEnds {sector n : Nat} (within : sector < k.sectors) {read : Option Bytes × Stream × FaultyFile}
    (ran : k.file.read s.device.image (k.sectorSize * sector) n = read) : readLong k sector n r s =
      (.ok (.dataIn (if read.1.isSome then n else 0)),
        ⟨after k read.1.isSome read.2.1 read.2.2 s.device,filled s.transfer read.1,s.world⟩) := by
  unfold readLong
  rw [if_neg (Nat.not_le.mpr within),Eff.bindOk (show getDevice r s = (.ok s.device,s) from rfl),ran]
  obtain ⟨data,file,image⟩ := read
  cases data with
  | none => rfl
  | some data => rfl

theorem readRuns (some_ : c.length r ≠ 0) (accepted : Accepted c r s.device) (read : c.write = false)
    (ran : switchToStream r s = (.ok k,{ s with device := d' })) (switched : Switched s.device d' k)
    {got : Option Bytes × Stream × FaultyFile} (reads : k.file.read d'.image (place c r s.device) (c.length r) = got)
    (whole : ∀ bytes, got.1 = some bytes → bytes.length = c.length r) :
    run c r s data = .good (got.1.getD []) (after k got.1.isSome got.2.1 got.2.2 d') := by
  have within : c.sector r < k.sectors := by
    rw [switched.sectors]
    exact accepted.within
  have there : k.sectorSize * c.sector r = place c r s.device := by
    rw [switched.size]
    rfl
  have ends : execute c r s = (.ok (.dataIn (if got.1.isSome then c.length r else 0)),
      ⟨after k got.1.isSome got.2.1 got.2.2 d',
        filled ((s.transfer.setTransferSize (c.length r) (c.length r)).setCurrentLength (c.length r)) got.1,s.world⟩) := by
    rw [executeAccepted some_ accepted,read]
    unfold transferLong
    rw [Eff.bindOk ran,Eff.bindOk (readySame accepted switched.base s.transfer)]
    exact readLongEnds within (there.symm ▸ reads)
  unfold run
  rw [ends]
  dsimp only
  cases data_ : got.1 with
  | none => rfl
  | some bytes =>
    have same := takeFront ((s.transfer.setTransferSize (c.length r) (c.length r)).setCurrentLength (c.length r)).buffer bytes
    rw [whole bytes data_] at same
    exact congrArg (Outcome.good · _) same

theorem writeLongEnds {sector : Nat} (within : sector < k.sectors) {wrote : Bool × Stream × FaultyFile}
    (ran : k.file.write s.device.image (k.sectorSize * sector) data k.writeThrough = wrote) : writeLong k sector data r s =
      (.ok wrote.1,{ s with device := after k wrote.1 wrote.2.1 wrote.2.2 s.device }) := by
  unfold writeLong
  rw [if_neg (Nat.not_le.mpr within),Eff.bindOk (show getDevice r s = (.ok s.device,s) from rfl),ran]
  rfl

/- The end of a WRITE LONG. -/
def written (ok : Bool) (d : FileDisk) : Outcome := if ok then .good [] d else .checkCondition d

theorem finishEnds (ready : checkReady r { t with transfer := receive t.transfer data } = (.ok (),{ t with transfer := receive t.transfer data }))
    (cache : t.device.cache = some (.stream k)) (within : t.device.nextSector < k.sectors)
    (chunk : t.transfer.chunkSize.toNat = data.length) {wrote : Bool × Stream × FaultyFile}
    (writes : k.file.write t.device.image (k.sectorSize * t.device.nextSector) data k.writeThrough = wrote) :
    finishWrite r t data = written wrote.1 (after k wrote.1 wrote.2.1 wrote.2.2 t.device) := by
  have taken : (receive t.transfer data).buffer.take (receive t.transfer data).chunkSize.toNat = data :=
    (congrArg (fun n => List.take n _) chunk).trans (takeFront _ data)
  have ends := writeLongEnds (r := r) (s := { t with transfer := receive t.transfer data }) within writes
  unfold finishWrite writeData
  rw [Eff.bindOk ready,Eff.bindOk (show getDevice r { t with transfer := receive t.transfer data } = (.ok t.device,_) from rfl),
    Eff.bindOk (show getTransfer r { t with transfer := receive t.transfer data } = (.ok (receive t.transfer data),_) from rfl),cache,taken]
  dsimp only
  rw [Eff.bindOk ends]
  cases wrote.1 with
  | false => rfl
  | true => rfl

theorem writeRuns (some_ : c.length r ≠ 0) (accepted : Accepted c r s.device) (write : c.write = true)
    (ran : switchToStream r s = (.ok k,{ s with device := d' })) (switched : Switched s.device d' k) (whole : data.length = c.length r)
    {wrote : Bool × Stream × FaultyFile} (writes : k.file.write d'.image (place c r s.device) data k.writeThrough = wrote) :
    run c r s data = written wrote.1 (after k wrote.1 wrote.2.1 wrote.2.2 { d' with nextSector := c.sector r }) := by
  have within : c.sector r < k.sectors := by
    rw [switched.sectors]
    exact accepted.within
  have there : k.sectorSize * c.sector r = place c r s.device := by
    rw [switched.size]
    rfl
  have asks : execute c r s = (.ok (.dataOut (c.length r)),
      ⟨{ d' with nextSector := c.sector r },s.transfer.setTransferSize (c.length r) (c.length r),s.world⟩) := by
    rw [executeAccepted some_ accepted,write]
    unfold transferLong
    rw [Eff.bindOk ran,Eff.bindOk (readySame accepted switched.base s.transfer)]
    rfl
  have chunk : (s.transfer.setTransferSize (c.length r) (c.length r)).chunkSize.toNat = data.length := by
    unfold Transfer.setTransferSize
    dsimp only
    rw [if_neg (lt_irrefl _),whole,Int.toNat_natCast]
  have base : ({ d' with nextSector := c.sector r }).toStorageDevice = s.device.toStorageDevice := switched.base
  unfold run
  rw [asks]
  exact finishEnds (readySame accepted base _) switched.cache within chunk (there.symm ▸ writes)

theorem afterContents (k : StreamCache) (ok : Bool) (file : Stream) (image : FaultyFile) (d : FileDisk) :
    (after k ok file image d).contents = file.contents image := rfl

theorem streamContents (cache : d.cache = some (.stream k)) : d.contents = k.file.contents d.image := by
  unfold contents
  rw [cache]

theorem streamUsable (cache : d.cache = some (.stream k)) : d.Usable ↔ k.file.opened = true := by
  unfold Usable
  rw [cache]

theorem readReports (some_ : c.length r ≠ 0) (accepted : Accepted c r s.device) (built : s.device.Built) (read : c.write = false) :
    (∀ data, data.length = c.length r → Reports c r s.device data (run c r s data)) ↔
      s.device.Sound ∧ s.device.Readable (place c r s.device) (c.length r) := by
  have size : s.device.blockSize ≠ 0 := accepted.length ▸ some_
  have blocks : s.device.blocks ≠ 0 := Nat.ne_of_gt (Nat.zero_lt_of_lt accepted.within)
  obtain ⟨k,d',ran,switched⟩ := switched (r := r) built accepted.ready size blocks
  have wrong : ¬c.write = true := Bool.eq_false_iff.mp read
  by_cases reads : k.file.Reads d'.image (place c r s.device) (c.length r)
  · have bytes := Stream.readOk reads
    have kept := Stream.readContents k.file d'.image (place c r s.device) (c.length r)
    have runs (data : Bytes) : run c r s data = _ := readRuns some_ accepted read ran switched rfl fun got here => by
      rw [bytes] at here
      cases here
      rw [List.length_map,List.length_range]
    have contents_ := streamContents switched.cache
    constructor
    · intro reports
      have first := reports (List.replicate (c.length r) 0) (List.length_replicate ..)
      rw [runs] at first
      have failures : d'.failures = s.device.failures := by
        have sum := first.1
        rw [bytes] at sum
        exact sum
      have sound : s.device.Sound := by
        by_cases streams : s.device.Streams
        · exact (switched.kept streams).2 reads.opened reads.synced
        · exact (switched.fresh streams).2.2.1 failures
      exact ⟨sound,(switched.reads sound _ _).mp reads⟩
    · rintro ⟨sound,_⟩ data whole
      obtain ⟨failures,same,_⟩ := switched.sound sound
      rw [runs]
      refine ⟨?_,fun write => absurd write wrong,fun _ => ⟨?_,?_⟩⟩
      · rw [← failures]
        unfold after
        rw [bytes]
        rfl
      · rw [bytes,← same,contents_]
        rfl
      · rw [afterContents,kept,← contents_,same]
  · have nothing := Stream.readFails reads
    have runs (data : Bytes) : run c r s data = _ := readRuns some_ accepted read ran switched rfl fun got here => by
      rw [nothing] at here
      cases here
    refine iff_of_false (fun reports => ?_) fun both => reads ((switched.reads both.1 _ _).mpr both.2)
    have first := reports (List.replicate (c.length r) 0) (List.length_replicate ..)
    rw [runs] at first
    have sent := congrArg List.length (first.2.2 read).1
    rw [nothing,List.length_map,List.length_range] at sent
    exact some_ sent.symm

/- With nothing lost before, a write either lays its data or leaves the other bytes alone. -/
theorem writtenReports (write : c.write = true) (whole : data.length = c.length r) (failures : d'.failures = d.failures)
    (same : d'.contents = d.contents) (cache : d'.cache = some (.stream k)) (opened : d.Usable → k.file.opened = true)
    {wrote : Bool × Stream × FaultyFile} (writes : k.file.write d'.image (place c r d) data k.writeThrough = wrote) :
    Reports c r d data (written wrote.1 (after k wrote.1 wrote.2.1 wrote.2.2 { d' with nextSector := c.sector r })) := by
  have contents_ := (streamContents cache).symm.trans same
  subst writes
  cases done : (k.file.write d'.image (place c r d) data k.writeThrough).1 with
  | true =>
    have laid_ := Stream.writeDone done
    rw [contents_] at laid_
    exact ⟨failures,fun _ => laid_,fun read => Bool.noConfusion (write.symm.trans read)⟩
  | false =>
    refine ⟨fun usable => (Stream.writeOpened ..).trans (opened usable),fun p outside => ?_⟩
    have apart : ¬(place c r d ≤ p ∧ p < place c r d + data.length) := whole.symm ▸ outside write
    have kept := Stream.writeOutside k.file d'.image k.writeThrough apart
    rw [contents_] at kept
    exact kept

theorem writeReports (some_ : c.length r ≠ 0) (accepted : Accepted c r s.device) (built : s.device.Built) (write : c.write = true) :
    (∀ data, data.length = c.length r → Reports c r s.device data (run c r s data)) ↔ s.device.Streams ∨ s.device.Sound := by
  have size : s.device.blockSize ≠ 0 := accepted.length ▸ some_
  have blocks : s.device.blocks ≠ 0 := Nat.ne_of_gt (Nat.zero_lt_of_lt accepted.within)
  obtain ⟨k,d',ran,switched⟩ := switched (r := r) built accepted.ready size blocks
  constructor
  · intro reports
    by_cases streams : s.device.Streams
    · exact .inl streams
    obtain ⟨through,synced,sound,open_⟩ := switched.fresh streams
    have first := reports (List.replicate (c.length r) 0) (List.length_replicate ..)
    rw [writeRuns some_ accepted write ran switched (List.length_replicate ..) rfl] at first
    by_cases opened : k.file.opened = true
    · have accepts := Stream.writeAccepts opened synced (place c r s.device) (List.replicate (c.length r) 0)
      rw [through,accepts] at first
      exact .inr (sound first.1)
    · have lost := open_.resolve_left opened
      have fails := Stream.writeFails (s := k.file) (f := d'.image) (fun both => opened both.1) (place c r s.device)
        (List.replicate (c.length r) 0) k.writeThrough
      rw [fails] at first
      have usable : s.device.Usable := by
        unfold Usable
        unfold Streams at streams
        split
        · next cache =>
          rw [cache] at streams
          exact absurd trivial streams
        · trivial
      exact absurd ((Stream.syncOpened k.file d'.image).symm.trans (first.1 usable)) opened
  · intro holds data whole
    rw [writeRuns some_ accepted write ran switched whole rfl]
    by_cases streams : s.device.Streams
    · obtain ⟨same,_⟩ := switched.kept streams
      subst same
      exact writtenReports write whole rfl rfl switched.cache (streamUsable switched.cache).mp rfl
    · obtain ⟨failures,same,opened⟩ := switched.sound (holds.resolve_left streams)
      exact writtenReports write whole failures same switched.cache (fun _ => opened) rfl

end FileDisk
open FileDisk

/- A command that is not accepted leaves everything as it is. -/
theorem longFailuresReported (c : LongCommand) (r : Request) (s : HandlerState FileDisk) (built : s.device.Built) :
    (c.length r ≠ 0 → ∀ data, data.length = c.length r → Reports c r s.device data (run c r s data)) ↔
      (c.length r ≠ 0 → Accepted c r s.device → HoldsWhen c r s.device) := by
  refine forall_congr' fun some_ => ?_
  by_cases accepted : Accepted c r s.device
  · rw [forall_prop_of_true accepted]
    unfold HoldsWhen
    cases write : c.write with
    | false =>
      rw [if_neg Bool.false_ne_true]
      exact readReports some_ accepted built write
    | true =>
      rw [if_pos rfl]
      exact writeReports some_ accepted built write
  · refine iff_of_true (fun data _ => ?_) fun yes => absurd yes accepted
    obtain ⟨e,t,ran,untouched⟩ := executeRefused some_ accepted
    unfold run
    rw [ran]
    exact ⟨(usableSame untouched.cache).mpr,fun p _ => congrFun (contentsSame untouched.cache untouched.image) p⟩

namespace FileDisk

def readFirst : Request := { cdb := [0x3e,0,0,0,0,0,0,0x02,0x00,0] }

def oneBlock (image : FaultyFile) (cache : FileCache) (cachingMode : CachingMode) : HandlerState FileDisk :=
  ⟨{ type := .schd, ready := true, blocks := 1, blockSize := 512, supportedBlockSizes := [512], filename := "drive.hds",
     cache := some cache, cachingMode, image },{},{}⟩

/- GOOD without data. -/
def Outcome.isEmpty : Outcome → Bool
  | .good sent _ => sent.isEmpty
  | .checkCondition _ => false

/- A file that can be read but not be opened for writing, with a cache of tracks: the command ends without data. -/
def readOnlyImage : HandlerState FileDisk :=
  oneBlock { bytes := List.replicate 512 7, opens := false } (.tracks (.new "drive.hds" 512 1)) .piscsi

theorem readLongLost : readOnlyImage.device.Built ∧ ¬(LongCommand.length .readLong10 readFirst ≠ 0 →
    ∀ data, data.length = LongCommand.length .readLong10 readFirst →
      Reports .readLong10 readFirst readOnlyImage.device data (run .readLong10 readFirst readOnlyImage data)) := by
  refine ⟨fun _ cache => (by cases cache),fun reports => ?_⟩
  have length : LongCommand.length .readLong10 readFirst = 512 := by decide
  have first := reports (by decide) (List.replicate 512 0) ((List.length_replicate ..).trans length.symm)
  have empty : (run .readLong10 readFirst readOnlyImage (List.replicate 512 0)).isEmpty = true := by decide +kernel
  generalize run .readLong10 readFirst readOnlyImage (List.replicate 512 0) = outcome at *
  cases outcome with
  | checkCondition d' => cases empty
  | good sent d' =>
    have bytes := congrArg List.length (first.2.2 rfl).1
    rw [List.isEmpty_iff.mp empty,List.length_map,List.length_range,length] at bytes
    cases bytes

/- A stream on a file without faults. -/
def openImage : HandlerState FileDisk :=
  oneBlock { bytes := List.replicate 512 7 } (.stream { sectorSize := 512, sectors := 1, file := { opened := true } }) .linux

set_option maxRecDepth 4096 in
theorem readLongSent : Reports .readLong10 readFirst openImage.device (List.replicate 512 0)
    (run .readLong10 readFirst openImage (List.replicate 512 0)) := by
  have built : openImage.device.Built := by
    intro k cache
    cases cache
    exact ⟨rfl,rfl⟩
  have whole : (List.replicate 512 (7 : UInt8)).length = 512 := List.length_replicate
  have within : place .readLong10 readFirst openImage.device + LongCommand.length .readLong10 readFirst ≤ (List.replicate 512 (7 : UInt8)).length :=
    Nat.le_trans (m := 512) (by decide) (Nat.le_of_eq whole.symm)
  have length : LongCommand.length .readLong10 readFirst = 512 := by decide
  have sound : openImage.device.Sound := ⟨rfl,fun _ held => held.elim⟩
  have holds : HoldsWhen .readLong10 readFirst openImage.device := (if_neg Bool.false_ne_true).mpr ⟨sound,.inl within,fun _ _ => rfl⟩
  have some_ : LongCommand.length .readLong10 readFirst ≠ 0 := by decide
  exact (longFailuresReported .readLong10 readFirst openImage built).mpr (fun _ _ => holds) some_ (List.replicate 512 0) (List.length_replicate.trans length.symm)

end FileDisk
end Scsi2Pi
