import Scsi2Pi.SharedDisk
import Scsi2Pi.InStep
import Scsi2Pi.DumpRange

/-! s2pdump on a disk of s2p: the tool is the initiator on the bus, the target is the controller
with the disk. For the tool the disk is the bytes of its sectors. -/
namespace Scsi2Pi
namespace DumpOnBus
open Slices MemoryUtil Eff DumpEff S2pDump S2pDumpExecutor DiskOnBus SectorArray BoardTarget BoardExecutor

variable {medium : Medium} {a : Sectors} {i : Initiator} {c : Controller AnyDevice} {bytes data buf : Bytes} {env : Env}
  {ids steps targetId lba count : Nat} {isWrite : Bool}

/- The disk holds these bytes. -/
def Mirrors (medium : Medium) (lun targetId : Nat) (c : Controller AnyDevice) (bytes : Bytes) : Prop :=
  ∃ a, OnBus medium lun c a ∧ c.targetId = targetId ∧ bytes = image medium.count a

theorem OnBus.sized {lun : Nat} (onBus : OnBus medium lun c a) : ∀ k < medium.count, (a k).length = medium.size := by
  obtain ⟨_,_,_,_,holds⟩ := onBus.serves
  exact holds.sized

theorem Mirrors.length {lun : Nat} (mirrors : Mirrors medium lun targetId c bytes) : bytes.length = medium.count * medium.size := by
  obtain ⟨a,onBus,_,rfl⟩ := mirrors
  exact imageLength (OnBus.sized onBus)

/-! The commands of the tool. -/

theorem sentBytes (i : Initiator) (isWrite : Bool) (lba count : Nat) : ∃ lun,
    sentCdb i isWrite lba count = [if isWrite then ScsiCommand.write10 else ScsiCommand.read10,lun,UInt8.ofNat (lba / 256^3),
      UInt8.ofNat (lba / 256^2),UInt8.ofNat (lba / 256^1),UInt8.ofNat (lba / 256^0),0,UInt8.ofNat (count / 256^1),
      UInt8.ofNat (count / 256^0),0] := by
  unfold sentCdb encodeLun
  split <;> exact ⟨_,rfl⟩

theorem sentSingle (i : Initiator) (isWrite : Bool) (lba count : Nat) : Single (sentCdb i isWrite lba count) := by
  obtain ⟨lun,bytes⟩ := sentBytes i isWrite lba count
  rw [bytes]
  cases isWrite with
  | true =>
    refine ⟨rfl,Nat.succ_pos _,⟨Nat.zero_testBit 0,Nat.zero_testBit 1⟩,?_⟩
    change ScsiCommand.write10 ≠ ScsiCommand.requestSense
    decide
  | false =>
    refine ⟨rfl,Nat.succ_pos _,⟨Nat.zero_testBit 0,Nat.zero_testBit 1⟩,?_⟩
    change ScsiCommand.read10 ≠ ScsiCommand.requestSense
    decide

def synchronizeCdb (i : Initiator) : Bytes := encodeLun i ((newCdb 10 .synchronizeCache10).set 0 ScsiCommand.synchronizeCache10)

theorem synchronizeSingle (i : Initiator) : Single (synchronizeCdb i) := by
  obtain ⟨lun,bytes⟩ : ∃ lun, synchronizeCdb i = [ScsiCommand.synchronizeCache10,lun,0,0,0,0,0,0,0,0] := by
    unfold synchronizeCdb encodeLun
    split <;> exact ⟨_,rfl⟩
  rw [bytes]
  refine ⟨rfl,Nat.succ_pos _,⟨Nat.zero_testBit 0,Nat.zero_testBit 1⟩,?_⟩
  change ScsiCommand.synchronizeCache10 ≠ ScsiCommand.requestSense
  decide

def order (i : Initiator) (env : Env) (ids : Nat) (isWrite : Bool) (lba count : Nat) (dataOut : Bytes) : Order :=
  { ids, env, cdb := sentCdb i isWrite lba count, dataOut }

theorem orderTransfer (i : Initiator) (isWrite : Bool) (lba count : Nat) :
    (order i env ids isWrite lba count data).transfer = some (.rw10,isWrite) := by
  obtain ⟨lun,bytes⟩ := sentBytes i isWrite lba count
  unfold Order.transfer Order.opcode order
  rw [bytes]
  cases isWrite <;> rfl

/- A range of sectors that the disk has, with room for its bytes. -/
structure Fitting (medium : Medium) (lba count : Nat) : Prop where
  address : lba < 2^32
  number : count < 2^16
  inside : lba + count ≤ medium.count
  bound : count * medium.size < 2^31

theorem orderAddress (fitting : Fitting medium lba count) :
    Disk.lba (order i env ids isWrite lba count data).request .rw10 = lba ∧
      Disk.count (order i env ids isWrite lba count data).request .rw10 = count := by
  obtain ⟨_,start,length⟩ := sentFields (i := i) isWrite fitting.address fitting.number
  exact ⟨start,length⟩

theorem orderLegal (fitting : Fitting medium lba count) (patience : 2^17 ≤ steps)
    (full : isWrite = true → count * medium.size ≤ data.length) : Legal medium steps (order i env ids isWrite lba count data) := by
  have transfer := @orderTransfer data env ids i isWrite lba count
  obtain ⟨start,length⟩ := @orderAddress medium i data env ids lba count isWrite fitting
  refine .ofTransfer (sentSingle i isWrite lba count) transfer ⟨fun six => ?_,?_,?_,fun write => ?_,?_⟩
  · rcases six with wrong | wrong <;> cases wrong
  · rw [start,length]
    have low := fitting.address
    have few := fitting.number
    omega
  · rw [length]
    exact fitting.bound
  · rw [length]
    exact full write
  · rw [length]
    have few := fitting.number
    omega

/-! The disk on the bus and the bytes, command by command. -/

/- The targets answer a command alike. -/
def Agrees {τ τ' : Type} (R : τ → τ' → Prop) (T : Target τ) (T' : Target τ') (cdb dataOut : Bytes) : Prop :=
  ∀ t t', R t t' → ∃ u, T t cdb dataOut = ((T' t' cdb dataOut).1,u) ∧ R u (T' t' cdb dataOut).2

section
variable (granted : medium.Grants (Controller.initiatorOf ids targetId)) (lun : i.targetLun < 32) (patience : 2^17 ≤ steps)
include granted lun patience

theorem readMirrors (fitting : Fitting medium lba count) (data : Bytes) : Agrees (Mirrors medium i.targetLun targetId)
    (BoardTarget.target i env (steps + 8) ids) (disk medium.size) (sentCdb i false lba count) data := by
  rintro c _ ⟨a,onBus,rfl,rfl⟩
  have transfer := @orderTransfer data env ids i false lba count
  obtain ⟨start,length⟩ := @orderAddress medium i data env ids lba count false fitting
  have legal := @orderLegal medium i data env ids steps lba count false fitting patience fun wrong => (by cases wrong)
  obtain ⟨d,next,answer⟩ := ordersRead onBus granted lun legal transfer (by rw [start,length]; exact fitting.inside)
  rw [start,length,spanImage (OnBus.sized onBus) fitting.inside] at answer
  have kept := targetIdKept i env (steps + 8) ids c (sentCdb i false lba count) data
  have answered : BoardTarget.target i env (steps + 8) ids c (sentCdb i false lba count) data = _ := answer
  rw [answered] at kept
  rw [diskReads _ _ _ fitting.address fitting.number]
  exact ⟨d,answer,a,next,kept,rfl⟩

theorem writeMirrors (fitting : Fitting medium lba count) (full : count * medium.size ≤ data.length) :
    Agrees (Mirrors medium i.targetLun targetId) (BoardTarget.target i env (steps + 8) ids) (disk medium.size) (sentCdb i true lba count) data := by
  rintro c _ ⟨a,onBus,rfl,rfl⟩
  have transfer := @orderTransfer data env ids i true lba count
  obtain ⟨start,length⟩ := @orderAddress medium i data env ids lba count true fitting
  have legal := @orderLegal medium i data env ids steps lba count true fitting patience fun _ => full
  obtain ⟨d,next,answer⟩ := ordersWrite onBus granted lun legal transfer (by rw [start,length]; exact fitting.inside)
  rw [start,length] at next
  rw [length] at answer
  have kept := targetIdKept i env (steps + 8) ids c (sentCdb i true lba count) data
  have answered : BoardTarget.target i env (steps + 8) ids c (sentCdb i true lba count) data = _ := answer
  rw [answered] at kept
  rw [diskWrites _ _ _ fitting.address fitting.number]
  exact ⟨d,answer,_,next,kept,(storeImage (OnBus.sized onBus) fitting.inside full).symm⟩

omit patience in
/- SYNCHRONIZE CACHE brings the image file up to date. -/
theorem synchronizeMirrors (env : Env) (steps : Nat) (mirrors : Mirrors medium i.targetLun targetId c bytes) (data : Bytes) :
    ∃ d, BoardTarget.target i env (steps + 8) ids c (synchronizeCdb i) data = ({},d) ∧
      Mirrors medium i.targetLun targetId d bytes ∧ d.world.files medium.name = some (bytes ++ medium.rest) := by
  obtain ⟨a,onBus,rfl,rfl⟩ := mirrors
  have sync : (synchronizeCdb i).getD 0 0 = ScsiCommand.synchronizeCache10 := encodedOpcode _
  have transfer : Order.transfer { ids, env, cdb := synchronizeCdb i, dataOut := data } = none := by
    unfold Order.transfer Order.opcode
    rw [sync]
    rfl
  have listed : Order.opcode { ids, env, cdb := synchronizeCdb i, dataOut := data } ∈ Order.synchronizes := by
    unfold Order.opcode
    rw [sync]
    decide
  have legal : Legal medium steps { ids, env, cdb := synchronizeCdb i, dataOut := data } := by
    refine ⟨synchronizeSingle i,fun _ => listed,fun wrong => ?_⟩
    cases transfer.symm.trans wrong
  obtain ⟨d,next,stored,answer⟩ := ordersSynchronize onBus granted lun legal listed
  have kept := targetIdKept i env (steps + 8) ids c (synchronizeCdb i) data
  have answered : BoardTarget.target i env (steps + 8) ids c (synchronizeCdb i) data = _ := answer
  rw [answered] at kept
  exact ⟨d,answer,⟨a,next,kept,rfl⟩,stored⟩

end

/-! The executor of the board with either of them. -/

section
variable {τ τ' : Type} {T : Target τ} {T' : Target τ'} {R : τ → τ' → Prop}

def Over (R : τ → τ' → Prop) (s : DumpState τ) (s' : DumpState τ') : Prop := R s.target s'.target

theorem receiveInStep (buf data : Bytes) : InStep (Over R) (fun b => b.length = buf.length) (receive buf data) T (receive buf data) T' := by
  unfold receive
  refine .ite (fun _ => .throw _) fun room => .pure ?_
  exact setBytesLength (by omega)

theorem executeInStep {cmd : ScsiCommand} {cdb : Bytes} {length : Nat} (agree : Agrees R T T' (encodeLun i (cdb.set 0 cmd)) (buf.take length)) :
    InStep (Over R) (fun e => e.buf.length = buf.length) (execute i cmd cdb buf length) T (execute i cmd cdb buf length) T' := by
  have sent : InStep (Over R) (fun _ => True) (send (encodeLun i (cdb.set 0 cmd)) (buf.take length)) T
      (send (encodeLun i (cdb.set 0 cmd)) (buf.take length)) T' := by
    intro s s' related
    obtain ⟨u,answer,next⟩ := agree s.target s'.target related
    rw [wpSend,answer]
    exact ⟨trivial,_,rfl,next⟩
  exact .bind sent fun a _ => .bind (receiveInStep buf _) fun _ room => .pure room

theorem readWriteInStep {length : Nat}
    (agree : Agrees R T T' (sentCdb i isWrite lba count) (buf.take length)) :
    InStep (Over R) (fun e => e.2.length = buf.length) (readWrite (virtual i) buf lba count length isWrite) T
      (readWrite (virtual i) buf lba count length isWrite) T' := by
  have executed := executeInStep agree
  exact .bind (.bind executed fun _ room => .pure room) fun _ room => .pure room

end

/-! Dump and restore, chunk by chunk. -/

section
variable {p : S2pDump} {chunk : Chunk} {state : Bytes × Bytes} {list : List Chunk}

/- The command for a chunk names sectors that the disk has. -/
structure Sent (p : S2pDump) (medium : Medium) (chunk : Chunk) : Prop where
  fitting : Fitting medium (p.command chunk).lba chunk.sectorCount
  length : (p.command chunk).length.toNat = chunk.sectorCount * medium.size
  room : chunk.sectorCount * medium.size ≤ p.bufferSize
  bytes : chunk.currentCount ≤ p.bufferSize

theorem splitSent (sized : p.Sized) (size : p.sectorSize = medium.size) {first n : Nat} (split : Split p first n list)
    (counted : Counted list) (begins : Begins first list) (within : first + p.sectorsFor n ≤ medium.count) :
    ∀ chunk ∈ list, Sent p medium chunk := by
  induction split with
  | nil => exact fun _ member => absurd member List.not_mem_nil
  | cons offset positive inside count room whole rest ih =>
    next first bytes chunk list =>
    rw [Split.step sized inside count whole] at within
    have lba : (p.command chunk).lba = first := (commandLba offset).trans (Nat.mod_eq_of_lt begins.1)
    have length : (p.command chunk).length.toNat = chunk.sectorCount * p.sectorSize := by
      rw [commandLength sized room,Int.toNat_natCast]
    have few := counted chunk List.mem_cons_self
    have bound := sized.bufferFits
    have enough := (sectorsForBounds sized chunk.currentCount).1.trans (count ▸ room)
    have later := ih (fun other member => counted other (List.mem_cons_of_mem _ member)) begins.2 (by omega)
    intro other member
    rcases List.mem_cons.mp member with rfl | member
    · rw [size] at length room
      exact ⟨⟨by rw [lba]; exact begins.1,few,by rw [lba]; omega,room.trans_lt bound⟩,length,room,enough⟩
    · exact later other member

section
variable {τ τ' : Type} {T : Target τ} {T' : Target τ'} {R : τ → τ' → Prop}

theorem dumpChunkInStep (agree : Agrees R T T' (sentCdb i false (p.command chunk).lba chunk.sectorCount)
      (state.1.take (p.command chunk).length.toNat)) (buffer : state.1.length = p.bufferSize) :
    InStep (Over R) (fun next => next.1.length = p.bufferSize) (p.dumpChunk (virtual i) state chunk) T
      (p.dumpChunk (virtual i) state chunk) T' := by
  unfold dumpChunk
  generalize p.command chunk = c at agree ⊢
  refine .bind (readWriteInStep agree) fun answer room => ?_
  obtain ⟨ok,buf⟩ := answer
  exact .ite (fun _ => .throw _) fun _ => .pure (room.trans buffer)

theorem restoreChunkInStep (agree : Agrees R T T' (sentCdb i true (p.command chunk).lba chunk.sectorCount)
      ((setBytes state.1 0 (state.2.take chunk.currentCount)).take (p.command chunk).length.toNat))
    (buffer : state.1.length = p.bufferSize) (room : chunk.currentCount ≤ p.bufferSize) :
    InStep (Over R) (fun next => next.1.length = p.bufferSize) (p.restoreChunk (virtual i) state chunk) T
      (p.restoreChunk (virtual i) state chunk) T' := by
  unfold restoreChunk
  generalize p.command chunk = c at agree ⊢
  refine .ite (fun _ => .throw _) fun enough => ?_
  refine .bind (readWriteInStep agree) fun answer kept => ?_
  obtain ⟨ok,buf⟩ := answer
  refine .ite (fun _ => .throw _) fun _ => .pure ?_
  rw [kept,setBytesLength ?_,buffer]
  rw [List.length_take]
  omega

/- READ and WRITE of sectors that are there. -/
structure Alike (medium : Medium) (i : Initiator) (R : τ → τ' → Prop) (T : Target τ) (T' : Target τ') : Prop where
  read : ∀ lba count data, Fitting medium lba count → Agrees R T T' (sentCdb i false lba count) data
  write : ∀ lba count data, Fitting medium lba count → count * medium.size ≤ data.length → Agrees R T T' (sentCdb i true lba count) data

theorem dumpChunksInStep (alike : Alike medium i R T T') (sent : ∀ chunk ∈ list, Sent p medium chunk)
    (buffer : state.1.length = p.bufferSize) : InStep (Over R) (fun next => next.1.length = p.bufferSize)
      (p.dumpChunks (virtual i) list state) T (p.dumpChunks (virtual i) list state) T' := by
  induction list generalizing state with
  | nil => exact .pure buffer
  | cons chunk rest ih =>
    have here := sent chunk List.mem_cons_self
    have agree := alike.read (p.command chunk).lba chunk.sectorCount (state.1.take (p.command chunk).length.toNat) here.fitting
    have step := @dumpChunkInStep i p chunk state _ _ T T' R agree buffer
    unfold dumpChunks
    generalize p.dumpChunk (virtual i) state chunk = x at step ⊢
    generalize p.dumpChunk (virtual i) state chunk = y at step ⊢
    exact .bind step fun next kept =>
      ih (fun other member => sent other (List.mem_cons_of_mem _ member)) kept

theorem restoreChunksInStep (alike : Alike medium i R T T') (sent : ∀ chunk ∈ list, Sent p medium chunk)
    (buffer : state.1.length = p.bufferSize) : InStep (Over R) (fun next => next.1.length = p.bufferSize)
      (p.restoreChunks (virtual i) list state) T (p.restoreChunks (virtual i) list state) T' := by
  induction list generalizing state with
  | nil => exact .pure buffer
  | cons chunk rest ih =>
    have here := sent chunk List.mem_cons_self
    have part : (state.2.take chunk.currentCount).length ≤ state.1.length := by
      rw [List.length_take,buffer]
      exact (Nat.min_le_left _ _).trans here.bytes
    have full : chunk.sectorCount * medium.size ≤
        ((setBytes state.1 0 (state.2.take chunk.currentCount)).take (p.command chunk).length.toNat).length := by
      rw [List.length_take,here.length,setBytesLength (by omega),buffer]
      exact le_min (Nat.le_refl _) here.room
    have agree := alike.write (p.command chunk).lba chunk.sectorCount _ here.fitting full
    exact .bind (@restoreChunkInStep i p chunk state _ _ T T' R agree buffer here.bytes) fun next kept =>
      ih (fun other member => sent other (List.mem_cons_of_mem _ member)) kept

end

/-! Whole runs. -/

/- The chunks of a range that s2pdump deals with. -/
theorem planSent (typed : p.Typed) (sized : p.Sized) (accepted : ¬p.Refused) (manageable : p.Manageable)
    (capacity : p.capacity = medium.count) (size : p.sectorSize = medium.size) : ∀ chunk ∈ p.plan, Sent p medium chunk := by
  obtain ⟨first,start,covered⟩ := manageable.covers typed sized accepted
  have plan := planIs typed (acceptedExpected typed accepted manageable.fits) start
  have within := rangeWithin typed sized accepted manageable.fits start
  have split : Split p first p.expectedSize.toNat p.plan := by
    rw [plan]
    exact chunksSplit sized (Nat.le_refl _) manageable.room
  obtain ⟨counted,begins⟩ := split.uncovered sized covered.sectors
  refine splitSent sized size split counted begins ?_
  rw [← capacity]
  exact Nat.le_of_mul_le_mul_right within sized.sector

/- What the theorems about s2pdump assume of its parameters. -/
structure Suits (p : S2pDump) (medium : Medium) : Prop where
  typed : p.Typed
  sized : p.Sized
  accepted : ¬p.Refused
  manageable : p.Manageable
  capacity : p.capacity = medium.count
  sectorSize : p.sectorSize = medium.size

theorem Suits.sent (suits : Suits p medium) : ∀ chunk ∈ p.plan, Sent p medium chunk :=
  planSent suits.typed suits.sized suits.accepted suits.manageable suits.capacity suits.sectorSize

variable (granted : medium.Grants (Controller.initiatorOf ids targetId)) (lun : i.targetLun < 32) (patience : 2^17 ≤ steps)
include granted lun patience

theorem busAlike (env : Env) : Alike medium i (Mirrors medium i.targetLun targetId) (BoardTarget.target i env (steps + 8) ids) (disk medium.size) :=
  ⟨fun _ _ data fitting => readMirrors granted lun patience fitting data,fun _ _ _ fitting full => writeMirrors granted lun patience fitting full⟩

theorem dumpEnds (env : Env) (suits : Suits p medium) {s : DumpState (Controller AnyDevice)} (mirrors : Mirrors medium i.targetLun targetId s.target bytes) :
    wp (p.dumpDisk (virtual i)) (BoardTarget.target i env (steps + 8) ids) s
      (fun file _ => file = slice bytes (p.start.toNat * medium.size) p.expectedSize.toNat) fun _ _ => False := by
  obtain ⟨first,start,covered⟩ := suits.manageable.covers suits.typed suits.sized suits.accepted
  have alike := busAlike granted lun patience env
  have buffer : (List.replicate p.bufferSize (0 : UInt8),([] : Bytes)).1.length = p.bufferSize := List.length_replicate
  have inStep : InStep (Over (Mirrors medium i.targetLun targetId)) (fun _ => True) (p.dumpDisk (virtual i))
      (BoardTarget.target i env (steps + 8) ids) (p.dumpDisk (virtual i)) (disk medium.size) :=
    .bind (dumpChunksInStep alike suits.sent buffer) fun _ _ => .pure trivial
  have related : Over (Mirrors medium i.targetLun targetId) s { target := bytes } := mirrors
  have dumped := covered.dump (boardServes i p.sectorSize) { target := bytes } (by
    rw [suits.capacity,suits.sectorSize]
    exact mirrors.length)
  rw [suits.sectorSize] at dumped
  have same : p.start.toNat = first := by omega
  rw [same]
  exact wpMono (inStep.carries related dumped) (fun _ _ ended => ended.elim fun _ both => both.2) fun _ _ failed => failed.elim fun _ both => both.2

omit patience in
theorem synchronizeEnds {s : DumpState (Controller AnyDevice)} (mirrors : Mirrors medium i.targetLun targetId s.target bytes) :
    wp (synchronizeCache (virtual i)) (BoardTarget.target i env (steps + 8) ids) s
      (fun _ t => Mirrors medium i.targetLun targetId t.target bytes ∧ t.target.world.files medium.name = some (bytes ++ medium.rest))
      fun _ _ => False := by
  obtain ⟨d,answer,kept,stored⟩ := synchronizeMirrors granted lun env steps mirrors []
  unfold synchronizeCdb at answer
  unfold synchronizeCache virtual execute
  dsimp only
  rw [wpBind,wpBind,wpBind,wpSend,wpBind,wpReceive]
  rw [List.take_nil,answer]
  exact ⟨fun short => absurd short (Nat.not_lt_zero _),fun _ => ⟨kept,stored⟩⟩

/- The image file gets the bytes of the file that is restored. -/
theorem restoreEnds (env : Env) (suits : Suits p medium) {file : Bytes} (restore : p.restore = true) (known : p.imageFileSize = some file.length)
    (some_ : 0 < p.expectedSize) {s : DumpState (Controller AnyDevice)} (mirrors : Mirrors medium i.targetLun targetId s.target bytes) :
    wp (p.restoreDisk (virtual i) file) (BoardTarget.target i env (steps + 8) ids) s
      (fun _ t => ∃ after, Restored medium.size p.start.toNat p.expectedSize.toNat (p.sectorsFor p.expectedSize.toNat) file bytes after ∧
        Mirrors medium i.targetLun targetId t.target after ∧ t.target.world.files medium.name = some (after ++ medium.rest))
      fun _ _ => False := by
  obtain ⟨first,start,covered⟩ := suits.manageable.covers suits.typed suits.sized suits.accepted
  have alike := busAlike granted lun patience env
  have buffer : (List.replicate p.bufferSize (0 : UInt8),file).1.length = p.bufferSize := List.length_replicate
  have inStep := restoreChunksInStep alike suits.sent buffer
  have related : Over (Mirrors medium i.targetLun targetId) s { target := bytes } := mirrors
  have restored := covered.restore (boardServes i p.sectorSize) { target := bytes } (by
    rw [suits.capacity,suits.sectorSize]
    exact mirrors.length) file restore known
  rw [suits.sectorSize] at restored
  have same : p.start.toNat = first := by omega
  rw [same]
  have plan : p.plan ≠ [] := by
    have bytes := planBytes suits.sized (acceptedExpected suits.typed suits.accepted suits.manageable.fits)
    intro none
    rw [none] at bytes
    change 0 = p.expectedSize.toNat at bytes
    omega
  unfold restoreDisk at restored ⊢
  rw [wpIte] at restored ⊢
  refine ⟨fun _ => ?_,fun none => absurd plan none⟩
  have done := restored.1 plan
  rw [wpBind] at done ⊢
  refine wpMono (inStep.carries related done) (fun _ t ended => ?_) fun _ _ failed => failed.elim fun _ both => both.2
  obtain ⟨t',kept,later⟩ := ended
  obtain ⟨_,u,ran,unchanged⟩ := wpRuns ((boardServes i medium.size).synchronizeCache t')
  have image := wpOk later ran
  rw [unchanged] at image
  exact wpMono (synchronizeEnds granted lun kept) (fun _ _ both => ⟨t'.target,image,both⟩) fun _ _ failed => failed

end

/-! From the restore to the dump. -/

theorem Suits.dump {p : S2pDump} {file : Bytes} (suits : Suits p medium) (restore : p.restore = true)
    (known : p.imageFileSize = some file.length) (whole : (file.length : Int) = p.total) :
    Suits { p with restore := false } medium ∧ S2pDump.expectedSize { p with restore := false } = p.expectedSize ∧
      p.expectedSize = p.total := by
  have size : p.imageSize = file.length := by
    rw [imageSize,known]
    rfl
  have expected : p.expectedSize = p.total := by
    rw [expectedSize,if_pos restore,size,whole,min_self]
  obtain ⟨typed,sized,accepted,manageable,capacity,sectorSize⟩ := suits
  obtain ⟨fits,start,room,count,last⟩ := manageable
  have same : S2pDump.expectedSize { p with restore := false } = p.expectedSize := by
    rw [expected]
    rfl
  refine ⟨⟨{ typed with },{ sized with },fun wrong => ?_,⟨⟨fits.1,?_⟩,start,?_,?_,?_⟩,capacity,sectorSize⟩,same,expected⟩
  · rcases wrong with early | late | ⟨wrong,_⟩
    · exact accepted (.inl early)
    · exact accepted (.inr (.inl late))
    · cases wrong
  · have below : p.total % 2^32 < 2^32 := Int.emod_lt_of_pos _ (by decide)
    refine .inl ?_
    change p.total < 2^32
    rcases fits.2 with small | ⟨_,small⟩
    · exact small
    · omega
  · rw [same]
    exact room
  · rw [same]
    exact count
  · rw [same]
    exact last

end DumpOnBus

open Eff BoardExecutor DiskOnBus DumpOnBus BoardTarget

/- A disk that has been opened, the commands since then, and what there is now. -/
structure Traffic (i : Initiator) (path : String) (file : Bytes) (steps : Nat) (d : Disk) (c : Controller AnyDevice) (orders : List Order)
    (now : Controller AnyDevice) (a : SectorArray.Sectors) (owner : Int) : Prop where
  idle : Idle c
  room : 0 < c.transfer.buffer.length
  here : ∃ dev, c.luns i.targetLun = some dev ∧ dev.plainDisk = some d
  opened : Opened d path c.world.files file
  legal : ∀ o ∈ orders, LegalShared (mediumOf d path c.world.files file) steps o
  now : now = Mealy.final (busStep i path steps) c orders
  array : Mealy.final (sharedStep (mediumOf d path c.world.files file) c.targetId)
    (SectorArray.ofImage d.blockSize file,d.reservingInitiator) orders = (a,owner)

section
variable {i : Initiator} {c : Controller AnyDevice} {d : Disk} {path : String} {file backup : Bytes} {orders : List Order}
  {p : S2pDump} {s : DumpState (Controller AnyDevice)} {a : SectorArray.Sectors} {owner : Int} {ids patience steps : Nat}

theorem Traffic.mirrors (traffic : Traffic i path file steps d c orders s.target a owner) (lun : i.targetLun < 32) :
    Mirrors { mediumOf d path c.world.files file with owner, luns := c.luns } i.targetLun c.targetId s.target (SectorArray.image d.blocks a) := by
  obtain ⟨dev,here,plain⟩ := traffic.here
  obtain ⟨_,onBus,targetId⟩ := sharedRun lun traffic.idle traffic.room here plain traffic.opened steps traffic.legal
  rw [traffic.array] at onBus
  rw [← traffic.now] at onBus targetId
  exact ⟨a,onBus,targetId,rfl⟩

end

namespace DumpOnBus

/- All of the small disk, after the commands of two initiators. -/
def smallDump : S2pDump := { scsiCapacity := 2, scsiSectorSize := 512 }

def smallRestore : S2pDump := { smallDump with restore := true, imageFileSize := some 1024 }

def smallBackup : Bytes := List.replicate 1024 0x2a

def smallEnd : SectorArray.Sectors × Int :=
  Mealy.final (sharedStep (mediumOf (smallDisk .piscsi 7) "small.hds" (withSmallDisk .piscsi 7).world.files blank) 0)
    (SectorArray.ofImage 512 blank,7) someOrders

def smallState : DumpState (Controller AnyDevice) :=
  { target := Mealy.final (busStep ⟨3⟩ "small.hds" 4) (withSmallDisk .piscsi 7) someOrders }

def smallPatience : Nat := 2^17

theorem smallPatient : 2^17 ≤ smallPatience := Nat.le_refl _

theorem smallTraffic : Traffic ⟨3⟩ "small.hds" blank 4 (smallDisk .piscsi 7) (withSmallDisk .piscsi 7) someOrders smallState.target
    smallEnd.1 smallEnd.2 where
  idle := ⟨rfl,rfl,rfl,rfl⟩
  room := smallRoom .piscsi 7
  here := ⟨_,rfl,rfl⟩
  opened := smallOpened .piscsi 7
  legal o member := .inl (someLegal rfl o member)
  now := by
    unfold smallState
    dsimp only
  array := by
    unfold smallEnd
    exact (Prod.eta _).symm

theorem smallDumpSuits : Suits smallDump (mediumOf (smallDisk .piscsi 7) "small.hds" (withSmallDisk .piscsi 7).world.files blank) :=
  ⟨by constructor <;> decide,by constructor <;> decide,by decide,⟨⟨by decide,.inl (by decide)⟩,by decide,by decide,by decide,by decide⟩,rfl,rfl⟩

theorem smallRestoreSuits : Suits smallRestore (mediumOf (smallDisk .piscsi 7) "small.hds" (withSmallDisk .piscsi 7).world.files blank) :=
  ⟨by constructor <;> decide,by constructor <;> decide,by decide,⟨⟨by decide,.inl (by decide)⟩,by decide,by decide,by decide,by decide⟩,rfl,rfl⟩

theorem smallGranted : smallEnd.2 = PrimaryDevice.notReserved ∨ smallEnd.2 = Controller.initiatorOf 129 (withSmallDisk .piscsi 7).targetId :=
  .inr rfl

theorem smallKnown : smallRestore.imageFileSize = some smallBackup.length := by
  rw [smallBackup,List.length_replicate]
  rfl

end DumpOnBus

end Scsi2Pi
