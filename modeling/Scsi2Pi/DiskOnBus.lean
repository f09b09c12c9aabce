import Scsi2Pi.DiskTransfers
import Scsi2Pi.ImageAccess
import Scsi2Pi.Mealy

/-! A disk as an initiator sees it: an array of sectors, whatever the caching mode. READ
returns what was written last, and SYNCHRONIZE CACHE makes the image file this array. -/
namespace Scsi2Pi

namespace BoardTarget.Order

def synchronizes : List ScsiCommand := [.synchronizeCache10,.synchronizeCacheSpace16]

/- The mode and the direction of READ and WRITE. -/
def transfer (o : Order) : Option (Disk.AccessMode × Bool) := Disk.transferCommands.lookup o.opcode

theorem listed {o : Order} {mode : Disk.AccessMode} {dataOut : Bool} (transfer : o.transfer = some (mode,dataOut)) :
    (o.opcode,mode,dataOut) ∈ Disk.transferCommands := by
  obtain ⟨before,after,split,_⟩ := List.lookup_eq_some_iff.mp transfer
  rw [split]
  exact List.mem_append_right _ List.mem_cons_self

end BoardTarget.Order

namespace DiskOnBus
open Slices MemoryUtil Handler Derives Eff Controller Disk BoardTarget SectorArray

/-! The array. -/

/- The answer, and the image file behind SYNCHRONIZE CACHE. -/
abbrev Reply := Answer × Option Bytes

def arrayStep (medium : Medium) (a : Sectors) (o : Order) : Reply × Sectors :=
  match o.transfer with
  | none => (({},some (image medium.count a ++ medium.rest)),a)
  | some (mode,dataOut) =>
    let start := lba o.request mode
    let n := count o.request mode
    if medium.count < start + n then (({ status := StatusCode.checkCondition.code.toNat },none),a)
    else if dataOut then (({ taken := n * medium.size },none),store medium.size a start n o.dataOut)
    else (({ dataIn := span a start n },none),a)

/- Sectors that the CDB can name without the LUN in its byte 1, sizes that an int holds, and
as many bytes as WRITE takes. The target needs some time for each chunk. -/
structure Fits (medium : Medium) (steps : Nat) (o : Order) (mode : AccessMode) (dataOut : Bool) : Prop where
  clear : LunBitsClear o.request mode
  sum : lba o.request mode + Disk.count o.request mode < 2^64
  bound : Disk.count o.request mode * medium.size < 2^31
  data : dataOut = true → Disk.count o.request mode * medium.size ≤ o.dataOut.length
  patience : 2 * Disk.count o.request mode ≤ steps

structure Legal (medium : Medium) (steps : Nat) (o : Order) : Prop where
  single : Single o.cdb
  sync : o.transfer = none → o.opcode ∈ Order.synchronizes
  fits : ∀ {mode dataOut}, o.transfer = some (mode,dataOut) → Fits medium steps o mode dataOut

/-! The bus. -/

def busStep (i : BoardExecutor.Initiator) (name : String) (steps : Nat) (c : Controller AnyDevice) (o : Order) : Reply × Controller AnyDevice :=
  let (answer,d) := target i o.env (steps + 8) o.ids c o.cdb o.dataOut
  ((answer,if o.opcode ∈ Order.synchronizes ∧ answer.status = 0 then d.world.files name else none),d)

/- The bus is free, and the device with this LUN is a disk with these sectors. -/
structure OnBus (medium : Medium) (lun : Nat) (c : Controller AnyDevice) (a : Sectors) : Prop where
  idle : Idle c
  room : 0 < c.transfer.buffer.length
  serves : ∃ dev, c.luns lun = some dev ∧ Serves medium a dev c.world
  others : ∀ other ≠ lun, c.luns other = medium.luns other

/-! The CDB that the handler sees. -/

def width (mode : AccessMode) : Nat :=
  match mode with
  | .rw6 | .seek6 => 6
  | .rw10 | .seek10 => 10
  | .rw16 => 16

theorem sameAddress {r r' : Request} {mode : AccessMode} (same : ∀ k < width mode, byteAt r.cdb k = byteAt r'.cdb k) :
    startAndCount r mode = startAndCount r' mode := by
  have two : ∀ k, k + 1 < width mode → getInt16 r.cdb k = getInt16 r'.cdb k := by
    intro k inside
    simp only [getInt16,same k (by omega),same (k+1) (by omega)]
  have four : ∀ k, k + 3 < width mode → getInt32 r.cdb k = getInt32 r'.cdb k := by
    intro k inside
    simp only [getInt32,two k (by omega),two (k+2) (by omega)]
  cases mode with
  | rw6 | seek6 =>
    have length : byteAt r.cdb 4 = byteAt r'.cdb 4 := same 4 (by decide)
    have start : getInt24 r.cdb 1 = getInt24 r'.cdb 1 := by
      simp only [getInt24,same 1 (by decide),same (1+1) (by decide),same (1+2) (by decide)]
    change (getInt24 r.cdb 1,if byteAt r.cdb 4 = 0 then 256 else byteAt r.cdb 4) = _
    rw [start,length]
    rfl
  | rw10 => simp only [startAndCount,Request.cdbInt32,Request.cdbInt16,four 2 (by decide),two 7 (by decide)]
  | seek10 => simp only [startAndCount,Request.cdbInt32,four 2 (by decide)]
  | rw16 =>
    have start : getInt64 r.cdb 2 = getInt64 r'.cdb 2 := by
      simp only [getInt64,four 2 (by decide),four (2+4) (by decide)]
    simp only [startAndCount,Request.cdbInt64,Request.cdbInt32,start,four 10 (by decide)]

theorem widthOf {cmd : ScsiCommand} {mode : AccessMode} {dataOut : Bool} (listed : (cmd,mode,dataOut) ∈ transferCommands) :
    CommandMetaData.getByteCount cmd = width mode ∧ cmd ≠ 0x1f := by
  simp only [transferCommands,List.mem_cons,List.not_mem_nil,or_false,Prod.mk.injEq] at listed
  rcases listed with ⟨rfl,rfl,_⟩ | ⟨rfl,rfl,_⟩ | ⟨rfl,rfl,_⟩ | ⟨rfl,rfl,_⟩ | ⟨rfl,rfl,_⟩ | ⟨rfl,rfl,_⟩ <;> decide

/- A complete CDB of READ or WRITE has the length of its mode. -/
theorem modeLength {cdb : Bytes} {mode : AccessMode} {dataOut : Bool} (single : Single cdb)
    (listed : (cdb.getD 0 0,mode,dataOut) ∈ transferCommands) : cdb.length = width mode := by
  obtain ⟨count,other⟩ := widthOf listed
  have some_ : width mode ≠ 0 := by cases mode <;> decide
  exact (singleLength single other (by rw [count]; exact some_)).trans count

variable {medium : Medium} {a : Sectors} {dev : AnyDevice} {c p : Controller AnyDevice} {o : Order} {w : World}
  {i : BoardExecutor.Initiator} {mode : AccessMode} {dataOut : Bool} {steps : Nat}

/- The handler sees the sectors that the CDB names. -/
theorem preparedAddress {cdb : Bytes} (prepared : Prepared i cdb dev c p) (single : Single cdb) (env : Env)
    (listed : (cdb.getD 0 0,mode,dataOut) ∈ transferCommands) :
    startAndCount (p.request env) mode = startAndCount { cdb } mode := by
  refine sameAddress fun k inside => ?_
  rw [← modeLength single listed] at inside
  exact prepared.cdb k inside

/-! Nobody else has reserved the disk. -/

def Medium.Grants (medium : Medium) (initiator : Int) : Prop := medium.owner = PrimaryDevice.notReserved ∨ medium.owner = initiator

theorem reservation (serves : Serves medium a dev w) (r : Request) : (base (fresh dev) : PrimaryDevice).checkReservation r =
    (decide (medium.owner = PrimaryDevice.notReserved) || decide (medium.owner = r.initiatorId) || PrimaryDevice.reservationExempt r) := by
  obtain ⟨d,plain,holds⟩ := serves
  have sensed : (base (fresh dev) : PrimaryDevice) = dev.primary.resetStatus := baseSet _ _
  have owner : dev.primary.reservingInitiator = medium.owner := by
    rw [AnyDevice.plainPrimary plain]
    exact holds.reserved
  unfold PrimaryDevice.checkReservation
  rw [sensed,← owner]
  rfl

/- Sense data do not matter. -/
theorem Holds.primary {d : Disk} {b : PrimaryDevice} (holds : Holds medium a d w) (same : b.resetStatus = d.toPrimaryDevice.resetStatus) :
    Holds medium a { d with toPrimaryDevice := b } w := by
  obtain ⟨accessible,writable,unchanged,reserved,size,blocks,nonempty,addressable,sized,cached⟩ := holds
  have flags : b.reset = d.reset ∧ b.attn = d.attn ∧ b.ready = d.ready ∧ b.writeProtected = d.writeProtected ∧
      b.reservingInitiator = d.reservingInitiator :=
    ⟨(congrArg PrimaryDevice.reset same :),(congrArg PrimaryDevice.attn same :),(congrArg PrimaryDevice.ready same :),
      (congrArg PrimaryDevice.writeProtected same :),(congrArg PrimaryDevice.reservingInitiator same :)⟩
  obtain ⟨reset,attn,ready,protect,reserving⟩ := flags
  refine ⟨⟨reset.trans accessible.1,attn.trans accessible.2.1,ready.trans accessible.2.2⟩,protect.trans writable,unchanged,
    reserving.trans reserved,size,blocks,nonempty,addressable,sized,cached⟩

theorem Serves.primary {b : PrimaryDevice} (serves : Serves medium a dev w) (same : b.resetStatus = (base dev : PrimaryDevice).resetStatus) :
    Serves medium a (setBase dev b) w := by
  obtain ⟨d,plain,holds⟩ := serves
  cases dev with
  | scsiHd _ | sasiHd _ | opticalMemory _ =>
    cases plain
    exact ⟨_,rfl,holds.primary same⟩
  | _ => cases plain

theorem OnBus.behind {lun : Nat} {c d : Controller AnyDevice} {medium' : Medium} {b : Sectors} (onBus : OnBus medium lun c a) (idle : Idle d)
    (luns : d.luns = Function.update c.luns lun (some dev)) (world : d.world = w) (grows : c.transfer.buffer.length ≤ d.transfer.buffer.length)
    (beside : medium'.luns = medium.luns) (serves : Serves medium' b dev w) : OnBus medium' lun d b := by
  refine ⟨idle,onBus.room.trans_le grows,⟨dev,?_,by rw [world]; exact serves⟩,fun other apart => ?_⟩
  · rw [luns,Function.update_self]
  · rw [luns,Function.update_of_ne apart,beside,onBus.others other apart]

/-! The commands. -/

/- The count of chunks. -/
theorem chunksOf {d : Disk} {n : Nat} (some_ : n ≠ 0) : ∃ k, (k+1) * d.perChunk n = n := by
  unfold perChunk
  split
  · exact ⟨0,Nat.one_mul n⟩
  · obtain ⟨k,rfl⟩ := Nat.exists_eq_succ_of_ne_zero some_
    exact ⟨k,Nat.mul_one _⟩

/- What the checks of READ and WRITE come to. -/
theorem rangeIff {d : Disk} (holds : Holds medium a d w) {r : Request} (clear : LunBitsClear r mode)
    (sum : lba r mode + Disk.count r mode < 2^64) : d.InRange r mode ↔ lba r mode + Disk.count r mode ≤ medium.count := by
  have blocks := holds.blocks
  have addressable := holds.addressable
  have nonempty := holds.nonempty
  obtain ⟨outside,inside⟩ := (@acceptanceIff d r mode (by omega)).mpr ⟨.inl clear,.inl sum,.inl (by omega)⟩
  rw [← blocks]
  refine ⟨fun range => ?_,inside⟩
  by_contra beyond
  exact outside (Nat.not_le.mp beyond) range

theorem resized (t : Transfer) (length chunk : Int) :
    (t.setTransferSize length chunk).buffer = t.buffer ∧ (t.setTransferSize length chunk).status = t.status := ⟨rfl,rfl⟩

theorem refilled (t : Transfer) (buffer : Bytes) : { t with buffer }.status = t.status := rfl

theorem unmoved (d : Disk) (t : Transfer) (n : Nat) : (d.preparedTransfer t n).buffer = t.buffer ∧ (d.preparedTransfer t n).status = t.status :=
  resized t _ _

theorem Holds.positive {d : Disk} (holds : Holds medium a d w) : 0 < medium.size := by
  obtain ⟨_,_,represents,_⟩ := holds.cached
  cases represents with
  | tracks power _ =>
    rw [power]
    exact Nat.two_pow_pos _
  | stream positive _ _ => exact positive

/- The sizes of a transfer in chunks. -/
structure Chunked (d : Disk) (t : Transfer) (n p k : Nat) (size : Nat) : Prop where
  count : (k+1) * p = n
  positive : 0 < p * size
  bound : p * size < 2^31
  remaining : (d.preparedTransfer t n).remainingLength = ((k+1) * (p * size) : Nat)
  chunk : (d.preparedTransfer t n).chunkSize = (p * size : Nat)
  perChunk : Disk.size (d.perChunk n) d.blockSize = (p * size : Nat)

theorem Chunked.few {d : Disk} {t : Transfer} {n q k size : Nat} (chunks : Chunked d t n q k size) : k + 1 ≤ n := by
  rw [← chunks.count]
  exact Nat.le_mul_of_pos_right _ (Nat.pos_of_mul_pos_right chunks.positive)

theorem Chunked.whole {d : Disk} {t : Transfer} {n q k size : Nat} (chunks : Chunked d t n q k size) : (k+1) * (q * size) = n * size := by
  rw [← Nat.mul_assoc,chunks.count]

theorem chunked {d : Disk} (t : Transfer) {r : Request} (holds : Holds medium a d w) (some_ : Disk.count r mode ≠ 0)
    (bound : Disk.count r mode * medium.size < 2^31) :
    ∃ k, Chunked d t (Disk.count r mode) (d.perChunk (Disk.count r mode)) k medium.size := by
  obtain ⟨k,count⟩ := chunksOf (d := d) some_
  have sized := holds.positive
  rw [← holds.size] at sized bound ⊢
  obtain ⟨_,remaining,chunk,perChunk⟩ := preparedExact (t := t) some_ sized bound
  have positive := perChunkPositive (d := d) some_
  have least : d.perChunk (Disk.count r mode) * d.blockSize ≤ Disk.count r mode * d.blockSize := Nat.mul_le_mul_right _ (perChunkLe some_)
  refine ⟨k,count,Nat.mul_pos positive sized,least.trans_lt bound,?_,chunk,perChunk⟩
  rw [remaining,← Nat.mul_assoc,count]
  rfl

/- A command for the disk, as its handler is called. -/
structure Called (medium : Medium) (a : Sectors) (i : BoardExecutor.Initiator) (o : Order) (c p : Controller AnyDevice) (dev : AnyDevice)
    (d : Disk) : Prop where
  here : c.luns i.targetLun = some dev
  serves : Serves medium a dev c.world
  dispatched : Dispatches ⟨i,o.env,o.cdb,o.dataOut,c.trace.length⟩ o.ids dev c p
  plain : (fresh dev).plainDisk = some d
  holds : Holds medium a d p.world
  opcode : p.opcode = o.opcode
  initiator : p.initiatorId = initiatorOf o.ids c.targetId

theorem calls (onBus : OnBus medium i.targetLun c a) (lun : i.targetLun < 32) (single : Single o.cdb) :
    ∃ p dev d, Called medium a i o c p dev d := by
  obtain ⟨dev,here,serves⟩ := onBus.serves
  obtain ⟨p,dispatched⟩ := dispatches (x := ⟨i,o.env,o.cdb,o.dataOut,c.trace.length⟩) o.ids onBus.idle lun onBus.room single here rfl
  have world : p.world = c.world := dispatched.prepared.world
  obtain ⟨d,plain,holds⟩ := serves.fresh
  exact ⟨p,dev,d,here,serves,dispatched,plain,by rw [world]; exact holds,dispatched.prepared.opcode,dispatched.prepared.initiatorId⟩

namespace Called

variable {d : Disk}

theorem permits (called : Called medium a i o c p dev d) (granted : medium.Grants (initiatorOf o.ids c.targetId)) :
    (base (fresh dev) : PrimaryDevice).checkReservation (p.request o.env) = true := by
  have initiator : (p.request o.env).initiatorId = initiatorOf o.ids c.targetId := called.initiator
  rw [reservation called.serves,initiator]
  rcases granted with free | mine
  · rw [free]
    rfl
  · rw [mine]
    simp

theorem address (called : Called medium a i o c p dev d) (legal : Legal medium steps o) (transfer : o.transfer = some (mode,dataOut)) :
    Disk.start (p.request o.env) mode = lba o.request mode ∧ Disk.count (p.request o.env) mode = Disk.count o.request mode ∧
      (d.InRange (p.request o.env) mode ↔ lba o.request mode + Disk.count o.request mode ≤ medium.count) := by
  have same := preparedAddress called.dispatched.prepared legal.single o.env (o.listed transfer)
  have start : Disk.start (p.request o.env) mode = Disk.start o.request mode := congrArg Prod.fst same
  have count : Disk.count (p.request o.env) mode = Disk.count o.request mode := congrArg Prod.snd same
  refine ⟨start.trans (clearIff.mp (legal.fits transfer).clear),count,?_⟩
  rw [← rangeIff called.holds (legal.fits transfer).clear (legal.fits transfer).sum]
  unfold InRange
  rw [start,count]

theorem grows (called : Called medium a i o c p dev d) : c.transfer.buffer.length ≤ p.transfer.buffer.length :=
  called.dispatched.prepared.buffer.grows

theorem moving (called : Called medium a i o c p dev d) (s n : Nat) :
    Moving medium a s (d.perChunk n) ((fresh dev).setDisk (d.prepared s n)) p.world :=
  ⟨_,AnyDevice.plainSet called.plain _,called.holds.prepared s n,preparedAt s n⟩

/- The handler ends at once. -/
theorem status (called : Called medium a i o c p dev d)
    (permitted : (base (fresh dev) : PrimaryDevice).checkReservation (p.request o.env) = true) (onBus : OnBus medium i.targetLun c a) {u : HandlerState AnyDevice} {medium' : Medium} {b : Sectors}
    (ran : AnyDevice.methods.dispatch p.opcode (p.request o.env) ⟨fresh dev,p.transfer,p.world⟩ = (.ok .status,u)) (same : u.transfer = p.transfer)
    (serves : Serves medium' b u.device u.world) (beside : medium'.luns = medium.luns) (steps : Nat) : ∃ d, OnBus medium' i.targetLun d b ∧ d.world = u.world ∧
      target i o.env (steps + 8) o.ids c o.cdb o.dataOut = ({},d) := by
  obtain ⟨d,idle,luns,world,grows,answer⟩ := statusEnds called.dispatched permitted ran (by rw [same]; exact called.dispatched.prepared.status)
    (by rw [same]; exact called.grows) steps
  exact ⟨d,onBus.behind idle luns world grows beside serves,world,answer⟩

/- The sectors do not exist. -/
theorem refused (called : Called medium a i o c p dev d) (granted : medium.Grants (initiatorOf o.ids c.targetId)) (onBus : OnBus medium i.targetLun c a) {u : HandlerState AnyDevice}
    (ran : AnyDevice.methods.dispatch p.opcode (p.request o.env) ⟨fresh dev,p.transfer,p.world⟩ = (.error ⟨.illegalRequest,.lbaOutOfRange⟩,u))
    (same : u.transfer = p.transfer) (serves : Serves medium a u.device u.world) (steps : Nat) : ∃ d, OnBus medium i.targetLun d a ∧
      target i o.env (steps + 8) o.ids c o.cdb o.dataOut = ({ status := StatusCode.checkCondition.code.toNat },d) := by
  obtain ⟨e,idle,luns,world,grows,answer⟩ := failureEnds called.dispatched (called.permits granted) ran
    (by decide : Asc.lbaOutOfRange ≠ .logicalUnitNotSupported) (by rw [same]; exact called.grows) steps
  exact ⟨e,onBus.behind idle luns world grows rfl (serves.primary (reportedReset _ _ _)),answer⟩

end Called

theorem ordersRead (onBus : OnBus medium i.targetLun c a) (granted : medium.Grants (initiatorOf o.ids c.targetId)) (lun : i.targetLun < 32) (legal : Legal medium steps o)
    (transfer : o.transfer = some (mode,false)) (inside : lba o.request mode + Disk.count o.request mode ≤ medium.count) :
    ∃ d, OnBus medium i.targetLun d a ∧ target i o.env (steps + 8) o.ids c o.cdb o.dataOut =
      ({ dataIn := span a (lba o.request mode) (Disk.count o.request mode) },d) := by
  obtain ⟨p,dev,d,called⟩ := calls onBus lun legal.single
  obtain ⟨start,count,range⟩ := called.address legal transfer
  have listed := o.listed transfer
  rw [← called.opcode] at listed
  have disk := AnyDevice.plainIsDisk called.plain
  have holds := called.holds
  generalize lba o.request mode = s at *
  have data := (listedMode listed).1
  by_cases none : Disk.count o.request mode = 0
  · have rests : transfers (p.request o.env) mode = false :=
      Bool.eq_false_iff.mpr fun some_ => (transfersIff data).mp some_ (count.trans none)
    have ran := AnyDevice.dispatchReadOther (t := p.transfer) (w := p.world) disk listed holds.unchanged holds.accessible fun _ => rests
    rw [if_pos (range.mpr inside)] at ran
    obtain ⟨e,next,_,answer⟩ := called.status (called.permits granted) onBus ran rfl ⟨d,called.plain,holds⟩ rfl steps
    rw [none,spanNone]
    exact ⟨e,next,answer⟩
  · have ran := AnyDevice.dispatchRead (t := p.transfer) (w := p.world) disk listed holds.unchanged holds.accessible (range.mpr inside)
      ((transfersIff data).mpr (by rw [count]; exact none))
    rw [start,count] at ran
    obtain ⟨k,chunks⟩ := chunked p.transfer holds none (legal.fits transfer).bound
    have patience := (legal.fits transfer).patience
    generalize Disk.count o.request mode = n at *
    have moving := called.moving s n
    have kept := unmoved d p.transfer n
    have few := chunks.few
    obtain ⟨several,positive,bound,remaining,chunk,_⟩ := chunks
    generalize d.perChunk n = q at *
    have sectors : n = q + k * q := by rw [← several,Nat.succ_mul,Nat.add_comm]
    obtain ⟨next,w',loads,length,moving'⟩ := loadsSectors moving positive bound (by omega)
    obtain ⟨last,w'',supplies,serves⟩ := suppliesSectors (k := k) moving' positive bound (by omega)
    generalize size n d.blockSize = whole at ran
    generalize d.preparedTransfer p.transfer n = t at *
    have first := ran.trans (bindOk (f := fun n => pure (PhaseCall.dataIn n)) (loads (p.request o.env) (t.setCurrentLength whole)))
    rw [length] at first
    have front : (setBytes (t.setCurrentLength whole).buffer 0 (span a s q)).take (q * medium.size) = span a s q := chunkInFront length
    have room : p.transfer.buffer.length ≤ (setBytes (t.setCurrentLength whole).buffer 0 (span a s q)).length := by
      rw [← kept.1]
      exact (extendedGrows t whole).trans (setBytesGrows _ _ _)
    have full : q * medium.size ≤ (setBytes (t.setCurrentLength whole).buffer 0 (span a s q)).length := chunkFits length
    have status := (t.setCurrentLengthStatus whole).trans (kept.2.trans called.dispatched.prepared.status)
    obtain ⟨e,idle,luns,world,grows,answer⟩ := dataInChunks called.dispatched (called.permits granted) first
      ((refilled _ _).trans status) (called.grows.trans room) remaining chunk positive full supplies (steps - 2 * (k+1))
    have shape : steps - 2 * (k+1) + 2 * (k+1) + 8 = steps + 8 := by omega
    refine ⟨e,onBus.behind idle luns world grows rfl serves,?_⟩
    rw [shape] at answer
    refine answer.trans ?_
    rw [front,sectors,spanAppend]
    rfl

theorem writeOpcode {cmd : ScsiCommand} (listed : (cmd,mode,true) ∈ transferCommands) :
    cmd ∈ storing ∧ cmd ≠ .modeSelect6 ∧ cmd ≠ .modeSelect10 := by
  simp only [transferCommands,List.mem_cons,List.not_mem_nil,or_false,Prod.mk.injEq,Bool.true_eq_false,and_false,false_or,and_true] at listed
  rcases listed with ⟨rfl,_⟩ | ⟨rfl,_⟩ | ⟨rfl,_⟩ <;> decide

theorem writeListed {cmd : ScsiCommand} (listed : (cmd,mode,true) ∈ transferCommands) {δ : Type} [Derives δ Disk] (readData : Handler δ Int) :
    (cmd,super (write mode)) ∈ Disk.commands readData := listedCommand listed

theorem ordersWrite (onBus : OnBus medium i.targetLun c a) (granted : medium.Grants (initiatorOf o.ids c.targetId)) (lun : i.targetLun < 32) (legal : Legal medium steps o)
    (transfer : o.transfer = some (mode,true)) (inside : lba o.request mode + Disk.count o.request mode ≤ medium.count) :
    ∃ d, OnBus medium i.targetLun d (store medium.size a (lba o.request mode) (Disk.count o.request mode) o.dataOut) ∧
      target i o.env (steps + 8) o.ids c o.cdb o.dataOut = ({ taken := Disk.count o.request mode * medium.size },d) := by
  obtain ⟨p,dev,d,called⟩ := calls onBus lun legal.single
  obtain ⟨start,count,range⟩ := called.address legal transfer
  have listed := o.listed transfer
  have commands := @writeListed _ _ listed
  rw [← called.opcode] at commands
  have disk := AnyDevice.plainIsDisk called.plain
  have holds := called.holds
  have data := (listedMode listed).1
  generalize lba o.request mode = s at *
  by_cases none : Disk.count o.request mode = 0
  · have rests : transfers (p.request o.env) mode = false :=
      Bool.eq_false_iff.mpr fun some_ => (transfersIff data).mp some_ (count.trans none)
    have ran := AnyDevice.dispatchDisk p.opcode disk commands holds.unchanged
      (writeNothing (s := ⟨d,p.transfer,p.world⟩) holds.accessible holds.writable (range.mpr inside) rests)
    obtain ⟨e,next,_,answer⟩ := called.status (called.permits granted) onBus ran rfl ⟨d,AnyDevice.plainSet called.plain _,holds⟩ rfl steps
    rw [none,storeNone,Nat.zero_mul]
    exact ⟨e,next,answer⟩
  · have ran := AnyDevice.dispatchDisk p.opcode disk commands holds.unchanged
      (writeStarts (s := ⟨d,p.transfer,p.world⟩) holds.accessible holds.writable (range.mpr inside)
        ((transfersIff data).mpr (by rw [count]; exact none)))
    dsimp only at ran
    rw [start,count] at ran
    obtain ⟨k,chunks⟩ := chunked p.transfer holds none (legal.fits transfer).bound
    have patience := (legal.fits transfer).patience
    have offered := (legal.fits transfer).data rfl
    generalize Disk.count o.request mode = n at *
    have moving := called.moving s n
    have kept := unmoved d p.transfer n
    have few := chunks.few
    have whole := chunks.whole
    obtain ⟨several,positive,bound,remaining,chunk,perChunk⟩ := chunks
    rw [perChunk] at ran
    generalize d.perChunk n = q at *
    obtain ⟨storing,other⟩ := writeOpcode listed
    rw [← called.opcode] at storing other
    obtain ⟨last,w'',takes,serves⟩ := takesSectors (p.request o.env) (k := k+1) moving storing positive bound (by rw [several]; exact inside)
      (by rw [whole]; exact offered)
    generalize d.preparedTransfer p.transfer n = t at *
    obtain ⟨e,idle,luns,world,grows,answer⟩ := dataOutChunks called.dispatched (called.permits granted) ran
      (kept.2.trans called.dispatched.prepared.status) (by rw [kept.1]; exact called.grows) remaining chunk positive other takes
      (by rw [whole]; exact offered) (steps - 2 * (k+1))
    have shape : steps - 2 * (k+1) + 2 * (k+1) + 8 = steps + 8 := by omega
    rw [several] at serves
    refine ⟨e,onBus.behind idle luns world grows rfl serves,?_⟩
    rw [shape,whole] at answer
    exact answer

theorem ordersBeyond (onBus : OnBus medium i.targetLun c a) (granted : medium.Grants (initiatorOf o.ids c.targetId)) (lun : i.targetLun < 32) (legal : Legal medium steps o)
    (transfer : o.transfer = some (mode,dataOut)) (beyond : medium.count < lba o.request mode + Disk.count o.request mode) :
    ∃ d, OnBus medium i.targetLun d a ∧ target i o.env (steps + 8) o.ids c o.cdb o.dataOut =
      ({ status := StatusCode.checkCondition.code.toNat },d) := by
  obtain ⟨p,dev,d,called⟩ := calls onBus lun legal.single
  obtain ⟨_,_,range⟩ := called.address legal transfer
  have outside : ¬d.InRange (p.request o.env) mode := fun inside => absurd (range.mp inside) (Nat.not_le.mpr beyond)
  have listed := o.listed transfer
  have disk := AnyDevice.plainIsDisk called.plain
  have holds := called.holds
  cases dataOut with
  | false =>
    rw [← called.opcode] at listed
    have ran := AnyDevice.dispatchReadOther (t := p.transfer) (w := p.world) disk listed holds.unchanged holds.accessible
      fun inside => absurd inside outside
    rw [if_neg outside] at ran
    exact called.refused granted onBus ran rfl ⟨d,called.plain,holds⟩ steps
  | true =>
    have commands := @writeListed _ _ listed
    rw [← called.opcode] at commands
    have ran := AnyDevice.dispatchDisk p.opcode disk commands holds.unchanged
      (writeOutOfRange (s := ⟨d,p.transfer,p.world⟩) holds.accessible holds.writable outside)
    exact called.refused granted onBus ran rfl ⟨d,AnyDevice.plainSet called.plain _,holds⟩ steps

theorem synchronizes {d : Disk} (holds : Holds medium a d w) (r : Request) (t : Transfer) : ∃ d' w',
    synchronizeCache r ⟨d,t,w⟩ = (.ok .status,⟨d',t,w'⟩) ∧ Holds medium a d' w' ∧
      w'.files medium.name = some (image medium.count a ++ medium.rest) := by
  obtain ⟨accessible,writable,unchanged,reserved,size,blocks,nonempty,addressable,sized,c,has,represents,streams⟩ := holds
  obtain ⟨c',files,ran,stored,after,kind⟩ := Cache.flushImage represents
  refine ⟨{ d with cache := some c' },{ w with files },?_,?_,stored⟩
  · have flushed : flushCache r ⟨d,t,w⟩ = (.ok (),⟨{ d with cache := some c' },t,{ w with files }⟩) := by
      unfold flushCache
      refine (bindOk (getDeviceRan _ _)).trans ?_
      dsimp only
      rw [has]
      dsimp only
      rw [if_pos accessible.2.2]
      exact bindOk (withFilesRuns (q := Cache.flush) ran)
    exact bindOk flushed
  · exact ⟨accessible,writable,unchanged,reserved,size,blocks,nonempty,addressable,sized,c',rfl,after,fun optimized => kind (streams optimized)⟩

theorem synchronizeListed {cmd : ScsiCommand} (sync : cmd ∈ Order.synchronizes) {δ : Type} [Derives δ Disk] (readData : Handler δ Int) :
    (cmd,super synchronizeCache) ∈ Disk.commands readData := by
  simp only [Order.synchronizes,List.mem_cons,List.not_mem_nil,or_false] at sync
  rcases sync with rfl | rfl <;> simp [Disk.commands]

theorem ordersSynchronize (onBus : OnBus medium i.targetLun c a) (granted : medium.Grants (initiatorOf o.ids c.targetId)) (lun : i.targetLun < 32) (legal : Legal medium steps o)
    (sync : o.opcode ∈ Order.synchronizes) : ∃ d, OnBus medium i.targetLun d a ∧
      d.world.files medium.name = some (image medium.count a ++ medium.rest) ∧
      target i o.env (steps + 8) o.ids c o.cdb o.dataOut = ({},d) := by
  obtain ⟨p,dev,d,called⟩ := calls onBus lun legal.single
  have commands := @synchronizeListed _ sync
  rw [← called.opcode] at commands
  obtain ⟨d',w',flushed,holds,stored⟩ := synchronizes called.holds (p.request o.env) p.transfer
  have ran := AnyDevice.dispatchDisk p.opcode (AnyDevice.plainIsDisk called.plain) commands called.holds.unchanged flushed
  obtain ⟨e,next,world,answer⟩ := called.status (called.permits granted) onBus ran rfl ⟨d',AnyDevice.plainSet called.plain _,holds⟩ rfl steps
  exact ⟨e,next,by rw [world]; exact stored,answer⟩

/-! Runs. -/

theorem transferNotSync (transfer : o.transfer = some (mode,dataOut)) : o.opcode ∉ Order.synchronizes := by
  have listed := o.listed transfer
  simp only [transferCommands,List.mem_cons,List.not_mem_nil,or_false,Prod.mk.injEq] at listed
  rcases listed with ⟨same,_⟩ | ⟨same,_⟩ | ⟨same,_⟩ | ⟨same,_⟩ | ⟨same,_⟩ | ⟨same,_⟩ <;> rw [same] <;> decide

theorem busAgrees (lun : i.targetLun < 32) (onBus : OnBus medium i.targetLun c a)
    (granted : medium.Grants (initiatorOf o.ids c.targetId)) (legal : Legal medium steps o) :
    (busStep i medium.name steps c o).1 = (arrayStep medium a o).1 ∧
      OnBus medium i.targetLun (busStep i medium.name steps c o).2 (arrayStep medium a o).2 := by
  unfold busStep arrayStep
  cases transfer : o.transfer with
  | none =>
    obtain ⟨d,next,stored,answer⟩ := ordersSynchronize onBus granted lun legal (legal.sync transfer)
    rw [answer]
    dsimp only
    rw [if_pos ⟨legal.sync transfer,rfl⟩,stored]
    exact ⟨rfl,next⟩
  | some found =>
    obtain ⟨mode,dataOut⟩ := found
    dsimp only
    rw [if_neg fun wrong => transferNotSync transfer wrong.1]
    by_cases beyond : medium.count < lba o.request mode + Disk.count o.request mode
    · obtain ⟨d,next,answer⟩ := ordersBeyond onBus granted lun legal transfer beyond
      rw [answer,if_pos beyond]
      exact ⟨rfl,next⟩
    · have inside := Nat.not_lt.mp beyond
      rw [if_neg beyond]
      cases dataOut with
      | false =>
        obtain ⟨d,next,answer⟩ := ordersRead onBus granted lun legal transfer inside
        rw [answer]
        exact ⟨rfl,next⟩
      | true =>
        obtain ⟨d,next,answer⟩ := ordersWrite onBus granted lun legal transfer inside
        rw [answer]
        exact ⟨rfl,next⟩

end DiskOnBus
end Scsi2Pi
