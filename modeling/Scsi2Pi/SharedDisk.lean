import Scsi2Pi.DiskOnBus
import Scsi2Pi.LunDiscovery

/-! A disk that several initiators share: an array of sectors, and who has reserved it. What
other initiators send to a reserved disk is answered with RESERVATION CONFLICT, and nothing
comes of it. -/
namespace Scsi2Pi

namespace DiskOnBus
open Slices MemoryUtil Handler Derives Eff Controller Disk BoardTarget SectorArray

variable {medium : Medium} {a : Sectors} {dev : AnyDevice} {c p : Controller AnyDevice} {o : Order} {w : World}
  {i : BoardExecutor.Initiator} {steps : Nat}

/-! RESERVE, RELEASE and conflicts. -/

/- A command of PrimaryDevice, dispatched to a disk. -/
theorem primaryRuns {any : AnyDevice} {d : Disk} (cmd : ScsiCommand) {h : Handler PrimaryDevice PhaseCall} {r : Request} {t : Transfer}
    {result : Except ScsiException PhaseCall} {u : HandlerState PrimaryDevice} (plain : any.plainDisk = some d) (unchanged : d.mediumChanged = false)
    (found : ScsiHd.commands.lookup cmd = some (super h) ∧ SasiHd.commands.lookup cmd = some (super h) ∧
      OpticalMemory.commands.lookup cmd = some (super h)) (ran : h r ⟨d.toPrimaryDevice,t,w⟩ = (result,u)) :
    AnyDevice.methods.dispatch cmd r ⟨any,t,w⟩ = (result,⟨any.setDisk { d with toPrimaryDevice := u.device },u.transfer,u.world⟩) := by
  obtain ⟨scsi,sasi,optical⟩ := found
  cases any with
  | scsiHd _ =>
    cases plain
    exact AnyDevice.withinRan ((LunDiscovery.storageRan scsi unchanged).trans (superRan ran))
  | sasiHd _ =>
    cases plain
    exact AnyDevice.withinRan ((LunDiscovery.storageRan sasi unchanged).trans (superRan ran))
  | opticalMemory _ =>
    cases plain
    exact AnyDevice.withinRan ((LunDiscovery.storageRan optical unchanged).trans (superRan ran))
  | _ => cases plain

theorem Holds.beside {d : Disk} (holds : Holds medium a d w) (luns : Nat → Option AnyDevice) : Holds { medium with luns } a d w := by
  obtain ⟨accessible,writable,unchanged,reserved,size,blocks,nonempty,addressable,sized,cached⟩ := holds
  exact ⟨accessible,writable,unchanged,reserved,size,blocks,nonempty,addressable,sized,cached⟩

theorem Holds.reservedBy {d : Disk} (holds : Holds medium a d w) (owner : Int) :
    Holds { medium with owner } a { d with toPrimaryDevice := { d.toPrimaryDevice with reservingInitiator := owner } } w := by
  obtain ⟨accessible,writable,unchanged,_,size,blocks,nonempty,addressable,sized,cached⟩ := holds
  exact ⟨accessible,writable,unchanged,rfl,size,blocks,nonempty,addressable,sized,cached⟩

theorem ordersReserve (onBus : OnBus medium i.targetLun c a) (granted : medium.Grants (initiatorOf o.ids c.targetId)) (lun : i.targetLun < 32)
    (single : Single o.cdb) (opcode : o.opcode = .reserveReserveElement6) (steps : Nat) :
    ∃ d, OnBus { medium with owner := initiatorOf o.ids c.targetId } i.targetLun d a ∧
      target i o.env (steps + 8) o.ids c o.cdb o.dataOut = ({},d) := by
  obtain ⟨p,dev,d,called⟩ := calls onBus lun single
  have initiator : (p.request o.env).initiatorId = initiatorOf o.ids c.targetId := called.initiator
  have ran := primaryRuns p.opcode (h := PrimaryDevice.reserve) (r := p.request o.env) (t := p.transfer) (w := p.world) called.plain
    called.holds.unchanged (by rw [called.opcode,opcode]; exact ⟨rfl,rfl,rfl⟩) rfl
  have holds := called.holds.reservedBy (p.request o.env).initiatorId
  obtain ⟨e,next,_,answer⟩ := called.status (called.permits granted) onBus ran rfl ⟨_,AnyDevice.plainSet called.plain _,holds⟩ rfl steps
  rw [initiator] at next
  exact ⟨e,next,answer⟩

/- Whoever sends it. -/
theorem ordersRelease (onBus : OnBus medium i.targetLun c a) (lun : i.targetLun < 32) (single : Single o.cdb)
    (opcode : o.opcode = .releaseReleaseElement6) (steps : Nat) :
    ∃ d, OnBus { medium with owner := PrimaryDevice.notReserved } i.targetLun d a ∧
      target i o.env (steps + 8) o.ids c o.cdb o.dataOut = ({},d) := by
  obtain ⟨p,dev,d,called⟩ := calls onBus lun single
  have same : (p.request o.env).opcode = .releaseReleaseElement6 := called.opcode.trans opcode
  have exempt : PrimaryDevice.reservationExempt (p.request o.env) = true := by
    unfold PrimaryDevice.reservationExempt
    rw [same]
    rfl
  have permitted : (base (fresh dev) : PrimaryDevice).checkReservation (p.request o.env) = true := by
    rw [reservation called.serves,exempt,Bool.or_true]
  have ran := primaryRuns p.opcode (h := PrimaryDevice.release) (r := p.request o.env) (t := p.transfer) (w := p.world) called.plain
    called.holds.unchanged (by rw [called.opcode,opcode]; exact ⟨rfl,rfl,rfl⟩) rfl
  have holds := called.holds.reservedBy PrimaryDevice.notReserved
  obtain ⟨e,next,_,answer⟩ := called.status permitted onBus ran rfl ⟨_,AnyDevice.plainSet called.plain _,holds⟩ rfl steps
  exact ⟨e,next,answer⟩

theorem ordersConflict (onBus : OnBus medium i.targetLun c a) (refused : ¬medium.Grants (initiatorOf o.ids c.targetId)) (lun : i.targetLun < 32)
    (single : Single o.cdb) (steps : Nat)
    (other : o.opcode ∉ [ScsiCommand.inquiry,.requestSense,.releaseReleaseElement6,.preventAllowMediumRemoval]) :
    ∃ d, OnBus medium i.targetLun d a ∧ target i o.env (steps + 8) o.ids c o.cdb o.dataOut =
      ({ status := StatusCode.reservationConflict.code.toNat },d) := by
  obtain ⟨p,dev,d,called⟩ := calls onBus lun single
  have same : (p.request o.env).opcode = o.opcode := called.opcode
  have initiator : (p.request o.env).initiatorId = initiatorOf o.ids c.targetId := called.initiator
  have exempt : PrimaryDevice.reservationExempt (p.request o.env) = false := by
    simp only [List.mem_cons,List.not_mem_nil,or_false,not_or] at other
    unfold PrimaryDevice.reservationExempt
    rw [same]
    simp [other]
  have denied : (base (fresh dev) : PrimaryDevice).checkReservation (p.request o.env) = false := by
    rw [reservation called.serves,exempt,initiator,Bool.or_false,Bool.or_eq_false_iff,decide_eq_false_iff_not,decide_eq_false_iff_not]
    exact not_or.mp refused
  obtain ⟨e,idle,luns,world,grows,answer⟩ := conflictEnds called.dispatched denied steps
  exact ⟨e,onBus.behind idle luns world grows rfl (called.serves.fresh.primary (reportedReset _ _ _)),answer⟩

/-! The array and its owner. -/

/- What initiators with a reservation in mind send. -/
def LegalShared (medium : Medium) (steps : Nat) (o : Order) : Prop :=
  Legal medium steps o ∨ Single o.cdb ∧ (o.opcode = .reserveReserveElement6 ∨ o.opcode = .releaseReleaseElement6)

def conflict : Reply := ({ status := StatusCode.reservationConflict.code.toNat },none)

/- With the ID of the target. -/
def sharedStep (medium : Medium) (targetId : Nat) (s : Sectors × Int) (o : Order) : Reply × (Sectors × Int) :=
  let initiator := initiatorOf o.ids targetId
  if o.opcode = .releaseReleaseElement6 then (({},none),(s.1,PrimaryDevice.notReserved))
  else if ¬(s.2 = PrimaryDevice.notReserved ∨ s.2 = initiator) then (conflict,s)
  else if o.opcode = .reserveReserveElement6 then (({},none),(s.1,initiator))
  else
    let (reply,a) := arrayStep medium s.1 o
    (reply,(a,s.2))

/- The owner is part of the state. -/
structure Shared (medium : Medium) (lun targetId : Nat) (c : Controller AnyDevice) (s : Sectors × Int) : Prop where
  onBus : OnBus { medium with owner := s.2 } lun c s.1
  targetId : c.targetId = targetId

/- Only the size of a sector matters to what is legal. -/
theorem Legal.sized {medium' : Medium} (legal : Legal medium steps o) (same : medium'.size = medium.size) : Legal medium' steps o := by
  obtain ⟨single,sync,fits⟩ := legal
  refine ⟨single,sync,fun transfer => ?_⟩
  obtain ⟨clear,sum,bound,data,patience⟩ := fits transfer
  rw [← same] at bound data
  exact ⟨clear,sum,bound,data,patience⟩

theorem LegalShared.sized {medium' : Medium} (legal : LegalShared medium steps o) (same : medium'.size = medium.size) :
    LegalShared medium' steps o := legal.imp_left fun plain => plain.sized same

theorem legalOther (legal : Legal medium steps o) :
    o.opcode ∉ [ScsiCommand.inquiry,.requestSense,.releaseReleaseElement6,.preventAllowMediumRemoval,.reserveReserveElement6] := by
  cases transfer : o.transfer with
  | none =>
    have sync := legal.sync transfer
    simp only [Order.synchronizes,List.mem_cons,List.not_mem_nil,or_false] at sync
    rcases sync with same | same <;> rw [same] <;> decide
  | some found =>
    have listed := @Order.listed o found.1 found.2 transfer
    simp only [transferCommands,List.mem_cons,List.not_mem_nil,or_false,Prod.mk.injEq] at listed
    rcases listed with ⟨same,_⟩ | ⟨same,_⟩ | ⟨same,_⟩ | ⟨same,_⟩ | ⟨same,_⟩ | ⟨same,_⟩ <;> rw [same] <;> decide

theorem busPlain (name : String) {d : Controller AnyDevice} {answer : Answer}
    (ran : target i o.env (steps + 8) o.ids c o.cdb o.dataOut = (answer,d)) (plain : o.opcode ∉ Order.synchronizes ∨ answer.status ≠ 0) :
    busStep i name steps c o = ((answer,none),d) := by
  unfold busStep
  rw [ran]
  dsimp only
  rw [if_neg fun wrong => plain.elim (absurd wrong.1) (absurd wrong.2)]

theorem sharedAgrees {targetId : Nat} {s : Sectors × Int} (lun : i.targetLun < 32) (shared : Shared medium i.targetLun targetId c s)
    (legal : LegalShared medium steps o) : (busStep i medium.name steps c o).1 = (sharedStep medium targetId s o).1 ∧
      Shared medium i.targetLun targetId (busStep i medium.name steps c o).2 (sharedStep medium targetId s o).2 := by
  obtain ⟨onBus,rfl⟩ := shared
  obtain ⟨a,owner⟩ := s
  have single : Single o.cdb := legal.elim Legal.single And.left
  have kept : (busStep i medium.name steps c o).2.targetId = c.targetId := targetIdKept i o.env (steps + 8) o.ids c o.cdb o.dataOut
  unfold sharedStep
  dsimp only
  by_cases release : o.opcode = .releaseReleaseElement6
  · obtain ⟨d,next,answer⟩ := ordersRelease onBus lun single release steps
    have ran := busPlain medium.name answer (.inl (by rw [release]; decide))
    rw [ran] at kept ⊢
    rw [if_pos release]
    exact ⟨rfl,next,kept⟩
  · rw [if_neg release]
    by_cases granted : owner = PrimaryDevice.notReserved ∨ owner = initiatorOf o.ids c.targetId
    · rw [if_neg (not_not.mpr granted)]
      by_cases reserve : o.opcode = .reserveReserveElement6
      · obtain ⟨d,next,answer⟩ := ordersReserve onBus granted lun single reserve steps
        have ran := busPlain medium.name answer (.inl (by rw [reserve]; decide))
        rw [ran] at kept ⊢
        rw [if_pos reserve]
        exact ⟨rfl,next,kept⟩
      · have plain := legal.resolve_right fun wrong => wrong.2.elim reserve release
        obtain ⟨same,next⟩ := busAgrees lun onBus granted (plain.sized rfl)
        rw [if_neg reserve]
        exact ⟨same,next,kept⟩
    · have other : o.opcode ∉ [ScsiCommand.inquiry,.requestSense,.releaseReleaseElement6,.preventAllowMediumRemoval] := by
        rcases legal with plain | ⟨_,reserve | wrong⟩
        · have others := legalOther plain
          simp only [List.mem_cons,List.not_mem_nil,or_false,not_or] at others ⊢
          exact ⟨others.1,others.2.1,others.2.2.1,others.2.2.2.1⟩
        · rw [reserve]
          decide
        · exact absurd wrong release
      obtain ⟨d,next,answer⟩ := ordersConflict onBus granted lun single steps other
      have ran := busPlain medium.name answer (.inr (by decide))
      rw [ran] at kept ⊢
      rw [if_pos granted]
      exact ⟨rfl,next,kept⟩

/- A disk with an image file that has just been opened. -/
structure Opened (d : Disk) (path : String) (files : FileSystem) (file : Bytes) : Prop where
  accessible : d.Accessible
  writable : d.Writable
  unchanged : d.mediumChanged = false
  nonempty : 0 < d.blocks
  addressable : d.blocks ≤ 2^32
  cache : d.cache = some (MediumGeometry.newCache d path)
  standard : d.blockSize ∈ ImageAccess.standardSizes
  tracks : d.cachingMode = .piscsi → d.blocks < 2^31
  here : files path = some file
  fits : d.blocks * d.blockSize ≤ file.length

/- The file has whole sectors, and there may be more in it. -/
def mediumOf (d : Disk) (path : String) (files : FileSystem) (file : Bytes) : Medium :=
  { name := path
    size := d.blockSize
    count := d.blocks
    files
    rest := file.drop (d.blocks * d.blockSize)
    owner := d.reservingInitiator }

theorem Opened.holds {d : Disk} {path : String} {file : Bytes} (opened : Opened d path w.files file) :
    Holds (mediumOf d path w.files file) (ofImage d.blockSize file) d w := by
  have represents := ImageAccess.newRepresents opened.here opened.standard opened.tracks opened.fits
  refine ⟨opened.accessible,opened.writable,opened.unchanged,rfl,rfl,rfl,opened.nonempty,opened.addressable,fun k inside => ?_,
    _,opened.cache,represents,fun optimized => ?_⟩
  · exact sliceLengthWithin ((blockFits inside).trans opened.fits)
  · have other : d.cachingMode ≠ .piscsi := by
      rw [optimized]
      decide
    unfold MediumGeometry.newCache
    rw [if_neg other]
    trivial


/- While a disk is reserved and nobody releases it. -/
theorem ownerKept {targetId : Nat} {owner : Int} {s : Sectors × Int} (reserved : owner ≠ PrimaryDevice.notReserved) (here : s.2 = owner)
    (other : o.opcode ≠ .releaseReleaseElement6) : (sharedStep medium targetId s o).2.2 = owner ∧
      (initiatorOf o.ids targetId ≠ owner →
        sharedStep medium targetId s o = (conflict,s)) := by
  subst here
  unfold sharedStep
  dsimp only
  rw [if_neg other]
  by_cases mine : s.2 = initiatorOf o.ids targetId
  · rw [if_neg (not_not.mpr (.inr mine))]
    refine ⟨?_,fun wrong => absurd mine.symm wrong⟩
    split
    · exact mine.symm
    · rfl
  · have refused : ¬(s.2 = PrimaryDevice.notReserved ∨ s.2 = initiatorOf o.ids targetId) := not_or.mpr ⟨reserved,mine⟩
    rw [if_pos refused]
    exact ⟨rfl,fun _ => rfl⟩

end DiskOnBus
open DiskOnBus BoardTarget

section
variable {i : BoardExecutor.Initiator} {c : Controller AnyDevice} {dev : AnyDevice} {d : Disk} {path : String} {file : Bytes} {orders : List Order}

/- The disk and the array go through a run side by side. -/
theorem sharedRun (lun : i.targetLun < 32) (idle : Idle c) (room : 0 < c.transfer.buffer.length)
    (here : c.luns i.targetLun = some dev) (plain : dev.plainDisk = some d) (opened : Opened d path c.world.files file) (steps : Nat)
    (legal : ∀ o ∈ orders, LegalShared (mediumOf d path c.world.files file) steps o) :
    Mealy.outputs (busStep i path steps) c orders = Mealy.outputs (sharedStep (mediumOf d path c.world.files file) c.targetId)
        (SectorArray.ofImage d.blockSize file,d.reservingInitiator) orders ∧
      Shared { mediumOf d path c.world.files file with luns := c.luns } i.targetLun c.targetId (Mealy.final (busStep i path steps) c orders)
        (Mealy.final (sharedStep (mediumOf d path c.world.files file) c.targetId)
          (SectorArray.ofImage d.blockSize file,d.reservingInitiator) orders) := by
  have start : Shared { mediumOf d path c.world.files file with luns := c.luns } i.targetLun c.targetId c
      (SectorArray.ofImage d.blockSize file,d.reservingInitiator) := ⟨⟨idle,room,⟨dev,here,d,plain,opened.holds.beside c.luns⟩,fun _ _ => rfl⟩,rfl⟩
  have agree : ∀ c' s o, Shared { mediumOf d path c.world.files file with luns := c.luns } i.targetLun c.targetId c' s →
      LegalShared (mediumOf d path c.world.files file) steps o →
      (busStep i path steps c' o).1 = (sharedStep (mediumOf d path c.world.files file) c.targetId s o).1 ∧
        Shared { mediumOf d path c.world.files file with luns := c.luns } i.targetLun c.targetId (busStep i path steps c' o).2
          (sharedStep (mediumOf d path c.world.files file) c.targetId s o).2 :=
    fun _ _ _ shared legal => sharedAgrees lun shared (legal.sized rfl)
  exact Mealy.simulation agree start legal

end

namespace DiskOnBus

def blank : Bytes := List.replicate 1024 0

def smallDisk (mode : CachingMode) (owner : Int) : Disk :=
  let d : Disk :=
    { type := .schd
      ready := true
      reservingInitiator := owner
      blocks := 2
      blockSize := 512
      supportedBlockSizes := [512]
      cachingMode := mode }
  { d with cache := some (MediumGeometry.newCache d "small.hds") }

def withSmallDisk (mode : CachingMode) (owner : Int) : Controller AnyDevice :=
  { luns := fun lun => if lun = 3 then some (.scsiHd (smallDisk mode owner)) else none
    world := { files := fun name => if name = "small.hds" then some blank else none } }

/- One initiator writes a sector, another one wants to read it, both sectors are read, and the
cache is written back. -/
def someOrders : List Order := [
  { ids := 129, cdb := [0x0a,0,0,1,1,0], dataOut := List.replicate 512 0x55 },
  { ids := 65, cdb := [0x08,0,0,1,1,0] },
  { ids := 129, cdb := [0x28,0,0,0,0,0,0,0,2,0] },
  { ids := 129, cdb := [0x35,0,0,0,0,0,0,0,0,0] }]

theorem smallOpened (mode : CachingMode) (owner : Int) :
    Opened (smallDisk mode owner) "small.hds" (withSmallDisk mode owner).world.files blank := by
  refine ⟨⟨rfl,rfl,rfl⟩,rfl,rfl,Nat.succ_pos _,by change 2 ≤ 2^32; decide,rfl,by simp [smallDisk,ImageAccess.standardSizes],
    fun _ => by change 2 < 2^31; decide,rfl,?_⟩
  change 2 * 512 ≤ blank.length
  rw [blank,List.length_replicate]

theorem someSingle : ∀ o ∈ someOrders, Single o.cdb := by
  intro o member
  simp only [someOrders,List.mem_cons,List.not_mem_nil,or_false] at member
  rcases member with rfl | rfl | rfl | rfl <;> exact ⟨by decide,by decide,by decide,by decide⟩

theorem Legal.ofTransfer {mode : Disk.AccessMode} {dataOut : Bool} (single : Single o.cdb) (transfer : o.transfer = some (mode,dataOut))
    (fits : Fits medium steps o mode dataOut) : Legal medium steps o := by
  refine ⟨single,fun wrong => ?_,fun same => ?_⟩
  · cases transfer.symm.trans wrong
  · cases transfer.symm.trans same
    exact fits

theorem someLegal {medium : Medium} (size : medium.size = 512) : ∀ o ∈ someOrders, Legal medium 4 o := by
  intro o member
  have single := someSingle o member
  simp only [someOrders,List.mem_cons,List.not_mem_nil,or_false] at member
  rcases member with rfl | rfl | rfl | rfl
  · refine .ofTransfer single rfl ⟨fun _ => by decide,by decide,?_,fun _ => ?_,by decide⟩
    · rw [size]
      decide
    · rw [size,List.length_replicate]
      decide
  · refine .ofTransfer single rfl ⟨fun _ => by decide,by decide,?_,fun wrong => (by cases wrong),by decide⟩
    rw [size]
    decide
  · refine .ofTransfer single rfl ⟨fun _ => by decide,by decide,?_,fun wrong => (by cases wrong),by decide⟩
    rw [size]
    decide
  · exact ⟨single,fun _ => by decide,fun wrong => (by cases wrong)⟩

theorem smallRoom (mode : CachingMode) (owner : Int) : 0 < (withSmallDisk mode owner).transfer.buffer.length := by
  change 0 < (List.replicate 512 (0 : UInt8)).length
  rw [List.length_replicate]
  decide

end DiskOnBus

end Scsi2Pi
