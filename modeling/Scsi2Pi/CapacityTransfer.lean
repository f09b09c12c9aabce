import Scsi2Pi.BoardTarget
import Scsi2Pi.ExecutorsAlike
import Scsi2Pi.SectorAddresses

/-! The capacity of a disk, from READ CAPACITY(10) and READ CAPACITY(16) of the target
to ReadCapacity of s2pdump. -/
namespace Scsi2Pi
open Slices MemoryUtil Handler Derives Eff Controller

namespace Disk

variable {r : Request} {s : HandlerState Disk}

/- The data of READ CAPACITY(10). -/
def capacityData (buf : Bytes) (d : Disk) : Bytes :=
  setInt32 (setInt32 buf 0 (if 0xffffffff < d.blocks - 1 then 0xffffffff else d.blocks - 1)) 4 d.blockSize

theorem readCapacity10Ran (ready : s.device.Accessible) (some : s.device.blocks ≠ 0) : readCapacity10 r s =
    (.ok (.dataIn (8 : Nat)),
      { s with transfer := { s.transfer with buffer := capacityData s.transfer.buffer s.device } }) := by
  unfold readCapacity10
  refine (bindOk (checkReadyOk ready)).trans (ranOk ?_)
  simp only [wpBind,wpGetDevice,wpIte,wpThrow,wpSetBuffer,wpPure]
  exact ⟨fun none => absurd none some,fun _ => ⟨rfl,rfl⟩⟩

theorem readCapacity10Fails (busy : ¬s.device.Accessible) : ∃ e u, readCapacity10 r s = (.error e,u) := by
  obtain ⟨e,d,ran,_⟩ := checkReadyFails busy (r := r)
  exact ⟨e,_,bindError ran⟩

theorem longCapacityRan (capacity : r.cdbByte 1 &&& 0x1f = 0x10) : readCapacity16ReadLong16 r s = readCapacity16 r s := by
  change (if r.cdbByte 1 &&& 0x1f = 0x10 then readCapacity16 else _) r s = _
  rw [if_pos capacity]

theorem readCapacity16Fails (busy : ¬s.device.Accessible) : ∃ e u, readCapacity16 r s = (.error e,u) := by
  obtain ⟨e,d,ran,_⟩ := checkReadyFails busy (r := r)
  exact ⟨e,_,bindError ran⟩

/- Without an allocation length nothing is sent, but the buffer has been filled. -/
theorem readCapacity16Ran (ready : s.device.Accessible) (some : s.device.blocks ≠ 0) (none : r.cdbInt32 10 = 0) :
    ∃ buffer, readCapacity16 r s = (.ok (.dataIn (0 : Nat)),{ s with transfer := { s.transfer with buffer } }) := by
  unfold readCapacity16
  refine ⟨setInt32 (setInt64 (setBytes s.transfer.buffer 0 (List.replicate 32 0)) 0 (s.device.blocks - 1)) 8
    s.device.blockSize,(bindOk (checkReadyOk ready)).trans (ranOk ?_)⟩
  simp only [wpBind,wpGetDevice,wpIte,wpThrow,wpSetBuffer,wpGetRequest,wpPure,none]
  exact ⟨fun none => absurd none some,fun _ => ⟨rfl,trivial⟩⟩

end Disk

namespace CapacityTransfer
open BoardExecutor PrimaryDevice

/-! The two CDBs. -/

def shortCdb (i : Initiator) : Bytes := encodeLun i ((S2pDumpExecutor.newCdb 10 .readCapacity10).set 0 ScsiCommand.readCapacity10)

def longCdb (i : Initiator) : Bytes := encodeLun i (ExecutorsAlike.longCapacityCdb.set 0 ScsiCommand.readCapacityReadLong16)

theorem shortBytes : ∀ lun < 32, commandHandShake (shortCdb ⟨lun⟩) = (shortCdb ⟨lun⟩,10) ∧ (shortCdb ⟨lun⟩).length = 10 ∧
    ((byteAt (shortCdb ⟨lun⟩) 9).testBit 0 = false ∧ (byteAt (shortCdb ⟨lun⟩) 9).testBit 1 = false) ∧
    (shortCdb ⟨lun⟩).getD 0 0 = ScsiCommand.readCapacity10 := by
  decide

theorem longBytes : ∀ lun < 32, commandHandShake (longCdb ⟨lun⟩) = (longCdb ⟨lun⟩,16) ∧ (longCdb ⟨lun⟩).length = 16 ∧
    ((byteAt (longCdb ⟨lun⟩) 15).testBit 0 = false ∧ (byteAt (longCdb ⟨lun⟩) 15).testBit 1 = false) ∧
    (longCdb ⟨lun⟩).getD 0 0 = ScsiCommand.readCapacityReadLong16 ∧
    byteAt (longCdb ⟨lun⟩) 1 &&& 0x1f = 0x10 ∧ getInt32 (longCdb ⟨lun⟩) 10 = 0 := by
  decide

theorem shortSingle {i : Initiator} (lun : i.targetLun < 32) : BoardTarget.Single (shortCdb i) := by
  obtain ⟨complete,length,control,opcode⟩ := shortBytes i.targetLun lun
  refine ⟨?_,by rw [length]; decide,by rw [length]; exact control,by rw [opcode]; decide⟩
  rw [length]
  exact complete

theorem longSingle {i : Initiator} (lun : i.targetLun < 32) : BoardTarget.Single (longCdb i) := by
  obtain ⟨complete,length,control,opcode,_⟩ := longBytes i.targetLun lun
  refine ⟨?_,by rw [length]; decide,by rw [length]; exact control,by rw [opcode]; decide⟩
  rw [length]
  exact complete

/-! The device. -/

/- Nothing is reported instead of the capacity. -/
def Accepts (d : Disk) (initiator : Int) : Prop :=
  (d.reservingInitiator = notReserved ∨ d.reservingInitiator = initiator) ∧ d.mediumChanged = false ∧ d.Accessible

variable {dev : AnyDevice} {d : Disk} {c p : Controller AnyDevice} {i : Initiator} {env : Env} {cdb : Bytes} {cmd : ScsiCommand}

theorem freshDisk (disk : dev.disk = some d) :
    (BoardTarget.fresh dev).disk = some (setBase d d.toPrimaryDevice.resetStatus) := by
  cases dev with
  | scsiHd _ | sasiHd _ | opticalMemory _ | scsiCd _ =>
    cases disk
    rfl
  | _ => cases disk

theorem diskPrimary (disk : dev.disk = some d) : dev.primary = d.toPrimaryDevice := by
  cases dev with
  | scsiHd _ | sasiHd _ | opticalMemory _ | scsiCd _ =>
    cases disk
    rfl
  | _ => cases disk

theorem setFound (disk : dev.disk = some d) {e : Disk} : (dev.setDisk e).disk = some e := by
  obtain ⟨K,device,rfl,_⟩ := DiskClass.ofDisk disk
  rw [K.setPutDisk,K.putDisk,baseSet]

theorem reserved (disk : dev.disk = some d) (prepared : BoardTarget.Prepared i cdb dev c p)
    (exempt : reservationExempt (p.request env) = false) :
    (base (BoardTarget.fresh dev) : PrimaryDevice).checkReservation (p.request env) = true ↔
      d.reservingInitiator = notReserved ∨ d.reservingInitiator = c.initiatorId := by
  rw [BoardTarget.freshReservation env prepared exempt,diskPrimary disk,Bool.or_eq_true,decide_eq_true_eq,decide_eq_true_eq]

theorem changedFails {any : AnyDevice} {r : Request} {t : Transfer} {w : World} (disk : any.disk = some d)
    {h : Handler Disk PhaseCall}
    (listed : ∀ {δ : Type} [Derives δ Disk] (readData : Handler δ Int), (cmd,super h) ∈ Disk.commands readData)
    (other : cmd ≠ .inquiry ∧ cmd ≠ .requestSense) (changed : d.mediumChanged = true) :
    ∃ e u, AnyDevice.methods.dispatch cmd r ⟨any,t,w⟩ = (.error e,u) := by
  obtain ⟨K,device,rfl,rfl⟩ := DiskClass.ofDisk disk
  obtain ⟨_,ran⟩ := K.dispatchChanged (r := r) (s := ⟨device,t,w⟩) (listed K.methods.readData) other changed
  exact ⟨_,_,AnyDevice.virtualRuns K (fun m => m.dispatch cmd) ran⟩

/-! The exchanges. -/

/- A command that has been answered with an error. -/
def Refused (i : Initiator) (env : Env) (steps ids : Nat) (c : Controller AnyDevice) (cdb dataOut : Bytes) : Prop :=
  ∃ (status : Nat) (d : Controller AnyDevice), status ≠ 0 ∧
    BoardTarget.target i env (steps+10) ids c cdb dataOut = ({ status },d)

variable (env) (steps ids : Nat) (dataOut : Bytes)

/- What the target does with one of the commands, from what its handler does. -/
theorem exchanges {h : Handler Disk PhaseCall} (idle : BoardTarget.Idle c) (lun : i.targetLun < 32)
    (room : 0 < c.transfer.buffer.length) (single : BoardTarget.Single cdb) (here : c.luns i.targetLun = some dev)
    (disk : dev.disk = some d) (opcode : cdb.getD 0 0 = cmd)
    (exempt : ∀ {r : Request}, r.opcode = cmd → reservationExempt r = false)
    (listed : ∀ {δ : Type} [Derives δ Disk] (readData : Handler δ Int), (cmd,super h) ∈ Disk.commands readData)
    (other : cmd ≠ .inquiry ∧ cmd ≠ .requestSense) :
    ∃ p, BoardTarget.Prepared i cdb dev { c with initiatorId := initiatorOf ids c.targetId } p ∧
      let s : HandlerState Disk := ⟨setBase d d.toPrimaryDevice.resetStatus,p.transfer,p.world⟩
      (¬Accepts d (initiatorOf ids c.targetId) → (¬d.Accessible → ∃ e u, h (p.request env) s = (.error e,u)) →
        Refused i env steps ids c cdb dataOut) ∧
      (Accepts d (initiatorOf ids c.targetId) → ∀ (count : Nat) buffer,
        h (p.request env) s = (.ok (.dataIn count),{ s with transfer := { s.transfer with buffer } }) →
        count ≤ buffer.length → ∃ a, BoardTarget.Idle a ∧ buffer.length ≤ a.transfer.buffer.length ∧
          (∃ dev', a.luns i.targetLun = some dev' ∧ dev'.disk = some (setBase d d.toPrimaryDevice.resetStatus)) ∧
          BoardTarget.target i env (steps+10) ids c cdb dataOut = ({ dataIn := buffer.take count },a)) := by
  obtain ⟨p,prepared,answered⟩ := BoardTarget.answers (x := ⟨i,env,cdb,dataOut,c.trace.length⟩) steps ids idle lun room
    single here rfl
  have same : (p.request env).opcode = cmd := prepared.opcode.trans opcode
  have reservation := reserved disk prepared (exempt same)
  have fresh := freshDisk disk
  have fails : ∀ e u, (base (BoardTarget.fresh dev) : PrimaryDevice).checkReservation (p.request env) = true →
      AnyDevice.methods.dispatch cmd (p.request env) ⟨BoardTarget.fresh dev,p.transfer,p.world⟩ = (.error e,u) →
      Refused i env steps ids c cdb dataOut := by
    intro e u allowed ran
    obtain ⟨_,answer⟩ := answered.failed allowed e u (by rw [← same] at ran; exact ran)
    exact ⟨_,_,by decide,answer⟩
  refine ⟨p,prepared,fun refuses busy => ?_,fun accepts count buffer ran fits => ?_⟩
  · by_cases allowed : (base (BoardTarget.fresh dev) : PrimaryDevice).checkReservation (p.request env) = true
    · cases changed : d.mediumChanged with
      | true =>
        obtain ⟨e,u,ran⟩ := changedFails (r := p.request env) (t := p.transfer) (w := p.world) fresh listed other changed
        exact fails e u allowed ran
      | false =>
        obtain ⟨e,u,ran⟩ := busy fun ready => refuses ⟨reservation.mp allowed,changed,ready⟩
        exact fails e _ allowed (AnyDevice.dispatchDisk cmd fresh listed changed ran)
    · obtain ⟨_,answer⟩ := answered.refused (Bool.eq_false_iff.mpr allowed)
      exact ⟨_,_,by decide,answer⟩
  · obtain ⟨reservation',unchanged,_⟩ := accepts
    have dispatched := AnyDevice.dispatchDisk cmd fresh listed unchanged ran
    obtain ⟨a,idle,luns,_,grown,answer⟩ := answered.dataIn (reservation.mpr reservation') count _
      (by rw [← same] at dispatched; exact dispatched) prepared.remaining prepared.chunk prepared.status fits
    refine ⟨a,idle,grown,⟨(BoardTarget.fresh dev).setDisk (setBase d d.toPrimaryDevice.resetStatus),?_,setFound fresh⟩,answer⟩
    rw [luns,Function.update_self]

theorem shortNotExempt {r : Request} (opcode : r.opcode = ScsiCommand.readCapacity10) : reservationExempt r = false := by
  unfold reservationExempt
  rw [opcode]
  rfl

theorem longNotExempt {r : Request} (opcode : r.opcode = ScsiCommand.readCapacityReadLong16) : reservationExempt r = false := by
  unfold reservationExempt
  rw [opcode]
  rfl

theorem capacityDataLength {buf : Bytes} (room : 8 ≤ buf.length) : (Disk.capacityData buf d).length = buf.length := by
  have first : (setInt32 buf 0 (if 0xffffffff < d.blocks - 1 then 0xffffffff else d.blocks - 1)).length = buf.length :=
    setBytesLength (by rw [bigEndianLength]; omega)
  exact (setBytesLength (by rw [bigEndianLength,first]; omega)).trans first

theorem shortExchange (idle : BoardTarget.Idle c) (lun : i.targetLun < 32) (room : 8 ≤ c.transfer.buffer.length)
    (here : c.luns i.targetLun = some dev) (disk : dev.disk = some d) (some : d.blocks ≠ 0) :
    (¬Accepts d (initiatorOf ids c.targetId) → Refused i env steps ids c (shortCdb i) dataOut) ∧
      (Accepts d (initiatorOf ids c.targetId) → ∃ buf a, 8 ≤ buf.length ∧ BoardTarget.Idle a ∧ 8 ≤ a.transfer.buffer.length ∧
        (∃ dev', a.luns i.targetLun = .some dev' ∧ dev'.disk = .some (setBase d d.toPrimaryDevice.resetStatus)) ∧
        BoardTarget.target i env (steps+10) ids c (shortCdb i) dataOut = ({ dataIn := (Disk.capacityData buf d).take 8 },a)) := by
  have listed : ∀ {δ : Type} [Derives δ Disk] (readData : Handler δ Int),
      (ScsiCommand.readCapacity10,super Disk.readCapacity10) ∈ Disk.commands readData := by
    intro δ _ readData
    simp [Disk.commands]
  obtain ⟨p,prepared,refused,answered⟩ := exchanges env steps ids dataOut idle lun
    (by omega) (shortSingle lun) here disk (shortBytes i.targetLun lun).2.2.2 shortNotExempt listed (by decide)
  refine ⟨fun refuses => refused refuses fun busy => Disk.readCapacity10Fails busy,fun accepts => ?_⟩
  have space : 8 ≤ p.transfer.buffer.length := Nat.le_trans room prepared.buffer.grows
  have whole := capacityDataLength (d := d) space
  obtain ⟨a,idle,grown,⟨dev',here',disk'⟩,answer⟩ := answered accepts 8 _ (Disk.readCapacity10Ran accepts.2.2 some)
    (Nat.le_trans space (Nat.le_of_eq whole.symm))
  exact ⟨p.transfer.buffer,a,space,idle,Nat.le_trans (Nat.le_trans space (Nat.le_of_eq whole.symm)) grown,
    ⟨dev',here',disk'⟩,answer⟩

/- The second command is refused as well, or there are no data. -/
theorem longExchange (idle : BoardTarget.Idle c) (lun : i.targetLun < 32) (room : 8 ≤ c.transfer.buffer.length)
    (here : c.luns i.targetLun = some dev) (disk : dev.disk = some d) (some : d.blocks ≠ 0) :
    Refused i env steps ids c (longCdb i) dataOut ∨
      ∃ a, BoardTarget.target i env (steps+10) ids c (longCdb i) dataOut = ({},a) := by
  have listed : ∀ {δ : Type} [Derives δ Disk] (readData : Handler δ Int),
      (ScsiCommand.readCapacityReadLong16,super Disk.readCapacity16ReadLong16) ∈ Disk.commands readData := by
    intro δ _ readData
    simp [Disk.commands]
  obtain ⟨_,_,_,opcode,action,none⟩ := longBytes i.targetLun lun
  have length : (longCdb i).length = 16 := (longBytes i.targetLun lun).2.1
  obtain ⟨p,prepared,refused,answered⟩ := exchanges env steps ids dataOut idle
    lun (by omega) (longSingle lun) here disk opcode longNotExempt listed (by decide)
  have bytes := prepared.cdb
  have capacity : (p.request env).cdbByte 1 &&& 0x1f = 0x10 := by
    change byteAt p.cdb 1 &&& 0x1f = 0x10
    rw [bytes 1 (by omega)]
    exact action
  have nothing : (p.request env).cdbInt32 10 = 0 := by
    change getInt32 p.cdb 10 = 0
    rw [← none]
    simp only [getInt32,getInt16]
    rw [bytes 10 (by omega),bytes (10+1) (by omega),bytes (10+2) (by omega),bytes (10+2+1) (by omega)]
  rw [Disk.longCapacityRan capacity] at refused answered
  by_cases accepts : Accepts d (initiatorOf ids c.targetId)
  · obtain ⟨buffer,ran⟩ := Disk.readCapacity16Ran accepts.2.2 some nothing
      (s := ⟨setBase d d.toPrimaryDevice.resetStatus,p.transfer,p.world⟩)
    obtain ⟨a,_,_,_,answer⟩ := answered accepts 0 buffer ran (Nat.zero_le _)
    exact .inr ⟨a,answer⟩
  · exact .inl (refused accepts fun busy => Disk.readCapacity16Fails busy)

/-! What s2pdump makes of the data. -/

def capacityBuffer (data : Bytes) : Bytes := setBytes (List.replicate 14 0) 0 data

theorem getInt32Front {data : Bytes} {a : Nat} (inside : a + 4 ≤ data.length) :
    getInt32 (capacityBuffer data) a = getInt32 data a := by
  unfold capacityBuffer
  simp (disch := omega) only [getInt32,getInt16,byteAtFront]

theorem capacityBufferLength {data : Bytes} (short : data.length ≤ 8) : (capacityBuffer data).length = 14 :=
  (setBytesLength (by rw [List.length_replicate]; omega)).trans List.length_replicate

/- The last block, or the sentinel. -/
theorem capacityDecoded {buf : Bytes} (room : 8 ≤ buf.length) :
    getInt32 (capacityBuffer ((Disk.capacityData buf d).take 8)) 0 = min 0xffffffff (d.blocks - 1) ∧
      getInt32 (capacityBuffer ((Disk.capacityData buf d).take 8)) 4 = d.blockSize % 2^32 := by
  have length := capacityDataLength (d := d) room
  have eight : ((Disk.capacityData buf d).take 8).length = 8 := by
    rw [List.length_take]
    omega
  have first : (setInt32 buf 0 (if 0xffffffff < d.blocks - 1 then 0xffffffff else d.blocks - 1)).length = buf.length :=
    setBytesLength (by rw [bigEndianLength]; omega)
  rw [getInt32Front (by omega),getInt32Front (by omega),getInt32Take (by omega),getInt32Take (by omega)]
  refine ⟨?_,getInt32Same _⟩
  unfold Disk.capacityData
  refine (getInt32Other (by omega)).trans ((getInt32Same _).trans ?_)
  split <;> omega

/- Behind the 8 bytes of READ CAPACITY(10) nothing has been received. -/
theorem nothingBehind {data : Bytes} (short : data.length ≤ 8) :
    getInt32 (setBytes (capacityBuffer data) 0 []) 8 = 0 := by
  have zero : ∀ k, 8 ≤ k → byteAt (setBytes (capacityBuffer data) 0 []) k = 0 := by
    intro k later
    rw [byteAtOther (.inr (Nat.zero_le _))]
    unfold capacityBuffer
    rw [byteAtOther (by omega),byteAt,List.getD_eq_getElem?_getD,
      List.getElem?_replicate]
    split <;> rfl
  simp only [getInt32,getInt16]
  rw [zero 8 (by decide),zero (8+1) (by decide),zero (8+2) (by decide),zero (8+2+1) (by decide)]
  decide

variable {τ : Type} {target : Target τ} {s : DumpState τ} {a : Answer} {after : τ}

theorem readsShort (answer : target s.target (shortCdb i) (List.replicate 8 0) = (a,after)) (fits : a.dataIn.length ≤ 8)
    (none : a.taken = 0) : S2pDumpExecutor.readCapacity (BoardExecutor.virtual i) target s =
      (if a.status ≠ 0 then pure (0,0)
      else if getInt32 (capacityBuffer a.dataIn) 0 = 2^32 - 1 then
        S2pDumpExecutor.readCapacity16 (BoardExecutor.virtual i) (shortCdb i) (capacityBuffer a.dataIn)
      else pure (getInt32 (capacityBuffer a.dataIn) 0 + 1,getInt32 (capacityBuffer a.dataIn) 4)) target
        { s with target := after, sent := s.sent ++ [shortCdb i] } := by
  have room : 8 ≤ (List.replicate 14 (0 : UInt8)).length := by decide
  have executed := BoardTarget.executeAnswered (i := i) (s := s) .readCapacity10 (S2pDumpExecutor.newCdb 10 .readCapacity10)
    room answer fits none
  exact (bindOk executed).trans rfl

theorem readsLong {buf : Bytes} (length : buf.length = 14) (answer : target s.target (longCdb i) buf = (a,after))
    (fits : a.dataIn.length ≤ 14) (none : a.taken = 0) :
    S2pDumpExecutor.readCapacity16 (BoardExecutor.virtual i) (shortCdb i) buf target s =
      (.ok (if a.status ≠ 0 then (0,0)
        else ((getInt64 (setBytes buf 0 a.dataIn) 0 + 1) % 2^64,getInt32 (setBytes buf 0 a.dataIn) 8)),
        { s with target := after, sent := s.sent ++ [longCdb i] }) := by
  have cdb : ((shortCdb i ++ List.replicate 6 0).set 0 ScsiCommand.readCapacityReadLong16).set 1 0x10 =
      ExecutorsAlike.longCapacityCdb := ExecutorsAlike.longCapacityEncoded
  have executed := BoardTarget.executeAnswered (i := i) (s := s) .readCapacityReadLong16 ExecutorsAlike.longCapacityCdb
    (Nat.le_of_eq length.symm)
    (by rw [List.take_of_length_le (Nat.le_of_eq length)]; exact answer) fits none
  unfold S2pDumpExecutor.readCapacity16
  rw [cdb]
  refine (bindOk executed).trans ?_
  dsimp only
  split <;> rfl

end CapacityTransfer
open CapacityTransfer PrimaryDevice

/- The geometry of a disk gets to s2pdump exactly up to 2^32 - 1 blocks: READ CAPACITY(16) has
no allocation length. -/
theorem capacityTransferred {i : BoardExecutor.Initiator} {dev : AnyDevice} {d : Disk} {env : Env} {steps ids : Nat}
    {s : DumpState (Controller AnyDevice)} (idle : BoardTarget.Idle s.target) (lun : i.targetLun < 32)
    (room : 8 ≤ s.target.transfer.buffer.length) (here : s.target.luns i.targetLun = some dev) (disk : dev.disk = some d)
    (some : 0 < d.blocks) (size : 0 < d.blockSize) (word : d.blockSize < 2^32) :
    ∃ v t, S2pDumpExecutor.readCapacity (BoardExecutor.virtual i) (BoardTarget.target i env (steps+10) ids) s = (.ok v,t) ∧
      (v = (d.blocks,d.blockSize) ↔ Accepts d (initiatorOf ids s.target.targetId) ∧ d.blocks < 2^32) := by
  obtain ⟨refused,answered⟩ := shortExchange env steps ids (List.replicate 8 0) idle lun
    room here disk (Nat.ne_of_gt some)
  by_cases accepts : Accepts d (initiatorOf ids s.target.targetId)
  · obtain ⟨buf,a,space,idle,room,⟨dev',here',disk'⟩,answer⟩ := answered accepts
    have short : ((Disk.capacityData buf d).take 8).length ≤ 8 := List.length_take_le _ _
    obtain ⟨last,blockSize⟩ := capacityDecoded (d := d) space
    have read := readsShort answer short rfl
    rw [if_neg fun wrong => wrong rfl,last,blockSize,Nat.mod_eq_of_lt word] at read
    by_cases few : d.blocks < 2^32
    · have count : min 0xffffffff (d.blocks - 1) + 1 = d.blocks := by omega
      rw [if_neg (by omega),count] at read
      exact ⟨_,_,read,⟨fun _ => ⟨accepts,few⟩,fun _ => rfl⟩⟩
    · rw [if_pos (by omega)] at read
      have wrongSize : ∀ {v : Nat × Nat}, v.2 = 0 →
          (v = (d.blocks,d.blockSize) ↔ Accepts d (initiatorOf ids s.target.targetId) ∧ d.blocks < 2^32) := by
        intro v none
        refine ⟨fun wrong => ?_,fun wrong => absurd wrong.2 few⟩
        rw [wrong] at none
        exact absurd none (Nat.ne_of_gt size)
      have length := capacityBufferLength short
      rcases longExchange env steps ids (capacityBuffer ((Disk.capacityData buf d).take 8)) idle lun room here' disk' (Nat.ne_of_gt some) with
        ⟨status,after,failed,again⟩ | ⟨after,again⟩
      · have reads := readsLong (s := { s with target := a, sent := s.sent ++ [shortCdb i] }) length again (Nat.zero_le _) rfl
        rw [if_pos failed] at reads
        exact ⟨_,_,read.trans reads,wrongSize rfl⟩
      · have reads := readsLong (s := { s with target := a, sent := s.sent ++ [shortCdb i] }) length again (Nat.zero_le _) rfl
        rw [if_neg fun wrong => wrong rfl,nothingBehind short] at reads
        exact ⟨_,_,read.trans reads,wrongSize rfl⟩
  · obtain ⟨status,a,failed,answer⟩ := refused accepts
    have read := readsShort answer (Nat.zero_le _) rfl
    rw [if_pos failed] at read
    refine ⟨_,_,read,⟨fun wrong => ?_,fun wrong => absurd wrong.1 accepts⟩⟩
    have none : 0 = d.blocks := congrArg Prod.fst wrong
    omega

namespace CapacityTransfer

def geometry (blocks : Nat) : Disk :=
  { type := .schd, ready := true, blocks, blockSize := 512, supportedBlockSizes := [512], cachingMode := .piscsi }

def withDrive (blocks : Nat) : Controller AnyDevice :=
  { luns := fun lun => if lun = 3 then some (.scsiHd (geometry blocks)) else none }

theorem smallTransferred : ∃ v t, S2pDumpExecutor.readCapacity (BoardExecutor.virtual ⟨3⟩)
    (BoardTarget.target ⟨3⟩ {} (0+10) 129) { target := withDrive 100 } = (.ok v,t) ∧
      (v = ((geometry 100).blocks,(geometry 100).blockSize) ↔
        Accepts (geometry 100) (initiatorOf 129 0) ∧ (geometry 100).blocks < 2^32) := by
  have room : 8 ≤ (withDrive 100).transfer.buffer.length := by
    change 8 ≤ (List.replicate 512 (0 : UInt8)).length
    rw [List.length_replicate]
    decide
  have here : (withDrive 100).luns 3 = some (.scsiHd (geometry 100)) := rfl
  exact capacityTransferred (d := geometry 100) ⟨rfl,rfl,rfl,rfl⟩ (by change 3 < 32; decide) room here rfl (by decide)
    (by decide) (by decide)

/- 2^32 blocks: what is received is still the sentinel of the first command. -/
theorem largeMangled : Accepts (geometry (2^32)) (initiatorOf 129 0) ∧
    (S2pDumpExecutor.readCapacity (BoardExecutor.virtual ⟨3⟩) (BoardTarget.target ⟨3⟩ {} 10 129)
      { target := withDrive (2^32) }).1.toOption = some (0xffffffff * 2^32 + 513,0) ∧
    (0xffffffff * 2^32 + 513,0) ≠ ((geometry (2^32)).blocks,(geometry (2^32)).blockSize) := by
  refine ⟨⟨.inl rfl,rfl,rfl,rfl,rfl⟩,by decide +kernel,fun wrong => ?_⟩
  cases congrArg Prod.snd wrong

end CapacityTransfer
end Scsi2Pi
