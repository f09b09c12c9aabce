import Mathlib.Data.Finset.Basic
import Mathlib.Data.Finset.Dedup
import Mathlib.Data.Finset.Range
import Scsi2Pi.BoardTarget
import Scsi2Pi.DiskClass

/-! REPORT LUNS: the list of a controller, and what s2pdump reads from it. -/
namespace Scsi2Pi
open Slices MemoryUtil Handler Derives Eff Controller

namespace BoardExecutor
open DumpEff

variable {τ : Type}

/- The division is that of the low byte alone. -/
def lunCount (buf : Bytes) : Nat := byteAt buf 2 * 2^8 ||| byteAt buf 3 / 8

/- An entry may not be the last one of the buffer. -/
def collectLuns (buf : Bytes) : Nat → Nat → Finset Nat → Finset Nat
  | 0, _, luns => luns
  | count+1, offset, luns =>
    if offset + 8 < buf.length then
      let lun := getInt64 buf offset
      collectLuns buf count (offset+8) (if lun < 32 then insert lun luns else luns)
    else luns

/- Without REPORT LUNS there are 8 LUNs. -/
def reportLuns (i : Initiator) (cdb buf : Bytes) : DumpEff τ (Finset Nat) := do
  let executed ← execute i .reportLuns cdb buf buf.length
  if executed.returned ≠ 0 then return Finset.range 8
  return collectLuns executed.buf (lunCount executed.buf) 8 ∅

end BoardExecutor

namespace S2pDumpExecutor

def reportLuns {τ : Type} (i : BoardExecutor.Initiator) : DumpEff τ (Finset Nat) :=
  BoardExecutor.reportLuns i (setInt16 (newCdb 12 .reportLuns) 8 512) (List.replicate 512 0)

end S2pDumpExecutor

namespace LunDiscovery
open PrimaryDevice BoardExecutor

/-! The list of the target. -/

theorem writeLunsLength {buf : Bytes} {size : Nat} (luns : List Nat) (fits : size + 8 + 8 * luns.length ≤ buf.length) :
    (writeLuns buf size luns).length = buf.length := by
  induction luns generalizing buf size with
  | nil => rfl
  | cons lun luns ih =>
    rw [List.length_cons] at fits
    have written : (setBytes buf (size + 8 + 7) [UInt8.ofNat lun]).length = buf.length :=
      setBytesLength (by simp; omega)
    rw [writeLuns,ih (by rw [written]; omega),written]

/- The entries start at byte 8, and only their last bytes are written. -/
theorem writeLunsOther {buf : Bytes} {size k : Nat} (luns : List Nat)
    (other : ∀ j < luns.length, k ≠ size + 15 + 8 * j) : byteAt (writeLuns buf size luns) k = byteAt buf k := by
  induction luns generalizing buf size with
  | nil => rfl
  | cons lun luns ih =>
    rw [List.length_cons] at other
    rw [writeLuns,ih fun j less => ?_]
    · have first := other 0 (by omega)
      exact byteAtOther (by simp; omega)
    · have next := other (j+1) (by omega)
      omega

theorem writeLunsOwn {buf : Bytes} {size j : Nat} (luns : List Nat) (inside : j < luns.length) : byteAt (writeLuns buf size luns) (size + 15 + 8 * j) = luns[j] % 256 := by
  induction luns generalizing buf size j with
  | nil => cases inside
  | cons lun luns ih =>
    rw [List.length_cons] at inside
    rw [writeLuns]
    cases j with
    | zero =>
      rw [writeLunsOther luns (by omega),byteAtSetBytes,if_pos (by simp)]
      simp [byteAt]
    | succ j =>
      have place : size + 15 + 8 * (j+1) = size + 8 + 15 + 8 * j := by omega
      rw [place,ih (by omega)]
      rfl

def listed (buf : Bytes) (luns : List Nat) : Bytes :=
  setInt16 (writeLuns (setBytes buf 0 (List.replicate 512 0)) 0 luns) 2 (luns.length * 8)

variable {buf : Bytes} {luns : List Nat}

theorem clearedZero {k : Nat} (front : k < 512) : byteAt (setBytes buf 0 (List.replicate 512 0)) k = 0 := by
  rw [byteAtFront (by rwa [List.length_replicate]),byteAtZeros]

theorem clearedLength (room : 512 ≤ buf.length) : (setBytes buf 0 (List.replicate 512 0)).length = buf.length :=
  setBytesLength (by rwa [List.length_replicate,Nat.zero_add])

theorem writtenLength (room : 512 ≤ buf.length) (few : luns.length ≤ 32) :
    (writeLuns (setBytes buf 0 (List.replicate 512 0)) 0 luns).length = buf.length := by
  have length := clearedLength room
  exact (writeLunsLength luns (by omega)).trans length

theorem listedCount :
    byteAt (listed buf luns) 2 = luns.length * 8 / 256 % 256 ∧ byteAt (listed buf luns) 3 = luns.length * 8 % 256 := by
  have count {i : Nat} (inside : i < 2) : byteAt (listed buf luns) (2+i) = luns.length * 8 / 256^(2-1-i) % 256 :=
    byteAtField inside _
  have high := count (show 0 < 2 by decide)
  have low := count (show 1 < 2 by decide)
  exact ⟨high,low.trans (by rw [Nat.pow_zero,Nat.div_one])⟩

theorem getInt64Low {a : Nat} (zero : ∀ k < 7, byteAt buf (a+k) = 0) : getInt64 buf a = byteAt buf (a+7) := by
  have zero0 := zero 0 (by decide)
  have zero1 := zero 1 (by decide)
  have zero2 := zero 2 (by decide)
  have zero3 := zero 3 (by decide)
  have zero4 := zero 4 (by decide)
  have zero5 := zero 5 (by decide)
  have zero6 := zero 6 (by decide)
  rw [Nat.add_zero] at zero0
  simp only [getInt64,getInt32,getInt16,Nat.add_assoc,Nat.reduceAdd,zero0,zero1,zero2,zero3,zero4,zero5,zero6]
  omega

theorem listedEntry (few : luns.length ≤ 32) (small : ∀ lun ∈ luns, lun < 32) {k : Nat}
    (inside : k < luns.length) : getInt64 (listed buf luns) (8 + 8 * k) = luns[k] := by
  have behind : ∀ j, 4 ≤ j → byteAt (listed buf luns) j =
      byteAt (writeLuns (setBytes buf 0 (List.replicate 512 0)) 0 luns) j :=
    fun j later => byteAtOther (by rw [bigEndianLength]; omega)
  rw [getInt64Low fun j less => ?_]
  · have place : 8 + 8 * k + 7 = 0 + 15 + 8 * k := by omega
    have lun := small _ (List.getElem_mem inside)
    rw [behind _ (by omega),place,writeLunsOwn luns inside,Nat.mod_eq_of_lt (by omega)]
  · rw [behind _ (by omega),writeLunsOther luns (by omega),clearedZero (by omega)]

/-! What the initiator reads. -/

theorem memCollect {data : Bytes} {count offset lun : Nat} {found : Finset Nat} :
    lun ∈ collectLuns data count offset found ↔
      lun ∈ found ∨ lun < 32 ∧ ∃ k < count, offset + 8 * k + 8 < data.length ∧ getInt64 data (offset + 8 * k) = lun := by
  induction count generalizing offset found with
  | zero => simp [collectLuns]
  | succ count ih =>
    have shifted : ∀ k, offset + 8 + 8 * k = offset + 8 * (k+1) := fun k => by omega
    unfold collectLuns
    split
    · next room =>
      rw [ih]
      constructor
      · rintro (member | ⟨valid,k,less,inside,same⟩)
        · by_cases valid : getInt64 data offset < 32
          · rw [if_pos valid,Finset.mem_insert] at member
            rcases member with rfl | before
            · exact .inr ⟨valid,0,by omega,by omega,rfl⟩
            · exact .inl before
          · rw [if_neg valid] at member
            exact .inl member
        · rw [shifted] at inside same
          exact .inr ⟨valid,k+1,by omega,inside,same⟩
      · rintro (before | ⟨valid,k,less,inside,same⟩)
        · refine .inl ?_
          split
          · exact Finset.mem_insert_of_mem before
          · exact before
        · cases k with
          | zero =>
            rw [Nat.mul_zero,Nat.add_zero] at same
            rw [same,if_pos valid]
            exact .inl (Finset.mem_insert_self _ _)
          | succ k =>
            rw [← shifted] at inside same
            exact .inr ⟨valid,k,by omega,inside,same⟩
    · next full =>
      refine ⟨.inl,?_⟩
      rintro (before | ⟨_,k,_,inside,_⟩)
      · exact before
      · omega

/- The buffer of the initiator is filled with zeros, and the data come in front of them. -/
def answered (data : Bytes) : Bytes := setBytes (List.replicate 512 0) 0 data

theorem answeredFront {data : Bytes} {k : Nat} (inside : k < data.length) : byteAt (answered data) k = byteAt data k :=
  byteAtFront inside

theorem answeredBehind {data : Bytes} {k : Nat} (behind : data.length ≤ k) :
    byteAt (answered data) k = 0 := by
  unfold answered
  rw [byteAtOther (by omega),byteAtZeros]

theorem answeredLength {data : Bytes} (fits : data.length ≤ 512) : (answered data).length = 512 := by
  unfold answered
  rw [setBytesLength (by rw [List.length_replicate]; omega),List.length_replicate]

/- What the target sends. -/
def reported (buf : Bytes) (luns : List Nat) : Bytes := (listed buf luns).take (luns.length * 8 + 8)

theorem listedLength (room : 512 ≤ buf.length) (few : luns.length ≤ 32) : (listed buf luns).length = buf.length := by
  have written := writtenLength room few
  exact (setBytesLength (by rw [bigEndianLength,written]; omega)).trans written

theorem reportedLength (room : 512 ≤ buf.length) (few : luns.length ≤ 32) :
    (reported buf luns).length = luns.length * 8 + 8 := by
  have whole := listedLength room few
  unfold reported
  rw [List.length_take,whole]
  omega

/- The high byte counts only with 32 LUNs, and then too much. -/
theorem lunCountReported (room : 512 ≤ buf.length) (few : luns.length ≤ 32) :
    lunCount (answered (reported buf luns)) = if luns.length = 32 then 256 else luns.length := by
  have length := reportedLength room few
  have front : ∀ k < 4, byteAt (answered (reported buf luns)) k = byteAt (listed buf luns) k := by
    intro k less
    rw [answeredFront (by omega),reported,byteAtTake (by omega)]
  obtain ⟨high,low⟩ := @listedCount buf luns
  unfold lunCount
  rw [front 2 (by decide),front 3 (by decide),high,low]
  split
  · next all =>
    rw [all]
    rfl
  · next fewer =>
    have none : luns.length * 8 / 256 % 256 = 0 := by omega
    have own : luns.length * 8 % 256 / 8 = luns.length := by omega
    rw [none,own,Nat.zero_mul,Nat.zero_or]

theorem getInt64Front {data : Bytes} {a : Nat} (inside : a + 8 ≤ data.length) :
    getInt64 (answered data) a = getInt64 data a := by
  simp (disch := omega) only [getInt64,getInt32,getInt16,answeredFront]

theorem entryFound (room : 512 ≤ buf.length) (few : luns.length ≤ 32) (small : ∀ lun ∈ luns, lun < 32) {k : Nat}
    (inside : k < luns.length) : getInt64 (answered (reported buf luns)) (8 + 8 * k) = luns[k] := by
  have length := reportedLength room few
  rw [getInt64Front (by omega),reported,getInt64Take (by omega),listedEntry few small inside]

/- Behind the entries there is nothing but LUN 0. -/
theorem zeroFound (room : 512 ≤ buf.length) (few : luns.length ≤ 32) {k : Nat} (behind : luns.length ≤ k) :
    getInt64 (answered (reported buf luns)) (8 + 8 * k) = 0 := by
  have length := reportedLength room few
  have zero : ∀ j, 8 + 8 * k ≤ j → byteAt (answered (reported buf luns)) j = 0 :=
    fun j later => answeredBehind (by omega)
  rw [getInt64Low fun j _ => zero _ (by omega),zero _ (by omega)]

theorem reportedFound (room : 512 ≤ buf.length) (few : luns.length ≤ 32) (small : ∀ lun ∈ luns, lun < 32)
    (zero : 0 ∈ luns) : collectLuns (answered (reported buf luns)) (lunCount (answered (reported buf luns))) 8 ∅ =
      luns.toFinset := by
  have length := reportedLength room few
  have whole : (answered (reported buf luns)).length = 512 := answeredLength (by omega)
  have count := lunCountReported room few
  ext lun
  rw [memCollect,List.mem_toFinset,whole]
  constructor
  · rintro (none | ⟨_,k,less,inside,rfl⟩)
    · simp at none
    · by_cases entry : k < luns.length
      · rw [entryFound room few small entry]
        exact List.getElem_mem entry
      · rw [zeroFound room few (by omega)]
        exact zero
  · intro member
    obtain ⟨k,inside,rfl⟩ := List.getElem_of_mem member
    refine .inr ⟨small _ member,k,?_,by omega,entryFound room few small inside⟩
    rw [count]
    split <;> omega

/-! The handler, for a device of any class but that of the SG driver. -/

theorem attachedFew (r : Request) : (attachedLuns r).length ≤ 32 := by
  refine Nat.le_trans (List.length_filter_le _ _) ?_
  rw [List.length_range]

theorem reportLunsRan {r : Request} {s : HandlerState PrimaryDevice} (mode : r.cdbByte 2 = 0) (asked : r.cdbInt32 6 = 512)
    (room : 512 ≤ s.transfer.buffer.length) : PrimaryDevice.reportLuns r s =
      (.ok (.dataIn ((attachedLuns r).length * 8 + 8 : Nat)),
        { s with transfer := { s.transfer with buffer := listed s.transfer.buffer (attachedLuns r) } }) := by
  have few := attachedFew r
  have size : min ((512 : Nat) : Int) (((attachedLuns r).length * 8 : Nat) + 8) =
      ((attachedLuns r).length * 8 + 8 : Nat) := by omega
  refine ranOk ?_
  unfold PrimaryDevice.reportLuns
  simp only [wpBind,wpGetRequest,wpIte,wpThrow,wpSetBuffer,wpPure,asked,Nat.min_eq_right room]
  refine ⟨fun wrong => wrong mode,fun _ => ⟨?_,rfl⟩⟩
  rw [size,int32Fits (by omega) (by omega)]

variable {r : Request} {t : Transfer} {w : World}

theorem storageRan {δ : Type} [Derives δ StorageDevice] {commands : List (ScsiCommand × Handler δ PhaseCall)}
    {cmd : ScsiCommand} {h : Handler δ PhaseCall} (found : commands.lookup cmd = some h) {s : HandlerState δ}
    (unchanged : (base s.device : StorageDevice).mediumChanged = false) :
    StorageDevice.dispatch commands cmd r s = h r s := by
  unfold StorageDevice.dispatch Handler.dispatch
  rw [found]
  refine bindOk (a := ()) (ranOk ?_)
  unfold StorageDevice.reportMediumChange
  simp only [wpSuper,wpBind,wpGetDevice,wpIte,wpModifyDevice,wpThrow,wpPure]
  refine ⟨fun changed => ?_,fun _ => ⟨trivial,?_⟩⟩
  · exact absurd (changed.2.2.symm.trans unchanged) (by decide)
  · rw [setBaseSelf]

theorem storageReports {δ : Type} [Derives δ StorageDevice] [Derives δ PrimaryDevice] {put : δ → AnyDevice}
    {commands : List (ScsiCommand × Handler δ PhaseCall)}
    (found : commands.lookup .reportLuns = some (super PrimaryDevice.reportLuns)) {d : δ}
    (unchanged : (base d : StorageDevice).mediumChanged = false) (mode : r.cdbByte 2 = 0) (asked : r.cdbInt32 6 = 512)
    (room : 512 ≤ t.buffer.length) {s : HandlerState AnyDevice} (same : s.transfer = t) (world : s.world = w) :
    AnyDevice.within put (StorageDevice.dispatch commands .reportLuns) d r s =
      (.ok (.dataIn ((attachedLuns r).length * 8 + 8 : Nat)),⟨put d,{ t with buffer := listed t.buffer (attachedLuns r) },w⟩) := by
  subst same world
  rw [AnyDevice.withinRan ((storageRan found unchanged).trans (superRan (reportLunsRan mode asked room))),setBaseSelf]

theorem peripheralReports {δ : Type} [Derives δ PrimaryDevice] {put : δ → AnyDevice}
    (commands : List (ScsiCommand × Handler δ PhaseCall))
    (found : commands.lookup .reportLuns = some (super PrimaryDevice.reportLuns)) {d : δ} (mode : r.cdbByte 2 = 0)
    (asked : r.cdbInt32 6 = 512) (room : 512 ≤ t.buffer.length) {s : HandlerState AnyDevice} (same : s.transfer = t)
    (world : s.world = w) : AnyDevice.within put (Handler.dispatch commands .reportLuns) d r s =
      (.ok (.dataIn ((attachedLuns r).length * 8 + 8 : Nat)),⟨put d,{ t with buffer := listed t.buffer (attachedLuns r) },w⟩) := by
  subst same world
  unfold Handler.dispatch
  rw [found,AnyDevice.withinRan (superRan (reportLunsRan mode asked room)),setBaseSelf]

/- Does the device answer, and not the SG driver? -/
theorem dispatchReports {dev : AnyDevice} (own : ∀ g, dev ≠ .scsiGeneric g)
    (unchanged : ∀ d, dev.storage = some d → d.mediumChanged = false) (mode : r.cdbByte 2 = 0) (asked : r.cdbInt32 6 = 512)
    (room : 512 ≤ t.buffer.length) : AnyDevice.methods.dispatch .reportLuns r ⟨dev,t,w⟩ =
      (.ok (.dataIn ((attachedLuns r).length * 8 + 8 : Nat)),⟨dev,{ t with buffer := listed t.buffer (attachedLuns r) },w⟩) := by
  cases dev with
  | scsiHd d => exact storageReports rfl (unchanged _ rfl) mode asked room rfl rfl
  | sasiHd d => exact storageReports rfl (unchanged _ rfl) mode asked room rfl rfl
  | opticalMemory d => exact storageReports rfl (unchanged _ rfl) mode asked room rfl rfl
  | scsiCd d => exact storageReports rfl (unchanged _ rfl) mode asked room rfl rfl
  | tape d => exact storageReports rfl (unchanged _ rfl) mode asked room rfl rfl
  | printer d => exact peripheralReports Printer.commands rfl mode asked room rfl rfl
  | daynaPort d => exact peripheralReports DaynaPort.commands rfl mode asked room rfl rfl
  | hostServices d => exact peripheralReports HostServices.commands rfl mode asked room rfl rfl
  | scsiGeneric g => exact absurd rfl (own g)

theorem storageRefuses {δ : Type} [Derives δ StorageDevice] {put : δ → AnyDevice}
    {commands : List (ScsiCommand × Handler δ PhaseCall)} {d : δ} (changed : (base d : StorageDevice).mediumChanged = true)
    (s : HandlerState AnyDevice) : ∃ u, AnyDevice.within put (StorageDevice.dispatch commands .reportLuns) d r s =
      (.error ⟨.unitAttention,.notReadyToReadyChange⟩,u) := by
  have refuses : StorageDevice.dispatch commands .reportLuns r ⟨d,s.transfer,s.world⟩ =
      (.error ⟨.unitAttention,.notReadyToReadyChange⟩,
        ⟨setBase d ({ (base d : StorageDevice) with mediumChanged := false } : StorageDevice),s.transfer,s.world⟩) := by
    refine bindError (ranError ?_)
    unfold StorageDevice.reportMediumChange
    simp only [wpSuper,wpBind,wpGetDevice,wpIte,wpModifyDevice,wpThrow,wpPure]
    exact ⟨fun _ => ⟨trivial,trivial⟩,fun same => same ⟨by decide,by decide,changed⟩⟩
  exact ⟨_,AnyDevice.withinRan refuses⟩

/- A medium change is reported instead. -/
theorem dispatchRefuses {dev : AnyDevice} {d : StorageDevice} (storage : dev.storage = some d)
    (changed : d.mediumChanged = true) : ∃ u, AnyDevice.methods.dispatch .reportLuns r ⟨dev,t,w⟩ =
      (.error ⟨.unitAttention,.notReadyToReadyChange⟩,u) := by
  cases dev with
  | scsiHd _ | sasiHd _ | opticalMemory _ | scsiCd _ | tape _ =>
    cases storage
    exact storageRefuses changed _
  | _ => cases storage

/-! Initiator and target together. -/

def reportCdb : Bytes := [0xa0,0,0,0,0,0,0,0,2,0,0,0]

theorem lunInCdb : encodeLun {} ((setInt16 (S2pDumpExecutor.newCdb 12 .reportLuns) 8 512).set 0 ScsiCommand.reportLuns) = reportCdb := by
  decide

theorem reportLunsAnswered {τ : Type} {target : Target τ} {s : DumpState τ} {a : Answer} {after : τ}
    (answer : target s.target reportCdb (List.replicate 512 0) = (a,after)) (fits : a.dataIn.length ≤ 512) (none : a.taken = 0) :
    S2pDumpExecutor.reportLuns {} target s =
      (.ok (if a.status ≠ 0 then Finset.range 8 else collectLuns (answered a.dataIn) (lunCount (answered a.dataIn)) 8 ∅),
        { s with target := after, sent := s.sent ++ [reportCdb] }) := by
  have whole : (List.replicate 512 (0 : UInt8)).length = 512 := List.length_replicate
  have offered : (List.replicate 512 (0 : UInt8)).take 512 = List.replicate 512 0 := by
    rw [List.take_of_length_le (Nat.le_of_eq whole)]
  have executed := BoardTarget.executeAnswered (i := {}) (s := s) .reportLuns
    (setInt16 (S2pDumpExecutor.newCdb 12 .reportLuns) 8 512) (Nat.le_of_eq whole.symm) (by rw [lunInCdb,offered]; exact answer) fits none
  unfold S2pDumpExecutor.reportLuns BoardExecutor.reportLuns
  rw [whole,bindOk executed,lunInCdb]
  dsimp only
  split <;> rfl

theorem single : BoardTarget.Single reportCdb := ⟨by decide,by decide,by decide,by decide⟩

/- Nothing is reported instead of the list. -/
def accepts (dev : AnyDevice) (initiator : Int) : Bool :=
  dev.storage.all (fun d => !d.mediumChanged) &&
    (dev.primary.reservingInitiator = notReserved || dev.primary.reservingInitiator = initiator)

variable {dev : AnyDevice} {c p : Controller AnyDevice} {env : Env}

theorem freshStorage {d : StorageDevice} (storage : (BoardTarget.fresh dev).storage = some d) :
    ∃ e, dev.storage = some e ∧ d.mediumChanged = e.mediumChanged := by
  obtain ⟨e,found,rfl⟩ := Option.map_eq_some_iff.mp ((AllocationLength.storageSensed dev).symm.trans storage)
  exact ⟨e,found,rfl⟩

theorem reportNotExempt (prepared : BoardTarget.Prepared {} reportCdb dev c p) : reservationExempt (p.request env) = false := by
  have op : (p.request env).opcode = ScsiCommand.reportLuns := prepared.opcode
  unfold reservationExempt
  rw [op]
  rfl

theorem preparedMode (prepared : BoardTarget.Prepared {} reportCdb dev c p) : (p.request env).cdbByte 2 = 0 :=
  prepared.cdb 2 (by decide)

theorem preparedAsked (prepared : BoardTarget.Prepared {} reportCdb dev c p) : (p.request env).cdbInt32 6 = 512 := by
  change getInt32 p.cdb 6 = 512
  have bytes := prepared.cdb
  simp only [getInt32,getInt16]
  rw [bytes 6 (by decide),bytes 7 (by decide),bytes 8 (by decide),bytes 9 (by decide)]
  rfl

theorem preparedLuns (env : Env) {luns : Finset Nat} (prepared : BoardTarget.Prepared {} reportCdb dev c p)
    (attached : ∀ lun, (c.luns lun).isSome = true ↔ lun ∈ luns) (limit : ∀ lun ∈ luns, lun < 32) (zero : 0 ∈ luns) :
    (attachedLuns (p.request env)).toFinset = luns := by
  have present : ∀ lun, (p.request env).hasLun lun = true ↔ lun ∈ luns := by
    intro lun
    change (p.luns lun).isSome = true ↔ _
    rw [prepared.luns]
    by_cases first : lun = 0
    · rw [first]
      exact ⟨fun _ => zero,fun _ => by rw [Function.update_self]; rfl⟩
    · rw [Function.update_of_ne first]
      exact attached lun
  ext lun
  rw [List.mem_toFinset]
  unfold attachedLuns
  rw [List.mem_filter,List.mem_range,present]
  exact ⟨And.right,fun member => ⟨limit lun member,member⟩⟩

end LunDiscovery
open LunDiscovery PrimaryDevice

/- The LUNs that s2pdump finds are those of the controller, unless LUN 0 reports something else. -/
theorem lunsFound {dev : AnyDevice} {luns : Finset Nat} {env : Env} {steps ids : Nat} {s : DumpState (Controller AnyDevice)}
    (idle : BoardTarget.Idle s.target) (room : 512 ≤ s.target.transfer.buffer.length)
    (attached : ∀ lun, (s.target.luns lun).isSome = true ↔ lun ∈ luns) (limit : ∀ lun ∈ luns, lun < 32)
    (zero : s.target.luns 0 = some dev) (own : ∀ g, dev ≠ .scsiGeneric g) :
    ∃ t, S2pDumpExecutor.reportLuns {} (BoardTarget.target {} env (steps+10) ids) s =
      (.ok (if accepts dev (initiatorOf ids s.target.targetId) then luns else Finset.range 8),t) := by
  let x : BoardTarget.Exchange := ⟨{},env,reportCdb,List.replicate 512 0,s.target.trace.length⟩
  have member : 0 ∈ luns := (attached 0).mp (by rw [zero]; rfl)
  obtain ⟨p,prepared,answered⟩ := BoardTarget.answers (x := x) steps ids idle (by change 0 < 32; decide) (by omega) single
    zero rfl
  have found := preparedLuns env prepared attached limit member
  have space : 512 ≤ p.transfer.buffer.length := Nat.le_trans room prepared.buffer.grows
  have reservation := BoardTarget.freshReservation env prepared (reportNotExempt prepared)
  have opcode : p.opcode = ScsiCommand.reportLuns := prepared.opcode
  unfold accepts
  cases free : (dev.primary.reservingInitiator = notReserved ||
      dev.primary.reservingInitiator = initiatorOf ids s.target.targetId : Bool) with
  | false =>
    obtain ⟨d,answer⟩ := answered.refused (reservation.trans free)
    have ran := reportLunsAnswered (s := s) answer (by decide) rfl
    rw [Bool.and_false,if_neg Bool.false_ne_true]
    rw [if_pos (by decide)] at ran
    exact ⟨_,ran⟩
  | true =>
    rw [Bool.and_true]
    have allowed := reservation.trans free
    by_cases changed : ∃ d, dev.storage = some d ∧ d.mediumChanged = true
    · obtain ⟨d,storage,changed⟩ := changed
      have pending : ∃ e, (BoardTarget.fresh dev).storage = some e ∧ e.mediumChanged = true :=
        ⟨_,(AllocationLength.storageSensed dev).trans (congrArg _ storage),changed⟩
      obtain ⟨e,here,waiting⟩ := pending
      obtain ⟨u,ran⟩ := dispatchRefuses (r := p.request env) (t := p.transfer) (w := p.world) here waiting
      obtain ⟨d,answer⟩ := answered.failed allowed _ u (by rw [opcode]; exact ran)
      have ran := reportLunsAnswered (s := s) answer (by decide) rfl
      rw [if_pos (by decide)] at ran
      rw [storage,Option.all_some,changed,if_neg (by decide)]
      exact ⟨_,ran⟩
    · have unchanged : ∀ d, (BoardTarget.fresh dev).storage = some d → d.mediumChanged = false := by
        intro d storage
        obtain ⟨e,found,same⟩ := freshStorage storage
        rw [same]
        exact Bool.eq_false_iff.mpr fun wrong => changed ⟨e,found,wrong⟩
      have emulated : ∀ g, BoardTarget.fresh dev ≠ .scsiGeneric g := by
        intro g wrong
        cases dev with
        | scsiGeneric g => exact own g rfl
        | _ => cases wrong
      have ran := dispatchReports (r := p.request env) (t := p.transfer) (w := p.world) emulated unchanged
        (preparedMode prepared) (preparedAsked prepared) space
      have few := attachedFew (p.request env)
      obtain ⟨d,_,_,_,_,answer⟩ := answered.dataIn allowed _ _ (by rw [opcode]; exact ran) prepared.remaining prepared.chunk
        prepared.status (by rw [listedLength space few]; omega)
      have short : (reported p.transfer.buffer (attachedLuns (p.request env))).length ≤ 512 := by
        rw [reportedLength space few]
        omega
      have small : ∀ lun ∈ attachedLuns (p.request env), lun < 32 :=
        fun lun member => limit lun (by rw [← found]; exact List.mem_toFinset.mpr member)
      have first : 0 ∈ attachedLuns (p.request env) := by
        rw [← found] at member
        exact List.mem_toFinset.mp member
      have ran := reportLunsAnswered (s := s) answer short rfl
      have read := reportedFound space few small first
      rw [found] at read
      rw [if_neg fun wrong => wrong rfl] at ran
      have quiet : dev.storage.all (fun d => !d.mediumChanged) = true := by
        cases storage : dev.storage with
        | none => rfl
        | some d =>
          have none := Bool.eq_false_iff.mpr fun wrong => changed ⟨d,storage,wrong⟩
          rw [Option.all_some,none]
          rfl
      rw [if_pos quiet,← read]
      exact ⟨_,ran⟩

namespace LunDiscovery

def drive (mediumChanged : Bool) : AnyDevice :=
  .scsiHd { type := .scrm, removable := true, mediumChanged, supportedBlockSizes := [512], cachingMode := .piscsi }

/- Two LUNs, and their opposite: a drive that has been loaded again. -/
def twoLuns : Controller AnyDevice := { luns := fun lun => if lun ∈ [0,5] then some (drive false) else none }

def changedMedium : Controller AnyDevice := { luns := fun lun => if lun = 0 then some (drive true) else none }

theorem twoLunsFound : ∃ t, S2pDumpExecutor.reportLuns {} (BoardTarget.target {} {} (0+10) 129) { target := twoLuns } =
    (.ok (if accepts (drive false) (initiatorOf 129 0) then {0,5} else Finset.range 8),t) := by
  have room : 512 ≤ twoLuns.transfer.buffer.length := by
    change 512 ≤ (List.replicate 512 (0 : UInt8)).length
    rw [List.length_replicate]
  have attached : ∀ lun, (twoLuns.luns lun).isSome = true ↔ lun ∈ ({0,5} : Finset Nat) := by
    intro lun
    change (if lun ∈ [0,5] then some (drive false) else none).isSome = true ↔ _
    split <;> simp_all
  exact lunsFound ⟨rfl,rfl,rfl,rfl⟩ room attached (by decide) rfl fun g wrong => by cases wrong

/- The medium change is reported, and s2pdump takes the command for unknown. -/
theorem changedMediumFound : (∀ lun, (changedMedium.luns lun).isSome = true ↔ lun ∈ ({0} : Finset Nat)) ∧
    (S2pDumpExecutor.reportLuns {} (BoardTarget.target {} {} 10 129) { target := changedMedium }).1.toOption =
      some (Finset.range 8) ∧ Finset.range 8 ≠ {0} := by
  refine ⟨fun lun => ?_,by decide +kernel,by decide⟩
  change (if lun = 0 then some (drive true) else none).isSome = true ↔ _
  split <;> simp_all

end LunDiscovery
end Scsi2Pi
