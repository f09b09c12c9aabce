import Scsi2Pi.AnyDevice
import Scsi2Pi.DiskContract
import Scsi2Pi.PeripheralContract
import Scsi2Pi.TapeContract
import Scsi2Pi.TransferBudget
import Scsi2Pi.UnitContract

/-! The number of DATA IN bytes of a command and the allocation length of its CDB.
MODE SENSE without pages, the SASI versions of INQUIRY and REQUEST SENSE and the
sense data of the controller itself have a length of their own. -/
namespace Scsi2Pi.AllocationLength
open Slices MemoryUtil Handler Derives Eff Controller TransferBudget

def opcode (cdb : Bytes) : ScsiCommand := cdb.getD 0 0

/- The commands with an allocation length, and where their CDB has it. READ CAPACITY(16)
shares its opcode with a command that has a transfer length. -/
def allocationField (cmd : ScsiCommand) (cdb : Bytes) : Option Nat :=
  if cmd = .inquiry then some (getInt16 cdb 3)
  else if cmd = .requestSense ∨ cmd = .modeSense6 then some (byteAt cdb 4)
  else if cmd = .reportLuns ∨ cmd = .readDefectData12 then some (getInt32 cdb 6)
  else if cmd = .readCapacityReadLong16 then
    if byteAt cdb 1 &&& 0x1f = 0x10 then some (getInt32 cdb 10) else none
  else if cmd = .modeSense10 ∨ cmd = .readToc ∨ cmd = .readDefectData10 ∨ cmd = .readFormatCapacities ∨
      cmd = .receiveOperationResults then some (getInt16 cdb 7)
  else none

def allocationLength (cdb : Bytes) : Option Nat := allocationField (opcode cdb) cdb

def hasAllocationLength (cmd : ScsiCommand) : Bool :=
  cmd = .inquiry || cmd = .requestSense || cmd = .modeSense6 || cmd = .reportLuns || cmd = .readDefectData12 ||
    cmd = .readCapacityReadLong16 || cmd = .modeSense10 || cmd = .readToc || cmd = .readDefectData10 ||
    cmd = .readFormatCapacities || cmd = .receiveOperationResults

/- The devices for which an allocation length of 0 in REQUEST SENSE means 4. -/
def isSasi : AnyDevice → Bool
  | .sasiHd _ => true
  | _ => false

def zeroMeansFour (d : AnyDevice) : Bool := isSasi d || d.primary.level = .scsi1Ccs

def limit (d : AnyDevice) (cdb : Bytes) : Option Nat :=
  (allocationLength cdb).map fun n =>
    if opcode cdb = .requestSense ∧ n = 0 ∧ zeroMeansFour d then 4 else n

/-! What exceeds the limit. -/

/- The length of the header of MODE SENSE, with the block descriptor. -/
def headerLength (cdb : Bytes) (s : StorageDevice) : Nat :=
  let descriptor := byteAt cdb 1 &&& 0x08 = 0 ∧ s.ready
  if opcode cdb = .modeSense6 then (if descriptor then 12 else 4)
  else if descriptor then (if byteAt cdb 1 &&& 0x10 ≠ 0 then 24 else 16) else 8

/- Page code 0 asks for no page, but the header is sent completely. -/
def HeaderOverruns (cdb : Bytes) (s : StorageDevice) : Prop :=
  (opcode cdb = .modeSense6 ∨ opcode cdb = .modeSense10) ∧
    byteAt cdb 3 = 0 ∧ byteAt cdb 2 &&& 0x3f = 0 ∧ (allocationLength cdb).getD 0 < headerLength cdb s

def SasiOverruns (cdb : Bytes) : Prop :=
  opcode cdb = .inquiry ∧ getInt16 cdb 3 < 2 ∨
    opcode cdb = .requestSense ∧ byteAt cdb 4 ≠ 0 ∧ byteAt cdb 4 < 4

/- A device that is given the command sends too much. -/
def Overruns (cdb : Bytes) (d : AnyDevice) : Prop :=
  (∃ s, d.storage = some s ∧ s.mediumChanged = false ∧ HeaderOverruns cdb s) ∨ isSasi d = true ∧ SasiOverruns cdb

/-! What the handlers send. -/

/- A single chunk with at most so many bytes. -/
def AtMost (n : Nat) {δ : Type} (call : PhaseCall) (t : HandlerState δ) : Prop :=
  LastChunk t.transfer ∧ ∀ count, Hands call count → count.toNat ≤ n

section
variable {δ : Type} {r : Request} {s : HandlerState δ} {n : Nat}

theorem atMostStatus (last : LastChunk s.transfer) : AtMost n .status s :=
  ⟨last,fun _ hands => by rcases hands with h | h <;> cases h⟩

theorem atMostDataIn {count : Int} (last : LastChunk s.transfer) (fits : count.toNat ≤ n) : AtMost n (.dataIn count) s :=
  ⟨last,fun _ hands => by rcases hands with h | h <;> cases h; exact fits⟩

theorem atMostEither {count : Int} {found : Bool} (last : LastChunk s.transfer) (fits : count.toNat ≤ n) :
    AtMost n (if found = true then .dataIn count else .errorThenDataIn count) s := by
  refine ⟨last,fun _ hands => ?_⟩
  cases found <;> rcases hands with h | h <;> cases h <;> exact fits

theorem inquiryAtMost {inquiryInternal : Handler δ Bytes} (last : LastChunk s.transfer)
    (calm : wp inquiryInternal r s (fun _ t => t.transfer = s.transfer) (fun _ _ => True)) :
    wp (PrimaryDevice.inquiry inquiryInternal) r s (AtMost (r.cdbInt16 3)) (fun _ _ => True) := by
  unfold PrimaryDevice.inquiry
  simp only [wpBind,wpGetRequest,wpIte,wpThrow,wpPure,implies_true,true_and]
  refine fun _ => wpMono calm (fun buf t same => ?_) (fun _ _ _ => trivial)
  have kept : LastChunk (t.transfer.copyToBuffer (buf.take (min buf.length (r.cdbInt16 3)))) := by
    rw [same]
    exact last
  simp only [wpCopyToBuffer,wpSetBuffer]
  refine ⟨fun _ => atMostDataIn kept ?_,fun _ => atMostDataIn kept ?_⟩
  · rw [Int.toNat_natCast]
    exact Nat.min_le_right _ _
  · rw [Int.toNat_natCast]
    exact Nat.min_le_right _ _

end

theorem reportLunsAtMost {r : Request} {s : HandlerState PrimaryDevice} (last : LastChunk s.transfer) :
    wp PrimaryDevice.reportLuns r s (AtMost (r.cdbInt32 6)) (fun _ _ => True) := by
  unfold PrimaryDevice.reportLuns
  simp only [wpBind,wpGetRequest,wpIte,wpThrow,wpPure,wpSetBuffer,implies_true,true_and]
  refine fun _ => atMostDataIn last ?_
  have few : (PrimaryDevice.attachedLuns r).length ≤ 32 := by
    rw [← List.length_range (n := 32)]
    exact List.length_filter_le _ _
  rw [int32Fits (by omega) (by omega)]
  omega

theorem requestSenseAtMost {r : Request} {s : HandlerState PrimaryDevice} (last : LastChunk s.transfer) :
    wp PrimaryDevice.requestSense r s
      (AtMost (if r.cdbByte 4 = 0 ∧ s.device.level = .scsi1Ccs then 4 else r.cdbByte 4)) (fun _ _ => True) := by
  unfold PrimaryDevice.requestSense PrimaryDevice.handleRequestSense PrimaryDevice.reportMissingLun
  simp only [wpBind,wpGetRequest,wpIte,wpThrow,wpPure,wpModifyDevice,wpModifyTransfer,wpGetDevice,wpCopyToBuffer,
    implies_true,true_and]
  intro _
  have fits : ∀ size length : Nat, ((min size length : Nat) : Int).toNat ≤ length := by
    intro size length
    rw [Int.toNat_natCast]
    exact Nat.min_le_right _ _
  refine ⟨fun _ _ => atMostEither ?_ (fits _ _),fun _ _ => atMostEither last (fits _ _)⟩
  exact ⟨Int.le_refl 1,Int.zero_le_ofNat 1⟩

/- The case of a missing LUN comes with a transfer of its own. -/
theorem requestSenseAccountable (r : Request) (s : HandlerState PrimaryDevice) :
    wp PrimaryDevice.requestSense r s (fun call t => ∀ count, call = .errorThenDataIn count → LastChunk t.transfer)
      (fun _ _ => True) := by
  unfold PrimaryDevice.requestSense PrimaryDevice.handleRequestSense PrimaryDevice.reportMissingLun
  simp only [wpBind,wpGetRequest,wpIte,wpThrow,wpPure,wpModifyDevice,wpModifyTransfer,wpGetDevice,wpCopyToBuffer,
    implies_true,true_and]
  refine fun _ => ⟨fun _ _ _ _ => ⟨Int.le_refl 1,Int.zero_le_ofNat 1⟩,fun found _ count wrong => ?_⟩
  have present : r.hasLun r.effectiveLun = true := by simpa using found
  rw [if_pos present] at wrong
  cases wrong

/-! Mode pages. -/

section
variable {δ : Type} {r : Request} {s : HandlerState δ}

variable [Derives δ StorageDevice]

/- How MODE SENSE ends: page code 0 gets the header, other ones what fits. -/
def Sensed (r : Request) (s : HandlerState δ) (allocation size : Nat) (t : HandlerState δ) : Prop :=
  (if r.cdbByte 2 &&& 0x3f = 0 then size = headerLength r.cdb (base s.device) else size ≤ allocation) ∧
    r.cdbByte 3 = 0 ∧ t.transfer.remainingLength = s.transfer.remainingLength ∧ t.transfer.chunkSize = s.transfer.chunkSize

def Rejected (r : Request) : Prop := r.cdbByte 3 ≠ 0 ∨ r.cdbByte 2 &&& 0x3f ≠ 0

theorem pagesSensed (v : PageHandler.Support δ) (offset maxSize allocation bytes : Nat) {t : HandlerState δ}
    (subpage : r.cdbByte 3 = 0) (pages : r.cdbByte 2 &&& 0x3f ≠ 0) (remaining : t.transfer.remainingLength = s.transfer.remainingLength)
    (chunk : t.transfer.chunkSize = s.transfer.chunkSize) :
    wp (PageHandler.addModePages v offset (min bytes allocation) maxSize) r t (Sensed r s allocation)
      (fun _ _ => Rejected r) := by
  have rejected : Rejected r := .inr pages
  unfold PageHandler.addModePages Sensed
  simp only [wpBind,wpGetRequest,wpGetDevice,wpIte,wpThrow,wpPure,wpSetBuffer,implies_true,true_and,and_true,
    if_neg pages,subpage,remaining,chunk,rejected]
  exact ⟨fun _ => Nat.min_le_right _ _,fun _ _ _ => Nat.le_trans (Nat.min_le_right _ _) (Nat.min_le_right _ _)⟩

theorem headerSensed {allocation size : Nat} (header : size = headerLength r.cdb (base s.device))
    (none : ¬r.cdbByte 2 &&& 0x3f ≠ 0) : if r.cdbByte 2 &&& 0x3f = 0 then size = headerLength r.cdb (base s.device)
      else size ≤ allocation := by
  rw [if_pos (not_not.mp none)]
  exact header

theorem modeSense6Sends (v : StorageDevice.Virtual δ) (cmd : r.opcode = .modeSense6) :
    wp (StorageDevice.modeSense6 v) r s (Sensed r s (r.cdbByte 4)) (fun _ _ => Rejected r) := by
  have header : (if r.cdbByte 1 &&& 0x08 = 0 ∧ (base s.device : StorageDevice).ready then 12 else 4) =
      headerLength r.cdb (base s.device) := by
    have op : opcode r.cdb = .modeSense6 := cmd
    simp only [headerLength,op,if_true]
    rfl
  unfold StorageDevice.modeSense6
  simp only [wpBind,wpGetRequest,wpGetDevice,wpGetTransfer,wpIte,wpThrow,wpPure,wpSetBuffer]
  refine ⟨fun subpage => .inl subpage,fun subpage => ?_⟩
  have whole : r.cdbByte 3 = 0 := not_not.mp subpage
  have paged : ∀ {t : HandlerState δ}, t.transfer.remainingLength = s.transfer.remainingLength →
      t.transfer.chunkSize = s.transfer.chunkSize → r.cdbByte 2 &&& 0x3f ≠ 0 →
      wp (PageHandler.addModePages (StorageDevice.support v)
        (if r.cdbByte 1 &&& 0x08 = 0 ∧ (base s.device : StorageDevice).ready then 12 else 4)
        (min s.transfer.buffer.length (r.cdbByte 4)) 255) r t (Sensed r s (r.cdbByte 4)) (fun _ _ => Rejected r) :=
    fun remaining chunk pages => pagesSensed _ _ _ _ _ whole pages remaining chunk
  exact ⟨fun _ => ⟨fun _ => ⟨paged rfl rfl,fun none => ⟨headerSensed header none,whole,rfl,rfl⟩⟩,
      fun _ => ⟨paged rfl rfl,fun none => ⟨headerSensed header none,whole,rfl,rfl⟩⟩⟩,
    fun _ => ⟨fun _ => ⟨paged rfl rfl,fun none => ⟨headerSensed header none,whole,rfl,rfl⟩⟩,
      fun _ => ⟨paged rfl rfl,fun none => ⟨headerSensed header none,whole,rfl,rfl⟩⟩⟩⟩

theorem modeSense10Sends (v : StorageDevice.Virtual δ) (cmd : r.opcode = .modeSense10) :
    wp (StorageDevice.modeSense10 v) r s (Sensed r s (r.cdbInt16 7)) (fun _ _ => Rejected r) := by
  have header : (if r.cdbByte 1 &&& 0x08 = 0 ∧ (base s.device : StorageDevice).ready then
      (if r.cdbByte 1 &&& 0x10 ≠ 0 then 24 else 16) else 8) = headerLength r.cdb (base s.device) := by
    have op : opcode r.cdb = .modeSense10 := cmd
    simp only [headerLength,op]
    rfl
  unfold StorageDevice.modeSense10
  simp only [wpBind,wpGetRequest,wpGetDevice,wpGetTransfer,wpIte,wpThrow,wpPure,wpSetBuffer]
  refine ⟨fun subpage => .inl subpage,fun subpage => ?_⟩
  have whole : r.cdbByte 3 = 0 := not_not.mp subpage
  have paged : ∀ {t : HandlerState δ}, t.transfer.remainingLength = s.transfer.remainingLength →
      t.transfer.chunkSize = s.transfer.chunkSize → r.cdbByte 2 &&& 0x3f ≠ 0 →
      wp (PageHandler.addModePages (StorageDevice.support v)
        (if r.cdbByte 1 &&& 0x08 = 0 ∧ (base s.device : StorageDevice).ready then
          (if r.cdbByte 1 &&& 0x10 ≠ 0 then 24 else 16) else 8)
        (min s.transfer.buffer.length (r.cdbInt16 7)) 65535) r t (Sensed r s (r.cdbInt16 7)) (fun _ _ => Rejected r) :=
    fun remaining chunk pages => pagesSensed _ _ _ _ _ whole pages remaining chunk
  exact ⟨fun _ => ⟨fun _ => ⟨paged rfl rfl,fun none => ⟨headerSensed header none,whole,rfl,rfl⟩⟩,
      fun _ => ⟨paged rfl rfl,fun none => ⟨headerSensed header none,whole,rfl,rfl⟩⟩⟩,
    fun _ => ⟨fun _ => ⟨paged rfl rfl,fun none => ⟨headerSensed header none,whole,rfl,rfl⟩⟩,
      fun _ => ⟨paged rfl rfl,fun none => ⟨headerSensed header none,whole,rfl,rfl⟩⟩⟩⟩

theorem sensedAtMost {allocation size : Nat} {t : HandlerState δ} (h : Sensed r s allocation size t)
    (last : LastChunk s.transfer) (asked : allocationLength r.cdb = some allocation)
    (cmd : r.opcode = .modeSense6 ∨ r.opcode = .modeSense10) (fits : ¬HeaderOverruns r.cdb (base s.device)) :
    AtMost allocation (.dataIn size) t := by
  obtain ⟨size_,subpage,remaining,chunk⟩ := h
  refine atMostDataIn (by rw [LastChunk,remaining,chunk]; exact last) ?_
  rw [Int.toNat_natCast]
  by_cases page : r.cdbByte 2 &&& 0x3f = 0
  · rw [if_pos page] at size_
    have covered : ¬allocation < headerLength r.cdb (base s.device) := by
      intro less
      refine fits ⟨cmd,subpage,page,?_⟩
      rw [asked]
      exact less
    omega
  · rw [if_neg page] at size_
    exact size_

end

/-! The other handlers. -/

theorem readCapacity16AtMost {r : Request} {s : HandlerState Disk} (last : LastChunk s.transfer) :
    wp Disk.readCapacity16 r s (AtMost (r.cdbInt32 10)) (fun _ _ => True) := by
  unfold Disk.readCapacity16 Disk.checkReady PrimaryDevice.checkReady
  simp only [wpBind,wpSuper,wpGetRequest,wpGetDevice,wpModifyDevice,wpIte,wpThrow,wpPure,wpSetBuffer,implies_true,
    true_and]
  refine fun _ _ _ _ => atMostDataIn last ?_
  rw [Int.toNat_natCast]
  exact Nat.min_le_right _ _

theorem readDefectData10AtMost {r : Request} {s : HandlerState Disk} (last : LastChunk s.transfer) :
    wp Disk.readDefectData10 r s (AtMost (r.cdbInt16 7)) (fun _ _ => True) := by
  unfold Disk.readDefectData10
  simp only [wpBind,wpGetRequest,wpPure,wpSetBuffer,wpSetCurrentLength]
  refine atMostDataIn last ?_
  rw [Int.toNat_natCast]
  exact Nat.min_le_left _ _

theorem readFormatCapacitiesAtMost {r : Request} {s : HandlerState Disk} (last : LastChunk s.transfer) :
    wp Disk.readFormatCapacities r s (AtMost (r.cdbInt16 7)) (fun _ _ => True) := by
  unfold Disk.readFormatCapacities Disk.checkReady PrimaryDevice.checkReady
  simp only [wpBind,wpSuper,wpGetRequest,wpGetDevice,wpModifyDevice,wpIte,wpThrow,wpPure,wpSetBuffer,implies_true,
    true_and]
  refine fun _ _ _ => atMostDataIn last ?_
  rw [Int.toNat_natCast]
  exact Nat.min_le_right _ _

theorem readTocAtMost {r : Request} {s : HandlerState ScsiCd} (last : LastChunk s.transfer) :
    wp ScsiCd.readToc r s (AtMost (r.cdbInt16 7)) (fun _ _ => True) := by
  unfold ScsiCd.readToc PrimaryDevice.checkReady
  simp only [wpBind,wpSuper,wpGetRequest,wpGetDevice,wpModifyDevice,wpIte,wpThrow,wpPure,wpSetBuffer,implies_true,
    true_and]
  refine fun _ _ _ _ _ => atMostDataIn last ?_
  rw [Int.toNat_natCast]
  exact Nat.min_le_left _ _

theorem receiveOperationResultsAtMost {r : Request} {s : HandlerState HostServices} (last : LastChunk s.transfer) :
    wp HostServices.receiveOperationResults r s (AtMost (r.cdbInt16 7)) (fun _ _ => True) := by
  unfold HostServices.receiveOperationResults HostServices.setResult
  rw [wpBind,wpGetRequest,wpBind]
  refine wpMono (HostServices.convertFormatCalm r s) (fun format t calm => ?_) (fun _ _ _ => trivial)
  have kept : LastChunk t.transfer := by
    rw [calm.1.transfer]
    exact last
  simp only [wpBind,wpGetDevice]
  cases t.device.executionResults r.initiatorId with
  | none => trivial
  | some result =>
    simp only [wpBind,wpModifyDevice,wpCopyToBuffer,wpPure]
    refine atMostDataIn kept ?_
    rw [Int.toNat_natCast]
    exact Nat.min_le_left _ _

/- A processor device has no block descriptors, so that even a header has to fit. -/
theorem hostPagesAtMost {r : Request} {s : HandlerState HostServices} (offset maxSize allocation : Nat)
    (mark : Nat → Bytes → Bytes) (last : LastChunk s.transfer) :
    wp (do
      let length ← HostServices.prepareModeSense allocation
      let size ← PageHandler.addModePages HostServices.support offset length maxSize
      setBuffer (mark size)
      return .dataIn size) r s (AtMost allocation) (fun _ _ => True) := by
  unfold HostServices.prepareModeSense PageHandler.addModePages
  simp only [wpBind,wpGetRequest,wpGetDevice,wpGetTransfer,wpIte,wpThrow,wpPure,wpSetBuffer,implies_true,true_and]
  refine fun _ => ⟨fun _ => atMostDataIn last ?_,fun _ _ _ => atMostDataIn last ?_⟩
  · rw [Int.toNat_natCast]
    exact Nat.min_le_right _ _
  · rw [Int.toNat_natCast]
    exact Nat.le_trans (Nat.min_le_right _ _) (Nat.min_le_right _ _)

theorem sasiInquiryAtMost {r : Request} {s : HandlerState Disk} (last : LastChunk s.transfer)
    (long : 2 ≤ r.cdbInt16 3) : wp SasiHd.inquiry r s (AtMost (r.cdbInt16 3)) (fun _ _ => True) := by
  unfold SasiHd.inquiry
  simp only [wpBind,wpCopyToBuffer,wpPure]
  exact atMostDataIn last long

theorem sasiRequestSenseAtMost {r : Request} {s : HandlerState Disk} (last : LastChunk s.transfer)
    (long : r.cdbByte 4 = 0 ∨ 4 ≤ r.cdbByte 4) :
    wp SasiHd.requestSense r s (AtMost (if r.cdbByte 4 = 0 then 4 else r.cdbByte 4)) (fun _ _ => True) := by
  unfold SasiHd.requestSense
  simp only [wpBind,wpGetRequest,wpGetDevice,wpCopyToBuffer,wpPure]
  refine atMostDataIn last ?_
  change 4 ≤ _
  split <;> omega

/-! The classes of devices. -/

/- What holds of a command of a class, given by its device. The medium has not changed. -/
def Limited {δ : Type} (put : δ → AnyDevice) (cmd : ScsiCommand) (h : Handler δ PhaseCall) : Prop :=
  ∀ r s n, r.opcode = cmd → LastChunk s.transfer → limit (put s.device) r.cdb = some n →
    (∀ st, (put s.device).storage = some st → ¬HeaderOverruns r.cdb st) →
    (isSasi (put s.device) = true → ¬SasiOverruns r.cdb) → wp h r s (AtMost n) (fun _ _ => True)

theorem limitSimple {d : AnyDevice} {cdb : Bytes} {n : Nat} (other : opcode cdb ≠ .requestSense)
    (limited : limit d cdb = some n) : allocationLength cdb = some n := by
  unfold limit at limited
  cases asked : allocationLength cdb with
  | none =>
    rw [asked] at limited
    cases limited
  | some m =>
    rw [asked,Option.map_some,if_neg (fun h => other h.1)] at limited
    exact limited

section
variable {δ : Type} {put : δ → AnyDevice} {cmd : ScsiCommand}

/- The commands whose limit is a field of the CDB. -/
theorem limitedBy {h : Handler δ PhaseCall} (field : Request → Nat) (other : cmd ≠ .requestSense)
    (asked : ∀ r : Request, allocationField cmd r.cdb = some (field r))
    (fits : ∀ r s, LastChunk s.transfer → wp h r s (AtMost (field r)) (fun _ _ => True)) : Limited put cmd h := by
  intro r s n op last limited _ _
  have op : opcode r.cdb = cmd := op
  have same := limitSimple (op ▸ other) limited
  rw [allocationLength,op,asked r] at same
  cases same
  exact fits r s last

theorem hasLength {cdb : Bytes} {n : Nat} (asked : allocationLength cdb = some n) :
    hasAllocationLength (opcode cdb) = true := by
  by_contra other
  simp only [hasAllocationLength,Bool.or_eq_true,decide_eq_true_eq,not_or] at other
  simp [allocationLength,allocationField,other] at asked

theorem limitHasLength {d : AnyDevice} {cdb : Bytes} {n : Nat} (limited : limit d cdb = some n) :
    hasAllocationLength (opcode cdb) = true := by
  cases asked : allocationLength cdb with
  | none =>
    rw [limit,asked] at limited
    cases limited
  | some m => exact hasLength asked

theorem dispatchLimited {commands : List (ScsiCommand × Handler δ PhaseCall)}
    (each : ∀ c ∈ commands.filter (hasAllocationLength ·.1), Limited put c.1 c.2) :
    Limited put cmd (Handler.dispatch commands cmd) := by
  intro r s n op last limited header sasi
  unfold Handler.dispatch
  cases found : commands.lookup cmd with
  | none => trivial
  | some command =>
    obtain ⟨before,after,split,_⟩ := List.lookup_eq_some_iff.mp found
    have asked : hasAllocationLength cmd = true := op ▸ limitHasLength limited
    have member : (cmd,command) ∈ commands.filter (hasAllocationLength ·.1) := by
      rw [List.mem_filter,split]
      exact ⟨by simp,asked⟩
    exact each (cmd,command) member r s n op last limited header sasi

/- A changed medium is reported instead. -/
theorem storageLimited (put : δ → AnyDevice) [Derives δ StorageDevice] {commands : List (ScsiCommand × Handler δ PhaseCall)}
    (each : ∀ c ∈ commands.filter (hasAllocationLength ·.1), Limited put c.1 c.2)
    (storage : ∀ d, (put d).storage = some (base d)) {r : Request} {s : HandlerState δ} {n : Nat}
    (last : LastChunk s.transfer) (limited : limit (put s.device) r.cdb = some n)
    (fits : ¬Overruns r.cdb (put s.device)) :
    wp (StorageDevice.dispatch commands r.opcode) r s (AtMost n) (fun _ _ => True) := by
  unfold StorageDevice.dispatch StorageDevice.reportMediumChange
  simp only [wpBind,wpSuper,wpGetDevice,wpIte,wpThrow,wpPure,wpModifyDevice,implies_true,true_and,setBaseSelf]
  intro same
  refine dispatchLimited each r s n rfl last limited (fun st has overruns => ?_) fun sasi overruns => fits (.inr ⟨sasi,overruns⟩)
  refine fits (.inl ⟨st,has,?_,overruns⟩)
  cases Option.some.inj ((storage s.device).symm.trans has)
  have op : opcode r.cdb = .modeSense6 ∨ opcode r.cdb = .modeSense10 := overruns.1
  cases changed : (base s.device : StorageDevice).mediumChanged with
  | false => rfl
  | true =>
    refine absurd ⟨?_,?_,changed⟩ same
    · rcases op with op | op <;> (change r.opcode = _ at op; rw [op]; decide)
    · rcases op with op | op <;> (change r.opcode = _ at op; rw [op]; decide)

/-! The commands that several classes have. -/

theorem superAtMost {β : Type} [Derives δ β] {h : Handler β PhaseCall} {r : Request} {s : HandlerState δ} {n : Nat}
    (fits : wp h r ⟨base s.device,s.transfer,s.world⟩ (AtMost n) (fun _ _ => True)) :
    wp (super h) r s (AtMost n) (fun _ _ => True) :=
  (wpSuper h).mpr fits

theorem inquiryLimited [Derives δ PrimaryDevice] {inquiryInternal : Handler δ Bytes} (calm : Does Calm inquiryInternal) :
    Limited put .inquiry (PrimaryDevice.inquiry inquiryInternal) :=
  limitedBy (fun r => r.cdbInt16 3) (by decide) (fun _ => rfl)
    fun r s last => inquiryAtMost last (wpMono (calm r s) (fun _ _ done => done.1.transfer) fun _ _ _ => trivial)

theorem reportLunsLimited [Derives δ PrimaryDevice] : Limited put .reportLuns (super PrimaryDevice.reportLuns) :=
  limitedBy (fun r => r.cdbInt32 6) (by decide) (fun _ => rfl)
    fun _ _ last => superAtMost (reportLunsAtMost last)

theorem requestSenseLimited [Derives δ PrimaryDevice] (primary : ∀ d, (put d).primary = base d)
    (scsi : ∀ d, isSasi (put d) = false) : Limited put .requestSense (super PrimaryDevice.requestSense) := by
  intro r s n op last limited _ _
  have op : opcode r.cdb = .requestSense := op
  have same : n = if r.cdbByte 4 = 0 ∧ (base s.device : PrimaryDevice).level = .scsi1Ccs then 4 else r.cdbByte 4 := by
    have asked : allocationLength r.cdb = some (r.cdbByte 4) := by
      rw [allocationLength,op]
      rfl
    rw [limit,asked,Option.map_some,op,zeroMeansFour,scsi,primary] at limited
    simpa using limited.symm
  rw [same]
  exact superAtMost (requestSenseAtMost last)

theorem modeSense6Limited [Derives δ StorageDevice] (v : StorageDevice.Virtual δ)
    (storage : ∀ d, (put d).storage = some (base d)) :
    Limited put .modeSense6 (do return .dataIn (← StorageDevice.modeSense6 v)) := by
  intro r s n op last limited header _
  have asked : allocationLength r.cdb = some (r.cdbByte 4) := congrArg (allocationField · r.cdb) op
  have same := limitSimple (by change r.opcode ≠ _; rw [op]; decide) limited
  rw [asked] at same
  cases same
  rw [wpBind]
  exact wpMono (modeSense6Sends v op)
    (fun size t ended => sensedAtMost ended last asked (.inl op) (header _ (storage s.device))) fun _ _ _ => trivial

theorem modeSense10Limited [Derives δ StorageDevice] (v : StorageDevice.Virtual δ)
    (storage : ∀ d, (put d).storage = some (base d)) :
    Limited put .modeSense10 (do return .dataIn (← StorageDevice.modeSense10 v)) := by
  intro r s n op last limited header _
  have asked : allocationLength r.cdb = some (r.cdbInt16 7) := congrArg (allocationField · r.cdb) op
  have same := limitSimple (by change r.opcode ≠ _; rw [op]; decide) limited
  rw [asked] at same
  cases same
  rw [wpBind]
  exact wpMono (modeSense10Sends v op)
    (fun size t ended => sensedAtMost ended last asked (.inr op) (header _ (storage s.device))) fun _ _ _ => trivial

theorem readDefectDataLimited [Derives δ Disk] : Limited put .readDefectData10 (super Disk.readDefectData10) :=
  limitedBy (fun r => r.cdbInt16 7) (by decide) (fun _ => rfl)
    fun _ _ last => superAtMost (readDefectData10AtMost last)

theorem readFormatCapacitiesLimited [Derives δ Disk] :
    Limited put .readFormatCapacities (super Disk.readFormatCapacities) :=
  limitedBy (fun r => r.cdbInt16 7) (by decide) (fun _ => rfl)
    fun _ _ last => superAtMost (readFormatCapacitiesAtMost last)

/- READ LONG(16) has no allocation length. -/
theorem readCapacity16Limited [Derives δ Disk] :
    Limited put .readCapacityReadLong16 (super Disk.readCapacity16ReadLong16) := by
  intro r s n op last limited _ _
  have asked := limitSimple (by change r.opcode ≠ _; rw [op]; decide) limited
  have op : opcode r.cdb = .readCapacityReadLong16 := op
  have service : r.cdbByte 1 &&& 0x1f = 0x10 ∧ n = r.cdbInt32 10 := by
    have only : (if byteAt r.cdb 1 &&& 0x1f = 0x10 then some (getInt32 r.cdb 10) else none) = some n := by
      rw [allocationLength,op] at asked
      exact asked
    by_cases capacity : byteAt r.cdb 1 &&& 0x1f = 0x10
    · rw [if_pos capacity] at only
      exact ⟨capacity,(Option.some.inj only).symm⟩
    · rw [if_neg capacity] at only
      cases only
  refine superAtMost ?_
  unfold Disk.readCapacity16ReadLong16
  rw [wpBind,wpGetRequest,if_pos service.1,service.2]
  exact readCapacity16AtMost last

end

theorem readTocLimited : Limited .scsiCd .readToc ScsiCd.readToc :=
  limitedBy (fun r => r.cdbInt16 7) (by decide) (fun _ => rfl)
    fun _ _ last => readTocAtMost last

theorem receiveOperationResultsLimited :
    Limited .hostServices .receiveOperationResults HostServices.receiveOperationResults :=
  limitedBy (fun r => r.cdbInt16 7) (by decide) (fun _ => rfl)
    fun _ _ last => receiveOperationResultsAtMost last

theorem diskLimited {δ : Type} {put : δ → AnyDevice} [Derives δ Disk] [Derives δ StorageDevice] [Derives δ PrimaryDevice]
    {inquiry requestSense : Handler δ PhaseCall} (more : List (ScsiCommand × Handler δ PhaseCall)) {readData : Handler δ Int} {v : StorageDevice.Virtual δ} {select save : Bool}
    (hi : Limited put .inquiry inquiry) (hr : Limited put .requestSense requestSense)
    (hm : ∀ c ∈ more.filter (hasAllocationLength ·.1), Limited put c.1 c.2)
    (storage : ∀ d, (put d).storage = some (base d)) :
    ∀ c ∈ (PrimaryDevice.commands inquiry requestSense ++ (more ++ Disk.commands readData) ++
      StorageDevice.commands v select save).filter (hasAllocationLength ·.1), Limited put c.1 c.2 := by
  have split : (PrimaryDevice.commands inquiry requestSense ++ (more ++ Disk.commands readData) ++
      StorageDevice.commands v select save).filter (hasAllocationLength ·.1) =
      [(.inquiry,inquiry),(.reportLuns,super PrimaryDevice.reportLuns),(.requestSense,requestSense)] ++
        (more.filter (hasAllocationLength ·.1) ++ [(.readDefectData10,super Disk.readDefectData10),
          (.readCapacityReadLong16,super Disk.readCapacity16ReadLong16),
          (.readFormatCapacities,super Disk.readFormatCapacities)]) ++
        [(.modeSense6,do return .dataIn (← StorageDevice.modeSense6 v)),
          (.modeSense10,do return .dataIn (← StorageDevice.modeSense10 v))] := by
    simp only [List.filter_append]
    rfl
  rw [split]
  simp only [List.forall_mem_append,List.forall_mem_cons,List.not_mem_nil,false_implies,implies_true,and_true]
  exact ⟨⟨⟨hi,reportLunsLimited,hr⟩,hm,readDefectDataLimited,readCapacity16Limited,readFormatCapacitiesLimited⟩,
    modeSense6Limited v storage,modeSense10Limited v storage⟩

/- A class of devices whose commands are limited. -/
theorem peripheralLimited {δ : Type} (put : δ → AnyDevice) {commands : List (ScsiCommand × Handler δ PhaseCall)}
    (each : ∀ c ∈ commands.filter (hasAllocationLength ·.1), Limited put c.1 c.2)
    (storage : ∀ d, (put d).storage = none) (scsi : ∀ d, isSasi (put d) = false) {r : Request} {s : HandlerState δ}
    {n : Nat} (last : LastChunk s.transfer) (limited : limit (put s.device) r.cdb = some n) :
    wp (Handler.dispatch commands r.opcode) r s (AtMost n) (fun _ _ => True) := by
  refine dispatchLimited each r s n rfl last limited (fun st has => ?_) fun sasi => ?_
  · rw [storage] at has
    cases has
  · rw [scsi] at sasi
    cases sasi

theorem primaryLimited {δ : Type} {put : δ → AnyDevice} [Derives δ PrimaryDevice] {inquiryInternal : Handler δ Bytes}
    {more : List (ScsiCommand × Handler δ PhaseCall)} (calm : Does Calm inquiryInternal)
    (primary : ∀ d, (put d).primary = base d) (scsi : ∀ d, isSasi (put d) = false)
    (hm : ∀ c ∈ more.filter (hasAllocationLength ·.1), Limited put c.1 c.2) :
    ∀ c ∈ (PrimaryDevice.commands (PrimaryDevice.inquiry inquiryInternal) (super PrimaryDevice.requestSense) ++
      more).filter (hasAllocationLength ·.1), Limited put c.1 c.2 := by
  have split : (PrimaryDevice.commands (PrimaryDevice.inquiry inquiryInternal) (super PrimaryDevice.requestSense) ++
      more).filter (hasAllocationLength ·.1) = [(.inquiry,PrimaryDevice.inquiry inquiryInternal),
        (.reportLuns,super PrimaryDevice.reportLuns),(.requestSense,super PrimaryDevice.requestSense)] ++
        more.filter (hasAllocationLength ·.1) := by
    simp only [List.filter_append]
    rfl
  rw [split]
  simp only [List.forall_mem_append,List.forall_mem_cons,List.not_mem_nil,false_implies,implies_true,and_true]
  exact ⟨⟨inquiryLimited calm,reportLunsLimited,requestSenseLimited primary scsi⟩,hm⟩

theorem tapeLimited : ∀ c ∈ Tape.commands.filter (hasAllocationLength ·.1), Limited .tape c.1 c.2 := by
  have split : Tape.commands.filter (hasAllocationLength ·.1) = [(.inquiry,Tape.inquiry),
      (.reportLuns,super PrimaryDevice.reportLuns),(.requestSense,super PrimaryDevice.requestSense),
      (.modeSense6,do return .dataIn (← StorageDevice.modeSense6 Tape.virtual)),
      (.modeSense10,do return .dataIn (← StorageDevice.modeSense10 Tape.virtual))] := rfl
  rw [split]
  simp only [List.forall_mem_cons,List.not_mem_nil,false_implies,implies_true,and_true]
  exact ⟨inquiryLimited (inquiryInternalCalm _ _),reportLunsLimited,requestSenseLimited (fun _ => rfl) fun _ => rfl,
    modeSense6Limited _ fun _ => rfl,modeSense10Limited _ fun _ => rfl⟩

theorem sasiInquiryLimited : Limited .sasiHd .inquiry SasiHd.inquiry := by
  intro r s n op last limited _ sasi
  have asked : allocationLength r.cdb = some (r.cdbInt16 3) := congrArg (allocationField · r.cdb) op
  have same := limitSimple (by change r.opcode ≠ _; rw [op]; decide) limited
  rw [asked] at same
  cases same
  refine sasiInquiryAtMost last ?_
  by_contra short
  exact sasi rfl (.inl ⟨op,by change r.cdbInt16 3 < 2; omega⟩)

theorem sasiRequestSenseLimited : Limited .sasiHd .requestSense SasiHd.requestSense := by
  intro r s n op last limited _ sasi
  have op : opcode r.cdb = .requestSense := op
  have same : n = if r.cdbByte 4 = 0 then 4 else r.cdbByte 4 := by
    have asked : allocationLength r.cdb = some (r.cdbByte 4) := congrArg (allocationField · r.cdb) op
    rw [limit,asked,Option.map_some,op,zeroMeansFour] at limited
    simpa [isSasi] using limited.symm
  rw [same]
  refine sasiRequestSenseAtMost last ?_
  by_contra short
  simp only [not_or,not_le] at short
  exact sasi rfl (.inr ⟨op,short.1,short.2⟩)

theorem hostServicesLimited :
    ∀ c ∈ HostServices.commands.filter (hasAllocationLength ·.1), Limited .hostServices c.1 c.2 := by
  have split : HostServices.commands.filter (hasAllocationLength ·.1) = [(.inquiry,HostServices.inquiry),
      (.reportLuns,super PrimaryDevice.reportLuns),(.requestSense,super PrimaryDevice.requestSense),
      (.receiveOperationResults,HostServices.receiveOperationResults),
      (.modeSense6,do return .dataIn (← HostServices.modeSense6)),
      (.modeSense10,do return .dataIn (← HostServices.modeSense10))] := rfl
  rw [split]
  simp only [List.forall_mem_cons,List.not_mem_nil,false_implies,implies_true,and_true]
  refine ⟨inquiryLimited (inquiryInternalCalm _ _),reportLunsLimited,
    requestSenseLimited (fun _ => rfl) fun _ => rfl,receiveOperationResultsLimited,?_,?_⟩
  · refine limitedBy (fun r => r.cdbByte 4) (by decide) (fun _ => rfl) fun r s last => ?_
    have ends := hostPagesAtMost (r := r) (s := s) 4 255 (r.cdbByte 4) (fun size buf => setBytes buf 0 [UInt8.ofNat (size + 255)])
      last
    simp only [HostServices.modeSense6,wpBind,wpGetRequest,wpPure] at ends ⊢
    exact ends
  · refine limitedBy (fun r => r.cdbInt16 7) (by decide) (fun _ => rfl) fun r s last => ?_
    have ends := hostPagesAtMost (r := r) (s := s) 8 65535 (r.cdbInt16 7) (fun size buf => setInt16 buf 0 ((size + 65534) % 65536))
      last
    simp only [HostServices.modeSense10,wpBind,wpGetRequest,wpPure] at ends ⊢
    exact ends

/-! A command to a device of any class. -/

theorem wpWithin {δ : Type} {put : δ → AnyDevice} {h : Handler δ PhaseCall} {d : δ} {r : Request}
    {s : HandlerState AnyDevice} {n : Nat} (fits : wp h r ⟨d,s.transfer,s.world⟩ (AtMost n) (fun _ _ => True)) :
    wp (AnyDevice.within put h d) r s (AtMost n) (fun _ _ => True) := by
  unfold wp at fits ⊢
  unfold AnyDevice.within
  cases ran : h r ⟨d,s.transfer,s.world⟩ with
  | mk result t =>
    rw [ran] at fits
    cases result <;> exact fits

theorem dispatchAtMost {r : Request} {s : HandlerState AnyDevice} {n : Nat} (last : LastChunk s.transfer)
    (limited : limit s.device r.cdb = some n) (fits : ¬Overruns r.cdb s.device)
    (emulated : ∀ g, s.device ≠ .scsiGeneric g) :
    wp (AnyDevice.methods.dispatch r.opcode) r s (AtMost n) (fun _ _ => True) := by
  obtain ⟨device,transfer,world⟩ := s
  dsimp only at last limited fits emulated
  cases device with
  | scsiHd d =>
    exact wpWithin (storageLimited .scsiHd (diskLimited [] (inquiryLimited (inquiryInternalCalm _ _))
      (requestSenseLimited (fun _ => rfl) fun _ => rfl) (by simp) fun _ => rfl) (fun _ => rfl) last limited fits)
  | sasiHd d =>
    exact wpWithin (storageLimited .sasiHd (diskLimited [] sasiInquiryLimited
      sasiRequestSenseLimited (by simp) fun _ => rfl) (fun _ => rfl) last limited fits)
  | opticalMemory d =>
    exact wpWithin (storageLimited .opticalMemory (diskLimited [] (inquiryLimited (inquiryInternalCalm _ _))
      (requestSenseLimited (fun _ => rfl) fun _ => rfl) (by simp) fun _ => rfl) (fun _ => rfl) last limited fits)
  | scsiCd d =>
    exact wpWithin (storageLimited .scsiCd (diskLimited [(.readToc,ScsiCd.readToc)]
      (inquiryLimited (inquiryInternalCalm _ _)) (requestSenseLimited (fun _ => rfl) fun _ => rfl)
      (by intro c member; cases List.mem_singleton.mp (List.mem_of_mem_filter member); exact readTocLimited)
      fun _ => rfl) (fun _ => rfl) last limited fits)
  | tape d => exact wpWithin (storageLimited .tape tapeLimited (fun _ => rfl) last limited fits)
  | printer d =>
    exact wpWithin (peripheralLimited .printer (primaryLimited (inquiryInternalCalm _ _) (fun _ => rfl) (fun _ => rfl)
      (by intro c member; cases member)) (fun _ => rfl) (fun _ => rfl) last limited)
  | daynaPort d =>
    exact wpWithin (peripheralLimited .daynaPort (primaryLimited DaynaPort.inquiryInternalCalm (fun _ => rfl)
      (fun _ => rfl) (by intro c member; cases member)) (fun _ => rfl) (fun _ => rfl) last limited)
  | hostServices d =>
    exact wpWithin (peripheralLimited .hostServices hostServicesLimited (fun _ => rfl) (fun _ => rfl) last limited)
  | scsiGeneric g => exact absurd rfl (emulated g)

/-! The devices of the SG driver. They send what the driver returned, in chunks. -/

/- The sizes of the transfer are left alone. -/
structure SameSizes {δ : Type} (s t : HandlerState δ) : Prop where
  remaining : t.transfer.remainingLength = s.transfer.remainingLength
  chunk : t.transfer.chunkSize = s.transfer.chunkSize

instance (δ : Type) : IsPreorder (HandlerState δ) SameSizes where
  refl _ := ⟨rfl,rfl⟩
  trans _ _ _ h h' := ⟨h'.remaining.trans h.remaining,h'.chunk.trans h.chunk⟩

theorem modifySizes {δ : Type} (f : δ → δ) : Does SameSizes (modifyDevice f : Handler δ Unit) :=
  fun _ _ => ⟨⟨rfl,rfl⟩,trivial⟩

theorem setBufferSizes {δ : Type} (f : Bytes → Bytes) : Does SameSizes (setBuffer f : Handler δ Unit) :=
  fun _ _ => ⟨⟨rfl,rfl⟩,trivial⟩

namespace Generic
open ScsiGeneric

theorem evaluateStatusSizes (result : SgResult) (write : Bool) : Does SameSizes (evaluateStatus result write) := by
  unfold evaluateStatus
  refine meetsUnless fun _ => meetsThen (?_ : Does SameSizes (markMissingLun _)) fun _ _ =>
    meetsIte (fun _ => ?_) (fun _ => doesPure _)
  · refine meetsThen doesGetDevice fun _ _ => meetsThen doesGetRequest fun _ _ => ?_
    exact meetsIte (fun _ => setBufferSizes _) (fun _ => doesPure _)
  · exact meetsThen (modifySizes _) fun _ _ => meetsThrow _

theorem readWriteDataSizes (data : Bytes) (chunkSize : Int) :
    Meets SameSizes (fun l => l ≤ chunkSize) (readWriteData data chunkSize) := by
  refine meetsThen doesGetDevice fun d _ => meetsThen (modifySizes _) fun _ _ => ?_
  refine meetsThen doesGetDevice fun d' _ => meetsThen doesGetRequest fun r _ => ?_
  refine meetsThen (?_ : Does SameSizes (storeResult _ _ _)) fun _ _ => meetsThen (modifySizes _) fun _ _ => ?_
  · exact meetsIte (fun _ => setBufferSizes _) (fun _ => doesPure _)
  refine meetsThen (evaluateStatusSizes _ _) fun _ _ => ?_
  refine meetsThen (?_ : Does SameSizes (updateInternalBlockSize _)) fun _ _ => meetsThen (modifySizes _) fun _ _ => ?_
  · refine meetsThen doesGetDevice fun _ _ => meetsThen doesGetTransfer fun _ _ => ?_
    exact meetsIte (fun _ => modifySizes _) (fun _ => doesPure _)
  refine meetsThen (?_ : Does SameSizes updateInquiryLevel) fun _ _ => meetsThen (modifySizes _) fun _ _ => ?_
  · exact meetsThen doesGetDevice fun _ _ => meetsIte (fun _ => setBufferSizes _) (fun _ => doesPure _)
  exact meetsPure (by omega)

theorem readDataSizes (r : Request) (s : HandlerState ScsiGeneric) :
    wp readData r s (fun l t => SameSizes s t ∧ l ≤ s.transfer.chunkSize) (fun _ t => SameSizes s t) := by
  unfold readData
  rw [wpBind,wpGetTransfer]
  exact readWriteDataSizes [] s.transfer.chunkSize r s

theorem chunkOf (t : Transfer) (length size : Int) : (t.setTransferSize length size).chunkSize = min length size := by
  change (if length < size then length else size) = _
  omega

/- What is sent and what is left to be sent after the first chunk. -/
theorem dispatchSends (cmd : ScsiCommand) (r : Request) (s : HandlerState ScsiGeneric) :
    wp (ScsiGeneric.dispatch cmd) r s
      (fun call t => (∀ count, call ≠ .errorThenDataIn count) ∧ ∀ count, call = .dataIn count →
        count.toNat + (t.transfer.remainingLength - t.transfer.chunkSize).toNat ≤
          (prepareCommand r cmd s.device).byteCount.toNat ∧
        (t.transfer.remainingLength ≤ t.transfer.chunkSize ∨
          0 ≤ t.transfer.chunkSize ∧ maxTransferLength < (prepareCommand r cmd s.device).byteCount) ∧
        (r.effectiveLun = 0 ∨ cmd = .inquiry)) (fun _ _ => True) := by
  unfold ScsiGeneric.dispatch
  simp only [wpBind,wpGetRequest,wpGetDevice,wpModifyDevice,wpIte,wpThrow,wpPure,wpSetBuffer,wpSetTransferSize,
    wpSetCurrentLength,implies_true,true_and]
  generalize prepareCommand r cmd s.device = d
  intro _ supported
  have executed : r.effectiveLun = 0 ∨ cmd = .inquiry := by
    rw [not_and_or,not_not,not_not] at supported
    exact supported
  refine ⟨fun _ => ⟨fun _ => PhaseCall.noConfusion,fun count same => ?_⟩,fun _ => ⟨fun _ => ?_,fun _ => ?_⟩⟩
  · cases same
    simp only [Transfer.setTransferSizeRemaining,chunkOf]
    exact ⟨by omega,.inl (by omega),executed⟩
  · exact ⟨fun _ => PhaseCall.noConfusion,fun _ => PhaseCall.noConfusion⟩
  · refine wpMono (readDataSizes r _) (fun l t ended => ?_) (fun _ _ _ => trivial)
    refine ⟨fun _ => PhaseCall.noConfusion,fun count same => ?_⟩
    cases same
    obtain ⟨⟨remaining,chunk⟩,few⟩ := ended
    have whole : (if d.byteCount < maxTransferLength then d.byteCount else maxTransferLength) = min d.byteCount 65536 := by
      change (if d.byteCount < 65536 then d.byteCount else 65536) = _
      omega
    have most : maxTransferLength = 65536 := rfl
    dsimp only at remaining chunk few
    simp only [whole,Transfer.setCurrentLength,Transfer.setTransferSizeRemaining,chunkOf] at remaining chunk few
    rw [remaining,chunk,most]
    exact ⟨by omega,by omega,executed⟩

theorem opcodeTake {cdb : Bytes} {count : Nat} (some_ : 0 < count) : opcode (cdb.take count) = opcode cdb := by
  simp only [opcode,List.getD_eq_getElem?_getD,List.getElem?_take,if_pos some_]

open CommandMetaData SgUtil

/- The bytes that are passed on include the allocation length. -/
theorem allocationTake {cdb : Bytes} {count offset size : Nat} (some_ : 0 < count)
    (data : getCdbMetaData (opcode cdb) = ⟨offset,size,0,0,false⟩) (inside : offset + size ≤ count) :
    getAllocationLength (cdb.take count) = getAllocationLength cdb := by
  have whole : getCdbMetaData (cdb.getD 0 0) = ⟨offset,size,0,0,false⟩ := by
    rw [← data,opcode]
  have part : getCdbMetaData ((cdb.take count).getD 0 0) = ⟨offset,size,0,0,false⟩ := by
    rw [← data,← opcodeTake some_,opcode]
  have byte : ∀ i, i < size → byteAt (cdb.take count) (offset+i) = byteAt cdb (offset+i) :=
    fun i less => byteAtTake (by omega)
  simp only [getAllocationLength,whole,part]
  generalize cdb.take count = taken at byte
  have offset_ : (offset : Int).toNat = offset := Int.toNat_natCast offset
  rw [offset_]
  rcases size with _ | _ | _ | _ | _ | size
  · simp
  · have first := byte 0 (by omega)
    simp only [Nat.add_zero] at first
    simp only [first]
  · have first := byte 0 (by omega)
    simp only [Nat.add_zero] at first
    simp only [getInt16,first,byte 1 (by omega)]
  · have first := byte 0 (by omega)
    simp only [Nat.add_zero] at first
    simp only [getInt24,first,byte 1 (by omega),byte 2 (by omega)]
  · have first := byte 0 (by omega)
    simp only [Nat.add_zero] at first
    simp only [getInt32,getInt16,first,byte 1 (by omega),byte 2 (by omega),Nat.add_assoc,Nat.reduceAdd,
      byte 3 (by omega)]
  · simp

theorem byteCountOf {r : Request} (d : ScsiGeneric) {offset size : Nat} (known : 0 < getByteCount r.opcode)
    (other : r.opcode ≠ .read6 ∧ r.opcode ≠ .write6 ∧ r.opcode ≠ .formatUnit)
    (data : getCdbMetaData r.opcode = ⟨offset,size,0,0,false⟩) (inside : offset + size ≤ getByteCount r.opcode) :
    (prepareCommand r r.opcode d).byteCount = getAllocationLength r.cdb := by
  have op : opcode (r.cdb.take (getByteCount r.opcode)) = r.opcode := opcodeTake known
  have plain : convertCdb (r.cdb.take (getByteCount r.opcode)) = r.cdb.take (getByteCount r.opcode) :=
    if_neg (by
      change ¬(opcode (r.cdb.take (getByteCount r.opcode)) = .read6 ∨ opcode (r.cdb.take (getByteCount r.opcode)) = .write6)
      rw [op]
      exact not_or.mpr ⟨other.1,other.2.1⟩)
  unfold prepareCommand
  dsimp only
  rw [plain,if_neg (fun h => other.2.2 h.1),data,if_neg (by simp)]
  exact allocationTake known data inside

/- A length with the sign bit set is negative for the SG driver. -/
theorem int32Least (length : Nat) : (int32 length).toNat ≤ length := by
  unfold int32
  have most : (length : Int).bmod (2^32) ≤ length := by
    rw [Int.bmod_def]
    split <;> omega
  omega

/- The fields of the command table: those of INQUIRY and READ CAPACITY(16) are shorter
than in the CDB. -/
theorem byteCountAtMost {r : Request} {n : Nat} (asked : allocationLength r.cdb = some n) (d : ScsiGeneric) :
    (prepareCommand r r.opcode d).byteCount.toNat ≤ n := by
  have known := hasLength asked
  simp only [hasAllocationLength,Bool.or_eq_true,decide_eq_true_eq] at known
  have field : ∀ {cmd : ScsiCommand}, opcode r.cdb = cmd → allocationField cmd r.cdb = some n := by
    intro cmd op
    rw [← asked,allocationLength,op]
  have bytes : (prepareCommand r r.opcode d).byteCount = getAllocationLength r.cdb := by
    have op : r.opcode = opcode r.cdb := rfl
    rcases known with (((((((((known | known) | known) | known) | known) | known) | known) | known) | known) | known) | known
    all_goals
      rw [← op] at known
      refine byteCountOf d ?_ ?_ (by rw [known]; rfl) ?_ <;> rw [known] <;> decide
  have table : ∀ {cmd : ScsiCommand} (metaData : CdbMetaData), opcode r.cdb = cmd → getCdbMetaData cmd = metaData →
      getCdbMetaData (r.cdb.getD 0 0) = metaData := by
    intro cmd metaData op data
    rw [← data,← op,opcode]
  rw [bytes,getAllocationLength]
  rcases known with (((((((((op | op) | op) | op) | op) | op) | op) | op) | op) | op) | op
  · cases Option.some.inj (field op)
    rw [table ⟨4,1,0,0,false⟩ op rfl]
    simp [getInt16]
  · cases Option.some.inj (field op)
    rw [table ⟨4,1,0,0,false⟩ op rfl]
    simp
  · cases Option.some.inj (field op)
    rw [table ⟨4,1,0,0,false⟩ op rfl]
    simp
  · cases Option.some.inj (field op)
    rw [table ⟨6,4,0,0,false⟩ op rfl]
    simpa using int32Least (getInt32 r.cdb 6)
  · cases Option.some.inj (field op)
    rw [table ⟨6,4,0,0,false⟩ op rfl]
    simpa using int32Least (getInt32 r.cdb 6)
  · have capacity : (if byteAt r.cdb 1 &&& 0x1f = 0x10 then some (getInt32 r.cdb 10) else none) = some n := field op
    rw [table ⟨12,2,0,0,false⟩ op rfl]
    by_cases service : byteAt r.cdb 1 &&& 0x1f = 0x10
    · rw [if_pos service] at capacity
      cases Option.some.inj capacity
      simp [getInt32]
    · rw [if_neg service] at capacity
      cases capacity
  all_goals
    cases Option.some.inj (field op)
    rw [table ⟨7,2,0,0,false⟩ op rfl]
    simp

theorem inquiryByteCount {r : Request} (cmd : r.opcode = .inquiry) (d : ScsiGeneric) :
    (prepareCommand r r.opcode d).byteCount ≤ maxTransferLength := by
  have data : getCdbMetaData r.opcode = ⟨4,1,0,0,false⟩ := by
    rw [cmd]
    rfl
  have bytes : (prepareCommand r r.opcode d).byteCount = getAllocationLength r.cdb := by
    refine byteCountOf d ?_ ?_ data ?_ <;> rw [cmd] <;> decide
  have table : getCdbMetaData (r.cdb.getD 0 0) = ⟨4,1,0,0,false⟩ := data
  have byte := byteAtLt r.cdb 4
  have most : maxTransferLength = 65536 := rfl
  rw [bytes,getAllocationLength,table,most]
  change (byteAt r.cdb 4 : Int) ≤ 65536
  omega

end Generic

/-! Devices of any class, and what they send too much. -/

def SgDevice (d : AnyDevice) : Prop := ∃ g, d = .scsiGeneric g

theorem streams : Streams AnyDevice.methods SgDevice := by
  rintro r ⟨_,transfer,world⟩ ⟨g,rfl⟩
  change SgDevice (AnyDevice.scsiGeneric (ScsiGeneric.readData r ⟨g,transfer,world⟩).2.device) ∧
    (ScsiGeneric.readData r ⟨g,transfer,world⟩).2.transfer.remainingLength = transfer.remainingLength ∧
    (ScsiGeneric.readData r ⟨g,transfer,world⟩).2.transfer.chunkSize = transfer.chunkSize
  have ended := Generic.readDataSizes r ⟨g,transfer,world⟩
  unfold wp at ended
  cases ran : ScsiGeneric.readData r ⟨g,transfer,world⟩ with
  | mk result t =>
    rw [ran] at ended
    cases result with
    | ok l => exact ⟨⟨_,rfl⟩,ended.1.remaining,ended.1.chunk⟩
    | error e => exact ⟨⟨_,rfl⟩,ended.remaining,ended.chunk⟩

/- An error in REQUEST SENSE is the only one before a DATA IN phase. -/
theorem classAccountable {δ : Type} [Derives δ PrimaryDevice] {m : Methods δ} {strict : Prop} (sound : m.Sound strict)
    (sense : ∀ r s, wp (m.dispatch .requestSense) r s
      (fun call t => ∀ count, call = .errorThenDataIn count → LastChunk t.transfer) (fun _ _ => True)) :
    Accountable m := by
  intro cmd r s count t ran
  have suits := (wpOk (sound.dispatch cmd r s) ran).2
  have same : cmd = .requestSense := by
    rcases suits with fits | ⟨_,length,wrong⟩
    · exact fits
    · cases wrong
  subst same
  exact wpOk (sense r s) ran count rfl

theorem storageSense {δ : Type} [Derives δ StorageDevice] [Derives δ PrimaryDevice]
    {commands : List (ScsiCommand × Handler δ PhaseCall)}
    (found : Handler.dispatch commands .requestSense = super PrimaryDevice.requestSense) (r : Request)
    (s : HandlerState δ) : wp (StorageDevice.dispatch commands .requestSense) r s
      (fun call t => ∀ count, call = .errorThenDataIn count → LastChunk t.transfer) (fun _ _ => True) := by
  unfold StorageDevice.dispatch StorageDevice.reportMediumChange
  rw [found]
  simp only [wpBind,wpSuper,wpGetDevice,wpIte,wpThrow,wpPure,wpModifyDevice,implies_true,true_and]
  exact fun _ => requestSenseAccountable r _

theorem peripheralSense {δ : Type} [Derives δ PrimaryDevice] (commands : List (ScsiCommand × Handler δ PhaseCall))
    (found : Handler.dispatch commands .requestSense = super PrimaryDevice.requestSense) (r : Request)
    (s : HandlerState δ) : wp (Handler.dispatch commands .requestSense) r s
      (fun call t => ∀ count, call = .errorThenDataIn count → LastChunk t.transfer) (fun _ _ => True) := by
  rw [found,wpSuper]
  exact requestSenseAccountable r _

theorem withinAccountable {δ : Type} {put : δ → AnyDevice} {m : Methods δ} (accountable : Accountable m) {cmd : ScsiCommand}
    {r : Request} {s : HandlerState AnyDevice} {d : δ} {count : Int} {t : HandlerState AnyDevice}
    (ran : AnyDevice.within put (m.dispatch cmd) d r s = (.ok (.errorThenDataIn count),t)) : LastChunk t.transfer := by
  unfold AnyDevice.within at ran
  cases ended : m.dispatch cmd r ⟨d,s.transfer,s.world⟩ with
  | mk result u =>
    rw [ended] at ran
    cases ran
    exact accountable _ _ _ count u ended

theorem accountable : Accountable AnyDevice.methods := by
  rintro cmd r ⟨device,transfer,world⟩ count t ran
  cases device with
  | scsiHd d => exact withinAccountable (classAccountable ScsiHd.sound (storageSense rfl)) ran
  | sasiHd d =>
    refine withinAccountable (classAccountable SasiHd.sound fun r s => ?_) ran
    have found : Handler.dispatch SasiHd.commands .requestSense = SasiHd.requestSense := rfl
    change wp (StorageDevice.dispatch SasiHd.commands .requestSense) r s _ _
    unfold StorageDevice.dispatch StorageDevice.reportMediumChange
    rw [found]
    unfold SasiHd.requestSense
    simp only [wpBind,wpSuper,wpGetDevice,wpGetRequest,wpIte,wpThrow,wpPure,wpModifyDevice,wpCopyToBuffer,implies_true,
      true_and]
    exact fun _ _ same => PhaseCall.noConfusion same
  | opticalMemory d => exact withinAccountable (classAccountable OpticalMemory.sound (storageSense rfl)) ran
  | scsiCd d => exact withinAccountable (classAccountable ScsiCd.sound (storageSense rfl)) ran
  | tape d => exact withinAccountable (classAccountable Tape.sound (storageSense rfl)) ran
  | printer d => exact withinAccountable (classAccountable Printer.sound (peripheralSense Printer.commands rfl)) ran
  | daynaPort d => exact withinAccountable (classAccountable DaynaPort.sound (peripheralSense DaynaPort.commands rfl)) ran
  | hostServices d => exact withinAccountable (classAccountable HostServices.sound (peripheralSense HostServices.commands rfl)) ran
  | scsiGeneric d =>
    refine withinAccountable (classAccountable ScsiGeneric.sound fun r s => ?_) ran
    exact wpMono (Generic.dispatchSends _ r s) (fun call t ended count same => absurd same (ended.1 count))
      (fun _ _ _ => trivial)

end Scsi2Pi.AllocationLength
