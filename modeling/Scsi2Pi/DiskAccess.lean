import Scsi2Pi.DiskClass
import Scsi2Pi.HandlerContract

/-! What a command of a disk does up to its first sector: the checks that refuse it,
and what it leaves behind for ReadData and WriteData. -/
namespace Scsi2Pi
open Handler Derives Eff

namespace Disk

/- CheckReady finds nothing to report. -/
def Accessible (d : Disk) : Prop := d.reset = false ∧ d.attn = false ∧ d.ready = true

instance : DecidablePred Accessible := fun _ => inferInstanceAs (Decidable (_ ∧ _ ∧ _))

def start (r : Request) (mode : AccessMode) : Nat := (startAndCount r mode).1

def count (r : Request) (mode : AccessMode) : Nat := (startAndCount r mode).2

/- The sectors exist as far as CheckAndGetStartAndCount can tell. -/
def InRange (d : Disk) (r : Request) (mode : AccessMode) : Prop :=
  d.blocks ≠ 0 ∧ (start r mode + count r mode) % 2^64 ≤ d.blocks

instance (d : Disk) (r : Request) (mode : AccessMode) : Decidable (d.InRange r mode) :=
  inferInstanceAs (Decidable (_ ∧ _))

def perChunk (d : Disk) (count : Nat) : Nat := if d.cachingMode = .linuxOptimized then count else 1

def transfers (r : Request) (mode : AccessMode) : Bool := count r mode ≠ 0 || mode = .seek6 || mode = .seek10

variable {r : Request} {s : HandlerState Disk} {mode : AccessMode}

/- Exceptions about the state of the device are not about the address. -/
def Refuses (e : ScsiException) : Prop := e ≠ ⟨.illegalRequest,.lbaOutOfRange⟩

instance : DecidablePred Refuses := fun _ => inferInstanceAs (Decidable (_ ≠ _))

theorem checkReadyOk (ready : s.device.Accessible) : checkReady r s = (.ok (),s) := by
  obtain ⟨reset,attn,ready⟩ := ready
  simp [checkReady,super,zoom,PrimaryDevice.checkReady,bind,pure,getDevice,base,setBase,reset,attn,ready]

theorem checkReadyFails (busy : ¬s.device.Accessible) :
    ∃ e d, checkReady r s = (.error e,{ s with device := d }) ∧ Refuses e := by
  unfold checkReady PrimaryDevice.checkReady
  cases reset : s.device.reset with
  | true =>
    refine ⟨⟨.unitAttention,.powerOnOrReset⟩,{ s.device with reset := false },?_,by decide⟩
    simp [super,zoom,bind,getDevice,modifyDevice,throw,throwThe,MonadExceptOf.throw,base,setBase,reset]
  | false =>
    cases attn : s.device.attn with
    | true =>
      refine ⟨⟨.unitAttention,.notReadyToReadyChange⟩,{ s.device with attn := false },?_,by decide⟩
      simp [super,zoom,bind,getDevice,modifyDevice,throw,throwThe,MonadExceptOf.throw,base,setBase,reset,attn]
    | false =>
      have ready : s.device.ready = false := Bool.eq_false_iff.mpr fun ready => busy ⟨reset,attn,ready⟩
      refine ⟨⟨.notReady,.mediumNotPresent⟩,s.device,?_,by decide⟩
      simp [super,zoom,bind,getDevice,throw,throwThe,MonadExceptOf.throw,base,setBase,reset,attn,ready]

theorem addressOk (ready : s.device.Accessible) (range : s.device.InRange r mode) :
    checkAndGetStartAndCount mode r s =
      (.ok (transfers r mode,start r mode,count r mode),s) := by
  have below : ¬(s.device.blocks = 0 ∨ s.device.blocks < (start r mode + count r mode) % 2^64) :=
    fun wrong => wrong.elim range.1 (Nat.not_lt.mpr range.2)
  refine (bindOk (checkReadyOk ready)).trans (ranOk ?_)
  simp only [wpBind,wpGetRequest,wpGetDevice,wpIte,wpThrow,wpPure]
  exact ⟨fun wrong => (below wrong).elim,fun _ => ⟨rfl,trivial⟩⟩

theorem addressOutOfRange (ready : s.device.Accessible) (range : ¬s.device.InRange r mode) :
    checkAndGetStartAndCount mode r s = (.error ⟨.illegalRequest,.lbaOutOfRange⟩,s) := by
  have beyond : s.device.blocks = 0 ∨ s.device.blocks < (start r mode + count r mode) % 2^64 := by
    by_contra inside
    exact range ⟨fun none => inside (.inl none),Nat.not_lt.mp fun more => inside (.inr more)⟩
  refine (bindOk (checkReadyOk ready)).trans (ranError ?_)
  simp only [wpBind,wpGetRequest,wpGetDevice,wpIte,wpThrow,wpPure]
  exact ⟨fun _ => ⟨trivial,trivial⟩,fun inside => inside beyond⟩

variable (mode) in
theorem addressFails (busy : ¬s.device.Accessible) :
    ∃ e d, checkAndGetStartAndCount mode r s = (.error e,{ s with device := d }) ∧ Refuses e := by
  obtain ⟨e,d,ran,refuses⟩ := checkReadyFails busy (r := r)
  exact ⟨e,d,bindError ran,refuses⟩

/-! What a transfer starts from. -/

def prepared (d : Disk) (start count : Nat) : Disk :=
  { d with nextSector := start, sectorTransferCount := d.perChunk count }

def preparedTransfer (d : Disk) (t : Transfer) (count : Nat) : Transfer :=
  t.setTransferSize (size count d.blockSize) (size (d.perChunk count) d.blockSize)

theorem prepareTransferRuns (start count : Nat) : prepareTransfer start count r s =
    (.ok (s.device.perChunk count),⟨s.device.prepared start count,s.device.preparedTransfer s.transfer count,s.world⟩) := rfl

def Writable (d : Disk) : Prop := d.writeProtected = false

instance : DecidablePred Writable := fun _ => inferInstanceAs (Decidable (_ = _))

theorem preconditionsOk (writable : s.device.Writable) :
    (super StorageDevice.checkWritePreconditions : Handler Disk Unit) r s = (.ok (),s) := by
  have allowed : s.device.writeProtected = false := writable
  simp [super,zoom,StorageDevice.checkWritePreconditions,bind,pure,getDevice,base,setBase,allowed]

theorem preconditionsFail (protect : ¬s.device.Writable) :
    (super StorageDevice.checkWritePreconditions : Handler Disk Unit) r s = (.error ⟨.dataProtect,.writeProtected⟩,s) := by
  have denied : s.device.writeProtected = true := Bool.eq_true_of_not_eq_false protect
  simp [super,zoom,StorageDevice.checkWritePreconditions,bind,getDevice,throw,throwThe,MonadExceptOf.throw,base,
    setBase,denied]

theorem writeStarts (ready : s.device.Accessible) (writable : s.device.Writable)
    (range : s.device.InRange r mode) (some : transfers r mode = true) : write mode r s =
      (.ok (.dataOut (size (s.device.perChunk (count r mode)) s.device.blockSize)),
        ⟨s.device.prepared (start r mode) (count r mode),
          s.device.preparedTransfer s.transfer (count r mode),s.world⟩) := by
  refine (bindOk (preconditionsOk writable)).trans ((bindOk (addressOk ready range)).trans ?_)
  rw [some]
  rfl

theorem writeNothing (ready : s.device.Accessible) (writable : s.device.Writable)
    (range : s.device.InRange r mode) (none : transfers r mode = false) : write mode r s = (.ok .status,s) := by
  refine (bindOk (preconditionsOk writable)).trans ((bindOk (addressOk ready range)).trans ?_)
  rw [none]
  rfl

theorem writeOutOfRange (ready : s.device.Accessible) (writable : s.device.Writable)
    (range : ¬s.device.InRange r mode) : write mode r s = (.error ⟨.illegalRequest,.lbaOutOfRange⟩,s) :=
  (bindOk (preconditionsOk writable)).trans (bindError (addressOutOfRange ready range))

variable (mode) in
theorem writeFails (refused : ¬(s.device.Accessible ∧ s.device.Writable)) :
    ∃ e d, write mode r s = (.error e,{ s with device := d }) ∧ Refuses e := by
  by_cases writable : s.device.Writable
  · obtain ⟨e,d,ran,refuses⟩ := addressFails mode (fun ready => refused ⟨ready,writable⟩) (r := r)
    exact ⟨e,d,(bindOk (preconditionsOk writable)).trans (bindError ran),refuses⟩
  · exact ⟨_,s.device,bindError (preconditionsFail writable),by decide⟩

/-! READ, in whatever class of disks. -/

section
variable {δ : Type} [Derives δ Disk] {readData : Handler δ Int} {s : HandlerState δ}

def core (s : HandlerState δ) : HandlerState Disk := ⟨base s.device,s.transfer,s.world⟩

/- ReadData is called with the sizes of the whole command set. -/
def readyToRead (s : HandlerState δ) (start count : Nat) : HandlerState δ :=
  let d : Disk := base s.device
  ⟨setBase s.device (d.prepared start count),
    (d.preparedTransfer s.transfer count).setCurrentLength (size count d.blockSize),s.world⟩

theorem superSame {α : Type} {h : Handler Disk α} {result : Except ScsiException α}
    (ran : h r (core s) = (result,core s)) : super h r s = (result,s) := by
  refine (superRan ran).trans ?_
  simp only [core,setBaseSelf]

theorem readBegins (ready : (core s).device.Accessible) (range : (core s).device.InRange r mode)
    (some : transfers r mode = true) : read readData mode r s =
      (readData >>= fun n => pure (.dataIn n)) r (readyToRead s (start r mode) (count r mode)) := by
  refine (bindOk (superSame (addressOk ready range))).trans ?_
  dsimp only
  rw [if_pos some]
  refine (bindOk (superRan (prepareTransferRuns _ _))).trans ?_
  refine (bindOk (getDeviceRan _ _)).trans ((bindOk (setCurrentLengthRan _ _ _)).trans ?_)
  rw [baseSet]
  rfl

theorem readStarts {n : Int} {t : HandlerState δ} (ready : (core s).device.Accessible)
    (range : (core s).device.InRange r mode) (some : transfers r mode = true)
    (ran : readData r (readyToRead s (start r mode) (count r mode)) = (.ok n,t)) :
    read readData mode r s = (.ok (.dataIn n),t) :=
  (readBegins ready range some).trans (bindOk ran)

theorem readStops {e : ScsiException} {t : HandlerState δ} (ready : (core s).device.Accessible)
    (range : (core s).device.InRange r mode) (some : transfers r mode = true)
    (ran : readData r (readyToRead s (start r mode) (count r mode)) = (.error e,t)) :
    read readData mode r s = (.error e,t) :=
  (readBegins ready range some).trans (bindError ran)

theorem readNothing (ready : (core s).device.Accessible) (range : (core s).device.InRange r mode)
    (none : transfers r mode = false) : read readData mode r s = (.ok .status,s) := by
  refine (bindOk (superSame (addressOk ready range))).trans ?_
  dsimp only
  rw [if_neg (by rw [none]; decide)]
  rfl

theorem readOutOfRange (ready : (core s).device.Accessible) (range : ¬(core s).device.InRange r mode) :
    read readData mode r s = (.error ⟨.illegalRequest,.lbaOutOfRange⟩,s) :=
  bindError (superSame (addressOutOfRange ready range))

variable (mode readData) in
theorem readFails (busy : ¬(core s).device.Accessible) :
    ∃ e d, read readData mode r s = (.error e,{ s with device := d }) ∧ Refuses e := by
  obtain ⟨e,d,ran,refuses⟩ := addressFails mode busy (r := r)
  exact ⟨e,setBase s.device d,bindError (superRan ran),refuses⟩

end

end Disk
end Scsi2Pi
