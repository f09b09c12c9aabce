import Scsi2Pi.AllocationRun

/-! MODE SELECT(6) and MODE SELECT(10) with the same parameters. -/
namespace Scsi2Pi.ModeSelect
open Slices MemoryUtil Handler Derives Eff Controller TransferBudget
open AllocationLength (received commandAccepts)

/- Controllers that differ in their CDBs, buffers and logs only. -/
structure Alike (a b : Controller AnyDevice) : Prop where
  phase : b.phase = a.phase
  lines : b.lines = a.lines
  lun : b.getEffectiveLun = a.getEffectiveLun
  initiator : b.initiatorId = a.initiatorId
  luns : b.luns = a.luns
  world : b.world = a.world
  deferredSenseKey : b.deferredSenseKey = a.deferredSenseKey
  deferredAsc : b.deferredAsc = a.deferredAsc
  linked : b.linked = a.linked
  flag : b.flag = a.flag
  status : b.transfer.status = a.transfer.status

variable {a b c : Controller AnyDevice}

theorem Alike.modifyBase (h : Alike a b) (lun : Nat) (f : PrimaryDevice → PrimaryDevice) :
    Alike (a.modifyBase lun f) (b.modifyBase lun f) := by
  refine ⟨h.phase,h.lines,h.lun,h.initiator,?_,h.world,h.deferredSenseKey,h.deferredAsc,h.linked,h.flag,h.status⟩
  change Function.update b.luns lun _ = Function.update a.luns lun _
  rw [h.luns]

theorem Alike.setStatus (h : Alike a b) (status : StatusCode) : Alike (a.setStatus status) (b.setStatus status) :=
  ⟨h.phase,h.lines,h.lun,h.initiator,h.luns,h.world,h.deferredSenseKey,h.deferredAsc,h.linked,h.flag,rfl⟩

theorem Alike.setCurrentLength (h : Alike a b) (length : Int) :
    Alike (a.setCurrentLength length) (b.setCurrentLength length) :=
  ⟨h.phase,h.lines,h.lun,h.initiator,h.luns,h.world,h.deferredSenseKey,h.deferredAsc,h.linked,h.flag,h.status⟩

theorem Alike.enterStatus (h : Alike a b) : Alike a.enterStatus b.enterStatus := by
  refine ⟨rfl,?_,h.lun,h.initiator,h.luns,h.world,h.deferredSenseKey,h.deferredAsc,h.linked,h.flag,h.status⟩
  change { b.lines with msg := false, cd := true, io := true } = { a.lines with msg := false, cd := true, io := true }
  rw [h.lines]

/- A free bus has no LUN identified. -/
structure AlikeFree (a b : Controller AnyDevice) : Prop where
  phase : b.phase = a.phase
  luns : b.luns = a.luns
  world : b.world = a.world
  deferredSenseKey : b.deferredSenseKey = a.deferredSenseKey
  deferredAsc : b.deferredAsc = a.deferredAsc
  status : b.transfer.status = a.transfer.status

theorem Alike.free (h : Alike a b) : AlikeFree a b :=
  ⟨h.phase,h.luns,h.world,h.deferredSenseKey,h.deferredAsc,h.status⟩

theorem Alike.busFree (h : Alike a b) : AlikeFree a.busFree b.busFree := by
  unfold Controller.busFree
  rw [h.phase,h.lines]
  split
  · exact ⟨rfl,h.luns,h.world,h.deferredSenseKey,h.deferredAsc,rfl⟩
  · split
    · exact ⟨rfl,h.luns,h.world,h.deferredSenseKey,h.deferredAsc,h.status⟩
    · exact h.free

theorem Alike.error (h : Alike a b) (s : SenseKey) (x : Asc) (status : StatusCode) :
    AlikeFree (a.error s x status) (b.error s x status) := by
  unfold Controller.error
  rw [h.lines,h.phase,h.lun,h.luns]
  split
  · exact h.busFree
  · dsimp only
    refine (Alike.enterStatus (Alike.setStatus ?_ status)).free
    split
    · exact h.modifyBase _ _
    · exact h

/- No error ends in DATA OUT. -/
theorem errorPhase (s : SenseKey) (x : Asc) (status : StatusCode) (early : c.phase = .command) :
    (c.error s x status).phase ≠ .dataOut := by
  unfold Controller.error
  split
  · unfold Controller.busFree
    rw [if_pos (by rw [early]; decide)]
    change BusPhase.busFree ≠ _
    decide
  · change BusPhase.status ≠ _
    decide

theorem Alike.raiseDeferredError (h : Alike a b) (s : SenseKey) (x : Asc) :
    AlikeFree (a.raiseDeferredError s x) (b.raiseDeferredError s x) := by
  unfold Controller.raiseDeferredError
  have noted : Alike { a with deferredSenseKey := s, deferredAsc := x } { b with deferredSenseKey := s, deferredAsc := x } :=
    ⟨h.phase,h.lines,h.lun,h.initiator,h.luns,h.world,rfl,rfl,h.linked,h.flag,h.status⟩
  exact noted.error s x .checkCondition

theorem raisePhase (s : SenseKey) (x : Asc) (early : c.phase = .command) :
    (c.raiseDeferredError s x).phase ≠ .dataOut := by
  unfold Controller.raiseDeferredError
  exact errorPhase (c := { c with deferredSenseKey := s, deferredAsc := x }) s x .checkCondition early

/-! What the devices answer. -/

/- How the page handler of a device has been constructed: does it support MODE SELECT
and saving parameters? -/
def selectFlags : AnyDevice → Option (Bool × Bool)
  | .scsiHd _ | .opticalMemory _ => some (true,true)
  | .scsiCd _ | .tape _ => some (true,false)
  | .sasiHd _ | .hostServices _ => some (false,false)
  | .printer _ | .daynaPort _ | .scsiGeneric _ => none

def mediumChanged (d : AnyDevice) : Bool := d.storage.any (·.mediumChanged)

/- The second byte of the CDB has the SP bit. -/
def Willing (d : AnyDevice) (options : Nat) : Prop :=
  mediumChanged d = false ∧ ∃ save, selectFlags d = some (true,save) ∧ (save = true ∨ options &&& 0x01 = 0)

def refusal (d : AnyDevice) : ScsiException :=
  if mediumChanged d then ⟨.unitAttention,.notReadyToReadyChange⟩
  else if (selectFlags d).isSome then ⟨.illegalRequest,.invalidFieldInCdb⟩
  else ⟨.illegalRequest,.invalidCommandOperationCode⟩

def refused (d : AnyDevice) : AnyDevice :=
  if mediumChanged d then d.mapStorage fun s => { s with mediumChanged := false } else d

/- The command and its parameter list length, as the page handler reads it. -/
def Asks (r : Request) (length : Nat) : Prop :=
  r.opcode = .modeSelect6 ∧ length = r.cdbByte 4 ∨ r.opcode = .modeSelect10 ∧ length = r.cdbInt24 7

/- The result of a computation whose ends are known. -/
theorem resultOf {δ α : Type} {h : Handler δ α} {r : Request} {s : HandlerState δ}
    {result : Except ScsiException α × HandlerState δ}
    (ends : wp h r s (fun a t => (.ok a,t) = result) (fun e t => (.error e,t) = result)) : h r s = result := by
  unfold wp at ends
  cases ran : h r s with
  | mk x t =>
    rw [ran] at ends
    cases x <;> exact ends

theorem selectAnswers {δ : Type} {supports save : Bool} {length : Nat} {r : Request} {s : HandlerState δ} :
    PageHandler.modeSelect supports save length r s =
      (if supports = true ∧ (save = true ∨ r.cdbByte 1 &&& 0x01 = 0) then .ok (.dataOut length)
        else .error ⟨.illegalRequest,.invalidFieldInCdb⟩,s) := by
  refine resultOf ?_
  unfold PageHandler.modeSelect
  simp only [wpBind,wpGetRequest,wpIte,wpThrow,wpPure]
  have same : (!supports || !save && decide (r.cdbByte 1 &&& 0x01 ≠ 0)) = true ↔
      ¬(supports = true ∧ (save = true ∨ r.cdbByte 1 &&& 0x01 = 0)) := by
    cases supports <;> cases save <;> simp
  refine ⟨fun wrong => ?_,fun right => ?_⟩
  · rw [if_neg (same.mp wrong)]
  · rw [if_pos (not_not.mp (mt same.mpr right))]

theorem listedAnswers {δ : Type} {commands : List (ScsiCommand × Handler δ PhaseCall)} {supports save : Bool}
    (six : Handler.dispatch commands .modeSelect6 = do PageHandler.modeSelect supports save ((← getRequest).cdbByte 4))
    (ten : Handler.dispatch commands .modeSelect10 = do PageHandler.modeSelect supports save ((← getRequest).cdbInt24 7))
    {r : Request} {s : HandlerState δ} {length : Nat} (asks : Asks r length) :
    Handler.dispatch commands r.opcode r s =
      (if supports = true ∧ (save = true ∨ r.cdbByte 1 &&& 0x01 = 0) then .ok (.dataOut length)
        else .error ⟨.illegalRequest,.invalidFieldInCdb⟩,s) := by
  rcases asks with ⟨op,rfl⟩ | ⟨op,rfl⟩
  · rw [op,six]
    exact selectAnswers
  · rw [op,ten]
    exact selectAnswers

/- A changed medium is reported instead. -/
theorem storageAnswers {δ : Type} [Derives δ StorageDevice] (commands : List (ScsiCommand × Handler δ PhaseCall))
    {r : Request} {s : HandlerState δ} {length : Nat} (asks : Asks r length) :
    StorageDevice.dispatch commands r.opcode r s =
      if (base s.device : StorageDevice).mediumChanged = true then
        (.error ⟨.unitAttention,.notReadyToReadyChange⟩,
          { s with device := setBase s.device { (base s.device : StorageDevice) with mediumChanged := false } })
      else Handler.dispatch commands r.opcode r s := by
  have other : r.opcode ≠ .inquiry ∧ r.opcode ≠ .requestSense := by
    rcases asks with ⟨op,_⟩ | ⟨op,_⟩ <;> rw [op] <;> decide
  refine resultOf ?_
  unfold StorageDevice.dispatch StorageDevice.reportMediumChange
  simp only [wpBind,wpSuper,wpGetDevice,wpIte,wpThrow,wpPure,wpModifyDevice,setBaseSelf]
  refine ⟨fun changed => ?_,fun same => ?_⟩
  · rw [if_pos changed.2.2]
  · rw [if_neg fun changed => same ⟨other.1,other.2,changed⟩]
    unfold wp
    cases Handler.dispatch commands r.opcode r s with
    | mk x t => cases x <;> rfl

def Answered (s : HandlerState AnyDevice) (options length : Nat)
    (result : Except ScsiException PhaseCall × HandlerState AnyDevice) : Prop :=
  (Willing s.device options → result = (.ok (.dataOut length),s)) ∧
    (¬Willing s.device options → result = (.error (refusal s.device),{ s with device := refused s.device }))

section
variable {δ : Type} (put : δ → AnyDevice) {supports save : Bool} {d : δ} {r : Request} {t : Transfer} {w : World} {length : Nat}

theorem withinStorage [Derives δ StorageDevice] {commands : List (ScsiCommand × Handler δ PhaseCall)}
    (six : Handler.dispatch commands .modeSelect6 = do PageHandler.modeSelect supports save ((← getRequest).cdbByte 4))
    (ten : Handler.dispatch commands .modeSelect10 = do PageHandler.modeSelect supports save ((← getRequest).cdbInt24 7))
    (storage : (put d).storage = some (base d))
    (noted : (put d).mapStorage (fun s => { s with mediumChanged := false }) =
      put (setBase d { (base d : StorageDevice) with mediumChanged := false }))
    (flags : selectFlags (put d) = some (supports,save)) (asks : Asks r length) :
    Answered ⟨put d,t,w⟩ (r.cdbByte 1) length
      (AnyDevice.within put (StorageDevice.dispatch commands r.opcode) d r ⟨put d,t,w⟩) := by
  have same : mediumChanged (put d) = (base d : StorageDevice).mediumChanged := by
    rw [mediumChanged,storage]
    rfl
  unfold AnyDevice.within Answered Willing refusal refused
  dsimp only
  rw [storageAnswers commands asks,listedAnswers six ten asks,same,noted,flags]
  dsimp only
  cases changed : (base d : StorageDevice).mediumChanged with
  | true => exact ⟨fun willing => absurd willing.1 (by decide),fun _ => rfl⟩
  | false =>
    refine ⟨fun ⟨_,save_,same,bit⟩ => ?_,fun unwilling => ?_⟩
    · cases same
      simp only [Bool.false_eq_true,if_false,true_and,if_pos bit]
    · have not_ : ¬(supports = true ∧ (save = true ∨ r.cdbByte 1 &&& 0x01 = 0)) :=
        fun ⟨yes,bit⟩ => unwilling ⟨rfl,save,by rw [yes],bit⟩
      simp only [Bool.false_eq_true,if_false,if_neg not_,Option.isSome_some,if_true]

/- Devices without MODE SELECT, or with a page handler that does not support it. -/
theorem withinPeripheral (commands : List (ScsiCommand × Handler δ PhaseCall)) (storage : (put d).storage = none) {x : ScsiException}
    (answer : refusal (put d) = x) (unwilling : ∀ options, ¬Willing (put d) options)
    (ends : Handler.dispatch commands r.opcode r ⟨d,t,w⟩ = (.error x,⟨d,t,w⟩)) :
    Answered ⟨put d,t,w⟩ (r.cdbByte 1) length
      (AnyDevice.within put (Handler.dispatch commands r.opcode) d r ⟨put d,t,w⟩) := by
  have same : refused (put d) = put d := by
    rw [refused,mediumChanged,storage]
    rfl
  refine ⟨fun willing => absurd willing (unwilling _),fun _ => ?_⟩
  unfold AnyDevice.within
  rw [ends,same,answer]

end

theorem dispatchAnswers {r : Request} {s : HandlerState AnyDevice} {length : Nat} (asks : Asks r length)
    (emulated : ∀ g, s.device ≠ .scsiGeneric g) :
    Answered s (r.cdbByte 1) length (AnyDevice.methods.dispatch r.opcode r s) := by
  obtain ⟨device,t,w⟩ := s
  cases device with
  | scsiHd d => exact withinStorage .scsiHd rfl rfl rfl rfl rfl asks
  | sasiHd d => exact withinStorage .sasiHd rfl rfl rfl rfl rfl asks
  | opticalMemory d => exact withinStorage .opticalMemory rfl rfl rfl rfl rfl asks
  | scsiCd d => exact withinStorage .scsiCd rfl rfl rfl rfl rfl asks
  | tape d => exact withinStorage .tape rfl rfl rfl rfl rfl asks
  | printer d =>
    refine withinPeripheral .printer Printer.commands rfl rfl ?_ ?_
    · rintro options ⟨_,save,same,_⟩
      cases same
    · rcases asks with ⟨op,_⟩ | ⟨op,_⟩ <;> rw [op] <;> rfl
  | daynaPort d =>
    refine withinPeripheral .daynaPort DaynaPort.commands rfl rfl ?_ ?_
    · rintro options ⟨_,save,same,_⟩
      cases same
    · rcases asks with ⟨op,_⟩ | ⟨op,_⟩ <;> rw [op] <;> rfl
  | hostServices d =>
    refine withinPeripheral .hostServices HostServices.commands rfl rfl ?_ ?_
    · rintro options ⟨_,save,same,_⟩
      cases same
    · rcases asks with ⟨op,_⟩ | ⟨op,_⟩ <;> rw [op] <;> rfl
  | scsiGeneric g => exact absurd rfl (emulated g)

/-! The commands. -/

def IsModeSelect (cmd : ScsiCommand) : Prop := cmd = .modeSelect6 ∨ cmd = .modeSelect10

/- The device that is asked: present, not reserved by another initiator and willing. -/
def Asked (a : Controller AnyDevice) : Prop :=
  ∃ d, a.luns a.getEffectiveLun = some d ∧ d.primary.checkReservation (a.request {}) = true ∧
    Willing d (byteAt a.cdb 1)

theorem willingSensed (d : AnyDevice) (options : Nat) :
    Willing (d.setPrimary d.primary.resetStatus) options ↔ Willing d options := by
  have changed : mediumChanged (d.setPrimary d.primary.resetStatus) = mediumChanged d := by
    cases d <;> rfl
  have flags : selectFlags (d.setPrimary d.primary.resetStatus) = selectFlags d := by
    cases d <;> rfl
  rw [Willing,changed,flags,Willing]

/- MODE SELECT is not exempt from reservations. -/
theorem reservationOf {d : PrimaryDevice} (r r' : Request) (op : IsModeSelect r.opcode) (op' : IsModeSelect r'.opcode)
    (initiator : r'.initiatorId = r.initiatorId) : d.checkReservation r' = d.checkReservation r := by
  have exempt : ∀ {r : Request}, IsModeSelect r.opcode → PrimaryDevice.reservationExempt r = false := by
    intro r op
    unfold PrimaryDevice.reservationExempt
    rcases op with op | op <;> rw [op] <;> rfl
  unfold PrimaryDevice.checkReservation
  rw [exempt op,exempt op',initiator]

theorem preparedOf (op : IsModeSelect a.opcode) (lun : Nat) : prepared a lun =
    ((((a.setCurrentLength 0).resetOffset).setTransferSize 0 0).setStatus .good).modifyBase lun
      PrimaryDevice.resetStatus := by
  have other : (((a.setCurrentLength 0).resetOffset).setTransferSize 0 0).opcode ≠ .requestSense := by
    change a.opcode ≠ _
    rcases op with op | op <;> rw [op] <;> decide
  exact if_pos other

theorem Alike.prepared (h : Alike a b) (op : IsModeSelect a.opcode) (op' : IsModeSelect b.opcode) (lun : Nat) :
    Alike (TransferBudget.prepared a lun) (TransferBudget.prepared b lun) := by
  rw [preparedOf op,preparedOf op']
  refine Alike.modifyBase (Alike.setStatus ?_ _) _ _
  exact ⟨h.phase,h.lines,h.lun,h.initiator,h.luns,h.world,h.deferredSenseKey,h.deferredAsc,h.linked,h.flag,h.status⟩

theorem preparedHas {d : AnyDevice} (op : IsModeSelect a.opcode) (here : a.luns a.getEffectiveLun = some d) :
    (prepared a a.getEffectiveLun).luns a.getEffectiveLun = some (d.setPrimary d.primary.resetStatus) := by
  rw [preparedOf op]
  refine (Function.update_self a.getEffectiveLun _ _).trans ?_
  change Option.map _ (a.luns a.getEffectiveLun) = _
  rw [here]
  rfl

/- Every way a MODE SELECT command can begin. -/
inductive Begun (i : Input) (a d : Controller AnyDevice) : Prop where
  | missing (lun : a.luns a.getEffectiveLun = none)
      (same : d = (((a.setCurrentLength 0).resetOffset).setTransferSize 0 0).error .illegalRequest
        .logicalUnitNotSupported)
  | conflict (dev : AnyDevice) (here : a.luns a.getEffectiveLun = some dev)
      (reserved : dev.primary.checkReservation (a.request {}) = false)
      (same : d = (prepared a a.getEffectiveLun).error .illegalRequest .noAdditionalSenseInformation .reservationConflict)
  | unwilling (dev : AnyDevice) (here : a.luns a.getEffectiveLun = some dev)
      (free : dev.primary.checkReservation (a.request {}) = true) (not : ¬Willing dev (byteAt a.cdb 1))
      (same : d = ((prepared a a.getEffectiveLun).ranHandler a.getEffectiveLun
        ⟨refused (dev.setPrimary dev.primary.resetStatus),(prepared a a.getEffectiveLun).transfer,
          (prepared a a.getEffectiveLun).world⟩).error (refusal (dev.setPrimary dev.primary.resetStatus)).senseKey
        (refusal (dev.setPrimary dev.primary.resetStatus)).asc)
  | asked (dev : AnyDevice) (here : a.luns a.getEffectiveLun = some dev)
      (free : dev.primary.checkReservation (a.request {}) = true) (willing : Willing dev (byteAt a.cdb 1))
      (length : Nat) (asks : Asks (a.request {}) length)
      (same : d = ((prepared a a.getEffectiveLun).ranHandler a.getEffectiveLun
        ⟨dev.setPrimary dev.primary.resetStatus,(prepared a a.getEffectiveLun).transfer,
          (prepared a a.getEffectiveLun).world⟩).callPhase i (.dataOut length))

theorem begins (op : IsModeSelect a.opcode) (i : Input)
    (emulated : ∀ g, a.luns a.getEffectiveLun ≠ some (.scsiGeneric g)) :
    Begun i a (a.execute AnyDevice.methods i) := by
  have others : a.opcode ≠ .inquiry ∧ a.opcode ≠ .requestSense := by
    rcases op with op | op <;> rw [op] <;> decide
  cases here : a.luns a.getEffectiveLun with
  | none =>
    refine .missing here ?_
    have absent : ((((a.setCurrentLength 0).resetOffset).setTransferSize 0 0).luns
        (((a.setCurrentLength 0).resetOffset).setTransferSize 0 0).getEffectiveLun).isNone = true := by
      change (a.luns a.getEffectiveLun).isNone = true
      rw [here]
      rfl
    unfold execute
    dsimp only
    rw [absent,Bool.true_and,if_pos]
    exact Bool.and_eq_true_iff.mpr ⟨decide_eq_true others.1,decide_eq_true others.2⟩
  | some dev =>
    have found := preparedHas op here
    obtain ⟨_,_,_,opcode_,_,cdb,_,_,lun,initiator⟩ := preparedSame a a.getEffectiveLun
    have sensed : ∀ r, (dev.setPrimary dev.primary.resetStatus).primary.checkReservation r =
        dev.primary.checkReservation r := by
      intro r
      rw [AnyDevice.setPrimaryPrimary]
      rfl
    have reservation : (base (dev.setPrimary dev.primary.resetStatus) : PrimaryDevice).checkReservation
        ((prepared a a.getEffectiveLun).request i.env) = dev.primary.checkReservation (a.request {}) :=
      (sensed _).trans (AllocationLength.reservationSame cdb initiator)
    have dispatched : a.execute AnyDevice.methods i =
        (prepared a a.getEffectiveLun).dispatchTo AnyDevice.methods i a.getEffectiveLun
          (dev.setPrimary dev.primary.resetStatus) := by
      have somewhere : (((a.setCurrentLength 0).resetOffset).setTransferSize 0 0).luns
          (((a.setCurrentLength 0).resetOffset).setTransferSize 0 0).getEffectiveLun = some dev := here
      unfold execute
      dsimp only
      rw [somewhere]
      simp only [Option.isNone_some,Bool.false_and,Bool.false_eq_true,if_false]
      have found : ((((a.setCurrentLength 0).resetOffset).setTransferSize 0 0).discardSense
          (((a.setCurrentLength 0).resetOffset).setTransferSize 0 0).getEffectiveLun).luns
          (((a.setCurrentLength 0).resetOffset).setTransferSize 0 0).getEffectiveLun =
            some (dev.setPrimary dev.primary.resetStatus) := found
      rw [found]
      rfl
    cases free : dev.primary.checkReservation (a.request {}) with
    | false =>
      refine .conflict dev here free ?_
      rw [dispatched]
      exact dispatchRefused _ (reservation.trans free)
    | true =>
      have allowed := reservation.trans free
      have asksBoth : ∃ length, Asks ((prepared a a.getEffectiveLun).request i.env) length ∧
          Asks (a.request {}) length := by
        have sameOp : ((prepared a a.getEffectiveLun).request i.env).opcode = a.opcode := opcode_
        have sameCdb : ((prepared a a.getEffectiveLun).request i.env).cdb = a.cdb := cdb
        rcases op with op | op
        · refine ⟨byteAt a.cdb 4,.inl ⟨sameOp.trans op,?_⟩,.inl ⟨op,rfl⟩⟩
          rw [Request.cdbByte,sameCdb]
        · refine ⟨getInt24 a.cdb 7,.inr ⟨sameOp.trans op,?_⟩,.inr ⟨op,rfl⟩⟩
          rw [Request.cdbInt24,sameCdb]
      obtain ⟨length,asks,asks_⟩ := asksBoth
      have plain : ∀ g, dev.setPrimary dev.primary.resetStatus ≠ .scsiGeneric g := by
        intro g same
        cases dev with
        | scsiGeneric x => exact emulated x here
        | _ => cases same
      have answer := dispatchAnswers (s := ⟨dev.setPrimary dev.primary.resetStatus,
        (prepared a a.getEffectiveLun).transfer,(prepared a a.getEffectiveLun).world⟩) asks plain
      have option : ((prepared a a.getEffectiveLun).request i.env).cdbByte 1 = byteAt a.cdb 1 :=
        congrArg (byteAt · 1) cdb
      rw [option] at answer
      by_cases willing : Willing dev (byteAt a.cdb 1)
      · refine .asked dev here free willing length asks_ ?_
        rw [dispatched]
        exact dispatchOk AnyDevice.methods allowed (answer.1 ((willingSensed dev _).mpr willing))
      · refine .unwilling dev here free willing ?_
        rw [dispatched]
        exact dispatchError AnyDevice.methods allowed (answer.2 fun w => willing ((willingSensed dev _).mp w))

theorem Alike.ranHandler (h : Alike a b) (lun : Nat) (d : AnyDevice) :
    Alike (a.ranHandler lun ⟨d,a.transfer,a.world⟩) (b.ranHandler lun ⟨d,b.transfer,b.world⟩) := by
  refine ⟨h.phase,h.lines,h.lun,h.initiator,?_,h.world,h.deferredSenseKey,h.deferredAsc,h.linked,h.flag,h.status⟩
  change Function.update b.luns lun _ = Function.update a.luns lun _
  rw [h.luns]

/- A command that is not accepted ends the same way. -/
theorem begunAlike {d e : Controller AnyDevice} {i i' : Input} (h : Alike a b) (op : IsModeSelect a.opcode)
    (op' : IsModeSelect b.opcode) (options : byteAt b.cdb 1 = byteAt a.cdb 1) (early : a.phase = .command)
    (not : ¬Asked a) (begun : Begun i a d) (begun' : Begun i' b e) :
    AlikeFree d e ∧ d.phase ≠ .dataOut ∧ e.phase ≠ .dataOut := by
  have reservation : ∀ dev : AnyDevice,
      dev.primary.checkReservation (b.request {}) = dev.primary.checkReservation (a.request {}) :=
    fun dev => reservationOf (a.request {}) (b.request {}) op op' h.initiator
  have begins : ∀ lun, (prepared a lun).phase = .command := fun lun => (preparedSame a lun).2.1.trans early
  have begins' : ∀ lun, (prepared b lun).phase = .command :=
    fun lun => (preparedSame b lun).2.1.trans (h.phase.trans early)
  cases begun with
  | asked dev here free willing => exact absurd ⟨dev,here,free,willing⟩ not
  | missing lun same =>
    have lun' : b.luns b.getEffectiveLun = none := by rw [h.lun,h.luns,lun]
    cases begun' with
    | missing _ same' =>
      rw [same,same']
      refine ⟨Alike.error ?_ _ _ _,errorPhase _ _ _ early,errorPhase _ _ _ (h.phase.trans early)⟩
      exact ⟨h.phase,h.lines,h.lun,h.initiator,h.luns,h.world,h.deferredSenseKey,h.deferredAsc,h.linked,h.flag,h.status⟩
    | conflict dev here => exact absurd (lun'.symm.trans here) (by simp)
    | unwilling dev here => exact absurd (lun'.symm.trans here) (by simp)
    | asked dev here => exact absurd (lun'.symm.trans here) (by simp)
  | conflict dev here reserved same =>
    have here' : b.luns b.getEffectiveLun = some dev := by rw [h.lun,h.luns,here]
    have reserved' := (reservation dev).trans reserved
    cases begun' with
    | missing lun => exact absurd (lun.symm.trans here') (by simp)
    | conflict other there _ same' =>
      rw [same,same',h.lun]
      exact ⟨(h.prepared op op' _).error _ _ _,errorPhase _ _ _ (begins _),errorPhase _ _ _ (begins' _)⟩
    | unwilling other there free =>
      cases Option.some.inj (here'.symm.trans there)
      exact absurd (reserved'.symm.trans free) (by decide)
    | asked other there free =>
      cases Option.some.inj (here'.symm.trans there)
      exact absurd (reserved'.symm.trans free) (by decide)
  | unwilling dev here free unwilling same =>
    have here' : b.luns b.getEffectiveLun = some dev := by rw [h.lun,h.luns,here]
    have free' := (reservation dev).trans free
    cases begun' with
    | missing lun => exact absurd (lun.symm.trans here') (by simp)
    | conflict other there reserved =>
      cases Option.some.inj (here'.symm.trans there)
      exact absurd (free'.symm.trans reserved) (by decide)
    | unwilling other there _ _ same' =>
      cases Option.some.inj (here'.symm.trans there)
      rw [same,same',h.lun]
      exact ⟨((h.prepared op op' _).ranHandler _ _).error _ _ _,errorPhase _ _ _ (begins _),errorPhase _ _ _ (begins' _)⟩
    | asked other there _ willing =>
      cases Option.some.inj (here'.symm.trans there)
      rw [options] at willing
      exact absurd willing unwilling

theorem Alike.asked (h : Alike a b) (op : IsModeSelect a.opcode) (op' : IsModeSelect b.opcode)
    (options : byteAt b.cdb 1 = byteAt a.cdb 1) (asked : Asked a) : Asked b := by
  obtain ⟨dev,here,free,willing⟩ := asked
  refine ⟨dev,?_,(reservationOf (a.request {}) (b.request {}) op op' h.initiator).trans free,options ▸ willing⟩
  rw [h.lun,h.luns,here]

theorem dataOutBegins (c : Controller AnyDevice) (i : Input) {length : Nat} (some_ : length ≠ 0) :
    (c.callPhase i (.dataOut length)).phase = .dataOut ∧
      (c.callPhase i (.dataOut length)).transfer.currentLength = length := by
  have positive : (c.setCurrentLength length).transfer.currentLength ≠ 0 := by
    change (length : Int) ≠ 0
    omega
  have natural : (c.setCurrentLength length).transfer.currentLength ≠ -1 := by
    change (length : Int) ≠ -1
    omega
  have same : c.callPhase i (.dataOut length) =
      (((c.setCurrentLength length).setPhase .dataOut).setLines false false false).resetOffset := by
    unfold callPhase startDataOut
    dsimp only
    rw [if_neg positive,if_neg natural]
  rw [same]
  exact ⟨rfl,rfl⟩

theorem dataOutSkipped (c : Controller AnyDevice) (i : Input) (phase : c.phase ≠ .status) :
    c.callPhase i (.dataOut (0 : Nat)) = (c.setCurrentLength 0).enterStatus := by
  have none : (c.setCurrentLength (0 : Nat)).transfer.currentLength = 0 := rfl
  unfold callPhase startDataOut
  dsimp only
  rw [if_pos none]
  exact if_neg phase

/- An accepted command: the DATA OUT phase has the length that the page handler found. -/
theorem begunAsked {d : Controller AnyDevice} {i : Input} (asked : Asked a) (early : a.phase = .command)
    (begun : Begun i a d) :
    ∃ length, Asks (a.request {}) length ∧
      (length ≠ 0 → d.phase = .dataOut ∧ d.transfer.currentLength = length) ∧
      (length = 0 → ∃ dev, a.luns a.getEffectiveLun = some dev ∧
        d = (((prepared a a.getEffectiveLun).ranHandler a.getEffectiveLun
          ⟨dev.setPrimary dev.primary.resetStatus,(prepared a a.getEffectiveLun).transfer,
            (prepared a a.getEffectiveLun).world⟩).setCurrentLength 0).enterStatus) := by
  obtain ⟨dev,here,free,willing⟩ := asked
  cases begun with
  | missing lun => exact absurd (lun.symm.trans here) (by simp)
  | conflict other there reserved =>
    cases Option.some.inj (here.symm.trans there)
    exact absurd (free.symm.trans reserved) (by decide)
  | unwilling other there _ unwilling =>
    cases Option.some.inj (here.symm.trans there)
    exact absurd willing unwilling
  | asked other there _ _ length asks same =>
    refine ⟨length,asks,fun some_ => ?_,fun none => ⟨other,there,?_⟩⟩
    · rw [same]
      exact dataOutBegins _ i some_
    · subst none
      rw [same]
      refine dataOutSkipped _ i ?_
      change (prepared a a.getEffectiveLun).phase ≠ .status
      rw [(preparedSame a a.getEffectiveLun).2.1,early]
      decide

/-! Both commands with the same parameters. -/

def cdb6 (options r2 r3 control : UInt8) (list : Bytes) : Bytes :=
  [0x15,options,r2,r3,UInt8.ofNat list.length,control]

def cdb10 (options r2 r3 r4 r5 r6 control : UInt8) (list : Bytes) : Bytes :=
  [0x55,options,r2,r3,r4,r5,r6,UInt8.ofNat (list.length / 256),UInt8.ofNat list.length,control]

/- The same block descriptors and pages behind a header of 4 and of 8 bytes. The header
has a medium type, a device-specific parameter and the length of the block descriptors.
A list may also end in the header. -/
inductive SameParameters : Bytes → Bytes → Prop where
  | empty : SameParameters [] []
  | short {list6 list10 : Bytes} (six : 0 < list6.length ∧ list6.length < 4) (ten : 0 < list10.length ∧ list10.length < 8) :
      SameParameters list6 list10
  | header (medium specific descriptors r0 r1 r2 r3 r4 : UInt8) (rest : Bytes) :
      SameParameters ([r0,medium,specific,descriptors] ++ rest)
        ([r1,r2,medium,specific,r3,r4,0,descriptors] ++ rest)

/- The initiator sends the parameter list if it is asked for it. -/
def deliver (c : Controller AnyDevice) (list : Bytes) : Controller AnyDevice :=
  if c.phase = .dataOut then (c.process AnyDevice.methods { bytes := list }).process AnyDevice.methods {} else c

/- DATA OUT requests what the CDB says, and both commands end in the same way. -/
structure Agree (d e : Controller AnyDevice) (list6 list10 : Bytes) : Prop where
  six : d.phase = .dataOut → d.transfer.currentLength = list6.length
  ten : e.phase = .dataOut → e.transfer.currentLength = list10.length
  same : AlikeFree (deliver d list6) (deliver e list10)

/- The command gets past the controller, and the device does not refuse it. -/
def Accepted (a : Controller AnyDevice) : Prop := (a.flag = true → a.linked = true) ∧ Asked a

theorem receivedByte (c : Controller AnyDevice) {cdb : Bytes} {i : Nat} (inside : i < cdb.length) :
    byteAt (received c cdb).cdb i = byteAt cdb i := by
  change byteAt (setBytes c.cdb 0 cdb) i = byteAt cdb i
  simp [byteAt,setBytes,overwrite,List.getElem?_append_left inside]

theorem receivedOpcode (c : Controller AnyDevice) {cdb : Bytes} (inside : 0 < cdb.length) :
    (received c cdb).opcode = cdb.getD 0 0 := by
  change (setBytes c.cdb 0 cdb).getD 0 0 = cdb.getD 0 0
  simp [setBytes,overwrite,List.getElem?_append_left inside]

theorem receivedAlike (c : Controller AnyDevice) {six ten : Bytes} (long : 2 ≤ six.length ∧ 2 ≤ ten.length)
    (options : byteAt ten 1 = byteAt six 1)
    (control : byteAt ten (ten.length - 1) = byteAt six (six.length - 1)) :
    Alike (received c six) (received c ten) := by
  have linked : ∀ {cdb : Bytes}, 2 ≤ cdb.length →
      byteAt (received c cdb).cdb (cdb.length - 1) = byteAt cdb (cdb.length - 1) :=
    fun long => receivedByte c (by omega)
  have controls := ((linked long.2).trans control).trans (linked long.1).symm
  refine ⟨rfl,rfl,?_,rfl,rfl,rfl,rfl,rfl,?_,?_,rfl⟩
  · change c.identifiedLun.getD (byteAt (received c ten).cdb 1 / 32) =
      c.identifiedLun.getD (byteAt (received c six).cdb 1 / 32)
    rw [receivedByte c (by omega),receivedByte c (by omega),options]
  · change (byteAt (received c ten).cdb (ten.length - 1)).testBit 0 =
      (byteAt (received c six).cdb (six.length - 1)).testBit 0
    rw [controls]
  · change (byteAt (received c ten).cdb (ten.length - 1)).testBit 1 =
      (byteAt (received c six).cdb (six.length - 1)).testBit 1
    rw [controls]

theorem deliverNothing {list : Bytes} (phase : c.phase ≠ .dataOut) : deliver c list = c := if_neg phase

/- Nothing is asked for. -/
theorem agreeQuiet {d e : Controller AnyDevice} {list6 list10 : Bytes} (same : AlikeFree d e)
    (quiet : d.phase ≠ .dataOut) (quiet' : e.phase ≠ .dataOut) : Agree d e list6 list10 := by
  refine ⟨fun out => absurd out quiet,fun out => absurd out quiet',?_⟩
  rw [deliverNothing quiet,deliverNothing quiet']
  exact same

section
variable {i : Input} {options r2 r3 s2 s3 s4 s5 s6 control : UInt8} {list6 list10 : Bytes}

/- MODE SELECT(10) takes the control byte for the low byte of the length. -/
theorem askedLength {length : Nat} (fits : list10.length < 2^16)
    (asks : Asks ((received c (cdb10 options s2 s3 s4 s5 s6 control list10)).request {}) length) :
    length = list10.length * 256 + control.toNat := by
  have byte : ∀ k, k < 10 → byteAt (received c (cdb10 options s2 s3 s4 s5 s6 control list10)).cdb k =
      byteAt (cdb10 options s2 s3 s4 s5 s6 control list10) k := fun k less => receivedByte c less
  have op : ((received c (cdb10 options s2 s3 s4 s5 s6 control list10)).request {}).opcode = .modeSelect10 :=
    receivedOpcode c (by simp [cdb10])
  rcases asks with ⟨other,_⟩ | ⟨_,same⟩
  · rw [op] at other
    exact absurd other (by decide)
  · rw [same]
    change getInt24 (received c (cdb10 options s2 s3 s4 s5 s6 control list10)).cdb 7 = _
    unfold getInt24
    rw [byte 7 (by decide),byte 8 (by decide),byte 9 (by decide)]
    simp only [byteAt,cdb10,List.getD_cons_succ,List.getD_cons_zero,UInt8.toNat_ofNat']
    omega

/- The low byte of the length never is that of the CDB: both commands agree exactly if
neither of them has parameters to ask for. -/
theorem modeSelectAgree (ready : c.phase ≠ .command) (pair : SameParameters list6 list10)
    (fits : list6.length < 2^8 ∧ list10.length < 2^16)
    (emulated : ∀ g, (received c (cdb6 options r2 r3 control list6)).luns
      (received c (cdb6 options r2 r3 control list6)).getEffectiveLun ≠ some (.scsiGeneric g)) :
    Agree (c.command AnyDevice.methods { i with bytes := cdb6 options r2 r3 control list6 })
        (c.command AnyDevice.methods { i with bytes := cdb10 options s2 s3 s4 s5 s6 control list10 }) list6 list10 ↔
      ¬Accepted (received c (cdb6 options r2 r3 control list6)) ∨ list10 = [] ∧ control = 0 := by
  have six := commandAccepts (i := { i with bytes := cdb6 options r2 r3 control list6 }) ready
    (show commandHandShake (cdb6 options r2 r3 control list6) = (cdb6 options r2 r3 control list6,6) from rfl) (by decide)
  have ten := commandAccepts (i := { i with bytes := cdb10 options s2 s3 s4 s5 s6 control list10 }) ready
    (show commandHandShake (cdb10 options s2 s3 s4 s5 s6 control list10) =
      (cdb10 options s2 s3 s4 s5 s6 control list10,10) from rfl) (by decide)
  rw [six,ten]
  have alike : Alike (received c (cdb6 options r2 r3 control list6))
      (received c (cdb10 options s2 s3 s4 s5 s6 control list10)) := by
    refine receivedAlike c ?_ rfl rfl
    exact ⟨by simp [cdb6],by simp [cdb10]⟩
  have op : (received c (cdb6 options r2 r3 control list6)).opcode = .modeSelect6 := receivedOpcode c (by simp [cdb6])
  have op' : (received c (cdb10 options s2 s3 s4 s5 s6 control list10)).opcode = .modeSelect10 :=
    receivedOpcode c (by simp [cdb10])
  have same : byteAt (received c (cdb10 options s2 s3 s4 s5 s6 control list10)).cdb 1 =
      byteAt (received c (cdb6 options r2 r3 control list6)).cdb 1 := by
    rw [receivedByte c (by simp [cdb10]),receivedByte c (by simp [cdb6])]
    rfl
  have early : (received c (cdb6 options r2 r3 control list6)).phase = .command := rfl
  have length : ∀ n, Asks ((received c (cdb10 options s2 s3 s4 s5 s6 control list10)).request {}) n →
      n = list10.length * 256 + control.toNat := fun n => askedLength fits.2
  have length6 : ∀ n, Asks ((received c (cdb6 options r2 r3 control list6)).request {}) n → list6 = [] → n = 0 := by
    rintro n (⟨_,same⟩ | ⟨other,_⟩) none
    · subst none
      rw [same]
      exact receivedByte c (by simp [cdb6])
    · exact absurd (op.symm.trans other) (by decide)
  generalize received c (cdb6 options r2 r3 control list6) = a at *
  generalize received c (cdb10 options s2 s3 s4 s5 s6 control list10) = b at *
  by_cases flags : a.flag = true → a.linked = true
  · have passes : ¬(a.flag && !a.linked) = true := by simpa using flags
    have passes' : ¬(b.flag && !b.linked) = true := by rw [alike.flag,alike.linked]; exact passes
    have fresh : ¬(a.deferredSenseKey ≠ .noSense && a.opcode = .requestSense) = true := by
      rw [op]
      exact fun sense => absurd (of_decide_eq_true (Bool.and_eq_true_iff.mp sense).2) (by decide)
    have fresh' : ¬(b.deferredSenseKey ≠ .noSense && b.opcode = .requestSense) = true := by
      rw [op']
      exact fun sense => absurd (of_decide_eq_true (Bool.and_eq_true_iff.mp sense).2) (by decide)
    rw [if_neg passes,if_neg fresh,if_neg passes',if_neg fresh']
    have alike' : Alike a.discardDeferredError b.discardDeferredError :=
      ⟨alike.phase,alike.lines,alike.lun,alike.initiator,alike.luns,alike.world,rfl,rfl,alike.linked,alike.flag,alike.status⟩
    have begun := begins (a := a.discardDeferredError) (.inl op) { i with bytes := cdb6 options r2 r3 control list6 } emulated
    have begun' := begins (a := b.discardDeferredError) (.inr op')
      { i with bytes := cdb10 options s2 s3 s4 s5 s6 control list10 } (by
        change ∀ g, b.luns b.getEffectiveLun ≠ _
        rw [alike.lun,alike.luns]
        exact emulated)
    by_cases asked : Asked a.discardDeferredError
    · obtain ⟨n,asks,some_,none⟩ := begunAsked asked early begun
      obtain ⟨n',asks',some',none'⟩ := begunAsked (alike'.asked (.inl op) (.inr op') same asked)
        (alike.phase.trans early) begun'
      have total := length n' asks'
      have accepted : Accepted a := ⟨flags,asked⟩
      constructor
      · intro agree
        refine .inr ?_
        by_cases zero : n' = 0
        · refine ⟨List.eq_nil_of_length_eq_zero (by omega),UInt8.toNat_inj.mp ?_⟩
          change control.toNat = 0
          omega
        · have phase := some' zero
          have wrong := agree.ten phase.1
          rw [phase.2] at wrong
          omega
      · rintro (refused | ⟨rfl,rfl⟩)
        · exact absurd accepted refused
        · have empty : list6 = [] := by
            cases pair with
            | empty => rfl
            | short _ ten => exact absurd ten.1 (by decide)
          obtain ⟨dev,here,ended⟩ := none (length6 n asks empty)
          obtain ⟨dev',here',ended'⟩ := none' total
          have sameDevice : dev' = dev := by
            have there : a.luns a.getEffectiveLun = some dev' := by
              rw [← alike.luns,← alike.lun]
              exact here'
            exact Option.some.inj (there.symm.trans here)
          have quiet : (a.discardDeferredError.execute AnyDevice.methods
              { i with bytes := cdb6 options r2 r3 0 list6 }).phase ≠ .dataOut := by
            rw [ended]
            change BusPhase.status ≠ _
            decide
          have quiet' : (b.discardDeferredError.execute AnyDevice.methods
              { i with bytes := cdb10 options s2 s3 s4 s5 s6 0 [] }).phase ≠ .dataOut := by
            rw [ended']
            change BusPhase.status ≠ _
            decide
          refine agreeQuiet ?_ quiet quiet'
          rw [ended,ended',sameDevice,alike'.lun]
          have ran := (alike'.prepared (.inl op) (.inr op') a.discardDeferredError.getEffectiveLun).ranHandler
            a.discardDeferredError.getEffectiveLun (dev.setPrimary dev.primary.resetStatus)
          exact (ran.setCurrentLength 0).enterStatus.free
    · obtain ⟨ends,quiet,quiet'⟩ := begunAlike alike' (.inl op) (.inr op') same early asked begun begun'
      exact ⟨fun _ => .inl fun accepted => asked accepted.2,fun _ => agreeQuiet ends quiet quiet'⟩
  · have refused : (a.flag && !a.linked) = true := by simpa using flags
    have refused' : (b.flag && !b.linked) = true := by rw [alike.flag,alike.linked]; exact refused
    rw [if_pos refused,if_pos refused']
    refine ⟨fun _ => .inl fun accepted => flags accepted.1,fun _ => ?_⟩
    exact agreeQuiet (alike.raiseDeferredError _ _) (raisePhase _ _ early) (raisePhase _ _ (alike.phase.trans early))

end

open AllocationLength (hardDisk)

/- The hard disk drive when it has been selected. -/
def selected : Controller AnyDevice := hardDisk.run AnyDevice.methods [.select 129,.process { sel := true }]

theorem emptyListsAgree :
    Agree (selected.command AnyDevice.methods { bytes := cdb6 0x10 0 0 0 [] })
      (selected.command AnyDevice.methods { bytes := cdb10 0x10 0 0 0 0 0 0 [] }) [] [] :=
  (modeSelectAgree (i := {}) (by decide +kernel) .empty (by decide)
    (by
      intro g same
      have here : some (AnyDevice.scsiHd _) = some (AnyDevice.scsiGeneric g) := same
      exact AnyDevice.noConfusion (Option.some.inj here))).mpr (.inr ⟨rfl,rfl⟩)

/- A header without anything behind it: MODE SELECT(10) asks for 2048 bytes and not for 8. -/
theorem headersDisagree :
    ¬Agree (selected.command AnyDevice.methods { bytes := cdb6 0x10 0 0 0 [0,0,0,0] })
      (selected.command AnyDevice.methods { bytes := cdb10 0x10 0 0 0 0 0 0 [0,0,0,0,0,0,0,0] })
      [0,0,0,0] [0,0,0,0,0,0,0,0] := by
  intro agree
  have wrong := agree.ten (by decide +kernel)
  have asked : (selected.command AnyDevice.methods
      { bytes := cdb10 0x10 0 0 0 0 0 0 [0,0,0,0,0,0,0,0] }).transfer.currentLength = 2048 := by
    decide +kernel
  rw [asked] at wrong
  exact absurd wrong (by decide)

end Scsi2Pi.ModeSelect
