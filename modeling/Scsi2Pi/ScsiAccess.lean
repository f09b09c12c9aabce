import Scsi2Pi.CommandExecutor
import Scsi2Pi.StartStop

/-! SCSI commands to attached devices: the controller of an ID executes them on
the devices that the executor has attached, and on the same files. -/
namespace Scsi2Pi
open Handler Derives

namespace CommandExecutor

/- The controller of an ID, in the COMMAND phase of a command to a LUN. -/
def controller (e : CommandExecutor) (id lun : Nat) (initiatorId : Int) (cdb : Bytes) : Controller AnyDevice where
  phase := .command
  cdb := cdb
  identifiedLun := some lun
  initiatorId := initiatorId
  targetId := id
  luns lun := e.getDeviceForIdAndLun id lun
  world := e.world

/- The status of the command, and the executor after it. No LUN changes but the one that
executes the command, which is LUN 0 for a missing LUN. -/
def execute (e : CommandExecutor) (id lun : Nat) (initiatorId : Int) (cdb : Bytes) (env : Env) :
    StatusCode × CommandExecutor :=
  let c := (e.controller id lun initiatorId cdb).execute AnyDevice.methods { env }
  let executing := if (e.getDeviceForIdAndLun id lun).isNone then 0 else lun
  let e := { e with world := c.world }
  match c.luns executing with
  | some d => (c.transfer.status,putDevice id executing d e)
  | none => (c.transfer.status,e)

end CommandExecutor

/- A device that another initiator has reserved. -/
def PrimaryDevice.Excludes (d : PrimaryDevice) (initiatorId : Int) : Prop :=
  d.reservingInitiator ≠ PrimaryDevice.notReserved ∧ d.reservingInitiator ≠ initiatorId

theorem PrimaryDevice.checkReservationIff {d : PrimaryDevice} {r : Request} (command : r.opcode = .startStop) :
    d.checkReservation r = true ↔ ¬d.Excludes r.initiatorId := by
  have exempt : PrimaryDevice.reservationExempt r = false := by
    simp only [PrimaryDevice.reservationExempt,command]
    rfl
  simp only [PrimaryDevice.checkReservation,exempt,PrimaryDevice.Excludes,Bool.or_eq_true,decide_eq_true_eq,
    Bool.false_eq_true,or_false,not_and_or,not_not]

namespace Controller
variable {δ : Type} [Derives δ PrimaryDevice] (m : Methods δ)

theorem executePresent {c : Controller δ} {d : δ} (here : c.luns c.getEffectiveLun = some d)
    (other : c.opcode ≠ .requestSense) (i : Input) :
    ∃ c' : Controller δ, c.execute m i = c'.dispatchTo m i c.getEffectiveLun (setBase d (base d : PrimaryDevice).resetStatus) ∧
      c'.luns c.getEffectiveLun = some (setBase d (base d : PrimaryDevice).resetStatus) ∧
      c'.phase = c.phase ∧ c'.lines = c.lines ∧ c'.transfer.status = .good ∧ c'.world = c.world ∧ c'.cdb = c.cdb ∧
      c'.initiatorId = c.initiatorId ∧ c'.targetId = c.targetId ∧ c'.identifiedLun = c.identifiedLun := by
  let c1 := ((c.setCurrentLength 0).resetOffset).setTransferSize 0 0
  let c2 := (c1.setStatus .good).modifyBase c.getEffectiveLun PrimaryDevice.resetStatus
  have slot : c2.luns c.getEffectiveLun = some (setBase d (base d : PrimaryDevice).resetStatus) := by
    change Function.update c.luns c.getEffectiveLun ((c.luns c.getEffectiveLun).map _) c.getEffectiveLun = _
    rw [Function.update_self,here]
    rfl
  refine ⟨c2,?_,slot,rfl,rfl,rfl,rfl,rfl,rfl,rfl,rfl⟩
  have present : (c1.luns c.getEffectiveLun).isNone = false := by
    change (c.luns c.getEffectiveLun).isNone = false
    rw [here]
    rfl
  have discarded : c1.discardSense c.getEffectiveLun = c2 := if_pos other
  have effective : c1.getEffectiveLun = c.getEffectiveLun := rfl
  rw [execute]
  simp only [effective,present,discarded,slot,Bool.false_and,Bool.false_eq_true,if_false,c1]

theorem dispatchRefused {c : Controller δ} {lun : Nat} {d : δ} {i : Input}
    (refused : (base d : PrimaryDevice).checkReservation (c.request i.env) = false) :
    c.dispatchTo m i lun d = c.error .illegalRequest .noAdditionalSenseInformation .reservationConflict := by
  rw [dispatchTo,refused]
  rfl

/- The controller once the handler of a command has run. -/
def ranHandler (c : Controller δ) (lun : Nat) (t : HandlerState δ) : Controller δ :=
  { c with luns := Function.update c.luns lun (some t.device), transfer := t.transfer, world := t.world }

theorem dispatchOk {c : Controller δ} {lun : Nat} {d : δ} {i : Input} {call : PhaseCall} {t : HandlerState δ}
    (accepted : (base d : PrimaryDevice).checkReservation (c.request i.env) = true)
    (ran : m.dispatch c.opcode (c.request i.env) ⟨d,c.transfer,c.world⟩ = (.ok call,t)) :
    c.dispatchTo m i lun d = (c.ranHandler lun t).callPhase i call := by
  rw [dispatchTo,if_pos accepted,runHandler,ran]
  rfl

theorem dispatchError {c : Controller δ} {lun : Nat} {d : δ} {i : Input} {x : ScsiException} {t : HandlerState δ}
    (accepted : (base d : PrimaryDevice).checkReservation (c.request i.env) = true)
    (ran : m.dispatch c.opcode (c.request i.env) ⟨d,c.transfer,c.world⟩ = (.error x,t)) :
    c.dispatchTo m i lun d = (c.ranHandler lun t).error x.senseKey x.asc := by
  rw [dispatchTo,if_pos accepted,runHandler,ran]
  rfl

/- An error that is reported in the COMMAND phase reaches the sense data only. -/
theorem errorPresent {c : Controller δ} {d : δ} (here : c.luns c.getEffectiveLun = some d) (line : c.lines.rst = false)
    (phase : c.phase = .command) (key : SenseKey) {a : Asc} (supported : a ≠ .logicalUnitNotSupported)
    (status : StatusCode) :
    ∃ b : PrimaryDevice, b.resetStatus = (base d : PrimaryDevice).resetStatus ∧
      (c.error key a status).luns c.getEffectiveLun = some (setBase d b) ∧
      (c.error key a status).transfer.status = status ∧ (c.error key a status).world = c.world := by
  have lun : (if (a = .logicalUnitNotSupported || (c.luns c.getEffectiveLun).isNone) then 0 else c.getEffectiveLun) =
      c.getEffectiveLun := by
    rw [here]
    simp [supported]
  have reported : c.error key a status = ((if key ≠ .noSense || a ≠ .noAdditionalSenseInformation
      then c.modifyBase c.getEffectiveLun (·.setStatus key a) else c).setStatus status).enterStatus := by
    unfold error
    rw [if_neg (by simp [line,phase])]
    dsimp only
    rw [lun]
  rw [reported]
  split
  · refine ⟨(base d : PrimaryDevice).setStatus key a,rfl,?_,rfl,rfl⟩
    change Function.update c.luns c.getEffectiveLun ((c.luns c.getEffectiveLun).map _) c.getEffectiveLun = _
    rw [Function.update_self,here]
    rfl
  · exact ⟨base d,rfl,by rw [setBaseSelf]; exact here,rfl,rfl⟩

end Controller

namespace StorageDevice

/- Two states of a device that differ in their sense data only. -/
def Sensed (d e : StorageDevice) : Prop :=
  { e with toPrimaryDevice := e.toPrimaryDevice.resetStatus } = { d with toPrimaryDevice := d.toPrimaryDevice.resetStatus }

theorem Sensed.source {s s' : StorageDevice} (h : Sensed s s') :
    ∃ b : PrimaryDevice, s' = { s with toPrimaryDevice := b } ∧ b.resetStatus = s.toPrimaryDevice.resetStatus := by
  obtain ⟨b,_⟩ := s'
  obtain ⟨p,_⟩ := s
  simp only [Sensed,StorageDevice.mk.injEq] at h
  obtain ⟨same,rfl,rfl,rfl,rfl,rfl,rfl,rfl,rfl⟩ := h
  exact ⟨b,rfl,same⟩

/- The flags that START STOP UNIT looks at are not sense data. -/
theorem Sensed.flags {s s' : StorageDevice} (h : Sensed s s') : s'.ready = s.ready ∧ s'.removable = s.removable ∧
    s'.locked = s.locked ∧ s'.removed = s.removed ∧ s'.lun = s.lun ∧ s'.type = s.type := by
  obtain ⟨b,rfl,same⟩ := h.source
  exact ⟨(congrArg PrimaryDevice.ready same :),(congrArg PrimaryDevice.removable same :),(congrArg PrimaryDevice.locked same :),
    (congrArg PrimaryDevice.removed same :),(congrArg PrimaryDevice.lun same :),(congrArg PrimaryDevice.type same :)⟩

theorem Sensed.canEject {s s' : StorageDevice} (h : Sensed s s') (force : Bool) : s'.canEject force = s.canEject force := by
  obtain ⟨ready,removable,locked,_⟩ := h.flags
  simp only [PrimaryDevice.canEject,ready,removable,locked]

theorem StartStop.status {start load : Bool} {targetId : Int} {d e : StorageDevice} {w w' : World} {call : PhaseCall}
    (h : StartStop start load targetId d w (.ok call) e w') : call = .status := by
  cases h <;> rfl

theorem StartStop.supported {start load : Bool} {targetId : Int} {d e : StorageDevice} {w w' : World}
    {x : ScsiException} (h : StartStop start load targetId d w (.error x) e w') : x.asc ≠ .logicalUnitNotSupported := by
  cases h <;> exact fun same => Asc.noConfusion same

end StorageDevice

namespace CommandExecutor
open StorageDevice

variable {e : CommandExecutor} {id lun : Nat} {d : AnyDevice} {s : StorageDevice}

theorem setPrimaryStorage (h : d.storage = some s) (b : PrimaryDevice) :
    (d.setPrimary b).storage = some { s with toPrimaryDevice := b } := by
  cases d <;> cases h <;> rfl

/- The outcome of START STOP UNIT for a device whose sense data do not matter. -/
theorem executeStartStop (here : e.getDeviceForIdAndLun id lun = some d) (h : d.storage = some s)
    (initiatorId : Int) {cdb : Bytes} (command : cdb.getD 0 0 = ScsiCommand.startStop) (env : Env) :
    ∃ status s0 s1 d' s' w', e.execute id lun initiatorId cdb env =
        (status,putDevice id lun d' { e with world := w' }) ∧
      Sensed s s0 ∧ Sensed s1 s' ∧ d'.storage = some s' ∧
      (s.Excludes initiatorId ∧ status = .reservationConflict ∧ s1 = s0 ∧ w' = e.world ∨
        ¬s.Excludes initiatorId ∧ ∃ result, StartStop (startBit { cdb }) (loadBit { cdb }) id s0 e.world result s1 w' ∧
          status = match result with | .ok _ => .good | .error _ => .checkCondition) := by
  obtain ⟨c,ran,slot,phase,lines,good,world,cdb',initiator,target,identified⟩ :=
    Controller.executePresent AnyDevice.methods (c := e.controller id lun initiatorId cdb) (d := d) here
      (by change cdb.getD 0 0 ≠ _; rw [command]; decide) { env }
  have executing : (if (e.getDeviceForIdAndLun id lun).isNone then 0 else lun) = lun := by
    rw [here]
    rfl
  have effective : c.getEffectiveLun = lun := by
    rw [Controller.getEffectiveLun,identified]
    rfl
  have line : c.lines.rst = false := by
    rw [lines]
    rfl
  have opcode : c.opcode = .startStop := by
    rw [Controller.opcode,cdb']
    exact command
  have target' : (e.controller id lun initiatorId cdb).getEffectiveLun = lun := rfl
  rw [target'] at ran slot
  let s0 : StorageDevice := { s with toPrimaryDevice := d.primary.resetStatus }
  have cleared : (d.setPrimary d.primary.resetStatus).storage = some s0 := setPrimaryStorage h _
  have sensed : Sensed s s0 := by
    change ({ s with toPrimaryDevice := d.primary.resetStatus } : StorageDevice) = _
    rw [AnyDevice.primaryStorage h]
  have result : ∀ {c' : Controller AnyDevice} {status d' w'}, c.dispatchTo AnyDevice.methods { env } lun
        (setBase d (base d : PrimaryDevice).resetStatus) = c' → c'.luns lun = some d' → c'.transfer.status = status →
        c'.world = w' → e.execute id lun initiatorId cdb env = (status,putDevice id lun d' { e with world := w' }) := by
    intro c' status d' w' dispatched slot' status' world'
    simp only [execute,executing,ran,dispatched,slot',status',world']
  -- What an error that is reported at the end does to the sense data.
  have reported : ∀ {c' : Controller AnyDevice} {d1 : AnyDevice} {s1 : StorageDevice} (key : SenseKey) {a : Asc}
      (status : StatusCode), c'.getEffectiveLun = lun → c'.luns lun = some d1 → d1.storage = some s1 →
      c'.lines.rst = false → c'.phase = .command → a ≠ .logicalUnitNotSupported → ∃ d' s',
        (c'.error key a status).luns lun = some d' ∧ d'.storage = some s' ∧ Sensed s1 s' ∧
        (c'.error key a status).transfer.status = status ∧ (c'.error key a status).world = c'.world := by
    intro c' d1 s1 key a status at' slot1 storage1 line1 phase1 supported
    rw [← at'] at slot1
    obtain ⟨b,same,slot',status',world'⟩ := Controller.errorPresent slot1 line1 phase1 key supported status
    rw [at'] at slot'
    refine ⟨_,_,slot',setPrimaryStorage storage1 b,?_,status',world'⟩
    change ({ s1 with toPrimaryDevice := b.resetStatus } : StorageDevice) = _
    rw [same]
    change ({ s1 with toPrimaryDevice := d1.primary.resetStatus } : StorageDevice) = _
    rw [AnyDevice.primaryStorage storage1]
  have same : (base (d.setPrimary d.primary.resetStatus) : PrimaryDevice).Excludes (c.request env).initiatorId ↔
      s.Excludes initiatorId := by
    change (d.setPrimary d.primary.resetStatus).primary.Excludes c.initiatorId ↔ _
    rw [AnyDevice.primaryStorage cleared,initiator]
    change d.primary.resetStatus.Excludes initiatorId ↔ _
    rw [AnyDevice.primaryStorage h]
    rfl
  have accepted := (PrimaryDevice.checkReservationIff (d := base (d.setPrimary d.primary.resetStatus))
    (r := c.request env) opcode).trans same.not
  have excluded : (base (d.setPrimary d.primary.resetStatus) : PrimaryDevice).checkReservation (c.request env) = false ↔
      s.Excludes initiatorId := by
    rw [← not_iff_not,← accepted,Bool.not_eq_false]
  cases reserved : (base (d.setPrimary d.primary.resetStatus) : PrimaryDevice).checkReservation (c.request env) with
  | false =>
    have refused : c.dispatchTo AnyDevice.methods { env } lun _ = _ := Controller.dispatchRefused AnyDevice.methods reserved
    obtain ⟨d',s',slot',storage',sensed',status,world'⟩ := reported .illegalRequest (a := .noAdditionalSenseInformation)
      .reservationConflict effective slot cleared line phase (by decide)
    exact ⟨_,s0,s0,d',s',_,result refused slot' status (world'.trans world),sensed,sensed',storage',
      .inl ⟨excluded.mp reserved,rfl,rfl,rfl⟩⟩
  | true =>
    obtain ⟨outcome,d1,s1,w1,handled,storage1,starts⟩ :=
      AnyDevice.startStop cleared (c.request env) c.transfer c.world
    have bits : startBit (c.request env) = startBit { cdb } ∧ loadBit (c.request env) = loadBit { cdb } ∧
        (c.request env).targetId = id := by
      simp only [startBit,loadBit,Request.cdbByte,Controller.request,cdb',target]
      exact ⟨rfl,rfl,rfl⟩
    rw [bits.1,bits.2.1,bits.2.2,world] at starts
    rw [← opcode] at handled
    have slot2 : (c.ranHandler lun ⟨d1,c.transfer,w1⟩).luns lun = some d1 := by
      change Function.update c.luns lun (some d1) lun = _
      rw [Function.update_self]
    cases outcome with
    | ok call =>
      obtain rfl := starts.status
      have entered : (c.ranHandler lun ⟨d1,c.transfer,w1⟩).callPhase { env } .status =
          (c.ranHandler lun ⟨d1,c.transfer,w1⟩).enterStatus := by
        change (if c.phase = .status then _ else _) = _
        rw [phase]
        rfl
      exact ⟨.good,s0,s1,d1,s1,w1,result ((Controller.dispatchOk _ reserved handled).trans entered) slot2 good rfl,sensed,
        .refl _,storage1,.inr ⟨accepted.mp reserved,_,starts,rfl⟩⟩
    | error x =>
      obtain ⟨d',s',slot',storage',sensed',status,world'⟩ := reported x.senseKey (a := x.asc) .checkCondition
        (show (c.ranHandler lun ⟨d1,c.transfer,w1⟩).getEffectiveLun = lun from effective) slot2 storage1 line phase
        starts.supported
      exact ⟨_,s0,s1,d',s',w1,result (Controller.dispatchError _ reserved handled) slot' status world',sensed,sensed',
        storage',.inr ⟨accepted.mp reserved,_,starts,rfl⟩⟩

end CommandExecutor
end Scsi2Pi
