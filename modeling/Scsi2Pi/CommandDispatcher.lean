import Scsi2Pi.AnyDevice
import Scsi2Pi.ThreadLock

/-! The execution lock. The main loop holds it while a controller processes a
selection, and the command dispatcher acquires it for the operations that need
an idle target. -/
namespace Scsi2Pi

namespace CommandDispatcher

/- The lock is released even if ProcessCmd fails. -/
def executeWithLock : List LockEvent := [.acquire,.release]

/- What DispatchCommand does with the lock. -/
def dispatchCommand : PbOperation → List LockEvent
  | .unrecognized _ => []
  | .logLevel | .defaultFolder | .devicesInfo | .deviceTypesInfo | .serverInfo | .versionInfo | .logLevelInfo
  | .defaultImageFilesInfo | .imageFileInfo | .networkInterfacesInfo | .mappingInfo | .statisticsInfo
  | .propertiesInfo | .operationInfo | .reservedIdsInfo | .shutDown | .createImage | .deleteImage | .renameImage
  | .copyImage | .protectImage | .unprotectImage | .persistConfiguration | .noOperation => []
  | .attach | .detach | .detachAll | .start | .stop | .insert | .eject | .protect | .unprotect | .reserveIds
  | .checkAuthentication => executeWithLock

/- The operations that may only be executed when the target is idle. -/
def idleOperations : List PbOperation :=
  [.attach,.detach,.detachAll,.start,.stop,.insert,.eject,.protect,.unprotect,.reserveIds,.checkAuthentication]

theorem dispatchCommandLock (operation : PbOperation) :
    dispatchCommand operation = if operation ∈ idleOperations then executeWithLock else [] := by
  cases operation <;> simp [dispatchCommand,idleOperations]

theorem dispatchWhileFree (operation : PbOperation) :
    LockEvent.after false (dispatchCommand operation) = some false := by
  rw [dispatchCommandLock]
  split <;> rfl

theorem dispatchWhileHeld (operation : PbOperation) :
    LockEvent.after true (dispatchCommand operation) = if operation ∈ idleOperations then none else some true := by
  rw [dispatchCommandLock]
  split <;> rfl

end CommandDispatcher

namespace S2p
open CommandDispatcher

/- A selection, with what the initiator does until the bus is free again. The world
records the operations that are given to the dispatcher meanwhile. -/
def processOnController (c : Controller AnyDevice) (ids : Nat) (inputs : List Input) : Controller AnyDevice :=
  { c with world := { c.world with dispatched := [] } }.run AnyDevice.methods
    (.select ids :: inputs.map Controller.Action.process)

/- What a thread of the emulator does: a command of the remote interface, which is
not dispatched without the access token, or a pass of the main loop. -/
inductive Activity where
  | executeCommand (authenticated : Bool) (operation : PbOperation)
  | processScsiCommand (c : Controller AnyDevice) (ids : Nat) (inputs : List Input)

namespace Activity

/- The operations that host services give to the dispatcher. -/
def submitted : Activity → List PbOperation
  | .executeCommand _ _ => []
  | .processScsiCommand c ids inputs => (processOnController c ids inputs).world.dispatched

def lockEvents : Activity → List LockEvent
  | .executeCommand authenticated operation => if authenticated then dispatchCommand operation else []
  | .processScsiCommand c ids inputs =>
    .acquire :: ((processOnController c ids inputs).world.dispatched.map dispatchCommand).flatten ++ [.release]

end Activity

/- The lock is held while the submitted operations are dispatched. -/
theorem selectionLock (c : Controller AnyDevice) (ids : Nat) (inputs : List Input) :
    let activity := Activity.processScsiCommand c ids inputs
    (LockEvent.after false activity.lockEvents = some false ∨ LockEvent.after false activity.lockEvents = none) ∧
      (LockEvent.after false activity.lockEvents = none ↔ ∃ operation ∈ activity.submitted, operation ∈ idleOperations) := by
  intro activity
  let parts := activity.submitted.map dispatchCommand
  have each : ∀ part ∈ parts, LockEvent.after true part = some true ∨ LockEvent.after true part = none := by
    intro part member
    obtain ⟨operation,_,rfl⟩ := List.mem_map.mp member
    rw [dispatchWhileHeld]
    split <;> simp
  have events : LockEvent.after false activity.lockEvents =
      (LockEvent.after true parts.flatten).bind (LockEvent.after · [.release]) :=
    LockEvent.afterAppend true parts.flatten [.release]
  have twice : LockEvent.after true parts.flatten = none ↔
      ∃ operation ∈ activity.submitted, operation ∈ idleOperations := by
    rw [LockEvent.afterPartsNone each]
    simp [parts,dispatchWhileHeld]
  rw [events]
  cases held : LockEvent.after true parts.flatten with
  | none => exact ⟨.inr rfl,fun _ => twice.mp held,fun _ => rfl⟩
  | some b =>
    have released : (some b).bind (LockEvent.after · [.release]) = some false := by cases b <;> rfl
    rw [released]
    refine ⟨.inl rfl,fun none => (Option.some_ne_none _ none).elim,fun any => ?_⟩
    rw [twice.mpr any] at held
    cases held

theorem activityLock (activity : Activity) :
    (LockEvent.after false activity.lockEvents = some false ∨ LockEvent.after false activity.lockEvents = none) ∧
      (LockEvent.after false activity.lockEvents = none ↔ ∃ operation ∈ activity.submitted, operation ∈ idleOperations) := by
  cases activity with
  | processScsiCommand c ids inputs => exact selectionLock c ids inputs
  | executeCommand authenticated operation =>
    have neutral : LockEvent.after false (Activity.executeCommand authenticated operation).lockEvents = some false := by
      cases authenticated
      · rfl
      · exact dispatchWhileFree operation
    rw [neutral]
    simp [Activity.submitted]

/- A thread never acquires the lock twice exactly if host services submit no operation
that needs the lock. -/
theorem neverTwiceIff (thread : List Activity) :
    LockEvent.NeverTwice (thread.map Activity.lockEvents).flatten ↔
      ∀ activity ∈ thread, ∀ operation ∈ activity.submitted, operation ∉ idleOperations := by
  have each : ∀ part ∈ thread.map Activity.lockEvents,
      LockEvent.after false part = some false ∨ LockEvent.after false part = none := by
    intro part member
    obtain ⟨activity,_,rfl⟩ := List.mem_map.mp member
    exact (activityLock activity).1
  unfold LockEvent.NeverTwice
  rw [ne_eq,LockEvent.afterPartsNone each]
  simp [(activityLock _).2]

/-! DETACH, submitted through host services. -/

def detachCommand : Bytes := [0x08,0x02]

def hostServices : Controller AnyDevice where
  luns lun := if lun = 0 then some (.hostServices { type := .schs, ready := true }) else none

def executeDetach : List Input := [
  { sel := true },
  { bytes := [0xc0,0x01,0,0,0,0,0,0,2,0] },
  { bytes := detachCommand },
  { env := { parse := fun format message =>
      if format = .binary ∧ message = detachCommand then some .detach else none } }]

theorem detachDispatched : (processOnController hostServices 0x81 executeDetach).world.dispatched = [.detach] := by
  decide +kernel

theorem detachAcquiresTwice :
    ¬LockEvent.NeverTwice ([Activity.processScsiCommand hostServices 0x81 executeDetach].map
      Activity.lockEvents).flatten := by
  have events : (Activity.processScsiCommand hostServices 0x81 executeDetach).lockEvents =
      [.acquire,.acquire,.release,.release] := by
    rw [Activity.lockEvents,detachDispatched]
    rfl
  rw [List.map_singleton,events]
  decide

end S2p
end Scsi2Pi
