import Scsi2Pi.ExecutorContract

/-! Remote commands as a whole, and sequences of them. What each change of the
executor preserves holds after every command, accepted or rejected. -/
namespace Scsi2Pi
open Eff S2pUtil

namespace CommandExecutor

variable {host : Host} {e : CommandExecutor}

/-! DETACH_ALL. -/

structure DetachesAll (e e' : CommandExecutor) : Prop where
  controllers : e'.controllers = ∅
  reservedIds : e'.reservedIds = e.reservedIds
  reservedFiles : e'.world.reservedFiles =
    e.getAllDevices.foldl (fun table device => released device.2 table) e.world.reservedFiles
  properties : e'.properties.propertyCache = e.properties.propertyCache

theorem cleanUpAllWp (devices : List (Int × AnyDevice)) (host : Host) (e : CommandExecutor) :
    wp (cleanUpAll devices) host e (fun _ e' => ∃ files, e' = { e with world := { e.world with
        files, reservedFiles := devices.foldl (fun table device => released device.2 table) e.world.reservedFiles } })
      fun _ _ => False := by
  induction devices generalizing e with
  | nil => exact ⟨e.world.files,rfl⟩
  | cons device rest ih =>
    obtain ⟨id,d⟩ := device
    unfold cleanUpAll
    rw [wpBind]
    refine wpMono (cleanUpWp id d host e) (fun _ e1 ended => ?_) fun _ _ failed => failed
    obtain ⟨_,rfl⟩ := ended
    refine wpMono (ih _) (fun _ e2 later => ?_) fun _ _ failed => failed
    obtain ⟨files,rfl⟩ := later
    exact ⟨files,rfl⟩

theorem detachAllWp (host : Host) (e : CommandExecutor) :
    wp detachAll host e (fun _ e' => e' = e ∧ e.controllers.entries = [] ∨ DetachesAll e e') fun _ _ => False := by
  simp only [detachAll,wpBind,wpGet,wpIte,wpPure]
  refine ⟨fun empty => .inl ⟨trivial,List.isEmpty_iff.mp empty⟩,fun _ => ?_⟩
  refine wpMono (cleanUpAllWp e.getAllDevices host e) (fun _ e1 ended => ?_) fun _ _ failed => failed
  obtain ⟨files,rfl⟩ := ended
  simp only [wpModify,removeProperties]
  exact .inr ⟨rfl,rfl,rfl,rfl⟩

/-! RESERVE_IDS. -/

theorem parseReservedIdsSource {e : CommandExecutor} {texts : List String} {ids : List Int}
    (h : parseReservedIds e texts = .ok ids) : ∀ id ∈ ids, e.hasController id = false := by
  induction texts generalizing ids with
  | nil =>
    cases h
    intro id mem
    cases mem
  | cons text rest ih =>
    simp only [parseReservedIds,bind,Except.bind,pure,Except.pure,throw,throwThe,MonadExceptOf.throw] at h
    split at h
    · cases h
    · split at h
      · cases h
      · next free =>
        cases later : parseReservedIds e rest with
        | error text =>
          rw [later] at h
          cases h
        | ok ids' =>
          rw [later] at h
          cases h
          intro id mem
          rcases List.mem_cons.mp mem with rfl | mem
          · simpa using free
          · exact ih later id mem

structure ReservesIds (e e' : CommandExecutor) : Prop where
  controllers : e'.controllers = e.controllers
  reservedIds : ∀ id ∈ e'.reservedIds, e.hasController id = false
  world : e'.world = e.world
  properties : e'.properties = e.properties.addProperty "reserved_ids" (join "," (e'.reservedIds.map toString))

theorem reserveIdsWp (ids : String) (host : Host) (e : CommandExecutor) :
    wp (reserveIds ids) host e (fun _ e' => ReservesIds e e') fun _ e' => e' = e := by
  unfold reserveIds setReservedIds
  simp only [wpBind,wpGet]
  cases parsed : parseReservedIds e (split ids ',') with
  | error text => simp only [wpThrow]
  | ok reserved =>
    simp only [wpModify]
    exact ⟨rfl,fun id mem => parseReservedIdsSource parsed id (List.mem_dedup.mp mem),rfl,rfl⟩

/-! Whole commands. -/

/- What a command does once it is validated, one step after the other. -/
inductive Task where
  | device (operation : PbOperation) (definition : PbDeviceDefinition)
  | detachAll
  | reserveIds (ids : String)

def Task.perform : Task → Exec Unit
  | .device operation definition => processDeviceCmd operation definition false
  | .detachAll => CommandExecutor.detachAll
  | .reserveIds ids => CommandExecutor.reserveIds ids

def tasks (command : PbCommand) : List Task :=
  match command.operation with
  | .detachAll => [.detachAll]
  | .reserveIds => [.reserveIds (getParam command.params "ids")]
  | .checkAuthentication | .noOperation => []
  | operation => command.devices.map (.device operation)

/- The commands for devices are validated first. -/
def validate (command : PbCommand) : Exec Unit :=
  match command.operation with
  | .detachAll | .reserveIds | .checkAuthentication | .noOperation => pure ()
  | operation => do
    processDevices operation true command.devices
    ensureLun0 command.devices

def perform : List Task → Exec Unit
  | [] => pure ()
  | task::rest => do
    task.perform
    perform rest

theorem bindAssoc {α β γ : Type} (x : Exec α) (f : α → Exec β) (g : β → Exec γ) :
    x >>= f >>= g = x >>= fun a => f a >>= g := by
  funext host e
  simp only [bind]
  cases x host e with
  | mk result e' => cases result <;> rfl

theorem pureBind {α β : Type} (a : α) (f : α → Exec β) : pure a >>= f = f a := rfl

theorem bindUnit (x : Exec Unit) : (x >>= fun _ => pure ()) = x := by
  funext host e
  simp only [bind]
  cases x host e with
  | mk result e' => cases result <;> rfl

theorem processDevicesEq (operation : PbOperation) (definitions : List PbDeviceDefinition) :
    processDevices operation false definitions = perform (definitions.map (.device operation)) := by
  induction definitions with
  | nil => rfl
  | cons definition rest ih =>
    rw [processDevices,ih]
    rfl

theorem processCmdEq (command : PbCommand) :
    processCmd command = (do validate command; perform (tasks command)) := by
  unfold processCmd validate tasks
  cases command.operation with
  | detachAll => exact (bindUnit _).symm
  | reserveIds => exact (bindUnit _).symm
  | checkAuthentication => rfl
  | noOperation => rfl
  | _ =>
    simp only [bindAssoc,processDevicesEq]

theorem ensureLun0Reads (definitions : List PbDeviceDefinition) :
    Reads (fun _ e _ => missingLun0 e definitions = none) (ensureLun0 definitions) := by
  intro host e
  simp only [ensureLun0,wpBind,wpGet]
  cases found : missingLun0 e definitions with
  | none => exact ⟨rfl,rfl⟩
  | some id => rfl

theorem validateWp (command : PbCommand) (host : Host) (e : CommandExecutor) :
    wp (validate command) host e (fun _ e' => Quiet e e') fun _ e' => Quiet e e' := by
  unfold validate
  cases command.operation with
  | detachAll => exact .refl e
  | reserveIds => exact .refl e
  | checkAuthentication => exact .refl e
  | noOperation => exact .refl e
  | _ =>
    simp only [wpBind]
    refine wpMono (dryRunWp _ command.devices host e) (fun _ e1 quiet => ?_) fun _ _ failed => failed
    refine wpMono (ensureLun0Reads command.devices host e1) (fun _ e2 ended => ?_) fun _ e2 failed => ?_
    · rw [ended.1]
      exact quiet
    · rw [failed]
      exact quiet

/-! One step of a command. -/

inductive Change (host : Host) (e : CommandExecutor) : Task → CommandExecutor → Prop where
  | quiet (task : Task) (e' : CommandExecutor) : Quiet e e' → Change host e task e'
  | device (operation : PbOperation) (definition : PbDeviceDefinition) (result : Except CommandError Unit)
      (e' : CommandExecutor) : Outcome host operation definition e result e' →
      Change host e (.device operation definition) e'
  | detachedAll (e' : CommandExecutor) : DetachesAll e e' → Change host e .detachAll e'
  | reservedIds (ids : String) (e' : CommandExecutor) : ReservesIds e e' → Change host e (.reserveIds ids) e'

theorem performWp (task : Task) (host : Host) (e : CommandExecutor) :
    wp task.perform host e (fun _ e' => Change host e task e') fun _ e' => Change host e task e' := by
  cases task with
  | device operation definition =>
    refine wpMono (processDeviceWp operation definition false host e) (fun _ e' ended => ?_) fun x e' failed => ?_
    · rcases ended with ⟨dry,_⟩ | ⟨_,outcome⟩
      · cases dry
      · exact .device operation definition _ e' outcome
    · rcases failed with quiet | ⟨_,outcome⟩
      · exact .quiet _ e' quiet
      · exact .device operation definition _ e' outcome
  | detachAll =>
    refine wpMono (detachAllWp host e) (fun _ e' ended => ?_) fun _ _ failed => failed.elim
    rcases ended with ⟨rfl,_⟩ | detached
    · exact .quiet _ _ (.refl _)
    · exact .detachedAll e' detached
  | reserveIds ids =>
    refine wpMono (reserveIdsWp ids host e) (fun _ e' ended => .reservedIds ids e' ended) fun _ e' failed => ?_
    rw [failed]
    exact .quiet _ _ (.refl e)

/-! Sequences of commands. -/

/- Each step that is reached meets a condition on the executor before it. -/
def Meets (G : Host → Task → CommandExecutor → Prop) (host : Host) : List Task → CommandExecutor → Prop
  | [], _ => True
  | task::rest, e => G host task e ∧ wp task.perform host e (fun _ e' => Meets G host rest e') fun _ _ => True

def CommandMeets (G : Host → Task → CommandExecutor → Prop) (host : Host) (command : PbCommand) (e : CommandExecutor) :
    Prop :=
  wp (validate command) host e (fun _ e' => Meets G host (tasks command) e') fun _ _ => True

def process (e : CommandExecutor) (host : Host) (command : PbCommand) : CommandExecutor :=
  (processCmd command host e).2

/- The computer may change between the commands. -/
def run (e : CommandExecutor) (commands : List (Host × PbCommand)) : CommandExecutor :=
  commands.foldl (fun e (host,command) => e.process host command) e

section
variable {G : Host → Task → CommandExecutor → Prop} {I : CommandExecutor → Prop}

theorem meetsAlways {tasks : List Task} (always : ∀ task ∈ tasks, ∀ e, G host task e) (e : CommandExecutor) :
    Meets G host tasks e := by
  induction tasks generalizing e with
  | nil => trivial
  | cons task rest ih =>
    refine ⟨always task List.mem_cons_self e,?_⟩
    exact wpMono (performWp task host e) (fun _ e' _ => ih (fun t mem => always t (List.mem_cons_of_mem _ mem)) e')
      fun _ _ _ => trivial

theorem commandMeetsAlways {command : PbCommand} (always : ∀ task ∈ tasks command, ∀ e, G host task e)
    (e : CommandExecutor) : CommandMeets G host command e :=
  wpMono (validateWp command host e) (fun _ e' _ => meetsAlways always e') fun _ _ _ => trivial

theorem wpAnd {x : Exec Unit} {Q Q' : Unit → CommandExecutor → Prop} {E E' : CommandError → CommandExecutor → Prop}
    (h : wp x host e Q E) (h' : wp x host e Q' E') :
    wp x host e (fun a t => Q a t ∧ Q' a t) fun x t => E x t ∧ E' x t := by
  unfold wp at h h' ⊢
  cases ran : x host e with
  | mk result t =>
    rw [ran] at h h'
    cases result with
    | ok a => exact ⟨h,h'⟩
    | error x => exact ⟨h,h'⟩

theorem performKeeps (step : ∀ task e e', G host task e → Change host e task e' → I e → I e') (tasks : List Task)
    (e : CommandExecutor) (meets : Meets G host tasks e) (start : I e) :
    wp (perform tasks) host e (fun _ e' => I e') fun _ e' => I e' := by
  induction tasks generalizing e with
  | nil => exact start
  | cons task rest ih =>
    unfold perform
    rw [wpBind]
    refine wpMono (wpAnd (performWp task host e) meets.2) (fun _ e1 ended => ?_) fun _ e1 failed => ?_
    · exact ih e1 ended.2 (step task e e1 meets.1 ended.1 start)
    · exact step task e e1 meets.1 failed.1 start

/- What every change preserves holds after a command, accepted or rejected. -/
theorem processKeeps (quiet : ∀ e e', Quiet e e' → I e → I e')
    (step : ∀ task e e', G host task e → Change host e task e' → I e → I e') (command : PbCommand)
    (meets : CommandMeets G host command e) (start : I e) : I (e.process host command) := by
  have ended : wp (processCmd command) host e (fun _ e' => I e') fun _ e' => I e' := by
    rw [processCmdEq,wpBind]
    refine wpMono (wpAnd (validateWp command host e) meets) (fun _ e1 valid => ?_) fun _ e1 failed => quiet e e1 failed.1 start
    exact performKeeps step _ e1 valid.2 (quiet e e1 valid.1 start)
  unfold process
  unfold wp at ended
  split at ended
  · next ran => rw [ran]; exact ended
  · next ran => rw [ran]; exact ended

theorem runKeeps (step : ∀ host task e e', Change host e task e' → I e → I e') (commands : List (Host × PbCommand))
    (start : I e) : I (e.run commands) := by
  induction commands generalizing e with
  | nil => exact start
  | cons command rest ih =>
    refine ih (processKeeps (G := fun _ _ _ => True) (fun e e' quiet => ?_) (fun task e e' _ => step _ task e e') command.2
      (commandMeetsAlways (fun _ _ _ => trivial) e) start)
    exact step command.1 .detachAll e e' (.quiet _ e' quiet)

end

/- An executor with one device, whose medium is the only file. -/
def imageWorld (content : Bytes) : World := { files := fun name => if name = "image" then some content else none }

def attachImage (type : PbDeviceType) : PbCommand :=
  { operation := .attach, devices := [{ type, params := [("file","image")] }] }

def attachedImage (type : PbDeviceType) (content : Bytes) : CommandExecutor :=
  ({ world := imageWorld content } : CommandExecutor).process {} (attachImage type)

end CommandExecutor
end Scsi2Pi
