import Scsi2Pi.Attachment
import Scsi2Pi.NameTable
import Scsi2Pi.ScsiAccess

/-! The table of reserved files and the file names that the devices have: under
which conditions remote commands and START STOP UNIT keep them consistent. -/
namespace Scsi2Pi
open StorageDevice NameTable

namespace CommandExecutor

variable {e e' : CommandExecutor} {host : Host}

def storageAt (e : CommandExecutor) (id : Int) (lun : Nat) : Option StorageDevice :=
  (e.getDeviceForIdAndLun id lun).bind (·.storage)

structure FilesConsistent (e : CommandExecutor) : Prop where
  reserved : ∀ {id lun s}, e.storageAt id lun = some s → s.removed = false →
    e.world.reservedFiles s.filename = some (id,lun)
  distinct : ∀ {id lun s id' lun' s'}, e.storageAt id lun = some s → e.storageAt id' lun' = some s' → s.filename ≠ "" →
    s'.filename = s.filename → id = id' ∧ lun = lun'
  used : ∀ {filename id lun}, e.world.reservedFiles filename = some (id,lun) →
    ∃ s, e.storageAt id lun = some s ∧ s.filename = filename

/- Remote commands, START STOP UNIT, and changes of the files by other programs. -/
inductive Action where
  | remote (host : Host) (command : PbCommand)
  | startStop (id lun : Nat) (initiatorId : Int) (parameters : Bytes) (env : Env)
  | files (files : FileSystem)

def step (e : CommandExecutor) : Action → CommandExecutor
  | .remote host command => e.process host command
  | .startStop id lun initiatorId parameters env =>
    if (e.storageAt id lun).isSome then (e.execute id lun initiatorId (ScsiCommand.startStop::parameters) env).2 else e
  | .files files => { e with world := { e.world with files } }

/- An INSERT that gets as far as opening the file: the device has no other file in use,
and the file can be opened. -/
def CarefulInsert (host : Host) (task : Task) (e : CommandExecutor) : Prop :=
  match task with
  | .device .insert definition => ∀ d s, e.getDeviceForIdAndLun definition.id definition.unit = some d →
      d.storage = some s → s.removed = true → Tried host definition e.world d s →
      s.filename = "" ∧ insertOpens host definition e.world d s = true
  | _ => True

/- A load that takes effect: the last file is still in use, or nothing is and nobody
has reserved the last file. -/
def CarefulLoad (id lun : Nat) (initiatorId : Int) (cdb : Bytes) (e : CommandExecutor) : Prop :=
  ∀ s, e.storageAt id lun = some s → ¬s.Excludes initiatorId → s.mediumChanged = false → startBit { cdb } = true →
    loadBit { cdb } = true → s.lastFilename ≠ "" →
    s.filename = s.lastFilename ∨ s.filename = "" ∧ e.world.reservedFiles s.lastFilename = none

def Careful (e : CommandExecutor) : Action → Prop
  | .remote host command => CommandMeets CarefulInsert host command e
  | .startStop id lun initiatorId parameters _ => CarefulLoad id lun initiatorId (ScsiCommand.startStop::parameters) e
  | .files _ => True

def CarefulRun (e : CommandExecutor) : List Action → Prop
  | [] => True
  | action::rest => Careful e action ∧ CarefulRun (e.step action) rest

/-! The invariant. -/

def nameOf (s : Option StorageDevice) : Option String := s.bind fun s => if s.filename = "" then none else some s.filename

def fileInUse (e : CommandExecutor) : Int × Nat → Option String := fun unit => nameOf (e.storageAt unit.1 unit.2)

structure Tidy (e : CommandExecutor) : Prop where
  attached : Attached e
  table : Inverse e.world.reservedFiles e.fileInUse
  inserted : ∀ {id lun s}, e.storageAt id lun = some s → s.removed = false → s.filename ≠ ""

theorem nameOfSome {s : StorageDevice} (named : s.filename ≠ "") : nameOf (some s) = some s.filename := if_neg named

theorem nameOfEmpty {s : StorageDevice} (unnamed : s.filename = "") : nameOf (some s) = none := if_pos unnamed

theorem nameOfNonempty {s : Option StorageDevice} {filename : String} (h : nameOf s = some filename) :
    ∃ t, s = some t ∧ t.filename = filename ∧ filename ≠ "" := by
  cases s with
  | none => cases h
  | some t =>
    simp only [nameOf,Option.bind_some] at h
    split at h
    · cases h
    · next named =>
      cases h
      exact ⟨t,rfl,rfl,named⟩

theorem tidyConsistent (h : Tidy e) : FilesConsistent e where
  reserved {id lun s} here inserted := by
    refine (h.table _ (id,lun)).mpr ?_
    rw [fileInUse,here]
    exact nameOfSome (h.inserted here inserted)
  distinct {id lun s id' lun' s'} here here' named same := by
    have first : e.fileInUse (id,lun) = some s.filename := by
      rw [fileInUse,here]
      exact nameOfSome named
    have second : e.fileInUse (id',lun') = some s.filename := by
      rw [fileInUse,here',nameOfSome (by rw [same]; exact named),same]
    exact Prod.mk.inj (inverseInjective h.table first second)
  used {filename id lun} found := by
    obtain ⟨s,here,name,_⟩ := nameOfNonempty ((h.table filename (id,lun)).mp found)
    exact ⟨s,here,name⟩

/- Nobody uses the empty name. -/
theorem tableEmpty (h : Tidy e) : e.world.reservedFiles "" = none :=
  inverseUnused h.table fun _ named => (nameOfNonempty named).choose_spec.2.2 rfl

/-! One device changes. -/

section
variable {id : Int} {lun : Nat} {x : Option StorageDevice}

/- Only the device of one unit is another one. -/
def Replaces (id : Int) (lun : Nat) (x : Option StorageDevice) (e e' : CommandExecutor) : Prop :=
  ∀ i l, e'.storageAt i l = if i = id ∧ l = lun then x else e.storageAt i l

theorem replacesInUse (replaces : Replaces id lun x e e') :
    e'.fileInUse = Function.update e.fileInUse (id,lun) (nameOf x) := by
  funext ⟨i,l⟩
  rw [fileInUse,replaces]
  by_cases here : i = id ∧ l = lun
  · rw [if_pos here,here.1,here.2,Function.update_self]
  · rw [if_neg here,Function.update_of_ne (fun same => here (Prod.mk.inj same))]
    rfl

theorem replacesInserted (h : Tidy e) (replaces : Replaces id lun x e e')
    (inserted : ∀ s, x = some s → s.removed = false → s.filename ≠ "") {i : Int} {l : Nat} {s : StorageDevice}
    (now : e'.storageAt i l = some s) : s.removed = false → s.filename ≠ "" := by
  rw [replaces] at now
  split at now
  · exact inserted s now
  · exact h.inserted now

/- The name in use stays the same. -/
theorem tidyKept (h : Tidy e) (attached : Attached e') (replaces : Replaces id lun x e e')
    (same : nameOf x = e.fileInUse (id,lun)) (table : e'.world.reservedFiles = e.world.reservedFiles)
    (inserted : ∀ s, x = some s → s.removed = false → s.filename ≠ "") : Tidy e' := by
  refine ⟨attached,?_,replacesInserted h replaces inserted⟩
  rw [replacesInUse replaces,same,Function.update_eq_self,table]
  exact h.table

/- The name in use is given up. -/
theorem tidyReleased (h : Tidy e) {s : StorageDevice} (here : e.storageAt id lun = some s) (attached : Attached e')
    (replaces : Replaces id lun x e e') (unnamed : nameOf x = none)
    (table : e'.world.reservedFiles = Function.update e.world.reservedFiles s.filename none)
    (inserted : ∀ s, x = some s → s.removed = false → s.filename ≠ "") : Tidy e' := by
  refine ⟨attached,?_,replacesInserted h replaces inserted⟩
  rw [replacesInUse replaces,unnamed,table]
  have used : e.fileInUse (id,lun) = nameOf (some s) := by rw [fileInUse,here]
  by_cases named : s.filename = ""
  · rw [nameOfEmpty named] at used
    have empty := tableEmpty h
    rw [named,← empty,← used,Function.update_eq_self,Function.update_eq_self]
    exact h.table
  · rw [nameOfSome named] at used
    exact inverseRelease h.table used

/- A name that is free is taken. -/
theorem tidyClaimed (h : Tidy e) {s : StorageDevice} (attached : Attached e') (replaces : Replaces id lun (some s) e e')
    (unnamed : e.fileInUse (id,lun) = none) (named : s.filename ≠ "") (free : e.world.reservedFiles s.filename = none)
    (table : e'.world.reservedFiles = Function.update e.world.reservedFiles s.filename (some (id,lun))) : Tidy e' := by
  refine ⟨attached,?_,replacesInserted h replaces fun t same _ => Option.some.inj same ▸ named⟩
  rw [replacesInUse replaces,nameOfSome named,table]
  exact inverseClaim h.table unnamed free

end

theorem storageAtEq {id : Int} {lun : Nat} {d : AnyDevice} (here : e.getDeviceForIdAndLun id lun = some d) :
    e.storageAt id lun = d.storage := by
  rw [storageAt,here]
  rfl

theorem putReplaces {id : Int} {lun : Nat} {d d' : AnyDevice} (here : e.getDeviceForIdAndLun id lun = some d)
    (controllers : e'.controllers = putLuns id lun d' e.controllers) : Replaces id lun d'.storage e e' := by
  intro i l
  have get : e'.getDeviceForIdAndLun i l = if i = id ∧ (l : Int) = lun then some d' else e.getDeviceForIdAndLun i l := by
    rw [← putDeviceGet here,putDeviceEq]
    unfold getDeviceForIdAndLun
    rw [controllers]
  rw [storageAt,get]
  by_cases at' : i = id ∧ l = lun
  · rw [if_pos at',if_pos ⟨at'.1,by rw [at'.2]⟩]
    rfl
  · rw [if_neg at',if_neg fun same => at' ⟨same.1,Int.ofNat_inj.mp same.2⟩]
    rfl

/-! The steps of remote commands. -/

theorem tidyQuiet (h : Tidy e) (quiet : Quiet e e') : Tidy e' := by
  obtain ⟨files,rfl⟩ := quiet
  exact ⟨attachedStep h.attached (.same rfl rfl),h.table,h.inserted⟩

theorem tidyAttached {definition : PbDeviceDefinition} {d : AnyDevice} (h : Tidy e) (attached : Attached e')
    (valid : ValidUnit .attach definition e) (attaches : Attaches host definition e d e') : Tidy e' := by
  have adds := attachesAdds valid attaches
  have replaces : Replaces definition.id d.primary.lun d.storage e e' := by
    intro i l
    rw [storageAt,addsGet adds]
    by_cases at' : i = definition.id ∧ l = d.primary.lun
    · rw [if_pos at',if_pos ⟨at'.1,by rw [at'.2]⟩]
      rfl
    · rw [if_neg at',if_neg fun same => at' ⟨same.1,Int.ofNat_inj.mp same.2⟩]
      rfl
  have unused : e.fileInUse (definition.id,d.primary.lun) = none := by
    rw [fileInUse,storageAt,adds.free]
    rfl
  have table := attaches.reservedFiles
  cases storage : d.storage with
  | none =>
    rw [storage] at replaces
    rw [registered,storage] at table
    exact tidyKept h attached replaces unused.symm table fun s same => by cases same
  | some s =>
    have medium := attaches.prepared.medium
    rw [AnyDevice.mediumStorage storage] at medium
    rw [storage] at replaces
    rcases medium.2.2 with ⟨unnamed,removed⟩ | ⟨named,inserted,free⟩
    · simp only [registered,storage,removed] at table
      refine tidyKept h attached replaces ?_ table ?_
      · rw [unused,nameOfEmpty unnamed]
      · intro t same inserted
        cases same
        exact Bool.noConfusion (removed.symm.trans inserted)
    · simp only [registered,storage,inserted] at table
      refine tidyClaimed h attached replaces unused named free ?_
      rw [AnyDevice.primaryStorage storage]
      exact table

theorem tidyDetached {id lun : Int} {d : AnyDevice} (h : Tidy e) (attached : Attached e')
    (here : e.getDeviceForIdAndLun id lun = some d) (detaches : Detaches id d e e') : Tidy e' := by
  have unit := h.attached.registered here
  obtain ⟨luns,found,_,controllers⟩ := detaches.controllers
  have replaces : Replaces id d.primary.lun none e e' := by
    intro i l
    rw [storageAt,withoutLunGet found controllers]
    by_cases at' : i = id ∧ l = d.primary.lun
    · rw [if_pos at',if_pos ⟨at'.1,by rw [at'.2]⟩]
      rfl
    · rw [if_neg at',if_neg fun same => at' ⟨same.1,Int.ofNat_inj.mp same.2⟩]
      rfl
  rw [← unit] at here
  have before := storageAtEq here
  have table := detaches.reservedFiles
  cases storage : d.storage with
  | none =>
    rw [released,storage] at table
    refine tidyKept h attached replaces ?_ table fun s same => by cases same
    rw [fileInUse,before,storage]
  | some s =>
    rw [released,storage] at table
    exact tidyReleased h (before.trans storage) attached replaces rfl table fun s same => by cases same

theorem tidyDetachedAll (h : Tidy e) (attached : Attached e') (detaches : DetachesAll e e') : Tidy e' := by
  have gone : ∀ i l, e'.storageAt i l = none := by
    intro i l
    rw [storageAt,getDeviceForIdAndLun,detaches.controllers]
    rfl
  have cleared : ∀ (devices : List (Int × AnyDevice)) (table : String → Option (Int × Nat)) (filename : String),
      (table filename ≠ none → ∃ device ∈ devices, ∃ s, device.2.storage = some s ∧ s.filename = filename) →
      devices.foldl (fun table device => released device.2 table) table filename = none := by
    intro devices
    induction devices with
    | nil =>
      intro table filename entry
      by_contra found
      obtain ⟨_,mem,_⟩ := entry found
      cases mem
    | cons device rest ih =>
      intro table filename entry
      refine ih (released device.2 table) filename fun found => ?_
      have before : table filename ≠ none ∧ ∀ s, device.2.storage = some s → s.filename ≠ filename := by
        cases storage : device.2.storage with
        | none =>
          simp only [released,storage] at found
          exact ⟨found,fun t same => by cases same⟩
        | some s =>
          simp only [released,storage] at found
          by_cases same : s.filename = filename
          · rw [same,Function.update_self] at found
            exact absurd rfl found
          · rw [Function.update_of_ne (Ne.symm same)] at found
            exact ⟨found,fun t equal => by cases equal; exact same⟩
      obtain ⟨other,mem,s,storage,same⟩ := entry before.1
      rcases List.mem_cons.mp mem with rfl | mem
      · exact absurd same (before.2 s storage)
      · exact ⟨other,mem,s,storage,same⟩
  have empty : e'.world.reservedFiles = fun _ => none := by
    funext filename
    rw [detaches.reservedFiles]
    refine cleared _ _ filename fun found => ?_
    obtain ⟨⟨id,lun⟩,entry⟩ := Option.ne_none_iff_exists'.mp found
    obtain ⟨s,here,name,_⟩ := nameOfNonempty ((h.table filename (id,lun)).mp entry)
    obtain ⟨d,device,storage⟩ := Option.bind_eq_some_iff.mp here
    exact ⟨(id,d),memAllDevices.mpr ⟨lun,device⟩,s,storage,name⟩
  refine ⟨attached,?_,fun now => ?_⟩
  · have unused : e'.fileInUse = fun _ => none := by
      funext unit
      rw [fileInUse,gone]
      rfl
    rw [empty,unused]
    exact inverseEmpty
  · rw [gone] at now
    cases now

theorem tidyInserted {definition : PbDeviceDefinition} {d d' : AnyDevice} {s : StorageDevice} (h : Tidy e)
    (attached : Attached e') (here : e.getDeviceForIdAndLun definition.id definition.unit = some d)
    (storage : d.storage = some s) (unnamed : s.filename = "") (inserts : Inserts host definition e d s d' e') :
    Tidy e' := by
  have unit := h.attached.registered here
  obtain ⟨s1,s2,p,opens,_,storage2,changed⟩ := inserts.storage
  obtain ⟨files,s3,storage3,put⟩ := inserts.executor
  cases storage2.symm.trans storage3
  rw [← unit] at here put
  have controllers : e'.controllers = putLuns definition.id d.primary.lun d' e.controllers := by rw [put]
  have replaces := putReplaces here controllers
  rw [storage2] at replaces
  have name : s2.filename = s1.filename := by rw [changed]
  have lun : s2.lun = d.primary.lun := by
    rw [changed,AnyDevice.primaryStorage storage]
    exact (s1.setProtectedUnit p).1.trans opens.unit.1
  refine tidyClaimed h attached replaces ?_ (by rw [name]; exact opens.named) (by rw [name]; exact opens.unreserved) ?_
  · rw [fileInUse,storageAtEq here,storage]
    exact nameOfEmpty unnamed
  · rw [put,← lun]

theorem tidyNotInserted {definition : PbDeviceDefinition} {d : AnyDevice} {s : StorageDevice} (h : Tidy e)
    (here : e.getDeviceForIdAndLun definition.id definition.unit = some d) (storage : d.storage = some s)
    (attached : Attached (putDevice definition.id definition.unit (configuredFor definition.blockSize d) e)) :
    Tidy (putDevice definition.id definition.unit (configuredFor definition.blockSize d) e) := by
  obtain ⟨size,storage'⟩ := Configured.storage (configuredForSource definition.blockSize d) storage
  have unit := h.attached.registered here
  rw [← unit] at here attached ⊢
  have replaces : Replaces definition.id d.primary.lun _ e
      (putDevice definition.id d.primary.lun (configuredFor definition.blockSize d) e) :=
    putReplaces here (by rw [putDeviceEq])
  rw [storage'] at replaces
  have before := (storageAtEq here).trans storage
  refine tidyKept h attached replaces ?_ (by rw [putDeviceEq]) ?_
  · rw [fileInUse,before]
    rfl
  · intro t same inserted
    cases same
    have named : s.removed = false → s.filename ≠ "" := h.inserted before
    exact named inserted

/- A device whose medium stays as it is. -/
theorem tidySameMedium {id lun : Int} {d d' : AnyDevice} (h : Tidy e)
    (here : e.getDeviceForIdAndLun id lun = some d) (attached : Attached (putDevice id lun d' e))
    (same : d'.storage.map (fun s => (s.filename,s.removed)) = d.storage.map fun s => (s.filename,s.removed)) :
    Tidy (putDevice id lun d' e) := by
  have unit := h.attached.registered here
  rw [← unit] at here attached ⊢
  have replaces : Replaces id d.primary.lun _ e (putDevice id d.primary.lun d' e) :=
    putReplaces here (by rw [putDeviceEq])
  have before := storageAtEq here
  have medium : ∀ t, d'.storage = some t → ∃ s, d.storage = some s ∧ t.filename = s.filename ∧ t.removed = s.removed := by
    intro t storage
    rw [storage] at same
    obtain ⟨s,storage',equal⟩ := Option.map_eq_some_iff.mp same.symm
    exact ⟨s,storage',(Prod.mk.inj equal).1.symm,(Prod.mk.inj equal).2.symm⟩
  refine tidyKept h attached replaces ?_ (by rw [putDeviceEq]) ?_
  · rw [fileInUse,before]
    cases storage : d'.storage with
    | none =>
      rw [storage] at same
      rw [Option.map_eq_none_iff.mp same.symm]
    | some t =>
      obtain ⟨s,storage',name,_⟩ := medium t storage
      simp only [storage',nameOf,Option.bind_some,name]
  · intro t storage inserted
    obtain ⟨s,storage',name,removed⟩ := medium t storage
    rw [name]
    exact h.inserted (before.trans storage') (removed.symm.trans inserted)

theorem tidyOutcome {operation : PbOperation} {definition : PbDeviceDefinition} {result : Except CommandError Unit}
    (careful : CarefulInsert host (.device operation definition) e)
    (outcome : Outcome host operation definition e result e') (h : Tidy e) : Tidy e' := by
  have attached := attachedStep h.attached (outcomeReattaches outcome)
  cases outcome with
  | failed x _ quiet => exact tidyQuiet h quiet
  | attached d _ attach valid attaches =>
    subst attach
    exact tidyAttached h attached valid attaches
  | detached d _ _ here detaches => exact tidyDetached h attached here detaches
  | inserted d d' s _ insert here storage _ removed inserts =>
    subst insert
    obtain ⟨s1,_,_,opens,_⟩ := inserts.storage
    have unnamed := (careful d s here storage removed opens.tried).1
    exact tidyInserted h attached here storage unnamed inserts
  | notInserted x d d' s e1 insert here storage _ removed quiet fails =>
    subst insert
    cases fails with
    | reserved _ _ _ configured =>
      subst configured
      have later := tidyQuiet h quiet
      obtain ⟨files,rfl⟩ := quiet
      exact tidyNotInserted later here storage attached
    | notOpened s' refused _ opens =>
      have able := (careful d s here storage removed opens.tried).2
      exact Bool.noConfusion (refused.symm.trans able)
  | ejected d _ _ here ejects =>
    cases ejects with
    | refused _ put =>
      subst put
      exact tidySameMedium h here attached rfl
    | ejected d' files _ _ storage' primary _ put =>
      have unit := h.attached.registered here
      rw [← unit] at here put
      have replaces := putReplaces here (show e'.controllers = putLuns definition.id d.primary.lun d' e.controllers by rw [put])
      have before := storageAtEq here
      cases storage : d.storage with
      | none =>
        rw [storage',storage] at replaces
        refine tidyKept h attached replaces ?_ ?_ fun s same => by cases same
        · rw [fileInUse,before,storage]
          rfl
        · rw [put]
          simp only [released,storage]
      | some s =>
        rw [storage',storage] at replaces
        refine tidyReleased h (before.trans storage) attached replaces (nameOfEmpty rfl) ?_ ?_
        · rw [put]
          simp only [released,storage]
        · intro t same inserted
          cases same
          exact Bool.noConfusion (show true = false from inserted)
  | changed d f known here _ =>
    refine tidySameMedium h here attached ?_
    rw [AnyDevice.setPrimaryStorage,Option.map_map]
    cases storage : d.storage with
    | none => rfl
    | some s =>
      have removed := (flagChangeUnit known d.primary).2.2
      simp only [Option.map_some,Function.comp_apply,removed]
      rw [AnyDevice.primaryStorage storage]

theorem tidyChange {task : Task} (careful : CarefulInsert host task e) (change : Change host e task e') (h : Tidy e) :
    Tidy e' := by
  cases change with
  | quiet _ _ quiet => exact tidyQuiet h quiet
  | device operation definition result _ outcome => exact tidyOutcome careful outcome h
  | detachedAll _ detaches => exact tidyDetachedAll h (attachedStep h.attached (.cleared detaches.controllers detaches.reservedIds)) detaches
  | reservedIds ids _ reserves =>
    have attached := attachedStep h.attached (.reserved reserves.controllers reserves.reservedIds)
    obtain ⟨c,_,w,_⟩ := e
    obtain ⟨c',_,w',_⟩ := e'
    cases reserves.controllers
    cases reserves.world
    exact ⟨attached,h.table,h.inserted⟩

/-! START STOP UNIT. -/

theorem StartStop.unit {start load : Bool} {targetId : Int} {s s' : StorageDevice} {w w' : World}
    {result : Except ScsiException PhaseCall} (h : StartStop start load targetId s w result s' w') :
    s'.lun = s.lun ∧ s'.type = s.type := by
  cases h <;> exact ⟨rfl,rfl⟩

theorem tidyStartStop {id lun : Nat} {initiatorId : Int} {cdb : Bytes} (command : cdb.getD 0 0 = ScsiCommand.startStop)
    (env : Env) (careful : CarefulLoad id lun initiatorId cdb e) {s : StorageDevice}
    (here : e.storageAt id lun = some s) (h : Tidy e) : Tidy (e.execute id lun initiatorId cdb env).2 := by
  obtain ⟨d,device,storage⟩ := Option.bind_eq_some_iff.mp here
  obtain ⟨status,s0,s1,d',s',w',ran,sensed,sensed',storage',outcome⟩ :=
    executeStartStop device storage initiatorId command env
  rw [ran]
  have unit : s1.lun = s0.lun ∧ s1.type = s0.type := by
    rcases outcome with ⟨_,_,rfl,_⟩ | ⟨_,_,starts,_⟩
    · exact ⟨rfl,rfl⟩
    · exact StartStop.unit starts
  have flags := sensed.flags
  have flags' := sensed'.flags
  have attached : Attached (putDevice id lun d' { e with world := w' }) := by
    refine attachedSameUnits h.attached (putSameUnits device ?_ ?_ (by rw [putDeviceEq]) (by rw [putDeviceEq]))
    · rw [AnyDevice.primaryStorage storage,AnyDevice.primaryStorage storage',flags'.2.2.2.2.1,unit.1,flags.2.2.2.2.1]
    · rw [AnyDevice.primaryStorage storage,AnyDevice.primaryStorage storage',flags'.2.2.2.2.2,unit.2,flags.2.2.2.2.2]
  have replaces : Replaces id lun _ e (putDevice id lun d' { e with world := w' }) :=
    putReplaces device (by rw [putDeviceEq])
  rw [storage'] at replaces
  have world : (putDevice id lun d' { e with world := w' }).world = w' := by rw [putDeviceEq]
  have used : e.fileInUse (id,lun) = nameOf (some s) := by rw [fileInUse,here]
  have name0 : s0.filename = s.filename := by obtain ⟨b,rfl,_⟩ := sensed.source; rfl
  have last0 : s0.lastFilename = s.lastFilename := by obtain ⟨b,rfl,_⟩ := sensed.source; rfl
  have name1 : s'.filename = s1.filename := by obtain ⟨b,rfl,_⟩ := sensed'.source; rfl
  have removed0 : s0.removed = s.removed := flags.2.2.2.1
  have removed1 : s'.removed = s1.removed := flags'.2.2.2.1
  have kept : s1.filename = s0.filename → s1.removed = s0.removed → w'.reservedFiles = e.world.reservedFiles →
      Tidy (putDevice id lun d' { e with world := w' }) := by
    intro name removed table
    refine tidyKept h attached replaces ?_ (by rw [world,table]) ?_
    · rw [used]
      simp only [nameOf,Option.bind_some,name1,name,name0]
    · intro t same inserted
      cases same
      rw [name1,name,name0]
      refine h.inserted here ?_
      rw [← removed0,← removed,← removed1]
      exact inserted
  rcases outcome with ⟨_,_,rfl,rfl⟩ | ⟨accepted,result,starts,_⟩
  · exact kept rfl rfl rfl
  · cases starting : startBit { cdb } with
    | false =>
      rw [starting] at starts
      cases starts with
      | mediumChange => exact kept rfl rfl rfl
      | stopped => exact kept rfl rfl rfl
      | ejectRefused => exact kept rfl rfl rfl
      | nothingToLoad _ start => cases start
      | loadRefused _ start => cases start
      | loaded _ start => cases start
      | ejected files =>
        refine tidyReleased h here attached replaces (nameOfEmpty name1) ?_ ?_
        · rw [world,← name0]
        · intro t same inserted
          cases same
          exact Bool.noConfusion (removed1.symm.trans inserted)
    | true =>
      rw [starting] at starts
      have loads := careful s here accepted
      cases starts with
      | mediumChange => exact kept rfl rfl rfl
      | stopped => exact kept rfl rfl rfl
      | ejectRefused _ start => cases start
      | ejected _ _ start => cases start
      | nothingToLoad => exact kept rfl rfl rfl
      | loadRefused unchanged _ load named reserved =>
        have unchanged : s.mediumChanged = false := by
          obtain ⟨b,rfl,_⟩ := sensed.source
          exact unchanged
        rw [last0] at named reserved
        rcases loads unchanged starting load named with same | ⟨_,free⟩
        · exact kept (by rw [last0,name0,same]) rfl rfl
        · exact absurd free reserved
      | loaded unchanged _ load named free =>
        have unchanged : s.mediumChanged = false := by
          obtain ⟨b,rfl,_⟩ := sensed.source
          exact unchanged
        rw [last0] at named free
        have now : s'.filename = s.lastFilename := name1.trans last0
        have unnamed : s.filename = "" := by
          rcases loads unchanged starting load named with same | ⟨unnamed,_⟩
          · have entry := (h.table s.filename (id,lun)).mpr (used.trans (nameOfSome (same ▸ named)))
            rw [same,free] at entry
            cases entry
          · exact unnamed
        refine tidyClaimed h attached replaces (used.trans (nameOfEmpty unnamed)) (now ▸ named) (by rw [now]; exact free) ?_
        have own : s0.lun = lun := by
          have unit := h.attached.registered device
          rw [AnyDevice.primaryStorage storage] at unit
          rw [flags.2.2.2.2.1]
          exact Int.ofNat_inj.mp unit
        rw [world,now]
        dsimp only
        rw [last0,own]

/-! Runs. -/

theorem tidyStep {action : Action} (careful : Careful e action) (h : Tidy e) : Tidy (e.step action) := by
  cases action with
  | remote host command =>
    exact processKeeps (fun _ _ quiet h => tidyQuiet h quiet) (fun _ _ _ => tidyChange) command careful h
  | startStop id lun initiatorId parameters env =>
    change Tidy (if (e.storageAt id lun).isSome then _ else e)
    split
    · next present =>
      obtain ⟨s,here⟩ := Option.isSome_iff_exists.mp present
      exact tidyStartStop rfl env careful here h
    · exact h
  | files files => exact tidyQuiet h ⟨files,rfl⟩

theorem tidyRun {actions : List Action} (careful : CarefulRun e actions) (h : Tidy e) : Tidy (actions.foldl step e) := by
  induction actions generalizing e with
  | nil => exact h
  | cons action rest ih => exact ih careful.2 (tidyStep careful.1 h)

/- The state before the first command. -/
def initially (files : FileSystem) (properties : PropertyHandler) : CommandExecutor := { world := { files }, properties }

theorem tidyInitially (files : FileSystem) (properties : PropertyHandler) : Tidy (initially files properties) := by
  refine ⟨attachedEmpty _ _,?_,fun here => by cases here⟩
  exact inverseEmpty

theorem carefulRunConsistent (files : FileSystem) (properties : PropertyHandler) (actions : List Action)
    (careful : CarefulRun (initially files properties) actions) :
    FilesConsistent (actions.foldl step (initially files properties)) :=
  tidyConsistent (tidyRun careful (tidyInitially files properties))

def twoFiles : FileSystem := fun name => if name = "image" ∨ name = "other" then some (List.replicate 512 0) else none

def insertFile (file : String) : PbCommand := { operation := .insert, devices := [{ params := [("file",file)] }] }

def ejectMedium : Action := .startStop 0 0 7 [0,0,0,2,0] {}
def loadMedium : Action := .startStop 0 0 7 [0,0,0,3,0] {}

def ejectedDrive : CommandExecutor := ((initially twoFiles {}).step (.remote {} (attachImage .scrm))).step ejectMedium

theorem ejectedDriveFree : (ejectedDrive.storageAt 0 0).all (fun s => s.filename = "" ∧
    ejectedDrive.world.reservedFiles s.lastFilename = none) = true := by
  decide +kernel

theorem ejectedDriveLoad : Careful ejectedDrive loadMedium := by
  intro s here _ _ _ _ _
  change ejectedDrive.storageAt 0 0 = some s at here
  have free := ejectedDriveFree
  rw [here,Option.all_some,decide_eq_true_eq] at free
  exact .inr free

theorem attachCareful (type : PbDeviceType) (e : CommandExecutor) : Careful e (.remote {} (attachImage type)) := by
  change CommandMeets CarefulInsert {} (attachImage type) e
  refine commandMeetsAlways (fun task mem e => ?_) e
  obtain rfl := List.mem_singleton.mp mem
  trivial

theorem ejectCareful (e : CommandExecutor) : Careful e ejectMedium :=
  fun _ _ _ _ start => absurd start (by decide)

theorem carefulCons {action : Action} {rest : List Action} (first : Careful e action)
    (later : CarefulRun (e.step action) rest) : CarefulRun e (action::rest) := ⟨first,later⟩

/- A drive whose medium is ejected and loaded again. -/
def reload : List Action := [.remote {} (attachImage .scrm),ejectMedium,loadMedium]

theorem reloadCareful (last : Careful ((e.step (.remote {} (attachImage .scrm))).step ejectMedium) loadMedium) :
    CarefulRun e reload :=
  carefulCons (attachCareful .scrm e) (carefulCons (ejectCareful _) (carefulCons last trivial))

theorem carefulReload : FilesConsistent (reload.foldl step (initially twoFiles {})) :=
  carefulRunConsistent twoFiles {} reload (reloadCareful ejectedDriveLoad)

/- Another medium is inserted before the old one is loaded again. The drive reports the
new medium first. -/
def loadOther : List Action := [.remote {} (attachImage .scrm),ejectMedium,.remote {} (insertFile "other"),loadMedium,loadMedium]

theorem loadReplacesFile : ¬FilesConsistent (loadOther.foldl step (initially twoFiles {})) := by
  intro consistent
  have entry : (loadOther.foldl step (initially twoFiles {})).world.reservedFiles "other" = some (0,0) := by
    decide +kernel
  obtain ⟨s,here,name⟩ := consistent.used entry
  have other : ((loadOther.foldl step (initially twoFiles {})).storageAt 0 0).all (fun s => s.filename = "image") = true := by
    decide +kernel
  rw [here,Option.all_some,name] at other
  cases other

end CommandExecutor
end Scsi2Pi
