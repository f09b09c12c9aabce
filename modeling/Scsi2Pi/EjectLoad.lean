import Scsi2Pi.Attachment
import Scsi2Pi.ScsiAccess

/-! Whether a device with a medium is as before after an eject and a load, and
after a remote STOP and a remote START. -/
namespace Scsi2Pi
open Eff

/- Whether the cache or the file through which the medium is accessed is there. -/
def AnyDevice.mediumOpen : AnyDevice → Bool
  | .scsiHd d | .sasiHd d | .opticalMemory d => d.cache.isSome
  | .scsiCd d => d.cache.isSome
  | .tape d => d.isOpen
  | .printer _ | .daynaPort _ | .hostServices _ | .scsiGeneric _ => false

namespace CommandExecutor
open StorageDevice

/- The device is ready with the same medium as before. -/
structure Restored (d d' : AnyDevice) : Prop where
  ready : d'.primary.ready = true
  medium : d'.storage.map (fun s => (s.filename,s.blockSize,s.blocks)) =
    d.storage.map fun s => (s.filename,s.blockSize,s.blocks)
  mediumOpen : d'.mediumOpen = d.mediumOpen

/- A START STOP UNIT command with the load bit. -/
structure LoadEject (start : Bool) (cdb : Bytes) : Prop where
  opcode : cdb.getD 0 0 = ScsiCommand.startStop
  start : startBit { cdb } = start
  load : loadBit { cdb } = true

def EjectLoadRestores (e : CommandExecutor) (id lun : Nat) (d : AnyDevice) : Prop :=
  ∀ initiatorId initiatorId' cdb cdb' env env', LoadEject false cdb → LoadEject true cdb' →
    let ejected := e.execute id lun initiatorId cdb env
    let loaded := ejected.2.execute id lun initiatorId' cdb' env'
    ejected.1 = .good → loaded.1 = .good →
      ∃ d', loaded.2.getDeviceForIdAndLun id lun = some d' ∧ Restored d d'

def command (operation : PbOperation) (id lun : Int) : PbCommand := { operation, devices := [{ id, unit := lun }] }

def StopStartRestores (e : CommandExecutor) (id lun : Nat) (d : AnyDevice) : Prop :=
  ∀ host host', ∃ d', ((e.process host (command .stop id lun)).process host' (command .start id lun)).getDeviceForIdAndLun
    id lun = some d' ∧ Restored d d'

/- A SCSI command may change anything about the devices and the files, but not where
the devices are attached. -/
inductive Reachable : CommandExecutor → Prop where
  | start (world : World) (properties : PropertyHandler) : Reachable { world, properties }
  | remote (e : CommandExecutor) (host : Host) (command : PbCommand) : Reachable e → Reachable (e.process host command)
  | scsi (e e' : CommandExecutor) : Reachable e → SameUnits e e' → Reachable e'

variable {e e' : CommandExecutor} {id lun : Nat} {d : AnyDevice} {s : StorageDevice}

theorem processAttached (h : Attached e) (host : Host) (command : PbCommand) : Attached (e.process host command) :=
  runKeeps (fun _ _ _ _ change h => attachedStep h (changeReattaches change)) [(host,command)] h

theorem reachableAttached (h : Reachable e) : Attached e := by
  induction h with
  | start world properties => exact attachedEmpty world properties
  | remote e host command _ ih => exact processAttached ih host command
  | scsi e e' _ same ih => exact attachedSameUnits ih same

/-! Eject and load. -/

theorem ejectExecuted (here : e.getDeviceForIdAndLun id lun = some d) (h : d.storage = some s) (initiatorId : Int)
    {cdb : Bytes} (eject : LoadEject false cdb) (env : Env) :
    (e.execute id lun initiatorId cdb env).1 ≠ .good ∧
        (s.mediumChanged = true ∨ s.canEject false = false ∨ s.reservingInitiator ≠ initiatorId) ∨
      s.mediumChanged = false ∧ s.canEject false = true ∧ ∃ d' s' w', e.execute id lun initiatorId cdb env =
        (.good,putDevice id lun d' { e with world := w' }) ∧ d'.storage = some s' ∧ Sensed s.ejected s' ∧
        w'.reservedFiles s.filename = none := by
  obtain ⟨status,s0,s1,d',s',w',ran,sensed,sensed',storage',outcome⟩ := executeStartStop here h initiatorId eject.opcode env
  rw [ran]
  obtain ⟨b,rfl,same⟩ := sensed.source
  have able := sensed.canEject false
  rcases outcome with ⟨excluded,rfl,_⟩ | ⟨_,result,starts,rfl⟩
  · exact .inl ⟨fun no => StatusCode.noConfusion no,.inr (.inr excluded.2)⟩
  · rw [eject.start,eject.load] at starts
    cases starts with
    | mediumChange changed => exact .inl ⟨fun no => StatusCode.noConfusion no,.inl changed⟩
    | stopped _ _ load => cases load
    | ejectRefused _ _ _ refused => exact .inl ⟨fun no => StatusCode.noConfusion no,.inr (.inl (able ▸ refused))⟩
    | ejected files unchanged _ _ ejectable =>
      refine .inr ⟨unchanged,able ▸ ejectable,d',s',_,rfl,storage',?_,Function.update_self _ _ _⟩
      obtain ⟨b',rfl,same'⟩ := sensed'.source
      change ({ s with toPrimaryDevice := b'.resetStatus, lastFilename := s.filename, filename := "" } : StorageDevice) = _
      rw [same']
      change ({ s with toPrimaryDevice := b.resetStatus.ejected, lastFilename := s.filename, filename := "" } :
        StorageDevice) = _
      rw [same]
      rfl
    | nothingToLoad _ start => cases start
    | loadRefused _ start => cases start
    | loaded _ start => cases start

/- The load that follows an eject ends with GOOD, but the device is not ready. -/
theorem loadExecuted (here : e.getDeviceForIdAndLun id lun = some d) (h : d.storage = some s)
    (unchanged : s.mediumChanged = false) (free : e.world.reservedFiles s.lastFilename = none) {cdb : Bytes}
    (load : LoadEject true cdb) (env : Env) :
    ∃ d' e', e.execute id lun s.reservingInitiator cdb env = (.good,e') ∧ e'.getDeviceForIdAndLun id lun = some d' ∧
      d'.primary.ready = s.ready := by
  obtain ⟨status,s0,s1,d',s',w',ran,sensed,sensed',storage',outcome⟩ :=
    executeStartStop here h s.reservingInitiator load.opcode env
  obtain ⟨b,rfl,same⟩ := sensed.source
  have ready : d'.primary.ready = s1.ready := by
    rw [AnyDevice.primaryStorage storage']
    exact sensed'.flags.1
  have now : ∀ w, (putDevice id lun d' { e with world := w }).getDeviceForIdAndLun id lun = some d' := by
    intro w
    rw [putDeviceGet (e := { e with world := w }) here,if_pos ⟨rfl,rfl⟩]
  rcases outcome with ⟨excluded,_⟩ | ⟨_,result,starts,rfl⟩
  · exact absurd rfl excluded.2
  · rw [load.start,load.load] at starts
    cases starts with
    | mediumChange changed => exact Bool.noConfusion (unchanged.symm.trans changed)
    | stopped _ _ load => cases load
    | ejectRefused _ start => cases start
    | ejected _ _ start => cases start
    | nothingToLoad => exact ⟨d',_,ran,now _,ready.trans sensed.flags.1⟩
    | loadRefused _ _ _ _ reserved => exact absurd free reserved
    | loaded => exact ⟨d',_,ran,now _,ready.trans sensed.flags.1⟩

def ejectCdb : Bytes := [0x1b,0,0,0,2,0]
def loadCdb : Bytes := [0x1b,0,0,0,3,0]

theorem ejectCdbEjects : LoadEject false ejectCdb := ⟨rfl,by decide,by decide⟩
theorem loadCdbLoads : LoadEject true loadCdb := ⟨rfl,by decide,by decide⟩

theorem ejectLoadIff (here : e.getDeviceForIdAndLun id lun = some d) (h : d.storage = some s) :
    EjectLoadRestores e id lun d ↔ s.mediumChanged = true ∨ s.canEject false = false := by
  constructor
  · intro restores
    rcases ejectExecuted here h s.reservingInitiator ejectCdbEjects {} with ⟨_,changed | refused | other⟩ |
      ⟨unchanged,_,d1,s1,w1,ran,storage1,sensed,free⟩
    · exact .inl changed
    · exact .inr refused
    · exact absurd rfl other
    · obtain ⟨b,rfl,same⟩ := sensed.source
      have here1 : (putDevice id lun d1 { e with world := w1 }).getDeviceForIdAndLun id lun = some d1 := by
        rw [putDeviceGet (e := { e with world := w1 }) here,if_pos ⟨rfl,rfl⟩]
      have world : (putDevice id lun d1 { e with world := w1 }).world = w1 := by rw [putDeviceEq]
      obtain ⟨d2,e2,ran2,here2,ready⟩ := loadExecuted here1 storage1 unchanged (by rw [world]; exact free) loadCdbLoads {}
      have executed := restores s.reservingInitiator b.reservingInitiator ejectCdb loadCdb {} {} ejectCdbEjects loadCdbLoads
      rw [ran] at executed
      dsimp only at executed
      rw [ran2] at executed
      obtain ⟨d3,here3,restored⟩ := executed rfl rfl
      rw [here2] at here3
      cases here3
      have gone : b.ready = false := sensed.flags.1
      exact Bool.noConfusion ((ready.trans gone).symm.trans restored.ready)
  · intro never initiatorId _ cdb _ env _ eject _ _ _ ejected _
    rcases ejectExecuted here h initiatorId eject env with ⟨failed,_⟩ | ⟨unchanged,able,_⟩
    · exact absurd ejected failed
    · rcases never with changed | refused
      · exact Bool.noConfusion (unchanged.symm.trans changed)
      · exact Bool.noConfusion (refused.symm.trans able)

/-! STOP and START. -/

theorem ensureLun0Done (h : Attached e) (here : e.getDeviceForIdAndLun id lun = some d) (operation : PbOperation)
    (host : Host) : ensureLun0 (command operation id lun).devices host e = (.ok (),e) := by
  have present : ∀ i, e.hasController i = true → (i,0) ∈ e.units := by
    intro i controller
    obtain ⟨d0,first⟩ := h.lun0 controller
    refine List.mem_map.mpr ⟨(i,d0),memAllDevices.mpr ⟨0,first⟩,?_⟩
    rw [h.registered first]
  have complete : missingLun0 e (command operation id lun).devices = none := by
    refine List.find?_eq_none.mpr fun i mem missing => ?_
    refine absurd ?_ (of_decide_eq_true missing)
    refine List.mem_append_right _ (present i ?_)
    obtain ⟨unit,listed,rfl⟩ := List.mem_map.mp mem
    rcases List.mem_append.mp listed with new | old
    · obtain ⟨_,named,rfl⟩ := List.mem_map.mp new
      obtain rfl := List.mem_singleton.mp named
      exact deviceController here
    · obtain ⟨⟨_,_⟩,attached,rfl⟩ := List.mem_map.mp old
      obtain ⟨_,here'⟩ := memAllDevices.mp attached
      exact deviceController here'
  simp only [ensureLun0,bind,get,getThe,MonadStateOf.get,complete]
  rfl

theorem validateDeviceDone (h : Attached e) (here : e.getDeviceForIdAndLun id lun = some d) (operation : PbOperation)
    (host : Host) : validateDevice operation { id, unit := lun } host e = (.ok (),e) := by
  have range := h.range (deviceController here)
  have limit : (lun : Int) < 32 := by
    have limit := h.limit here
    unfold lunLimit at limit
    split at limit <;> omega
  have ended : wp (validateDevice operation { id, unit := lun }) host e (fun _ t => t = e) fun _ _ => False := by
    simp only [validateDevice,wpBind,wpIte,wpFail,wpPure,wpGet,deviceController here,here,PbDeviceType.lunMax]
    have unit : ¬((lun : Int) < 0 ∨ (if PbDeviceType.undefined = PbDeviceType.sahd then 2 else 32) ≤ (lun : Int)) := by
      rw [if_neg PbDeviceType.noConfusion]
      omega
    exact ⟨by omega,fun _ => ⟨by omega,fun _ => ⟨unit,fun _ => ⟨fun _ => trivial,fun _ =>
      ⟨fun no => Bool.noConfusion no,fun _ => ⟨fun no => Bool.noConfusion no,fun _ => trivial⟩⟩⟩⟩⟩⟩
  obtain ⟨_,t,ran,rfl⟩ := wpRuns ended
  exact ran

theorem processDeviceEq (h : Attached e) (here : e.getDeviceForIdAndLun id lun = some d) {operation : PbOperation}
    (other : operation ≠ .attach) (dryRun : Bool) (host : Host) :
    processDeviceCmd operation { id, unit := lun } dryRun host e =
      (do validateOperation operation d; operate operation { id, unit := lun } d dryRun) host e := by
  simp only [processDeviceCmd,bind,validateDeviceDone h here operation host,get,getThe,MonadStateOf.get,here,other]
  rfl

/- A command for a device that does not support it. -/
theorem processRefused (h : Attached e) (here : e.getDeviceForIdAndLun id lun = some d) {operation : PbOperation}
    (flag : operation = .start ∨ operation = .stop) (fixed : d.primary.stoppable = false) (host : Host) :
    e.process host (command operation id lun) = e := by
  have other : operation ≠ .attach := by rcases flag with rfl | rfl <;> exact fun no => PbOperation.noConfusion no
  have refused : ∃ x, processDeviceCmd operation { id, unit := lun } true host e = (.error x,e) := by
    rw [processDeviceEq h here other]
    simp only [bind,validateOperation,flag,fixed]
    exact ⟨_,rfl⟩
  obtain ⟨x,refused⟩ := refused
  have rejected : processCmd (command operation id lun) host e = (.error x,e) := by
    rcases flag with rfl | rfl <;> simp only [processCmd,command,processDevices,bind,refused]
  rw [process,rejected]

theorem processFlag (h : Attached e) (here : e.getDeviceForIdAndLun id lun = some d) {operation : PbOperation}
    {f : PrimaryDevice → PrimaryDevice} (known : operation = .start ∧ f = start ∨ operation = .stop ∧ f = stop)
    (stoppable : d.primary.stoppable = true) (host : Host) :
    e.process host (command operation id lun) = putDevice id lun (d.setPrimary (f d.primary)) e := by
  have other : operation ≠ .attach := by rcases known with ⟨rfl,_⟩ | ⟨rfl,_⟩ <;> exact fun no => PbOperation.noConfusion no
  have valid : validateOperation operation d host e = (.ok (),e) := by
    rcases known with ⟨rfl,_⟩ | ⟨rfl,_⟩ <;> simp [validateOperation,stoppable,pure]
  have dry : processDeviceCmd operation { id, unit := lun } true host e = (.ok (),e) := by
    rw [processDeviceEq h here other]
    simp only [bind,valid]
    rcases known with ⟨rfl,_⟩ | ⟨rfl,_⟩ <;> rfl
  have real : processDeviceCmd operation { id, unit := lun } false host e =
      (.ok (),putDevice id lun (d.setPrimary (f d.primary)) e) := by
    rw [processDeviceEq h here other]
    simp only [bind,valid]
    rcases known with ⟨rfl,rfl⟩ | ⟨rfl,rfl⟩ <;> rfl
  have checked : ensureLun0 [{ id, unit := lun }] host e = (.ok (),e) := ensureLun0Done h here operation host
  have done : processCmd (command operation id lun) host e =
      (.ok (),putDevice id lun (d.setPrimary (f d.primary)) e) := by
    rcases known with ⟨rfl,_⟩ | ⟨rfl,_⟩ <;> simp only [processCmd,command,processDevices,bind,pure,dry,checked,real]
  rw [process,done]

theorem stopStartIff (h : Attached e) (here : e.getDeviceForIdAndLun id lun = some d) (ready : d.primary.ready = true) :
    StopStartRestores e id lun d ↔ d.primary.stoppable = false := by
  constructor
  · intro restores
    by_contra stoppable
    have stoppable : d.primary.stoppable = true := by simpa using stoppable
    let d1 := d.setPrimary (stop d.primary)
    have stopped : d1.primary = stop d.primary := AnyDevice.setPrimaryPrimary d _
    have ran := processFlag h here (.inr ⟨rfl,rfl⟩) stoppable {}
    have here1 : (putDevice id lun d1 e).getDeviceForIdAndLun id lun = some d1 := by
      rw [putDeviceGet here,if_pos ⟨rfl,rfl⟩]
    have h1 : Attached (putDevice id lun d1 e) := by
      rw [← ran]
      exact processAttached h _ _
    have ran1 := processFlag h1 here1 (.inl ⟨rfl,rfl⟩) (by rw [stopped]; exact stoppable) {}
    obtain ⟨d2,here2,restored⟩ := restores {} {}
    rw [ran,ran1,putDeviceGet here1,if_pos ⟨rfl,rfl⟩] at here2
    cases here2
    have gone := restored.ready
    rw [AnyDevice.setPrimaryPrimary,stopped] at gone
    exact Bool.noConfusion (show false = true from gone)
  · intro fixed host host'
    refine ⟨d,?_,ready,rfl,rfl⟩
    rw [processRefused h here (.inr rfl) fixed,processRefused h here (.inl rfl) fixed]
    exact here

/- Of the devices that are ready, only those that can neither be stopped nor be ejected
are restored by these commands. -/
theorem restoresIff (reachable : Reachable e) (here : e.getDeviceForIdAndLun id lun = some d) (h : d.storage = some s)
    (ready : s.ready = true) : EjectLoadRestores e id lun d ∧ StopStartRestores e id lun d ↔
      s.stoppable = false ∧ (s.mediumChanged = true ∨ s.removable = false ∨ s.locked = true) := by
  have primary := AnyDevice.primaryStorage h
  rw [ejectLoadIff here h,stopStartIff (reachableAttached reachable) here (by rw [primary]; exact ready),primary]
  have able : s.canEject false = false ↔ s.removable = false ∨ s.locked = true := by
    simp only [PrimaryDevice.canEject,ready]
    cases s.removable <;> cases s.locked <;> simp
  rw [able]
  exact and_comm

theorem storageAny (any : Option AnyDevice) {p : StorageDevice → Bool} (h : (any.bind (·.storage)).any p = true) :
    ∃ d s, any = some d ∧ d.storage = some s ∧ p s = true := by
  cases any with
  | none => cases h
  | some d =>
    cases storage : d.storage with
    | none => simp [storage] at h
    | some s =>
      simp [storage] at h
      exact ⟨d,s,rfl,storage,h⟩

/- A tape whose removal is prevented. -/
theorem restoresLockedTape : ∃ e d, Reachable e ∧ e.getDeviceForIdAndLun 0 0 = some d ∧ EjectLoadRestores e 0 0 d ∧
    StopStartRestores e 0 0 d := by
  let e := attachedImage .sctp [0xff,0xff,0xff,0xff]
  obtain ⟨d,s,here,storage,flags⟩ := storageAny (e.getDeviceForIdAndLun 0 0)
    (p := fun s => s.ready && !s.stoppable) (by decide +kernel)
  have ready : s.ready = true := by simp_all
  have fixed : s.stoppable = false := by simp_all
  let locked := d.setPrimary { d.primary with locked := true }
  have primary : locked.primary = { d.primary with locked := true } := AnyDevice.setPrimaryPrimary d _
  have same : SameUnits e (putDevice 0 0 locked e) :=
    putSameUnits here (by rw [primary]) (by rw [primary]) (by rw [putDeviceEq]) (by rw [putDeviceEq])
  have reachable : Reachable (putDevice 0 0 locked e) :=
    .scsi _ _ (.remote _ _ _ (.start (imageWorld [0xff,0xff,0xff,0xff]) {})) same
  have here' : (putDevice 0 0 locked e).getDeviceForIdAndLun (0 : Nat) (0 : Nat) = some locked := by
    change (putDevice 0 0 locked e).getDeviceForIdAndLun 0 0 = some locked
    rw [putDeviceGet here,if_pos ⟨rfl,rfl⟩]
  have storage' := setPrimaryStorage storage { d.primary with locked := true }
  have flag : d.primary.ready = true ∧ d.primary.stoppable = false := by
    rw [AnyDevice.primaryStorage storage]
    exact ⟨ready,fixed⟩
  have restores := (restoresIff reachable here' storage' flag.1).mpr ⟨flag.2,.inr (.inr rfl)⟩
  exact ⟨_,locked,reachable,here',restores.1,restores.2⟩

/- A hard disk drive that has just been attached. -/
theorem stopStartLosesReady : ∃ e d s, Reachable e ∧ e.getDeviceForIdAndLun 0 0 = some d ∧ d.storage = some s ∧
    s.ready = true ∧ ¬(EjectLoadRestores e 0 0 d ∧ StopStartRestores e 0 0 d) := by
  let e := attachedImage .schd (List.replicate 512 0)
  obtain ⟨d,s,here,storage,flags⟩ := storageAny (e.getDeviceForIdAndLun 0 0)
    (p := fun s => s.ready && s.stoppable) (by decide +kernel)
  have ready : s.ready = true := by simp_all
  have stoppable : s.stoppable = true := by simp_all
  have reachable : Reachable e := .remote _ _ _ (.start (imageWorld (List.replicate 512 0)) {})
  refine ⟨e,d,s,reachable,here,storage,ready,fun restores => ?_⟩
  have primary := AnyDevice.primaryStorage storage
  have here' : e.getDeviceForIdAndLun (0 : Nat) (0 : Nat) = some d := here
  have fixed := (stopStartIff (reachableAttached reachable) here' (by rw [primary]; exact ready)).mp restores.2
  rw [primary,stoppable] at fixed
  cases fixed

end CommandExecutor
end Scsi2Pi
