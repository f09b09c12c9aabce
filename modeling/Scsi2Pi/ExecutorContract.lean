import Scsi2Pi.CommandExecutor
import Scsi2Pi.UnitContract

/-! What a remote command can do to the executor: one specification for each
function, and from these the effects of a command on one device. -/
namespace Scsi2Pi
open Eff

namespace CommandExecutor

variable {e : CommandExecutor} {id lun : Int} {d : AnyDevice}

/-! Lookups. -/

/- The controllers with a device that has changed. -/
def putLuns (id lun : Int) (d : AnyDevice) (controllers : AList fun _ : Int => Luns) : AList fun _ : Int => Luns :=
  match controllers.lookup id with
  | some luns => controllers.insert id (luns.insert lun d)
  | none => controllers

theorem putDeviceEq (id lun : Int) (d : AnyDevice) (e : CommandExecutor) :
    putDevice id lun d e = { e with controllers := putLuns id lun d e.controllers } := by
  cases found : e.controllers.lookup id with
  | none => simp only [putDevice,putLuns,found]
  | some luns => simp only [putDevice,putLuns,found]

theorem putLunsTwice (id lun : Int) (d d' : AnyDevice) (controllers : AList fun _ : Int => Luns) :
    putLuns id lun d' (putLuns id lun d controllers) = putLuns id lun d' controllers := by
  cases found : controllers.lookup id with
  | none => simp only [putLuns,found]
  | some luns => simp only [putLuns,found,AList.lookup_insert,AList.insert_insert]

theorem putDeviceGet {d0 : AnyDevice} (here : e.getDeviceForIdAndLun id lun = some d0) (d : AnyDevice) (i l : Int) :
    (putDevice id lun d e).getDeviceForIdAndLun i l =
      if i = id ∧ l = lun then some d else e.getDeviceForIdAndLun i l := by
  unfold getDeviceForIdAndLun at here
  cases found : e.controllers.lookup id with
  | none =>
    rw [found] at here
    cases here
  | some luns =>
    simp only [putDevice,found,getDeviceForIdAndLun]
    by_cases same : i = id
    · subst same
      by_cases unit : l = lun
      · subst unit
        simp
      · simp [unit,found]
    · simp [same]

/-! Computations that do not change the executor. -/

variable {α β : Type} {host : Host}

/- The result meets P unless there is an error. -/
def Reads (P : Host → CommandExecutor → α → Prop) (x : Exec α) : Prop :=
  ∀ host e, wp x host e (fun a t => t = e ∧ P host e a) fun _ t => t = e

variable {P : Host → CommandExecutor → α → Prop} {x : Exec α} {f : α → Exec β} {Q : β → CommandExecutor → Prop}
  {E : CommandError → CommandExecutor → Prop}

theorem wpReads (reads : Reads P x) (failed : ∀ x, E x e) (next : ∀ a, P host e a → wp (f a) host e Q E) :
    wp (x >>= f) host e Q E := by
  rw [wpBind]
  refine wpMono (reads host e) (fun a t ended => ?_) fun x t ended => ended ▸ failed x
  obtain ⟨rfl,holds⟩ := ended
  exact next a holds

/- A computation whose result is known. -/
theorem wpExactly {a : α} {t : CommandExecutor} (ran : x host e = (.ok a,t)) :
    wp x host e (fun b u => b = a ∧ u = t) fun _ _ => False := by
  rw [wp,ran]
  exact ⟨rfl,rfl⟩

theorem readsFail (key : LocalizationKey) (arguments : List String) : Reads P (fail key arguments : Exec α) :=
  fun _ _ => rfl

@[simp] theorem wpFail (key : LocalizationKey) (arguments : List String) {Q : α → CommandExecutor → Prop} :
    wp (fail key arguments : Exec α) host e Q E ↔ E (.localized key arguments) e := Iff.rfl

/-! Validation. -/

structure ValidUnit (operation : PbOperation) (definition : PbDeviceDefinition) (e : CommandExecutor) : Prop where
  id : 0 ≤ definition.id ∧ definition.id < 8
  unit : 0 ≤ definition.unit ∧ definition.unit < definition.type.lunMax
  attached : operation ≠ .attach → (e.getDeviceForIdAndLun definition.id definition.unit).isSome

theorem validateDeviceReads (operation : PbOperation) (definition : PbDeviceDefinition) :
    Reads (fun _ e _ => ValidUnit operation definition e) (validateDevice operation definition) := by
  intro host e
  simp only [validateDevice,wpBind,wpIte,wpFail,wpPure,wpGet,implies_true,true_and]
  refine fun id id' unit => ⟨fun attach => ?_,fun _ _ found => ?_⟩
  · exact ⟨⟨by omega,by omega⟩,⟨by omega,by omega⟩,fun other => absurd attach other⟩
  · refine ⟨⟨by omega,by omega⟩,⟨by omega,by omega⟩,fun _ => ?_⟩
    cases here : e.getDeviceForIdAndLun definition.id definition.unit with
    | none => simp [here] at found
    | some d => rfl

structure ValidOperation (operation : PbOperation) (p : PrimaryDevice) : Prop where
  stoppable : operation = .start ∨ operation = .stop → p.stoppable = true
  removable : operation = .insert ∨ operation = .eject → p.removable = true
  protectable : operation = .protect ∨ operation = .unprotect → p.protectable = true ∧ p.ready = true

theorem validateOperationReads (operation : PbOperation) (d : AnyDevice) :
    Reads (fun _ _ _ => ValidOperation operation d.primary) (validateOperation operation d) := by
  intro host e
  simp only [validateOperation,wpBind,wpIte,wpFail,wpPure,implies_true,true_and]
  intro stop eject
  have stoppable : operation = .start ∨ operation = .stop → d.primary.stoppable = true := by
    intro h
    simpa [h] using stop
  have removable : operation = .insert ∨ operation = .eject → d.primary.removable = true := by
    intro h
    simpa [h] using eject
  refine ⟨fun _ able ready => ⟨stoppable,removable,fun _ => ⟨by simpa using able,by simpa using ready⟩⟩,fun other => ?_⟩
  exact ⟨stoppable,removable,fun protect => absurd protect other⟩

/-! Files. -/

/- Only the contents of files may have changed. -/
def Quiet (e e' : CommandExecutor) : Prop := ∃ files, e' = { e with world := { e.world with files } }

theorem Quiet.refl (e : CommandExecutor) : Quiet e e := ⟨e.world.files,rfl⟩

theorem Quiet.trans {e e' e'' : CommandExecutor} (h : Quiet e e') (h' : Quiet e' e'') : Quiet e e'' := by
  obtain ⟨_,rfl⟩ := h
  obtain ⟨files,rfl⟩ := h'
  exact ⟨files,rfl⟩

theorem checkForReservedFileWp (filename : String) (host : Host) (e : CommandExecutor) :
    wp (checkForReservedFile filename) host e (fun _ t => t = e ∧ e.world.reservedFiles filename = none)
      fun _ t => t = e ∧ e.world.reservedFiles filename ≠ none := by
  simp only [checkForReservedFile,wpBind,wpGet]
  cases found : e.world.reservedFiles filename with
  | none => exact ⟨rfl,rfl⟩
  | some owner => exact ⟨rfl,fun no => by cases no⟩

/- The file that a name stands for. -/
def effectiveName (host : Host) (w : World) (filename : String) : String :=
  if (w.files filename).isSome then filename else host.defaultFolder ++ "/" ++ filename

theorem effectiveNameNonempty (host : Host) (w : World) {filename : String} (named : filename ≠ "") :
    effectiveName host w filename ≠ "" := by
  unfold effectiveName
  split
  · exact named
  · intro empty
    have shorter := congrArg String.length empty
    simp [String.length_append] at shorter

/- Neither the name nor the file that it stands for is reserved, and the file system knows whether there is
a file with this name. -/
def Unreserved (host : Host) (w : World) (filename : String) : Prop :=
  w.reservedFiles filename = none ∧ w.reservedFiles (effectiveName host w filename) = none ∧
    host.existsError filename = none

theorem fileExistsWp (filename : String) (host : Host) (e : CommandExecutor) :
    wp (fileExists filename) host e
      (fun found t => t = e ∧ found = (e.world.files filename).isSome ∧ host.existsError filename = none)
      fun _ t => t = e ∧ host.existsError filename ≠ none := by
  unfold fileExists
  rw [wpBind,wpRead]
  cases known : host.existsError filename with
  | some error => exact ⟨rfl,fun no => by cases no⟩
  | none => exact ⟨rfl,rfl,rfl⟩

theorem effectiveFilenameWp (filename : String) (host : Host) (e : CommandExecutor) :
    wp (effectiveFilename filename) host e
      (fun effective t => t = e ∧ effective = effectiveName host e.world filename ∧ Unreserved host e.world filename)
      fun _ t => t = e ∧ ¬Unreserved host e.world filename := by
  unfold effectiveFilename
  rw [wpBind]
  refine wpMono (checkForReservedFileWp filename host e) (fun _ t ended => ?_) fun _ _ failed =>
    ⟨failed.1,fun free => failed.2 free.1⟩
  obtain ⟨rfl,free⟩ := ended
  rw [wpBind]
  refine wpMono (fileExistsWp filename host t) (fun found u ended => ?_) fun _ _ failed =>
    ⟨failed.1,fun unreserved => failed.2 unreserved.2.2⟩
  obtain ⟨rfl,rfl,known⟩ := ended
  simp only [wpBind,wpIte,wpPure,wpRead]
  refine ⟨fun found => ?_,fun missing => ?_⟩
  · have own : effectiveName host u.world filename = filename := if_pos found
    exact ⟨trivial,own.symm,free,by rw [own]; exact free,known⟩
  · have other : effectiveName host u.world filename = host.defaultFolder ++ "/" ++ filename := if_neg missing
    refine wpMono (checkForReservedFileWp _ host u) (fun _ v ended => ?_) fun _ v failed => ?_
    · exact ⟨ended.1,other.symm,free,by rw [other]; exact ended.2,known⟩
    · exact ⟨failed.1,fun unreserved => failed.2 (by rw [← other]; exact unreserved.2.1)⟩

theorem effectiveFilenameReads (filename : String) :
    Reads (fun host e effective => effective = effectiveName host e.world filename ∧ Unreserved host e.world filename)
      (effectiveFilename filename) :=
  fun host e => wpMono (effectiveFilenameWp filename host e) (fun _ _ ended => ended) fun _ _ failed => failed.1

/- Whether the device can open a file. -/
def opens (host : Host) (id : Int) (d : AnyDevice) (w : World) (filename : String) : Bool :=
  match (AnyDevice.openFile (host.readOnlyFile filename) { cdb := [], targetId := id }
    ⟨d.mapStorage fun s => { s with filename },{},w⟩).1 with
  | .ok result => result = .opened
  | .error _ => false

theorem openImageFileWp {s : StorageDevice} (h : d.storage = some s) (id : Int) (filename : String) (host : Host)
    (e : CommandExecutor) :
    wp (openImageFile id d filename) host e (fun result e' => Quiet e e' ∧ ∃ s', result.2.storage = some s' ∧
      StorageDevice.Opening { s with filename } s' ∧ (result.1 = none → s'.ready = true ∧ s'.removed = false) ∧
      (opens host id d e.world filename = true → result.1 = none)) fun _ _ => False := by
  have named : (d.mapStorage fun s => { s with filename }).storage = some { s with filename } := by
    rw [AnyDevice.mapStorageStorage,h]
    rfl
  obtain ⟨result,d',s',files,ran,storage,opening,inserted⟩ :=
    AnyDevice.openFileOpens named (host.readOnlyFile filename) { cdb := [], targetId := id } {} e.world
  have called : call (AnyDevice.openFile (host.readOnlyFile filename)) id (d.mapStorage fun s => { s with filename })
      host e = (.ok (result,d'),{ e with world := { e.world with files } }) := by
    simp only [call,bind,get,getThe,MonadStateOf.get,ran,modify,modifyGet,MonadStateOf.modifyGet,pure]
  unfold openImageFile
  rw [wpBind,wpRead,wpBind,wp,called]
  refine ⟨⟨files,rfl⟩,s',storage,opening,fun success => inserted ?_,fun opened => ?_⟩
  · cases result with
    | opened => rfl
    | ioError => cases success
    | parserError message => cases success
  · simp only [opens,ran,decide_eq_true_eq] at opened
    rw [opened]
    rfl

/-! Configuration. -/

/- A block size that is not supported leaves the device as it is. -/
def configuredFor (blockSize : Int) (d : AnyDevice) : AnyDevice :=
  if blockSize = 0 then d else (d.setConfiguredBlockSize (uint32 blockSize)).getD d

theorem configuredForSource (blockSize : Int) (d : AnyDevice) : configuredFor blockSize d = d ∨
    ∃ size, configuredFor blockSize d = d.mapStorage fun s => { s with configuredBlockSize := size } := by
  unfold configuredFor AnyDevice.setConfiguredBlockSize
  split
  · exact .inl rfl
  · split
    · exact .inr ⟨_,rfl⟩
    · exact .inl rfl

def Accepts (blockSize : Int) (d : AnyDevice) : Prop :=
  blockSize = 0 ∨ (d.setConfiguredBlockSize (uint32 blockSize)).isSome = true

theorem setBlockSizeReads (d : AnyDevice) (blockSize : Int) :
    Reads (fun _ _ e => e = configuredFor blockSize d ∧ Accepts blockSize d) (setBlockSize d blockSize) := by
  intro host e
  simp only [setBlockSize,wpIte,wpPure,wpBind,wpFail,implies_true,true_and]
  refine ⟨fun zero => ⟨(if_pos zero).symm,.inl zero⟩,fun nonzero _ => ?_⟩
  split
  · next d' configured =>
    exact ⟨rfl,by rw [configuredFor,if_neg nonzero,configured]; rfl,.inr (by rw [configured]; rfl)⟩
  · rfl

theorem setScsiLevelReads (d : AnyDevice) (level : Int) : Reads (fun _ _ e => d.SameUnit e) (setScsiLevel d level) := by
  intro host e
  simp only [setScsiLevel,wpIte,wpPure]
  refine ⟨fun _ => ⟨trivial,.refl d⟩,fun _ => ?_⟩
  split
  · next d' changed => exact ⟨rfl,AnyDevice.setScsiLevelSameUnit changed⟩
  · rfl

theorem setProductDataReads (d : AnyDevice) (definition : PbDeviceDefinition) :
    Reads (fun _ _ e => d.SameUnit e) (setProductData d definition) := by
  intro host e
  simp only [setProductData]
  split
  · next d' changed => exact ⟨rfl,AnyDevice.setProductDataSameUnit changed⟩
  · rfl

theorem configureReads (d : AnyDevice) (definition : PbDeviceDefinition) :
    Reads (fun _ _ e => d.SameUnit e) (configure d definition) := by
  intro host e
  unfold configure
  rw [wpBind,wpRead]
  refine wpReads (setScsiLevelReads _ _) (fun _ => rfl) fun d1 leveled => ?_
  refine wpReads (setProductDataReads _ _) (fun _ => rfl) fun d2 named => ?_
  refine wpMono (setBlockSizeReads d2 _ host e) (fun d3 t ended => ⟨ended.1,?_⟩) fun _ _ failed => failed
  have before : d.SameUnit d2 := (AnyDevice.setParamsSameUnit d _ _).trans (leveled.trans named)
  rw [ended.2.1]
  rcases configuredForSource definition.blockSize d2 with same | ⟨size,changed⟩
  · rw [same]
    exact before
  · rw [changed]
    exact before.trans (d2.configuredSameUnit size)

/-! New devices. -/

structure Fresh (lun : Nat) (d : AnyDevice) : Prop where
  lun : d.primary.lun = lun
  medium : d.medium = none ∨ d.medium = some ("","",false,false)

def types (e : CommandExecutor) : List PbDeviceType := e.getAllDevices.map (·.2.primary.type)

theorem factoryFresh {host : Host} {type : PbDeviceType} {lun : Nat} {filename : String} {d : AnyDevice}
    (h : DeviceFactory.createDevice host type lun filename = some d) : Fresh lun d := by
  simp only [DeviceFactory.createDevice] at h
  split at h
  case h_4 | h_5 | h_1 | h_2 | h_3 | h_10 => cases h; exact ⟨rfl,.inr rfl⟩
  case h_6 | h_7 | h_8 | h_9 => cases h; exact ⟨rfl,.inl rfl⟩
  all_goals cases h

theorem createDeviceReads (definition : PbDeviceDefinition) (filename : String) :
    Reads (fun _ e d => Fresh definition.unit.toNat d ∧
      (d.primary.type ∈ uniqueDeviceTypes → d.primary.type ∉ e.types)) (createDevice definition filename) := by
  intro host e
  simp only [createDevice,wpBind,wpRead]
  split
  · simp only [wpIte,wpFail,implies_true,true_and]
  · next d created =>
    simp only [wpBind,wpGet,wpIte,wpFail,wpPure,implies_true,true_and]
    exact fun unique => ⟨factoryFresh created,fun special attached => unique ⟨special,attached⟩⟩

/- A new device has no medium, or one in a file that nobody has reserved. -/
def NewMedium (table : String → Option (Int × Nat)) : Option (String × String × Bool × Bool) → Prop
  | none => True
  | some (filename,lastFilename,mediumChanged,removed) => lastFilename = "" ∧ mediumChanged = false ∧
    (filename = "" ∧ removed = true ∨ filename ≠ "" ∧ removed = false ∧ table filename = none)

/- A medium that is there is that of a file with this name. -/
def NamedMedium (name : String) : Option (String × String × Bool × Bool) → Prop
  | none => True
  | some (filename,_,_,removed) => removed = false → filename = name

/- What the executor knows about a device that it is going to attach. -/
structure Prepared (definition : PbDeviceDefinition) (e : CommandExecutor) (d : AnyDevice) : Prop where
  lun : d.primary.lun = definition.unit.toNat
  unique : d.primary.type ∈ uniqueDeviceTypes → d.primary.type ∉ e.types
  medium : NewMedium e.world.reservedFiles d.medium

theorem Prepared.sameUnit {definition : PbDeviceDefinition} {d d' : AnyDevice} (h : Prepared definition e d)
    (same : d.SameUnit d') : Prepared definition e d' :=
  ⟨same.lun.trans h.lun,by rw [same.type]; exact h.unique,by rw [same.medium]; exact h.medium⟩

theorem prepareMediumWp {definition : PbDeviceDefinition} {filename : String} {d : AnyDevice} {s : StorageDevice}
    (h : d.storage = some s) (fresh : s.filename = "" ∧ s.lastFilename = "" ∧ s.mediumChanged = false) (host : Host)
    (e : CommandExecutor) :
    wp (prepareMedium definition filename d) host e (fun d' e' => Quiet e e' ∧
        d'.primary.lun = d.primary.lun ∧ d'.primary.type = d.primary.type ∧ NewMedium e.world.reservedFiles d'.medium ∧
        NamedMedium (effectiveName host e.world filename) d'.medium)
      fun _ e' => Quiet e e' := by
  unfold prepareMedium
  dsimp only
  generalize configured : (d.setPrimary { d.primary with removed := filename.isEmpty }).setCachingMode
    (effectiveCachingMode definition.cachingMode) = d1
  have storage : d1.storage = some { s with toPrimaryDevice := { d.primary with removed := filename.isEmpty } } := by
    rw [← configured,AnyDevice.setCachingModeStorage,AnyDevice.setPrimaryStorage,h]
    rfl
  have primary := AnyDevice.primaryStorage storage
  obtain ⟨unnamed,last,changed⟩ := fresh
  rw [wpIte]
  refine ⟨fun _ => Quiet.refl e,fun _ => ?_⟩
  rw [wpIte]
  refine ⟨fun empty => ?_,fun nonempty => ?_⟩
  · refine ⟨.refl e,by rw [primary],by rw [primary],?_⟩
    rw [AnyDevice.mediumStorage storage]
    exact ⟨⟨last,changed,.inl ⟨unnamed,empty⟩⟩,fun inserted => Bool.noConfusion (empty.symm.trans inserted)⟩
  · have named : filename ≠ "" := by simpa using nonempty
    refine wpReads (effectiveFilenameReads filename) (fun _ => Quiet.refl e) fun effective free => ?_
    have nonempty : effective ≠ "" := by
      rw [free.1]
      exact effectiveNameNonempty host e.world named
    rw [wpBind]
    refine wpMono (openImageFileWp storage (-1) effective host e) (fun result e' ended => ?_) fun _ _ failed => failed.elim
    obtain ⟨quiet,s',storage',opening,inserted,_⟩ := ended
    obtain ⟨error,d'⟩ := result
    cases error with
    | some x => exact quiet
    | none =>
      have primary' := AnyDevice.primaryStorage storage'
      have name : s'.filename = effective := opening.filename
      refine ⟨quiet,by rw [primary']; exact opening.lun,by rw [primary']; exact opening.type,?_⟩
      rw [AnyDevice.mediumStorage storage',name]
      refine ⟨⟨opening.lastFilename.trans last,opening.mediumChanged.trans changed,?_⟩,fun _ => free.1⟩
      exact .inr ⟨nonempty,(inserted rfl).2,free.1 ▸ free.2.2.1⟩

theorem protectDeviceSameUnit (d : AnyDevice) (isProtected : Bool) : d.SameUnit (protectDevice d isProtected) := by
  unfold protectDevice PrimaryDevice.setProtected
  split
  · exact d.setPrimarySameUnit rfl rfl rfl
  · exact .refl d

theorem prepareDeviceWp (definition : PbDeviceDefinition) (host : Host) (e : CommandExecutor) :
    wp (prepareDevice definition) host e (fun d e' => Quiet e e' ∧ Prepared definition e d ∧
        NamedMedium (effectiveName host e.world (getParam definition.params "file")) d.medium)
      fun _ e' => Quiet e e' := by
  unfold prepareDevice
  refine wpReads (createDeviceReads definition _) (fun _ => Quiet.refl e) fun d created => ?_
  refine wpReads (configureReads d definition) (fun _ => Quiet.refl e) fun d1 same => ?_
  have prepared : ∀ d2 : AnyDevice, d2.primary.lun = d1.primary.lun → d2.primary.type = d1.primary.type →
      NewMedium e.world.reservedFiles d2.medium →
      NamedMedium (effectiveName host e.world (getParam definition.params "file")) d2.medium →
      Prepared definition e (protectDevice d2 definition.isProtected) ∧
        NamedMedium (effectiveName host e.world (getParam definition.params "file"))
          (protectDevice d2 definition.isProtected).medium := by
    intro d2 lun type medium named
    have unit := protectDeviceSameUnit d2 definition.isProtected
    refine ⟨Prepared.sameUnit ⟨lun.trans (same.lun.trans created.1.lun),?_,medium⟩ unit,by rw [unit.medium]; exact named⟩
    rw [type,same.type]
    exact created.2
  rw [wpIte]
  refine ⟨fun supported => ?_,fun unsupported => ?_⟩
  · obtain ⟨s,storage⟩ := Option.isSome_iff_exists.mp supported
    have fresh : s.filename = "" ∧ s.lastFilename = "" ∧ s.mediumChanged = false := by
      have medium := same.medium
      rw [AnyDevice.mediumStorage storage] at medium
      rcases created.1.medium with none | empty
      · rw [none] at medium
        cases medium
      · rw [empty] at medium
        simp only [Option.some.injEq,Prod.mk.injEq] at medium
        exact ⟨medium.1,medium.2.1,medium.2.2.1⟩
    rw [wpBind]
    refine wpMono (prepareMediumWp storage fresh host e) (fun d2 e' ended => ?_) fun _ _ failed => failed
    exact ⟨ended.1,prepared d2 ended.2.1 ended.2.2.1 ended.2.2.2.1 ended.2.2.2.2⟩
  · refine ⟨.refl e,?_⟩
    cases storage : d1.storage with
    | none =>
      have none : d1.medium = none := by
        rw [AnyDevice.medium,storage]
        rfl
      exact prepared d1 rfl rfl (by rw [none]; trivial) (by rw [none]; trivial)
    | some s =>
      rw [AnyDevice.supportsImageFile,storage] at unsupported
      exact absurd rfl unsupported

/-! ATTACH. -/

def lunLimit (type : PbDeviceType) : Int := if type = .sahd then 2 else 32

theorem attachSource {id : Int} {d : AnyDevice} {e e' : CommandExecutor} (h : attachToController id d e = some e') :
    ∃ luns : Luns, (e.controllers.lookup id = some luns ∨
        e.controllers.lookup id = none ∧ d.primary.lun = 0 ∧ luns = ∅) ∧
      (d.primary.lun : Int) < lunLimit d.primary.type ∧ luns.lookup (d.primary.lun : Int) = none ∧
      e' = { e with controllers := e.controllers.insert id (luns.insert (d.primary.lun : Int) d) } := by
  have added : ∀ {luns luns' : Luns}, addDevice luns d = some luns' →
      (d.primary.lun : Int) < lunLimit d.primary.type ∧ luns.lookup (d.primary.lun : Int) = none ∧
        luns' = luns.insert (d.primary.lun : Int) d := by
    intro luns luns' h
    simp only [addDevice,Option.ite_none_left_eq_some] at h
    obtain ⟨free,same⟩ := h
    obtain ⟨below,absent⟩ := not_or.mp free
    exact ⟨Int.not_le.mp below,by simpa using absent,(Option.some.inj same).symm⟩
  unfold attachToController at h
  split at h
  · next luns found =>
    obtain ⟨luns',h',rfl⟩ := Option.map_eq_some_iff.mp h
    obtain ⟨below,absent,rfl⟩ := added h'
    exact ⟨luns,.inl found,below,absent,rfl⟩
  · next missing =>
    split at h
    · cases h
    · next zero =>
      obtain ⟨luns',h',rfl⟩ := Option.map_eq_some_iff.mp h
      obtain ⟨below,absent,rfl⟩ := added h'
      exact ⟨∅,.inr ⟨missing,not_not.mp zero,rfl⟩,below,absent,rfl⟩

/- The reserved files with the file of a new device. -/
def registered (id : Int) (d : AnyDevice) (table : String → Option (Int × Nat)) : String → Option (Int × Nat) :=
  match d.storage with
  | some s => if s.removed then table else Function.update table s.filename (some (id,s.lun))
  | none => table

def addEntries (p : PropertyHandler) (entries : List (String × String)) : PropertyHandler :=
  entries.foldl (fun p (key,value) => p.addProperty key value) p

structure Attaches (host : Host) (definition : PbDeviceDefinition) (e : CommandExecutor) (d : AnyDevice)
    (e' : CommandExecutor) : Prop where
  fresh : (e.getDeviceForIdAndLun definition.id definition.unit).isNone
  unreserved : definition.id ∉ e.reservedIds
  prepared : Prepared definition e d
  limit : (d.primary.lun : Int) < lunLimit d.primary.type
  controllers : ∃ luns : Luns, (e.controllers.lookup definition.id = some luns ∨
      e.controllers.lookup definition.id = none ∧ d.primary.lun = 0 ∧ luns = ∅) ∧
    luns.lookup (d.primary.lun : Int) = none ∧
    e'.controllers = e.controllers.insert definition.id (luns.insert (d.primary.lun : Int) d)
  reservedIds : e'.reservedIds = e.reservedIds
  reservedFiles : e'.world.reservedFiles = registered definition.id d e.world.reservedFiles
  properties : e'.properties = addEntries e.properties (deviceProperties host definition.id d)
  named : NamedMedium (effectiveName host e.world (getParam definition.params "file")) d.medium

theorem validateAttachmentReads (definition : PbDeviceDefinition) :
    Reads (fun _ e _ => (e.getDeviceForIdAndLun definition.id definition.unit).isNone ∧ definition.id ∉ e.reservedIds)
      (validateAttachment definition) := by
  intro host e
  simp only [validateAttachment,wpBind,wpIte,wpFail,wpGet,wpPure,implies_true,true_and]
  exact fun _ fresh unreserved => ⟨by simpa using fresh,unreserved⟩

theorem registerDeviceWp (id : Int) (d : AnyDevice) (host : Host) (e : CommandExecutor)
    (medium : ∀ s, d.storage = some s → s.removed = false → s.filename ≠ "" ∧ e.world.reservedFiles s.filename = none) :
    wp (registerDevice id d) host e (fun _ e' => (d.primary.lun : Int) < lunLimit d.primary.type ∧
        (∃ luns : Luns, (e.controllers.lookup id = some luns ∨
            e.controllers.lookup id = none ∧ d.primary.lun = 0 ∧ luns = ∅) ∧
          luns.lookup (d.primary.lun : Int) = none ∧
          e'.controllers = e.controllers.insert id (luns.insert (d.primary.lun : Int) d)) ∧
        e'.reservedIds = e.reservedIds ∧ e'.world.reservedFiles = registered id d e.world.reservedFiles ∧
        e'.properties = addEntries e.properties (deviceProperties host id d))
      fun _ e' => e' = e := by
  cases attached : attachToController id d e with
  | none => simp only [registerDevice,wpBind,wpGet,attached,wpFail]
  | some e2 =>
    obtain ⟨luns,source,below,absent,rfl⟩ := attachSource attached
    have finish : ∀ e3 : CommandExecutor, e3.controllers = e.controllers.insert id (luns.insert (d.primary.lun : Int) d) →
        e3.reservedIds = e.reservedIds → e3.world.reservedFiles = registered id d e.world.reservedFiles →
        e3.properties = e.properties → wp (setUpDeviceProperties id d) host e3 (fun _ e' =>
          (d.primary.lun : Int) < lunLimit d.primary.type ∧
          (∃ luns : Luns, (e.controllers.lookup id = some luns ∨
              e.controllers.lookup id = none ∧ d.primary.lun = 0 ∧ luns = ∅) ∧
            luns.lookup (d.primary.lun : Int) = none ∧
            e'.controllers = e.controllers.insert id (luns.insert (d.primary.lun : Int) d)) ∧
          e'.reservedIds = e.reservedIds ∧ e'.world.reservedFiles = registered id d e.world.reservedFiles ∧
          e'.properties = addEntries e.properties (deviceProperties host id d)) fun _ e' => e' = e := by
      intro e3 controllers reservedIds reservedFiles properties
      refine ⟨below,⟨luns,source,absent,controllers⟩,reservedIds,reservedFiles,?_⟩
      change (deviceProperties host id d).foldl _ e3.properties = _
      rw [properties]
      rfl
    simp only [registerDevice,wpBind,wpGet,attached,wpSet,wpIte]
    refine ⟨fun inserted => ?_,fun empty => ?_⟩
    · obtain ⟨s,storage⟩ := Option.isSome_iff_exists.mp inserted.2
      have removed : s.removed = false := by
        have flag := inserted.1
        rw [AnyDevice.primaryStorage storage] at flag
        simpa using flag
      obtain ⟨named,free⟩ := medium s storage removed
      simp only [reserveFile,storage,wpBind,wpGet,wpModify,wpPure]
      refine finish _ rfl rfl ?_ rfl
      simp only [StorageDevice.reserveFileDone named free,registered,storage,removed]
      rfl
    · refine finish _ rfl rfl ?_ rfl
      cases storage : d.storage with
      | none => simp only [registered,storage]
      | some s =>
        have removed : s.removed = true := by
          have primary := AnyDevice.primaryStorage storage
          by_contra no
          refine empty ⟨?_,by rw [AnyDevice.supportsImageFile,storage]; rfl⟩
          rw [primary]
          simpa using no
        simp only [registered,storage,removed]
        rfl

theorem quietPrepared {definition : PbDeviceDefinition} {e e' : CommandExecutor} {d : AnyDevice} (quiet : Quiet e e')
    (prepared : Prepared definition e d) : Prepared definition e' d := by
  obtain ⟨files,rfl⟩ := quiet
  exact ⟨prepared.lun,prepared.unique,prepared.medium⟩

theorem attachWp (definition : PbDeviceDefinition) (dryRun : Bool) (host : Host) (e : CommandExecutor) :
    wp (attach definition dryRun) host e
      (fun _ e' => dryRun = true ∧ Quiet e e' ∨ dryRun = false ∧ ∃ d, Attaches host definition e d e')
      fun _ e' => Quiet e e' := by
  unfold attach
  refine wpReads (validateAttachmentReads definition) (fun _ => Quiet.refl e) fun _ valid => ?_
  rw [wpBind]
  refine wpMono (prepareDeviceWp definition host e) (fun d e1 ended => ?_) fun _ _ failed => failed
  obtain ⟨quiet,prepared,named⟩ := ended
  rw [wpIte]
  refine ⟨fun dry => .inl ⟨dry,quiet⟩,fun real => ?_⟩
  rw [wpBind,wpRead]
  cases set : d.init host with
  | error text => exact quiet
  | ok d' =>
    have unit := AnyDevice.initSameUnit set
    have prepared' := prepared.sameUnit unit
    rw [← unit.medium] at named
    have medium : ∀ s, d'.storage = some s → s.removed = false →
        s.filename ≠ "" ∧ e1.world.reservedFiles s.filename = none := by
      intro s storage inserted
      have new := (quietPrepared quiet prepared').medium
      rw [AnyDevice.mediumStorage storage] at new
      rcases new.2.2 with empty | named
      · rw [inserted] at empty
        cases empty.2
      · exact ⟨named.1,named.2.2⟩
    refine wpMono (registerDeviceWp definition.id d' host e1 medium) (fun _ e' ended => ?_) fun _ _ failed => ?_
    · obtain ⟨below,controllers,reservedIds,reservedFiles,properties⟩ := ended
      obtain ⟨files,rfl⟩ := quiet
      refine .inr ⟨by simpa using real,d',valid.1,valid.2,prepared',below,controllers,reservedIds,reservedFiles,properties,?_⟩
      exact named
    · rw [failed]
      exact quiet

/-! INSERT. -/

/- A device with another block size, and nothing else changed. -/
def Configured (d d' : AnyDevice) : Prop :=
  d' = d ∨ ∃ size, d' = d.mapStorage fun s => { s with configuredBlockSize := size }

theorem Configured.storage {d d' : AnyDevice} (h : Configured d d') {s : StorageDevice} (storage : d.storage = some s) :
    ∃ size, d'.storage = some { s with configuredBlockSize := size } := by
  rcases h with rfl | ⟨size,rfl⟩
  · exact ⟨s.configuredBlockSize,storage⟩
  · exact ⟨size,by rw [AnyDevice.mapStorageStorage,storage]; rfl⟩

/- The name of the file to insert, which may be that of the last one. -/
def insertName (definition : PbDeviceDefinition) (s : StorageDevice) : String :=
  let param := getParam definition.params "file"
  if param.isEmpty then s.lastFilename else param

/- INSERT gets as far as opening the file. -/
structure Tried (host : Host) (definition : PbDeviceDefinition) (w : World) (d : AnyDevice) (s : StorageDevice) :
    Prop where
  given : insertName definition s ≠ ""
  accepted : Accepts definition.blockSize d
  unreserved : Unreserved host w (insertName definition s)

/- The file that is opened for a device, which does not have to succeed. -/
structure OpensFile (host : Host) (definition : PbDeviceDefinition) (w : World) (d : AnyDevice) (s s' : StorageDevice) :
    Prop where
  tried : Tried host definition w d s
  name : s'.filename = effectiveName host w (insertName definition s)
  opening : ∃ size, (configuredFor definition.blockSize d).storage = some { s with configuredBlockSize := size } ∧
    StorageDevice.Opening { s with configuredBlockSize := size, filename := s'.filename } s'

section
variable {definition : PbDeviceDefinition} {w : World} {s s' : StorageDevice}

theorem OpensFile.named (h : OpensFile host definition w d s s') : s'.filename ≠ "" := by
  rw [h.name]
  exact effectiveNameNonempty host w h.tried.given

theorem OpensFile.unreserved (h : OpensFile host definition w d s s') : w.reservedFiles s'.filename = none := by
  rw [h.name]
  exact h.tried.unreserved.2.1

end

/- Whether the device can open the file to insert. -/
def insertOpens (host : Host) (definition : PbDeviceDefinition) (w : World) (d : AnyDevice) (s : StorageDevice) : Bool :=
  opens host definition.id (configuredFor definition.blockSize d) w (effectiveName host w (insertName definition s))

/- How INSERT leaves the device when it fails. -/
inductive InsertFails (host : Host) (definition : PbDeviceDefinition) (w : World) (d : AnyDevice) (s : StorageDevice)
    (d' : AnyDevice) : Prop where
  | reserved : insertName definition s ≠ "" → Accepts definition.blockSize d →
      ¬Unreserved host w (insertName definition s) → d' = configuredFor definition.blockSize d →
      InsertFails host definition w d s d'
  | notOpened (s' : StorageDevice) : insertOpens host definition w d s = false → d'.storage = some s' →
      OpensFile host definition w d s s' → InsertFails host definition w d s d'

structure Inserts (host : Host) (definition : PbDeviceDefinition) (e : CommandExecutor) (d : AnyDevice)
    (s : StorageDevice) (d' : AnyDevice) (e' : CommandExecutor) : Prop where
  storage : ∃ s1 s' p, OpensFile host definition e.world d s s1 ∧ s1.removed = false ∧ d'.storage = some s' ∧
    s' = { s1 with toPrimaryDevice := s1.toPrimaryDevice.setProtected p, mediumChanged := true }
  executor : ∃ files s', d'.storage = some s' ∧ e' = { e with
    controllers := putLuns definition.id definition.unit d' e.controllers
    world := { e.world with
      files, reservedFiles := Function.update e.world.reservedFiles s'.filename (some (definition.id,s'.lun)) }
    properties := addEntries e.properties (deviceProperties host definition.id d') }

theorem insertMediumWp {definition : PbDeviceDefinition} {d : AnyDevice} {s : StorageDevice}
    (named : insertName definition s ≠ "") (storage : d.storage = some s) (host : Host) (e : CommandExecutor) :
    wp (insertMedium definition (insertName definition s) d) host e
      (fun _ e' => ∃ d', Inserts host definition e d s d' e')
      fun _ e' => Quiet e e' ∨ ∃ d' e1, Quiet e e1 ∧ InsertFails host definition e.world d s d' ∧
        e' = putDevice definition.id definition.unit d' e1 := by
  unfold insertMedium
  dsimp only
  refine wpReads (setBlockSizeReads d _) (fun _ => .inl (.refl e)) fun d1 configured => ?_
  obtain ⟨configured,accepted⟩ := configured
  obtain ⟨size,sized⟩ := Configured.storage (configuredForSource definition.blockSize d) storage
  have storage1 := sized
  rw [← configured] at storage1
  rw [wpBind,wpModify,putDeviceEq,wpBind]
  refine wpMono (effectiveFilenameWp _ host _) (fun effective t free => ?_) fun _ t failed => ?_
  swap
  · obtain ⟨rfl,taken⟩ := failed
    exact .inr ⟨d1,e,.refl e,.reserved named accepted taken configured,by rw [putDeviceEq]⟩
  obtain ⟨rfl,free⟩ := free
  rw [wpBind]
  refine wpMono (openImageFileWp storage1 _ effective host _) (fun result e2 ended => ?_) fun _ _ failed => failed.elim
  obtain ⟨⟨files,rfl⟩,s2,storage2,opening,inserted,success⟩ := ended
  obtain ⟨error,d2⟩ := result
  have name : s2.filename = effective := opening.filename
  have opens : OpensFile host definition e.world d s s2 := by
    rw [← name] at free opening
    exact ⟨⟨named,accepted,free.2⟩,free.1,size,sized,opening⟩
  rw [wpBind,wpModify,putDeviceEq,putLunsTwice]
  cases error with
  | some x =>
    refine .inr ⟨d2,_,⟨files,rfl⟩,.notOpened s2 ?_ storage2 opens,?_⟩
    · rw [Bool.eq_false_iff]
      intro able
      unfold insertOpens at able
      rw [← configured,← free.1] at able
      cases success able
    · rw [putDeviceEq]
  | none =>
    have reserved : reserveFile definition.id d2 host { e with
        controllers := putLuns definition.id definition.unit d2 e.controllers
        world := { e.world with files } } = (.ok true,{ e with
        controllers := putLuns definition.id definition.unit d2 e.controllers
        world := { e.world with
          files, reservedFiles := Function.update e.world.reservedFiles s2.filename (some (definition.id,s2.lun)) } }) := by
      have free2 : ({ e.world with files } : World).reservedFiles s2.filename = none := opens.unreserved
      simp only [reserveFile,storage2,bind,get,getThe,MonadStateOf.get,modify,modifyGet,MonadStateOf.modifyGet,pure,
        StorageDevice.reserveFileDone opens.named free2]
    rw [wpBind]
    refine wpMono (wpExactly reserved) (fun ok t ended => ?_) fun _ _ failed => failed.elim
    obtain ⟨rfl,rfl⟩ := ended
    rw [wpIte]
    refine ⟨fun no => Bool.noConfusion no,fun _ => ?_⟩
    rw [wpBind,wpModify,putDeviceEq,putLunsTwice]
    generalize protection : definition.isProtected = p
    generalize final : ((none,d2) : Option CommandError × AnyDevice).2.mapStorage (fun s => { s with
      toPrimaryDevice := s.toPrimaryDevice.setProtected p, mediumChanged := true }) = d3
    have storage3 : d3.storage = some { s2 with
        toPrimaryDevice := s2.toPrimaryDevice.setProtected p, mediumChanged := true } := by
      rw [← final,AnyDevice.mapStorageStorage,storage2]
      rfl
    have lun : (s2.toPrimaryDevice.setProtected p).lun = s2.lun := by
      unfold PrimaryDevice.setProtected
      split <;> rfl
    refine ⟨d3,⟨s2,_,p,opens,(inserted rfl).2,storage3,rfl⟩,files,_,storage3,?_⟩
    dsimp only
    rw [lun]
    rfl

theorem insertWp {definition : PbDeviceDefinition} {d : AnyDevice} (dryRun : Bool) (host : Host) (e : CommandExecutor) :
    wp (insert definition d dryRun) host e
      (fun _ e' => dryRun = true ∧ e' = e ∨ dryRun = false ∧ ∃ s d', d.storage = some s ∧ s.removed = true ∧
        Inserts host definition e d s d' e')
      fun _ e' => Quiet e e' ∨ dryRun = false ∧ ∃ s d' e1, d.storage = some s ∧ s.removed = true ∧
        Quiet e e1 ∧ InsertFails host definition e.world d s d' ∧
        e' = putDevice definition.id definition.unit d' e1 := by
  cases storage : d.storage with
  | none =>
    simp only [insert,storage,wpThrow]
    exact .inl (.refl e)
  | some s =>
    simp only [insert,storage,wpBind,wpIte,wpFail,wpPure]
    refine ⟨fun _ => .inl (.refl e),fun removed => ⟨fun _ => .inl (.refl e),fun _ => ⟨fun _ => .inl (.refl e),fun named =>
      ⟨fun dry => .inl ⟨dry,trivial⟩,fun real => ?_⟩⟩⟩⟩
    have gone : s.removed = true := by simpa using removed
    have named : insertName definition s ≠ "" := by simpa [insertName] using named
    refine wpMono (insertMediumWp named storage host e) (fun _ e' ended => ?_) fun x e' failed => ?_
    · obtain ⟨d',inserts⟩ := ended
      exact .inr ⟨by simpa using real,s,d',rfl,gone,inserts⟩
    · rcases failed with quiet | ⟨d',e1,quiet,fails,put⟩
      · exact .inl quiet
      · exact .inr ⟨by simpa using real,s,d',e1,rfl,gone,quiet,fails,put⟩

/-! EJECT. -/

/- The reserved files without the file of a device. -/
def released (d : AnyDevice) (table : String → Option (Int × Nat)) : String → Option (Int × Nat) :=
  match d.storage with
  | some s => Function.update table s.filename none
  | none => table

/- Whether or not there is a medium to eject, the command succeeds. -/
inductive EjectsMedium (id lun : Int) (e : CommandExecutor) (d : AnyDevice) (e' : CommandExecutor) : Prop where
  | refused : d.primary.canEject true = false → e' = putDevice id lun d e → EjectsMedium id lun e d e'
  | ejected (d' : AnyDevice) (files : FileSystem) (properties : PropertyHandler) : d.primary.canEject true = true →
      d'.storage = d.storage.map StorageDevice.ejected → d'.primary = d.primary.ejected →
      properties.propertyCache = e.properties.propertyCache →
      e' = { e with
        controllers := putLuns id lun d' e.controllers
        world := { e.world with files, reservedFiles := released d e.world.reservedFiles }
        properties } → EjectsMedium id lun e d e'

theorem callExactly {α : Type} {h : Handler AnyDevice α} {id : Int} {d : AnyDevice} {host : Host} {e : CommandExecutor}
    {a : α} {d' : AnyDevice} {transfer : Transfer} {w : World}
    (ran : h { cdb := [], targetId := id } ⟨d,{},e.world⟩ = (.ok a,⟨d',transfer,w⟩)) :
    wp (call h id d) host e (fun result e' => result = (a,d') ∧ e' = { e with world := w }) fun _ _ => False := by
  refine wpExactly ?_
  simp only [call,bind,get,getThe,MonadStateOf.get,ran,modify,modifyGet,MonadStateOf.modifyGet,pure]

theorem ejectWp (id lun : Int) (d : AnyDevice) (host : Host) (e : CommandExecutor) :
    wp (eject id lun d) host e (fun _ e' => EjectsMedium id lun e d e') fun _ _ => False := by
  have finish : ∀ (d' : AnyDevice) (files : FileSystem), d.primary.canEject true = true →
      d'.storage = d.storage.map StorageDevice.ejected → d'.primary = d.primary.ejected →
      AnyDevice.eject true { cdb := [], targetId := id } ⟨d,{},e.world⟩ = (.ok true,⟨d',{},{ e.world with
        files, reservedFiles := released d e.world.reservedFiles }⟩) →
      wp (eject id lun d) host e (fun _ e' => EjectsMedium id lun e d e') fun _ _ => False := by
    intro d' files able storage primary ran
    unfold eject
    rw [wpBind]
    refine wpMono (callExactly ran) (fun result e1 ended => ?_) fun _ _ failed => failed
    obtain ⟨rfl,rfl⟩ := ended
    simp only [wpBind,wpModify,wpIte,wpPure,removeProperties,putDeviceEq]
    refine ⟨fun _ => ⟨fun _ => ?_,fun _ => ?_⟩,fun no => absurd trivial no⟩
    · refine .ejected d' files _ able storage primary ?_ rfl
      rfl
    · refine .ejected d' files _ able storage primary ?_ rfl
      rfl
  cases able : d.primary.canEject true with
  | false =>
    unfold eject
    rw [wpBind]
    refine wpMono (callExactly (AnyDevice.ejectRefused able _ _ _)) (fun result e1 ended => ?_) fun _ _ failed => failed
    obtain ⟨rfl,rfl⟩ := ended
    simp only [wpBind,wpModify,wpIte,wpPure]
    exact ⟨fun no => Bool.noConfusion no,fun _ => .refused able rfl⟩
  | true =>
    cases storage : d.storage with
    | none =>
      have ran := AnyDevice.ejectBaseDone storage able { cdb := [], targetId := id } {} e.world
      refine finish (d.setPrimary d.primary.ejected) e.world.files able ?_ (AnyDevice.setPrimaryPrimary _ _) ?_
      · rw [AnyDevice.setPrimaryStorage,storage]
        rfl
      · rw [ran]
        simp only [released,storage]
    | some s =>
      have primary := AnyDevice.primaryStorage storage
      obtain ⟨d',files,ran,storage'⟩ :=
        AnyDevice.ejectDone storage (by rw [← primary]; exact able) { cdb := [], targetId := id } {} e.world
      refine finish d' files able (by rw [storage',storage]; rfl) ?_ ?_
      · rw [AnyDevice.primaryStorage storage',primary]
        rfl
      · rw [ran]
        simp only [released,storage]

/-! DETACH. -/

theorem cleanUpWp (id : Int) (d : AnyDevice) (host : Host) (e : CommandExecutor) :
    wp (call AnyDevice.cleanUp id d) host e (fun _ e' => ∃ files, e' = { e with
      world := { e.world with files, reservedFiles := released d e.world.reservedFiles } }) fun _ _ => False := by
  cases storage : d.storage with
  | none =>
    obtain ⟨d',files,ran⟩ := AnyDevice.cleanUpOther storage { cdb := [], targetId := id } {} e.world
    refine wpMono (callExactly ran) (fun result e1 ended => ⟨files,?_⟩) fun _ _ failed => failed
    rw [ended.2]
    simp only [released,storage]
  | some s =>
    obtain ⟨d',files,ran⟩ := AnyDevice.cleanUpDone storage { cdb := [], targetId := id } {} e.world
    refine wpMono (callExactly ran) (fun result e1 ended => ⟨files,?_⟩) fun _ _ failed => failed
    rw [ended.2]
    simp only [released,storage]

/- The controllers without a device. -/
def withoutLun (id lun : Int) (luns : Luns) (controllers : AList fun _ : Int => Luns) : AList fun _ : Int => Luns :=
  if (luns.erase lun).entries.isEmpty then controllers.erase id else controllers.insert id (luns.erase lun)

structure Detaches (id : Int) (d : AnyDevice) (e e' : CommandExecutor) : Prop where
  controllers : ∃ luns : Luns, e.controllers.lookup id = some luns ∧
    ¬(d.primary.lun = 0 ∧ 1 < luns.entries.length) ∧
    e'.controllers = withoutLun id (d.primary.lun : Int) luns e.controllers
  reservedIds : e'.reservedIds = e.reservedIds
  reservedFiles : e'.world.reservedFiles = released d e.world.reservedFiles
  properties : e'.properties.propertyCache = e.properties.propertyCache

theorem detachWp (id : Int) (d : AnyDevice) (dryRun : Bool) (host : Host) (e : CommandExecutor) :
    wp (detach id d dryRun) host e (fun _ e' => dryRun = true ∧ e' = e ∨ dryRun = false ∧ Detaches id d e e')
      fun _ e' => Quiet e e' := by
  cases found : e.controllers.lookup id with
  | none =>
    simp only [detach,wpBind,wpGet,found,wpFail]
    exact .refl e
  | some luns =>
    simp only [detach,wpBind,wpGet,found,wpIte,wpFail,wpPure]
    refine ⟨fun _ => .refl e,fun allowed => ⟨fun dry => .inl ⟨dry,trivial⟩,fun real => ?_⟩⟩
    have gone : wp (removeDevice id luns d) host e (fun _ e' =>
        e'.controllers = withoutLun id (d.primary.lun : Int) luns e.controllers ∧ e'.reservedIds = e.reservedIds ∧
        e'.world.reservedFiles = released d e.world.reservedFiles ∧ e'.properties = e.properties) fun _ _ => False := by
      unfold removeDevice
      rw [wpBind]
      refine wpMono (cleanUpWp id d host e) (fun _ e1 ended => ?_) fun _ _ failed => failed
      obtain ⟨files,rfl⟩ := ended
      simp only [wpIte,wpModify,withoutLun]
      exact ⟨fun empty => ⟨by rw [if_pos empty],trivial,trivial,trivial⟩,fun more => ⟨by rw [if_neg more],trivial,trivial,trivial⟩⟩
    refine wpMono gone (fun _ e1 ended => ?_) fun _ _ failed => failed.elim
    obtain ⟨controllers,reservedIds,reservedFiles,properties⟩ := ended
    have real : dryRun = false := by simpa using real
    simp only [removeProperties,wpModify]
    refine ⟨fun _ => .inr ⟨real,⟨luns,found,allowed,controllers⟩,reservedIds,reservedFiles,?_⟩,
      fun _ => .inr ⟨real,⟨luns,found,allowed,controllers⟩,reservedIds,reservedFiles,?_⟩⟩
    · rw [← properties]
      rfl
    · rw [← properties]
      rfl

/-! Commands on one device. -/

/- The operations that change flags of a device only. -/
def flagChange : PbOperation → Option (PrimaryDevice → PrimaryDevice)
  | .start => some start
  | .stop => some stop
  | .protect => some (·.setProtected true)
  | .unprotect => some (·.setProtected false)
  | _ => none

/- What a command can do in the real run. -/
inductive Outcome (host : Host) (operation : PbOperation) (definition : PbDeviceDefinition) (e : CommandExecutor) :
    Except CommandError Unit → CommandExecutor → Prop where
  | failed (x : CommandError) (e' : CommandExecutor) : Quiet e e' → Outcome host operation definition e (.error x) e'
  | attached (d : AnyDevice) (e' : CommandExecutor) : operation = .attach → ValidUnit operation definition e →
      Attaches host definition e d e' → Outcome host operation definition e (.ok ()) e'
  | detached (d : AnyDevice) (e' : CommandExecutor) : operation = .detach →
      e.getDeviceForIdAndLun definition.id definition.unit = some d → Detaches definition.id d e e' →
      Outcome host operation definition e (.ok ()) e'
  | inserted (d d' : AnyDevice) (s : StorageDevice) (e' : CommandExecutor) : operation = .insert →
      e.getDeviceForIdAndLun definition.id definition.unit = some d → d.storage = some s → s.removable = true →
      s.removed = true → Inserts host definition e d s d' e' →
      Outcome host operation definition e (.ok ()) e'
  | notInserted (x : CommandError) (d d' : AnyDevice) (s : StorageDevice) (e1 : CommandExecutor) : operation = .insert →
      e.getDeviceForIdAndLun definition.id definition.unit = some d → d.storage = some s → s.removable = true →
      s.removed = true → Quiet e e1 → InsertFails host definition e.world d s d' →
      Outcome host operation definition e (.error x) (putDevice definition.id definition.unit d' e1)
  | ejected (d : AnyDevice) (e' : CommandExecutor) : operation = .eject →
      e.getDeviceForIdAndLun definition.id definition.unit = some d →
      EjectsMedium definition.id definition.unit e d e' → Outcome host operation definition e (.ok ()) e'
  | changed (d : AnyDevice) (f : PrimaryDevice → PrimaryDevice) : flagChange operation = some f →
      e.getDeviceForIdAndLun definition.id definition.unit = some d → ValidOperation operation d.primary →
      Outcome host operation definition e (.ok ())
        (putDevice definition.id definition.unit (d.setPrimary (f d.primary)) e)

theorem operateWp (operation : PbOperation) (definition : PbDeviceDefinition) {d : AnyDevice} (dryRun : Bool)
    (host : Host) (e : CommandExecutor) (here : e.getDeviceForIdAndLun definition.id definition.unit = some d)
    (valid : ValidOperation operation d.primary) :
    wp (operate operation definition d dryRun) host e
      (fun _ e' => dryRun = true ∧ Quiet e e' ∨ dryRun = false ∧ Outcome host operation definition e (.ok ()) e')
      fun x e' => Quiet e e' ∨ dryRun = false ∧ Outcome host operation definition e (.error x) e' := by
  -- The operations that change flags.
  have flags : ∀ f, flagChange operation = some f → (∀ h : Exec Unit, h = (if dryRun then return else
      changePrimary definition.id definition.unit d f) → wp h host e
      (fun _ e' => dryRun = true ∧ Quiet e e' ∨ dryRun = false ∧ Outcome host operation definition e (.ok ()) e')
      fun x e' => Quiet e e' ∨ dryRun = false ∧ Outcome host operation definition e (.error x) e') := by
    rintro f known h rfl
    rw [wpIte]
    refine ⟨fun dry => .inl ⟨dry,.refl e⟩,fun real => .inr ⟨by simpa using real,.changed d f known here valid⟩⟩
  cases operation with
  | start => exact flags start rfl _ rfl
  | stop => exact flags stop rfl _ rfl
  | protect => exact flags (·.setProtected true) rfl _ rfl
  | unprotect => exact flags (·.setProtected false) rfl _ rfl
  | detach =>
    refine wpMono (detachWp definition.id d dryRun host e) (fun _ e' ended => ?_) fun _ _ failed => .inl failed
    rcases ended with ⟨dry,rfl⟩ | ⟨real,detaches⟩
    · exact .inl ⟨dry,.refl _⟩
    · exact .inr ⟨real,.detached d e' rfl here detaches⟩
  | eject =>
    change wp (if dryRun then return else eject definition.id definition.unit d) host e _ _
    rw [wpIte]
    refine ⟨fun dry => .inl ⟨dry,.refl e⟩,fun real => ?_⟩
    refine wpMono (ejectWp definition.id definition.unit d host e) (fun _ e' ended => ?_) fun _ _ failed => failed.elim
    exact .inr ⟨by simpa using real,.ejected d e' rfl here ended⟩
  | insert =>
    have removable := valid.removable (.inl rfl)
    refine wpMono (insertWp dryRun host e) (fun _ e' ended => ?_) fun x e' failed => ?_
    · rcases ended with ⟨dry,rfl⟩ | ⟨real,s,d',storage,removed,inserts⟩
      · exact .inl ⟨dry,.refl _⟩
      · rw [AnyDevice.primaryStorage storage] at removable
        exact .inr ⟨real,.inserted d d' s e' rfl here storage removable removed inserts⟩
    · rcases failed with quiet | ⟨real,s,d',e1,storage,removed,quiet,fails,rfl⟩
      · exact .inl quiet
      · rw [AnyDevice.primaryStorage storage] at removable
        exact .inr ⟨real,.notInserted x d d' s e1 rfl here storage removable removed quiet fails⟩
  | _ => exact .inl (.refl e)

theorem processDeviceWp (operation : PbOperation) (definition : PbDeviceDefinition) (dryRun : Bool) (host : Host)
    (e : CommandExecutor) :
    wp (processDeviceCmd operation definition dryRun) host e
      (fun _ e' => dryRun = true ∧ Quiet e e' ∨ dryRun = false ∧ Outcome host operation definition e (.ok ()) e')
      fun x e' => Quiet e e' ∨ dryRun = false ∧ Outcome host operation definition e (.error x) e' := by
  unfold processDeviceCmd
  refine wpReads (validateDeviceReads operation definition) (fun _ => .inl (.refl e)) fun _ unit => ?_
  have attached : operation = .attach → wp (attach definition dryRun) host e
      (fun _ e' => dryRun = true ∧ Quiet e e' ∨ dryRun = false ∧ Outcome host operation definition e (.ok ()) e')
      fun x e' => Quiet e e' ∨ dryRun = false ∧ Outcome host operation definition e (.error x) e' := by
    intro attach
    refine wpMono (attachWp definition dryRun host e) (fun _ e' ended => ?_) fun _ _ failed => .inl failed
    rcases ended with dry | ⟨real,d,attaches⟩
    · exact .inl dry
    · exact .inr ⟨real,.attached d e' attach unit attaches⟩
  rw [wpBind,wpGet]
  cases here : e.getDeviceForIdAndLun definition.id definition.unit with
  | none =>
    simp only [wpIte,wpThrow]
    exact ⟨attached,fun _ => .inl (.refl e)⟩
  | some d =>
    refine wpReads (validateOperationReads operation d) (fun _ => .inl (.refl e)) fun _ valid => ?_
    rw [wpIte]
    exact ⟨attached,fun _ => operateWp operation definition dryRun host e here valid⟩

/- The two passes over a list of definitions. -/
theorem dryRunWp (operation : PbOperation) (definitions : List PbDeviceDefinition) (host : Host) (e : CommandExecutor) :
    wp (processDevices operation true definitions) host e (fun _ e' => Quiet e e') fun _ e' => Quiet e e' := by
  induction definitions generalizing e with
  | nil => exact .refl e
  | cons definition rest ih =>
    unfold processDevices
    rw [wpBind]
    refine wpMono (processDeviceWp operation definition true host e) (fun _ e1 ended => ?_) fun _ e1 failed => ?_
    · rcases ended with ⟨_,quiet⟩ | ⟨real,_⟩
      · exact wpMono (ih e1) (fun _ _ later => quiet.trans later) fun _ _ later => quiet.trans later
      · cases real
    · rcases failed with quiet | ⟨real,_⟩
      · exact quiet
      · cases real

/- What each step of the real run preserves holds at its end. -/
theorem realRunWp {I : CommandExecutor → Prop} {host : Host} {operation : PbOperation}
    (step : ∀ definition e result e', Outcome host operation definition e result e' → I e → I e')
    (definitions : List PbDeviceDefinition) (e : CommandExecutor) (start : I e) :
    wp (processDevices operation false definitions) host e (fun _ e' => I e') fun _ e' => I e' := by
  induction definitions generalizing e with
  | nil => exact start
  | cons definition rest ih =>
    unfold processDevices
    rw [wpBind]
    refine wpMono (processDeviceWp operation definition false host e) (fun _ e1 ended => ?_) fun x e1 failed => ?_
    · rcases ended with ⟨dry,_⟩ | ⟨_,outcome⟩
      · cases dry
      · exact ih e1 (step definition e _ e1 outcome start)
    · rcases failed with quiet | ⟨_,outcome⟩
      · exact step definition e _ e1 (.failed x e1 quiet) start
      · exact step definition e _ e1 outcome start

end CommandExecutor
end Scsi2Pi
