import Scsi2Pi.ImageFolder
import Scsi2Pi.ReservedFiles

/-! The files that devices use, and the commands for image files: as long as a file in use
is always named in the same way, no image command changes it, and no other device opens it. -/
namespace Scsi2Pi
open Eff NameTable PathName

/- The names of a file from the root on. A relative path is one of the current folder. -/
def PathName.fromRoot (folder p : String) : List String := if isAbsolute p then names p else names folder ++ names p

/- Both paths denote the same file after lexical normalisation. -/
def SameFile (folder p q : String) : Prop :=
  LexicalPath.normal "." ".." true (fromRoot folder p) = LexicalPath.normal "." ".." true (fromRoot folder q)

instance (folder p q : String) : Decidable (SameFile folder p q) := inferInstanceAs (Decidable (_ = _))

namespace CommandExecutor

variable {host : Host} {e e' : CommandExecutor} {task : Task} {folder name : String}

/- The name of the file that a task opens for a device. -/
def Opens (host : Host) (e : CommandExecutor) (name : String) : Task → Prop
  | .device .attach definition => name = effectiveName host e.world (getParam definition.params "file")
  | .device .insert definition => ∃ d s, e.getDeviceForIdAndLun definition.id definition.unit = some d ∧
    d.storage = some s ∧ name = effectiveName host e.world (insertName definition s)
  | _ => False

/- A name for a file in use is the one the device has. -/
def Spelled (folder : String) (e : CommandExecutor) (name : String) : Prop :=
  ∀ unit f, e.fileInUse unit = some f → SameFile folder f name → f = name

def CarefulTask (folder : String) (host : Host) (task : Task) (e : CommandExecutor) : Prop :=
  CarefulInsert host task e ∧ ∀ name, Opens host e name task → Spelled folder e name

/- A file is used by one device only. -/
def Apart (folder : String) (e : CommandExecutor) : Prop :=
  ∀ {unit unit' f f'}, e.fileInUse unit = some f → e.fileInUse unit' = some f' → SameFile folder f f' → unit = unit'

theorem opensOnce {name' : String} (opens : Opens host e name task) (opens' : Opens host e name' task) : name = name' := by
  cases task with
  | detachAll => cases opens
  | reserveIds ids => cases opens
  | device operation definition =>
    cases operation
    case attach => exact opens.trans opens'.symm
    case insert =>
      obtain ⟨d,s,here,storage,rfl⟩ := opens
      obtain ⟨d',s',here',storage',rfl⟩ := opens'
      cases here.symm.trans here'
      cases storage.symm.trans storage'
      rfl
    all_goals cases opens

theorem releasedKeeps {d : AnyDevice} {table : String → Option (Int × Nat)} {f : String} {unit : Int × Nat}
    (found : released d table f = some unit) : table f = some unit := by
  cases storage : d.storage with
  | none =>
    simp only [released,storage] at found
    exact found
  | some s =>
    simp only [released,storage] at found
    by_cases same : f = s.filename
    · rw [same,Function.update_self] at found
      cases found
    · rw [Function.update_of_ne same] at found
      exact found

theorem releasedAllKeeps {devices : List (Int × AnyDevice)} {table : String → Option (Int × Nat)} {f : String}
    {unit : Int × Nat} (found : devices.foldl (fun table device => released device.2 table) table f = some unit) :
    table f = some unit := by
  induction devices generalizing table with
  | nil => exact found
  | cons device devices ih => exact releasedKeeps (ih found)

/- A name is only entered for a file that is opened, and only if it is free. -/
theorem tableGrows (change : Change host e task e') {f : String} {unit : Int × Nat}
    (found : e'.world.reservedFiles f = some unit) :
    e.world.reservedFiles f = some unit ∨ Opens host e f task ∧ e.world.reservedFiles f = none := by
  cases change with
  | quiet _ _ quiet =>
    obtain ⟨files,rfl⟩ := quiet
    exact .inl found
  | detachedAll _ detaches =>
    rw [detaches.reservedFiles] at found
    exact .inl (releasedAllKeeps found)
  | reservedIds ids _ reserves =>
    rw [reserves.world] at found
    exact .inl found
  | device operation definition result _ outcome =>
    cases outcome with
    | failed x _ quiet =>
      obtain ⟨files,rfl⟩ := quiet
      exact .inl found
    | attached d _ attach valid attaches =>
      subst attach
      rw [attaches.reservedFiles,registered] at found
      cases storage : d.storage with
      | none =>
        simp only [storage] at found
        exact .inl found
      | some s =>
        simp only [storage] at found
        cases removed : s.removed with
        | true =>
          simp only [removed,if_true] at found
          exact .inl found
        | false =>
          simp only [removed,Bool.false_eq_true,if_false] at found
          by_cases same : f = s.filename
          · have named := attaches.named
            have medium := attaches.prepared.medium
            rw [AnyDevice.mediumStorage storage] at named medium
            rw [same]
            refine .inr ⟨named removed,?_⟩
            rcases medium.2.2 with ⟨_,wrong⟩ | ⟨_,_,free⟩
            · exact Bool.noConfusion (wrong.symm.trans removed)
            · exact free
          · rw [Function.update_of_ne same] at found
            exact .inl found
    | detached d _ _ here detaches =>
      rw [detaches.reservedFiles] at found
      exact .inl (releasedKeeps found)
    | inserted d d' s _ insert here storage _ removed inserts =>
      subst insert
      obtain ⟨s1,s2,p,opens,_,storage2,changed⟩ := inserts.storage
      obtain ⟨files,s3,storage3,put⟩ := inserts.executor
      cases storage2.symm.trans storage3
      rw [put] at found
      by_cases same : f = s2.filename
      · have name : f = s1.filename := by rw [same,changed]
        rw [name]
        exact .inr ⟨⟨d,s,here,storage,opens.name⟩,opens.unreserved⟩
      · have other : e.world.reservedFiles f = some unit := (Function.update_of_ne same _ _).symm.trans found
        exact .inl other
    | notInserted x d d' s e1 insert here storage _ removed quiet fails =>
      obtain ⟨files,rfl⟩ := quiet
      rw [putDeviceEq] at found
      exact .inl found
    | ejected d _ _ here ejects =>
      cases ejects with
      | refused _ put =>
        rw [put,putDeviceEq] at found
        exact .inl found
      | ejected d' files _ _ storage' primary _ put =>
        rw [put] at found
        exact .inl (releasedKeeps found)
    | changed d f known here _ =>
      rw [putDeviceEq] at found
      exact .inl found

theorem apartChange (careful : CarefulTask folder host task e) (change : Change host e task e')
    (h : Tidy e ∧ Apart folder e) : Tidy e' ∧ Apart folder e' := by
  have tidy := tidyChange careful.1 change h.1
  refine ⟨tidy,fun {unit unit' f f'} here here' same => ?_⟩
  have grown (unit : Int × Nat) (f : String) (here : e'.fileInUse unit = some f) :
      e.fileInUse unit = some f ∨ Opens host e f task ∧ e.world.reservedFiles f = none :=
    (tableGrows change ((tidy.table f unit).mpr here)).imp (h.1.table f unit).mp id
  have taken {unit : Int × Nat} {f : String} (here : e.fileInUse unit = some f) (free : e.world.reservedFiles f = none) :
      False := by
    rw [(h.1.table f unit).mpr here] at free
    cases free
  rcases grown unit f here with old | ⟨opens,free⟩ <;> rcases grown unit' f' here' with old' | ⟨opens',free'⟩
  · exact h.2 old old' same
  · have equal := careful.2 f' opens' unit f old same
    exact (taken old (equal.symm ▸ free')).elim
  · have equal := careful.2 f opens unit' f' old' same.symm
    exact (taken old' (equal.symm ▸ free)).elim
  · have equal := opensOnce opens opens'
    exact inverseInjective tidy.table here (equal ▸ here')

theorem apartQuiet (quiet : Quiet e e') (h : Tidy e ∧ Apart folder e) : Tidy e' ∧ Apart folder e' := by
  have tidy := tidyQuiet h.1 quiet
  obtain ⟨files,rfl⟩ := quiet
  exact ⟨tidy,h.2⟩

end CommandExecutor

/-! The image commands. -/

namespace CommandImageSupport

variable {φ : Type} {env : ImageEnv φ} {s : ImageState φ} {params : List (String × String)}

/- The image file a command deletes, renames or protects. -/
def subject (s : ImageState φ) (command : PbCommand) : Option String :=
  match command.operation with
  | .deleteImage | .protectImage => some (getFullName s (getParam command.params "file"))
  | .renameImage => some (getFullName s (getParam command.params "from"))
  | _ => none

/- A reserved file is never accepted, and what comes before the check changes nothing. -/
theorem wpTaken {file op : String} {Q : Unit → ImageState φ → Prop} {E : ImageError → ImageState φ → Prop}
    (taken : (env.reservedFiles file).isSome) (rejected : ∀ e, E e s) : wp (isReservedFile file op) env s Q E := by
  unfold isReservedFile
  rw [wpBind,wpRead]
  cases found : env.reservedFiles file with
  | some unit => exact rejected _
  | none =>
    rw [found] at taken
    cases taken

theorem deleteImageTaken (taken : (env.reservedFiles (getFullName s (getParam params "file"))).isSome) :
    wp (deleteImage params) env s (fun _ _ => False) fun _ t => t = s := by
  unfold deleteImage
  simp only [wpBind,wpIte,wpGet,ImageFolder.wpQuery,ImageFolder.wpFails]
  exact ⟨fun _ => trivial,fun _ => ⟨fun _ => trivial,fun _ => ⟨fun _ => trivial,fun _ => wpTaken taken fun _ => rfl⟩⟩⟩

theorem renameImageTaken (taken : (env.reservedFiles (getFullName s (getParam params "from"))).isSome) :
    wp (renameImage params) env s (fun _ _ => False) fun _ t => t = s := by
  unfold renameImage validateParams isValidSrcFilename isValidDstFilename
  simp only [wpBind,wpIte,wpGet,ImageFolder.wpQuery,ImageFolder.wpFails]
  exact ⟨fun _ => trivial,fun _ => ⟨fun _ => trivial,fun _ => ⟨fun _ => trivial,fun _ => ⟨fun _ => trivial,fun _ => ⟨fun _ => trivial,fun _ =>
    ⟨fun _ => trivial,fun _ => wpTaken taken fun _ => rfl⟩⟩⟩⟩⟩⟩

theorem protectImageTaken (taken : (env.reservedFiles (getFullName s (getParam params "file"))).isSome) :
    wp (setImagePermissions params true) env s (fun _ _ => False) fun _ t => t = s := by
  unfold setImagePermissions isValidSrcFilename
  simp only [wpBind,wpIte,wpGet,ImageFolder.wpQuery,ImageFolder.wpFails]
  exact ⟨fun _ => trivial,fun _ => ⟨fun _ => trivial,fun _ => ⟨fun _ => trivial,fun _ => ⟨fun _ => wpTaken taken fun _ => rfl,
    fun wrong => absurd trivial wrong⟩⟩⟩⟩

theorem subjectTaken {command : PbCommand} {name : String} (known : subject s command = some name)
    (taken : (env.reservedFiles name).isSome) : (dispatch command env s).2 = s := by
  have settled {x : ImageEff φ Unit} (rejected : wp x env s (fun _ _ => False) fun _ t => t = s) : (x env s).2 = s := by
    unfold wp at rejected
    split at rejected
    · exact rejected.elim
    · next e t ran =>
      rw [ran]
      exact rejected
  unfold subject at known
  unfold dispatch
  cases operation : command.operation <;> simp only [operation] at known ⊢ <;> cases known
  case deleteImage => exact settled (deleteImageTaken taken)
  case renameImage => exact settled (renameImageTaken taken)
  case protectImage => exact settled (protectImageTaken taken)

end CommandImageSupport

/-! Commands for devices and for image files, one after the other. -/

/- The folder is the current one of the process. -/
structure FileServer (φ : Type) where
  service : FileService φ
  home : String
  folder : String

/- The devices and the image commands each have their view of the files. -/
structure FileServerState (φ : Type) where
  executor : CommandExecutor
  images : ImageState φ

inductive FileServerAction (φ : Type) where
  | remote (host : Host) (command : PbCommand)
  | image (command : PbCommand)
  | files (files : FileSystem) (imageFiles : φ)

namespace FileServer
open CommandExecutor CommandImageSupport

variable {φ : Type}

def start (server : FileServer φ) (files : FileSystem) (imageFiles : φ) (depth : Int) (properties : PropertyHandler) :
    FileServerState φ :=
  ⟨initially files properties,{ files := imageFiles, depth, defaultFolder := server.home ++ "/images" }⟩

def hostOf (s : FileServerState φ) (host : Host) : Host := { host with defaultFolder := s.images.defaultFolder }

def step (server : FileServer φ) (s : FileServerState φ) : FileServerAction φ → FileServerState φ
  | .remote host command => { s with executor := s.executor.process (hostOf s host) command }
  | .image command => { s with images :=
      (dispatch command ⟨server.service,server.home,s.executor.world.reservedFiles⟩ { s.images with changes := [] }).2 }
  | .files files imageFiles =>
    ⟨{ s.executor with world := { s.executor.world with files } },{ s.images with files := imageFiles }⟩

def run (server : FileServer φ) (s : FileServerState φ) (actions : List (FileServerAction φ)) : FileServerState φ :=
  actions.foldl server.step s

/- Each file in use is reserved for its device, and no other device has opened it. -/
structure Guarded (server : FileServer φ) (s : FileServerState φ) : Prop where
  reserved : FilesConsistent s.executor
  apart : Apart server.folder s.executor

/- A command that names a file in use is recognised as such, and changes nothing. -/
def Spares (server : FileServer φ) (s : FileServerState φ) (action : FileServerAction φ) : Prop :=
  ∀ command name, action = .image command → subject s.images command = some name →
    ∀ unit f, s.executor.fileInUse unit = some f → SameFile server.folder f name →
      s.executor.world.reservedFiles name = some unit ∧ (server.step s action).images.changes = []

def Careful (server : FileServer φ) (s : FileServerState φ) : FileServerAction φ → Prop
  | .remote host command => CommandMeets (CarefulTask server.folder) (hostOf s host) command s.executor
  | .image command => ∀ name, subject s.images command = some name → Spelled server.folder s.executor name
  | .files .. => True

def CarefulRun (server : FileServer φ) (s : FileServerState φ) : List (FileServerAction φ) → Prop
  | [] => True
  | action::rest => server.Careful s action ∧ server.CarefulRun (server.step s action) rest

section
variable {server : FileServer φ} {s : FileServerState φ} {action : FileServerAction φ}

structure Kept (server : FileServer φ) (s : FileServerState φ) : Prop where
  tidy : Tidy s.executor
  apart : Apart server.folder s.executor

theorem startKept (server : FileServer φ) (files : FileSystem) (imageFiles : φ) (depth : Int) (properties : PropertyHandler) :
    server.Kept (server.start files imageFiles depth properties) :=
  ⟨tidyInitially files properties,fun here => by cases here⟩

theorem stepKept (careful : server.Careful s action) (kept : server.Kept s) : server.Kept (server.step s action) := by
  cases action with
  | remote host command =>
    obtain ⟨tidy,apart⟩ := processKeeps (I := fun e => Tidy e ∧ Apart server.folder e) (fun _ _ quiet h => apartQuiet quiet h)
      (fun _ _ _ careful change h => apartChange careful change h) command careful ⟨kept.tidy,kept.apart⟩
    exact ⟨tidy,apart⟩
  | image command => exact ⟨kept.tidy,kept.apart⟩
  | files files imageFiles =>
    obtain ⟨tidy,apart⟩ := apartQuiet ⟨files,rfl⟩ ⟨kept.tidy,kept.apart⟩
    exact ⟨tidy,apart⟩

theorem stepSpares (careful : server.Careful s action) (kept : server.Kept s) : server.Spares s action := by
  rintro command name rfl known unit f here same
  have equal := careful name known unit f here same
  have reserved := (kept.tidy.table f unit).mpr here
  rw [equal] at reserved
  refine ⟨reserved,?_⟩
  have unchanged : (dispatch command ⟨server.service,server.home,s.executor.world.reservedFiles⟩
      { s.images with changes := [] }).2 = { s.images with changes := [] } :=
    subjectTaken known (Option.isSome_iff_exists.mpr ⟨unit,reserved⟩)
  change (dispatch command _ { s.images with changes := [] }).2.changes = []
  rw [unchanged]

theorem runKept {actions : List (FileServerAction φ)} (careful : server.CarefulRun s actions) (kept : server.Kept s) :
    ∀ before after, actions = before ++ after → server.Kept (server.run s before) ∧
      ∀ action rest, after = action :: rest → server.Spares (server.run s before) action := by
  induction actions generalizing s with
  | nil =>
    intro before after split
    obtain ⟨rfl,rfl⟩ := List.append_eq_nil_iff.mp split.symm
    exact ⟨kept,fun action rest wrong => by cases wrong⟩
  | cons first actions ih =>
    intro before after split
    cases before with
    | nil =>
      refine ⟨kept,fun action rest later => ?_⟩
      rw [List.nil_append,later] at split
      rw [← (List.cons.inj split).1]
      exact stepSpares careful.1 kept
    | cons action before =>
      rw [List.cons_append] at split
      obtain ⟨rfl,rest⟩ := List.cons.inj split
      exact ih careful.2 (stepKept careful.1 kept) before after rest

end

/- In every run in which files in use are named as their devices name them, a file in use is
reserved, no other device has it, and no image command changes it. -/
theorem filesInUse (server : FileServer φ) (files : FileSystem) (imageFiles : φ) (depth : Int) (properties : PropertyHandler)
    (actions : List (FileServerAction φ))
    (careful : server.CarefulRun (server.start files imageFiles depth properties) actions)
    (before after : List (FileServerAction φ)) (split : actions = before ++ after) :
    let s := server.run (server.start files imageFiles depth properties) before
    server.Guarded s ∧ ∀ action rest, after = action :: rest → server.Spares s action := by
  obtain ⟨kept,spares⟩ := runKept careful (startKept server files imageFiles depth properties) before after split
  exact ⟨⟨tidyConsistent kept.tidy,kept.apart⟩,spares⟩

/-! A drive with an image file. -/

def piServer : FileServer ImageFolder.ImageServer.PlainFiles where
  service := ImageFolder.ImageServer.plainService
  home := "/home/pi"
  folder := "/"

def oneDisk : FileSystem := fun name => if name = "/home/pi/images/disk.hds" then some (List.replicate 512 0) else none

def piStart : FileServerState ImageFolder.ImageServer.PlainFiles :=
  piServer.start oneDisk ImageFolder.ImageServer.twoFiles 1 {}

def attachDisk : FileServerAction ImageFolder.ImageServer.PlainFiles :=
  .remote {} { operation := .attach, devices := [{ type := .scrm, params := [("file","/home/pi/images/disk.hds")] }] }

def deleteDisk (name : String) : FileServerAction ImageFolder.ImageServer.PlainFiles :=
  .image { operation := .deleteImage, params := [("file",name)] }

/- Nothing is in use before the first device is attached. -/
theorem attachCareful (server : FileServer φ) (files : FileSystem) (imageFiles : φ) (depth : Int) (properties : PropertyHandler)
    (host : Host) (definition : PbDeviceDefinition) :
    server.Careful (server.start files imageFiles depth properties)
      (.remote host { operation := .attach, devices := [definition] }) := by
  refine wpMono (validateWp _ _ (initially files properties)) (fun _ e quiet => ?_) fun _ _ _ => trivial
  obtain ⟨files,rfl⟩ := quiet
  refine ⟨⟨trivial,fun name _ unit f here => ?_⟩,wpMono (performWp _ _ _) (fun _ _ _ => trivial) fun _ _ _ => trivial⟩
  cases here

theorem attachFirstCareful {server : FileServer φ} {files : FileSystem} {imageFiles : φ} {depth : Int}
    {properties : PropertyHandler} {host : Host} {definition : PbDeviceDefinition} {action action' : FileServerAction φ}
    (attaches : action = .remote host { operation := .attach, devices := [definition] })
    (later : server.Careful (server.step (server.start files imageFiles depth properties) action) action') :
    server.CarefulRun (server.start files imageFiles depth properties) [action,action'] := by
  subst attaches
  exact ⟨attachCareful ..,later,trivial⟩

def piDrive : FileServerState ImageFolder.ImageServer.PlainFiles := piServer.step piStart attachDisk

theorem piDriveFiles : piDrive.executor.getAllDevices.all (fun d =>
    d.2.storage.all fun s => s.filename = "/home/pi/images/disk.hds") = true := by
  decide +kernel

theorem piDriveUses {unit : Int × Nat} {f : String} (here : piDrive.executor.fileInUse unit = some f) :
    f = "/home/pi/images/disk.hds" := by
  unfold fileInUse nameOf storageAt at here
  obtain ⟨s,storage,named⟩ := Option.bind_eq_some_iff.mp here
  obtain ⟨d,device,storage⟩ := Option.bind_eq_some_iff.mp storage
  have listed := List.all_eq_true.mp piDriveFiles (unit.1,d) (memAllDevices.mpr ⟨unit.2,device⟩)
  rw [storage,Option.all_some,decide_eq_true_eq] at listed
  split at named
  · cases named
  · rw [← listed]
    exact (Option.some.inj named).symm

theorem deleteDiskCareful : piServer.Careful piDrive (deleteDisk "disk.hds") := by
  intro name known unit f here _
  rw [piDriveUses here]
  have full : subject piDrive.images { operation := .deleteImage, params := [("file","disk.hds")] } =
      some "/home/pi/images/disk.hds" := by decide +kernel
  rw [full] at known
  exact Option.some.inj known

/- The image file is attached by its full name and cannot be deleted. -/
theorem diskKept : piServer.Guarded piDrive ∧ piServer.Spares piDrive (deleteDisk "disk.hds") := by
  obtain ⟨guarded,spares⟩ := filesInUse piServer oneDisk ImageFolder.ImageServer.twoFiles 1 {} [attachDisk,deleteDisk "disk.hds"]
    (attachFirstCareful rfl deleteDiskCareful) [attachDisk] [deleteDisk "disk.hds"] rfl
  exact ⟨guarded,spares _ [] rfl⟩

/- With a redundant component in its name the same file is deleted. -/
theorem diskDeleted : ¬∀ (φ : Type) (server : FileServer φ) (files : FileSystem) (imageFiles : φ) (depth : Int)
    (properties : PropertyHandler) (actions before after : List (FileServerAction φ)), actions = before ++ after →
    let s := server.run (server.start files imageFiles depth properties) before
    server.Guarded s ∧ ∀ action rest, after = action :: rest → server.Spares s action := by
  intro claimed
  have spares : piServer.Spares piDrive (deleteDisk "./disk.hds") :=
    (claimed _ piServer oneDisk ImageFolder.ImageServer.twoFiles 1 {} _ [attachDisk] [deleteDisk "./disk.hds"] rfl).2 _ [] rfl
  have used : piDrive.executor.fileInUse (0,0) = some "/home/pi/images/disk.hds" := by decide +kernel
  have known : subject piDrive.images { operation := .deleteImage, params := [("file","./disk.hds")] } =
      some "/home/pi/images/./disk.hds" := by decide +kernel
  have same : SameFile "/" "/home/pi/images/disk.hds" "/home/pi/images/./disk.hds" := by decide +kernel
  have unchanged := (spares { operation := .deleteImage, params := [("file","./disk.hds")] } "/home/pi/images/./disk.hds" rfl
    known (0,0) "/home/pi/images/disk.hds" used same).2
  have changes : (piServer.step piDrive (deleteDisk "./disk.hds")).images.changes = [.remove "/home/pi/images/./disk.hds"] := by
    decide +kernel
  cases changes.symm.trans unchanged

end FileServer
end Scsi2Pi
