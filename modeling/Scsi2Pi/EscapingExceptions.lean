import Scsi2Pi.ExecutorRun

/-! The exceptions that leave the command executor when a medium cannot be opened, and what the callers
of the executor make of them. -/
namespace Scsi2Pi
open Eff Handler CommandExecutor S2pUtil

namespace EscapingExceptions

inductive ExceptionType where
  | scsiException | ioException | parserException | filesystemError
  deriving DecidableEq, Repr

/- Any other error is a result that has been returned. -/
def exceptionOf : CommandError → Option ExceptionType
  | .parserException _ => some .parserException
  | .filesystemError _ => some .filesystemError
  | .localized .. | .message _ | .rejected => none

/- The thread of the remote interface and the host services device, which is called by the controller. -/
inductive Caller where
  | s2pThread | hostServices
  deriving DecidableEq, Repr

/- ExecuteCommand and TransferFromHost. -/
def Caller.catches : Caller → ExceptionType → Bool
  | .s2pThread, x => x = .ioException
  | .hostServices, x => x = .scsiException

/- Was the command successful? There is no answer if an exception terminates the server. -/
def Caller.status (caller : Caller) : Except CommandError Unit → Option Bool
  | .ok _ => some true
  | .error error => match exceptionOf error with
    | none => some false
    | some x => if caller.catches x then some false else none

/-! What a step opens. -/

/- A device that is going to open the file with a name. -/
structure Opening where
  id : Int
  device : AnyDevice
  filename : String

/- The exception of Open. -/
def openException (host : Host) (id : Int) (d : AnyDevice) (w : World) (filename : String) : Option ExceptionType :=
  match (AnyDevice.openFile (host.readOnlyFile filename) { cdb := [], targetId := id }
    ⟨d.mapStorage fun s => { s with filename },{},w⟩).1 with
  | .ok .opened | .error _ => none
  | .ok .ioError => some .ioException
  | .ok (.parserError _) => some .parserException

/- The exception when looking up and opening the file. -/
def Opening.raised (o : Opening) (host : Host) (w : World) : Option ExceptionType :=
  if (w.reservedFiles o.filename).isSome then none
  else if (host.existsError o.filename).isSome then some .filesystemError
  else if (w.reservedFiles (effectiveName host w o.filename)).isSome then none
  else openException host o.id o.device w (effectiveName host w o.filename)

/- A tape whose maximum file size is not a number. -/
def MalformedAppend : AnyDevice → Prop
  | .tape t => (t.setBlockSize (if t.configuredBlockSize ≠ 0 then t.configuredBlockSize else 512)).isSome = true ∧
      parseAsUnsignedInt ((t.params.lookup "append").getD "") = -1
  | _ => False

/- The file system cannot tell whether the file exists, or the tape is malformed. A file in use is reported first. -/
def Opening.Sound (o : Opening) (host : Host) (w : World) : Prop :=
  w.reservedFiles o.filename = none → host.existsError o.filename = none ∧
    (w.reservedFiles (effectiveName host w o.filename) = none → ¬MalformedAppend o.device)

/- The steps of ATTACH before the file is opened. -/
def attachPlan (definition : PbDeviceDefinition) : Exec (Option Opening) := do
  validateAttachment definition
  let filename := getParam definition.params "file"
  let d ← createDevice definition filename
  let d ← configure d definition
  if d.supportsImageFile ∧ ¬filename.isEmpty then
    let d := d.setPrimary { d.primary with removed := filename.isEmpty }
    return some ⟨-1,d.setCachingMode (effectiveCachingMode definition.cachingMode),filename⟩
  else return none

/- The steps of INSERT before the file is opened. -/
def insertPlan (definition : PbDeviceDefinition) (d : AnyDevice) (dryRun : Bool) : Exec (Option Opening) := do
  match d.storage with
  | none => throw .rejected
  | some s =>
    if !s.removed then fail .errorEjectRequired []
    if definition.vendor ≠ "" ∨ definition.product ≠ "" ∨ definition.revision ≠ "" then fail .errorDeviceNameUpdate []
    let filename := insertName definition s
    if filename.isEmpty then fail .errorDeviceMissingFilename [getIdentifier definition.id d]
    if dryRun then return none
    let d ← setBlockSize d definition.blockSize
    return some ⟨definition.id,d,filename⟩

def operatePlan (operation : PbOperation) (definition : PbDeviceDefinition) (d : AnyDevice) (dryRun : Bool) :
    Exec (Option Opening) :=
  if operation = .insert then insertPlan definition d dryRun else pure none

def plan (operation : PbOperation) (definition : PbDeviceDefinition) (dryRun : Bool) : Exec (Option Opening) := do
  validateDevice operation definition
  let device := (← get).getDeviceForIdAndLun definition.id definition.unit
  if let some d := device then validateOperation operation d
  if operation = .attach then attachPlan definition
  else match device with
    | none => throw .rejected
    | some d => operatePlan operation definition d dryRun

/-! Computations without exceptions of this kind. -/

variable {α β : Type} {host : Host} {e : CommandExecutor}

def Calm (x : Exec α) : Prop := ∀ host e, wp x host e (fun _ _ => True) fun error _ => exceptionOf error = none

theorem calmBind {x : Exec α} {f : α → Exec β} (first : Calm x) (next : ∀ a, Calm (f a)) : Calm (x >>= f) := by
  intro host e
  rw [wpBind]
  exact wpMono (first host e) (fun a t _ => next a host t) fun _ _ calm => calm

theorem calmPure (a : α) : Calm (pure a : Exec α) := fun _ _ => trivial

theorem calmGet : Calm (get : Exec CommandExecutor) := fun _ _ => trivial

theorem calmRead : Calm (read : Exec Host) := fun _ _ => trivial

theorem calmModify (f : CommandExecutor → CommandExecutor) : Calm (modify f : Exec Unit) := fun _ _ => trivial

theorem calmSet (t : CommandExecutor) : Calm (set t : Exec Unit) := fun _ _ => trivial

theorem calmRejected : Calm (throw .rejected : Exec α) := fun _ _ => rfl

theorem calmFail (key : LocalizationKey) (arguments : List String) : Calm (fail key arguments : Exec α) := fun _ _ => rfl

theorem calmIte {c : Prop} [Decidable c] {x y : Exec α} (yes : Calm x) (no : Calm y) : Calm (if c then x else y) := by
  split
  · exact yes
  · exact no

theorem calmCall (h : Handler AnyDevice α) (id : Int) (d : AnyDevice) : Calm (call h id d) := by
  unfold call
  refine calmBind calmGet fun e => calmBind (calmModify _) fun _ => ?_
  split
  · exact calmPure _
  · exact calmRejected

theorem calmValidateDevice (operation : PbOperation) (definition : PbDeviceDefinition) : Calm (validateDevice operation definition) := by
  intro host e
  simp only [validateDevice,wpBind,wpIte,wpFail,wpPure,wpGet,exceptionOf,implies_true,and_self]

theorem calmValidateOperation (operation : PbOperation) (d : AnyDevice) : Calm (validateOperation operation d) := by
  intro host e
  simp only [validateOperation,wpBind,wpIte,wpFail,wpPure,exceptionOf,implies_true,and_self]

theorem calmValidateAttachment (definition : PbDeviceDefinition) : Calm (validateAttachment definition) := by
  intro host e
  simp only [validateAttachment,wpBind,wpIte,wpFail,wpPure,wpGet,exceptionOf,implies_true,and_self]

theorem calmCreateDevice (definition : PbDeviceDefinition) (filename : String) : Calm (createDevice definition filename) := by
  unfold createDevice
  refine calmBind calmRead fun host => ?_
  split
  · exact calmIte (calmFail _ _) (calmFail _ _)
  · exact calmBind calmGet fun e => calmIte (calmFail _ _) (calmPure _)

theorem calmSetBlockSize (d : AnyDevice) (blockSize : Int) : Calm (setBlockSize d blockSize) := by
  unfold setBlockSize
  refine calmIte (calmPure _) (calmIte (calmFail _ _) ?_)
  split
  · exact calmPure _
  · exact calmFail _ _

theorem calmConfigure (d : AnyDevice) (definition : PbDeviceDefinition) : Calm (configure d definition) := by
  unfold configure
  refine calmBind calmRead fun host => calmBind ?_ fun d => calmBind ?_ fun d => calmSetBlockSize d _
  · unfold setScsiLevel
    refine calmIte (calmPure _) ?_
    split
    · exact calmPure _
    · exact calmFail _ _
  · unfold setProductData
    split
    · exact calmPure _
    · exact fun _ _ => rfl

theorem calmSetUpDeviceProperties (id : Int) (d : AnyDevice) : Calm (setUpDeviceProperties id d) :=
  calmBind calmRead fun _ => calmModify _

theorem calmReserveFile (id : Int) (d : AnyDevice) : Calm (reserveFile id d) := by
  unfold reserveFile
  split
  · exact calmPure _
  · exact calmBind calmGet fun e => calmBind (calmModify _) fun _ => calmPure _

theorem calmRegisterDevice (id : Int) (d : AnyDevice) : Calm (registerDevice id d) := by
  have registered : Calm (if !d.primary.removed ∧ d.supportsImageFile then reserveFile id d >>= fun _ => setUpDeviceProperties id d
      else setUpDeviceProperties id d) :=
    calmIte (calmBind (calmReserveFile id d) fun _ => calmSetUpDeviceProperties id d) (calmSetUpDeviceProperties id d)
  unfold registerDevice
  refine calmBind calmGet fun e => ?_
  dsimp only
  cases attachToController id d e with
  | none => exact calmBind (calmFail _ _) fun _ => registered
  | some e => exact calmBind (calmSet e) fun _ => registered

theorem calmChangePrimary (id lun : Int) (d : AnyDevice) (f : PrimaryDevice → PrimaryDevice) : Calm (changePrimary id lun d f) :=
  calmModify _

theorem calmRemoveProperties (filter : String) : Calm (removeProperties filter) := calmModify _

theorem calmEject (id lun : Int) (d : AnyDevice) : Calm (eject id lun d) := by
  unfold eject
  refine calmBind (calmCall _ _ _) fun result => calmBind (calmModify _) fun _ => calmIte ?_ (calmPure _)
  exact calmBind (calmRemoveProperties _) fun _ => calmIte (calmRemoveProperties _) (calmPure _)

theorem calmDetach (id : Int) (d : AnyDevice) (dryRun : Bool) : Calm (detach id d dryRun) := by
  have removed (luns : Luns) : Calm (removeDevice id luns d) :=
    calmBind (calmCall _ _ _) fun _ => calmIte (calmModify _) (calmModify _)
  unfold detach
  refine calmBind calmGet fun e => ?_
  dsimp only
  cases e.controllers.lookup id with
  | none => exact calmFail _ _
  | some luns =>
    refine calmIte (calmFail _ _) (calmIte (calmPure _) (calmBind (removed luns) fun _ => ?_))
    exact calmBind (calmRemoveProperties _) fun _ => calmIte (calmRemoveProperties _) (calmPure _)

theorem calmDetachAll : Calm detachAll := by
  have cleanedUp (devices : List (Int × AnyDevice)) : Calm (cleanUpAll devices) := by
    induction devices with
    | nil => exact calmPure _
    | cons device devices ih => exact calmBind (calmCall _ _ _) fun _ => ih
  unfold detachAll
  refine calmBind calmGet fun e => calmIte (calmPure _) ?_
  exact calmBind (cleanedUp _) fun _ => calmBind (calmModify _) fun _ => calmRemoveProperties _

theorem calmReserveIds (ids : String) : Calm (reserveIds ids) := by
  unfold reserveIds setReservedIds
  refine calmBind (calmBind calmGet fun e => ?_) fun _ => calmModify _
  split
  · exact fun _ _ => rfl
  · exact calmModify _

theorem calmEnsureLun0 (definitions : List PbDeviceDefinition) : Calm (ensureLun0 definitions) := by
  unfold ensureLun0
  refine calmBind calmGet fun e => ?_
  split
  · exact calmFail _ _
  · exact calmPure _

/-! Each plan tells which exception leaves its step. -/

def Escapes (error : CommandError) : Prop := exceptionOf error ≠ none

/- A run that succeeds has opened its file, and exceptions leave the run exactly if its opening is not sound. -/
def Agrees (plan : Exec (Option Opening)) (run : Exec α) : Prop := ∀ host e, wp run host e
  (fun _ _ => ∀ o t, plan host e = (.ok (some o),t) → o.Sound host t.world ∧ o.raised host t.world = none)
  fun error _ => Escapes error ↔ ∃ o t, plan host e = (.ok (some o),t) ∧ ¬o.Sound host t.world

theorem agreesBind {x : Exec α} {f : α → Exec (Option Opening)} {g : α → Exec β} (first : Calm x)
    (next : ∀ a, Agrees (f a) (g a)) : Agrees (x >>= f) (x >>= g) := by
  intro host e
  have calm := first host e
  unfold wp at calm
  rw [wpBind,wp]
  cases ran : x host e with
  | mk result t =>
    rw [ran] at calm
    cases result with
    | ok a =>
      have step : (x >>= f) host e = f a host t := by simp only [bind,ran]
      rw [step]
      exact next a host t
    | error error =>
      have step : (x >>= f) host e = (.error error,t) := by simp only [bind,ran]
      rw [step]
      refine ⟨fun escapes => absurd calm escapes,?_⟩
      rintro ⟨o,_,same,_⟩
      cases same

theorem agreesCalm {x : Exec α} (calm : Calm x) : Agrees (pure none) x := by
  intro host e
  refine wpMono (calm host e) (fun _ _ _ o t same => by cases same) fun error _ calm => ?_
  refine ⟨fun escapes => absurd calm escapes,?_⟩
  rintro ⟨o,_,same,_⟩
  cases same

theorem agreesIte {c : Prop} [Decidable c] {p q : Exec (Option Opening)} {x y : Exec α} (yes : c → Agrees p x) (no : ¬c → Agrees q y) :
    Agrees (if c then p else q) (if c then x else y) := by
  split
  · next holds => exact yes holds
  · next fails => exact no fails

theorem agreesThen {p : Exec (Option Opening)} {x : Exec α} {f : α → Exec β} (first : Agrees p x) (next : ∀ a, Calm (f a)) :
    Agrees p (x >>= f) := by
  intro host e
  rw [wpBind]
  refine wpMono (first host e) (fun a t opened => ?_) fun _ _ escapes => escapes
  refine wpMono (next a host t) (fun _ _ _ => opened) fun error _ calm => ⟨fun escapes => absurd calm escapes,?_⟩
  rintro ⟨o,_,same,wrong⟩
  exact absurd (opened o _ same).1 wrong

theorem agreesRefused {x : Exec α} (error : CommandError) (calm : Calm x) : Agrees (throw error) x := by
  intro host e
  refine wpMono (calm host e) (fun _ _ _ o t same => by cases same) fun error _ calm => ?_
  refine ⟨fun escapes => absurd calm escapes,?_⟩
  rintro ⟨o,_,same,_⟩
  cases same

/-! Opening. -/

theorem setBlockSizeSome (s : StorageDevice) (size : Nat) :
    (s.setBlockSize size).isSome = true ↔ size ∈ s.supportedBlockSizes ∨ size = s.configuredBlockSize := by
  unfold StorageDevice.setBlockSize
  split
  · next supported => exact ⟨fun _ => supported,fun _ => rfl⟩
  · next other => exact ⟨fun wrong => Bool.noConfusion wrong,fun supported => absurd supported other⟩

theorem malformedNamed (d : AnyDevice) (filename : String) :
    MalformedAppend (d.mapStorage fun s => { s with filename }) ↔ MalformedAppend d := by
  cases d with
  | tape t => exact and_congr ((setBlockSizeSome _ _).trans (setBlockSizeSome t.toStorageDevice _).symm) Iff.rfl
  | _ => exact Iff.rfl

theorem notParserError (ok : Bool) : ¬∃ message, AnyDevice.opened ok = .parserError message := by
  rintro ⟨message,same⟩
  cases ok <;> cases same

theorem tapeMalformed (readOnlyFile : Bool) (r : Request) (s : HandlerState Tape) :
    wp (AnyDevice.openTape readOnlyFile) r s
      (fun result _ => (∃ message, result = .parserError message) ↔ MalformedAppend (.tape s.device))
      fun _ _ => ¬MalformedAppend (.tape s.device) := by
  simp only [AnyDevice.openTape,wpBind,wpGetDevice,wpIte,wpPure]
  refine ⟨fun unsupported => ?_,fun supported => ⟨fun malformed => ?_,fun number => ⟨fun _ => ?_,fun _ => ?_⟩⟩⟩
  · refine iff_of_false (by rintro ⟨_,wrong⟩; cases wrong) fun malformed => ?_
    have supported := malformed.1
    rw [Option.isNone_iff_eq_none.mp unsupported] at supported
    exact Bool.noConfusion supported
  · refine iff_of_true ⟨_,rfl⟩ ⟨?_,malformed⟩
    rw [← Option.not_isNone,Bool.not_eq_true']
    exact Bool.eq_false_iff.mpr supported
  · exact iff_of_false (by rintro ⟨_,wrong⟩; cases wrong) fun malformed => number malformed.2
  · exact wpAlways (fun ok _ => iff_of_false (notParserError ok) fun malformed => number malformed.2)
      fun _ _ malformed => number malformed.2

theorem openMalformed (readOnlyFile : Bool) (r : Request) (s : HandlerState AnyDevice) :
    wp (AnyDevice.openFile readOnlyFile) r s (fun result _ => (∃ message, result = .parserError message) ↔ MalformedAppend s.device)
      fun _ _ => ¬MalformedAppend s.device := by
  obtain ⟨d,transfer,w⟩ := s
  unfold AnyDevice.openFile
  rw [wpBind,wpGetDevice]
  cases d with
  | tape t =>
    have ends := tapeMalformed readOnlyFile r ⟨t,transfer,w⟩
    unfold wp AnyDevice.within at *
    dsimp only
    generalize AnyDevice.openTape readOnlyFile r ⟨t,transfer,w⟩ = ran at *
    obtain ⟨result,_⟩ := ran
    cases result <;> exact ends
  | printer d => exact iff_of_false (notParserError true) id
  | daynaPort d => exact iff_of_false (notParserError true) id
  | hostServices d => exact iff_of_false (notParserError true) id
  | scsiGeneric d => exact iff_of_false (notParserError true) id
  | _ =>
    rw [wpBind]
    exact wpAlways (fun ok _ => iff_of_false (notParserError ok) id) fun _ _ => id

/- The end of ValidateImageFile: the error of Open is thrown, and nothing else. -/
structure Rethrows (next : Option CommandError × AnyDevice → Exec α) : Prop where
  opened : ∀ d, Calm (next (none,d))
  failed : ∀ error d host e, wp (next (some error,d)) host e (fun _ _ => False) fun x _ => x = error

theorem callWp (h : Handler AnyDevice α) (id : Int) (d : AnyDevice) {Q : α × AnyDevice → CommandExecutor → Prop}
    {E : CommandError → CommandExecutor → Prop} : wp (call h id d) host e Q E ↔ wp h { cdb := [], targetId := id } ⟨d,{},e.world⟩
      (fun a s => Q (a,s.device) { e with world := s.world }) fun _ s => E .rejected { e with world := s.world } := by
  unfold call wp
  dsimp only [bind,get,getThe,MonadStateOf.get,modify,modifyGet,MonadStateOf.modifyGet]
  generalize h { cdb := [], targetId := id } ⟨d,{},e.world⟩ = ran
  obtain ⟨result,_⟩ := ran
  cases result <;> exact Iff.rfl

theorem openExceptionWp (host : Host) (id : Int) (d : AnyDevice) (w : World) (filename : String) :
    wp (AnyDevice.openFile (host.readOnlyFile filename)) { cdb := [], targetId := id } ⟨d.mapStorage fun s => { s with filename },{},w⟩
      (fun result _ => openException host id d w filename = (openError filename result).bind exceptionOf ∨ result = .ioError)
      fun _ _ => True := by
  unfold openException wp
  split
  · next result _ ran =>
    rw [ran]
    cases result with
    | opened => exact .inl rfl
    | ioError => exact .inr rfl
    | parserError message => exact .inl rfl
  · trivial

theorem openImageAgrees {next : Option CommandError × AnyDevice → Exec α} (rethrows : Rethrows next) (id : Int) (d : AnyDevice)
    (filename : String) (host : Host) (e : CommandExecutor) :
    wp (openImageFile id d filename >>= next) host e
      (fun _ _ => ¬MalformedAppend d ∧ openException host id d e.world filename = none)
      fun error _ => Escapes error ↔ MalformedAppend d := by
  have malformed := openMalformed (host.readOnlyFile filename) { cdb := [], targetId := id }
    ⟨d.mapStorage fun s => { s with filename },{},e.world⟩
  rw [malformedNamed] at malformed
  unfold openImageFile
  simp only [wpBind,wpRead,wpPure,callWp]
  refine wpMono (wpBoth malformed (openExceptionWp host id d e.world filename)) (fun result t ended => ?_) fun _ _ ended =>
    iff_of_false (fun escapes => escapes rfl) ended.1
  obtain ⟨parser,exception⟩ := ended
  cases result with
  | opened =>
    have sound : ¬MalformedAppend d := fun malformed => by
      obtain ⟨_,wrong⟩ := parser.mpr malformed
      cases wrong
    have none : openException host id d e.world filename = none := exception.resolve_right fun wrong => by cases wrong
    exact wpMono (rethrows.opened _ host _) (fun _ _ _ => ⟨sound,none⟩) fun _ _ calm => iff_of_false (not_not_intro calm) sound
  | ioError =>
    have sound : ¬MalformedAppend d := fun malformed => by
      obtain ⟨_,wrong⟩ := parser.mpr malformed
      cases wrong
    refine wpMono (rethrows.failed _ _ host _) (fun _ _ => False.elim) fun error _ same => iff_of_false (fun escapes => ?_) sound
    rw [same] at escapes
    exact escapes rfl
  | parserError message =>
    refine wpMono (rethrows.failed _ _ host _) (fun _ _ => False.elim) fun error _ same =>
      iff_of_true (fun calm => ?_) (parser.mp ⟨_,rfl⟩)
    rw [same] at calm
    cases calm

theorem checkForReservedFileEnds (filename : String) (host : Host) (e : CommandExecutor) :
    wp (checkForReservedFile filename) host e (fun _ t => t = e ∧ e.world.reservedFiles filename = none)
      fun error _ => exceptionOf error = none ∧ e.world.reservedFiles filename ≠ none := by
  simp only [checkForReservedFile,wpBind,wpGet]
  cases found : e.world.reservedFiles filename with
  | none => exact ⟨rfl,rfl⟩
  | some owner => exact ⟨rfl,fun no => by cases no⟩

theorem fileExistsEnds (filename : String) (host : Host) (e : CommandExecutor) : wp (fileExists filename) host e
    (fun found t => t = e ∧ found = (e.world.files filename).isSome ∧ host.existsError filename = none)
    fun error _ => Escapes error ∧ host.existsError filename ≠ none := by
  unfold fileExists
  rw [wpBind,wpRead]
  cases known : host.existsError filename with
  | some error =>
    have escapes : Escapes (.filesystemError error) := fun no => by cases no
    exact ⟨escapes,fun no => by cases no⟩
  | none => exact ⟨rfl,rfl,rfl⟩

/- ValidateImageFile. -/
theorem openingAgrees {next : Option CommandError × AnyDevice → Exec α} (rethrows : Rethrows next) (o : Opening) (host : Host)
    (e : CommandExecutor) : wp (do let effective ← effectiveFilename o.filename; openImageFile o.id o.device effective >>= next) host e
      (fun _ _ => o.Sound host e.world ∧ o.raised host e.world = none)
      fun error _ => Escapes error ↔ ¬o.Sound host e.world := by
  unfold effectiveFilename
  rw [wpBind,wpBind]
  refine wpMono (checkForReservedFileEnds o.filename host e) (fun _ t ended => ?_) fun _ _ ended =>
    iff_of_false (not_not_intro ended.1) (not_not_intro fun free => absurd free ended.2)
  obtain ⟨rfl,free⟩ := ended
  rw [wpBind]
  refine wpMono (fileExistsEnds o.filename host t) (fun found u ended => ?_) fun _ _ ended =>
    iff_of_true ended.1 fun sound => ended.2 (sound free).1
  obtain ⟨rfl,rfl,known⟩ := ended
  have opens (unreserved : u.world.reservedFiles (effectiveName host u.world o.filename) = none) :
      wp (openImageFile o.id o.device (effectiveName host u.world o.filename) >>= next) host u
        (fun _ _ => o.Sound host u.world ∧ o.raised host u.world = none)
        fun error _ => Escapes error ↔ ¬o.Sound host u.world := by
    have soundness : o.Sound host u.world ↔ ¬MalformedAppend o.device :=
      ⟨fun sound => (sound free).2 unreserved,fun sound _ => ⟨known,fun _ => sound⟩⟩
    have raised : o.raised host u.world = openException host o.id o.device u.world (effectiveName host u.world o.filename) := by
      unfold Opening.raised
      rw [free,known,unreserved]
      rfl
    rw [soundness,raised,not_not]
    exact openImageAgrees rethrows o.id o.device _ host u
  rw [wpIte]
  refine ⟨fun here => ?_,fun missing => ?_⟩
  · have own : effectiveName host u.world o.filename = o.filename := if_pos here
    rw [own] at opens
    exact opens free
  · have other : effectiveName host u.world o.filename = host.defaultFolder ++ "/" ++ o.filename := if_neg missing
    rw [wpBind,wpRead,wpBind]
    refine wpMono (checkForReservedFileEnds _ host u) (fun _ v ended => ?_) fun _ _ ended =>
      iff_of_false (not_not_intro ended.1) (not_not_intro fun _ => ⟨known,fun free => ?_⟩)
    · obtain ⟨rfl,unreserved⟩ := ended
      rw [other] at opens
      exact opens unreserved
    · rw [other] at free
      exact absurd free ended.2

/- The plan may know another state with the same files. -/
theorem agreesOpening {x : Exec α} {o : Opening} (ends : ∀ host e, wp x host e (fun _ _ => o.Sound host e.world ∧ o.raised host e.world = none)
    fun error _ => Escapes error ↔ ¬o.Sound host e.world) : Agrees (pure (some o)) x := by
  intro host e
  refine wpMono (ends host e) (fun _ _ ended p t same => ?_) fun error _ ended => ended.trans ⟨fun wrong => ⟨o,e,rfl,wrong⟩,?_⟩
  · cases same
    exact ended
  · rintro ⟨p,t,same,wrong⟩
    cases same
    exact wrong

theorem prepareMediumAgrees (definition : PbDeviceDefinition) (filename : String) (d : AnyDevice) :
    Agrees (if ¬filename.isEmpty then
        pure (some ⟨-1,(d.setPrimary { d.primary with removed := filename.isEmpty }).setCachingMode
          (effectiveCachingMode definition.cachingMode),filename⟩)
      else pure none) (prepareMedium definition filename d) := by
  unfold prepareMedium
  dsimp only
  by_cases empty : filename.isEmpty = true
  · rw [if_neg (not_not_intro empty)]
    refine agreesCalm (calmIte (calmFail _ _) ?_)
    rw [if_pos empty]
    exact calmPure _
  · rw [if_pos empty,if_neg fun both => empty both.2,if_neg empty]
    refine agreesOpening fun host e => openingAgrees ⟨fun d => ?_,fun error d host e => ?_⟩ ⟨-1,_,filename⟩ host e
    · exact calmPure _
    · exact rfl

theorem attachAgrees (definition : PbDeviceDefinition) (dryRun : Bool) : Agrees (attachPlan definition) (attach definition dryRun) := by
  have prepared : Agrees (do
      let d ← createDevice definition (getParam definition.params "file")
      let d ← configure d definition
      if d.supportsImageFile ∧ ¬(getParam definition.params "file").isEmpty then
        return some ⟨-1,(d.setPrimary { d.primary with removed := (getParam definition.params "file").isEmpty }).setCachingMode
          (effectiveCachingMode definition.cachingMode),getParam definition.params "file"⟩
      else return none) (prepareDevice definition) := by
    unfold prepareDevice
    refine agreesBind (calmCreateDevice _ _) fun d => agreesBind (calmConfigure d _) fun d => ?_
    dsimp only
    have medium := prepareMediumAgrees definition (getParam definition.params "file") d
    by_cases supports : d.supportsImageFile = true
    · rw [if_pos supports]
      refine agreesThen ?_ fun _ => calmPure _
      simp only [supports,true_and]
      exact medium
    · rw [if_neg supports,if_neg fun both => supports both.1]
      exact agreesCalm (calmBind (calmPure _) fun _ => calmPure _)
  unfold attachPlan attach
  refine agreesBind (calmValidateAttachment definition) fun _ => agreesThen prepared fun d => calmIte (calmPure _) ?_
  refine calmBind calmRead fun host => ?_
  split
  · exact calmFail _ _
  · exact calmRegisterDevice _ _

theorem insertMediumAgrees (definition : PbDeviceDefinition) (filename : String) (d : AnyDevice) : Agrees (do
      let d ← setBlockSize d definition.blockSize
      return some ⟨definition.id,d,filename⟩) (insertMedium definition filename d) := by
  unfold insertMedium
  dsimp only
  refine agreesBind (calmSetBlockSize d _) fun d => agreesOpening fun host e => ?_
  rw [wpBind,wpModify,putDeviceEq]
  refine openingAgrees ⟨fun d => ?_,fun error d host e => ?_⟩ ⟨definition.id,d,filename⟩ host
    { e with controllers := putLuns definition.id definition.unit d e.controllers }
  · refine calmBind (calmModify _) fun _ => calmBind (calmReserveFile _ d) fun _ => calmIte ?_ ?_
    · exact calmBind calmRejected fun _ => calmBind (calmModify _) fun _ => calmSetUpDeviceProperties _ _
    · exact calmBind (calmModify _) fun _ => calmSetUpDeviceProperties _ _
  · exact rfl

theorem insertAgrees (definition : PbDeviceDefinition) (d : AnyDevice) (dryRun : Bool) :
    Agrees (insertPlan definition d dryRun) (CommandExecutor.insert definition d dryRun) := by
  unfold insertPlan CommandExecutor.insert
  cases d.storage with
  | none => exact agreesRefused _ calmRejected
  | some s =>
    refine agreesIte (fun _ => agreesRefused _ (calmFail _ _)) fun _ => ?_
    refine agreesIte (fun _ => agreesRefused _ (calmFail _ _)) fun _ => ?_
    refine agreesIte (fun _ => agreesRefused _ (calmFail _ _)) fun _ => ?_
    refine agreesIte (fun _ => agreesCalm (calmPure _)) fun _ => ?_
    exact insertMediumAgrees definition (insertName definition s) d

theorem operateAgrees (operation : PbOperation) (definition : PbDeviceDefinition) (d : AnyDevice) (dryRun : Bool) :
    Agrees (operatePlan operation definition d dryRun) (operate operation definition d dryRun) := by
  unfold operatePlan operate
  cases operation with
  | insert => exact insertAgrees definition d dryRun
  | detach => exact agreesCalm (calmDetach _ d dryRun)
  | eject => exact agreesCalm (calmIte (calmPure _) (calmEject _ _ d))
  | start | stop | protect | unprotect => exact agreesCalm (calmIte (calmPure _) (calmModify _))
  | _ => exact agreesCalm (calmFail _ _)

theorem stepAgrees (operation : PbOperation) (definition : PbDeviceDefinition) (dryRun : Bool) :
    Agrees (plan operation definition dryRun) (processDeviceCmd operation definition dryRun) := by
  unfold plan processDeviceCmd
  refine agreesBind (calmValidateDevice operation definition) fun _ => agreesBind calmGet fun e => ?_
  dsimp only
  cases e.getDeviceForIdAndLun definition.id definition.unit with
  | none => exact agreesIte (fun _ => attachAgrees definition dryRun) fun _ => agreesRefused _ calmRejected
  | some d =>
    refine agreesBind (calmValidateOperation operation d) fun _ => ?_
    exact agreesIte (fun _ => attachAgrees definition dryRun) fun _ => operateAgrees operation definition d dryRun

/-! Whole commands. -/

/- What is opened by each step that is reached meets a condition on the files before the step. -/
def Steps (G : Opening → Host → World → Prop) (host : Host) (operation : PbOperation) (dryRun : Bool) :
    List PbDeviceDefinition → CommandExecutor → Prop
  | [], _ => True
  | definition::rest, e => (∀ o t, plan operation definition dryRun host e = (.ok (some o),t) → G o host t.world) ∧
      wp (processDeviceCmd operation definition dryRun) host e (fun _ e' => Steps G host operation dryRun rest e') fun _ _ => True

/- The definitions are validated in a dry run, which opens the files of ATTACH as well. -/
def CommandSteps (G : Opening → Host → World → Prop) (host : Host) (command : PbCommand) (e : CommandExecutor) : Prop :=
  match command.operation with
  | .detachAll | .reserveIds | .checkAuthentication | .noOperation => True
  | operation => Steps G host operation true command.devices e ∧
      wp (validate command) host e (fun _ e' => Steps G host operation false command.devices e') fun _ _ => True

def Unraised (o : Opening) (host : Host) (w : World) : Prop := o.raised host w = none

theorem processDevicesAgrees (operation : PbOperation) (dryRun : Bool) (definitions : List PbDeviceDefinition) (host : Host)
    (e : CommandExecutor) : wp (processDevices operation dryRun definitions) host e
      (fun _ _ => Steps Opening.Sound host operation dryRun definitions e ∧ Steps Unraised host operation dryRun definitions e)
      fun error _ => Escapes error ↔ ¬Steps Opening.Sound host operation dryRun definitions e := by
  induction definitions generalizing e with
  | nil => exact ⟨trivial,trivial⟩
  | cons definition rest ih =>
    have step := stepAgrees operation definition dryRun host e
    unfold processDevices Steps
    rw [wpBind]
    unfold wp at step ⊢
    cases ran : processDeviceCmd operation definition dryRun host e with
    | mk result e1 =>
      rw [ran] at step
      cases result with
      | ok =>
        have sound : ∀ o t, plan operation definition dryRun host e = (.ok (some o),t) → o.Sound host t.world :=
          fun o t planned => (step o t planned).1
        refine wpMono (ih e1) (fun _ _ ended => ?_) fun error _ ended => ended.trans (not_congr ?_)
        · exact ⟨⟨sound,ended.1⟩,fun o t planned => (step o t planned).2,ended.2⟩
        · exact ⟨fun rest => ⟨sound,rest⟩,fun both => both.2⟩
      | error error =>
        refine step.trans ⟨?_,fun wrong => ?_⟩
        · rintro ⟨o,t,planned,wrong⟩ all
          exact wrong (all.1 o t planned)
        · by_contra none
          refine wrong ⟨fun o t planned => ?_,trivial⟩
          by_contra unsound
          exact none ⟨o,t,planned,unsound⟩

theorem deviceCommandAgrees (operation : PbOperation) (definitions : List PbDeviceDefinition) (host : Host) (e : CommandExecutor)
    {steps : (Opening → Host → World → Prop) → Prop}
    (same : ∀ G, steps G ↔ Steps G host operation true definitions e ∧
      wp (do processDevices operation true definitions; ensureLun0 definitions) host e
        (fun _ e' => Steps G host operation false definitions e') fun _ _ => True) :
    wp (do processDevices operation true definitions; ensureLun0 definitions; processDevices operation false definitions) host e
      (fun _ _ => steps Opening.Sound ∧ steps Unraised) fun error _ => Escapes error ↔ ¬steps Opening.Sound := by
  have dry := processDevicesAgrees operation true definitions host e
  rw [same,same,wpBind]
  simp only [wpBind]
  unfold wp at dry ⊢
  cases ran : processDevices operation true definitions host e with
  | mk result e1 =>
    rw [ran] at dry
    cases result with
    | error error => exact dry.trans (not_congr ⟨fun valid => ⟨valid,trivial⟩,fun both => both.1⟩)
    | ok =>
      dsimp only at dry ⊢
      have calm := calmEnsureLun0 definitions host e1
      unfold wp at calm
      cases ensured : ensureLun0 definitions host e1 with
      | mk result e2 =>
        rw [ensured] at calm
        cases result with
        | error error => exact iff_of_false (not_not_intro calm) (not_not_intro ⟨dry.1,trivial⟩)
        | ok =>
          refine wpMono (processDevicesAgrees operation false definitions host e2) (fun _ _ real => ?_) fun error _ real =>
            real.trans (not_congr ⟨fun valid => ⟨dry.1,valid⟩,fun both => both.2⟩)
          exact ⟨⟨dry.1,real.1⟩,dry.2,real.2⟩

theorem processCmdAgrees (command : PbCommand) (host : Host) (e : CommandExecutor) : wp (processCmd command) host e
    (fun _ _ => CommandSteps Opening.Sound host command e ∧ CommandSteps Unraised host command e)
    fun error _ => Escapes error ↔ ¬CommandSteps Opening.Sound host command e := by
  have calm {x : Exec Unit} (calm : Calm x) : wp x host e (fun _ _ => True ∧ True) fun error _ => Escapes error ↔ ¬True :=
    wpMono (calm host e) (fun _ _ _ => ⟨trivial,trivial⟩) fun error _ none => iff_of_false (not_not_intro none) (not_not_intro trivial)
  unfold processCmd CommandSteps validate
  cases command.operation with
  | detachAll => exact calm calmDetachAll
  | reserveIds => exact calm (calmReserveIds _)
  | checkAuthentication => exact calm (calmPure _)
  | noOperation => exact calm (calmPure _)
  | _ => exact deviceCommandAgrees _ command.devices host e fun G => Iff.rfl

/- The server answers, and does not report success when the opening of a medium has raised an exception. -/
def Reported (caller : Caller) (host : Host) (command : PbCommand) (e : CommandExecutor) : Prop :=
  ∃ status, caller.status (processCmd command host e).1 = some status ∧ (¬CommandSteps Unraised host command e → status = false)

theorem statusAnswered (caller : Caller) {error : CommandError} (answered : exceptionOf error = none) :
    caller.status (.error error) = some false := by
  unfold Caller.status
  dsimp only
  rw [answered]

/- Neither caller catches one of these exceptions. -/
theorem statusTerminated (caller : Caller) {error : CommandError} (escapes : Escapes error) : caller.status (.error error) = none := by
  unfold Escapes at escapes
  cases error with
  | parserException text => cases caller <;> rfl
  | filesystemError text => cases caller <;> rfl
  | _ => exact absurd rfl escapes

end EscapingExceptions

open EscapingExceptions in
/- Each caller gets an answer exactly if no medium that a step opens has a name that cannot be looked up, or is a tape
whose maximum file size is not a number. -/
theorem exceptionsReported (command : PbCommand) (host : Host) (e : CommandExecutor) (caller : Caller) :
    Reported caller host command e ↔ CommandSteps Opening.Sound host command e := by
  have ends := processCmdAgrees command host e
  unfold wp at ends
  unfold Reported
  cases ran : processCmd command host e with
  | mk result t =>
    rw [ran] at ends
    cases result with
    | ok => exact iff_of_true ⟨true,rfl,fun raised => absurd ends.2 raised⟩ ends.1
    | error error =>
      dsimp only at ends ⊢
      by_cases escapes : Escapes error
      · refine iff_of_false ?_ (ends.mp escapes)
        rintro ⟨status,answered,_⟩
        rw [statusTerminated caller escapes] at answered
        cases answered
      · have answered : exceptionOf error = none := not_not.mp escapes
        exact iff_of_true ⟨false,statusAnswered caller answered,fun _ => rfl⟩ (not_not.mp fun unsound => escapes (ends.mpr unsound))

namespace EscapingExceptions

/- A tape drive whose maximum file size has a unit. -/
def appendMegabytes : PbCommand :=
  { operation := .attach, devices := [{ type := .sctp, params := [("file","image"),("append","1M")] }] }

theorem appendTerminates : ¬∀ command host e caller, Reported caller host command e := by
  intro all
  obtain ⟨status,answered,_⟩ := all appendMegabytes {} { world := imageWorld [] } .s2pThread
  have terminated : Caller.s2pThread.status (processCmd appendMegabytes {} { world := imageWorld [] }).1 = none := by
    decide +kernel
  rw [terminated] at answered
  cases answered

end EscapingExceptions
end Scsi2Pi
