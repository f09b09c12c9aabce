import Mathlib.Data.List.AList
import Scsi2Pi.DeviceFactory
import Scsi2Pi.Effect
import Scsi2Pi.PropertyHandler

/-! The remote commands that change the attached devices. A command is validated
for all of its device definitions in a dry run before it is executed. -/
namespace Scsi2Pi
open S2pUtil

/- The devices of a controller by LUN. -/
abbrev Luns := AList fun _ : Int => AnyDevice

/- The controllers by target ID, the reserved IDs, the files and the properties. -/
structure CommandExecutor where
  controllers : AList fun _ : Int => Luns := ∅
  reservedIds : List Int := []
  world : World := {}
  properties : PropertyHandler := {}

abbrev Exec (α : Type) := Eff Host CommandExecutor CommandError α

namespace CommandExecutor

/-! The controller factory. -/

def hasController (e : CommandExecutor) (id : Int) : Bool := (e.controllers.lookup id).isSome

def getDeviceForIdAndLun (e : CommandExecutor) (id lun : Int) : Option AnyDevice :=
  (e.controllers.lookup id).bind fun (luns : Luns) => (luns.lookup lun : Option AnyDevice)

def getAllDevices (e : CommandExecutor) : List (Int × AnyDevice) :=
  e.controllers.entries.flatMap fun c => c.2.entries.map fun d => (c.1,d.2)

def addDevice (luns : Luns) (d : AnyDevice) : Option Luns :=
  let lun : Int := d.primary.lun
  if (if d.primary.type = .sahd then 2 else 32) ≤ lun ∨ (luns.lookup lun).isSome then none
  else some (luns.insert lun d)

/- A new controller needs LUN 0. -/
def attachToController (id : Int) (d : AnyDevice) (e : CommandExecutor) : Option CommandExecutor :=
  match e.controllers.lookup id with
  | some luns => (addDevice luns d).map fun luns => { e with controllers := e.controllers.insert id luns }
  | none =>
    if d.primary.lun ≠ 0 then none
    else (addDevice ∅ d).map fun luns => { e with controllers := e.controllers.insert id luns }

/- A device that has changed. -/
def putDevice (id lun : Int) (d : AnyDevice) (e : CommandExecutor) : CommandExecutor :=
  match e.controllers.lookup id with
  | some luns => { e with controllers := e.controllers.insert id (luns.insert lun d) }
  | none => e

/-! Running device functions. -/

/- A call from outside of any SCSI command. -/
def call {α : Type} (h : Handler AnyDevice α) (id : Int) (d : AnyDevice) : Exec (α × AnyDevice) := do
  let (result,s) := h { cdb := [], targetId := id } ⟨d,{},(← get).world⟩
  modify fun e => { e with world := s.world }
  match result with
  | .ok a => return (a,s.device)
  | .error _ => throw .rejected

def fail {α : Type} (key : LocalizationKey) (arguments : List String) : Exec α := throw (.localized key arguments)

def getTypeString (d : AnyDevice) : String := d.primary.type.name

def getIdentifier (id : Int) (d : AnyDevice) : String := s!"{getTypeString d} {id}:{d.primary.lun}"

/-! The properties of attached devices. -/

/- The file name relative to the default folder. -/
def relativeFilename (host : Host) (filename : String) : String :=
  if PropertyMap.startsWith filename host.defaultFolder then
    String.ofList (filename.toList.drop (host.defaultFolder.length + 1))
  else filename

/- The third component is empty for a device without parameters. -/
def paramsProperty (host : Host) (d : AnyDevice) : Option String :=
  match d.storage with
  | some s =>
    if s.filename.isEmpty then joined s.params else some (relativeFilename host s.filename)
  | none => joined d.primary.params
where
  joined (params : List (String × String)) : Option String :=
    if params.isEmpty then none else some (join ":" (params.map fun (key,value) => key ++ "=" ++ value))

/- Vendor and product are bound in reverse order when the name is put together. -/
def deviceProperties (host : Host) (id : Int) (d : AnyDevice) : List (String × String) :=
  let identifier := s!"device.{id}:{d.primary.lun}."
  let p := d.primary.productData
  let blockSize := match d.storage with
    | some s => if s.configuredBlockSize = 0 then [] else [(identifier ++ "block_size",toString s.configuredBlockSize)]
    | none => []
  [(identifier ++ "type",getTypeString d),(identifier ++ "name",p.product ++ ":" ++ p.vendor ++ ":" ++ p.revision)] ++
    blockSize ++ ((paramsProperty host d).map fun params => (identifier ++ "params",params)).toList

def setUpDeviceProperties (id : Int) (d : AnyDevice) : Exec Unit := do
  let host ← read
  modify fun e => { e with
    properties := (deviceProperties host id d).foldl (fun p (key,value) => p.addProperty key value) e.properties }

def removeProperties (filter : String) : Exec Unit :=
  modify fun e => { e with properties := e.properties.removeProperties filter }

/-! Validation. -/

def validateDevice (operation : PbOperation) (definition : PbDeviceDefinition) : Exec Unit := do
  let id := definition.id
  if id < 0 then fail .errorMissingDeviceId []
  if 8 ≤ id then fail .errorInvalidId [toString id]
  let lun := definition.unit
  let lunMax := definition.type.lunMax
  if lun < 0 ∨ lunMax ≤ lun then fail .errorInvalidLun [toString lun,toString (lunMax-1)]
  if operation = .attach then return
  let e ← get
  if !e.hasController id then fail .errorNonExistingDevice [toString id]
  if (e.getDeviceForIdAndLun id lun).isNone then fail .errorNonExistingUnit [toString id,toString lun]

def validateOperation (operation : PbOperation) (d : AnyDevice) : Exec Unit := do
  let arguments := [operation.name,getTypeString d]
  let p := d.primary
  if (operation = .start ∨ operation = .stop) ∧ !p.stoppable then fail .errorOperationDeniedStoppable arguments
  if (operation = .insert ∨ operation = .eject) ∧ !p.removable then fail .errorOperationDeniedRemovable arguments
  if operation = .protect ∨ operation = .unprotect then
    if !p.protectable then fail .errorOperationDeniedProtectable arguments
    if !p.ready then fail .errorOperationDeniedReady arguments

def checkForReservedFile (filename : String) : Exec Unit := do
  match (← get).world.reservedFiles filename with
  | some (id,lun) => fail .errorImageInUse [filename,s!"{id}:{lun}"]
  | none => return

/- The file system may not be able to tell, e.g. for a name that is too long. -/
def fileExists (filename : String) : Exec Bool := do
  match (← read).existsError filename with
  | some error => throw (.filesystemError error)
  | none => return ((← get).world.files filename).isSome

/- A file that does not exist is searched for in the default folder. -/
def effectiveFilename (filename : String) : Exec String := do
  checkForReservedFile filename
  if ← fileExists filename then return filename
  let effective := (← read).defaultFolder ++ "/" ++ filename
  checkForReservedFile effective
  return effective

def openError (filename : String) : AnyDevice.OpenResult → Option CommandError
  | .opened => none
  | .ioError => some (.localized .errorFileOpen [filename])
  | .parserError message => some (.parserException message)

/- The device keeps the name of a file that cannot be opened. -/
def openImageFile (id : Int) (d : AnyDevice) (filename : String) : Exec (Option CommandError × AnyDevice) := do
  let readOnlyFile := (← read).readOnlyFile filename
  let (result,d) ← call (AnyDevice.openFile readOnlyFile) id (d.mapStorage fun s => { s with filename })
  return (openError filename result,d)

def setBlockSize (d : AnyDevice) (blockSize : Int) : Exec AnyDevice := do
  if blockSize = 0 then return d
  if !d.supportsImageFile then fail .errorBlockSizeNotConfigurable [getTypeString d]
  match d.setConfiguredBlockSize (uint32 blockSize) with
  | some d => return d
  | none => fail .errorBlockSize [toString blockSize]

/-! ATTACH. -/

def uniqueDeviceTypes : List PbDeviceType := [.scdp,.schs]

def createDevice (definition : PbDeviceDefinition) (filename : String) : Exec AnyDevice := do
  match DeviceFactory.createDevice (← read) definition.type definition.unit.toNat filename with
  | none =>
    let arguments := [toString definition.id,toString definition.unit]
    if definition.type = .undefined then fail .errorMissingDeviceType (arguments ++ [filename])
    else fail .errorUnknownDeviceType (arguments ++ [definition.type.name])
  | some d =>
    let type := d.primary.type
    if type ∈ uniqueDeviceTypes ∧ type ∈ (← get).getAllDevices.map (·.2.primary.type) then
      fail .errorUniqueDeviceType [getTypeString d]
    return d

def setScsiLevel (d : AnyDevice) (level : Int) : Exec AnyDevice := do
  if level = 0 then return d
  match d.setScsiLevel level with
  | some d => return d
  | none => fail .errorScsiLevel [toString level]

def setProductData (d : AnyDevice) (definition : PbDeviceDefinition) : Exec AnyDevice := do
  match d.setProductData definition.vendor definition.product definition.revision with
  | .ok d => return d
  | .error error => throw (.message error)

/- The parameter with the file name is for devices with image files only. -/
def configure (d : AnyDevice) (definition : PbDeviceDefinition) : Exec AnyDevice := do
  let params := if d.supportsImageFile then definition.params else definition.params.filter (·.1 ≠ "file")
  let d := d.setParams (← read) params
  let d ← setScsiLevel d definition.scsiLevel
  let d ← setProductData d definition
  setBlockSize d definition.blockSize

def effectiveCachingMode (mode : CachingMode) : CachingMode := if mode = .default then .piscsi else mode

/- Only removable media may be inserted later. -/
def prepareMedium (definition : PbDeviceDefinition) (filename : String) (d : AnyDevice) : Exec AnyDevice := do
  let d := d.setPrimary { d.primary with removed := filename.isEmpty }
  let d := d.setCachingMode (effectiveCachingMode definition.cachingMode)
  if !d.primary.removable ∧ filename.isEmpty then
    fail .errorDeviceMissingFilename [s!"{getTypeString d} {definition.id}:{definition.unit}"]
  if filename.isEmpty then return d
  let (error,d) ← openImageFile (-1) d (← effectiveFilename filename)
  match error with
  | some error => throw error
  | none => return d

def protectDevice (d : AnyDevice) (isProtected : Bool) : AnyDevice :=
  if d.primary.protectable && !d.primary.readOnly then d.setPrimary (d.primary.setProtected isProtected) else d

def reserveFile (id : Int) (d : AnyDevice) : Exec Bool := do
  match d.storage with
  | none => return false
  | some s =>
    let (reserved,world) := s.reserveFile id (← get).world
    modify fun e => { e with world }
    return reserved

def registerDevice (id : Int) (d : AnyDevice) : Exec Unit := do
  match attachToController id d (← get) with
  | none => fail .errorController []
  | some e => set e
  if !d.primary.removed ∧ d.supportsImageFile then let _ ← reserveFile id d
  setUpDeviceProperties id d

def validateAttachment (definition : PbDeviceDefinition) : Exec Unit := do
  let id := definition.id
  let lun := definition.unit
  let lunMax := definition.type.lunMax
  if lunMax ≤ lun then fail .errorInvalidLun [toString lun,toString (lunMax-1)]
  if ((← get).getDeviceForIdAndLun id lun).isSome then fail .errorDuplicateId [toString id,toString lun]
  if id ∈ (← get).reservedIds then fail .errorReservedId [toString id]

/- The device before it is attached. -/
def prepareDevice (definition : PbDeviceDefinition) : Exec AnyDevice := do
  let filename := getParam definition.params "file"
  let d ← createDevice definition filename
  let d ← configure d definition
  let d ← if d.supportsImageFile then prepareMedium definition filename d else pure d
  return protectDevice d definition.isProtected

def attach (definition : PbDeviceDefinition) (dryRun : Bool) : Exec Unit := do
  validateAttachment definition
  let d ← prepareDevice definition
  if dryRun then return
  match d.init (← read) with
  | .error _ => fail .errorInitialization [s!"{getTypeString d} {definition.id}:{definition.unit}"]
  | .ok d => registerDevice definition.id d

/-! INSERT and EJECT. -/

def insertMedium (definition : PbDeviceDefinition) (filename : String) (d : AnyDevice) : Exec Unit := do
  let id := definition.id
  let put := fun d => modify (putDevice id definition.unit d)
  let d ← setBlockSize d definition.blockSize
  put d
  let effective ← effectiveFilename filename
  let (error,d) ← openImageFile id d effective
  put d
  if let some error := error then throw error
  if !(← reserveFile id d) then throw .rejected
  let d := d.mapStorage fun s => { s with
    toPrimaryDevice := s.toPrimaryDevice.setProtected definition.isProtected
    mediumChanged := true }
  put d
  setUpDeviceProperties id d

def insert (definition : PbDeviceDefinition) (d : AnyDevice) (dryRun : Bool) : Exec Unit := do
  match d.storage with
  | none => throw .rejected
  | some s =>
    if !s.removed then fail .errorEjectRequired []
    if definition.vendor ≠ "" ∨ definition.product ≠ "" ∨ definition.revision ≠ "" then fail .errorDeviceNameUpdate []
    let param := getParam definition.params "file"
    let filename := if param.isEmpty then s.lastFilename else param
    if filename.isEmpty then fail .errorDeviceMissingFilename [getIdentifier definition.id d]
    if dryRun then return
    insertMedium definition filename d

def eject (id lun : Int) (d : AnyDevice) : Exec Unit := do
  let (ejected,d) ← call (AnyDevice.eject true) id d
  modify (putDevice id lun d)
  if ejected then
    removeProperties s!"device.{id}:{d.primary.lun}.params"
    if d.primary.lun = 0 then removeProperties s!"device.{id}.params"

/-! DETACH. -/

/- The controller is deleted with its last device. -/
def removeDevice (id : Int) (luns : Luns) (d : AnyDevice) : Exec Unit := do
  let _ ← call AnyDevice.cleanUp id d
  let rest : Luns := luns.erase (d.primary.lun : Int)
  if rest.entries.isEmpty then modify fun e => { e with controllers := e.controllers.erase id }
  else modify fun e => { e with controllers := e.controllers.insert id rest }

def detach (id : Int) (d : AnyDevice) (dryRun : Bool) : Exec Unit := do
  match (← get).controllers.lookup id with
  | none => fail .errorDetach []
  | some luns =>
    if d.primary.lun = 0 ∧ 1 < luns.entries.length then fail .errorLun0 []
    if dryRun then return
    removeDevice id luns d
    removeProperties s!"device.{id}:{d.primary.lun}."
    if d.primary.lun = 0 then removeProperties s!"device.{id}."

def cleanUpAll : List (Int × AnyDevice) → Exec Unit
  | [] => pure ()
  | (id,d)::rest => do
    let _ ← call AnyDevice.cleanUp id d
    cleanUpAll rest

def detachAll : Exec Unit := do
  let e ← get
  if e.controllers.entries.isEmpty then return
  cleanUpAll e.getAllDevices
  modify fun e => { e with controllers := ∅ }
  removeProperties "device."

/-! Reserved IDs. -/

def parseReservedIds (e : CommandExecutor) : List String → Except String (List Int)
  | [] => .ok []
  | text::rest => do
    let id := parseAsUnsignedInt text
    if id = -1 ∨ 7 < id then throw ("Invalid ID " ++ text)
    if e.hasController id then throw ("ID " ++ text ++ " is currently in use")
    return id :: (← parseReservedIds e rest)

def setReservedIds (ids : String) : Exec Unit := do
  match parseReservedIds (← get) (split ids ',') with
  | .error error => throw (.message error)
  | .ok reserved => modify fun e => { e with reservedIds := reserved.dedup }

def reserveIds (ids : String) : Exec Unit := do
  setReservedIds ids
  modify fun e => { e with
    properties := e.properties.addProperty "reserved_ids" (join "," (e.reservedIds.map toString)) }

/-! Commands. -/

def changePrimary (id lun : Int) (d : AnyDevice) (f : PrimaryDevice → PrimaryDevice) : Exec Unit :=
  modify (putDevice id lun (d.setPrimary (f d.primary)))

def start (d : PrimaryDevice) : PrimaryDevice := d.start.2

def stop (d : PrimaryDevice) : PrimaryDevice := d.stop.setStatus .noSense .noAdditionalSenseInformation

/- The operations on an attached device. -/
def operate (operation : PbOperation) (definition : PbDeviceDefinition) (d : AnyDevice) (dryRun : Bool) :
    Exec Unit := do
  let id := definition.id
  let lun := definition.unit
  match operation with
  | .detach => detach id d dryRun
  | .start => if dryRun then return else changePrimary id lun d start
  | .stop => if dryRun then return else changePrimary id lun d stop
  | .insert => insert definition d dryRun
  | .eject => if dryRun then return else eject id lun d
  | .protect => if dryRun then return else changePrimary id lun d (·.setProtected true)
  | .unprotect => if dryRun then return else changePrimary id lun d (·.setProtected false)
  | other => fail .errorOperation [toString other.ordinal]

def processDeviceCmd (operation : PbOperation) (definition : PbDeviceDefinition) (dryRun : Bool) : Exec Unit := do
  validateDevice operation definition
  let device := (← get).getDeviceForIdAndLun definition.id definition.unit
  if let some d := device then validateOperation operation d
  if operation = .attach then attach definition dryRun
  else match device with
    | none => throw .rejected
    | some d => operate operation definition d dryRun

/- The first ID that neither the new nor the existing devices give a LUN 0. -/
def missingLun0 (e : CommandExecutor) (definitions : List PbDeviceDefinition) : Option Int :=
  let units := definitions.map (fun d => (d.id,d.unit)) ++ e.getAllDevices.map fun (id,d) => (id,(d.primary.lun : Int))
  (units.map (·.1)).find? fun id => (id,0) ∉ units

def ensureLun0 (definitions : List PbDeviceDefinition) : Exec Unit := do
  match missingLun0 (← get) definitions with
  | some id => fail .errorMissingLun0 [toString id]
  | none => return

def processDevices (operation : PbOperation) (dryRun : Bool) : List PbDeviceDefinition → Exec Unit
  | [] => pure ()
  | definition::rest => do
    processDeviceCmd operation definition dryRun
    processDevices operation dryRun rest

/- The reserved files are restored from a reference to themselves after the dry run. -/
def processCmd (command : PbCommand) : Exec Unit := do
  match command.operation with
  | .detachAll => detachAll
  | .reserveIds => reserveIds (getParam command.params "ids")
  | .checkAuthentication | .noOperation => return
  | operation =>
    processDevices operation true command.devices
    ensureLun0 command.devices
    processDevices operation false command.devices

end CommandExecutor
end Scsi2Pi
