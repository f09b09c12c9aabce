import Scsi2Pi.CommandExecutor

/-! The start of s2p. The properties of the configuration become the definitions of devices,
which are attached with a single command. -/
namespace Scsi2Pi
open S2pUtil

namespace ProtobufUtil

def deviceTypeNames : List PbDeviceType :=
  [.undefined,.sahd,.schd,.scrm,.scmo,.sccd,.scbr,.scdp,.schs,.sclp,.sctp,.scsg]

/- Convenience device types. -/
def deviceTypes : List (Char × PbDeviceType) :=
  [('c',.sccd),('d',.scdp),('h',.schd),('l',.sclp),('m',.scmo),('r',.scrm),('s',.schs),('t',.sctp)]

def parseDeviceType (value : String) : PbDeviceType :=
  match deviceTypeNames.find? fun type => type.name = String.ofList (toUpper value.toList) with
  | some type => type
  | none => (value.toList.head?.bind fun c => deviceTypes.lookup c.toLower).getD .undefined

def cachingModeNames : List (String × CachingMode) :=
  [("DEFAULT",.default),("PISCSI",.piscsi),("WRITE_THROUGH",.writeThrough),("LINUX",.linux),("LINUX_OPTIMIZED",.linuxOptimized)]

def parseCachingMode (value : String) : Except String CachingMode :=
  let v := value.toList.map fun c => if c = '-' then '_' else c
  match cachingModeNames.lookup (String.ofList (toUpper v)) with
  | some mode => .ok mode
  | none => .error s!"Invalid caching mode '{value}'"

def setParam (params : List (String × String)) (key value : String) : List (String × String) :=
  if key.isEmpty || value.isEmpty then params else PrimaryDevice.setEntry key value params

/- What is no pair is ignored, unless there is no pair at all. -/
def parseParameters (device : PbDeviceDefinition) (params : String) : PbDeviceDefinition :=
  if params.isEmpty then device
  else if !params.toList.contains keyValueSeparator then { device with params := setParam device.params "file" params }
  else { device with params := (split params componentSeparator).foldl setPair device.params }
where
  setPair (map : List (String × String)) (p : String) : List (String × String) :=
    match splitLimit p keyValueSeparator 2 with
    | [key,value] => setParam map key value
    | _ => map

def setProductData (device : PbDeviceDefinition) (data : String) : PbDeviceDefinition :=
  match splitLimit data componentSeparator 3 with
  | [vendor] => { device with vendor }
  | [vendor,product] => { device with vendor, product }
  | [vendor,product,revision] => { device with vendor, product, revision }
  | _ => device

/- Without a LUN it is LUN 0. -/
def setIdAndLun (device : PbDeviceDefinition) (value : String) : Except String PbDeviceDefinition := do
  let (id,lun) ← parseIdAndLun value
  return { device with id, unit := if lun = -1 then 0 else lun }

end ProtobufUtil

namespace S2p
open ProtobufUtil PropertyMap

def checkActive (properties : PropertyMap) (idAndLun : String) : Except String Bool :=
  match properties.lookup ("device." ++ idAndLun ++ ".active") with
  | some active =>
    if active ≠ "true" ∧ active ≠ "false" then .error s!"Invalid boolean: '{active}'" else .ok (active = "true")
  | none => .ok true

def setDeviceProperties (device : PbDeviceDefinition) (key value : String) : Except String PbDeviceDefinition :=
  match key with
  | "active" => .ok device
  | "type" => .ok { device with type := parseDeviceType value }
  | "scsi_level" =>
    let level := parseAsUnsignedInt value
    if level = -1 ∨ level = 0 ∨ ScsiLevel.last ≤ level then .error s!"Invalid SCSI level: '{value}'"
    else .ok { device with scsiLevel := level }
  | "block_size" =>
    let blockSize := parseAsUnsignedInt value
    if blockSize = -1 then .error s!"Invalid block size: '{value}'" else .ok { device with blockSize }
  | "caching_mode" => (parseCachingMode value).map fun cachingMode => { device with cachingMode }
  | "name" => .ok (setProductData device value)
  | "params" => .ok (parseParameters device value)
  | _ => .ok { device with params := setParam device.params key value }

/- The definitions so far, and the ID, the LUN and the state of the current block. -/
structure Creation where
  devices : List PbDeviceDefinition := []
  id : Int := -1
  lun : Int := -1
  isActive : Bool := false

/- The properties of the last definition. -/
def setLast (key value : String) : List PbDeviceDefinition → Except String (List PbDeviceDefinition)
  | [] => .ok []
  | [device] => (setDeviceProperties device key value).map fun device => [device]
  | device::devices => (setLast key value devices).map fun devices => device::devices

def createDevice (properties : PropertyMap) (c : Creation) (entry : String × String) : Except String Creation := do
  let (key,value) := entry
  if !startsWith key "device." then return c
  match splitLimit key '.' 3 with
  | [_,idAndLun,name] =>
    let definition ← setIdAndLun {} idAndLun
    let new : Bool := c.id ≠ definition.id ∨ c.lun ≠ definition.unit
    let isActive ← if new then checkActive properties idAndLun else pure c.isActive
    if !isActive then return { c with isActive }
    let c : Creation := if new then ⟨c.devices ++ [{ id := definition.id, unit := definition.unit }],definition.id,definition.unit,isActive⟩
      else { c with isActive }
    return { c with devices := ← setLast name value c.devices }
  | _ => throw s!"Invalid device definition '{key}'"

/- The command with the definitions, in the order of the properties. -/
def createDevices (p : PropertyHandler) : Except String PbCommand := do
  let properties := p.getProperties ""
  let created ← properties.foldlM (createDevice properties) {}
  return { operation := .attach, devices := created.devices }

def attachInitialDevices (command : PbCommand) (host : Host) (e : CommandExecutor) : Except String CommandExecutor :=
  if command.devices.isEmpty then .ok e
  else match CommandExecutor.processCmd command host e with
    | (.ok _,e) => .ok e
    | (.error _,_) => .error "Can't attach devices"

end S2p
end Scsi2Pi
