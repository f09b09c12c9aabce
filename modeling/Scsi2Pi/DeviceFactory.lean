import Scsi2Pi.AnyDevice
import Scsi2Pi.S2pInterface

/-! The construction of devices, by their type or by the name of a file. -/
namespace Scsi2Pi
open S2pUtil

/- What the SG driver tells about a device file. -/
structure SgDevice where
  productData : ProductData
  level : ScsiLevel
  blockSize : Nat

/- What a process sees of the computer it runs on. -/
structure Host where
  defaultFolder : String := "/home/pi/images"
  readOnlyFile : String → Bool := fun _ => false
  existsError : String → Option String := fun _ => none
  networkInterfaces : List String := []
  extensionMapping : List (String × PbDeviceType) := []
  tapError : List (String × String) → Option String := fun _ => none
  sgDevice : String → Except String SgDevice := fun _ => .error "Can't open device"

namespace DeviceFactory

def mapping : List (String × PbDeviceType) := [
  ("hd1",.schd),
  ("hds",.schd),
  ("hda",.schd),
  ("hdr",.scrm),
  ("mos",.scmo),
  ("is1",.sccd),
  ("iso",.sccd),
  ("cdr",.sccd),
  ("toast",.sccd),
  ("tar",.sctp),
  ("tap",.sctp)]

def deviceMapping : List (String × PbDeviceType) := [
  ("daynaport",.scdp),
  ("printer",.sclp),
  ("services",.schs)]

def getTypeForFile (host : Host) (filename : String) : PbDeviceType :=
  match (mapping ++ host.extensionMapping).lookup (getExtensionLowerCase filename) with
  | some type => type
  | none => match deviceMapping.lookup filename with
    | some type => type
    | none => if "/dev/sg".toList.isPrefixOf filename.toList then .scsg else .undefined

/-! The constructors of the classes. -/

def disk (d : PrimaryDevice) (sizes : List Nat) : Disk :=
  { toPrimaryDevice := { d with stoppable := true }, supportedBlockSizes := sizes, cachingMode := .default }

def scsiHd (lun : Nat) (removable apple scsi1 : Bool) : Disk :=
  let productData : ProductData :=
    if apple then { vendor := "QUANTUM", product := "FIREBALL" }
    else if removable then { product := "SCSI HD (REM.)" }
    else {}
  disk { type := if removable then .scrm else .schd, lun, productData, removable,
         level := if scsi1 then .scsi1Ccs else .scsi2, protectable := true } [512,1024,2048,4096]

def sasiHd (lun : Nat) : Disk :=
  disk { type := .sahd, lun, productData := { product := "SASI HD" }, protectable := true } [256,512,1024]

def scsiCd (lun : Nat) (scsi1 : Bool) : ScsiCd :=
  { toDisk := disk { type := .sccd, lun, productData := { product := "SCSI CD-ROM" }, readOnly := true,
                     level := if scsi1 then .scsi1Ccs else .scsi2, removable := true } [512,2048] }

def opticalMemory (lun : Nat) : Disk :=
  disk { type := .scmo, lun, productData := { product := "SCSI MO" }, level := .scsi2, protectable := true,
         removable := true } [512,1024,2048,4096]

def tape (lun : Nat) : Tape :=
  { type := .sctp, lun, productData := { product := "SCSI TAPE" }, level := .scsi2, protectable := true,
    removable := true, supportedBlockSizes := [512,1024,2048,4096,8192] }

def printer (lun : Nat) : Printer :=
  { type := .sclp, lun, productData := { product := "SCSI PRINTER" }, level := .scsi2, ready := true }

def daynaPort (lun : Nat) : DaynaPort :=
  { type := .scdp, lun, productData := ⟨"Dayna","SCSI/Link","1.4a"⟩, level := .scsi2, ready := true }

def hostServices (lun : Nat) : HostServices :=
  { type := .schs, lun, productData := { product := "Host Services" }, level := .spc3, ready := true }

def scsiGeneric (lun : Nat) (device : String) : ScsiGeneric := { type := .scsg, lun, ready := true, device }

def effectiveType (host : Host) (type : PbDeviceType) (filename : String) : PbDeviceType :=
  if type = .undefined then getTypeForFile host filename else type

def createDevice (host : Host) (type : PbDeviceType) (lun : Nat) (filename : String) : Option AnyDevice :=
  let ext := getExtensionLowerCase filename
  match effectiveType host type filename with
  | .schd => some (.scsiHd (scsiHd lun false (ext = "hda") (ext = "hd1")))
  | .scrm => some (.scsiHd (scsiHd lun true false false))
  | .scmo => some (.opticalMemory (opticalMemory lun))
  | .sccd => some (.scsiCd (scsiCd lun (ext = "is1")))
  | .sctp => some (.tape (tape lun))
  | .scdp => some (.daynaPort (daynaPort lun))
  | .schs => some (.hostServices (hostServices lun))
  | .sclp => some (.printer (printer lun))
  | .scsg => some (.scsiGeneric (scsiGeneric lun filename))
  | .sahd => some (.sasiHd (sasiHd lun))
  | .undefined | .scbr | .unrecognized _ => none

end DeviceFactory

namespace AnyDevice

def getDefaultParams (host : Host) : AnyDevice → List (String × String)
  | .printer _ => [("cmd","lp -oraw %f")]
  | .daynaPort _ => [("bridge","true"),("inet","10.10.20.1/24"),("interface",join "," host.networkInterfaces)]
  | .tape _ => [("append","0")]
  | _ => []

def setParams (any : AnyDevice) (host : Host) (params : List (String × String)) : AnyDevice :=
  any.setPrimary (any.primary.setParams (any.getDefaultParams host) any.supportsImageFile params)

/- Is the text a part of the other one? -/
def contains (text part : String) : Bool := text.toList.tails.any part.toList.isPrefixOf

/- Init: the error of SetUp, or the device with the data it has found. -/
def init (any : AnyDevice) (host : Host) : Except String AnyDevice :=
  match any with
  | .printer d =>
    if contains (getParam d.params "cmd") "%f" then .ok any else .error "Missing filename specifier '%f'"
  | .daynaPort d => match host.tapError d.params with
    | none => .ok any
    | some error => .error error
  | .scsiGeneric d => (host.sgDevice d.device).map fun sg =>
      .scsiGeneric { d with productData := sg.productData, level := sg.level, blockSize := sg.blockSize }
  | _ => .ok any

end AnyDevice
end Scsi2Pi
