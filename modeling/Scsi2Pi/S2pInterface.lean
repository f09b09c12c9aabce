import Scsi2Pi.Cache
import Scsi2Pi.PrimaryDevice

/-! The messages of the remote interface that change devices: device definitions,
commands and the errors that are reported. -/
namespace Scsi2Pi

structure PbDeviceDefinition where
  id : Int := 0
  unit : Int := 0
  type : PbDeviceType := .undefined
  params : List (String × String) := []
  blockSize : Int := 0
  vendor : String := ""
  product : String := ""
  revision : String := ""
  isProtected : Bool := false
  scsiLevel : Int := 0
  cachingMode : CachingMode := .default
  deriving DecidableEq, Repr

structure PbCommand where
  operation : PbOperation := .noOperation
  devices : List PbDeviceDefinition := []
  params : List (String × String) := []
  deriving DecidableEq, Repr

def getParam (params : List (String × String)) (key : String) : String := (params.lookup key).getD ""

inductive LocalizationKey where
  | errorOperation | errorDeviceMissingFilename | errorImageInUse | errorReservedId | errorNonExistingDevice
  | errorNonExistingUnit | errorUnknownDeviceType | errorMissingDeviceType | errorDuplicateId | errorDetach
  | errorEjectRequired | errorDeviceNameUpdate | errorFileOpen | errorScsiLevel | errorBlockSize
  | errorBlockSizeNotConfigurable | errorController | errorInvalidId | errorInvalidLun | errorMissingLun0
  | errorLun0 | errorInitialization | errorOperationDeniedStoppable | errorOperationDeniedRemovable
  | errorOperationDeniedProtectable | errorOperationDeniedReady | errorUniqueDeviceType | errorMissingDeviceId
  deriving DecidableEq, Repr

/- How a command fails: with a localized message, with a plain one, without any,
or with an exception that the executor does not handle. -/
inductive CommandError where
  | localized (key : LocalizationKey) (arguments : List String)
  | message (text : String)
  | rejected
  | parserException (text : String)
  | filesystemError (text : String)
  deriving DecidableEq, Repr

namespace PbDeviceType

def name : PbDeviceType → String
  | undefined => "UNDEFINED"
  | sahd => "SAHD"
  | schd => "SCHD"
  | scrm => "SCRM"
  | scmo => "SCMO"
  | sccd => "SCCD"
  | scbr => "SCBR"
  | scdp => "SCDP"
  | schs => "SCHS"
  | sclp => "SCLP"
  | sctp => "SCTP"
  | scsg => "SCSG"
  | unrecognized _ => ""

def lunMax (type : PbDeviceType) : Int := if type = .sahd then 2 else 32

end PbDeviceType
end Scsi2Pi
