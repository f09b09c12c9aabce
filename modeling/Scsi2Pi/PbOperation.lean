/-! The operations of the remote interface. -/
namespace Scsi2Pi

inductive PbOperation where
  | noOperation | attach | detach | detachAll | start | stop | insert | eject | protect | unprotect
  | serverInfo | versionInfo | devicesInfo | deviceTypesInfo | defaultImageFilesInfo | imageFileInfo
  | logLevelInfo | networkInterfacesInfo | mappingInfo | reservedIdsInfo | defaultFolder | logLevel
  | reserveIds | shutDown | createImage | deleteImage | renameImage | copyImage | protectImage
  | unprotectImage | checkAuthentication | operationInfo | statisticsInfo | propertiesInfo
  | persistConfiguration
  | unrecognized (value : Int)
  deriving DecidableEq, Repr

namespace PbOperation

def name : PbOperation → String
  | noOperation => "NO_OPERATION"
  | attach => "ATTACH"
  | detach => "DETACH"
  | detachAll => "DETACH_ALL"
  | start => "START"
  | stop => "STOP"
  | insert => "INSERT"
  | eject => "EJECT"
  | protect => "PROTECT"
  | unprotect => "UNPROTECT"
  | serverInfo => "SERVER_INFO"
  | versionInfo => "VERSION_INFO"
  | devicesInfo => "DEVICES_INFO"
  | deviceTypesInfo => "DEVICE_TYPES_INFO"
  | defaultImageFilesInfo => "DEFAULT_IMAGE_FILES_INFO"
  | imageFileInfo => "IMAGE_FILE_INFO"
  | logLevelInfo => "LOG_LEVEL_INFO"
  | networkInterfacesInfo => "NETWORK_INTERFACES_INFO"
  | mappingInfo => "MAPPING_INFO"
  | reservedIdsInfo => "RESERVED_IDS_INFO"
  | defaultFolder => "DEFAULT_FOLDER"
  | logLevel => "LOG_LEVEL"
  | reserveIds => "RESERVE_IDS"
  | shutDown => "SHUT_DOWN"
  | createImage => "CREATE_IMAGE"
  | deleteImage => "DELETE_IMAGE"
  | renameImage => "RENAME_IMAGE"
  | copyImage => "COPY_IMAGE"
  | protectImage => "PROTECT_IMAGE"
  | unprotectImage => "UNPROTECT_IMAGE"
  | checkAuthentication => "CHECK_AUTHENTICATION"
  | operationInfo => "OPERATION_INFO"
  | statisticsInfo => "STATISTICS_INFO"
  | propertiesInfo => "PROPERTIES_INFO"
  | persistConfiguration => "PERSIST_CONFIGURATION"
  | unrecognized _ => ""

/- The number of an operation in the interface. -/
def ordinal : PbOperation → Int
  | noOperation => 0
  | attach => 1
  | detach => 2
  | detachAll => 3
  | start => 4
  | stop => 5
  | insert => 6
  | eject => 7
  | protect => 8
  | unprotect => 9
  | serverInfo => 10
  | versionInfo => 11
  | devicesInfo => 12
  | deviceTypesInfo => 13
  | defaultImageFilesInfo => 14
  | imageFileInfo => 15
  | logLevelInfo => 16
  | networkInterfacesInfo => 17
  | mappingInfo => 18
  | reservedIdsInfo => 19
  | defaultFolder => 20
  | logLevel => 21
  | reserveIds => 22
  | shutDown => 23
  | createImage => 24
  | deleteImage => 25
  | renameImage => 26
  | copyImage => 27
  | protectImage => 28
  | unprotectImage => 29
  | checkAuthentication => 30
  | operationInfo => 31
  | statisticsInfo => 32
  | propertiesInfo => 100
  | persistConfiguration => 101
  | unrecognized value => value

end PbOperation

end Scsi2Pi
