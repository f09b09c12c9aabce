/-! The SCSI codes of the emulator. An opcode is any byte, so the command names
are constants; sense keys, ASCs and status codes are enumerations. -/
namespace Scsi2Pi

abbrev ScsiCommand := UInt8

namespace ScsiCommand

abbrev testUnitReady : ScsiCommand := 0x00
abbrev rezero : ScsiCommand := 0x01
abbrev rewind : ScsiCommand := 0x01
abbrev requestSense : ScsiCommand := 0x03
abbrev formatUnit : ScsiCommand := 0x04
abbrev formatMedium : ScsiCommand := 0x04
abbrev readBlockLimits : ScsiCommand := 0x05
abbrev reassignBlocks : ScsiCommand := 0x07
abbrev read6 : ScsiCommand := 0x08
abbrev getMessage6 : ScsiCommand := 0x08
abbrev retrieveStats : ScsiCommand := 0x09
abbrev write6 : ScsiCommand := 0x0a
abbrev sendMessage6 : ScsiCommand := 0x0a
abbrev print : ScsiCommand := 0x0a
abbrev seek6 : ScsiCommand := 0x0b
abbrev setIfaceMode : ScsiCommand := 0x0c
abbrev setMcastAddr : ScsiCommand := 0x0d
abbrev enableInterface : ScsiCommand := 0x0e
abbrev readReverse : ScsiCommand := 0x0f
abbrev synchronizeBuffer : ScsiCommand := 0x10
abbrev writeFilemarks6 : ScsiCommand := 0x10
abbrev space6 : ScsiCommand := 0x11
abbrev inquiry : ScsiCommand := 0x12
abbrev verify6 : ScsiCommand := 0x13
abbrev modeSelect6 : ScsiCommand := 0x15
abbrev reserveReserveElement6 : ScsiCommand := 0x16
abbrev releaseReleaseElement6 : ScsiCommand := 0x17
abbrev erase6 : ScsiCommand := 0x19
abbrev modeSense6 : ScsiCommand := 0x1a
abbrev startStop : ScsiCommand := 0x1b
abbrev stopPrint : ScsiCommand := 0x1b
abbrev sendDiagnostic : ScsiCommand := 0x1d
abbrev preventAllowMediumRemoval : ScsiCommand := 0x1e
abbrev readFormatCapacities : ScsiCommand := 0x23
abbrev readCapacity10 : ScsiCommand := 0x25
abbrev read10 : ScsiCommand := 0x28
abbrev write10 : ScsiCommand := 0x2a
abbrev seek10 : ScsiCommand := 0x2b
abbrev erase10 : ScsiCommand := 0x2c
abbrev locate10 : ScsiCommand := 0x2b
abbrev writeAndVerify10 : ScsiCommand := 0x2e
abbrev verify10 : ScsiCommand := 0x2f
abbrev readPosition : ScsiCommand := 0x34
abbrev synchronizeCache10 : ScsiCommand := 0x35
abbrev readDefectData10 : ScsiCommand := 0x37
abbrev mediumScan : ScsiCommand := 0x38
abbrev writeBuffer : ScsiCommand := 0x3b
abbrev readBuffer10 : ScsiCommand := 0x3c
abbrev readLong10 : ScsiCommand := 0x3e
abbrev writeLong10 : ScsiCommand := 0x3f
abbrev writeSame10 : ScsiCommand := 0x41
abbrev readSubChannel : ScsiCommand := 0x42
abbrev readToc : ScsiCommand := 0x43
abbrev readHeader : ScsiCommand := 0x44
abbrev playAudio10 : ScsiCommand := 0x45
abbrev getConfiguration : ScsiCommand := 0x46
abbrev playAudioMsf : ScsiCommand := 0x47
abbrev playAudioTrackIndex : ScsiCommand := 0x48
abbrev getEventStatusNotification : ScsiCommand := 0x4a
abbrev pauseResume : ScsiCommand := 0x4b
abbrev logSelect : ScsiCommand := 0x4c
abbrev logSense : ScsiCommand := 0x4d
abbrev readDiscInformation : ScsiCommand := 0x51
abbrev readTrackInformation : ScsiCommand := 0x52
abbrev reserveReserveElement10 : ScsiCommand := 0x56
abbrev modeSelect10 : ScsiCommand := 0x55
abbrev releaseReleaseElement10 : ScsiCommand := 0x57
abbrev readMasterCue : ScsiCommand := 0x59
abbrev modeSense10 : ScsiCommand := 0x5a
abbrev closeTrackSession : ScsiCommand := 0x5b
abbrev readBufferCapacity : ScsiCommand := 0x5c
abbrev persistentReserveIn : ScsiCommand := 0x5e
abbrev persistentReserveOut : ScsiCommand := 0x5f
abbrev writeFilemarks16 : ScsiCommand := 0x80
abbrev rebuildReadReverse16 : ScsiCommand := 0x81
abbrev read16 : ScsiCommand := 0x88
abbrev write16 : ScsiCommand := 0x8a
abbrev writeAndVerify16 : ScsiCommand := 0x8e
abbrev verify16 : ScsiCommand := 0x8f
abbrev synchronizeCacheSpace16 : ScsiCommand := 0x91
abbrev locate16 : ScsiCommand := 0x92
abbrev eraseWriteSame16 : ScsiCommand := 0x93
abbrev readBuffer16 : ScsiCommand := 0x9b
abbrev readCapacityReadLong16 : ScsiCommand := 0x9e
abbrev writeLong16 : ScsiCommand := 0x9f
abbrev reportLuns : ScsiCommand := 0xa0
abbrev blank : ScsiCommand := 0xa1
abbrev playAudio12 : ScsiCommand := 0xa5
abbrev read12 : ScsiCommand := 0xa8
abbrev write12 : ScsiCommand := 0xaa
abbrev erase12 : ScsiCommand := 0xac
abbrev readDvdStructure : ScsiCommand := 0xad
abbrev writeAndVerify12 : ScsiCommand := 0xaf
abbrev verify12 : ScsiCommand := 0xaf
abbrev sendVolumeTag : ScsiCommand := 0xb6
abbrev readDefectData12 : ScsiCommand := 0xb7
abbrev readCdMsf : ScsiCommand := 0xb9
abbrev setCdSpeed : ScsiCommand := 0xbb
abbrev playCd : ScsiCommand := 0xbc
abbrev readCd : ScsiCommand := 0xbe
abbrev executeOperation : ScsiCommand := 0xc0
abbrev receiveOperationResults : ScsiCommand := 0xc1

end ScsiCommand

inductive StatusCode where
  | good | checkCondition | conditionMet | busy | intermediate | intermediateConditionMet
  | reservationConflict | commandTerminated | queueFull | acaActive | taskAborted
  deriving DecidableEq, Repr

def StatusCode.code : StatusCode → UInt8
  | good => 0x00
  | checkCondition => 0x02
  | conditionMet => 0x04
  | busy => 0x08
  | intermediate => 0x10
  | intermediateConditionMet => 0x14
  | reservationConflict => 0x18
  | commandTerminated => 0x22
  | queueFull => 0x28
  | acaActive => 0x30
  | taskAborted => 0x40

theorem statusCodeInjective : Function.Injective StatusCode.code := by
  intro a b same
  cases a <;> cases b <;> first | rfl | exact absurd same (by decide)

namespace MessageCode

abbrev commandComplete : UInt8 := 0x00
abbrev abort : UInt8 := 0x06
abbrev messageReject : UInt8 := 0x07
abbrev linkedCommandComplete : UInt8 := 0x0a
abbrev linkedCommandCompleteWithFlag : UInt8 := 0x0b
abbrev busDeviceReset : UInt8 := 0x0c
abbrev identify : UInt8 := 0x80

end MessageCode

inductive SenseKey where
  | noSense | recoveredError | notReady | mediumError | hardwareError | illegalRequest
  | unitAttention | dataProtect | blankCheck | vendorSpecific | copyAborted | abortedCommand
  | equal | volumeOverflow | miscompare | reserved
  deriving DecidableEq, Repr

def SenseKey.code : SenseKey → UInt8
  | noSense => 0x00
  | recoveredError => 0x01
  | notReady => 0x02
  | mediumError => 0x03
  | hardwareError => 0x04
  | illegalRequest => 0x05
  | unitAttention => 0x06
  | dataProtect => 0x07
  | blankCheck => 0x08
  | vendorSpecific => 0x09
  | copyAborted => 0x0a
  | abortedCommand => 0x0b
  | equal => 0x0c
  | volumeOverflow => 0x0d
  | miscompare => 0x0e
  | reserved => 0x0f

inductive Asc where
  | noAdditionalSenseInformation | writeFault | ioProcessTerminated | writeError | readError
  | locateOperationFailure | parameterListLengthError | invalidCommandOperationCode | lbaOutOfRange
  | invalidFieldInCdb | logicalUnitNotSupported | invalidFieldInParameterList | writeProtected
  | notReadyToReadyChange | powerOnOrReset | incompatibleMediumInstalled
  | sequentialPositioningError | mediumNotPresent | internalTargetFailure | commandPhaseError
  | dataPhaseError | mediumLoadOrEjectFailed | dataCurrentlyUnavailable
  deriving DecidableEq, Repr

def Asc.code : Asc → UInt8
  | noAdditionalSenseInformation => 0x00
  | writeFault => 0x03
  | ioProcessTerminated => 0x06
  | writeError => 0x0c
  | readError => 0x11
  | locateOperationFailure => 0x14
  | parameterListLengthError => 0x1a
  | invalidCommandOperationCode => 0x20
  | lbaOutOfRange => 0x21
  | invalidFieldInCdb => 0x24
  | logicalUnitNotSupported => 0x25
  | invalidFieldInParameterList => 0x26
  | writeProtected => 0x27
  | notReadyToReadyChange => 0x28
  | powerOnOrReset => 0x29
  | incompatibleMediumInstalled => 0x30
  | sequentialPositioningError => 0x38
  | mediumNotPresent => 0x3a
  | internalTargetFailure => 0x44
  | commandPhaseError => 0x4a
  | dataPhaseError => 0x4b
  | mediumLoadOrEjectFailed => 0x53
  | dataCurrentlyUnavailable => 0x55

inductive Ascq where
  | none | filemarkDetected | endOfPartitionMediumDetected | beginningOfPartitionMediumDetected
  | endOfDataDetected
  deriving DecidableEq, Repr

def Ascq.code : Ascq → UInt8
  | none => 0x00
  | filemarkDetected => 0x01
  | endOfPartitionMediumDetected => 0x02
  | beginningOfPartitionMediumDetected => 0x04
  | endOfDataDetected => 0x05

structure ScsiException where
  senseKey : SenseKey
  asc : Asc := .noAdditionalSenseInformation
  deriving DecidableEq, Repr

/-! SCSI levels are compared and converted, so they are their numbers. -/

abbrev ScsiLevel := Int

namespace ScsiLevel

abbrev none : ScsiLevel := 0
abbrev scsi1Ccs : ScsiLevel := 1
abbrev scsi2 : ScsiLevel := 2
abbrev spc3 : ScsiLevel := 5
abbrev last : ScsiLevel := 10

end ScsiLevel

inductive DeviceType where
  | directAccess | sequentialAccess | printer | processor | cdDvd | opticalMemory
  deriving DecidableEq, Repr

def DeviceType.code : DeviceType → UInt8
  | directAccess => 0
  | sequentialAccess => 1
  | printer => 2
  | processor => 3
  | cdDvd => 5
  | opticalMemory => 7

end Scsi2Pi
