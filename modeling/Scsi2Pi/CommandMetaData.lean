import Scsi2Pi.Scsi

/-! The command table: the number of CDB bytes of each opcode, and where a CDB
holds its allocation length and block number. Names are for the log only. -/
namespace Scsi2Pi.CommandMetaData

structure CdbMetaData where
  allocationLengthOffset : Int
  allocationLengthSize : Nat
  blockOffset : Nat
  blockSize : Nat
  hasDataOut : Bool
  deriving DecidableEq, Repr

def commands : List (ScsiCommand × Nat × CdbMetaData) := [
  (.testUnitReady,6,⟨0,0,0,0,false⟩),
  (.rezero,6,⟨0,0,0,0,false⟩),
  (.readBlockLimits,6,⟨-6,0,0,0,false⟩),
  (.requestSense,6,⟨4,1,0,0,false⟩),
  (.formatUnit,6,⟨0,0,0,0,true⟩),
  (.reassignBlocks,6,⟨0,0,0,0,false⟩),
  (.read6,6,⟨4,1,1,3,false⟩),
  (.retrieveStats,6,⟨4,1,0,0,false⟩),
  (.write6,6,⟨4,1,1,3,true⟩),
  (.seek6,6,⟨0,0,0,0,false⟩),
  (.setIfaceMode,6,⟨0,0,0,0,false⟩),
  (.setMcastAddr,6,⟨0,0,0,0,false⟩),
  (.enableInterface,6,⟨0,0,0,0,false⟩),
  (.readReverse,6,⟨4,1,1,3,false⟩),
  (.synchronizeBuffer,6,⟨0,0,0,0,false⟩),
  (.space6,6,⟨0,0,0,0,false⟩),
  (.inquiry,6,⟨4,1,0,0,false⟩),
  (.verify6,6,⟨4,1,1,3,true⟩),
  (.modeSelect6,6,⟨4,1,0,0,true⟩),
  (.reserveReserveElement6,6,⟨0,0,0,0,false⟩),
  (.releaseReleaseElement6,6,⟨0,0,0,0,false⟩),
  (.erase6,6,⟨0,0,0,0,false⟩),
  (.modeSense6,6,⟨4,1,0,0,false⟩),
  (.startStop,6,⟨0,0,0,0,false⟩),
  (.sendDiagnostic,6,⟨3,2,0,0,false⟩),
  (.preventAllowMediumRemoval,6,⟨0,0,0,0,false⟩),
  (.readFormatCapacities,10,⟨7,2,0,0,false⟩),
  (.readCapacity10,10,⟨-8,0,0,0,false⟩),
  (.read10,10,⟨7,2,2,4,false⟩),
  (.write10,10,⟨7,2,2,4,true⟩),
  (.seek10,10,⟨0,0,0,0,false⟩),
  (.erase10,10,⟨7,2,2,4,false⟩),
  (.writeAndVerify10,10,⟨7,2,2,4,true⟩),
  (.verify10,10,⟨7,2,2,4,true⟩),
  (.readPosition,10,⟨-20,0,0,0,false⟩),
  (.synchronizeCache10,10,⟨0,0,0,0,false⟩),
  (.readDefectData10,10,⟨7,2,0,0,false⟩),
  (.mediumScan,10,⟨8,1,2,4,true⟩),
  (.writeBuffer,10,⟨6,3,0,0,true⟩),
  (.readBuffer10,10,⟨6,3,0,0,false⟩),
  (.readLong10,10,⟨7,2,0,0,false⟩),
  (.writeLong10,10,⟨7,2,0,0,true⟩),
  (.writeSame10,10,⟨7,2,0,0,true⟩),
  (.readSubChannel,10,⟨7,2,0,0,false⟩),
  (.readToc,10,⟨7,2,0,0,false⟩),
  (.readHeader,10,⟨7,2,2,4,false⟩),
  (.playAudio10,10,⟨7,2,2,4,false⟩),
  (.getConfiguration,10,⟨7,2,0,0,false⟩),
  (.playAudioMsf,10,⟨0,0,0,0,false⟩),
  (.playAudioTrackIndex,10,⟨0,0,0,0,false⟩),
  (.getEventStatusNotification,10,⟨7,2,0,0,false⟩),
  (.pauseResume,10,⟨0,0,0,0,false⟩),
  (.logSelect,10,⟨7,2,0,0,true⟩),
  (.logSense,10,⟨7,2,0,0,false⟩),
  (.readDiscInformation,10,⟨7,2,0,0,false⟩),
  (.readTrackInformation,10,⟨7,2,0,0,false⟩),
  (.reserveReserveElement10,10,⟨7,2,0,0,true⟩),
  (.modeSelect10,10,⟨7,2,0,0,true⟩),
  (.releaseReleaseElement10,10,⟨7,2,0,0,true⟩),
  (.readMasterCue,10,⟨6,3,0,0,false⟩),
  (.modeSense10,10,⟨7,2,0,0,false⟩),
  (.closeTrackSession,10,⟨0,0,0,0,false⟩),
  (.readBufferCapacity,10,⟨7,2,0,0,false⟩),
  (.persistentReserveIn,10,⟨7,2,0,0,false⟩),
  (.persistentReserveOut,10,⟨7,2,0,0,true⟩),
  (.writeFilemarks16,16,⟨0,0,0,0,false⟩),
  (.rebuildReadReverse16,16,⟨0,0,0,0,false⟩),
  (.read16,16,⟨10,4,2,8,false⟩),
  (.write16,16,⟨10,4,2,8,true⟩),
  (.writeAndVerify16,16,⟨10,4,2,8,true⟩),
  (.verify16,16,⟨10,4,2,8,true⟩),
  (.synchronizeCacheSpace16,16,⟨0,0,0,0,false⟩),
  (.locate16,16,⟨0,0,0,0,false⟩),
  (.eraseWriteSame16,16,⟨0,0,0,0,false⟩),
  (.readBuffer16,16,⟨10,4,0,0,false⟩),
  (.readCapacityReadLong16,16,⟨12,2,0,0,false⟩),
  (.writeLong16,16,⟨12,2,0,0,true⟩),
  (.reportLuns,12,⟨6,4,0,0,false⟩),
  (.blank,12,⟨0,0,0,0,false⟩),
  (.playAudio12,12,⟨6,4,2,4,false⟩),
  (.read12,12,⟨6,4,2,4,false⟩),
  (.write12,12,⟨6,4,2,4,true⟩),
  (.erase12,12,⟨6,4,2,4,false⟩),
  (.readDvdStructure,12,⟨8,2,0,0,false⟩),
  (.writeAndVerify12,12,⟨6,4,2,4,true⟩),
  (.verify12,12,⟨6,4,2,4,true⟩),
  (.sendVolumeTag,12,⟨8,2,0,0,false⟩),
  (.readDefectData12,12,⟨6,4,0,0,false⟩),
  (.readCdMsf,12,⟨0,0,0,0,false⟩),
  (.setCdSpeed,12,⟨0,0,0,0,false⟩),
  (.playCd,12,⟨6,4,2,4,false⟩),
  (.readCd,12,⟨6,3,2,4,false⟩),
  (.executeOperation,10,⟨7,2,0,0,true⟩),
  (.receiveOperationResults,10,⟨7,2,0,0,false⟩)
]

/- The loops of the constructor, before the explicit entries. -/
def groupByteCount (cmd : ScsiCommand) : Nat :=
  if cmd < 0x1f then 6
  else if 0x20 ≤ cmd ∧ cmd < 0x7f then 10
  else if 0x80 ≤ cmd ∧ cmd < 0xa0 then 16
  else if 0xa0 ≤ cmd ∧ cmd < 0xc0 then 12
  else 0

/- A later entry for the same opcode replaces an earlier one. -/
def entry (cmd : ScsiCommand) : Nat × CdbMetaData :=
  (commands.reverse.lookup cmd).getD (groupByteCount cmd,⟨0,0,0,0,false⟩)

def getByteCount (cmd : ScsiCommand) : Nat := (entry cmd).1

def getCdbMetaData (cmd : ScsiCommand) : CdbMetaData := (entry cmd).2

/- The CDB array of the controller has 16 elements. -/
theorem byteCounts (cmd : ScsiCommand) :
    getByteCount cmd = 0 ∨ 6 ≤ getByteCount cmd ∧ getByteCount cmd ≤ 16 := by
  have explicitCounts : ∀ e ∈ commands.reverse, 6 ≤ e.2.1 ∧ e.2.1 ≤ 16 := by decide
  unfold getByteCount entry
  cases found : commands.reverse.lookup cmd with
  | some e =>
    obtain ⟨before,after,split,_⟩ := List.lookup_eq_some_iff.mp found
    exact .inr (explicitCounts (cmd,e) (by rw [split]; simp))
  | none =>
    simp only [Option.getD_none,groupByteCount]
    split
    · simp
    · split
      · simp
      · split
        · simp
        · split <;> simp

end Scsi2Pi.CommandMetaData
