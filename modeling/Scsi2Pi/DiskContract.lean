import Scsi2Pi.DiskDrives
import Scsi2Pi.StorageContract

/-! The contract of the disks. -/
namespace Scsi2Pi
open Handler Derives Eff CommandMetaData

instance : Inherits Disk StorageDevice := ⟨fun _ => rfl⟩
instance : Inherits ScsiCd Disk := ⟨fun _ => rfl⟩
instance : Inherits ScsiCd StorageDevice := ⟨fun _ => rfl⟩

namespace Disk

@[simp] theorem basePrimary (d : Disk) : (base d : PrimaryDevice) = d.toPrimaryDevice := rfl

/-! Calm parts of the commands. -/

theorem withFilesCalm {α : Type} (run : Cache → FileSystem → α × Cache × FileSystem) (c : Cache) :
    Does Calm (withFiles run c) := by
  refine meetsThen doesGetWorld fun w _ => ?_
  dsimp only
  refine meetsThen (modifyCalm fun _ => rfl) fun _ _ => meetsThen (calmSetWorld _) fun _ _ => doesPure _

theorem withStreamCalm {α : Type} (run : LinuxCache → FileSystem → α × LinuxCache × FileSystem) (c : LinuxCache) :
    Does Calm (withStream run c) :=
  withFilesCalm _ _

theorem flushCacheCalm : Does Calm flushCache := by
  refine meetsThen doesGetDevice fun d _ => ?_
  cases d.cache with
  | some c => exact meetsIte (fun _ => meetsThen (withFilesCalm _ _) fun _ _ => doesPure _) (fun _ => doesPure _)
  | none => exact doesPure _

theorem dropCacheCalm : Does Calm dropCache := by
  refine meetsThen doesGetDevice fun d _ => meetsThen doesGetWorld fun w _ => ?_
  cases d.cache with
  | some c => exact meetsThen (calmSetWorld _) fun _ _ => modifyCalm fun _ => rfl
  | none => exact modifyCalm fun _ => rfl

theorem initCacheCalm (path : String) : Does Calm (initCache path) := by
  refine meetsThen dropCacheCalm fun _ _ => meetsThen doesGetDevice fun d _ => ?_
  exact meetsThen (modifyCalm fun _ => rfl) fun _ _ => meetsThen doesGetWorld fun _ _ => doesPure _

theorem setUpCacheCalm : Does Calm setUpCache := by
  refine meetsThen doesGetDevice fun d _ => meetsIte (fun _ => ?_) (fun _ => initCacheCalm _)
  exact meetsThen (modifyCalm fun _ => rfl) fun _ _ => initCacheCalm _

theorem changeBlockSizeCalm (size : Nat) : Does Calm (changeBlockSize size) := by
  refine meetsThen doesGetDevice fun d _ => meetsIte (fun _ => ?_) (fun _ => doesPure _)
  refine meetsThen (superCalm (StorageDevice.changeBlockSizeCalm size)) fun _ _ => ?_
  refine meetsThen flushCacheCalm fun _ _ => meetsThen doesGetDevice fun _ _ => ?_
  exact meetsIte (fun _ => meetsThen setUpCacheCalm fun _ _ => doesPure _) (fun _ => doesPure _)

theorem ejectCalm (force : Bool) : Does Calm (eject force) := by
  refine meetsThen (superCalm (StorageDevice.primaryEjectCalm force)) fun status _ => ?_
  refine meetsIte (fun _ => ?_) (fun _ => doesPure _)
  refine meetsThen flushCacheCalm fun _ _ => meetsThen (superCalm StorageDevice.forgetFileCalm) fun _ _ => ?_
  exact meetsThen dropCacheCalm fun _ _ => doesPure _

theorem checkReadyCalm : Does Calm checkReady := superCalm PrimaryDevice.checkReadyCalm

theorem validateBlockAddressCalm (mode : AccessMode) : Does Calm (validateBlockAddress mode) := by
  refine meetsThen checkReadyCalm fun _ _ => meetsThen doesGetRequest fun r _ => meetsUnless fun _ => ?_
  exact meetsThen doesGetDevice fun d _ => meetsUnless fun _ => doesPure _

theorem checkAndGetStartAndCountCalm (mode : AccessMode) : Does Calm (checkAndGetStartAndCount mode) := by
  refine meetsThen checkReadyCalm fun _ _ => meetsThen doesGetRequest fun r _ => ?_
  dsimp only
  exact meetsThen doesGetDevice fun d _ => meetsUnless fun _ => doesPure _

theorem replaceByStreamCalm : Does Calm replaceByStream := by
  refine meetsThen flushCacheCalm fun _ _ => meetsThen (modifyCalm fun _ => rfl) fun _ _ => ?_
  refine meetsThen doesGetDevice fun _ _ => meetsThen (initCacheCalm _) fun _ _ => ?_
  exact meetsThen doesGetDevice fun _ _ => doesPure _

theorem switchToStreamCalm : Does Calm switchToStream := by
  refine meetsThen doesGetDevice fun d _ => ?_
  cases d.cache with
  | none => exact replaceByStreamCalm
  | some c => cases c with
    | stream c => exact doesPure _
    | tracks c => exact replaceByStreamCalm

theorem storeLongCalm : Does Calm storeLong := by
  refine meetsThen doesGetDevice fun d _ => meetsThen doesGetTransfer fun t _ => ?_
  cases d.cache with
  | none => exact meetsThrow _
  | some c => cases c with
    | tracks c => exact meetsThrow _
    | stream c => exact meetsThen (withStreamCalm _ _) fun _ _ => meetsIte (fun _ => meetsThrow _) (fun _ => doesPure _)

theorem storeSectorsCalm : Does Calm storeSectors := by
  refine meetsThen doesGetDevice fun d _ => meetsThen doesGetTransfer fun t _ => ?_
  cases d.cache with
  | none => exact meetsThrow _
  | some c => exact meetsThen (withFilesCalm _ _) fun _ _ => meetsIte (fun _ => meetsThrow _) (fun _ => doesPure _)

/- The length is passed on. -/
theorem writeDataCalm (length : Int) : Meets Calm (fun l => l = length) (writeData length) := by
  refine meetsThen checkReadyCalm fun _ _ => meetsThen doesGetRequest fun r _ => meetsIte (fun _ => ?_) (fun _ => ?_)
  · exact meetsThen storeLongCalm fun _ _ => meetsPure rfl
  · refine meetsIte (fun _ => meetsThen storeSectorsCalm fun _ _ => ?_) (fun _ => ?_)
    · exact meetsThen (modifyCalm fun _ => rfl) fun _ _ => meetsPure rfl
    · exact meetsThen (modifyCalm fun _ => rfl) fun _ _ => meetsPure rfl

theorem fillBufferAfter (cmd : ScsiCommand) (data : Bytes) : Does (After cmd) (fillBuffer data) :=
  afterSetBuffer cmd _

theorem readDataAfter (cmd : ScsiCommand) : Does (After cmd) readData := by
  refine meetsThen (checkReadyCalm.after cmd) fun _ _ => meetsThen doesGetDevice fun d _ => ?_
  cases d.cache with
  | none => exact meetsThrow _
  | some c =>
    refine meetsThen ((withFilesCalm _ _).after cmd) fun result _ => ?_
    cases result with
    | none => exact meetsThrow _
    | some data =>
      refine meetsThen (fillBufferAfter cmd _) fun _ _ => ?_
      exact meetsThen (modifyAfter cmd fun _ => rfl) fun _ _ => doesPure _

theorem prepareTransferAfter (cmd : ScsiCommand) (start count : Nat) : Does (After cmd) (prepareTransfer start count) := by
  refine meetsThen doesGetDevice fun d _ => meetsThen (modifyAfter cmd fun _ => rfl) fun _ _ => ?_
  exact meetsThen (afterSetTransferSize cmd _ _) fun _ _ => doesPure _

/-! The commands. -/

theorem writeVerifyEnds {cmd : ScsiCommand} (out : (getCdbMetaData cmd).hasDataOut = true) (start count : Nat)
    (dataOut : Bool) : Ends cmd (writeVerify start count dataOut) := by
  refine meetsIte (fun _ => ?_) (fun _ => meetsPure trivial)
  exact meetsThen (prepareTransferAfter cmd _ _) fun _ _ => meetsThen doesGetDevice fun _ _ => meetsPure out

theorem writeEnds {cmd : ScsiCommand} (out : (getCdbMetaData cmd).hasDataOut = true) (mode : AccessMode) :
    Ends cmd (write mode) := by
  refine meetsThen ((superCalm StorageDevice.checkWritePreconditionsCalm).after cmd) fun _ _ => ?_
  refine meetsThen ((checkAndGetStartAndCountCalm mode).after cmd) fun found _ => ?_
  obtain ⟨valid,start,count⟩ := found
  exact writeVerifyEnds out start count valid

theorem verifyEnds (cmd : ScsiCommand) (mode : AccessMode) : Ends cmd (verify mode) := by
  refine meetsThen ((checkAndGetStartAndCountCalm mode).after cmd) fun found _ => ?_
  exact meetsThen (flushCacheCalm.after cmd) fun _ _ => meetsPure trivial

theorem checkLongLengthCalm (length : Nat) : Does Calm (checkLongLength length) := by
  refine meetsThen doesGetDevice fun d _ => meetsIte (fun _ => ?_) (fun _ => doesPure _)
  exact meetsThen (superCalm (calmModifyDevice (fun _ => rfl) (fun _ => rfl) (fun _ => rfl))) fun _ _ => meetsThrow _

theorem transferLongEnds {cmd : ScsiCommand} {write : Bool} (declared : (getCdbMetaData cmd).hasDataOut = write)
    (sector length : Nat) : Ends cmd (transferLong sector length write) := by
  refine meetsThen (switchToStreamCalm.after cmd) fun c _ => meetsThen (checkReadyCalm.after cmd) fun _ _ => ?_
  refine meetsThen (afterSetTransferSize cmd _ _) fun _ _ => meetsIte (fun out => ?_) (fun into => ?_)
  · exact meetsThen (modifyAfter cmd fun _ => rfl) fun _ _ => meetsPure (declared.trans out)
  · have back : (getCdbMetaData cmd).hasDataOut = false := declared.trans (by simpa using into)
    refine meetsThen (afterSetCurrentLength cmd _) fun _ _ => ?_
    refine meetsThen ((withStreamCalm _ _).after cmd) fun result _ => ?_
    cases result with
    | none => exact meetsPure back
    | some data => exact meetsThen (fillBufferAfter cmd _) fun _ _ => meetsPure back

theorem readWriteLongEnds {cmd : ScsiCommand} {write : Bool} (declared : (getCdbMetaData cmd).hasDataOut = write)
    (sector length : Nat) : Ends cmd (readWriteLong sector length write) := by
  have checked : Ends cmd (if length = 0 then pure .status else do
      checkLongLength length
      transferLong sector length write) := by
    refine meetsIte (fun _ => meetsPure trivial) (fun _ => ?_)
    exact meetsThen ((checkLongLengthCalm length).after cmd) fun _ _ => transferLongEnds declared sector length
  refine meetsIte (fun _ => ?_) (fun _ => checked)
  exact meetsThen ((superCalm StorageDevice.checkWritePreconditionsCalm).after cmd) fun _ _ => checked

theorem rezeroEnds (cmd : ScsiCommand) : Ends cmd rezero :=
  (meetsThen checkReadyCalm fun _ _ => meetsPure trivial).after cmd

theorem formatUnitEnds (cmd : ScsiCommand) : Ends cmd formatUnit := by
  refine (meetsThen checkReadyCalm fun _ _ => meetsThen doesGetRequest fun _ _ => ?_).after cmd
  exact meetsUnless fun _ => meetsPure trivial

theorem seekEnds (cmd : ScsiCommand) (mode : AccessMode) : Ends cmd (seek mode) :=
  (meetsThen (checkAndGetStartAndCountCalm mode) fun _ _ => meetsPure trivial).after cmd

theorem synchronizeCacheEnds (cmd : ScsiCommand) : Ends cmd synchronizeCache :=
  (meetsThen flushCacheCalm fun _ _ => meetsPure trivial).after cmd

section
variable {cmd : ScsiCommand} (back : (getCdbMetaData cmd).hasDataOut = false)

include back

theorem readDefectData10Ends : Ends cmd readDefectData10 := by
  refine meetsThen doesGetRequest fun _ _ => meetsThen (afterSetCurrentLength cmd _) fun _ _ => ?_
  exact meetsThen (afterSetBuffer cmd _) fun _ _ => meetsPure back

theorem readCapacity10Ends : Ends cmd readCapacity10 := by
  refine meetsThen (checkReadyCalm.after cmd) fun _ _ => meetsThen doesGetDevice fun _ _ => meetsUnless fun _ => ?_
  exact meetsThen (afterSetBuffer cmd _) fun _ _ => meetsPure back

theorem readCapacity16Ends : Ends cmd readCapacity16 := by
  refine meetsThen (checkReadyCalm.after cmd) fun _ _ => meetsThen doesGetDevice fun _ _ => meetsUnless fun _ => ?_
  exact meetsThen (afterSetBuffer cmd _) fun _ _ => meetsThen doesGetRequest fun _ _ => meetsPure back

theorem readFormatCapacitiesEnds : Ends cmd readFormatCapacities := by
  refine meetsThen (checkReadyCalm.after cmd) fun _ _ => meetsThen doesGetDevice fun _ _ => ?_
  exact meetsThen (afterSetBuffer cmd _) fun _ _ => meetsThen doesGetRequest fun _ _ => meetsPure back

theorem readLong10Ends : Ends cmd readLong10 := by
  refine meetsThen ((validateBlockAddressCalm _).after cmd) fun _ _ => meetsThen doesGetRequest fun _ _ => ?_
  exact readWriteLongEnds back _ _

theorem readCapacity16ReadLong16Ends : Ends cmd readCapacity16ReadLong16 := by
  refine meetsThen doesGetRequest fun _ _ => meetsIte (fun _ => readCapacity16Ends back) (fun _ => ?_)
  refine meetsIte (fun _ => ?_) (fun _ => meetsThrow _)
  exact meetsThen ((validateBlockAddressCalm _).after cmd) fun _ _ => readWriteLongEnds back _ _

end

section
variable {cmd : ScsiCommand} (out : (getCdbMetaData cmd).hasDataOut = true)

include out

theorem writeLong10Ends : Ends cmd writeLong10 := by
  refine meetsThen ((validateBlockAddressCalm _).after cmd) fun _ _ => meetsThen doesGetRequest fun _ _ => ?_
  exact readWriteLongEnds out _ _

theorem writeLong16Ends : Ends cmd writeLong16 := by
  refine meetsThen ((validateBlockAddressCalm _).after cmd) fun _ _ => meetsThen doesGetRequest fun _ _ => ?_
  exact readWriteLongEnds out _ _

end

section
variable {δ : Type} [Derives δ Disk] [Derives δ PrimaryDevice] [Inherits δ Disk]

theorem readEnds {cmd : ScsiCommand} (back : (getCdbMetaData cmd).hasDataOut = false) {readData : Handler δ Int}
    (data : Does (After cmd) readData) (mode : AccessMode) : Ends cmd (read readData mode) := by
  refine meetsThen ((superCalm (checkAndGetStartAndCountCalm mode)).after cmd) fun found _ => ?_
  obtain ⟨valid,start,count⟩ := found
  refine meetsIte (fun _ => ?_) (fun _ => meetsPure trivial)
  refine meetsThen (superAfter (prepareTransferAfter cmd _ _)) fun _ _ => meetsThen doesGetDevice fun _ _ => ?_
  exact meetsThen (afterSetCurrentLength cmd _) fun _ _ => meetsThen data fun _ _ => meetsPure back

theorem commandsEnd {readData : Handler δ Int} (data : ∀ cmd, Does (After cmd) readData) :
    ∀ c ∈ commands readData, Ends c.1 c.2 := by
  simp only [commands,List.forall_mem_cons,List.not_mem_nil,false_implies,implies_true,and_true]
  refine ⟨?_,?_,?_,?_,?_,?_,?_,?_,?_,?_,?_,?_,?_,?_,?_,?_,?_,?_,?_,?_,?_,?_⟩
  · exact superEnds (rezeroEnds _)
  · exact superEnds (formatUnitEnds _)
  · exact superEnds (rezeroEnds _)
  · exact readEnds rfl (data _) _
  · exact superEnds (writeEnds rfl _)
  · exact superEnds (seekEnds _ _)
  · exact superEnds (readCapacity10Ends rfl)
  · exact readEnds rfl (data _) _
  · exact superEnds (writeEnds rfl _)
  · exact superEnds (readLong10Ends rfl)
  · exact superEnds (writeLong10Ends rfl)
  · exact superEnds (writeLong16Ends rfl)
  · exact superEnds (seekEnds _ _)
  · exact superEnds (verifyEnds _ _)
  · exact superEnds (synchronizeCacheEnds _)
  · exact superEnds (synchronizeCacheEnds _)
  · exact superEnds (readDefectData10Ends rfl)
  · exact readEnds rfl (data _) _
  · exact superEnds (writeEnds rfl _)
  · exact superEnds (verifyEnds _ _)
  · exact superEnds (readCapacity16ReadLong16Ends rfl)
  · exact superEnds (readFormatCapacitiesEnds rfl)

variable [Derives δ StorageDevice] [Inherits δ StorageDevice]

theorem virtualCalm (setUpModePages : Request → δ → Nat → Bool → Pages → Pages) :
    (virtual setUpModePages : StorageDevice.Virtual δ).Calm where
  flushCache := superCalm flushCacheCalm
  eject force := superCalm (ejectCalm force)
  changeBlockSize size := superCalm (changeBlockSizeCalm size)
  verifyBlockSizeChange _ _ := superCalm (StorageDevice.verifyBlockSizeChangeCalm _ _)

end
end Disk

/-! The classes of disks. -/

theorem inquiryInternalCalm {δ : Type} [Derives δ PrimaryDevice] (type : DeviceType)
    (removable : PrimaryDevice → Bool) : Does Calm (inquiryInternal type removable : Handler δ Bytes) :=
  meetsThen doesGetDevice fun _ _ => doesPure _

theorem StorageDevice.dispatchEnds {δ : Type} [Derives δ StorageDevice] [Derives δ PrimaryDevice]
    [Inherits δ StorageDevice] {commands : List (ScsiCommand × Handler δ PhaseCall)}
    (ends : ∀ c ∈ commands, Ends c.1 c.2) (cmd : ScsiCommand) : Ends cmd (StorageDevice.dispatch commands cmd) :=
  meetsThen ((superCalm (reportMediumChangeCalm cmd)).after cmd) fun _ _ => dispatchMeets ends cmd

/- What the classes of disks have in common. -/
theorem Disk.sound {commands : List (ScsiCommand × Handler Disk PhaseCall)}
    {setUpModePages : Request → Disk → Nat → Bool → Pages → Pages} (ends : ∀ c ∈ commands, Ends c.1 c.2) :
    Methods.Sound True {
      dispatch := StorageDevice.dispatch commands
      readData := Disk.readData
      writeData := fun _ length => Disk.writeData length
      modeSelect := StorageDevice.modeSelect (Disk.virtual setUpModePages) } where
  dispatch cmd := (StorageDevice.dispatchEnds ends cmd).imp fun _ fits => .inl fits
  readData := Disk.readDataAfter
  writeData cmd _ length := writesAll (Disk.writeDataCalm length) cmd
  modeSelect := StorageDevice.modeSelectCalm (Disk.virtualCalm _)

theorem Disk.commandsEndWith {δ : Type} [Derives δ Disk] [Derives δ StorageDevice] [Derives δ PrimaryDevice]
    [Inherits δ Disk] [Inherits δ StorageDevice] {inquiry requestSense : Handler δ PhaseCall}
    {readData : Handler δ Int} {setUpModePages : Request → δ → Nat → Bool → Pages → Pages}
    {supportsModeSelect supportsSaveParameters : Bool} (more : List (ScsiCommand × Handler δ PhaseCall))
    (hi : Ends .inquiry inquiry) (hr : Ends .requestSense requestSense) (hm : ∀ c ∈ more, Ends c.1 c.2)
    (data : ∀ cmd, Does (After cmd) readData) :
    ∀ c ∈ PrimaryDevice.commands inquiry requestSense ++ (more ++ Disk.commands readData) ++
      StorageDevice.commands (Disk.virtual setUpModePages) supportsModeSelect supportsSaveParameters,
      Ends c.1 c.2 := by
  simp only [List.forall_mem_append]
  exact ⟨⟨PrimaryDevice.commandsEnd hi hr,hm,Disk.commandsEnd data⟩,
    StorageDevice.commandsEnd (Disk.virtualCalm _) _ _⟩

theorem ScsiHd.sound : ScsiHd.methods.Sound True :=
  Disk.sound (Disk.commandsEndWith [] (PrimaryDevice.inquiryEnds (inquiryInternalCalm _ _))
    (superEnds PrimaryDevice.requestSenseEnds) (by simp) Disk.readDataAfter)

theorem OpticalMemory.sound : OpticalMemory.methods.Sound True :=
  Disk.sound (Disk.commandsEndWith [] (PrimaryDevice.inquiryEnds (inquiryInternalCalm _ _))
    (superEnds PrimaryDevice.requestSenseEnds) (by simp) Disk.readDataAfter)

namespace SasiHd

theorem inquiryEnds : Ends .inquiry inquiry :=
  meetsThen (afterCopyToBuffer _ _) fun _ _ => meetsPure rfl

theorem requestSenseEnds : Ends .requestSense requestSense := by
  refine meetsThen doesGetRequest fun _ _ => meetsThen doesGetDevice fun _ _ => ?_
  exact meetsThen (afterCopyToBuffer _ _) fun _ _ => meetsPure rfl

theorem sound : methods.Sound True :=
  Disk.sound (Disk.commandsEndWith [] inquiryEnds requestSenseEnds (by simp) Disk.readDataAfter)

end SasiHd

namespace ScsiCd

theorem initializeTrackCalm : Does Calm initializeTrack := by
  refine meetsThen (modifyCalm fun _ => rfl) fun _ _ => meetsThen doesGetDevice fun d _ => ?_
  refine meetsThen (superCalm (Disk.initCacheCalm _)) fun _ _ => meetsUnless fun _ => ?_
  exact modifyCalm fun _ => rfl

theorem readDataAfter (cmd : ScsiCommand) : Does (After cmd) readData := by
  refine meetsThen ((superCalm PrimaryDevice.checkReadyCalm).after cmd) fun _ _ => ?_
  refine meetsThen doesGetDevice fun d _ => meetsUnless fun _ => meetsIte (fun _ => ?_) (fun _ => ?_)
  · exact meetsThen (initializeTrackCalm.after cmd) fun _ _ => superAfter (Disk.readDataAfter cmd)
  · exact superAfter (Disk.readDataAfter cmd)

theorem readTocEnds : Ends .readToc readToc := by
  refine meetsThen ((superCalm PrimaryDevice.checkReadyCalm).after _) fun _ _ => ?_
  refine meetsThen doesGetRequest fun _ _ => meetsThen doesGetDevice fun d _ => ?_
  refine meetsUnless fun _ => meetsUnless fun _ => ?_
  exact meetsThen (afterSetBuffer _ _) fun _ _ => meetsPure rfl

theorem createDataTrackCalm : Does Calm createDataTrack := modifyCalm fun _ => rfl

theorem sound : methods.Sound True where
  dispatch cmd := (StorageDevice.dispatchEnds (Disk.commandsEndWith [(.readToc,readToc)]
    (PrimaryDevice.inquiryEnds (inquiryInternalCalm _ _)) (superEnds PrimaryDevice.requestSenseEnds)
    (by simpa using readTocEnds) readDataAfter) cmd).imp fun _ fits => .inl fits
  readData := readDataAfter
  writeData cmd _ length := writesAll (superCalm (Disk.writeDataCalm length)) cmd
  modeSelect length := meetsThen (StorageDevice.modeSelectCalm (Disk.virtualCalm _) length) fun _ _ =>
    createDataTrackCalm

end ScsiCd
end Scsi2Pi
