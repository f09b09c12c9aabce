import Scsi2Pi.StorageContract
import Scsi2Pi.DiskContract
import Scsi2Pi.TapeMotion

/-! The contract of the tape drive. -/
namespace Scsi2Pi
open Handler Derives CommandMetaData SimhUtil

namespace Tape

/-! Positions and the file. -/

theorem checkReadyCalm : Does Calm checkReady := movesCalm checkReadyMoves

theorem setInformationCalm (value : Int) : Does Calm (setInformation value) := movesCalm (setInformationMoves value)

theorem resetPositionsCalm : Does Calm resetPositions := movesCalm resetPositionsMoves

theorem advanceCalm (count : Int) : Does Calm (advance count) := movesCalm (advanceMoves count)

theorem readFileCalm (count : Int) : Does Calm (readFile count) := movesCalm (readFileMoves count)

theorem writeFileCalm (data : Bytes) : Does Calm (writeFile data) := by
  refine meetsThen doesGetDevice fun d _ => meetsThen doesGetWorld fun w _ => meetsUnless fun _ => ?_
  cases w.files.writeAt d.filename d.tapePosition.toNat data with
  | none => exact meetsThrow _
  | some files => exact calmSetWorld _

theorem checkForOverflowCalm (length : Int) : Does Calm (checkForOverflow length) :=
  meetsThen doesGetDevice fun _ _ => meetsIte (fun _ => meetsThrow _) (fun _ => doesPure _)

theorem writeSimhMetaDataCalm (cls : SimhClass) (value : Nat) : Does Calm (writeSimhMetaData cls value) :=
  meetsThen doesGetDevice fun _ _ => meetsThen (checkForOverflowCalm _) fun _ _ => writeFileCalm _

theorem writeEndOfDataCalm : Does Calm writeEndOfData := by
  refine meetsThen doesGetDevice fun d _ => meetsIte (fun _ => ?_) (fun _ => ?_)
  · refine meetsThen (writeSimhMetaDataCalm _ _) fun _ _ => ?_
    exact meetsIte (fun _ => meetsThrow _) (fun _ => doesPure _)
  · exact meetsIte (fun _ => meetsThrow _) (fun _ => doesPure _)

theorem writeMetaDataCalm (type : ObjectType) (size : Nat) : Does Calm (writeMetaData type size) := by
  refine meetsThen doesGetDevice fun d _ => meetsIte (fun _ => doesPure _) (fun _ => meetsIte (fun _ => ?_) (fun _ => ?_))
  · refine meetsThen (writeSimhMetaDataCalm _ _) fun _ _ => meetsThen (advanceCalm _) fun _ _ => writeEndOfDataCalm
  · exact writeEndOfDataCalm

theorem raiseReadErrorCalm {α : Type} {P : α → Prop} : Meets Calm P (raiseReadError : Handler Tape α) := by
  refine meetsThen (advanceCalm _) fun _ _ => meetsThen (modifyCalm fun _ => rfl) fun _ _ => ?_
  exact meetsThen doesGetDevice fun _ _ => meetsThen (setInformationCalm _) fun _ _ => meetsThrow _

theorem findNextCalm (typeToFind : ObjectType) (count : Int) (read : Bool) : Does Calm (findNext typeToFind count read) :=
  movesCalm (findNextMoves _ _ _)

theorem findObjectCalm (identifier : Nat) : Does Calm (findObject identifier) := movesCalm (findObjectMoves _)

theorem locateCalm (locate16 : Bool) : Does Calm (locate locate16) := movesCalm (locateMoves _)

/-! Transfers. -/

theorem getByteCountCalm : Does Calm getByteCount := by
  refine meetsThen doesGetRequest fun _ _ => meetsThen (modifyCalm fun _ => rfl) fun _ _ => ?_
  exact meetsThen doesGetDevice fun _ _ => meetsUnless fun _ => doesPure _

theorem isAtRecordBoundaryCalm : Does Calm isAtRecordBoundary := by
  refine meetsThen doesGetDevice fun _ _ => meetsIte (fun _ => doesPure _) (fun _ => ?_)
  exact meetsThen (modifyCalm fun _ => rfl) fun _ _ => doesPure _

/- An incorrect length makes the command end with CHECK CONDITION. -/
theorem checkBlockLengthAfter (cmd : ScsiCommand) : Does (After cmd) checkBlockLength := by
  have report : Does (After cmd) (modifyTransfer fun t => { t with status := .checkCondition } : Handler Tape Unit) :=
    fun _ _ => ⟨⟨fun _ => rfl,fun _ => rfl,fun _ _ => rfl,.inr (.inr rfl),id⟩,trivial⟩
  refine meetsThen doesGetRequest fun r _ => meetsThen doesGetDevice fun d _ => ?_
  refine meetsIte (fun _ => ?_) (fun _ => doesPure _)
  dsimp only
  split
  · refine meetsThen (Meets.after (superCalm (calmModifyDevice ?_ ?_ ?_)) cmd) fun _ _ => ?_
    · exact fun _ => rfl
    · exact fun _ => rfl
    · exact fun _ => rfl
    · exact meetsThen ((setInformationCalm _).after cmd) fun _ _ => meetsThen report fun _ _ => doesPure _
  · exact doesPure _

theorem openRecordCalm : Does Calm openRecord := by
  refine meetsThen (findNextCalm _ _ _) fun m _ => meetsThen (modifyCalm fun _ => rfl) fun _ _ => meetsUnless fun _ => ?_
  exact meetsThen (advanceCalm _) fun _ _ => modifyCalm fun _ => rfl

theorem limitTransferAfter (cmd : ScsiCommand) (actual : Nat) : Does (After cmd) (limitTransfer actual) := by
  refine meetsThen (modifyAfter cmd fun _ => rfl) fun _ _ => meetsThen doesGetDevice fun _ _ => ?_
  exact meetsThen (afterSetTransferSize cmd _ _) fun _ _ => afterSetCurrentLength cmd _

theorem closeRecordCalm : Does Calm closeRecord := by
  refine meetsThen (modifyCalm fun _ => rfl) fun _ _ => meetsThen (readFileCalm _) fun _ _ => ?_
  refine meetsThen doesGetDevice fun d _ => ?_
  have count : Does Calm (do
      advance metaDataSize
      modifyDevice fun d => if d.remainingCount = 0 then { d with blocksRead := d.blocksRead + 1 } else d) := by
    refine meetsThen (advanceCalm _) fun _ _ => modifyCalm fun d => ?_
    split <;> rfl
  refine meetsIte (fun _ => ?_) (fun _ => count)
  exact meetsThen (raiseReadErrorCalm (P := fun _ => True)) fun _ _ => count

theorem beginRecordAfter (cmd : ScsiCommand) (length : Int) : Does (After cmd) (beginRecord length) := by
  refine meetsThen (openRecordCalm.after cmd) fun _ _ => meetsThen (checkBlockLengthAfter cmd) fun actual _ => ?_
  refine meetsIte (fun _ => doesPure _) (fun _ => ?_)
  exact meetsThen (limitTransferAfter cmd _) fun _ _ => doesPure _

theorem readChunkAfter (cmd : ScsiCommand) (length : Int) : Does (After cmd) (readChunk length) := by
  refine meetsThen ((readFileCalm _).after cmd) fun _ _ => meetsThen (afterSetBuffer cmd _) fun _ _ => ?_
  refine meetsThen (modifyAfter cmd fun _ => rfl) fun _ _ => meetsThen ((advanceCalm _).after cmd) fun _ _ => ?_
  refine meetsThen (isAtRecordBoundaryCalm.after cmd) fun _ _ => meetsIte (fun _ => ?_) (fun _ => doesPure _)
  exact meetsThen (closeRecordCalm.after cmd) fun _ _ => doesPure _

theorem readDataAfter (cmd : ScsiCommand) : Does (After cmd) readData := by
  refine meetsThen doesGetTransfer fun t _ => meetsThen (isAtRecordBoundaryCalm.after cmd) fun _ _ => ?_
  refine meetsIte (fun _ => ?_) (fun _ => readChunkAfter cmd _)
  exact meetsThen (beginRecordAfter cmd _) fun _ _ => readChunkAfter cmd _

theorem locateExplicitlyCalm (explicit : Bool) : Does Calm (locateExplicitly explicit) := by
  refine meetsThen (modifyCalm fun _ => rfl) fun _ _ => meetsIte (fun _ => ?_) (fun _ => doesPure _)
  refine meetsThen (locateCalm true) fun _ _ => meetsIte (fun _ => ?_) (fun _ => doesPure _)
  exact meetsThen doesGetRequest fun _ _ => meetsThen (setInformationCalm _) fun _ _ => meetsThrow _

theorem readEnds {cmd : ScsiCommand} (back : (getCdbMetaData cmd).hasDataOut = false) (read16 : Bool) :
    Ends cmd (read read16) := by
  refine meetsThen (checkReadyCalm.after cmd) fun _ _ => meetsThen doesGetRequest fun r _ => meetsUnless fun _ => ?_
  refine meetsThen ((locateExplicitlyCalm _).after cmd) fun _ _ => meetsThen (getByteCountCalm.after cmd) fun _ _ => ?_
  refine meetsThen (modifyAfter cmd fun _ => rfl) fun _ _ => meetsIte (fun _ => meetsPure trivial) (fun _ => ?_)
  refine meetsThen (modifyAfter cmd fun _ => rfl) fun _ _ => meetsThen doesGetDevice fun _ _ => ?_
  refine meetsThen (afterSetTransferSize cmd _ _) fun _ _ => meetsThen (afterSetCurrentLength cmd _) fun _ _ => ?_
  exact meetsThen (readDataAfter cmd) fun _ _ => meetsPure back

theorem writeEnds {cmd : ScsiCommand} (out : (getCdbMetaData cmd).hasDataOut = true) (write16 : Bool) :
    Ends cmd (write write16) := by
  refine meetsThen (checkReadyCalm.after cmd) fun _ _ => meetsThen doesGetRequest fun r _ => meetsUnless fun _ => ?_
  refine meetsThen ((superCalm StorageDevice.checkWritePreconditionsCalm).after cmd) fun _ _ => ?_
  refine meetsThen ((locateExplicitlyCalm _).after cmd) fun _ _ => meetsThen (getByteCountCalm.after cmd) fun _ _ => ?_
  refine meetsThen (modifyAfter cmd fun _ => rfl) fun _ _ => meetsIte (fun _ => meetsPure trivial) (fun _ => ?_)
  refine meetsThen (modifyAfter cmd fun _ => rfl) fun _ _ => meetsThen doesGetDevice fun _ _ => ?_
  exact meetsThen (afterSetTransferSize cmd _ _) fun _ _ => meetsPure out

theorem finishRecordCalm : Does Calm finishRecord := by
  have close : Does Calm (do
      writeSimhMetaData .tapeMarkGoodDataRecord (← getDevice).recordLength
      advance metaDataSize
      modifyDevice fun d => { d with objectLocation := d.objectLocation + 1 }) := by
    refine meetsThen doesGetDevice fun _ _ => meetsThen (writeSimhMetaDataCalm _ _) fun _ _ => ?_
    exact meetsThen (advanceCalm _) fun _ _ => modifyCalm fun _ => rfl
  refine meetsThen doesGetDevice fun d _ => meetsIte (fun _ => ?_) (fun _ => close)
  exact meetsThen (writeFileCalm _) fun _ _ => meetsThen (advanceCalm _) fun _ _ => close

theorem beginWriteCalm : Does Calm beginWrite := by
  refine meetsThen isAtRecordBoundaryCalm fun _ _ => meetsIte (fun _ => ?_) (fun _ => doesPure _)
  exact meetsThen doesGetDevice fun _ _ => writeMetaDataCalm _ _

theorem endWriteCalm : Does Calm endWrite := by
  have last : Does Calm (do if (← getDevice).remainingCount = 0 then writeMetaData .endOfData 0) :=
    meetsThen doesGetDevice fun _ _ => meetsIte (fun _ => writeMetaDataCalm _ _) (fun _ => doesPure _)
  refine meetsThen isAtRecordBoundaryCalm fun _ _ => meetsIte (fun _ => ?_) (fun _ => last)
  exact meetsThen finishRecordCalm fun _ _ => last

theorem writeDataCalm (chunkSize : Int) : Meets Calm (fun l => l = chunkSize) (writeData chunkSize) := by
  refine meetsThen beginWriteCalm fun _ _ => meetsThen doesGetDevice fun _ _ => ?_
  refine meetsThen (checkForOverflowCalm _) fun _ _ => meetsThen doesGetTransfer fun _ _ => ?_
  refine meetsThen (writeFileCalm _) fun _ _ => meetsThen (modifyCalm fun _ => rfl) fun _ _ => ?_
  exact meetsThen (advanceCalm _) fun _ _ => meetsThen endWriteCalm fun _ _ => meetsPure rfl

/-! The other commands. -/

theorem eraseChunksCalm (fuel remaining : Nat) : Does Calm (eraseChunks fuel remaining) := by
  induction fuel generalizing remaining with
  | zero => exact doesPure _
  | succ fuel ih =>
    refine meetsIte (fun _ => doesPure _) (fun _ => meetsThen (writeFileCalm _) fun _ _ => ?_)
    exact meetsThen (advanceCalm _) fun _ _ => meetsThen (modifyCalm fun _ => rfl) fun _ _ => ih _

theorem eraseCalm : Does Calm erase :=
  meetsThen doesGetDevice fun _ _ => eraseChunksCalm _ _

theorem checkNoTarCalm : Does Calm checkNoTar :=
  meetsThen doesGetDevice fun _ _ => meetsIte (fun _ => meetsThrow _) (fun _ => doesPure _)

theorem eraseAllCalm : Does Calm eraseAll :=
  meetsThen eraseCalm fun _ _ => resetPositionsCalm

theorem erase6Ends (cmd : ScsiCommand) : Ends cmd erase6 := by
  refine Meets.after (meetsThen checkReadyCalm fun _ _ => meetsThen checkNoTarCalm fun _ _ => ?_) cmd
  refine meetsThen (superCalm StorageDevice.checkWritePreconditionsCalm) fun _ _ => meetsThen doesGetRequest fun _ _ => ?_
  refine meetsIte (fun _ => meetsThen eraseAllCalm fun _ _ => ?_) (fun _ => ?_)
  · exact meetsThen (writeMetaDataCalm _ _) fun _ _ => meetsPure trivial
  · exact meetsThen (writeMetaDataCalm _ _) fun _ _ => meetsPure trivial

theorem readBlockLimitsEnds : Ends .readBlockLimits readBlockLimits :=
  meetsThen (afterSetBuffer _ _) fun _ _ => meetsPure rfl

theorem rewindEnds (cmd : ScsiCommand) : Ends cmd rewind :=
  Meets.after (meetsThen resetPositionsCalm fun _ _ => meetsPure trivial) cmd

theorem spaceOverCalm (code : ObjectType) : Does Calm (spaceOver code) := by
  refine meetsThen doesGetRequest fun _ _ => meetsIte (fun _ => ?_) (fun _ => meetsIte (fun _ => ?_) (fun _ => meetsThrow _))
  · exact meetsIte (fun _ => meetsThen (findNextCalm _ _ _) fun _ _ => doesPure _) (fun _ => doesPure _)
  · exact meetsThen (findNextCalm _ _ _) fun _ _ => advanceCalm _

theorem space6Ends (cmd : ScsiCommand) : Ends cmd space6 := by
  refine Meets.after (meetsThen checkReadyCalm fun _ _ => meetsThen checkNoTarCalm fun _ _ => ?_) cmd
  exact meetsThen doesGetRequest fun _ _ => meetsThen (spaceOverCalm _) fun _ _ => meetsPure trivial

theorem repeatFilemarkCalm (count : Nat) : Does Calm (repeatFilemark count) := by
  induction count with
  | zero => exact doesPure _
  | succ count ih => exact meetsThen (writeMetaDataCalm _ _) fun _ _ => ih

theorem locateFilemarksCalm (identifier : Nat) : Does Calm (locateFilemarks identifier) := by
  refine meetsThen resetPositionsCalm fun _ _ => meetsThen (findObjectCalm _) fun _ _ => ?_
  refine meetsIte (fun _ => meetsThen doesGetRequest fun _ _ => ?_) (fun _ => doesPure _)
  exact meetsThen (setInformationCalm _) fun _ _ => meetsThrow _

theorem writeFilemarksEnds (cmd : ScsiCommand) (writeFilemarks16 : Bool) : Ends cmd (writeFilemarks writeFilemarks16) := by
  refine Meets.after (meetsThen checkReadyCalm fun _ _ => meetsThen doesGetRequest fun r _ => ?_) cmd
  refine meetsThen doesGetDevice fun d _ => meetsIte (fun _ => meetsPure trivial) (fun _ => meetsUnless fun _ => ?_)
  refine meetsThen (superCalm StorageDevice.checkWritePreconditionsCalm) fun _ _ => meetsIte (fun _ => ?_) (fun _ => ?_)
  · refine meetsThen (locateFilemarksCalm _) fun _ _ => ?_
    exact meetsThen (repeatFilemarkCalm _) fun _ _ => meetsPure trivial
  · exact meetsThen (repeatFilemarkCalm _) fun _ _ => meetsPure trivial

theorem locateCommandEnds (cmd : ScsiCommand) (locate16 : Bool) : Ends cmd (locateCommand locate16) :=
  Meets.after (meetsThen (locateCalm locate16) fun _ _ => meetsPure trivial) cmd

theorem readPositionEnds : Ends .readPosition readPosition := by
  refine meetsThen (checkReadyCalm.after _) fun _ _ => meetsThen doesGetDevice fun _ _ => ?_
  exact meetsThen doesGetRequest fun _ _ => meetsThen (afterSetBuffer _ _) fun _ _ => meetsPure rfl

theorem formatMediumEnds (cmd : ScsiCommand) : Ends cmd formatMedium := by
  refine Meets.after (meetsThen checkReadyCalm fun _ _ => meetsThen checkNoTarCalm fun _ _ => ?_) cmd
  refine meetsThen (superCalm StorageDevice.checkWritePreconditionsCalm) fun _ _ => meetsThen doesGetDevice fun _ _ => ?_
  refine meetsUnless fun _ => meetsThen eraseAllCalm fun _ _ => ?_
  exact meetsThen (writeMetaDataCalm _ _) fun _ _ => meetsPure trivial

theorem verifyBlockSizeChangeCalm (requested : Nat) (temporary : Bool) :
    Does Calm (verifyBlockSizeChange requested temporary) := by
  refine meetsIte (fun _ => meetsThen (modifyCalm fun _ => rfl) fun _ _ => doesPure _) (fun _ => ?_)
  exact superCalm (StorageDevice.verifyBlockSizeChangeCalm _ _)

theorem ejectCalm (force : Bool) : Does Calm (eject force) := by
  refine meetsThen (superCalm (StorageDevice.primaryEjectCalm force)) fun _ _ => meetsIte (fun _ => ?_) (fun _ => doesPure _)
  refine meetsThen (superCalm StorageDevice.forgetFileCalm) fun _ _ => ?_
  exact meetsThen (modifyCalm fun _ => rfl) fun _ _ => doesPure _

theorem virtualCalm : virtual.Calm where
  flushCache := doesPure _
  eject := ejectCalm
  changeBlockSize size := superCalm (StorageDevice.changeBlockSizeCalm size)
  verifyBlockSizeChange := verifyBlockSizeChangeCalm

theorem commandsEnd : ∀ c ∈ commands, Ends c.1 c.2 := by
  simp only [commands,List.forall_mem_append,List.forall_mem_cons,List.not_mem_nil,false_implies,implies_true,and_true]
  refine ⟨⟨PrimaryDevice.commandsEnd (PrimaryDevice.inquiryEnds (inquiryInternalCalm _ _))
    (superEnds PrimaryDevice.requestSenseEnds),?_,?_,?_,?_,?_,?_,?_,?_,?_,?_,?_,?_,?_,?_⟩,
    StorageDevice.commandsEnd virtualCalm _ _⟩
  · exact readEnds rfl false
  · exact readEnds rfl true
  · exact writeEnds rfl false
  · exact writeEnds rfl true
  · exact erase6Ends _
  · exact readBlockLimitsEnds
  · exact rewindEnds _
  · exact space6Ends _
  · exact writeFilemarksEnds _ _
  · exact writeFilemarksEnds _ _
  · exact locateCommandEnds _ _
  · exact locateCommandEnds _ _
  · exact readPositionEnds
  · exact formatMediumEnds _

theorem sound : methods.Sound True where
  dispatch cmd := (StorageDevice.dispatchEnds commandsEnd cmd).imp fun _ => .inl
  readData := readDataAfter
  writeData cmd _ length := writesAll (writeDataCalm length) cmd
  modeSelect := StorageDevice.modeSelectCalm virtualCalm

end Tape
end Scsi2Pi
