import Scsi2Pi.DaynaPort
import Scsi2Pi.DiskContract
import Scsi2Pi.HostServices
import Scsi2Pi.Printer
import Scsi2Pi.ScsiGeneric

/-! The contract of the devices without an image file. The network adapter asks
for DATA OUT phases that the command table does not declare. -/
namespace Scsi2Pi
open Handler Derives CommandMetaData

namespace Printer

theorem cleanUpCalm : Does Calm cleanUp := by
  refine meetsThen doesGetDevice fun d _ => meetsIte (fun _ => ?_) (fun _ => modifyCalm fun _ => rfl)
  refine meetsThen doesGetWorld fun _ _ => meetsThen (calmSetWorld _) fun _ _ => ?_
  exact modifyCalm fun _ => rfl

theorem openOutputCalm : Does Calm openOutput := by
  refine meetsThen doesGetDevice fun d _ => meetsIte (fun _ => ?_) (fun _ => doesPure _)
  refine meetsThen doesGetRequest fun r _ => ?_
  cases r.env.temporaryFile with
  | none => exact meetsThrow _
  | some filename =>
    refine meetsThen doesGetWorld fun _ _ => meetsThen (calmSetWorld _) fun _ _ => ?_
    exact modifyCalm fun _ => rfl

theorem writeDataCalm (length : Int) : Meets Calm (fun l => l = length) (writeData length) := by
  refine meetsThen doesGetRequest fun _ _ => meetsUnless fun _ => meetsThen openOutputCalm fun _ _ => ?_
  refine meetsThen doesGetDevice fun _ _ => meetsThen doesGetTransfer fun _ _ => meetsThen doesGetWorld fun _ _ => ?_
  exact meetsThen (calmSetWorld _) fun _ _ => meetsPure rfl

theorem printEnds : Ends .print print := by
  refine meetsThen doesGetRequest fun _ _ => meetsThen doesGetTransfer fun _ _ => meetsUnless fun _ => ?_
  exact meetsThen (afterSetTransferSize _ _ _) fun _ _ => meetsPure rfl

theorem synchronizeBufferEnds (cmd : ScsiCommand) : Ends cmd synchronizeBuffer := by
  refine Meets.after (meetsThen doesGetDevice fun _ _ => meetsUnless fun _ => ?_) cmd
  refine meetsThen (modifyCalm fun _ => rfl) fun _ _ => meetsThen cleanUpCalm fun _ _ => ?_
  exact meetsThen doesGetRequest fun _ _ => meetsUnless fun _ => meetsPure trivial

theorem commandsEnd : ∀ c ∈ commands, Ends c.1 c.2 := by
  simp only [commands,List.forall_mem_append,List.forall_mem_cons,List.not_mem_nil,false_implies,implies_true,and_true]
  exact ⟨PrimaryDevice.commandsEnd (PrimaryDevice.inquiryEnds (inquiryInternalCalm _ _))
    (superEnds PrimaryDevice.requestSenseEnds),printEnds,synchronizeBufferEnds _,meetsPure trivial⟩

theorem sound : methods.Sound True where
  dispatch cmd := (dispatchMeets commandsEnd cmd).imp fun _ fits => .inl fits
  readData _ := doesPure _
  writeData cmd _ length := writesAll (writeDataCalm length) cmd
  modeSelect _ := meetsThrow _

end Printer

namespace HostServices

theorem setResultCalm (initiator : Int) (result : Option Bytes) : Does Calm (setResult initiator result) :=
  modifyCalm fun _ => rfl

theorem convertFormatCalm : Does Calm convertFormat := by
  refine meetsThen doesGetRequest fun _ _ => meetsIte (fun _ => doesPure _) (fun _ => ?_)
  exact meetsIte (fun _ => doesPure _) (fun _ => meetsIte (fun _ => doesPure _) (fun _ => meetsThrow _))

theorem startStopUnitEnds (cmd : ScsiCommand) : Ends cmd startStopUnit := by
  have modify (mode : ShutdownMode) :
      Does (After cmd) (modifyTransfer fun t => { t with shutdownMode := mode } : Handler HostServices Unit) :=
    afterModifyTransfer cmd (fun _ => rfl) (fun _ within => within)
  refine meetsThen doesGetRequest fun r _ => meetsIte (fun _ => ?_) (fun _ => ?_)
  · exact meetsThen (modify _) fun _ _ => meetsPure trivial
  · refine meetsIte (fun _ => ?_) (fun _ => meetsThen (meetsThrow _ : Does _ _) fun _ _ => meetsPure trivial)
    exact meetsThen (modify _) fun _ _ => meetsPure trivial

theorem executeOperationEnds : Ends .executeOperation executeOperation := by
  refine meetsThen doesGetRequest fun r _ => meetsThen ((setResultCalm _ _).after _) fun _ _ => ?_
  refine meetsThen (convertFormatCalm.after _) fun _ _ => meetsThen (Meets.after (modifyCalm ?_) _) fun _ _ => ?_
  · exact fun _ => rfl
  · exact meetsUnless fun _ => meetsThen (afterSetTransferSize _ _ _) fun _ _ => meetsPure rfl

theorem receiveOperationResultsEnds : Ends .receiveOperationResults receiveOperationResults := by
  refine meetsThen doesGetRequest fun r _ => meetsThen (convertFormatCalm.after _) fun _ _ => ?_
  refine meetsThen doesGetDevice fun d _ => ?_
  cases d.executionResults r.initiatorId with
  | none => exact meetsThrow _
  | some result =>
    refine meetsThen ((setResultCalm _ _).after _) fun _ _ => ?_
    exact meetsThen (afterCopyToBuffer _ _) fun _ _ => meetsPure rfl

theorem prepareModeSenseAfter (cmd : ScsiCommand) (allocationLength : Nat) :
    Does (After cmd) (prepareModeSense allocationLength) := by
  refine meetsThen doesGetRequest fun _ _ => meetsUnless fun _ => meetsThen doesGetTransfer fun _ _ => ?_
  exact meetsThen (afterSetBuffer _ _) fun _ _ => doesPure _

theorem modeSense6After (cmd : ScsiCommand) : Does (After cmd) modeSense6 := by
  refine meetsThen doesGetRequest fun _ _ => meetsThen (prepareModeSenseAfter _ _) fun _ _ => ?_
  refine meetsThen (PageHandler.addModePagesAfter _ _ _ _ _) fun _ _ => ?_
  exact meetsThen (afterSetBuffer _ _) fun _ _ => doesPure _

theorem modeSense10After (cmd : ScsiCommand) : Does (After cmd) modeSense10 := by
  refine meetsThen doesGetRequest fun _ _ => meetsThen (prepareModeSenseAfter _ _) fun _ _ => ?_
  refine meetsThen (PageHandler.addModePagesAfter _ _ _ _ _) fun _ _ => ?_
  exact meetsThen (afterSetBuffer _ _) fun _ _ => doesPure _

theorem dispatchCommandCalm (message : Bytes) : Does Calm (dispatchCommand message) := by
  refine meetsThen doesGetRequest fun r _ => meetsThen doesGetDevice fun d _ => ?_
  dsimp only
  cases r.env.parse d.inputFormat message with
  | none => exact meetsThrow _
  | some operation =>
    refine meetsThen doesGetWorld fun w _ => meetsThen (calmSetWorld _) fun _ _ => ?_
    cases r.env.dispatch d.inputFormat message with
    | none => exact meetsThrow _
    | some result => exact setResultCalm _ _

theorem writeDataCalm (length : Int) : Meets Calm (fun l => l = length) (writeData length) := by
  refine meetsThen doesGetRequest fun r _ => meetsUnless fun _ => meetsIte (fun _ => ?_) (fun _ => ?_)
  · exact meetsThen (setResultCalm _ _) fun _ _ => meetsPure rfl
  · refine meetsThen doesGetTransfer fun t _ => meetsThen (dispatchCommandCalm _) fun _ _ => ?_
    exact meetsPure rfl

theorem commandsEnd : ∀ c ∈ commands, Ends c.1 c.2 := by
  simp only [commands,List.forall_mem_append,List.forall_mem_cons,List.not_mem_nil,false_implies,implies_true,and_true]
  exact ⟨⟨PrimaryDevice.commandsEnd (PrimaryDevice.inquiryEnds (inquiryInternalCalm _ _))
    (superEnds PrimaryDevice.requestSenseEnds),startStopUnitEnds _,executeOperationEnds,receiveOperationResultsEnds⟩,
    PageHandler.commandsEnd _ _ (modeSense6After _) (modeSense10After _)⟩

theorem sound : methods.Sound True where
  dispatch cmd := (dispatchMeets commandsEnd cmd).imp fun _ fits => .inl fits
  readData _ := doesPure _
  writeData cmd _ length := writesAll (writeDataCalm length) cmd
  modeSelect _ := meetsThrow _

end HostServices

namespace DaynaPort

theorem inquiryInternalCalm : Does Calm inquiryInternal := by
  refine meetsThen doesGetDevice fun _ _ => meetsThen doesGetRequest fun _ _ => ?_
  exact meetsIte (fun _ => doesPure _) (fun _ => doesPure _)

theorem getMessageAfter (cmd : ScsiCommand) : Does (After cmd) getMessage := by
  refine meetsThen doesGetRequest fun r _ => meetsIte (fun _ => doesPure _) (fun _ => meetsIte (fun _ => ?_) (fun _ => ?_))
  · exact meetsThen (afterSetBuffer _ _) fun _ _ => doesPure _
  · exact meetsThen (afterSetBuffer _ _) fun _ _ => doesPure _

theorem getMessage6Ends : Ends .getMessage6 getMessage6 := by
  refine meetsThen doesGetRequest fun r _ => meetsUnless fun _ => meetsThen (getMessageAfter _) fun _ _ => ?_
  exact meetsThen (afterSetTransferSize _ _ _) fun _ _ => meetsPure rfl

theorem sendMessage6Ends : Ends .sendMessage6 sendMessage6 := by
  refine meetsThen doesGetRequest fun r _ => meetsUnless fun _ => ?_
  exact meetsThen (afterSetTransferSize _ _ _) fun _ _ => meetsPure rfl

theorem retrieveStatsEnds : Ends .retrieveStats retrieveStats := by
  refine meetsThen doesGetRequest fun r _ => meetsThen (afterSetBuffer _ _) fun _ _ => ?_
  exact meetsThen (afterSetTransferSize _ _ _) fun _ _ => meetsPure rfl

theorem setInterfaceModeSuits (cmd : ScsiCommand) : Meets (After cmd) (Suits False cmd) setInterfaceMode := by
  refine meetsThen doesGetRequest fun _ _ => meetsIte (fun _ => meetsPure (.inl trivial)) (fun _ => ?_)
  exact meetsIte (fun _ => meetsPure (.inr ⟨id,_,rfl⟩)) (fun _ => meetsThrow _)

theorem setMcastAddrSuits (cmd : ScsiCommand) : Meets (After cmd) (Suits False cmd) setMcastAddr :=
  meetsThen doesGetRequest fun _ _ => meetsUnless fun _ => meetsPure (.inr ⟨id,_,rfl⟩)

theorem enableInterfaceEnds (cmd : ScsiCommand) : Ends cmd enableInterface :=
  meetsThen doesGetRequest fun _ _ => meetsUnless fun _ => meetsPure trivial

theorem sendPacketCalm (data : Bytes) : Does Calm (sendPacket data) :=
  meetsThen doesGetWorld fun _ _ => calmSetWorld _

theorem writeDataAfter (cmd : ScsiCommand) (length : Int) : Does (After cmd) (writeData length) := by
  have rest : Does (After cmd) (do setTransferSize 0 0; return length : Handler DaynaPort Int) :=
    meetsThen (afterSetTransferSize _ _ _) fun _ _ => doesPure _
  refine meetsThen doesGetRequest fun r _ => meetsUnless fun _ => meetsThen doesGetTransfer fun t _ => ?_
  refine meetsIte (fun _ => meetsThen ((sendPacketCalm _).after _) fun _ _ => rest) (fun _ => ?_)
  exact meetsIte (fun _ => meetsThen ((sendPacketCalm _).after _) fun _ _ => rest) (fun _ => rest)

theorem commandsSuit : ∀ c ∈ commands, Meets (After c.1) (Suits False c.1) c.2 := by
  simp only [commands,List.forall_mem_append,List.forall_mem_cons,List.not_mem_nil,false_implies,implies_true,and_true]
  refine ⟨fun c member => (PrimaryDevice.commandsEnd (PrimaryDevice.inquiryEnds inquiryInternalCalm)
    (superEnds PrimaryDevice.requestSenseEnds) c member).imp fun _ => .inl,?_,?_,?_,?_,?_,?_⟩
  · exact getMessage6Ends.imp fun _ => .inl
  · exact sendMessage6Ends.imp fun _ => .inl
  · exact retrieveStatsEnds.imp fun _ => .inl
  · exact setInterfaceModeSuits _
  · exact setMcastAddrSuits _
  · exact (enableInterfaceEnds _).imp fun _ => .inl

theorem sound : methods.Sound False where
  dispatch := dispatchMeets commandsSuit
  readData _ := doesPure _
  writeData cmd _ length := fun r s => Eff.wpMono (writeDataAfter cmd length r s)
    (fun _ _ ended => ⟨ended.1,fun impossible => impossible.elim⟩) (fun _ _ failed => failed)
  modeSelect _ := meetsThrow _

end DaynaPort

namespace ScsiGeneric

@[simp] theorem basePrimary (d : ScsiGeneric) : (base d : PrimaryDevice) = d.toPrimaryDevice := rfl

/- What remains to be transferred is left to the controller. -/
structure Steady (cmd : ScsiCommand) (s t : HandlerState ScsiGeneric) : Prop extends After cmd s t where
  remaining : t.transfer.remainingLength = s.transfer.remainingLength

instance (cmd : ScsiCommand) : IsPreorder (HandlerState ScsiGeneric) (Steady cmd) where
  refl s := ⟨After.refl cmd s,rfl⟩
  trans _ _ _ h h' := ⟨h.toAfter.trans h'.toAfter,h'.remaining.trans h.remaining⟩

section
variable {α : Type} {P : α → Prop} {h : Handler ScsiGeneric α} (cmd : ScsiCommand)

theorem calmSteady (calm : Meets Calm P h) : Meets (Steady cmd) P h :=
  fun r s => Eff.wpMono (calm r s)
    (fun _ _ ended => ⟨⟨ended.1.after cmd,by rw [ended.1.transfer]⟩,ended.2⟩)
    (fun _ _ failed => ⟨failed.after cmd,by rw [failed.transfer]⟩)

theorem steadyAfter (steady : Meets (Steady cmd) P h) : Meets (After cmd) P h :=
  fun r s => Eff.wpMono (steady r s) (fun _ _ ended => ⟨ended.1.toAfter,ended.2⟩) (fun _ _ failed => failed.toAfter)

end

theorem setBufferSteady (cmd : ScsiCommand) (f : Bytes → Bytes) : Does (Steady cmd) (setBuffer f) :=
  fun _ s => ⟨⟨((afterSetBuffer cmd f) ⟨[],0,0,0,fun _ => true,false,{}⟩ s).1,rfl⟩,trivial⟩

theorem modifySteady (cmd : ScsiCommand) {f : ScsiGeneric → ScsiGeneric}
    (same : ∀ d, (f d).toPrimaryDevice = d.toPrimaryDevice) : Does (Steady cmd) (modifyDevice f) :=
  calmSteady cmd (modifyCalm same)

theorem markMissingLunSteady (cmd : ScsiCommand) (status : Nat) : Does (Steady cmd) (markMissingLun status) := by
  refine meetsThen doesGetDevice fun _ _ => meetsThen doesGetRequest fun _ _ => ?_
  exact meetsIte (fun _ => setBufferSteady cmd _) (fun _ => doesPure _)

theorem evaluateStatusSteady (cmd : ScsiCommand) (result : SgResult) (write : Bool) :
    Does (Steady cmd) (evaluateStatus result write) := by
  unfold evaluateStatus
  refine meetsUnless fun _ => ?_
  refine meetsThen (markMissingLunSteady cmd _) fun _ _ => meetsIte (fun _ => ?_) (fun _ => doesPure _)
  exact meetsThen (modifySteady cmd fun _ => rfl) fun _ _ => meetsThrow _

theorem updateInternalBlockSizeSteady (cmd : ScsiCommand) (length : Int) :
    Does (Steady cmd) (updateInternalBlockSize length) := by
  refine meetsThen doesGetDevice fun _ _ => meetsThen doesGetTransfer fun _ _ => ?_
  exact meetsIte (fun _ => modifySteady cmd fun _ => rfl) (fun _ => doesPure _)

theorem storeResultSteady (cmd : ScsiCommand) (write : Bool) (result : SgResult) (length : Int) :
    Does (Steady cmd) (storeResult write result length) :=
  meetsIte (fun _ => setBufferSteady cmd _) (fun _ => doesPure _)

theorem updateInquiryLevelSteady (cmd : ScsiCommand) : Does (Steady cmd) updateInquiryLevel :=
  meetsThen doesGetDevice fun _ _ => meetsIte (fun _ => setBufferSteady cmd _) (fun _ => doesPure _)

/- The driver does not transfer more than it is asked for. -/
theorem readWriteDataSteady (cmd : ScsiCommand) (data : Bytes) (chunkSize : Int) :
    Meets (Steady cmd) (fun l => l ≤ chunkSize) (readWriteData data chunkSize) := by
  refine meetsThen doesGetDevice fun d _ => meetsThen (modifySteady cmd fun _ => rfl) fun _ _ => ?_
  refine meetsThen doesGetDevice fun d' _ => meetsThen doesGetRequest fun r _ => ?_
  refine meetsThen (storeResultSteady cmd _ _ _) fun _ _ => meetsThen (modifySteady cmd fun _ => rfl) fun _ _ => ?_
  refine meetsThen (evaluateStatusSteady cmd _ _) fun _ _ => ?_
  refine meetsThen (updateInternalBlockSizeSteady cmd _) fun _ _ => meetsThen (modifySteady cmd fun _ => rfl) fun _ _ => ?_
  refine meetsThen (updateInquiryLevelSteady cmd) fun _ _ => meetsThen (modifySteady cmd fun _ => rfl) fun _ _ => ?_
  exact meetsPure (by omega)

theorem readDataAfter (cmd : ScsiCommand) : Does (After cmd) readData :=
  meetsThen doesGetTransfer fun _ _ => (steadyAfter cmd (readWriteDataSteady cmd _ _)).does

theorem steadyWrites {cmd : ScsiCommand} {length : Int} {h : Handler ScsiGeneric Int}
    (steady : Meets (Steady cmd) (fun l => l ≤ length) h) : Writes True cmd length h :=
  fun r s => Eff.wpMono (steady r s)
    (fun _ _ ended => ⟨ended.1.toAfter,fun _ within => by rw [ended.1.remaining]; exact le_trans ended.2 within⟩)
    (fun _ _ failed => failed.toAfter)

theorem beginFormatWrites (cmd : ScsiCommand) (buf : Bytes) (length : Int) :
    Writes True cmd length (beginFormat buf) := by
  intro r s
  have some : (0 : Int) ≤ (MemoryUtil.getInt16 buf 2 : Int) + 4 := by omega
  simp [beginFormat,afterIff,some]

theorem continueFormatWrites (cmd : ScsiCommand) (buf : Bytes) (length : Int) :
    Writes True cmd length (continueFormat buf length) :=
  steadyWrites (meetsThen (modifySteady cmd fun _ => rfl) fun _ _ => meetsThen doesGetDevice fun _ _ =>
    readWriteDataSteady cmd _ _)

theorem writeDataWrites (cmd : ScsiCommand) (length : Int) : Writes True cmd length (writeData length) := by
  intro r s
  simp only [writeData,Eff.wpBind,wpGetDevice,wpGetTransfer,Eff.wpIte]
  refine ⟨fun _ => ⟨fun _ => ?_,fun _ => ?_⟩,fun _ => ?_⟩
  · exact beginFormatWrites cmd _ length r s
  · exact continueFormatWrites cmd _ length r s
  · exact steadyWrites (readWriteDataSteady cmd _ length) r s

theorem dispatchEnds (cmd : ScsiCommand) : Ends cmd (dispatch cmd) := by
  refine meetsThen doesGetRequest fun r _ => meetsUnless fun _ => ?_
  refine meetsThen (Meets.after (modifyCalm ?_) cmd) fun _ _ => meetsUnless fun _ => meetsThen doesGetDevice fun d _ => ?_
  · exact fun _ => rfl
  refine meetsThen (Meets.after (modifyCalm ?_) cmd) fun _ _ => meetsIte (fun sense => ?_) (fun _ => ?_)
  · exact fun _ => rfl
  · refine meetsThen (afterSetBuffer cmd _) fun _ _ => meetsThen (afterSetTransferSize cmd _ _) fun _ _ => ?_
    exact meetsPure (by rw [sense.1]; rfl)
  · refine meetsThen (afterSetTransferSize cmd _ _) fun _ _ => meetsIte (fun out => meetsPure out) (fun into => ?_)
    refine meetsThen (afterSetCurrentLength cmd _) fun _ _ => meetsThen (readDataAfter cmd) fun _ _ => ?_
    exact meetsPure (by simpa using into)

theorem sound : methods.Sound True where
  dispatch cmd := (dispatchEnds cmd).imp fun _ => .inl
  readData := readDataAfter
  writeData cmd _ length := writeDataWrites cmd length
  modeSelect _ := meetsThrow _

end ScsiGeneric
end Scsi2Pi
