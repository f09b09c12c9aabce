import Scsi2Pi.HandlerContract
import Scsi2Pi.StorageDevice

/-! The contract of the commands that devices with an image file share. -/
namespace Scsi2Pi
open Handler Derives CommandMetaData

namespace PageHandler
variable {δ : Type} [Derives δ PrimaryDevice]

theorem addModePagesAfter (cmd : ScsiCommand) (v : Support δ) (offset length maxSize : Nat) :
    Does (After cmd) (addModePages v offset length maxSize) := by
  intro r s
  simp [addModePages,afterIff]

theorem modeSelectEnds {cmd : ScsiCommand} (out : (getCdbMetaData cmd).hasDataOut = true)
    (supportsModeSelect supportsSaveParameters : Bool) (length : Nat) :
    Ends cmd (modeSelect supportsModeSelect supportsSaveParameters length : Handler δ PhaseCall) :=
  meetsThen doesGetRequest fun _ _ => meetsUnless fun _ => meetsPure out

theorem commandsEnd {modeSense6 modeSense10 : Handler δ Nat} (supportsModeSelect supportsSaveParameters : Bool)
    (six : Does (After .modeSense6) modeSense6) (ten : Does (After .modeSense10) modeSense10) :
    ∀ c ∈ commands modeSense6 modeSense10 supportsModeSelect supportsSaveParameters, Ends c.1 c.2 := by
  simp only [commands,List.forall_mem_cons,List.not_mem_nil,false_implies,implies_true,and_true]
  refine ⟨?_,?_,?_,?_⟩
  · exact meetsThen six fun _ _ => meetsPure rfl
  · exact meetsThen ten fun _ _ => meetsPure rfl
  · exact meetsThen doesGetRequest fun _ _ => modeSelectEnds rfl _ _ _
  · exact meetsThen doesGetRequest fun _ _ => modeSelectEnds rfl _ _ _

end PageHandler

namespace StorageDevice

@[simp] theorem basePrimary (d : StorageDevice) : (base d : PrimaryDevice) = d.toPrimaryDevice := rfl

/- An update of the fields of StorageDevice and Device. -/
theorem updateCalm {f : StorageDevice → StorageDevice}
    (same : ∀ d, (f d).senseKey = d.senseKey ∧ (f d).asc = d.asc ∧ (f d).reservingInitiator = d.reservingInitiator) :
    Does Calm (modifyDevice f) :=
  calmModifyDevice (fun d => (same d).1) (fun d => (same d).2.1) (fun d => (same d).2.2)

theorem checkWritePreconditionsCalm : Does Calm checkWritePreconditions :=
  meetsThen doesGetDevice fun _ _ => meetsIte (fun _ => meetsThrow _) (fun _ => doesPure _)

theorem primaryEjectCalm (force : Bool) : Does Calm (primaryEject force) := by
  intro r s
  simp [primaryEject,PrimaryDevice.eject,calmIff]
  split
  · simp
  · split <;> simp

theorem forgetFileCalm : Does Calm forgetFile := by
  refine meetsThen (updateCalm fun _ => ⟨rfl,rfl,rfl⟩) fun _ _ => meetsThen doesGetDevice fun _ _ => ?_
  refine meetsThen doesGetWorld fun _ _ => meetsThen (calmSetWorld _) fun _ _ => ?_
  exact updateCalm fun _ => ⟨rfl,rfl,rfl⟩

theorem verifyBlockSizeChangeCalm (requested : Nat) (temporary : Bool) :
    Does Calm (verifyBlockSizeChange requested temporary) := by
  refine meetsThen doesGetDevice fun _ _ => meetsIte (fun _ => doesPure _) (fun _ => ?_)
  exact meetsIte (fun _ => doesPure _) (fun _ => meetsThrow _)

theorem changeBlockSizeCalm (size : Nat) : Does Calm (changeBlockSize size) := by
  refine meetsThen doesGetDevice fun _ _ => meetsUnless fun _ => ?_
  exact meetsIte (fun _ => updateCalm fun _ => ⟨rfl,rfl,rfl⟩) (fun _ => doesPure _)

theorem reportMediumChangeCalm (cmd : ScsiCommand) : Does Calm (reportMediumChange cmd) := by
  refine meetsThen doesGetDevice fun _ _ => meetsIte (fun _ => ?_) (fun _ => doesPure _)
  exact meetsThen (updateCalm fun _ => ⟨rfl,rfl,rfl⟩) fun _ _ => meetsThrow _

theorem preventAllowMediumRemovalEnds : Ends .preventAllowMediumRemoval preventAllowMediumRemoval := by
  refine Meets.after (meetsThen doesGetRequest fun _ _ => ?_) _
  refine meetsThen (superCalm PrimaryDevice.checkReadyCalm) fun _ _ => ?_
  exact meetsThen (updateCalm fun _ => ⟨rfl,rfl,rfl⟩) fun _ _ => meetsPure trivial

/- The virtual functions of a class of storage devices. -/
structure Virtual.Calm {δ : Type} [Derives δ PrimaryDevice] (v : Virtual δ) : Prop where
  flushCache : Does Handler.Calm v.flushCache
  eject : ∀ force, Does Handler.Calm (v.eject force)
  changeBlockSize : ∀ size, Does Handler.Calm (v.changeBlockSize size)
  verifyBlockSizeChange : ∀ requested temporary, Does Handler.Calm (v.verifyBlockSizeChange requested temporary)

section
variable {δ : Type} [Derives δ PrimaryDevice] {v : Virtual δ}

theorem evaluateBlockDescriptorsCalm (calm : v.Calm) (length size : Nat) :
    Does Calm (evaluateBlockDescriptors v length size) := by
  refine meetsThen doesGetRequest fun _ _ => meetsThen doesGetTransfer fun _ _ => ?_
  refine meetsUnless fun _ => meetsUnless fun _ => ?_
  refine meetsIte (fun _ => ?_) (fun _ => doesPure _)
  exact meetsThen (calm.verifyBlockSizeChange _ _) fun _ _ => doesPure _

theorem selectPagesCalm (calm : v.Calm) (pages : Pages) (fuel offset length : Nat) :
    Does Calm (selectPages v pages fuel offset length) := by
  induction fuel generalizing offset length with
  | zero => exact doesPure _
  | succ fuel ih =>
    refine meetsIte (fun _ => doesPure _) (fun _ => meetsThen doesGetTransfer fun t _ => ?_)
    dsimp only
    split
    · exact meetsThrow _
    · refine meetsIte (fun _ => doesPure _) (fun _ => ?_)
      refine meetsUnless fun _ => meetsUnless fun _ => meetsIte (fun _ => ?_) (fun _ => ?_)
      · exact meetsThen (calm.verifyBlockSizeChange _ _) fun _ _ => ih _ _
      · exact meetsUnless fun _ => ih _ _

variable [Derives δ StorageDevice]

theorem modeSense6After : Does (After .modeSense6) (modeSense6 v) := by
  intro r s
  simp [modeSense6,PageHandler.addModePages,afterIff]

theorem modeSense10After : Does (After .modeSense10) (modeSense10 v) := by
  intro r s
  simp [modeSense10,PageHandler.addModePages,afterIff]

theorem stopMediumCalm (calm : v.Calm) (load : Bool) : Does Calm (stopMedium v load) := by
  refine meetsIte (fun _ => ?_) (fun _ => calm.flushCache)
  refine meetsThen doesGetDevice fun d _ => meetsUnless fun _ => ?_
  exact meetsThen (calm.eject false) fun _ _ => meetsIte (fun _ => meetsThrow _) (fun _ => doesPure _)

theorem selectModePagesCalm (calm : v.Calm) (length offset size : Nat) :
    Does Calm (selectModePages v length offset size) := by
  refine meetsThen doesGetRequest fun _ _ => meetsIte (fun _ => doesPure _) (fun _ => ?_)
  refine meetsThen doesGetDevice fun _ _ => ?_
  exact meetsThen (selectPagesCalm calm _ _ _ _) fun _ _ => calm.changeBlockSize _

variable [Inherits δ StorageDevice]

theorem superUpdateCalm {f : StorageDevice → StorageDevice}
    (same : ∀ d, (f d).senseKey = d.senseKey ∧ (f d).asc = d.asc ∧ (f d).reservingInitiator = d.reservingInitiator) :
    Does Calm (super (modifyDevice f) : Handler δ Unit) :=
  superCalm (updateCalm same)

theorem startMediumCalm (load : Bool) : Does Calm (startMedium load : Handler δ Unit) := by
  refine meetsThen doesGetRequest fun r _ => meetsThen doesGetDevice fun d _ => ?_
  refine meetsIte (fun _ => ?_) (fun _ => doesPure _)
  refine meetsThen (superUpdateCalm fun _ => ⟨rfl,rfl,rfl⟩) fun _ _ => meetsThen doesGetWorld fun w _ => ?_
  refine meetsUnless fun _ => meetsThen (calmSetWorld _) fun _ _ => ?_
  exact superUpdateCalm fun _ => ⟨rfl,rfl,rfl⟩

theorem startStopUnitEnds (calm : v.Calm) : Ends .startStop (startStopUnit v) := by
  refine Meets.after (meetsThen doesGetRequest fun r _ => ?_) _
  refine meetsIte (fun _ => meetsThen (superUpdateCalm fun _ => ⟨rfl,rfl,rfl⟩) fun _ _ => ?_) (fun _ => ?_)
  all_goals
    refine meetsIte (fun _ => ?_) (fun _ => ?_)
    · exact meetsThen (startMediumCalm _) fun _ _ => meetsPure trivial
    · exact meetsThen (stopMediumCalm calm _) fun _ _ => meetsPure trivial

theorem modeSelectCalm (calm : v.Calm) (length : Int) : Does Calm (modeSelect v length) := by
  refine meetsIte (fun _ => doesPure _) (fun _ => meetsThen doesGetDevice fun d _ => ?_)
  refine meetsThen (evaluateBlockDescriptorsCalm calm _ _) fun _ _ => ?_
  refine meetsIte (fun _ => ?_) (fun _ => selectModePagesCalm calm _ _ _)
  exact meetsThen (superUpdateCalm fun _ => ⟨rfl,rfl,rfl⟩) fun _ _ => selectModePagesCalm calm _ _ _

theorem commandsEnd (calm : v.Calm) (supportsModeSelect supportsSaveParameters : Bool) :
    ∀ c ∈ commands v supportsModeSelect supportsSaveParameters, Ends c.1 c.2 := by
  simp only [commands,List.forall_mem_cons]
  exact ⟨startStopUnitEnds calm,superEnds preventAllowMediumRemovalEnds,
    PageHandler.commandsEnd _ _ modeSense6After modeSense10After⟩

end
end StorageDevice
end Scsi2Pi
