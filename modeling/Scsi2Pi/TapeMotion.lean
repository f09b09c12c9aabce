import Scsi2Pi.HandlerContract
import Scsi2Pi.Tape

/-! Moves along a tape. They change the position and the object location, and an
exception leaves what it says about the medium; nothing else is touched. -/
namespace Scsi2Pi
open Handler Derives Eff SimhUtil

instance : Inherits Tape StorageDevice := ⟨fun _ => rfl⟩

namespace Tape

/- A drive without what a move may change. -/
def still (d : Tape) : Tape := { d with
  reset := false
  attn := false
  eom := .none
  valid := false
  filemark := false
  information := 0
  tapePosition := 0
  objectLocation := 0 }

structure Moved (s t : HandlerState Tape) : Prop where
  device : still t.device = still s.device
  transfer : t.transfer = s.transfer
  world : t.world = s.world

instance : IsPreorder (HandlerState Tape) Moved where
  refl _ := ⟨rfl,rfl,rfl⟩
  trans _ _ _ h h' := ⟨h'.device.trans h.device,h'.transfer.trans h.transfer,h'.world.trans h.world⟩

/- A function of the drive that does not see a move. -/
theorem Moved.same {s t : HandlerState Tape} (moved : Moved s t) {α : Type} (f : Tape → α)
    (blind : ∀ d, f (still d) = f d) : f t.device = f s.device :=
  (blind _).symm.trans ((congrArg f moved.device).trans (blind _))

theorem Moved.calm {s t : HandlerState Tape} (moved : Moved s t) : Calm s t :=
  ⟨moved.same (fun d => d.senseKey) fun _ => rfl,moved.same (fun d => d.asc) fun _ => rfl,
    moved.same (fun d => d.reservingInitiator) fun _ => rfl,moved.transfer⟩

/- Moving does not write, so there is no overflow. -/
def NoOverflow (e : ScsiException) : Prop := e.senseKey ≠ .volumeOverflow

instance : DecidablePred NoOverflow := fun _ => inferInstanceAs (Decidable (_ ≠ _))

abbrev Moves {α : Type} (P : α → Prop) (h : Handler Tape α) : Prop := Ensures Moved P NoOverflow h

theorem movesCalm {α : Type} {P : α → Prop} {h : Handler Tape α} (moves : Moves P h) : Meets Calm P h :=
  fun r s => wpMono (moves r s) (fun _ _ ended => ⟨ended.1.calm,ended.2⟩) (fun _ _ failed => failed.1.calm)

theorem modifyMoves {f : Tape → Tape} (same : ∀ d, still (f d) = still d) : Moves (fun _ => True) (modifyDevice f) :=
  fun _ s => ⟨⟨same s.device,rfl,rfl⟩,trivial⟩

theorem superModifyMoves {f : PrimaryDevice → PrimaryDevice} (same : ∀ d : Tape, still (setBase d (f (base d))) = still d) :
    Moves (fun _ => True) (super (modifyDevice f)) :=
  fun _ s => ⟨⟨same s.device,rfl,rfl⟩,trivial⟩

/-! Positions. -/

theorem checkReadyMoves : Moves (fun _ => True) checkReady := by
  intro r s
  simp only [checkReady,PrimaryDevice.checkReady,wpSuper,wpBind,wpGetDevice,wpIte,wpModifyDevice,wpThrow,wpPure]
  have same (d : Tape) (moved : still d = still s.device) : Moved s ⟨d,s.transfer,s.world⟩ := ⟨moved,rfl,rfl⟩
  refine ⟨fun _ => ⟨same _ rfl,by decide⟩,fun _ => ⟨fun _ => ⟨same _ rfl,by decide⟩,fun _ => ⟨fun _ => ?_,fun _ => ?_⟩⟩⟩
  · exact ⟨same _ rfl,by decide⟩
  · exact ⟨same _ rfl,trivial⟩

theorem setInformationMoves (value : Int) : Moves (fun _ => True) (setInformation value) := superModifyMoves fun _ => rfl

theorem resetPositionsMoves : Moves (fun _ => True) resetPositions := modifyMoves fun _ => rfl

theorem placeMoves (position location : Tape → Int) : Moves (fun _ => True)
    (modifyDevice fun d => { d with tapePosition := position d, objectLocation := location d }) :=
  modifyMoves fun _ => rfl

theorem advanceMoves (count : Int) : Moves (fun _ => True) (advance count) := modifyMoves fun _ => rfl

/-! Exceptions. -/

section
variable {α : Type} {P : α → Prop} (info : Int)

theorem raiseBeginningOfPartitionMoves : Moves P (raiseBeginningOfPartition info : Handler Tape α) := by
  refine ensuresThen resetPositionsMoves fun _ _ => ensuresThen (setInformationMoves info) fun _ _ => ?_
  exact ensuresThen (superModifyMoves fun _ => rfl) fun _ _ => ensuresThrow (by decide)

theorem raiseEndOfPartitionMoves : Moves P (raiseEndOfPartition info : Handler Tape α) := by
  refine ensuresThen (setInformationMoves info) fun _ _ => ?_
  exact ensuresThen (superModifyMoves fun _ => rfl) fun _ _ => ensuresThrow (by decide)

theorem raiseEndOfDataMoves : Moves P (raiseEndOfData info : Handler Tape α) :=
  ensuresThen (advanceMoves _) fun _ _ => ensuresThen (setInformationMoves info) fun _ _ => ensuresThrow (by decide)

theorem raiseFilemarkMoves (reverse read : Bool) : Moves P (raiseFilemark info reverse read : Handler Tape α) := by
  have mark : Moves P (do
      super (modifyDevice fun (d : PrimaryDevice) => { d with filemark := true })
      throw ⟨.noSense,.noAdditionalSenseInformation⟩ : Handler Tape α) :=
    ensuresThen (superModifyMoves fun _ => rfl) fun _ _ => ensuresThrow (by decide)
  refine ensuresThen ensuresGetRequest fun _ _ => ensuresThen ensuresGetDevice fun _ _ => ensuresIte (fun _ => ?_) (fun _ => ?_)
  · exact ensuresThen (setInformationMoves _) fun _ _ => mark
  · exact ensuresThen (setInformationMoves _) fun _ _ => mark

end

/-! Objects. -/

theorem readFileMoves (count : Int) : Moves (fun _ => True) (readFile count) := by
  refine ensuresThen ensuresGetDevice fun d _ => ensuresThen ensuresGetWorld fun w _ => ?_
  cases d.stream w with
  | none => exact ensuresThrow (by decide)
  | some bytes => exact ensuresUnless (by decide) fun _ => ensuresPure trivial

theorem readMetaDataHereMoves : Moves (fun _ => True) readMetaDataHere := by
  refine ensuresThen ensuresGetDevice fun d _ => ensuresThen ensuresGetWorld fun w _ => ?_
  cases readMetaData (d.stream w) d.tapePosition with
  | none => exact ensuresThrow (by decide)
  | some metaData => exact ensuresPure trivial

theorem readNextMetaDataMoves (reverse : Bool) : Moves (fun _ => True) (readNextMetaData reverse) := by
  refine ensuresIte (fun _ => ?_) (fun _ => ?_)
  · refine ensuresThen (advanceMoves _) fun _ _ => ensuresThen ensuresGetDevice fun _ _ => ?_
    refine ensuresIte (fun _ => ensuresPure trivial) (fun _ => ensuresThen readMetaDataHereMoves fun _ _ => ?_)
    exact ensuresThen (advanceMoves _) fun _ _ => ensuresPure trivial
  · exact ensuresThen readMetaDataHereMoves fun _ _ => ensuresThen (advanceMoves _) fun _ _ => ensuresPure trivial

theorem updateObjectLocationMoves (m : SimhMetaData) (reverse : Bool) : Moves (fun _ => True) (updateObjectLocation m reverse) := by
  refine modifyMoves fun d => ?_
  split <;> rfl

theorem readSimhMetaDataMoves (count : Int) (reverse : Bool) (fuel : Nat) :
    Moves (fun _ => True) (readSimhMetaData count reverse fuel) := by
  induction fuel with
  | zero => exact ensuresThrow (by decide)
  | succ fuel ih =>
    refine ensuresThen (readNextMetaDataMoves reverse) fun found _ => ?_
    cases found with
    | none => exact raiseBeginningOfPartitionMoves count
    | some metaData =>
      refine ensuresThen (updateObjectLocationMoves metaData reverse) fun _ _ => ?_
      cases objectOf metaData with
      | some object => exact ensuresPure trivial
      | none =>
        have next : Moves (fun _ => True) (do
            if !reverse then advance (recordSize metaData)
            readSimhMetaData count reverse fuel) :=
          ensuresIte (fun _ => ensuresThen (advanceMoves _) fun _ _ => ih) (fun _ => ih)
        refine ensuresIte (fun _ => ?_) (fun _ => next)
        exact ensuresThen (raiseEndOfPartitionMoves (P := fun _ => True) count) fun _ _ => next

theorem passObjectMoves (m : SimhMetaData) (reverse : Bool) : Moves (fun _ => True) (passObject m reverse) :=
  ensuresIte (fun _ => advanceMoves _) (fun _ => ensuresPure trivial)

theorem judgeObjectMoves (typeToFind : ObjectType) (reverse read : Bool) (typeFound : ObjectType) (count : Int) :
    Moves (fun _ => True) (judgeObject typeToFind reverse read typeFound count) := by
  unfold judgeObject
  have verdict : Moves (fun _ => True) (if typeToFind ≠ .endOfData ∧ typeFound = typeToFind then
      pure (if count - 1 ≤ 0 then none else some (count - 1)) else pure (some count) : Handler Tape (Option Int)) :=
    ensuresIte (fun _ => ensuresPure trivial) (fun _ => ensuresPure trivial)
  have afterFilemark : Moves (fun _ => True) (do
      if typeFound = .filemark ∧ typeToFind = .block then raiseFilemark count reverse read
      if typeToFind ≠ .endOfData ∧ typeFound = typeToFind then
        return if count - 1 ≤ 0 then none else some (count - 1)
      return some count : Handler Tape (Option Int)) := by
    refine ensuresIte (fun _ => ?_) (fun _ => verdict)
    exact ensuresThen (raiseFilemarkMoves (P := fun _ => True) count reverse read) fun _ _ => verdict
  refine ensuresIte (fun _ => ensuresIte (fun _ => ensuresPure trivial) (fun _ => ?_)) (fun _ => afterFilemark)
  exact ensuresThen (raiseEndOfDataMoves (P := fun _ => True) count) fun _ _ => afterFilemark

theorem findNextObjectMoves (limit : Nat) (typeToFind : ObjectType) (reverse read : Bool) (fuel : Nat) (count : Int) :
    Moves (fun _ => True) (findNextObject limit typeToFind reverse read fuel count) := by
  induction fuel generalizing count with
  | zero => exact ensuresThrow (by decide)
  | succ fuel ih =>
    refine ensuresThen (readSimhMetaDataMoves count reverse limit) fun found _ => ?_
    obtain ⟨⟨typeFound,length⟩,metaData⟩ := found
    refine ensuresIte (fun _ => ensuresPure trivial) (fun _ => ?_)
    refine ensuresThen (passObjectMoves _ _) fun _ _ => ensuresThen (judgeObjectMoves _ _ _ _ _) fun verdict _ => ?_
    cases verdict with
    | none => exact ensuresPure trivial
    | some rest => exact ih rest

theorem findNextMoves (typeToFind : ObjectType) (count : Int) (read : Bool) : Moves (fun _ => True) (findNext typeToFind count read) :=
  ensuresThen ensuresGetDevice fun _ _ => ensuresThen ensuresGetWorld fun _ _ => findNextObjectMoves _ _ _ _ _ _

theorem findObjectFromMoves (limit fuel identifier : Nat) : Moves (fun _ => True) (findObjectFrom limit fuel identifier) := by
  induction fuel generalizing identifier with
  | zero => exact ensuresThrow (by decide)
  | succ fuel ih =>
    refine ensuresThen (readSimhMetaDataMoves 0 false limit) fun found _ => ?_
    obtain ⟨object,metaData⟩ := found
    refine ensuresIte (fun _ => ensuresPure trivial) (fun _ => ensuresIte (fun _ => ?_) (fun _ => ih _))
    exact ensuresThen (advanceMoves _) fun _ _ => ensuresIte (fun _ => ensuresPure trivial) (fun _ => ih _)

theorem findObjectMoves (identifier : Nat) : Moves (fun _ => True) (findObject identifier) :=
  ensuresThen ensuresGetDevice fun _ _ => ensuresThen ensuresGetWorld fun _ _ => findObjectFromMoves _ _ _

theorem locateMoves (locate16 : Bool) : Moves (fun _ => True) (locate locate16) := by
  refine ensuresThen checkReadyMoves fun _ _ => ensuresThen ensuresGetRequest fun r _ => ensuresUnless (by decide) fun _ => ?_
  refine ensuresThen ensuresGetDevice fun d _ => ensuresIte (fun _ => ensuresIte (fun _ => ?_) (fun _ => ?_)) (fun _ => ?_)
  · exact ensuresUnless (by decide) fun _ => ensuresThen (placeMoves _ _) fun _ _ => ensuresPure trivial
  · exact ensuresThen (placeMoves _ _) fun _ _ => ensuresPure trivial
  · refine ensuresUnless (by decide) fun _ => ensuresThen resetPositionsMoves fun _ _ => ?_
    exact ensuresIte (fun _ => findObjectMoves _) (fun _ => ensuresPure trivial)

end Tape
end Scsi2Pi
