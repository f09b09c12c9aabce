import Scsi2Pi.TapeSpacing

/-! SPACE: what is left to move over when it ends too early, and the way back. -/
namespace Scsi2Pi
open Slices MemoryUtil Handler Derives Eff SimhUtil

namespace Tape

/- SPACE over blocks or filemarks, by a signed number of objects. -/
structure Spaces (r : Request) (type : ObjectType) (count : Int) : Prop where
  opcode : r.opcode = .space6
  code : r.cdbByte 1 &&& 0x07 = type
  kind : type = .block ∨ type = .filemark
  count : signedInt24 (r.cdbInt24 2) = count

/- The checks of the command. -/
def SpaceRefused (s : HandlerState Tape) : Prop :=
  s.device.mediumChanged = true ∨ s.device.reset = true ∨ s.device.attn = true ∨ s.device.ready = false ∨
    s.device.tarFile = true

section
variable {r : Request} {s : HandlerState Tape} {bytes : Bytes} {ending : SimhEnd} {objects : List SimhObject}
  {type : ObjectType} {count position location : Int}

theorem Spaces.small (spaces : Spaces r type count) : count.natAbs ≤ 2^23 := by
  have range := getInt24Lt r.cdb 2
  have same := spaces.count
  unfold signedInt24 Request.cdbInt24 at same
  split at same <;> omega

theorem wpSpace6 (spaces : Spaces r type count) (moves : count ≠ 0) (wellFormed : ∀ o ∈ objects, o.WellFormed)
    (fits : objects.length ≤ bytes.length) (ahead : Ahead bytes ending (decide (count < 0)) objects position)
    (opened : s.device.stream s.world = some bytes) (here : s.device.tapePosition = position)
    (at_ : s.device.objectLocation = location) :
    wp (methods.dispatch r.opcode) r s
      (fun call t => call = .status ∧ ∃ moved o later, Spaced type objects count.natAbs moved o later ∧
        Here bytes (pastAll (decide (count < 0)) position (moved ++ [o]))
          (locatedAll (decide (count < 0)) location (moved ++ [o])) t)
      fun e t => SpaceRefused s ∨
        ∃ moved later, Stopped type (decide (count < 0)) ending objects count.natAbs moved later e t := by
  have command : (r.opcode ≠ .inquiry ∧ r.opcode ≠ .requestSense) ∧ Handler.dispatch commands r.opcode = space6 := by
    rw [spaces.opcode]
    exact ⟨by decide,rfl⟩
  refine wpDispatch command.1 command.2 (fun changed _ _ _ => .inl (.inl changed)) fun unchanged => ?_
  unfold space6
  rw [wpBind]
  refine wpCheckReady (fun busy _ _ _ => .inl ?_) fun reset attn ready => ?_
  · exact .inr (busy.imp_right fun busy => busy.imp_right .inl)
  rw [wpBind]
  refine wpCheckNoTar (fun tar => .inl (.inr (.inr (.inr (.inr tar))))) fun simh => ?_
  have known : Here bytes position location s := ⟨opened,here,at_,⟨unchanged,reset,attn,ready,simh⟩⟩
  have limit : objects.length < scanLimit (some bytes) := by
    unfold scanLimit
    rw [Option.getD_some]
    omega
  have found := wpFindNextObject (r := r) spaces.kind wellFormed limit limit ahead known (by omega : 0 < count.natAbs)
    spaces.small
  unfold spaceOver findNext
  rw [wpBind,wpGetRequest,wpBind,wpBind,wpGetRequest,spaces.code,if_pos spaces.kind,spaces.count,if_pos moves]
  simp only [wpBind,wpGetDevice,wpGetWorld,opened]
  exact wpMono found (fun _ t ended => ⟨rfl,ended⟩) fun _ _ failed => .inr failed

/- The objects of an image ahead of a position between two of them. -/
theorem aheadOf {image : SimhImage} {passed rest : List SimhObject} (split : image.objects = passed ++ rest)
    (reverse : Bool) : Ahead image.bytes image.ending reverse (if reverse then passed.reverse else rest)
      (passed.flatMap SimhObject.encode).length := by
  have whole : image.bytes = passed.flatMap SimhObject.encode ++ SimhImage.bytesOf rest image.ending := by
    simp only [SimhImage.bytes,SimhImage.bytesOf,split,List.flatMap_append,List.append_assoc]
  cases reverse with
  | false => exact .forward _ _ whole
  | true =>
    have ahead (bytes : Bytes) := @Ahead.backward bytes image.ending passed.reverse (SimhImage.bytesOf rest image.ending)
    rw [List.reverse_reverse] at ahead
    exact ahead _ whole

theorem wellFormedOf {image : SimhImage} {passed rest : List SimhObject} (split : image.objects = passed ++ rest)
    (reverse : Bool) : (∀ o ∈ if reverse then passed.reverse else rest, o.WellFormed) ∧
      (if reverse then passed.reverse else rest).length ≤ image.bytes.length := by
  have fits := SimhImage.objectsFit image.objects image.ending
  have total : image.objects.length = passed.length + rest.length := by rw [split,List.length_append]
  refine ⟨fun o h => image.wellFormed o ?_,?_⟩
  · rw [split]
    cases reverse with
    | false => exact List.mem_append_right _ h
    | true => exact List.mem_append_left _ (List.mem_reverse.mp h)
  · refine Nat.le_trans ?_ fits
    cases reverse with
    | false => exact total ▸ Nat.le_add_left _ _
    | true => exact (List.length_reverse).trans_le (total ▸ Nat.le_add_right _ _)

/-! The way back. -/

theorem numberAppend (type : ObjectType) (a b : List SimhObject) :
    numberOf type (a ++ b) = numberOf type a + numberOf type b := List.countP_append

theorem numberCons (type : ObjectType) (o : SimhObject) (a : List SimhObject) :
    numberOf type (o :: a) = numberOf type a + if isType type o then 1 else 0 := List.countP_cons

/- There is one place only where a number of objects ends. -/
theorem spacedOnce {a b c d : List SimhObject} {x y : SimhObject} (same : a ++ x :: b = c ++ y :: d)
    (number : numberOf type a = numberOf type c) (left : isType type x = true) (right : isType type y = true) :
    a = c ∧ x = y := by
  induction a generalizing c with
  | nil =>
    cases c with
    | nil => exact ⟨rfl,List.head_eq_of_cons_eq same⟩
    | cons z c =>
      have head : x = z := List.head_eq_of_cons_eq same
      rw [numberCons,← head,left] at number
      simp [numberOf] at number
  | cons w a ih =>
    cases c with
    | nil =>
      have head : w = y := List.head_eq_of_cons_eq same
      rw [numberCons,head,right] at number
      simp [numberOf] at number
    | cons z c =>
      have head : w = z := List.head_eq_of_cons_eq same
      rw [numberCons,numberCons,head] at number
      obtain ⟨equal,last⟩ := ih (List.tail_eq_of_cons_eq same) (Nat.add_right_cancel number)
      exact ⟨by rw [head,equal],last⟩

/- The first object of a type. -/
theorem firstOf (some : 0 < numberOf type objects) : ∃ front f behind, objects = front ++ f :: behind ∧
    numberOf type front = 0 ∧ isType type f = true := by
  induction objects with
  | nil => cases some
  | cons o objects ih =>
    cases here : isType type o with
    | true => exact ⟨[],o,objects,rfl,rfl,here⟩
    | false =>
      rw [numberCons,here] at some
      obtain ⟨front,f,behind,same,none,typed⟩ := ih some
      refine ⟨o :: front,f,behind,by rw [same]; rfl,?_,typed⟩
      rw [numberCons,here,none]
      rfl

theorem numberReverse (type : ObjectType) (objects : List SimhObject) :
    numberOf type objects.reverse = numberOf type objects := by
  unfold numberOf
  rw [List.countP_reverse]

/- Nothing stops the tape before it has seen again what it has moved over. -/
theorem backRuns {segment passed moved later : List SimhObject} {number : Nat} {e : ScsiException}
    {t : HandlerState Tape} (enough : numberOf type segment = number) (blocks : type = .block → NoFilemark segment)
    (stopped : Stopped type true ending (segment ++ passed) number moved later e t) : False := by
  have short := stopped.short
  have whole (behind : List SimhObject) (same : moved = segment ++ behind) : False := by
    rw [same,numberAppend] at short
    omega
  cases stopped.stops with
  | filemark o later block mark =>
    rcases List.append_eq_append_iff.mp stopped.split with ⟨behind,same,_⟩ | ⟨inside,same,other⟩
    · exact whole behind same
    · cases inside with
      | nil => exact whole [] (by rw [same,List.append_nil,List.append_nil])
      | cons p inside =>
        have head : o = p := List.head_eq_of_cons_eq other
        refine blocks block o ?_ mark
        rw [same,head]
        exact List.mem_append_right _ List.mem_cons_self
  | data stale forward => cases forward
  | edge e ends =>
    refine whole passed ?_
    have split := stopped.split
    rw [List.append_nil] at split
    exact split.symm

theorem pastForward (position : Int) (objects : List SimhObject) :
    pastAll false position objects = position + (objects.flatMap SimhObject.encode).length := by
  induction objects generalizing position with
  | nil => simp [pastAll]
  | cons o objects ih =>
    have next := ih (past false position o)
    change pastAll false (past false position o) objects = _
    rw [next,List.flatMap_cons,List.length_append]
    simp only [past,Bool.false_eq_true,if_false]
    push_cast
    omega

theorem pastPassed (passed segment : List SimhObject) :
    pastAll false (passed.flatMap SimhObject.encode).length segment =
      ((passed ++ segment).flatMap SimhObject.encode).length := by
  rw [pastForward,List.flatMap_append,List.length_append]
  push_cast
  rfl

theorem isFilemark {o : SimhObject} (mark : isType .filemark o = true) : o = .filemark := by
  cases o with
  | record cls data =>
    simp only [isType,SimhObject.item] at mark
    split at mark <;> cases mark
  | badMark => cases mark
  | filemark => rfl
  | marker cls value => cases mark

theorem blockUnmarked {o : SimhObject} (block : isType .block o = true) : o.item ≠ some .filemark := by
  intro mark
  rw [isType,mark] at block
  cases block

theorem unmarked (none : numberOf .filemark objects = 0) : NoFilemark objects := by
  intro o h mark
  refine List.countP_eq_zero.mp none o h ?_
  rw [isType,mark]
  rfl

/- A block at the start is the first one. -/
theorem noneBefore {front behind later : List SimhObject} {f start : SimhObject} (block : type = .block)
    (head : (front ++ f :: behind ++ later).head? = some start) (object : start.item ≠ none)
    (blocks : NoFilemark (front ++ f :: behind)) (none : numberOf type front = 0) : front = [] := by
  cases front with
  | nil => rfl
  | cons o front =>
    obtain rfl : o = start := Option.some.inj head
    refine absurd ?_ (List.countP_eq_zero.mp none o List.mem_cons_self)
    have plain := blocks o (List.mem_append_left _ List.mem_cons_self)
    rw [isType,block]
    cases here : o.item with
    | none => exact absurd here object
    | some item =>
      cases item with
      | block data => rfl
      | unreadable => rfl
      | filemark => exact absurd here plain

/- The way back over as many objects ends in front of the first one. -/
theorem wpBack {passed front behind : List SimhObject} {f : SimhObject} {number : Nat}
    (spaces : Spaces r type (-(number : Int))) (some : 0 < number)
    (wellFormed : ∀ o ∈ (front ++ f :: behind).reverse ++ passed, o.WellFormed)
    (fits : ((front ++ f :: behind).reverse ++ passed).length ≤ bytes.length)
    (enough : numberOf type (front ++ f :: behind) = number) (none : numberOf type front = 0)
    (first : isType type f = true) (blocks : type = .block → NoFilemark (front ++ f :: behind))
    (ahead : Ahead bytes ending true ((front ++ f :: behind).reverse ++ passed) (pastAll false position (front ++ f :: behind)))
    (known : Here bytes (pastAll false position (front ++ f :: behind))
      (locatedAll false location (front ++ f :: behind)) s) :
    wp (methods.dispatch r.opcode) r s (fun call t => call = .status ∧
      Here bytes (pastAll false position front) (locatedAll false location front) t) fun _ _ => False := by
  have reverse : decide (-(number : Int) < 0) = true := decide_eq_true (by omega)
  have amount : (-(number : Int)).natAbs = number := by omega
  rw [← reverse] at ahead
  have ran := wpSpace6 spaces (by omega) wellFormed fits ahead known.opened known.here known.located
  rw [reverse,amount] at ran
  refine wpMono ran (fun call t ended => ?_) fun e t ended => ?_
  · obtain ⟨rfl,moved,o,later,spaced,there⟩ := ended
    have rest : (front ++ f :: behind).reverse ++ passed = behind.reverse ++ f :: (front.reverse ++ passed) := by
      simp only [List.reverse_append,List.reverse_cons,List.append_assoc,List.cons_append,List.nil_append]
    have count : numberOf type moved = numberOf type behind.reverse := by
      have last := spaced.number
      rw [numberAppend,numberCons,none,first,if_pos rfl] at enough
      rw [numberReverse]
      omega
    obtain ⟨same,last⟩ := spacedOnce (spaced.split.symm.trans rest) count spaced.last first
    rw [same,last] at there
    have back : behind.reverse ++ [f] = (f :: behind).reverse := List.reverse_cons.symm
    rw [back,pastAppend,locatedAppend,pastBack,locatedBack] at there
    exact ⟨rfl,there⟩
  · rcases ended with refused | ⟨moved,later,stopped⟩
    · rcases refused with wrong | wrong | wrong | wrong | wrong
      · exact absurd (wrong.symm.trans known.idle.unchanged) (by decide)
      · exact absurd (wrong.symm.trans known.idle.reset) (by decide)
      · exact absurd (wrong.symm.trans known.idle.attn) (by decide)
      · exact absurd (wrong.symm.trans known.idle.ready) (by decide)
      · exact absurd (wrong.symm.trans known.idle.simh) (by decide)
    · refine backRuns ((numberReverse _ _).trans enough) (fun block o h => ?_) stopped
      exact blocks block o (List.mem_reverse.mp h)

end

end Tape

/- SPACE that ends at something else, from any place between two objects. -/
theorem spaceResidual {image : SimhImage} {passed rest : List SimhObject} (split : image.objects = passed ++ rest)
    {s : HandlerState Tape} (opened : s.device.stream s.world = some image.bytes)
    (here : s.device.tapePosition = (passed.flatMap SimhObject.encode).length) {r : Request} {type : ObjectType}
    {count : Int} (spaces : Tape.Spaces r type count) (moves : count ≠ 0) {e : ScsiException} {t : HandlerState Tape}
    (failed : Tape.methods.dispatch r.opcode r s = (.error e,t)) :
    Tape.SpaceRefused s ∨ ∃ moved later, Tape.Stopped type (decide (count < 0)) image.ending
      (if count < 0 then passed.reverse else rest) count.natAbs moved later e t := by
  have good := Tape.wellFormedOf split (decide (count < 0))
  have ahead := Tape.aheadOf split (decide (count < 0))
  simp only [decide_eq_true_eq] at good ahead
  exact wpError (Tape.wpSpace6 spaces moves good.1 good.2 ahead opened here rfl) failed

/- SPACE over a number of blocks or filemarks, and back, from the start of one of them. -/
theorem spaceThereAndBack {image : SimhImage} {passed rest : List SimhObject} (split : image.objects = passed ++ rest)
    {s : HandlerState Tape} (opened : s.device.stream s.world = some image.bytes)
    (here : s.device.tapePosition = (passed.flatMap SimhObject.encode).length) {start : SimhObject}
    (head : rest.head? = some start) (object : start.item ≠ none) {r back : Request} {type : ObjectType} {count : Nat}
    (moves : 0 < count) (spaces : Tape.Spaces r type count) (returns : Tape.Spaces back type (-(count : Int)))
    {t : HandlerState Tape} (ran : Tape.methods.dispatch r.opcode r s = (.ok .status,t)) :
    ∃ u, Tape.methods.dispatch back.opcode back t = (.ok .status,u) ∧
      (type = .block → u.device.tapePosition = s.device.tapePosition ∧ u.device.objectLocation = s.device.objectLocation) ∧
      (type = .filemark → ∃ front behind, rest = front ++ .filemark :: behind ∧ Tape.NoFilemark front ∧
        u.device.tapePosition = s.device.tapePosition + (front.flatMap SimhObject.encode).length) := by
  have forward : decide ((count : Int) < 0) = false := decide_eq_false (by omega)
  have good := Tape.wellFormedOf split false
  have ahead := Tape.aheadOf split false
  rw [← forward] at good ahead
  simp only [forward,Bool.false_eq_true,if_false] at good ahead
  rw [← forward,← here] at ahead
  have moved := wpOk (Tape.wpSpace6 spaces (by omega) good.1 good.2 ahead opened rfl rfl) ran
  rw [forward,Int.natAbs_natCast] at moved
  obtain ⟨-,moved,o,later,spaced,there⟩ := moved
  have number : Tape.numberOf type (moved ++ [o]) = count := by
    rw [Tape.numberAppend,Tape.numberCons,spaced.last,if_pos rfl]
    exact spaced.number
  have blocks (block : type = .block) : Tape.NoFilemark (moved ++ [o]) :=
    (spaced.blocks block).append fun p h => List.mem_singleton.mp h ▸ Tape.blockUnmarked (block ▸ spaced.last)
  have whole : rest = moved ++ [o] ++ later := by rw [spaced.split,List.append_assoc]; rfl
  obtain ⟨front,f,behind,segment,none,first⟩ := Tape.firstOf (number ▸ moves)
  rw [segment] at number blocks there whole
  have around : image.objects = (passed ++ (front ++ f :: behind)) ++ later := by
    rw [split,whole]
    simp only [List.append_assoc]
  have turned : (passed ++ (front ++ f :: behind)).reverse = (front ++ f :: behind).reverse ++ passed.reverse :=
    List.reverse_append
  have good := Tape.wellFormedOf around true
  have ahead := Tape.aheadOf around true
  simp only [if_true,turned] at good ahead
  have place : Tape.pastAll false s.device.tapePosition (front ++ f :: behind) =
      ((passed ++ (front ++ f :: behind)).flatMap SimhObject.encode).length := by
    rw [here,Tape.pastPassed]
  rw [← place] at ahead
  have ended := Tape.wpBack returns moves good.1 good.2 number none first blocks ahead there
  unfold wp at ended
  cases result : Tape.methods.dispatch back.opcode back t with
  | mk call u =>
    rw [result] at ended
    cases call with
    | error e => exact ended.elim
    | ok call =>
      obtain ⟨rfl,there⟩ := ended
      refine ⟨u,rfl,fun block => ?_,fun marks => ⟨front,behind ++ later,?_,?_,?_⟩⟩
      · have empty : front = [] := Tape.noneBefore block (whole ▸ head) object (blocks block) none
        rw [empty] at there
        exact ⟨there.here,there.located⟩
      · rw [marks] at first
        rw [whole,Tape.isFilemark first,List.append_assoc]
        rfl
      · exact Tape.unmarked (marks ▸ none)
      · rw [there.here,Tape.pastForward]

namespace Tape

/- Two blocks in front of a filemark, one of them bad, with a gap and a private record. -/
def mixedObjects : List SimhObject := [
  .record .tapeMarkGoodDataRecord [1,2,3],
  .marker .reservedMarker eraseGap,
  .badMark,
  .record .privateDataRecord1 [4],
  .filemark]

def mixedImage : SimhImage where
  objects := mixedObjects
  wellFormed o h := by
    simp only [mixedObjects,List.mem_cons,List.not_mem_nil,or_false] at h
    rcases h with rfl | rfl | rfl | rfl | rfl
    · exact ⟨rfl,by decide⟩
    · exact ⟨by decide,.inr ⟨rfl,by decide⟩⟩
    · exact trivial
    · exact ⟨rfl,by decide⟩
    · exact trivial

def mixedTape : HandlerState Tape where
  device := { type := .sctp, ready := true, supportedBlockSizes := [512], blockSize := 512, isOpen := true }
  transfer := {}
  world := { files := fun _ => some mixedImage.bytes }

def spaceBlocks (high middle low : UInt8) : Request := { cdb := [0x11,0,high,middle,low,0] }

theorem mixedOpened : mixedTape.device.stream mixedTape.world = some mixedImage.bytes := rfl

theorem mixedAtBeginning : mixedTape.device.tapePosition = (([] : List SimhObject).flatMap SimhObject.encode).length := rfl

theorem mixedSplit : mixedImage.objects = [] ++ mixedObjects := rfl

theorem twoBlocksAndBack : ∃ u, methods.dispatch .space6 (spaceBlocks 0xff 0xff 0xfe)
    (methods.dispatch .space6 (spaceBlocks 0 0 2) mixedTape).2 = (.ok .status,u) ∧
    u.device.tapePosition = 0 ∧ u.device.objectLocation = 0 := by
  have there : Spaces (spaceBlocks 0 0 2) .block (2 : Nat) := ⟨rfl,by decide,.inl rfl,by decide⟩
  have back : Spaces (spaceBlocks 0xff 0xff 0xfe) .block (-(2 : Nat)) := ⟨rfl,by decide,.inl rfl,by decide⟩
  have ran : (methods.dispatch .space6 (spaceBlocks 0 0 2) mixedTape).1 = .ok .status := by decide +kernel
  obtain ⟨u,ended,place,-⟩ := spaceThereAndBack mixedSplit mixedOpened mixedAtBeginning rfl (by decide) (by decide) there
    back (Prod.ext ran rfl)
  exact ⟨u,ended,place rfl⟩

theorem thirdBlockMissing : ∃ e t,
    methods.dispatch (spaceBlocks 0 0 3).opcode (spaceBlocks 0 0 3) mixedTape = (.error e,t) ∧
    (SpaceRefused mixedTape ∨ ∃ moved later, Stopped .block false .endOfFile mixedObjects 3 moved later e t) := by
  have spaces : Spaces (spaceBlocks 0 0 3) .block 3 := ⟨rfl,by decide,.inl rfl,by decide⟩
  have ran : (methods.dispatch (spaceBlocks 0 0 3).opcode (spaceBlocks 0 0 3) mixedTape).1 =
      .error ⟨.noSense,.noAdditionalSenseInformation⟩ := by decide +kernel
  cases failed : methods.dispatch (spaceBlocks 0 0 3).opcode (spaceBlocks 0 0 3) mixedTape with
  | mk result t =>
    rw [failed] at ran
    obtain rfl : result = .error ⟨.noSense,.noAdditionalSenseInformation⟩ := ran
    exact ⟨_,t,rfl,spaceResidual mixedSplit mixedOpened mixedAtBeginning spaces (by decide) failed⟩

end Tape
end Scsi2Pi
