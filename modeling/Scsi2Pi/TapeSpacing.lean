import Scsi2Pi.TapeScan
import Scsi2Pi.TapeAccess

/-! Moving over the objects of a SIMH image in both directions. A word in front of an
object is found forward, the word at its end in reverse. -/
namespace Scsi2Pi
open Slices MemoryUtil Handler Derives Eff SimhUtil

namespace TapeItem

def type : TapeItem → ObjectType
  | .block _ | .unreadable => .block
  | .filemark => .filemark

end TapeItem

namespace Tape

/- The objects ahead of a position, in the order of the motion. -/
inductive Ahead (bytes : Bytes) (ending : SimhEnd) : Bool → List SimhObject → Int → Prop where
  | forward (before : Bytes) (objects : List SimhObject) (whole : bytes = before ++ SimhImage.bytesOf objects ending) :
      Ahead bytes ending false objects before.length
  | backward (objects : List SimhObject) (behind : Bytes)
      (whole : bytes = objects.reverse.flatMap SimhObject.encode ++ behind) :
      Ahead bytes ending true objects (objects.reverse.flatMap SimhObject.encode).length

/- The position on the other side of an object, and of several ones. -/
def past (reverse : Bool) (position : Int) (o : SimhObject) : Int :=
  if reverse then position - o.encode.length else position + o.encode.length

def pastAll (reverse : Bool) (position : Int) (objects : List SimhObject) : Int := objects.foldl (past reverse) position

/- The object location there. -/
def located (reverse : Bool) (location : Int) (o : SimhObject) : Int :=
  if isObject o.metaData then location + if reverse then -1 else 1 else location

def locatedAll (reverse : Bool) (location : Int) (objects : List SimhObject) : Int :=
  objects.foldl (located reverse) location

/- Where the tape is when an object has been found. -/
def foundAt (reverse : Bool) (position : Int) (o : SimhObject) : Int :=
  if reverse then position - o.encode.length else position + metaDataSize

variable {bytes : Bytes} {ending : SimhEnd} {reverse : Bool} {objects later : List SimhObject} {o : SimhObject}
  {position location : Int}

theorem Ahead.next (ahead : Ahead bytes ending reverse (o :: later) position) :
    Ahead bytes ending reverse later (past reverse position o) := by
  cases ahead with
  | forward before _ whole =>
    rw [SimhImage.bytesCons,← List.append_assoc] at whole
    have place : past false before.length o = (before ++ o.encode).length := by
      simp only [past,List.length_append,Bool.false_eq_true,if_false]
      push_cast
      rfl
    rw [place]
    exact .forward _ _ whole
  | backward _ behind whole =>
    have split : (o :: later).reverse.flatMap SimhObject.encode = later.reverse.flatMap SimhObject.encode ++ o.encode := by
      simp only [List.reverse_cons,List.flatMap_append,List.flatMap_cons,List.flatMap_nil,List.append_nil]
    have place : past true ((o :: later).reverse.flatMap SimhObject.encode).length o =
        (later.reverse.flatMap SimhObject.encode).length := by
      rw [split,List.length_append]
      simp only [past,if_true]
      push_cast
      omega
    rw [place]
    rw [split,List.append_assoc] at whole
    exact .backward _ _ whole

theorem Ahead.pass (ahead : Ahead bytes ending reverse (objects ++ later) position) :
    Ahead bytes ending reverse later (pastAll reverse position objects) := by
  induction objects generalizing position with
  | nil => exact ahead
  | cons o objects ih => exact ih ahead.next

theorem pastAppend (reverse : Bool) (position : Int) (objects later : List SimhObject) :
    pastAll reverse position (objects ++ later) = pastAll reverse (pastAll reverse position objects) later :=
  List.foldl_append

theorem locatedAppend (reverse : Bool) (location : Int) (objects later : List SimhObject) :
    locatedAll reverse location (objects ++ later) = locatedAll reverse (locatedAll reverse location objects) later :=
  List.foldl_append

/- What has been passed is passed again on the way back. -/
theorem pastBack (position : Int) (objects : List SimhObject) :
    pastAll true (pastAll false position objects) objects.reverse = position := by
  induction objects generalizing position with
  | nil => rfl
  | cons o objects ih =>
    rw [List.reverse_cons,pastAppend]
    have back := ih (past false position o)
    change past true (pastAll true (pastAll false (past false position o) objects) objects.reverse) o = position
    rw [back]
    simp only [past,Bool.false_eq_true,if_false,if_true]
    omega

theorem locatedBack (location : Int) (objects : List SimhObject) :
    locatedAll true (locatedAll false location objects) objects.reverse = location := by
  induction objects generalizing location with
  | nil => rfl
  | cons o objects ih =>
    rw [List.reverse_cons,locatedAppend]
    have back := ih (located false location o)
    change located true (locatedAll true (locatedAll false (located false location o) objects) objects.reverse) o = location
    rw [back]
    unfold located
    split <;> simp

/- The word at the end of an object is that of its front. -/
theorem lastWordAt (good : o.WellFormed) (before behind : Bytes) :
    readMetaData (some (before ++ (o.encode ++ behind))) (before.length + o.encode.length - metaDataSize : Int) =
      some o.metaData := by
  have bare (none : o.body = []) : readMetaData (some (before ++ (o.encode ++ behind)))
      (before.length + o.encode.length - metaDataSize : Int) = some o.metaData := by
    have place : (before.length + o.encode.length - metaDataSize : Int) = before.length := by
      rw [SimhObject.encode,none,List.append_nil,toLittleEndianLength]
      omega
    rw [place]
    exact SimhObject.metaDataAt good before behind
  cases o with
  | record cls data =>
    have whole : before ++ ((SimhObject.record cls data).encode ++ behind) =
        (before ++ toLittleEndian ⟨cls,data.length⟩ ++ data ++ SimhObject.padding data) ++
          (toLittleEndian ⟨cls,data.length⟩ ++ behind) := by
      simp only [SimhObject.encode,SimhObject.body,SimhObject.metaData,List.append_assoc]
    have place : (before.length + (SimhObject.record cls data).encode.length - metaDataSize : Int) =
        (before ++ toLittleEndian ⟨cls,data.length⟩ ++ data ++ SimhObject.padding data).length := by
      simp only [SimhObject.encode,SimhObject.body,SimhObject.metaData,List.length_append,toLittleEndianLength]
      push_cast
      omega
    rw [whole,place]
    exact readMetaDataAt good.2 _ _
  | badMark => exact bare rfl
  | filemark => exact bare rfl
  | marker cls value => exact bare rfl

/-! The functions of the drive. -/

/- Nothing makes the drive refuse to move. -/
structure Idle (d : Tape) : Prop where
  unchanged : d.mediumChanged = false
  reset : d.reset = false
  attn : d.attn = false
  ready : d.ready = true
  simh : d.tarFile = false

structure Here (bytes : Bytes) (position location : Int) (s : HandlerState Tape) : Prop where
  opened : s.device.stream s.world = some bytes
  here : s.device.tapePosition = position
  located : s.device.objectLocation = location
  idle : Idle s.device

/- The exception at an edge of the tape. -/
inductive Edge : Bool → SimhEnd → ScsiException → Prop where
  | beginning (ending : SimhEnd) : Edge true ending ⟨.noSense,.noAdditionalSenseInformation⟩
  | fileEnds : Edge false .endOfFile ⟨.mediumError,.noAdditionalSenseInformation⟩
  | mediumEnds (stale : Bytes) : Edge false (.endOfMedium stale) ⟨.mediumError,.noAdditionalSenseInformation⟩

/- The INFORMATION field of the sense data. -/
def Informs (value : Int) (t : HandlerState Tape) : Prop := t.device.valid = true ∧ t.device.information = int32 value

def Residual (count : Nat) (t : HandlerState Tape) : Prop :=
  t.device.valid = true ∧ t.device.information.natAbs = count

section
variable {r : Request} {s : HandlerState Tape} {m : SimhMetaData} {count : Int} {fuel : Nat}
  {E : ScsiException → HandlerState Tape → Prop}

theorem wpAdvanceHere {distance : Int} {Q : Unit → HandlerState Tape → Prop} (known : Here bytes position location s)
    (rest : ∀ t, Here bytes (position + distance) location t → Q () t) : wp (advance distance) r s Q E :=
  rest _ ⟨known.opened,congrArg (· + distance) known.here,known.located,⟨known.idle.1,known.idle.2,known.idle.3,known.idle.4,known.idle.5⟩⟩

theorem wpLocated {Q : Unit → HandlerState Tape → Prop} (known : Here bytes position location s)
    (rest : ∀ t, Here bytes position (located reverse location o) t → Q () t) :
    wp (updateObjectLocation o.metaData reverse) r s Q E := by
  refine rest _ ?_
  dsimp only
  unfold located
  split
  · exact ⟨known.opened,known.here,congrArg (· + _) known.located,⟨known.idle.1,known.idle.2,known.idle.3,known.idle.4,known.idle.5⟩⟩
  · exact known

theorem wpWordHere {Q : SimhMetaData → HandlerState Tape → Prop} (known : Here bytes position location s)
    (word : readMetaData (some bytes) position = some m) (rest : Q m s) : wp readMetaDataHere r s Q E := by
  unfold readMetaDataHere
  simp only [wpBind,wpGetDevice,wpGetWorld,known.opened,known.here,word,wpPure]
  exact rest

/- A record is skipped before it is looked at in reverse. -/
theorem wpWord {Q : Option SimhMetaData → HandlerState Tape → Prop} (good : o.WellFormed)
    (ahead : Ahead bytes ending reverse (o :: later) position) (known : Here bytes position location s)
    (rest : ∀ t, Here bytes (foundAt reverse position o) location t → Q (some o.metaData) t) :
    wp (readNextMetaData reverse) r s Q E := by
  unfold readNextMetaData
  rw [wpIte]
  cases ahead with
  | forward before _ whole =>
    refine ⟨(fun wrong => by cases wrong),fun _ => ?_⟩
    rw [wpBind]
    refine wpWordHere (m := o.metaData) known ?_ ?_
    · rw [whole,SimhImage.bytesCons]
      exact SimhObject.metaDataAt good before _
    · rw [wpBind]
      exact wpAdvanceHere known rest
  | backward _ behind whole =>
    refine ⟨fun _ => ?_,fun wrong => absurd rfl wrong⟩
    have split : (o :: later).reverse.flatMap SimhObject.encode = later.reverse.flatMap SimhObject.encode ++ o.encode := by
      simp only [List.reverse_cons,List.flatMap_append,List.flatMap_cons,List.flatMap_nil,List.append_nil]
    rw [split] at known rest whole
    have size := encodedLength good
    have room : metaDataSize ≤ o.encode.length := by
      rw [SimhObject.encode,List.length_append,toLittleEndianLength]
      exact Nat.le_add_right _ _
    rw [wpBind]
    refine wpAdvanceHere known fun t known => ?_
    rw [wpBind,wpGetDevice,known.here,wpIte,wpBind]
    refine ⟨fun wrong => ?_,fun _ => ?_⟩
    · rw [List.length_append] at wrong
      omega
    · refine wpWordHere (m := o.metaData) known ?_ ?_
      · have place : ((later.reverse.flatMap SimhObject.encode ++ o.encode).length : Int) + -metaDataSize =
            (later.reverse.flatMap SimhObject.encode).length + o.encode.length - metaDataSize := by
          rw [List.length_append]
          push_cast
          omega
        rw [whole,List.append_assoc,place]
        exact lastWordAt good _ _
      · rw [wpBind]
        refine wpAdvanceHere known fun t known => rest t ?_
        have place : foundAt true (later.reverse.flatMap SimhObject.encode ++ o.encode).length o =
            (later.reverse.flatMap SimhObject.encode ++ o.encode).length + -metaDataSize + -recordSize o.metaData := by
          simp only [foundAt,if_true]
          omega
        rw [place]
        exact known

/- The exceptions at an edge report the count. -/
theorem wpEdge {Q : (ObjectType × Nat) × SimhMetaData → HandlerState Tape → Prop}
    (ahead : Ahead bytes ending reverse [] position) (known : Here bytes position location s)
    (data : ∀ stale, reverse = false → ending = .endOfData stale → ∀ t, Here bytes (position + metaDataSize) location t →
      Q ((.endOfData,0),⟨.privateMarker,endOfDataValue⟩) t)
    (edge : ∀ e t, Edge reverse ending e → Informs count t → E e t) :
    wp (readSimhMetaData count reverse (fuel+1)) r s Q E := by
  rw [readSimhMetaData,wpBind]
  unfold readNextMetaData
  rw [wpIte]
  cases ahead with
  | backward _ behind whole =>
    refine ⟨fun _ => ?_,fun wrong => absurd rfl wrong⟩
    rw [wpBind]
    refine wpAdvanceHere known fun t known => ?_
    rw [wpBind,wpGetDevice,known.here,wpIte]
    exact ⟨fun _ => edge _ _ (.beginning ending) ⟨rfl,rfl⟩,fun wrong => absurd (by decide) wrong⟩
  | forward before _ whole =>
    refine ⟨fun wrong => absurd wrong Bool.false_ne_true,fun _ => ?_⟩
    have word : readMetaData (some bytes) before.length = some ending.metaData := by
      rw [whole]
      exact endMetaData ending before
    rw [wpBind]
    refine wpWordHere known word ?_
    rw [wpBind]
    refine wpAdvanceHere known fun t known => ?_
    cases ending with
    | endOfFile => exact edge _ _ .fileEnds ⟨rfl,rfl⟩
    | endOfMedium stale => exact edge _ _ (.mediumEnds stale) ⟨rfl,rfl⟩
    | endOfData stale =>
      have mark : objectOf ⟨.privateMarker,endOfDataValue⟩ = some (.endOfData,0) := by decide
      rw [wpPure]
      simp only [SimhEnd.metaData,mark]
      exact data stale rfl rfl t known

theorem pastFound (good : o.WellFormed) (position : Int) :
    past false position o = foundAt false position o + recordSize o.metaData := by
  simp only [past,foundAt,Bool.false_eq_true,if_false,encodedLength good]
  omega

/- The next object of the tape, in both directions. -/
theorem wpScan {Q : (ObjectType × Nat) × SimhMetaData → HandlerState Tape → Prop}
    (wellFormed : ∀ o ∈ objects, o.WellFormed) (enough : objects.length < fuel)
    (ahead : Ahead bytes ending reverse objects position) (known : Here bytes position location s)
    (found : ∀ skipped o later, objects = skipped ++ o :: later → (∀ p ∈ skipped, p.item = none) →
      ∀ item, o.item = some item → ∀ object, objectOf o.metaData = some object → ∀ t,
      Here bytes (foundAt reverse (pastAll reverse position skipped) o)
        (locatedAll reverse location (skipped ++ [o])) t → Q (object,o.metaData) t)
    (data : ∀ stale, (∀ p ∈ objects, p.item = none) → reverse = false → ending = .endOfData stale → ∀ t,
      Here bytes (pastAll false position objects + metaDataSize) (locatedAll false location objects) t →
      Q ((.endOfData,0),⟨.privateMarker,endOfDataValue⟩) t)
    (edge : (∀ p ∈ objects, p.item = none) → ∀ e t, Edge reverse ending e → Informs count t → E e t) :
    wp (readSimhMetaData count reverse fuel) r s Q E := by
  obtain ⟨fuel,rfl⟩ := Nat.exists_eq_succ_of_ne_zero (Nat.ne_of_gt (Nat.lt_of_le_of_lt (Nat.zero_le _) enough))
  induction objects generalizing fuel position location s with
  | nil =>
    refine wpEdge ahead known (fun stale forward same t known => ?_) (edge (by simp))
    subst forward
    exact data stale (by simp) rfl same t known
  | cons o objects ih =>
    have good := wellFormed o List.mem_cons_self
    rw [readSimhMetaData,wpBind]
    refine wpWord good ahead known fun t known => ?_
    dsimp only
    rw [wpBind]
    refine wpLocated known fun t known => ?_
    cases here : o.item with
    | some item =>
      obtain ⟨object,same,_⟩ := foundObject good here
      rw [same]
      exact found [] o objects rfl (by simp) item here object same t known
    | none =>
      obtain ⟨skipped,more⟩ := passedObject good here
      simp only [skipped,more,if_false]
      obtain ⟨fuel,rfl⟩ := Nat.exists_eq_succ_of_ne_zero
        (Nat.ne_of_gt (Nat.lt_of_le_of_lt (Nat.zero_le _) (Nat.lt_of_succ_lt_succ enough)))
      have beyond (u : HandlerState Tape)
          (known : Here bytes (past reverse position o) (located reverse location o) u) :
          wp (readSimhMetaData count reverse (fuel+1)) r u Q E := by
        refine ih (fun p h => wellFormed p (List.mem_cons_of_mem _ h)) ahead.next known
          (fun passed p later split none item same object word t known => ?_)
          (fun stale none forward same t known => ?_) (fun none => ?_) fuel (Nat.lt_of_succ_lt_succ enough)
        · refine found (o :: passed) p later (by rw [split]; rfl) ?_ item same object word t known
          intro p h
          exact (List.mem_cons.mp h).elim (fun same => same ▸ here) (none p)
        · subst forward
          refine data stale (fun p h => ?_) rfl same t known
          exact (List.mem_cons.mp h).elim (fun same => same ▸ here) (none p)
        · refine edge fun p h => ?_
          exact (List.mem_cons.mp h).elim (fun same => same ▸ here) (none p)
      rw [wpIte]
      refine ⟨fun forward => ?_,fun back => ?_⟩
      · have forward : reverse = false := by simpa using forward
        subst forward
        rw [wpBind]
        refine wpAdvanceHere known fun u known => beyond u ?_
        rw [pastFound good]
        exact known
      · have back : reverse = true := by simpa using back
        subst back
        exact beyond t known

/-! Spacing. -/

def isType (type : ObjectType) (o : SimhObject) : Bool := o.item.map TapeItem.type = some type

def numberOf (type : ObjectType) (objects : List SimhObject) : Nat := objects.countP (isType type)

def NoFilemark (objects : List SimhObject) : Prop := ∀ o ∈ objects, o.item ≠ some .filemark

/- The last of a number of objects, and what is passed on the way there. -/
structure Spaced (type : ObjectType) (objects : List SimhObject) (count : Nat) (moved : List SimhObject) (o : SimhObject)
    (later : List SimhObject) : Prop where
  split : objects = moved ++ o :: later
  last : isType type o = true
  number : numberOf type moved + 1 = count
  blocks : type = .block → NoFilemark moved

/- What ends a motion too early. -/
inductive Stops (type : ObjectType) (reverse : Bool) (ending : SimhEnd) : List SimhObject → ScsiException → Prop where
  | filemark (o : SimhObject) (later : List SimhObject) (blocks : type = .block) (mark : o.item = some .filemark) :
      Stops type reverse ending (o :: later) ⟨.noSense,.noAdditionalSenseInformation⟩
  | data (stale : Bytes) (forward : reverse = false) (same : ending = .endOfData stale) :
      Stops type reverse ending [] ⟨.blankCheck,.noAdditionalSenseInformation⟩
  | edge (e : ScsiException) (ends : Edge reverse ending e) : Stops type reverse ending [] e

structure Stopped (type : ObjectType) (reverse : Bool) (ending : SimhEnd) (objects : List SimhObject) (count : Nat)
    (moved later : List SimhObject) (e : ScsiException) (t : HandlerState Tape) : Prop where
  split : objects = moved ++ later
  stops : Stops type reverse ending later e
  short : numberOf type moved < count
  blocks : type = .block → NoFilemark moved
  residual : Residual (count - numberOf type moved) t

variable {type : ObjectType}

theorem noneOfType (type : ObjectType) (none : ∀ o ∈ objects, o.item = none) : numberOf type objects = 0 ∧ NoFilemark objects := by
  refine ⟨List.countP_eq_zero.mpr fun o h => ?_,fun o h => ?_⟩
  · rw [isType,none o h]
    simp
  · rw [none o h]
    simp

theorem foundType {item : TapeItem} {object : ObjectType × Nat} (good : o.WellFormed) (here : o.item = some item)
    (word : objectOf o.metaData = some object) : object.1 = item.type := by
  obtain ⟨object',same,kind⟩ := foundObject good here
  rw [word] at same
  cases same
  rcases kind with ⟨cls,data,rfl,rfl,rfl,-⟩ | ⟨rfl,rfl,rfl⟩ | ⟨rfl,rfl,rfl⟩ <;> rfl

theorem residualFits {count : Nat} (small : count ≤ 2^23) :
    (int32 (count : Int)).natAbs = count ∧ (int32 (-(count : Int))).natAbs = count := by
  rw [int32Fits (by omega) (by omega),int32Fits (by omega) (by omega)]
  omega

theorem wpInform (value : Int) {Q : Unit → HandlerState Tape → Prop}
    (rest : ∀ t, Informs value t → Q () t) : wp (setInformation value) r s Q E :=
  rest _ ⟨rfl,rfl⟩

/- What is done with an object that has been found. -/
theorem wpJudge {count : Nat} {typeFound : ObjectType} {Q : Option Int → HandlerState Tape → Prop}
    (kind : type = .block ∨ type = .filemark) (found : typeFound = .block ∨ typeFound = .filemark) (small : count ≤ 2^23)
    (filemark : typeFound = .filemark → type = .block → ∀ t, Residual count t →
      E ⟨.noSense,.noAdditionalSenseInformation⟩ t)
    (other : typeFound ≠ type → ¬(typeFound = .filemark ∧ type = .block) → Q (some count) s)
    (same : typeFound = type → Q (if (count : Int) - 1 ≤ 0 then none else some ((count : Int) - 1)) s) :
    wp (judgeObject type reverse false typeFound count) r s Q E := by
  have noEnd : typeFound ≠ .endOfData ∧ type ≠ .endOfData := by
    constructor
    · rcases found with rfl | rfl <;> decide
    · rcases kind with rfl | rfl <;> decide
  have sizes := residualFits small
  unfold judgeObject
  rw [if_neg noEnd.1,wpIte]
  refine ⟨fun mark => ?_,fun passed => ?_⟩
  · unfold raiseFilemark
    simp only [wpBind,wpGetRequest,wpGetDevice,Bool.false_and,Bool.false_eq_true,if_false,setInformation,wpSuper,wpModifyDevice,
      wpThrow]
    have report (t : HandlerState Tape) (info : Informs (if reverse = true then -(count : Int) else count) t) :
        E ⟨.noSense,.noAdditionalSenseInformation⟩ t := by
      refine filemark mark.1 mark.2 t ⟨info.1,?_⟩
      rw [info.2]
      cases reverse with
      | false => exact sizes.1
      | true => exact sizes.2
    exact report _ ⟨rfl,rfl⟩
  · rw [wpIte]
    refine ⟨fun equal => same equal.2,fun different => other (fun equal => different ⟨noEnd.2,equal⟩) passed⟩

theorem NoFilemark.append {objects later : List SimhObject} (first : NoFilemark objects) (second : NoFilemark later) :
    NoFilemark (objects ++ later) :=
  fun o h => (List.mem_append.mp h).elim (first o) (second o)

/- Motions follow each other. -/
theorem Spaced.after {front moved later : List SimhObject} {number total : Nat}
    (spaced : Spaced type objects number moved o later) (count : numberOf type front + number = total)
    (blocks : type = .block → NoFilemark front) : Spaced type (front ++ objects) total (front ++ moved) o later := by
  refine ⟨by rw [spaced.split,List.append_assoc],spaced.last,?_,fun block => (blocks block).append (spaced.blocks block)⟩
  have last := spaced.number
  rw [numberOf,List.countP_append]
  unfold numberOf at count last
  omega

theorem Stopped.after {front moved later : List SimhObject} {number total : Nat} {e : ScsiException}
    {t : HandlerState Tape} (stopped : Stopped type reverse ending objects number moved later e t)
    (count : numberOf type front + number = total) (blocks : type = .block → NoFilemark front) :
    Stopped type reverse ending (front ++ objects) total (front ++ moved) later e t := by
  have short := stopped.short
  have residual := stopped.residual
  have both : numberOf type (front ++ moved) = numberOf type front + numberOf type moved := List.countP_append
  have same : total - numberOf type (front ++ moved) = number - numberOf type moved := by omega
  refine ⟨by rw [stopped.split,List.append_assoc],stopped.stops,by omega,fun block => ?_,?_⟩
  · exact (blocks block).append (stopped.blocks block)
  · rw [same]
    exact residual

theorem wpPassed {Q : Unit → HandlerState Tape → Prop} (good : o.WellFormed)
    (known : Here bytes (foundAt reverse position o) location s)
    (rest : ∀ t, Here bytes (past reverse position o) location t → Q () t) :
    wp (passObject o.metaData reverse) r s Q E := by
  unfold passObject
  rw [wpIte]
  refine ⟨fun forward => ?_,fun back => ?_⟩
  · have forward : reverse = false := by simpa using forward
    subst forward
    refine wpAdvanceHere known fun t known => rest t ?_
    rw [pastFound good]
    exact known
  · have back : reverse = true := by simpa using back
    subst back
    exact rest s known

/- The end of the data ends a motion over anything else. -/
theorem wpJudgeEnd {count : Nat} {Q : Option Int → HandlerState Tape → Prop} (kind : type = .block ∨ type = .filemark)
    (small : count ≤ 2^23)
    (ends : ∀ t, Residual count t → E ⟨.blankCheck,.noAdditionalSenseInformation⟩ t) :
    wp (judgeObject type reverse false .endOfData count) r s Q E := by
  have other : type ≠ .endOfData := by rcases kind with rfl | rfl <;> decide
  have report (t : HandlerState Tape) (info : Informs count t) : E ⟨.blankCheck,.noAdditionalSenseInformation⟩ t := by
    have sizes := residualFits small
    exact ends t ⟨info.1,info.2 ▸ sizes.1⟩
  unfold judgeObject
  rw [if_pos rfl,if_neg other,wpBind]
  unfold raiseEndOfData
  rw [wpBind]
  refine wpMono (Q := fun _ _ => True) (E := fun _ _ => False) trivial (fun _ t _ => ?_) fun _ _ failed => failed.elim
  rw [wpBind]
  exact wpInform count fun u info => report u info

theorem wpFindNextObject {limit count : Nat} (kind : type = .block ∨ type = .filemark)
    (wellFormed : ∀ o ∈ objects, o.WellFormed) (enough : objects.length < fuel) (deep : objects.length < limit)
    (ahead : Ahead bytes ending reverse objects position) (known : Here bytes position location s) (some : 0 < count)
    (small : count ≤ 2^23) :
    wp (findNextObject limit type reverse false fuel count) r s
      (fun _ t => ∃ moved o later, Spaced type objects count moved o later ∧
        Here bytes (pastAll reverse position (moved ++ [o])) (locatedAll reverse location (moved ++ [o])) t)
      fun e t => ∃ moved later, Stopped type reverse ending objects count moved later e t := by
  induction fuel generalizing objects position location s count with
  | zero => omega
  | succ fuel ih =>
    have sizes := residualFits small
    rw [findNextObject,wpBind]
    refine wpScan wellFormed deep ahead known (fun skipped o later split none item here object word t known => ?_)
      (fun stale none forward same t known => ?_) fun none e t ends info => ?_
    · have good := wellFormed o (by rw [split]; exact List.mem_append_right _ List.mem_cons_self)
      have passes := noneOfType type none
      obtain ⟨typeFound,length⟩ := object
      have found : typeFound = item.type := foundType good here word
      have kinds : typeFound = .block ∨ typeFound = .filemark := by
        rw [found]
        cases item
        · exact .inl rfl
        · exact .inl rfl
        · exact .inr rfl
      have typed : isType type o = true ↔ typeFound = type := by
        rw [isType,here,found]
        simp only [Option.map_some,Option.some.injEq,decide_eq_true_eq]
      have front : objects = (skipped ++ [o]) ++ later := by rw [split,List.append_assoc]; rfl
      have room : later.length < fuel := by
        rw [front,List.length_append,List.length_append,List.length_singleton] at enough
        omega
      have further : later.length < limit := by
        rw [front,List.length_append] at deep
        omega
      have behind : Ahead bytes ending reverse later (pastAll reverse position (skipped ++ [o])) := by
        rw [front] at ahead
        exact ahead.pass
      rw [pastAppend] at behind
      have follows (number : Nat) (positive : 0 < number) (least : number ≤ count)
          (counted : numberOf type (skipped ++ [o]) + number = count)
          (blocks : type = .block → NoFilemark (skipped ++ [o])) (u : HandlerState Tape)
          (known : Here bytes (past reverse (pastAll reverse position skipped) o)
            (locatedAll reverse location (skipped ++ [o])) u) :
          wp (findNextObject limit type reverse false fuel number) r u
            (fun _ t => ∃ moved o later, Spaced type objects count moved o later ∧
              Here bytes (pastAll reverse position (moved ++ [o])) (locatedAll reverse location (moved ++ [o])) t)
            fun e t => ∃ moved later, Stopped type reverse ending objects count moved later e t := by
        have next := ih (fun p h => wellFormed p (by rw [front]; exact List.mem_append_right _ h)) room further behind known
          positive (Nat.le_trans least small)
        refine wpMono next (fun _ v ended => ?_) fun e v ended => ?_
        · obtain ⟨moved,last,rest,spaced,there⟩ := ended
          refine ⟨skipped ++ [o] ++ moved,last,rest,?_,?_⟩
          · rw [front]
            exact spaced.after counted blocks
          · rw [List.append_assoc (skipped ++ [o]),pastAppend,locatedAppend,pastAppend reverse position skipped]
            exact there
        · obtain ⟨moved,rest,stopped⟩ := ended
          refine ⟨skipped ++ [o] ++ moved,rest,?_⟩
          rw [front]
          exact stopped.after counted blocks
      have number : numberOf type (skipped ++ [o]) = if isType type o then 1 else 0 := by
        rw [numberOf,List.countP_append,List.countP_singleton]
        have none := passes.1
        unfold numberOf at none
        rw [none,Nat.zero_add]
      dsimp only
      rw [wpIte]
      refine ⟨fun wrong => absurd wrong.1 Bool.false_ne_true,fun _ => ?_⟩
      rw [wpBind]
      refine wpPassed good known fun u known => ?_
      rw [wpBind]
      refine wpJudge kind kinds small (fun mark block v info => ?_) (fun different calm => ?_) fun same => ?_
      · have filemark : o.item = Option.some .filemark := by
          rw [here]
          rw [found] at mark
          cases item with
          | block => cases mark
          | unreadable => cases mark
          | filemark => rfl
        refine ⟨skipped,o :: later,split,.filemark o later block filemark,?_,fun _ => passes.2,?_⟩
        · rw [passes.1]
          exact some
        · rw [passes.1]
          exact info
      · have plain : isType type o = false := Bool.eq_false_iff.mpr fun wrong => different (typed.mp wrong)
        refine follows count some (Nat.le_refl _) ?_ (fun block => passes.2.append fun p h => ?_) u known
        · rw [number,plain]
          exact Nat.zero_add _
        · rw [List.mem_singleton.mp h,here]
          intro wrong
          refine calm ⟨?_,block⟩
          rw [found,Option.some.inj wrong]
          rfl
      · have counts : isType type o = true := typed.mpr same
        by_cases last : count = 1
        · rw [if_pos (by omega)]
          refine ⟨skipped,o,later,⟨split,counts,?_,fun _ => passes.2⟩,?_⟩
          · rw [passes.1,last]
          · rw [pastAppend]
            exact known
        · have fewer : (count : Int) - 1 = (count - 1 : Nat) := by omega
          rw [if_neg (by omega),fewer]
          refine follows (count - 1) (by omega) (Nat.sub_le _ _) ?_ (fun block => passes.2.append fun p h => ?_) u known
          · rw [number,counts]
            simp only [if_true]
            omega
          · rw [List.mem_singleton.mp h,here]
            intro wrong
            rw [block,found,Option.some.inj wrong] at same
            cases same
    · subst forward
      have passes := noneOfType type none
      dsimp only
      rw [wpIte]
      refine ⟨fun wrong => absurd wrong.1 Bool.false_ne_true,fun _ => ?_⟩
      rw [wpBind]
      refine wpMono (Q := fun _ _ => True) (E := fun _ _ => False) trivial (fun _ u _ => ?_) fun _ _ failed => failed.elim
      rw [wpBind]
      refine wpJudgeEnd kind small fun v info => ⟨objects,[],by simp,.data stale rfl same,?_,fun _ => passes.2,?_⟩
      · rw [passes.1]
        exact some
      · rw [passes.1]
        exact info
    · refine ⟨objects,[],by simp,.edge e ends,?_,fun _ => (noneOfType type none).2,?_⟩
      · rw [(noneOfType type none).1]
        exact some
      · rw [(noneOfType type none).1]
        exact ⟨info.1,info.2 ▸ sizes.1⟩

end

end Tape
end Scsi2Pi
