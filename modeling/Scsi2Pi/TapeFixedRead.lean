import Scsi2Pi.TapeByteCount
import Scsi2Pi.TapeSpacing

/-! A chunk of a READ with fixed block sizes: the record it is taken from, its length and
its end. -/
namespace Scsi2Pi
open Slices MemoryUtil Handler Derives Eff SimhUtil

namespace Tape

/-! The objects of any file. -/

/- The next word that stands for an object, with its position. -/
inductive Next (bytes : Bytes) : Int → SimhMetaData → Int → Prop where
  | found {position : Int} {m : SimhMetaData} (word : readMetaData (some bytes) position = some m)
      (object : objectOf m ≠ none) : Next bytes position m position
  | passed {position place : Int} {m found : SimhMetaData} (word : readMetaData (some bytes) position = some m)
      (other : objectOf m = none) (more : ¬(m.cls = .reservedMarker ∧ m.value = endOfMedium))
      (later : Next bytes (position + metaDataSize + recordSize m) found place) : Next bytes position found place

variable {bytes : Bytes} {info position place : Int} {m : SimhMetaData}

theorem nextOnce {other : SimhMetaData} {there : Int} (h : Next bytes position m place) (h' : Next bytes position other there) :
    m = other ∧ place = there := by
  induction h with
  | found word object =>
    cases h' with
    | found again => exact ⟨Option.some.inj (word.symm.trans again),rfl⟩
    | passed again none =>
      cases Option.some.inj (word.symm.trans again)
      exact absurd none object
  | passed word none more later ih =>
    cases h' with
    | found again object =>
      cases Option.some.inj (word.symm.trans again)
      exact absurd none object
    | passed again none' more' later' =>
      cases Option.some.inj (word.symm.trans again)
      exact ih later'

/- There are no objects up to the end of the medium. -/
inductive Ends (bytes : Bytes) : Int → Prop where
  | medium {position : Int} {m : SimhMetaData} (word : readMetaData (some bytes) position = some m)
      (ends : m.cls = .reservedMarker ∧ m.value = endOfMedium) (other : objectOf m = none) : Ends bytes position
  | passed {position : Int} {m : SimhMetaData} (word : readMetaData (some bytes) position = some m)
      (other : objectOf m = none) (more : ¬(m.cls = .reservedMarker ∧ m.value = endOfMedium))
      (later : Ends bytes (position + metaDataSize + recordSize m)) : Ends bytes position

theorem endsBare (ends : Ends bytes position) : ¬∃ m place, Next bytes position m place := by
  rintro ⟨m,place,next⟩
  induction ends generalizing m with
  | medium word ends other =>
    cases next with
    | found again object =>
      cases Option.some.inj (word.symm.trans again)
      exact object other
    | passed again other' more =>
      cases Option.some.inj (word.symm.trans again)
      exact more ends
  | passed word other more later ih =>
    cases next with
    | found again object =>
      cases Option.some.inj (word.symm.trans again)
      exact object other
    | passed again other' more' next =>
      cases Option.some.inj (word.symm.trans again)
      exact ih _ next

theorem wordInside (word : readMetaData (some bytes) position = some m) :
    0 ≤ position ∧ (position + metaDataSize ≤ bytes.length ∨ m = ⟨.reservedMarker,endOfMedium⟩) := by
  unfold readMetaData at word
  dsimp only at word
  split at word
  · cases word
  · split at word
    · exact ⟨by omega,.inl (by omega)⟩
    · exact ⟨by omega,.inr (Option.some.inj word).symm⟩

theorem recordSizePositive (m : SimhMetaData) : 0 ≤ recordSize m := by
  unfold recordSize
  split <;> omega

theorem Next.inside (next : Next bytes position m place) :
    0 ≤ position ∧ position ≤ place ∧ place + metaDataSize ≤ bytes.length ∧ objectOf m ≠ none := by
  induction next with
  | found word object =>
    obtain ⟨valid,inside⟩ := wordInside word
    refine ⟨valid,Int.le_refl _,inside.resolve_right fun ends => ?_,object⟩
    rw [ends] at object
    exact object rfl
  | @passed _ _ m _ word none more later ih =>
    have size := recordSizePositive m
    refine ⟨(wordInside word).1,?_,ih.2.2⟩
    have rest := ih.2.1
    omega

/- READ passes objects of other types than these. -/
def Stopping (type : ObjectType) : Prop := type = .block ∨ type = .filemark ∨ type = .endOfData

/- The next object that READ stops at. -/
inductive Reaches (bytes : Bytes) : Int → ObjectType × Nat → SimhMetaData → Int → Prop where
  | here {position place : Int} {m : SimhMetaData} {object : ObjectType × Nat} (next : Next bytes position m place)
      (found : objectOf m = some object) (stops : Stopping object.1) : Reaches bytes position object m place
  | beyond {position place there : Int} {m m' : SimhMetaData} {object object' : ObjectType × Nat}
      (next : Next bytes position m place) (found : objectOf m = some object) (other : ¬Stopping object.1)
      (later : Reaches bytes (place + metaDataSize) object' m' there) : Reaches bytes position object' m' there

/- READ stops behind its last block, at a mark, at the end of data or at the end of the medium. -/
inductive Clears (bytes : Bytes) : Int → Prop where
  | medium {position : Int} (ends : Ends bytes position) : Clears bytes position
  | mark {position place : Int} {m : SimhMetaData} {object : ObjectType × Nat} (next : Next bytes position m place)
      (found : objectOf m = some object) (stops : object.1 = .filemark ∨ object.1 = .endOfData) : Clears bytes position
  | beyond {position place : Int} {m : SimhMetaData} {object : ObjectType × Nat} (next : Next bytes position m place)
      (found : objectOf m = some object) (other : ¬Stopping object.1) (later : Clears bytes (place + metaDataSize)) :
      Clears bytes position

theorem reachesOnce {object object' : ObjectType × Nat} {m' : SimhMetaData} {there : Int}
    (h : Reaches bytes position object m place) (h' : Reaches bytes position object' m' there) :
    object = object' ∧ m = m' ∧ place = there := by
  induction h with
  | here next found stops =>
    cases h' with
    | here next' found' =>
      obtain ⟨rfl,rfl⟩ := nextOnce next next'
      exact ⟨Option.some.inj (found.symm.trans found'),rfl,rfl⟩
    | beyond next' found' other =>
      obtain ⟨rfl,rfl⟩ := nextOnce next next'
      cases Option.some.inj (found.symm.trans found')
      exact absurd stops other
  | beyond next found other later ih =>
    cases h' with
    | here next' found' stops =>
      obtain ⟨rfl,rfl⟩ := nextOnce next next'
      cases Option.some.inj (found.symm.trans found')
      exact absurd stops other
    | beyond next' found' other' later' =>
      obtain ⟨rfl,rfl⟩ := nextOnce next next'
      exact ih later'

theorem clearsBlock {length : Nat} (clears : Clears bytes position) : ¬∃ m place, Reaches bytes position (.block,length) m place := by
  rintro ⟨m,place,reaches⟩
  induction clears generalizing m with
  | medium ends =>
    cases reaches with
    | here next => exact endsBare ends ⟨_,_,next⟩
    | beyond next => exact endsBare ends ⟨_,_,next⟩
  | mark next found stops =>
    have same := reachesOnce (.here next found (.inr stops)) reaches
    rw [same.1] at stops
    rcases stops with wrong | wrong <;> cases wrong
  | beyond next found other later ih =>
    cases reaches with
    | here next' found' stops =>
      obtain ⟨rfl,rfl⟩ := nextOnce next next'
      cases Option.some.inj (found.symm.trans found')
      exact other stops
    | beyond next' found' other' reaches =>
      obtain ⟨rfl,rfl⟩ := nextOnce next next'
      exact ih _ reaches

theorem Clears.valid (clears : Clears bytes position) : 0 ≤ position := by
  cases clears with
  | medium ends =>
    cases ends with
    | medium word => exact (wordInside word).1
    | passed word => exact (wordInside word).1
  | mark next => exact next.inside.1
  | beyond next => exact next.inside.1

/- What is left in the INFORMATION field when there is no block to read. -/
def Missing (bytes : Bytes) (position info info' : Int) : Prop :=
  Clears bytes position ∧ info' = 0 ∨ ¬Clears bytes position ∧ info' = info

theorem Reaches.inside {object : ObjectType × Nat} (reaches : Reaches bytes position object m place) :
    0 ≤ position ∧ position ≤ place ∧ place + metaDataSize ≤ bytes.length := by
  induction reaches with
  | here next found stops => exact ⟨next.inside.1,next.inside.2.1,next.inside.2.2.1⟩
  | beyond next found other later ih =>
    have first := next.inside.2.1
    refine ⟨next.inside.1,?_,ih.2.2⟩
    unfold metaDataSize at ih
    omega

theorem bareOther {object : ObjectType × Nat} (found : objectOf m = some object) (other : ¬Stopping object.1) :
    recordSize m = 0 := by
  have marker : m.cls = .privateMarker := by
    unfold objectOf at found
    split at found
    · cases found
      split at other
      · exact absurd (.inl rfl) other
      · exact absurd (.inr (.inl rfl)) other
    · split at found
      · cases found
        exact absurd (.inl rfl) other
      · split at found
        · next private_ => exact private_.1
        · cases found
  unfold recordSize isRecord
  rw [marker]
  rfl

section
variable {r : Request} {s : HandlerState Tape} {count : Int} {fuel : Nat} {E : ScsiException → HandlerState Tape → Prop}

/- The tape at a position, in fixed mode, and the INFORMATION field. -/
structure On (bytes : Bytes) (info position : Int) (s : HandlerState Tape) : Prop where
  opened : s.device.stream s.world = some bytes
  here : s.device.tapePosition = position
  information : s.device.information = info
  fixed : s.device.fixed = true

/- What is known of a tape at any position while its words are read. -/
structure Tracks (bytes : Bytes) (known : Int → HandlerState Tape → Prop) : Prop where
  opened {position : Int} {s : HandlerState Tape} : known position s → s.device.stream s.world = some bytes
  here {position : Int} {s : HandlerState Tape} : known position s → s.device.tapePosition = position
  advanced {position distance : Int} {s : HandlerState Tape} : known position s →
    known (position + distance) { s with device := { s.device with tapePosition := s.device.tapePosition + distance } }
  counted {position location : Int} {s : HandlerState Tape} : known position s →
    known position { s with device := { s.device with objectLocation := location } }

variable {Track : Int → HandlerState Tape → Prop}

theorem wpWordTracked {Q : SimhMetaData → HandlerState Tape → Prop} (tracks : Tracks bytes Track) (known : Track position s)
    (word : ∀ m, readMetaData (some bytes) position = some m → Q m s)
    (none : readMetaData (some bytes) position = none → E ⟨.mediumError,.readError⟩ s) : wp readMetaDataHere r s Q E := by
  unfold readMetaDataHere
  simp only [wpBind,wpGetDevice,wpGetWorld,tracks.opened known,tracks.here known]
  split
  · next failed => exact none failed
  · next m found => exact word m found

theorem wpAdvanceTracked {distance : Int} {Q : Unit → HandlerState Tape → Prop} (tracks : Tracks bytes Track) (known : Track position s)
    (rest : ∀ t, Track (position + distance) t → Q () t) : wp (advance distance) r s Q E :=
  rest _ (tracks.advanced known)

theorem wpLocationTracked {Q : Unit → HandlerState Tape → Prop} (tracks : Tracks bytes Track) (known : Track position s)
    (rest : ∀ t, Track position t → Q () t) : wp (updateObjectLocation m false) r s Q E := by
  refine rest _ ?_
  dsimp only
  split
  · exact tracks.counted known
  · exact known

/- Scanning finds the next object, and nothing else. -/
theorem wpFirst (tracks : Tracks bytes Track) (known : Track position s) (positive : 0 < fuel)
    (enough : (bytes.length : Int) - position < fuel) :
    wp (readSimhMetaData count false fuel) r s
      (fun found t => objectOf found.2 = some found.1 ∧ ∃ place, Next bytes position found.2 place ∧ Track (place + metaDataSize) t)
      fun e t => (¬∃ m place, Next bytes position m place) ∧ e.senseKey = .mediumError ∧
        (Ends bytes position ∧ t.device.information = int32 count ∨ ¬Ends bytes position ∧ ∃ there, Track there t) := by
  induction fuel generalizing position s with
  | zero => omega
  | succ fuel ih =>
    rw [readSimhMetaData,wpBind]
    unfold readNextMetaData
    rw [wpIte]
    refine ⟨(fun wrong => by cases wrong),fun _ => ?_⟩
    rw [wpBind]
    refine wpWordTracked tracks known (fun m word => ?_) fun none => ⟨?_,rfl,.inr ⟨?_,position,known⟩⟩
    · rw [wpBind]
      refine wpAdvanceTracked tracks known fun t known => ?_
      rw [wpPure]
      dsimp only
      rw [wpBind]
      refine wpLocationTracked tracks known fun t known => ?_
      cases object : objectOf m with
      | some found =>
        refine ⟨object,position,.found word ?_,known⟩
        rw [object]
        exact Option.some_ne_none _
      | none =>
        dsimp only
        rw [wpIte]
        refine ⟨fun ends => ⟨endsBare (.medium word ends object),rfl,.inl ⟨.medium word ends object,rfl⟩⟩,fun more => ?_⟩
        rw [if_pos (by rfl),wpBind]
        refine wpAdvanceTracked tracks known fun t known => ?_
        have size := recordSizePositive m
        have inside := (wordInside word).2.resolve_right fun wrong => more (by rw [wrong]; exact ⟨rfl,rfl⟩)
        refine wpMono (ih known (by unfold metaDataSize at inside; omega) (by unfold metaDataSize; omega)) (fun found u ended => ?_)
          fun _ _ failed => ⟨?_,failed.2.1,failed.2.2.imp (fun ends => ⟨.passed word object more ends.1,ends.2⟩)
            fun other => ⟨?_,other.2⟩⟩
        · obtain ⟨word',place,next,there⟩ := ended
          exact ⟨word',place,.passed word object more next,there⟩
        · rintro ⟨found,place,next⟩
          cases next with
          | found again object' =>
            cases Option.some.inj (word.symm.trans again)
            exact object' object
          | passed again none' more' later =>
            cases Option.some.inj (word.symm.trans again)
            exact failed.1 ⟨found,place,later⟩
        · intro ends
          cases ends with
          | medium again ends =>
            cases Option.some.inj (word.symm.trans again)
            exact more ends
          | passed again none' more' later =>
            cases Option.some.inj (word.symm.trans again)
            exact other.1 later
    · rintro ⟨m,place,next⟩
      cases next with
      | found word => cases none.symm.trans word
      | passed word => cases none.symm.trans word
    · intro ends
      cases ends with
      | medium word => cases none.symm.trans word
      | passed word => cases none.symm.trans word

theorem onTracks : Tracks bytes (On bytes info) where
  opened known := known.opened
  here known := known.here
  advanced known := ⟨known.opened,congrArg (· + _) known.here,known.information,known.fixed⟩
  counted known := ⟨known.opened,known.here,known.information,known.fixed⟩

/-! A chunk. -/

/- The block that READ finds next, with the position of its data: one byte too far for an
odd length, because the step back does not count the padding. A private marker of SCSI2Pi
may have the type of a block as well. -/
inductive NextBlock (bytes : Bytes) : Int → SimhMetaData → Int → Prop where
  | record {position place : Int} {m : SimhMetaData} (reaches : Reaches bytes position (.block,m.value) m place)
      (some : m.value ≠ 0) : NextBlock bytes position m (place + metaDataSize + m.value % 2)
  | marker {position place : Int} {m : SimhMetaData} (reaches : Reaches bytes position (.block,0) m place)
      (private_ : m.cls = .privateMarker) : NextBlock bytes position m (place - m.value)

variable {t : HandlerState Tape}

theorem wpRaiseFixed {α : Type} {Q : α → HandlerState Tape → Prop} (fixed : s.device.fixed = true)
    (ends : ∀ e t, t.device.information = 0 → E e t) : wp (raiseFilemark 0 false true : Handler Tape α) r s Q E := by
  unfold raiseFilemark
  simp only [wpBind,wpGetRequest,wpGetDevice,fixed,Bool.not_true,Bool.and_false,Bool.false_eq_true,if_false]
  exact ends _ _ rfl

theorem wpFindBlockFrom {limit : Nat} (known : On bytes info position s) (deep : 0 < limit ∧ (bytes.length : Int) - position < limit)
    (positive : 0 < fuel) (enough : (bytes.length : Int) - position < fuel) :
    wp (findNextObject limit .block false true fuel 0) r s
      (fun m t => ∃ place length, Reaches bytes position (.block,length) m place ∧
        On bytes info (if length = 0 then place + metaDataSize else place + metaDataSize + recordSize m) t)
      fun _ t => (¬∃ m place length, Reaches bytes position (.block,length) m place) ∧
        Missing bytes position info t.device.information := by
  induction fuel generalizing position s with
  | zero => omega
  | succ fuel ih =>
    rw [findNextObject,wpBind]
    refine wpMono (wpFirst onTracks known deep.1 deep.2) (fun found t scanned => ?_) fun _ _ failed => ⟨?_,?_⟩
    · obtain ⟨object,place,next,there⟩ := scanned
      obtain ⟨⟨type,length⟩,m⟩ := found
      have ends (stops : type = .filemark ∨ type = .endOfData) {t : HandlerState Tape} (info' : t.device.information = 0) :
          (¬∃ m place length, Reaches bytes position (.block,length) m place) ∧
            Missing bytes position info t.device.information := by
        have clears : Clears bytes position := .mark next object stops
        refine ⟨?_,.inl ⟨clears,info'⟩⟩
        rintro ⟨m',place',length',reaches⟩
        exact clearsBlock clears ⟨m',place',reaches⟩
      dsimp only
      rw [wpIte]
      refine ⟨fun bare => ?_,fun full => ?_⟩
      · obtain ⟨-,rfl,rfl⟩ := bare
        exact ⟨place,0,.here next object (.inl rfl),there⟩
      · unfold passObject
        rw [wpBind,if_pos (by rfl)]
        refine wpAdvanceTracked onTracks there fun u beyond => ?_
        unfold judgeObject
        rw [wpBind,wpIte]
        refine ⟨fun data => ends (.inr data) rfl,fun notData => ?_⟩
        rw [wpIte]
        refine ⟨fun mark => ?_,fun unmarked => ?_⟩
        · rw [wpBind]
          exact wpRaiseFixed beyond.fixed fun e v info => ends (.inl mark.1) info
        · rw [wpIte]
          refine ⟨fun block => ?_,fun same => ?_⟩
          · obtain ⟨-,rfl⟩ := block
            have some : length ≠ 0 := fun none => full ⟨rfl,rfl,none⟩
            refine ⟨place,length,.here next object (.inl rfl),?_⟩
            rw [if_neg some]
            exact beyond
          · have other : ¬Stopping type := by
              rintro (block | mark | data)
              · exact same ⟨by decide,block⟩
              · exact unmarked ⟨mark,rfl⟩
              · exact notData data
            have inside := next.inside
            have step : place + metaDataSize + recordSize m = place + metaDataSize := by rw [bareOther object other,Int.add_zero]
            rw [step] at beyond
            rw [wpPure]
            dsimp only
            have room := inside.2.2.1
            unfold metaDataSize at room
            refine wpMono (ih beyond ⟨deep.1,by unfold metaDataSize; omega⟩ (by omega) (by unfold metaDataSize; omega))
              (fun found v ended => ?_) fun _ v failed => ⟨?_,?_⟩
            · obtain ⟨there,size,reaches,known⟩ := ended
              exact ⟨there,size,.beyond next object other reaches,known⟩
            · rintro ⟨m',there,size,reaches⟩
              refine failed.1 ⟨m',there,size,?_⟩
              cases reaches with
              | here next' object' stops =>
                obtain ⟨rfl,rfl⟩ := nextOnce next next'
                cases Option.some.inj (object.symm.trans object')
                exact absurd (.inl rfl) other
              | beyond next' object' other' later =>
                obtain ⟨rfl,rfl⟩ := nextOnce next next'
                exact later
            · refine failed.2.imp (fun cleared => ⟨.beyond next object other cleared.1,cleared.2⟩) fun kept => ⟨?_,kept.2⟩
              intro clears
              cases clears with
              | medium ends => exact endsBare ends ⟨_,_,next⟩
              | mark next' object' stops =>
                obtain ⟨rfl,rfl⟩ := nextOnce next next'
                cases Option.some.inj (object.symm.trans object')
                exact other (.inr stops)
              | beyond next' object' other' later =>
                obtain ⟨rfl,rfl⟩ := nextOnce next next'
                exact kept.1 later
    · rintro ⟨m,place,length,reaches⟩
      cases reaches with
      | here next => exact failed.1 ⟨_,_,next⟩
      | beyond next => exact failed.1 ⟨_,_,next⟩
    · refine failed.2.2.imp (fun ends => ⟨.medium ends.1,ends.2⟩) fun kept => ⟨?_,kept.2.elim fun _ on => on.information⟩
      intro clears
      cases clears with
      | medium ends => exact kept.1 ends
      | mark next => exact failed.1 ⟨_,_,next⟩
      | beyond next => exact failed.1 ⟨_,_,next⟩

/- There is nothing before the beginning of the file. -/
theorem wpFindBlockBefore {limit : Nat} (known : On bytes info position s) (before : position < 0) :
    wp (findNextObject limit .block false true fuel 0) r s (fun _ _ => False) fun _ t => t.device.information = info := by
  have none : readMetaData (some bytes) position = none := by
    unfold readMetaData
    exact if_pos before
  cases fuel with
  | zero => exact known.information
  | succ fuel =>
    rw [findNextObject,wpBind]
    cases limit with
    | zero => exact known.information
    | succ limit =>
      rw [readSimhMetaData,wpBind]
      unfold readNextMetaData
      rw [wpIte]
      refine ⟨(fun wrong => by cases wrong),fun _ => ?_⟩
      rw [wpBind]
      exact wpWordTracked onTracks known (fun m word => by cases none.symm.trans word) fun _ => known.information

theorem wpFindBlock (known : On bytes info position s) :
    wp (findNext .block 0 true) r s
      (fun m t => ∃ place length, Reaches bytes position (.block,length) m place ∧
        On bytes info (if length = 0 then place + metaDataSize else place + metaDataSize + recordSize m) t)
      fun _ t => (¬∃ m place length, Reaches bytes position (.block,length) m place) ∧
        Missing bytes position info t.device.information := by
  have limit : scanLimit (some bytes) = bytes.length + 2 := rfl
  unfold findNext
  simp only [wpBind,wpGetDevice,wpGetWorld,known.opened]
  by_cases before : position < 0
  · refine wpMono (wpFindBlockBefore known before) (fun _ _ wrong => wrong.elim) fun _ t same => ⟨?_,.inr ⟨?_,same⟩⟩
    · rintro ⟨m,place,length,reaches⟩
      have valid := reaches.inside.1
      omega
    · intro clears
      have valid := clears.valid
      omega
  · have deep : 0 < scanLimit (some bytes) ∧ (bytes.length : Int) - position < scanLimit (some bytes) := by
      rw [limit]
      omega
    exact wpFindBlockFrom known deep deep.1 deep.2

theorem reachesWord {object : ObjectType × Nat} (reaches : Reaches bytes position object m place) :
    objectOf m = some object := by
  induction reaches with
  | here next found stops => exact found
  | beyond next found other later ih => exact ih

/- A word with the type of a block is that of a record, of a bad block or of a marker. -/
theorem blockWord {length : Nat} (block : objectOf m = some (.block,length)) :
    length = m.value ∧ m.value ≠ 0 ∧ recordSize m = pad m.value + metaDataSize ∨
    length = 0 ∧ m.cls = .badDataRecord ∧ m.value = 0 ∨ length = 0 ∧ m.cls = .privateMarker := by
  unfold objectOf at block
  split at block
  · next good =>
    split at block
    · next some =>
      cases block
      refine .inl ⟨rfl,some,?_⟩
      unfold recordSize isRecord
      rw [if_pos good,if_pos (decide_eq_true some)]
      push_cast
      rfl
    · cases block
  · split at block
    · next bad =>
      cases block
      by_cases none : m.value = 0
      · exact .inr (.inl ⟨none,bad,none⟩)
      · have record : isRecord m = true := by simp [isRecord,bad,none]
        refine .inl ⟨rfl,none,?_⟩
        unfold recordSize
        rw [record,if_pos rfl]
        push_cast
        rfl
    · split at block
      · next marker => exact .inr (.inr ⟨(congrArg Prod.snd (Option.some.inj block)).symm,marker.1⟩)
      · cases block

/-! The drive between two chunks. -/

/- The file and the sizes of a READ with FIXED, what has not been read and not been sent
yet, and what it has reported. -/
structure Asked where
  bytes : Bytes
  blockSize : Nat
  count : Nat
  left : Nat
  remains : Nat
  chunk : Nat
  read : Int
  info : Int
  status : StatusCode

variable {a : Asked} {start : Int}

structure Reading (a : Asked) (position : Int) (s : HandlerState Tape) : Prop where
  on : On a.bytes a.info position s
  simh : s.device.tarFile = false
  size : s.device.blockSize = a.blockSize
  count : s.device.byteCount = a.count
  left : s.device.remainingCount = a.left
  read : s.device.blocksRead = a.read
  status : s.transfer.status = a.status
  remains : s.transfer.remainingLength = a.remains
  chunk : s.transfer.chunkSize = a.chunk

/- The drive at the data of a record. -/
structure Opened (a : Asked) (m : SimhMetaData) (start position : Int) (s : HandlerState Tape) : Prop where
  reading : Reading a position s
  length : s.device.recordLength = m.value
  begins : s.device.recordStart = start

theorem wpOpenRecord (reading : Reading a position s) : wp openRecord r s
      (fun _ t => ∃ m start, NextBlock a.bytes position m start ∧ Opened a m start start t)
      fun _ t => (¬∃ m start, NextBlock a.bytes position m start) ∧
        Missing a.bytes position a.info t.device.information := by
  unfold openRecord
  rw [wpBind]
  refine wpMono (wpBoth (wpFindBlock reading.on) (findNextMoves .block 0 true r s)) (fun m t ended => ?_)
    fun _ _ failed => ⟨?_,failed.1.2⟩
  · obtain ⟨⟨place,length,reaches,there⟩,moved,-⟩ := ended
    have goes (start : Int) (next : NextBlock a.bytes position m start) (some : ¬(m.cls = .badDataRecord ∧ m.value = 0))
        (back : (if length = 0 then place + metaDataSize else place + metaDataSize + recordSize m) +
          -(m.value + metaDataSize : Nat) = start) :
        wp (do
          modifyDevice fun d => { d with currentMetaData := m, recordLength := m.value }
          if m.cls = .badDataRecord ∧ m.value = 0 then throw ⟨.mediumError,.readError⟩
          advance (-(m.value + metaDataSize : Nat))
          modifyDevice fun d => { d with recordStart := d.tapePosition } : Handler Tape Unit) r t
          (fun _ t => ∃ m start, NextBlock a.bytes position m start ∧ Opened a m start start t)
          fun _ t => (¬∃ m start, NextBlock a.bytes position m start) ∧
            Missing a.bytes position a.info t.device.information := by
      have here : t.device.tapePosition + -(m.value + metaDataSize : Nat) = start := by rw [there.here,back]
      rw [wpBind,wpModifyDevice,if_neg some,wpBind]
      refine ⟨m,start,next,⟨⟨there.opened,here,there.information,there.fixed⟩,?_,?_,?_,?_,?_,?_,?_,?_⟩,rfl,here⟩
      · exact (moved.same (fun d => d.tarFile) fun _ => rfl).trans reading.simh
      · exact (moved.same (fun d => d.blockSize) fun _ => rfl).trans reading.size
      · exact (moved.same (fun d => d.byteCount) fun _ => rfl).trans reading.count
      · exact (moved.same (fun d => d.remainingCount) fun _ => rfl).trans reading.left
      · exact (moved.same (fun d => d.blocksRead) fun _ => rfl).trans reading.read
      · exact moved.transfer ▸ reading.status
      · exact moved.transfer ▸ reading.remains
      · exact moved.transfer ▸ reading.chunk
    rcases blockWord (reachesWord reaches) with ⟨rfl,some,size⟩ | ⟨rfl,bad,none⟩ | ⟨rfl,marker⟩
    · refine goes _ (.record reaches some) (fun wrong => some wrong.2) ?_
      rw [if_neg some,size]
      unfold pad
      omega
    · rw [wpBind,wpModifyDevice,if_pos ⟨bad,none⟩,wpBind]
      refine ⟨?_,.inr ⟨fun clears => clearsBlock clears ⟨_,_,reaches⟩,there.information⟩⟩
      rintro ⟨m',start,next⟩
      cases next with
      | record reaches' some =>
        obtain ⟨same,rfl,-⟩ := reachesOnce reaches reaches'
        exact some none
      | marker reaches' marker =>
        obtain ⟨-,rfl,-⟩ := reachesOnce reaches reaches'
        exact absurd (bad.symm.trans marker) (by decide)
    · refine goes _ (.marker reaches marker) (fun wrong => absurd (marker.symm.trans wrong.1) (by decide)) ?_
      rw [if_pos rfl]
      omega
  · rintro ⟨m,start,next⟩
    cases next with
    | record reaches => exact failed.1.1 ⟨_,_,_,reaches⟩
    | marker reaches => exact failed.1.1 ⟨_,_,_,reaches⟩

/-! The length of a record. -/

namespace Asked

/- What is left to do after the length of a record has been checked. A length that does
not divide the byte count is reported, and the transfer starts again with that length. -/
def checked (a : Asked) (length : Nat) : Asked :=
  if a.count % length = 0 then a
  else
    let count := min length a.count
    { a with
      count
      left := count
      remains := count
      chunk := min a.blockSize count
      info := int32 (uint32 (a.count - a.left : Int) / a.blockSize - a.read)
      status := .checkCondition }

/- The number of bytes read from the record. -/
def taken (a : Asked) (length : Nat) : Nat :=
  if a.count % length = 0 then a.chunk else min (min length a.count) a.chunk

/- What the types of the source promise. -/
structure Sound (a : Asked) : Prop where
  sized : 0 < a.blockSize
  size : a.blockSize < 2^31
  count : a.count < 2^31
  some : 0 < a.left
  left : a.left ≤ a.count
  remains : a.remains ≤ a.left
  chunk : a.chunk = min a.blockSize a.remains

end Asked

theorem nextBlockOnce {m' : SimhMetaData} {start' : Int} (next : NextBlock bytes position m start)
    (next' : NextBlock bytes position m' start') : m = m' ∧ start = start' := by
  cases next with
  | record reaches some =>
    cases next' with
    | record reaches' =>
      obtain ⟨-,rfl,rfl⟩ := reachesOnce reaches reaches'
      exact ⟨rfl,rfl⟩
    | marker reaches' =>
      obtain ⟨same,-⟩ := reachesOnce reaches reaches'
      exact absurd (congrArg Prod.snd same) some
  | marker reaches =>
    cases next' with
    | record reaches' some =>
      obtain ⟨same,-⟩ := reachesOnce reaches reaches'
      exact absurd (congrArg Prod.snd same).symm some
    | marker reaches' =>
      obtain ⟨-,rfl,rfl⟩ := reachesOnce reaches reaches'
      exact ⟨rfl,rfl⟩

/- Behind a record the tape has moved on. -/
theorem NextBlock.behind (next : NextBlock bytes position m start) :
    0 ≤ position ∧ position < start + pad m.value + metaDataSize := by
  have padded : m.value ≤ pad m.value := Nat.le_add_right _ _
  cases next with
  | record reaches =>
    have inside := reaches.inside
    unfold metaDataSize
    omega
  | marker reaches =>
    have inside := reaches.inside
    unfold metaDataSize
    omega

theorem NextBlock.some (next : NextBlock bytes position m start) : m.value ≠ 0 := by
  cases next with
  | record reaches some => exact some
  | marker reaches marker =>
    have block := reachesWord reaches
    unfold objectOf at block
    rw [marker,if_neg (by decide),if_neg (by decide)] at block
    split at block
    · next magic =>
      intro none
      rw [none] at magic
      exact absurd magic.2 (by decide)
    · cases block

theorem wpReport {value : Int} {actual : Nat} {Q : Nat → HandlerState Tape → Prop} (known : Opened a m start position s)
    (rest : ∀ t, Opened { a with info := int32 value, status := .checkCondition } m start position t → Q actual t) :
    wp (do
      super (modifyDevice fun (d : PrimaryDevice) => { d with ili := true })
      setInformation value
      modifyTransfer fun t => { t with status := .checkCondition }
      return actual) r s Q E := by
  obtain ⟨⟨on,simh,size,count,left,read,status,remains,chunk⟩,length,begins⟩ := known
  exact rest _ ⟨⟨⟨on.opened,on.here,rfl,on.fixed⟩,simh,size,count,left,read,rfl,remains,chunk⟩,length,begins⟩

theorem wpCheckFixed (known : Opened a m start position s) :
    wp checkBlockLength r s
      (fun actual t => a.count % m.value = 0 ∧ actual = 0 ∧ t = s ∨
        a.count % m.value ≠ 0 ∧ actual = min m.value a.count ∧
          Opened { a with
            info := int32 (uint32 (a.count - a.left : Int) / a.blockSize - a.read)
            status := .checkCondition } m start position t) E := by
  unfold checkBlockLength
  rw [wpBind,wpGetRequest,wpBind,wpGetDevice,wpIte]
  dsimp only
  rw [known.reading.on.fixed,known.reading.count,known.reading.left,known.reading.size,known.length,known.reading.read]
  constructor
  · intro _
    have actual : (if m.value < a.count then m.value else a.count) = min m.value a.count := by split <;> omega
    rw [actual]
    by_cases divides : a.count % m.value = 0
    · simp only [divides,ne_eq,not_true,and_false,if_false,Bool.not_true,Bool.false_eq_true,false_and,wpPure]
      exact .inl ⟨trivial,trivial,trivial⟩
    · simp only [divides,ne_eq,not_false_eq_true,and_self,if_true]
      exact wpReport known fun t known => .inr ⟨trivial,rfl,known⟩
  · intro same
    have same : m.value = a.count := Decidable.not_not.mp same
    rw [wpPure,same]
    exact .inl ⟨Nat.mod_self _,rfl,rfl⟩

theorem smaller (length size : Nat) : (if (length : Int) < size then (length : Int) else size) = (min size length : Nat) := by
  split <;> omega

theorem wpLimitTransfer {actual : Nat} {Q : Unit → HandlerState Tape → Prop} (known : Opened a m start position s) (sound : a.Sound)
    (small : actual ≤ a.count)
    (rest : ∀ t, Opened { a with count := actual, left := actual, remains := actual, chunk := min a.blockSize actual } m start position t →
      Q () t) : wp (limitTransfer actual) r s Q E := by
  obtain ⟨⟨on,simh,size,count,left,read,status,remains,chunk⟩,length,begins⟩ := known
  have limited : (if actual < s.device.byteCount then actual else s.device.byteCount) = actual := by
    rw [count]
    split <;> omega
  have fits : int32 (actual : Nat) = actual ∧ int32 (a.blockSize : Nat) = a.blockSize :=
    ⟨(smallTotal (Nat.lt_of_le_of_lt small sound.count)).2,(smallTotal sound.size).2⟩
  unfold limitTransfer
  rw [wpBind,wpModifyDevice,wpBind,wpGetDevice]
  dsimp only
  rw [limited,size,fits.1,fits.2,wpBind,wpSetTransferSize,wpSetCurrentLength]
  exact rest _ ⟨⟨⟨on.opened,on.here,on.information,on.fixed⟩,simh,size,rfl,rfl,read,status,rfl,
    smaller _ _⟩,length,begins⟩

theorem wpBeginRecord (reading : Reading a position s) (sound : a.Sound) :
    wp (beginRecord a.chunk) r s
      (fun length t => ∃ m start, NextBlock a.bytes position m start ∧ Opened (a.checked m.value) m start start t ∧
        length = a.taken m.value)
      fun _ t => (¬∃ m start, NextBlock a.bytes position m start) ∧
        Missing a.bytes position a.info t.device.information := by
  unfold beginRecord
  rw [wpBind]
  refine wpMono (wpOpenRecord reading) (fun _ t opened => ?_) fun _ _ failed => failed
  obtain ⟨m,start,next,known⟩ := opened
  rw [wpBind]
  refine wpMono (wpCheckFixed known) (fun actual u checked => ?_) fun _ _ wrong => wrong
  rw [wpIte]
  unfold Asked.checked Asked.taken
  rcases checked with ⟨divides,rfl,rfl⟩ | ⟨other,rfl,known⟩
  · refine ⟨fun _ => ?_,fun wrong => absurd rfl wrong⟩
    rw [wpPure]
    refine ⟨m,start,next,?_,?_⟩
    · rw [if_pos divides]
      exact known
    · rw [if_pos divides]
  · have some : min m.value a.count ≠ 0 := by
      have word := next.some
      have left := sound.left
      have more := sound.some
      omega
    refine ⟨fun wrong => absurd wrong some,fun _ => ?_⟩
    rw [wpBind]
    have sound : Asked.Sound { a with
        info := int32 (uint32 (a.count - a.left : Int) / a.blockSize - a.read)
        status := .checkCondition } :=
      ⟨sound.sized,sound.size,sound.count,sound.some,sound.left,sound.remains,sound.chunk⟩
    refine wpLimitTransfer known sound (Nat.min_le_right _ _) fun v known => ?_
    rw [wpPure]
    refine ⟨m,start,next,?_,?_⟩
    · rw [if_neg other]
      exact known
    · rw [if_neg other]
      omega

/-! The data of a chunk and the end of its record. -/

/- The bytes of a chunk are in the file, and so are those behind the record. -/
structure Inside (bytes : Bytes) (length : Nat) (start : Int) (chunk : Nat) : Prop where
  valid : 0 ≤ start
  data : start + chunk ≤ bytes.length
  room : start + pad length + metaDataSize ≤ bytes.length

def trailingLength (bytes : Bytes) (length : Nat) (start : Int) : Nat :=
  (fromLittleEndian (slice bytes (start + pad length).toNat metaDataSize)).value

structure Closes (bytes : Bytes) (length : Nat) (start : Int) (chunk : Nat) : Prop extends Inside bytes length start chunk where
  trailing : trailingLength bytes length start = length

theorem wpReadFileOn {count : Int} {Q : Bytes → HandlerState Tape → Prop} (known : On bytes info position s)
    (inside : 0 ≤ count → 0 ≤ position → position + count ≤ bytes.length →
      Q (slice bytes position.toNat count.toNat) s)
    (outside : count < 0 ∨ position < 0 ∨ (bytes.length : Int) < position + count → ∀ e, E e s) :
    wp (readFile count) r s Q E := by
  unfold readFile
  simp only [wpBind,wpGetDevice,wpGetWorld,known.opened,known.here,wpIte,wpThrow,wpPure]
  refine ⟨fun wrong => outside wrong _,fun right => ?_⟩
  exact inside (by omega) (by omega) (by omega)

theorem wpBoundaryOn {Q : Bool → HandlerState Tape → Prop} (fixed : s.device.fixed = true) (simh : s.device.tarFile = false)
    (rest : Q true { s with device := { s.device with initial := false } }) : wp isAtRecordBoundary r s Q E := by
  have boundary : s.device.atRecordBoundary = true := by simp [atRecordBoundary,fixed]
  unfold isAtRecordBoundary
  rw [wpBind,wpGetDevice,wpIte]
  refine ⟨fun tar => absurd (tar.symm.trans simh) (by decide),fun _ => ?_⟩
  rw [wpBind,wpModifyDevice,wpPure,boundary]
  exact rest

/- The trailing length is there, but it is another one. -/
def Mismatch (bytes : Bytes) (length : Nat) (start : Int) (chunk : Nat) : Prop :=
  Inside bytes length start chunk ∧ trailingLength bytes length start ≠ length

/- What a chunk that does not fit leaves in the INFORMATION field. -/
def Unclosed (a : Asked) (length : Nat) (start : Int) (chunk : Nat) (info : Int) : Prop :=
  Mismatch a.bytes length start chunk ∧ info = int32 (a.read + 1) ∨
  ¬Inside a.bytes length start chunk ∧ info = a.info

namespace Asked

/- What is left to do behind a record. -/
def closed (a : Asked) (taken : Nat) : Asked :=
  { a with left := a.left - taken, read := if a.left - taken = 0 then a.read + 1 else a.read }

end Asked

theorem wpRaiseReadError {α : Type} {Q : α → HandlerState Tape → Prop} (fixed : s.device.fixed = true)
    (ends : ∀ e t, t.device.information = int32 (s.device.blocksRead + 1) → E e t) :
    wp (raiseReadError : Handler Tape α) r s Q E := by
  unfold raiseReadError advance
  simp only [wpBind,wpModifyDevice,wpGetDevice,fixed,if_true]
  exact ends _ _ rfl

theorem wpCloseRecord {chunk : Nat} (known : Opened a m start position s) (valid : 0 ≤ start)
    (data : start + chunk ≤ a.bytes.length) :
    wp closeRecord r s
      (fun _ t => Closes a.bytes m.value start chunk ∧ t.transfer = s.transfer ∧
        Reading { a with read := if a.left = 0 then a.read + 1 else a.read } (start + pad m.value + metaDataSize) t)
      fun _ t => Unclosed a m.value start chunk t.device.information := by
  obtain ⟨⟨on,simh,size,count,left,read,status,remains,transfer⟩,length,begins⟩ := known
  have there (d : Tape) (same : d = { s.device with tapePosition := s.device.recordStart + pad s.device.recordLength }) :
      On a.bytes a.info (start + pad m.value) { s with device := d } := by
    subst same
    exact ⟨on.opened,by rw [← length,← begins],on.information,on.fixed⟩
  unfold closeRecord
  rw [wpBind,wpModifyDevice,wpBind]
  refine wpReadFileOn (there _ rfl) (fun _ _ room => ?_) fun none e => .inr ⟨fun inside => ?_,on.information⟩
  · have inside : Inside a.bytes m.value start chunk := ⟨valid,data,room⟩
    rw [wpBind,wpGetDevice,wpIte]
    refine ⟨fun other => ?_,fun same => ?_⟩
    · rw [wpBind]
      refine wpRaiseReadError on.fixed fun e t info => .inl ⟨⟨inside,fun same => other ?_⟩,?_⟩
      · exact length.trans same.symm
      · rw [info]
        exact congrArg (fun n => int32 (n + 1)) read
    · have trailing : trailingLength a.bytes m.value start = m.value := (Decidable.not_not.mp same).symm.trans length
      have beyond : start + pad m.value + metaDataSize = s.device.recordStart + pad s.device.recordLength + metaDataSize := by
        rw [← length,← begins]
      unfold advance
      simp only [wpBind,wpModifyDevice]
      refine ⟨⟨inside,trailing⟩,trivial,?_⟩
      rw [beyond]
      by_cases last : a.left = 0
      · rw [if_pos (left.trans last),if_pos last]
        exact ⟨⟨on.opened,rfl,on.information,on.fixed⟩,simh,size,count,left,congrArg (· + 1) read,status,remains,transfer⟩
      · rw [if_neg (fun none => last (left.symm.trans none)),if_neg last]
        exact ⟨⟨on.opened,rfl,on.information,on.fixed⟩,simh,size,count,left,read,status,remains,transfer⟩
  · have room := inside.room
    unfold metaDataSize at room none
    omega

theorem wpReadChunk {chunk : Nat} (known : Opened a m start start s) (small : a.left < 2^32) (within : chunk ≤ a.left) :
    wp (readChunk chunk) r s
      (fun length t => length = chunk ∧ Closes a.bytes m.value start chunk ∧ t.transfer.buffer.take chunk = slice a.bytes start.toNat chunk ∧
        Reading (a.closed chunk) (start + pad m.value + metaDataSize) t)
      fun _ t => Unclosed a m.value start chunk t.device.information := by
  obtain ⟨⟨on,simh,size,count,left,read,status,remains,transfer⟩,length,begins⟩ := known
  unfold readChunk
  rw [wpBind]
  refine wpReadFileOn on (fun _ valid data => ?_) fun none e => .inr ⟨fun inside => ?_,on.information⟩
  · have rest : uint32 (s.device.remainingCount - chunk : Int) = a.left - chunk := by
      have same : (s.device.remainingCount - chunk : Int) = (a.left - chunk : Nat) := by omega
      rw [same,uint32Fits (by omega)]
    rw [Int.toNat_natCast]
    have taken : (slice a.bytes start.toNat chunk).length = chunk := sliceLengthWithin (by omega)
    unfold advance
    rw [wpBind,wpSetBuffer,wpBind,wpModifyDevice,wpBind,wpModifyDevice,wpBind]
    refine wpBoundaryOn on.fixed simh ?_
    rw [if_pos rfl,wpBind]
    have moved (t : HandlerState Tape) (device : t.device = { s.device with
        remainingCount := uint32 (s.device.remainingCount - chunk : Int)
        tapePosition := s.device.tapePosition + chunk
        initial := false }) (world : t.world = s.world) (sizes : t.transfer.status = s.transfer.status ∧
          t.transfer.remainingLength = s.transfer.remainingLength ∧ t.transfer.chunkSize = s.transfer.chunkSize) :
        Opened { a with left := a.left - chunk } m start (start + chunk) t := by
      obtain ⟨device',transfer',world'⟩ := t
      subst device world
      rw [rest]
      exact ⟨⟨⟨on.opened,congrArg (· + (chunk : Int)) on.here,on.information,on.fixed⟩,simh,size,count,rfl,read,
        sizes.1.trans status,sizes.2.1.trans remains,sizes.2.2.trans transfer⟩,length,begins⟩
    refine wpMono (wpCloseRecord (moved _ rfl rfl ⟨rfl,rfl,rfl⟩) valid data) (fun _ t ended => ?_) fun _ _ failed => failed
    rw [wpPure]
    refine ⟨rfl,ended.1,?_,ended.2.2⟩
    rw [ended.2.1]
    have front := takeFront s.transfer.buffer (slice a.bytes start.toNat chunk)
    rw [taken] at front
    exact front
  · have front := inside.valid
    have data := inside.data
    omega

/-! A chunk as a whole. -/

namespace Asked

/- What is left to do after a chunk of a record. -/
def after (a : Asked) (length : Nat) : Asked := (a.checked length).closed (a.taken length)

theorem takenLeft (sound : a.Sound) (length : Nat) :
    a.taken length ≤ (a.checked length).left ∧ (a.checked length).left ≤ a.count := by
  have left := sound.left
  have remains := sound.remains
  have chunk := sound.chunk
  unfold taken checked
  split
  · exact ⟨by omega,left⟩
  · exact ⟨Nat.min_le_left _ _,Nat.min_le_right _ _⟩

end Asked

theorem wpReadData (reading : Reading a position s) (sound : a.Sound) :
    wp readData r s
      (fun length t => ∃ m start, NextBlock a.bytes position m start ∧ length = a.taken m.value ∧
        Closes a.bytes m.value start (a.taken m.value) ∧
        t.transfer.buffer.take (a.taken m.value) = slice a.bytes start.toNat (a.taken m.value) ∧
        Reading (a.after m.value) (start + pad m.value + metaDataSize) t)
      fun _ t => (¬∃ m start, NextBlock a.bytes position m start) ∧
          Missing a.bytes position a.info t.device.information ∨
        ∃ m start, NextBlock a.bytes position m start ∧
          Unclosed (a.checked m.value) m.value start (a.taken m.value) t.device.information := by
  unfold readData
  rw [wpBind,wpGetTransfer,reading.chunk,wpBind]
  refine wpBoundaryOn reading.on.fixed reading.simh ?_
  rw [if_pos rfl,wpBind]
  have begun : Reading a position { s with device := { s.device with initial := false } } :=
    ⟨⟨reading.on.opened,reading.on.here,reading.on.information,reading.on.fixed⟩,reading.simh,reading.size,reading.count,
      reading.left,reading.read,reading.status,reading.remains,reading.chunk⟩
  refine wpMono (wpBeginRecord begun sound) (fun length t ended => ?_) fun _ _ failed => .inl failed
  obtain ⟨m,start,next,opened,rfl⟩ := ended
  obtain ⟨taken,left⟩ := Asked.takenLeft sound m.value
  have small : (a.checked m.value).left < 2^32 := by
    have count := sound.count
    omega
  have same : (a.checked m.value).bytes = a.bytes := by
    unfold Asked.checked
    split <;> rfl
  have chunk := wpReadChunk (r := r) opened small taken
  rw [same] at chunk
  exact wpMono chunk (fun _ u ended => ⟨m,start,next,ended⟩) fun _ _ failed => .inr ⟨m,start,next,failed⟩

end

end Tape
end Scsi2Pi
