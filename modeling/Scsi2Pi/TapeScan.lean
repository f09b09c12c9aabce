import Scsi2Pi.SimhImage
import Scsi2Pi.Tape

/-! Scanning a SIMH image with the functions of the tape device: object after object,
up to the end of the data or of the medium. -/
namespace Scsi2Pi.Tape
open Slices MemoryUtil SimhUtil Handler Eff

/- The data of a record and its trailing length, as for a READ. -/
def scanRecord (length : Nat) : Handler Tape Bytes := do
  let data ← readFile length
  modifyDevice fun d => { d with recordStart := d.tapePosition, recordLength := length }
  closeRecord
  return data

/- The next object, if there is one. -/
def scanObject (limit : Nat) : Handler Tape (Option TapeItem) := do
  let ((type,length),_) ← readSimhMetaData 0 false limit
  if type = ObjectType.endOfData then return none
  if type = ObjectType.filemark then return some .filemark
  if length = 0 then return some .unreadable
  return some (.block (← scanRecord length))

def scanFrom (limit : Nat) : Nat → HandlerState Tape → Option (List TapeItem)
  | 0, _ => none
  | fuel+1, s => match scanObject limit { cdb := [] } s with
    | (.ok none,_) => some []
    | (.ok (some item),t) => (scanFrom limit fuel t).map (item :: ·)
    | (.error _,t) => if t.device.eom = .endOfPartitionMediumDetected then some [] else none

/- A tape drive with this image file, at the beginning. -/
def withImage (bytes : Bytes) : HandlerState Tape :=
  ⟨{ type := .sctp, supportedBlockSizes := [512], isOpen := true },{},{ files := fun _ => some bytes }⟩

def scan (bytes : Bytes) : Option (List TapeItem) :=
  scanFrom (scanLimit (some bytes)) (bytes.length + 1) (withImage bytes)

section
variable {r : Request} {s : HandlerState Tape} {bytes : Bytes} {position : Int}

structure At (bytes : Bytes) (position : Int) (s : HandlerState Tape) : Prop where
  opened : s.device.stream s.world = some bytes
  here : s.device.tapePosition = position
  quiet : s.device.eom ≠ .endOfPartitionMediumDetected

theorem wpAdvance {Q : Unit → HandlerState Tape → Prop} {E : ScsiException → HandlerState Tape → Prop} {count : Int}
    (known : At bytes position s) (rest : ∀ t, At bytes (position + count) t → Q () t) : wp (advance count) r s Q E :=
  rest _ ⟨known.opened,congrArg (· + count) known.here,known.quiet⟩

theorem wpUpdateLocation {m : SimhMetaData} {reverse : Bool} {Q : Unit → HandlerState Tape → Prop}
    {E : ScsiException → HandlerState Tape → Prop} (known : At bytes position s)
    (rest : ∀ t, At bytes position t → Q () t) : wp (updateObjectLocation m reverse) r s Q E := by
  refine rest _ ?_
  dsimp only
  split <;> exact ⟨known.opened,known.here,known.quiet⟩

theorem wpReadMetaDataHere {m : SimhMetaData} {Q : SimhMetaData → HandlerState Tape → Prop}
    {E : ScsiException → HandlerState Tape → Prop} (known : At bytes position s)
    (word : readMetaData (some bytes) position = some m) (rest : Q m s) : wp readMetaDataHere r s Q E := by
  unfold readMetaDataHere
  simp only [wpBind,wpGetDevice,wpGetWorld,known.opened,known.here,word,wpPure]
  exact rest

section
variable {m : SimhMetaData} {count : Int} {fuel : Nat} {Q : (ObjectType × Nat) × SimhMetaData → HandlerState Tape → Prop}
  {E : ScsiException → HandlerState Tape → Prop}

theorem wpReadNext {Q : Option SimhMetaData → HandlerState Tape → Prop} (known : At bytes position s)
    (word : readMetaData (some bytes) position = some m)
    (rest : ∀ t, At bytes (position + metaDataSize) t → Q (some m) t) : wp (readNextMetaData false) r s Q E := by
  unfold readNextMetaData
  rw [wpIte]
  refine ⟨(fun wrong => by cases wrong),fun _ => ?_⟩
  rw [wpBind]
  refine wpReadMetaDataHere known word ?_
  rw [wpBind]
  exact wpAdvance known rest

/- The word of an object ends the search, and that of another one is passed with its record. -/
theorem wpFound {object : ObjectType × Nat} (known : At bytes position s)
    (word : readMetaData (some bytes) position = some m) (found : objectOf m = some object)
    (rest : ∀ t, At bytes (position + metaDataSize) t → Q (object,m) t) :
    wp (readSimhMetaData count false (fuel+1)) r s Q E := by
  rw [readSimhMetaData,wpBind]
  refine wpReadNext known word fun t known => ?_
  simp only [found]
  rw [wpBind]
  exact wpUpdateLocation known rest

theorem wpSkipped (known : At bytes position s) (word : readMetaData (some bytes) position = some m)
    (skipped : objectOf m = none) (more : ¬(m.cls = .reservedMarker ∧ m.value = endOfMedium))
    (rest : ∀ t, At bytes (position + metaDataSize + recordSize m) t → wp (readSimhMetaData count false fuel) r t Q E) :
    wp (readSimhMetaData count false (fuel+1)) r s Q E := by
  rw [readSimhMetaData,wpBind]
  refine wpReadNext known word fun t known => ?_
  simp only [skipped]
  rw [wpBind]
  refine wpUpdateLocation known fun t known => ?_
  simp only [more,if_false,Bool.not_false,if_true]
  rw [wpBind]
  exact wpAdvance known rest

theorem wpMediumEnds (known : At bytes position s) (word : readMetaData (some bytes) position = some m)
    (skipped : objectOf m = none) (ends : m.cls = .reservedMarker ∧ m.value = endOfMedium)
    (rest : ∀ e t, t.device.eom = .endOfPartitionMediumDetected → E e t) :
    wp (readSimhMetaData count false (fuel+1)) r s Q E := by
  rw [readSimhMetaData,wpBind]
  refine wpReadNext known word fun t known => ?_
  simp only [skipped]
  rw [wpBind]
  refine wpUpdateLocation known fun t known => ?_
  simp only [ends,if_true,and_self]
  rw [wpBind]
  exact rest _ _ rfl

end

/-! The objects of an image. -/

theorem recordSizeOf {o : SimhObject} (h : o.WellFormed) : recordSize o.metaData = o.body.length := by
  rw [SimhObject.bodyLength h]
  unfold recordSize
  split <;> rfl

theorem encodedLength {o : SimhObject} (h : o.WellFormed) :
    (o.encode.length : Int) = metaDataSize + recordSize o.metaData := by
  rw [recordSizeOf h]
  simp only [SimhObject.encode,List.length_append,toLittleEndianLength]
  omega

/- An object of the tape is found, any other one is passed. -/
theorem passedObject {o : SimhObject} (h : o.WellFormed) (other : o.item = none) :
    objectOf o.metaData = none ∧ ¬(o.metaData.cls = .reservedMarker ∧ o.metaData.value = endOfMedium) := by
  cases o with
  | record cls data =>
    have record := h.1
    simp only [SimhObject.item,ite_eq_right_iff,reduceCtorEq,imp_false,not_or] at other
    have kind : cls ≠ .privateMarker ∧ cls ≠ .reservedMarker := by
      constructor <;> rintro rfl <;> cases record
    simp only [SimhObject.metaData,objectOf,if_neg other.1,if_neg other.2,kind.1,kind.2,false_and,if_false,not_false_eq_true,
      and_self]
  | badMark => cases other
  | filemark => cases other
  | marker cls value =>
    rcases h.2 with ⟨rfl,magic⟩ | ⟨rfl,medium⟩
    · have word : objectOf ⟨.privateMarker,value⟩ =
          if SimhClass.privateMarker = .privateMarker ∧ value % 2^24 = privateMarkerMagic then some (value / 2^24 % 16,0)
          else none := rfl
      exact ⟨word.trans (if_neg fun same => magic same.2),(fun same => by cases same.1)⟩
    · exact ⟨rfl,fun same => medium same.2⟩

theorem foundObject {o : SimhObject} {item : TapeItem} (h : o.WellFormed) (here : o.item = some item) : ∃ object,
    objectOf o.metaData = some object ∧
    ((∃ cls data, o = .record cls data ∧ item = .block data ∧ object = (.block,data.length) ∧ data.length ≠ 0) ∨
      o = .badMark ∧ item = .unreadable ∧ object = (.block,0) ∨ o = .filemark ∧ item = .filemark ∧ object = (.filemark,0)) := by
  cases o with
  | record cls data =>
    have record := h.1
    simp only [SimhObject.item,Option.ite_none_right_eq_some,Option.some.injEq] at here
    obtain ⟨kind,rfl⟩ := here
    have some : data.length ≠ 0 := by
      intro none
      rw [none] at record
      rcases kind with rfl | rfl <;> cases record
    refine ⟨(.block,data.length),?_,.inl ⟨cls,data,rfl,rfl,rfl,some⟩⟩
    rcases kind with rfl | rfl
    · simp [SimhObject.metaData,objectOf,some]
    · simp [SimhObject.metaData,objectOf]
  | badMark =>
    cases here
    exact ⟨(.block,0),rfl,.inr (.inl ⟨rfl,rfl,rfl⟩)⟩
  | filemark =>
    cases here
    exact ⟨(.filemark,0),rfl,.inr (.inr ⟨rfl,rfl,rfl⟩)⟩
  | marker cls value => cases here

/- The next object of the tape, from any position between two objects. -/
theorem wpNext {objects : List SimhObject} {ending : SimhEnd} (before : Bytes) {count : Int} {fuel : Nat}
    {Q : (ObjectType × Nat) × SimhMetaData → HandlerState Tape → Prop} {E : ScsiException → HandlerState Tape → Prop}
    (wellFormed : ∀ o ∈ objects, o.WellFormed) (enough : objects.length < fuel)
    (known : At (before ++ SimhImage.bytesOf objects ending) before.length s)
    (found : ∀ skipped o rest, objects = skipped ++ o :: rest → skipped.filterMap SimhObject.item = [] →
      ∀ item, o.item = some item → ∀ object, objectOf o.metaData = some object → ∀ t,
      At (before ++ SimhImage.bytesOf objects ending) ((before ++ skipped.flatMap SimhObject.encode).length + metaDataSize) t →
        Q (object,o.metaData) t)
    (data : objects.filterMap SimhObject.item = [] → ∀ metaData t, Q ((.endOfData,0),metaData) t)
    (medium : objects.filterMap SimhObject.item = [] → ∀ e t, t.device.eom = .endOfPartitionMediumDetected → E e t) :
    wp (readSimhMetaData count false fuel) r s Q E := by
  induction objects generalizing before fuel s with
  | nil =>
    obtain ⟨fuel,rfl⟩ := Nat.exists_eq_succ_of_ne_zero (Nat.ne_of_gt enough)
    have word := endMetaData ending before
    cases ending with
    | endOfFile => exact wpMediumEnds known word rfl ⟨rfl,rfl⟩ (medium rfl)
    | endOfMedium stale => exact wpMediumEnds known word rfl ⟨rfl,rfl⟩ (medium rfl)
    | endOfData stale =>
      have mark : objectOf ⟨.privateMarker,endOfDataValue⟩ = some (.endOfData,0) := by decide
      exact wpFound known word mark fun t _ => data rfl _ t
  | cons o objects ih =>
    obtain ⟨fuel,rfl⟩ := Nat.exists_eq_succ_of_ne_zero (Nat.ne_of_gt (Nat.lt_of_le_of_lt (Nat.zero_le _) enough))
    have good := wellFormed o (List.mem_cons_self)
    have word := SimhObject.metaDataAt good before (SimhImage.bytesOf objects ending)
    rw [← SimhImage.bytesCons] at word
    cases here : o.item with
    | some item =>
      obtain ⟨object,same,_⟩ := foundObject good here
      refine wpFound known word same fun t known => found [] o objects rfl rfl item here object same t ?_
      simpa using known
    | none =>
      obtain ⟨skipped,more⟩ := passedObject good here
      refine wpSkipped known word skipped more fun t known => ?_
      have behind : ((before ++ o.encode).length : Int) = before.length + metaDataSize + recordSize o.metaData := by
        rw [List.length_append]
        have size := encodedLength good
        omega
      have rest (h : objects.filterMap SimhObject.item = []) : (o :: objects).filterMap SimhObject.item = [] := by
        rw [List.filterMap_cons_none here]
        exact h
      rw [SimhImage.bytesCons,← List.append_assoc,← behind] at known
      refine ih (before ++ o.encode) (fun o h => wellFormed o (List.mem_cons_of_mem _ h))
        (Nat.lt_of_succ_lt_succ enough) known (fun passed p later split none item same object word t known => ?_)
        (fun h => data (rest h)) fun h => medium (rest h)
      refine found (o :: passed) p later (by rw [split]; rfl) ?_ item same object word t ?_
      · rw [List.filterMap_cons_none here]
        exact none
      · rw [SimhImage.bytesCons,← List.append_assoc,List.flatMap_cons,← List.append_assoc]
        exact known

theorem wpReadFile {start count : Nat} {Q : Bytes → HandlerState Tape → Prop} {E : ScsiException → HandlerState Tape → Prop}
    (known : At bytes start s) (fits : start + count ≤ bytes.length) (rest : Q (slice bytes start count) s) :
    wp (readFile count) r s Q E := by
  unfold readFile
  simp only [wpBind,wpGetDevice,wpGetWorld,known.opened,known.here,wpIte,wpPure]
  refine ⟨fun wrong => by omega,fun _ => ?_⟩
  exact rest

/- The data of a record are followed by its length. -/
theorem wpScanRecord {cls : SimhClass} {data before after : Bytes} {Q : Bytes → HandlerState Tape → Prop}
    {E : ScsiException → HandlerState Tape → Prop} (good : (SimhObject.record cls data).WellFormed)
    (whole : bytes = before ++ ((SimhObject.record cls data).encode ++ after))
    (known : At bytes (before.length + metaDataSize : Nat) s)
    (rest : ∀ t, At bytes (before ++ (SimhObject.record cls data).encode).length t → Q data t) :
    wp (scanRecord data.length) r s Q E := by
  obtain ⟨dataHere,wordHere,behind,room⟩ := SimhObject.recordParts whole
  have padded : data.length ≤ pad data.length := Nat.le_add_right _ _
  unfold scanRecord closeRecord
  simp only [wpBind,wpModifyDevice]
  refine wpReadFile known (by omega) ?_
  rw [dataHere]
  have trailing : At bytes (before.length + metaDataSize + pad data.length : Nat) { s with device := { s.device with
      recordStart := s.device.tapePosition, recordLength := data.length,
      tapePosition := s.device.tapePosition + pad data.length } } :=
    ⟨known.opened,by rw [known.here]; push_cast; rfl,known.quiet⟩
  refine wpReadFile trailing room ?_
  rw [wordHere,littleEndianRoundTrip _ good.2]
  simp only [wpGetDevice,wpIte,wpBind,wpPure,not_true,false_implies,not_false_eq_true,true_implies,true_and,ne_eq]
  refine wpAdvance trailing fun t known => ?_
  simp only [wpModifyDevice]
  refine rest _ ?_
  rw [behind]
  have here : t.device.tapePosition =
      (before.length + metaDataSize + pad data.length + metaDataSize : Nat) := known.here.trans (by push_cast; rfl)
  split <;> exact ⟨known.opened,here,known.quiet⟩

/- The rest of an image, behind the next object of the tape. -/
def Delivered (before : Bytes) (objects : List SimhObject) (bytes : Bytes) (result : Option TapeItem)
    (t : HandlerState Tape) : Prop :=
  result = none ∧ objects.filterMap SimhObject.item = [] ∨
  ∃ skipped o rest item, objects = skipped ++ o :: rest ∧ skipped.filterMap SimhObject.item = [] ∧ o.item = some item ∧
    result = some item ∧ At bytes (before ++ skipped.flatMap SimhObject.encode ++ o.encode).length t

theorem wpScanObject {objects : List SimhObject} {ending : SimhEnd} {before : Bytes} {limit : Nat}
    (wellFormed : ∀ o ∈ objects, o.WellFormed) (enough : objects.length < limit)
    (known : At (before ++ SimhImage.bytesOf objects ending) before.length s) :
    wp (scanObject limit) r s (Delivered before objects (before ++ SimhImage.bytesOf objects ending))
      fun _ t => objects.filterMap SimhObject.item = [] ∧ t.device.eom = .endOfPartitionMediumDetected := by
  unfold scanObject
  rw [wpBind]
  refine wpNext before wellFormed enough known (fun skipped o rest split none item here object word t known => ?_)
    (fun none metaData t => ?_) fun none e t medium => ⟨none,medium⟩
  · have good := wellFormed o (by rw [split]; exact List.mem_append_right _ List.mem_cons_self)
    have whole : before ++ SimhImage.bytesOf objects ending =
        (before ++ skipped.flatMap SimhObject.encode) ++ (o.encode ++ SimhImage.bytesOf rest ending) := by
      simp only [split,SimhImage.bytesOf,List.flatMap_append,List.flatMap_cons,List.append_assoc]
    obtain ⟨object',same,kind⟩ := foundObject good here
    rw [word] at same
    cases same
    have delivered (result : Option TapeItem) (t : HandlerState Tape) (same : result = some item)
        (known : At (before ++ SimhImage.bytesOf objects ending)
          (before ++ skipped.flatMap SimhObject.encode ++ o.encode).length t) :
        Delivered before objects (before ++ SimhImage.bytesOf objects ending) result t :=
      .inr ⟨skipped,o,rest,item,split,none,here,same,known⟩
    have mark (o : SimhObject) (bare : o.body = [])
        (known : At (before ++ SimhImage.bytesOf objects ending)
          ((before ++ skipped.flatMap SimhObject.encode).length + metaDataSize) t) :
        At (before ++ SimhImage.bytesOf objects ending)
          (before ++ skipped.flatMap SimhObject.encode ++ o.encode).length t := by
      rw [List.length_append,SimhObject.encode,bare,List.append_nil,toLittleEndianLength]
      exact known
    rcases kind with ⟨cls,data,rfl,rfl,rfl,some⟩ | ⟨rfl,rfl,rfl⟩ | ⟨rfl,rfl,rfl⟩
    · simp only [wpIte,wpBind,wpPure]
      refine ⟨fun wrong => absurd wrong (by decide),fun _ => ⟨fun wrong => absurd wrong (by decide),fun _ =>
        ⟨fun wrong => absurd wrong some,fun _ => ?_⟩⟩⟩
      refine wpScanRecord good whole (by push_cast at known ⊢; exact known) fun t known => ?_
      exact delivered _ t rfl known
    · simp only [wpIte,wpPure]
      exact ⟨fun wrong => absurd wrong (by decide),fun _ => ⟨fun wrong => absurd wrong (by decide),fun _ =>
        ⟨fun _ => delivered _ t rfl (mark .badMark rfl known),fun wrong => absurd trivial wrong⟩⟩⟩
    · simp only [wpIte,wpPure]
      exact ⟨fun wrong => absurd wrong (by decide),fun _ => ⟨fun _ => delivered _ t rfl (mark .filemark rfl known),
        fun wrong => absurd trivial wrong⟩⟩
  · exact .inl ⟨rfl,none⟩

/- The objects of the tape are delivered in their order. -/
theorem scanFromImage {objects : List SimhObject} {ending : SimhEnd} (before : Bytes) {limit fuel : Nat}
    (wellFormed : ∀ o ∈ objects, o.WellFormed) (enough : objects.length < limit) (more : objects.length < fuel)
    (known : At (before ++ SimhImage.bytesOf objects ending) before.length s) :
    scanFrom limit fuel s = some (objects.filterMap SimhObject.item) := by
  induction fuel generalizing objects before s with
  | zero => omega
  | succ fuel ih =>
    have ends := wpScanObject (r := { cdb := [] }) wellFormed enough known
    unfold wp at ends
    rw [scanFrom]
    cases ran : scanObject limit { cdb := [] } s with
    | mk result t =>
      rw [ran] at ends
      cases result with
      | error e =>
        obtain ⟨none,medium⟩ := ends
        rw [none]
        exact if_pos medium
      | ok delivered =>
        rcases ends with ⟨rfl,none⟩ | ⟨skipped,o,rest,item,rfl,none,here,rfl,known⟩
        · rw [none]
        · have whole : before ++ SimhImage.bytesOf (skipped ++ o :: rest) ending =
              (before ++ skipped.flatMap SimhObject.encode ++ o.encode) ++ SimhImage.bytesOf rest ending := by
            simp only [SimhImage.bytesOf,List.flatMap_append,List.flatMap_cons,List.append_assoc]
          rw [whole] at known
          simp only [List.length_append,List.length_cons] at enough more
          have later := ih _ (fun o h => wellFormed o (List.mem_append_right _ (List.mem_cons_of_mem _ h)))
            (by omega : rest.length < limit) (by omega) known
          simp only [later,List.filterMap_append,none,List.filterMap_cons_some here]
          rfl

theorem scanImage (image : SimhImage) : scan image.bytes = some image.contents := by
  have fit := SimhImage.objectsFit image.objects image.ending
  refine scanFromImage [] image.wellFormed ?_ (Nat.lt_succ_of_le fit) ⟨rfl,rfl,fun wrong => by cases wrong⟩
  unfold scanLimit SimhImage.bytes
  simp only [Option.getD_some]
  omega

end
end Scsi2Pi.Tape
