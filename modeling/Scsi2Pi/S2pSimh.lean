import Scsi2Pi.SimhImage

/-! The analyzer of s2psimh: what it prints about the objects of an image file, up to
an end of the data, or until a record has no matching end. -/
namespace Scsi2Pi.S2pSimh
open Slices MemoryUtil SimhUtil

/- What is printed about an object: class and value, and for a dump the data of a record. -/
structure Printed where
  metaData : SimhMetaData
  data : Bytes
  deriving DecidableEq, Repr

/- Bytes that cannot be read remain 0. -/
def readWord (file : Bytes) (position : Nat) : SimhMetaData :=
  let word := slice file position metaDataSize
  fromLittleEndian (word ++ List.replicate (metaDataSize - word.length) 0)

def readRecord (file : Bytes) (position count : Nat) : Option Bytes :=
  if file.length < position + count then none else some (slice file position count)

/- A limit of 0 is that of an analysis without a dump. -/
def dumpRecord (limit : Nat) (file : Bytes) (position length : Nat) : Option Bytes :=
  if limit = 0 then some [] else readRecord file position (min limit length)

/- The result is the data and the position of the next object. -/
def printRecord (limit : Nat) (file : Bytes) (position : Nat) (m : SimhMetaData) : Option (Bytes × Nat) := do
  if m.cls = .badDataRecord ∧ m.value = 0 then return ([],position)
  let data ← dumpRecord limit file position m.value
  let position := position + pad m.value
  if (readWord file position).value ≠ m.value then none
  return (data,position + metaDataSize)

def isEnd (m : SimhMetaData) : Bool :=
  m.cls = .privateMarker && m.value % 2^24 = privateMarkerMagic && m.value / 2^24 % 16 = 3 ||
    m.cls = .reservedMarker && m.value = endOfMedium

/- A mark is not followed by data. -/
def isMark (m : SimhMetaData) : Bool :=
  m.cls = .privateMarker || m.cls = .reservedMarker || m.cls = .tapeMarkGoodDataRecord && m.value = 0

def analyzeFrom (limit : Nat) (file : Bytes) : Nat → Nat → Option (List Printed)
  | 0, _ => none
  | fuel+1, position => do
    if file.length ≤ position then return []
    let m ← readMetaData (some file) position
    if isEnd m then return []
    let (data,next) ← if isMark m then some ([],position + metaDataSize)
      else printRecord limit file (position + metaDataSize) m
    return ⟨m,data⟩ :: (← analyzeFrom limit file fuel next)

/- No result is that of EXIT_FAILURE. -/
def analyze (limit : Nat) (file : Bytes) : Option (List Printed) := analyzeFrom limit file (file.length + 1) 0

/-! The objects of an image. -/

def printed (limit : Nat) (o : SimhObject) : Printed :=
  ⟨o.metaData,match o with
    | .record _ data => data.take limit
    | .badMark | .filemark | .marker _ _ => []⟩

variable {limit : Nat} {before after : Bytes}

/- A complete word is read as it is. -/
theorem readWordAt {file : Bytes} {position : Nat} {word : Bytes} (here : slice file position metaDataSize = word)
    (complete : word.length = metaDataSize) : readWord file position = fromLittleEndian word := by
  simp only [readWord,here,complete,Nat.sub_self,List.replicate_zero,List.append_nil]

theorem printRecordAt {cls : SimhClass} {data file : Bytes} (good : (SimhObject.record cls data).WellFormed)
    (whole : file = before ++ ((SimhObject.record cls data).encode ++ after)) :
    printRecord limit file (before.length + metaDataSize) ⟨cls,data.length⟩ =
      some (data.take limit,(before ++ (SimhObject.record cls data).encode).length) := by
  obtain ⟨dataHere,wordHere,behind,room⟩ := SimhObject.recordParts whole
  have trailing : readWord file (before.length + metaDataSize + pad data.length) = ⟨cls,data.length⟩ := by
    rw [readWordAt wordHere (toLittleEndianLength _),littleEndianRoundTrip _ good.2]
  have record : ¬(cls = .badDataRecord ∧ data.length = 0) := by
    rintro ⟨rfl,none⟩
    have kind := good.1
    rw [none] at kind
    cases kind
  have padded : data.length ≤ pad data.length := Nat.le_add_right _ _
  have part : slice file (before.length + metaDataSize) (min limit data.length) = data.take limit := calc
    slice file (before.length + metaDataSize) (min limit data.length)
      = (slice file (before.length + metaDataSize) data.length).take limit := by
        simp only [slice,List.take_take]
    _ = data.take limit := by rw [dataHere]
  have dumped : dumpRecord limit file (before.length + metaDataSize) data.length = some (data.take limit) := by
    unfold dumpRecord readRecord
    split
    · next none => rw [none,List.take_zero]
    · rw [if_neg (by omega),part]
  unfold printRecord
  simp only [record,if_false,dumped,trailing,behind,bind,Option.bind,pure,ne_eq,not_true]

theorem notAnEnd {o : SimhObject} (good : o.WellFormed) : isEnd o.metaData = false := by
  cases o with
  | record cls data =>
    have record := good.1
    have kind : cls ≠ .privateMarker ∧ cls ≠ .reservedMarker := by
      constructor <;> rintro rfl <;> cases record
    simp [isEnd,SimhObject.metaData,kind]
  | badMark => rfl
  | filemark => rfl
  | marker cls value =>
    rcases good.2 with ⟨rfl,magic⟩ | ⟨rfl,medium⟩
    · simp only [isEnd,SimhObject.metaData,magic,decide_false,Bool.and_false,Bool.false_and,Bool.false_or]
      rfl
    · simp only [isEnd,SimhObject.metaData,medium,decide_false,Bool.and_false,Bool.or_false]
      rfl

theorem recordIsNoMark {cls : SimhClass} {data : Bytes} (good : (SimhObject.record cls data).WellFormed) :
    isMark ⟨cls,data.length⟩ = false := by
  have record := good.1
  have kind : cls ≠ .privateMarker ∧ cls ≠ .reservedMarker := by
    constructor <;> rintro rfl <;> cases record
  have some : ¬(cls = .tapeMarkGoodDataRecord ∧ data.length = 0) := by
    rintro ⟨rfl,none⟩
    rw [none] at record
    cases record
  simpa [isMark,kind] using some

theorem analyzeObject {o : SimhObject} {file : Bytes} {fuel : Nat} (good : o.WellFormed)
    (whole : file = before ++ (o.encode ++ after)) :
    analyzeFrom limit file (fuel+1) before.length =
      (analyzeFrom limit file fuel (before ++ o.encode).length).map (printed limit o :: ·) := by
  have size : metaDataSize ≤ o.encode.length := by
    rw [SimhObject.encode,List.length_append,toLittleEndianLength]
    exact Nat.le_add_right _ _
  have inside : ¬file.length ≤ before.length := by
    rw [whole,List.length_append,List.length_append]
    unfold metaDataSize at size
    omega
  have word : readMetaData (some file) before.length = some o.metaData := by
    rw [whole]
    exact SimhObject.metaDataAt good before after
  have more := notAnEnd good
  have next (bare : o.body = []) : before.length + metaDataSize = (before ++ o.encode).length := by
    rw [List.length_append,SimhObject.encode,bare,List.append_nil,toLittleEndianLength]
  rw [analyzeFrom]
  simp only [inside,if_false,word,more,bind,Option.bind,pure,Bool.false_eq_true]
  cases o with
  | record cls data =>
    rw [SimhObject.metaData,recordIsNoMark good]
    simp only [Bool.false_eq_true,if_false,printRecordAt good whole]
    cases analyzeFrom limit file fuel (before ++ (SimhObject.record cls data).encode).length <;> rfl
  | badMark =>
    have behind : printRecord limit file (before.length + metaDataSize) SimhObject.badMark.metaData =
        some ([],(before ++ SimhObject.badMark.encode).length) := by
      rw [← next rfl]
      rfl
    have unmarked : isMark SimhObject.badMark.metaData = false := rfl
    simp only [unmarked,behind,Bool.false_eq_true,if_false]
    cases analyzeFrom limit file fuel (before ++ SimhObject.badMark.encode).length <;> rfl
  | filemark =>
    have marked : isMark SimhObject.filemark.metaData = true := rfl
    simp only [marked,if_true,next rfl]
    cases analyzeFrom limit file fuel (before ++ SimhObject.filemark.encode).length <;> rfl
  | marker cls value =>
    have marked : isMark (SimhObject.marker cls value).metaData = true := by
      rcases good.2 with ⟨rfl,_⟩ | ⟨rfl,_⟩ <;> rfl
    simp only [marked,if_true,next rfl]
    cases analyzeFrom limit file fuel (before ++ (SimhObject.marker cls value).encode).length <;> rfl

/- The objects of an image are printed in their order. -/
theorem analyzeFromImage {objects : List SimhObject} {ending : SimhEnd} {fuel : Nat} (before : Bytes)
    (wellFormed : ∀ o ∈ objects, o.WellFormed) (enough : objects.length < fuel) :
    analyzeFrom limit (before ++ SimhImage.bytesOf objects ending) fuel before.length = some (objects.map (printed limit)) := by
  induction objects generalizing before fuel with
  | nil =>
    obtain ⟨fuel,rfl⟩ := Nat.exists_eq_succ_of_ne_zero (Nat.ne_of_gt enough)
    have word := endMetaData ending before
    have nothing : SimhImage.bytesOf [] ending = ending.encode := rfl
    rw [nothing,Nat.succ_eq_add_one,analyzeFrom]
    simp only [word,bind,Option.bind,pure]
    split
    · rfl
    · next inside =>
      cases ending with
      | endOfFile => exact (inside (by simp [SimhEnd.encode])).elim
      | endOfMedium stale =>
        have medium : isEnd ⟨.reservedMarker,endOfMedium⟩ = true := by decide
        exact if_pos medium
      | endOfData stale =>
        have mark : isEnd ⟨.privateMarker,endOfDataValue⟩ = true := by decide
        exact if_pos mark
  | cons o objects ih =>
    obtain ⟨fuel,rfl⟩ := Nat.exists_eq_succ_of_ne_zero (Nat.ne_of_gt (Nat.lt_of_le_of_lt (Nat.zero_le _) enough))
    have later := ih (before ++ o.encode) (fun o h => wellFormed o (List.mem_cons_of_mem _ h))
      (Nat.lt_of_succ_lt_succ enough)
    rw [Nat.succ_eq_add_one,SimhImage.bytesCons,analyzeObject (wellFormed o List.mem_cons_self) rfl,← List.append_assoc,later]
    rfl

theorem analyzeImage (image : SimhImage) : analyze limit image.bytes = some (image.objects.map (printed limit)) :=
  analyzeFromImage [] image.wellFormed (Nat.lt_succ_of_le (SimhImage.objectsFit _ _))

end Scsi2Pi.S2pSimh
