import Scsi2Pi.SimhUtil

/-! The contents of a SIMH-compatible image file: records with their length in
front and behind, marks and markers, one after the other, and the end. -/
namespace Scsi2Pi
open Slices MemoryUtil SimhUtil

inductive SimhObject where
  | record (cls : SimhClass) (data : Bytes)
  | badMark
  | filemark
  | marker (cls : SimhClass) (value : Nat)

/- Behind a marker for the end there may be anything. -/
inductive SimhEnd where
  | endOfFile
  | endOfMedium (stale : Bytes)
  | endOfData (stale : Bytes)

/- What a tape holds. -/
inductive TapeItem where
  | block (data : Bytes)
  | unreadable
  | filemark
  deriving DecidableEq, Repr

namespace SimhUtil

def endOfDataValue : Nat := 3 * 2^24 + privateMarkerMagic

end SimhUtil

namespace SimhObject

/- The word in front. -/
def metaData : SimhObject → SimhMetaData
  | .record cls data => ⟨cls,data.length⟩
  | .badMark => ⟨.badDataRecord,0⟩
  | .filemark => ⟨.tapeMarkGoodDataRecord,0⟩
  | .marker cls value => ⟨cls,value⟩

def padding (data : Bytes) : Bytes := List.replicate (data.length % 2) 0

/- What follows the word in front. -/
def body : SimhObject → Bytes
  | .record cls data => data ++ padding data ++ toLittleEndian ⟨cls,data.length⟩
  | .badMark | .filemark | .marker _ _ => []

def encode (o : SimhObject) : Bytes := toLittleEndian o.metaData ++ o.body

/- Only records of good or bad data and marks are of the tape. -/
def item : SimhObject → Option TapeItem
  | .record cls data => if cls = .tapeMarkGoodDataRecord ∨ cls = .badDataRecord then some (.block data) else none
  | .badMark => some .unreadable
  | .filemark => some .filemark
  | .marker _ _ => none

/- A record of good or bad data without data is a mark, and some markers are an end. -/
def WellFormed : SimhObject → Prop
  | .record cls data => isRecord ⟨cls,data.length⟩ = true ∧ data.length < 2^28
  | .badMark | .filemark => True
  | .marker cls value => value < 2^28 ∧ (cls = .privateMarker ∧ value % 2^24 ≠ privateMarkerMagic ∨
      cls = .reservedMarker ∧ value ≠ SimhUtil.endOfMedium)

end SimhObject

namespace SimhEnd

def encode : SimhEnd → Bytes
  | .endOfFile => []
  | .endOfMedium stale => toLittleEndian ⟨.reservedMarker,SimhUtil.endOfMedium⟩ ++ stale
  | .endOfData stale => toLittleEndian ⟨.privateMarker,endOfDataValue⟩ ++ stale

/- What is read there. -/
def metaData : SimhEnd → SimhMetaData
  | .endOfFile | .endOfMedium _ => ⟨.reservedMarker,SimhUtil.endOfMedium⟩
  | .endOfData _ => ⟨.privateMarker,endOfDataValue⟩

end SimhEnd

structure SimhImage where
  objects : List SimhObject
  ending : SimhEnd := .endOfFile
  wellFormed : ∀ o ∈ objects, o.WellFormed

namespace SimhImage

def bytesOf (objects : List SimhObject) (ending : SimhEnd) : Bytes :=
  objects.flatMap SimhObject.encode ++ ending.encode

def bytes (image : SimhImage) : Bytes := bytesOf image.objects image.ending

def contents (image : SimhImage) : List TapeItem := image.objects.filterMap SimhObject.item

end SimhImage

namespace SimhUtil

theorem toLittleEndianLength (m : SimhMetaData) : (toLittleEndian m).length = metaDataSize := by
  simp [toLittleEndian,bigEndian,metaDataSize]

theorem sliceMiddle (a b c : Bytes) : slice (a ++ (b ++ c)) a.length b.length = b := by
  simp [slice]

/- The word at a position. -/
theorem readMetaDataAt {m : SimhMetaData} (small : m.value < 2^28) (before after : Bytes) :
    readMetaData (some (before ++ (toLittleEndian m ++ after))) before.length = some m := by
  have length := toLittleEndianLength m
  unfold readMetaData
  dsimp only
  rw [if_neg (by omega),if_pos (by
    rw [List.length_append,List.length_append,length,Int.toNat_natCast]
    omega),Int.toNat_natCast,← length,sliceMiddle,littleEndianRoundTrip m small]

/- A word that is not complete is the end of the medium. -/
theorem readMetaDataBehind {file : Bytes} {position : Int} (valid : 0 ≤ position)
    (behind : file.length < position + metaDataSize) :
    readMetaData (some file) position = some ⟨.reservedMarker,SimhUtil.endOfMedium⟩ := by
  unfold readMetaData
  dsimp only
  rw [if_neg (by omega),if_neg (by omega)]

theorem endMetaData (ending : SimhEnd) (before : Bytes) :
    readMetaData (some (before ++ ending.encode)) before.length = some ending.metaData := by
  cases ending with
  | endOfFile =>
    refine readMetaDataBehind (Int.natCast_nonneg _) ?_
    simp only [SimhEnd.encode,List.append_nil,metaDataSize]
    omega
  | endOfMedium stale => exact readMetaDataAt (m := ⟨.reservedMarker,SimhUtil.endOfMedium⟩) (by decide) before stale
  | endOfData stale => exact readMetaDataAt (m := ⟨.privateMarker,endOfDataValue⟩) (by decide) before stale

end SimhUtil

namespace SimhObject

variable {o : SimhObject}

theorem metaDataSmall (h : o.WellFormed) : o.metaData.value < 2^28 := by
  cases o with
  | record cls data => exact h.2
  | badMark => change 0 < 2^28; decide
  | filemark => change 0 < 2^28; decide
  | marker cls value => exact h.1

theorem bodyLength (h : o.WellFormed) :
    (o.body.length : Int) = if isRecord o.metaData then (pad o.metaData.value + metaDataSize : Nat) else 0 := by
  cases o with
  | record cls data =>
    rw [metaData,h.1,if_pos rfl]
    simp only [body,padding,List.length_append,List.length_replicate,toLittleEndianLength,pad]
  | badMark => rfl
  | filemark => rfl
  | marker cls value =>
    have none : isRecord ⟨cls,value⟩ = false := by
      rcases h.2 with ⟨rfl,_⟩ | ⟨rfl,_⟩ <;> rfl
    rw [metaData,none,if_neg (by decide)]
    rfl

theorem metaDataAt (h : o.WellFormed) (before after : Bytes) :
    readMetaData (some (before ++ (o.encode ++ after))) before.length = some o.metaData := by
  rw [encode,List.append_assoc]
  exact readMetaDataAt (metaDataSmall h) before _

/- A record in a file: its data, its trailing length, and where it ends. -/
theorem recordParts {cls : SimhClass} {bytes data before after : Bytes}
    (whole : bytes = before ++ ((SimhObject.record cls data).encode ++ after)) :
    slice bytes (before.length + metaDataSize) data.length = data ∧
    slice bytes (before.length + metaDataSize + pad data.length) metaDataSize = toLittleEndian ⟨cls,data.length⟩ ∧
    (before ++ (SimhObject.record cls data).encode).length =
      before.length + metaDataSize + pad data.length + metaDataSize ∧
    before.length + metaDataSize + pad data.length + metaDataSize ≤ bytes.length := by
  have size := toLittleEndianLength ⟨cls,data.length⟩
  have front : bytes = (before ++ toLittleEndian ⟨cls,data.length⟩) ++
      (data ++ (SimhObject.padding data ++ (toLittleEndian ⟨cls,data.length⟩ ++ after))) := by
    simp only [whole,SimhObject.encode,SimhObject.body,SimhObject.metaData,List.append_assoc]
  have back : bytes = (before ++ toLittleEndian ⟨cls,data.length⟩ ++ data ++ SimhObject.padding data) ++
      (toLittleEndian ⟨cls,data.length⟩ ++ after) := by
    rw [front]
    simp only [List.append_assoc]
  have start : (before ++ toLittleEndian ⟨cls,data.length⟩).length = before.length + metaDataSize := by
    rw [List.length_append,size]
  have behind : (before ++ toLittleEndian ⟨cls,data.length⟩ ++ data ++ SimhObject.padding data).length =
      before.length + metaDataSize + pad data.length := by
    simp only [List.length_append,SimhObject.padding,List.length_replicate,pad,size]
    omega
  refine ⟨?_,?_,?_,?_⟩
  · rw [front,← start]
    exact sliceMiddle _ _ _
  · rw [back,← behind,← size]
    exact sliceMiddle _ _ _
  · simp only [List.length_append,SimhObject.encode,SimhObject.body,SimhObject.metaData,SimhObject.padding,
      List.length_replicate,pad,size]
    omega
  · rw [back,List.length_append,behind,List.length_append,size]
    omega

end SimhObject

namespace SimhImage

theorem bytesCons (o : SimhObject) (objects : List SimhObject) (ending : SimhEnd) :
    bytesOf (o :: objects) ending = o.encode ++ bytesOf objects ending := by
  simp only [bytesOf,List.flatMap_cons,List.append_assoc]

theorem objectsFit (objects : List SimhObject) (ending : SimhEnd) :
    objects.length ≤ (bytesOf objects ending).length := by
  induction objects with
  | nil => exact Nat.zero_le _
  | cons o objects ih =>
    rw [bytesCons,List.length_append,List.length_cons,SimhObject.encode,List.length_append,toLittleEndianLength]
    unfold metaDataSize
    omega

end SimhImage
end Scsi2Pi
