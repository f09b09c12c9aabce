import Scsi2Pi.MemoryUtil

/-! The meta data of SIMH-compatible tape image files: little-endian words with
a class in the upper four bits and a value of 28 bits. -/
namespace Scsi2Pi
open Slices MemoryUtil

inductive SimhClass where
  | tapeMarkGoodDataRecord | privateDataRecord1 | privateDataRecord2 | privateDataRecord3
  | privateDataRecord4 | privateDataRecord5 | privateDataRecord6 | privateMarker | badDataRecord
  | reservedDataRecord1 | reservedDataRecord2 | reservedDataRecord3 | reservedDataRecord4
  | reservedDataRecord5 | tapeDescriptionDataRecord | reservedMarker
  deriving DecidableEq, Repr

namespace SimhClass

def all : List SimhClass := [
  tapeMarkGoodDataRecord,privateDataRecord1,privateDataRecord2,privateDataRecord3,privateDataRecord4,
  privateDataRecord5,privateDataRecord6,privateMarker,badDataRecord,reservedDataRecord1,reservedDataRecord2,
  reservedDataRecord3,reservedDataRecord4,reservedDataRecord5,tapeDescriptionDataRecord,reservedMarker]

def code (cls : SimhClass) : Nat := all.idxOf cls

def ofCode (code : Nat) : SimhClass := all.getD code reservedMarker

theorem ofCodeCode (cls : SimhClass) : ofCode cls.code = cls := by
  cases cls <;> rfl

theorem codeLt (cls : SimhClass) : cls.code < 16 := by
  cases cls <;> decide

end SimhClass

structure SimhMetaData where
  cls : SimhClass
  value : Nat
  deriving DecidableEq, Repr

namespace SimhUtil

def eraseGap : Nat := 0xffffffe
def endOfMedium : Nat := 0xfffffff
def metaDataSize : Nat := 4
def privateMarkerMagic : Nat := 0x00533250

def fromLittleEndian (bytes : Bytes) : SimhMetaData :=
  let data := getInt32 bytes.reverse 0
  ⟨.ofCode (data / 2^28),data % 2^28⟩

def toLittleEndian (m : SimhMetaData) : Bytes := (bigEndian 4 (m.cls.code * 2^28 + m.value % 2^28)).reverse

/- An incomplete word at the end of the file is the end of the medium. No result
stands for a stream that failed for another reason. -/
def readMetaData (file : Option Bytes) (position : Int) : Option SimhMetaData :=
  match file with
  | none => none
  | some bytes =>
    if position < 0 then none
    else if position.toNat + metaDataSize ≤ bytes.length then
      some (fromLittleEndian (slice bytes position.toNat metaDataSize))
    else some ⟨.reservedMarker,endOfMedium⟩

def isRecord (m : SimhMetaData) : Bool :=
  if m.cls = .tapeMarkGoodDataRecord then m.value ≠ 0
  else if m.cls = .badDataRecord ∧ m.value = 0 then false
  else m.cls ≠ .privateMarker && m.cls ≠ .reservedMarker

def pad (length : Nat) : Nat := length + length % 2

/- What a word stands for survives writing and reading it. -/
theorem littleEndianRoundTrip (m : SimhMetaData) (small : m.value < 2^28) :
    fromLittleEndian (toLittleEndian m) = m := by
  have code := m.cls.codeLt
  have data : getInt32 (bigEndian 4 (m.cls.code * 2^28 + m.value)) 0 = m.cls.code * 2^28 + m.value := by
    simp only [getInt32,getInt16,byteAt,bigEndian,List.range,List.range.loop,List.map,List.getD_cons_succ,
      List.getD_cons_zero,UInt8.toNat_ofNat']
    omega
  have top : (m.cls.code * 2^28 + m.value) / 2^28 = m.cls.code := by omega
  have low : (m.cls.code * 2^28 + m.value) % 2^28 = m.value := by omega
  simp only [fromLittleEndian,toLittleEndian,List.reverse_reverse,Nat.mod_eq_of_lt small,data,top,low,
    SimhClass.ofCodeCode]

end SimhUtil
end Scsi2Pi
