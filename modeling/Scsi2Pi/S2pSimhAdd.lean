import Mathlib.Algebra.GroupWithZero.Nat
import Scsi2Pi.S2pExec
import Scsi2Pi.S2pSimh

/-! Adding objects to an image file with s2psimh, and what the analyzer then reports
about it: the contents survive if there were none, as the file is opened for output. -/
namespace Scsi2Pi
namespace S2pSimhAdd
open Slices MemoryUtil SimhUtil S2pSimh S2pUtil S2pExec

inductive DataFile where
  | binary (data : Bytes)
  | hex (text : HexText)

/- A line that is not hexadecimal text is reported, and left out. -/
def inputData : DataFile → Bytes
  | .binary data => data
  | .hex text => (inputLines text).flatMap fun line => (hexToBytes line).getD []

/- The image file, and where it is written next. -/
structure Stream where
  file : Bytes
  position : Nat
  deriving DecidableEq, Repr

namespace Stream

/- A gap behind the end of the file is filled with zeros. -/
def write (s : Stream) (data : Bytes) : Stream := ⟨overwrite 0 s.file s.position data,s.position + data.length⟩

def skip (s : Stream) (count : Nat) : Stream := { s with position := s.position + count }

end Stream

/- A stream that is opened for output only truncates the file. -/
def openOutput (_ : Bytes) : Bytes := []

inductive AddError where
  | notEnoughData
  | outsideInput
  deriving DecidableEq, Repr

/- Only the start of the data is checked. The result is the index behind them. -/
def writeRecord (input : Option Bytes) (length index : Nat) (s : Stream) : Except AddError Nat × Stream :=
  match input with
  | none => (.ok index,s.skip (pad length))
  | some bytes =>
    if bytes.length ≤ index then (.error .notEnoughData,s)
    else if bytes.length < index + length then (.error .outsideInput,s)
    else (.ok (index + length),s.write (slice bytes index length))

def addObject (input : Option Bytes) (object : SimhMetaData) (index : Nat) (s : Stream) : Except AddError Nat × Stream :=
  let data := toLittleEndian object
  let s := s.write data
  if isRecord object && !(object.cls = .badDataRecord && object.value = 0) then
    let length := object.value % 2^28
    match writeRecord input length index s with
    | (.error e,s) => (.error e,s)
    | (.ok index,s) =>
      let s := if length ≠ pad length then s.write [0] else s
      (.ok index,s.write data)
  else (.ok index,s)

def addFrom (input : Option Bytes) : List SimhMetaData → Nat → Stream → Except AddError Unit × Stream
  | [], _, s => (.ok (),s)
  | object::objects, index, s => match addObject input object index s with
    | (.error e,s) => (.error e,s)
    | (.ok index,s) => addFrom input objects index s

def add (image : Bytes) (input : Option Bytes) (objects : List SimhMetaData) : Except AddError Unit × Stream :=
  addFrom input objects 0 ⟨openOutput image,(openOutput image).length⟩

/- Where the analyzer goes on behind the word at a position. -/
def nextObject (file : Bytes) (position : Nat) (m : SimhMetaData) : Option Nat :=
  if isMark m then some (position + metaDataSize) else (printRecord 0 file (position + metaDataSize) m).map Prod.snd

/- The words that the analyzer reports, that of an end of the data included. -/
def reportFrom (file : Bytes) : Nat → Nat → Option (List SimhMetaData)
  | 0, _ => none
  | fuel+1, position => do
    if file.length ≤ position then return []
    let m ← readMetaData (some file) position
    if isEnd m then return [m]
    return m :: (← reportFrom file fuel (← nextObject file position m))

def report (file : Bytes) : Option (List SimhMetaData) := reportFrom file (file.length + 1) 0

/-! What adding objects is for. -/

def recordLength (m : SimhMetaData) : Nat := if isRecord m then m.value % 2^28 else 0

/- The index does not move without a data file. -/
def advance (input : Option Bytes) (index : Nat) (m : SimhMetaData) : Nat :=
  match input with
  | none => index
  | some _ => index + recordLength m

/- The next bytes of the data file, or zeros. -/
def recordData (input : Option Bytes) (index : Nat) (m : SimhMetaData) : Bytes :=
  match input with
  | none => List.replicate (recordLength m) 0
  | some bytes => slice bytes index (recordLength m)

def objectOf (data : Bytes) (m : SimhMetaData) : SimhObject :=
  if isRecord m then .record m.cls data
  else if m.cls = .badDataRecord then .badMark
  else if m.cls = .tapeMarkGoodDataRecord then .filemark
  else .marker m.cls m.value

def objectsOf (input : Option Bytes) : Nat → List SimhMetaData → List SimhObject
  | _, [] => []
  | index, m::ms => objectOf (recordData input index m) m :: objectsOf input (advance input index m) ms

def needed (objects : List SimhMetaData) : Nat := (objects.map recordLength).sum

def Enough (input : Option Bytes) (objects : List SimhMetaData) : Prop := ∀ bytes, input = some bytes → needed objects ≤ bytes.length

/- Adding is the inverse of the analysis, and leaves no part of a record when there
are not enough data. The contents are kept from the opening of the file on. -/
structure Inverse (image : Bytes) (input : Option Bytes) (objects : List SimhMetaData) : Prop where
  kept : ∀ k, image <+: (add image input (objects.take k)).2.file
  added : Enough input objects → (add image input objects).1 = .ok () ∧
    (add image input objects).2.file = image ++ (objectsOf input 0 objects).flatMap SimhObject.encode ∧
    report (add image input objects).2.file = (report image).map (· ++ objects)
  refused : ¬Enough input objects → (add image input objects).1 = .error .notEnoughData ∧
    ∃ k, (add image input objects).2.file = image ++ (objectsOf input 0 (objects.take k)).flatMap SimhObject.encode

/- A record has an even length, or begins before the end of the data file and ends within it. -/
def Suits (input : Option Bytes) (index : Nat) (m : SimhMetaData) : Prop :=
  isRecord m = true → ∀ bytes, input = some bytes → index < bytes.length ∧ index + recordLength m ≤ bytes.length

def Supplied (input : Option Bytes) : Nat → List SimhMetaData → Prop
  | _, [] => True
  | index, m::ms => Suits input index m ∧ Supplied input (advance input index m) ms

structure Addable (image : Bytes) (input : Option Bytes) (objects : List SimhMetaData) : Prop where
  empty : image = []
  small : ∀ m ∈ objects, m.value < 2^28
  last : ∀ m ∈ objects.dropLast, isEnd m = false
  even : input = none → ∀ m ∈ objects, recordLength m % 2 = 0
  supplied : Supplied input 0 objects

/-! What is written. -/

variable {image bytes : Bytes} {input : Option Bytes} {objects ms : List SimhMetaData} {m : SimhMetaData} {index : Nat} {s : Stream}

/- All writes are at the end of the file, or behind it. -/
theorem writeBehind {file data : Bytes} {gap : Nat} :
    (⟨file,file.length + gap⟩ : Stream).write data = ⟨file ++ (List.replicate gap 0 ++ data),(file ++ (List.replicate gap 0 ++ data)).length⟩ := by
  have front : file.take (file.length + gap) = file := List.take_of_length_le (Nat.le_add_right _ _)
  have behind : file.drop (file.length + gap + data.length) = [] := List.drop_eq_nil_of_le (by omega)
  have missing : file.length + gap - file.length = gap := by omega
  simp only [Stream.write,overwrite,front,behind,missing,List.append_nil,List.append_assoc,List.length_append,List.length_replicate,Stream.mk.injEq,true_and]
  omega

theorem writeEnd {file data : Bytes} : (⟨file,file.length⟩ : Stream).write data = ⟨file ++ data,(file ++ data).length⟩ :=
  @writeBehind file data 0

theorem wordMasked (m : SimhMetaData) : toLittleEndian ⟨m.cls,m.value % 2^28⟩ = toLittleEndian m := by
  simp only [toLittleEndian,Nat.mod_mod]

theorem recordGuard (m : SimhMetaData) : (isRecord m && !(m.cls = .badDataRecord && m.value = 0)) = isRecord m := by
  unfold isRecord
  by_cases mark : m.cls = .tapeMarkGoodDataRecord
  · simp [mark]
  · by_cases bad : m.cls = .badDataRecord ∧ m.value = 0
    · simp [bad.1,bad.2]
    · by_cases cls : m.cls = .badDataRecord <;> simp_all

def filler (input : Option Bytes) (m : SimhMetaData) : Bytes :=
  match input with
  | none => List.replicate (recordLength m % 2 + recordLength m % 2) 0
  | some _ => List.replicate (recordLength m % 2) 0

def written (input : Option Bytes) (index : Nat) (m : SimhMetaData) : Bytes :=
  toLittleEndian m ++ if isRecord m then recordData input index m ++ filler input m ++ toLittleEndian m else []

theorem fillWrite {file word : Bytes} {length gap : Nat} :
    ((if length ≠ pad length then (⟨file,file.length + gap⟩ : Stream).write [0] else ⟨file,file.length + gap⟩).write word) =
      ⟨file ++ (List.replicate (gap + length % 2) 0 ++ word),(file ++ (List.replicate (gap + length % 2) 0 ++ word)).length⟩ := by
  by_cases odd : length % 2 = 1
  · have fill : length ≠ pad length := by unfold pad; omega
    have zeros : List.replicate gap (0 : UInt8) ++ [0] = List.replicate (gap + 1) 0 := (List.replicate_succ').symm
    rw [if_pos fill,writeBehind,writeEnd,odd,zeros]
    simp only [List.append_assoc]
  · have none : length % 2 = 0 := by omega
    rw [if_neg (by unfold pad; omega),writeBehind,none,Nat.add_zero]

theorem addObjectSuited (suits : Suits input index m) (file : Bytes) :
    addObject input m index ⟨file,file.length⟩ =
      (.ok (advance input index m),⟨file ++ written input index m,(file ++ written input index m).length⟩) := by
  unfold addObject
  dsimp only
  rw [writeEnd,recordGuard]
  cases record : isRecord m with
  | false =>
    simp only [written,advance,record,recordLength,Bool.false_eq_true,if_false,List.append_nil]
    cases input <;> rfl
  | true =>
    have length : recordLength m = m.value % 2^28 := by simp [recordLength,record]
    cases input with
    | none =>
      have skipped : pad (m.value % 2^28) + m.value % 2^28 % 2 =
          m.value % 2^28 + (m.value % 2^28 % 2 + m.value % 2^28 % 2) := by unfold pad; omega
      simp only [writeRecord,Stream.skip,if_true]
      rw [fillWrite,skipped,List.replicate_add]
      simp only [written,record,if_true,recordData,filler,length,advance,List.append_assoc]
    | some bytes =>
      obtain ⟨begins,fits⟩ := suits record bytes rfl
      rw [length] at fits
      simp only [writeRecord,if_neg (show ¬bytes.length ≤ index by omega),if_neg (show ¬bytes.length < index + m.value % 2^28 by omega),if_true]
      rw [writeEnd,show (file ++ toLittleEndian m ++ slice bytes index (m.value % 2^28)).length = (file ++ toLittleEndian m ++ slice bytes index (m.value % 2^28)).length + 0 from rfl,fillWrite]
      simp only [written,record,if_true,recordData,filler,length,advance,List.append_assoc,Nat.zero_add]

theorem notSuited (lacking : ¬Suits input index m) :
    isRecord m = true ∧ ∃ bytes, input = some bytes ∧ ¬(index < bytes.length ∧ index + recordLength m ≤ bytes.length) := by
  unfold Suits at lacking
  simp only [Classical.not_imp,not_forall] at lacking
  exact lacking

/- A record without its data leaves its length behind. -/
theorem addObjectLacking (record : isRecord m = true) (lacking : ¬(index < bytes.length ∧ index + recordLength m ≤ bytes.length)) (file : Bytes) :
    ∃ e, addObject (some bytes) m index ⟨file,file.length⟩ = (.error e,⟨file ++ toLittleEndian m,(file ++ toLittleEndian m).length⟩) := by
  unfold addObject
  dsimp only
  rw [writeEnd,recordGuard,record]
  have length : recordLength m = m.value % 2^28 := by simp [recordLength,record]
  rw [length] at lacking
  unfold writeRecord
  by_cases begins : bytes.length ≤ index
  · exact ⟨_,by simp only [if_true,if_pos begins]; rfl⟩
  · have ends : bytes.length < index + m.value % 2^28 := by omega
    exact ⟨_,by simp only [if_true,if_neg begins,if_pos ends]; rfl⟩

def allWritten (input : Option Bytes) : Nat → List SimhMetaData → Bytes
  | _, [] => []
  | index, m::ms => written input index m ++ allWritten input (advance input index m) ms

theorem addFromSupplied (supplied : Supplied input index ms) (file : Bytes) :
    addFrom input ms index ⟨file,file.length⟩ = (.ok (),⟨file ++ allWritten input index ms,(file ++ allWritten input index ms).length⟩) := by
  induction ms generalizing index file with
  | nil => simp [addFrom,allWritten]
  | cons m ms ih =>
    rw [addFrom,addObjectSuited supplied.1]
    dsimp only
    rw [ih supplied.2,allWritten,List.append_assoc]

theorem addFromOk {file : Bytes} (done : (addFrom input ms index ⟨file,file.length⟩).1 = .ok ()) : Supplied input index ms := by
  induction ms generalizing index file with
  | nil => trivial
  | cons m ms ih =>
    by_cases suits : Suits input index m
    · rw [addFrom,addObjectSuited suits] at done
      exact ⟨suits,ih done⟩
    · obtain ⟨record,bytes,rfl,lacking⟩ := notSuited suits
      obtain ⟨e,failed⟩ := addObjectLacking record lacking file
      rw [addFrom,failed] at done
      cases done

theorem addFromGrows (file : Bytes) : file <+: (addFrom input ms index ⟨file,file.length⟩).2.file := by
  induction ms generalizing index file with
  | nil => exact List.prefix_refl file
  | cons m ms ih =>
    by_cases suits : Suits input index m
    · rw [addFrom,addObjectSuited suits]
      exact (List.prefix_append file _).trans (ih _)
    · obtain ⟨record,bytes,rfl,lacking⟩ := notSuited suits
      obtain ⟨e,failed⟩ := addObjectLacking record lacking file
      rw [addFrom,failed]
      exact List.prefix_append file _

/-! The objects that are written. -/

theorem encodeOf {data : Bytes} (whole : data.length = recordLength m) :
    (objectOf data m).encode =
      toLittleEndian m ++ if isRecord m then data ++ List.replicate (recordLength m % 2) 0 ++ toLittleEndian m else [] := by
  unfold objectOf
  cases record : isRecord m with
  | true =>
    have word : toLittleEndian ⟨m.cls,data.length⟩ = toLittleEndian m := by
      rw [whole,recordLength,record,if_pos rfl,wordMasked]
    simp only [if_true,SimhObject.encode,SimhObject.metaData,SimhObject.body,SimhObject.padding,word]
    rw [whole]
  | false =>
    have value : ∀ cls, m.cls = cls → cls = .badDataRecord ∨ cls = .tapeMarkGoodDataRecord → m = ⟨cls,0⟩ := by
      intro cls same kind
      obtain ⟨cls',value⟩ := m
      cases same
      rcases kind with rfl | rfl <;> simpa [isRecord] using record
    simp only [Bool.false_eq_true,if_false,List.append_nil]
    split
    · next bad => rw [value _ bad (.inl rfl)]; rfl
    · split
      · next mark => rw [value _ mark (.inr rfl)]; rfl
      · simp only [SimhObject.encode,SimhObject.metaData,SimhObject.body,List.append_nil]

theorem dataWhole (suits : Suits input index m) : (recordData input index m).length = recordLength m := by
  cases record : isRecord m with
  | false => cases input <;> simp [recordData,recordLength,record]
  | true =>
    cases input with
    | none => exact List.length_replicate
    | some bytes => exact sliceLengthWithin (suits record bytes rfl).2

theorem writtenEncode (suits : Suits input index m) (even : input = none → recordLength m % 2 = 0) :
    written input index m = (objectOf (recordData input index m) m).encode := by
  rw [encodeOf (dataWhole suits),written]
  cases input with
  | none => rw [filler,even rfl]
  | some bytes => rfl

theorem allWrittenEncode (supplied : Supplied input index ms) (even : input = none → ∀ m ∈ ms, recordLength m % 2 = 0) :
    allWritten input index ms = (objectsOf input index ms).flatMap SimhObject.encode := by
  induction ms generalizing index with
  | nil => rfl
  | cons m ms ih =>
    rw [allWritten,objectsOf,List.flatMap_cons,ih supplied.2 (fun none => fun o member => even none o (List.mem_cons_of_mem _ member)),
      writtenEncode supplied.1 fun none => even none m List.mem_cons_self]

/- Without a data file a record of an odd length gets one byte too many. -/
theorem allWrittenLength : (allWritten none index ms).length =
    ((objectsOf none index ms).flatMap SimhObject.encode).length + (ms.map (recordLength · % 2)).sum := by
  induction ms generalizing index with
  | nil => rfl
  | cons m ms ih =>
    have one : (written none index m).length = (objectOf (recordData none index m) m).encode.length + recordLength m % 2 := by
      rw [encodeOf (dataWhole fun _ bytes wrong => by cases wrong),written]
      cases record : isRecord m with
      | false => simp [recordLength,record]
      | true =>
        simp only [if_true,filler,List.length_append,List.length_replicate]
        omega
    rw [allWritten,objectsOf,List.flatMap_cons,List.length_append,List.length_append,one,ih,List.map_cons,List.sum_cons]
    omega

theorem evenWritten (same : allWritten none index ms = (objectsOf none index ms).flatMap SimhObject.encode) :
    ∀ m ∈ ms, recordLength m % 2 = 0 := by
  intro m member
  have length : (allWritten none index ms).length =
      ((objectsOf none index ms).flatMap SimhObject.encode).length + (ms.map (recordLength · % 2)).sum := allWrittenLength
  rw [same] at length
  have none : (ms.map (recordLength · % 2)).sum = 0 := by omega
  exact List.sum_eq_zero_iff_forall_eq_nat.mp none _ (List.mem_map_of_mem member)

/- A refused list of objects leaves a part of a record. -/
theorem refusedPart {file : Bytes} {e : AddError} (failed : (addFrom (some bytes) ms index ⟨file,file.length⟩).1 = .error e) (k : Nat) :
    (addFrom (some bytes) ms index ⟨file,file.length⟩).2.file ≠
      file ++ (objectsOf (some bytes) index (ms.take k)).flatMap SimhObject.encode := by
  induction ms generalizing index file k with
  | nil => cases failed
  | cons m ms ih =>
    have word := toLittleEndianLength m
    unfold metaDataSize at word
    by_cases suits : Suits (some bytes) index m
    · have step := writtenEncode suits (fun wrong => by cases wrong)
      rw [addFrom,addObjectSuited suits] at failed ⊢
      cases k with
      | zero =>
        have front : file ++ written (some bytes) index m <+: (addFrom (some bytes) ms (advance (some bytes) index m)
            ⟨file ++ written (some bytes) index m,(file ++ written (some bytes) index m).length⟩).2.file := addFromGrows _
        have grown := front.length_le
        intro same
        rw [same] at grown
        simp only [List.length_append,List.take_zero,objectsOf,List.flatMap_nil,List.append_nil,written,word] at grown
        omega
      | succ k =>
        have later := ih failed k
        rwa [List.take_succ_cons,objectsOf,List.flatMap_cons,← step,← List.append_assoc]
    · obtain ⟨record,_,same,lacking⟩ := notSuited suits
      cases same
      obtain ⟨e',refused⟩ := addObjectLacking record lacking file
      rw [addFrom,refused]
      cases k with
      | zero =>
        intro same
        have length := congrArg List.length same
        simp only [List.length_append,List.take_zero,objectsOf,List.flatMap_nil,List.append_nil,word] at length
        omega
      | succ k =>
        intro same
        have length := congrArg List.length same
        have object : 8 ≤ (objectOf (recordData (some bytes) index m) m).encode.length := by
          simp only [objectOf,record,if_true,SimhObject.encode,SimhObject.body,List.length_append,toLittleEndianLength,metaDataSize]
          omega
        simp only [List.length_append,List.take_succ_cons,objectsOf,List.flatMap_cons,word] at length
        omega

/-! What is reported. -/

theorem readSmall {file : Bytes} {position : Int} (read : readMetaData (some file) position = some m) : m.value < 2^28 := by
  unfold readMetaData at read
  dsimp only at read
  split at read
  · cases read
  · split at read
    · cases read
      exact Nat.mod_lt _ (by decide)
    · cases read
      decide

theorem reportSmall {file : Bytes} {fuel position : Nat} (reported : reportFrom file fuel position = some ms) : ∀ m ∈ ms, m.value < 2^28 := by
  induction fuel generalizing position ms with
  | zero => cases reported
  | succ fuel ih =>
    rw [reportFrom] at reported
    split at reported
    · cases reported
      exact fun _ member => absurd member List.not_mem_nil
    · obtain ⟨m,read,rest⟩ := Option.bind_eq_some_iff.mp reported
      have small := readSmall read
      split at rest
      · cases rest
        exact fun o member => by rwa [List.mem_singleton.mp member]
      · obtain ⟨_,_,behind⟩ := Option.bind_eq_some_iff.mp rest
        obtain ⟨others,later,made⟩ := Option.bind_eq_some_iff.mp behind
        cases made
        intro o member
        rcases List.mem_cons.mp member with rfl | member
        · exact small
        · exact ih later o member

theorem reportEnd {file : Bytes} {fuel position : Nat} (inside : position < file.length) (read : readMetaData (some file) position = some m)
    (ends : isEnd m = true) : reportFrom file (fuel+1) position = some [m] := by
  rw [reportFrom,if_neg (Nat.not_le_of_lt inside),read]
  simp only [bind,Option.bind,ends,if_true,pure]

theorem nextRecord {data before after file : Bytes} (record : isRecord m = true) (small : m.value < 2^28) (length : data.length = m.value)
    (whole : file = before ++ ((SimhObject.record m.cls data).encode ++ after)) :
    nextObject file before.length m = some (before ++ (SimhObject.record m.cls data).encode).length := by
  obtain ⟨cls,value⟩ := m
  cases length
  have good : (SimhObject.record cls data).WellFormed := ⟨record,small⟩
  unfold nextObject
  rw [recordIsNoMark good,printRecordAt good whole]
  rfl

theorem nextMark {file : Bytes} {position : Nat} (record : isRecord m = false) : nextObject file position m = some (position + metaDataSize) := by
  obtain ⟨cls,value⟩ := m
  unfold nextObject
  cases marked : isMark ⟨cls,value⟩ with
  | true => rfl
  | false =>
    have bad : cls = .badDataRecord ∧ value = 0 := by
      cases cls <;> simp_all [isMark,isRecord]
    obtain ⟨rfl,rfl⟩ := bad
    rfl

/- An object that is not an end is reported, and those behind it. -/
theorem reportObject {data before after file : Bytes} {fuel : Nat} (small : m.value < 2^28) (length : data.length = recordLength m)
    (more : isEnd m = false) (whole : file = before ++ ((objectOf data m).encode ++ after)) :
    reportFrom file (fuel+1) before.length = (reportFrom file fuel (before ++ (objectOf data m).encode).length).map (m :: ·) := by
  have encoded := encodeOf length
  have size : before.length + metaDataSize ≤ file.length := by
    rw [whole,encoded]
    simp only [List.length_append,toLittleEndianLength]
    omega
  have inside : ¬file.length ≤ before.length := by
    unfold metaDataSize at size
    omega
  have word : readMetaData (some file) before.length = some m := by
    rw [whole,encoded,List.append_assoc]
    exact readMetaDataAt small before _
  have next : nextObject file before.length m = some (before ++ (objectOf data m).encode).length := by
    cases record : isRecord m with
    | true =>
      have same : recordLength m = m.value := by
        rw [recordLength,record,if_pos rfl]
        exact Nat.mod_eq_of_lt small
      have object : objectOf data m = .record m.cls data := by rw [objectOf,record,if_pos rfl]
      rw [object] at whole ⊢
      exact nextRecord record small (length.trans same) whole
    | false =>
      rw [nextMark record,encoded,record]
      simp only [Bool.false_eq_true,if_false,List.append_nil,List.length_append,toLittleEndianLength]
  rw [reportFrom,if_neg inside,word]
  simp only [bind,Option.bind,more,next,pure,Bool.false_eq_true,if_false]
  cases reportFrom file fuel (before ++ (objectOf data m).encode).length <;> rfl

/- Everything is reported if and only if an end is not followed by another object. -/
theorem reportAll (supplied : Supplied input index ms) (small : ∀ m ∈ ms, m.value < 2^28) (before : Bytes) {fuel : Nat} (enough : ms.length < fuel) :
    reportFrom (before ++ (objectsOf input index ms).flatMap SimhObject.encode) fuel before.length = some ms ↔ ∀ m ∈ ms.dropLast, isEnd m = false := by
  induction ms generalizing index before fuel with
  | nil =>
    obtain ⟨fuel,rfl⟩ := Nat.exists_eq_succ_of_ne_zero (Nat.ne_of_gt enough)
    rw [Nat.succ_eq_add_one,reportFrom]
    simp [objectsOf,pure]
  | cons m ms ih =>
    obtain ⟨fuel,rfl⟩ := Nat.exists_eq_succ_of_ne_zero (Nat.ne_of_gt (Nat.lt_of_le_of_lt (Nat.zero_le _) enough))
    have length := dataWhole supplied.1
    have later := ih supplied.2 (fun o member => small o (List.mem_cons_of_mem _ member)) (before ++ (objectOf (recordData input index m) m).encode)
      (Nat.lt_of_succ_lt_succ enough)
    have here := small m List.mem_cons_self
    rw [Nat.succ_eq_add_one,objectsOf,List.flatMap_cons]
    cases ends : isEnd m with
    | true =>
      have word : readMetaData (some (before ++ ((objectOf (recordData input index m) m).encode ++
          (objectsOf input (advance input index m) ms).flatMap SimhObject.encode))) before.length = some m := by
        rw [encodeOf length,List.append_assoc]
        exact readMetaDataAt here before _
      have inside : before.length < (before ++ ((objectOf (recordData input index m) m).encode ++
          (objectsOf input (advance input index m) ms).flatMap SimhObject.encode)).length := by
        rw [encodeOf length]
        simp only [List.length_append,toLittleEndianLength,metaDataSize]
        omega
      rw [reportEnd inside word ends]
      cases ms with
      | nil => simp
      | cons o os =>
        constructor
        · intro same
          cases same
        · intro others
          have := others m (by simp)
          rw [ends] at this
          cases this
    | false =>
      rw [reportObject here length ends rfl,← List.append_assoc]
      have others : (∀ o ∈ (m::ms).dropLast, isEnd o = false) ↔ ∀ o ∈ ms.dropLast, isEnd o = false := by
        cases ms with
        | nil => simp
        | cons o os => simp [ends]
      rw [others,← later]
      cases reportFrom (before ++ (objectOf (recordData input index m) m).encode ++
        (objectsOf input (advance input index m) ms).flatMap SimhObject.encode) fuel
        (before ++ (objectOf (recordData input index m) m).encode).length <;> simp

theorem objectsFit (input : Option Bytes) (index : Nat) (ms : List SimhMetaData) :
    ms.length ≤ ((objectsOf input index ms).flatMap SimhObject.encode).length := by
  induction ms generalizing index with
  | nil => exact Nat.zero_le _
  | cons m ms ih =>
    have behind := ih (advance input index m)
    rw [objectsOf,List.flatMap_cons,List.length_append,List.length_cons,SimhObject.encode,List.length_append,toLittleEndianLength]
    unfold metaDataSize
    omega

theorem reportExact (supplied : Supplied input 0 ms) (small : ∀ m ∈ ms, m.value < 2^28) :
    report ((objectsOf input 0 ms).flatMap SimhObject.encode) = some ms ↔ ∀ m ∈ ms.dropLast, isEnd m = false :=
  reportAll supplied small [] (Nat.lt_succ_of_le (objectsFit input 0 ms))

theorem suppliedEnough (supplied : Supplied (some bytes) index ms) (inside : index ≤ bytes.length) : index + needed ms ≤ bytes.length := by
  induction ms generalizing index with
  | nil => simpa [needed] using inside
  | cons m ms ih =>
    have fits : index + recordLength m ≤ bytes.length := by
      cases record : isRecord m with
      | false => simpa [recordLength,record] using inside
      | true => exact (supplied.1 record bytes rfl).2
    have behind := ih supplied.2 fits
    unfold needed at behind ⊢
    rw [List.map_cons,List.sum_cons,← Nat.add_assoc]
    exact behind

theorem Inverse.addable (h : Inverse image input objects) : Addable image input objects := by
  have empty : image = [] := List.prefix_nil.mp (h.kept 0)
  subst empty
  by_cases enough : Enough input objects
  · obtain ⟨done,file,reported⟩ := h.added enough
    have supplied : Supplied input 0 objects := addFromOk done
    have contents : (add [] input objects).2.file = allWritten input 0 objects := congrArg (fun r => r.2.file) (addFromSupplied supplied [])
    rw [List.nil_append] at file
    have some : report (add [] input objects).2.file = some objects := reported
    have small := reportSmall some
    rw [file] at some contents
    refine ⟨rfl,small,(reportExact supplied small).mp some,?_,supplied⟩
    intro none
    subst none
    exact evenWritten contents.symm
  · obtain ⟨refused,k,file⟩ := h.refused enough
    unfold Enough at enough
    simp only [not_forall] at enough
    obtain ⟨bytes,rfl,_⟩ := enough
    exact (refusedPart refused k file).elim

theorem Addable.inverse (h : Addable image input objects) : Inverse image input objects := by
  obtain ⟨rfl,small,last,even,supplied⟩ := h
  have ran : add [] input objects = _ := addFromSupplied supplied []
  have encoded := allWrittenEncode supplied even
  refine ⟨fun k => List.nil_prefix,fun _ => ⟨by rw [ran],by rw [ran,encoded],?_⟩,fun lacking => ?_⟩
  · rw [ran,encoded]
    exact (reportExact supplied small).mpr last
  · refine (lacking ?_).elim
    rintro bytes rfl
    have fits := suppliedEnough supplied (Nat.zero_le _)
    rwa [Nat.zero_add] at fits

end S2pSimhAdd
open S2pSimhAdd

/- Adding objects to an image and analysing it are inverse if and only if the image was
empty, and the objects and the data file suit each other. -/
theorem addAnalyzed (image : Bytes) (data : Option DataFile) (objects : List SimhMetaData) :
    Inverse image (data.map inputData) objects ↔ Addable image (data.map inputData) objects :=
  ⟨Inverse.addable,Addable.inverse⟩

namespace S2pSimhAdd

/- A tape mark is added to an image with a tape mark. -/
theorem markLost : ¬Inverse [0,0,0,0] none [⟨.tapeMarkGoodDataRecord,0⟩] := by
  intro inverse
  obtain ⟨_,file,_⟩ := inverse.added fun _ wrong => by cases wrong
  exact absurd file (by decide)

end S2pSimhAdd
end Scsi2Pi
