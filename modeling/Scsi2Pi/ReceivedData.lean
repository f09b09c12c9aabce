import Scsi2Pi.HexCodec

/-! What s2pexec writes to its output file: the data that it has received, with the length of their text. -/
namespace Scsi2Pi
open S2pUtil S2pFormatter HexCodec

namespace ReceivedData

/- The options for the output. -/
structure Output where
  binaryOutputFilename : String := ""
  hexOutputFilename : String := ""
  hexOnly : Bool := false
  formatLimit : Int := 2^31 - 1

inductive Content where
  | text (hex : HexText)
  | binary (bytes : Bytes)
  | outsideBuffer
  deriving DecidableEq, Repr

/- The bytes from the start of the buffer, which may have more bytes than have been received. -/
def copied (buffer : Bytes) (length : Nat) : Content :=
  if length ≤ buffer.length then .binary (buffer.take length) else .outsideBuffer

/- The file that is written, none if the data go to the console. -/
def writeData (o : Output) (buffer : Bytes) (count : Nat) : Option Content :=
  let filename := if o.binaryOutputFilename.isEmpty then o.hexOutputFilename else o.binaryOutputFilename
  let hex := formatBytes o.formatLimit (buffer.take count) count o.hexOnly
  if filename.isEmpty then none
  else
    let hex := hex ++ ['\n']
    some (if o.binaryOutputFilename.isEmpty then .text hex else copied buffer hex.length)

/- The last part of ExecuteCommand: without data there is no file. -/
def saveData (o : Output) (buffer : Bytes) (count : Nat) : Option Content :=
  if count ≠ 0 then writeData o buffer count else none

/- The data of a file are those that have been received. -/
def Holds (o : Output) (data : Bytes) : Content → Prop
  | .text hex => o.hexOnly = true → hexToBytesAt hex = .ok data
  | .binary bytes => bytes = data
  | .outsideBuffer => False

def Saved (o : Output) (buffer : Bytes) (count : Nat) : Prop :=
  ∀ content, saveData o buffer count = some content → Holds o (buffer.take count) content

/- The length of the text with its line end. -/
def textLength (o : Output) (count : Nat) : Nat :=
  if o.formatLimit = 0 then 1
  else
    let limit := shown o.formatLimit count
    let lines := (limit + 15) / 16
    (if o.hexOnly then 3 * limit - 1 else limit + 61 * lines + (lines - 1)) +
      (if limit < count then 12 + (Nat.toDigits 10 (count - limit)).length else 0) + 1

variable {o : Output} {buffer : Bytes} {count : Nat}

theorem shownLe (formatLimit : Int) (count : Nat) : shown formatLimit count ≤ count := by
  unfold shown
  split <;> omega

/- The note in the line behind a text that has been cut off. -/
def note (left : Nat) : List Char := "... (".toList ++ Nat.toDigits 10 left ++ " more)".toList

theorem formatBytesLines (some : o.formatLimit ≠ 0) (bytes : Bytes) : formatBytes o.formatLimit bytes count o.hexOnly =
    formatLines o.hexOnly ((shown o.formatLimit count + 15) / 16) [] 0 (bytes.take (shown o.formatLimit count)) ++
      if shown o.formatLimit count < count then '\n' :: note (count - shown o.formatLimit count) else [] := by
  unfold formatBytes
  dsimp only
  rw [if_neg some]
  split
  · rw [List.append_assoc,List.append_assoc,← List.append_assoc "\n... (".toList]
    rfl
  · exact (List.append_nil _).symm

theorem noteLength (left : Nat) : (note left).length = 11 + (Nat.toDigits 10 left).length := by
  have first : "... (".toList.length = 5 := rfl
  have last : " more)".toList.length = 6 := rfl
  unfold note
  rw [List.length_append,List.length_append,first,last]
  omega

theorem linesLength {bytes : Bytes} {limit : Nat} (all : bytes.length = limit) (int : limit < 2^31) :
    (formatLines o.hexOnly ((limit + 15) / 16) [] 0 bytes).length =
      if o.hexOnly then 3 * limit - 1 else limit + 61 * ((limit + 15) / 16) + ((limit + 15) / 16 - 1) := by
  subst all
  cases o.hexOnly with
  | true =>
    rw [formatLinesHex _ _ _ rfl,List.nil_append,hexLinesLength _ rfl]
    rfl
  | false =>
    rw [formatLinesLength _ _ rfl (.inl (by omega)),List.length_nil,Nat.zero_add]
    rfl

theorem formattedLength (inside : count ≤ buffer.length) (int : count < 2^31) :
    (formatBytes o.formatLimit (buffer.take count) count o.hexOnly ++ ['\n']).length = textLength o count := by
  have most := shownLe o.formatLimit count
  have taken : ((buffer.take count).take (shown o.formatLimit count)).length = shown o.formatLimit count := by
    rw [List.length_take,List.length_take]
    omega
  have lines := linesLength (o := o) taken (by omega)
  rw [List.length_append]
  by_cases none : o.formatLimit = 0
  · unfold formatBytes textLength
    rw [if_pos none,if_pos none]
    rfl
  · have behind : (if shown o.formatLimit count < count then '\n' :: note (count - shown o.formatLimit count) else []).length =
        if shown o.formatLimit count < count then 12 + (Nat.toDigits 10 (count - shown o.formatLimit count)).length else 0 := by
      split
      · rw [List.length_cons,noteLength]
        omega
      · rfl
    rw [formatBytesLines none,List.length_append,lines,behind]
    unfold textLength
    rw [if_neg none]
    rfl

/-! The text is read back as far as it goes. -/

theorem noteSingle (left : Nat) : '\n' ∉ note left := by
  intro inside
  rcases List.mem_append.mp inside with inside | inside
  · rcases List.mem_append.mp inside with inside | inside
    · revert inside
      decide
    · exact absurd (Nat.isDigit_of_mem_toDigits (by decide) (by decide) inside) (by decide)
  · revert inside
    decide

theorem noteUnread (left : Nat) : hexToBytes (note left ++ ['\n']) = none := by
  have unread : hexLine (note left) = none := by
    refine Option.eq_none_iff_forall_ne_some.mpr fun bytes read => ?_
    rcases hexLinePairs.mp read with ⟨empty,_⟩ | pairs
    · cases empty
    · have digit (rest : List Char) : ¬Pairs ('.' :: rest) bytes := by
        rintro (⟨_,_,value,_⟩ | ⟨⟨_,_,value,_⟩,_⟩ | ⟨⟨_,_,value,_⟩,_⟩) <;> cases value
      exact digit _ pairs
  unfold hexToBytes
  rw [ScriptText.inputLinesCons (noteSingle left),List.mapM_cons,unread]
  rfl

theorem shownLess {formatLimit : Int} (some : formatLimit ≠ 0) : shown formatLimit count < count ↔ 0 < formatLimit ∧ formatLimit < count := by
  unfold shown
  split <;> omega

theorem hexText (hex : o.hexOnly = true) (inside : count ≤ buffer.length) :
    hexToBytesAt (formatBytes o.formatLimit (buffer.take count) count o.hexOnly ++ ['\n']) = .ok (buffer.take count) ↔
      count = 0 ∨ o.formatLimit < 0 ∨ (count : Int) ≤ o.formatLimit := by
  have length : (buffer.take count).length = count := List.length_take_of_le inside
  have shownLength : ((buffer.take count).take (shown o.formatLimit count)).length = shown o.formatLimit count :=
    List.length_take_of_le (by rw [length]; exact shownLe _ _)
  rw [hexToBytesResult]
  by_cases none : o.formatLimit = 0
  · have empty : formatBytes o.formatLimit (buffer.take count) count o.hexOnly = [] := by
      unfold formatBytes
      rw [if_pos none]
    have nothing : hexToBytes ([] ++ ['\n']) = some [] := by decide
    rw [empty,nothing,none]
    constructor
    · intro same
      cases same' : buffer.take count with
      | nil =>
        rw [same',List.length_nil] at length
        exact .inl length.symm
      | cons b bytes =>
        rw [same'] at same
        cases same
    · intro few
      have zero : count = 0 := by omega
      rw [zero]
      rfl
  · rw [formatBytesLines none,hex,formatLinesHex _ _ _ (by rw [shownLength]),List.nil_append,List.append_assoc]
    by_cases cut : shown o.formatLimit count < count
    · obtain ⟨positive,limited⟩ := (shownLess none).mp cut
      obtain ⟨lines,enough⟩ : ∃ lines, (shown o.formatLimit count + 15) / 16 = lines + 1 := Nat.exists_eq_succ_of_ne_zero (by
        unfold shown
        split <;> omega)
      have read := hexToBytesBefore lines (show (((buffer.take count).take (shown o.formatLimit count)).length + 15) / 16 = lines + 1 by
        rw [shownLength,enough]) (note (count - shown o.formatLimit count) ++ ['\n'])
      rw [noteUnread] at read
      rw [if_pos cut,enough,List.cons_append,read]
      constructor
      · intro same
        cases same
      · intro fits
        omega
    · have whole : shown o.formatLimit count = count := Nat.le_antisymm (shownLe _ _) (Nat.le_of_not_lt cut)
      have same : hexToBytes (hexLines ((count + 15) / 16) (buffer.take count) ++ ([] ++ ['\n'])) = some (buffer.take count) := by
        cases lines : (count + 15) / 16 with
        | zero =>
          have zero : count = 0 := by omega
          rw [zero]
          rfl
        | succ lines' =>
          have read := hexToBytesBefore lines' (show ((buffer.take count).length + 15) / 16 = lines' + 1 by rw [length,lines]) []
          refine read.trans ?_
          exact congrArg some (List.append_nil _)
      have taken : (buffer.take count).take count = buffer.take count := List.take_of_length_le (Nat.le_of_eq length)
      rw [if_neg cut,whole,taken,same]
      refine ⟨fun _ => ?_,fun _ => rfl⟩
      have fits := mt (shownLess none).mpr cut
      omega

theorem binarySaved (inside : count ≤ buffer.length) (length : Nat) :
    Holds o (buffer.take count) (copied buffer length) ↔ length = count := by
  unfold copied
  split
  · next fits =>
    refine ⟨fun same => ?_,fun same => congrArg (buffer.take ·) same⟩
    have lengths := congrArg List.length (show buffer.take length = buffer.take count from same)
    rwa [List.length_take_of_le fits,List.length_take_of_le inside] at lengths
  · next outside =>
    refine ⟨False.elim,fun same => ?_⟩
    omega

end ReceivedData

open ReceivedData in
/- Binary data are those that have been received if their formatted text happens to have the same length,
   and hexadecimal data if none of them are behind the log limit. -/
theorem receivedSaved {o : Output} {buffer : Bytes} {count : Nat} (inside : count ≤ buffer.length) (int : count < 2^31) :
    Saved o buffer count ↔ count = 0 ∨ (o.binaryOutputFilename = "" ∧ o.hexOutputFilename = "") ∨
      (o.binaryOutputFilename ≠ "" ∧ textLength o count = count) ∨
        (o.binaryOutputFilename = "" ∧ (o.hexOnly = true → o.formatLimit < 0 ∨ (count : Int) ≤ o.formatLimit)) := by
  by_cases none : count = 0
  · refine ⟨fun _ => .inl none,fun _ content written => ?_⟩
    unfold saveData at written
    rw [if_neg (not_not_intro none)] at written
    cases written
  · have written : saveData o buffer count = writeData o buffer count := if_pos none
    unfold Saved
    rw [written]
    unfold writeData
    dsimp only
    by_cases text : o.binaryOutputFilename = ""
    · have noBinary : o.binaryOutputFilename.isEmpty = true := String.isEmpty_iff.mpr text
      rw [if_pos noBinary,if_pos noBinary]
      by_cases console : o.hexOutputFilename = ""
      · rw [if_pos (String.isEmpty_iff.mpr console)]
        refine ⟨fun _ => .inr (.inl ⟨text,console⟩),fun _ content same => ?_⟩
        cases same
      · rw [if_neg (mt String.isEmpty_iff.mp console)]
        have file : (∀ content, some (Content.text (formatBytes o.formatLimit (buffer.take count) count o.hexOnly ++ ['\n'])) =
            some content → Holds o (buffer.take count) content) ↔
              (o.hexOnly = true → o.formatLimit < 0 ∨ (count : Int) ≤ o.formatLimit) := by
          constructor
          · intro saved hex
            exact ((hexText hex inside).mp (saved _ rfl hex)).resolve_left none
          · intro fits content same
            cases same
            exact fun hex => (hexText hex inside).mpr (.inr (fits hex))
        rw [file]
        constructor
        · exact fun fits => .inr (.inr (.inr ⟨text,fits⟩))
        · rintro (zero | ⟨_,empty⟩ | ⟨binary,_⟩ | ⟨_,fits⟩)
          · exact absurd zero none
          · exact absurd empty console
          · exact absurd text binary
          · exact fits
    · have binary : ¬o.binaryOutputFilename.isEmpty = true := mt String.isEmpty_iff.mp text
      rw [if_neg binary,if_neg binary,if_neg binary,formattedLength inside int]
      have file : (∀ content, some (copied buffer (textLength o count)) = some content → Holds o (buffer.take count) content) ↔
          textLength o count = count := by
        rw [← binarySaved (o := o) inside]
        exact ⟨fun saved => saved _ rfl,fun holds content same => by cases same; exact holds⟩
      rw [file]
      constructor
      · exact fun same => .inr (.inr (.inl ⟨text,same⟩))
      · rintro (zero | ⟨empty,_⟩ | ⟨_,same⟩ | ⟨empty,_⟩)
        · exact absurd zero none
        · exact absurd empty text
        · exact same
        · exact absurd empty text

namespace ReceivedData

/- Two bytes, for which six are written, with those behind them in the buffer. -/
theorem binaryReadsOn : ¬(∀ (o : Output) (buffer : Bytes) (count : Nat), count ≤ buffer.length → count < 2^31 → Saved o buffer count) := by
  intro all
  have saved := all {binaryOutputFilename := "out",hexOnly := true} [1,2,3,4,5,6,7] 2 (by decide) (by decide) _
    (show saveData {binaryOutputFilename := "out",hexOnly := true} [1,2,3,4,5,6,7] 2 = some (.binary [1,2,3,4,5,6]) by decide)
  exact absurd (show ([1,2,3,4,5,6] : Bytes) = List.take 2 [1,2,3,4,5,6,7] from saved) (by decide)

theorem twoBytesSaved : Saved {hexOutputFilename := "out",hexOnly := true,formatLimit := 128} [1,2,3] 2 :=
  (receivedSaved (by decide) (by decide)).mpr (.inr (.inr (.inr ⟨rfl,fun _ => .inr (by decide)⟩)))

end ReceivedData
end Scsi2Pi
