import Scsi2Pi.ScriptText

/-! Bytes as text: lines of 16 bytes in hexadecimal, with offsets and ASCII or without. -/
namespace Scsi2Pi
open S2pUtil ScriptGenerator ScriptText

namespace S2pFormatter

def outputOffset (offset : Nat) : List Char :=
  let digits := Nat.toDigits 16 offset
  List.replicate (8 - digits.length) '0' ++ digits ++ [' ',' ']

/- The bytes of a line, separated by colons. -/
def outputHex (line : Bytes) : List Char := writeBytes cdbSeparator 0 line

def outputAscii (line : Bytes) : List Char :=
  line.map fun b => if 0x20 ≤ b.toNat ∧ b.toNat ≤ 0x7e then Char.ofNat b.toNat else '.'

/- What is behind the last character that is no blank is erased. -/
def eraseBlanks (str : List Char) : List Char := (str.reverse.dropWhile (· = ' ')).reverse

def formatLine (hexOnly : Bool) (str : List Char) (offset : Nat) (line : Bytes) : List Char :=
  let hex := outputHex line ++ List.replicate (47 - (outputHex line).length) ' '
  if hexOnly then eraseBlanks (str ++ hex)
  else str ++ outputOffset offset ++ hex ++ ([' ',' ','\''] ++ outputAscii line ++ ['\''])

def formatLines (hexOnly : Bool) : Nat → List Char → Nat → Bytes → List Char
  | 0, str, _, _ => str
  | lines+1, str, offset, bytes =>
    let str := formatLine hexOnly str offset (bytes.take 16)
    formatLines hexOnly lines (if 16 < bytes.length then str ++ ['\n'] else str) (offset + 16) (bytes.drop 16)

/- The number of bytes that are shown. A negative limit is none. -/
def shown (formatLimit : Int) (count : Nat) : Nat :=
  if formatLimit < 0 ∨ (count : Int) < formatLimit then count else formatLimit.toNat

def formatBytes (formatLimit : Int) (bytes : Bytes) (count : Nat) (hexOnly : Bool) : List Char :=
  if formatLimit = 0 then []
  else
    let limit := shown formatLimit count
    let str := formatLines hexOnly ((limit + 15) / 16) [] 0 (bytes.take limit)
    if limit < count then str ++ "\n... (".toList ++ Nat.toDigits 10 (count - limit) ++ " more)".toList else str

/-! Hexadecimal digits only. -/

def hexLines : Nat → Bytes → List Char
  | 0, _ => []
  | lines+1, bytes =>
    outputHex (bytes.take 16) ++ if 16 < bytes.length then '\n' :: hexLines lines (bytes.drop 16) else hexLines lines (bytes.drop 16)

theorem cdbJoins : Joins cdbSeparator := fun i => by
  unfold cdbSeparator
  split
  · exact .inl rfl
  · exact .inr rfl

theorem eraseBlanksPadded (str : List Char) {line : Bytes} (some : line ≠ []) (n : Nat) :
    eraseBlanks (str ++ (outputHex line ++ List.replicate n ' ')) = str ++ outputHex line := by
  obtain ⟨_,c,digit,last⟩ := writtenEnds (show cdbSeparator 0 = [] from rfl) some
  obtain ⟨front,ends⟩ := List.getLast?_eq_some_iff.mp last
  have other : c ≠ ' ' := (digitPlain digit).2.2.1
  have hex : outputHex line = front ++ [c] := ends
  unfold eraseBlanks
  rw [hex,List.reverse_append,List.reverse_append,List.reverse_append,List.reverse_replicate,List.append_assoc,
    List.dropWhile_append_of_pos (by simp)]
  simp [other]

theorem formatLinesHex (lines : Nat) (str : List Char) (offset : Nat) {bytes : Bytes} (enough : (bytes.length + 15) / 16 = lines) :
    formatLines true lines str offset bytes = str ++ hexLines lines bytes := by
  induction lines generalizing str offset bytes with
  | zero => exact (List.append_nil _).symm
  | succ lines ih =>
    have some : bytes.take 16 ≠ [] := by
      refine List.ne_nil_of_length_pos ?_
      rw [List.length_take]
      omega
    have line : formatLine true str offset (bytes.take 16) = str ++ outputHex (bytes.take 16) :=
      eraseBlanksPadded str some _
    have left : ((bytes.drop 16).length + 15) / 16 = lines := by
      rw [List.length_drop]
      omega
    unfold formatLines hexLines
    dsimp only
    rw [line,ih _ _ left]
    split <;> simp

theorem formatBytesHex (formatLimit : Int) (bytes : Bytes) (fits : formatLimit < 0 ∨ (bytes.length : Int) ≤ formatLimit) :
    formatBytes formatLimit bytes bytes.length true = hexLines ((bytes.length + 15) / 16) bytes := by
  have all : shown formatLimit bytes.length = bytes.length := by
    unfold shown
    split <;> omega
  unfold formatBytes
  dsimp only
  rw [all,List.take_length,if_neg (Nat.lt_irrefl _),formatLinesHex _ _ _ rfl,List.nil_append]
  split
  · next none =>
    have empty : bytes.length = 0 := by omega
    rw [empty]
    rfl
  · rfl

theorem hexToBytesCons {line rest : List Char} {first : Bytes} (single : '\n' ∉ line) (read : hexLine line = some first) :
    hexToBytes (line ++ '\n' :: rest) = (hexToBytes rest).map (first ++ ·) := by
  unfold hexToBytes
  rw [inputLinesCons single,List.mapM_cons,read]
  cases (inputLines rest).mapM hexLine <;> rfl

theorem outputSingle (line : Bytes) : '\n' ∉ outputHex line := writtenSingle cdbJoins line

theorem outputRead {line : Bytes} (some : line ≠ []) : hexLine (outputHex line) = .some line := hexLineWritten cdbJoins rfl some

theorem someTaken {bytes : Bytes} {lines : Nat} (enough : (bytes.length + 15) / 16 = lines + 1) : bytes.take 16 ≠ [] := by
  refine List.ne_nil_of_length_pos ?_
  rw [List.length_take]
  omega

/- Lines that are followed by others. -/
theorem hexToBytesBefore (lines : Nat) {bytes : Bytes} (enough : (bytes.length + 15) / 16 = lines + 1) (rest : List Char) :
    hexToBytes (hexLines (lines + 1) bytes ++ '\n' :: rest) = (hexToBytes rest).map (bytes ++ ·) := by
  induction lines generalizing bytes with
  | zero =>
    have all : bytes.take 16 = bytes := List.take_of_length_le (by omega)
    have last : ¬16 < bytes.length := by omega
    have some := someTaken enough
    rw [hexLines,if_neg last,hexLines,List.append_nil]
    rw [all] at some ⊢
    exact hexToBytesCons (outputSingle _) (outputRead some)
  | succ lines ih =>
    have more : 16 < bytes.length := by omega
    have others := ih (show ((bytes.drop 16).length + 15) / 16 = lines + 1 by rw [List.length_drop]; omega)
    rw [hexLines,if_pos more,List.append_assoc,List.cons_append,
      hexToBytesCons (outputSingle _) (outputRead (someTaken enough)),others]
    cases hexToBytes rest with
    | none => rfl
    | some read =>
      have parts : bytes.take 16 ++ (bytes.drop 16 ++ read) = bytes ++ read := by
        rw [← List.append_assoc,List.take_append_drop]
      exact congrArg some parts

theorem hexToBytesLines (lines : Nat) {bytes : Bytes} (enough : (bytes.length + 15) / 16 = lines) :
    hexToBytes (hexLines lines bytes) = some bytes := by
  induction lines generalizing bytes with
  | zero =>
    have empty : bytes = [] := List.eq_nil_of_length_eq_zero (by omega)
    rw [empty]
    rfl
  | succ lines ih =>
    have rest := ih (show ((bytes.drop 16).length + 15) / 16 = lines by rw [List.length_drop]; omega)
    have some := someTaken enough
    unfold hexLines
    split
    · rw [hexToBytesCons (outputSingle _) (outputRead some),rest]
      exact congrArg Option.some (List.take_append_drop 16 bytes)
    · next last =>
      have none : lines = 0 := by omega
      have all : bytes.take 16 = bytes := List.take_of_length_le (by omega)
      rw [none,hexLines,List.append_nil]
      rw [all] at some ⊢
      exact hexToBytesWritten cdbJoins rfl some

/-! Lengths. -/

theorem writtenLength (bytes : Bytes) (i : Nat) : (writeBytes cdbSeparator i bytes).length = 3 * bytes.length - if i = 0 then 1 else 0 := by
  induction bytes generalizing i with
  | nil =>
    simp [writeBytes]
  | cons b bytes ih =>
    have two := (hexByteTable b.toNat b.toNat_lt).1
    rw [writeBytes,List.length_append,List.length_append,ih,two,if_neg (Nat.succ_ne_zero i)]
    unfold cdbSeparator
    split <;> simp <;> omega

theorem hexLinesLength (lines : Nat) {bytes : Bytes} (enough : (bytes.length + 15) / 16 = lines) :
    (hexLines lines bytes).length = 3 * bytes.length - 1 := by
  induction lines generalizing bytes with
  | zero =>
    have empty : bytes.length = 0 := by omega
    rw [empty]
    rfl
  | succ lines ih =>
    have rest := ih (show ((bytes.drop 16).length + 15) / 16 = lines by rw [List.length_drop]; omega)
    have first : (outputHex (bytes.take 16)).length = 3 * (bytes.take 16).length - 1 := writtenLength _ 0
    rw [List.length_take] at first
    rw [List.length_drop] at rest
    unfold hexLines
    split <;> simp only [List.length_append,List.length_cons,first,rest] <;> omega

/- A line with offset and ASCII, and the line end in front of the next one. -/
theorem formatLinesLength (lines : Nat) (str : List Char) {offset : Nat} {bytes : Bytes} (enough : (bytes.length + 15) / 16 = lines)
    (fits : offset + bytes.length ≤ 16^8 ∨ bytes.length = 0) : (formatLines false lines str offset bytes).length =
      str.length + bytes.length + 61 * lines + (lines - 1) := by
  induction lines generalizing str offset bytes with
  | zero =>
    have empty : bytes.length = 0 := by omega
    rw [empty]
    rfl
  | succ lines ih =>
    have some : 0 < bytes.length := by omega
    have digits : (Nat.toDigits 16 offset).length ≤ 8 := (Nat.length_toDigits_le_iff (by decide) (by decide)).mpr (by omega)
    have hex : (outputHex (bytes.take 16)).length = 3 * (bytes.take 16).length - 1 := writtenLength _ 0
    have line : (formatLine false str offset (bytes.take 16)).length = str.length + 61 + (bytes.take 16).length := by
      simp only [formatLine,outputOffset,outputAscii,Bool.false_eq_true,if_false,List.length_append,List.length_replicate,List.length_map,
        List.length_cons,List.length_nil,hex]
      rw [List.length_take] at hex ⊢
      omega
    have others (str : List Char) := ih str (show ((bytes.drop 16).length + 15) / 16 = lines by rw [List.length_drop]; omega)
      (show offset + 16 + (bytes.drop 16).length ≤ 16^8 ∨ (bytes.drop 16).length = 0 by rw [List.length_drop]; omega)
    unfold formatLines
    dsimp only
    rw [others]
    split <;> simp only [List.length_append,List.length_cons,List.length_nil,List.length_drop,line,List.length_take] <;> omega

end S2pFormatter
end Scsi2Pi
