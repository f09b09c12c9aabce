import Scsi2Pi.S2pExec
import Scsi2Pi.ScriptGenerator

/-! Reading a script: the options of a line are those that have been written, also when its
data are continued on further lines. -/
namespace Scsi2Pi.ScriptText
open S2pUtil ScriptGenerator MemoryUtil

/-! Hexadecimal text. -/

def hexAlphabet : List Char := "0123456789abcdef".toList

/- A table is decided along its list, not over every character there is. -/
theorem allListed {p : Char → Prop} [DecidablePred p] {text : List Char} (all : text.all (fun c => decide (p c)) = true) :
    ∀ c ∈ text, p c := fun c listed => of_decide_eq_true (List.all_eq_true.mp all c listed)

theorem hexByteTable : ∀ n < 256, (hexByte n).length = 2 ∧
    hexPair ((hexByte n).getD 0 '0') ((hexByte n).getD 1 '0') = some (UInt8.ofNat n) ∧
    (hexByte n).all (fun c => decide (c ∈ hexAlphabet)) = true := by
  decide +kernel

theorem hexByteDigits (b : UInt8) : ∃ high low, hexByte b.toNat = [high,low] ∧ hexPair high low = some b ∧
    high ∈ hexAlphabet ∧ low ∈ hexAlphabet := by
  obtain ⟨two,pair,digits⟩ := hexByteTable b.toNat b.toNat_lt
  obtain ⟨high,low,same⟩ := List.length_eq_two.mp two
  rw [same] at pair digits
  refine ⟨high,low,same,?_,allListed digits high List.mem_cons_self,
    allListed digits low (List.mem_cons_of_mem _ List.mem_cons_self)⟩
  rw [UInt8.ofNat_toNat] at pair
  exact pair

theorem hexDigitsCons {b : UInt8} {rest : HexText} :
    hexDigits (hexByte b.toNat ++ rest) = (hexDigits rest).map (b :: ·) ∧
      hexDigits (':' :: (hexByte b.toNat ++ rest)) = (hexDigits rest).map (b :: ·) := by
  obtain ⟨high,low,same,pair,digit,_⟩ := hexByteDigits b
  have other : high ≠ ':' := by
    rintro rfl
    exact absurd digit (by decide)
  rw [same]
  constructor
  · rw [List.cons_append,List.cons_append,List.nil_append,hexDigits]
    · rw [pair]
      cases hexDigits rest <;> rfl
    · intro _ _ wrong
      exact absurd wrong other
  · rw [List.cons_append,List.cons_append,List.nil_append,hexDigits,pair]
    cases hexDigits rest <;> rfl

/- Bytes are separated by a colon or not at all. -/
def Joins (separator : Nat → List Char) : Prop := ∀ i, separator i = [] ∨ separator i = [':']

variable {separator : Nat → List Char}

theorem hexDigitsWritten (joins : Joins separator) (bytes : Bytes) (i : Nat) :
    hexDigits (writeBytes separator i bytes) = some bytes := by
  induction bytes generalizing i with
  | nil => rfl
  | cons b bytes ih =>
    rw [writeBytes,List.append_assoc]
    rcases joins i with none | colon
    · rw [none,List.nil_append,hexDigitsCons.1,ih]
      rfl
    · rw [colon,List.singleton_append,hexDigitsCons.2,ih]
      rfl

/-! The characters of a script. -/

def Plain (c : Char) : Prop := c ∈ "0123456789abcdef:- i".toList

instance : DecidablePred Plain := fun _ => inferInstanceAs (Decidable (_ ∈ _))

theorem digitPlain {c : Char} (digit : c ∈ hexAlphabet) : Plain c ∧ c ≠ ':' ∧ c ≠ ' ' ∧ c ≠ '@' ∧ c.toLower = c := by
  have table : ∀ c ∈ hexAlphabet, Plain c ∧ c ≠ ':' ∧ c ≠ ' ' ∧ c ≠ '@' ∧ c.toLower = c :=
    allListed (by decide)
  exact table c digit

theorem hexBytePlain (b : UInt8) : ∀ c ∈ hexByte b.toNat, c ∈ hexAlphabet := by
  obtain ⟨high,low,same,_,first,second⟩ := hexByteDigits b
  rw [same]
  intro c listed
  rcases List.mem_cons.mp listed with rfl | listed
  · exact first
  · cases List.mem_singleton.mp listed
    exact second

theorem writtenAlphabet (joins : Joins separator) (bytes : Bytes) (i : Nat) :
    ∀ c ∈ writeBytes separator i bytes, c = ':' ∨ c ∈ hexAlphabet := by
  induction bytes generalizing i with
  | nil => exact fun _ wrong => absurd wrong List.not_mem_nil
  | cons b bytes ih =>
    intro c listed
    rw [writeBytes] at listed
    rcases List.mem_append.mp listed with listed | listed
    · rcases List.mem_append.mp listed with listed | listed
      · rcases joins i with none | colon
        · rw [none] at listed
          exact absurd listed List.not_mem_nil
        · rw [colon] at listed
          exact .inl (List.mem_singleton.mp listed)
      · exact .inr (hexBytePlain b c listed)
    · exact ih (i+1) c listed

/- The first and the last character are digits. -/
theorem writtenEnds (first : separator 0 = []) {bytes : Bytes} (some : bytes ≠ []) :
    (∃ c ∈ hexAlphabet, (writeBytes separator 0 bytes).head? = .some c) ∧
      ∃ c ∈ hexAlphabet, (writeBytes separator 0 bytes).getLast? = .some c := by
  have last : ∀ (bytes : Bytes) (i : Nat), bytes ≠ [] →
      ∃ c ∈ hexAlphabet, (writeBytes separator i bytes).getLast? = .some c := by
    intro bytes
    induction bytes with
    | nil => exact fun _ wrong => absurd rfl wrong
    | cons b bytes ih =>
      intro i _
      rw [writeBytes]
      by_cases single : bytes = []
      · obtain ⟨high,low,same,_,_,digit⟩ := hexByteDigits b
        refine ⟨low,digit,?_⟩
        rw [single,same,writeBytes,List.append_nil,List.getLast?_append]
        rfl
      · obtain ⟨c,digit,ends⟩ := ih (i+1) single
        refine ⟨c,digit,?_⟩
        rw [List.getLast?_append,ends]
        rfl
  refine ⟨?_,last bytes 0 some⟩
  cases bytes with
  | nil => exact absurd rfl some
  | cons b bytes =>
    obtain ⟨high,low,same,_,digit,_⟩ := hexByteDigits b
    refine ⟨high,digit,?_⟩
    rw [writeBytes,first,same]
    rfl

/-! Lines. -/

theorem inputLinesCons {line rest : List Char} (single : '\n' ∉ line) :
    inputLines (line ++ '\n' :: rest) = line :: inputLines rest := by
  have split : (line ++ '\n' :: rest).splitOn '\n' = line :: rest.splitOn '\n' := by
    rw [List.splitOn_eq_splitOnP,List.splitOnP_append_cons _ _ (by rfl),List.splitOnP_eq_singleton]
    · rw [List.singleton_append,List.splitOn_eq_splitOnP]
    · intro c listed
      refine beq_eq_false_iff_ne.mpr ?_
      rintro rfl
      exact single listed
  have some : rest.splitOn '\n' ≠ [] := List.splitOn_ne_nil _ _
  unfold inputLines
  dsimp only
  rw [split,List.getLast?_cons_of_ne_nil some,List.dropLast_cons_of_ne_nil some]
  split <;> rfl

theorem inputLinesSingle {line : List Char} (some : line ≠ []) (single : '\n' ∉ line) : inputLines line = [line] := by
  have split : line.splitOn '\n' = [line] := by
    rw [List.splitOn_eq_splitOnP,List.splitOnP_eq_singleton]
    intro c listed
    refine beq_eq_false_iff_ne.mpr ?_
    rintro rfl
    exact single listed
  unfold inputLines
  dsimp only
  rw [split,List.getLast?_singleton]
  exact if_neg fun wrong => some (Option.some.inj wrong)

theorem writtenSingle (joins : Joins separator) (bytes : Bytes) : '\n' ∉ writeBytes separator 0 bytes := by
  intro wrong
  rcases writtenAlphabet joins bytes 0 _ wrong with colon | digit
  · cases colon
  · exact absurd digit (by decide)

theorem hexLineWritten (joins : Joins separator) (first : separator 0 = []) {bytes : Bytes} (some : bytes ≠ []) :
    hexLine (writeBytes separator 0 bytes) = .some bytes := by
  obtain ⟨⟨c,front,starts⟩,⟨d,back,ends⟩⟩ := writtenEnds first some
  have lower : toLower (writeBytes separator 0 bytes) = writeBytes separator 0 bytes := by
    refine (List.map_congr_left fun c listed => ?_).trans (List.map_id _)
    rcases writtenAlphabet joins bytes 0 c listed with rfl | digit
    · rfl
    · exact (digitPlain digit).2.2.2.2
  unfold hexLine
  rw [if_neg,lower,hexDigitsWritten joins]
  rw [starts,ends]
  rintro (colon | colon)
  · exact (digitPlain front).2.1 (Option.some.inj colon)
  · exact (digitPlain back).2.1 (Option.some.inj colon)

/- The bytes of a text that has been written without line ends. -/
theorem hexToBytesWritten (joins : Joins separator) (first : separator 0 = []) {bytes : Bytes} (some : bytes ≠ []) :
    hexToBytes (writeBytes separator 0 bytes) = .some bytes := by
  obtain ⟨⟨c,_,starts⟩,_⟩ := writtenEnds first some
  have filled : writeBytes separator 0 bytes ≠ [] := by
    intro none
    rw [none] at starts
    cases starts
  unfold hexToBytes
  rw [inputLinesSingle filled (writtenSingle joins bytes),List.mapM_cons,hexLineWritten joins first some,List.mapM_nil]
  change Option.some (bytes ++ []) = _
  rw [List.append_nil]

/-! Lines that are continued. -/

/- A line that is read as it is. -/
structure Tidy (line : List Char) : Prop where
  plain : ∀ c ∈ line, Plain c
  first : ∃ c, line.head? = some c ∧ c ≠ ' '
  last : ∃ c, line.getLast? = some c ∧ c ≠ ' '

variable {line input rest : List Char}

theorem Tidy.some (tidy : Tidy line) : line ≠ [] := by
  obtain ⟨c,starts,_⟩ := tidy.first
  rintro rfl
  cases starts

theorem plainNot {c : Char} (plain : Plain c) : c ≠ '\n' ∧ c ≠ '#' ∧ c ≠ '\\' ∧ c ≠ '\r' ∧ c ≠ 't' := by
  have table : ∀ c ∈ "0123456789abcdef:- i".toList, c ≠ '\n' ∧ c ≠ '#' ∧ c ≠ '\\' ∧ c ≠ '\r' ∧ c ≠ 't' :=
    allListed (by decide)
  exact table c plain

theorem Tidy.single (tidy : Tidy line) : '\n' ∉ line := fun listed => (plainNot (tidy.plain _ listed)).1 rfl

/- Neither end of the text is a blank. -/
theorem trimmed {text : List Char} {c d : Char} (starts : text.head? = .some c) (front : c ≠ ' ' ∧ c ≠ '\r')
    (ends : text.getLast? = .some d) (back : d ≠ ' ' ∧ d ≠ '\r') : trimChars text = text := by
  have keeps : ∀ {text : List Char} {c : Char}, text.head? = .some c → c ≠ ' ' ∧ c ≠ '\r' →
      text.dropWhile (fun c => c = ' ' || c = '\r') = text := by
    intro text c starts other
    cases text with
    | nil => cases starts
    | cons d text =>
      cases starts
      exact List.dropWhile_cons_of_neg (by simp [other.1,other.2])
  unfold trimChars
  dsimp only
  rw [keeps starts front,keeps (List.head?_reverse.trans ends) back,List.reverse_reverse]

theorem uncommented {text : List Char} (plain : ∀ c ∈ text, c ≠ '#') : text.takeWhile (· ≠ '#') = text := by
  have whole : (text ++ []).takeWhile (· ≠ '#') = text ++ [].takeWhile (· ≠ '#') :=
    List.takeWhile_append_of_pos fun c listed => decide_eq_true (plain c listed)
  rw [List.append_nil,List.takeWhile_nil,List.append_nil] at whole
  exact whole

/- The line that GetLine looks at. -/
theorem prepared {text : List Char} {c d : Char} (plain : ∀ c ∈ text, c ≠ '#') (starts : text.head? = .some c)
    (front : c ≠ ' ' ∧ c ≠ '\r') (ends : text.getLast? = .some d) (back : d ≠ ' ' ∧ d ≠ '\r') (other : d ≠ 't') :
    (trimChars text).takeWhile (· ≠ '#') = text ∧ ¬(text = "exit".toList ∨ text = "quit".toList) := by
  rw [trimmed starts front ends back,uncommented plain]
  refine ⟨rfl,?_⟩
  rintro (rfl | rfl)
  · exact other (Option.some.inj ends).symm
  · exact other (Option.some.inj ends).symm

theorem lineEmpty {lines : List (List Char)} : getLine input ([] :: lines) = getLine input lines := by
  have next : getLine input ([] :: lines) = getLine (input ++ []) lines := rfl
  rw [next,List.append_nil]

theorem lineRead (tidy : Tidy line) {lines : List (List Char)} : getLine input (line :: lines) = (input ++ line,lines) := by
  obtain ⟨c,starts,front⟩ := tidy.first
  obtain ⟨d,ends,back⟩ := tidy.last
  have first := plainNot (tidy.plain c (List.mem_of_head? starts))
  have last := plainNot (tidy.plain d (List.mem_of_getLast? ends))
  obtain ⟨same,running⟩ := prepared (fun c listed => (plainNot (tidy.plain c listed)).2.1) starts ⟨front,first.2.2.2.1⟩ ends
    ⟨back,last.2.2.2.1⟩ last.2.2.2.2
  unfold getLine
  dsimp only
  rw [same,if_neg running,if_pos ⟨tidy.some,fun wrong => last.2.2.1 (Option.some.inj (ends.symm.trans wrong))⟩]

theorem lineContinued (tidy : Tidy line) {lines : List (List Char)} :
    getLine input ((line ++ ['\\']) :: lines) = getLine (input ++ line) lines := by
  obtain ⟨c,starts,front⟩ := tidy.first
  have first := plainNot (tidy.plain c (List.mem_of_head? starts))
  have ends : (line ++ ['\\']).getLast? = .some '\\' := List.getLast?_concat
  have begins : (line ++ ['\\']).head? = .some c := by
    rw [List.head?_append,starts]
    rfl
  have plain : ∀ c ∈ line ++ ['\\'], c ≠ '#' := by
    intro c listed
    rcases List.mem_append.mp listed with listed | listed
    · exact (plainNot (tidy.plain c listed)).2.1
    · cases List.mem_singleton.mp listed
      decide
  obtain ⟨same,running⟩ := prepared plain begins ⟨front,first.2.2.2.1⟩ ends (by decide) (by decide)
  rw [getLine,same,if_neg running,if_neg fun wrong => wrong.2 ends,List.dropLast_concat]

/-! The data of a command. -/

/- The text of data without the continued lines. -/
def joinedSeparator (i : Nat) : List Char := if i % 16 = 0 then [] else [':']

theorem joinedJoins : Joins joinedSeparator := fun i => by
  unfold joinedSeparator
  split
  · exact .inl rfl
  · exact .inr rfl

theorem cdbJoins : Joins cdbSeparator := fun i => by
  unfold cdbSeparator
  split
  · exact .inl rfl
  · exact .inr rfl

theorem tidyHex (b : UInt8) : Tidy (hexByte b.toNat) := by
  obtain ⟨high,low,same,_,first,second⟩ := hexByteDigits b
  refine ⟨fun c listed => (digitPlain (hexBytePlain b c listed)).1,⟨high,?_,(digitPlain first).2.2.1⟩,low,?_,(digitPlain second).2.2.1⟩
  · rw [same]
    rfl
  · rw [same]
    rfl

theorem Tidy.append {more : List Char} (tidy : Tidy line) (plain : ∀ c ∈ more, Plain c)
    (last : ∃ c, more.getLast? = .some c ∧ c ≠ ' ') : Tidy (line ++ more) := by
  obtain ⟨c,starts,front⟩ := tidy.first
  obtain ⟨d,ends,back⟩ := last
  refine ⟨fun c listed => ?_,⟨c,?_,front⟩,d,?_,back⟩
  · rcases List.mem_append.mp listed with listed | listed
    · exact tidy.plain c listed
    · exact plain c listed
  · rw [List.head?_append,starts]
    rfl
  · rw [List.getLast?_append,ends]
    rfl

/- A line may end with the text. -/
theorem inputLinesEnd (tidy : Tidy line) (tail : List Char) (ends : tail = [] ∨ ∃ rest, tail = '\n' :: rest) :
    inputLines (line ++ tail) = line :: inputLines tail.tail := by
  rcases ends with rfl | ⟨rest,rfl⟩
  · rw [List.append_nil]
    exact inputLinesSingle tidy.some tidy.single
  · exact inputLinesCons tidy.single

/- Data whose first bytes have been read are read to their end. -/
theorem dataRead (tidy : Tidy line) (bytes : Bytes) (i : Nat) (later : i ≠ 0) (tail : List Char)
    (ends : tail = [] ∨ ∃ rest, tail = '\n' :: rest) :
    getLine input (inputLines (line ++ (writeBytes dataSeparator i bytes ++ tail))) =
      (input ++ (line ++ writeBytes joinedSeparator i bytes),inputLines tail.tail) := by
  induction bytes generalizing line input i with
  | nil =>
    rw [writeBytes,writeBytes,List.nil_append,List.append_nil,inputLinesEnd tidy tail ends]
    exact lineRead tidy
  | cons b bytes ih =>
    rw [writeBytes,writeBytes]
    by_cases continued : i % 16 = 0
    · have separator : dataSeparator i = ['\\','\n'] := by rw [dataSeparator,if_neg later,if_pos continued]
      have joined : joinedSeparator i = [] := if_pos continued
      have single : '\n' ∉ line ++ ['\\'] := by
        intro listed
        rcases List.mem_append.mp listed with listed | listed
        · exact tidy.single listed
        · exact absurd listed (by decide)
      have split : line ++ (['\\','\n'] ++ hexByte b.toNat ++ writeBytes dataSeparator (i+1) bytes ++ tail) =
          (line ++ ['\\']) ++ '\n' :: (hexByte b.toNat ++ (writeBytes dataSeparator (i+1) bytes ++ tail)) := by
        simp only [List.append_assoc,List.cons_append,List.nil_append]
      rw [separator,joined,split,inputLinesCons single,lineContinued tidy,ih (tidyHex b) (i+1) (Nat.succ_ne_zero i)]
      simp only [List.append_assoc,List.nil_append]
    · have separator : dataSeparator i = [':'] := by rw [dataSeparator,if_neg later,if_neg continued]
      have joined : joinedSeparator i = [':'] := if_neg continued
      obtain ⟨d,last,back⟩ := (tidyHex b).last
      have longer : Tidy (line ++ (':' :: hexByte b.toNat)) := by
        refine tidy.append (fun c listed => ?_) ⟨d,?_,back⟩
        · rcases List.mem_cons.mp listed with rfl | listed
          · decide
          · exact (tidyHex b).plain c listed
        · rw [List.getLast?_cons,last]
          rfl
      have split : line ++ ([':'] ++ hexByte b.toNat ++ writeBytes dataSeparator (i+1) bytes ++ tail) =
          (line ++ (':' :: hexByte b.toNat)) ++ (writeBytes dataSeparator (i+1) bytes ++ tail) := by
        simp only [List.append_assoc,List.cons_append,List.nil_append]
      rw [separator,joined,split,ih longer (i+1) (Nat.succ_ne_zero i)]
      simp only [List.append_assoc,List.cons_append,List.nil_append]

/-! The arguments of a line. -/

/- Words are not empty and without blanks. -/
structure Word (word : List Char) : Prop where
  some : word ≠ []
  whole : ' ' ∉ word

theorem takesWord {word : List Char} (whole : ' ' ∉ word) (rest : List Char) :
    (word ++ ' ' :: rest).takeWhile (· ≠ ' ') = word ∧ (word ++ ' ' :: rest).dropWhile (· ≠ ' ') = ' ' :: rest := by
  have other : ∀ c ∈ word, (decide (c ≠ ' ')) = true := fun c listed => decide_eq_true fun same => whole (same ▸ listed)
  rw [List.takeWhile_append_of_pos other,List.dropWhile_append_of_pos other]
  constructor
  · rw [List.takeWhile_cons_of_neg (by decide),List.append_nil]
  · rw [List.dropWhile_cons_of_neg (by decide)]

theorem splitNext {word : List Char} (good : Word word) (fuel : Nat) :
    splitChars ' ' (fuel+1) (word ++ ' ' :: rest) = word :: splitChars ' ' fuel rest := by
  obtain ⟨front,back⟩ := takesWord good.whole rest
  rw [splitChars,if_neg (List.append_ne_nil_of_left_ne_nil good.some _),getline,front,back]
  rfl

theorem splitLast {word : List Char} (good : Word word) (fuel : Nat) : splitChars ' ' (fuel+1) word = [word] := by
  have other : ∀ c ∈ word, (decide (c ≠ ' ')) = true := fun c listed => decide_eq_true fun same => good.whole (same ▸ listed)
  have front : (word ++ []).takeWhile (· ≠ ' ') = word ++ [].takeWhile (· ≠ ' ') := List.takeWhile_append_of_pos other
  have back : (word ++ []).dropWhile (· ≠ ' ') = [].dropWhile (· ≠ ' ') := List.dropWhile_append_of_pos other
  rw [List.append_nil,List.takeWhile_nil,List.append_nil] at front
  rw [List.append_nil,List.dropWhile_nil] at back
  rw [splitChars,if_neg good.some,getline,front,back]
  rfl

/- The line for a command. -/
def commandLine (target hex : List Char) : Option (List Char) → List Char
  | none => "-i".toList ++ ' ' :: (target ++ ' ' :: ("-c".toList ++ ' ' :: hex))
  | some data => "-i".toList ++ ' ' :: (target ++ ' ' :: ("-c".toList ++ ' ' :: (hex ++ ' ' :: ("-d".toList ++ ' ' :: data))))

theorem commandArguments {target hex : List Char} {data : Option (List Char)} (addressed : Word target) (command : Word hex)
    (sent : ∀ text, data = some text → Word text) :
    GetOpt.parse S2pExec.options none (S2pExec.lineArguments (commandLine target hex data)) =
      ('i',target) :: ('c',hex) :: (data.map fun text => ('d',text)).toList := by
  have targetOption : Word "-i".toList := ⟨by decide,by decide⟩
  have cdbOption : Word "-c".toList := ⟨by decide,by decide⟩
  have dataOption : Word "-d".toList := ⟨by decide,by decide⟩
  have filled (word : List Char) (good : Word word) : decide (word ≠ []) = true := decide_eq_true good.some
  have parsed (rest : List (List Char)) : GetOpt.parse S2pExec.options none ("-i".toList :: target :: "-c".toList :: hex :: rest) =
      ('i',target) :: ('c',hex) :: GetOpt.parse S2pExec.options none rest := rfl
  cases data with
  | none =>
    have long : (commandLine target hex none).length + 1 = (commandLine target hex none).length - 3 + 1 + 1 + 1 + 1 := by
      simp only [commandLine,List.length_append,List.length_cons]
      omega
    have words : S2pExec.lineArguments (commandLine target hex none) = ["-i".toList,target,"-c".toList,hex] := by
      rw [S2pExec.lineArguments,long,commandLine,splitNext targetOption,splitNext addressed,
        splitNext cdbOption,splitLast command]
      dsimp only
      rw [List.filter_eq_self.mpr]
      intro word listed
      rcases List.mem_cons.mp listed with rfl | listed
      · exact filled _ addressed
      · rcases List.mem_cons.mp listed with rfl | listed
        · rfl
        · exact filled _ (List.mem_singleton.mp listed ▸ command)
    rw [words,parsed]
    rfl
  | some text =>
    have long : (commandLine target hex (some text)).length + 1 =
        (commandLine target hex (some text)).length - 5 + 1 + 1 + 1 + 1 + 1 + 1 := by
      simp only [commandLine,List.length_append,List.length_cons]
      omega
    have words : S2pExec.lineArguments (commandLine target hex (some text)) =
        ["-i".toList,target,"-c".toList,hex,"-d".toList,text] := by
      rw [S2pExec.lineArguments,long,commandLine,splitNext targetOption,splitNext addressed,
        splitNext cdbOption,splitNext command,splitNext dataOption,splitLast (sent text rfl)]
      dsimp only
      rw [List.filter_eq_self.mpr]
      intro word listed
      simp only [List.mem_cons,List.not_mem_nil,or_false] at listed
      rcases listed with rfl | rfl | rfl | rfl | rfl
      · exact filled _ addressed
      · rfl
      · exact filled _ command
      · rfl
      · exact filled _ (sent _ rfl)
    rw [words,parsed]
    rfl

/-! A line is executed. -/

section
open S2pExec Eff

/- No earlier line has an influence on the next one. -/
structure Ready (e : S2pExec) : Prop where
  help : e.help = false
  version : e.version = false
  logLevel : e.logLevel = ""
  logLimit : e.logLimit = "128"
  initiatorId : e.initiatorId = 7
  binaryOutput : e.binaryOutputFilename = ""
  isSg : e.isSg = false

/- The executor knows the target, and the options are those of the line. -/
def addressed (e : S2pExec) (id lun : Nat) (command data : HexText) : S2pExec :=
  { resetOptions e with
    deviceFile := ""
    useSg := false
    isInitialized := true
    executor := true
    isSg := false
    targetId := id
    targetLun := lun
    command
    data }

theorem targetTable : ∀ id < 8, ∀ lun < 32,
    parseIdAndLun (String.ofList (Nat.toDigits 10 id ++ ':' :: Nat.toDigits 10 lun)) = .ok ((id : Int),(lun : Int)) ∧
      ' ' ∉ Nat.toDigits 10 id ++ ':' :: Nat.toDigits 10 lun ∧
      (Nat.toDigits 10 id ++ ':' :: Nat.toDigits 10 lun).all (fun c => decide (Plain c)) = true := by
  decide +kernel

variable {e : S2pExec} {env : ExecEnv} {id lun : Nat} {command data : HexText} {E : String → S2pExec → Prop}

theorem wpLogLevel {Q : Unit → S2pExec → Prop} (default : e.logLevel = "") (rest : Q () e) : wp setLogLevel env e Q E := by
  unfold setLogLevel
  simp only [wpBind,wpGet,wpIte,wpPure]
  exact ⟨fun wrong => absurd default wrong.1,fun _ => rest⟩

theorem wpInitiator {Q : Unit → S2pExec → Prop} (rest : Q () e) : wp (setInitiator "") env e Q E := by
  unfold setInitiator
  simp only [wpIte,wpPure]
  exact ⟨fun wrong => absurd rfl wrong,fun _ => rest⟩

theorem wpTarget {Q : Unit → S2pExec → Prop} {target : String} (some : target ≠ "")
    (targets : parseIdAndLun target = .ok ((id : Int),(lun : Int)))
    (rest : Q () { e with targetId := id, targetLun := lun }) : wp (setTarget target) env e Q E := by
  unfold setTarget
  rw [wpIte,targets]
  exact ⟨fun _ => rest,fun none => absurd some none⟩

theorem wpExecutor {Q : Bool → S2pExec → Prop} {target : String} (some : target ≠ "") (bus : env.initBus = true)
    (board : e.useSg = false) (isSg : e.isSg = false) (fresh : e.isInitialized = false)
    (rest : Q true { e with executor := true, isInitialized := true, useSg := false, isSg := false }) :
    wp (prepareExecutor target) env e Q E := by
  unfold prepareExecutor init
  simp only [wpBind,wpModify,wpGet,wpRead,wpIte,wpPure,board,isSg,fresh,bus]
  refine ⟨fun _ => ⟨fun wrong => Bool.noConfusion wrong,fun _ => rest⟩,fun wrong => ?_⟩
  exact absurd (by simp [some]) wrong

theorem wpLogLimit {Q : Unit → S2pExec → Prop} (default : e.logLimit = "128") (rest : Q () e) :
    wp setLogLimit env e Q E := by
  unfold setLogLimit
  simp only [wpBind,wpGet,wpIte,wpPure,default]
  exact ⟨fun _ => ⟨fun wrong => absurd wrong (by decide),fun _ => rest⟩,fun _ => rest⟩

theorem wpTimeout {Q : Unit → S2pExec → Prop} (rest : Q () e) : wp (setTimeout "") env e Q E := by
  unfold setTimeout
  simp only [wpIte,wpPure]
  exact ⟨fun wrong => absurd rfl wrong,fun _ => rest⟩

theorem wpCommand {Q : Unit → S2pExec → Prop} (known : e.targetId ≠ -1) (binaryInput : e.binaryInputFilename = "")
    (hexInput : e.hexInputFilename = "") (binaryOutput : e.binaryOutputFilename = "") (rest : Q () e) :
    wp checkCommand env e Q E := by
  unfold checkCommand
  simp only [wpBind,wpGet,wpIte,wpPure,wpThrow,binaryInput,hexInput,binaryOutput]
  refine ⟨fun _ => ⟨fun wrong => ?_,fun _ => ⟨fun wrong => ?_,fun _ => ⟨fun wrong => absurd rfl wrong.1,fun _ =>
    ⟨fun wrong => absurd rfl wrong.1,fun _ => rest⟩⟩⟩⟩,fun _ => rest⟩
  · simp [known] at wrong
  · exact wrong.2.elim (absurd rfl) (absurd rfl)

theorem wpBufferSize {Q : Unit → S2pExec → Prop} (rest : Q () e) : wp (checkBufferSize "") env e Q E := by
  unfold checkBufferSize
  simp only [wpIte,wpPure]
  exact ⟨fun wrong => absurd rfl wrong,fun _ => rest⟩

theorem applied {target : List Char} (some : target ≠ []) (plain : data.head? ≠ .some '@') :
    applyOptions (resetOptions e) {} (('i',target) :: ('c',command) :: if data = [] then [] else [('d',data)]) =
      (true,{ resetOptions e with deviceFile := "", useSg := false, isInitialized := false, command, data },
        { target := String.ofList target }) := by
  have named : "" ≠ String.ofList target := fun none => some (String.ofList_eq_empty_iff.mp none.symm)
  cases data with
  | nil => simp [applyOptions,applyOption,named,resetOptions]
  | cons c data =>
    have other : c ≠ '@' := fun same => plain (congrArg Option.some same)
    simp [applyOptions,applyOption,named,other]

/- The arguments of the line are accepted. -/
theorem wpParse {args : List (List Char)} {target : List Char} {Q : Bool → S2pExec → Prop} (ready : Ready e)
    (bus : env.initBus = true) (small : id < 7)
    (targets : parseIdAndLun (String.ofList target) = .ok ((id : Int),(lun : Int))) (some : target ≠ [])
    (plain : data.head? ≠ .some '@')
    (parsed : GetOpt.parse options none args = ('i',target) :: ('c',command) :: if data = [] then [] else [('d',data)])
    (rest : Q true (addressed e id lun command data)) : wp (parseArguments args) env e Q E := by
  have named : String.ofList target ≠ "" := fun none => some (String.ofList_eq_empty_iff.mp none)
  unfold parseArguments
  rw [wpBind,wpGet,parsed,applied some plain]
  simp only [wpBind,wpSet,wpIte,wpPure]
  refine ⟨fun wrong => Bool.noConfusion wrong,fun _ => ⟨fun wrong => ?_,fun _ => ⟨fun wrong => ?_,fun _ => ?_⟩⟩⟩
  · exact Bool.noConfusion (ready.help.symm.trans wrong)
  · exact Bool.noConfusion (ready.version.symm.trans wrong)
  refine wpLogLevel ready.logLevel (wpInitiator (wpTarget named targets (wpExecutor named bus rfl ready.isSg rfl ?_)))
  refine ⟨fun wrong => Bool.noConfusion wrong,fun _ => wpLogLimit ready.logLimit ?_⟩
  simp only [wpGet,wpThrow,wpModify]
  refine ⟨fun same => ?_,fun _ => wpTimeout (wpCommand ?_ rfl rfl ready.binaryOutput (wpBufferSize ?_))⟩
  · have other : (id : Int) = 7 := same.trans ready.initiatorId
    omega
  · change (id : Int) ≠ -1
    omega
  · have here : (lun : Int) ≠ -1 := by omega
    simp only [here,if_false]
    exact rest

theorem wpExecute {Q : Int → S2pExec → Prop} {cdb : Bytes} {dataOut : DataSource}
    (rest : ∀ status, Q status { e with executions := e.executions ++ [⟨e.targetId,e.targetLun,cdb,dataOut⟩] }) :
    wp (execute cdb dataOut) env e Q E := by
  unfold execute
  simp only [wpBind,wpGet,wpModify,wpRead,wpPure]
  exact rest _

/- What is sent with the data option of a line. -/
def dataOut (data : Bytes) : DataSource := if data = [] then .none else .data data

theorem wpDataToSend {Q : DataSource → S2pExec → Prop} {bytes : Bytes}
    (known : e.data = [] ∧ bytes = [] ∨ e.data ≠ [] ∧ bytes ≠ [] ∧ hexToBytes e.data = some bytes)
    (binaryInput : e.binaryInputFilename = "") (hexInput : e.hexInputFilename = "") (rest : Q (dataOut bytes) e) :
    wp dataToSend env e Q E := by
  unfold dataToSend
  simp only [wpBind,wpGet,wpIte,wpPure,binaryInput,hexInput]
  rcases known with ⟨none,rfl⟩ | ⟨some,filled,read⟩
  · exact ⟨fun wrong => absurd none wrong,fun _ => ⟨fun wrong => absurd rfl wrong,fun _ =>
      ⟨fun wrong => absurd rfl wrong,fun _ => rest⟩⟩⟩
  · refine ⟨fun _ => ?_,fun wrong => absurd some wrong⟩
    rw [dataOut,if_neg filled] at rest
    rw [read]
    exact rest

/- The target may fail, but REQUEST SENSE is not sent. -/
theorem wpEvaluateStatus {Q : Unit → S2pExec → Prop} {status : Int} (silent : e.requestSense = false) (rest : Q () e)
    (failed : ∀ message, E message e) : wp (evaluateStatus status) env e Q E := by
  unfold evaluateStatus
  simp only [wpBind,wpGet,wpIte,wpPure,wpThrow,silent]
  exact ⟨fun _ => ⟨fun wrong => Bool.noConfusion wrong.2,fun _ => failed _⟩,fun _ => rest⟩

theorem wpExecuteCommand {Q : Unit → S2pExec → Prop} {cdb bytes : Bytes} (readCdb : hexToBytes e.command = some cdb)
    (readData : e.data = [] ∧ bytes = [] ∨ e.data ≠ [] ∧ bytes ≠ [] ∧ hexToBytes e.data = some bytes)
    (binaryInput : e.binaryInputFilename = "") (hexInput : e.hexInputFilename = "") (silent : e.requestSense = false)
    (rest : Q () { e with executions := e.executions ++ [⟨e.targetId,e.targetLun,cdb,dataOut bytes⟩] })
    (failed : ∀ message, E message { e with executions := e.executions ++ [⟨e.targetId,e.targetLun,cdb,dataOut bytes⟩] }) :
    wp executeCommand env e Q E := by
  unfold executeCommand
  rw [wpBind,wpGet]
  dsimp only
  rw [readCdb]
  simp only [wpBind]
  exact wpDataToSend readData binaryInput hexInput (wpExecute fun _ => wpEvaluateStatus silent rest failed)

theorem wpInteractive {args : List (List Char)} {target : List Char} {cdb bytes : Bytes} (ready : Ready e)
    (bus : env.initBus = true) (small : id < 7)
    (targets : parseIdAndLun (String.ofList target) = .ok ((id : Int),(lun : Int))) (some : target ≠ [])
    (plain : data.head? ≠ .some '@') (filled : command ≠ [])
    (parsed : GetOpt.parse options none args = ('i',target) :: ('c',command) :: if data = [] then [] else [('d',data)])
    (readCdb : hexToBytes command = .some cdb)
    (readData : data = [] ∧ bytes = [] ∨ data ≠ [] ∧ bytes ≠ [] ∧ hexToBytes data = .some bytes) :
    Ready (interactive args env e).2 ∧
      (interactive args env e).2.executions = e.executions ++ [⟨id,lun,cdb,dataOut bytes⟩] := by
  have kept : Ready (addressed e id lun command data) :=
    ⟨ready.help,ready.version,ready.logLevel,ready.logLimit,ready.initiatorId,ready.binaryOutput,rfl⟩
  have executed : wp (interactive args) env e
      (fun _ t => Ready t ∧ t.executions = e.executions ++ [⟨id,lun,cdb,dataOut bytes⟩]) fun _ _ => False := by
    unfold interactive
    simp only [wpTryCatch,wpBind]
    refine wpParse ready bus small targets some plain parsed ?_
    simp only [if_true,wpBind,wpGet,wpIte]
    refine ⟨fun _ => ?_,fun wrong => absurd (.inl filled) wrong⟩
    unfold runOnce
    simp only [wpBind,wpGet,wpIte,wpPure]
    refine ⟨fun wrong => Bool.noConfusion wrong,fun _ => wpExecuteCommand readCdb readData rfl rfl rfl ?_ fun _ => ?_⟩
    · exact ⟨⟨kept.1,kept.2,kept.3,kept.4,kept.5,kept.6,kept.7⟩,rfl⟩
    · exact ⟨⟨kept.1,kept.2,kept.3,kept.4,kept.5,kept.6,kept.7⟩,rfl⟩
  unfold wp at executed
  split at executed
  · next result t ran =>
    rw [ran]
    exact executed
  · exact executed.elim

end

/-! A whole script. -/

/- A command as the controller gets it. -/
structure Received where
  lun : Nat
  cdb : Bytes
  data : Bytes := []
  deriving DecidableEq, Repr

structure Received.Valid (r : Received) : Prop where
  lun : r.lun < 32
  some : r.cdb ≠ []
  count : CommandMetaData.getByteCount (r.cdb.getD 0 0) = r.cdb.length

def Received.execution (id : Nat) (r : Received) : Execution := ⟨id,r.lun,r.cdb,dataOut r.data⟩

def targetText (id lun : Nat) : List Char := Nat.toDigits 10 id ++ ':' :: Nat.toDigits 10 lun

/- What the script has for a command. -/
def Received.text (id : Nat) (r : Received) : List Char :=
  addCdb id r.lun r.cdb ++ if r.data = [] then [] else addData r.data

/- A line may be empty, and the last one may have no end. -/
def scriptText (id : Nat) (lines : List (Option Received)) (last : Option Received) : List Char :=
  lines.flatMap (fun line => line.elim [] (Received.text id) ++ writeEol) ++ last.elim [] (Received.text id)

theorem tidyTarget {id lun : Nat} (small : id < 8) (fits : lun < 32) :
    Tidy ("-i ".toList ++ targetText id lun) ∧ Word (targetText id lun) := by
  obtain ⟨_,whole,plain⟩ := targetTable id small lun fits
  have table : ∀ id < 8, ∀ lun < 32, targetText id lun ≠ [] ∧ (targetText id lun).getLast?.all (· ≠ ' ') ∧
      (targetText id lun).getLast?.isSome := by decide +kernel
  obtain ⟨some,last,ends⟩ := table id small lun fits
  obtain ⟨c,same⟩ := Option.isSome_iff_exists.mp ends
  rw [same,Option.all_some,decide_eq_true_eq] at last
  refine ⟨⟨fun d listed => ?_,⟨'-',rfl,by decide⟩,c,?_,last⟩,some,whole⟩
  · rcases List.mem_append.mp listed with listed | listed
    · have option : ∀ d ∈ "-i ".toList, Plain d := allListed (by decide)
      exact option d listed
    · exact allListed plain d listed
  · rw [List.getLast?_append,same]
    rfl

theorem writtenPlain (joins : Joins separator) (bytes : Bytes) (i : Nat) :
    ∀ c ∈ writeBytes separator i bytes, Plain c ∧ c ≠ ' ' := by
  intro c listed
  rcases writtenAlphabet joins bytes i c listed with rfl | digit
  · decide
  · exact ⟨(digitPlain digit).1,(digitPlain digit).2.2.1⟩

theorem writtenWord (joins : Joins separator) (first : separator 0 = []) {bytes : Bytes} (some : bytes ≠ []) :
    Word (writeBytes separator 0 bytes) := by
  obtain ⟨⟨c,_,starts⟩,_⟩ := writtenEnds first some
  refine ⟨fun none => ?_,fun listed => (writtenPlain joins bytes 0 _ listed).2 rfl⟩
  rw [none] at starts
  cases starts

/- The command line of a command, as it is parsed. -/
def Received.joined (id : Nat) (r : Received) : List Char :=
  commandLine (targetText id r.lun) (writeBytes cdbSeparator 0 r.cdb)
    (if r.data = [] then none else some (writeBytes joinedSeparator 0 r.data))

variable {id : Nat} {r : Received}

theorem Received.Valid.written (valid : r.Valid) : addCdb id r.lun r.cdb =
    "-i ".toList ++ targetText id r.lun ++ (" -c ".toList ++ writeBytes cdbSeparator 0 r.cdb) := by
  have some : r.cdb.length ≠ 0 := fun none => valid.some (List.length_eq_zero_iff.mp none)
  unfold addCdb targetText
  dsimp only
  rw [valid.count,if_neg some,List.take_length]
  simp only [List.append_assoc]
  rfl

theorem Received.Valid.tidy (valid : r.Valid) (small : id < 8) : Tidy (addCdb id r.lun r.cdb) := by
  obtain ⟨c,digit,ends⟩ : ∃ c ∈ hexAlphabet, (writeBytes cdbSeparator 0 r.cdb).getLast? = .some c :=
    (writtenEnds rfl valid.some).2
  rw [valid.written]
  refine (tidyTarget small valid.lun).1.append (fun c listed => ?_) ⟨c,?_,(digitPlain digit).2.2.1⟩
  · rcases List.mem_append.mp listed with listed | listed
    · have option : ∀ d ∈ " -c ".toList, Plain d := allListed (by decide)
      exact option c listed
    · exact (writtenPlain cdbJoins r.cdb 0 c listed).1
  · rw [List.getLast?_append,ends]
    rfl

/- Whatever follows, the command is read as one line. -/
theorem Received.Valid.read (valid : r.Valid) (small : id < 8) (tail : List Char)
    (ends : tail = [] ∨ ∃ rest, tail = '\n' :: rest) :
    getLine [] (inputLines (r.text id ++ tail)) = (r.joined id,inputLines tail.tail) := by
  unfold Received.text Received.joined
  cases data : r.data with
  | nil =>
    rw [if_pos rfl,if_pos rfl,List.append_nil,inputLinesEnd (valid.tidy small) tail ends,lineRead (valid.tidy small),
      valid.written,commandLine]
    simp only [List.append_assoc,List.nil_append]
    rfl
  | cons b bytes =>
    rw [if_neg (List.cons_ne_nil _ _),if_neg (List.cons_ne_nil _ _)]
    obtain ⟨d,last,back⟩ := (tidyHex b).last
    have tidy : Tidy (addCdb id r.lun r.cdb ++ (" -d ".toList ++ hexByte b.toNat)) := by
      refine (valid.tidy small).append (fun c listed => ?_) ⟨d,?_,back⟩
      · rcases List.mem_append.mp listed with listed | listed
        · have option : ∀ d ∈ " -d ".toList, Plain d := allListed (by decide)
          exact option c listed
        · exact (tidyHex b).plain c listed
      · rw [List.getLast?_append,last]
        rfl
    have whole : addCdb id r.lun r.cdb ++ addData (b::bytes) ++ tail =
        addCdb id r.lun r.cdb ++ (" -d ".toList ++ hexByte b.toNat) ++ (writeBytes dataSeparator 1 bytes ++ tail) := by
      simp only [addData,writeBytes,dataSeparator,if_true,List.nil_append,List.append_assoc]
    rw [whole,dataRead tidy bytes 1 Nat.one_ne_zero tail ends,valid.written,commandLine]
    simp only [writeBytes,joinedSeparator,Nat.zero_mod,if_true,List.append_assoc,List.nil_append]
    rfl

theorem getLineShorter {lines : List (List Char)} (some : (getLine input lines).1 ≠ []) :
    (getLine input lines).2.length < lines.length := by
  induction lines generalizing input with
  | nil => exact absurd rfl some
  | cons text lines ih =>
    rw [getLine] at some ⊢
    split
    · exact Nat.lt_succ_self _
    · split
      · exact Nat.lt_succ_self _
      · next ended continued =>
        rw [if_neg ended,if_neg continued] at some
        exact Nat.lt_succ_of_lt (ih some)

section
open S2pExec

variable {env : ExecEnv} {e : S2pExec} {lines : List (List Char)} {fuel : Nat}

/- One command line of a script. -/
theorem executesLine (valid : r.Valid) (small : id < 7) (bus : env.initBus = true) (ready : Ready e) :
    Ready (interactive (lineArguments (r.joined id)) env { e with lastInput := r.joined id }).2 ∧
      (interactive (lineArguments (r.joined id)) env { e with lastInput := r.joined id }).2.executions =
        e.executions ++ [r.execution id] := by
  have started : Ready { e with lastInput := r.joined id } :=
    ⟨ready.help,ready.version,ready.logLevel,ready.logLimit,ready.initiatorId,ready.binaryOutput,ready.isSg⟩
  have eight : id < 8 := by omega
  have address := (tidyTarget eight valid.lun).2
  have word : Word (writeBytes cdbSeparator 0 r.cdb) := writtenWord cdbJoins rfl valid.some
  have readCdb : hexToBytes (writeBytes cdbSeparator 0 r.cdb) = some r.cdb := hexToBytesWritten cdbJoins rfl valid.some
  have targets := (targetTable id eight r.lun valid.lun).1
  by_cases none : r.data = []
  · have joined : r.joined id = commandLine (targetText id r.lun) (writeBytes cdbSeparator 0 r.cdb) Option.none := by
      rw [Received.joined,if_pos none]
    refine wpInteractive started bus small targets address.some (show ([] : HexText).head? ≠ some '@' by decide) word.some ?_ readCdb (.inl ⟨rfl,none⟩)
    rw [joined,commandArguments address word fun _ wrong => by cases wrong]
    rfl
  · have sent : Word (writeBytes joinedSeparator 0 r.data) := writtenWord joinedJoins rfl none
    have joined : r.joined id =
        commandLine (targetText id r.lun) (writeBytes cdbSeparator 0 r.cdb) (some (writeBytes joinedSeparator 0 r.data)) := by
      rw [Received.joined,if_neg none]
    obtain ⟨c,digit,starts⟩ : ∃ c ∈ hexAlphabet, (writeBytes joinedSeparator 0 r.data).head? = some c :=
      (writtenEnds rfl none).1
    refine wpInteractive started bus small targets address.some (fun wrong => ?_) word.some ?_ readCdb
      (.inr ⟨sent.some,none,hexToBytesWritten joinedJoins rfl none⟩)
    · exact (digitPlain digit).2.2.2.1 (Option.some.inj (starts.symm.trans wrong))
    · rw [joined,commandArguments address word fun _ same => Option.some.inj same ▸ sent,if_neg sent.some]
      rfl

theorem runsLine {rest : List (List Char)} (read : getLine [] lines = (r.joined id,rest)) :
    runInteractive env (fuel+1) lines e =
      runInteractive env fuel rest (interactive (lineArguments (r.joined id)) env { e with lastInput := r.joined id }).2 := by
  have starts : (r.joined id).head? = some '-' := by
    unfold Received.joined
    split <;> rfl
  rw [runInteractive,read]
  dsimp only
  rw [if_neg,if_neg,if_neg fun other => other starts]
  · intro wrong
    rw [wrong] at starts
    exact absurd starts (by decide)
  · intro wrong
    rw [wrong] at starts
    cases starts

/- One execution for each command, in the same order. -/
theorem scriptFed (small : id < 7) (bus : env.initBus = true) {commands : List (Option Received)} {last : Option Received}
    (valid : ∀ r, some r ∈ commands ∨ last = some r → r.Valid) (ready : Ready e)
    (enough : (inputLines (scriptText id commands last)).length < fuel) :
    (runInteractive env fuel (inputLines (scriptText id commands last)) e).executions =
      e.executions ++ (commands.filterMap (·) ++ last.toList).map (Received.execution id) := by
  have eight : id < 8 := by omega
  induction commands generalizing fuel e with
  | nil =>
    cases last with
    | none =>
      obtain ⟨fuel,rfl⟩ := Nat.exists_eq_succ_of_ne_zero (Nat.ne_of_gt (Nat.zero_lt_of_lt enough))
      exact (List.append_nil _).symm
    | some r =>
      have good := valid r (.inr rfl)
      have read := good.read eight [] (.inl rfl)
      rw [List.append_nil] at read
      have text : scriptText id [] (some r) = r.text id := rfl
      rw [text] at enough ⊢
      obtain ⟨fuel,rfl⟩ := Nat.exists_eq_succ_of_ne_zero (Nat.ne_of_gt (Nat.zero_lt_of_lt enough))
      obtain ⟨_,executed⟩ := executesLine good small bus ready
      rw [runsLine read]
      cases fuel with
      | zero => exact executed
      | succ fuel => exact executed
  | cons command commands ih =>
    have later : ∀ r, some r ∈ commands ∨ last = some r → r.Valid := fun r listed =>
      valid r (listed.imp_left (List.mem_cons_of_mem _))
    cases command with
    | none =>
      have text : scriptText id (none::commands) last = [] ++ '\n' :: scriptText id commands last := rfl
      rw [text,inputLinesCons List.not_mem_nil] at enough ⊢
      obtain ⟨fuel,rfl⟩ := Nat.exists_eq_succ_of_ne_zero (Nat.ne_of_gt (Nat.zero_lt_of_lt enough))
      have skipped : runInteractive env (fuel+1) ([] :: inputLines (scriptText id commands last)) e =
          runInteractive env (fuel+1) (inputLines (scriptText id commands last)) e := by
        rw [runInteractive,runInteractive,lineEmpty]
      rw [skipped]
      exact ih later ready (Nat.lt_of_succ_lt enough)
    | some r =>
      have good := valid r (.inl List.mem_cons_self)
      have text : scriptText id (some r::commands) last = r.text id ++ '\n' :: scriptText id commands last := by
        simp only [scriptText,List.flatMap_cons,Option.elim,writeEol,List.append_assoc,List.cons_append,List.nil_append]
      have read := good.read eight ('\n' :: scriptText id commands last) (.inr ⟨_,rfl⟩)
      rw [← text,List.tail_cons] at read
      have starts : r.joined id ≠ [] := by
        unfold Received.joined
        split <;> exact List.cons_ne_nil _ _
      have shorter : (getLine [] (inputLines (scriptText id (some r::commands) last))).2.length < _ :=
        getLineShorter (by rw [read]; exact starts)
      rw [read] at shorter
      obtain ⟨fuel,rfl⟩ := Nat.exists_eq_succ_of_ne_zero (Nat.ne_of_gt (Nat.zero_lt_of_lt enough))
      obtain ⟨again,executed⟩ := executesLine good small bus ready
      rw [runsLine read,ih later again (by dsimp only at shorter; omega),executed,List.append_assoc]
      rfl

end
end Scsi2Pi.ScriptText
