import Scsi2Pi.S2pFormatter

/-! Hexadecimal text as it is read with indexes into a line, and the lines that are accepted. -/
namespace Scsi2Pi
open S2pUtil S2pFormatter

namespace HexCodec

inductive HexError where
  | outOfRange
  | outsideString
  deriving DecidableEq, Repr

/- Behind its last character a string has a null character, but nothing else. -/
def charAt (line : List Char) (i : Nat) : Except HexError Char :=
  if i < line.length then .ok (line.getD i '\x00')
  else if i = line.length then .ok '\x00'
  else .error .outsideString

/- The loop over a line, from an index on. -/
def hexLoop (line : List Char) (i : Nat) : Except HexError Bytes :=
  if _h : i < line.length then do
    let next := if (← charAt line i) = ':' ∧ i + 2 < line.length then i + 1 else i
    let high ← charAt line next
    let low ← charAt line (next + 1)
    match hexPair high low with
    | none => .error .outOfRange
    | some b =>
      let rest ← hexLoop line (next + 2)
      return b :: rest
  else .ok []
termination_by line.length - i
decreasing_by
  split <;> omega

def hexLineAt (line : List Char) : Except HexError Bytes :=
  if line.head? = some ':' ∨ line.getLast? = some ':' then .error .outOfRange else hexLoop (toLower line) 0

def hexToBytesAt (hex : HexText) : Except HexError Bytes := do
  return (← (inputLines hex).mapM hexLineAt).flatten

/-! What is read with an index is the rest of the line. -/

theorem charAtHead {line : List Char} {i : Nat} (inside : i ≤ line.length) :
    charAt line i = .ok ((line.drop i).headD '\x00') := by
  unfold charAt
  by_cases before : i < line.length
  · rw [if_pos before,List.drop_eq_getElem_cons before,List.getD_eq_getElem?_getD,List.getElem?_eq_getElem before]
    rfl
  · have last : i = line.length := by omega
    rw [if_neg before,if_pos last,last,List.drop_length]
    rfl

def result {α : Type} : Option α → Except HexError α
  | none => .error .outOfRange
  | some a => .ok a

theorem noPair (high : Char) : hexPair high '\x00' = none := by
  have null : hexToDec '\x00' = none := by decide
  unfold hexPair
  rw [null]
  cases hexToDec high <;> rfl

theorem hexDigitsPair {high low : Char} {rest : List Char} (plain : high = ':' → rest = []) :
    hexDigits (high :: low :: rest) = (hexPair high low).bind fun b => (hexDigits rest).map (b :: ·) := by
  rw [hexDigits]
  · cases hexPair high low with
    | none => rfl
    | some b => cases hexDigits rest <;> rfl
  · intro low' rest' colon same
    cases plain colon
    cases same

theorem hexDigitsColon (high low : Char) (rest : List Char) :
    hexDigits (':' :: high :: low :: rest) = (hexPair high low).bind fun b => (hexDigits rest).map (b :: ·) := by
  rw [hexDigits]
  cases hexPair high low with
  | none => rfl
  | some b => cases hexDigits rest <;> rfl

/- The two digits at an index, and what follows them. -/
def pairAt (line : List Char) (k : Nat) : Except HexError Bytes := do
  let high ← charAt line k
  let low ← charAt line (k+1)
  match hexPair high low with
  | none => .error .outOfRange
  | some b =>
    let rest ← hexLoop line (k+2)
    return b :: rest

theorem hexLoopStep {line : List Char} {i : Nat} {c : Char} (before : i < line.length) (first : charAt line i = .ok c) :
    hexLoop line i = pairAt line (if c = ':' ∧ i + 2 < line.length then i + 1 else i) := by
  rw [hexLoop,dif_pos before,first]
  rfl

theorem pairRead {line rest : List Char} {k : Nat} {high low : Char} (here : line.drop k = high :: low :: rest)
    (behind : hexLoop line (k+2) = result (hexDigits rest)) :
    pairAt line k = result ((hexPair high low).bind fun b => (hexDigits rest).map (b :: ·)) := by
  have length := congrArg List.length here
  rw [List.length_drop] at length
  simp only [List.length_cons] at length
  have next : line.drop (k+1) = low :: rest := by
    rw [← List.drop_drop,here]
    rfl
  unfold pairAt
  rw [charAtHead (show k ≤ line.length by omega),charAtHead (show k+1 ≤ line.length by omega),here,next,behind]
  simp only [List.headD_cons,bind,Except.bind]
  cases hexPair high low with
  | none => rfl
  | some b => cases hexDigits rest <;> rfl

theorem hexLoopDigits {line : List Char} {i : Nat} (inside : i ≤ line.length) :
    hexLoop line i = result (hexDigits (line.drop i)) := by
  induction left : line.length - i using Nat.strongRecOn generalizing i with
  | ind n ih =>
    have length : (line.drop i).length = line.length - i := List.length_drop
    cases here : line.drop i with
    | nil =>
      rw [here] at length
      have ended : ¬i < line.length := by
        simp only [List.length_nil] at length
        omega
      rw [hexLoop,dif_neg ended]
      rfl
    | cons high tail =>
      rw [here,List.length_cons] at length
      have first : charAt line i = .ok high := by
        rw [charAtHead inside,here]
        rfl
      rw [hexLoopStep (by omega) first]
      cases tail with
      | nil =>
        have null : charAt line (i+1) = .ok '\x00' := by
          rw [charAtHead (by omega),← List.drop_drop,here]
          rfl
        have single : ¬(high = ':' ∧ i + 2 < line.length) := by
          simp only [List.length_nil] at length
          omega
        rw [if_neg single]
        unfold pairAt
        rw [first,null]
        simp only [bind,Except.bind,noPair]
        rfl
      | cons low rest =>
        simp only [List.length_cons] at length
        by_cases colon : high = ':' ∧ i + 2 < line.length
        · obtain ⟨rfl,more⟩ := colon
          rw [if_pos ⟨rfl,more⟩]
          cases rest with
          | nil =>
            simp only [List.length_nil] at length
            omega
          | cons low' rest =>
            have next : line.drop (i+1) = low :: low' :: rest := by
              rw [← List.drop_drop,here]
              rfl
            have behind : line.drop (i+1+2) = rest := by
              rw [← List.drop_drop,next]
              rfl
            simp only [List.length_cons] at length
            have others := ih _ (by omega) (show i+1+2 ≤ line.length by omega) rfl
            rw [behind] at others
            rw [pairRead next others,hexDigitsColon]
        · have plain : high = ':' → rest = [] := by
            intro same
            refine List.eq_nil_of_length_eq_zero ?_
            have short : ¬i + 2 < line.length := fun more => colon ⟨same,more⟩
            omega
          have behind : line.drop (i+2) = rest := by
            rw [← List.drop_drop,here]
            rfl
          have others := ih _ (by omega) (show i+2 ≤ line.length by omega) rfl
          rw [behind] at others
          rw [if_neg colon,pairRead here others,hexDigitsPair plain]

theorem hexLineResult (line : List Char) : hexLineAt line = result (hexLine line) := by
  unfold hexLineAt hexLine
  split
  · rfl
  · exact hexLoopDigits (Nat.zero_le _)

/- The index loop stays inside of the string, and reads what hexToBytes reads. -/
theorem hexToBytesResult (hex : HexText) : hexToBytesAt hex = result (hexToBytes hex) := by
  have lines (lines : List (List Char)) : lines.mapM hexLineAt = result (lines.mapM hexLine) := by
    induction lines with
    | nil => rfl
    | cons line lines ih =>
      rw [List.mapM_cons,List.mapM_cons,hexLineResult,ih]
      cases hexLine line with
      | none => rfl
      | some bytes => cases lines.mapM hexLine <;> rfl
  unfold hexToBytesAt hexToBytes
  rw [lines]
  cases (inputLines hex).mapM hexLine <;> rfl

/-! The lines that are accepted. -/

def hexValue (c : Char) : Option Nat :=
  if '0' ≤ c ∧ c ≤ '9' then some (c.toNat - '0'.toNat)
  else if 'a' ≤ c ∧ c ≤ 'f' then some (c.toNat - 'a'.toNat + 10)
  else if 'A' ≤ c ∧ c ≤ 'F' then some (c.toNat - 'A'.toNat + 10)
  else none

/- Two digits in either case. -/
def Pair (high low : Char) (b : UInt8) : Prop :=
  ∃ h l, hexValue high = some h ∧ hexValue low = some l ∧ b = UInt8.ofNat (h * 16 + l)

/- Pairs, with or without a colon between two of them. -/
inductive Pairs : List Char → Bytes → Prop where
  | last {high low b} : Pair high low b → Pairs [high,low] [b]
  | next {high low b rest bytes} : Pair high low b → Pairs rest bytes → Pairs (high :: low :: rest) (b :: bytes)
  | colon {high low b rest bytes} : Pair high low b → Pairs rest bytes → Pairs (high :: low :: ':' :: rest) (b :: bytes)

inductive Lines : List (List Char) → Bytes → Prop where
  | nil : Lines [] []
  | empty {lines bytes} : Lines lines bytes → Lines ([] :: lines) bytes
  | line {line first lines bytes} : Pairs line first → Lines lines bytes → Lines (line :: lines) (first ++ bytes)

theorem lowerOther {c : Char} (other : ¬('A'.toNat ≤ c.toNat ∧ c.toNat ≤ 'Z'.toNat)) : c.toLower = c :=
  dif_neg other

theorem lowerTable : ∀ n < 91, 65 ≤ n → hexToDec (Char.ofNat n).toLower = hexValue (Char.ofNat n) ∧ (Char.ofNat n).toLower ≠ ':' := by
  decide +kernel

/- A digit is one before and after the conversion to lower case. -/
theorem lowerDigit (c : Char) : hexToDec c.toLower = hexValue c := by
  by_cases upper : 'A'.toNat ≤ c.toNat ∧ c.toNat ≤ 'Z'.toNat
  · have table := (lowerTable c.toNat (Nat.lt_succ_of_le upper.2) upper.1).1
    rwa [Char.ofNat_toNat] at table
  · have none : ¬('A' ≤ c ∧ c ≤ 'F') := by
      rintro ⟨low,high⟩
      exact upper ⟨low,Nat.le_trans high (by decide)⟩
    rw [lowerOther upper]
    unfold hexToDec hexValue
    rw [if_neg none]

theorem lowerColon {c : Char} (colon : c.toLower = ':') : c = ':' := by
  by_cases upper : 'A'.toNat ≤ c.toNat ∧ c.toNat ≤ 'Z'.toNat
  · have table := (lowerTable c.toNat (Nat.lt_succ_of_le upper.2) upper.1).2
    rw [Char.ofNat_toNat] at table
    exact absurd colon table
  · rwa [lowerOther upper] at colon

theorem pairIff {high low : Char} {b : UInt8} : hexPair high.toLower low.toLower = some b ↔ Pair high low b := by
  unfold Pair hexPair
  rw [lowerDigit,lowerDigit]
  cases hexValue high with
  | none => simp
  | some h => cases hexValue low <;> simp [eq_comm]

theorem pairColon {high low : Char} {b : UInt8} (pair : Pair high low b) : high.toLower ≠ ':' := by
  intro colon
  obtain ⟨h,_,value,_⟩ := pair
  rw [← lowerDigit,colon] at value
  cases value

/- A pair in front of digits, also behind a colon. -/
theorem pairDigits {high low : Char} {b : UInt8} {rest : List Char} {bytes : Bytes} (pair : Pair high low b)
    (digits : hexDigits (toLower rest) = some bytes) : hexDigits (toLower (high :: low :: rest)) = some (b :: bytes) ∧
      hexDigits (':' :: toLower (high :: low :: rest)) = some (b :: bytes) := by
  have read : (hexPair high.toLower low.toLower).bind (fun b => (hexDigits (toLower rest)).map (b :: ·)) = some (b :: bytes) := by
    rw [pairIff.mpr pair,digits]
    rfl
  exact ⟨(hexDigitsPair fun colon => absurd colon (pairColon pair)).trans read,(hexDigitsColon _ _ _).trans read⟩

theorem pairsDigits {line : List Char} {bytes : Bytes} (pairs : Pairs line bytes) :
    hexDigits (toLower line) = some bytes ∧ hexDigits (':' :: toLower line) = some bytes := by
  induction pairs with
  | last pair => exact pairDigits pair rfl
  | next pair _ ih => exact pairDigits pair ih.1
  | colon pair _ ih => exact pairDigits pair ih.2

theorem pairDigit {high low : Char} {b : UInt8} (pair : Pair high low b) : high ≠ ':' ∧ low ≠ ':' := by
  obtain ⟨h,l,value,value',_⟩ := pair
  constructor
  · rintro rfl
    cases value
  · rintro rfl
    cases value'

theorem pairsEnds {line : List Char} {bytes : Bytes} (pairs : Pairs line bytes) :
    line ≠ [] ∧ line.head? ≠ some ':' ∧ line.getLast? ≠ some ':' := by
  induction pairs with
  | last pair =>
    have digits := pairDigit pair
    exact ⟨List.cons_ne_nil _ _,fun colon => digits.1 (Option.some.inj colon),fun colon => digits.2 (Option.some.inj colon)⟩
  | next pair _ ih =>
    refine ⟨List.cons_ne_nil _ _,fun colon => (pairDigit pair).1 (Option.some.inj colon),?_⟩
    rw [List.getLast?_cons_of_ne_nil (List.cons_ne_nil _ _),List.getLast?_cons_of_ne_nil ih.1]
    exact ih.2.2
  | colon pair _ ih =>
    refine ⟨List.cons_ne_nil _ _,fun colon => (pairDigit pair).1 (Option.some.inj colon),?_⟩
    rw [List.getLast?_cons_of_ne_nil (List.cons_ne_nil _ _),List.getLast?_cons_of_ne_nil (List.cons_ne_nil _ _),
      List.getLast?_cons_of_ne_nil ih.1]
    exact ih.2.2

/- What the digits have been read from. -/
theorem digitsPairs {line : List Char} {bytes : Bytes} (some : line ≠ []) (first : line.head? ≠ .some ':') (last : line.getLast? ≠ .some ':')
    (digits : hexDigits (toLower line) = .some bytes) : Pairs line bytes := by
  induction size : line.length using Nat.strongRecOn generalizing line bytes with
  | ind n ih =>
    match line with
    | [] => exact absurd rfl some
    | [c] => cases digits
    | high :: low :: rest =>
      have plain : high.toLower ≠ ':' := fun colon => first (congrArg Option.some (lowerColon colon))
      obtain ⟨b,pair,tail⟩ := Option.bind_eq_some_iff.mp ((hexDigitsPair fun colon => absurd colon plain).symm.trans digits)
      obtain ⟨more,others,rfl⟩ := Option.map_eq_some_iff.mp tail
      have here := pairIff.mp pair
      have behind (some : rest ≠ []) : rest.getLast? ≠ .some ':' := by
        rwa [List.getLast?_cons_of_ne_nil (List.cons_ne_nil _ _),List.getLast?_cons_of_ne_nil some] at last
      match rest with
      | [] =>
        cases others
        exact .last here
      | c :: rest =>
        have ends := behind (List.cons_ne_nil _ _)
        by_cases colon : c = ':'
        · subst colon
          match rest with
          | [] => exact absurd rfl ends
          | [c] =>
            have none : hexDigits [':',c.toLower] = .none := hexDigitsPair fun _ => rfl
            cases none.symm.trans others
          | high' :: low' :: rest =>
            have same := (hexDigitsColon high'.toLower low'.toLower (toLower rest)).symm.trans others
            obtain ⟨b',pair',_⟩ := Option.bind_eq_some_iff.mp same
            have digits' := (hexDigitsPair fun colon => absurd colon (pairColon (pairIff.mp pair'))).trans
              ((hexDigitsColon high'.toLower low'.toLower (toLower rest)).symm.trans others)
            rw [List.getLast?_cons_of_ne_nil (List.cons_ne_nil _ _)] at ends
            have shorter : (high' :: low' :: rest).length < n := by
              simp only [List.length_cons] at size ⊢
              omega
            exact .colon here (ih _ shorter (List.cons_ne_nil _ _)
              (fun colon => (pairDigit (pairIff.mp pair')).1 (Option.some.inj colon)) ends digits' rfl)
        · have shorter : (c :: rest).length < n := by
            simp only [List.length_cons] at size ⊢
            omega
          exact .next here (ih _ shorter (List.cons_ne_nil _ _) (fun same => colon (Option.some.inj same)) ends others rfl)

theorem hexLinePairs {line : List Char} {bytes : Bytes} : hexLine line = some bytes ↔ line = [] ∧ bytes = [] ∨ Pairs line bytes := by
  unfold hexLine
  constructor
  · intro read
    split at read
    · cases read
    · next plain =>
      by_cases none : line = []
      · subst none
        cases read
        exact .inl ⟨rfl,rfl⟩
      · exact .inr (digitsPairs none (fun colon => plain (.inl colon)) (fun colon => plain (.inr colon)) read)
  · rintro (⟨rfl,rfl⟩ | pairs)
    · rfl
    · obtain ⟨_,first,last⟩ := pairsEnds pairs
      rw [if_neg (not_or.mpr ⟨first,last⟩)]
      exact (pairsDigits pairs).1

theorem linesRead {lines : List (List Char)} {bytes : Bytes} :
    (lines.mapM hexLine).map List.flatten = some bytes ↔ Lines lines bytes := by
  induction lines generalizing bytes with
  | nil =>
    constructor
    · intro read
      cases read
      exact .nil
    · intro lines
      cases lines
      rfl
  | cons line lines ih =>
    rw [List.mapM_cons]
    constructor
    · intro read
      cases first : hexLine line with
      | none =>
        rw [first] at read
        cases read
      | some head =>
        cases others : lines.mapM hexLine with
        | none =>
          rw [first,others] at read
          cases read
        | some parts =>
          rw [first,others] at read
          cases read
          have rest := ih.mp (by rw [others]; rfl)
          rcases hexLinePairs.mp first with ⟨rfl,rfl⟩ | pairs
          · exact .empty rest
          · exact .line pairs rest
    · intro all
      have joined {line : List Char} {first rest : Bytes} (read : hexLine line = some first) (others : Lines lines rest) :
          (do
            let b ← hexLine line
            let bs ← lines.mapM hexLine
            pure (b :: bs) : Option (List Bytes)).map List.flatten = some (first ++ rest) := by
        obtain ⟨parts,same,rfl⟩ := Option.map_eq_some_iff.mp (ih.mpr others)
        rw [read,same]
        rfl
      cases all with
      | empty others => exact joined (hexLinePairs.mpr (.inl ⟨rfl,rfl⟩)) others
      | line pairs others => exact joined (hexLinePairs.mpr (.inr pairs)) others

theorem hexToBytesRead (hex : HexText) : hexToBytesAt hex = result (((inputLines hex).mapM hexLine).map List.flatten) := by
  rw [hexToBytesResult]
  unfold hexToBytes
  cases (inputLines hex).mapM hexLine <;> rfl

end HexCodec

open HexCodec in
/- What is formatted is read back, and exactly the texts whose lines are pairs of digits are read. -/
theorem hexCodecExact {formatLimit : Int} {bytes : Bytes} (fits : (bytes.length : Int) ≤ formatLimit) (hex : HexText) :
    hexToBytesAt (formatBytes formatLimit bytes bytes.length true) = .ok bytes ∧
      (∀ read, hexToBytesAt hex = .ok read ↔ Lines (inputLines hex) read) ∧
      ((¬∃ read, Lines (inputLines hex) read) → hexToBytesAt hex = .error .outOfRange) := by
  refine ⟨?_,fun read => ?_,fun none => ?_⟩
  · rw [formatBytesHex formatLimit bytes (.inr fits),hexToBytesResult,hexToBytesLines _ rfl]
    rfl
  · rw [hexToBytesRead,← linesRead]
    cases ((inputLines hex).mapM hexLine).map List.flatten <;> simp [result]
  · rw [hexToBytesRead]
    cases same : ((inputLines hex).mapM hexLine).map List.flatten with
    | none => rfl
    | some read => exact absurd ⟨read,linesRead.mp same⟩ none

namespace HexCodec

theorem twoBytesRead : hexToBytesAt (formatBytes 16 [0x0a,0xff] 2 true) = .ok [0x0a,0xff] :=
  (hexCodecExact (show (List.length (α := UInt8) [0x0a,0xff] : Int) ≤ 16 by decide) []).1

end HexCodec

end Scsi2Pi
