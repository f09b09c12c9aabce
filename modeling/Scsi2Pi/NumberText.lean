import Scsi2Pi.CommandExecutor

/-! Numbers and device IDs in texts, against the numerals that are written there. -/
namespace Scsi2Pi
open S2pUtil CommandExecutor

namespace NumberText

def firstNumber (text : String) : List Char := (text.toList.dropWhile (· = ' ')).takeWhile Char.isDigit

def behindNumber (text : String) : List Char := (text.toList.dropWhile (· = ' ')).dropWhile Char.isDigit

def number (text : String) : Nat := digitsValue (firstNumber text)

/- A decimal numeral, with blanks around it. -/
inductive Numeral : String → Nat → Prop where
  | intro {text : String} {before digits after : List Char} : text.toList = before ++ digits ++ after → (∀ c ∈ before, c = ' ') →
      (∀ c ∈ after, c = ' ') → digits ≠ [] → (∀ c ∈ digits, c.isDigit = true) → Numeral text (digitsValue digits)

/- There is nothing but blanks and digits, and the first number is one that stoul converts. -/
structure Converts (text : String) : Prop where
  legible : ∀ c ∈ text.toList, c = ' ' ∨ c.isDigit = true
  some : firstNumber text ≠ []
  fits : number text < 2^64

instance (text : String) : Decidable (Converts text) :=
  have : Decidable (∀ c ∈ text.toList, c = ' ' ∨ c.isDigit = true) := List.decidableBAll _ text.toList
  decidable_of_iff ((∀ c ∈ text.toList, c = ' ' ∨ c.isDigit = true) ∧ firstNumber text ≠ [] ∧ number text < 2^64)
    ⟨fun h => ⟨h.1,h.2.1,h.2.2⟩,fun h => ⟨h.legible,h.some,h.fits⟩⟩

/- No second number follows. -/
def Single (text : String) : Prop := ∀ c ∈ behindNumber text, c = ' '

variable {text : String} {n limit : Nat}

theorem parseConverts (text : String) : parseAsUnsignedInt text = if Converts text then int32 (number text) else -1 := by
  unfold parseAsUnsignedInt
  by_cases legible : ∀ c ∈ text.toList, c = ' ' ∨ c.isDigit = true
  · have none : ¬(text.toList.any fun c => c ≠ ' ' && !c.isDigit) = true := by
      intro some
      obtain ⟨c,listed,foreign⟩ := List.any_eq_true.mp some
      rcases legible c listed with blank | digit
      · simp [blank] at foreign
      · simp [digit] at foreign
    rw [if_neg none]
    dsimp only
    split
    · next wrong =>
      rw [if_neg]
      intro converts
      rcases wrong with empty | large
      · exact converts.some empty
      · exact Nat.not_lt.mpr large converts.fits
    · next right =>
      have right := not_or.mp right
      rw [if_pos ⟨legible,right.1,Nat.not_le.mp right.2⟩]
      rfl
  · have foreign : (text.toList.any fun c => c ≠ ' ' && !c.isDigit) = true := by
      simp only [not_forall] at legible
      obtain ⟨c,listed,other⟩ := legible
      refine List.any_eq_true.mpr ⟨c,listed,?_⟩
      simpa using other
    rw [if_pos foreign,if_neg fun converts => legible converts.legible]

/-! Numerals. -/

theorem firstBehind (text : String) : text.toList = text.toList.takeWhile (· = ' ') ++ firstNumber text ++ behindNumber text := by
  unfold firstNumber behindNumber
  rw [List.append_assoc,List.takeWhile_append_dropWhile,List.takeWhile_append_dropWhile]

theorem digitNoBlank {c : Char} (digit : c.isDigit = true) : c ≠ ' ' := by
  rintro rfl
  cases digit

theorem numeralNumber (numeral : Numeral text n) : firstNumber text ≠ [] ∧ Single text ∧ number text = n := by
  obtain @⟨before,digits,after,parts,blank,behind,some,all⟩ := numeral
  have dropped : text.toList.dropWhile (· = ' ') = digits ++ after := by
    rw [parts,List.append_assoc,List.dropWhile_append_of_pos (by simpa using blank)]
    obtain ⟨c,rest,rfl⟩ := List.exists_cons_of_ne_nil some
    exact List.dropWhile_cons_of_neg (by simpa using digitNoBlank (all c (List.mem_cons_self ..)))
  have first : firstNumber text = digits := by
    unfold firstNumber
    rw [dropped,List.takeWhile_append_of_pos all]
    cases after with
    | nil => exact List.append_nil _
    | cons c after => simp [behind c (List.mem_cons_self ..)]
  have rest : behindNumber text = after := by
    unfold behindNumber
    rw [dropped,List.dropWhile_append_of_pos all]
    cases after with
    | nil => rfl
    | cons c after => simp [behind c (List.mem_cons_self ..)]
  refine ⟨first ▸ some,?_,congrArg digitsValue first⟩
  unfold Single
  rw [rest]
  exact behind

theorem digitFirst {c : Char} (listed : c ∈ firstNumber text) : c.isDigit = true :=
  List.all_eq_true.mp (List.all_takeWhile (l := text.toList.dropWhile (· = ' '))) c listed

theorem blankBefore {c : Char} (listed : c ∈ text.toList.takeWhile (· = ' ')) : c = ' ' := by
  simpa using List.all_eq_true.mp (List.all_takeWhile (l := text.toList)) c listed

theorem numberNumeral (some : firstNumber text ≠ []) (single : Single text) : Numeral text (number text) := by
  refine .intro (firstBehind text) (fun c => blankBefore) single some fun c => digitFirst

theorem numeralIff : Numeral text n ↔ firstNumber text ≠ [] ∧ Single text ∧ number text = n := by
  refine ⟨numeralNumber,?_⟩
  rintro ⟨some,single,rfl⟩
  exact numberNumeral some single

theorem singleLegible (single : Single text) : ∀ c ∈ text.toList, c = ' ' ∨ c.isDigit = true := by
  intro c listed
  rw [firstBehind text] at listed
  rcases List.mem_append.mp listed with front | behind
  · rcases List.mem_append.mp front with blank | digit
    · exact .inl (blankBefore blank)
    · exact .inr (digitFirst digit)
  · exact .inl (single c behind)

/-! The number of a text. -/

/- The result for a text without a numeral that fits is -1. -/
def ParsedExactly (text : String) : Prop :=
  (∃ n < 2^31, Numeral text n ∧ parseAsUnsignedInt text = n) ∨ (∀ n < 2^31, ¬Numeral text n) ∧ parseAsUnsignedInt text = -1

theorem narrowedMinus (v : Nat) : int32 v = -1 ↔ v % 2^32 = 2^32 - 1 := by
  unfold int32
  rw [Int.bmod_def]
  split <;> omega

theorem parsedIff : ParsedExactly text ↔
    ¬Converts text ∨ Single text ∧ number text < 2^31 ∨ 2^31 ≤ number text ∧ number text % 2^32 = 2^32 - 1 := by
  unfold ParsedExactly
  rw [parseConverts]
  by_cases converts : Converts text
  · rw [if_pos converts]
    have minus := narrowedMinus (number text)
    constructor
    · rintro (⟨n,small,numeral,_⟩ | ⟨none,failed⟩)
      · obtain ⟨_,single,rfl⟩ := numeralIff.mp numeral
        exact .inr (.inl ⟨single,small⟩)
      · refine .inr (.inr ⟨?_,minus.mp failed⟩)
        have last := minus.mp failed
        omega
    · rintro (wrong | ⟨single,small⟩ | ⟨large,last⟩)
      · exact absurd converts wrong
      · exact .inl ⟨_,small,numberNumeral converts.some single,int32Fits (by omega) (by omega)⟩
      · refine .inr ⟨fun n small numeral => ?_,minus.mpr last⟩
        have same := (numeralNumber numeral).2.2
        omega
  · rw [if_neg converts]
    refine ⟨fun _ => .inl converts,fun _ => .inr ⟨fun n small numeral => ?_,rfl⟩⟩
    obtain ⟨some,single,same⟩ := numeralNumber numeral
    exact converts ⟨singleLegible single,some,by omega⟩

/-! Numbers with a limit: an error for -1 and for what is greater. -/

def UpTo (limit : Nat) (text : String) : Prop := ∃ n ≤ limit, Numeral text n

/- What the checks let through. The narrowed number may be negative, except for -1. -/
def Passes (limit : Nat) (text : String) : Prop :=
  Converts text ∧ (number text % 2^32 ≤ limit ∨ 2^31 ≤ number text % 2^32 ∧ number text % 2^32 ≠ 2^32 - 1)

/- A value that is written in the text. -/
def Written (limit : Nat) (text : String) (value : Int) : Prop := ∃ n ≤ limit, Numeral text n ∧ value = n

theorem narrowed (v : Nat) : int32 v = if v % 2^32 < 2^31 then ((v % 2^32 : Nat) : Int) else (v % 2^32 : Nat) - 2^32 := by
  unfold int32
  rw [Int.bmod_def]
  split <;> split <;> omega

theorem passesIff (below : limit < 2^31) :
    ¬(parseAsUnsignedInt text = -1 ∨ (limit : Int) < parseAsUnsignedInt text) ↔ Passes limit text := by
  unfold Passes
  rw [parseConverts]
  by_cases converts : Converts text
  · rw [if_pos converts,narrowed]
    simp only [converts,true_and]
    split <;> omega
  · rw [if_neg converts]
    simp [converts]

theorem writtenIff (below : limit < 2^31) : Written limit text (parseAsUnsignedInt text) ↔ UpTo limit text := by
  unfold Written UpTo
  constructor
  · rintro ⟨n,small,numeral,_⟩
    exact ⟨n,small,numeral⟩
  · rintro ⟨n,small,numeral⟩
    obtain ⟨some,single,rfl⟩ := numeralNumber numeral
    refine ⟨_,small,numeral,?_⟩
    rw [parseConverts,if_pos ⟨singleLegible single,some,by omega⟩]
    exact int32Fits (by omega) (by omega)

theorem idPasses (text : String) : ¬(parseAsUnsignedInt text = -1 ∨ 7 < parseAsUnsignedInt text) ↔ Passes 7 text :=
  passesIff (by decide)

theorem lunPasses (text : String) : ¬(parseAsUnsignedInt text = -1 ∨ 32 ≤ parseAsUnsignedInt text) ↔ Passes 31 text := by
  rw [← passesIff (show 31 < 2^31 by decide)]
  omega

/-! Device IDs. -/

def IdAndLunWritten (idSpec : String) : Prop := ∀ id lun, parseIdAndLun idSpec = .ok (id,lun) →
  ∃ first rest, splitLimit idSpec componentSeparator 2 = first :: rest ∧ Written 7 first id ∧
    (rest = [] ∧ lun = -1 ∨ ∃ second ∈ rest.head?, Written 31 second lun)

/- An error, or numerals. -/
def Unmistakable : List String → Prop
  | [] => True
  | [first] => ¬Passes 7 first ∨ UpTo 7 first
  | first :: second :: _ => ¬Passes 7 first ∨ ¬Passes 31 second ∨ UpTo 7 first ∧ UpTo 31 second

theorem idAndLunIff (idSpec : String) : IdAndLunWritten idSpec ↔ Unmistakable (splitLimit idSpec componentSeparator 2) := by
  unfold IdAndLunWritten parseIdAndLun
  cases parts : splitLimit idSpec componentSeparator 2 with
  | nil => simp [Unmistakable]
  | cons first rest =>
    have passes := idPasses first
    have written : Written 7 first (parseAsUnsignedInt first) ↔ UpTo 7 first := writtenIff (by decide)
    dsimp only
    by_cases good : Passes 7 first
    · rw [if_neg (passes.mpr good)]
      cases rest with
      | nil =>
        dsimp only [Unmistakable]
        constructor
        · intro all
          obtain ⟨_,_,same,is,_⟩ := all _ _ rfl
          cases same
          exact .inr (written.mp is)
        · rintro right id lun ok
          cases ok
          exact ⟨_,_,rfl,written.mpr (right.resolve_left (not_not.mpr good)),.inl ⟨rfl,rfl⟩⟩
      | cons second rest =>
        have passes' := lunPasses second
        have written' : Written 31 second (parseAsUnsignedInt second) ↔ UpTo 31 second := writtenIff (by decide)
        dsimp only [Unmistakable]
        by_cases good' : Passes 31 second
        · rw [if_neg (passes'.mpr good')]
          constructor
          · intro all
            obtain ⟨_,_,same,is,one | ⟨_,here,is'⟩⟩ := all _ _ rfl
            · cases same
              cases one.1
            · cases same
              cases here
              exact .inr (.inr ⟨written.mp is,written'.mp is'⟩)
          · rintro right id lun ok
            cases ok
            obtain ⟨is,is'⟩ := (right.resolve_left (not_not.mpr good)).resolve_left (not_not.mpr good')
            exact ⟨_,_,rfl,written.mpr is,.inr ⟨_,rfl,written'.mpr is'⟩⟩
        · rw [if_pos (not_not.mp (mt passes'.mp good'))]
          refine ⟨fun _ => .inr (.inl good'),fun _ id lun ok => ?_⟩
          cases ok
    · rw [if_pos (not_not.mp (mt passes.mp good))]
      refine ⟨fun _ => ?_,fun _ id lun ok => ?_⟩
      · cases rest with
        | nil => exact .inl good
        | cons second rest => exact .inl good
      · cases ok

/-! Reserved IDs. -/

def InUse (e : CommandExecutor) (text : String) : Prop := e.hasController (int32 (number text)) = true

def ReservedWritten (host : Host) (e : CommandExecutor) (ids : String) : Prop :=
  ∀ e', setReservedIds ids host e = (.ok (),e') → ∀ id ∈ e'.reservedIds, ∃ text ∈ split ids ',', Written 7 text id

theorem reservedParsed {e : CommandExecutor} {texts : List String} {ids : List Int} :
    parseReservedIds e texts = .ok ids ↔ (∀ text ∈ texts, Passes 7 text ∧ ¬InUse e text) ∧ ids = texts.map parseAsUnsignedInt := by
  induction texts generalizing ids with
  | nil => simp [parseReservedIds,eq_comm]
  | cons text rest ih =>
    have passes := idPasses text
    simp only [parseReservedIds,bind,Except.bind,pure,Except.pure,throw,throwThe,MonadExceptOf.throw,List.forall_mem_cons,List.map_cons]
    by_cases good : Passes 7 text
    · have held : InUse e text ↔ e.hasController (parseAsUnsignedInt text) = true := by
        unfold InUse
        rw [parseConverts,if_pos good.1]
      rw [if_neg (passes.mpr good)]
      by_cases used : e.hasController (parseAsUnsignedInt text) = true
      · rw [if_pos used]
        constructor
        · intro wrong
          cases wrong
        · rintro ⟨⟨⟨_,free⟩,_⟩,_⟩
          exact absurd (held.mpr used) free
      · rw [if_neg used]
        cases later : parseReservedIds e rest with
        | error error =>
          constructor
          · intro wrong
            cases wrong
          · rintro ⟨⟨_,others⟩,_⟩
            cases later.symm.trans (ih.mpr ⟨others,rfl⟩)
        | ok ids' =>
          obtain ⟨others,rfl⟩ := ih.mp later
          constructor
          · intro same
            cases same
            exact ⟨⟨⟨good,mt held.mp used⟩,others⟩,rfl⟩
          · rintro ⟨_,rfl⟩
            rfl
    · rw [if_pos (not_not.mp (mt passes.mp good))]
      constructor
      · intro wrong
        cases wrong
      · rintro ⟨⟨⟨right,_⟩,_⟩,_⟩
        exact absurd right good

/- An error, or no other IDs than those that are written, whatever the numbers are narrowed to. -/
def Reserves (e : CommandExecutor) (texts : List String) : Prop :=
  (∃ text ∈ texts, ¬Passes 7 text ∨ InUse e text) ∨
    ∀ text ∈ texts, ∃ other ∈ texts, ∃ n ≤ 7, Numeral other n ∧ number text % 2^32 = n

theorem reservedStored {host : Host} {e : CommandExecutor} {ids : String} {reserved : List Int}
    (parsed : parseReservedIds e (split ids ',') = .ok reserved) :
    setReservedIds ids host e = (.ok (),{ e with reservedIds := reserved.dedup }) := by
  refine Eff.ranOk ?_
  unfold setReservedIds
  simp only [Eff.wpBind,Eff.wpGet,parsed,Eff.wpModify,and_self]

theorem reservedRefused {host : Host} {e : CommandExecutor} {ids error : String}
    (parsed : parseReservedIds e (split ids ',') = .error error) : setReservedIds ids host e = (.error (.message error),e) := by
  refine Eff.ranError ?_
  unfold setReservedIds
  simp only [Eff.wpBind,Eff.wpGet,parsed,Eff.wpThrow,and_self]

theorem reservedIff (host : Host) (e : CommandExecutor) (ids : String) :
    ReservedWritten host e ids ↔ Reserves e (split ids ',') := by
  by_cases fine : ∀ text ∈ split ids ',', Passes 7 text ∧ ¬InUse e text
  · have parsed := reservedParsed.mpr ⟨fine,rfl⟩
    have none : ¬∃ text ∈ split ids ',', ¬Passes 7 text ∨ InUse e text := by
      rintro ⟨text,listed,wrong | wrong⟩
      · exact wrong (fine text listed).1
      · exact (fine text listed).2 wrong
    have each (text : String) (listed : text ∈ split ids ',') :
        (∃ other ∈ split ids ',', Written 7 other (parseAsUnsignedInt text)) ↔
          ∃ other ∈ split ids ',', ∃ n ≤ 7, Numeral other n ∧ number text % 2^32 = n := by
      have value : parseAsUnsignedInt text = int32 (number text) := by
        rw [parseConverts,if_pos (fine text listed).1.1]
      refine exists_congr fun other => and_congr_right fun _ => exists_congr fun n => and_congr_right fun small =>
        and_congr_right fun _ => ?_
      rw [value,narrowed]
      split <;> omega
    constructor
    · intro all
      refine .inr fun text listed => (each text listed).mp (all _ (reservedStored parsed) _ ?_)
      exact List.mem_dedup.mpr (List.mem_map_of_mem listed)
    · rintro right e' ran id mem
      cases ran.symm.trans (reservedStored parsed)
      obtain ⟨text,listed,rfl⟩ := List.mem_map.mp (List.mem_dedup.mp mem)
      exact (each text listed).mpr (right.resolve_left none text listed)
  · constructor
    · intro _
      simp only [not_forall,not_and_or,not_not] at fine
      obtain ⟨text,listed,wrong⟩ := fine
      exact .inl ⟨text,listed,wrong⟩
    · intro _ e' ran
      cases parsed : parseReservedIds e (split ids ',') with
      | error error => cases ran.symm.trans (reservedRefused parsed)
      | ok reserved => exact absurd (reservedParsed.mp parsed).1 fine

end NumberText

open NumberText in
/- Numbers, IDs and reserved IDs are as they are written exactly if no blank and no overflow comes between. -/
theorem numbersAsWritten (text idSpec ids : String) (host : Host) (e : CommandExecutor) :
    (ParsedExactly text ↔
      ¬Converts text ∨ Single text ∧ number text < 2^31 ∨ 2^31 ≤ number text ∧ number text % 2^32 = 2^32 - 1) ∧
    (IdAndLunWritten idSpec ↔ Unmistakable (splitLimit idSpec componentSeparator 2)) ∧
    (ReservedWritten host e ids ↔ Reserves e (split ids ',')) :=
  ⟨parsedIff,idAndLunIff idSpec,reservedIff host e ids⟩

namespace NumberText

/- 2^32 is taken for 0, 2^31 for a negative ID, and of two numbers the first one is taken. -/
theorem numbersMistaken : ¬(∀ text, ParsedExactly text) ∧ (¬∀ idSpec, IdAndLunWritten idSpec) ∧
    ¬∀ host e ids, ReservedWritten host e ids := by
  refine ⟨fun all => ?_,fun all => ?_,fun all => ?_⟩
  · have value : number "4294967296" = 4294967296 := by decide +kernel
    have zero : parseAsUnsignedInt "4294967296" = 0 := by decide +kernel
    rcases all "4294967296" with ⟨n,small,numeral,_⟩ | ⟨_,wrong⟩
    · have same := (numeralNumber numeral).2.2
      omega
    · omega
  · have negative : parseIdAndLun "2147483648" = .ok (-2147483648,-1) := by decide +kernel
    obtain ⟨_,_,_,⟨n,_,_,same⟩,_⟩ := all "2147483648" _ _ negative
    omega
  · have parsed : parseReservedIds {} (split "1 2" ',') = .ok [1] := by decide +kernel
    obtain ⟨text,listed,n,_,numeral,_⟩ := all {} {} "1 2" _ (reservedStored parsed) 1 (List.mem_cons_self ..)
    have only : text = "1 2" := List.mem_singleton.mp listed
    subst only
    exact absurd ((numeralNumber numeral).2.1 '2' (by decide)) (by decide)

end NumberText

end Scsi2Pi
