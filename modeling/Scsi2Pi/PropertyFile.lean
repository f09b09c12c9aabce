import Scsi2Pi.DeviceProperties

/-! The property file: components of texts, and what Init reads of what Persist has written. -/
namespace Scsi2Pi
open S2pUtil PropertyMap

namespace S2pUtil

variable {c : Char} {n : Nat} {first rest text : List Char}

theorem otherThan (absent : c ∉ text) : ∀ x ∈ text, decide (x ≠ c) = true :=
  fun _ listed => decide_eq_true fun same => absent (same ▸ listed)

theorem takeOther (absent : c ∉ text) : text.takeWhile (· ≠ c) = text := by
  have all : (text ++ []).takeWhile (· ≠ c) = text ++ List.takeWhile (· ≠ c) [] := List.takeWhile_append_of_pos (otherThan absent)
  simpa using all

theorem dropOther (absent : c ∉ text) : text.dropWhile (· ≠ c) = [] := by
  have all : (text ++ []).dropWhile (· ≠ c) = List.dropWhile (· ≠ c) [] := List.dropWhile_append_of_pos (otherThan absent)
  simpa using all

/- One component up to the first separator. -/
theorem splitFirst (absent : c ∉ first) : splitChars c (n+1) (first ++ c::rest) = first::splitChars c n rest := by
  have taken : (first ++ c::rest).takeWhile (· ≠ c) = first := by
    rw [List.takeWhile_append_of_pos (otherThan absent),List.takeWhile_cons_of_neg (by simp),List.append_nil]
  have dropped : (first ++ c::rest).dropWhile (· ≠ c) = c::rest := by
    rw [List.dropWhile_append_of_pos (otherThan absent),List.dropWhile_cons_of_neg (by simp)]
  rw [splitChars,if_neg (by simp),getline,taken,dropped]
  rfl

/- No separator is left. -/
theorem splitWhole (absent : c ∉ text) (some_ : text ≠ []) : splitChars c (n+1) text = [text] := by
  rw [splitChars,if_neg some_,getline,takeOther absent,dropOther absent]
  rfl

theorem splitLine (line : '\n' ∉ text) : splitChars c 0 text = [text] := by
  rw [splitChars,takeOther line]

theorem splitLines {lines : List (List Char)} (plain : ∀ line ∈ lines, '\n' ∉ line) (enough : lines.length < n) :
    splitChars '\n' n (lines.flatMap (· ++ ['\n'])) = lines := by
  induction lines generalizing n with
  | nil =>
    obtain ⟨m,rfl⟩ := Nat.exists_eq_succ_of_ne_zero (Nat.ne_of_gt enough)
    rfl
  | cons line lines ih =>
    obtain ⟨m,rfl⟩ := Nat.exists_eq_succ_of_ne_zero (Nat.ne_of_gt (Nat.zero_lt_of_lt enough))
    have text : (line::lines).flatMap (· ++ ['\n']) = line ++ '\n'::lines.flatMap (· ++ ['\n']) := by simp
    rw [text,splitFirst (plain line List.mem_cons_self),
      ih (fun l listed => plain l (List.mem_cons_of_mem _ listed)) (Nat.lt_of_succ_lt_succ enough)]

theorem splitEq (text : String) (separator : Char) (limit : Nat) :
    splitLimit text separator (limit+1) = (splitChars separator limit text.toList).map String.ofList := rfl

end S2pUtil

/-! The property file. -/

namespace PropertyMap

theorem setBehind {m : PropertyMap} {key : String} (least : ∀ entry ∈ m, entry.1 < key) (value : String) :
    set key value m = m ++ [(key,value)] := by
  induction m with
  | nil => rfl
  | cons entry m ih =>
    obtain ⟨k,v⟩ := entry
    have before := least (k,v) List.mem_cons_self
    rw [set,if_neg (lt_asymm before),if_neg (ne_of_gt before),ih fun e listed => least e (List.mem_cons_of_mem _ listed)]
    rfl

end PropertyMap

namespace PropertyHandler

/- The entry is a line of its own, which is no comment, and its key is what Init makes of it. -/
structure Storable (entry : String × String) : Prop where
  pair : '=' ∉ entry.1.toList
  key : '\n' ∉ entry.1.toList
  value : '\n' ∉ entry.2.toList
  comment : startsWith entry.1 "#" = false
  normal : normalize entry.1 = entry.1

def lineOf (entry : String × String) : List Char := entry.1.toList ++ '='::entry.2.toList

theorem persistLines (p : PropertyHandler) : p.persist.toList = (p.propertyCache.map lineOf).flatMap (· ++ ['\n']) := by
  have all : p.getProperties "" = p.propertyCache := rfl
  rw [persist,all,String.toList_join,List.flatMap_map,List.flatMap_map]
  refine List.flatMap_congr fun entry _ => ?_
  simp [line,lineOf]

theorem parseStored {entry : String × String} (storable : Storable entry) (m : PropertyMap) :
    parseLine m (String.ofList (lineOf entry)) = .ok (m.set entry.1 entry.2) := by
  have some_ : (String.ofList (lineOf entry)).isEmpty = false := by
    rw [← Bool.not_eq_true,String.isEmpty_iff,← String.toList_inj]
    simp [lineOf]
  have comment : startsWith (String.ofList (lineOf entry)) "#" = false := by
    have first := storable.comment
    unfold startsWith lineOf at *
    rw [String.toList_ofList]
    cases keys : entry.1.toList with
    | nil => simp [List.isPrefixOf]
    | cons c cs =>
      rw [keys] at first
      simp_all [List.isPrefixOf]
  have parts : splitLimit (String.ofList (lineOf entry)) '=' 2 = [entry.1,entry.2] := by
    rw [splitEq,String.toList_ofList,lineOf,splitFirst storable.pair,splitLine storable.value]
    simp
  rw [parseLine,some_,comment,parts]
  rfl

theorem parseLines {entries m : PropertyMap} (sorted : Sorted (m ++ entries)) (storable : ∀ entry ∈ entries, Storable entry) :
    ((entries.map lineOf).map String.ofList).foldlM parseLine m = .ok (m ++ entries) := by
  induction entries generalizing m with
  | nil =>
    rw [List.append_nil]
    rfl
  | cons entry entries ih =>
    have least : ∀ e ∈ m, e.1 < entry.1 := fun e listed => (List.pairwise_append.mp sorted).2.2 e listed entry List.mem_cons_self
    rw [List.append_cons] at sorted ⊢
    rw [List.map_cons,List.map_cons,List.foldlM_cons,parseStored (storable entry List.mem_cons_self),setBehind least]
    exact ih sorted fun e listed => storable e (List.mem_cons_of_mem _ listed)

theorem addStored {entries : PropertyMap} {p : PropertyHandler} (sorted : Sorted (p.propertyCache ++ entries))
    (storable : ∀ entry ∈ entries, Storable entry) :
    (entries.foldl (fun (p : PropertyHandler) (entry : String × String) => p.addProperty (normalize entry.1) entry.2) p).propertyCache =
      p.propertyCache ++ entries := by
  induction entries generalizing p with
  | nil => exact (List.append_nil _).symm
  | cons entry entries ih =>
    have least : ∀ e ∈ p.propertyCache, e.1 < entry.1 :=
      fun e listed => (List.pairwise_append.mp sorted).2.2 e listed entry List.mem_cons_self
    have added : (p.addProperty (normalize entry.1) entry.2).propertyCache = p.propertyCache ++ [entry] := by
      rw [(storable entry List.mem_cons_self).normal]
      exact setBehind least _
    rw [List.append_cons,← added] at sorted ⊢
    exact ih sorted fun e listed => storable e (List.mem_cons_of_mem _ listed)

/- What has been written is what is read. -/
theorem initPersisted {p : PropertyHandler} (sorted : Sorted p.propertyCache) (storable : ∀ entry ∈ p.propertyCache, Storable entry) :
    ∃ q, init p.persist = .ok q ∧ q.propertyCache = p.propertyCache := by
  have plain : ∀ l ∈ p.propertyCache.map lineOf, '\n' ∉ l := by
    intro l listed
    obtain ⟨entry,here,rfl⟩ := List.mem_map.mp listed
    have entry := storable entry here
    simp [lineOf,entry.key,entry.value]
  have enough : (p.propertyCache.map lineOf).length < p.persist.length + 1 := by
    have long : ∀ lines : List (List Char), lines.length ≤ (lines.flatMap (· ++ ['\n'])).length := by
      intro lines
      induction lines with
      | nil => exact Nat.le_refl _
      | cons l lines ih =>
        rw [List.flatMap_cons,List.length_append,List.length_append,List.length_cons,List.length_singleton]
        omega
    have shorter := long (p.propertyCache.map lineOf)
    rw [← persistLines,String.length_toList] at shorter
    omega
  have lines : split p.persist '\n' = (p.propertyCache.map lineOf).map String.ofList := by
    rw [split,splitEq,persistLines,splitLines plain enough]
  have parsed : parsePropertyFile [] p.persist = .ok p.propertyCache := by
    rw [parsePropertyFile,lines]
    exact parseLines sorted storable
  refine ⟨_,by rw [init,parsed]; rfl,?_⟩
  exact addStored (p := {}) sorted storable

end PropertyHandler

end Scsi2Pi
