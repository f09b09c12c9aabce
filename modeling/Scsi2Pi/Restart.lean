import Scsi2Pi.NumberText
import Scsi2Pi.PropertyFile
import Scsi2Pi.StartUp

/-! A restart with the properties that have been persisted: there is one definition for each device
that was attached. -/
namespace Scsi2Pi
open S2pUtil PropertyMap

/-! Numbers. -/

namespace NumberText

theorem digitsShown (n : Nat) : digitsValue (Nat.toDigits 10 n) = n := by
  have same : ∀ (digits : List Char) (value : Nat),
      digits.foldl (fun value c => value * 10 + (c.toNat - '0'.toNat)) value = Nat.ofDigitChars 10 digits value := by
    intro digits
    induction digits with
    | nil => exact fun _ => rfl
    | cons c digits ih =>
      intro value
      rw [List.foldl_cons,ih,Nat.mul_comm]
      rfl
  exact (same _ 0).trans Nat.ofDigitChars_ten_toDigits

/- A number that has been printed is a numeral for it. -/
theorem shownNumeral (n : Nat) : Numeral (toString n) n := by
  have parts : (toString n).toList = [] ++ Nat.toDigits 10 n ++ [] := by simp [Nat.toString_eq_repr,Nat.toList_repr]
  have numeral := Numeral.intro parts (fun _ none => absurd none List.not_mem_nil) (fun _ none => absurd none List.not_mem_nil)
    Nat.toDigits_ne_nil fun c listed => Nat.isDigit_of_mem_toDigits (by decide) (by decide) listed
  rwa [digitsShown] at numeral

theorem shownParsed {n : Nat} (fits : n < 2^32) : parseAsUnsignedInt (toString n) = int32 n := by
  obtain ⟨some_,single,number⟩ := numeralNumber (shownNumeral n)
  rw [parseConverts,if_pos ⟨singleLegible single,some_,by omega⟩,number]

theorem shownDigits (n : Nat) : ∀ c ∈ (toString n).toList, c.isDigit = true := by
  intro c listed
  rw [Nat.toString_eq_repr,Nat.toList_repr] at listed
  exact Nat.isDigit_of_mem_toDigits (by decide) (by decide) listed

end NumberText
open NumberText CommandExecutor

/-! Keys. -/

theorem idAndLunParsed {id lun : Nat} (range : id < 8) (limit : lun < 32) : parseIdAndLun s!"{id}:{lun}" = .ok ((id : Int),(lun : Int)) := by
  have noColon : ':' ∉ (toString id).toList := fun listed => absurd (shownDigits id _ listed) (by decide)
  have noLine : '\n' ∉ (toString lun).toList := fun listed => absurd (shownDigits lun _ listed) (by decide)
  have text : (s!"{id}:{lun}").toList = (toString id).toList ++ ':'::(toString lun).toList := by
    rw [String.toList_append,String.toList_append,List.append_assoc]
    rfl
  have parts : splitLimit s!"{id}:{lun}" componentSeparator 2 = [toString id,toString lun] := by
    rw [splitEq,text,componentSeparator,splitFirst noColon,splitLine noLine,List.map_cons,List.map_singleton,String.ofList_toList,
      String.ofList_toList]
  have first : parseAsUnsignedInt (toString id) = id := (shownParsed (by omega)).trans (int32Fits (by omega) (by omega))
  have second : parseAsUnsignedInt (toString lun) = lun := (shownParsed (by omega)).trans (int32Fits (by omega) (by omega))
  unfold parseIdAndLun
  rw [parts]
  dsimp only
  rw [first,second,if_neg (by omega),if_neg (by omega)]

/- The parts of a key. -/
theorem keyParts {id : Int} {lun : Nat} (range : 0 ≤ id ∧ id < 8) {name : String} (line : '\n' ∉ name.toList) :
    splitLimit (identifier id lun ++ name) '.' 3 = ["device",s!"{id}:{lun}",name] := by
  obtain ⟨i,rfl⟩ := Int.eq_ofNat_of_zero_le range.1
  have text : (identifier (i : Int) lun ++ name).toList = "device".toList ++ '.'::((s!"{i}:{lun}").toList ++ '.'::name.toList) := by
    rw [identifierList]
    simp only [String.toList_append,List.append_assoc]
    rfl
  have noDot : '.' ∉ (s!"{i}:{lun}").toList := by
    intro listed
    rw [String.toList_append,String.toList_append] at listed
    rcases List.mem_append.mp listed with early | digit
    · rcases List.mem_append.mp early with digit | colon
      · exact absurd (shownDigits i _ digit) (by decide)
      · exact absurd colon (by decide)
    · exact absurd (shownDigits lun _ digit) (by decide)
  rw [splitEq,text,splitFirst (by decide),splitFirst noDot,splitLine line]
  simp only [List.map_cons,List.map_nil,String.ofList_toList]
  rfl

theorem deviceKey (id : Int) (lun : Nat) (name : String) : startsWith (identifier id lun ++ name) "device." = true := by
  rw [startsWith,identifierList,List.isPrefixOf_iff_prefix]
  exact List.prefix_append _ _

/-! One property after the other. -/

namespace S2p
open ProtobufUtil

variable {properties : PropertyMap} {c : Creation} {id : Int} {lun : Nat} {name value : String}

theorem idAndLunSet (range : 0 ≤ id ∧ id < 8) (limit : lun < 32) : setIdAndLun {} s!"{id}:{lun}" = .ok { id, unit := lun } := by
  obtain ⟨i,rfl⟩ := Int.eq_ofNat_of_zero_le range.1
  have parsed : parseIdAndLun s!"{(i : Int)}:{lun}" = .ok ((i : Int),(lun : Int)) := idAndLunParsed (by omega) limit
  have present : (lun : Int) ≠ -1 := by omega
  rw [setIdAndLun,parsed]
  change Except.ok _ = _
  rw [if_neg present]

theorem lastSet {device : PbDeviceDefinition} (devices : List PbDeviceDefinition) (key value : String) :
    setLast key value (devices ++ [device]) = (setDeviceProperties device key value).map fun device => devices ++ [device] := by
  induction devices with
  | nil => rfl
  | cons first devices ih =>
    obtain ⟨second,rest,same⟩ := List.exists_cons_of_ne_nil (show devices ++ [device] ≠ [] by simp)
    rw [List.cons_append,same,setLast,← same,ih]
    · cases setDeviceProperties device key value <;> rfl
    · exact fun none => absurd none (List.cons_ne_nil _ _)

/- A property of the device that the last one was about. -/
theorem createsSame {device : PbDeviceDefinition} {devices : List PbDeviceDefinition} (range : 0 ≤ id ∧ id < 8) (limit : lun < 32)
    (line : '\n' ∉ name.toList) : createDevice properties ⟨devices ++ [device],id,lun,true⟩ (identifier id lun ++ name,value) =
      (setDeviceProperties device name value).map fun device => ⟨devices ++ [device],id,lun,true⟩ := by
  unfold createDevice
  dsimp only
  rw [deviceKey,keyParts range line]
  simp only [idAndLunSet range limit,bind,Except.bind,pure,Except.pure]
  simp [lastSet]
  cases setDeviceProperties device name value <;> rfl

/- The first property of another device. -/
theorem createsNew (range : 0 ≤ id ∧ id < 8) (limit : lun < 32) (line : '\n' ∉ name.toList) (other : c.id ≠ id ∨ c.lun ≠ lun)
    (active : checkActive properties s!"{id}:{lun}" = .ok true) : createDevice properties c (identifier id lun ++ name,value) =
      (setDeviceProperties { id, unit := lun } name value).map fun device => ⟨c.devices ++ [device],id,lun,true⟩ := by
  unfold createDevice
  dsimp only
  rw [deviceKey,keyParts range line]
  simp only [idAndLunSet range limit,active,bind,Except.bind,pure,Except.pure]
  simp [lastSet,other]
  cases setDeviceProperties { id, unit := lun } name value <;> rfl

end S2p

/-! What the properties of a device say. -/

namespace CommandExecutor
open ProtobufUtil S2p

/- The entries can be told from each other. -/
structure PlainMap (params : List (String × String)) : Prop where
  distinct : (params.map Prod.fst).Nodup
  key : ∀ entry ∈ params, ':' ∉ entry.1.toList ∧ '=' ∉ entry.1.toList ∧ '\n' ∉ entry.1.toList ∧ entry.1 ≠ ""
  value : ∀ entry ∈ params, ':' ∉ entry.2.toList ∧ '\n' ∉ entry.2.toList

/- The strings of a device do not have the separators in them. -/
structure Legible (host : Host) (d : AnyDevice) : Prop where
  type : ∀ value, d.primary.type ≠ .unrecognized value
  vendor : ':' ∉ d.primary.productData.vendor.toList ∧ '\n' ∉ d.primary.productData.vendor.toList
  product : ':' ∉ d.primary.productData.product.toList ∧ '\n' ∉ d.primary.productData.product.toList
  revision : '\n' ∉ d.primary.productData.revision.toList
  blockSize : ∀ s, d.storage = some s → s.configuredBlockSize < 2^31
  file : ∀ s, d.storage = some s → s.filename.isEmpty = false →
    '=' ∉ (relativeFilename host s.filename).toList ∧ '\n' ∉ (relativeFilename host s.filename).toList
  map : ∀ s, d.storage = some s → s.filename.isEmpty = true → PlainMap s.params
  params : d.storage = none → PlainMap d.primary.params

/- The name of the image file, if there is one, is the only parameter that is kept. -/
def persistedParams (host : Host) (d : AnyDevice) : List (String × String) :=
  match d.storage with
  | some s => if s.filename.isEmpty then s.params else [("file",relativeFilename host s.filename)]
  | none => d.primary.params

/- Vendor and product have been exchanged when the name was put together. -/
def restored (host : Host) (device : Int × AnyDevice) : PbDeviceDefinition where
  id := device.1
  unit := device.2.primary.lun
  type := device.2.primary.type
  params := (persistedParams host device.2).filter (·.2 ≠ "")
  blockSize := (device.2.storage.map fun s => (s.configuredBlockSize : Int)).getD 0
  vendor := device.2.primary.productData.product
  product := device.2.primary.productData.vendor
  revision := device.2.primary.productData.revision

theorem typeRestored {type : PbDeviceType} (known : ∀ value, type ≠ .unrecognized value) : parseDeviceType type.name = type := by
  cases type with
  | unrecognized value => exact absurd rfl (known value)
  | _ => decide

theorem nameRestored (device : PbDeviceDefinition) {a b r : String} (first : ':' ∉ a.toList) (second : ':' ∉ b.toList)
    (third : '\n' ∉ r.toList) : ProtobufUtil.setProductData device (a ++ ":" ++ b ++ ":" ++ r) = { device with vendor := a, product := b, revision := r } := by
  have text : (a ++ ":" ++ b ++ ":" ++ r).toList = a.toList ++ ':'::(b.toList ++ ':'::r.toList) := by
    simp only [String.toList_append,List.append_assoc]
    rfl
  have parts : splitLimit (a ++ ":" ++ b ++ ":" ++ r) componentSeparator 3 = [a,b,r] := by
    rw [splitEq,text,componentSeparator,splitFirst first,splitFirst second,splitLine third]
    simp
  rw [ProtobufUtil.setProductData,parts]

/-! Parameters. -/

def pairOf (entry : String × String) : String := entry.1 ++ "=" ++ entry.2

theorem pairList (entry : String × String) : (pairOf entry).toList = entry.1.toList ++ '='::entry.2.toList := by
  simp only [pairOf,String.toList_append,List.append_assoc]
  rfl

theorem pairSome (entry : String × String) : pairOf entry ≠ "" := by
  intro none
  have lists := congrArg String.toList none
  rw [pairList] at lists
  simp at lists

theorem countShort (texts : List String) : texts.length ≤ (texts.flatMap fun t => ':'::t.toList).length := by
  induction texts with
  | nil => simp
  | cons t texts ih =>
    simp only [List.flatMap_cons,List.length_append,List.length_cons]
    omega

theorem joinBehind {texts : List String} {text : String} (some_ : text ≠ "") :
    (texts.foldl (fun text component => (if text.isEmpty then text else text ++ ":") ++ component) text).toList =
      text.toList ++ texts.flatMap fun t => ':'::t.toList := by
  induction texts generalizing text with
  | nil => simp
  | cons t texts ih =>
    have nonempty : text.isEmpty = false := by simpa using some_
    have more : text ++ ":" ++ t ≠ "" := by
      intro none
      have lengths := congrArg String.length none
      simp at lengths
    rw [List.foldl_cons,nonempty,if_neg Bool.false_ne_true,ih more]
    simp [String.toList_append]

theorem joinList (t : String) (texts : List String) (some_ : t ≠ "") :
    (join ":" (t::texts)).toList = t.toList ++ texts.flatMap fun t => ':'::t.toList := by
  have first : (if "".isEmpty then "" else "" ++ ":") ++ t = t := by simp
  rw [join,List.foldl_cons,first,joinBehind some_]

theorem splitJoined {t : String} {texts : List String} {n : Nat} (enough : texts.length ≤ n)
    (plain : ∀ x ∈ t::texts, ':' ∉ x.toList ∧ x ≠ "") :
    splitChars ':' (n+1) (t.toList ++ texts.flatMap fun t => ':'::t.toList) = (t::texts).map String.toList := by
  induction texts generalizing t n with
  | nil =>
    obtain ⟨absent,some_⟩ := plain t List.mem_cons_self
    rw [List.flatMap_nil,List.append_nil,splitWhole absent (by simpa using some_)]
    rfl
  | cons u texts ih =>
    obtain ⟨m,rfl⟩ := Nat.exists_eq_succ_of_ne_zero (show n ≠ 0 by rw [List.length_cons] at enough; omega)
    rw [List.flatMap_cons,List.cons_append,splitFirst (plain t List.mem_cons_self).1,
      ih (by rw [List.length_cons] at enough; omega) fun x listed => plain x (List.mem_cons_of_mem _ listed)]
    rfl

theorem entryBehind {map : List (String × String)} {key : String} (absent : key ∉ map.map Prod.fst) (value : String) :
    PrimaryDevice.setEntry key value map = map ++ [(key,value)] := by
  induction map with
  | nil => rfl
  | cons entry map ih =>
    rw [List.map_cons,List.mem_cons,not_or] at absent
    rw [PrimaryDevice.setEntry,if_neg (Ne.symm absent.1),ih absent.2]
    rfl

theorem pairsRestored {params map : List (String × String)} (plain : PlainMap params) (fresh : ∀ entry ∈ params, entry.1 ∉ map.map Prod.fst) :
    (params.map pairOf).foldl parseParameters.setPair map = map ++ params.filter (·.2 ≠ "") := by
  induction params generalizing map with
  | nil => simp
  | cons entry params ih =>
    obtain ⟨key,value⟩ := entry
    obtain ⟨colon,equals,line,some_⟩ := plain.key (key,value) List.mem_cons_self
    obtain ⟨other,distinct⟩ := List.nodup_cons.mp plain.distinct
    have parts : splitLimit (pairOf (key,value)) keyValueSeparator 2 = [key,value] := by
      rw [splitEq,pairList,keyValueSeparator,splitFirst equals,splitLine (plain.value _ List.mem_cons_self).2]
      simp
    have rest : PlainMap params := ⟨distinct,fun e listed => plain.key e (List.mem_cons_of_mem _ listed),
      fun e listed => plain.value e (List.mem_cons_of_mem _ listed)⟩
    have named : key.isEmpty = false := by simpa using some_
    rw [List.map_cons,List.foldl_cons,parseParameters.setPair,parts]
    dsimp only
    by_cases none : value = ""
    · subst none
      rw [setParam,named]
      simpa using ih rest fun e listed => fresh e (List.mem_cons_of_mem _ listed)
    · have given : value.isEmpty = false := by simpa using none
      rw [setParam,named,given]
      simp only [Bool.or_self,Bool.false_eq_true,if_false]
      rw [entryBehind (fresh _ List.mem_cons_self),ih rest]
      · simp [none]
      · intro e listed
        have apart : e.1 ≠ key := fun same => other (List.mem_map.mpr ⟨e,listed,same⟩)
        simp [fresh e (List.mem_cons_of_mem _ listed),apart]

/- All pairs with a value come back. -/
theorem paramsRestored {params : List (String × String)} (plain : PlainMap params) (some_ : params ≠ []) (device : PbDeviceDefinition)
    (blank : device.params = []) :
    parseParameters device (join ":" (params.map pairOf)) = { device with params := params.filter (·.2 ≠ "") } := by
  obtain ⟨entry,rest,rfl⟩ := List.exists_cons_of_ne_nil some_
  have text := joinList (pairOf entry) (rest.map pairOf) (pairSome entry)
  rw [← List.map_cons] at text
  have pairs : ∀ x ∈ pairOf entry::rest.map pairOf, ':' ∉ x.toList ∧ x ≠ "" := by
    intro x listed
    rw [← List.map_cons] at listed
    obtain ⟨e,here,rfl⟩ := List.mem_map.mp listed
    refine ⟨?_,pairSome e⟩
    rw [pairList]
    simp [(plain.key e here).1,(plain.value e here).1]
  have enough : (rest.map pairOf).length ≤ (join ":" ((entry::rest).map pairOf)).length := by
    have lengths := congrArg List.length text
    rw [String.length_toList,List.length_append] at lengths
    have shorter := countShort (rest.map pairOf)
    omega
  have parts : split (join ":" ((entry::rest).map pairOf)) componentSeparator = (entry::rest).map pairOf := by
    rw [split,splitEq,text,componentSeparator,splitJoined enough pairs]
    simp
  have some' : (join ":" ((entry::rest).map pairOf)).isEmpty = false := by
    rw [← Bool.not_eq_true,String.isEmpty_iff,← String.toList_inj,text,pairList]
    simp
  have separated : (join ":" ((entry::rest).map pairOf)).toList.contains keyValueSeparator = true := by
    rw [text,pairList]
    simp [keyValueSeparator]
  rw [parseParameters,some',separated,parts,blank,pairsRestored plain fun _ _ => List.not_mem_nil]
  rfl

end CommandExecutor

/-! The block of a device. -/

namespace CommandExecutor
open ProtobufUtil S2p

variable {host : Host} {d : AnyDevice}

def blockSizeEntry (d : AnyDevice) : List (String × String) :=
  match d.storage with
  | some s => if s.configuredBlockSize = 0 then [] else [("block_size",toString s.configuredBlockSize)]
  | none => []

/- In the order of the keys. -/
def block (host : Host) (d : AnyDevice) : List (String × String) :=
  let p := d.primary.productData
  blockSizeEntry d ++ [("name",p.product ++ ":" ++ p.vendor ++ ":" ++ p.revision)] ++
    ((paramsProperty host d).map fun params => ("params",params)).toList ++ [("type",getTypeString d)]

theorem blockPerm (host : Host) (d : AnyDevice) : (block host d).Perm (entriesOf host d) := by
  unfold block entriesOf blockSizeEntry
  cases paramsProperty host d <;> cases d.storage <;> grind

theorem blockKeys (host : Host) (d : AnyDevice) : ((block host d).map Prod.fst).Sublist ["block_size","name","params","type"] := by
  unfold block blockSizeEntry
  cases paramsProperty host d with
  | none =>
    cases d.storage with
    | none => simp
    | some s => by_cases zero : s.configuredBlockSize = 0 <;> simp [zero]
  | some params =>
    cases d.storage with
    | none => simp
    | some s => by_cases zero : s.configuredBlockSize = 0 <;> simp [zero]

theorem blockSorted (host : Host) (d : AnyDevice) : (block host d).Pairwise fun a b => a.1 < b.1 :=
  List.pairwise_map.mp (List.Pairwise.sublist (blockKeys host d) (by decide))

theorem blockLine {entry : String × String} (listed : entry ∈ block host d) : '\n' ∉ entry.1.toList ∧ '=' ∉ entry.1.toList := by
  have known := (blockKeys host d).subset (List.mem_map_of_mem listed)
  generalize entry.1 = key at known
  revert key
  decide

def setProperty (device : PbDeviceDefinition) (entry : String × String) : Except String PbDeviceDefinition :=
  setDeviceProperties device entry.1 entry.2

theorem blockSizeRestored (legible : Legible host d) (device : PbDeviceDefinition) (blank : device.blockSize = 0) :
    (blockSizeEntry d).foldlM setProperty device =
      .ok { device with blockSize := (d.storage.map fun s => (s.configuredBlockSize : Int)).getD 0 } := by
  unfold blockSizeEntry
  cases storage : d.storage with
  | none =>
    change Except.ok device = _
    simp [← blank]
  | some s =>
    dsimp only
    split
    · next zero =>
      change Except.ok device = _
      simp [zero,← blank]
    · have small := legible.blockSize s storage
      have shown : parseAsUnsignedInt (toString s.configuredBlockSize) = s.configuredBlockSize :=
        (shownParsed (by omega)).trans (int32Fits (by omega) (by omega))
      have valid : ¬(s.configuredBlockSize : Int) = -1 := by omega
      rw [List.foldlM_cons,setProperty,setDeviceProperties,shown,if_neg valid]
      rfl

theorem paramsPropertyRestored (legible : Legible host d) (device : PbDeviceDefinition) (blank : device.params = []) :
    (((paramsProperty host d).map fun params => ("params",params)).toList).foldlM setProperty device =
      .ok { device with params := (persistedParams host d).filter (·.2 ≠ "") } := by
  have joined : ∀ params : List (String × String), PlainMap params →
      (((paramsProperty.joined params).map fun params => ("params",params)).toList).foldlM setProperty device =
      .ok { device with params := params.filter (·.2 ≠ "") } := by
    intro params plain
    unfold paramsProperty.joined
    cases params with
    | nil =>
      change Except.ok device = .ok { device with params := [] }
      rw [← blank]
    | cons entry params =>
      have restored := paramsRestored plain (List.cons_ne_nil _ _) device blank
      change Except.ok _ = _
      exact congrArg Except.ok restored
  unfold paramsProperty persistedParams
  cases storage : d.storage with
  | none => exact joined _ (legible.params storage)
  | some s =>
    dsimp only
    cases named : s.filename.isEmpty with
    | true => exact joined _ (legible.map s storage named)
    | false =>
      obtain ⟨equals,line⟩ := legible.file s storage named
      change Except.ok (parseParameters device _) = _
      unfold parseParameters
      by_cases none : relativeFilename host s.filename = ""
      · have same : { device with params := [] } = device := by rw [← blank]
        simp [none,same]
      · simp [none,equals,keyValueSeparator,setParam,blank,PrimaryDevice.setEntry]

theorem foldThrough {ε α β : Type} {f : α → β → Except ε α} {a b : α} {first rest : List β} (ran : first.foldlM f a = .ok b) :
    (first ++ rest).foldlM f a = rest.foldlM f b := by
  rw [List.foldlM_append,ran]
  rfl

theorem blockRestored (id : Int) (legible : Legible host d) :
    (block host d).foldlM setProperty { id, unit := d.primary.lun } = .ok (restored host (id,d)) := by
  let p := d.primary.productData
  have named : ∀ device : PbDeviceDefinition, [("name",p.product ++ ":" ++ p.vendor ++ ":" ++ p.revision)].foldlM setProperty device =
      Except.ok { device with vendor := p.product, product := p.vendor, revision := p.revision } := fun device =>
    congrArg Except.ok (nameRestored device legible.product.1 legible.vendor.1 legible.revision)
  have typed : ∀ device : PbDeviceDefinition, [("type",getTypeString d)].foldlM setProperty device =
      Except.ok { device with type := d.primary.type } := fun device => congrArg (fun type => (Except.ok { device with type } : Except String PbDeviceDefinition)) (typeRestored legible.type)
  have size := (foldThrough (blockSizeRestored legible { id, unit := d.primary.lun } rfl)).trans (named _)
  exact (foldThrough ((foldThrough size).trans (paramsPropertyRestored legible _ rfl))).trans (typed _)

end CommandExecutor

/-! All blocks. -/

namespace S2p
open ProtobufUtil CommandExecutor

variable {host : Host} {properties : PropertyMap}

/- A text that differs within a shorter one is on the same side of whatever follows. -/
theorem orderedBehind {a b : List Char} (before : a < b) (apart : ¬a <+: b) (x y : List Char) : a ++ x < b ++ y := by
  induction a generalizing b with
  | nil => exact absurd List.nil_prefix apart
  | cons c a ih =>
    cases b with
    | nil => exact absurd before (by simp)
    | cons d b =>
      rw [List.cons_append,List.cons_append,List.cons_lt_cons_iff]
      rcases List.cons_lt_cons_iff.mp before with less | ⟨rfl,later⟩
      · exact .inl less
      · exact .inr ⟨rfl,ih later fun inside => apart (List.cons_prefix_cons.mpr ⟨rfl,inside⟩)⟩

def prefixed (host : Host) (device : Int × AnyDevice) : List (String × String) :=
  (block host device.2).map fun entry => (identifier device.1 device.2.primary.lun ++ entry.1,entry.2)

/- One ID and LUN for each device. -/
def Apart (a b : Int × AnyDevice) : Prop := a.1 ≠ b.1 ∨ a.2.primary.lun ≠ b.2.primary.lun

structure InRange (device : Int × AnyDevice) : Prop where
  id : 0 ≤ device.1 ∧ device.1 < 8
  lun : device.2.primary.lun < 32

theorem sameCreates {id : Int} {lun : Nat} {entries : List (String × String)} {device : PbDeviceDefinition} {before : List PbDeviceDefinition}
    (range : 0 ≤ id ∧ id < 8) (limit : lun < 32) (lines : ∀ entry ∈ entries, '\n' ∉ entry.1.toList) :
    (entries.map fun entry => (identifier id lun ++ entry.1,entry.2)).foldlM (createDevice properties) ⟨before ++ [device],id,lun,true⟩ =
      (entries.foldlM setProperty device).map fun device => ⟨before ++ [device],id,lun,true⟩ := by
  induction entries generalizing device with
  | nil => rfl
  | cons entry entries ih =>
    rw [List.map_cons,List.foldlM_cons,List.foldlM_cons,createsSame range limit (lines entry List.mem_cons_self),setProperty]
    cases setDeviceProperties device entry.1 entry.2 with
    | error e => rfl
    | ok device => exact ih fun e listed => lines e (List.mem_cons_of_mem _ listed)

/- The definition for a block. -/
theorem blockCreates {id : Int} {d : AnyDevice} {c : Creation} (range : InRange (id,d)) (legible : Legible host d)
    (new : c.id ≠ id ∨ c.lun ≠ d.primary.lun) (active : checkActive properties s!"{id}:{d.primary.lun}" = .ok true) :
    (prefixed host (id,d)).foldlM (createDevice properties) c = .ok ⟨c.devices ++ [restored host (id,d)],id,d.primary.lun,true⟩ := by
  have entries := blockRestored id legible
  have lines := fun entry (listed : entry ∈ block host d) => (blockLine listed).1
  obtain ⟨first,rest,parts⟩ := List.exists_cons_of_ne_nil (show block host d ≠ [] by simp [block])
  unfold prefixed
  rw [parts] at entries lines ⊢
  rw [List.map_cons,List.foldlM_cons,createsNew range.id range.lun (lines first List.mem_cons_self) new active]
  rw [List.foldlM_cons,setProperty] at entries
  cases ran : setDeviceProperties { id, unit := d.primary.lun } first.1 first.2 with
  | error e =>
    rw [ran] at entries
    cases entries
  | ok device =>
    rw [ran] at entries
    have all : rest.foldlM setProperty device = .ok (restored host (id,d)) := entries
    have later := @sameCreates properties id d.primary.lun rest device c.devices range.id range.lun
      fun e listed => lines e (List.mem_cons_of_mem _ listed)
    rw [all] at later
    exact later

/- The devices with their blocks in a row are created one after the other. -/
theorem rowCreates {devices : List (Int × AnyDevice)} {c : Creation} (range : ∀ device ∈ devices, InRange device)
    (legible : ∀ device ∈ devices, Legible host device.2) (apart : devices.Pairwise Apart)
    (new : ∀ device ∈ devices, c.id ≠ device.1 ∨ c.lun ≠ device.2.primary.lun)
    (active : ∀ device ∈ devices, checkActive properties s!"{device.1}:{device.2.primary.lun}" = .ok true) :
    ∃ created, (devices.flatMap (prefixed host)).foldlM (createDevice properties) c = .ok created ∧
      created.devices = c.devices ++ devices.map (restored host) := by
  induction devices generalizing c with
  | nil => exact ⟨c,rfl,by simp⟩
  | cons device devices ih =>
    obtain ⟨id,d⟩ := device
    have ready : checkActive properties s!"{id}:{d.primary.lun}" = .ok true := active (id,d) List.mem_cons_self
    have whole := blockCreates (range (id,d) List.mem_cons_self) (legible (id,d) List.mem_cons_self) (new (id,d) List.mem_cons_self) ready
    obtain ⟨first,later⟩ := List.pairwise_cons.mp apart
    obtain ⟨created,ran,definitions⟩ := @ih ⟨c.devices ++ [restored host (id,d)],id,d.primary.lun,true⟩
      (fun x listed => range x (List.mem_cons_of_mem _ listed)) (fun x listed => legible x (List.mem_cons_of_mem _ listed)) later
      (fun x listed => (first x listed).imp_right fun other same => other (Int.ofNat.inj same))
      (fun x listed => active x (List.mem_cons_of_mem _ listed))
    refine ⟨created,?_,?_⟩
    · rw [List.flatMap_cons,foldThrough whole]
      exact ran
    · rw [definitions]
      simp

/- Other properties do not matter. -/
theorem othersSkipped {entries : PropertyMap} (c : Creation) : entries.foldlM (createDevice properties) c =
    (entries.filter fun entry => startsWith entry.1 "device.").foldlM (createDevice properties) c := by
  induction entries generalizing c with
  | nil => rfl
  | cons entry entries ih =>
    cases device : startsWith entry.1 "device." with
    | false =>
      rw [List.filter_cons_of_neg (by simp [device]),List.foldlM_cons,createDevice]
      simp only [device]
      exact ih c
    | true =>
      have kept : (entry::entries).filter (fun entry => startsWith entry.1 "device.") =
          entry::entries.filter fun entry => startsWith entry.1 "device." :=
        List.filter_cons_of_pos device
      rw [kept,List.foldlM_cons,List.foldlM_cons]
      cases createDevice properties c entry with
      | error e => rfl
      | ok c => exact ih c

end S2p

/-! The whole configuration. -/

namespace S2p
open ProtobufUtil CommandExecutor PropertyHandler

variable {host : Host} {e : CommandExecutor} {devices : List (Int × AnyDevice)}

def before (a b : Int × AnyDevice) : Prop := identifier a.1 a.2.primary.lun < identifier b.1 b.2.primary.lun

theorem prefixedSorted (host : Host) (device : Int × AnyDevice) : (prefixed host device).Pairwise fun a b => a.1 < b.1 := by
  refine List.pairwise_map.mpr ((blockSorted host device.2).imp fun {a b} less => ?_)
  rw [String.lt_iff_toList_lt,String.toList_append,String.toList_append]
  exact List.append_left_lt (String.lt_iff_toList_lt.mp less)

/- What follows does not change the order of the identifiers. -/
theorem keysBefore {a b : Int × AnyDevice} (less : before a b) (first : InRange a) (second : InRange b) (x y : String) :
    identifier a.1 a.2.primary.lun ++ x < identifier b.1 b.2.primary.lun ++ y := by
  rw [String.lt_iff_toList_lt,String.toList_append,String.toList_append]
  refine orderedBehind (String.lt_iff_toList_lt.mp less) (fun inside => ?_) _ _
  obtain ⟨rest,same⟩ := inside
  have longer : identifier a.1 a.2.primary.lun ++ String.ofList rest = identifier b.1 b.2.primary.lun ++ "" := by
    rw [← String.toList_inj,String.toList_append,String.toList_append,String.toList_ofList,same]
    simp
  obtain ⟨ids,luns,_⟩ := keyInjective first.id second.id first.lun second.lun longer
  unfold before at less
  rw [ids,luns] at less
  exact lt_irrefl _ less

theorem rowSorted (range : ∀ device ∈ devices, InRange device) (sorted : devices.Pairwise before) :
    (devices.flatMap (prefixed host)).Pairwise fun a b => a.1 < b.1 := by
  refine List.pairwise_flatMap.mpr ⟨fun device _ => prefixedSorted host device,?_⟩
  refine List.Pairwise.imp_of_mem (fun {a b} first second less => ?_) sorted
  intro x inside y inside'
  obtain ⟨_,_,rfl⟩ := List.mem_map.mp inside
  obtain ⟨_,_,rfl⟩ := List.mem_map.mp inside'
  exact keysBefore less (range a first) (range b second) _ _

theorem memPrefixed (host : Host) (device : Int × AnyDevice) (entry : String × String) :
    entry ∈ prefixed host device ↔ entry ∈ deviceProperties host device.1 device.2 := by
  rw [devicePropertiesEq,prefixed]
  exact ((blockPerm host device.2).map _).mem_iff

theorem allInRange (attached : Attached e) : ∀ device ∈ e.getAllDevices, InRange device := by
  intro device listed
  obtain ⟨lun,here⟩ := memAllDevices.mp listed
  exact ⟨attached.range (deviceController here),lunLimit32 attached here⟩

theorem allApart (attached : Attached e) : e.getAllDevices.Pairwise Apart := by
  have nodup := unitsNodup attached
  rw [units] at nodup
  refine (List.pairwise_map.mp nodup).imp fun {a b} differ => ?_
  by_contra same
  obtain ⟨ids,luns⟩ := not_or.mp same
  exact differ (Prod.ext (not_not.mp ids) (congrArg Int.ofNat (not_not.mp luns)))

/- In the order of their identifiers. -/
theorem inOrder (attached : Attached e) : ∃ devices : List (Int × AnyDevice), devices.Perm e.getAllDevices ∧ devices.Pairwise before := by
  let le (a b : Int × AnyDevice) : Bool := identifier a.1 a.2.primary.lun ≤ identifier b.1 b.2.primary.lun
  have sorted : (e.getAllDevices.mergeSort le).Pairwise fun a b => le a b = true := by
    refine List.pairwise_mergeSort ?_ ?_ _
    · intro a b c first second
      exact decide_eq_true (le_trans (of_decide_eq_true first) (of_decide_eq_true second))
    · intro a b
      simpa [le] using le_total (identifier a.1 a.2.primary.lun) (identifier b.1 b.2.primary.lun)
  have perm := List.mergeSort_perm e.getAllDevices le
  have apart : (e.getAllDevices.mergeSort le).Pairwise Apart :=
    perm.symm.pairwise (allApart attached) fun {a b} other => other.imp Ne.symm Ne.symm
  refine ⟨_,perm,List.Pairwise.imp_of_mem (fun {a b} first second both => ?_) (sorted.and apart)⟩
  have range := allInRange attached a (perm.mem_iff.mp first)
  have range' := allInRange attached b (perm.mem_iff.mp second)
  refine lt_of_le_of_ne (of_decide_eq_true both.1) fun same => ?_
  obtain ⟨ids,luns,_⟩ := @keyInjective a.1 b.1 _ _ "" "" range.id range'.id range.lun range'.lun (by rw [same])
  rcases both.2 with other | other
  · exact other ids
  · exact other luns

/- The properties of the devices are the blocks in a row. -/
theorem rowPersisted (mirrored : Mirrored host e) (perm : devices.Perm e.getAllDevices) (sorted : devices.Pairwise before) :
    (e.properties.propertyCache.filter fun entry => startsWith entry.1 "device.") = devices.flatMap (prefixed host) := by
  have range := fun device listed => allInRange mirrored.attached device (perm.mem_iff.mp listed)
  have row : (devices.flatMap (prefixed host)).Pairwise fun a b => a.1 < b.1 := rowSorted range sorted
  have cache : (e.properties.propertyCache.filter fun entry => startsWith entry.1 "device.").Pairwise fun a b => a.1 < b.1 :=
    mirrored.sorted.filter _
  have nodup : ∀ {l : List (String × String)}, l.Pairwise (fun a b => a.1 < b.1) → l.Nodup :=
    fun less => less.imp fun {a b} (less : a.1 < b.1) (same : a = b) => lt_irrefl b.1 (same ▸ less)
  refine List.Perm.eq_of_pairwise (fun a b _ _ less more => absurd more (lt_asymm less)) cache row ?_
  refine (List.perm_ext_iff_of_nodup (nodup cache) (nodup row)).mpr fun entry => ?_
  obtain ⟨key,value⟩ := entry
  rw [List.mem_filter,List.mem_flatMap]
  constructor
  · rintro ⟨listed,device⟩
    obtain ⟨id,lun,d,here,property⟩ := (mirrored.mirrors device).mp listed
    exact ⟨(id,d),perm.mem_iff.mpr (memAllDevices.mpr ⟨lun,here⟩),(memPrefixed host (id,d) (key,value)).mpr property⟩
  · rintro ⟨⟨id,d⟩,listed,inside⟩
    obtain ⟨lun,here⟩ := memAllDevices.mp (perm.mem_iff.mp listed)
    obtain ⟨part,_,same⟩ := List.mem_map.mp inside
    have keys : identifier id d.primary.lun ++ part.1 = key := congrArg Prod.fst same
    have device : startsWith key "device." = true := by
      rw [← keys]
      exact deviceKey id d.primary.lun part.1
    have property : (key,value) ∈ deviceProperties host id d := (memPrefixed host (id,d) (key,value)).mp inside
    exact ⟨(mirrored.mirrors device).mpr ⟨id,lun,d,here,property⟩,device⟩

/- Nothing is inactive. -/
theorem allActive (mirrored : Mirrored host e) {device : Int × AnyDevice} (listed : device ∈ e.getAllDevices) :
    checkActive e.properties.propertyCache s!"{device.1}:{device.2.primary.lun}" = .ok true := by
  have key : "device." ++ s!"{device.1}:{device.2.primary.lun}" ++ ".active" = identifier device.1 device.2.primary.lun ++ "active" := by
    rw [← String.toList_inj,identifierList]
    simp only [String.toList_append,List.append_assoc]
    rfl
  have absent : e.properties.propertyCache.lookup (identifier device.1 device.2.primary.lun ++ "active") = none := by
    refine List.lookup_eq_none_iff.mpr fun entry here => ?_
    rw [bne_iff_ne]
    intro same
    obtain ⟨id,lun,d,there,property⟩ := (@Mirrored.mirrors _ _ mirrored entry.1 entry.2 (same ▸ deviceKey _ _ _)).mp here
    obtain ⟨part,inside,equal⟩ := List.mem_map.mp ((memPrefixed host (id,d) _).mpr property)
    have range := allInRange mirrored.attached device listed
    have range' := allInRange mirrored.attached (id,d) (memAllDevices.mpr ⟨lun,there⟩)
    have keys : identifier device.1 device.2.primary.lun ++ "active" = identifier id d.primary.lun ++ part.1 :=
      same.trans (congrArg Prod.fst equal).symm
    obtain ⟨_,_,name⟩ := keyInjective range.id range'.id range.lun range'.lun keys
    have known := (blockKeys host d).subset (List.mem_map_of_mem inside)
    rw [← name] at known
    exact absurd known (by decide)
  rw [checkActive,key,absent]

theorem createsPersisted (mirrored : Mirrored host e) (legible : ∀ device ∈ e.getAllDevices, Legible host device.2)
    {p : PropertyHandler} (same : p.propertyCache = e.properties.propertyCache) :
    ∃ devices : List (Int × AnyDevice), devices.Perm e.getAllDevices ∧ devices.Pairwise before ∧
      createDevices p = .ok { operation := .attach, devices := devices.map (restored host) } := by
  obtain ⟨devices,perm,sorted⟩ := inOrder mirrored.attached
  refine ⟨devices,perm,sorted,?_⟩
  have range := fun device (listed : device ∈ devices) => allInRange mirrored.attached device (perm.mem_iff.mp listed)
  have apart : devices.Pairwise Apart := perm.symm.pairwise (allApart mirrored.attached) fun {a b} other => other.imp Ne.symm Ne.symm
  have new : ∀ device ∈ devices, ({} : Creation).id ≠ device.1 ∨ ({} : Creation).lun ≠ device.2.primary.lun := by
    intro device listed
    have positive := (range device listed).id.1
    change -1 ≠ device.1 ∨ _
    omega
  obtain ⟨created,ran,definitions⟩ := @rowCreates host e.properties.propertyCache devices {} range
    (fun device listed => legible device (perm.mem_iff.mp listed)) apart new
    (fun device listed => allActive mirrored (perm.mem_iff.mp listed))
  have all : p.getProperties "" = e.properties.propertyCache := same
  have definitions' : created.devices = devices.map (restored host) := definitions
  rw [createDevices,all,othersSkipped,rowPersisted mirrored perm sorted,ran,← definitions']
  rfl

theorem keyWithout {c : Char} {id : Int} {lun : Nat} {name : String} (range : 0 ≤ id) (plain : c ∉ "device.:".toList)
    (noDigit : c.isDigit = false) (absent : c ∉ name.toList) : c ∉ (identifier id lun ++ name).toList := by
  obtain ⟨i,rfl⟩ := Int.eq_ofNat_of_zero_le range
  rw [identifierList]
  have ids : c ∉ (toString (i : Int)).toList := fun listed => Bool.noConfusion (noDigit.symm.trans (shownDigits i c listed))
  have luns : c ∉ (toString lun).toList := fun listed => Bool.noConfusion (noDigit.symm.trans (shownDigits lun c listed))
  simp only [List.mem_append,List.mem_cons,not_or]
  have parts : c ∉ "device.".toList ∧ c ≠ ':' ∧ c ≠ '.' := by
    refine ⟨fun listed => plain ?_,?_,?_⟩
    · exact List.mem_append_left [':'] listed
    · rintro rfl
      exact plain (by decide)
    · rintro rfl
      exact plain (by decide)
  exact ⟨parts.1,ids,parts.2.1,luns,parts.2.2,absent⟩

theorem joinedLine {params : List (String × String)} (plain : PlainMap params) {text : String} (joined : paramsProperty.joined params = some text) :
    '\n' ∉ text.toList := by
  cases params with
  | nil => cases joined
  | cons entry params =>
    have pair : ∀ e ∈ entry::params, '\n' ∉ (pairOf e).toList := by
      intro e listed
      rw [pairList]
      simp [(plain.key e listed).2.2.1,(plain.value e listed).2]
    have same : join ":" ((entry::params).map pairOf) = text := Option.some.inj joined
    rw [← same,List.map_cons,joinList _ _ (pairSome entry)]
    simp only [List.mem_append,List.mem_flatMap,List.mem_cons,not_or,not_exists,not_and]
    refine ⟨pair entry List.mem_cons_self,fun t listed => ⟨by decide,?_⟩⟩
    obtain ⟨e,here,rfl⟩ := List.mem_map.mp listed
    exact pair e (List.mem_cons_of_mem _ here)

theorem blockValue {d : AnyDevice} (legible : Legible host d) {entry : String × String} (listed : entry ∈ block host d) :
    '\n' ∉ entry.2.toList := by
  unfold block at listed
  simp only [List.mem_append,List.mem_singleton] at listed
  rcases listed with ((size | rfl) | params) | rfl
  · unfold blockSizeEntry at size
    split at size
    · split at size
      · cases size
      · rw [List.mem_singleton.mp size]
        exact fun listed => absurd (shownDigits _ _ listed) (by decide)
    · cases size
  · simp only [String.toList_append,List.mem_append,not_or]
    exact ⟨⟨⟨⟨legible.product.2,by decide⟩,legible.vendor.2⟩,by decide⟩,legible.revision⟩
  · obtain ⟨text,some_,rfl⟩ := Option.map_eq_some_iff.mp (Option.mem_toList.mp params)
    unfold paramsProperty at some_
    split at some_
    · next s storage =>
      split at some_
      · next none => exact joinedLine (legible.map s storage none) some_
      · next named =>
        cases some_
        exact (legible.file s storage (by simpa using named)).2
    · next storage => exact joinedLine (legible.params storage) some_
  · rw [getTypeString]
    cases known : d.primary.type with
    | unrecognized value => exact absurd known (legible.type value)
    | _ => decide

/- The entries of the devices can be written to a file. -/
theorem deviceStorable (mirrored : Mirrored host e) (legible : ∀ device ∈ e.getAllDevices, Legible host device.2)
    {entry : String × String} (listed : entry ∈ e.properties.propertyCache) (device : startsWith entry.1 "device." = true) : Storable entry := by
  obtain ⟨id,lun,d,here,property⟩ := (@Mirrored.mirrors _ _ mirrored entry.1 entry.2 device).mp listed
  obtain ⟨part,inside,same⟩ := List.mem_map.mp ((memPrefixed host (id,d) _).mpr property)
  have known : (id,d) ∈ e.getAllDevices := memAllDevices.mpr ⟨lun,here⟩
  have range := (allInRange mirrored.attached (id,d) known).id.1
  obtain ⟨line,pair⟩ := blockLine inside
  have value := blockValue (legible (id,d) known) inside
  have entries : entry = (identifier id d.primary.lun ++ part.1,part.2) := same.symm
  rw [entries]
  refine ⟨keyWithout range (by decide) (by decide) pair,keyWithout range (by decide) (by decide) line,value,?_,?_⟩
  · unfold startsWith
    rw [identifierList]
    rfl
  · have colon : (identifier id d.primary.lun ++ part.1).toList.contains ':' = true := by
      rw [identifierList]
      simp
    dsimp only
    unfold PropertyHandler.normalize
    split
    · rw [colon]
      simp
    · rfl

end S2p

namespace CommandExecutor
open S2p PropertyHandler

variable {host : Host} {e : CommandExecutor}

theorem mirroredRestart (mirrored : Mirrored host e) (legible : ∀ device ∈ e.getAllDevices, Legible host device.2)
    (storable : ∀ entry ∈ e.properties.propertyCache, startsWith entry.1 "device." = false → Storable entry) :
    ∃ p, init e.properties.persist = .ok p ∧ p.propertyCache = e.properties.propertyCache ∧
      ∃ devices : List (Int × AnyDevice), devices.Perm e.getAllDevices ∧ devices.Pairwise before ∧
        createDevices p = .ok { operation := .attach, devices := devices.map (restored host) } := by
  have all : ∀ entry ∈ e.properties.propertyCache, Storable entry := by
    intro entry listed
    cases device : startsWith entry.1 "device." with
    | true => exact deviceStorable mirrored legible listed device
    | false => exact storable entry listed device
  obtain ⟨p,read,same⟩ := initPersisted mirrored.sorted all
  exact ⟨p,read,same,createsPersisted mirrored legible same⟩

/- What Persist has written is read again as it was, and then there is one definition for each device that is
attached, and no other one, in the order of the identifiers. -/
theorem restartDefines (folder : String) (world : World) (entries : List (String × String)) (commands : List (Host × PbCommand))
    (other : ∀ entry ∈ entries, startsWith entry.1 "device." = false)
    (careful : CarefulCommands folder { world, properties := addEntries {} entries } commands) :
    let e := ({ world, properties := addEntries {} entries } : CommandExecutor).run commands
    let host : Host := { defaultFolder := folder }
    (∀ device ∈ e.getAllDevices, Legible host device.2) →
    (∀ entry ∈ e.properties.propertyCache, startsWith entry.1 "device." = false → Storable entry) →
    ∃ p, init e.properties.persist = .ok p ∧ p.propertyCache = e.properties.propertyCache ∧
      ∃ devices : List (Int × AnyDevice), devices.Perm e.getAllDevices ∧ devices.Pairwise before ∧
        createDevices p = .ok { operation := .attach, devices := devices.map (restored host) } := by
  intro e host legible storable
  exact mirroredRestart (mirroredRun careful (mirroredStart folder world other)) legible storable

end CommandExecutor

/-! What the definitions are good for. -/

namespace CommandExecutor
open Eff

/- There is always an exception. -/
def Fails {α : Type} (x : Exec α) : Prop := ∀ host e, wp x host e (fun _ _ => False) fun _ _ => True

variable {α β : Type} {x : Exec α} {f : α → Exec β} {definition : PbDeviceDefinition}

theorem Fails.first (fails : Fails x) (f : α → Exec β) : Fails (x >>= f) := by
  intro host e
  rw [wpBind]
  exact wpMono (fails host e) (fun _ _ wrong => wrong.elim) fun _ _ _ => trivial

theorem Fails.later (fails : ∀ a, Fails (f a)) (x : Exec α) : Fails (x >>= f) := by
  intro host e
  rw [wpBind]
  unfold wp
  split
  · exact fails _ host _
  · trivial

theorem primaryRefused {vendor : String} (long : 8 < (trim vendor).utf8ByteSize) (d : PrimaryDevice) (product revision : String) (force : Bool) :
    ∃ error, d.setProductData vendor product revision force = .error error := by
  unfold PrimaryDevice.setProductData
  generalize trim vendor = name at long ⊢
  dsimp only
  rw [if_pos long]
  exact ⟨_,rfl⟩

/- A vendor name has eight characters at most. -/
theorem vendorRefused (long : 8 < (trim definition.vendor).utf8ByteSize) (d : AnyDevice) : Fails (setProductData d definition) := by
  have refused : ∃ error, d.setProductData definition.vendor definition.product definition.revision = .error error := by
    by_cases generic : ∃ g, d = .scsiGeneric g
    · obtain ⟨g,rfl⟩ := generic
      have given : definition.vendor.isEmpty = false := by
        rw [← Bool.not_eq_true,String.isEmpty_iff]
        intro none
        rw [none] at long
        exact absurd long (by decide)
      refine ⟨"The product data of SCSG can't be changed",?_⟩
      simp [AnyDevice.setProductData,given]
    · have same : d.setProductData definition.vendor definition.product definition.revision =
          (d.primary.setProductData definition.vendor definition.product definition.revision true).map d.setPrimary := by
        cases d with
        | scsiGeneric g => exact absurd ⟨g,rfl⟩ generic
        | _ => rfl
      obtain ⟨error,refused⟩ := primaryRefused long d.primary definition.product definition.revision true
      rw [same,refused]
      exact ⟨error,rfl⟩
  obtain ⟨error,refused⟩ := refused
  intro host e
  rw [setProductData,refused]
  trivial

theorem attachRefused (long : 8 < (trim definition.vendor).utf8ByteSize) (dryRun : Bool) : Fails (attach definition dryRun) := by
  have configures : ∀ d, Fails (configure d definition) := by
    intro d host e
    unfold configure
    rw [wpBind]
    refine Fails.later (fun d => Fails.first (vendorRefused long d) _) _ host e
  have prepares : Fails (prepareDevice definition) := Fails.later (fun d => Fails.first (configures d) _) _
  exact Fails.later (fun _ => Fails.first prepares _) _

theorem definitionRefused (long : 8 < (trim definition.vendor).utf8ByteSize) (dryRun : Bool) :
    Fails (processDeviceCmd .attach definition dryRun) := by
  refine Fails.later (fun _ => Fails.later (fun e => ?_) _) _
  dsimp only
  split
  · exact Fails.later (fun _ => attachRefused long dryRun) _
  · exact attachRefused long dryRun

/- One of the definitions is enough. -/
theorem devicesRefused {definitions : List PbDeviceDefinition} (listed : definition ∈ definitions)
    (long : 8 < (trim definition.vendor).utf8ByteSize) (dryRun : Bool) : Fails (processDevices .attach dryRun definitions) := by
  induction definitions with
  | nil => exact absurd listed List.not_mem_nil
  | cons first definitions ih =>
    rcases List.mem_cons.mp listed with rfl | later
    · exact Fails.first (definitionRefused long dryRun) _
    · exact Fails.later (fun _ => ih later) _

theorem commandRefused {definitions : List PbDeviceDefinition} (listed : definition ∈ definitions)
    (long : 8 < (trim definition.vendor).utf8ByteSize) (host : Host) (e : CommandExecutor) :
    S2p.attachInitialDevices { operation := .attach, devices := definitions } host e = .error "Can't attach devices" := by
  have fails : Fails (processCmd { operation := .attach, devices := definitions }) := Fails.first (devicesRefused listed long true) _
  have some_ : definitions.isEmpty = false := by
    rw [← Bool.not_eq_true,List.isEmpty_iff]
    exact List.ne_nil_of_mem listed
  have ends := fails host e
  unfold wp at ends
  unfold S2p.attachInitialDevices
  rw [some_,if_neg Bool.false_ne_true]
  split at ends
  · exact ends.elim
  · next ran => rw [ran]

open S2p PropertyHandler

/- A hard disk drive again, whose product data have come with the image. -/
def hardDisk : CommandExecutor :=
  ({ world := imageWorld (List.replicate 512 0), properties := addEntries {} knownProperties } : CommandExecutor).run attachOnly

theorem hardDiskData : hardDisk.getAllDevices.map (fun device => (device.2.primary.type,device.2.primary.productData,
    device.2.storage.map fun s => (s.filename,s.configuredBlockSize))) = [(.schd,⟨"SCSI2Pi","SCSI HD 0 KiB","0501"⟩,some ("image",0))] := by
  decide +kernel

theorem hardDiskLegible : ∀ device ∈ hardDisk.getAllDevices, Legible { defaultFolder := "/home/pi/images" } device.2 := by
  intro device listed
  obtain ⟨only,all,data⟩ := List.map_eq_singleton_iff.mp hardDiskData
  rw [all] at listed
  obtain rfl := List.mem_singleton.mp listed
  simp only [Prod.mk.injEq] at data
  obtain ⟨type,product,storage⟩ := data
  obtain ⟨s,here,same⟩ := Option.map_eq_some_iff.mp storage
  simp only [Prod.mk.injEq] at same
  have named : s.filename.isEmpty = false := by rw [same.1]; rfl
  refine ⟨by rw [type]; simp,by rw [product]; decide,by rw [product]; decide,by rw [product]; decide,?_,?_,?_,?_⟩
  · intro t there
    cases here.symm.trans there
    rw [same.2]
    decide
  · intro t there _
    cases here.symm.trans there
    rw [same.1]
    decide
  · intro t there none
    cases here.symm.trans there
    exact Bool.noConfusion (named.symm.trans none)
  · intro none
    cases here.symm.trans none

theorem hardDiskStorable : ∀ entry ∈ hardDisk.properties.propertyCache, startsWith entry.1 "device." = false → Storable entry := by
  have cache : (hardDisk.properties.propertyCache.filter fun entry => !startsWith entry.1 "device.") = [("reserved_ids","7")] := by decide +kernel
  intro entry listed other
  have kept : entry ∈ hardDisk.properties.propertyCache.filter fun entry => !startsWith entry.1 "device." :=
    List.mem_filter.mpr ⟨listed,by simp [other]⟩
  rw [cache] at kept
  obtain rfl := List.mem_singleton.mp kept
  exact ⟨by decide,by decide,by decide,by decide,by decide⟩

theorem hardDiskRestart : ∃ p, init hardDisk.properties.persist = .ok p ∧ p.propertyCache = hardDisk.properties.propertyCache ∧
    ∃ devices : List (Int × AnyDevice), devices.Perm hardDisk.getAllDevices ∧ devices.Pairwise before ∧
      createDevices p = .ok { operation := .attach, devices := devices.map (restored { defaultFolder := "/home/pi/images" }) } := by
  have legible := hardDiskLegible
  have storable := hardDiskStorable
  unfold hardDisk at legible storable ⊢
  exact restartDefines "/home/pi/images" _ knownProperties attachOnly (by decide) (attachOnlyCareful _) legible storable

end CommandExecutor
end Scsi2Pi
