import Scsi2Pi.Attachment
import Mathlib.Data.String.Basic

/-! The device properties that are kept for the property file, and the devices that
are attached: under which conditions the former mirror the latter. -/
namespace Scsi2Pi

namespace PropertyMap

/- The map is in strictly ascending order of its keys. -/
def Sorted (m : PropertyMap) : Prop := m.Pairwise fun a b => a.1 < b.1

theorem setKey {key value : String} {m : PropertyMap} {entry : String × String} (mem : entry ∈ set key value m) :
    entry.1 = key ∨ entry ∈ m := by
  induction m with
  | nil => exact .inl (by rw [List.mem_singleton.mp mem])
  | cons head rest ih =>
    obtain ⟨k,v⟩ := head
    simp only [set] at mem
    split at mem
    · rcases List.mem_cons.mp mem with rfl | old
      · exact .inl rfl
      · exact .inr old
    · split at mem
      · rcases List.mem_cons.mp mem with rfl | old
        · exact .inl rfl
        · exact .inr (List.mem_cons_of_mem _ old)
      · rcases List.mem_cons.mp mem with rfl | later
        · exact .inr List.mem_cons_self
        · rcases ih later with new | old
          · exact .inl new
          · exact .inr (List.mem_cons_of_mem _ old)

theorem setSorted {m : PropertyMap} (sorted : Sorted m) (key value : String) : Sorted (set key value m) := by
  induction m with
  | nil => exact List.pairwise_singleton _ _
  | cons head rest ih =>
    obtain ⟨k,v⟩ := head
    obtain ⟨least,later⟩ := List.pairwise_cons.mp sorted
    simp only [set]
    split
    · next before =>
      refine List.pairwise_cons.mpr ⟨fun entry mem => ?_,sorted⟩
      rcases List.mem_cons.mp mem with rfl | old
      · exact before
      · exact lt_trans before (least entry old)
    · next notBefore =>
      split
      · next same =>
        subst same
        exact List.pairwise_cons.mpr ⟨least,later⟩
      · next other =>
        refine List.pairwise_cons.mpr ⟨fun entry mem => ?_,ih later⟩
        rcases setKey mem with new | old
        · rw [new]
          exact lt_of_le_of_ne (not_lt.mp notBefore) (Ne.symm other)
        · exact least entry old

theorem memSet {m : PropertyMap} (sorted : Sorted m) (key value : String) {k v : String} :
    (k,v) ∈ set key value m ↔ k = key ∧ v = value ∨ k ≠ key ∧ (k,v) ∈ m := by
  induction m with
  | nil => simp [set]
  | cons head rest ih =>
    obtain ⟨a,b⟩ := head
    obtain ⟨least,later⟩ := List.pairwise_cons.mp sorted
    simp only [set]
    split
    · next before =>
      have absent : (k,v) ∈ (a,b)::rest → k ≠ key := by
        rintro mem rfl
        rcases List.mem_cons.mp mem with same | old
        · cases same
          exact lt_irrefl _ before
        · exact lt_asymm before (least _ old)
      rw [List.mem_cons,Prod.mk.injEq]
      constructor
      · rintro (new | old)
        · exact .inl new
        · exact .inr ⟨absent old,old⟩
      · rintro (new | ⟨_,old⟩)
        · exact .inl new
        · exact .inr old
    · split
      · next same =>
        subst same
        have absent : (k,v) ∈ rest → k ≠ key := by
          rintro mem rfl
          exact lt_irrefl k (least (k,v) mem)
        simp only [List.mem_cons,Prod.mk.injEq]
        constructor
        · rintro (new | old)
          · exact .inl new
          · exact .inr ⟨absent old,.inr old⟩
        · rintro (new | ⟨other,same | old⟩)
          · exact .inl new
          · exact absurd same.1 other
          · exact .inr old
      · next other =>
        simp only [List.mem_cons,Prod.mk.injEq,ih later]
        constructor
        · rintro (⟨rfl,rfl⟩ | new | ⟨different,old⟩)
          · exact .inr ⟨Ne.symm other,.inl ⟨rfl,rfl⟩⟩
          · exact .inl new
          · exact .inr ⟨different,.inr old⟩
        · rintro (new | ⟨different,same | old⟩)
          · exact .inr (.inl new)
          · exact .inl same
          · exact .inr (.inr ⟨different,old⟩)

end PropertyMap

namespace CommandExecutor
open PropertyMap

theorem addEntriesSorted {p : PropertyHandler} (sorted : Sorted p.propertyCache) (entries : List (String × String)) :
    Sorted (addEntries p entries).propertyCache := by
  induction entries generalizing p with
  | nil => exact sorted
  | cons entry rest ih => exact ih (setSorted sorted entry.1 entry.2)

theorem memAddEntries {p : PropertyHandler} (sorted : Sorted p.propertyCache) {entries : List (String × String)}
    (distinct : (entries.map (·.1)).Nodup) {key value : String} :
    (key,value) ∈ (addEntries p entries).propertyCache ↔
      (key,value) ∈ entries ∨ key ∉ entries.map (·.1) ∧ (key,value) ∈ p.propertyCache := by
  induction entries generalizing p with
  | nil => simp [addEntries]
  | cons entry rest ih =>
    obtain ⟨k,v⟩ := entry
    obtain ⟨fresh,later⟩ := List.nodup_cons.mp distinct
    have added : (key,value) ∈ (addEntries (p.addProperty k v) rest).propertyCache ↔ _ :=
      ih (p := p.addProperty k v) (setSorted sorted k v) later
    have first : (key,value) ∈ (p.addProperty k v).propertyCache ↔ _ := memSet sorted k v
    change (key,value) ∈ (addEntries (p.addProperty k v) rest).propertyCache ↔ _
    rw [added,first]
    simp only [List.map_cons,List.mem_cons,Prod.mk.injEq,not_or]
    constructor
    · rintro (old | ⟨notLater,⟨rfl,rfl⟩ | ⟨other,old⟩⟩)
      · exact .inl (.inr old)
      · exact .inl (.inl ⟨rfl,rfl⟩)
      · exact .inr ⟨⟨other,notLater⟩,old⟩
    · rintro ((⟨rfl,rfl⟩ | old) | ⟨⟨other,notLater⟩,old⟩)
      · exact .inr ⟨fresh,.inl ⟨rfl,rfl⟩⟩
      · exact .inl old
      · exact .inr ⟨notLater,.inr ⟨other,old⟩⟩

/-! The keys of device properties. -/

def identifier (id : Int) (lun : Nat) : String := s!"device.{id}:{lun}."

/- The properties of a device without the part of the key that tells which device it is. -/
def entriesOf (host : Host) (d : AnyDevice) : List (String × String) :=
  let p := d.primary.productData
  let blockSize := match d.storage with
    | some s => if s.configuredBlockSize = 0 then [] else [("block_size",toString s.configuredBlockSize)]
    | none => []
  [("type",getTypeString d),("name",p.product ++ ":" ++ p.vendor ++ ":" ++ p.revision)] ++ blockSize ++
    ((paramsProperty host d).map fun params => ("params",params)).toList

theorem devicePropertiesEq (host : Host) (id : Int) (d : AnyDevice) : deviceProperties host id d =
    (entriesOf host d).map fun entry => (identifier id d.primary.lun ++ entry.1,entry.2) := by
  unfold deviceProperties entriesOf identifier
  cases paramsProperty host d with
  | none =>
    cases d.storage with
    | none => rfl
    | some s => by_cases zero : s.configuredBlockSize = 0 <;> simp [zero]
  | some params =>
    cases d.storage with
    | none => rfl
    | some s => by_cases zero : s.configuredBlockSize = 0 <;> simp [zero]

theorem entriesDistinct (host : Host) (d : AnyDevice) : ((entriesOf host d).map (·.1)).Nodup := by
  unfold entriesOf
  cases paramsProperty host d with
  | none =>
    cases d.storage with
    | none => simp
    | some s => by_cases zero : s.configuredBlockSize = 0 <;> simp [zero]
  | some params =>
    cases d.storage with
    | none => simp
    | some s => by_cases zero : s.configuredBlockSize = 0 <;> simp [zero]

theorem appendSplit {c : Char} {a a' b b' : List Char} (first : c ∉ a) (second : c ∉ a')
    (same : a ++ c::b = a' ++ c::b') : a = a' ∧ b = b' := by
  induction a generalizing a' with
  | nil =>
    cases a' with
    | nil => exact ⟨rfl,(List.cons.inj same).2⟩
    | cons x rest =>
      have head : c = x := (List.cons.inj same).1
      exact absurd (head ▸ List.mem_cons_self) second
  | cons x rest ih =>
    cases a' with
    | nil =>
      have head : x = c := (List.cons.inj same).1
      exact absurd (head ▸ List.mem_cons_self) first
    | cons y rest' =>
      obtain ⟨head,tail⟩ := List.cons.inj same
      obtain ⟨equal,later⟩ := ih (fun mem => first (List.mem_cons_of_mem _ mem))
        (fun mem => second (List.mem_cons_of_mem _ mem)) tail
      exact ⟨by rw [head,equal],later⟩

theorem idDigits : ∀ id : Fin 8, ':' ∉ (toString (id.val : Int)).toList := by decide

theorem lunDigits : ∀ lun : Fin 32, '.' ∉ (toString lun.val).toList := by decide

theorem idInjective : ∀ id id' : Fin 8, (toString (id.val : Int)).toList = (toString (id'.val : Int)).toList → id = id' := by
  decide

theorem lunInjective : ∀ lun lun' : Fin 32, (toString lun.val).toList = (toString lun'.val).toList → lun = lun' := by
  decide

theorem identifierList (id : Int) (lun : Nat) (name : String) : (identifier id lun ++ name).toList =
    "device.".toList ++ ((toString id).toList ++ ':'::((toString lun).toList ++ '.'::name.toList)) := by
  simp only [identifier,String.toList_append,List.append_assoc]
  rfl

/- A key tells the device and the name of the property. -/
theorem keyInjective {id id' : Int} {lun lun' : Nat} {name name' : String} (range : 0 ≤ id ∧ id < 8)
    (range' : 0 ≤ id' ∧ id' < 8) (limit : lun < 32) (limit' : lun' < 32)
    (same : identifier id lun ++ name = identifier id' lun' ++ name') : id = id' ∧ lun = lun' ∧ name = name' := by
  obtain ⟨i,rfl⟩ := Int.eq_ofNat_of_zero_le range.1
  obtain ⟨i',rfl⟩ := Int.eq_ofNat_of_zero_le range'.1
  have i8 : i < 8 := by omega
  have i8' : i' < 8 := by omega
  have lists := congrArg String.toList same
  rw [identifierList,identifierList] at lists
  obtain ⟨ids,rest⟩ := appendSplit (idDigits ⟨i,i8⟩) (idDigits ⟨i',i8'⟩) (List.append_cancel_left lists)
  obtain ⟨luns,names⟩ := appendSplit (lunDigits ⟨lun,limit⟩) (lunDigits ⟨lun',limit'⟩) rest
  have id := congrArg Fin.val (idInjective ⟨i,i8⟩ ⟨i',i8'⟩ ids)
  have lun := congrArg Fin.val (lunInjective ⟨lun,limit⟩ ⟨lun',limit'⟩ luns)
  exact ⟨congrArg _ id,lun,String.toList_inj.mp names⟩

theorem devicePropertiesDistinct (host : Host) (id : Int) (d : AnyDevice) :
    ((deviceProperties host id d).map (·.1)).Nodup := by
  rw [devicePropertiesEq,List.map_map]
  have keys := (entriesDistinct host d).map (f := fun name => identifier id d.primary.lun ++ name) fun name name' same => by
    have lists := congrArg String.toList same
    rw [String.toList_append,String.toList_append] at lists
    exact String.toList_inj.mp (List.append_cancel_left lists)
  rw [List.map_map] at keys
  exact keys

/- Only the default folder of the computer matters. -/
theorem devicePropertiesFolder (host host' : Host) (same : host.defaultFolder = host'.defaultFolder) (id : Int)
    (d : AnyDevice) : deviceProperties host id d = deviceProperties host' id d := by
  have params : paramsProperty host d = paramsProperty host' d := by
    simp only [paramsProperty,relativeFilename,same]
  simp only [deviceProperties,params]

def SameProperties (d d' : AnyDevice) : Prop := ∀ host id, deviceProperties host id d' = deviceProperties host id d

theorem sameProperties {d d' : AnyDevice}
    (primary : (d'.primary.type,d'.primary.lun,d'.primary.productData,d'.primary.params) =
      (d.primary.type,d.primary.lun,d.primary.productData,d.primary.params))
    (storage : d'.storage.map (fun s => (s.filename,s.configuredBlockSize,s.params)) =
      d.storage.map fun s => (s.filename,s.configuredBlockSize,s.params)) : SameProperties d d' := by
  intro host id
  simp only [Prod.mk.injEq] at primary
  obtain ⟨type,lun,productData,params⟩ := primary
  simp only [deviceProperties,getTypeString,paramsProperty,type,lun,productData,params]
  cases before : d.storage with
  | none =>
    rw [before] at storage
    rw [Option.map_eq_none_iff.mp storage]
  | some s =>
    rw [before] at storage
    obtain ⟨s',after,same⟩ := Option.map_eq_some_iff.mp storage
    simp only [Prod.mk.injEq] at same
    simp only [after,same.1,same.2.1,same.2.2]

/-! The conditions. -/

/- What Persist writes about devices is what the attached devices are. -/
def Mirrors (host : Host) (e : CommandExecutor) : Prop :=
  ∀ key value, startsWith key "device." = true → ((key,value) ∈ e.properties.getProperties "" ↔
    ∃ device ∈ e.getAllDevices, (key,value) ∈ deviceProperties host device.1 device.2)

/- The steps that leave no outdated property: nothing is detached or ejected, and an INSERT
is either rejected without a new block size or successful. -/
def CarefulProperties (folder : String) (host : Host) (task : Task) (e : CommandExecutor) : Prop :=
  host.defaultFolder = folder ∧ match task with
  | .device .detach definition => ∀ d luns, e.getDeviceForIdAndLun definition.id definition.unit = some d →
      e.controllers.lookup definition.id = some luns → d.primary.lun = 0 ∧ 1 < luns.entries.length
  | .device .eject definition => ∀ d, e.getDeviceForIdAndLun definition.id definition.unit = some d →
      d.primary.canEject true = false
  | .device .insert definition => ∀ d s s', e.getDeviceForIdAndLun definition.id definition.unit = some d →
      d.storage = some s → s.removed = true → insertName definition s ≠ "" → Accepts definition.blockSize d →
      (configuredFor definition.blockSize d).storage = some s' →
      (s'.configuredBlockSize = 0 → s.configuredBlockSize = 0) ∧
      (¬Unreserved host e.world (insertName definition s) → s'.configuredBlockSize = s.configuredBlockSize) ∧
      (Unreserved host e.world (insertName definition s) → insertOpens host definition e.world d s = true)
  | .detachAll => e.controllers.entries = []
  | _ => True

def CarefulCommands (folder : String) (e : CommandExecutor) : List (Host × PbCommand) → Prop
  | [] => True
  | (host,command)::rest => CommandMeets (CarefulProperties folder) host command e ∧
      CarefulCommands folder (e.process host command) rest

/-! The invariant. -/

structure Mirrored (host : Host) (e : CommandExecutor) : Prop where
  attached : Attached e
  sorted : Sorted e.properties.propertyCache
  mirrors : ∀ {key value}, startsWith key "device." = true → ((key,value) ∈ e.properties.propertyCache ↔
    ∃ id lun d, e.getDeviceForIdAndLun id lun = some d ∧ (key,value) ∈ deviceProperties host id d)

variable {e e' : CommandExecutor} {host : Host}

theorem Mirrored.persisted (h : Mirrored host e) : Mirrors host e := by
  intro key value device
  have all : e.properties.getProperties "" = e.properties.propertyCache := rfl
  rw [all,h.mirrors device]
  constructor
  · rintro ⟨id,lun,d,here,mem⟩
    exact ⟨(id,d),memAllDevices.mpr ⟨lun,here⟩,mem⟩
  · rintro ⟨⟨id,d⟩,listed,mem⟩
    obtain ⟨lun,here⟩ := memAllDevices.mp listed
    exact ⟨id,lun,d,here,mem⟩

/- Neither a property nor what it is about has changed. -/
theorem mirroredKept (h : Mirrored host e) (attached : Attached e')
    (same : ∀ id lun, (e'.getDeviceForIdAndLun id lun).map (deviceProperties host id) =
      (e.getDeviceForIdAndLun id lun).map (deviceProperties host id))
    (properties : e'.properties.propertyCache = e.properties.propertyCache) : Mirrored host e' := by
  refine ⟨attached,by rw [properties]; exact h.sorted,fun {key value} device => ?_⟩
  rw [properties,h.mirrors device]
  constructor
  · rintro ⟨id,lun,d,here,mem⟩
    have equal := same id lun
    rw [here] at equal
    obtain ⟨d',here',entries⟩ := Option.map_eq_some_iff.mp equal
    exact ⟨id,lun,d',here',entries ▸ mem⟩
  · rintro ⟨id,lun,d,here,mem⟩
    have equal := same id lun
    rw [here] at equal
    obtain ⟨d',here',entries⟩ := Option.map_eq_some_iff.mp equal.symm
    exact ⟨id,lun,d',here',entries ▸ mem⟩

/- A key of a device, in its two parts. -/
theorem propertyKey {id : Int} {d : AnyDevice} {key : String} (mem : key ∈ (deviceProperties host id d).map (·.1)) :
    ∃ name ∈ (entriesOf host d).map (·.1), key = identifier id d.primary.lun ++ name := by
  rw [devicePropertiesEq,List.map_map] at mem
  obtain ⟨entry,listed,rfl⟩ := List.mem_map.mp mem
  exact ⟨entry.1,List.mem_map.mpr ⟨entry,listed,rfl⟩,rfl⟩

theorem keyPresent (id : Int) {d : AnyDevice} {name : String} (mem : name ∈ (entriesOf host d).map (·.1)) :
    identifier id d.primary.lun ++ name ∈ (deviceProperties host id d).map (·.1) := by
  rw [devicePropertiesEq,List.map_map]
  obtain ⟨entry,listed,rfl⟩ := List.mem_map.mp mem
  exact List.mem_map.mpr ⟨entry,listed,rfl⟩

theorem lunLimit32 (h : Attached e) {id lun : Int} {d : AnyDevice} (here : e.getDeviceForIdAndLun id lun = some d) :
    d.primary.lun < 32 := by
  have limit := h.limit here
  have unit := h.registered here
  unfold lunLimit at limit
  split at limit <;> omega

/- Devices of different units have no key in common. -/
theorem keysApart (h : Attached e) {id lun id' lun' : Int} {d d' : AnyDevice}
    (here : e.getDeviceForIdAndLun id lun = some d) (here' : e.getDeviceForIdAndLun id' lun' = some d') {key : String}
    (mem : key ∈ (deviceProperties host id d).map (·.1)) (mem' : key ∈ (deviceProperties host id' d').map (·.1)) :
    id = id' ∧ lun = lun' := by
  obtain ⟨name,_,rfl⟩ := propertyKey mem
  obtain ⟨name',_,same⟩ := propertyKey mem'
  obtain ⟨ids,luns,_⟩ := keyInjective (h.range (deviceController here)) (h.range (deviceController here'))
    (lunLimit32 h here) (lunLimit32 h here') same
  have unit := h.registered here
  have unit' := h.registered here'
  exact ⟨ids,by omega⟩

/- The properties of one device are written again. -/
theorem mirroredWritten (id lun : Int) (d' : AnyDevice) (h : Mirrored host e) (attached : Attached e')
    (get : ∀ i l, e'.getDeviceForIdAndLun i l = if i = id ∧ l = lun then some d' else e.getDeviceForIdAndLun i l)
    (replaced : ∀ d, e.getDeviceForIdAndLun id lun = some d → d.primary.lun = d'.primary.lun ∧
      ∀ name ∈ (entriesOf host d).map (·.1), name ∈ (entriesOf host d').map (·.1))
    (properties : e'.properties.propertyCache = (addEntries e.properties (deviceProperties host id d')).propertyCache) :
    Mirrored host e' := by
  have here : e'.getDeviceForIdAndLun id lun = some d' := by rw [get,if_pos ⟨rfl,rfl⟩]
  refine ⟨attached,by rw [properties]; exact addEntriesSorted h.sorted _,fun {key value} device => ?_⟩
  rw [properties,memAddEntries h.sorted (devicePropertiesDistinct host id d'),h.mirrors device]
  constructor
  · rintro (new | ⟨other,i,l,d,old,mem⟩)
    · exact ⟨id,lun,d',here,new⟩
    · refine ⟨i,l,d,?_,mem⟩
      rw [get]
      split
      · next at' =>
        -- The keys of the old device are all overwritten.
        obtain ⟨rfl,rfl⟩ := at'
        obtain ⟨unit,covered⟩ := replaced d old
        obtain ⟨name,listed,rfl⟩ := propertyKey (List.mem_map.mpr ⟨_,mem,rfl⟩)
        have present := keyPresent i (covered name listed)
        rw [← unit] at present
        exact absurd present other
      · exact old
  · rintro ⟨i,l,d,now,mem⟩
    have written := now
    rw [get] at written
    split at written
    · next at' =>
      obtain ⟨rfl,rfl⟩ := at'
      cases written
      exact .inl mem
    · next elsewhere =>
      refine .inr ⟨fun common => ?_,i,l,d,written,mem⟩
      exact elsewhere (keysApart attached now here (List.mem_map.mpr ⟨_,mem,rfl⟩) common)

/-! The steps. -/

theorem memNames {d : AnyDevice} {s : StorageDevice} (storage : d.storage = some s) (name : String) :
    name ∈ (entriesOf host d).map (·.1) ↔ name = "type" ∨ name = "name" ∨
      name = "block_size" ∧ s.configuredBlockSize ≠ 0 ∨ name = "params" ∧ (paramsProperty host d).isSome = true := by
  unfold entriesOf
  rw [storage]
  by_cases zero : s.configuredBlockSize = 0
  · cases paramsProperty host d <;> simp [zero]
  · cases paramsProperty host d <;> simp [zero]

/- A device with a medium has both of the optional properties that an INSERT replaces. -/
theorem insertedNames {d d' : AnyDevice} {s s' : StorageDevice} (storage : d.storage = some s)
    (storage' : d'.storage = some s') (named : s'.filename ≠ "")
    (size : s'.configuredBlockSize = 0 → s.configuredBlockSize = 0) {name : String}
    (listed : name ∈ (entriesOf host d).map (·.1)) : name ∈ (entriesOf host d').map (·.1) := by
  have params : (paramsProperty host d').isSome = true := by
    simp [paramsProperty,storage',named]
  rw [memNames storage] at listed
  rw [memNames storage']
  rcases listed with type | name | ⟨block,nonzero⟩ | ⟨params',_⟩
  · exact .inl type
  · exact .inr (.inl name)
  · exact .inr (.inr (.inl ⟨block,fun zero => nonzero (size zero)⟩))
  · exact .inr (.inr (.inr ⟨params',params⟩))

theorem setProtectedProperties (d : PrimaryDevice) (isProtected : Bool) :
    ((d.setProtected isProtected).type,(d.setProtected isProtected).lun,(d.setProtected isProtected).productData,
      (d.setProtected isProtected).params) = (d.type,d.lun,d.productData,d.params) := by
  unfold PrimaryDevice.setProtected
  split <;> rfl

theorem flagChangeProperties {operation : PbOperation} {f : PrimaryDevice → PrimaryDevice}
    (known : flagChange operation = some f) (d : PrimaryDevice) :
    ((f d).type,(f d).lun,(f d).productData,(f d).params) = (d.type,d.lun,d.productData,d.params) := by
  unfold flagChange at known
  split at known
  · cases known
    unfold start PrimaryDevice.start
    split <;> rfl
  · cases known
    rfl
  · cases known
    exact setProtectedProperties d true
  · cases known
    exact setProtectedProperties d false
  · cases known

theorem flagsSameProperties {operation : PbOperation} {f : PrimaryDevice → PrimaryDevice}
    (known : flagChange operation = some f) (d : AnyDevice) : SameProperties d (d.setPrimary (f d.primary)) := by
  have properties := flagChangeProperties known d.primary
  refine sameProperties (by rw [AnyDevice.setPrimaryPrimary]; exact properties) ?_
  rw [AnyDevice.setPrimaryStorage,Option.map_map]
  cases storage : d.storage with
  | none => rfl
  | some s =>
    simp only [Prod.mk.injEq] at properties
    simp only [Option.map_some,Function.comp_apply,properties.2.2.2]
    rw [AnyDevice.primaryStorage storage]

theorem configuredSameProperties {d : AnyDevice} {s s' : StorageDevice} {blockSize : Int} (storage : d.storage = some s)
    (storage' : (configuredFor blockSize d).storage = some s') (size : s'.configuredBlockSize = s.configuredBlockSize) :
    SameProperties d (configuredFor blockSize d) := by
  obtain ⟨size',sized⟩ := Configured.storage (configuredForSource blockSize d) storage
  cases sized.symm.trans storage'
  refine sameProperties ?_ ?_
  · rw [AnyDevice.primaryStorage storage,AnyDevice.primaryStorage sized]
  · rw [storage,sized]
    exact congrArg (fun n => some (s.filename,n,s.params)) size

theorem mirroredPut {id lun : Int} {d d' : AnyDevice} (h : Mirrored host e)
    (here : e.getDeviceForIdAndLun id lun = some d) (attached : Attached (putDevice id lun d' e))
    (same : SameProperties d d') : Mirrored host (putDevice id lun d' e) := by
  refine mirroredKept h attached (fun i l => ?_) (by rw [putDeviceEq])
  rw [putDeviceGet here]
  split
  · next at' =>
    rw [at'.1,at'.2,here]
    exact congrArg some (same host id)
  · rfl

theorem mirroredQuiet (h : Mirrored host e) (quiet : Quiet e e') : Mirrored host e' := by
  obtain ⟨files,rfl⟩ := quiet
  exact ⟨attachedStep h.attached (.same rfl rfl),h.sorted,h.mirrors⟩

theorem mirroredOutcome {folder : String} {operation : PbOperation} {definition : PbDeviceDefinition}
    {result : Except CommandError Unit} (careful : CarefulProperties folder host (.device operation definition) e)
    (outcome : Outcome host operation definition e result e') (h : Mirrored { defaultFolder := folder } e) :
    Mirrored { defaultFolder := folder } e' := by
  have attached := attachedStep h.attached (outcomeReattaches outcome)
  obtain ⟨same,careful⟩ := careful
  cases outcome with
  | failed x _ quiet => exact mirroredQuiet h quiet
  | attached d _ attach valid attaches =>
    subst attach
    have adds := attachesAdds valid attaches
    refine mirroredWritten _ _ d h attached (addsGet adds) (fun d0 old => ?_) ?_
    · rw [adds.free] at old
      cases old
    · rw [attaches.properties,devicePropertiesFolder host { defaultFolder := folder } same]
  | detached d _ detach here detaches =>
    subst detach
    obtain ⟨luns,found,allowed,_⟩ := detaches.controllers
    exact absurd (careful d luns here found) allowed
  | inserted d d' s _ insert here storage _ removed inserts =>
    subst insert
    obtain ⟨s1,s2,p,opens,_,storage2,changed⟩ := inserts.storage
    obtain ⟨files,s3,_,put⟩ := inserts.executor
    obtain ⟨size,sized,opening⟩ := opens.opening
    have kept := (careful d s _ here storage removed opens.tried.given opens.tried.accepted sized).1
    have lun : d.primary.lun = d'.primary.lun := by
      rw [AnyDevice.primaryStorage storage,AnyDevice.primaryStorage storage2,changed]
      exact (opens.unit.1.symm.trans (s1.setProtectedUnit p).1.symm)
    refine mirroredWritten definition.id definition.unit d' h attached (fun i l => ?_)
      (fun d0 old => ?_) ?_
    · rw [← putDeviceGet here,putDeviceEq]
      unfold getDeviceForIdAndLun
      rw [put]
    · cases here.symm.trans old
      refine ⟨lun,fun name => insertedNames storage storage2 ?_ ?_⟩
      · rw [changed]
        exact opens.named
      · rw [changed]
        intro zero
        exact kept (opening.configuredBlockSize.symm.trans zero)
    · rw [put,devicePropertiesFolder host { defaultFolder := folder } same]
  | notInserted x d d' s e1 insert here storage _ removed quiet fails =>
    subst insert
    obtain ⟨size,sized⟩ := Configured.storage (configuredForSource definition.blockSize d) storage
    cases fails with
    | reserved given accepted taken configured =>
      subst configured
      have size := (careful d s _ here storage removed given accepted sized).2.1 taken
      have later := mirroredQuiet h quiet
      obtain ⟨files,rfl⟩ := quiet
      exact mirroredPut later here attached (configuredSameProperties storage sized size)
    | notOpened s' refused _ opens =>
      have able := (careful d s _ here storage removed opens.tried.given opens.tried.accepted sized).2.2 opens.tried.unreserved
      exact Bool.noConfusion (refused.symm.trans able)
  | ejected d _ eject here ejects =>
    subst eject
    cases ejects with
    | refused _ put =>
      subst put
      exact mirroredPut h here attached fun _ _ => rfl
    | ejected _ _ _ able => exact Bool.noConfusion ((careful d here).symm.trans able)
  | changed d f known here _ => exact mirroredPut h here attached (flagsSameProperties known d)

theorem mirroredChange {folder : String} {task : Task} (careful : CarefulProperties folder host task e)
    (change : Change host e task e') (h : Mirrored { defaultFolder := folder } e) :
    Mirrored { defaultFolder := folder } e' := by
  cases change with
  | quiet _ _ quiet => exact mirroredQuiet h quiet
  | device operation definition result _ outcome => exact mirroredOutcome careful outcome h
  | detachedAll _ detaches =>
    have attached := attachedStep h.attached (.cleared detaches.controllers detaches.reservedIds)
    refine mirroredKept h attached (fun id lun => ?_) detaches.properties
    have empty : e.controllers = ∅ := AList.ext careful.2
    simp only [getDeviceForIdAndLun,detaches.controllers,empty]
  | reservedIds ids _ reserves =>
    have attached := attachedStep h.attached (.reserved reserves.controllers reserves.reservedIds)
    refine ⟨attached,?_,fun {key value} device => ?_⟩
    · rw [reserves.properties]
      exact setSorted h.sorted _ _
    · have other : key ≠ "reserved_ids" := by
        rintro rfl
        exact absurd device (by decide)
      have cache : (key,value) ∈ e'.properties.propertyCache ↔ (key,value) ∈ e.properties.propertyCache := by
        rw [reserves.properties]
        refine (memSet h.sorted _ _).trans ?_
        simp [other]
      have get : ∀ id lun, e'.getDeviceForIdAndLun id lun = e.getDeviceForIdAndLun id lun := by
        intro id lun
        simp only [getDeviceForIdAndLun,reserves.controllers]
      rw [cache,h.mirrors device]
      simp only [get]

/-! Runs. -/

theorem mirroredRun {folder : String} {commands : List (Host × PbCommand)} (careful : CarefulCommands folder e commands)
    (h : Mirrored { defaultFolder := folder } e) : Mirrored { defaultFolder := folder } (e.run commands) := by
  induction commands generalizing e with
  | nil => exact h
  | cons command rest ih =>
    obtain ⟨host,command⟩ := command
    exact ih careful.2 (processKeeps (fun _ _ quiet h => mirroredQuiet h quiet) (fun _ _ _ => mirroredChange) command
      careful.1 h)

/- Other properties may be known from the start. -/
theorem mirroredStart (folder : String) (world : World) {entries : List (String × String)}
    (other : ∀ entry ∈ entries, startsWith entry.1 "device." = false) :
    Mirrored { defaultFolder := folder } { world, properties := addEntries {} entries } := by
  have none : ∀ (p : PropertyHandler), Sorted p.propertyCache →
      (∀ key value, startsWith key "device." = true → (key,value) ∉ p.propertyCache) → ∀ key value,
      startsWith key "device." = true → (key,value) ∉ (addEntries p entries).propertyCache := by
    induction entries with
    | nil => exact fun _ _ absent => absent
    | cons entry rest ih =>
      intro p sorted absent
      refine ih (fun x mem => other x (List.mem_cons_of_mem _ mem)) _ (setSorted sorted entry.1 entry.2) ?_
      intro key value device mem
      rcases (memSet sorted entry.1 entry.2).mp mem with ⟨rfl,_⟩ | ⟨_,old⟩
      · exact Bool.noConfusion ((other entry List.mem_cons_self).symm.trans device)
      · exact absent key value device old
  refine ⟨attachedEmpty _ _,addEntriesSorted (p := {}) List.Pairwise.nil entries,fun {key value} device => ?_⟩
  constructor
  · intro mem
    exact absurd mem (none {} List.Pairwise.nil (fun _ _ _ mem => by cases mem) key value device)
  · rintro ⟨id,lun,d,here,_⟩
    cases here

def knownProperties : List (String × String) := [("reserved_ids","7")]

def attachOnly : List (Host × PbCommand) := [({},attachImage .schd)]

theorem attachOnlyCareful (e : CommandExecutor) : CarefulCommands "/home/pi/images" e attachOnly := by
  refine ⟨commandMeetsAlways (fun task mem e => ?_) e,trivial⟩
  obtain rfl := List.mem_singleton.mp mem
  exact ⟨rfl,trivial⟩

/- The drive is detached again. -/
def attachDetach : CommandExecutor :=
  ({ world := imageWorld (List.replicate 512 0) } : CommandExecutor).run
    [({},attachImage .schd),({},{ operation := .detach, devices := [{}] })]

theorem attachDetachEmpty : attachDetach.getAllDevices = [] := by
  have empty : attachDetach.controllers.entries.isEmpty = true := by decide +kernel
  rw [getAllDevices,List.isEmpty_iff.mp empty]
  rfl

end CommandExecutor
end Scsi2Pi
