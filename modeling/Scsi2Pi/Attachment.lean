import Scsi2Pi.ExecutorRun

/-! The attached devices: after every sequence of remote commands they are
registered under their own IDs and LUNs, and within the limits. -/
namespace Scsi2Pi

namespace PrimaryDevice

theorem setProtectedUnit (d : PrimaryDevice) (isProtected : Bool) :
    (d.setProtected isProtected).lun = d.lun ∧ (d.setProtected isProtected).type = d.type ∧
      (d.setProtected isProtected).removed = d.removed := by
  unfold setProtected
  split
  · exact ⟨rfl,rfl,rfl⟩
  · exact ⟨rfl,rfl,rfl⟩

end PrimaryDevice

namespace CommandExecutor

variable {e e' : CommandExecutor} {id lun : Int} {d : AnyDevice} {host : Host}

/-! Lookups. -/

theorem hasControllerIff : e.hasController id = true ↔ ∃ luns : Luns, e.controllers.lookup id = some luns :=
  Option.isSome_iff_exists

theorem getDeviceEq {luns : Luns} (found : e.controllers.lookup id = some luns) (lun : Int) :
    e.getDeviceForIdAndLun id lun = luns.lookup lun := by
  rw [getDeviceForIdAndLun,found]
  rfl

theorem deviceController (here : e.getDeviceForIdAndLun id lun = some d) : e.hasController id = true := by
  cases found : e.controllers.lookup id with
  | none =>
    rw [getDeviceForIdAndLun,found] at here
    cases here
  | some luns => exact hasControllerIff.mpr ⟨luns,found⟩

theorem memAllDevices : (id,d) ∈ e.getAllDevices ↔ ∃ lun, e.getDeviceForIdAndLun id lun = some d := by
  simp only [getAllDevices,List.mem_flatMap,List.mem_map,Prod.mk.injEq]
  constructor
  · rintro ⟨⟨i,luns⟩,mem,⟨lun,d'⟩,mem',rfl,rfl⟩
    have found := AList.mem_lookup_iff.mpr mem
    exact ⟨lun,(getDeviceEq found lun).trans (AList.mem_lookup_iff.mpr mem')⟩
  · rintro ⟨lun,here⟩
    obtain ⟨luns,found⟩ := hasControllerIff.mp (deviceController here)
    rw [getDeviceEq found] at here
    exact ⟨⟨id,luns⟩,AList.mem_lookup_iff.mp found,⟨lun,d⟩,AList.mem_lookup_iff.mp here,rfl,rfl⟩

/-! What one step can do. -/

structure Adds (e : CommandExecutor) (id : Int) (d : AnyDevice) (controllers : AList fun _ : Int => Luns) : Prop where
  range : 0 ≤ id ∧ id < 8
  free : e.getDeviceForIdAndLun id d.primary.lun = none
  first : e.hasController id = true ∨ d.primary.lun = 0
  limit : (d.primary.lun : Int) < lunLimit d.primary.type
  unreserved : id ∉ e.reservedIds
  unique : d.primary.type ∈ uniqueDeviceTypes → d.primary.type ∉ e.types
  inserted : ∃ luns : Luns, (∀ lun, luns.lookup lun = e.getDeviceForIdAndLun id lun) ∧
    controllers = e.controllers.insert id (luns.insert (d.primary.lun : Int) d)

inductive Reattaches (e e' : CommandExecutor) : Prop where
  | same : e'.controllers = e.controllers → e'.reservedIds = e.reservedIds → Reattaches e e'
  | added (id : Int) (d : AnyDevice) : Adds e id d e'.controllers → e'.reservedIds = e.reservedIds → Reattaches e e'
  | changed (id lun : Int) (d d' : AnyDevice) : e.getDeviceForIdAndLun id lun = some d →
      d'.primary.lun = d.primary.lun → d'.primary.type = d.primary.type →
      e'.controllers = putLuns id lun d' e.controllers → e'.reservedIds = e.reservedIds → Reattaches e e'
  | removed (id lun : Int) (d : AnyDevice) (luns : Luns) : e.getDeviceForIdAndLun id lun = some d →
      e.controllers.lookup id = some luns → ¬(d.primary.lun = 0 ∧ 1 < luns.entries.length) →
      e'.controllers = withoutLun id (d.primary.lun : Int) luns e.controllers →
      e'.reservedIds = e.reservedIds → Reattaches e e'
  | cleared : e'.controllers = ∅ → e'.reservedIds = e.reservedIds → Reattaches e e'
  | reserved : e'.controllers = e.controllers → (∀ id ∈ e'.reservedIds, e.hasController id = false) → Reattaches e e'

theorem attachesAdds {definition : PbDeviceDefinition} (valid : ValidUnit .attach definition e)
    (attaches : Attaches host definition e d e') : Adds e definition.id d e'.controllers := by
  obtain ⟨luns,source,absent,controllers⟩ := attaches.controllers
  have unit : (d.primary.lun : Int) = definition.unit := by
    rw [attaches.prepared.lun]
    exact Int.toNat_of_nonneg valid.unit.1
  have same : ∀ lun, luns.lookup lun = e.getDeviceForIdAndLun definition.id lun := by
    intro lun
    rcases source with found | ⟨missing,_,rfl⟩
    · exact (getDeviceEq found lun).symm
    · rw [getDeviceForIdAndLun,missing]
      rfl
  refine ⟨valid.id,?_,?_,attaches.limit,attaches.unreserved,attaches.prepared.unique,luns,same,controllers⟩
  · rw [unit]
    exact Option.isNone_iff_eq_none.mp attaches.fresh
  · rcases source with found | ⟨_,zero,_⟩
    · exact .inl (hasControllerIff.mpr ⟨luns,found⟩)
    · exact .inr zero

theorem flagChangeUnit {operation : PbOperation} {f : PrimaryDevice → PrimaryDevice}
    (known : flagChange operation = some f) (d : PrimaryDevice) :
    (f d).lun = d.lun ∧ (f d).type = d.type ∧ (f d).removed = d.removed := by
  unfold flagChange at known
  split at known
  · cases known
    unfold start PrimaryDevice.start
    split
    · exact ⟨rfl,rfl,rfl⟩
    · exact ⟨rfl,rfl,rfl⟩
  · cases known
    exact ⟨rfl,rfl,rfl⟩
  · cases known
    exact d.setProtectedUnit true
  · cases known
    exact d.setProtectedUnit false
  · cases known

theorem OpensFile.unit {definition : PbDeviceDefinition} {w : World} {s s' : StorageDevice}
    (h : OpensFile host definition w d s s') : s'.lun = s.lun ∧ s'.type = s.type := by
  obtain ⟨_,_,opening⟩ := h.opening
  exact ⟨opening.lun,opening.type⟩

theorem insertFailsUnit {definition : PbDeviceDefinition} {w : World} {s : StorageDevice} {d' : AnyDevice}
    (storage : d.storage = some s) (fails : InsertFails host definition w d s d') :
    d'.primary.lun = d.primary.lun ∧ d'.primary.type = d.primary.type := by
  cases fails with
  | reserved _ _ _ configured =>
    obtain ⟨_,storage'⟩ := Configured.storage (configuredForSource definition.blockSize d) storage
    rw [← configured] at storage'
    rw [AnyDevice.primaryStorage storage,AnyDevice.primaryStorage storage']
    exact ⟨rfl,rfl⟩
  | notOpened s' _ storage' opens =>
    rw [AnyDevice.primaryStorage storage,AnyDevice.primaryStorage storage']
    exact opens.unit

theorem outcomeReattaches {operation : PbOperation} {definition : PbDeviceDefinition} {result : Except CommandError Unit}
    (outcome : Outcome host operation definition e result e') : Reattaches e e' := by
  cases outcome with
  | failed x _ quiet =>
    obtain ⟨files,rfl⟩ := quiet
    exact .same rfl rfl
  | attached d _ attach valid attaches =>
    subst attach
    exact .added _ d (attachesAdds valid attaches) attaches.reservedIds
  | detached d _ _ here detaches =>
    obtain ⟨luns,found,allowed,controllers⟩ := detaches.controllers
    exact .removed _ _ d luns here found allowed controllers detaches.reservedIds
  | inserted d d' s _ _ here storage _ _ inserts =>
    obtain ⟨s1,s',p,opens,_,storage',changed⟩ := inserts.storage
    obtain ⟨_,_,_,rfl⟩ := inserts.executor
    have unit := s1.setProtectedUnit p
    refine .changed _ _ d d' here ?_ ?_ rfl rfl
    · rw [AnyDevice.primaryStorage storage',AnyDevice.primaryStorage storage,changed]
      exact unit.1.trans opens.unit.1
    · rw [AnyDevice.primaryStorage storage',AnyDevice.primaryStorage storage,changed]
      exact unit.2.1.trans opens.unit.2
  | notInserted x d d' s e1 _ here storage _ _ quiet fails =>
    obtain ⟨files,rfl⟩ := quiet
    obtain ⟨lun,type⟩ := insertFailsUnit storage fails
    refine .changed _ _ d d' here lun type ?_ ?_ <;> rw [putDeviceEq]
  | ejected d _ _ here ejects =>
    cases ejects with
    | refused _ put => refine .changed _ _ d d here rfl rfl ?_ ?_ <;> rw [put,putDeviceEq]
    | ejected d' _ _ _ _ primary _ put =>
      refine .changed _ _ d d' here ?_ ?_ (by rw [put]) (by rw [put])
      · rw [primary]
        rfl
      · rw [primary]
        rfl
  | changed d f known here _ =>
    obtain ⟨lun,type,_⟩ := flagChangeUnit known d.primary
    refine .changed _ _ d (d.setPrimary (f d.primary)) here ?_ ?_ ?_ ?_
    · rw [AnyDevice.setPrimaryPrimary,lun]
    · rw [AnyDevice.setPrimaryPrimary,type]
    · rw [putDeviceEq]
    · rw [putDeviceEq]

theorem changeReattaches {task : Task} (change : Change host e task e') : Reattaches e e' := by
  cases change with
  | quiet _ _ quiet =>
    obtain ⟨files,rfl⟩ := quiet
    exact .same rfl rfl
  | device _ _ _ _ outcome => exact outcomeReattaches outcome
  | detachedAll _ detaches => exact .cleared detaches.controllers detaches.reservedIds
  | reservedIds _ _ reserves => exact .reserved reserves.controllers reserves.reservedIds

/-! The invariant. -/

structure Attached (e : CommandExecutor) : Prop where
  lun0 : ∀ {id}, e.hasController id = true → ∃ d, e.getDeviceForIdAndLun id 0 = some d
  range : ∀ {id}, e.hasController id = true → 0 ≤ id ∧ id < 8
  registered : ∀ {id lun d}, e.getDeviceForIdAndLun id lun = some d → (d.primary.lun : Int) = lun
  limit : ∀ {id lun d}, e.getDeviceForIdAndLun id lun = some d → lun < lunLimit d.primary.type
  unreserved : ∀ {id}, id ∈ e.reservedIds → e.hasController id = false
  unique : ∀ {id lun d id' lun' d'}, e.getDeviceForIdAndLun id lun = some d → e.getDeviceForIdAndLun id' lun' = some d' →
    d.primary.type ∈ uniqueDeviceTypes → d'.primary.type = d.primary.type → id = id' ∧ lun = lun'

theorem attachedEmpty (world : World) (properties : PropertyHandler) : Attached { world, properties } where
  lun0 here := by cases here
  range here := by cases here
  registered here := by cases here
  limit here := by cases here
  unreserved mem := by cases mem
  unique here := by cases here

theorem addsGet (adds : Adds e id d e'.controllers) (i l : Int) : e'.getDeviceForIdAndLun i l =
    if i = id ∧ l = (d.primary.lun : Int) then some d else e.getDeviceForIdAndLun i l := by
  obtain ⟨luns,same,controllers⟩ := adds.inserted
  unfold getDeviceForIdAndLun
  rw [controllers]
  by_cases here : i = id
  · subst here
    by_cases unit : l = (d.primary.lun : Int)
    · subst unit
      simp
    · have other := same l
      unfold getDeviceForIdAndLun at other
      simp [unit,other]
  · simp [here]

theorem addsController (adds : Adds e id d e'.controllers) {i : Int} :
    e'.hasController i = true ↔ i = id ∨ e.hasController i = true := by
  obtain ⟨luns,_,controllers⟩ := adds.inserted
  unfold hasController
  rw [controllers]
  by_cases here : i = id
  · subst here
    simp
  · simp [here]

theorem typesMem (here : e.getDeviceForIdAndLun id lun = some d) : d.primary.type ∈ e.types :=
  List.mem_map.mpr ⟨(id,d),memAllDevices.mpr ⟨lun,here⟩,rfl⟩

theorem attachedAdded (h : Attached e) (adds : Adds e id d e'.controllers) (reserved : e'.reservedIds = e.reservedIds) :
    Attached e' := by
  have get := addsGet adds
  have old : ∀ {i l d1}, e'.getDeviceForIdAndLun i l = some d1 → (i = id ∧ l = (d.primary.lun : Int) ∧ d1 = d) ∨
      e.getDeviceForIdAndLun i l = some d1 := by
    intro i l d1 here
    rw [get] at here
    split at here
    · next unit => exact .inl ⟨unit.1,unit.2,(Option.some.inj here).symm⟩
    · exact .inr here
  constructor
  case lun0 =>
    intro i present
    rw [get]
    split
    · exact ⟨d,rfl⟩
    · next other =>
      rcases (addsController adds).mp present with rfl | before
      · rcases adds.first with before | zero
        · exact h.lun0 before
        · exact absurd ⟨rfl,by rw [zero]; rfl⟩ other
      · exact h.lun0 before
  case range =>
    intro i present
    rcases (addsController adds).mp present with rfl | before
    · exact adds.range
    · exact h.range before
  case registered =>
    intro i l d1 here
    rcases old here with ⟨_,rfl,rfl⟩ | here
    · rfl
    · exact h.registered here
  case limit =>
    intro i l d1 here
    rcases old here with ⟨_,rfl,rfl⟩ | here
    · exact adds.limit
    · exact h.limit here
  case unreserved =>
    intro i mem
    rw [reserved] at mem
    rw [Bool.eq_false_iff]
    intro present
    rcases (addsController adds).mp present with rfl | before
    · exact adds.unreserved mem
    · exact Bool.noConfusion ((h.unreserved mem).symm.trans before)
  case unique =>
    intro i l d1 i' l' d2 here here' special same
    rcases old here with ⟨rfl,rfl,rfl⟩ | here
    · rcases old here' with ⟨rfl,rfl,rfl⟩ | here'
      · exact ⟨rfl,rfl⟩
      · exact absurd (same ▸ typesMem here') (adds.unique special)
    · rcases old here' with ⟨rfl,rfl,rfl⟩ | here'
      · rw [← same] at special
        exact absurd (same ▸ typesMem here) (adds.unique special)
      · exact h.unique here here' special same

/- The devices are where they were, whatever has become of them. -/
structure SameUnits (e e' : CommandExecutor) : Prop where
  units : ∀ id lun, (e'.getDeviceForIdAndLun id lun).map (fun d => (d.primary.lun,d.primary.type)) =
    (e.getDeviceForIdAndLun id lun).map fun d => (d.primary.lun,d.primary.type)
  controllers : ∀ id, e'.hasController id = e.hasController id
  reservedIds : e'.reservedIds = e.reservedIds

theorem SameUnits.before (same : SameUnits e e') {d' : AnyDevice} (now : e'.getDeviceForIdAndLun id lun = some d') :
    ∃ d, e.getDeviceForIdAndLun id lun = some d ∧ d'.primary.lun = d.primary.lun ∧ d'.primary.type = d.primary.type := by
  have units := same.units id lun
  rw [now] at units
  obtain ⟨d,here,unit⟩ := Option.map_eq_some_iff.mp units.symm
  exact ⟨d,here,(Prod.mk.inj unit).1.symm,(Prod.mk.inj unit).2.symm⟩

theorem attachedSameUnits (h : Attached e) (same : SameUnits e e') : Attached e' := by
  constructor
  case lun0 =>
    intro i now
    rw [same.controllers] at now
    obtain ⟨d,here⟩ := h.lun0 now
    have units := same.units i 0
    rw [here] at units
    obtain ⟨d',now',_⟩ := Option.map_eq_some_iff.mp units
    exact ⟨d',now'⟩
  case range =>
    intro i now
    rw [same.controllers] at now
    exact h.range now
  case registered =>
    intro i l d1 now
    obtain ⟨d0,before,unit,_⟩ := same.before now
    rw [unit]
    exact h.registered before
  case limit =>
    intro i l d1 now
    obtain ⟨d0,before,_,type⟩ := same.before now
    rw [type]
    exact h.limit before
  case unreserved =>
    intro i mem
    rw [same.reservedIds] at mem
    rw [same.controllers]
    exact h.unreserved mem
  case unique =>
    intro i l d1 i' l' d2 now now' special equal
    obtain ⟨d0,before,_,type⟩ := same.before now
    obtain ⟨d0',before',_,type'⟩ := same.before now'
    exact h.unique before before' (type ▸ special) (type'.symm.trans (equal.trans type))

theorem putSameUnits {d' : AnyDevice} (here : e.getDeviceForIdAndLun id lun = some d)
    (unit : d'.primary.lun = d.primary.lun) (type : d'.primary.type = d.primary.type)
    (controllers : e'.controllers = putLuns id lun d' e.controllers) (reserved : e'.reservedIds = e.reservedIds) :
    SameUnits e e' := by
  refine ⟨fun i l => ?_,fun i => ?_,reserved⟩
  · have get : e'.getDeviceForIdAndLun i l = if i = id ∧ l = lun then some d' else e.getDeviceForIdAndLun i l := by
      rw [← putDeviceGet here,putDeviceEq]
      unfold getDeviceForIdAndLun
      rw [controllers]
    rw [get]
    split
    · next at' =>
      rw [at'.1,at'.2,here]
      simp [unit,type]
    · rfl
  · unfold hasController
    rw [controllers,putLuns]
    split
    · next luns found =>
      by_cases at' : i = id
      · subst at'
        simp [found]
      · simp [at']
    · rfl

theorem withoutLunGet {luns : Luns} (found : e.controllers.lookup id = some luns)
    (controllers : e'.controllers = withoutLun id lun luns e.controllers) (i l : Int) :
    e'.getDeviceForIdAndLun i l = if i = id ∧ l = lun then none else e.getDeviceForIdAndLun i l := by
  unfold getDeviceForIdAndLun
  rw [controllers,withoutLun]
  by_cases here : i = id
  · subst here
    rw [found]
    split
    · next empty =>
      have gone : (luns.erase lun).lookup l = none := by
        cases last : (luns.erase lun).lookup l with
        | none => rfl
        | some d =>
          have mem := AList.mem_lookup_iff.mp last
          rw [List.isEmpty_iff.mp empty] at mem
          cases mem
      rw [AList.lookup_erase]
      by_cases unit : l = lun
      · simp [unit]
      · rw [AList.lookup_erase_ne unit] at gone
        simp [unit,gone]
    · rw [AList.lookup_insert]
      by_cases unit : l = lun
      · subst unit
        simp
      · simp [unit]
  · split <;> simp [here]

theorem withoutLunController {luns : Luns} (found : e.controllers.lookup id = some luns)
    (controllers : e'.controllers = withoutLun id lun luns e.controllers) {i : Int} (now : e'.hasController i = true) :
    e.hasController i = true ∧ (i = id → (luns.erase lun).entries ≠ []) := by
  unfold hasController at now ⊢
  rw [controllers,withoutLun] at now
  by_cases here : i = id
  · subst here
    refine ⟨by rw [found]; rfl,fun _ empty => ?_⟩
    rw [if_pos (List.isEmpty_iff.mpr empty),AList.lookup_erase] at now
    cases now
  · refine ⟨?_,fun same => absurd same here⟩
    split at now
    · rwa [AList.lookup_erase_ne here] at now
    · rwa [AList.lookup_insert_ne here] at now

/- The only device of a controller. -/
theorem eraseLast {luns : Luns} {d : AnyDevice} (here : luns.lookup lun = some d) (few : ¬1 < luns.entries.length) :
    (luns.erase lun).entries = [] := by
  have mem := AList.mem_lookup_iff.mp here
  cases entries : luns.entries with
  | nil =>
    rw [entries] at mem
    cases mem
  | cons entry rest =>
    have last : rest = [] := by
      rw [entries] at few
      simpa using few
    subst last
    rw [entries] at mem
    obtain rfl := List.mem_singleton.mp mem
    change List.kerase lun luns.entries = []
    rw [entries]
    simp

theorem attachedRemoved (h : Attached e) {luns : Luns} (here : e.getDeviceForIdAndLun id lun = some d)
    (found : e.controllers.lookup id = some luns) (allowed : ¬(d.primary.lun = 0 ∧ 1 < luns.entries.length))
    (controllers : e'.controllers = withoutLun id (d.primary.lun : Int) luns e.controllers)
    (reserved : e'.reservedIds = e.reservedIds) : Attached e' := by
  have unit := h.registered here
  have get := withoutLunGet found controllers
  have old : ∀ {i l d1}, e'.getDeviceForIdAndLun i l = some d1 → e.getDeviceForIdAndLun i l = some d1 := by
    intro i l d1 now
    rw [get] at now
    split at now
    · cases now
    · exact now
  have present : ∀ {i}, e'.hasController i = true → e.hasController i = true :=
    fun now => (withoutLunController found controllers now).1
  constructor
  case lun0 =>
    intro i now
    obtain ⟨before,more⟩ := withoutLunController found controllers now
    rw [get]
    split
    · next at' =>
      -- LUN 0 is removed last, and the controller with it.
      obtain ⟨same,zero⟩ := at'
      have first : d.primary.lun = 0 := by omega
      rw [getDeviceEq found,← unit] at here
      exact absurd (eraseLast here fun many => allowed ⟨first,many⟩) (more same)
    · exact h.lun0 before
  case range => exact fun now => h.range (present now)
  case registered => exact fun now => h.registered (old now)
  case limit => exact fun now => h.limit (old now)
  case unreserved =>
    intro i mem
    rw [reserved] at mem
    rw [Bool.eq_false_iff]
    exact fun now => Bool.noConfusion ((h.unreserved mem).symm.trans (present now))
  case unique => exact fun now now' => h.unique (old now) (old now')

theorem attachedStep (h : Attached e) (step : Reattaches e e') : Attached e' := by
  cases step with
  | same controllers reserved =>
    obtain ⟨c,r,w,p⟩ := e
    obtain ⟨c',r',w',p'⟩ := e'
    cases controllers
    cases reserved
    exact ⟨h.lun0,h.range,h.registered,h.limit,h.unreserved,h.unique⟩
  | added id d adds reserved => exact attachedAdded h adds reserved
  | changed id lun d d' here unit type controllers reserved =>
    exact attachedSameUnits h (putSameUnits here unit type controllers reserved)
  | removed id lun d luns here found allowed controllers reserved =>
    exact attachedRemoved h here found allowed controllers reserved
  | cleared controllers reserved =>
    have none : ∀ i l, e'.getDeviceForIdAndLun i l = none := by
      intro i l
      rw [getDeviceForIdAndLun,controllers]
      rfl
    have absent : ∀ i, e'.hasController i = false := by
      intro i
      rw [hasController,controllers]
      rfl
    constructor
    case lun0 | range => exact fun now => Bool.noConfusion ((absent _).symm.trans now)
    case registered | limit | unique => exact fun now => absurd ((none _ _).symm.trans now) (by simp)
    case unreserved => exact fun _ => absent _
  | reserved controllers free =>
    obtain ⟨c,r,w,p⟩ := e
    obtain ⟨c',r',w',p'⟩ := e'
    cases controllers
    exact ⟨h.lun0,h.range,h.registered,h.limit,fun mem => free _ mem,h.unique⟩

/-! The devices as a list. -/

/- The units of all devices, as the devices themselves report their LUNs. -/
def units (e : CommandExecutor) : List (Int × Int) := e.getAllDevices.map fun device => (device.1,(device.2.primary.lun : Int))

theorem unitsNodup (h : Attached e) : e.units.Nodup := by
  have keys : e.units = e.controllers.entries.flatMap fun c => c.2.entries.map fun d => (c.1,d.1) := by
    simp only [units,getAllDevices,List.map_flatMap,List.map_map]
    refine List.flatMap_congr fun c mem => List.map_congr_left fun d mem' => ?_
    have here : e.getDeviceForIdAndLun c.1 d.1 = some d.2 :=
      (getDeviceEq (AList.mem_lookup_iff.mpr mem) d.1).trans (AList.mem_lookup_iff.mpr mem')
    exact Prod.ext rfl (h.registered here)
  rw [keys,List.nodup_flatMap]
  constructor
  · intro c _
    refine List.Nodup.map_on ?_ c.2.nodupKeys.nodup
    intro d mem d' mem' same
    exact c.2.nodupKeys.eq_of_fst_eq mem mem' (Prod.mk.inj same).2
  · refine (List.nodupKeys_iff_pairwise.mp e.controllers.nodupKeys).imp fun {c c'} differ => ?_
    intro unit mem mem'
    obtain ⟨_,_,rfl⟩ := List.mem_map.mp mem
    obtain ⟨_,_,same⟩ := List.mem_map.mp mem'
    exact differ (Prod.mk.inj same).1.symm

/- A list without duplicates whose elements are all the same. -/
theorem atMostOne {α : Type} {l : List α} (nodup : l.Nodup) (same : ∀ a ∈ l, ∀ b ∈ l, a = b) : l.length ≤ 1 := by
  cases l with
  | nil => exact Nat.zero_le 1
  | cons a rest =>
    cases rest with
    | nil => exact Nat.le_refl 1
    | cons b rest =>
      have equal := same a List.mem_cons_self b (List.mem_cons_of_mem a List.mem_cons_self)
      exact absurd (equal ▸ List.mem_cons_self) (List.nodup_cons.mp nodup).1

theorem uniqueCount (h : Attached e) {type : PbDeviceType} (special : type ∈ uniqueDeviceTypes) :
    e.types.count type ≤ 1 := by
  have count : e.types.count type = ((e.getAllDevices.filter fun device => device.2.primary.type = type).map
      fun device => (device.1,(device.2.primary.lun : Int))).length := by
    rw [types,List.count,List.countP_map,List.countP_eq_length_filter,List.length_map]
    rfl
  rw [count]
  refine atMostOne ((unitsNodup h).sublist (List.filter_sublist.map _)) ?_
  have unit : ∀ u ∈ ((e.getAllDevices.filter fun device => device.2.primary.type = type).map
      fun device => (device.1,(device.2.primary.lun : Int))), ∃ d, e.getDeviceForIdAndLun u.1 u.2 = some d ∧
      d.primary.type = type := by
    intro u mem
    obtain ⟨⟨i,d⟩,listed,rfl⟩ := List.mem_map.mp mem
    obtain ⟨attached,typed⟩ := List.mem_filter.mp listed
    obtain ⟨l,here⟩ := memAllDevices.mp attached
    refine ⟨d,?_,by simpa using typed⟩
    rw [h.registered here]
    exact here
  intro a mem b mem'
  obtain ⟨d,here,typed⟩ := unit a mem
  obtain ⟨d',here',typed'⟩ := unit b mem'
  obtain ⟨id,lun⟩ := h.unique here here' (typed ▸ special) (typed'.trans typed.symm)
  exact Prod.ext id lun

/- The devices after any sequence of commands that starts without devices. -/
theorem runAttached (world : World) (properties : PropertyHandler) (commands : List (Host × PbCommand)) :
    let e := ({ world, properties } : CommandExecutor).run commands
    Attached e ∧ e.units.Nodup ∧ ∀ type ∈ uniqueDeviceTypes, e.types.count type ≤ 1 := by
  have attached : Attached (({ world, properties } : CommandExecutor).run commands) :=
    runKeeps (fun _ _ _ _ change h => attachedStep h (changeReattaches change)) commands (attachedEmpty world properties)
  exact ⟨attached,unitsNodup attached,fun _ special => uniqueCount attached special⟩

end CommandExecutor
end Scsi2Pi
