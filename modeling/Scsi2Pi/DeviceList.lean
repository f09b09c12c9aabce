import Mathlib.Data.List.Permutation
import Mathlib.Data.Prod.Lex
import Scsi2Pi.S2pInterface
import Scsi2Pi.Sorting

/-! The list of devices. The comparison it is sorted by looks at the ID or at the LUN, whichever is
less, so that each of two devices can be before the other one. -/
namespace Scsi2Pi

structure PbDevice where
  id : Int := 0
  unit : Int := 0
  type : PbDeviceType := .undefined
  fileName : String := ""
  removed : Bool := false
  isProtected : Bool := false
  readOnly : Bool := false
  deriving DecidableEq, Repr

namespace DeviceList

def before (a b : PbDevice) : Bool := a.id < b.id || a.unit < b.unit

/- A field of a given width, aligned to the left. -/
def leftAligned (width : Nat) (text : String) : String := text ++ String.ofList (List.replicate (width - text.length) ' ')

def row (d : PbDevice) : String :=
  "|  " ++ toString d.id ++ ":" ++ leftAligned 2 (toString d.unit) ++ "  | " ++ d.type.name ++ " | " ++ d.fileName ++
    (if !d.removed && (d.readOnly || d.isProtected) then " (READ-ONLY)" else "") ++ "\n"

def separator : String := "+--------+------+-------------------------------------------\n"

def heading : String := separator ++ "| ID:LUN | Type | Image File/Device File/Description\n" ++ separator

def table (devices : List PbDevice) : String := devices.foldl (fun s d => s ++ row d) heading ++ separator

def listDevices (sorter : Sorter PbDevice) (devices : List PbDevice) : String :=
  if devices.isEmpty then "No devices currently attached\n" else table (sorter.sort before devices)

/- IDs first, LUNs next. -/
def address (d : PbDevice) : Int ×ₗ Int := toLex (d.id,d.unit)

/- Each device once, by ascending addresses. -/
def Listed (devices : List PbDevice) (text : String) : Prop :=
  devices ≠ [] → ∃ sorted : List PbDevice, sorted.Perm devices ∧ sorted.Pairwise (fun a b => address a < address b) ∧ text = table sorted

/- No device with a larger ID than that of another one has a smaller LUN. -/
def LunsFollow (devices : List PbDevice) : Prop := ∀ a ∈ devices, ∀ b ∈ devices, a.id < b.id → a.unit ≤ b.unit

variable {devices : List PbDevice} {a b : PbDevice}

theorem beforeIff : before a b = true ↔ a.id < b.id ∨ a.unit < b.unit := by
  unfold before
  rw [Bool.or_eq_true,decide_eq_true_eq,decide_eq_true_eq]

theorem addressLess : address a < address b ↔ a.id < b.id ∨ a.id = b.id ∧ a.unit < b.unit := Prod.Lex.toLex_lt_toLex

theorem addressEq : address a = address b ↔ a.id = b.id ∧ a.unit = b.unit := by
  unfold address
  rw [toLex_inj,Prod.mk.injEq]

/- A device that is not before another one is not less in the ID or in the LUN. -/
theorem notBefore : ¬before a b = true ↔ b.id ≤ a.id ∧ b.unit ≤ a.unit := by
  rw [beforeIff,not_or,not_lt,not_lt]

theorem weakFollows (weak : WeakOn before devices) : LunsFollow devices := by
  intro a ma b mb less
  by_contra above
  have first : before a b = true := beforeIff.mpr (.inl less)
  have second : before b a = true := beforeIff.mpr (.inr (not_le.mp above))
  rw [weak.asymm ma mb first] at second
  cases second

/- Where the LUNs follow the IDs the comparison is that of the two keys, one after the other. -/
theorem followsWeak (follow : LunsFollow devices) : WeakOn before devices where
  irrefl a less := by
    rcases beforeIff.mp less with less | less <;> exact lt_irrefl _ less
  trans a b c first second := by
    have bounds := follow a a.property c c.property
    have left := follow a a.property b b.property
    have right := follow b b.property c c.property
    have back := follow c c.property b b.property
    have down := follow b b.property a a.property
    refine beforeIff.mpr ?_
    rcases beforeIff.mp first with first | first <;> rcases beforeIff.mp second with second | second <;> omega
  incomp_trans a b c first second := by
    have ab := notBefore.mp first.1
    have ba := notBefore.mp first.2
    have bc := notBefore.mp second.1
    have cb := notBefore.mp second.2
    exact ⟨notBefore.mpr ⟨bc.1.trans ab.1,bc.2.trans ab.2⟩,notBefore.mpr ⟨ba.1.trans cb.1,ba.2.trans cb.2⟩⟩

/- A device that is not behind another one has the smaller address. -/
theorem behindAddress (differ : address a ≠ address b) (ordered : before b a = false) : address a < address b := by
  have bounds := notBefore.mp (Bool.eq_false_iff.mp ordered)
  rw [Ne,addressEq] at differ
  rw [addressLess]
  omega

theorem addressesDiffer (distinct : (devices.map address).Nodup) : devices.Nodup := distinct.of_map _

theorem followsListed (distinct : (devices.map address).Nodup) (follow : LunsFollow devices) (sorter : Sorter PbDevice) :
    Listed devices (listDevices sorter devices) := by
  intro attached
  have weak := followsWeak follow
  refine ⟨sorter.sort before devices,sorter.perm before devices weak,?_,if_neg fun empty => attached (List.isEmpty_iff.mp empty)⟩
  refine sorter.pairwise weak (addressesDiffer distinct) fun a ma b mb differ ordered => ?_
  exact behindAddress (fun same => differ (List.inj_on_of_nodup_map distinct ma mb same)) ordered

theorem rowsLonger (rows : List PbDevice) (text : String) :
    text.length + rows.length ≤ (rows.foldl (fun s d => s ++ row d) text).length := by
  induction rows generalizing text with
  | nil => exact Nat.le_refl _
  | cons d rest ih =>
    have later := ih (text ++ row d)
    have newline : 1 ≤ (row d).length := by
      unfold row
      rw [String.length_append]
      exact Nat.le_add_left 1 _
    rw [String.length_append] at later
    rw [List.length_cons,List.foldl_cons]
    omega

/- A table without rows lists no device. -/
theorem tableEmpty {rows : List PbDevice} (same : table [] = table rows) : rows = [] := by
  have lengths := congrArg String.length same
  have longer := rowsLonger rows heading
  unfold table at lengths
  rw [String.length_append,String.length_append,List.foldl_nil] at lengths
  exact List.length_eq_zero_iff.mp (by omega)

theorem listedFollows (listed : ∀ sorter : Sorter PbDevice, Listed devices (listDevices sorter devices)) : LunsFollow devices := by
  by_cases weak : WeakOn before devices
  · exact weakFollows weak
  · have attached : devices ≠ [] := by
      rintro rfl
      exact weak (followsWeak fun a ma => (List.not_mem_nil ma).elim)
    obtain ⟨sorted,perm,_,text⟩ := listed .careless attached
    unfold listDevices at text
    rw [if_neg fun empty => attached (List.isEmpty_iff.mp empty),Sorter.carelessFails weak] at text
    rw [tableEmpty text] at perm
    exact absurd perm.symm.eq_nil attached

end DeviceList
open DeviceList

/- What holds of the comparison and of the list, for every sort that does what a sort has to do. -/
theorem devicesListed {devices : List PbDevice} (distinct : (devices.map address).Nodup) :
    (WeakOn before devices ↔ LunsFollow devices) ∧
      ((∀ sorter : Sorter PbDevice, Listed devices (listDevices sorter devices)) ↔ LunsFollow devices) :=
  ⟨⟨weakFollows,followsWeak⟩,⟨listedFollows,followsListed distinct⟩⟩

namespace DeviceList

def firstDisk : PbDevice := { id := 0, unit := 1, type := .schd, fileName := "a.hds" }
def secondDisk : PbDevice := { id := 1, unit := 0, type := .schd, fileName := "b.hds" }

/- In ascending order already, but the second disk is listed first. -/
theorem disksSwapped : ([firstDisk,secondDisk].map address).Nodup ∧ ¬WeakOn before [firstDisk,secondDisk] ∧
    ¬Listed [firstDisk,secondDisk] (listDevices .insertion [firstDisk,secondDisk]) := by
  refine ⟨by decide,fun weak => ?_,fun listed => ?_⟩
  · have both := weak.asymm (a := firstDisk) (b := secondDisk) (by decide) (by decide) (by decide)
    exact absurd both (by decide)
  · obtain ⟨sorted,perm,ascending,text⟩ := listed (List.cons_ne_nil _ _)
    have order : sorted ∈ [[firstDisk,secondDisk],[secondDisk,firstDisk]] := by
      have listed := List.mem_permutations.mpr perm
      simpa [List.permutations] using listed
    rcases List.mem_cons.mp order with rfl | order
    · revert text
      decide +kernel
    · cases List.mem_singleton.mp order
      have less := addressLess.mp (List.rel_of_pairwise_cons ascending (List.mem_singleton.mpr rfl))
      revert less
      decide

/- The LUN grows with the ID. -/
theorem disksListed : LunsFollow [{ id := 0 },{ id := 2, unit := 1 }] ∧
    ∀ sorter : Sorter PbDevice, Listed [{ id := 0 },{ id := 2, unit := 1 }] (listDevices sorter [{ id := 0 },{ id := 2, unit := 1 }]) := by
  have follow : LunsFollow [{ id := 0 },{ id := 2, unit := 1 }] := by
    unfold LunsFollow
    decide
  exact ⟨follow,(devicesListed (by decide)).2.mpr follow⟩

end DeviceList
end Scsi2Pi
