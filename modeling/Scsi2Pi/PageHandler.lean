import Scsi2Pi.PrimaryDevice

/-! Mode pages: collecting them, and the MODE SENSE and MODE SELECT commands of
the devices that have pages. -/
namespace Scsi2Pi
open Slices MemoryUtil

/- Page data by page code, in ascending order. -/
abbrev Pages := List (Nat × Bytes)

namespace Pages

def set (code : Nat) (data : Bytes) : Pages → Pages
  | [] => [(code,data)]
  | (c,d)::rest =>
    if code < c then (code,data)::(c,d)::rest
    else if code = c then (code,data)::rest
    else (c,d)::set code data rest

def erase (code : Nat) (pages : Pages) : Pages := pages.filter (·.1 ≠ code)

def setIf (asked : Bool) (code : Nat) (data : Bytes) (pages : Pages) : Pages :=
  if asked then pages.set code data else pages

/- Empty custom pages remove a page, other ones add or replace it. -/
def customize (pages custom : Pages) : Pages :=
  custom.foldl (fun pages (code,data) => if data.isEmpty then pages.erase code else pages.set code data) pages

/- Page code and page size are filled in; the PS bit may already have been set. -/
def complete (code : Nat) (data : Bytes) : Bytes :=
  (data.set 0 (data.getD 0 0 ||| UInt8.ofNat code)).set 1 (UInt8.ofNat (data.length - 2))

/- Page 0 comes last and has no size field. -/
def concat (pages : Pages) : Bytes :=
  ((pages.filter (·.1 ≠ 0)).flatMap fun (code,data) => complete code data) ++ (pages.lookup 0).getD []

end Pages

/- Is the page one of those asked for? -/
def pageAsked (page code : Nat) : Bool := page = code || page = 0x3f

namespace PageHandler
open Handler

variable {δ : Type}

/- The virtual functions and the data of a device with mode pages. -/
structure Support (δ : Type) where
  setUpModePages : Request → δ → Nat → Bool → Pages → Pages
  customModePages : δ → Pages

def pagesOf (v : Support δ) (r : Request) (d : δ) (page : Nat) (changeable : Bool) : Pages :=
  (v.setUpModePages r d page changeable []).customize (v.customModePages d)

def addModePages (v : Support δ) (offset length maxSize : Nat) : Handler δ Nat := do
  if length < offset then return length
  let r ← getRequest
  let d ← getDevice
  let pages := pagesOf v r d (r.cdbByte 2 &&& 0x3f) (r.cdbByte 2 &&& 0xc0 = 0x40)
  if pages.isEmpty then throw ⟨.illegalRequest,.invalidFieldInCdb⟩
  let result := pages.concat
  if maxSize < result.length then throw ⟨.illegalRequest,.invalidFieldInCdb⟩
  let size := min (length - offset) result.length
  setBuffer (setBytes · offset (result.take size))
  return min (size + offset) length

def modeSelect (supportsModeSelect supportsSaveParameters : Bool) (length : Nat) : Handler δ PhaseCall := do
  let r ← getRequest
  if !supportsModeSelect || !supportsSaveParameters && r.cdbByte 1 &&& 0x01 ≠ 0 then
    throw ⟨.illegalRequest,.invalidFieldInCdb⟩
  return .dataOut length

/- The commands of the constructor. Both kinds of MODE SENSE are virtual. -/
def commands (modeSense6 modeSense10 : Handler δ Nat) (supportsModeSelect supportsSaveParameters : Bool) :
    List (ScsiCommand × Handler δ PhaseCall) := [
  (.modeSense6,do return .dataIn (← modeSense6)),
  (.modeSense10,do return .dataIn (← modeSense10)),
  (.modeSelect6,do modeSelect supportsModeSelect supportsSaveParameters ((← getRequest).cdbByte 4)),
  (.modeSelect10,do modeSelect supportsModeSelect supportsSaveParameters ((← getRequest).cdbInt24 7))]

end PageHandler
end Scsi2Pi
