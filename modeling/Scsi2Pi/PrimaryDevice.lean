import Scsi2Pi.Handler
import Scsi2Pi.S2pUtil

/-! Device and PrimaryDevice: the fields and the commands all devices share. A
virtual function that a handler calls is a parameter of that handler. -/
namespace Scsi2Pi
open Slices MemoryUtil

/- An enumeration value that the interface does not know is kept as a number. -/
inductive PbDeviceType where
  | undefined | sahd | schd | scrm | scmo | sccd | scbr | scdp | schs | sclp | sctp | scsg
  | unrecognized (value : Int)
  deriving DecidableEq, Repr

structure ProductData where
  vendor : String := "SCSI2Pi"
  product : String := ""
  revision : String := "0501"
  deriving DecidableEq, Repr

structure PrimaryDevice where
  type : PbDeviceType
  lun : Nat := 0
  ready : Bool := false
  reset : Bool := false
  attn : Bool := false
  protectable : Bool := false
  writeProtected : Bool := false
  readOnly : Bool := false
  stoppable : Bool := false
  stopped : Bool := false
  removable : Bool := false
  removed : Bool := false
  locked : Bool := false
  params : List (String × String) := []
  productData : ProductData := {}
  level : ScsiLevel := .none
  senseKey : SenseKey := .noSense
  asc : Asc := .noAdditionalSenseInformation
  eom : Ascq := .none
  valid : Bool := false
  filemark : Bool := false
  ili : Bool := false
  information : Int := 0
  reservingInitiator : Int := -2

namespace PrimaryDevice
open Handler Derives

def notReserved : Int := -2

/-! The functions of Device. -/

def setProtected (d : PrimaryDevice) (b : Bool) : PrimaryDevice :=
  if d.protectable && !d.readOnly then { d with writeProtected := b } else d

def start (d : PrimaryDevice) : Bool × PrimaryDevice :=
  if !d.ready then (false,d) else (true,{ d with stopped := false })

def stop (d : PrimaryDevice) : PrimaryDevice :=
  { d with ready := false, attn := false, stopped := true }

def eject (d : PrimaryDevice) (force : Bool) : Bool × PrimaryDevice :=
  if !d.ready || !d.removable then (false,d)
  else if !force && d.locked then (false,d)
  else (true,{ d with
    ready := false
    attn := false
    removed := true
    writeProtected := false
    locked := false
    stopped := true })

/-! Configuration. -/

/- Map entries in any order, one for each key. -/
def setEntry (key value : String) : List (String × String) → List (String × String)
  | [] => [(key,value)]
  | entry::rest => if entry.1 = key then (key,value)::rest else entry::setEntry key value rest

/- Parameters without a default are unknown, and ignored. -/
def setParams (d : PrimaryDevice) (defaults : List (String × String)) (supportsImageFile : Bool)
    (params : List (String × String)) : PrimaryDevice :=
  let supported := if supportsImageFile then setEntry "file" "" defaults else defaults
  { d with params := params.foldl (fun effective (key,value) =>
      if (effective.lookup key).isSome then setEntry key value effective else effective) supported }

def setScsiLevel (d : PrimaryDevice) (level : ScsiLevel) : Option PrimaryDevice :=
  if ScsiLevel.last ≤ level then none else some { d with level }

/- An empty part leaves the current one. Only with force a product name is replaced. -/
def setProductData (d : PrimaryDevice) (vendor product revision : String) (force : Bool) :
    Except String PrimaryDevice :=
  let vendor := S2pUtil.trim vendor
  let product := S2pUtil.trim product
  let revision := S2pUtil.trim revision
  let current := d.productData
  if 8 < vendor.utf8ByteSize then .error s!"Vendor '{vendor}' must have between 1 and 8 characters"
  else if 16 < product.utf8ByteSize then .error s!"Product '{product}' must have between 1 and 16 characters"
  else if 4 < revision.utf8ByteSize then .error s!"Revision '{revision}' must have between 1 and 4 characters"
  else .ok { d with productData := {
    vendor := if vendor.isEmpty then current.vendor else vendor
    product := if product.isEmpty || !current.product.isEmpty && !force then current.product else product
    revision := if revision.isEmpty then current.revision else revision } }

/-! Sense data and reservation. -/

def setStatus (d : PrimaryDevice) (s : SenseKey) (a : Asc) : PrimaryDevice :=
  { d with senseKey := s, asc := a }

def resetStatus (d : PrimaryDevice) : PrimaryDevice :=
  { d with
    senseKey := .noSense
    asc := .noAdditionalSenseInformation
    valid := false
    filemark := false
    ili := false
    information := 0
    eom := .none }

def setInformation (d : PrimaryDevice) (value : Int) : PrimaryDevice :=
  { d with information := int32 value, valid := true }

def discardReservation (d : PrimaryDevice) : PrimaryDevice :=
  { d with reservingInitiator := notReserved }

/- What a bus reset does to a device; its name in the source is Reset. -/
def busReset (d : PrimaryDevice) : PrimaryDevice :=
  { d.discardReservation with reset := false, attn := false, locked := false }

/- The commands that another initiator may send to a reserved device. -/
def reservationExempt (r : Request) : Bool :=
  r.opcode = .inquiry || r.opcode = .requestSense || r.opcode = .releaseReleaseElement6 ||
    r.opcode = .preventAllowMediumRemoval && r.cdbByte 4 &&& 0x01 = 0

/- On false the caller reports RESERVATION CONFLICT. -/
def checkReservation (d : PrimaryDevice) (r : Request) : Bool :=
  d.reservingInitiator = notReserved || d.reservingInitiator = r.initiatorId || reservationExempt r

/-! Command handlers. -/

def checkReady : Handler PrimaryDevice Unit := do
  let d ← getDevice
  if d.reset then
    modifyDevice fun d => { d with reset := false }
    throw ⟨.unitAttention,.powerOnOrReset⟩
  else if d.attn then
    modifyDevice fun d => { d with attn := false }
    throw ⟨.unitAttention,.notReadyToReadyChange⟩
  else if !d.ready then throw ⟨.notReady,.mediumNotPresent⟩
  else pure ()

def testUnitReady : Handler PrimaryDevice PhaseCall := do
  checkReady
  return .status

def padded (size : Nat) (text : String) : Bytes :=
  text.toList.flatMap String.utf8EncodeChar ++ List.replicate (size - text.length) 0x20

def paddedName (p : ProductData) : Bytes :=
  (padded 8 p.vendor ++ padded 16 p.product ++ padded 4 p.revision).take 28

def handleInquiry (d : PrimaryDevice) (type : DeviceType) (removable : Bool) : Bytes :=
  [type.code,if removable then 0x80 else 0x00,UInt8.ofInt d.level,
    if ScsiLevel.scsi2 ≤ d.level then 2 else 1,0x1f,0,0,0x08] ++ paddedName d.productData

def inquiry {δ : Type} (inquiryInternal : Handler δ Bytes) : Handler δ PhaseCall := do
  let r ← getRequest
  if r.cdbByte 1 &&& 0x1f ≠ 0 ∨ r.cdbByte 2 ≠ 0 then throw ⟨.illegalRequest,.invalidFieldInCdb⟩
  let buf ← inquiryInternal
  let allocationLength := min buf.length (r.cdbInt16 3)
  copyToBuffer (buf.take allocationLength)
  if !r.hasLun r.effectiveLun then setBuffer (setBytes · 0 [0x7f])
  return .dataIn allocationLength

def attachedLuns (r : Request) : List Nat := (List.range 32).filter r.hasLun

/- The entries of the LUN list, from byte 8 on; bytes 0 to 6 of an entry are cleared with
the allocation length only. -/
def writeLuns (buf : Bytes) : Nat → List Nat → Bytes
  | _, [] => buf
  | size, lun::rest => writeLuns (setBytes buf (size + 8 + 7) [UInt8.ofNat lun]) (size+8) rest

def reportLuns : Handler PrimaryDevice PhaseCall := do
  let r ← getRequest
  if r.cdbByte 2 ≠ 0 then throw ⟨.illegalRequest,.invalidFieldInCdb⟩
  let allocationLength := r.cdbInt32 6
  let size := (attachedLuns r).length * 8
  setBuffer fun buf =>
    let cleared := setBytes buf 0 (List.replicate (min buf.length allocationLength) 0)
    setInt16 (writeLuns cleared 0 (attachedLuns r)) 2 size
  return .dataIn (int32 (min allocationLength (size + 8)))

def senseData (d : PrimaryDevice) (r : Request) : Bytes :=
  let extended := ScsiLevel.scsi2 ≤ d.level ∨ 4 < r.cdbByte 4
  let buf := List.replicate 18 0
  let buf := if extended then buf.set 0 0x70 else buf
  let buf :=
    if d.valid then setInt32 (buf.set 0 (buf.getD 0 0 ||| 0x80)) (if extended then 3 else 1) (uint32 d.information)
    else buf
  let key := d.senseKey.code ||| (if d.ili then 0x20 else 0)
  let buf := ((buf.set 2 key).set 7 10).set 12 d.asc.code
  let (key,buf) := if d.filemark then (key ||| 0x80,(buf.set 2 (key ||| 0x80)).set 13 Ascq.filemarkDetected.code)
    else (key,buf)
  if d.eom ≠ .none then (buf.set 2 (key ||| 0x40)).set 13 d.eom.code else buf

def handleRequestSense : Handler PrimaryDevice Bytes := do
  let d ← getDevice
  let r ← getRequest
  if d.senseKey = .noSense ∧ d.ready = false then throw ⟨.notReady,.mediumNotPresent⟩
  return senseData d r

/- The part of Error(ILLEGAL_REQUEST, LOGICAL_UNIT_NOT_SUPPORTED, GOOD) that a
handler sees: the sense data of LUN 0, and the STATUS phase being set up. -/
def reportMissingLun : Handler PrimaryDevice Unit := do
  let r ← getRequest
  modifyDevice fun d => d.setStatus .illegalRequest .logicalUnitNotSupported
  modifyTransfer fun t =>
    let t := ({ t with status := .good }.setCurrentLength 1).setTransferSize 1 1
    let code := if r.linked then StatusCode.intermediate.code else StatusCode.good.code
    { t with buffer := setBytes t.buffer 0 [code] }

def requestSense : Handler PrimaryDevice PhaseCall := do
  let r ← getRequest
  if r.cdbByte 1 &&& 0x01 ≠ 0 then throw ⟨.illegalRequest,.invalidFieldInCdb⟩
  let found := r.hasLun r.effectiveLun
  if !found then reportMissingLun
  let buf ← handleRequestSense
  let d ← getDevice
  let allocationLength :=
    if r.cdbByte 4 = 0 ∧ d.level = .scsi1Ccs then 4 else r.cdbByte 4
  let length := min buf.length allocationLength
  copyToBuffer (buf.take length)
  modifyDevice resetStatus
  return if found then .dataIn length else .errorThenDataIn length

def reserve : Handler PrimaryDevice PhaseCall := do
  let r ← getRequest
  modifyDevice fun d => { d with reservingInitiator := r.initiatorId }
  return .status

def release : Handler PrimaryDevice PhaseCall := do
  modifyDevice discardReservation
  return .status

def sendDiagnostic : Handler PrimaryDevice PhaseCall := do
  let r ← getRequest
  if r.cdbByte 3 ≠ 0 ∨ r.cdbByte 4 ≠ 0 then throw ⟨.illegalRequest,.invalidFieldInCdb⟩
  return .status

/- The commands of Init. INQUIRY and REQUEST SENSE are virtual. -/
def commands {δ : Type} [Derives δ PrimaryDevice] (inquiry requestSense : Handler δ PhaseCall) :
    List (ScsiCommand × Handler δ PhaseCall) := [
  (.testUnitReady,super testUnitReady),
  (.inquiry,inquiry),
  (.reportLuns,super reportLuns),
  (.requestSense,requestSense),
  (.reserveReserveElement6,super reserve),
  (.releaseReleaseElement6,super release),
  (.sendDiagnostic,super sendDiagnostic)]

end PrimaryDevice
end Scsi2Pi
