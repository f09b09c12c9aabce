import Scsi2Pi.Effect
import Scsi2Pi.MachineInt
import Scsi2Pi.ScsiGeneric

/-! S2pDumpExecutor: the commands s2pdump sends to a target, on top of the virtual
functions of an executor for the board or for the SG driver. -/
namespace Scsi2Pi
open Slices MemoryUtil

/- Of the data offered to it a target takes some bytes. The SG driver asks for the
sense data on its own. -/
structure Answer where
  status : Nat := 0
  dataIn : Bytes := []
  taken : Nat := 0
  senseData : Bytes := []

/- The answer to a CDB and the data offered with it. -/
abbrev Target (τ : Type) := τ → Bytes → Bytes → Answer × τ

structure SgAdapter where
  blockSize : Nat := 512
  senseData : Bytes := List.replicate 18 0
  senseDataValid : Bool := false

/- The number of bytes to read is that of the last block. -/
structure DumpState (τ : Type) where
  target : τ
  sent : List Bytes := []
  adapter : SgAdapter := {}
  defaultLength : Int := 0xffffff

/- Undefined behaviour is that of the language, pending is that of a loop that goes on. -/
inductive DumpException where
  | ioException (message : String)
  | undefinedBehaviour
  | pending
  deriving DecidableEq, Repr

abbrev DumpEff (τ α : Type) := Eff (Target τ) (DumpState τ) DumpException α

/- The CDB and the buffer are those of the caller. -/
structure Executed (ρ : Type) where
  returned : ρ
  cdb : Bytes
  buf : Bytes

namespace Executed

def map {ρ ρ' : Type} (f : ρ → ρ') (e : Executed ρ) : Executed ρ' := ⟨f e.returned,e.cdb,e.buf⟩

def succeeded (e : Executed Nat) : Executed Bool := e.map fun status => status = 0

def failed (e : Executed Nat) : Executed Bool := e.map fun status => status ≠ 0

def done (e : Executed Nat) : Executed Unit := e.map fun _ => ()

end Executed

namespace DumpEff
open Eff

variable {τ : Type}

def send (cdb dataOut : Bytes) : DumpEff τ Answer := fun target s =>
  (.ok (target s.target cdb dataOut).1,
    { s with target := (target s.target cdb dataOut).2, sent := s.sent ++ [cdb] })

/- There is no check of the size of the buffer. -/
def receive (buf data : Bytes) : DumpEff τ Bytes :=
  if buf.length < data.length then throw .undefinedBehaviour else return setBytes buf 0 data

variable {r : Target τ} {s : DumpState τ} {E : DumpException → DumpState τ → Prop}

@[simp] theorem wpSend {Q : Answer → DumpState τ → Prop} (cdb dataOut : Bytes) :
    wp (send cdb dataOut) r s Q E ↔ Q (r s.target cdb dataOut).1
      { s with target := (r s.target cdb dataOut).2, sent := s.sent ++ [cdb] } := Iff.rfl

@[simp] theorem wpReceive {Q : Bytes → DumpState τ → Prop} (buf data : Bytes) :
    wp (receive buf data) r s Q E ↔ (buf.length < data.length → E .undefinedBehaviour s) ∧
      (¬buf.length < data.length → Q (setBytes buf 0 data) s) := by
  unfold receive
  rw [wpIte]
  rfl

end DumpEff

/- The virtual functions of S2pDumpExecutor. -/
structure ExecutorVirtual (τ : Type) where
  testUnitReady : Bytes → DumpEff τ (Executed Unit)
  requestSense : Bytes → Bytes → DumpEff τ (Executed Nat)
  inquiry : Bytes → Bytes → DumpEff τ (Executed Bool)
  modeSense6 : Bytes → Bytes → DumpEff τ (Executed Bool)
  readCapacity10 : Bytes → Bytes → DumpEff τ (Executed Nat)
  readCapacity16 : Bytes → Bytes → DumpEff τ (Executed Nat)
  readWrite : Bytes → Bytes → Nat → DumpEff τ (Executed Bool)
  synchronizeCache : Bytes → DumpEff τ (Executed Unit)
  rewind : Bytes → DumpEff τ (Executed Nat)
  spaceBack : Bytes → DumpEff τ (Executed Unit)
  writeFilemark : Bytes → DumpEff τ (Executed Nat)
  read : Bytes → Bytes → Nat → DumpEff τ (Executed Bool)
  write : Bytes → Bytes → Nat → DumpEff τ (Executed Bool)

namespace S2pDumpExecutor
open DumpEff

variable {τ : Type}

def noMoreData : Int := -1
def badBlock : Int := -2

def newCdb (count : Nat) (cmd : ScsiCommand) : Bytes := (List.replicate count 0).set 0 cmd

def setInt24 (buf : Bytes) (offset : Nat) (value : Int) : Bytes := setBytes buf offset (bigEndian 3 (uint32 value))

def testUnitReady (v : ExecutorVirtual τ) : DumpEff τ Unit := do
  let _ ← v.testUnitReady (newCdb 6 .testUnitReady)

def requestSense (v : ExecutorVirtual τ) (buf : Bytes) : DumpEff τ Bytes := do
  let executed ← v.requestSense ((newCdb 6 .requestSense).set 4 (UInt8.ofNat buf.length)) buf
  return executed.buf

def inquiry (v : ExecutorVirtual τ) (buf : Bytes) : DumpEff τ (Bool × Bytes) := do
  let executed ← v.inquiry ((newCdb 6 .inquiry).set 4 (UInt8.ofNat buf.length)) buf
  return (executed.returned,executed.buf)

def modeSense6 (v : ExecutorVirtual τ) (buf : Bytes) : DumpEff τ (Bool × Bytes) := do
  let executed ← v.modeSense6
    ((((newCdb 6 .modeSense6).set 1 0x08).set 2 0x3f).set 4 (UInt8.ofNat buf.length)) buf
  return (executed.returned,executed.buf)

/- The number of sectors and their size. -/
def readCapacity16 (v : ExecutorVirtual τ) (cdb buf : Bytes) : DumpEff τ (Nat × Nat) := do
  let cdb := ((cdb ++ List.replicate 6 0).set 0 ScsiCommand.readCapacityReadLong16).set 1 0x10
  let executed ← v.readCapacity16 cdb buf
  if executed.returned ≠ 0 then return (0,0)
  return ((getInt64 executed.buf 0 + 1) % 2^64,getInt32 executed.buf 8)

def readCapacity (v : ExecutorVirtual τ) : DumpEff τ (Nat × Nat) := do
  let executed ← v.readCapacity10 (newCdb 10 .readCapacity10) (List.replicate 14 0)
  if executed.returned ≠ 0 then return (0,0)
  let capacity := getInt32 executed.buf 0
  if capacity = 2^32 - 1 then readCapacity16 v executed.cdb executed.buf
  else return (capacity + 1,getInt32 executed.buf 4)

def readWrite (v : ExecutorVirtual τ) (buf : Bytes) (bstart blength length : Nat) (isWrite : Bool) :
    DumpEff τ (Bool × Bytes) := do
  let cdb := newCdb 10 (if isWrite then .write10 else .read10)
  let executed ← v.readWrite (setInt16 (setInt32 cdb 2 bstart) 7 blength) buf length
  return (executed.returned,executed.buf)

def synchronizeCache (v : ExecutorVirtual τ) : DumpEff τ Unit := do
  let _ ← v.synchronizeCache (newCdb 10 .synchronizeCache10)

def spaceBack (v : ExecutorVirtual τ) : DumpEff τ Unit := do
  let _ ← v.spaceBack (setInt24 (newCdb 6 .space6) 2 (-1))

def rewind (v : ExecutorVirtual τ) : DumpEff τ Nat := do
  return (← v.rewind (newCdb 6 .rewind)).returned

def writeFilemark (v : ExecutorVirtual τ) : DumpEff τ Nat := do
  return (← v.writeFilemark (setInt24 (newCdb 6 .writeFilemarks6) 2 1)).returned

/- What the sense data say about a READ that has failed: the result, or that there has to
be another attempt. The default length is adjusted to that of the block. -/
def evaluateSense (v : ExecutorVirtual τ) (hasError : Bool) (sense : Bytes) : DumpEff τ (Option Int) := do
  let flags := byteAt sense 2
  if flags &&& 0x0f = SenseKey.blankCheck.code.toNat ∨ flags &&& 0x40 ≠ 0 then return some noMoreData
  if flags &&& 0x0f = SenseKey.mediumError.code.toNat then
    if hasError then return some badBlock
    spaceBack v
    return none
  if flags &&& 0x80 ≠ 0 then return some 0
  if byteAt sense 0 &&& 0x80 ≠ 0 ∧ flags &&& 0x20 ≠ 0 then
    let length := (← get).defaultLength
    let actual := int32 (length - getInt32 sense 3)
    modify fun s => { s with defaultLength := actual }
    if actual < length then return some actual
    spaceBack v
    return none
  return some 0xff

/- Only a medium error is remembered for the next attempt. -/
def remembers (sense : Bytes) : Bool := byteAt sense 2 &&& 0x0f = SenseKey.mediumError.code.toNat

/- The loop of a dump. Each attempt uses the CDB as the last one has left it. -/
def readBlock (v : ExecutorVirtual τ) : Nat → Bool → Bytes → Bytes → DumpEff τ (Int × Bytes)
  | 0, _, _, _ => throw .pending
  | attempts+1, hasError, cdb, buf => do
    let requested := (← get).defaultLength
    let executed ← v.read (setInt24 cdb 2 requested) buf requested.toNat
    if !executed.returned then return (requested,executed.buf)
    let sense ← v.requestSense ((List.replicate executed.cdb.length 0).set 4 14) (List.replicate 14 0)
    if sense.returned = 0xff then return (0xff,executed.buf)
    if sense.returned ≠ 0 ∧ sense.returned ≠ 0x02 then
      throw (.ioException s!"Unknown error status {sense.returned}")
    match ← evaluateSense v hasError sense.buf with
    | some result => return (result,executed.buf)
    | none => readBlock v attempts (hasError || remembers sense.buf) sense.cdb executed.buf

/- Restore with a length, dump without one. -/
def readWriteTape (v : ExecutorVirtual τ) (attempts : Nat) (buf : Bytes) (length : Nat) : DumpEff τ (Int × Bytes) := do
  if length ≠ 0 then
    let executed ← v.write (setInt24 (List.replicate 6 0) 2 length) buf length
    if executed.returned then throw (.ioException s!"Can't write block with {length} byte(s)")
    return (length,executed.buf)
  readBlock v attempts false (List.replicate 6 0) buf

end S2pDumpExecutor

/-! The executor of the board. The LUN is a part of the CDB, too. -/

namespace BoardExecutor
open DumpEff Executed

variable {τ : Type}

structure Initiator where
  targetLun : Nat := 0

def encodeLun (i : Initiator) (cdb : Bytes) : Bytes :=
  if i.targetLun < 8 then cdb.set 1 (UInt8.ofNat (byteAt cdb 1 + i.targetLun * 2^5)) else cdb

/- Another data phase than that for the whole buffer is a phase exception. -/
def answers (a : Answer) (length : Nat) : Prop :=
  a.dataIn.length ≤ length ∧ (a.taken = 0 ∨ a.taken = length)

instance (a : Answer) (length : Nat) : Decidable (answers a length) := inferInstanceAs (Decidable (_ ∧ _))

def execute (i : Initiator) (cmd : ScsiCommand) (cdb buf : Bytes) (length : Nat) : DumpEff τ (Executed Nat) := do
  let cdb := encodeLun i (cdb.set 0 cmd)
  let a ← send cdb (buf.take length)
  let buf ← receive buf (a.dataIn.take length)
  return ⟨if answers a length then a.status else 0xff,cdb,buf⟩

def virtual (i : Initiator) : ExecutorVirtual τ where
  testUnitReady cdb := do return done (← execute i .testUnitReady cdb [] 0)
  requestSense cdb buf := execute i .requestSense cdb buf buf.length
  inquiry cdb buf := do return succeeded (← execute i .inquiry cdb buf buf.length)
  modeSense6 cdb buf := do return succeeded (← execute i .modeSense6 cdb buf buf.length)
  readCapacity10 cdb buf := execute i .readCapacity10 cdb buf 8
  readCapacity16 cdb buf := execute i .readCapacityReadLong16 cdb buf 14
  readWrite cdb buf length := do return succeeded (← execute i (cdb.getD 0 0) cdb buf length)
  synchronizeCache cdb := do return done (← execute i .synchronizeCache10 cdb [] 0)
  rewind cdb := execute i .rewind cdb [] 0
  spaceBack cdb := do
    let executed ← execute i .space6 cdb [] 0
    if executed.returned ≠ 0 then throw (.ioException "Can't space back one block")
    return done executed
  writeFilemark cdb := execute i .writeFilemarks6 cdb [] 0
  read cdb buf length := do return failed (← execute i .read6 cdb buf length)
  write cdb buf length := do return failed (← execute i .write6 cdb buf length)

theorem encodedOpcode {i : Initiator} (cdb : Bytes) : (encodeLun i cdb).getD 0 0 = cdb.getD 0 0 := by
  unfold encodeLun
  split
  · cases cdb <;> rfl
  · rfl

theorem six {cdb : Bytes} (h : cdb.length = 6) : ∃ a b c d e f, cdb = [a,b,c,d,e,f] := by
  obtain ⟨a,cdb,rfl⟩ := List.exists_cons_of_length_eq_add_one h
  obtain ⟨b,cdb,rfl⟩ := List.exists_cons_of_length_eq_add_one (Nat.succ.inj h)
  obtain ⟨c,cdb,rfl⟩ := List.exists_cons_of_length_eq_add_one (Nat.succ.inj (Nat.succ.inj h))
  obtain ⟨d,cdb,rfl⟩ := List.exists_cons_of_length_eq_add_one (Nat.succ.inj (Nat.succ.inj (Nat.succ.inj h)))
  obtain ⟨e,cdb,rfl⟩ := List.exists_cons_of_length_eq_add_one
    (Nat.succ.inj (Nat.succ.inj (Nat.succ.inj (Nat.succ.inj h))))
  obtain ⟨f,rfl⟩ := List.length_eq_one_iff.mp
    (Nat.succ.inj (Nat.succ.inj (Nat.succ.inj (Nat.succ.inj (Nat.succ.inj h)))))
  exact ⟨a,b,c,d,e,f,rfl⟩

theorem lengthInCdb {i : Initiator} {cmd : UInt8} {cdb : Bytes} {length : Nat} (h : cdb.length = 6) (small : length < 2^24) :
    getInt24 (encodeLun i ((S2pDumpExecutor.setInt24 cdb 2 length).set 0 cmd)) 2 = length := by
  obtain ⟨a,b,c,d,e,f,rfl⟩ := six h
  have fits : uint32 (length : Int) = length := uint32Fits (by omega)
  have bytes : (S2pDumpExecutor.setInt24 [a,b,c,d,e,f] 2 length).set 0 cmd =
      [cmd,b,UInt8.ofNat (length / 256^2),UInt8.ofNat (length / 256^1),UInt8.ofNat (length / 256^0),f] := by
    simp [S2pDumpExecutor.setInt24,fits,setBytes,overwrite,bigEndian,List.range,List.range.loop]
  rw [bytes]
  unfold encodeLun
  split <;>
  · simp only [getInt24,byteAt,List.set_cons_succ,List.set_cons_zero,List.getD_cons_succ,List.getD_cons_zero,
      UInt8.toNat_ofNat']
    omega

theorem encodedSix {i : Initiator} {cdb : Bytes} (h : cdb.length = 6) : (encodeLun i cdb).length = 6 := by
  unfold encodeLun
  split
  · rw [List.length_set,h]
  · exact h

end BoardExecutor
end Scsi2Pi
