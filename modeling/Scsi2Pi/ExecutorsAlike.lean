import Scsi2Pi.SgExecutor

/-! The two executors of s2pdump side by side: each operation with the same answers
of a target. -/
namespace Scsi2Pi
open Slices MemoryUtil CommandMetaData Eff DumpEff

inductive DumpOperation where
  | testUnitReady
  | requestSense (buf : Bytes)
  | inquiry (buf : Bytes)
  | modeSense6 (buf : Bytes)
  | readCapacity
  | readWrite (buf : Bytes) (bstart blength length : Nat) (isWrite : Bool)
  | synchronizeCache
  | rewind
  | spaceBack
  | writeFilemark
  | readWriteTape (buf : Bytes) (length : Nat)

/- What the callers of an operation evaluate. The tape operation counts bytes. -/
inductive Report where
  | nothing
  | success (succeeded : Bool)
  | capacity (sectors sectorSize : Nat)
  | byteCount (count : Int)
  deriving DecidableEq, Repr

namespace DumpOperation
open S2pDumpExecutor

variable {τ : Type}

def perform (v : ExecutorVirtual τ) (attempts : Nat) : DumpOperation → DumpEff τ Report
  | .testUnitReady => do
    S2pDumpExecutor.testUnitReady v
    return .nothing
  | .requestSense buf => do
    let _ ← S2pDumpExecutor.requestSense v buf
    return .nothing
  | .inquiry buf => do return .success (← S2pDumpExecutor.inquiry v buf).1
  | .modeSense6 buf => do return .success (← S2pDumpExecutor.modeSense6 v buf).1
  | .readCapacity => do
    let (sectors,sectorSize) ← S2pDumpExecutor.readCapacity v
    return .capacity sectors sectorSize
  | .readWrite buf bstart blength length isWrite => do
    return .success (← S2pDumpExecutor.readWrite v buf bstart blength length isWrite).1
  | .synchronizeCache => do
    S2pDumpExecutor.synchronizeCache v
    return .nothing
  | .rewind => do
    let status ← S2pDumpExecutor.rewind v
    return .success (status = 0)
  | .spaceBack => do
    S2pDumpExecutor.spaceBack v
    return .nothing
  | .writeFilemark => do
    let status ← S2pDumpExecutor.writeFilemark v
    return .success (status = 0)
  | .readWriteTape buf length => do return .byteCount (← S2pDumpExecutor.readWriteTape v attempts buf length).1

end DumpOperation

namespace ExecutorsAlike
open S2pDumpExecutor SgAdapter SgUtil

/- A target that gives one answer after the other. -/
def answering (answers : Nat → Answer) : Target Nat := fun n _ _ => (answers n,n+1)

def start (adapter : SgAdapter) (defaultLength : Int) : DumpState Nat := { target := 0, adapter, defaultLength }

/- The result and the CDBs sent. -/
def outcome (v : ExecutorVirtual Nat) (attempts : Nat) (operation : DumpOperation) (answers : Nat → Answer)
    (s : DumpState Nat) : Except DumpException Report × List Bytes :=
  let (result,t) := operation.perform v attempts (answering answers) s
  (result,t.sent)

def withoutLun (cdb : Bytes) : Bytes := cdb.set 1 (UInt8.ofNat (byteAt cdb 1 &&& 0x1f))

def transfer (cmd : ScsiCommand) (start count : Nat) : Bytes := setInt16 (setInt32 (newCdb 10 cmd) 2 start) 7 count

/- The pieces of a transfer have at least one block each. -/
inductive Pieces (cmd : ScsiCommand) : Nat → Nat → List Bytes → Prop where
  | done (start : Nat) : Pieces cmd start 0 []
  | piece {start count rest : Nat} {later : List Bytes} (some : 0 < count) (tail : Pieces cmd (start+count) rest later) :
      Pieces cmd start (count+rest) (transfer cmd start count :: later)

/- The same CDBs, apart from the LUN and from the splitting of transfers. -/
inductive SameCommands : List Bytes → List Bytes → Prop where
  | nil : SameCommands [] []
  | same {c d : Bytes} {cs ds : List Bytes} (equal : withoutLun c = withoutLun d) (tail : SameCommands cs ds) :
      SameCommands (c::cs) (d::ds)
  | split {c : Bytes} {cs parts ds : List Bytes} {cmd : ScsiCommand} {start count : Nat}
      (disk : cmd = .read10 ∨ cmd = .write10) (whole : withoutLun c = withoutLun (transfer cmd start count))
      (small : count < 2^16) (pieces : Pieces cmd start count parts) (tail : SameCommands cs ds) :
      SameCommands (c::cs) (parts ++ ds)

/- Neither executor is left undefined. -/
def Alike (i : BoardExecutor.Initiator) (operation : DumpOperation) (answers : Nat → Answer) (s : DumpState Nat) : Prop :=
  ∀ attempts,
    let board := outcome (BoardExecutor.virtual i) attempts operation answers s
    let sg := outcome SgExecutor.virtual attempts operation answers s
    board.1 = sg.1 ∧ board.1 ≠ .error .undefinedBehaviour ∧ SameCommands board.2 sg.2

/- An answer that both take for the same: not CONDITION MET, and if it is GOOD with no
other data than those asked for. -/
def Plain (a : Answer) (length : Nat) : Prop :=
  a.status ≠ 4 ∧ (a.status = 0 → BoardExecutor.answers a length)

def capacityBuffer (a : Answer) : Bytes := setBytes (List.replicate 14 0) 0 (a.dataIn.take 8)

def longCapacityBuffer (a b : Answer) : Bytes := setBytes (capacityBuffer a) 0 (b.dataIn.take 14)

/- For READ(10) and WRITE(10) the adapter takes the number of blocks for that of bytes. -/
def transferLength (blength length : Nat) : Nat := if blength % 2^16 ≠ 0 then blength % 2^16 else length

def pieceLength (blength length : Nat) : Nat := min (transferLength blength length) maxTransferLength

/- The first piece is the whole transfer, and the buffer has room for what is read. -/
def TransferAlike (a : Answer) (buf : Bytes) (blength length : Nat) (isWrite : Bool) (blockSize : Nat) : Prop :=
  pieceLength blength length / blockSize % 2^16 = blength % 2^16 ∧
  (a.status = 0 → transferLength blength length ≤ maxTransferLength) ∧
  Plain a length ∧
  (a.dataIn.take length).length ≤ buf.length ∧
  (isWrite = false → (a.dataIn.take (pieceLength blength length)).length ≤ buf.length)

def LongCapacityAlike (a b : Answer) : Prop :=
  Plain b 14 ∨ (getInt64 (longCapacityBuffer a b) 0 + 1) % 2^64 = 0 ∧ getInt32 (longCapacityBuffer a b) 8 = 0

def CapacityAlike (a b : Answer) : Prop :=
  Plain a 8 ∧ (a.status = 0 → getInt32 (capacityBuffer a) 0 = 2^32 - 1 → LongCapacityAlike a b)

def AlikeWhen (operation : DumpOperation) (answers : Nat → Answer) (adapter : SgAdapter) : Prop :=
  let a := answers 0
  adapter.blockSize ≠ 0 ∧
  match operation with
  | .testUnitReady | .synchronizeCache => True
  | .requestSense _ => adapter.senseDataValid = false
  | .inquiry buf | .modeSense6 buf => Plain a buf.length
  | .readCapacity => CapacityAlike a (answers 1)
  | .readWrite buf _ blength length isWrite => TransferAlike a buf blength length isWrite adapter.blockSize
  | .rewind => ¬Plain a 0
  | .spaceBack | .writeFilemark => Plain a 0
  | .readWriteTape .. => False

section
variable {i : BoardExecutor.Initiator} {answers : Nat → Answer} {s : DumpState Nat}

def after (s : DumpState Nat) (cdb : Bytes) : DumpState Nat :=
  { s with target := s.target+1, sent := s.sent ++ [cdb] }

def boardStatus (a : Answer) (length : Nat) : Nat := if BoardExecutor.answers a length then a.status else 0xff

theorem wpExecute {cmd : ScsiCommand} {cdb buf : Bytes} {length : Nat} {Q : Executed Nat → DumpState Nat → Prop}
    {E : DumpException → DumpState Nat → Prop} (room : ((answers s.target).dataIn.take length).length ≤ buf.length) :
    wp (BoardExecutor.execute i cmd cdb buf length) (answering answers) s Q E ↔
      Q ⟨boardStatus (answers s.target) length,BoardExecutor.encodeLun i (cdb.set 0 cmd),
        setBytes buf 0 ((answers s.target).dataIn.take length)⟩ (after s (BoardExecutor.encodeLun i (cdb.set 0 cmd))) := by
  have fits := Nat.not_lt.mpr room
  unfold BoardExecutor.execute
  simp only [wpBind,wpSend,wpReceive,wpPure,answering,fits,false_implies,not_false_eq_true,true_implies,true_and]
  rfl

theorem wpSendToDriver {cdb buf : Bytes} {length : Nat} {Q : Executed Nat → DumpState Nat → Prop}
    {E : DumpException → DumpState Nat → Prop}
    (room : (getCdbMetaData (cdb.getD 0 0)).hasDataOut = false →
      ((answers s.target).dataIn.take length).length ≤ buf.length) :
    wp (sendToDriver cdb buf length) (answering answers) s Q E ↔
      Q ⟨driverStatus (answers s.target),cdb,markMissingLun cdb (setBytes buf 0
        (if (getCdbMetaData (cdb.getD 0 0)).hasDataOut then [] else (answers s.target).dataIn.take length))
          (driverStatus (answers s.target))⟩
        { after s cdb with adapter := s.adapter.keepSense (answers s.target) } := by
  unfold sendToDriver
  simp only [wpBind,wpSend,wpReceive,wpPure,wpModify,answering]
  have fits : ¬buf.length <
      (if (getCdbMetaData (cdb.getD 0 0)).hasDataOut then [] else (answers s.target).dataIn.take length).length := by
    split
    · exact Nat.not_lt_zero _
    · exact Nat.not_lt.mpr (room (Bool.not_eq_true _ ▸ ‹_›))
  simp only [fits,false_implies,not_false_eq_true,true_implies,true_and]
  rfl

theorem markOther {cdb buf : Bytes} {status : Nat} (other : cdb.getD 0 0 ≠ ScsiCommand.inquiry) :
    markMissingLun cdb buf status = buf := by
  unfold markMissingLun
  exact if_neg fun known => other known.2.1

/- A command without blocks is sent as it is. -/
theorem wpSendCommand {cdb buf : Bytes} {length : Nat} {Q : Executed Nat → DumpState Nat → Prop}
    {E : DumpException → DumpState Nat → Prop} (size : s.adapter.blockSize ≠ 0)
    (noBlocks : (getCdbMetaData (cdb.getD 0 0)).blockSize = 0)
    (sends : ¬(cdb.getD 0 0 = ScsiCommand.requestSense ∧ s.adapter.senseDataValid = true))
    (noDataOut : (getCdbMetaData (cdb.getD 0 0)).hasDataOut = false)
    (room : ((answers s.target).dataIn.take (min (totalLength cdb length) maxTransferLength)).length ≤ buf.length) :
    wp (sendCommand cdb buf length) (answering answers) s Q E ↔
      Q ⟨driverStatus (answers s.target),cdb,markMissingLun cdb (setBytes buf 0
        ((answers s.target).dataIn.take (min (totalLength cdb length) maxTransferLength)))
          (driverStatus (answers s.target))⟩
        { after s cdb with adapter := s.adapter.keepSense (answers s.target) } := by
  have same (count : Nat) : setBlockCount cdb count = cdb := by
    unfold setBlockCount
    exact if_pos noBlocks
  unfold sendCommand sendPieces sendCommandInternal
  simp only [wpBind,wpGet,wpIte,wpPure,wpThrow,same,sends,size,noBlocks,true_or,or_true,not_true,false_implies,
    true_implies,not_false_eq_true,true_and,and_true,wpSendToDriver fun _ => room,noDataOut,Bool.false_eq_true,if_false]

/- The sense data kept for a REQUEST SENSE. -/
theorem wpKeptSense {cdb buf : Bytes} {length : Nat} {Q : Executed Nat → DumpState Nat → Prop}
    {E : DumpException → DumpState Nat → Prop} (size : s.adapter.blockSize ≠ 0)
    (opcode : cdb.getD 0 0 = ScsiCommand.requestSense) (valid : s.adapter.senseDataValid = true) :
    wp (sendCommand cdb buf length) (answering answers) s Q E ↔
      Q ⟨0,cdb,setBytes buf 0 (s.adapter.senseData.take (min (totalLength cdb length) maxTransferLength))⟩
        { s with adapter := { s.adapter with senseDataValid := false } } := by
  have noBlocks : (getCdbMetaData ScsiCommand.requestSense).blockSize = 0 := rfl
  have same (count : Nat) : setBlockCount cdb count = cdb := by
    unfold setBlockCount
    rw [opcode]
    exact if_pos noBlocks
  unfold sendCommand sendPieces sendCommandInternal
  simp only [wpBind,wpGet,wpIte,wpPure,wpThrow,wpModify,same,opcode,valid,size,noBlocks,true_or,or_true,not_true,false_implies,
    true_implies,not_false_eq_true,true_and,and_true]

/- What is known of the result and of the CDBs. -/
theorem outcomeKnown {v : ExecutorVirtual Nat} {attempts : Nat} {operation : DumpOperation}
    {P : Except DumpException Report → List Bytes → Prop}
    (ends : wp (operation.perform v attempts) (answering answers) s (fun report t => P (.ok report) t.sent)
      (fun e t => P (.error e) t.sent)) :
    P (outcome v attempts operation answers s).1 (outcome v attempts operation answers s).2 := by
  unfold outcome
  unfold wp at ends
  cases ran : operation.perform v attempts (answering answers) s with
  | mk x t =>
    rw [ran] at ends
    cases x <;> exact ends

/- What an operation ends with, from its postcondition. -/
theorem outcomeOf {v : ExecutorVirtual Nat} {attempts : Nat} {operation : DumpOperation}
    {result : Except DumpException Report} {log : List Bytes}
    (ends : wp (operation.perform v attempts) (answering answers) s (fun report t => .ok report = result ∧ t.sent = log)
      (fun e t => .error e = result ∧ t.sent = log)) : outcome v attempts operation answers s = (result,log) := by
  obtain ⟨same,sent⟩ := outcomeKnown (P := fun found sent => found = result ∧ sent = log) ends
  exact Prod.ext same sent

/-! CDBs. -/

theorem transferBytes (cmd : ScsiCommand) (start count : Nat) : transfer cmd start count =
    [cmd,0,UInt8.ofNat (start / 256^3),UInt8.ofNat (start / 256^2),UInt8.ofNat (start / 256^1),
      UInt8.ofNat (start / 256^0),0,UInt8.ofNat (count / 256^1),UInt8.ofNat (count / 256^0),0] := rfl

theorem withoutLunEncoded {cdb : Bytes} (long : 2 ≤ cdb.length) :
    withoutLun (BoardExecutor.encodeLun i cdb) = withoutLun cdb := by
  unfold BoardExecutor.encodeLun
  split
  · have set : byteAt (cdb.set 1 (UInt8.ofNat (byteAt cdb 1 + i.targetLun * 2^5))) 1 =
        (byteAt cdb 1 + i.targetLun * 2^5) % 2^8 := by
      simp only [byteAt,List.getD_eq_getElem?_getD,List.getElem?_set_self (by omega : 1 < cdb.length),Option.getD_some,
        UInt8.toNat_ofNat']
    have low (n : Nat) : n &&& 0x1f = n % 2^5 := Nat.and_two_pow_sub_one_eq_mod n 5
    unfold withoutLun
    rw [set,List.set_set,low,low]
    congr 2
    omega
  · rfl

theorem opcodeWithoutLun (cdb : Bytes) : (withoutLun cdb).getD 0 0 = cdb.getD 0 0 := by
  cases cdb <;> rfl

theorem sameOpcode {c d : Bytes} (same : withoutLun c = withoutLun d) : c.getD 0 0 = d.getD 0 0 := by
  rw [← opcodeWithoutLun c,same,opcodeWithoutLun]

/- Only transfers can be split. -/
theorem sameUnsplit {c : Bytes} {cs log : List Bytes} (same : SameCommands (c::cs) log)
    (other : c.getD 0 0 ≠ ScsiCommand.read10 ∧ c.getD 0 0 ≠ ScsiCommand.write10) :
    ∃ d ds, log = d::ds ∧ withoutLun c = withoutLun d ∧ SameCommands cs ds := by
  cases same with
  | same equal tail => exact ⟨_,_,rfl,equal,tail⟩
  | split disk whole small pieces tail =>
    have opcode := sameOpcode whole
    rw [transferBytes] at opcode
    rcases disk with rfl | rfl
    · exact (other.1 opcode).elim
    · exact (other.2 opcode).elim

theorem sameNothing {log : List Bytes} (same : SameCommands [] log) : log = [] := by
  cases same
  rfl

theorem sameOne {c : Bytes} (long : 2 ≤ c.length) : SameCommands [BoardExecutor.encodeLun i c] [c] :=
  .same (withoutLunEncoded long) .nil

/-! Operations with one command. -/

theorem plainIff (a : Answer) (length : Nat) : (boardStatus a length = 0 ↔ driverStatus a = 0) ↔ Plain a length := by
  have met : StatusCode.conditionMet.code.toNat = 4 := rfl
  unfold boardStatus driverStatus Plain
  rw [met]
  by_cases answered : BoardExecutor.answers a length
  · rw [if_pos answered]
    simp only [answered]
    by_cases four : a.status = 4 <;> simp [four]
  · rw [if_neg answered]
    simp only [answered]
    by_cases four : a.status = 4 <;> simp [four]

variable {operation : DumpOperation} {adapter : SgAdapter} {defaultLength : Int}

/- An SG command needs a block size. -/
theorem wpSendNothing {cdb buf : Bytes} {length : Nat} {Q : Executed Nat → DumpState Nat → Prop}
    {E : DumpException → DumpState Nat → Prop} (none : s.adapter.blockSize = 0) :
    wp (sendCommand cdb buf length) (answering answers) s Q E ↔ E .undefinedBehaviour s := by
  unfold sendCommand sendPieces
  simp only [wpBind,wpGet,wpIte,wpThrow,none,true_implies,not_true,false_implies,and_true]

def settle (result : Except DumpException Report) : DumpEff Nat Report := fun _ s => (result,s)

/- An operation that evaluates the status of a single command. -/
def Performs (v : ExecutorVirtual Nat) (operation : DumpOperation) (command : DumpEff Nat (Executed Nat))
    (evaluate : Nat → Except DumpException Report) : Prop :=
  ∀ attempts r s Q E, wp (operation.perform v attempts) r s Q E ↔
    wp command r s (fun e t => wp (settle (evaluate e.returned)) r t Q E) E

theorem settleUnless {failed : Prop} [Decidable failed] {e : DumpException} {report : Report} {r : Target Nat}
    {Q : Report → DumpState Nat → Prop} {E : DumpException → DumpState Nat → Prop} :
    wp (settle (if failed then .error e else .ok report)) r s Q E ↔ (failed → E e s) ∧ (¬failed → Q report s) := by
  by_cases h : failed
  · rw [if_pos h]
    exact ⟨fun known => ⟨fun _ => known,fun no => (no h).elim⟩,fun known => known.1 h⟩
  · rw [if_neg h]
    exact ⟨fun known => ⟨fun yes => (h yes).elim,fun _ => known⟩,fun known => known.2 h⟩

theorem settleKnown {result : Except DumpException Report} {r : Target Nat} {P : Except DumpException Report → List Bytes → Prop}
    (known : ∀ result, P result s.sent) : wp (settle result) r s (fun report t => P (.ok report) t.sent)
      (fun e t => P (.error e) t.sent) := by
  cases result with
  | ok report => exact known _
  | error e => exact known _

theorem settled {v : ExecutorVirtual Nat} {command : DumpEff Nat (Executed Nat)}
    {evaluate : Nat → Except DumpException Report} {attempts : Nat} {result : Except DumpException Report}
    {log : List Bytes} (performs : Performs v operation command evaluate)
    (ends : wp command (answering answers) s (fun e t => evaluate e.returned = result ∧ t.sent = log)
      (fun e t => .error e = result ∧ t.sent = log)) : outcome v attempts operation answers s = (result,log) := by
  refine outcomeOf ((performs _ _ _ _ _).mpr (wpMono ends (fun e t known => ?_) fun e t known => known))
  unfold settle wp
  cases ends : evaluate e.returned with
  | ok report => exact ⟨ends ▸ known.1,known.2⟩
  | error x => exact ⟨ends ▸ known.1,known.2⟩

theorem takeRoom (data buf : Bytes) {length : Nat} (h : length ≤ buf.length) : (data.take length).length ≤ buf.length := by
  rw [List.length_take]
  omega

/- A CDB that both executors send as it is. -/
structure Unsplit (cmd : ScsiCommand) (cdb : Bytes) (length : Nat) : Prop where
  opcode : cdb.set 0 cmd = cdb
  long : 2 ≤ cdb.length
  noBlocks : (getCdbMetaData (cdb.getD 0 0)).blockSize = 0
  noDataOut : (getCdbMetaData (cdb.getD 0 0)).hasDataOut = false
  total : min (totalLength cdb length) maxTransferLength ≤ length

section
variable {cmd : ScsiCommand} {cdb buf : Bytes} {length : Nat} {board sg : Nat → Except DumpException Report}

theorem boardOne (attempts : Nat)
    (performs : Performs (BoardExecutor.virtual i) operation (BoardExecutor.execute i cmd cdb buf length) board)
    (unsplit : Unsplit cmd cdb length) (room : length ≤ buf.length) :
    outcome (BoardExecutor.virtual i) attempts operation answers (start adapter defaultLength) =
      (board (boardStatus (answers 0) length),[BoardExecutor.encodeLun i cdb]) := by
  refine settled performs ?_
  rw [wpExecute (takeRoom _ _ room),unsplit.opcode]
  exact ⟨rfl,rfl⟩

theorem sgOne (attempts : Nat) (performs : Performs SgExecutor.virtual operation (sendCommand cdb buf length) sg)
    (unsplit : Unsplit cmd cdb length) (room : length ≤ buf.length) (size : adapter.blockSize ≠ 0)
    (sends : ¬(cdb.getD 0 0 = ScsiCommand.requestSense ∧ adapter.senseDataValid = true)) :
    outcome SgExecutor.virtual attempts operation answers (start adapter defaultLength) =
      (sg (driverStatus (answers 0)),[cdb]) :=
  settled performs ((wpSendCommand (s := start adapter defaultLength) size unsplit.noBlocks sends unsplit.noDataOut
    (takeRoom _ _ (Nat.le_trans unsplit.total room))).mpr ⟨rfl,rfl⟩)

theorem sgUndefined (attempts : Nat) (performs : Performs SgExecutor.virtual operation (sendCommand cdb buf length) sg)
    (none : adapter.blockSize = 0) :
    outcome SgExecutor.virtual attempts operation answers (start adapter defaultLength) = (.error .undefinedBehaviour,[]) :=
  settled performs ((wpSendNothing none).mpr ⟨rfl,rfl⟩)

/- Both executors send the same command, and evaluate its status. -/
theorem alikeOne
    (boardPerforms : Performs (BoardExecutor.virtual i) operation (BoardExecutor.execute i cmd cdb buf length) board)
    (sgPerforms : Performs SgExecutor.virtual operation (sendCommand cdb buf length) sg)
    (unsplit : Unsplit cmd cdb length) (room : length ≤ buf.length)
    (sends : ¬(cdb.getD 0 0 = ScsiCommand.requestSense ∧ adapter.senseDataValid = true))
    (defined : ∀ status, board status ≠ .error .undefinedBehaviour) :
    Alike i operation answers (start adapter defaultLength) ↔
      adapter.blockSize ≠ 0 ∧ board (boardStatus (answers 0) length) = sg (driverStatus (answers 0)) := by
  constructor
  · intro alike
    obtain ⟨same,_,_⟩ := alike 0
    rw [boardOne 0 boardPerforms unsplit room] at same
    by_cases size : adapter.blockSize = 0
    · rw [sgUndefined 0 sgPerforms size] at same
      exact (defined _ same).elim
    · rw [sgOne 0 sgPerforms unsplit room size sends] at same
      exact ⟨size,same⟩
  · rintro ⟨size,equal⟩ attempts
    simp only [boardOne attempts boardPerforms unsplit room,sgOne attempts sgPerforms unsplit room size sends]
    exact ⟨equal,defined _,sameOne unsplit.long⟩

end

def withAllocation (cmd : ScsiCommand) (length : Nat) : Bytes := (newCdb 6 cmd).set 4 (UInt8.ofNat length)

def modeSenseCdb (length : Nat) : Bytes := (((newCdb 6 .modeSense6).set 1 0x08).set 2 0x3f).set 4 (UInt8.ofNat length)

/- The allocation length of a CDB is that of the buffer, or less. -/
theorem byteTotal {cdb : Bytes} {length : Nat} (one : getAllocationLength cdb = (length % 2^8 : Nat)) :
    min (totalLength cdb length) maxTransferLength ≤ length := by
  unfold totalLength
  rw [one]
  simp only [Int.toNat_natCast]
  split <;> omega

def successOf (status : Nat) : Except DumpException Report := .ok (.success (status = 0))

theorem successAgrees {a : Answer} {length : Nat} :
    successOf (boardStatus a length) = successOf (driverStatus a) ↔ Plain a length := by
  rw [← plainIff]
  simp [successOf]

theorem inquiryAlike (buf : Bytes) : Alike i (.inquiry buf) answers (start adapter defaultLength) ↔
    adapter.blockSize ≠ 0 ∧ Plain (answers 0) buf.length := by
  have board : Performs (BoardExecutor.virtual i) (.inquiry buf)
      (BoardExecutor.execute i .inquiry (withAllocation .inquiry buf.length) buf buf.length) successOf :=
      fun attempts r s Q E => by
    unfold DumpOperation.perform S2pDumpExecutor.inquiry BoardExecutor.virtual
    simp only [wpBind,wpPure]
    rfl
  have sg : Performs SgExecutor.virtual (.inquiry buf)
      (sendCommand (withAllocation .inquiry buf.length) buf buf.length) successOf :=
      fun attempts r s Q E => by
    unfold DumpOperation.perform S2pDumpExecutor.inquiry SgExecutor.virtual
    simp only [wpBind,wpPure]
    rfl
  have unsplit : Unsplit .inquiry (withAllocation .inquiry buf.length) buf.length :=
    ⟨rfl,Nat.le_of_ble_eq_true rfl,rfl,rfl,byteTotal rfl⟩
  rw [alikeOne board sg unsplit (Nat.le_refl _) (fun known => by cases known.1)
    (fun _ wrong => by cases wrong),successAgrees]

theorem modeSenseAlike (buf : Bytes) : Alike i (.modeSense6 buf) answers (start adapter defaultLength) ↔
    adapter.blockSize ≠ 0 ∧ Plain (answers 0) buf.length := by
  have board : Performs (BoardExecutor.virtual i) (.modeSense6 buf)
      (BoardExecutor.execute i .modeSense6 (modeSenseCdb buf.length) buf buf.length) successOf :=
      fun attempts r s Q E => by
    unfold DumpOperation.perform S2pDumpExecutor.modeSense6 BoardExecutor.virtual
    simp only [wpBind,wpPure]
    rfl
  have sg : Performs SgExecutor.virtual (.modeSense6 buf)
      (sendCommand (modeSenseCdb buf.length) buf buf.length) successOf :=
      fun attempts r s Q E => by
    unfold DumpOperation.perform S2pDumpExecutor.modeSense6 SgExecutor.virtual
    simp only [wpBind,wpPure]
    rfl
  have unsplit : Unsplit .modeSense6 (modeSenseCdb buf.length) buf.length :=
    ⟨rfl,Nat.le_of_ble_eq_true rfl,rfl,rfl,byteTotal rfl⟩
  rw [alikeOne board sg unsplit (Nat.le_refl _) (fun known => by cases known.1)
    (fun _ wrong => by cases wrong),successAgrees]

theorem testUnitReadyAlike : Alike i .testUnitReady answers (start adapter defaultLength) ↔
    adapter.blockSize ≠ 0 := by
  have board : Performs (BoardExecutor.virtual i) .testUnitReady
      (BoardExecutor.execute i .testUnitReady (newCdb 6 .testUnitReady) [] 0) (fun _ => .ok .nothing) :=
      fun attempts r s Q E => by
    unfold DumpOperation.perform S2pDumpExecutor.testUnitReady BoardExecutor.virtual
    simp only [wpBind,wpPure]
    rfl
  have sg : Performs SgExecutor.virtual .testUnitReady
      (sendCommand (newCdb 6 .testUnitReady) [] 0) (fun _ => .ok .nothing) :=
      fun attempts r s Q E => by
    unfold DumpOperation.perform S2pDumpExecutor.testUnitReady SgExecutor.virtual
    simp only [wpBind,wpPure]
    rfl
  have unsplit : Unsplit .testUnitReady (newCdb 6 .testUnitReady) 0 := ⟨rfl,by decide,rfl,rfl,by decide⟩
  rw [alikeOne board sg unsplit (Nat.le_refl _) (fun known => by cases known.1)
    (fun _ wrong => by cases wrong)]
  exact and_iff_left rfl

theorem synchronizeCacheAlike : Alike i .synchronizeCache answers (start adapter defaultLength) ↔
    adapter.blockSize ≠ 0 := by
  have board : Performs (BoardExecutor.virtual i) .synchronizeCache
      (BoardExecutor.execute i .synchronizeCache10 (newCdb 10 .synchronizeCache10) [] 0) (fun _ => .ok .nothing) :=
      fun attempts r s Q E => by
    unfold DumpOperation.perform S2pDumpExecutor.synchronizeCache BoardExecutor.virtual
    simp only [wpBind,wpPure]
    rfl
  have sg : Performs SgExecutor.virtual .synchronizeCache
      (sendCommand (newCdb 10 .synchronizeCache10) [] 0) (fun _ => .ok .nothing) :=
      fun attempts r s Q E => by
    unfold DumpOperation.perform S2pDumpExecutor.synchronizeCache SgExecutor.virtual
    simp only [wpBind,wpPure]
    rfl
  have unsplit : Unsplit .synchronizeCache10 (newCdb 10 .synchronizeCache10) 0 := ⟨rfl,by decide,rfl,rfl,by decide⟩
  rw [alikeOne board sg unsplit (Nat.le_refl _) (fun known => by cases known.1)
    (fun _ wrong => by cases wrong)]
  exact and_iff_left rfl

/- The negated status of one executor is that of the other only for an answer they do not
agree on. -/
theorem rewindAlike : Alike i .rewind answers (start adapter defaultLength) ↔
    adapter.blockSize ≠ 0 ∧ ¬Plain (answers 0) 0 := by
  have board : Performs (BoardExecutor.virtual i) .rewind
      (BoardExecutor.execute i .rewind (newCdb 6 .rewind) [] 0) successOf := fun attempts r s Q E => by
    unfold DumpOperation.perform S2pDumpExecutor.rewind BoardExecutor.virtual
    simp only [wpBind,wpPure]
    rfl
  have sg : Performs SgExecutor.virtual .rewind
      (sendCommand (newCdb 6 .rewind) [] 0) (fun status => successOf (if status = 0 then 1 else 0)) :=
      fun attempts r s Q E => by
    unfold DumpOperation.perform S2pDumpExecutor.rewind SgExecutor.virtual
    simp only [wpBind,wpPure]
    rfl
  have unsplit : Unsplit .rewind (newCdb 6 .rewind) 0 := ⟨rfl,by decide,rfl,rfl,by decide⟩
  rw [alikeOne board sg unsplit (Nat.le_refl _) (fun known => by cases known.1)
    (fun _ wrong => by cases wrong)]
  rw [← plainIff]
  by_cases zero : boardStatus (answers 0) 0 = 0 <;> by_cases none : driverStatus (answers 0) = 0 <;>
    simp [successOf,zero,none]

theorem writeFilemarkAlike : Alike i .writeFilemark answers (start adapter defaultLength) ↔
    adapter.blockSize ≠ 0 ∧ Plain (answers 0) 0 := by
  have board : Performs (BoardExecutor.virtual i) .writeFilemark
      (BoardExecutor.execute i .writeFilemarks6 (S2pDumpExecutor.setInt24 (newCdb 6 .writeFilemarks6) 2 1) [] 0) successOf :=
      fun attempts r s Q E => by
    unfold DumpOperation.perform S2pDumpExecutor.writeFilemark BoardExecutor.virtual
    simp only [wpBind,wpPure]
    rfl
  have sg : Performs SgExecutor.virtual .writeFilemark
      (sendCommand (S2pDumpExecutor.setInt24 (newCdb 6 .writeFilemarks6) 2 1) [] 0) successOf :=
      fun attempts r s Q E => by
    unfold DumpOperation.perform S2pDumpExecutor.writeFilemark SgExecutor.virtual
    simp only [wpBind,wpPure]
    rfl
  have unsplit : Unsplit .writeFilemarks6 (S2pDumpExecutor.setInt24 (newCdb 6 .writeFilemarks6) 2 1) 0 := ⟨rfl,by decide,rfl,rfl,by decide⟩
  rw [alikeOne board sg unsplit (Nat.le_refl _) (fun known => by cases known.1)
    (fun _ wrong => by cases wrong),successAgrees]

def spacedBack (status : Nat) : Except DumpException Report :=
  if status ≠ 0 then .error (.ioException "Can't space back one block") else .ok .nothing

theorem spaceBackAlike : Alike i .spaceBack answers (start adapter defaultLength) ↔
    adapter.blockSize ≠ 0 ∧ Plain (answers 0) 0 := by
  have board : Performs (BoardExecutor.virtual i) .spaceBack
      (BoardExecutor.execute i .space6 (S2pDumpExecutor.setInt24 (newCdb 6 .space6) 2 (-1)) [] 0) spacedBack :=
      fun attempts r s Q E => by
    unfold DumpOperation.perform S2pDumpExecutor.spaceBack BoardExecutor.virtual
    simp only [wpBind,wpPure,wpIte,wpThrow,spacedBack,settleUnless]
  have sg : Performs SgExecutor.virtual .spaceBack
      (sendCommand (S2pDumpExecutor.setInt24 (newCdb 6 .space6) 2 (-1)) [] 0) spacedBack :=
      fun attempts r s Q E => by
    unfold DumpOperation.perform S2pDumpExecutor.spaceBack SgExecutor.virtual
    simp only [wpBind,wpPure,wpIte,wpThrow,spacedBack,settleUnless]
  have unsplit : Unsplit .space6 (S2pDumpExecutor.setInt24 (newCdb 6 .space6) 2 (-1)) 0 := ⟨rfl,by decide,rfl,rfl,by decide⟩
  rw [alikeOne board sg unsplit (Nat.le_refl _) (fun known => by cases known.1)
    (fun status => by by_cases zero : status = 0 <;> simp [spacedBack,zero])]
  rw [← plainIff]
  by_cases zero : boardStatus (answers 0) 0 = 0 <;> by_cases none : driverStatus (answers 0) = 0 <;>
    simp [spacedBack,zero,none]

theorem requestSenseAlike (buf : Bytes) : Alike i (.requestSense buf) answers (start adapter defaultLength) ↔
    adapter.blockSize ≠ 0 ∧ adapter.senseDataValid = false := by
  have boardPerforms : Performs (BoardExecutor.virtual i) (.requestSense buf) (BoardExecutor.execute i .requestSense
      (withAllocation .requestSense buf.length) buf buf.length) fun _ => .ok .nothing := fun attempts r s Q E => by
    unfold DumpOperation.perform S2pDumpExecutor.requestSense BoardExecutor.virtual
    simp only [wpBind,wpPure]
    rfl
  have sgPerforms : Performs SgExecutor.virtual (.requestSense buf)
      (sendCommand (withAllocation .requestSense buf.length) buf buf.length) fun _ => .ok .nothing :=
    fun attempts r s Q E => by
      unfold DumpOperation.perform S2pDumpExecutor.requestSense SgExecutor.virtual
      simp only [wpBind,wpPure]
      rfl
  have unsplit : Unsplit .requestSense (withAllocation .requestSense buf.length) buf.length :=
    ⟨rfl,Nat.le_of_ble_eq_true rfl,rfl,rfl,byteTotal rfl⟩
  by_cases valid : adapter.senseDataValid = true
  · -- The adapter returns the sense data it has kept.
    refine ⟨fun alike => ?_,fun known => by rw [known.2] at valid; cases valid⟩
    obtain ⟨same,_,commands⟩ := alike 0
    rw [boardOne 0 boardPerforms unsplit (Nat.le_refl _)] at same commands
    by_cases size : adapter.blockSize = 0
    · rw [sgUndefined 0 sgPerforms size] at same
      cases same
    · have kept : outcome SgExecutor.virtual 0 (.requestSense buf) answers (start adapter defaultLength) =
          (.ok .nothing,[]) := by
        refine settled sgPerforms ?_
        rw [wpKeptSense size rfl valid]
        exact ⟨rfl,rfl⟩
      rw [kept] at commands
      obtain ⟨d,ds,none,_⟩ := sameUnsplit commands (by
        rw [← opcodeWithoutLun,withoutLunEncoded unsplit.long]
        exact ⟨(fun wrong => by cases wrong),(fun wrong => by cases wrong)⟩)
      cases none
  · rw [alikeOne boardPerforms sgPerforms unsplit (Nat.le_refl _) (fun known => valid known.2) (fun _ wrong => by cases wrong)]
    simp [valid]

/-! READ CAPACITY. -/

def longCapacityCdb : Bytes :=
  ((newCdb 10 .readCapacity10 ++ List.replicate 6 0).set 0 ScsiCommand.readCapacityReadLong16).set 1 0x10

theorem longCapacityEncoded : ((BoardExecutor.encodeLun i (newCdb 10 .readCapacity10) ++ List.replicate 6 0).set 0
    ScsiCommand.readCapacityReadLong16).set 1 0x10 = longCapacityCdb := by
  unfold BoardExecutor.encodeLun
  split <;> rfl

def asksAgain (status : Nat) (a : Answer) : Bool := status = 0 && getInt32 (capacityBuffer a) 0 = 2^32 - 1

def capacityOf (status : Nat) (a : Answer) (again : Nat) (b : Answer) : Report :=
  if status ≠ 0 then .capacity 0 0
  else if getInt32 (capacityBuffer a) 0 = 2^32 - 1 then
    if again ≠ 0 then .capacity 0 0
    else .capacity ((getInt64 (longCapacityBuffer a b) 0 + 1) % 2^64) (getInt32 (longCapacityBuffer a b) 8)
  else .capacity (getInt32 (capacityBuffer a) 0 + 1) (getInt32 (capacityBuffer a) 4)

def capacityCdbs (status : Nat) (a : Answer) (c d : Bytes) : List Bytes := if asksAgain status a then [c,d] else [c]

theorem capacityBufferLength (a : Answer) : (capacityBuffer a).length = 14 := by
  unfold capacityBuffer setBytes
  rw [overwriteLength]
  · rfl
  · rw [List.length_take,List.length_replicate]
    omega

/- Both commands, with the CDB that the first one leaves. -/
theorem capacityOutcome {v : ExecutorVirtual Nat} {attempts first again : Nat} {a b : Answer} {c d : Bytes}
    {s : DumpState Nat} (left left' : Bytes) (t t' : DumpState Nat)
    (one : ∀ Q E, wp (v.readCapacity10 (newCdb 10 .readCapacity10) (List.replicate 14 0)) (answering answers) s Q E ↔
      Q ⟨first,left,capacityBuffer a⟩ t)
    (two : ∀ Q E, wp (v.readCapacity16 (((left ++ List.replicate 6 0).set 0 ScsiCommand.readCapacityReadLong16).set 1 0x10)
      (capacityBuffer a)) (answering answers) t Q E ↔ Q ⟨again,left',longCapacityBuffer a b⟩ t')
    (sent : t.sent = [c]) (sentAgain : t'.sent = [c,d]) :
    outcome v attempts .readCapacity answers s = (.ok (capacityOf first a again b),capacityCdbs first a c d) := by
  refine outcomeOf ?_
  unfold DumpOperation.perform S2pDumpExecutor.readCapacity readCapacity16 capacityOf capacityCdbs asksAgain
  simp only [wpBind,one,wpIte,wpPure]
  by_cases failed : first = 0
  · by_cases long : getInt32 (capacityBuffer a) 0 = 2^32 - 1
    · simp only [failed,long,two,sentAgain,ne_eq,not_true,false_implies,true_implies,true_and,and_true,if_true,if_false,
        decide_true,Bool.and_self,not_false_eq_true]
      by_cases second : again = 0 <;> simp [second]
    · simp only [failed,long,sent,ne_eq,not_true,not_false_eq_true,false_implies,true_implies,and_true,if_false,
        decide_true,decide_false,Bool.and_false,Bool.false_eq_true]
  · simp [failed,sent]

theorem boardCapacity (attempts : Nat) : outcome (BoardExecutor.virtual i) attempts .readCapacity answers
    (start adapter defaultLength) = (.ok (capacityOf (boardStatus (answers 0) 8) (answers 0)
      (boardStatus (answers 1) 14) (answers 1)),capacityCdbs (boardStatus (answers 0) 8) (answers 0)
        (BoardExecutor.encodeLun i (newCdb 10 .readCapacity10)) (BoardExecutor.encodeLun i longCapacityCdb)) := by
  refine capacityOutcome (BoardExecutor.encodeLun i (newCdb 10 .readCapacity10)) (BoardExecutor.encodeLun i longCapacityCdb)
    (after (start adapter defaultLength) (BoardExecutor.encodeLun i (newCdb 10 .readCapacity10)))
    (after (after (start adapter defaultLength) (BoardExecutor.encodeLun i (newCdb 10 .readCapacity10)))
      (BoardExecutor.encodeLun i longCapacityCdb)) (fun Q E => ?_) (fun Q E => ?_) rfl rfl
  · unfold BoardExecutor.virtual
    exact wpExecute (takeRoom _ _ (by decide))
  · rw [longCapacityEncoded]
    unfold BoardExecutor.virtual
    exact wpExecute (takeRoom _ _ (by rw [capacityBufferLength]))

theorem sgCapacity (attempts : Nat) (size : adapter.blockSize ≠ 0) : outcome SgExecutor.virtual attempts .readCapacity answers
    (start adapter defaultLength) = (.ok (capacityOf (driverStatus (answers 0)) (answers 0)
      (driverStatus (answers 1)) (answers 1)),capacityCdbs (driverStatus (answers 0)) (answers 0)
        (newCdb 10 .readCapacity10) longCapacityCdb) := by
  refine capacityOutcome (newCdb 10 .readCapacity10) longCapacityCdb
    { after (start adapter defaultLength) (newCdb 10 .readCapacity10) with adapter := adapter.keepSense (answers 0) }
    { after (after (start adapter defaultLength) (newCdb 10 .readCapacity10)) longCapacityCdb with
      adapter := (adapter.keepSense (answers 0)).keepSense (answers 1) } (fun Q E => ?_) (fun Q E => ?_) rfl rfl
  · have total : min (totalLength (newCdb 10 .readCapacity10) 8) maxTransferLength = 8 := by decide
    refine (wpSendCommand size rfl (fun known => by cases known.1) rfl (takeRoom _ _ (by rw [total]; decide))).trans ?_
    rw [total,markOther fun wrong => by cases wrong]
    rfl
  · have total : min (totalLength longCapacityCdb 14) maxTransferLength = 14 := by decide
    change wp (sendCommand longCapacityCdb (capacityBuffer (answers 0)) 14) _ _ Q E ↔ _
    refine (wpSendCommand size rfl (fun known => by cases known.1) rfl
      (takeRoom _ _ (by rw [total,capacityBufferLength]))).trans ?_
    rw [total,markOther fun wrong => by cases wrong]
    rfl

/- The number of sectors is one more than that of the last one. -/
theorem capacityAgrees (status status' again again' : Nat) (a b : Answer) :
    capacityOf status a again b = capacityOf status' a again' b ∧ (asksAgain status a = asksAgain status' a) ↔
      (status = 0 ↔ status' = 0) ∧ (status = 0 → getInt32 (capacityBuffer a) 0 = 2^32 - 1 →
        (again = 0 ↔ again' = 0) ∨ (getInt64 (longCapacityBuffer a b) 0 + 1) % 2^64 = 0 ∧
          getInt32 (longCapacityBuffer a b) 8 = 0) := by
  unfold capacityOf asksAgain
  by_cases long : getInt32 (capacityBuffer a) 0 = 2^32 - 1
  · simp only [long,if_true,decide_true,Bool.and_true,true_implies]
    by_cases zero : status = 0 <;> by_cases zero' : status' = 0 <;> by_cases same : again = 0 <;>
      by_cases same' : again' = 0 <;> simp [zero,zero',same,same',eq_comm]
  · simp only [long,if_false,decide_false,Bool.and_false,and_true,false_implies,implies_true]
    by_cases zero : status = 0 <;> by_cases zero' : status' = 0 <;> simp [zero,zero']

/- READ CAPACITY is not split. -/
theorem capacityAsked {status status' : Nat} {a : Answer}
    (commands : SameCommands (capacityCdbs status a (BoardExecutor.encodeLun i (newCdb 10 .readCapacity10))
      (BoardExecutor.encodeLun i longCapacityCdb)) (capacityCdbs status' a (newCdb 10 .readCapacity10) longCapacityCdb)) :
    asksAgain status a = asksAgain status' a := by
  have other : (BoardExecutor.encodeLun i (newCdb 10 .readCapacity10)).getD 0 0 ≠ ScsiCommand.read10 ∧
      (BoardExecutor.encodeLun i (newCdb 10 .readCapacity10)).getD 0 0 ≠ ScsiCommand.write10 := by
    rw [← opcodeWithoutLun,withoutLunEncoded (by decide)]
    decide
  have other' : (BoardExecutor.encodeLun i longCapacityCdb).getD 0 0 ≠ ScsiCommand.read10 ∧
      (BoardExecutor.encodeLun i longCapacityCdb).getD 0 0 ≠ ScsiCommand.write10 := by
    rw [← opcodeWithoutLun,withoutLunEncoded (by decide)]
    decide
  unfold capacityCdbs at commands
  cases first : asksAgain status a <;> cases second : asksAgain status' a <;>
    simp only [first,second,if_true,if_false,Bool.false_eq_true] at commands ⊢
  · obtain ⟨d,ds,log,_,rest⟩ := sameUnsplit commands other
    cases log
    cases sameNothing rest
  · obtain ⟨d,ds,log,_,rest⟩ := sameUnsplit commands other
    cases log
    obtain ⟨_,_,wrong,_⟩ := sameUnsplit rest other'
    cases wrong

theorem readCapacityAlike : Alike i .readCapacity answers (start adapter defaultLength) ↔
    adapter.blockSize ≠ 0 ∧ CapacityAlike (answers 0) (answers 1) := by
  have agrees := capacityAgrees (boardStatus (answers 0) 8) (driverStatus (answers 0)) (boardStatus (answers 1) 14)
    (driverStatus (answers 1)) (answers 0) (answers 1)
  have plain : CapacityAlike (answers 0) (answers 1) ↔ (boardStatus (answers 0) 8 = 0 ↔ driverStatus (answers 0) = 0) ∧
      (boardStatus (answers 0) 8 = 0 → getInt32 (capacityBuffer (answers 0)) 0 = 2^32 - 1 →
        (boardStatus (answers 1) 14 = 0 ↔ driverStatus (answers 1) = 0) ∨
          (getInt64 (longCapacityBuffer (answers 0) (answers 1)) 0 + 1) % 2^64 = 0 ∧
            getInt32 (longCapacityBuffer (answers 0) (answers 1)) 8 = 0) := by
    rw [plainIff,plainIff]
    unfold CapacityAlike LongCapacityAlike
    refine and_congr_right fun good => ?_
    have ready : boardStatus (answers 0) 8 = 0 ↔ (answers 0).status = 0 := by
      unfold boardStatus
      by_cases zero : (answers 0).status = 0
      · rw [if_pos (good.2 zero)]
      · split
        · exact Iff.rfl
        · exact ⟨(fun wrong => by cases wrong),fun wrong => (zero wrong).elim⟩
    rw [ready]
  rw [plain,← agrees]
  constructor
  · intro alike
    obtain ⟨same,_,commands⟩ := alike 0
    by_cases size : adapter.blockSize = 0
    · have undefined : outcome SgExecutor.virtual 0 .readCapacity answers (start adapter defaultLength) =
          (.error .undefinedBehaviour,[]) := by
        refine outcomeOf ?_
        unfold DumpOperation.perform S2pDumpExecutor.readCapacity SgExecutor.virtual
        rw [wpBind,wpBind]
        exact (wpSendNothing size).mpr ⟨rfl,rfl⟩
      rw [boardCapacity,undefined] at same
      cases same
    · refine ⟨size,?_⟩
      rw [boardCapacity,sgCapacity 0 size] at same commands
      exact ⟨Except.ok.inj same,capacityAsked commands⟩
  · rintro ⟨size,equal,again⟩ attempts
    rw [boardCapacity,sgCapacity attempts size]
    refine ⟨congrArg Except.ok equal,(fun wrong => by cases wrong),?_⟩
    unfold capacityCdbs
    dsimp only
    rw [again]
    split
    · exact .same (withoutLunEncoded (by decide)) (sameOne (by decide))
    · exact sameOne (by decide)

end
end ExecutorsAlike
end Scsi2Pi
