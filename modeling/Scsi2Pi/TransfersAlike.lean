import Scsi2Pi.ExecutorsAlike

/-! Transfers of disk blocks and tape blocks with both executors, and for which
operations and answers the executors of s2pdump are alike. -/
namespace Scsi2Pi.ExecutorsAlike
open Slices MemoryUtil CommandMetaData Eff DumpEff S2pDumpExecutor SgAdapter SgUtil

section
variable {i : BoardExecutor.Initiator} {answers : Nat → Answer} {s : DumpState Nat} {adapter : SgAdapter}
  {defaultLength : Int}

section
variable {cmd : ScsiCommand} {first count : Nat}

theorem transferCount : getInt16 (transfer cmd first count) 7 = count % 2^16 := by
  rw [transferBytes]
  simp only [getInt16,byteAt,List.getD_cons_succ,List.getD_cons_zero,UInt8.toNat_ofNat']
  omega

theorem countWithoutLun (cdb : Bytes) : getInt16 (withoutLun cdb) 7 = getInt16 cdb 7 := by
  have other (n : Nat) (h : 1 ≠ n) : byteAt (withoutLun cdb) n = byteAt cdb n := by
    simp only [withoutLun,byteAt,List.getD_eq_getElem?_getD,List.getElem?_set_ne h]
  simp only [getInt16,other 7 (by decide),other 8 (by decide)]

theorem transferMetaData (disk : cmd = .read10 ∨ cmd = .write10) :
    getCdbMetaData ((transfer cmd first count).getD 0 0) = ⟨7,2,2,4,cmd = .write10⟩ := by
  have opcode : (transfer cmd first count).getD 0 0 = cmd := rfl
  rw [opcode]
  rcases disk with rfl | rfl <;> decide

theorem setCount (other : Nat) : setInt16 (transfer cmd first count) 7 other = transfer cmd first other := by
  simp [transferBytes,setInt16,setBytes,overwrite,bigEndian,List.range,List.range.loop]

theorem setStart (other : Nat) : setInt32 (transfer cmd first count) 2 other = transfer cmd other count := by
  simp [transferBytes,setInt32,setBytes,overwrite,bigEndian,List.range,List.range.loop]

theorem setTransferCount (disk : cmd = .read10 ∨ cmd = .write10) (other : Nat) :
    setBlockCount (transfer cmd first count) other = transfer cmd first other := by
  unfold setBlockCount
  simp only [transferMetaData disk]
  exact setCount other

theorem transferAllocation (disk : cmd = .read10 ∨ cmd = .write10) :
    getAllocationLength (transfer cmd first count) = (count % 2^16 : Nat) := by
  have offset : (7 : Int).toNat = 7 := rfl
  unfold getAllocationLength
  simp only [transferMetaData disk,offset,transferCount]
  exact if_neg (by decide)

theorem transferTotal (disk : cmd = .read10 ∨ cmd = .write10) (length : Nat) :
    totalLength (transfer cmd first count) length = transferLength count length := by
  unfold totalLength transferLength
  rw [transferAllocation disk]
  simp only [Int.toNat_natCast,ne_eq,Int.natCast_eq_zero]

theorem driverSends {cdb buf : Bytes} {length : Nat} {Q : Executed Nat → DumpState Nat → Prop}
    {E : DumpException → DumpState Nat → Prop}
    (sent : ∀ executed adapter, executed.cdb = cdb → adapter.blockSize = s.adapter.blockSize →
      Q executed { after s cdb with adapter }) (undefined : E .undefinedBehaviour (after s cdb)) :
    wp (sendToDriver cdb buf length) (answering answers) s Q E := by
  unfold sendToDriver
  simp only [wpBind,wpSend,wpReceive,wpPure,wpModify]
  exact ⟨fun _ => undefined,fun _ => sent _ _ rfl rfl⟩

theorem transferOpcode (disk : cmd = .read10 ∨ cmd = .write10) :
    (transfer cmd first count).getD 0 0 ≠ ScsiCommand.requestSense ∧
    (getCdbMetaData ((transfer cmd first count).getD 0 0)).blockSize ≠ 0 := by
  have opcode : (transfer cmd first count).getD 0 0 = cmd := rfl
  constructor
  · rw [opcode]
    rcases disk with rfl | rfl <;> decide
  · rw [transferMetaData disk]
    exact Nat.succ_ne_zero 3

/- One piece, and the others. -/
theorem wpPieces {pieces total : Nat} {buf : Bytes} {Q : Executed Nat → DumpState Nat → Prop}
    {E : DumpException → DumpState Nat → Prop} (disk : cmd = .read10 ∨ cmd = .write10) (size : s.adapter.blockSize ≠ 0) :
    wp (sendPieces (pieces+1) (transfer cmd first count) buf total) (answering answers) s Q E ↔
      wp (sendToDriver (transfer cmd first (min total maxTransferLength / s.adapter.blockSize)) buf
        (min total maxTransferLength)) (answering answers) s
        (fun e t => (e.returned ≠ 0 ∨ total ≤ min total maxTransferLength → Q e t) ∧
          (¬(e.returned ≠ 0 ∨ total ≤ min total maxTransferLength) →
            wp (sendPieces pieces (updateStartBlock e.cdb (min total maxTransferLength / s.adapter.blockSize))
              (e.buf.drop (min total maxTransferLength)) (total - min total maxTransferLength)) (answering answers) t
              (fun rest t => Q { rest with buf := e.buf.take (min total maxTransferLength) ++ rest.buf } t) E)) E := by
  have opcode (n : Nat) : ¬((transfer cmd first n).getD 0 0 = ScsiCommand.requestSense ∧ s.adapter.senseDataValid = true) :=
    fun known => (transferOpcode disk).1 known.1
  have blocks : ¬(getCdbMetaData ((transfer cmd first count).getD 0 0)).blockSize = 0 := (transferOpcode disk).2
  conv_lhs => unfold sendPieces sendCommandInternal
  simp only [wpBind,wpGet,wpIte,wpThrow,wpPure,size,setTransferCount disk,opcode,blocks,false_or,false_implies,true_and,
    not_false_eq_true,true_implies,wpModify]

theorem pieceUpdated (disk : cmd = .read10 ∨ cmd = .write10) (blocks : Nat) :
    updateStartBlock (transfer cmd first count) blocks =
      transfer cmd (getInt32 (transfer cmd first count) 2 + blocks) count := by
  unfold updateStartBlock
  simp only [transferMetaData disk]
  exact setStart _

/- Each piece is sent. -/
theorem piecesSend {pieces total : Nat} {buf : Bytes} (disk : cmd = .read10 ∨ cmd = .write10)
    (size : s.adapter.blockSize ≠ 0) :
    wp (sendPieces (pieces+1) (transfer cmd first count) buf total) (answering answers) s
      (fun _ t => s.sent.length < t.sent.length) fun _ t => s.sent.length < t.sent.length := by
  have grown (cdb : Bytes) : s.sent.length < (after s cdb).sent.length := by
    simp [after]
  induction pieces generalizing first count buf total s with
  | zero =>
    refine (wpPieces disk size).mpr (driverSends (fun e adapter _ _ => ⟨fun _ => grown _,fun _ => ?_⟩) (grown _))
    exact grown _
  | succ pieces ih =>
    refine (wpPieces disk size).mpr (driverSends (fun e adapter left same => ⟨fun _ => grown _,fun _ => ?_⟩) (grown _))
    rw [left,pieceUpdated disk]
    refine wpMono (ih (by rw [same]; exact size) fun cdb => ?_) (fun _ t longer => ?_) fun _ t longer => ?_
    · simp [after]
    · exact Nat.lt_trans (grown _) longer
    · exact Nat.lt_trans (grown _) longer

def diskCommand (isWrite : Bool) : ScsiCommand := if isWrite then .write10 else .read10

theorem diskTransfer (isWrite : Bool) : diskCommand isWrite = .read10 ∨ diskCommand isWrite = .write10 := by
  cases isWrite
  · exact .inl rfl
  · exact .inr rfl

theorem diskDataOut (isWrite : Bool) :
    (getCdbMetaData ((transfer (diskCommand isWrite) first count).getD 0 0)).hasDataOut = isWrite := by
  rw [transferMetaData (diskTransfer isWrite)]
  cases isWrite <;> decide

section
variable {buf : Bytes} {bstart blength length : Nat} {isWrite : Bool}

theorem boardTransferPerforms : Performs (BoardExecutor.virtual i) (.readWrite buf bstart blength length isWrite)
    (BoardExecutor.execute i (diskCommand isWrite) (transfer (diskCommand isWrite) bstart blength) buf length)
      successOf := fun attempts r s Q E => by
  unfold DumpOperation.perform S2pDumpExecutor.readWrite BoardExecutor.virtual
  simp only [wpBind,wpPure]
  rfl

theorem sgTransferPerforms : Performs SgExecutor.virtual (.readWrite buf bstart blength length isWrite)
    (sendCommand (transfer (diskCommand isWrite) bstart blength) buf length) successOf := fun attempts r s Q E => by
  unfold DumpOperation.perform S2pDumpExecutor.readWrite SgExecutor.virtual
  simp only [wpBind,wpPure]
  rfl

/- The first piece, and whether it is the last one. -/
theorem wpTransfer {Q : Executed Nat → DumpState Nat → Prop} {E : DumpException → DumpState Nat → Prop}
    (size : s.adapter.blockSize ≠ 0) :
    wp (sendCommand (transfer (diskCommand isWrite) bstart blength) buf length) (answering answers) s Q E ↔
      wp (sendToDriver (transfer (diskCommand isWrite) bstart (pieceLength blength length / s.adapter.blockSize)) buf
        (pieceLength blength length)) (answering answers) s
        (fun e t => (e.returned ≠ 0 ∨ transferLength blength length ≤ pieceLength blength length →
            Q ⟨e.returned,transfer (diskCommand isWrite) bstart blength,e.buf⟩ t) ∧
          (¬(e.returned ≠ 0 ∨ transferLength blength length ≤ pieceLength blength length) →
            wp (sendPieces (transferLength blength length / maxTransferLength)
              (updateStartBlock e.cdb (pieceLength blength length / s.adapter.blockSize))
              (e.buf.drop (pieceLength blength length)) (transferLength blength length - pieceLength blength length))
              (answering answers) t
              (fun rest t => Q ⟨rest.returned,transfer (diskCommand isWrite) bstart blength,
                e.buf.take (pieceLength blength length) ++ rest.buf⟩ t) E)) E := by
  unfold sendCommand
  simp only [wpBind,wpPure,transferTotal (diskTransfer isWrite)]
  rw [wpPieces (diskTransfer isWrite) size]
  rfl

theorem boardTransfer (attempts : Nat) (room : ((answers 0).dataIn.take length).length ≤ buf.length) :
    outcome (BoardExecutor.virtual i) attempts (.readWrite buf bstart blength length isWrite) answers
      (start adapter defaultLength) = (successOf (boardStatus (answers 0) length),
        [BoardExecutor.encodeLun i (transfer (diskCommand isWrite) bstart blength)]) := by
  refine settled boardTransferPerforms ?_
  rw [wpExecute (s := start adapter defaultLength) room]
  cases isWrite <;> exact ⟨rfl,rfl⟩

theorem boardOverflow (attempts : Nat) (full : ¬((answers 0).dataIn.take length).length ≤ buf.length) :
    (outcome (BoardExecutor.virtual i) attempts (.readWrite buf bstart blength length isWrite) answers
      (start adapter defaultLength)).1 = .error .undefinedBehaviour := by
  refine outcomeKnown (P := fun result _ => result = .error .undefinedBehaviour)
    ((boardTransferPerforms _ _ _ _ _).mpr ?_)
  unfold BoardExecutor.execute
  simp only [wpBind,wpSend,wpReceive]
  exact ⟨fun _ => trivial,fun fits => (full (Nat.not_lt.mp fits)).elim⟩

theorem sgTransfer (attempts : Nat) (size : adapter.blockSize ≠ 0)
    (room : isWrite = false → ((answers 0).dataIn.take (pieceLength blength length)).length ≤ buf.length)
    (last : driverStatus (answers 0) ≠ 0 ∨ transferLength blength length ≤ pieceLength blength length) :
    outcome SgExecutor.virtual attempts (.readWrite buf bstart blength length isWrite) answers
      (start adapter defaultLength) = (successOf (driverStatus (answers 0)),
        [transfer (diskCommand isWrite) bstart (pieceLength blength length / adapter.blockSize)]) := by
  refine settled sgTransferPerforms ((wpTransfer (s := start adapter defaultLength) size).mpr ?_)
  rw [wpSendToDriver (s := start adapter defaultLength) (by rw [diskDataOut]; exact room)]
  exact ⟨fun _ => ⟨rfl,rfl⟩,fun more => (more last).elim⟩

theorem sgOverflow (attempts : Nat) (size : adapter.blockSize ≠ 0) (reading : isWrite = false)
    (full : ¬((answers 0).dataIn.take (pieceLength blength length)).length ≤ buf.length) :
    (outcome SgExecutor.virtual attempts (.readWrite buf bstart blength length isWrite) answers
      (start adapter defaultLength)).1 = .error .undefinedBehaviour := by
  refine outcomeKnown (P := fun result _ => result = .error .undefinedBehaviour)
    ((sgTransferPerforms _ _ _ _ _).mpr ((wpTransfer (s := start adapter defaultLength) size).mpr ?_))
  unfold sendToDriver
  simp only [wpBind,wpSend,wpReceive,diskDataOut,reading,Bool.false_eq_true,if_false]
  exact ⟨fun _ => trivial,fun fits => (full (Nat.not_lt.mp fits)).elim⟩

/- Another piece is another CDB. -/
theorem sgSplits (attempts bstart : Nat) (defaultLength : Int) (size : adapter.blockSize ≠ 0)
    (more : ¬(driverStatus (answers 0) ≠ 0 ∨ transferLength blength length ≤ pieceLength blength length))
    (room : isWrite = false → ((answers 0).dataIn.take (pieceLength blength length)).length ≤ buf.length) :
    1 < (outcome SgExecutor.virtual attempts (.readWrite buf bstart blength length isWrite) answers
      (start adapter defaultLength)).2.length := by
  refine outcomeKnown (P := fun _ log => 1 < log.length)
    ((sgTransferPerforms _ _ _ _ _).mpr ((wpTransfer (s := start adapter defaultLength) size).mpr ?_))
  rw [wpSendToDriver (s := start adapter defaultLength) (by rw [diskDataOut]; exact room)]
  refine ⟨fun last => (more last).elim,fun _ => ?_⟩
  have pieces : transferLength blength length / maxTransferLength =
      transferLength blength length / maxTransferLength - 1 + 1 := by
    have long : maxTransferLength < transferLength blength length := by
      have several := not_or.mp more
      unfold pieceLength at several
      omega
    have positive : 0 < transferLength blength length / maxTransferLength :=
      Nat.div_pos (Nat.le_of_lt long) (by decide)
    omega
  rw [pieces,pieceUpdated (diskTransfer isWrite)]
  refine wpMono (piecesSend (diskTransfer isWrite) size) (fun rest t longer => ?_) fun e t longer => ?_
  · exact settleKnown (s := t) (P := fun _ log => 1 < log.length) fun _ => longer
  · exact longer

theorem sgTransferUndefined (none : adapter.blockSize = 0) :
    (outcome SgExecutor.virtual 0 (.readWrite buf bstart blength length isWrite) answers
      (start adapter defaultLength)).1 = .error .undefinedBehaviour := by
  rw [settled sgTransferPerforms ((wpSendNothing (s := start adapter defaultLength) none).mpr ⟨rfl,rfl⟩)]

theorem transferLong {cmd : ScsiCommand} {first count : Nat} : 2 ≤ (transfer cmd first count).length :=
  Nat.le_of_ble_eq_true rfl

/- A transfer of no blocks has no pieces. -/
theorem transferNone {count : Nat} {log : List Bytes}
    (same : SameCommands [BoardExecutor.encodeLun i (transfer (diskCommand isWrite) bstart count)] log)
    (none : count % 2^16 = 0) : log.length ≤ 1 := by
  cases same with
  | same equal tail =>
    cases tail
    exact Nat.le_refl _
  | split disk whole small pieces tail =>
    cases tail
    rw [withoutLunEncoded transferLong] at whole
    have counts := congrArg (getInt16 · 7) whole
    simp only [countWithoutLun,transferCount,Nat.mod_eq_of_lt small] at counts
    cases pieces with
    | done => exact Nat.zero_le _
    | piece some rest => omega

/- A single piece is the transfer itself. -/
theorem transferOne {c count : Nat}
    (same : SameCommands [BoardExecutor.encodeLun i (transfer (diskCommand isWrite) bstart count)]
      [transfer (diskCommand isWrite) bstart c]) : c % 2^16 = count % 2^16 := by
  generalize logged : [transfer (diskCommand isWrite) bstart c] = log at same
  cases same with
  | same equal tail =>
    cases logged
    rw [withoutLunEncoded transferLong] at equal
    have counts := congrArg (getInt16 · 7) equal
    simp only [countWithoutLun,transferCount] at counts
    exact counts.symm
  | split disk whole small pieces tail =>
    cases tail
    rw [withoutLunEncoded transferLong] at whole
    have counts := congrArg (getInt16 · 7) whole
    simp only [countWithoutLun,transferCount,Nat.mod_eq_of_lt small] at counts
    cases pieces with
    | done => cases logged
    | piece some rest =>
      rw [List.append_nil] at logged
      obtain ⟨head,later⟩ := List.cons.inj logged
      cases later
      cases rest
      have one := congrArg (getInt16 · 7) head
      simp only [transferCount] at one
      omega

theorem transferCongr {cmd : ScsiCommand} {first a b : Nat} (same : a % 2^16 = b % 2^16) :
    transfer cmd first a = transfer cmd first b := by
  have high : UInt8.ofNat (a / 256^1) = UInt8.ofNat (b / 256^1) := UInt8.toNat_inj.mp (by
    simp only [UInt8.toNat_ofNat']
    omega)
  have low : UInt8.ofNat (a / 256^0) = UInt8.ofNat (b / 256^0) := UInt8.toNat_inj.mp (by
    simp only [UInt8.toNat_ofNat']
    omega)
  rw [transferBytes,transferBytes,high,low]

theorem transferAlike : Alike i (.readWrite buf bstart blength length isWrite) answers (start adapter defaultLength) ↔
    adapter.blockSize ≠ 0 ∧ TransferAlike (answers 0) buf blength length isWrite adapter.blockSize := by
  constructor
  · intro alike
    obtain ⟨same,defined,commands⟩ := alike 0
    have room : ((answers 0).dataIn.take length).length ≤ buf.length := by
      by_contra full
      exact defined (boardOverflow 0 full)
    have size : adapter.blockSize ≠ 0 := fun none => defined (same.trans (sgTransferUndefined none))
    have sgRoom : isWrite = false → ((answers 0).dataIn.take (pieceLength blength length)).length ≤ buf.length := by
      intro reading
      by_contra full
      exact defined (same.trans (sgOverflow 0 size reading full))
    rw [boardTransfer 0 room] at same commands
    by_cases last : driverStatus (answers 0) ≠ 0 ∨ transferLength blength length ≤ pieceLength blength length
    · rw [sgTransfer 0 size sgRoom last] at same commands
      have whole : (answers 0).status = 0 → transferLength blength length ≤ maxTransferLength := by
        intro good
        rcases last with failed | short
        · have zero : driverStatus (answers 0) = 0 := by
            unfold driverStatus
            split
            · rfl
            · exact good
          exact (failed zero).elim
        · unfold pieceLength at short
          omega
      exact ⟨size,transferOne commands,whole,successAgrees.mp same,room,sgRoom⟩
    · have several := sgSplits 0 bstart defaultLength size last sgRoom
      have none : blength % 2^16 = 0 := by
        have long := not_or.mp last
        unfold pieceLength transferLength maxTransferLength at long
        by_contra some
        rw [if_pos some] at long
        omega
      have single := transferNone commands none
      omega
  · rintro ⟨size,counts,whole,plain,room,sgRoom⟩ attempts
    have last : driverStatus (answers 0) ≠ 0 ∨ transferLength blength length ≤ pieceLength blength length := by
      by_cases good : (answers 0).status = 0
      · right
        have short := whole good
        unfold pieceLength
        omega
      · left
        have other : driverStatus (answers 0) = (answers 0).status := if_neg plain.1
        rw [other]
        exact good
    rw [boardTransfer attempts room,sgTransfer attempts size sgRoom last]
    rw [transferCongr counts]
    exact ⟨successAgrees.mpr plain,(fun wrong => by cases wrong),sameOne transferLong⟩

end
end

/-! Tape blocks. The CDBs of the SG driver have no opcode. -/

section
variable {r : Target Nat} {I : List Bytes → Prop} {cdb buf : Bytes} {length : Nat}

theorem executeKeeps {cmd : ScsiCommand} (grows : ∀ log c, I log → I (log ++ [c])) (known : I s.sent) :
    wp (BoardExecutor.execute i cmd cdb buf length) r s (fun _ t => I t.sent) fun _ t => I t.sent := by
  unfold BoardExecutor.execute
  simp only [wpBind,wpSend,wpReceive,wpPure]
  exact ⟨fun _ => grows _ _ known,fun _ => grows _ _ known⟩

theorem sendInternalKeeps (grows : ∀ log c, I log → I (log ++ [c])) (known : I s.sent) :
    wp (sendCommandInternal cdb buf length) r s (fun _ t => I t.sent) fun _ t => I t.sent := by
  unfold sendCommandInternal sendToDriver
  simp only [wpBind,wpGet,wpIte,wpModify,wpPure,wpSend,wpReceive]
  exact ⟨fun _ => known,fun _ => ⟨fun _ => grows _ _ known,fun _ => grows _ _ known⟩⟩

theorem sendPiecesKeeps {pieces : Nat} (grows : ∀ log c, I log → I (log ++ [c])) (known : I s.sent) :
    wp (sendPieces pieces cdb buf length) r s (fun _ t => I t.sent) fun _ t => I t.sent := by
  induction pieces generalizing cdb buf length s with
  | zero => exact known
  | succ pieces ih =>
    rw [sendPieces]
    simp only [wpBind,wpGet,wpIte,wpThrow,wpPure]
    refine ⟨fun _ => known,fun _ => wpMono (sendInternalKeeps grows known) (fun e t sent => ⟨fun _ => sent,fun _ => ?_⟩)
      fun e t sent => sent⟩
    exact ih sent

theorem sendCommandKeeps (grows : ∀ log c, I log → I (log ++ [c])) (known : I s.sent) :
    wp (sendCommand cdb buf length) r s (fun _ t => I t.sent) fun _ t => I t.sent := by
  unfold sendCommand
  simp only [wpBind,wpPure]
  exact sendPiecesKeeps grows known

theorem evaluateKeeps {v : ExecutorVirtual Nat} {E : List Bytes → Prop} {hasError : Bool} {sense : Bytes} (known : I s.sent)
    (space : ∀ t, I t.sent → wp (S2pDumpExecutor.spaceBack v) r t (fun _ t => I t.sent) fun _ t => E t.sent) :
    wp (evaluateSense v hasError sense) r s (fun _ t => I t.sent) fun _ t => E t.sent := by
  unfold evaluateSense
  simp only [wpBind,wpIte,wpPure,wpGet,wpModify]
  exact ⟨fun _ => known,fun _ => ⟨fun _ => ⟨fun _ => known,fun _ => space s known⟩,fun _ => ⟨fun _ => known,fun _ =>
    ⟨fun _ => ⟨fun _ => known,fun _ => space _ known⟩,fun _ => known⟩⟩⟩⟩

/- One attempt, after its READ. -/
theorem attemptKeeps {v : ExecutorVirtual Nat} {E : List Bytes → Prop} {hasError : Bool}
    (weaker : ∀ log, I log → E log)
    (read : wp (v.read (S2pDumpExecutor.setInt24 cdb 2 s.defaultLength) buf s.defaultLength.toNat) r s
      (fun _ t => I t.sent) fun _ t => E t.sent)
    (sense : ∀ t cdb buf, I t.sent → wp (v.requestSense cdb buf) r t (fun _ t => I t.sent) fun _ t => E t.sent)
    (space : ∀ t, I t.sent → wp (S2pDumpExecutor.spaceBack v) r t (fun _ t => I t.sent) fun _ t => E t.sent) :
    wp (readBlock v 1 hasError cdb buf) r s (fun _ t => I t.sent) fun _ t => E t.sent := by
  rw [readBlock]
  simp only [wpBind,wpGet,wpIte,wpPure,wpThrow]
  refine wpMono read (fun e t known => ⟨fun _ => known,fun _ => ?_⟩) fun _ _ known => known
  refine wpMono (sense t _ _ known) (fun e t known => ⟨fun _ => known,fun _ => ⟨fun _ => weaker _ known,fun _ => ?_⟩⟩)
    fun _ _ known => known
  refine wpMono (evaluateKeeps known space) (fun result t known => ?_) fun _ _ known => known
  cases result with
  | some value => exact known
  | none => exact weaker _ known

def StartsWith (opcode : UInt8) (log : List Bytes) : Prop := ∃ c rest, log = c :: rest ∧ c.getD 0 0 = opcode

theorem startsGrow {opcode : UInt8} (log : List Bytes) (c : Bytes) (h : StartsWith opcode log) :
    StartsWith opcode (log ++ [c]) := by
  obtain ⟨d,rest,rfl,same⟩ := h
  exact ⟨d,rest ++ [c],rfl,same⟩

theorem startsNew {opcode : UInt8} {c : Bytes} (h : c.getD 0 0 = opcode) : StartsWith opcode ([] ++ [c]) := ⟨c,[],rfl,h⟩

theorem executeStarts {cmd : ScsiCommand} (empty : s.sent = []) (some : cdb ≠ []) :
    wp (BoardExecutor.execute i cmd cdb buf length) r s (fun _ t => StartsWith cmd t.sent) fun _ t => StartsWith cmd t.sent := by
  have opcode : (BoardExecutor.encodeLun i (cdb.set 0 cmd)).getD 0 0 = cmd := by
    rw [BoardExecutor.encodedOpcode]
    cases cdb with
    | nil => exact (some rfl).elim
    | cons => rfl
  unfold BoardExecutor.execute
  simp only [wpBind,wpSend,wpReceive,wpPure,empty]
  exact ⟨fun _ => startsNew opcode,fun _ => startsNew opcode⟩

/- What is sent first, by each of the executors. -/
theorem boardTape (i : BoardExecutor.Initiator) (answers : Nat → Answer) (adapter : SgAdapter) (defaultLength : Int)
    (buf : Bytes) (length : Nat) : StartsWith (if length = 0 then ScsiCommand.read6 else ScsiCommand.write6)
      (outcome (BoardExecutor.virtual i) 1 (.readWriteTape buf length) answers (start adapter defaultLength)).2 := by
  refine outcomeKnown (P := fun _ log => StartsWith (if length = 0 then ScsiCommand.read6 else ScsiCommand.write6) log) ?_
  unfold DumpOperation.perform S2pDumpExecutor.readWriteTape
  simp only [wpBind,wpIte,wpPure,wpThrow]
  refine ⟨fun restore => ?_,fun dump => ?_⟩
  · rw [if_neg restore]
    unfold BoardExecutor.virtual
    simp only [wpBind,wpPure]
    refine wpMono (executeStarts rfl (fun wrong => by cases wrong)) (fun e t known => ⟨fun _ => known,fun _ => known⟩)
      fun e t known => known
  · have zero : length = 0 := not_not.mp dump
    rw [if_pos zero]
    refine attemptKeeps (fun _ known => known) ?_ (fun t cdb buf known => ?_) fun t known => ?_
    · unfold BoardExecutor.virtual
      simp only [wpBind,wpPure]
      exact executeStarts rfl (fun wrong => by cases wrong)
    · exact executeKeeps startsGrow known
    · unfold S2pDumpExecutor.spaceBack BoardExecutor.virtual
      simp only [wpBind,wpPure,wpIte,wpThrow]
      exact wpMono (executeKeeps startsGrow known) (fun e t known => ⟨fun _ => known,fun _ => known⟩) fun e t known => known

theorem sendStarts (empty : s.sent = []) (none : cdb.getD 0 0 = 0) :
    wp (sendCommand cdb buf length) (answering answers) s (fun _ t => StartsWith 0 t.sent)
      fun _ t => t.sent = [] ∨ StartsWith 0 t.sent := by
  have noBlocks : (getCdbMetaData (0 : ScsiCommand)).blockSize = 0 := rfl
  have same (count : Nat) : setBlockCount cdb count = cdb := by
    unfold setBlockCount
    rw [none]
    exact if_pos noBlocks
  unfold sendCommand sendPieces sendCommandInternal
  simp only [wpBind,wpGet,wpIte,wpPure,wpThrow,same,none,noBlocks]
  refine ⟨fun _ => .inl empty,fun _ => ⟨(fun wrong => by cases wrong.1),fun _ => ?_⟩⟩
  refine driverSends (fun e adapter _ _ => ⟨fun _ => ?_,fun more => (more (.inr (.inl trivial))).elim⟩) (.inr ?_)
  · exact ⟨cdb,[],by simp [after,empty],none⟩
  · exact ⟨cdb,[],by simp [after,empty],none⟩

theorem sgTape (answers : Nat → Answer) (adapter : SgAdapter) (defaultLength : Int) (buf : Bytes) (length : Nat) :
    (outcome SgExecutor.virtual 1 (.readWriteTape buf length) answers (start adapter defaultLength)).2 = [] ∨
    StartsWith 0 (outcome SgExecutor.virtual 1 (.readWriteTape buf length) answers (start adapter defaultLength)).2 := by
  refine outcomeKnown (P := fun _ log => log = [] ∨ StartsWith 0 log) ?_
  unfold DumpOperation.perform S2pDumpExecutor.readWriteTape
  simp only [wpBind,wpIte,wpPure,wpThrow]
  refine ⟨fun restore => ?_,fun dump => ?_⟩
  · unfold SgExecutor.virtual
    simp only [wpBind,wpPure]
    exact wpMono (sendStarts rfl rfl) (fun e t known => ⟨fun _ => .inr known,fun _ => .inr known⟩) fun e t known => known
  · refine wpMono (attemptKeeps (I := StartsWith 0) (E := fun log => log = [] ∨ StartsWith 0 log) (fun _ known => .inr known)
      ?_ (fun t cdb buf known => ?_) fun t known => ?_) (fun e t known => .inr known) fun e t known => known
    · unfold SgExecutor.virtual
      simp only [wpBind,wpPure]
      exact sendStarts rfl rfl
    · exact wpMono (sendCommandKeeps startsGrow known) (fun e t known => known) fun e t known => .inr known
    · unfold S2pDumpExecutor.spaceBack SgExecutor.virtual
      simp only [wpBind,wpPure,wpIte,wpThrow]
      exact wpMono (sendCommandKeeps startsGrow known) (fun e t known => ⟨fun _ => .inr known,fun _ => known⟩)
        fun e t known => .inr known

theorem tapeNever (buf : Bytes) (length : Nat) :
    ¬Alike i (.readWriteTape buf length) answers (start adapter defaultLength) := by
  intro alike
  obtain ⟨_,_,commands⟩ := alike 1
  obtain ⟨c,rest,log,opcode⟩ := boardTape i answers adapter defaultLength buf length
  rw [log] at commands
  obtain ⟨d,ds,sgLog,same,_⟩ := sameUnsplit commands (by
    rw [opcode]
    split <;> decide)
  rcases sgTape answers adapter defaultLength buf length with none | ⟨e,es,first,zero⟩
  · rw [none] at sgLog
    cases sgLog
  · rw [first] at sgLog
    cases sgLog
    have equal := sameOpcode same
    rw [opcode,zero] at equal
    by_cases dump : length = 0
    · rw [if_pos dump] at equal
      cases equal
    · rw [if_neg dump] at equal
      cases equal

end

end

/- Of the operations only those with one plain answer, and without an opcode or status
that one of the executors forgets. -/
theorem executorsAlike (i : BoardExecutor.Initiator) (operation : DumpOperation) (answers : Nat → Answer)
    (adapter : SgAdapter) (defaultLength : Int) :
    Alike i operation answers (start adapter defaultLength) ↔ AlikeWhen operation answers adapter := by
  cases operation with
  | testUnitReady => exact testUnitReadyAlike.trans (and_iff_left trivial).symm
  | requestSense buf => exact requestSenseAlike buf
  | inquiry buf => exact inquiryAlike buf
  | modeSense6 buf => exact modeSenseAlike buf
  | readCapacity => exact readCapacityAlike
  | readWrite buf bstart blength length isWrite => exact transferAlike
  | synchronizeCache => exact synchronizeCacheAlike.trans (and_iff_left trivial).symm
  | rewind => exact rewindAlike
  | spaceBack => exact spaceBackAlike
  | writeFilemark => exact writeFilemarkAlike
  | readWriteTape buf length => exact ⟨fun alike => (tapeNever buf length alike).elim,fun wrong => wrong.2.elim⟩

/- A target that answers each REWIND with GOOD. -/
theorem rewindDiffers : ¬∀ i operation answers adapter defaultLength,
    Alike i operation answers (start adapter defaultLength) := by
  intro alike
  have rewound := alike {} .rewind (fun _ => {}) {} 0xffffff
  exact (rewindAlike.mp rewound).2 ⟨by decide,fun _ => by decide⟩

end Scsi2Pi.ExecutorsAlike
