import Scsi2Pi.TapeFixedRead

/-! READ with fixed block sizes: the data the controller sends, chunk by chunk, and the
records of an image they come from. -/
namespace Scsi2Pi
open Slices MemoryUtil Handler Derives Eff SimhUtil

namespace Tape

/- How the data of a command end. -/
inductive DataEnd where
  | complete
  | failed (e : ScsiException)
  | unfinished
  deriving DecidableEq, Repr

/- The chunks that the controller sends; each one takes up some bytes of the file. -/
def sendAll : Nat → Int → Handler Tape (Bytes × DataEnd)
  | 0, _ => return ([],.unfinished)
  | fuel+1, length => do
    let sent := (← getTransfer).buffer.take length.toNat
    modifyTransfer fun t => t.updateTransferLength t.chunkSize
    if (← getTransfer).remainingLength = 0 then return (sent,.complete)
    tryCatch (do
      let _ ← readData
      let t ← getTransfer
      let (rest,ends) ← sendAll fuel (min t.remainingLength t.chunkSize)
      return (sent ++ rest,ends)) fun e => return (sent,.failed e)

/- A command with the data it sends. -/
def readCommand (cmd : ScsiCommand) : Handler Tape (Bytes × DataEnd) :=
  tryCatch (do
    match ← methods.dispatch cmd with
    | .dataIn length => sendAll (scanLimit ((← getDevice).stream (← getWorld))) length
    | _ => return ([],.complete)) fun e => return ([],.failed e)

/-! The chunks of a command. -/

/- The data that are sent, with the position behind their last record. The length of each
record divides the byte count of the command, but nothing says that it is the block size. -/
inductive Delivers (bytes : Bytes) (size count : Nat) : Int → Nat → Bytes → Int → Prop where
  | nothing {position : Int} : Delivers bytes size count position 0 [] position
  | chunk {position start stop : Int} {remains : Nat} {m : SimhMetaData} {data : Bytes} (more : 0 < remains)
      (next : NextBlock bytes position m start) (divides : count % m.value = 0)
      (fits : Closes bytes m.value start (min size remains))
      (later : Delivers bytes size count (start + pad m.value + metaDataSize) (remains - min size remains) data stop) :
      Delivers bytes size count position remains (slice bytes start.toNat (min size remains) ++ data) stop

section
variable {r : Request} {s : HandlerState Tape} {a : Asked} {bytes data data' : Bytes} {size count remains : Nat}
  {position stop stop' : Int} {m : SimhMetaData} {start : Int}

theorem deliversOnce (delivers : Delivers bytes size count position remains data stop)
    (delivers' : Delivers bytes size count position remains data' stop') : data = data' ∧ stop = stop' := by
  induction delivers generalizing data' with
  | nothing =>
    cases delivers' with
    | nothing => exact ⟨rfl,rfl⟩
    | chunk more => omega
  | chunk more next divides fits later ih =>
    cases delivers' with
    | nothing => omega
    | chunk more' next' divides' fits' later' =>
      obtain ⟨rfl,rfl⟩ := nextBlockOnce next next'
      obtain ⟨rfl,rfl⟩ := ih later'
      exact ⟨rfl,rfl⟩

theorem Delivers.first (delivers : Delivers bytes size count position remains data stop) (more : remains ≠ 0) :
    ∃ m start later, NextBlock bytes position m start ∧ count % m.value = 0 ∧ Closes bytes m.value start (min size remains) ∧
      Delivers bytes size count (start + pad m.value + metaDataSize) (remains - min size remains) later stop := by
  cases delivers with
  | nothing => exact absurd rfl more
  | chunk _ next divides fits later => exact ⟨_,_,_,next,divides,fits,later⟩

theorem Delivers.length (delivers : Delivers bytes size count position remains data stop) : data.length = remains := by
  induction delivers with
  | nothing => rfl
  | @chunk _ _ _ remains _ _ more next divides fits later ih =>
    have front := fits.data
    have valid := fits.valid
    rw [List.length_append,sliceLengthWithin (by omega),ih]
    omega

namespace Asked

/- What is left to do after a chunk has been sent. -/
def sent (a : Asked) : Asked := { a with remains := a.remains - a.chunk, chunk := min a.blockSize (a.remains - a.chunk) }

/- The sizes between reading a chunk and sending it. -/
structure Pending (a : Asked) : Prop where
  sized : 0 < a.blockSize
  size : a.blockSize < 2^31
  count : a.count < 2^31
  left : a.left ≤ a.count
  remains : a.remains - a.chunk ≤ a.left
  chunk : a.chunk = min a.blockSize a.remains
  status : a.status = .good ∨ a.status = .checkCondition

theorem Pending.sound (pending : a.Pending) (more : a.remains - a.chunk ≠ 0) : a.sent.Sound where
  sized := pending.sized
  size := pending.size
  count := pending.count
  some := Nat.lt_of_lt_of_le (Nat.pos_of_ne_zero more) pending.remains
  left := pending.left
  remains := pending.remains
  chunk := rfl

theorem afterFile (a : Asked) (length : Nat) : (a.after length).bytes = a.bytes ∧ (a.after length).blockSize = a.blockSize := by
  unfold after checked closed
  split <;> exact ⟨rfl,rfl⟩

/- A record whose length divides the byte count. -/
theorem afterDivides {length : Nat} (divides : a.count % length = 0) :
    a.after length = a.closed a.chunk ∧ a.taken length = a.chunk := by
  unfold after checked taken
  rw [if_pos divides,if_pos divides]
  exact ⟨rfl,rfl⟩

theorem afterOther {length : Nat} (other : a.count % length ≠ 0) : (a.after length).status = .checkCondition := by
  unfold after checked closed
  rw [if_neg other]

theorem afterPending (sound : a.Sound) (status : a.status = .good ∨ a.status = .checkCondition) (length : Nat) :
    (a.after length).Pending := by
  have left := sound.left
  have remains := sound.remains
  have chunk := sound.chunk
  unfold after checked taken closed
  split
  · exact ⟨sound.sized,sound.size,sound.count,by dsimp only; omega,by dsimp only; omega,chunk,status⟩
  · refine ⟨sound.sized,sound.size,?_,Nat.sub_le _ _,?_,rfl,.inr rfl⟩
    · exact Nat.lt_of_le_of_lt (Nat.min_le_right _ _) sound.count
    · dsimp only
      omega

end Asked

theorem sentReading (reading : Reading a position s) (pending : a.Pending) :
    Reading a.sent position { s with transfer := s.transfer.updateTransferLength s.transfer.chunkSize } := by
  obtain ⟨on,simh,length,count,left,read,status,remains,chunk⟩ := reading
  have rest : max (s.transfer.remainingLength - s.transfer.chunkSize) 0 = (a.remains - a.chunk : Nat) := by
    rw [remains,chunk]
    omega
  have part : (s.transfer.updateTransferLength s.transfer.chunkSize).chunkSize =
      if max (s.transfer.remainingLength - s.transfer.chunkSize) 0 < s.transfer.chunkSize then
        max (s.transfer.remainingLength - s.transfer.chunkSize) 0 else s.transfer.chunkSize := rfl
  refine ⟨⟨on.opened,on.here,on.information,on.fixed⟩,simh,length,count,left,read,status,rest,?_⟩
  have size := pending.chunk
  dsimp only [Asked.sent]
  rw [part,rest,chunk]
  split <;> omega

/- What the rest of a command leaves in the INFORMATION field. -/
inductive Leaves : Asked → Int → Int → Prop where
  | done {a : Asked} {position : Int} (none : a.remains - a.chunk = 0) : Leaves a position a.info
  | missing {a : Asked} {position info : Int} (more : a.remains - a.chunk ≠ 0)
      (none : ¬∃ m start, NextBlock a.bytes position m start) (missing : Missing a.bytes position a.info info) :
      Leaves a position info
  | unclosed {a : Asked} {position start info : Int} {m : SimhMetaData} (more : a.remains - a.chunk ≠ 0)
      (found : NextBlock a.bytes position m start)
      (unclosed : Unclosed (a.sent.checked m.value) m.value start (a.sent.taken m.value) info) : Leaves a position info
  | next {a : Asked} {position start info : Int} {m : SimhMetaData} (more : a.remains - a.chunk ≠ 0)
      (found : NextBlock a.bytes position m start) (closes : Closes a.bytes m.value start (a.sent.taken m.value))
      (later : Leaves (a.sent.after m.value) (start + pad m.value + metaDataSize) info) : Leaves a position info

/- What has been sent in the end, behind the chunk in the buffer. -/
structure Sent (a : Asked) (position : Int) (front : Bytes) (result : Bytes × DataEnd) (t : HandlerState Tape) : Prop where
  ends : result.2 ≠ .unfinished
  status : result.2 = .complete → t.transfer.status = .good ∨ t.transfer.status = .checkCondition
  succeeds : result.2 = .complete → t.transfer.status = .good → a.status = .good ∧ ∃ data, result.1 = front ++ data ∧
    Delivers a.bytes a.blockSize a.count position (a.remains - a.chunk) data t.device.tapePosition
  fails : a.status = .good → ¬(result.2 = .complete ∧ t.transfer.status = .good) →
    ¬∃ data stop, Delivers a.bytes a.blockSize a.count position (a.remains - a.chunk) data stop
  leaves : Leaves a position t.device.information

/- A chunk in front of the other ones. -/
theorem Sent.chunk {front buffer : Bytes} {result : Bytes × DataEnd} (found : NextBlock a.bytes position m start)
    (more : a.remains - a.chunk ≠ 0) (fits : Closes a.bytes m.value start (a.sent.taken m.value))
    (loaded : buffer.take (a.sent.taken m.value) = slice a.bytes start.toNat (a.sent.taken m.value))
    {length : Int} (whole : a.count % m.value = 0 → length = a.sent.chunk)
    (rest : Sent (a.sent.after m.value) (start + pad m.value + metaDataSize) (buffer.take length.toNat) result s) :
    Sent a position front (front ++ result.1,result.2) s := by
  have leaves := Leaves.next more found fits rest.leaves
  by_cases divides : a.count % m.value = 0
  · obtain ⟨after,taken⟩ := Asked.afterDivides (a := a.sent) divides
    rw [whole divides,Int.toNat_natCast,after,← taken,loaded] at rest
    rw [taken] at fits rest
    refine ⟨rest.ends,rest.status,fun complete good => ?_,fun good failed => ?_,leaves⟩
    · obtain ⟨same,data,sent,delivers⟩ := rest.succeeds complete good
      refine ⟨same,_,?_,.chunk (Nat.pos_of_ne_zero more) found divides fits delivers⟩
      exact congrArg (front ++ ·) sent
    · rintro ⟨data,stop,delivers⟩
      obtain ⟨m',start',later,found',-,-,delivers⟩ := delivers.first more
      obtain ⟨rfl,rfl⟩ := nextBlockOnce found found'
      exact rest.fails good failed ⟨_,_,delivers⟩
  · have status := Asked.afterOther (a := a.sent) divides
    refine ⟨rest.ends,rest.status,fun complete good => ?_,fun good _ => ?_,leaves⟩
    · have same := (rest.succeeds complete good).1
      exact absurd (same.symm.trans status) (by decide)
    · rintro ⟨data,stop,delivers⟩
      obtain ⟨m',start',later,found',divides',-⟩ := delivers.first more
      obtain ⟨rfl,rfl⟩ := nextBlockOnce found found'
      exact divides divides'

theorem Sent.failed {front : Bytes} {e : ScsiException} (more : a.remains - a.chunk ≠ 0)
    (failed : (¬∃ m start, NextBlock a.bytes position m start) ∧ Missing a.bytes position a.info s.device.information ∨
      ∃ m start, NextBlock a.bytes position m start ∧
        Unclosed (a.sent.checked m.value) m.value start (a.sent.taken m.value) s.device.information) :
    Sent a position front (front,.failed e) s := by
  refine ⟨(fun wrong => by cases wrong),(fun wrong => by cases wrong),(fun wrong => by cases wrong),fun good _ => ?_,?_⟩
  · rintro ⟨data,stop,delivers⟩
    obtain ⟨m,start,later,found,divides,fits,-⟩ := delivers.first more
    rcases failed with ⟨none,-⟩ | ⟨m',start',found',unclosed⟩
    · exact none ⟨_,_,found⟩
    · obtain ⟨rfl,rfl⟩ := nextBlockOnce found found'
      have taken : a.sent.taken m.value = a.sent.chunk := if_pos divides
      have same : a.sent.checked m.value = a.sent := if_pos divides
      rw [taken,same] at unclosed
      rcases unclosed with ⟨mismatch,-⟩ | ⟨outside,-⟩
      · exact mismatch.2 fits.trailing
      · exact outside fits.toInside
  · rcases failed with ⟨none,missing⟩ | ⟨m,start,found,unclosed⟩
    · exact .missing more none missing
    · exact .unclosed more found unclosed

theorem wpSendAll {fuel : Nat} {length : Int} (reading : Reading a position s) (pending : a.Pending)
    (inside : position ≤ a.bytes.length) (enough : (a.bytes.length : Int) - position < fuel) :
    wp (sendAll fuel length) r s (Sent a position (s.transfer.buffer.take length.toNat)) fun _ _ => False := by
  induction fuel generalizing a position s length with
  | zero => omega
  | succ fuel ih =>
    have next := sentReading reading pending
    rw [sendAll,wpBind,wpGetTransfer,wpBind,wpModifyTransfer,wpBind,wpGetTransfer,wpIte]
    dsimp only
    rw [next.remains]
    constructor
    · intro none
      have none : a.remains - a.chunk = 0 := Int.ofNat.inj none
      rw [wpPure]
      refine ⟨(fun wrong => by cases wrong),fun _ => ?_,fun _ good => ⟨?_,[],(List.append_nil _).symm,?_⟩,fun good failed => ?_,?_⟩
      · exact next.status ▸ pending.status
      · exact next.status.symm.trans good
      · have here := reading.on.here
        subst here
        rw [none]
        exact .nothing
      · exact absurd ⟨rfl,next.status.trans good⟩ failed
      · have info := reading.on.information
        dsimp only
        rw [info]
        exact .done none
    · intro more
      have more : a.remains - a.chunk ≠ 0 := fun none => more (congrArg Int.ofNat none)
      rw [wpTryCatch,wpBind]
      refine wpMono (wpReadData next (pending.sound more)) (fun length t ended => ?_) fun e t failed => ?_
      · obtain ⟨m,start,found,-,fits,buffer,known⟩ := ended
        obtain ⟨file,size⟩ := Asked.afterFile a.sent m.value
        have behind := found.behind.2
        have room := fits.room
        have again := Asked.afterPending (pending.sound more) pending.status m.value
        rw [wpBind,wpGetTransfer,wpBind]
        rw [known.remains,known.chunk]
        have inside : start + pad m.value + metaDataSize ≤ (a.sent.after m.value).bytes.length := by
          rw [file]
          exact room
        have enough : ((a.sent.after m.value).bytes.length : Int) - (start + pad m.value + metaDataSize) < fuel := by
          rw [file]
          unfold metaDataSize at behind ⊢
          change (a.bytes.length : Int) - _ < fuel
          omega
        refine wpMono (ih known again inside enough) (fun result u rest => ?_) fun _ _ wrong => wrong.elim
        rw [wpPure]
        refine Sent.chunk found more fits buffer (fun divides => ?_) rest
        rw [(Asked.afterDivides (a := a.sent) divides).1]
        have part : a.sent.chunk = min a.blockSize a.sent.remains := rfl
        dsimp only [Asked.closed]
        omega
      · rw [wpPure]
        exact Sent.failed more failed

/-! The whole command. -/

/- The number of bytes is negative for the controller, or the size of a chunk is. -/
def Oversized (size n : Nat) : Prop :=
  uint32 (n * size : Nat) ≠ 0 ∧ (2^31 ≤ uint32 (n * size : Nat) ∨ 2^31 ≤ size)

/- The start of a READ, when nothing has been sent. -/
def atStart (s : HandlerState Tape) (bytes : Bytes) (count : Nat) : Asked where
  bytes
  blockSize := s.device.blockSize
  count
  left := count
  remains := count
  chunk := 0
  read := 0
  info := s.device.information
  status := s.transfer.status

theorem readsFromReading (opened : s.device.stream s.world = some bytes) (fixed : s.device.fixed = true)
    (simh : s.device.tarFile = false) (size : s.device.blockSize < 2^31) (small : count < 2^31) :
    Reading (atStart s bytes count).sent s.device.tapePosition (readsFrom s count) := by
  have part := smaller count s.device.blockSize
  unfold readsFrom
  rw [(smallTotal size).2,(smallTotal small).2]
  exact ⟨⟨opened,rfl,rfl,fixed⟩,simh,rfl,rfl,rfl,rfl,rfl,rfl,part⟩

theorem startSound (sized : 0 < s.device.blockSize) (size : s.device.blockSize < 2^31) (small : count < 2^31)
    (some : count ≠ 0) : (atStart s bytes count).sent.Sound :=
  ⟨sized,size,small,Nat.pos_of_ne_zero some,Nat.le_refl _,Nat.le_refl _,rfl⟩

/- What a command for this many bytes sends, from the first chunk on. -/
theorem wpSendFrom {t : HandlerState Tape} {length : Int} (opened : s.device.stream s.world = some bytes)
    (fixed : s.device.fixed = true) (simh : s.device.tarFile = false) (sized : 0 < s.device.blockSize)
    (size : s.device.blockSize < 2^31) (small : count < 2^31) (some : count ≠ 0) (good : s.transfer.status = .good)
    (ran : readData r (readsFrom s count) = (.ok length,t)) :
    wp (sendAll (scanLimit (t.device.stream t.world)) length) r t (Sent (atStart s bytes count) s.device.tapePosition [])
      fun _ _ => False := by
  have sound : (atStart s bytes count).sent.Sound := startSound sized size small some
  have ended := wpOk (wpReadData (readsFromReading opened fixed simh size small) sound) ran
  obtain ⟨m,start,found,rfl,fits,buffer,known⟩ := ended
  obtain ⟨file,-⟩ := Asked.afterFile (atStart s bytes count).sent m.value
  have again := Asked.afterPending sound (.inl good) m.value
  have front := found.behind
  have room := fits.room
  have opened' := known.on.opened
  rw [file] at opened'
  have limit : scanLimit (t.device.stream t.world) = bytes.length + 2 := by
    rw [opened']
    rfl
  rw [limit]
  have inside : start + pad m.value + metaDataSize ≤ ((atStart s bytes count).sent.after m.value).bytes.length := by
    rw [file]
    exact room
  have enough : (((atStart s bytes count).sent.after m.value).bytes.length : Int) - (start + pad m.value + metaDataSize) <
      (bytes.length + 2 : Nat) := by
    rw [file]
    change (bytes.length : Int) - _ < _
    omega
  refine wpMono (wpSendAll known again inside enough) (fun result u rest => ?_) fun _ _ wrong => wrong
  exact Sent.chunk found some fits buffer (fun divides => congrArg Int.ofNat (if_pos divides)) rest

/- A size that does not fit in an int makes the first chunk fail. -/
theorem wpReadNothing {length : Int} (negative : length < 0) :
    wp (readChunk length) r s (fun _ _ => False) fun _ _ => True := by
  unfold readChunk readFile
  simp only [wpBind,wpGetDevice,wpGetWorld]
  split
  · trivial
  · rw [wpIte]
    exact ⟨fun _ => trivial,fun wrong => absurd (.inl negative) wrong⟩

theorem wpBeginNothing {length : Int} (negative : length < 0) :
    wp (beginRecord length) r s (fun chunk _ => chunk < 0) fun _ _ => True := by
  unfold beginRecord
  rw [wpBind]
  refine wpMono (openRecordCounted r s) (fun _ t _ => ?_) fun _ _ _ => trivial
  rw [wpBind]
  refine wpMono (wpCheckBlockLength (E := fun _ _ => True)) (fun actual u _ => ?_) fun _ _ _ => trivial
  rw [wpIte]
  refine ⟨fun _ => negative,fun _ => ?_⟩
  rw [wpBind]
  refine wpMono (limitTransferReported actual r u) (fun _ v _ => ?_) fun _ _ _ => trivial
  rw [wpPure]
  omega

theorem wpReadNegative (negative : s.transfer.chunkSize < 0) : wp readData r s (fun _ _ => False) fun _ _ => True := by
  unfold readData
  rw [wpBind,wpGetTransfer,wpBind]
  refine wpMono (isAtRecordBoundaryCounted r s) (fun boundary t _ => ?_) fun _ _ _ => trivial
  rw [wpIte]
  refine ⟨fun _ => ?_,fun _ => wpReadNothing negative⟩
  rw [wpBind]
  exact wpMono (wpBeginNothing negative) (fun length u less => wpReadNothing less) fun _ _ _ => trivial

variable {cmd : ScsiCommand} {long : Bool} {image : SimhImage}

/- How a READ with FIXED ends: the checks refuse it, there is nothing to do, the sizes do
not fit, or it sends data. -/
inductive Ended (r : Request) (long : Bool) (s : HandlerState Tape) (bytes : Bytes) : Bytes × DataEnd → HandlerState Tape → Prop where
  | refused {e : ScsiException} {t : HandlerState Tape} (wrong : Refused r long false s) : Ended r long s bytes ([],.failed e) t
  | nothing {t : HandlerState Tape} (passed : ¬Refused r long false s) (none : uint32 (s.device.total r long) = 0)
      (status : t.transfer.status = s.transfer.status)
      (here : t.device.tapePosition = (positioned r long s).device.tapePosition) : Ended r long s bytes ([],.complete) t
  | oversized {e : ScsiException} {t : HandlerState Tape} (passed : ¬Refused r long false s)
      (some : uint32 (s.device.total r long) ≠ 0)
      (large : 2^31 ≤ uint32 (s.device.total r long) ∨ 2^31 ≤ s.device.blockSize) : Ended r long s bytes ([],.failed e) t
  | sends {result : Bytes × DataEnd} {t : HandlerState Tape} (passed : ¬Refused r long false s)
      (some : uint32 (s.device.total r long) ≠ 0) (small : uint32 (s.device.total r long) < 2^31)
      (size : s.device.blockSize < 2^31)
      (sent : Sent (atStart (positioned r long s) bytes (uint32 (s.device.total r long)))
        (positioned r long s).device.tapePosition [] result t) : Ended r long s bytes result t

theorem positionedDrive (passed : ¬Refused r long false s) (fixed : isFixed r) :
    (positioned r long s).device.stream (positioned r long s).world = s.device.stream s.world ∧
    (positioned r long s).device.fixed = true ∧ (positioned r long s).device.tarFile = s.device.tarFile ∧
    (positioned r long s).device.blockSize = s.device.blockSize ∧ (positioned r long s).transfer.status = s.transfer.status := by
  have moved := positionedMoved passed
  refine ⟨?_,?_,moved.same (fun d => d.tarFile) fun _ => rfl,moved.same (fun d => d.blockSize) fun _ => rfl,?_⟩
  · rw [moved.world]
    exact moved.same (fun d => d.stream s.world) fun _ => rfl
  · exact (moved.same (fun d => d.fixed) fun _ => rfl).trans (decide_eq_true fixed)
  · exact congrArg (·.status) moved.transfer

/- An int is negative from 2^31 on. -/
theorem wraps {n : Nat} (large : 2^31 ≤ n) (fits : n < 2^32) : int32 n < 0 := by
  unfold int32
  rw [Int.bmod_def]
  split <;> omega

theorem oversizedChunk (large : 2^31 ≤ count ∨ 2^31 ≤ s.device.blockSize) (fits : count < 2^32)
    (size : s.device.blockSize < 2^32) : (readsFrom s count).transfer.chunkSize < 0 := by
  have chunk : (readsFrom s count).transfer.chunkSize =
      if int32 count < int32 s.device.blockSize then int32 count else int32 s.device.blockSize := by
    unfold readsFrom
    generalize int32 (count : Nat) = length
    generalize int32 (s.device.blockSize : Nat) = size
    rfl
  rw [chunk]
  rcases large with count' | size'
  · have negative := wraps count' fits
    split <;> omega
  · have negative := wraps size' size
    split <;> omega

/- The first chunk fails, and with it the command. -/
theorem firstFails {e : ScsiException} {t : HandlerState Tape} (passed : ¬Refused r long false s) (fixed : isFixed r)
    (simh : s.device.tarFile = false) (opened : s.device.stream s.world = some bytes)
    (sized : 0 < s.device.blockSize) (some : uint32 (s.device.total r long) ≠ 0)
    (ran : readData r (readsFrom (positioned r long s) (uint32 (s.device.total r long))) = (.error e,t)) :
    Ended r long s bytes ([],.failed e) t := by
  obtain ⟨stream,fixed,tar,block,status⟩ := positionedDrive passed fixed
  by_cases small : uint32 (s.device.total r long) < 2^31
  · by_cases size : s.device.blockSize < 2^31
    · refine .sends passed some small size (Sent.failed some ?_)
      have sound : (atStart (positioned r long s) bytes (uint32 (s.device.total r long))).sent.Sound :=
        startSound (block ▸ sized) (block ▸ size) small some
      have reading := readsFromReading (stream.trans opened) fixed (tar.trans simh) (block ▸ size) small
      exact wpError (wpReadData reading sound) ran
    · exact .oversized passed some (.inr (Nat.le_of_not_lt size))
  · exact .oversized passed some (.inl (Nat.le_of_not_lt small))

theorem wpReadCommand (listed : (cmd,long,false) ∈ transferCommands) (fixed : isFixed r) (good : s.transfer.status = .good)
    (simh : s.device.tarFile = false) (opened : s.device.stream s.world = some bytes) (sized : 0 < s.device.blockSize)
    (size : s.device.blockSize < 2^32) :
    wp (readCommand cmd) r s (Ended r long s bytes) fun _ _ => False := by
  have failing : ∀ e t, readData r (readsFrom (positioned r long s) (uint32 (s.device.total r long))) = (.error e,t) →
      uint32 (s.device.total r long) ≠ 0 → Ended r long s bytes ([],.failed e) t := by
    intro e t ran some
    by_cases wrong : Refused r long false s
    · exact .refused wrong
    · exact firstFails wrong fixed simh opened sized some ran
  unfold readCommand
  rw [wpTryCatch,wpBind]
  refine wpMono (wpTransfer listed (fun wrong _ _ _ => Ended.refused wrong) fun _ some e t failed => failing e t failed some)
    (fun call t ended => ?_) fun e t ended => ?_
  · obtain ⟨passed,accepted⟩ := ended
    cases accepted with
    | nothing _ t none status here => exact .nothing passed none status here
    | sends length t some ran =>
      obtain ⟨stream,fixed,tar,block,status⟩ := positionedDrive passed fixed
      have fits := uint32Lt (s.device.total r long)
      have negative (large : 2^31 ≤ uint32 (s.device.total r long) ∨ 2^31 ≤ (positioned r long s).device.blockSize) : False :=
        wpOk (wpReadNegative (oversizedChunk large fits (block ▸ size))) ran
      have small : uint32 (s.device.total r long) < 2^31 := Nat.lt_of_not_le fun large => negative (.inl large)
      have narrow : s.device.blockSize < 2^31 := Nat.lt_of_not_le fun large => negative (.inr (block ▸ large))
      dsimp only
      rw [wpBind,wpGetDevice,wpBind,wpGetWorld]
      refine wpMono (wpSendFrom (stream.trans opened) fixed (tar.trans simh) (block ▸ sized) (block ▸ narrow) small some
        (status.trans good) ran) (fun result u sent => .sends passed some small narrow sent) fun _ _ wrong => wrong.elim
  · exact ended

end

end Tape
end Scsi2Pi
