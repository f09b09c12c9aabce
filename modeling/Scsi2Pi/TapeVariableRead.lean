import Scsi2Pi.TapeFixedData

/-! READ without FIXED, with the length of the record that comes next: what the controller
sends, and how a filemark and the end of the data are reported. -/
namespace Scsi2Pi
open Slices MemoryUtil Handler Derives Eff SimhUtil

namespace Tape

section
variable {r : Request} {s : HandlerState Tape} {bytes : Bytes} {position start : Int} {n left : Nat} {m : SimhMetaData}
  {E : ScsiException → HandlerState Tape → Prop}

/- A drive with a tape that can be read. -/
structure Loaded (bytes : Bytes) (position : Int) (s : HandlerState Tape) : Prop where
  opened : s.device.stream s.world = some bytes
  here : s.device.tapePosition = position
  idle : Idle s.device
  size : s.device.blockSize < 2^31
  sized : 0 < s.device.blockSize

/- A READ of n bytes, with what has not been read yet. -/
structure Playing (bytes : Bytes) (position : Int) (n left : Nat) (s : HandlerState Tape) : Prop extends
    Loaded bytes position s where
  plain : s.device.fixed = false
  count : s.device.byteCount = n
  left : s.device.remainingCount = left

theorem Loaded.after {t : HandlerState Tape} (known : Loaded bytes position s) (here : t.device.tapePosition = start)
    (same : (t.device.stream t.world,t.device.mediumChanged,t.device.reset,t.device.attn,t.device.ready,t.device.tarFile,t.device.blockSize) =
      (s.device.stream s.world,s.device.mediumChanged,s.device.reset,s.device.attn,s.device.ready,s.device.tarFile,s.device.blockSize)) :
    Loaded bytes start t := by
  obtain ⟨opened,_,⟨unchanged,reset,attn,ready,simh⟩,size,sized⟩ := known
  simp only [Prod.mk.injEq] at same
  obtain ⟨stream,a,b,c,d,e,f⟩ := same
  exact ⟨stream.trans opened,here,⟨a.trans unchanged,b.trans reset,c.trans attn,d.trans ready,e.trans simh⟩,f ▸ size,f ▸ sized⟩

/- What is left alone up to the data. -/
def Untouched (s t : HandlerState Tape) : Prop := t.transfer = s.transfer ∧ t.device.initial = s.device.initial

theorem Untouched.trans {t u : HandlerState Tape} (first : Untouched s t) (second : Untouched t u) : Untouched s u :=
  ⟨second.1.trans first.1,second.2.trans first.2⟩

theorem wpAdvancePlaying {distance : Int} {Q : Unit → HandlerState Tape → Prop} (known : Playing bytes position n left s)
    (rest : ∀ t, Playing bytes (position + distance) n left t → Untouched s t → Q () t) :
    wp (advance distance) r s Q E :=
  rest _ ⟨known.toLoaded.after (congrArg (· + distance) known.here) rfl,known.plain,known.count,known.left⟩ ⟨rfl,rfl⟩

theorem wpWordPlaying {count : Int} {fuel : Nat} {object : ObjectType × Nat}
    {Q : (ObjectType × Nat) × SimhMetaData → HandlerState Tape → Prop} (known : Playing bytes position n left s)
    (word : readMetaData (some bytes) position = some m) (found : objectOf m = some object)
    (rest : ∀ t, Playing bytes (position + metaDataSize) n left t → Untouched s t → Q (object,m) t) :
    wp (readSimhMetaData count false (fuel+1)) r s Q E := by
  rw [readSimhMetaData,wpBind]
  unfold readNextMetaData readMetaDataHere
  rw [if_neg Bool.false_ne_true]
  simp only [wpBind,wpGetDevice,wpGetWorld,known.opened,known.here,word,wpPure]
  refine wpAdvancePlaying known fun t known same => ?_
  simp only [found]
  refine rest _ ?_ (same.trans ?_)
  · dsimp only
    split
    · exact ⟨known.toLoaded.after known.here rfl,known.plain,known.count,known.left⟩
    · exact known
  · dsimp only
    split <;> exact ⟨rfl,rfl⟩

/- The search for a block, up to the first object. -/
theorem wpFindPlaying {type : ObjectType} {length : Nat} {Q : SimhMetaData → HandlerState Tape → Prop}
    (known : Playing bytes position n left s) (word : readMetaData (some bytes) position = some m)
    (found : objectOf m = some (type,length)) (readable : ¬(type = .block ∧ length = 0))
    (judged : ∀ t, Playing bytes (position + metaDataSize + recordSize m) n left t → Untouched s t →
      wp (judgeObject .block false true type 0) r t (fun rest t => rest = none ∧ Q m t) E) :
    wp (findNext .block 0 true) r s Q E := by
  have forward : decide ((0 : Int) < 0) = false := rfl
  unfold findNext
  rw [wpBind,wpGetDevice,wpBind,wpGetWorld,known.opened,forward]
  dsimp only
  unfold scanLimit
  rw [findNextObject,wpBind]
  refine wpWordPlaying known word found fun t known same => ?_
  dsimp only
  rw [if_neg (fun wrong => readable wrong.2),wpBind]
  unfold passObject
  rw [Bool.not_false,if_pos rfl]
  refine wpAdvancePlaying known fun u known still => ?_
  rw [wpBind]
  refine wpMono (judged u known (same.trans still)) (fun rest v ended => ?_) fun _ _ failed => failed
  obtain ⟨rfl,ended⟩ := ended
  exact ended

theorem wpOpenBlock {Q : Unit → HandlerState Tape → Prop} (known : Playing bytes position n left s) (full : n ≠ 0)
    (word : readMetaData (some bytes) position = some ⟨.tapeMarkGoodDataRecord,n⟩)
    (rest : ∀ t, Playing bytes (position + metaDataSize + n % 2) n left t → t.device.recordLength = n →
      t.device.recordStart = position + metaDataSize + n % 2 → Untouched s t → Q () t) : wp openRecord r s Q E := by
  have found : objectOf ⟨.tapeMarkGoodDataRecord,n⟩ = some (.block,n) := by
    unfold objectOf
    rw [if_pos rfl,if_pos full]
  have size : recordSize ⟨.tapeMarkGoodDataRecord,n⟩ = n + n % 2 + metaDataSize := by
    have record : isRecord ⟨.tapeMarkGoodDataRecord,n⟩ = true := by simp [isRecord,full]
    unfold recordSize
    rw [if_pos record,pad]
    push_cast
    rfl
  unfold openRecord
  rw [wpBind]
  refine wpFindPlaying known word found (fun wrong => full wrong.2) fun t known same => ?_
  unfold judgeObject
  rw [if_neg (by decide),if_neg (by decide),if_pos (by decide)]
  refine ⟨rfl,?_⟩
  rw [wpBind,wpModifyDevice,if_neg (fun wrong => by cases wrong.1),wpBind]
  have begun : Playing bytes (position + metaDataSize + recordSize ⟨.tapeMarkGoodDataRecord,n⟩) n left
      { t with device := { t.device with currentMetaData := ⟨.tapeMarkGoodDataRecord,n⟩, recordLength := n } } :=
    ⟨known.toLoaded.after known.here rfl,known.plain,known.count,known.left⟩
  have back : position + metaDataSize + recordSize ⟨.tapeMarkGoodDataRecord,n⟩ + -(n + metaDataSize : Nat) =
      position + metaDataSize + n % 2 := by
    rw [size]
    push_cast
    omega
  have here : t.device.tapePosition + -(n + metaDataSize : Nat) = position + metaDataSize + n % 2 := by rw [known.here,back]
  exact rest _ ⟨known.toLoaded.after here rfl,known.plain,known.count,known.left⟩ rfl here same

theorem wpOpenFilemark {Q : Unit → HandlerState Tape → Prop} (known : Playing bytes position n left s)
    (word : readMetaData (some bytes) position = some ⟨.tapeMarkGoodDataRecord,0⟩)
    (ends : ∀ t, Loaded bytes (position + metaDataSize) t → t.device.filemark = true →
      E ⟨.noSense,.noAdditionalSenseInformation⟩ t) : wp openRecord r s Q E := by
  unfold openRecord
  rw [wpBind]
  refine wpFindPlaying known word rfl (fun wrong => absurd wrong.1 (by decide)) fun t known _ => ?_
  have here : t.device.tapePosition = position + metaDataSize := known.here.trans (Int.add_zero _)
  unfold judgeObject
  rw [if_neg (by decide),if_pos ⟨rfl,rfl⟩]
  unfold raiseFilemark
  simp only [wpBind,wpGetRequest,wpGetDevice,known.plain,Bool.not_false,Bool.and_self,if_true,setInformation,wpSuper,wpModifyDevice,
    wpThrow]
  exact ends _ (known.toLoaded.after here rfl) rfl

/-! The data of a record. -/

/- A part of the data has been read. -/
structure Midway (bytes : Bytes) (start : Int) (n done : Nat) (s : HandlerState Tape) : Prop extends
    Playing bytes (start + done) n (n - done) s where
  length : s.device.recordLength = n
  begins : s.device.recordStart = start
  initial : s.device.initial = false

/- The record is closed with its last byte. -/
def Passed (bytes : Bytes) (start : Int) (n done : Nat) (s : HandlerState Tape) : Prop :=
  done < n ∧ Midway bytes start n done s ∨
    done = n ∧ Closes bytes n start n ∧ Loaded bytes (start + pad n + metaDataSize) s

theorem wpFilePlaying {count : Nat} {Q : Bytes → HandlerState Tape → Prop} (known : Loaded bytes position s)
    (inside : 0 ≤ position → position + count ≤ bytes.length → Q (slice bytes position.toNat count) s)
    (outside : position < 0 ∨ (bytes.length : Int) < position + count → ∀ e, E e s) : wp (readFile count) r s Q E := by
  unfold readFile
  simp only [wpBind,wpGetDevice,wpGetWorld,known.opened,known.here,wpIte,wpThrow,wpPure]
  refine ⟨fun wrong => outside (by omega) _,fun right => ?_⟩
  rw [Int.toNat_natCast]
  exact inside (by omega) (by omega)

theorem wpClosePlaying {Q : Unit → HandlerState Tape → Prop} (known : Loaded bytes position s)
    (length : s.device.recordLength = n) (begins : s.device.recordStart = start) (data : 0 ≤ start ∧ start + n ≤ bytes.length)
    (closed : ∀ t, Closes bytes n start n → Loaded bytes (start + pad n + metaDataSize) t → t.transfer = s.transfer → Q () t)
    (fails : ¬Closes bytes n start n → ∀ e t, E e t) : wp closeRecord r s Q E := by
  unfold closeRecord
  rw [wpBind,wpModifyDevice,wpBind]
  have there : Loaded bytes (start + pad n)
      { s with device := { s.device with tapePosition := s.device.recordStart + pad s.device.recordLength } } :=
    known.after (by rw [length,begins]) rfl
  refine wpFilePlaying there (fun valid room => ?_) fun none e => fails (fun closes => ?_) e _
  · rw [wpBind,wpGetDevice,wpIte]
    refine ⟨fun other => ?_,fun same => ?_⟩
    · unfold raiseReadError advance
      simp only [wpBind,wpModifyDevice,wpGetDevice]
      exact fails (fun closes => other (length.trans closes.trailing.symm)) _ _
    · have same := Decidable.not_not.mp same
      have closes : Closes bytes n start n := ⟨⟨data.1,data.2,room⟩,same.symm.trans length⟩
      rw [wpBind]
      unfold advance
      simp only [wpModifyDevice]
      refine closed _ closes ?_ rfl
      have here : s.device.recordStart + pad s.device.recordLength + metaDataSize = start + pad n + metaDataSize := by
        rw [length,begins]
      split
      · exact there.after here rfl
      · exact there.after here rfl
  · have valid := closes.valid
    have room := closes.room
    omega

theorem wpChunkPlaying {done count : Nat} {Q : Int → HandlerState Tape → Prop} (known : Midway bytes start n done s)
    (valid : 0 ≤ start) (within : done + count ≤ n) (small : n < 2^24)
    (passed : ∀ t, Passed bytes start n (done + count) t →
      t.transfer = { s.transfer with buffer := setBytes s.transfer.buffer 0 (slice bytes (start + done).toNat count) } →
      (slice bytes (start + done).toNat count).length = count → Q count t)
    (fails : ¬Closes bytes n start n → ∀ e t, E e t) : wp (readChunk count) r s Q E := by
  have rest : uint32 (s.device.remainingCount - count : Int) = n - (done + count) := by
    have same : (s.device.remainingCount - count : Int) = (n - (done + count) : Nat) := by
      rw [known.left]
      omega
    rw [same,uint32Fits (by omega)]
  unfold readChunk
  rw [wpBind]
  refine wpFilePlaying known.toLoaded (fun _ data => ?_) fun none e => fails (fun closes => ?_) e _
  · have taken : (slice bytes (start + done).toNat count).length = count := sliceLengthWithin (by omega)
    unfold advance isAtRecordBoundary
    rw [wpBind,wpSetBuffer,wpBind,wpModifyDevice,wpBind,wpModifyDevice,wpBind,wpBind,wpGetDevice,wpIte]
    refine ⟨fun tar => absurd (tar.symm.trans known.idle.simh) (by decide),fun _ => ?_⟩
    rw [wpBind,wpModifyDevice,wpPure]
    have boundary : atRecordBoundary { s.device with
        remainingCount := uint32 (s.device.remainingCount - count : Int)
        tapePosition := s.device.tapePosition + count } = decide (done + count = n) := by
      have read : uint32 ((n : Int) - (n - (done + count) : Nat)) = done + count := by
        have same : ((n : Int) - (n - (done + count) : Nat)) = (done + count : Nat) := by omega
        rw [same,uint32Fits (by omega)]
      unfold atRecordBoundary
      dsimp only
      rw [known.plain,known.initial,rest,known.count,known.length,read]
      by_cases last : done + count = n
      · simp [last]
      · simp only [last,Bool.false_or,decide_false,Bool.or_false]
        exact decide_eq_false (by omega)
    have moved (t : HandlerState Tape) (device : t.device = { s.device with
        remainingCount := uint32 (s.device.remainingCount - count : Int)
        tapePosition := s.device.tapePosition + count
        initial := false }) (world : t.world = s.world) : Midway bytes start n (done + count) t := by
      obtain ⟨device',transfer,world'⟩ := t
      subst device world
      refine ⟨⟨known.toLoaded.after ?_ rfl,known.plain,known.count,rest⟩,known.length,known.begins,rfl⟩
      have here := known.here
      dsimp only
      omega
    rw [boundary,wpIte]
    constructor
    · intro last
      have last : done + count = n := of_decide_eq_true last
      rw [wpBind]
      refine wpClosePlaying (Playing.toLoaded (Midway.toPlaying (moved _ rfl rfl))) known.length known.begins (by omega)
        (fun t closes loaded same => ?_) fails
      exact passed t (.inr ⟨last,closes,loaded⟩) same taken
    · intro more
      have more : done + count ≠ n := fun last => more (decide_eq_true last)
      exact passed _ (.inl ⟨by omega,moved _ rfl rfl⟩) rfl taken
  · have data := closes.data
    omega

/-! Chunks. -/

/- The buffer with the next bytes of the record. -/
def fetched (bytes : Bytes) (start : Int) (done count : Nat) (t : Transfer) : Transfer :=
  { t with buffer := setBytes t.buffer 0 (slice bytes (start + done).toNat count) }

theorem wpReadLater {done count : Nat} {Q : Int → HandlerState Tape → Prop} (known : Midway bytes start n done s)
    (chunk : s.transfer.chunkSize = count) (valid : 0 ≤ start) (more : done < n) (within : done + count ≤ n)
    (small : n < 2^24)
    (passed : ∀ t, Passed bytes start n (done + count) t → t.transfer = fetched bytes start done count s.transfer →
      (slice bytes (start + done).toNat count).length = count → Q count t)
    (fails : ¬Closes bytes n start n → ∀ e t, E e t) : wp readData r s Q E := by
  have boundary : s.device.atRecordBoundary = false := by
    have read : uint32 ((n : Int) - (n - done : Nat)) = done := by
      have same : ((n : Int) - (n - done : Nat)) = (done : Nat) := by omega
      rw [same,uint32Fits (by omega)]
    unfold atRecordBoundary
    rw [known.plain,known.initial,known.left,known.count,known.length,read]
    have left : n - done ≠ 0 := by omega
    have other : done ≠ n := by omega
    simp [left,other]
  unfold readData isAtRecordBoundary
  rw [wpBind,wpGetTransfer,wpBind,wpBind,wpGetDevice,wpIte]
  refine ⟨fun tar => absurd (tar.symm.trans known.idle.simh) (by decide),fun _ => ?_⟩
  rw [wpBind,wpModifyDevice,wpPure,boundary,if_neg Bool.false_ne_true,chunk]
  have again : Midway bytes start n done { s with device := { s.device with initial := false } } :=
    ⟨⟨known.toLoaded.after known.here rfl,known.plain,known.count,known.left⟩,known.length,known.begins,rfl⟩
  exact wpChunkPlaying again valid within small passed fails

theorem wpReadFirst {count : Nat} {Q : Int → HandlerState Tape → Prop} (known : Playing bytes position n n s)
    (initial : s.device.initial = true) (chunk : s.transfer.chunkSize = count) (valid : 0 ≤ position) (full : n ≠ 0) (within : count ≤ n)
    (small : n < 2^24) (word : readMetaData (some bytes) position = some ⟨.tapeMarkGoodDataRecord,n⟩)
    (passed : ∀ t, Passed bytes (position + metaDataSize + n % 2) n count t →
      t.transfer = fetched bytes (position + metaDataSize + n % 2) 0 count s.transfer →
      (slice bytes (position + metaDataSize + n % 2 + (0 : Nat)).toNat count).length = count → Q count t)
    (fails : ¬Closes bytes n (position + metaDataSize + n % 2) n → ∀ e t, E e t) : wp readData r s Q E := by
  have boundary : s.device.atRecordBoundary = true := by simp [atRecordBoundary,initial]
  unfold readData isAtRecordBoundary
  rw [wpBind,wpGetTransfer,wpBind,wpBind,wpGetDevice,wpIte]
  refine ⟨fun tar => absurd (tar.symm.trans known.idle.simh) (by decide),fun _ => ?_⟩
  rw [wpBind,wpModifyDevice,wpPure,boundary,if_pos rfl,wpBind,chunk]
  unfold beginRecord
  rw [wpBind]
  have again : Playing bytes position n n { s with device := { s.device with initial := false } } :=
    ⟨known.toLoaded.after known.here rfl,known.plain,known.count,known.left⟩
  refine wpOpenBlock again full word fun t known length begins same => ?_
  rw [wpBind]
  unfold checkBlockLength
  rw [wpBind,wpGetRequest,wpBind,wpGetDevice,length,known.count,if_neg (fun wrong => wrong rfl),wpPure,if_pos rfl,wpPure]
  have midway : Midway bytes (position + metaDataSize + n % 2) n 0 t := by
    refine ⟨⟨known.toLoaded.after ?_ rfl,known.plain,known.count,known.left⟩,length,begins,same.2⟩
    rw [known.here]
    exact (Int.add_zero _).symm
  refine wpChunkPlaying midway (by unfold metaDataSize; omega) (by omega) small (fun u reached moved taken => ?_) fails
  rw [Nat.zero_add] at reached
  rw [same.1] at moved
  exact passed u reached moved taken

/- A chunk is in the buffer and has not been sent. -/
structure Sending (bytes : Bytes) (start : Int) (n done chunk : Nat) (s : HandlerState Tape) : Prop where
  passed : Passed bytes start n done s
  remains : s.transfer.remainingLength = (n - done + chunk : Nat)
  chunk : s.transfer.chunkSize = (chunk : Nat)
  status : s.transfer.status = .good

/- What the record comes to when the controller has sent its data, with those in the buffer first. -/
def Played (bytes : Bytes) (start : Int) (n done : Nat) (front : Bytes) (result : Bytes × DataEnd) (t : HandlerState Tape) : Prop :=
  (Closes bytes n start n → result = (front ++ slice bytes (start + done).toNat (n - done),.complete) ∧
    t.transfer.status = .good ∧ Loaded bytes (start + pad n + metaDataSize) t) ∧
  (¬Closes bytes n start n → result.2 ≠ .complete)

/- What is sent first is in front of what is sent later. -/
theorem Played.before {done count next : Nat} {front : Bytes} {later : Bytes × DataEnd} {t : HandlerState Tape} (valid : 0 ≤ start)
    (behind : next = done + count) (within : next ≤ n)
    (played : Played bytes start n next (slice bytes (start + done).toNat count) later t) :
    Played bytes start n done front (front ++ later.1,later.2) t := by
  subst behind
  refine ⟨fun closes => ?_,played.2⟩
  obtain ⟨same,status,loaded⟩ := played.1 closes
  have whole := sliceAppend bytes (start + done).toNat count (n - (done + count))
  have next : (start + (done + count : Nat)).toNat = (start + done).toNat + count := by omega
  have all : count + (n - (done + count)) = n - done := by omega
  rw [all] at whole
  rw [next,← whole] at same
  refine ⟨?_,status,loaded⟩
  rw [same]

theorem Passed.opened {done : Nat} (passed : Passed bytes start n done s) : s.device.stream s.world = some bytes := by
  rcases passed with ⟨_,midway⟩ | ⟨_,_,loaded⟩
  · exact midway.opened
  · exact loaded.opened

theorem Passed.bounded {done : Nat} (passed : Passed bytes start n done s) : done ≤ n := by
  rcases passed with ⟨less,_⟩ | ⟨rfl,_⟩
  · exact Nat.le_of_lt less
  · exact Nat.le_refl _

theorem wpSendRecord {fuel done chunk : Nat} (sending : Sending bytes start n done chunk s) (some : 0 < chunk) (valid : 0 ≤ start)
    (small : n < 2^24) (enough : Closes bytes n start n → n - done < fuel) :
    wp (sendAll fuel chunk) r s (Played bytes start n done (s.transfer.buffer.take chunk)) fun _ _ => False := by
  induction fuel generalizing done chunk s with
  | zero => exact ⟨fun closes => absurd (enough closes) (Nat.not_lt_zero _),fun _ wrong => by cases wrong⟩
  | succ fuel ih =>
    have bounded := sending.passed.bounded
    have left : max (s.transfer.remainingLength - (chunk : Nat)) 0 = (n - done : Nat) := by
      rw [sending.remains]
      omega
    have chunks : (s.transfer.updateTransferLength (chunk : Nat)).chunkSize = (min (n - done) chunk : Nat) := by
      unfold Transfer.updateTransferLength
      dsimp only
      rw [left,sending.chunk]
      split <;> omega
    have remains : (s.transfer.updateTransferLength (chunk : Nat)).remainingLength = (n - done : Nat) := left
    rw [sendAll,wpBind,wpGetTransfer,wpBind,wpModifyTransfer,sending.chunk,wpBind,wpGetTransfer,wpIte]
    dsimp only
    rw [remains,Int.toNat_natCast]
    constructor
    · intro none
      have last : n - done = 0 := Int.ofNat.inj none
      rw [wpPure]
      rcases sending.passed with ⟨less,_⟩ | ⟨rfl,closes,loaded⟩
      · omega
      · refine ⟨fun _ => ⟨?_,sending.status,loaded.after loaded.here rfl⟩,fun fails => absurd closes fails⟩
        rw [Nat.sub_self]
        simp [slice]
    · intro more
      have more : n - done ≠ 0 := fun none => more (congrArg Int.ofNat none)
      rcases sending.passed with ⟨less,midway⟩ | ⟨rfl,_⟩
      · rw [wpTryCatch,wpBind]
        have again : Midway bytes start n done { s with transfer := s.transfer.updateTransferLength (chunk : Nat) } :=
          ⟨⟨midway.toLoaded.after midway.here rfl,midway.plain,midway.count,midway.left⟩,midway.length,midway.begins,midway.initial⟩
        refine wpReadLater again chunks valid less (by omega) small (fun t reached moved taken => ?_) fun fails e t => ?_
        · have part : min t.transfer.remainingLength t.transfer.chunkSize = (min (n - done) chunk : Nat) := by
            rw [moved]
            dsimp only [fetched]
            rw [remains,chunks]
            omega
          have buffer : t.transfer.buffer.take (min (n - done) chunk) = slice bytes (start + done).toNat (min (n - done) chunk) := by
            have front := takeFront (s.transfer.updateTransferLength (chunk : Nat)).buffer
              (slice bytes (start + done).toNat (min (n - done) chunk))
            rw [taken] at front
            rw [moved]
            exact front
          have again : Sending bytes start n (done + min (n - done) chunk) (min (n - done) chunk) t := by
            refine ⟨reached,?_,?_,?_⟩
            · rw [moved]
              dsimp only [fetched]
              rw [remains]
              omega
            · rw [moved]
              exact chunks
            · rw [moved]
              exact sending.status
          rw [wpBind,wpGetTransfer,wpBind,part]
          refine wpMono (ih again (by omega) (fun closes => by have := enough closes; omega)) (fun result u rest => ?_)
            fun _ _ wrong => wrong.elim
          rw [buffer] at rest
          rw [wpPure]
          exact rest.before valid rfl (by omega)
        · rw [wpPure]
          exact ⟨fun closes => absurd closes fails,fun _ wrong => by cases wrong⟩
      · omega

/-! An end-of-data object. -/

/- READ stops at an end-of-data object. -/
def AtEndOfData (bytes : Bytes) (position : Int) : Prop := ∃ m place length, Reaches bytes position (.endOfData,length) m place

theorem atEndOfDataIff {place : Int} {object : ObjectType × Nat} (next : Next bytes position m place) (found : objectOf m = some object) :
    AtEndOfData bytes position ↔ object.1 = .endOfData ∨ ¬Stopping object.1 ∧ AtEndOfData bytes (place + metaDataSize) := by
  constructor
  · rintro ⟨m',there,length,reaches⟩
    cases reaches with
    | here next' found' =>
      obtain ⟨rfl,rfl⟩ := nextOnce next next'
      cases Option.some.inj (found.symm.trans found')
      exact .inl rfl
    | beyond next' found' other later =>
      obtain ⟨rfl,rfl⟩ := nextOnce next next'
      cases Option.some.inj (found.symm.trans found')
      exact .inr ⟨other,_,_,_,later⟩
  · rintro (same | ⟨other,_,_,_,later⟩)
    · obtain ⟨type,length⟩ := object
      cases same
      exact ⟨m,place,length,.here next found (.inr (.inr rfl))⟩
    · exact ⟨_,_,_,.beyond next found other later⟩

theorem bareNotEnd (bare : ¬∃ m place, Next bytes position m place) : ¬AtEndOfData bytes position := by
  rintro ⟨m,place,length,reaches⟩
  cases reaches with
  | here next => exact bare ⟨_,_,next⟩
  | beyond next => exact bare ⟨_,_,next⟩

theorem playingTracks : Tracks bytes (fun position => Playing bytes position n left) where
  opened known := known.opened
  here known := known.here
  advanced known := ⟨known.toLoaded.after (congrArg (· + _) known.here) rfl,known.plain,known.count,known.left⟩
  counted known := ⟨known.toLoaded.after known.here rfl,known.plain,known.count,known.left⟩

theorem wpFindStopping {limit fuel : Nat} (known : Playing bytes position n left s)
    (deep : 0 < limit ∧ (bytes.length : Int) - position < limit) (positive : 0 < fuel) (enough : (bytes.length : Int) - position < fuel) :
    wp (findNextObject limit .block false true fuel 0) r s (fun _ _ => ¬AtEndOfData bytes position)
      fun e _ => e.senseKey = .blankCheck ↔ AtEndOfData bytes position := by
  induction fuel generalizing position s with
  | zero => omega
  | succ fuel ih =>
    rw [findNextObject,wpBind]
    refine wpMono (wpFirst playingTracks known deep.1 deep.2) (fun found t scanned => ?_) fun e _ failed => ?_
    · obtain ⟨object,place,next,there⟩ := scanned
      obtain ⟨⟨type,length⟩,m⟩ := found
      have blank := atEndOfDataIff next object
      dsimp only at blank ⊢
      rw [wpIte]
      refine ⟨fun bare => ?_,fun full => ?_⟩
      · rw [wpPure,blank,bare.2.1]
        exact fun wrong => wrong.elim (fun data => absurd data (by decide)) fun other => other.1 (.inl rfl)
      · unfold passObject
        rw [wpBind,if_pos (by rfl)]
        refine wpAdvanceTracked playingTracks there fun u beyond => ?_
        unfold judgeObject
        rw [wpBind,wpIte]
        refine ⟨fun data => ?_,fun notData => ?_⟩
        · rw [if_neg (by decide)]
          exact ⟨fun _ => blank.mpr (.inl data),fun _ => rfl⟩
        · rw [wpIte]
          refine ⟨fun mark => ?_,fun unmarked => ?_⟩
          · have other : ¬AtEndOfData bytes position := fun ends => (blank.mp ends).elim notData fun other => other.1 (.inr (.inl mark.1))
            unfold raiseFilemark
            simp only [wpBind,wpGetRequest,wpGetDevice,beyond.plain,Bool.not_false,Bool.and_self,if_true,setInformation,wpSuper,
              wpModifyDevice,wpThrow]
            exact ⟨(fun wrong => by cases wrong),fun ends => absurd ends other⟩
          · rw [wpIte]
            refine ⟨fun block => ?_,fun same => ?_⟩
            · have last : (if (0 : Int) - 1 ≤ 0 then Option.none else .some ((0 : Int) - 1)) = .none := rfl
              rw [wpPure,last,wpPure,blank]
              exact fun wrong => wrong.elim notData fun other => other.1 (.inl block.2)
            · have other : ¬Stopping type := by
                rintro (block | mark | data)
                · exact same ⟨by decide,block⟩
                · exact unmarked ⟨mark,rfl⟩
                · exact notData data
              have inside := next.inside
              have step : place + metaDataSize + recordSize m = place + metaDataSize := by rw [bareOther object other,Int.add_zero]
              have later : AtEndOfData bytes position ↔ AtEndOfData bytes (place + metaDataSize) :=
                ⟨fun ends => ((blank.mp ends).resolve_left notData).2,fun ends => blank.mpr (.inr ⟨other,ends⟩)⟩
              rw [step] at beyond
              have room := inside.2.2.1
              unfold metaDataSize at room
              rw [wpPure,later]
              exact ih beyond ⟨deep.1,by unfold metaDataSize; omega⟩ (by omega) (by unfold metaDataSize; omega)
    · refine ⟨fun wrong => ?_,fun ends => absurd ends (bareNotEnd failed.1)⟩
      cases wrong.symm.trans failed.2.1

/- Behind the search there are only read errors. -/
def NoBlankCheck (e : ScsiException) : Prop := e.senseKey ≠ .blankCheck

instance : DecidablePred NoBlankCheck := fun _ => inferInstanceAs (Decidable (_ ≠ _))

/- The buffer gets longer at most. -/
structure Buffered (s t : HandlerState Tape) : Prop where
  buffer : s.transfer.buffer <+: t.transfer.buffer

theorem Buffered.same {s t : HandlerState Tape} (same : t.transfer.buffer = s.transfer.buffer) : Buffered s t := ⟨same ▸ List.prefix_refl _⟩

instance : IsPreorder (HandlerState Tape) Buffered where
  refl _ := .same rfl
  trans _ _ _ h h' := ⟨h.buffer.trans h'.buffer⟩

abbrev Steady {α : Type} (P : α → Prop) (h : Handler Tape α) : Prop := Ensures Buffered P NoBlankCheck h

theorem modifySteady (f : Tape → Tape) : Steady (fun _ => True) (modifyDevice f) := fun _ _ => ⟨.same rfl,trivial⟩

theorem superSteady (f : PrimaryDevice → PrimaryDevice) : Steady (fun _ => True) (super (modifyDevice f)) := fun _ _ => ⟨.same rfl,trivial⟩

theorem setInformationSteady (value : Int) : Steady (fun _ => True) (setInformation value) := superSteady _

theorem readFileSteady (count : Int) : Steady (fun data => data.length = count.toNat) (readFile count) := by
  refine ensuresThen ensuresGetDevice fun d _ => ensuresThen ensuresGetWorld fun w _ => ?_
  cases d.stream w with
  | none => exact ensuresThrow (by decide)
  | some bytes => exact ensuresUnless (by decide) fun fits => ensuresPure (sliceLengthWithin (by omega))

theorem closeRecordSteady : Steady (fun _ => True) closeRecord := by
  refine ensuresThen (modifySteady _) fun _ _ => ensuresThen (readFileSteady _) fun _ _ => ensuresThen ensuresGetDevice fun _ _ => ?_
  have ends : Steady (fun _ => True) (do
      advance metaDataSize
      modifyDevice fun d => if d.remainingCount = 0 then { d with blocksRead := d.blocksRead + 1 } else d) :=
    ensuresThen (modifySteady _) fun _ _ => modifySteady _
  have fails : Steady (fun _ => True) (raiseReadError : Handler Tape Unit) := by
    refine ensuresThen (modifySteady _) fun _ _ => ensuresThen (modifySteady _) fun _ _ => ensuresThen ensuresGetDevice fun _ _ => ?_
    exact ensuresThen (setInformationSteady _) fun _ _ => ensuresThrow (by decide)
  exact ensuresIte (fun _ => ensuresThen fails fun _ _ => ends) fun _ => ends

theorem isAtRecordBoundarySteady : Steady (fun _ => True) isAtRecordBoundary := by
  refine ensuresThen ensuresGetDevice fun _ _ => ensuresIte (fun _ => ensuresPure trivial) fun _ => ?_
  exact ensuresThen (modifySteady _) fun _ _ => ensuresPure trivial

/- A chunk leaves its data in the buffer. -/
theorem wpChunkSteady {count : Int} (some : 0 < count) : wp (readChunk count) r s
    (fun length t => t.transfer.buffer.take length.toNat ≠ []) fun e _ => NoBlankCheck e := by
  unfold readChunk
  rw [wpBind]
  refine wpMono (readFileSteady count r s) (fun data t taken => ?_) fun _ _ failed => failed.2
  have length := taken.2
  have front (buf : Bytes) : setBytes buf 0 data ≠ [] := by
    intro none
    have data := takeFront buf data
    rw [none,List.take_nil] at data
    rw [← data,List.length_nil] at length
    omega
  rw [wpBind,wpSetBuffer]
  have rest : Steady (· = count) (do
      modifyDevice fun d => { d with remainingCount := uint32 (d.remainingCount - count) }
      advance count
      if (← isAtRecordBoundary) then closeRecord
      return count) := by
    refine ensuresThen (modifySteady _) fun _ _ => ensuresThen (modifySteady _) fun _ _ => ?_
    refine ensuresThen isAtRecordBoundarySteady fun _ _ => ensuresIte (fun _ => ?_) fun _ => ensuresPure rfl
    exact ensuresThen closeRecordSteady fun _ _ => ensuresPure rfl
  refine wpMono (rest r _) (fun length u ended => ?_) fun _ _ failed => failed.2
  obtain ⟨⟨buffer⟩,rfl⟩ := ended
  rw [Ne,List.take_eq_nil_iff]
  refine fun wrong => wrong.elim (by omega) fun none => front t.transfer.buffer (List.prefix_nil.mp (none ▸ buffer))

/- A check of the length does not end the command. -/
theorem checkBlockLengthSteady : Steady (fun _ => True) checkBlockLength := by
  refine ensuresThen ensuresGetRequest fun r _ => ensuresThen ensuresGetDevice fun d _ => ?_
  refine ensuresIte (fun _ => ?_) fun _ => ensuresPure trivial
  dsimp only
  split
  · have status : Steady (fun _ => True) (modifyTransfer fun t => { t with status := .checkCondition }) :=
      fun _ _ => ⟨.same rfl,trivial⟩
    refine ensuresThen (superSteady _) fun _ _ => ensuresThen (setInformationSteady _) fun _ _ => ?_
    exact ensuresThen status fun _ _ => ensuresPure trivial
  · exact ensuresPure trivial

theorem limitTransferSteady (actual : Nat) : Steady (fun _ => True) (limitTransfer actual) := by
  have size (length size : Int) : Steady (fun _ => True) (setTransferSize length size : Handler Tape Unit) :=
    fun _ _ => ⟨.same rfl,trivial⟩
  have current (length : Int) : Steady (fun _ => True) (setCurrentLength length : Handler Tape Unit) :=
    fun _ _ => ⟨⟨List.prefix_append _ _⟩,trivial⟩
  refine ensuresThen (modifySteady _) fun _ _ => ensuresThen ensuresGetDevice fun _ _ => ?_
  exact ensuresThen (size _ _) fun _ _ => current _

theorem wpBeginStopping {length : Int} (known : Playing bytes position n left s) (valid : 0 ≤ position) (some : 0 < length) :
    wp (beginRecord length) r s (fun count _ => ¬AtEndOfData bytes position ∧ 0 < count)
      fun e _ => e.senseKey = .blankCheck ↔ AtEndOfData bytes position := by
  have limit : scanLimit (.some bytes) = bytes.length + 2 := rfl
  have deep : 0 < scanLimit (.some bytes) ∧ (bytes.length : Int) - position < scanLimit (.some bytes) := by
    rw [limit]
    omega
  have opens (m : SimhMetaData) : Steady (fun _ => True) (do
      modifyDevice fun d => { d with currentMetaData := m, recordLength := m.value }
      if m.cls = .badDataRecord ∧ m.value = 0 then throw ⟨.mediumError,.readError⟩
      advance (-(m.value + metaDataSize : Nat))
      modifyDevice fun d => { d with recordStart := d.tapePosition }) := by
    refine ensuresThen (modifySteady _) fun _ _ => ensuresUnless (by decide) fun _ => ensuresThen (modifySteady _) fun _ _ => ?_
    exact modifySteady _
  have limits : Steady (0 < ·) (do
      let actual ← checkBlockLength
      if actual = 0 then return length
      limitTransfer actual
      return min (actual : Int) length) := by
    refine ensuresThen checkBlockLengthSteady fun actual _ => ensuresIte (fun _ => ensuresPure some) fun other => ?_
    exact ensuresThen (limitTransferSteady _) fun _ _ => ensuresPure (by omega)
  unfold beginRecord openRecord findNext
  rw [wpBind,wpBind,wpBind,wpGetDevice,wpBind,wpGetWorld,known.opened]
  refine wpMono (wpFindStopping known deep deep.1 deep.2) (fun m t other => ?_) fun _ _ ended => ended
  refine wpMono (opens m r t) (fun _ u _ => ?_) fun _ _ failed => ⟨fun wrong => absurd wrong failed.2,fun ends => absurd ends other⟩
  refine wpMono (limits r u) (fun _ _ ended => ⟨other,ended.2⟩) fun _ _ failed => ?_
  exact ⟨fun wrong => absurd wrong failed.2,fun ends => absurd ends other⟩

/- The first chunk of a command. -/
theorem wpReadStopping (known : Playing bytes position n left s) (initial : s.device.initial = true) (valid : 0 ≤ position)
    (some : 0 < s.transfer.chunkSize) :
    wp readData r s (fun length t => ¬AtEndOfData bytes position ∧ t.transfer.buffer.take length.toNat ≠ [])
      fun e _ => e.senseKey = .blankCheck ↔ AtEndOfData bytes position := by
  have boundary : s.device.atRecordBoundary = true := by simp [atRecordBoundary,initial]
  unfold readData isAtRecordBoundary
  rw [wpBind,wpGetTransfer,wpBind,wpBind,wpGetDevice,wpIte]
  refine ⟨fun tar => absurd (tar.symm.trans known.idle.simh) (by decide),fun _ => ?_⟩
  rw [wpBind,wpModifyDevice,wpPure,boundary,if_pos rfl,wpBind]
  have again : Playing bytes position n left { s with device := { s.device with initial := false } } :=
    ⟨known.toLoaded.after known.here rfl,known.plain,known.count,known.left⟩
  refine wpMono (wpBeginStopping again valid some) (fun count t ended => ?_) fun _ _ ended => ended
  refine wpMono (wpChunkSteady ended.2) (fun _ _ taken => ⟨ended.1,taken⟩) fun _ _ failed => ?_
  exact ⟨fun wrong => absurd wrong failed,fun ends => absurd ends ended.1⟩

/- What has been sent is not taken back. -/
theorem wpSendSome {fuel : Nat} {length : Int} (some : s.transfer.buffer.take length.toNat ≠ []) :
    wp (sendAll fuel length) r s (fun result _ => ∀ e, result ≠ ([],.failed e)) fun _ _ => False := by
  cases fuel with
  | zero => exact fun e wrong => by cases wrong
  | succ fuel =>
    rw [sendAll]
    simp only [wpBind,wpGetTransfer,wpModifyTransfer,wpIte,wpPure,wpTryCatch]
    refine ⟨fun _ e wrong => DataEnd.noConfusion (congrArg Prod.snd wrong),fun _ => ?_⟩
    have failed (e e' : ScsiException) : (s.transfer.buffer.take length.toNat,DataEnd.failed e) ≠ ([],.failed e') :=
      fun wrong => some (congrArg Prod.fst wrong)
    refine wpAlways (fun _ t => wpAlways (fun result _ e wrong => ?_) fun e _ => failed e) fun e _ => failed e
    exact some (List.append_eq_nil_iff.mp (congrArg Prod.fst wrong)).1

/-! The command. -/

/- A READ that is about to start. -/
structure Begins (bytes : Bytes) (position : Int) (n : Nat) (s : HandlerState Tape) : Prop extends Playing bytes position n n s where
  initial : s.device.initial = true
  remains : s.transfer.remainingLength = n
  chunk : s.transfer.chunkSize = (min n s.device.blockSize : Nat)
  status : s.transfer.status = .good

theorem readsFromBegins (known : Loaded bytes position s) (plain : ¬isFixed r) (good : s.transfer.status = .good) (small : n < 2^24) :
    Begins bytes position n (readsFrom (positioned r false s) n) := by
  have fits : int32 n = n := int32Fits (by omega) (by omega)
  have size : int32 s.device.blockSize = s.device.blockSize := (smallTotal known.size).2
  have chunk : (if (n : Int) < s.device.blockSize then (n : Int) else s.device.blockSize) = (min n s.device.blockSize : Nat) := by
    split <;> omega
  have drive : (positioned r false s).device = { s.device with expl := false, fixed := decide (isFixed r) } := rfl
  have still : (positioned r false s).transfer = s.transfer ∧ (positioned r false s).world = s.world := ⟨rfl,rfl⟩
  generalize positioned r false s = t at drive still ⊢
  obtain ⟨device,transfer,world⟩ := t
  obtain ⟨rfl,rfl⟩ := still
  subst drive
  unfold readsFrom
  dsimp only
  rw [fits,size]
  exact ⟨⟨known.after known.here rfl,decide_eq_false plain,rfl,rfl⟩,rfl,rfl,chunk,good⟩

theorem plainAccepted (known : Loaded bytes position s) (plain : ¬isFixed r) : ¬Refused r false false s := by
  refine acceptedChecks known.idle.unchanged known.idle.reset known.idle.attn known.idle.ready (fun wrong => ?_)
    (fun wrong => by cases wrong.1) (fun wrong => ?_) fun wrong => plain wrong.1
  · rcases wrong with both | ⟨wrong,_⟩
    · have low := Nat.and_assoc (r.cdbByte 1) 0x03 0x01
      rw [both] at low
      exact plain fun none => absurd (low.trans none) (by decide)
    · cases wrong
  · obtain ⟨e,t,failed⟩ := wrong
    cases failed

theorem wpReadVariable {Q : Bytes × DataEnd → HandlerState Tape → Prop} (known : Loaded bytes position s) (plain : ¬isFixed r)
    (good : s.transfer.status = .good) (asks : transferLength r false ≠ 0)
    (first : ∀ u, Begins bytes position (transferLength r false) u → wp readData r u
      (fun length t => wp (sendAll (scanLimit (t.device.stream t.world)) length) r t Q fun _ _ => False)
      fun e t => Q ([],.failed e) t) : wp (readCommand .read6) r s Q fun _ _ => False := by
  have listed : (ScsiCommand.read6,false,false) ∈ transferCommands := .head _
  have small : transferLength r false < 2^24 := transferLengthSmall
  have total : uint32 (s.device.total r false) = transferLength r false := by
    rw [Tape.total,if_neg plain,uint32Fits (by omega)]
  have begins := first _ (readsFromBegins known plain good small)
  unfold readCommand
  rw [wpTryCatch,wpBind]
  refine wpMono (wpTransfer listed (fun refused => absurd refused (plainAccepted known plain)) fun _ _ e t ran => ?_)
    (fun call t ended => ?_) fun _ _ failed => failed
  · rw [total] at ran
    exact wpError begins ran
  · obtain ⟨-,accepted⟩ := ended
    cases accepted with
    | nothing _ t none => exact absurd (total.symm.trans none) asks
    | sends length t _ ran =>
      rw [total] at ran
      dsimp only
      rw [wpBind,wpGetDevice,wpBind,wpGetWorld]
      exact wpMono (wpOk begins ran) (fun _ _ ended => ended) fun _ _ wrong => wrong.elim

/- A record whose length is asked for. The data are taken one byte too late if the length is odd. -/
theorem wpReadRecord (known : Loaded bytes position s) (plain : ¬isFixed r) (good : s.transfer.status = .good) (valid : 0 ≤ position)
    (asks : transferLength r false ≠ 0)
    (word : readMetaData (some bytes) position = some ⟨.tapeMarkGoodDataRecord,transferLength r false⟩) :
    wp (readCommand .read6) r s
      (Played bytes (position + metaDataSize + (transferLength r false) % 2) (transferLength r false) 0 []) fun _ _ => False := by
  have small : transferLength r false < 2^24 := transferLengthSmall
  refine wpReadVariable known plain good asks fun u begins => ?_
  have sized := begins.sized
  refine wpReadFirst begins.toPlaying begins.initial begins.chunk valid asks (Nat.min_le_left _ _) small word
    (fun t passed moved taken => ?_) fun fails _ _ => ⟨fun closes => absurd closes fails,fun _ wrong => by cases wrong⟩
  have room : 0 ≤ position + metaDataSize + (transferLength r false : Int) % 2 := by
    unfold metaDataSize
    omega
  have enough {done : Nat} (passed : Passed bytes (position + metaDataSize + (transferLength r false) % 2) (transferLength r false) done t)
      (closes : Closes bytes (transferLength r false) (position + metaDataSize + (transferLength r false) % 2) (transferLength r false)) :
      transferLength r false - done < scanLimit (t.device.stream t.world) := by
    have data := closes.data
    rw [passed.opened]
    unfold scanLimit
    dsimp only [Option.getD_some]
    omega
  have chunk : t.transfer.chunkSize = u.transfer.chunkSize ∧ t.transfer.remainingLength = u.transfer.remainingLength ∧
      t.transfer.status = u.transfer.status := by
    rw [moved]
    exact ⟨rfl,rfl,rfl⟩
  have sending : Sending bytes (position + metaDataSize + (transferLength r false) % 2) (transferLength r false)
      (min (transferLength r false) u.device.blockSize) (min (transferLength r false) u.device.blockSize) t :=
    ⟨passed,by rw [chunk.2.1,begins.remains]; omega,chunk.1.trans begins.chunk,chunk.2.2.trans begins.status⟩
  have buffer := takeFront u.transfer.buffer (slice bytes (position + metaDataSize + (transferLength r false) % 2 + (0 : Nat)).toNat
    (min (transferLength r false) u.device.blockSize))
  rw [taken] at buffer
  have sent := wpSendRecord (r := r) sending (by omega) room small (enough passed)
  rw [moved,fetched,buffer] at sent
  refine wpMono sent (fun result v played => ?_) fun _ _ wrong => wrong
  obtain ⟨data,ends⟩ := result
  exact played.before room (Nat.zero_add _).symm (Nat.min_le_left _ _)

/- Another object than a record ends the command before anything is sent. -/
theorem wpReadRaises {Q : ScsiException → HandlerState Tape → Prop} (known : Loaded bytes position s) (plain : ¬isFixed r)
    (good : s.transfer.status = .good) (asks : transferLength r false ≠ 0)
    (raises : ∀ t, Playing bytes position (transferLength r false) (transferLength r false) t →
      wp openRecord r t (fun _ _ => False) Q) :
    wp (readCommand .read6) r s (fun result t => ∃ e, result = ([],.failed e) ∧ Q e t) fun _ _ => False := by
  refine wpReadVariable known plain good asks fun u begins => ?_
  have boundary : u.device.atRecordBoundary = true := by simp [atRecordBoundary,begins.initial]
  unfold readData isAtRecordBoundary
  rw [wpBind,wpGetTransfer,wpBind,wpBind,wpGetDevice,wpIte]
  refine ⟨fun tar => absurd (tar.symm.trans begins.idle.simh) (by decide),fun _ => ?_⟩
  rw [wpBind,wpModifyDevice,wpPure,boundary,if_pos rfl,wpBind]
  unfold beginRecord
  rw [wpBind]
  have again : Playing bytes position (transferLength r false) (transferLength r false)
      { u with device := { u.device with initial := false } } :=
    ⟨begins.toLoaded.after begins.here rfl,begins.plain,begins.count,begins.left⟩
  exact wpMono (raises _ again) (fun _ _ wrong => wrong.elim) fun e t raised => ⟨e,rfl,raised⟩

theorem wpReadMark (known : Loaded bytes position s) (plain : ¬isFixed r) (good : s.transfer.status = .good)
    (asks : transferLength r false ≠ 0) (word : readMetaData (some bytes) position = some ⟨.tapeMarkGoodDataRecord,0⟩) :
    wp (readCommand .read6) r s (fun result t => ∃ e, result = ([],.failed e) ∧ e = ⟨.noSense,.noAdditionalSenseInformation⟩ ∧
      Loaded bytes (position + metaDataSize) t ∧ t.device.filemark = true) fun _ _ => False :=
  wpReadRaises known plain good asks fun _ playing => wpOpenFilemark playing word fun _ loaded mark => ⟨rfl,loaded,mark⟩

/- Nothing but an end-of-data object is reported as such. -/
theorem wpReadEnd (known : Loaded bytes position s) (plain : ¬isFixed r) (good : s.transfer.status = .good) (valid : 0 ≤ position)
    (asks : transferLength r false ≠ 0) : wp (readCommand .read6) r s
      (fun result _ => (∃ e, result = ([],.failed e) ∧ e.senseKey = .blankCheck) ↔ AtEndOfData bytes position) fun _ _ => False := by
  refine wpReadVariable known plain good asks fun u begins => ?_
  have sized := begins.sized
  have some : 0 < u.transfer.chunkSize := by
    rw [begins.chunk]
    omega
  refine wpMono (wpReadStopping begins.toPlaying begins.initial valid some) (fun length t ended => ?_) fun e _ ended => ?_
  · refine wpMono (wpSendSome ended.2) (fun result _ sent => ?_) fun _ _ wrong => wrong
    exact ⟨fun ⟨e,same,_⟩ => absurd same (sent e),fun ends => absurd ends ended.1⟩
  · refine ⟨fun ⟨e',same,key⟩ => ?_,fun ends => ⟨e,rfl,ended.mpr ends⟩⟩
    cases same
    exact ended.mp key

end
end Tape
end Scsi2Pi
