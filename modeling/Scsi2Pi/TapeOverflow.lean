import Scsi2Pi.TapeAccess

/-! When a tape is full: the checks that WRITE and WRITE FILEMARKS make before each word
and each chunk of data, and where what they have to write ends. -/
namespace Scsi2Pi
open Slices MemoryUtil Handler Derives Eff SimhUtil

namespace Tape

/- The chunks that the controller passes to WriteData. An initiator has nothing to send
for a negative length. -/
def receiveAll : Nat → Bytes → Handler Tape Unit
  | 0, _ => pure ()
  | fuel+1, data => do
    let t ← getTransfer
    let length := min t.chunkSize t.remainingLength
    if length ≤ 0 then throw ⟨.abortedCommand,.dataPhaseError⟩
    setBuffer (setBytes · 0 (data.take length.toNat))
    let transferred ← writeData length
    modifyTransfer (·.updateTransferLength transferred)
    if (← getTransfer).remainingLength ≠ 0 then receiveAll fuel (data.drop length.toNat)

/- A command with the data it receives. -/
def writeCommand (cmd : ScsiCommand) (data : Bytes) : Handler Tape Unit := do
  match ← methods.dispatch cmd with
  | .dataOut _ => receiveAll ((← getTransfer).remainingLength.toNat + 1) data
  | _ => pure ()

/- Where the next object starts. -/
def behind (position : Int) (length : Nat) : Int :=
  position + metaDataSize + length + (position + metaDataSize + length) % 2 + metaDataSize

def behindAll (position : Int) (lengths : List Nat) : Int := lengths.foldl behind position

/- The mark at the end is written if the file had room for it when it was opened. -/
def Fits (d : Tape) (stop : Int) : Prop :=
  stop ≤ d.maxFileSize ∧ (d.tarFile = false → stop + metaDataSize ≤ d.fileSize → stop + metaDataSize ≤ d.maxFileSize)

def EndPasses (d : Tape) (position : Int) : Prop :=
  position + metaDataSize ≤ d.fileSize → position + (position + metaDataSize) ≤ d.maxFileSize

/- The checks of the last word and of the mark at the end. A word is checked with its
absolute end, to which the position is added once more. -/
def Passes (d : Tape) (stop : Int) : Prop :=
  if d.tarFile then stop ≤ d.maxFileSize
  else stop - metaDataSize + stop ≤ d.maxFileSize ∧ EndPasses d stop

section
variable {r : Request} {s : HandlerState Tape} {d : Tape} {position : Int} {remaining : Nat} {initial : Bool}
  {transfer : Transfer} {E : ScsiException → HandlerState Tape → Prop}

/- A drive that writes, at a position in a file that exists. -/
structure Recording (d : Tape) (position : Int) (remaining : Nat) (initial : Bool) (transfer : Transfer)
    (s : HandlerState Tape) : Prop where
  device : ∃ location, s.device =
    { d with tapePosition := position, objectLocation := location, remainingCount := remaining, initial }
  transfer : s.transfer = transfer
  valid : 0 ≤ position
  opened : ∃ bytes, d.stream s.world = some bytes

theorem Recording.isOpen (known : Recording d position remaining initial transfer s) : d.isOpen = true := by
  obtain ⟨bytes,opened⟩ := known.opened
  unfold stream at opened
  split at opened
  · assumption
  · cases opened

theorem wpWriteFile {data : Bytes} {Q : Unit → HandlerState Tape → Prop}
    (known : Recording d position remaining initial transfer s)
    (rest : ∀ t, Recording d position remaining initial transfer t → Q () t) : wp (writeFile data) r s Q E := by
  obtain ⟨location,device⟩ := known.device
  obtain ⟨bytes,opened⟩ := known.opened
  have isOpen := known.isOpen
  have file : s.world.files d.filename = some bytes := by
    rw [stream,isOpen] at opened
    exact opened
  unfold writeFile
  simp only [wpBind,wpGetDevice,wpGetWorld,wpIte,wpThrow]
  rw [device]
  refine ⟨fun wrong => ?_,fun _ => ?_⟩
  · rcases wrong with closed | negative
    · simp only [isOpen,Bool.not_true,Bool.false_eq_true] at closed
    · exact absurd known.valid (Int.not_le.mpr negative)
  · rw [FileSystem.writeAtFile file]
    refine rest _ ⟨⟨location,device⟩,known.transfer,known.valid,?_⟩
    refine ⟨overwrite 0 bytes position.toNat data,?_⟩
    unfold stream
    rw [isOpen]
    exact Function.update_self ..

theorem wpAdvanceBy {count : Int} {Q : Unit → HandlerState Tape → Prop}
    (known : Recording d position remaining initial transfer s) (valid : 0 ≤ position + count)
    (rest : ∀ t, Recording d (position + count) remaining initial transfer t → Q () t) : wp (advance count) r s Q E := by
  obtain ⟨location,device⟩ := known.device
  refine rest _ ⟨⟨location,?_⟩,known.transfer,valid,known.opened⟩
  rw [device]

theorem wpCheckForOverflow {length : Int} {Q : Unit → HandlerState Tape → Prop}
    (known : Recording d position remaining initial transfer s) (passes : position + length ≤ d.maxFileSize → Q () s)
    (full : d.maxFileSize < position + length → ∀ t, E ⟨.volumeOverflow,.noAdditionalSenseInformation⟩ t) :
    wp (checkForOverflow length) r s Q E := by
  obtain ⟨location,device⟩ := known.device
  unfold checkForOverflow
  simp only [wpBind,wpGetDevice,wpIte,wpThrow,wpPure]
  rw [device]
  exact ⟨fun wrong => full wrong _,fun fits => passes (Int.not_lt.mp fits)⟩

theorem wpWriteWord {cls : SimhClass} {value : Nat} {Q : Unit → HandlerState Tape → Prop}
    (known : Recording d position remaining initial transfer s)
    (passes : position + (position + metaDataSize) ≤ d.maxFileSize →
      ∀ t, Recording d position remaining initial transfer t → Q () t)
    (full : d.maxFileSize < position + (position + metaDataSize) →
      ∀ t, E ⟨.volumeOverflow,.noAdditionalSenseInformation⟩ t) : wp (writeSimhMetaData cls value) r s Q E := by
  have here : s.device.tapePosition = position := by
    obtain ⟨location,device⟩ := known.device
    rw [device]
  unfold writeSimhMetaData
  rw [wpBind,wpGetDevice,wpBind,here]
  exact wpCheckForOverflow known (fun fits => wpWriteFile known (passes fits)) full

theorem wpWriteEndOfData {Q : Unit → HandlerState Tape → Prop}
    (known : Recording d position remaining initial transfer s)
    (passes : EndPasses d position → ∀ t, Recording d position remaining initial transfer t → Q () t)
    (full : ¬EndPasses d position → ∀ t, E ⟨.volumeOverflow,.noAdditionalSenseInformation⟩ t) :
    wp writeEndOfData r s Q E := by
  have fields : s.device.tapePosition = position ∧ s.device.fileSize = d.fileSize ∧ s.device.isOpen = d.isOpen := by
    obtain ⟨location,device⟩ := known.device
    rw [device]
    exact ⟨rfl,rfl,rfl⟩
  have opened (t : HandlerState Tape) (after : Q () t) : wp (if !d.isOpen ∨ position < 0 then
      throw ⟨.mediumError,.writeError⟩ else pure () : Handler Tape Unit) r t Q E := by
    rw [wpIte]
    refine ⟨fun wrong => ?_,fun _ => after⟩
    rcases wrong with closed | negative
    · simp only [known.isOpen,Bool.not_true,Bool.false_eq_true] at closed
    · exact absurd known.valid (Int.not_le.mpr negative)
  unfold writeEndOfData
  rw [wpBind,wpGetDevice,fields.1,fields.2.1,fields.2.2,wpIte]
  constructor
  · intro room
    rw [wpBind]
    refine wpWriteWord known (fun fits t after => opened t (passes (fun _ => fits) t after)) fun tooLong => ?_
    exact full fun fits => Int.not_le.mpr tooLong (fits room)
  · intro noRoom
    exact opened s (passes (fun room => absurd room noRoom) s known)

/- The word in front of a record, or a tape mark, with the mark at the end behind it. -/
def MarkPasses (d : Tape) (position : Int) : Prop :=
  position + (position + metaDataSize) ≤ d.maxFileSize ∧ EndPasses d (position + metaDataSize)

theorem wpWriteMark {type : ObjectType} {size : Nat} {Q : Unit → HandlerState Tape → Prop}
    (known : Recording d position remaining initial transfer s) (simh : d.tarFile = false)
    (marks : type = .block ∨ type = .filemark)
    (passes : MarkPasses d position →
      ∀ t, Recording d (position + metaDataSize) remaining initial transfer t → Q () t)
    (full : ¬MarkPasses d position → ∀ t, E ⟨.volumeOverflow,.noAdditionalSenseInformation⟩ t) :
    wp (writeMetaData type size) r s Q E := by
  have tar : s.device.tarFile = false := by
    obtain ⟨location,device⟩ := known.device
    rw [device]
    exact simh
  unfold writeMetaData
  rw [wpBind,wpGetDevice,tar,if_neg Bool.false_ne_true,if_pos marks,wpBind]
  refine wpWriteWord known (fun fits t known => ?_) fun wrong => ?_
  · rw [wpBind]
    refine wpAdvanceBy known (Int.add_nonneg known.valid (Int.natCast_nonneg _)) fun t known => ?_
    refine wpWriteEndOfData known (fun ends t known => passes ⟨fits,ends⟩ t known) fun wrong => ?_
    exact full fun both => wrong both.2
  · exact full fun both => Int.not_le.mpr wrong both.1

theorem wpWriteLast {Q : Unit → HandlerState Tape → Prop} (known : Recording d position remaining initial transfer s)
    (passes : (d.tarFile = false → EndPasses d position) →
      ∀ t, Recording d position remaining initial transfer t → Q () t)
    (full : d.tarFile = false → ¬EndPasses d position → ∀ t, E ⟨.volumeOverflow,.noAdditionalSenseInformation⟩ t) :
    wp (writeMetaData .endOfData 0) r s Q E := by
  have tar : s.device.tarFile = d.tarFile := by
    obtain ⟨location,device⟩ := known.device
    rw [device]
  unfold writeMetaData
  rw [wpBind,wpGetDevice,tar,wpIte]
  constructor
  · intro tar
    exact passes (fun simh => absurd (tar.symm.trans simh) (by decide)) s known
  · intro other
    have simh : d.tarFile = false := Bool.eq_false_iff.mpr other
    rw [if_neg (by decide)]
    exact wpWriteEndOfData known (fun ends => passes fun _ => ends) (full simh)

/-! Filemarks. -/

theorem passesSimh {stop : Int} (simh : d.tarFile = false) :
    Passes d stop ↔ stop - metaDataSize + stop ≤ d.maxFileSize ∧ EndPasses d stop := by
  unfold Passes
  rw [simh]
  exact Iff.rfl

/- A mark that does not pass is in front of the end of the last one, or it is the last. -/
theorem markStops {count : Nat} (simh : d.tarFile = false) (wrong : ¬MarkPasses d position) :
    ¬Passes d (position + metaDataSize * (count + 1 : Nat)) := by
  rw [passesSimh simh]
  simp only [MarkPasses,EndPasses,metaDataSize] at wrong ⊢
  push_cast at wrong ⊢
  omega

theorem wpRepeatFilemark (count : Nat) (known : Recording d position remaining initial transfer s)
    (simh : d.tarFile = false) :
    wp (repeatFilemark count) r s (fun _ _ => count ≠ 0 → Passes d (position + metaDataSize * count))
      fun e _ => e = ⟨.volumeOverflow,.noAdditionalSenseInformation⟩ ∧ count ≠ 0 ∧
        ¬Passes d (position + metaDataSize * count) := by
  induction count generalizing position s with
  | zero => exact fun wrong => absurd rfl wrong
  | succ count ih =>
    rw [repeatFilemark,wpBind]
    refine wpWriteMark known simh (.inr rfl) (fun mark t known => ?_) fun wrong t => ?_
    · have same : position + metaDataSize + (metaDataSize : Int) * count =
          position + metaDataSize * (count + 1 : Nat) := by
        simp only [metaDataSize]
        push_cast
        omega
      refine wpMono (ih known) (fun _ _ passes _ => ?_) fun e _ full => ⟨full.1,Nat.succ_ne_zero _,?_⟩
      · by_cases last : count = 0
        · rw [last,passesSimh simh]
          simp only [MarkPasses,EndPasses,metaDataSize] at mark ⊢
          push_cast at mark ⊢
          omega
        · rw [← same]
          exact passes last
      · rw [← same]
        exact full.2.2
    · exact ⟨rfl,Nat.succ_ne_zero _,markStops simh wrong⟩

/-! Data, chunk after chunk. -/

def boundary (d : Tape) (remaining : Nat) (initial : Bool) : Bool :=
  !d.tarFile && atRecordBoundary { d with remainingCount := remaining, initial }

/- Where the data of a chunk start, and where the next chunk starts. -/
def chunkStart (d : Tape) (position : Int) (remaining : Nat) (initial : Bool) : Int :=
  if boundary d remaining initial then position + metaDataSize else position

def paddedEnd (position : Int) : Int := position + position % 2

def chunkStop (d : Tape) (position : Int) (remaining : Nat) (initial : Bool) (count : Nat) : Int :=
  let stop := chunkStart d position remaining initial + count
  if boundary d (remaining - count) false then paddedEnd stop + metaDataSize else stop

/- All the checks that are made for a chunk. -/
structure ChunkPasses (d : Tape) (position : Int) (remaining : Nat) (initial : Bool) (count : Nat) : Prop where
  word : boundary d remaining initial = true → MarkPasses d position
  data : chunkStart d position remaining initial + count ≤ d.maxFileSize
  trailing : boundary d (remaining - count) false = true →
    paddedEnd (chunkStart d position remaining initial + count) +
      (paddedEnd (chunkStart d position remaining initial + count) + metaDataSize) ≤ d.maxFileSize
  last : remaining - count = 0 → d.tarFile = false → EndPasses d (chunkStop d position remaining initial count)

theorem wpBoundary {Q : Bool → HandlerState Tape → Prop} (known : Recording d position remaining initial transfer s)
    (rest : ∀ t, Recording d position remaining (d.tarFile && initial) transfer t → Q (boundary d remaining initial) t) :
    wp isAtRecordBoundary r s Q E := by
  obtain ⟨location,device⟩ := known.device
  unfold isAtRecordBoundary
  rw [wpBind,wpGetDevice,device]
  dsimp only
  unfold boundary at rest
  rw [wpIte]
  constructor
  · intro tar
    rw [tar] at rest
    exact rest s ⟨⟨location,device⟩,known.transfer,known.valid,known.opened⟩
  · intro other
    have simh : d.tarFile = false := Bool.eq_false_iff.mpr other
    rw [simh] at rest
    refine rest _ ⟨⟨location,?_⟩,known.transfer,known.valid,known.opened⟩
    rw [device]
    rfl

theorem wpBeginWrite {Q : Unit → HandlerState Tape → Prop} (known : Recording d position remaining initial transfer s)
    (passes : (boundary d remaining initial = true → MarkPasses d position) → ∀ t,
      Recording d (chunkStart d position remaining initial) remaining (d.tarFile && initial) transfer t → Q () t)
    (full : boundary d remaining initial = true → ¬MarkPasses d position →
      ∀ t, E ⟨.volumeOverflow,.noAdditionalSenseInformation⟩ t) : wp beginWrite r s Q E := by
  unfold beginWrite
  rw [wpBind]
  refine wpBoundary known fun t known => ?_
  unfold chunkStart at passes
  cases begins : boundary d remaining initial with
  | false =>
    rw [begins] at passes
    rw [if_neg Bool.false_ne_true]
    exact passes (fun wrong => absurd wrong Bool.false_ne_true) t known
  | true =>
    have simh : d.tarFile = false := by
      unfold boundary at begins
      cases tar : d.tarFile with
      | false => rfl
      | true => simp [tar] at begins
    rw [begins] at passes
    rw [if_pos rfl,wpBind,wpGetDevice]
    exact wpWriteMark known simh (.inl rfl) (fun mark t known => passes (fun _ => mark) t known) (full begins)

theorem wpFinishRecord {Q : Unit → HandlerState Tape → Prop} (known : Recording d position remaining initial transfer s)
    (passes : paddedEnd position + (paddedEnd position + metaDataSize) ≤ d.maxFileSize → ∀ t,
      Recording d (paddedEnd position + metaDataSize) remaining initial transfer t → Q () t)
    (full : d.maxFileSize < paddedEnd position + (paddedEnd position + metaDataSize) →
      ∀ t, E ⟨.volumeOverflow,.noAdditionalSenseInformation⟩ t) : wp finishRecord r s Q E := by
  have here : s.device.tapePosition = position := by
    obtain ⟨location,device⟩ := known.device
    rw [device]
  have close (t : HandlerState Tape) (known : Recording d (paddedEnd position) remaining initial transfer t) :
      wp (do
        writeSimhMetaData .tapeMarkGoodDataRecord (← getDevice).recordLength
        advance metaDataSize
        modifyDevice fun d => { d with objectLocation := d.objectLocation + 1 } : Handler Tape Unit) r t Q E := by
    rw [wpBind,wpGetDevice,wpBind]
    refine wpWriteWord known (fun fits t known => ?_) full
    rw [wpBind]
    refine wpAdvanceBy known (Int.add_nonneg known.valid (Int.natCast_nonneg _)) fun t known => ?_
    rw [wpModifyDevice]
    obtain ⟨location,device⟩ := known.device
    refine passes fits _ ⟨⟨location + 1,?_⟩,known.transfer,known.valid,known.opened⟩
    rw [device]
  unfold finishRecord
  rw [wpBind,wpGetDevice,here,wpIte]
  have valid := known.valid
  constructor
  · intro odd
    have padded : position + 1 = paddedEnd position := by
      unfold paddedEnd
      omega
    rw [wpBind]
    refine wpWriteFile known fun t known => ?_
    rw [wpBind]
    refine wpAdvanceBy known (by omega) fun t known => close t ?_
    rw [← padded]
    exact known
  · intro even
    have padded : position = paddedEnd position := by
      unfold paddedEnd
      omega
    refine close s ?_
    rw [← padded]
    exact known

theorem boundaryEnd (simh : d.tarFile = false) : boundary d 0 initial = true := by
  simp [boundary,atRecordBoundary,simh]

theorem boundaryTar (tar : d.tarFile = true) : boundary d remaining initial = false := by
  simp [boundary,tar]

/- The end of a chunk that starts there. -/
def endsAt (d : Tape) (position : Int) (remaining : Nat) : Int :=
  if boundary d remaining false then paddedEnd position + metaDataSize else position

theorem wpEndWrite {Q : Unit → HandlerState Tape → Prop}
    (known : Recording d position remaining (d.tarFile && initial) transfer s)
    (passes : (boundary d remaining false = true →
        paddedEnd position + (paddedEnd position + metaDataSize) ≤ d.maxFileSize) →
      (remaining = 0 → d.tarFile = false → EndPasses d (endsAt d position remaining)) → ∀ t,
      Recording d (endsAt d position remaining) remaining (d.tarFile && initial) transfer t → Q () t)
    (full : ¬((boundary d remaining false = true →
        paddedEnd position + (paddedEnd position + metaDataSize) ≤ d.maxFileSize) ∧
      (remaining = 0 → d.tarFile = false → EndPasses d (endsAt d position remaining))) →
      ∀ t, E ⟨.volumeOverflow,.noAdditionalSenseInformation⟩ t) : wp endWrite r s Q E := by
  have same : boundary d remaining (d.tarFile && initial) = boundary d remaining false := by
    cases tar : d.tarFile with
    | true => rw [boundaryTar tar,boundaryTar tar]
    | false => rfl
  have ending (t : HandlerState Tape)
      (known : Recording d (endsAt d position remaining) remaining (d.tarFile && initial) transfer t)
      (trailing : boundary d remaining false = true →
        paddedEnd position + (paddedEnd position + metaDataSize) ≤ d.maxFileSize) :
      wp (do if (← getDevice).remainingCount = 0 then writeMetaData .endOfData 0 : Handler Tape Unit) r t Q E := by
    have count : t.device.remainingCount = remaining := by
      obtain ⟨location,device⟩ := known.device
      rw [device]
    rw [wpBind,wpGetDevice,count,wpIte]
    constructor
    · intro last
      refine wpWriteLast known (fun ends t known => passes trailing (fun _ => ends) t known) fun simh wrong => ?_
      exact full fun both => wrong (both.2 last simh)
    · intro more
      exact passes trailing (fun last => absurd last more) t known
  unfold endWrite
  rw [wpBind]
  refine wpBoundary known fun t known => ?_
  rw [same]
  have again : Recording d position remaining (d.tarFile && initial) transfer t := by
    cases tar : d.tarFile with
    | true => simpa [tar] using known
    | false => simpa [tar] using known
  unfold endsAt at ending
  cases ends : boundary d remaining false with
  | false =>
    rw [ends] at ending
    rw [if_neg Bool.false_ne_true]
    exact ending t again fun wrong => absurd wrong Bool.false_ne_true
  | true =>
    rw [ends] at ending full
    rw [if_pos rfl,wpBind]
    refine wpFinishRecord again (fun trailing t known => ending t known fun _ => trailing) fun wrong => ?_
    exact full fun both => Int.not_le.mpr wrong (both.1 rfl)

theorem wpWriteData {count : Nat} {Q : Int → HandlerState Tape → Prop}
    (known : Recording d position remaining initial transfer s) (some : 0 < count) (within : count ≤ remaining)
    (small : remaining ≤ d.byteCount) (fits : d.byteCount < 2^31)
    (passes : ChunkPasses d position remaining initial count → ∀ t,
      Recording d (chunkStop d position remaining initial count) (remaining - count) (d.tarFile && initial) transfer t →
        Q count t)
    (full : ¬ChunkPasses d position remaining initial count →
      ∀ t, E ⟨.volumeOverflow,.noAdditionalSenseInformation⟩ t) : wp (writeData count) r s Q E := by
  have size : min d.byteCount (uint32 (count : Nat)) = count := by
    rw [uint32Fits (by omega)]
    omega
  have left : uint32 ((remaining : Int) - (count : Nat)) = remaining - count := by
    have same : (remaining : Int) - (count : Nat) = (remaining - count : Nat) := by omega
    rw [same,uint32Fits (by omega)]
  unfold writeData
  rw [wpBind]
  refine wpBeginWrite known (fun word t known => ?_) fun begins wrong => full fun all => wrong (all.word begins)
  have bytes : t.device.byteCount = d.byteCount := by
    obtain ⟨location,device⟩ := known.device
    rw [device]
  rw [wpBind,wpGetDevice,bytes,size,wpBind]
  refine wpCheckForOverflow known (fun data => ?_) fun wrong => full fun all => Int.not_le.mpr wrong all.data
  rw [wpBind,wpGetTransfer,wpBind]
  refine wpWriteFile known fun t known => ?_
  rw [wpBind,wpModifyDevice,wpBind]
  have counted : Recording d (chunkStart d position remaining initial) (remaining - count) (d.tarFile && initial) transfer
      { t with device := { t.device with remainingCount := uint32 (t.device.remainingCount - (count : Nat) : Int) } } := by
    obtain ⟨location,device⟩ := known.device
    refine ⟨⟨location,?_⟩,known.transfer,known.valid,known.opened⟩
    rw [device]
    dsimp only
    rw [left]
  refine wpAdvanceBy counted (by have valid := known.valid; omega) fun t known => ?_
  rw [wpBind]
  refine wpEndWrite known (fun trailing last t known => ?_) fun wrong => ?_
  · exact passes ⟨word,data,trailing,last⟩ t known
  · exact full fun all => wrong ⟨all.trailing,all.last⟩

/-! All the chunks. -/

/- Where the data end that are received in chunks of the block size. -/
def stopAfter (d : Tape) : Nat → Int → Nat → Bool → Int
  | 0, position, _, _ => position
  | fuel+1, position, remaining, initial =>
    let count := min d.blockSize remaining
    let stop := chunkStop d position remaining initial count
    if remaining - count = 0 then stop else stopAfter d fuel stop (remaining - count) (d.tarFile && initial)

theorem chunkStartAfter (d : Tape) (position : Int) (remaining : Nat) (initial : Bool) :
    position ≤ chunkStart d position remaining initial := by
  unfold chunkStart metaDataSize
  split <;> omega

theorem chunkStopAfter (d : Tape) (position : Int) (remaining : Nat) (initial : Bool) (count : Nat) :
    chunkStart d position remaining initial + count ≤ chunkStop d position remaining initial count := by
  unfold chunkStop paddedEnd metaDataSize
  dsimp only
  split <;> omega

theorem stopTar (tar : d.tarFile = true) (sized : 0 < d.blockSize) {fuel : Nat} (enough : remaining ≤ fuel)
    (some : 0 < remaining) : stopAfter d fuel position remaining initial = position + remaining := by
  induction fuel generalizing position remaining initial with
  | zero => omega
  | succ fuel ih =>
    have stop (count : Nat) : chunkStop d position remaining initial count = position + count := by
      simp only [chunkStop,chunkStart,boundaryTar tar,Bool.false_eq_true,if_false]
    rw [stopAfter]
    rw [stop]
    split
    · omega
    · rw [ih (by omega) (by omega)]
      omega

/- The trailing word of the last record is behind all data. -/
theorem stopSimh (simh : d.tarFile = false) (sized : 0 < d.blockSize) (fuel : Nat) (position : Int) (remaining : Nat)
    (initial : Bool) (enough : remaining ≤ fuel) (some : 0 < remaining) :
    chunkStart d position remaining initial + remaining + metaDataSize ≤ stopAfter d fuel position remaining initial := by
  induction fuel generalizing position remaining initial with
  | zero => omega
  | succ fuel ih =>
    rw [stopAfter]
    split
    · next last =>
      have whole : min d.blockSize remaining = remaining := by omega
      unfold chunkStop paddedEnd
      rw [whole,Nat.sub_self,boundaryEnd simh]
      dsimp only
      rw [if_pos rfl]
      omega
    · have later := ih (chunkStop d position remaining initial (min d.blockSize remaining))
        (remaining - min d.blockSize remaining) (d.tarFile && initial) (by omega) (by omega)
      have start := chunkStartAfter d (chunkStop d position remaining initial (min d.blockSize remaining))
        (remaining - min d.blockSize remaining) (d.tarFile && initial)
      have stop := chunkStopAfter d position remaining initial (min d.blockSize remaining)
      omega

/- The next chunk does not start before the end of this one. -/
theorem stopNext (sized : 0 < d.blockSize) {fuel : Nat} (position : Int) (initial : Bool)
    (enough : remaining ≤ fuel + 1) (some : 0 < remaining) :
    chunkStop d position remaining initial (min d.blockSize remaining) ≤
      stopAfter d (fuel+1) position remaining initial := by
  rw [stopAfter]
  split
  · exact Int.le_refl _
  · cases tar : d.tarFile with
    | true =>
      rw [stopTar tar sized (by omega) (by omega)]
      omega
    | false =>
      have lower := stopSimh tar sized fuel (chunkStop d position remaining initial (min d.blockSize remaining))
        (remaining - min d.blockSize remaining) (false && initial) (by omega) (by omega)
      have start := chunkStartAfter d (chunkStop d position remaining initial (min d.blockSize remaining))
        (remaining - min d.blockSize remaining) (false && initial)
      omega

theorem passesTar {stop : Int} (tar : d.tarFile = true) : Passes d stop ↔ stop ≤ d.maxFileSize := by
  unfold Passes
  rw [tar]
  exact Iff.rfl

/- What the checks of a chunk say is said by those of the last one. -/
theorem chunkStops (valid : 0 ≤ position) (sized : 0 < d.blockSize) {fuel : Nat} (enough : remaining ≤ fuel + 1)
    (some : 0 < remaining)
    (wrong : ¬ChunkPasses d position remaining initial (min d.blockSize remaining)) :
    ¬Passes d (stopAfter d (fuel+1) position remaining initial) := by
  intro passes
  have next := stopNext sized position initial enough some
  have start := chunkStartAfter d position remaining initial
  have stop := chunkStopAfter d position remaining initial (min d.blockSize remaining)
  refine wrong ?_
  cases tar : d.tarFile with
  | true =>
    rw [passesTar tar] at passes
    refine ⟨fun begins => ?_,by omega,fun ends => ?_,fun _ simh => absurd simh (by rw [tar]; decide)⟩
    · rw [boundaryTar tar] at begins
      cases begins
    · rw [boundaryTar tar] at ends
      cases ends
  | false =>
    have lower := stopSimh tar sized (fuel+1) position remaining initial enough some
    rw [passesSimh tar] at passes
    obtain ⟨word,ending⟩ := passes
    refine ⟨fun begins => ?_,?_,fun ends => ?_,fun last _ => ?_⟩
    · have begun : chunkStart d position remaining initial = position + metaDataSize := by rw [chunkStart,if_pos begins]
      unfold MarkPasses EndPasses
      unfold metaDataSize at *
      omega
    · unfold metaDataSize at *
      omega
    · have trailing : chunkStop d position remaining initial (min d.blockSize remaining) =
          paddedEnd (chunkStart d position remaining initial + (min d.blockSize remaining : Nat)) + metaDataSize := by
        unfold chunkStop
        rw [if_pos ends]
      unfold metaDataSize at *
      omega
    · have same : stopAfter d (fuel+1) position remaining initial =
          chunkStop d position remaining initial (min d.blockSize remaining) := by
        rw [stopAfter]
        exact if_pos last
      rw [← same]
      exact ending

/- The last chunk passes with its last word. -/
theorem lastPasses {count : Nat} (whole : count = remaining) (passes : ChunkPasses d position remaining initial count) :
    Passes d (chunkStop d position remaining initial count) := by
  have none : remaining - count = 0 := by omega
  cases tar : d.tarFile with
  | true =>
    rw [passesTar tar]
    have data := passes.data
    unfold chunkStop
    rw [boundaryTar tar]
    exact data
  | false =>
    rw [passesSimh tar]
    refine ⟨?_,passes.last none tar⟩
    have ends : boundary d (remaining - count) false = true := by
      rw [none]
      exact boundaryEnd tar
    have trailing := passes.trailing ends
    unfold chunkStop
    rw [if_pos ends]
    unfold metaDataSize at *
    omega

/- What the controller has left to receive. -/
structure Receiving (d : Tape) (remaining : Nat) (transfer : Transfer) : Prop where
  left : transfer.remainingLength = remaining
  chunk : transfer.chunkSize = (min d.blockSize remaining : Nat)

theorem nextReceiving (receiving : Receiving d remaining transfer) :
    Receiving d (remaining - min d.blockSize remaining)
      (transfer.updateTransferLength (min d.blockSize remaining : Nat)) := by
  have left : max (transfer.remainingLength - (min d.blockSize remaining : Nat)) 0 =
      (remaining - min d.blockSize remaining : Nat) := by
    rw [receiving.left]
    omega
  refine ⟨left,?_⟩
  have chunk : (transfer.updateTransferLength (min d.blockSize remaining : Nat)).chunkSize =
      if max (transfer.remainingLength - (min d.blockSize remaining : Nat)) 0 < transfer.chunkSize then
        max (transfer.remainingLength - (min d.blockSize remaining : Nat)) 0 else transfer.chunkSize := rfl
  rw [chunk,left,receiving.chunk]
  split <;> omega

theorem wpReceiveAll {data : Bytes} (known : Recording d position remaining initial transfer s)
    (receiving : Receiving d remaining transfer) (sized : 0 < d.blockSize) (some : 0 < remaining)
    (small : remaining ≤ d.byteCount) (fits : d.byteCount < 2^31) {fuel : Nat} (enough : remaining ≤ fuel) :
    wp (receiveAll fuel data) r s (fun _ _ => Passes d (stopAfter d fuel position remaining initial))
      fun e _ => e = ⟨.volumeOverflow,.noAdditionalSenseInformation⟩ ∧
        ¬Passes d (stopAfter d fuel position remaining initial) := by
  induction fuel generalizing position remaining initial transfer s data with
  | zero => omega
  | succ fuel ih =>
    have length : min transfer.chunkSize transfer.remainingLength = (min d.blockSize remaining : Nat) := by
      rw [receiving.chunk,receiving.left]
      omega
    rw [receiveAll,wpBind,wpGetTransfer,known.transfer]
    dsimp only
    rw [length,wpIte]
    refine ⟨fun none => by omega,fun _ => ?_⟩
    rw [wpBind,wpSetBuffer,wpBind]
    generalize setBytes s.transfer.buffer 0 _ = buffer
    have buffered : Recording d position remaining initial { transfer with buffer }
        { s with transfer := { s.transfer with buffer } } :=
      ⟨known.device,by rw [known.transfer],known.valid,known.opened⟩
    refine wpWriteData buffered (by omega) (by omega) small fits (fun passes t known => ?_) fun wrong t => ?_
    · have next : Receiving d (remaining - min d.blockSize remaining)
          ({ transfer with buffer }.updateTransferLength (min d.blockSize remaining : Nat)) :=
        nextReceiving ⟨receiving.left,receiving.chunk⟩
      rw [wpBind,wpModifyTransfer,known.transfer,wpBind,wpGetTransfer,wpIte]
      dsimp only
      rw [next.left]
      have again : Recording d (chunkStop d position remaining initial (min d.blockSize remaining))
          (remaining - min d.blockSize remaining) (d.tarFile && initial)
          ({ transfer with buffer }.updateTransferLength (min d.blockSize remaining : Nat))
          { t with transfer := { transfer with buffer }.updateTransferLength (min d.blockSize remaining : Nat) } :=
        ⟨known.device,rfl,known.valid,known.opened⟩
      rw [stopAfter]
      constructor
      · intro more
        have more : remaining - min d.blockSize remaining ≠ 0 := fun none => more (by rw [none]; rfl)
        rw [if_neg more]
        exact ih again next (by omega) (by omega) (by omega)
      · intro last
        have last : remaining - min d.blockSize remaining = 0 := by
          have none := Decidable.not_not.mp last
          omega
        rw [if_pos last]
        exact lastPasses (by omega) passes
    · exact ⟨rfl,chunkStops known.valid sized enough some wrong⟩

/-! Where all the data end, with the lengths of the records. -/

theorem stopFixed (simh : d.tarFile = false) (fixed : d.fixed = true) (sized : 0 < d.blockSize) {count fuel : Nat}
    (some : 0 < count) (enough : count * d.blockSize ≤ fuel) :
    stopAfter d fuel position (count * d.blockSize) initial = behindAll position (List.replicate count d.blockSize) := by
  have boundaries (remaining : Nat) (initial : Bool) : boundary d remaining initial = true := by
    simp [boundary,atRecordBoundary,simh,fixed]
  induction fuel generalizing position count initial with
  | zero =>
    have all := Nat.mul_pos some sized
    omega
  | succ fuel ih =>
    obtain ⟨count,rfl⟩ := Nat.exists_eq_add_one_of_ne_zero (Nat.ne_of_gt some)
    have size : (count + 1) * d.blockSize = count * d.blockSize + d.blockSize := Nat.succ_mul _ _
    have chunk : min d.blockSize ((count + 1) * d.blockSize) = d.blockSize := by omega
    have rest : (count + 1) * d.blockSize - d.blockSize = count * d.blockSize := by omega
    have stop : chunkStop d position ((count + 1) * d.blockSize) initial d.blockSize = behind position d.blockSize := by
      simp only [chunkStop,chunkStart,boundaries,if_true]
      rfl
    rw [stopAfter,chunk,rest,stop,List.replicate_succ,behindAll,List.foldl_cons]
    by_cases last : count = 0
    · rw [last,Nat.zero_mul,if_pos rfl]
      rfl
    · have more : count * d.blockSize ≠ 0 := Nat.mul_ne_zero last (Nat.ne_of_gt sized)
      rw [if_neg more]
      exact ih (Nat.pos_of_ne_zero last) (by omega)

/- Inside of a record there is no boundary. -/
theorem insideRecord (simh : d.tarFile = false) (fixed : d.fixed = false) (length : d.recordLength = d.byteCount)
    (fits : d.byteCount < 2^31) (some : 0 < remaining) (begun : remaining < d.byteCount) :
    boundary d remaining false = false := by
  have other : uint32 ((d.byteCount : Int) - remaining) ≠ d.recordLength := by
    have same : (d.byteCount : Int) - remaining = (d.byteCount - remaining : Nat) := by omega
    rw [same,uint32Fits (by omega),length]
    omega
  simp [boundary,atRecordBoundary,simh,fixed,Nat.ne_of_gt some,other]

theorem stopInside (simh : d.tarFile = false) (fixed : d.fixed = false) (length : d.recordLength = d.byteCount)
    (fits : d.byteCount < 2^31) (sized : 0 < d.blockSize) {fuel : Nat} (enough : remaining ≤ fuel) (some : 0 < remaining)
    (begun : remaining < d.byteCount) :
    stopAfter d fuel position remaining false = paddedEnd (position + remaining) + metaDataSize := by
  induction fuel generalizing position remaining with
  | zero => omega
  | succ fuel ih =>
    have start : chunkStart d position remaining false = position := by
      rw [chunkStart,insideRecord simh fixed length fits some begun]
      rfl
    rw [stopAfter,chunkStop,start]
    split
    · next last =>
      rw [last,boundaryEnd simh,if_pos rfl]
      have whole : min d.blockSize remaining = remaining := by omega
      rw [whole]
    · next more =>
      rw [insideRecord simh fixed length fits (by omega) (by omega),if_neg Bool.false_ne_true,simh,Bool.false_and,
        ih (by omega) (by omega) (by omega)]
      have same : position + (min d.blockSize remaining : Nat) + (remaining - min d.blockSize remaining : Nat) =
          position + remaining := by omega
      rw [same]

theorem stopVariable (simh : d.tarFile = false) (fixed : d.fixed = false) (length : d.recordLength = d.byteCount)
    (fits : d.byteCount < 2^31) (sized : 0 < d.blockSize) {fuel : Nat} (enough : d.byteCount ≤ fuel)
    (some : 0 < d.byteCount) : stopAfter d fuel position d.byteCount true = behind position d.byteCount := by
  obtain ⟨fuel,rfl⟩ := Nat.exists_eq_succ_of_ne_zero (Nat.ne_of_gt (Nat.lt_of_lt_of_le some enough))
  have begins : boundary d d.byteCount true = true := by simp [boundary,atRecordBoundary,simh]
  rw [Nat.succ_eq_add_one,stopAfter,chunkStop,chunkStart,begins,if_pos rfl]
  split
  · next last =>
    rw [last,boundaryEnd simh,if_pos rfl]
    have whole : min d.blockSize d.byteCount = d.byteCount := by omega
    rw [whole]
    rfl
  · next more =>
    rw [insideRecord simh fixed length fits (by omega) (by omega),if_neg Bool.false_ne_true,simh,Bool.false_and,
      stopInside simh fixed length fits sized (by omega) (by omega) (by omega)]
    have same : position + metaDataSize + (min d.blockSize d.byteCount : Nat) + (d.byteCount - min d.blockSize d.byteCount : Nat) =
        position + metaDataSize + d.byteCount := by omega
    rw [same]
    rfl

/-! WRITE. -/

/- Where ends what the command has to write. -/
def asked (d : Tape) (r : Request) (long : Bool) (position : Int) : Int :=
  if d.tarFile then position + d.total r long
  else if isFixed r then behindAll position (List.replicate (transferLength r long) d.blockSize)
  else behind position (transferLength r long)

def startPosition (r : Request) (long : Bool) (s : HandlerState Tape) : Int := (positioned r long s).device.tapePosition

def HasRoom (r : Request) (long : Bool) (s : HandlerState Tape) : Prop :=
  s.device.total r long = 0 ∨ Fits s.device (asked s.device r long (startPosition r long s))

/- The drive when it starts to receive data. -/
def recorder (r : Request) (long : Bool) (s : HandlerState Tape) : Tape :=
  (writesFrom (positioned r long s) (uint32 (s.device.total r long))).device

/- The bytes that are counted fit, or there is nothing to receive. -/
def CountPasses (r : Request) (long : Bool) (s : HandlerState Tape) (count : Nat) : Prop :=
  count = 0 ∨ 2^31 ≤ count ∨
    Passes (recorder r long s) (stopAfter (recorder r long s) (count + 1) (startPosition r long s) count true)

/- A number of bytes from 2^31 on is counted as another one, or as none. -/
def Accepts (r : Request) (long : Bool) (s : HandlerState Tape) : Prop :=
  if s.device.total r long < 2^31 then
    s.device.total r long = 0 ∨ Passes s.device (asked s.device r long (startPosition r long s))
  else CountPasses r long s (uint32 (s.device.total r long))

def Overflows (ran : Except ScsiException Unit × HandlerState Tape) : Prop :=
  ∃ e t, ran = (.error e,t) ∧ e.senseKey = .volumeOverflow

/- The count that the data are received with. -/
theorem wpReceiveCount (r : Request) (data : Bytes) {count : Nat} (known : Recording d position count true transfer s)
    (bytes : d.byteCount = count) (word : count < 2^32) (sized : 0 < d.blockSize) (some : count ≠ 0)
    (left : transfer.remainingLength = int32 count)
    (chunk : count < 2^31 → transfer.chunkSize = (min d.blockSize count : Nat)) :
    wp (receiveAll (transfer.remainingLength.toNat + 1) data) r s
      (fun _ _ => count < 2^31 ∧ Passes d (stopAfter d (count + 1) position count true))
      fun e _ => NoOverflow e ∧ 2^31 ≤ count ∨ e = ⟨.volumeOverflow,.noAdditionalSenseInformation⟩ ∧ count < 2^31 ∧
        ¬Passes d (stopAfter d (count + 1) position count true) := by
  by_cases small : count < 2^31
  · have whole : int32 count = count := int32Fits (by omega) (by omega)
    have receiving : Receiving d count transfer := ⟨left.trans whole,chunk small⟩
    rw [left,whole,Int.toNat_natCast]
    refine wpMono (wpReceiveAll known receiving sized (Nat.pos_of_ne_zero some) (Nat.le_of_eq bytes.symm) (bytes ▸ small)
      (Nat.le_succ _)) (fun _ _ passes => ⟨small,passes⟩) fun e _ full => .inr ⟨full.1,small,full.2⟩
  · have negative : int32 count < 0 := by
      have same : int32 count = count - 2^32 := by
        unfold int32
        rw [Int.bmod_def]
        omega
      omega
    have none : min transfer.chunkSize transfer.remainingLength ≤ 0 := by omega
    rw [receiveAll,wpBind,wpGetTransfer,known.transfer]
    dsimp only
    rw [if_pos none]
    exact .inl ⟨by decide,Nat.not_lt.mp small⟩

/- What the commands leave alone. -/
structure SameTape (d d' : Tape) : Prop where
  tar : d'.tarFile = d.tarFile
  maximum : d'.maxFileSize = d.maxFileSize
  file : d'.fileSize = d.fileSize
  size : d'.blockSize = d.blockSize
  stream : ∀ w, d'.stream w = d.stream w

theorem movedTape {t : HandlerState Tape} (moved : Moved s t) : SameTape s.device t.device := by
  have opened : t.device.isOpen = s.device.isOpen := moved.same (fun d => d.isOpen) fun _ => rfl
  have named : t.device.filename = s.device.filename := moved.same (fun d => d.filename) fun _ => rfl
  refine ⟨moved.same (fun d => d.tarFile) fun _ => rfl,moved.same (fun d => d.maxFileSize) fun _ => rfl,
    moved.same (fun d => d.fileSize) fun _ => rfl,moved.same (fun d => d.blockSize) fun _ => rfl,fun w => ?_⟩
  unfold stream
  rw [opened,named]

theorem recorderTape (passed : ¬Refused r long true s) : SameTape s.device (recorder r long s) := by
  have same := movedTape (positionedMoved passed)
  exact ⟨same.tar,same.maximum,same.file,same.size,same.stream⟩

theorem SameTape.passes {d' : Tape} (same : SameTape d d') {stop : Int} : Passes d' stop ↔ Passes d stop := by
  unfold Passes EndPasses
  rw [same.tar,same.maximum,same.file]

theorem recordingStart (opened : ∃ bytes, s.device.stream s.world = some bytes) (passed : ¬Refused r long true s)
    (valid : 0 ≤ startPosition r long s) :
    Recording (recorder r long s) (startPosition r long s) (uint32 (s.device.total r long)) true
      (writesFrom (positioned r long s) (uint32 (s.device.total r long))).transfer
      (writesFrom (positioned r long s) (uint32 (s.device.total r long))) := by
  refine ⟨⟨_,rfl⟩,rfl,valid,?_⟩
  obtain ⟨bytes,opened⟩ := opened
  refine ⟨bytes,?_⟩
  have world : (positioned r long s).world = s.world := (positionedMoved passed).world
  rw [(recorderTape passed).stream]
  exact (congrArg s.device.stream world).trans opened

/- Without a wrap the count is that of the bytes asked for. -/
theorem stopAsked (sized : 0 < s.device.blockSize) (passed : ¬Refused r long true s) (some : s.device.total r long ≠ 0)
    (small : s.device.total r long < 2^31) :
    stopAfter (recorder r long s) (uint32 (s.device.total r long) + 1) (startPosition r long s)
      (uint32 (s.device.total r long)) true = asked s.device r long (startPosition r long s) := by
  have same := recorderTape passed
  have whole : uint32 (s.device.total r long) = s.device.total r long := uint32Fits (by omega)
  have positive : 0 < s.device.total r long := Nat.pos_of_ne_zero some
  have fixed : (recorder r long s).fixed = decide (isFixed r) := rfl
  have bytes : (recorder r long s).byteCount = s.device.total r long := whole
  unfold asked
  rw [whole]
  cases tar : s.device.tarFile with
  | true =>
    rw [stopTar (same.tar.trans tar) (same.size ▸ sized) (Nat.le_succ _) positive,if_pos rfl]
  | false =>
    rw [if_neg Bool.false_ne_true]
    have simh := same.tar.trans tar
    by_cases command : isFixed r
    · have product : s.device.total r long = transferLength r long * s.device.blockSize := by rw [total,if_pos command]
      rw [if_pos command,product,← same.size]
      refine stopFixed simh (by rw [fixed,decide_eq_true command]) (same.size ▸ sized) ?_ (Nat.le_succ _)
      exact Nat.pos_of_ne_zero fun none => some (by rw [product,none,Nat.zero_mul])
    · have length : s.device.total r long = transferLength r long := by rw [total,if_neg command]
      have plain : (recorder r long s).fixed = false := by rw [fixed,decide_eq_false command]
      have record : (recorder r long s).recordLength = (recorder r long s).byteCount := by
        have chosen : (recorder r long s).recordLength =
            if (recorder r long s).fixed then (positioned r long s).device.blockSize else (recorder r long s).byteCount := rfl
        rw [chosen,plain]
        rfl
      rw [if_neg command,← length,← bytes]
      exact stopVariable simh plain record (bytes ▸ small) (same.size ▸ sized) (Nat.le_succ _) (bytes ▸ positive)

theorem acceptsCount (sized : 0 < s.device.blockSize) (passed : ¬Refused r long true s) :
    Accepts r long s ↔ CountPasses r long s (uint32 (s.device.total r long)) := by
  unfold Accepts
  split
  · next small =>
    have whole : uint32 (s.device.total r long) = s.device.total r long := uint32Fits (by omega)
    by_cases none : s.device.total r long = 0
    · exact ⟨fun _ => .inl (whole.trans none),fun _ => .inl none⟩
    · have stop := stopAsked sized passed none small
      unfold CountPasses
      rw [stop,(recorderTape passed).passes,whole]
      exact or_congr Iff.rfl ⟨.inr,fun both => both.elim (fun large => absurd small (Nat.not_lt.mpr large)) id⟩
  · exact Iff.rfl

theorem writesFromTransfer (t : HandlerState Tape) (count : Nat) :
    (writesFrom t count).transfer.remainingLength = int32 count ∧
      (count < 2^31 → (writesFrom t count).transfer.chunkSize = (min t.device.blockSize count : Nat)) := by
  refine ⟨by unfold writesFrom; rw [Transfer.setTransferSizeRemaining],fun small => ?_⟩
  have least : (if count < t.device.blockSize then (count : Int) else t.device.blockSize) =
      (min t.device.blockSize count : Nat) := by
    split <;> omega
  have chunk : int32 (min t.device.blockSize count : Nat) = (min t.device.blockSize count : Nat) :=
    int32Fits (by omega) (by omega)
  have order : ¬(count : Int) < (min t.device.blockSize count : Nat) := by omega
  unfold writesFrom Transfer.setTransferSize
  dsimp only
  rw [least,chunk,int32Fits (by omega) (by omega),if_neg order]

theorem wpWriteCommand {cmd : ScsiCommand} {data : Bytes} (listed : (cmd,long,true) ∈ transferCommands)
    (sized : 0 < s.device.blockSize) (opened : ∃ bytes, s.device.stream s.world = some bytes)
    (valid : 0 ≤ startPosition r long s) :
    wp (writeCommand cmd data) r s (fun _ _ => ¬Refused r long true s ∧ Accepts r long s)
      fun e _ => NoOverflow e ∧ (Refused r long true s ∨ Accepts r long s) ∨
        e = ⟨.volumeOverflow,.noAdditionalSenseInformation⟩ ∧ ¬Refused r long true s ∧ ¬Accepts r long s := by
  unfold writeCommand
  rw [wpBind]
  refine wpMono (wpTransfer listed (fun refused e t other => .inl ⟨other,.inl refused⟩) fun wrong => by cases wrong)
    (fun call t ended => ?_) fun _ _ failed => failed
  obtain ⟨passed,accepted⟩ := ended
  rw [acceptsCount sized passed]
  rcases acceptedWrite accepted with ⟨none,rfl⟩ | ⟨some,⟨length,rfl⟩,start⟩
  · exact ⟨passed,.inl none⟩
  · have known := recordingStart opened passed valid
    have sizes := writesFromTransfer (positioned r long s) (uint32 (s.device.total r long))
    have same := recorderTape passed
    have bytes : (recorder r long s).byteCount = uint32 (s.device.total r long) := rfl
    have block : (recorder r long s).blockSize = (positioned r long s).device.blockSize := rfl
    rw [← start] at known sizes
    have received := wpReceiveCount r data known bytes (uint32Lt _) (same.size ▸ sized) some sizes.1
      (block ▸ sizes.2)
    dsimp only
    rw [wpBind,wpGetTransfer]
    refine wpMono received (fun _ _ passes => ⟨passed,.inr (.inr passes.2)⟩) fun e _ ended => ?_
    rcases ended with ⟨other,large⟩ | ⟨full,small,fails⟩
    · exact .inl ⟨other,.inr (.inr (.inl large))⟩
    · refine .inr ⟨full,passed,fun wrong => ?_⟩
      rcases wrong with none | large | passes
      · exact some none
      · exact absurd small (Nat.not_lt.mpr large)
      · exact fails passes

theorem overflowsIff {x : Handler Tape Unit} {accepted : Prop}
    (ends : wp x r s (fun _ _ => accepted) fun e _ => NoOverflow e ∧ accepted ∨ ¬NoOverflow e ∧ ¬accepted) :
    Overflows (x r s) ↔ ¬accepted := by
  unfold wp at ends
  unfold Overflows
  cases ran : x r s with
  | mk result t =>
    rw [ran] at ends
    cases result with
    | ok a =>
      refine ⟨fun wrong => ?_,fun wrong => absurd ends wrong⟩
      obtain ⟨e,u,failed,-⟩ := wrong
      cases failed
    | error e =>
      rcases ends with ⟨other,fine⟩ | ⟨full,wrong⟩
      · refine ⟨fun overflow => ?_,fun wrong => absurd fine wrong⟩
        obtain ⟨f,u,same,key⟩ := overflow
        cases same
        exact absurd key other
      · exact ⟨fun _ => wrong,fun _ => ⟨e,t,rfl,Decidable.not_not.mp full⟩⟩

theorem writeOverflows {cmd : ScsiCommand} (data : Bytes) (listed : (cmd,long,true) ∈ transferCommands)
    (sized : 0 < s.device.blockSize) (opened : ∃ bytes, s.device.stream s.world = some bytes)
    (valid : 0 ≤ startPosition r long s) :
    Overflows (writeCommand cmd data r s) ↔ ¬(Refused r long true s ∨ Accepts r long s) := by
  refine overflowsIff (wpMono (wpWriteCommand listed sized opened valid) (fun _ _ fine => .inr fine.2) fun e _ ended => ?_)
  rcases ended with fine | ⟨full,passed,fails⟩
  · exact .inl fine
  · exact .inr ⟨by rw [full]; decide,fun fine => fine.elim passed fails⟩

/-! WRITE FILEMARKS. -/

def filemarkCommands : List (ScsiCommand × Bool) := [(.writeFilemarks6,false),(.writeFilemarks16,true)]

/- A 16-byte CDB with a location goes there first. -/
def marksLocated (r : Request) (long : Bool) : Handler Tape Unit :=
  if long ∧ uint32 (r.cdbInt64 4) ≠ 0 then locateFilemarks (r.cdbInt64 4) else pure ()

def marksPosition (r : Request) (long : Bool) (s : HandlerState Tape) : Int :=
  (marksLocated r long r s).2.device.tapePosition

/- The checks of the command. A tar file has no filemarks, and the fields are not checked. -/
def MarksRefused (r : Request) (long : Bool) (s : HandlerState Tape) : Prop :=
  s.device.mediumChanged = true ∨ s.device.reset = true ∨ s.device.attn = true ∨ s.device.ready = false ∨
    s.device.tarFile = true ∨
    (r.cdbByte 1 &&& 0x02 ≠ 0 ∨ long ∧ (r.cdbByte 1 &&& 0x0c ≠ 0 ∨ r.cdbByte 3 ≠ 0)) ∨
    s.device.writeProtected = true ∨ ∃ e t, marksLocated r long r s = (.error e,t)

def marksAsked (r : Request) (long : Bool) (s : HandlerState Tape) : Int :=
  marksPosition r long s + metaDataSize * transferLength r long

def MarksHaveRoom (r : Request) (long : Bool) (s : HandlerState Tape) : Prop :=
  transferLength r long = 0 ∨ Fits s.device (marksAsked r long s)

def MarksAccepted (r : Request) (long : Bool) (s : HandlerState Tape) : Prop :=
  transferLength r long = 0 ∨ Passes s.device (marksAsked r long s)

theorem marksLocatedMoves (r : Request) (long : Bool) : Moves (fun _ => True) (marksLocated r long) := by
  refine ensuresIte (fun _ => ?_) (fun _ => ensuresPure trivial)
  refine ensuresThen resetPositionsMoves fun _ _ => ensuresThen (findObjectMoves _) fun _ _ => ?_
  refine ensuresIte (fun _ => ?_) (fun _ => ensuresPure trivial)
  exact ensuresThen ensuresGetRequest fun _ _ => ensuresThen (setInformationMoves _) fun _ _ => ensuresThrow (by decide)

/- The checks say what the command comes to. -/
def Judged (accepted : Prop) (e : ScsiException) : Prop := NoOverflow e ∧ accepted ∨ ¬NoOverflow e ∧ ¬accepted

theorem wpMarksBehind (simh : s.device.tarFile = false) (opened : ∃ bytes, s.device.stream s.world = some bytes)
    (valid : 0 ≤ s.device.tapePosition) {count : Nat} {accepted : Prop}
    (passes : accepted ↔ count = 0 ∨ Passes s.device (s.device.tapePosition + metaDataSize * count)) :
    wp (repeatFilemark count) r s (fun _ _ => accepted) fun e _ => Judged accepted e := by
  have known : Recording s.device s.device.tapePosition s.device.remainingCount s.device.initial s.transfer s :=
    ⟨⟨s.device.objectLocation,rfl⟩,rfl,valid,opened⟩
  refine wpMono (wpRepeatFilemark count known simh) (fun _ _ passed => ?_) fun e _ full => ?_
  · refine passes.mpr ?_
    by_cases none : count = 0
    · exact .inl none
    · exact .inr (passed none)
  · refine .inr ⟨by rw [full.1]; decide,fun fine => ?_⟩
    exact (passes.mp fine).elim full.2.1 full.2.2

theorem wpMarksLocated (r : Request) (s : HandlerState Tape) (long : Bool) {Q : Unit → HandlerState Tape → Prop}
    (lost : (∃ e t, marksLocated r long r s = (.error e,t)) → ∀ e t, NoOverflow e → E e t)
    (located : (¬∃ e t, marksLocated r long r s = (.error e,t)) → ∀ t, t = (marksLocated r long r s).2 → Moved s t →
      Q () t) : wp (marksLocated r long) r s Q E := by
  have moved := marksLocatedMoves r long r s
  unfold wp at moved ⊢
  cases ran : marksLocated r long r s with
  | mk result t =>
    rw [ran] at moved
    cases result with
    | error e => exact lost ⟨e,t,ran⟩ e t moved.2
    | ok _ =>
      refine located (fun failed => ?_) t (by rw [ran]) moved.1
      obtain ⟨e,u,failed⟩ := failed
      exact absurd (ran.symm.trans failed) (by simp)

theorem wpWriteFilemarks (opened : ∃ bytes, s.device.stream s.world = some bytes)
    (valid : 0 ≤ marksPosition r long s) (unchanged : s.device.mediumChanged = false) :
    wp (writeFilemarks long) r s (fun call _ => call = .status ∧ (MarksRefused r long s ∨ MarksAccepted r long s))
      fun e _ => Judged (MarksRefused r long s ∨ MarksAccepted r long s) e := by
  have refused (wrong : MarksRefused r long s) (e : ScsiException) (other : NoOverflow e) :
      Judged (MarksRefused r long s ∨ MarksAccepted r long s) e := .inl ⟨other,.inl wrong⟩
  have finish (passed : ¬MarksRefused r long s) (simh : s.device.tarFile = false)
      (t : HandlerState Tape) (same : t = (marksLocated r long r s).2) (moved : Moved s t) :
      wp (repeatFilemark (if long then r.cdbInt24 12 else r.cdbInt24 2) >>= fun _ => pure PhaseCall.status) r t
        (fun call _ => call = .status ∧ (MarksRefused r long s ∨ MarksAccepted r long s))
        fun e _ => Judged (MarksRefused r long s ∨ MarksAccepted r long s) e := by
    have tape := movedTape moved
    have here : marksPosition r long s = t.device.tapePosition := by rw [marksPosition,← same]
    obtain ⟨bytes,opened⟩ := opened
    rw [wpBind]
    refine wpMono (wpMarksBehind (tape.tar.trans simh) ⟨bytes,?_⟩ (here ▸ valid) ?_) (fun _ _ fine => ⟨rfl,fine⟩)
      fun _ _ judged => judged
    · rw [tape.stream,moved.world]
      exact opened
    · rw [tape.passes,← here]
      exact ⟨fun fine => fine.resolve_left passed,.inr⟩
  unfold writeFilemarks
  rw [wpBind]
  refine wpCheckReady (fun busy e _ declined => ?_) fun reset attn ready => ?_
  · exact refused (.inr (busy.imp_right fun busy => busy.imp_right .inl)) e declined.1
  rw [wpBind,wpGetRequest,wpBind,wpGetDevice,wpIte]
  refine ⟨fun tar => ⟨rfl,.inl (.inr (.inr (.inr (.inr (.inl tar)))))⟩,fun other => ?_⟩
  have simh : s.device.tarFile = false := Bool.eq_false_iff.mpr other
  rw [wpIte]
  refine ⟨fun wrong => refused (.inr (.inr (.inr (.inr (.inr (.inl wrong)))))) _ (by decide),fun fields => ?_⟩
  rw [wpBind]
  refine wpCheckWritePreconditions (fun protect e _ declined => ?_) fun writable => ?_
  · exact refused (.inr (.inr (.inr (.inr (.inr (.inr (.inl protect))))))) e declined.1
  have checked (located : ¬∃ e t, marksLocated r long r s = (.error e,t)) : ¬MarksRefused r long s := by
    rintro (wrong | wrong | wrong | wrong | wrong | wrong | wrong | wrong)
    · exact absurd (wrong.symm.trans unchanged) (by decide)
    · exact absurd (wrong.symm.trans reset) (by decide)
    · exact absurd (wrong.symm.trans attn) (by decide)
    · exact absurd (wrong.symm.trans ready) (by decide)
    · exact other wrong
    · exact fields wrong
    · exact writable wrong
    · exact located wrong
  have located := wpMarksLocated r s long
    (Q := fun _ t => wp (repeatFilemark (if long then r.cdbInt24 12 else r.cdbInt24 2) >>= fun _ => pure PhaseCall.status) r t
      (fun call _ => call = .status ∧ (MarksRefused r long s ∨ MarksAccepted r long s))
      fun e _ => Judged (MarksRefused r long s ∨ MarksAccepted r long s) e)
    (E := fun e _ => Judged (MarksRefused r long s ∨ MarksAccepted r long s) e)
    (fun lost e _ other => refused (.inr (.inr (.inr (.inr (.inr (.inr (.inr lost))))))) e other)
    fun located t same moved => finish (checked located) simh t same moved
  unfold marksLocated at located
  split at located
  · next going =>
    rw [if_pos going,wpBind]
    exact located
  · next staying =>
    rw [if_neg staying]
    exact located

theorem marksOverflow {cmd : ScsiCommand} (data : Bytes) (listed : (cmd,long) ∈ filemarkCommands)
    (opened : ∃ bytes, s.device.stream s.world = some bytes) (valid : 0 ≤ marksPosition r long s) :
    Overflows (writeCommand cmd data r s) ↔ ¬(MarksRefused r long s ∨ MarksAccepted r long s) := by
  have command : (cmd ≠ .inquiry ∧ cmd ≠ .requestSense) ∧ Handler.dispatch commands cmd = writeFilemarks long := by
    simp only [filemarkCommands,List.mem_cons,List.not_mem_nil,or_false,Prod.mk.injEq] at listed
    rcases listed with ⟨rfl,rfl⟩ | ⟨rfl,rfl⟩ <;> exact ⟨by decide,rfl⟩
  refine overflowsIff ?_
  unfold writeCommand
  rw [wpBind]
  refine wpDispatch command.1 command.2 (fun changed e _ declined => .inl ⟨declined.1,.inl (.inl changed)⟩) fun unchanged => ?_
  refine wpMono (wpWriteFilemarks opened valid unchanged) (fun call _ ended => ?_) fun _ _ judged => judged
  rw [ended.1]
  exact ended.2

/-! The law. -/

theorem overflowLaw {full : Prop} {refused room accepted : Prop} (ran : full ↔ ¬(refused ∨ accepted)) :
    (full ↔ ¬(refused ∨ room)) ↔ refused ∨ (room ↔ accepted) := by
  rw [ran]
  by_cases wrong : refused
  · simp only [wrong,true_or,not_true_eq_false]
  · simp only [wrong,false_or]
    exact not_iff_not.trans iff_comm

end

end Tape

/- WRITE and WRITE FILEMARKS with an open tape, at any position. -/
theorem overflowExactIff {s : HandlerState Tape} (sized : 0 < s.device.blockSize)
    (opened : ∃ bytes, s.device.stream s.world = some bytes) (r : Request) (data : Bytes) :
    (∀ long, (r.opcode,long,true) ∈ Tape.transferCommands → 0 ≤ Tape.startPosition r long s →
      ((Tape.Overflows (Tape.writeCommand r.opcode data r s) ↔ ¬(Tape.Refused r long true s ∨ Tape.HasRoom r long s)) ↔
        Tape.Refused r long true s ∨ (Tape.HasRoom r long s ↔ Tape.Accepts r long s))) ∧
    (∀ long, (r.opcode,long) ∈ Tape.filemarkCommands → 0 ≤ Tape.marksPosition r long s →
      ((Tape.Overflows (Tape.writeCommand r.opcode data r s) ↔ ¬(Tape.MarksRefused r long s ∨ Tape.MarksHaveRoom r long s)) ↔
        Tape.MarksRefused r long s ∨ (Tape.MarksHaveRoom r long s ↔ Tape.MarksAccepted r long s))) := by
  constructor
  · intro long listed valid
    exact Tape.overflowLaw (Tape.writeOverflows data listed sized opened valid)
  · intro long listed valid
    exact Tape.overflowLaw (Tape.marksOverflow data listed opened valid)

namespace Tape

/- A tape of 1024 bytes that is written at a position. -/
def kilobyteTape (position : Int) : HandlerState Tape where
  device := {
    type := .sctp
    ready := true
    supportedBlockSizes := [512]
    blockSize := 512
    blockSizeForDescriptor := 512
    isOpen := true
    tapePosition := position
    fileSize := 1024
    maxFileSize := 1024 }
  transfer := {}
  world := { files := fun _ => some (List.replicate 1024 0) }

def oneFilemark : Request := { cdb := [0x10,0,0,0,1,0] }

theorem firstMarkAccepted :
    (Overflows (writeCommand oneFilemark.opcode [] oneFilemark (kilobyteTape 0)) ↔
      ¬(MarksRefused oneFilemark false (kilobyteTape 0) ∨ MarksHaveRoom oneFilemark false (kilobyteTape 0))) := by
  have room : MarksHaveRoom oneFilemark false (kilobyteTape 0) := by
    refine .inr ⟨?_,fun _ _ => ?_⟩ <;> decide
  have accepted : MarksAccepted oneFilemark false (kilobyteTape 0) := by
    refine .inr ((passesSimh rfl).mpr ⟨?_,fun _ => ?_⟩) <;> decide
  exact ((overflowExactIff (by decide) ⟨_,rfl⟩ oneFilemark []).2 false (.head _) (by decide)).mpr
    (.inr ⟨fun _ => accepted,fun _ => room⟩)

/- In the second half the position counts twice. -/
theorem laterMarkRefused :
    ¬(Overflows (writeCommand oneFilemark.opcode [] oneFilemark (kilobyteTape 600)) ↔
      ¬(MarksRefused oneFilemark false (kilobyteTape 600) ∨ MarksHaveRoom oneFilemark false (kilobyteTape 600))) := by
  have room : MarksHaveRoom oneFilemark false (kilobyteTape 600) := by
    refine .inr ⟨?_,fun _ _ => ?_⟩ <;> decide
  have ran : (writeCommand oneFilemark.opcode [] oneFilemark (kilobyteTape 600)).1 =
      .error ⟨.volumeOverflow,.noAdditionalSenseInformation⟩ := rfl
  exact fun law => law.mp ⟨_,_,Prod.ext ran rfl,rfl⟩ (.inr room)

end Tape
end Scsi2Pi
