import Scsi2Pi.SimhImage
import Scsi2Pi.TapeOverflow

/-! What WRITE and WRITE FILEMARKS leave in the image when they succeed: everything in
front of the position as it was, the objects in their order, and the mark at the end. -/
namespace Scsi2Pi
open Slices MemoryUtil Handler Derives Eff SimhUtil

namespace Tape

/- The contents in front of a position, which may be behind the end of the file. -/
def upTo (bytes : Bytes) (n : Nat) : Bytes := bytes.take n ++ List.replicate (n - bytes.length) 0

theorem upToLength (bytes : Bytes) (n : Nat) : (upTo bytes n).length = n := by
  simp only [upTo,List.length_append,List.length_take,List.length_replicate]
  omega

theorem upToTake (bytes : Bytes) (n m : Nat) : (upTo bytes (n+m)).take n = upTo bytes n := by
  have zeros : min (n - min (n+m) bytes.length) (n + m - bytes.length) = n - bytes.length := by omega
  simp only [upTo,List.take_append,List.take_take,List.take_replicate,List.length_take,Nat.min_eq_left (Nat.le_add_right n m),zeros]

theorem upToFront {bytes done more : Bytes} (same : upTo bytes (done ++ more).length = done ++ more) : upTo bytes done.length = done := by
  rw [← upToTake bytes done.length more.length,← List.length_append,same,List.take_left]

theorem upToPrefix (done more : Bytes) : upTo (done ++ more) done.length = done := by
  simp [upTo]

theorem writeUpTo {bytes done : Bytes} (same : upTo bytes done.length = done) (data : Bytes) :
    overwrite 0 bytes done.length data = done ++ data ++ bytes.drop (done.length + data.length) := by
  have front : bytes.take done.length ++ List.replicate (done.length - bytes.length) 0 = done := same
  unfold overwrite
  rw [front]

/- What is in the file from its start on. Behind the position where all started it is really there. -/
def Stored (start : Nat) (bytes contents : Bytes) : Prop :=
  upTo bytes contents.length = contents ∧ (start < contents.length → contents <+: bytes)

theorem Stored.front {start : Nat} {bytes done more : Bytes} (stored : Stored start bytes (done ++ more)) : Stored start bytes done := by
  refine ⟨upToFront stored.1,fun behind => ?_⟩
  have longer : start < (done ++ more).length := by
    rw [List.length_append]
    omega
  exact (List.prefix_append done more).trans (stored.2 longer)

theorem storedPrefix (start : Nat) (contents more : Bytes) : Stored start (contents ++ more) contents :=
  ⟨upToPrefix _ _,fun _ => List.prefix_append _ _⟩

section
variable {r : Request} {s : HandlerState Tape} {d : Tape} {start : Nat} {done ahead data : Bytes} {remaining : Nat}
  {initial : Bool} {transfer : Transfer}

/- A drive that writes, and what is in the file up to its position and just behind it. -/
structure Writing (start : Nat) (d : Tape) (done ahead : Bytes) (remaining : Nat) (initial : Bool) (transfer : Transfer)
    (s : HandlerState Tape) : Prop where
  device : ∃ location, s.device =
    { d with tapePosition := (done.length : Nat), objectLocation := location, remainingCount := remaining, initial }
  transfer : s.transfer = transfer
  file : ∃ bytes, d.stream s.world = some bytes ∧ Stored start bytes (done ++ ahead)

abbrev Yields {α : Type} (x : Handler Tape α) (r : Request) (s : HandlerState Tape) (Q : α → HandlerState Tape → Prop) : Prop :=
  wp x r s Q fun _ _ => True

theorem Writing.position (known : Writing start d done ahead remaining initial transfer s) : s.device.tapePosition = (done.length : Nat) := by
  obtain ⟨location,device⟩ := known.device
  rw [device]

theorem writeFileYields {Q : Unit → HandlerState Tape → Prop} (known : Writing start d done ahead remaining initial transfer s)
    (rest : ∀ t, Writing start d done data remaining initial transfer t → Q () t) : Yields (writeFile data) r s Q := by
  have here := known.position
  obtain ⟨location,device⟩ := known.device
  obtain ⟨bytes,opened,same⟩ := known.file
  have names : s.device.filename = d.filename := by rw [device]
  unfold Yields writeFile
  simp only [wpBind,wpGetDevice,wpGetWorld,wpIte,wpThrow]
  refine ⟨fun _ => trivial,fun _ => ?_⟩
  have isOpen : d.isOpen = true := by
    unfold stream at opened
    split at opened
    · assumption
    · cases opened
  have file : s.world.files d.filename = some bytes := by
    rw [stream,isOpen] at opened
    exact opened
  rw [here,names,Int.toNat_natCast,FileSystem.writeAtFile file,writeUpTo same.front.1]
  refine rest _ ⟨⟨location,device⟩,known.transfer,done ++ data ++ bytes.drop (done.length + data.length),?_,storedPrefix _ _ _⟩
  unfold stream
  rw [isOpen]
  exact Function.update_self ..

theorem advanceYields {count : Int} {Q : Unit → HandlerState Tape → Prop} (known : Writing start d done ahead remaining initial transfer s)
    (length : count = ahead.length) (rest : ∀ t, Writing start d (done ++ ahead) [] remaining initial transfer t → Q () t) :
    Yields (advance count) r s Q := by
  obtain ⟨location,device⟩ := known.device
  obtain ⟨bytes,opened,same⟩ := known.file
  refine rest _ ⟨⟨location,?_⟩,known.transfer,bytes,opened,by rw [List.append_nil]; exact same⟩
  rw [device]
  simp only [List.length_append,length]
  rfl

theorem checkYields {length : Int} {Q : Unit → HandlerState Tape → Prop} (rest : Q () s) : Yields (checkForOverflow length) r s Q := by
  unfold Yields checkForOverflow
  simp only [wpBind,wpGetDevice,wpIte,wpThrow,wpPure]
  exact ⟨fun _ => trivial,fun _ => rest⟩

theorem wordYields {cls : SimhClass} {value : Nat} {Q : Unit → HandlerState Tape → Prop}
    (known : Writing start d done ahead remaining initial transfer s)
    (rest : ∀ t, Writing start d done (toLittleEndian ⟨cls,value⟩) remaining initial transfer t → Q () t) :
    Yields (writeSimhMetaData cls value) r s Q := by
  unfold Yields writeSimhMetaData
  rw [wpBind,wpGetDevice,wpBind]
  exact checkYields (writeFileYields known rest)

/- The mark at the end, if the file had room for it when it was opened. -/
def endMark (d : Tape) (stop : Nat) : Bytes :=
  if stop + metaDataSize ≤ d.fileSize then toLittleEndian ⟨.privateMarker,endOfDataValue⟩ else []

theorem endOfDataYields {Q : Unit → HandlerState Tape → Prop} (known : Writing start d done ahead remaining initial transfer s)
    (rest : ∀ t, Writing start d done (endMark d done.length) remaining initial transfer t → Q () t) : Yields writeEndOfData r s Q := by
  have here := known.position
  have size : s.device.fileSize = d.fileSize := by
    obtain ⟨location,device⟩ := known.device
    rw [device]
  have opened (b : Prop) [Decidable b] (t : HandlerState Tape) (after : Q () t) :
      Yields (if b then throw ⟨.mediumError,.writeError⟩ else pure () : Handler Tape Unit) r t Q := by
    unfold Yields
    rw [wpIte]
    exact ⟨fun _ => trivial,fun _ => after⟩
  unfold Yields writeEndOfData
  rw [wpBind,wpGetDevice,here,size,wpIte]
  unfold endMark at rest
  constructor
  · intro room
    rw [if_pos (by omega)] at rest
    rw [wpBind]
    exact wordYields known fun t known => opened _ t (rest t known)
  · intro noRoom
    rw [if_neg (by omega)] at rest
    refine opened _ s (rest s ⟨known.device,known.transfer,?_⟩)
    obtain ⟨bytes,stream,same⟩ := known.file
    exact ⟨bytes,stream,by rw [List.append_nil]; exact same.front⟩

theorem Writing.simh (known : Writing start d done ahead remaining initial transfer s) (simh : d.tarFile = false) : s.device.tarFile = false := by
  obtain ⟨location,device⟩ := known.device
  rw [device]
  exact simh

theorem markYields {type : ObjectType} {size : Nat} {Q : Unit → HandlerState Tape → Prop}
    (known : Writing start d done ahead remaining initial transfer s) (simh : d.tarFile = false) (marks : type = .block ∨ type = .filemark)
    (rest : ∀ t, Writing start d (done ++ toLittleEndian ⟨.tapeMarkGoodDataRecord,size⟩) (endMark d (done.length + metaDataSize)) remaining initial transfer t →
      Q () t) : Yields (writeMetaData type size) r s Q := by
  have length := toLittleEndianLength ⟨.tapeMarkGoodDataRecord,size⟩
  unfold Yields writeMetaData
  rw [wpBind,wpGetDevice,known.simh simh,if_neg Bool.false_ne_true,if_pos marks,wpBind]
  refine wordYields known fun t known => ?_
  rw [wpBind]
  refine advanceYields known (by rw [length]) fun t known => endOfDataYields known fun t known => rest t ?_
  rwa [List.length_append,length] at known

theorem lastMarkYields {Q : Unit → HandlerState Tape → Prop} (known : Writing start d done ahead remaining initial transfer s)
    (simh : d.tarFile = false) (rest : ∀ t, Writing start d done (endMark d done.length) remaining initial transfer t → Q () t) :
    Yields (writeMetaData .endOfData 0) r s Q := by
  unfold Yields writeMetaData
  rw [wpBind,wpGetDevice,known.simh simh,if_neg Bool.false_ne_true,if_neg (by decide)]
  exact endOfDataYields known rest

/-! A chunk of data. -/

def lengthWord (d : Tape) : Bytes := toLittleEndian ⟨.tapeMarkGoodDataRecord,d.recordLength⟩

/- What is in the file before the data of a chunk, and when the chunk has ended. -/
def begun (d : Tape) (done : Bytes) (remaining : Nat) (initial : Bool) : Bytes :=
  if boundary d remaining initial then done ++ lengthWord d else done

def padded (done : Bytes) : Bytes := done ++ List.replicate (done.length % 2) 0

def ended (d : Tape) (done : Bytes) (remaining : Nat) : Bytes :=
  if boundary d remaining false then padded done ++ lengthWord d else done

theorem Writing.record (known : Writing start d done ahead remaining initial transfer s) : s.device.recordLength = d.recordLength := by
  obtain ⟨location,device⟩ := known.device
  rw [device]

theorem boundaryYields {Q : Bool → HandlerState Tape → Prop} (known : Writing start d done ahead remaining initial transfer s)
    (simh : d.tarFile = false) (rest : ∀ t, Writing start d done ahead remaining false transfer t → Q (boundary d remaining initial) t) :
    Yields isAtRecordBoundary r s Q := by
  obtain ⟨location,device⟩ := known.device
  unfold Yields isAtRecordBoundary
  rw [wpBind,wpGetDevice,device]
  dsimp only
  rw [simh,if_neg Bool.false_ne_true]
  have result : boundary d remaining initial = atRecordBoundary { d with remainingCount := remaining, initial } := by
    rw [boundary,simh]
    rfl
  rw [result] at rest
  refine rest _ ⟨⟨location,?_⟩,known.transfer,known.file⟩
  rw [device]

theorem beginYields {Q : Unit → HandlerState Tape → Prop} (known : Writing start d done ahead remaining initial transfer s)
    (simh : d.tarFile = false)
    (rest : ∀ t ahead, Writing start d (begun d done remaining initial) ahead remaining false transfer t → Q () t) :
    Yields beginWrite r s Q := by
  unfold Yields beginWrite
  rw [wpBind]
  refine boundaryYields known simh fun t known => ?_
  unfold begun at rest
  cases begins : boundary d remaining initial with
  | false =>
    rw [begins] at rest
    rw [if_neg Bool.false_ne_true]
    exact rest t ahead known
  | true =>
    rw [begins] at rest
    rw [if_pos rfl,wpBind,wpGetDevice,known.record]
    exact markYields known simh (.inl rfl) fun t known => rest t _ known

theorem finishYields {Q : Unit → HandlerState Tape → Prop} (known : Writing start d done ahead remaining initial transfer s)
    (rest : ∀ t, Writing start d (padded done ++ lengthWord d) [] remaining initial transfer t → Q () t) :
    Yields finishRecord r s Q := by
  have close (t : HandlerState Tape) (ahead : Bytes) (known : Writing start d (padded done) ahead remaining initial transfer t) :
      Yields (do
        writeSimhMetaData .tapeMarkGoodDataRecord (← getDevice).recordLength
        advance metaDataSize
        modifyDevice fun d => { d with objectLocation := d.objectLocation + 1 } : Handler Tape Unit) r t Q := by
    unfold Yields
    rw [wpBind,wpGetDevice,wpBind,known.record]
    refine wordYields known fun t known => ?_
    rw [wpBind]
    refine advanceYields known (by rw [toLittleEndianLength]) fun t known => ?_
    rw [wpModifyDevice]
    obtain ⟨location,device⟩ := known.device
    refine rest _ ⟨⟨location + 1,?_⟩,known.transfer,known.file⟩
    rw [device]
    rfl
  unfold Yields finishRecord
  rw [wpBind,wpGetDevice,known.position,wpIte]
  constructor
  · intro odd
    have one : done.length % 2 = 1 := by omega
    have zero : padded done = done ++ [0] := by
      rw [padded,one]
      rfl
    rw [zero] at close
    rw [wpBind]
    refine writeFileYields known fun t known => ?_
    rw [wpBind]
    exact advanceYields known rfl fun t known => close t [] known
  · intro even
    have none : done.length % 2 = 0 := by omega
    have same : padded done = done := by
      rw [padded,none]
      exact List.append_nil done
    rw [same] at close
    exact close s ahead known

theorem endYields {Q : Unit → HandlerState Tape → Prop} (known : Writing start d done ahead remaining false transfer s)
    (simh : d.tarFile = false) (rest : ∀ t ahead, Writing start d (ended d done remaining) ahead remaining false transfer t →
      (remaining = 0 → ahead = endMark d (ended d done remaining).length) → Q () t) : Yields endWrite r s Q := by
  have ending (t : HandlerState Tape) (ahead : Bytes)
      (known : Writing start d (ended d done remaining) ahead remaining false transfer t) :
      Yields (do if (← getDevice).remainingCount = 0 then writeMetaData .endOfData 0 : Handler Tape Unit) r t Q := by
    have count : t.device.remainingCount = remaining := by
      obtain ⟨location,device⟩ := known.device
      rw [device]
    unfold Yields
    rw [wpBind,wpGetDevice,count,wpIte]
    constructor
    · intro last
      exact lastMarkYields known simh fun t known => rest t _ known fun _ => rfl
    · intro more
      exact rest t ahead known fun last => absurd last more
  unfold Yields endWrite
  rw [wpBind]
  refine boundaryYields known simh fun t known => ?_
  unfold ended at ending
  cases ends : boundary d remaining false with
  | false =>
    rw [ends] at ending
    rw [if_neg Bool.false_ne_true]
    exact ending t ahead known
  | true =>
    rw [ends] at ending
    rw [if_pos rfl,wpBind]
    exact finishYields known fun t known => ending t [] known

theorem chunkYields {Q : Int → HandlerState Tape → Prop} (known : Writing start d done ahead remaining initial transfer s)
    (simh : d.tarFile = false) (received : transfer.buffer.take data.length = data) (within : data.length ≤ remaining)
    (small : remaining ≤ d.byteCount) (fits : d.byteCount < 2^31)
    (rest : ∀ t ahead next, next = ended d (begun d done remaining initial ++ data) (remaining - data.length) →
      Writing start d next ahead (remaining - data.length) false transfer t →
      (remaining - data.length = 0 → ahead = endMark d next.length) → Q data.length t) :
    Yields (writeData data.length) r s Q := by
  have size : min d.byteCount (uint32 (data.length : Nat)) = data.length := by
    rw [uint32Fits (by omega)]
    omega
  have left : uint32 ((remaining : Int) - (data.length : Nat)) = remaining - data.length := by
    have same : (remaining : Int) - (data.length : Nat) = (remaining - data.length : Nat) := by omega
    rw [same,uint32Fits (by omega)]
  unfold Yields writeData
  rw [wpBind]
  refine beginYields known simh fun t ahead known => ?_
  have bytes : t.device.byteCount = d.byteCount := by
    obtain ⟨location,device⟩ := known.device
    rw [device]
  rw [wpBind,wpGetDevice,bytes,size,wpBind]
  refine checkYields ?_
  rw [wpBind,wpGetTransfer,known.transfer,received,wpBind]
  refine writeFileYields known fun t known => ?_
  rw [wpBind,wpModifyDevice,wpBind]
  have counted : Writing start d (begun d done remaining initial) data (remaining - data.length) false transfer
      { t with device := { t.device with remainingCount := uint32 (t.device.remainingCount - (data.length : Nat) : Int) } } := by
    obtain ⟨location,device⟩ := known.device
    refine ⟨⟨location,?_⟩,known.transfer,known.file⟩
    rw [device]
    dsimp only
    rw [left]
  refine advanceYields counted rfl fun t known => ?_
  rw [wpBind]
  exact endYields known simh fun t ahead known last => rest t ahead _ rfl known last

/-! All the chunks. -/

/- What is in the file when all data have been received. -/
def recorded (d : Tape) : Nat → Bytes → Nat → Bool → Bytes → Bytes
  | 0, done, _, _, _ => done
  | fuel+1, done, remaining, initial, data =>
    let count := min d.blockSize remaining
    let next := ended d (begun d done remaining initial ++ data.take count) (remaining - count)
    if remaining - count = 0 then next else recorded d fuel next (remaining - count) false (data.drop count)

/- The drive when everything has been written. -/
def Finished (start : Nat) (d : Tape) (contents : Bytes) (t : HandlerState Tape) : Prop :=
  ∃ remaining initial transfer, Writing start d contents (endMark d contents.length) remaining initial transfer t

theorem receiveYields {fuel : Nat} (known : Writing start d done ahead remaining initial transfer s)
    (receiving : Receiving d remaining transfer) (simh : d.tarFile = false) (small : remaining ≤ d.byteCount)
    (fits : d.byteCount < 2^31) (length : data.length = remaining) (some : 0 < remaining) (enough : remaining ≤ fuel) :
    Yields (receiveAll fuel data) r s fun _ t => Finished start d (recorded d fuel done remaining initial data) t := by
  induction fuel generalizing done ahead remaining initial transfer s data with
  | zero => omega
  | succ fuel ih =>
    have count : min transfer.chunkSize transfer.remainingLength = (min d.blockSize remaining : Nat) := by
      rw [receiving.chunk,receiving.left]
      omega
    unfold Yields
    rw [receiveAll,wpBind,wpGetTransfer,known.transfer]
    dsimp only
    rw [count,wpIte,Int.toNat_natCast]
    refine ⟨fun _ => trivial,fun positive => ?_⟩
    rw [wpBind,wpSetBuffer,wpBind,known.transfer]
    have taken : (data.take (min d.blockSize remaining)).length = min d.blockSize remaining := by
      rw [List.length_take]
      omega
    have received := takeFront transfer.buffer (data.take (min d.blockSize remaining))
    generalize setBytes transfer.buffer 0 _ = buffer at received ⊢
    have buffered : Writing start d done ahead remaining initial { transfer with buffer }
        { s with transfer := { transfer with buffer } } := ⟨known.device,rfl,known.file⟩
    have step := chunkYields (r := r) buffered simh received (by omega) small fits
      (Q := fun a t => wp (do
        modifyTransfer (·.updateTransferLength a)
        if (← getTransfer).remainingLength ≠ 0 then receiveAll fuel (data.drop (min d.blockSize remaining)) : Handler Tape Unit)
        r t (fun _ t => Finished start d (recorded d (fuel+1) done remaining initial data) t) fun _ _ => True)
      fun t ahead next same known last => ?_
    · rwa [taken] at step
    · rw [taken] at same known last ⊢
      have next : Receiving d (remaining - min d.blockSize remaining)
          ({ transfer with buffer }.updateTransferLength (min d.blockSize remaining : Nat)) :=
        nextReceiving ⟨receiving.left,receiving.chunk⟩
      rw [wpBind,wpModifyTransfer,known.transfer,wpBind,wpGetTransfer,wpIte]
      dsimp only
      rw [next.left,recorded,← same]
      constructor
      · intro more
        have more : remaining - min d.blockSize remaining ≠ 0 := fun none => more (by rw [none]; rfl)
        rw [if_neg more]
        refine ih ⟨known.device,rfl,known.file⟩ next (by omega) ?_ (by omega) (by omega)
        rw [List.length_drop,length]
      · intro ended
        have none : remaining - min d.blockSize remaining = 0 := by
          have none := Decidable.not_not.mp ended
          omega
        rw [if_pos none]
        rw [last none,none] at known
        exact ⟨0,false,_,known.device,rfl,known.file⟩

/-! The records. -/

def block (data : Bytes) : SimhObject := .record .tapeMarkGoodDataRecord data

/- The blocks of the data in fixed mode. -/
def blocksOf (size : Nat) : Nat → Bytes → List Bytes
  | 0, _ => []
  | count+1, data => data.take size :: blocksOf size count (data.drop size)

theorem blockEncoded (even : done.length % 2 = 0) (length : data.length = d.recordLength) :
    padded (done ++ lengthWord d ++ data) ++ lengthWord d = done ++ (block data).encode := by
  have word : (lengthWord d).length = 4 := toLittleEndianLength _
  have odd : (done ++ lengthWord d ++ data).length % 2 = data.length % 2 := by
    rw [List.length_append,List.length_append,word]
    omega
  have coded : (block data).encode = lengthWord d ++ (data ++ SimhObject.padding data ++ lengthWord d) := by
    rw [lengthWord,← length]
    rfl
  rw [padded,odd,coded,SimhObject.padding]
  simp only [List.append_assoc]

theorem blockEven (data : Bytes) : (block data).encode.length % 2 = 0 := by
  have word := toLittleEndianLength ⟨.tapeMarkGoodDataRecord,data.length⟩
  have coded : (block data).encode = toLittleEndian ⟨.tapeMarkGoodDataRecord,data.length⟩ ++
      (data ++ List.replicate (data.length % 2) 0 ++ toLittleEndian ⟨.tapeMarkGoodDataRecord,data.length⟩) := rfl
  unfold metaDataSize at word
  rw [coded]
  simp only [List.length_append,List.length_replicate,word]
  omega

theorem recordedFixed (simh : d.tarFile = false) (fixed : d.fixed = true) (record : d.recordLength = d.blockSize)
    (sized : 0 < d.blockSize) {count fuel : Nat} (some : 0 < count) (enough : count * d.blockSize ≤ fuel)
    (even : done.length % 2 = 0) (length : data.length = count * d.blockSize) :
    recorded d fuel done (count * d.blockSize) initial data =
      done ++ ((blocksOf d.blockSize count data).map block).flatMap SimhObject.encode := by
  have boundaries (remaining : Nat) (initial : Bool) : boundary d remaining initial = true := by
    simp [boundary,atRecordBoundary,simh,fixed]
  induction fuel generalizing done count initial data with
  | zero =>
    have all := Nat.mul_pos some sized
    omega
  | succ fuel ih =>
    obtain ⟨count,rfl⟩ := Nat.exists_eq_add_one_of_ne_zero (Nat.ne_of_gt some)
    have size : (count + 1) * d.blockSize = count * d.blockSize + d.blockSize := Nat.succ_mul _ _
    have chunk : min d.blockSize ((count + 1) * d.blockSize) = d.blockSize := by omega
    have rest : (count + 1) * d.blockSize - d.blockSize = count * d.blockSize := by omega
    have taken : (data.take d.blockSize).length = d.recordLength := by
      rw [List.length_take]
      omega
    have next : ended d (begun d done ((count + 1) * d.blockSize) initial ++ data.take d.blockSize) (count * d.blockSize) =
        done ++ (block (data.take d.blockSize)).encode := by
      rw [ended,begun,boundaries,boundaries,if_pos rfl,if_pos rfl]
      exact blockEncoded even taken
    rw [recorded,chunk,rest,next,blocksOf,List.map_cons,List.flatMap_cons,← List.append_assoc]
    by_cases last : count = 0
    · rw [last,Nat.zero_mul,if_pos rfl,blocksOf,List.map_nil,List.flatMap_nil,List.append_nil]
    · have more : count * d.blockSize ≠ 0 := Nat.mul_ne_zero last (Nat.ne_of_gt sized)
      rw [if_neg more]
      refine ih (Nat.pos_of_ne_zero last) (by omega) ?_ ?_
      · have coded := blockEven (data.take d.blockSize)
        rw [List.length_append]
        omega
      · rw [List.length_drop]
        omega

theorem recordedInside (simh : d.tarFile = false) (fixed : d.fixed = false) (record : d.recordLength = d.byteCount)
    (fits : d.byteCount < 2^31) (sized : 0 < d.blockSize) {fuel : Nat} (enough : remaining ≤ fuel) (some : 0 < remaining)
    (inside : remaining < d.byteCount) (length : data.length = remaining) :
    recorded d fuel done remaining false data = padded (done ++ data) ++ lengthWord d := by
  induction fuel generalizing done remaining data with
  | zero => omega
  | succ fuel ih =>
    have start : begun d done remaining false = done := by
      rw [begun,insideRecord simh fixed record fits some inside]
      rfl
    rw [recorded,start]
    split
    · next last =>
      have whole : data.take (min d.blockSize remaining) = data := List.take_of_length_le (by omega)
      rw [last,ended,boundaryEnd simh,if_pos rfl,whole]
    · next more =>
      rw [ended,insideRecord simh fixed record fits (by omega) (by omega),if_neg Bool.false_ne_true,
        ih (by omega) (by omega) (by omega) (by rw [List.length_drop,length]),List.append_assoc,List.take_append_drop]

theorem recordedVariable (simh : d.tarFile = false) (fixed : d.fixed = false) (record : d.recordLength = d.byteCount)
    (fits : d.byteCount < 2^31) (sized : 0 < d.blockSize) {fuel : Nat} (enough : d.byteCount ≤ fuel)
    (some : 0 < d.byteCount) (even : done.length % 2 = 0) (length : data.length = d.byteCount) :
    recorded d fuel done d.byteCount true data = done ++ (block data).encode := by
  obtain ⟨fuel,rfl⟩ := Nat.exists_eq_add_one_of_ne_zero (Nat.ne_of_gt (Nat.lt_of_lt_of_le some enough))
  have begins : begun d done d.byteCount true = done ++ lengthWord d := by simp [begun,boundary,atRecordBoundary,simh]
  rw [recorded,begins]
  split
  · next last =>
    have whole : data.take (min d.blockSize d.byteCount) = data := List.take_of_length_le (by omega)
    rw [last,ended,boundaryEnd simh,if_pos rfl,whole]
    exact blockEncoded even (length.trans record.symm)
  · next more =>
    rw [ended,insideRecord simh fixed record fits (by omega) (by omega),if_neg Bool.false_ne_true,
      recordedInside simh fixed record fits sized (by omega) (by omega) (by omega) (by rw [List.length_drop,length]),
      List.append_assoc (done ++ lengthWord d),List.take_append_drop]
    exact blockEncoded even (length.trans record.symm)

theorem marksYield (count : Nat) (known : Writing start d done ahead remaining initial transfer s) (simh : d.tarFile = false) :
    Yields (repeatFilemark (count+1)) r s fun _ t =>
      Finished start d (done ++ (List.replicate (count+1) SimhObject.filemark).flatMap SimhObject.encode) t := by
  have coded : SimhObject.filemark.encode = toLittleEndian ⟨.tapeMarkGoodDataRecord,0⟩ := List.append_nil _
  have length := toLittleEndianLength ⟨.tapeMarkGoodDataRecord,0⟩
  induction count generalizing done ahead s with
  | zero =>
    unfold Yields
    rw [repeatFilemark,wpBind]
    refine markYields known simh (.inr rfl) fun t known => ⟨remaining,initial,transfer,?_⟩
    rw [← length,← List.length_append] at known
    rw [List.replicate_one,List.flatMap_singleton,coded]
    exact known
  | succ count ih =>
    unfold Yields
    rw [repeatFilemark,wpBind]
    refine markYields known simh (.inr rfl) fun t known => ?_
    rw [List.replicate_succ,List.flatMap_cons,coded,← List.append_assoc]
    exact ih known

/-! The commands. -/

/- The objects of WRITE. -/
def written (d : Tape) (r : Request) (data : Bytes) : List SimhObject :=
  (if isFixed r then blocksOf d.blockSize (transferLength r false) data else [data]).map block

theorem writingStart {image : Bytes} {p : Nat} (opened : s.device.stream s.world = some image) (here : s.device.tapePosition = (p : Nat)) :
    Writing p s.device (upTo image p) [] s.device.remainingCount s.device.initial s.transfer s := by
  refine ⟨⟨s.device.objectLocation,?_⟩,rfl,image,opened,?_,fun behind => ?_⟩
  · rw [upToLength,← here]
  · rw [List.append_nil,upToLength]
  · rw [List.append_nil,upToLength] at behind
    exact absurd behind (Nat.lt_irrefl p)

theorem writeYields {image : Bytes} {p : Nat} (opened : s.device.stream s.world = some image) (simh : s.device.tarFile = false)
    (here : s.device.tapePosition = (p : Nat)) (even : p % 2 = 0) (sized : 0 < s.device.blockSize)
    (asks : transferLength r false ≠ 0) (small : s.device.total r false < 2^31) (length : data.length = s.device.total r false) :
    Yields (writeCommand .write6 data) r s fun _ t => SameTape s.device (recorder r false s) ∧
      Finished p (recorder r false s) (upTo image p ++ (written s.device r data).flatMap SimhObject.encode) t := by
  have listed : (ScsiCommand.write6,false,true) ∈ transferCommands := .tail _ (.tail _ (.head _))
  have whole : uint32 (s.device.total r false) = s.device.total r false := uint32Fits (by omega)
  have positive : 0 < s.device.total r false := by
    unfold total
    split
    · exact Nat.mul_pos (Nat.pos_of_ne_zero asks) sized
    · exact Nat.pos_of_ne_zero asks
  unfold Yields writeCommand
  rw [wpBind]
  refine wpMono (wpTransfer listed (fun _ _ _ _ => trivial) fun wrong => by cases wrong) (fun call t ended => ?_) fun _ _ _ => trivial
  obtain ⟨passed,accepted⟩ := ended
  rcases acceptedWrite accepted with ⟨none,_⟩ | ⟨_,⟨_,rfl⟩,start⟩
  · omega
  have same := recorderTape passed
  have known : Writing p (recorder r false s) (upTo image p) [] (s.device.total r false) true t.transfer t := by
    have stream : (recorder r false s).stream (positioned r false s).world = some image := by
      rw [same.stream,(positionedMoved passed).world]
      exact opened
    have known := @writingStart (writesFrom (positioned r false s) (uint32 (s.device.total r false))) image p stream here
    rw [start,recorder]
    rw [whole] at known ⊢
    exact known
  have sizes := writesFromTransfer (positioned r false s) (uint32 (s.device.total r false))
  rw [← start,whole] at sizes
  have size : (positioned r false s).device.blockSize = (recorder r false s).blockSize := rfl
  have receiving : Receiving (recorder r false s) (s.device.total r false) t.transfer :=
    ⟨sizes.1.trans (int32Fits (by omega) (by omega)),size ▸ sizes.2 small⟩
  have bytes : (recorder r false s).byteCount = s.device.total r false := whole
  have fixed : (recorder r false s).fixed = decide (isFixed r) := rfl
  have front : (upTo image p).length % 2 = 0 := by rwa [upToLength]
  have received := receiveYields (r := r) known receiving (same.tar.trans simh) (Nat.le_of_eq bytes.symm) (bytes ▸ small) length
    positive (Nat.le_succ _)
  have contents : recorded (recorder r false s) (s.device.total r false + 1) (upTo image p) (s.device.total r false) true data =
      upTo image p ++ (written s.device r data).flatMap SimhObject.encode := by
    unfold written
    by_cases command : isFixed r
    · have product : s.device.total r false = transferLength r false * (recorder r false s).blockSize := by
        rw [total,if_pos command,same.size]
      have record : (recorder r false s).recordLength = (recorder r false s).blockSize :=
        if_pos (fixed.trans (decide_eq_true command))
      rw [if_pos command,product,← same.size]
      exact recordedFixed (same.tar.trans simh) (fixed.trans (decide_eq_true command)) record (same.size ▸ sized)
        (Nat.pos_of_ne_zero asks) (Nat.le_succ _) front (length.trans product)
    · have plain : (recorder r false s).fixed = false := fixed.trans (decide_eq_false command)
      have record : (recorder r false s).recordLength = (recorder r false s).byteCount :=
        if_neg (Bool.eq_false_iff.mp plain)
      rw [if_neg command,← bytes,List.map_singleton,List.flatMap_singleton]
      exact recordedVariable (same.tar.trans simh) plain record (bytes ▸ small) (same.size ▸ sized) (Nat.le_succ _)
        (bytes ▸ positive) front (length.trans bytes.symm)
  dsimp only
  rw [wpBind,wpGetTransfer,receiving.left,Int.toNat_natCast,← contents]
  exact wpMono received (fun _ _ finished => ⟨same,finished⟩) fun _ _ _ => trivial

theorem filemarksYield {image : Bytes} {p : Nat} (data : Bytes) (opened : s.device.stream s.world = some image) (simh : s.device.tarFile = false)
    (here : s.device.tapePosition = (p : Nat)) (asks : transferLength r false ≠ 0) :
    Yields (writeCommand .writeFilemarks6 data) r s fun _ t => Finished p s.device
      (upTo image p ++ (List.replicate (transferLength r false) SimhObject.filemark).flatMap SimhObject.encode) t := by
  have registered : Handler.dispatch commands .writeFilemarks6 = writeFilemarks false := rfl
  obtain ⟨count,same⟩ := Nat.exists_eq_add_one_of_ne_zero asks
  have marks := marksYield (r := r) count (writingStart opened here) simh
  rw [← same] at marks
  unfold Yields writeCommand
  rw [wpBind]
  refine wpDispatch (by decide) registered (fun _ _ _ _ => trivial) fun _ => ?_
  unfold writeFilemarks
  rw [wpBind]
  refine wpCheckReady (fun _ _ _ _ => trivial) fun _ _ _ => ?_
  rw [wpBind,wpGetRequest,wpBind,wpGetDevice,simh,if_neg Bool.false_ne_true,wpIte]
  refine ⟨fun _ => trivial,fun _ => ?_⟩
  rw [wpBind]
  refine wpCheckWritePreconditions (fun _ _ _ _ => trivial) fun _ => ?_
  rw [if_neg (fun wrong => by cases wrong.1),wpBind]
  exact marks

/- The image behind a command: what was in front of the position, the objects in their
order with words that say their lengths, and the mark at the end. -/
structure Extends (image : Bytes) (objects : List SimhObject) (s t : HandlerState Tape) : Prop where
  legible : ∀ o ∈ objects, fromLittleEndian (toLittleEndian o.metaData) = o.metaData
  position : t.device.tapePosition = s.device.tapePosition + (objects.flatMap SimhObject.encode).length
  even : t.device.tapePosition % 2 = 0
  file : ∃ bytes, t.device.stream t.world = some bytes ∧
    upTo image s.device.tapePosition.toNat ++ objects.flatMap SimhObject.encode ++ endMark s.device t.device.tapePosition.toNat <+: bytes

theorem legibleIff (m : SimhMetaData) : fromLittleEndian (toLittleEndian m) = m ↔ m.value < 2^28 := by
  refine ⟨fun same => ?_,littleEndianRoundTrip m⟩
  have value : (fromLittleEndian (toLittleEndian m)).value < 2^28 := Nat.mod_lt _ (by decide)
  rwa [same] at value

theorem encodeSome (o : SimhObject) : 0 < o.encode.length := by
  rw [SimhObject.encode,List.length_append,toLittleEndianLength]
  exact Nat.add_pos_left (by decide) _

theorem encodeEven {objects : List SimhObject} (whole : ∀ o ∈ objects, o.encode.length % 2 = 0) :
    (objects.flatMap SimhObject.encode).length % 2 = 0 := by
  induction objects with
  | nil => rfl
  | cons o objects ih =>
    have first := whole o List.mem_cons_self
    have others := ih fun o member => whole o (List.mem_cons_of_mem _ member)
    rw [List.flatMap_cons,List.length_append]
    omega

theorem Finished.extends {image : Bytes} {p : Nat} {objects : List SimhObject} {t : HandlerState Tape}
    (finished : Finished p d (upTo image p ++ objects.flatMap SimhObject.encode) t) (same : SameTape s.device d)
    (here : s.device.tapePosition = (p : Nat)) (even : p % 2 = 0) (some : objects ≠ [])
    (whole : ∀ o ∈ objects, o.encode.length % 2 = 0)
    (legible : ∀ o ∈ objects, fromLittleEndian (toLittleEndian o.metaData) = o.metaData) : Extends image objects s t := by
  obtain ⟨remaining,initial,transfer,known⟩ := finished
  have position := known.position
  obtain ⟨location,device⟩ := known.device
  obtain ⟨bytes,opened,stored⟩ := known.file
  have length : (upTo image p ++ objects.flatMap SimhObject.encode).length = p + (objects.flatMap SimhObject.encode).length := by
    rw [List.length_append,upToLength]
  have more : 0 < (objects.flatMap SimhObject.encode).length := by
    obtain ⟨o,objects,rfl⟩ := List.exists_cons_of_ne_nil some
    have first := encodeSome o
    rw [List.flatMap_cons,List.length_append]
    omega
  have parity := encodeEven whole
  have behind : p < (upTo image p ++ objects.flatMap SimhObject.encode ++
      endMark d (upTo image p ++ objects.flatMap SimhObject.encode).length).length := by
    rw [List.length_append,length]
    omega
  refine ⟨legible,?_,?_,bytes,?_,?_⟩
  · rw [position,here,length]
    exact Int.natCast_add p _
  · rw [position,length]
    omega
  · rw [device]
    exact opened
  · have mark : endMark s.device t.device.tapePosition.toNat =
        endMark d (upTo image p ++ objects.flatMap SimhObject.encode).length := by
      rw [position,Int.toNat_natCast,endMark,endMark,same.file]
    rw [mark,here,Int.toNat_natCast]
    exact stored.2 behind

theorem blocksLength {size count : Nat} {data : Bytes} (length : data.length = count * size) :
    ∀ b ∈ blocksOf size count data, b.length = size := by
  induction count generalizing data with
  | zero => exact fun b member => absurd member List.not_mem_nil
  | succ count ih =>
    have all : (count + 1) * size = count * size + size := Nat.succ_mul _ _
    intro b member
    rw [blocksOf,List.mem_cons] at member
    rcases member with rfl | member
    · rw [List.length_take]
      omega
    · refine ih ?_ b member
      rw [List.length_drop]
      omega

theorem blocksSome {count : Nat} (size : Nat) (data : Bytes) (some : count ≠ 0) : blocksOf size count data ≠ [] := by
  obtain ⟨count,rfl⟩ := Nat.exists_eq_add_one_of_ne_zero some
  exact List.cons_ne_nil _ _

/- A block has a word for its length if it is shorter than 2^28 bytes. -/
theorem writtenLegible (asks : transferLength r false ≠ 0) (length : data.length = d.total r false) :
    (∀ o ∈ written d r data, fromLittleEndian (toLittleEndian o.metaData) = o.metaData) ↔
      (isFixed r → d.blockSize < 2^28) := by
  unfold written
  unfold total at length
  by_cases command : isFixed r
  · rw [if_pos command] at length ⊢
    have sizes := blocksLength length
    constructor
    · intro legible _
      obtain ⟨b,member⟩ := List.exists_mem_of_ne_nil _ (blocksSome d.blockSize data asks)
      have word := (legibleIff _).mp (legible (block b) (List.mem_map_of_mem member))
      have size : (block b).metaData.value = b.length := rfl
      rwa [size,sizes b member] at word
    · intro small o member
      obtain ⟨b,inside,rfl⟩ := List.mem_map.mp member
      refine (legibleIff _).mpr ?_
      have size : (block b).metaData.value = b.length := rfl
      rw [size,sizes b inside]
      exact small command
  · rw [if_neg command] at length ⊢
    have small : data.length < 2^28 := by
      have limit : transferLength r false < 2^24 := transferLengthSmall
      omega
    refine ⟨fun _ fixed => absurd fixed command,fun _ o member => ?_⟩
    rw [List.map_singleton,List.mem_singleton] at member
    rw [member]
    exact (legibleIff _).mpr small

/- A command that is not refused and passes the last checks is executed. -/
theorem acceptedWrites (data : Bytes) (listed : (r.opcode,false,true) ∈ transferCommands) (passed : ¬Refused r false true s)
    (sized : 0 < s.device.blockSize) (opened : ∃ bytes, s.device.stream s.world = some bytes) (valid : 0 ≤ startPosition r false s)
    (some : s.device.total r false ≠ 0) (small : s.device.total r false < 2^31)
    (passes : Passes s.device (asked s.device r false (startPosition r false s))) : ∃ t, writeCommand r.opcode data r s = (.ok (),t) := by
  have whole : uint32 (s.device.total r false) = s.device.total r false := uint32Fits (by omega)
  have ran : wp (writeCommand r.opcode data) r s (fun _ _ => True) fun _ _ => False := by
    unfold writeCommand
    rw [wpBind]
    refine wpMono (wpTransfer listed (fun refused => absurd refused passed) fun wrong => by cases wrong) (fun call t ended => ?_)
      fun _ _ failed => failed
    rcases acceptedWrite ended.2 with ⟨none,_⟩ | ⟨asks,⟨_,rfl⟩,start⟩
    · omega
    have known := recordingStart opened passed valid
    have sizes := writesFromTransfer (positioned r false s) (uint32 (s.device.total r false))
    have same := recorderTape passed
    rw [← start] at known sizes
    have received := wpReceiveCount r data known rfl (uint32Lt _) (same.size ▸ sized) asks sizes.1 sizes.2
    dsimp only
    rw [wpBind,wpGetTransfer]
    refine wpMono received (fun _ _ _ => trivial) fun e _ ended => ?_
    rcases ended with ⟨_,large⟩ | ⟨_,_,fails⟩
    · omega
    · rw [stopAsked sized passed some small,same.passes] at fails
      exact fails passes
  obtain ⟨_,t,ran,_⟩ := wpRuns ran
  exact ⟨t,ran⟩

theorem writtenSome (asks : transferLength r false ≠ 0) : written d r data ≠ [] := by
  unfold written
  intro none
  have blocks := List.map_eq_nil_iff.mp none
  by_cases command : isFixed r
  · rw [if_pos command] at blocks
    exact blocksSome d.blockSize data asks blocks
  · rw [if_neg command] at blocks
    exact List.cons_ne_nil _ _ blocks

theorem writtenWhole : ∀ o ∈ written d r data, o.encode.length % 2 = 0 := by
  intro o member
  obtain ⟨b,_,rfl⟩ := List.mem_map.mp member
  exact blockEven b

end
end Tape

/- WRITE and WRITE FILEMARKS that end with GOOD. -/
theorem tapeExtendedIff {s t : HandlerState Tape} {image : Bytes} (opened : s.device.stream s.world = some image)
    (simh : s.device.tarFile = false) (sized : 0 < s.device.blockSize) (valid : 0 ≤ s.device.tapePosition)
    (even : s.device.tapePosition % 2 = 0) (r : Request) (asks : Tape.transferLength r false ≠ 0) (data : Bytes)
    (good : Tape.writeCommand r.opcode data r s = (.ok (),t)) :
    (r.opcode = .write6 → s.device.total r false < 2^31 → data.length = s.device.total r false →
      (Tape.Extends image (Tape.written s.device r data) s t ↔ (Tape.isFixed r → s.device.blockSize < 2^28))) ∧
    (r.opcode = .writeFilemarks6 → Tape.Extends image (List.replicate (Tape.transferLength r false) .filemark) s t) := by
  obtain ⟨p,here⟩ := Int.eq_ofNat_of_zero_le valid
  have parity : p % 2 = 0 := by omega
  constructor
  · intro command small length
    rw [command] at good
    have ended := Tape.writeYields (r := r) opened simh here parity sized asks small length
    rw [Tape.Yields,wp,good] at ended
    obtain ⟨same,finished⟩ := ended
    have legible := Tape.writtenLegible (d := s.device) asks length
    refine ⟨fun extended => legible.mp extended.legible,fun fits => ?_⟩
    exact finished.extends same here parity (Tape.writtenSome asks) Tape.writtenWhole (legible.mpr fits)
  · intro command
    rw [command] at good
    have ended := Tape.filemarksYield (r := r) data opened simh here asks
    rw [Tape.Yields,wp,good] at ended
    have marks (o : SimhObject) (member : o ∈ List.replicate (Tape.transferLength r false) SimhObject.filemark) :
        o = .filemark := List.eq_of_mem_replicate member
    refine Tape.Finished.extends ended ⟨rfl,rfl,rfl,rfl,fun _ => rfl⟩ here parity ?_ (fun o member => ?_) fun o member => ?_
    · exact fun none => asks ((List.replicate_eq_nil_iff _).mp none)
    · rw [marks o member,SimhObject.encode,List.length_append,toLittleEndianLength]
      rfl
    · rw [marks o member]
      exact (Tape.legibleIff _).mpr (Nat.two_pow_pos 28)

namespace Tape

/- Three bytes as one record. -/
def oddBlock : Request := { cdb := [0x0a,0,0,0,3,0] }

theorem oddBlockExtends : Extends (List.replicate 1024 0) (written (kilobyteTape 0).device oddBlock [1,2,3]) (kilobyteTape 0)
    (writeCommand oddBlock.opcode [1,2,3] oddBlock (kilobyteTape 0)).2 :=
  ((tapeExtendedIff rfl rfl (by decide) (by decide) (by decide) oddBlock (by decide) [1,2,3] (Prod.ext rfl rfl)).1
    (by decide) (by decide) (by decide)).mpr fun fixed => absurd fixed (by decide)

/- An empty tape with blocks of 2^28 bytes, and one of them. -/
def giantTape : HandlerState Tape where
  device := {
    type := .sctp
    ready := true
    supportedBlockSizes := [512]
    configuredBlockSize := 2^28
    blockSize := 2^28
    blockSizeForDescriptor := 2^28
    isOpen := true
    maxFileSize := 2^30 }
  transfer := {}
  world := { files := fun _ => some [] }

def giantBlock : Request := { cdb := [0x0a,1,0,0,1,0] }

def giantData : Bytes := List.replicate (2^28) 0

/- The word in front of the block is a tape mark. -/
theorem giantBlockLost : ∃ t, writeCommand giantBlock.opcode giantData giantBlock giantTape = (.ok (),t) ∧
    ¬Extends [] (written giantTape.device giantBlock giantData) giantTape t := by
  have fixed : isFixed giantBlock := by decide
  have passed : ¬Refused giantBlock false true giantTape := by
    refine acceptedChecks rfl rfl rfl rfl (fun wrong => ?_) (fun wrong => ?_) (fun wrong => ?_) (fun wrong => ?_)
    · cases wrong.1
    · cases wrong.2
    · obtain ⟨e,t,failed⟩ := wrong
      cases failed
    · cases wrong.2
  have count : giantTape.device.total giantBlock false = 2^28 := by
    rw [total,if_pos fixed]
    rfl
  have stop : asked giantTape.device giantBlock false (startPosition giantBlock false giantTape) = 2^28 + 8 := by
    rw [asked,if_neg (by decide),if_pos fixed]
    decide
  obtain ⟨t,ran⟩ := acceptedWrites giantData (.tail _ (.tail _ (.head _))) passed (by decide) ⟨[],rfl⟩ (by decide)
    (by rw [count]; decide) (by rw [count]; decide) (by
      rw [stop,passesSimh rfl]
      exact ⟨by decide,fun room => absurd room (by decide)⟩)
  refine ⟨t,ran,fun extended => ?_⟩
  have small := (writtenLegible (by decide) (List.length_replicate.trans count.symm)).mp extended.legible fixed
  exact absurd small (Nat.lt_irrefl _)

end Tape
end Scsi2Pi
