import Scsi2Pi.S2pDump
import Scsi2Pi.S2pSimh
import Scsi2Pi.TapeScan

/-! Dumping a tape: what the executor of the board reads from a drive, what is written
for it, and which tapes the scanner and the analyzer find again in the file. -/
namespace Scsi2Pi
open Slices MemoryUtil SimhUtil Eff DumpEff

structure TapeDrive where
  contents : List TapeItem
  position : Nat := 0
  sense : Bytes := List.replicate 14 0

namespace TapeDrive

/- Sense key and flags, and the information bytes. -/
def senseData (flags : UInt8) (information : Int) : Bytes :=
  [0xf0,0,flags] ++ bigEndian 4 (uint32 information) ++ List.replicate 7 0

/- The information is the difference between the length asked for and that of the block. -/
def read (drive : TapeDrive) (length : Nat) : Answer × TapeDrive :=
  match drive.contents[drive.position]? with
  | none => ({ status := 2 },{ drive with sense := senseData 0x08 length })
  | some .filemark => ({ status := 2 },{ drive with position := drive.position + 1, sense := senseData 0x80 length })
  | some .unreadable => ({ status := 2 },{ drive with position := drive.position + 1, sense := senseData 0x03 length })
  | some (.block data) =>
    if data.length = length then ({ dataIn := data },{ drive with position := drive.position + 1 })
    else ({ status := 2, dataIn := data.take length },
      { drive with position := drive.position + 1, sense := senseData 0x20 (length - data.length) })

def space (drive : TapeDrive) (count : Int) : Answer × TapeDrive :=
  ({},{ drive with position := (drive.position + count).toNat })

def answer : Target TapeDrive := fun drive cdb _ =>
  if cdb.getD 0 0 = ScsiCommand.read6 then drive.read (getInt24 cdb 2)
  else if cdb.getD 0 0 = ScsiCommand.requestSense then ({ dataIn := drive.sense.take (byteAt cdb 4) },drive)
  else if cdb.getD 0 0 = ScsiCommand.space6 then drive.space (Tape.signedInt24 (getInt24 cdb 2))
  else ({},drive)

end TapeDrive

namespace TapeDump
open S2pDumpExecutor TapeDrive

/- The file is complete whatever the bounds of the loops, if they are large enough. -/
def Written (i : BoardExecutor.Initiator) (buf : Bytes) (contents : List TapeItem) (file : Bytes) : Prop :=
  ∃ enough, ∀ bound, enough ≤ bound →
    (S2pDump.dumpTape (BoardExecutor.virtual i) bound bound buf [] answer { target := { contents } }).1 = .ok file

/- What the analyzer prints for a block or mark. -/
def printedItem (limit : Nat) : TapeItem → S2pSimh.Printed
  | .block data => ⟨⟨.tapeMarkGoodDataRecord,data.length⟩,data.take limit⟩
  | .unreadable => ⟨⟨.badDataRecord,0⟩,[]⟩
  | .filemark => ⟨⟨.tapeMarkGoodDataRecord,0⟩,[]⟩

def Valid (contents : List TapeItem) : Prop := ∀ data, .block data ∈ contents → 0 < data.length ∧ data.length < 2^24

structure RecordedTape where
  contents : List TapeItem
  valid : Valid contents

/- Both the scanner of the tape device and the analyzer find the contents. -/
def FoundAgain (file : Bytes) (contents : List TapeItem) : Prop :=
  Tape.scan file = some contents ∧ ∀ limit, S2pSimh.analyze limit file = some (contents.map (printedItem limit))

/-! CDBs and sense data. -/

section
variable {i : BoardExecutor.Initiator} {s : DumpState TapeDrive}

/- What is left of a drive after a command. -/
def sentTo (s : DumpState TapeDrive) (drive : TapeDrive) (cdb : Bytes) : DumpState TapeDrive :=
  { s with target := drive, sent := s.sent ++ [cdb] }

theorem readFits (drive : TapeDrive) (length : Nat) : BoardExecutor.answers (drive.read length).1 length := by
  unfold TapeDrive.read
  split
  · exact ⟨Nat.zero_le _,.inl rfl⟩
  · exact ⟨Nat.zero_le _,.inl rfl⟩
  · exact ⟨Nat.zero_le _,.inl rfl⟩
  · split
    · next same => exact ⟨Nat.le_of_eq same,.inl rfl⟩
    · exact ⟨by simp only [List.length_take]; omega,.inl rfl⟩

theorem wpRead {cdb buf : Bytes} {length : Nat} {Q : Executed Bool → DumpState TapeDrive → Prop}
    {E : DumpException → DumpState TapeDrive → Prop} (long : cdb.length = 6) (small : length < 2^24)
    (overflow : buf.length < (s.target.read length).1.dataIn.length → ∀ t, E .undefinedBehaviour t)
    (rest : (s.target.read length).1.dataIn.length ≤ buf.length → ∀ cdb, cdb.length = 6 →
      Q ⟨(s.target.read length).1.status ≠ 0,cdb,setBytes buf 0 (s.target.read length).1.dataIn⟩
        (sentTo s (s.target.read length).2 cdb)) :
    wp ((BoardExecutor.virtual i).read (S2pDumpExecutor.setInt24 cdb 2 length) buf length) answer s Q E := by
  have bytes : (S2pDumpExecutor.setInt24 cdb 2 length).length = 6 := by
    obtain ⟨a,b,c,d,e,f,rfl⟩ := BoardExecutor.six long
    rfl
  have opcode : (BoardExecutor.encodeLun i ((S2pDumpExecutor.setInt24 cdb 2 length).set 0 ScsiCommand.read6)).getD 0 0 =
      ScsiCommand.read6 := by
    rw [BoardExecutor.encodedOpcode]
    obtain ⟨a,b,c,d,e,f,rfl⟩ := BoardExecutor.six long
    rfl
  have asked (data : Bytes) : answer s.target (BoardExecutor.encodeLun i ((S2pDumpExecutor.setInt24 cdb 2 length).set 0
      ScsiCommand.read6)) data = s.target.read length := by
    unfold answer
    rw [if_pos opcode,BoardExecutor.lengthInCdb long small]
  have fits := readFits s.target length
  unfold BoardExecutor.virtual BoardExecutor.execute
  simp only [wpBind,wpSend,wpReceive,wpPure,asked,if_pos fits,List.take_of_length_le fits.1]
  exact ⟨fun full => overflow full _,fun room => rest (Nat.not_lt.mp room) _ (BoardExecutor.encodedSix (by rw [List.length_set,bytes]))⟩

theorem wpRequestSense {Q : Executed Nat → DumpState TapeDrive → Prop} {E : DumpException → DumpState TapeDrive → Prop}
    (complete : s.target.sense.length = 14)
    (rest : ∀ cdb, cdb.length = 6 → Q ⟨0,cdb,s.target.sense⟩ (sentTo s s.target cdb)) :
    wp ((BoardExecutor.virtual i).requestSense ((List.replicate 6 0).set 4 14) (List.replicate 14 0)) answer s Q E := by
  have opcode : (BoardExecutor.encodeLun i (((List.replicate 6 0).set 4 14).set 0 ScsiCommand.requestSense)).getD 0 0 =
      ScsiCommand.requestSense := by
    rw [BoardExecutor.encodedOpcode]
    rfl
  have count : byteAt (BoardExecutor.encodeLun i (((List.replicate 6 0).set 4 14).set 0 ScsiCommand.requestSense)) 4 = 14 := by
    unfold BoardExecutor.encodeLun
    split <;> rfl
  have asked (data : Bytes) : answer s.target (BoardExecutor.encodeLun i (((List.replicate 6 0).set 4 14).set 0
      ScsiCommand.requestSense)) data = ({ dataIn := s.target.sense },s.target) := by
    unfold answer
    rw [if_neg (by rw [opcode]; decide),if_pos opcode,count,List.take_of_length_le (Nat.le_of_eq complete)]
  have fits : BoardExecutor.answers { dataIn := s.target.sense } (List.replicate 14 (0 : UInt8)).length :=
    ⟨Nat.le_of_eq complete,.inl rfl⟩
  have whole : setBytes (List.replicate 14 0) 0 s.target.sense = s.target.sense := by
    simp [setBytes,overwrite,complete]
  unfold BoardExecutor.virtual BoardExecutor.execute
  simp only [wpBind,wpSend,wpReceive,wpPure,asked,if_pos fits,List.take_of_length_le fits.1,whole]
  refine ⟨fun full => ?_,fun _ => rest _ (BoardExecutor.encodedSix rfl)⟩
  rw [complete,List.length_replicate] at full
  omega

theorem wpSpaceBack {Q : Unit → DumpState TapeDrive → Prop} {E : DumpException → DumpState TapeDrive → Prop}
    (rest : ∀ cdb, Q () (sentTo s { s.target with position := s.target.position - 1 } cdb)) :
    wp (spaceBack (BoardExecutor.virtual i)) answer s Q E := by
  have opcode : (BoardExecutor.encodeLun i ((S2pDumpExecutor.setInt24 (newCdb 6 .space6) 2 (-1)).set 0
      ScsiCommand.space6)).getD 0 0 = ScsiCommand.space6 := by
    rw [BoardExecutor.encodedOpcode]
    rfl
  have count : getInt24 (BoardExecutor.encodeLun i ((S2pDumpExecutor.setInt24 (newCdb 6 .space6) 2 (-1)).set 0
      ScsiCommand.space6)) 2 = 2^24 - 1 := by
    have bytes : (S2pDumpExecutor.setInt24 (newCdb 6 .space6) 2 (-1)).set 0 ScsiCommand.space6 =
        [ScsiCommand.space6,0,255,255,255,0] := by decide
    rw [bytes]
    unfold BoardExecutor.encodeLun
    split <;> simp [getInt24,byteAt]
  have back : s.target.space (Tape.signedInt24 (2^24 - 1)) = ({},{ s.target with position := s.target.position - 1 }) := by
    have one : Tape.signedInt24 (2^24 - 1) = -1 := by decide
    have position : ((s.target.position : Int) + -1).toNat = s.target.position - 1 := by omega
    simp only [TapeDrive.space,one,position]
  have asked (data : Bytes) : answer s.target (BoardExecutor.encodeLun i ((S2pDumpExecutor.setInt24 (newCdb 6 .space6) 2
      (-1)).set 0 ScsiCommand.space6)) data = ({},{ s.target with position := s.target.position - 1 }) := by
    unfold answer
    rw [if_neg (by rw [opcode]; decide),if_neg (by rw [opcode]; decide),if_pos opcode,count,back]
  have fits : BoardExecutor.answers {} 0 := ⟨Nat.le_refl _,.inl rfl⟩
  unfold spaceBack BoardExecutor.virtual BoardExecutor.execute
  simp only [wpBind,wpSend,wpReceive,wpPure,wpIte,wpThrow,asked,if_pos fits,List.take_nil]
  exact ⟨fun full => absurd full (Nat.not_lt_zero _),fun _ => ⟨fun failed => absurd rfl failed,fun _ => rest _⟩⟩

/-! The attempts to read a block. -/

/- The drive is at a position, and a length is tried. -/
structure On (contents : List TapeItem) (position length : Nat) (s : DumpState TapeDrive) : Prop where
  same : s.target.contents = contents
  here : s.target.position = position
  tried : s.defaultLength = length

theorem senseFlags {flags : UInt8} {information : Int} : byteAt (senseData flags information) 2 = flags.toNat := rfl

theorem senseInformation {flags : UInt8} {information : Int} :
    getInt32 (senseData flags information) 3 = uint32 information := by
  have small := uint32Lt information
  simp only [senseData,bigEndian,List.range,List.range.loop,List.map,getInt32,getInt16,byteAt,List.cons_append,
    List.nil_append,List.getD_cons_succ,List.getD_cons_zero,UInt8.toNat_ofNat']
  omega

theorem remembersFlags {flags : UInt8} {information : Int} :
    remembers (senseData flags information) = decide (flags.toNat &&& 0x0f = SenseKey.mediumError.code.toNat) := rfl

theorem senseComplete {flags : UInt8} {information : Int} : (senseData flags information).length = 14 := rfl

variable {contents : List TapeItem} {position length attempts : Nat} {hasError : Bool} {cdb buf : Bytes}
  {Q : Int × Bytes → DumpState TapeDrive → Prop} {E : DumpException → DumpState TapeDrive → Prop}

/- What there is to show when the sense data have been evaluated. -/
def Continues (i : BoardExecutor.Initiator) (attempts : Nat) (hasError : Bool) (cdb buf : Bytes)
    (Q : Int × Bytes → DumpState TapeDrive → Prop) (E : DumpException → DumpState TapeDrive → Prop) :
    Option Int → DumpState TapeDrive → Prop
  | some result => Q (result,buf)
  | none => fun s => wp (readBlock (BoardExecutor.virtual i) attempts hasError cdb buf) answer s Q E

theorem wpSucceeded (tried : s.defaultLength = length) (long : cdb.length = 6) (small : length < 2^24)
    (succeeded : (s.target.read length).1.status = 0)
    (overflow : buf.length < (s.target.read length).1.dataIn.length → ∀ t, E .undefinedBehaviour t)
    (rest : ∀ cdb, (s.target.read length).1.dataIn.length ≤ buf.length →
      Q (length,setBytes buf 0 (s.target.read length).1.dataIn) (sentTo s (s.target.read length).2 cdb)) :
    wp (readBlock (BoardExecutor.virtual i) (attempts+1) hasError cdb buf) answer s Q E := by
  rw [readBlock]
  simp only [wpBind,wpGet,tried,Int.toNat_natCast]
  refine wpRead long small overflow fun room cdb long => ?_
  rw [succeeded]
  exact rest cdb room

theorem wpFailed (tried : s.defaultLength = length) (long : cdb.length = 6) (small : length < 2^24)
    (failed : (s.target.read length).1.status = 2) (complete : (s.target.read length).2.sense.length = 14)
    (overflow : buf.length < (s.target.read length).1.dataIn.length → ∀ t, E .undefinedBehaviour t)
    (rest : ∀ cdb t, cdb.length = 6 → (s.target.read length).1.dataIn.length ≤ buf.length →
      t.target = (s.target.read length).2 → t.defaultLength = (length : Int) →
      wp (evaluateSense (BoardExecutor.virtual i) hasError (s.target.read length).2.sense) answer t
        (Continues i attempts (hasError || remembers (s.target.read length).2.sense) cdb
          (setBytes buf 0 (s.target.read length).1.dataIn) Q E) E) :
    wp (readBlock (BoardExecutor.virtual i) (attempts+1) hasError cdb buf) answer s Q E := by
  rw [readBlock]
  simp only [wpBind,wpGet,tried,Int.toNat_natCast]
  refine wpRead long small overflow fun room cdb long => ?_
  have again : (!decide ((s.target.read length).1.status ≠ 0)) = false := by
    rw [failed]
    rfl
  simp only [again,Bool.false_eq_true,if_false,wpBind,long]
  refine wpRequestSense (s := sentTo s (s.target.read length).2 _) complete fun cdb long => ?_
  simp only [wpIte,wpThrow,wpPure,wpBind]
  refine ⟨fun wrong => absurd wrong (by decide),fun _ => ⟨fun wrong => absurd rfl wrong.1,fun _ => ?_⟩⟩
  refine wpMono (rest cdb _ long room rfl tried) (fun result u known => ?_) fun _ _ known => known
  cases result <;> exact known

section
variable {information : Int} {Q : Option Int → DumpState TapeDrive → Prop}

theorem wpNoMoreData (rest : Q (some noMoreData) s) :
    wp (evaluateSense (BoardExecutor.virtual i) hasError (senseData 0x08 information)) answer s Q E := by
  unfold evaluateSense
  simp only [wpIte,wpPure]
  simp only [senseFlags]
  exact ⟨fun _ => rest,fun wrong => absurd (.inl rfl) wrong⟩

theorem wpMark (rest : Q (some 0) s) :
    wp (evaluateSense (BoardExecutor.virtual i) hasError (senseData 0x80 information)) answer s Q E := by
  unfold evaluateSense
  simp only [wpBind,wpIte,wpPure]
  simp only [senseFlags]
  exact ⟨fun wrong => absurd wrong (by decide),fun _ => ⟨fun wrong => absurd wrong (by decide),fun _ =>
    ⟨fun _ => rest,fun wrong => absurd (by decide) wrong⟩⟩⟩

/- The first error leads to another attempt. -/
theorem wpMediumError (bad : hasError = true → Q (some badBlock) s)
    (again : hasError = false → ∀ cdb, Q none (sentTo s { s.target with position := s.target.position - 1 } cdb)) :
    wp (evaluateSense (BoardExecutor.virtual i) hasError (senseData 0x03 information)) answer s Q E := by
  unfold evaluateSense
  simp only [wpBind,wpIte,wpPure]
  simp only [senseFlags]
  refine ⟨fun wrong => absurd wrong (by decide),fun _ => ⟨fun _ => ⟨bad,fun first => ?_⟩,fun wrong => absurd rfl wrong⟩⟩
  exact wpSpaceBack (again (Bool.not_eq_true _ ▸ first))

/- A shorter block has been read, and a longer one has to be read again. -/
theorem wpOtherLength {actual : Nat} (tried : s.defaultLength = length) (small : length < 2^24) (fits : actual < 2^24)
    (shorter : actual < length → Q (some actual) { s with defaultLength := actual })
    (longer : ¬actual < length → ∀ cdb,
      Q none (sentTo { s with defaultLength := actual } { s.target with position := s.target.position - 1 } cdb)) :
    wp (evaluateSense (BoardExecutor.virtual i) hasError (senseData 0x20 (length - actual))) answer s Q E := by
  have corrected : int32 (length - uint32 (length - actual)) = actual := by
    have wraps : (length : Int) - uint32 (length - actual) = actual ∨ (length : Int) - uint32 (length - actual) = actual - 2^32 := by
      unfold uint32
      omega
    rcases wraps with same | wrapped
    · rw [same,int32Fits (by omega) (by omega)]
    · rw [wrapped]
      have rest : ((actual : Int) - 2^32) % (2^32 : Nat) = actual := by omega
      unfold int32
      rw [← Int.emod_bmod,rest]
      exact int32Fits (by omega) (by omega)
  have valid : byteAt (senseData 0x20 (length - actual)) 0 &&& 0x80 ≠ 0 := by
    have first : byteAt (senseData 0x20 (length - actual)) 0 = 0xf0 := rfl
    rw [first]
    decide
  unfold evaluateSense
  simp only [wpBind,wpGet,wpIte,wpPure,wpModify]
  simp only [senseFlags,senseInformation,tried,corrected]
  refine ⟨fun wrong => absurd wrong (by decide),fun _ => ⟨fun wrong => absurd wrong (by decide),fun _ =>
    ⟨fun wrong => absurd wrong (by decide),fun _ => ⟨fun _ => ⟨fun less => ?_,fun more => ?_⟩,fun wrong => ?_⟩⟩⟩⟩
  · exact shorter (Int.ofNat_lt.mp less)
  · exact wpSpaceBack (longer fun less => more (Int.ofNat_lt.mpr less))
  · exact absurd ⟨valid,by decide⟩ wrong

end

/-! What is read for the item at the position of the drive. -/

section
variable {length : Nat}

theorem setFront {buf data : Bytes} (room : data.length ≤ buf.length) :
    (setBytes buf 0 data).length = buf.length ∧ (setBytes buf 0 data).take data.length = data := by
  refine ⟨overwriteLength (by omega),?_⟩
  simp [setBytes,overwrite]

theorem readEnd (known : On contents position length s) (long : cdb.length = 6) (small : length < 2^24)
    (none : contents[position]? = none)
    (rest : ∀ buf' t, buf'.length = buf.length → On contents position length t → Q (noMoreData,buf') t) :
    wp (readBlock (BoardExecutor.virtual i) (attempts+1) hasError cdb buf) answer s Q E := by
  have asked : s.target.read length = ({ status := 2 },{ s.target with sense := senseData 0x08 length }) := by
    have here : s.target.contents[s.target.position]? = Option.none := by rw [known.same,known.here,none]
    unfold TapeDrive.read
    rw [here]
  refine wpFailed known.tried long small (by rw [asked]) (by rw [asked,senseComplete]) ?_ fun cdb t _ room target tried => ?_
  · rw [asked]
    exact fun full => absurd full (Nat.not_lt_zero _)
  · rw [asked] at room target ⊢
    exact wpNoMoreData (rest _ _ (setFront room).1 ⟨by rw [target,known.same],by rw [target,known.here],tried⟩)

theorem readFilemark (known : On contents position length s) (long : cdb.length = 6) (small : length < 2^24)
    (mark : contents[position]? = some .filemark)
    (rest : ∀ buf' t, buf'.length = buf.length → On contents (position+1) length t → Q (0,buf') t) :
    wp (readBlock (BoardExecutor.virtual i) (attempts+1) hasError cdb buf) answer s Q E := by
  have asked : s.target.read length =
      ({ status := 2 },{ s.target with position := s.target.position + 1, sense := senseData 0x80 length }) := by
    have here : s.target.contents[s.target.position]? = some .filemark := by rw [known.same,known.here,mark]
    unfold TapeDrive.read
    rw [here]
  refine wpFailed known.tried long small (by rw [asked]) (by rw [asked,senseComplete]) ?_ fun cdb t _ room target tried => ?_
  · rw [asked]
    exact fun full => absurd full (Nat.not_lt_zero _)
  · rw [asked] at room target ⊢
    exact wpMark (rest _ _ (setFront room).1 ⟨by rw [target,known.same],by rw [target,known.here],tried⟩)

theorem readUnreadable (known : On contents position length s) (long : cdb.length = 6) (small : length < 2^24)
    (unreadable : contents[position]? = some .unreadable)
    (bad : hasError = true → ∀ buf' t, buf'.length = buf.length → On contents (position+1) length t → Q (badBlock,buf') t)
    (again : hasError = false → ∀ cdb' buf' t, cdb'.length = 6 → buf'.length = buf.length → On contents position length t →
      wp (readBlock (BoardExecutor.virtual i) attempts true cdb' buf') answer t Q E) :
    wp (readBlock (BoardExecutor.virtual i) (attempts+1) hasError cdb buf) answer s Q E := by
  have asked : s.target.read length =
      ({ status := 2 },{ s.target with position := s.target.position + 1, sense := senseData 0x03 length }) := by
    have here : s.target.contents[s.target.position]? = some .unreadable := by rw [known.same,known.here,unreadable]
    unfold TapeDrive.read
    rw [here]
  refine wpFailed known.tried long small (by rw [asked]) (by rw [asked,senseComplete]) ?_ fun cdb t long room target tried => ?_
  · rw [asked]
    exact fun full => absurd full (Nat.not_lt_zero _)
  · rw [asked] at room target ⊢
    have remembered : (hasError || remembers (senseData 0x03 length)) = true := by
      have error : remembers (senseData 0x03 length) = true := remembersFlags
      rw [error,Bool.or_true]
    rw [remembered]
    refine wpMediumError (fun error => ?_) fun first sent => ?_
    · exact bad error _ _ (setFront room).1 ⟨by rw [target,known.same],by rw [target,known.here],tried⟩
    · refine again first _ _ _ long (setFront room).1 ⟨?_,?_,tried⟩
      · change t.target.contents = contents
        rw [target,known.same]
      · change t.target.position - 1 = position
        rw [target,known.here]
        rfl

/- A longer block is read again with its own length. -/
theorem readData {data : Bytes} (known : On contents position length s) (long : cdb.length = 6) (small : length < 2^24)
    (block : contents[position]? = some (.block data)) (fits : data.length < 2^24)
    (overflow : buf.length < data.length → ∀ t, E .undefinedBehaviour t)
    (rest : ∀ buf' t, data.length ≤ buf.length → buf'.length = buf.length → buf'.take data.length = data →
      On contents (position+1) data.length t → Q (data.length,buf') t)
    (again : length < data.length → ∀ cdb' buf' t, cdb'.length = 6 → buf'.length = buf.length →
      On contents position data.length t → wp (readBlock (BoardExecutor.virtual i) attempts hasError cdb' buf') answer t Q E) :
    wp (readBlock (BoardExecutor.virtual i) (attempts+1) hasError cdb buf) answer s Q E := by
  have here : s.target.contents[s.target.position]? = some (.block data) := by rw [known.same,known.here,block]
  by_cases exact : data.length = length
  · have asked : s.target.read length = ({ dataIn := data },{ s.target with position := s.target.position + 1 }) := by
      unfold TapeDrive.read
      rw [here]
      exact if_pos exact
    refine wpSucceeded known.tried long small (by rw [asked]) ?_ fun cdb room => ?_
    · rw [asked]
      exact overflow
    · rw [asked] at room ⊢
      rw [← exact]
      obtain ⟨same,front⟩ := setFront room
      exact rest _ _ room same front ⟨known.same,congrArg (· + 1) known.here,by rw [exact]; exact known.tried⟩
  · have asked : s.target.read length = ({ status := 2, dataIn := data.take length },
        { s.target with position := s.target.position + 1, sense := senseData 0x20 (length - data.length) }) := by
      unfold TapeDrive.read
      rw [here]
      exact if_neg exact
    refine wpFailed known.tried long small (by rw [asked]) (by rw [asked,senseComplete]) ?_
      fun cdb t long room target tried => ?_
    · rw [asked]
      simp only [List.length_take]
      exact fun full => overflow (Nat.lt_of_lt_of_le full (Nat.min_le_right _ _))
    · rw [asked] at room target ⊢
      have other : (hasError || remembers (senseData 0x20 (length - data.length))) = hasError := by
        have none : remembers (senseData 0x20 (length - data.length)) = false := remembersFlags
        rw [none,Bool.or_false]
      rw [other]
      obtain ⟨same,front⟩ := setFront room
      refine wpOtherLength tried small fits (fun shorter => ?_) fun longer sent => ?_
      · have whole : data.take length = data := List.take_of_length_le (Nat.le_of_lt shorter)
        dsimp only at same front room ⊢
        rw [whole] at same front room ⊢
        exact rest _ _ room same front ⟨by rw [target,known.same],by rw [target,known.here],rfl⟩
      · refine again (by omega) _ _ _ long same ⟨?_,?_,rfl⟩
        · change t.target.contents = contents
          rw [target,known.same]
        · change t.target.position - 1 = position
          rw [target,known.here]
          rfl

end

/-! The items of a tape, one after the other. -/

def result : TapeItem → Int
  | .block data => data.length
  | .unreadable => badBlock
  | .filemark => 0

/- What is tried first for the next item. -/
def nextLength (length : Nat) : TapeItem → Nat
  | .block data => data.length
  | .unreadable | .filemark => length

def recorded : TapeItem → Bytes
  | .block data => lengthWord data.length ++ data ++ lengthWord data.length
  | .unreadable => [0x00,0x00,0x00,0x80]
  | .filemark => [0,0,0,0]

def Fits (buf : Bytes) (item : TapeItem) : Prop := ∀ data, item = .block data → data.length ≤ buf.length

def Holds (buf : Bytes) (item : TapeItem) : Prop := ∀ data, item = .block data → buf.take data.length = data

section
variable {length : Nat} {item : TapeItem} {file : Bytes}

/- There are two attempts at most. -/
theorem readItem (known : On contents position length s) (small : length < 2^24) (valid : Valid contents)
    (here : contents[position]? = some item) (overflow : ¬Fits buf item → ∀ t, E .undefinedBehaviour t)
    (rest : ∀ buf' t, buf'.length = buf.length → Fits buf item → Holds buf' item →
      On contents (position+1) (nextLength length item) t → Q (result item,buf') t) :
    wp (readWriteTape (BoardExecutor.virtual i) (attempts+2) buf 0) answer s Q E := by
  unfold readWriteTape
  rw [wpIte]
  refine ⟨fun wrong => absurd rfl wrong,fun _ => ?_⟩
  cases item with
  | filemark =>
    refine readFilemark known rfl small here fun buf' t same known => ?_
    exact rest _ t same (fun _ wrong => by cases wrong) (fun _ wrong => by cases wrong) known
  | unreadable =>
    refine readUnreadable known rfl small here (fun wrong => by cases wrong) fun _ cdb buf' t long same known => ?_
    refine readUnreadable known long small here (fun _ buf' t again known => ?_) fun wrong => by cases wrong
    exact rest _ t (again.trans same) (fun _ wrong => by cases wrong) (fun _ wrong => by cases wrong) known
  | block data =>
    have less := (valid data (List.mem_of_getElem? here)).2
    have full : buf.length < data.length → ¬Fits buf (.block data) := fun more fits =>
      absurd (fits data rfl) (Nat.not_le_of_lt more)
    have fits (room : data.length ≤ buf.length) : Fits buf (.block data) := by
      intro data' same
      cases same
      exact room
    have holds {buf' : Bytes} (front : buf'.take data.length = data) : Holds buf' (.block data) := by
      intro data' same
      cases same
      exact front
    refine readData known rfl small here less (fun more => overflow (full more)) (fun buf' t room same front known => ?_)
      fun _ cdb buf' t long same known => ?_
    · exact rest _ t same (fits room) (holds front) known
    · refine readData known long less here less (fun more => overflow (full (same ▸ more)))
        (fun buf'' t room again front known => ?_) fun wrong => absurd wrong (Nat.lt_irrefl _)
      exact rest _ t (again.trans same) (fits (same ▸ room)) (holds front) known

theorem readNothing (known : On contents position length s) (small : length < 2^24) (none : contents[position]? = none)
    (rest : ∀ buf' t, Q (noMoreData,buf') t) :
    wp (readWriteTape (BoardExecutor.virtual i) (attempts+1) buf 0) answer s Q E := by
  unfold readWriteTape
  rw [wpIte]
  exact ⟨fun wrong => absurd rfl wrong,fun _ => readEnd known rfl small none fun buf' t _ _ => rest buf' t⟩

theorem dumpItem {Q : Bytes → DumpState TapeDrive → Prop} (some : ∀ data, item = .block data → 0 < data.length)
    (fits : Fits buf item) (holds : Holds buf item) (rest : Q (file ++ recorded item) s) :
    wp (S2pDump.dumpObject file buf (result item)) answer s Q E := by
  unfold S2pDump.dumpObject
  simp only [wpIte,wpPure]
  cases item with
  | unreadable => exact ⟨fun _ => rest,fun wrong => absurd rfl wrong⟩
  | filemark => exact ⟨fun wrong => absurd wrong (by decide),fun _ => ⟨fun _ => rest,fun wrong => absurd rfl wrong⟩⟩
  | block data =>
    have some := some data rfl
    have fits := fits data rfl
    have value : result (.block data) = (data.length : Int) := rfl
    rw [value,Int.toNat_natCast]
    refine ⟨fun wrong => ?_,fun _ => ⟨fun wrong => ?_,fun _ => ⟨fun wrong => ?_,fun _ => ?_⟩⟩⟩
    · unfold badBlock at wrong
      omega
    · omega
    · omega
    · unfold writeGoodData
      rw [holds data rfl]
      simpa only [recorded,List.append_assoc] using rest

/- The run of a dump from a position of the tape. -/
theorem dumpFrom {passes : Nat} {remaining : List TapeItem} (valid : Valid contents)
    (left : contents.drop position = remaining) (more : remaining.length < passes) (small : length < 2^24)
    (known : On contents position length s) :
    wp (S2pDump.dumpTape (BoardExecutor.virtual i) (attempts+2) passes buf file) answer s
      (fun written _ => (∀ item ∈ remaining, Fits buf item) ∧ written = file ++ remaining.flatMap recorded)
      fun _ _ => ∃ item ∈ remaining, ¬Fits buf item := by
  induction remaining generalizing position length passes buf file s with
  | nil =>
    obtain ⟨passes,rfl⟩ := Nat.exists_eq_succ_of_ne_zero (Nat.ne_of_gt more)
    have none : contents[position]? = none := List.getElem?_eq_none (List.drop_eq_nil_iff.mp left)
    rw [Nat.succ_eq_add_one,S2pDump.dumpTape,wpBind]
    refine readNothing known small none fun buf' t => ?_
    rw [wpIte,wpPure]
    exact ⟨fun _ => ⟨fun _ wrong => absurd wrong List.not_mem_nil,(List.append_nil _).symm⟩,fun wrong => absurd rfl wrong⟩
  | cons item remaining ih =>
    obtain ⟨passes,rfl⟩ := Nat.exists_eq_succ_of_ne_zero (Nat.ne_of_gt (Nat.lt_of_le_of_lt (Nat.zero_le _) more))
    have here : contents[position]? = some item := by rw [← List.head?_drop,left]; rfl
    have behind : contents.drop (position+1) = remaining := by rw [← List.tail_drop,left]; rfl
    have member := List.mem_of_getElem? here
    rw [Nat.succ_eq_add_one,S2pDump.dumpTape,wpBind]
    refine readItem known small valid here (fun full t => ⟨item,List.mem_cons_self,full⟩) fun buf' t same fits holds known => ?_
    have fits' : Fits buf' item := fun data block => by rw [same]; exact fits data block
    have next : nextLength length item < 2^24 := by
      cases item with
      | block data => exact (valid data member).2
      | unreadable => exact small
      | filemark => exact small
    have goesOn : result item ≠ noMoreData := by
      cases item with
      | block data => exact fun wrong => by cases wrong
      | unreadable => decide
      | filemark => decide
    rw [wpIte]
    refine ⟨fun wrong => absurd wrong goesOn,fun _ => ?_⟩
    rw [wpBind]
    refine dumpItem (fun data block => (valid data (block ▸ member)).1) fits' holds ?_
    refine wpMono (ih behind (Nat.lt_of_succ_lt_succ more) next known) (fun written t complete => ?_) fun e t full => ?_
    · refine ⟨fun other listed => ?_,?_⟩
      · rcases List.mem_cons.mp listed with rfl | later
        · exact fits
        · exact fun data block => same ▸ complete.1 other later data block
      · rw [complete.2,List.flatMap_cons,List.append_assoc]
    · obtain ⟨other,later,full⟩ := full
      exact ⟨other,List.mem_cons_of_mem _ later,fun fits => full fun data block => same.symm ▸ fits data block⟩

end

/-! The file. -/

theorem writtenIff {file : Bytes} (valid : Valid contents) :
    Written i buf contents file ↔ (∀ item ∈ contents, Fits buf item) ∧ file = contents.flatMap recorded := by
  have start : On contents 0 0xffffff { target := { contents } } := ⟨rfl,rfl,rfl⟩
  have run (attempts passes : Nat) (more : contents.length < passes) :
      wp (S2pDump.dumpTape (BoardExecutor.virtual i) (attempts+2) passes buf []) answer { target := { contents } }
        (fun written _ => (∀ item ∈ contents, Fits buf item) ∧ written = [] ++ contents.flatMap recorded)
        fun _ _ => ∃ item ∈ contents, ¬Fits buf item :=
    dumpFrom valid rfl more (by decide) start
  constructor
  · rintro ⟨enough,ran⟩
    have ran := ran (enough + contents.length + 2) (by omega)
    have known := run (enough + contents.length) (enough + contents.length + 2) (by omega)
    unfold wp at known
    split at known
    · next result t same =>
      rw [same] at ran
      cases ran
      exact known
    · next e t same =>
      rw [same] at ran
      cases ran
  · rintro ⟨fits,rfl⟩
    refine ⟨contents.length + 2,fun bound more => ?_⟩
    obtain ⟨attempts,rfl⟩ := Nat.exists_eq_add_of_le' (Nat.le_trans (Nat.le_add_left 2 _) more)
    have known := run attempts (attempts + 2) (by omega)
    unfold wp at known
    split at known
    · next result t same =>
      rw [same,known.2,List.nil_append]
    · next e t same =>
      obtain ⟨item,listed,full⟩ := known
      exact absurd (fits item listed) full

end

/- The object for an item. -/
def objectFor : TapeItem → SimhObject
  | .block data => .record .tapeMarkGoodDataRecord data
  | .unreadable => .badMark
  | .filemark => .filemark

def Even (item : TapeItem) : Prop := ∀ data, item = .block data → data.length % 2 = 0

theorem lengthWordMetaData {length : Nat} (small : length < 2^28) :
    lengthWord length = toLittleEndian ⟨.tapeMarkGoodDataRecord,length⟩ := by
  have code : SimhClass.tapeMarkGoodDataRecord.code = 0 := rfl
  simp only [lengthWord,toLittleEndian,code,Nat.mod_eq_of_lt small,Nat.zero_mul,Nat.zero_add]

theorem objectWellFormed {item : TapeItem} (valid : ∀ data, item = .block data → 0 < data.length ∧ data.length < 2^24) :
    (objectFor item).WellFormed := by
  cases item with
  | block data =>
    obtain ⟨some,small⟩ := valid data rfl
    refine ⟨?_,by omega⟩
    simp only [isRecord,if_true]
    exact decide_eq_true (by omega)
  | unreadable => trivial
  | filemark => trivial

theorem recordedEven {item : TapeItem} (valid : ∀ data, item = .block data → 0 < data.length ∧ data.length < 2^24)
    (even : Even item) : recorded item = (objectFor item).encode := by
  cases item with
  | block data =>
    have none : SimhObject.padding data = [] := by
      unfold SimhObject.padding
      rw [even data rfl,List.replicate_zero]
    have small := (valid data rfl).2
    simp only [recorded,objectFor,SimhObject.encode,SimhObject.body,SimhObject.metaData,none,List.append_nil,
      lengthWordMetaData (by omega : data.length < 2^28),List.append_assoc]
  | unreadable => rfl
  | filemark => rfl

/- A word that is read one byte behind a length. -/
theorem shiftedWord {before : Bytes} {position : Nat} (length : Nat) (after : Bytes) (behind : before.length + 1 = position) :
    ∃ x, slice (before ++ (lengthWord length ++ after)) position metaDataSize ++ List.replicate
        (metaDataSize - (slice (before ++ (lengthWord length ++ after)) position metaDataSize).length) 0 =
      [UInt8.ofNat (length / 256^1),UInt8.ofNat (length / 256^2),UInt8.ofNat (length / 256^3),x] := by
  have word : lengthWord length = [UInt8.ofNat (length / 256^0),UInt8.ofNat (length / 256^1),
    UInt8.ofNat (length / 256^2),UInt8.ofNat (length / 256^3)] := rfl
  have here : slice (before ++ (lengthWord length ++ after)) position metaDataSize =
      ([UInt8.ofNat (length / 256^1),UInt8.ofNat (length / 256^2),UInt8.ofNat (length / 256^3)] ++ after).take 4 := by
    rw [slice,← behind,← List.drop_drop,List.drop_left,word]
    rfl
  rw [here]
  cases after with
  | nil => exact ⟨0,rfl⟩
  | cons x after => exact ⟨x,rfl⟩

theorem shiftedDiffers {a b c x : Nat} (a8 : a < 2^8) (b8 : b < 2^8) (c8 : c < 2^8)
    (odd : (a + b * 256 + c * 65536) % 2 = 1) :
    ((x * 2^8 + 0) * 2^16 + (c * 2^8 + b)) % 2^28 ≠ a + b * 256 + c * 65536 := by
  have top : ((x * 2^8 + 0) * 2^16 + (c * 2^8 + b)) % 2^28 = x % 16 * 2^24 + (c * 2^8 + b) := by omega
  rw [top]
  omega

theorem shiftedValue {length : Nat} {x : UInt8} (small : length < 2^24) (odd : length % 2 = 1) :
    (fromLittleEndian [UInt8.ofNat (length / 256^1),UInt8.ofNat (length / 256^2),UInt8.ofNat (length / 256^3),x]).value ≠
      length := by
  obtain ⟨a,b,c,a8,b8,c8,split⟩ : ∃ a b c, a < 2^8 ∧ b < 2^8 ∧ c < 2^8 ∧ length = a + b * 256 + c * 65536 :=
    ⟨length % 256,length / 256 % 256,length / 65536,by omega,by omega,by omega,by omega⟩
  have first : length / 256^1 % 2^8 = b := by omega
  have second : length / 256^2 % 2^8 = c := by omega
  have third : length / 256^3 % 2^8 = 0 := by omega
  simp only [fromLittleEndian,getInt32,getInt16,byteAt,List.reverse_cons,List.reverse_nil,List.nil_append,List.cons_append,
    List.getD_cons_succ,List.getD_cons_zero,UInt8.toNat_ofNat',first,second,third]
  exact fun same => shiftedDiffers a8 b8 c8 (split ▸ odd) (same.trans split)

/- Behind a block of odd length the analyzer looks for the length one byte too late. -/
theorem oddBlock {data before after : Bytes} {fuel : Nat} (small : data.length < 2^24) (odd : data.length % 2 = 1) :
    S2pSimh.analyzeFrom 0 (before ++ (recorded (.block data) ++ after)) (fuel+1) before.length = none := by
  have word := lengthWordMetaData (by omega : data.length < 2^28)
  have front : before ++ (recorded (.block data) ++ after) =
      before ++ (toLittleEndian ⟨.tapeMarkGoodDataRecord,data.length⟩ ++ (data ++ (lengthWord data.length ++ after))) := by
    rw [← word]
    simp only [recorded,List.append_assoc]
  have back : before ++ (recorded (.block data) ++ after) =
      (before ++ lengthWord data.length ++ data) ++ (lengthWord data.length ++ after) := by
    simp only [recorded,List.append_assoc]
  have inside : ¬(before ++ (recorded (.block data) ++ after)).length ≤ before.length := by
    rw [front,List.length_append,List.length_append,toLittleEndianLength]
    unfold metaDataSize
    omega
  have metaData : readMetaData (some (before ++ (recorded (.block data) ++ after))) before.length =
      some ⟨.tapeMarkGoodDataRecord,data.length⟩ := by
    rw [front]
    exact readMetaDataAt (m := ⟨.tapeMarkGoodDataRecord,data.length⟩) (by omega : data.length < 2^28) before _
  have more : S2pSimh.isEnd ⟨.tapeMarkGoodDataRecord,data.length⟩ = false := rfl
  have good : (SimhObject.record .tapeMarkGoodDataRecord data).WellFormed :=
    ⟨decide_eq_true (by omega : data.length ≠ 0),by omega⟩
  have record := S2pSimh.recordIsNoMark good
  have position : (before ++ lengthWord data.length ++ data).length + 1 =
      before.length + metaDataSize + pad data.length := by
    simp only [List.length_append,word,toLittleEndianLength,pad,odd]
    omega
  have wrong : (S2pSimh.readWord (before ++ (recorded (.block data) ++ after))
      (before.length + metaDataSize + pad data.length)).value ≠ data.length := by
    obtain ⟨x,shifted⟩ := shiftedWord data.length after position
    rw [back]
    unfold S2pSimh.readWord
    dsimp only
    rw [shifted]
    exact shiftedValue small odd
  have failed : S2pSimh.printRecord 0 (before ++ (recorded (.block data) ++ after)) (before.length + metaDataSize)
      ⟨.tapeMarkGoodDataRecord,data.length⟩ = none := by
    unfold S2pSimh.printRecord S2pSimh.dumpRecord
    simp only [reduceCtorEq,false_and,if_false,if_true,bind,Option.bind,ne_eq,wrong,not_false_eq_true]
  rw [S2pSimh.analyzeFrom]
  simp only [inside,if_false,metaData,more,record,failed,bind,Option.bind,Bool.false_eq_true]

/- An analysis with a result has passed blocks of even lengths only. -/
theorem analyzedEven {contents : List TapeItem} {before : Bytes} {fuel : Nat} (valid : Valid contents)
    (found : S2pSimh.analyzeFrom 0 (before ++ contents.flatMap recorded) fuel before.length ≠ none) :
    ∀ item ∈ contents, Even item := by
  induction contents generalizing before fuel with
  | nil => exact fun _ wrong => absurd wrong List.not_mem_nil
  | cons item contents ih =>
    have first (data : Bytes) (block : item = .block data) := valid data (List.mem_cons.mpr (.inl block.symm))
    have later : Valid contents := fun data listed => valid data (List.mem_cons_of_mem _ listed)
    cases fuel with
    | zero => exact absurd rfl found
    | succ fuel =>
      have even : Even item := by
        intro data block
        refine Nat.mod_two_ne_one.mp fun odd => found ?_
        rw [List.flatMap_cons,block]
        exact oddBlock (first data block).2 odd
      have step := @S2pSimh.analyzeObject 0 before (contents.flatMap recorded) _ _ fuel (objectWellFormed first) rfl
      rw [List.flatMap_cons,recordedEven first even,step,← List.append_assoc] at found
      have rest := @ih (before ++ (objectFor item).encode) _ later fun none => found (by rw [none]; rfl)
      intro other listed
      rcases List.mem_cons.mp listed with rfl | listed
      · exact even
      · exact rest other listed

/- The image that has been written if all lengths are even. -/
def image (tape : RecordedTape) : SimhImage where
  objects := tape.contents.map objectFor
  wellFormed := by
    intro o listed
    obtain ⟨item,member,rfl⟩ := List.mem_map.mp listed
    exact objectWellFormed fun data block => tape.valid data (block ▸ member)

theorem imageContents (tape : RecordedTape) : (image tape).contents = tape.contents := by
  have item (item : TapeItem) : (objectFor item).item = some item := by cases item <;> rfl
  simp only [SimhImage.contents,image,List.filterMap_map,Function.comp_def,item,List.filterMap_some]

theorem imagePrinted (limit : Nat) (tape : RecordedTape) :
    (image tape).objects.map (S2pSimh.printed limit) = tape.contents.map (printedItem limit) := by
  have printed (item : TapeItem) : S2pSimh.printed limit (objectFor item) = printedItem limit item := by cases item <;> rfl
  simp only [image,List.map_map,Function.comp_def,printed]

theorem imageBytes {tape : RecordedTape} (even : ∀ item ∈ tape.contents, Even item) :
    tape.contents.flatMap recorded = (image tape).bytes := by
  have same : tape.contents.flatMap recorded = tape.contents.flatMap fun item => (objectFor item).encode :=
    List.flatMap_congr fun item listed => recordedEven (fun data block => tape.valid data (block ▸ listed)) (even item listed)
  simp only [same,image,SimhImage.bytes,SimhImage.bytesOf,SimhEnd.encode,List.append_nil,List.flatMap_map]

theorem foundAgainIff (tape : RecordedTape) :
    FoundAgain (tape.contents.flatMap recorded) tape.contents ↔ ∀ item ∈ tape.contents, Even item := by
  constructor
  · intro found
    have analyzed := found.2 0
    refine @analyzedEven _ [] ((tape.contents.flatMap recorded).length + 1) tape.valid fun none => ?_
    exact absurd (analyzed.symm.trans none) (fun wrong => by cases wrong)
  · intro even
    rw [imageBytes even]
    refine ⟨?_,fun limit => ?_⟩
    · rw [Tape.scanImage,imageContents]
    · rw [S2pSimh.analyzeImage,imagePrinted]

/- A tape is found again in the file just if its blocks have an even length and fit into the buffer. -/
theorem dumpWellFormed (i : BoardExecutor.Initiator) (buf : Bytes) (tape : RecordedTape) :
    (∃ file, Written i buf tape.contents file ∧ FoundAgain file tape.contents) ↔
      ∀ data, .block data ∈ tape.contents → data.length % 2 = 0 ∧ data.length ≤ buf.length := by
  constructor
  · rintro ⟨file,written,found⟩ data listed
    obtain ⟨fits,rfl⟩ := (writtenIff tape.valid).mp written
    exact ⟨(foundAgainIff tape).mp found _ listed data rfl,fits _ listed data rfl⟩
  · intro good
    refine ⟨tape.contents.flatMap recorded,(writtenIff tape.valid).mpr ⟨fun item listed data block => ?_,rfl⟩,
      (foundAgainIff tape).mpr fun item listed data block => ?_⟩
    · exact (good data (block ▸ listed)).2
    · exact (good data (block ▸ listed)).1

def oneByte : RecordedTape where
  contents := [.block [0x2a]]
  valid := by
    intro data listed
    cases List.mem_singleton.mp listed
    decide

/- The analyzer does not accept the file for a block with one byte. -/
theorem oneByteNotFound : ¬∀ (i : BoardExecutor.Initiator) (buf : Bytes) (tape : RecordedTape), 2^20 ≤ buf.length →
    ∃ file, Written i buf tape.contents file ∧ FoundAgain file tape.contents := by
  intro claimed
  obtain ⟨file,written,found⟩ := claimed {} (List.replicate (2^20) 0) oneByte (by rw [List.length_replicate])
  obtain ⟨-,rfl⟩ := (writtenIff oneByte.valid).mp written
  have even := (foundAgainIff oneByte).mp found _ List.mem_cons_self _ rfl
  exact absurd even (by decide)

end TapeDump
end Scsi2Pi
