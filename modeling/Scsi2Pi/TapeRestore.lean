import Scsi2Pi.S2pDump
import Scsi2Pi.TapeScan

/-! Restoring a tape: what a drive has got when the image file has been read, and for
which images these are the blocks and filemarks that the scanner delivers. -/
namespace Scsi2Pi
open Slices MemoryUtil SimhUtil Eff DumpEff

/- A drive with a tape that is written. -/
structure RecordingDrive where
  written : List TapeItem := []

namespace RecordingDrive

def write (drive : RecordingDrive) (data : Bytes) : RecordingDrive :=
  if data = [] then drive else { written := drive.written ++ [.block data] }

def writeFilemarks (drive : RecordingDrive) (count : Nat) : RecordingDrive :=
  { written := drive.written ++ List.replicate count .filemark }

/- The drive takes as many bytes as the CDB says. -/
def answer : Target RecordingDrive := fun drive cdb dataOut =>
  let count := getInt24 cdb 2
  if cdb.getD 0 0 = ScsiCommand.write6 then ({ taken := min count dataOut.length },drive.write (dataOut.take count))
  else if cdb.getD 0 0 = ScsiCommand.writeFilemarks6 then ({},drive.writeFilemarks count)
  else ({},drive)

end RecordingDrive

namespace TapeRestore
open S2pDumpExecutor RecordingDrive

/- The drive has got these items when the restore has ended, whatever the bound of the loop,
if it is large enough. -/
def Restored (i : BoardExecutor.Initiator) (buf file : Bytes) (items : List TapeItem) : Prop :=
  ∃ enough, ∀ bound, enough ≤ bound → ∃ t,
    S2pDump.restoreTape (BoardExecutor.virtual i) file bound 0 buf answer { target := {} } = (.ok (),t) ∧
      t.target.written = items

/- The blocks and filemarks. -/
def recordedItems (items : List TapeItem) : List TapeItem := items.filter fun item => item ≠ .unreadable

/- The drive gets what the scanner of the tape device delivers. -/
def Replayed (i : BoardExecutor.Initiator) (buf file : Bytes) : Prop :=
  ∃ items, Tape.scan file = some items ∧ Restored i buf file (recordedItems items)

/- A record that can be replayed. The pad byte of the last one does not matter if there is
nothing behind it. -/
def Replayable (cls : SimhClass) (data : Bytes) (last : Prop) : Prop :=
  (cls = .tapeMarkGoodDataRecord ∨ cls = .badDataRecord) ∧ data.length < 2^24 ∧ (data.length % 2 = 0 ∨ last)

/- All records can be replayed, and there is no object behind the end of the data. -/
def ReplayableImage (image : SimhImage) : Prop :=
  (∀ before cls data after, image.objects = before ++ .record cls data :: after →
    Replayable cls data (after = [] ∧ image.ending.encode = [])) ∧
  ∀ stale, image.ending = .endOfData stale → stale.length < metaDataSize

section
variable {i : BoardExecutor.Initiator} {s : DumpState RecordingDrive} {E : DumpException → DumpState RecordingDrive → Prop}

/- The drive has the items. -/
def Has (items : List TapeItem) (s : DumpState RecordingDrive) : Prop := s.target.written = items

theorem wpWriteFilemark {items : List TapeItem} {Q : Nat → DumpState RecordingDrive → Prop} (known : Has items s)
    (rest : ∀ t, Has (items ++ [.filemark]) t → Q 0 t) :
    wp (S2pDumpExecutor.writeFilemark (BoardExecutor.virtual i)) answer s Q E := by
  have opcode : (BoardExecutor.encodeLun i ((S2pDumpExecutor.setInt24 (newCdb 6 .writeFilemarks6) 2 (1 : Nat)).set 0
      ScsiCommand.writeFilemarks6)).getD 0 0 = ScsiCommand.writeFilemarks6 := by
    rw [BoardExecutor.encodedOpcode]
    rfl
  have asked : answer s.target (BoardExecutor.encodeLun i ((S2pDumpExecutor.setInt24 (newCdb 6 .writeFilemarks6) 2
      (1 : Nat)).set 0 ScsiCommand.writeFilemarks6)) [] = ({},s.target.writeFilemarks 1) := by
    unfold answer
    rw [if_neg (by rw [opcode]; decide),if_pos opcode,BoardExecutor.lengthInCdb rfl (by decide)]
  have fits : BoardExecutor.answers {} 0 := ⟨Nat.le_refl _,.inl rfl⟩
  unfold S2pDumpExecutor.writeFilemark BoardExecutor.virtual BoardExecutor.execute
  simp only [wpBind,wpSend,wpReceive,wpPure,List.take_nil]
  have one : (1 : Int) = ((1 : Nat) : Int) := rfl
  rw [one,asked]
  simp only [if_pos fits,List.take_nil]
  refine ⟨fun full => absurd full (Nat.not_lt_zero _),fun _ => rest _ ?_⟩
  exact congrArg (· ++ [TapeItem.filemark]) known

theorem wpWriteBlock {items : List TapeItem} {data : Bytes} {attempts : Nat} {Q : Int × Bytes → DumpState RecordingDrive → Prop}
    (some : data ≠ []) (small : data.length < 2^24) (known : Has items s)
    (rest : ∀ buf t, Has (items ++ [.block data]) t → Q (data.length,buf) t) :
    wp (readWriteTape (BoardExecutor.virtual i) attempts data data.length) answer s Q E := by
  have opcode : (BoardExecutor.encodeLun i ((S2pDumpExecutor.setInt24 (List.replicate 6 0) 2 data.length).set 0
      ScsiCommand.write6)).getD 0 0 = ScsiCommand.write6 := by
    rw [BoardExecutor.encodedOpcode]
    rfl
  have asked : answer s.target (BoardExecutor.encodeLun i ((S2pDumpExecutor.setInt24 (List.replicate 6 0) 2
      data.length).set 0 ScsiCommand.write6)) data = ({ taken := data.length },{ written := items ++ [.block data] }) := by
    unfold answer
    rw [if_pos opcode,BoardExecutor.lengthInCdb rfl small,Nat.min_self,List.take_length]
    unfold RecordingDrive.write
    rw [if_neg some,known]
  have fits : BoardExecutor.answers { taken := data.length } data.length := ⟨Nat.zero_le _,.inr rfl⟩
  have length : data.length ≠ 0 := fun none => some (List.length_eq_zero_iff.mp none)
  unfold readWriteTape
  rw [wpIte]
  refine ⟨fun _ => ?_,fun wrong => absurd length wrong⟩
  unfold BoardExecutor.virtual BoardExecutor.execute Executed.failed Executed.map
  simp only [wpBind,wpSend,wpReceive,wpPure,wpIte,wpThrow,List.take_length,asked,if_pos fits,List.take_nil]
  exact ⟨fun full => absurd full (Nat.not_lt_zero _),fun _ => ⟨(fun wrong => by cases wrong),fun _ => rest _ _ rfl⟩⟩

/-! The loop, object after object. -/

variable {objects : List SimhObject} {ending : SimhEnd} {before buf file : Bytes} {passes : Nat} {items : List TapeItem}
  {Q : Unit → DumpState RecordingDrive → Prop}

theorem resizedRecord (buf data : Bytes) : setBytes (S2pDump.resize buf data.length) 0 data = data := by
  have length : (S2pDump.resize buf data.length).length = data.length := by
    simp only [S2pDump.resize,List.length_append,List.length_take,List.length_replicate]
    omega
  simp [setBytes,overwrite,length]

/- Something that is not on the tape: the next word is that behind. -/
theorem restoreOther {m : SimhMetaData} {position : Nat} (word : readMetaData (some file) position = some m)
    (more : ¬(m.cls = .reservedMarker ∧ m.value = endOfMedium)) (mark : ¬(m.cls = .tapeMarkGoodDataRecord ∧ m.value = 0))
    (data : ¬((m.cls = .tapeMarkGoodDataRecord ∨ m.cls = .badDataRecord) ∧ m.value ≠ 0))
    (rest : wp (S2pDump.restoreTape (BoardExecutor.virtual i) file passes (position + metaDataSize) buf) answer s Q E) :
    wp (S2pDump.restoreTape (BoardExecutor.virtual i) file (passes+1) position buf) answer s Q E := by
  rw [S2pDump.restoreTape,word]
  simp only [more,mark,data,if_false]
  exact rest

theorem restoreFilemark {position : Nat} (word : readMetaData (some file) position = some ⟨.tapeMarkGoodDataRecord,0⟩)
    (known : Has items s)
    (rest : ∀ t, Has (items ++ [.filemark]) t →
      wp (S2pDump.restoreTape (BoardExecutor.virtual i) file passes (position + metaDataSize) buf) answer t Q E) :
    wp (S2pDump.restoreTape (BoardExecutor.virtual i) file (passes+1) position buf) answer s Q E := by
  rw [S2pDump.restoreTape,word]
  simp only [reduceCtorEq,false_and,if_false,and_self,if_true,wpBind]
  refine wpWriteFilemark known fun t known => ?_
  rw [wpIte]
  exact ⟨fun wrong => absurd rfl wrong,fun _ => rest t known⟩

theorem restoreRecord {cls : SimhClass} {data : Bytes} {position : Nat}
    (word : readMetaData (some file) position = some ⟨cls,data.length⟩)
    (kind : cls = .tapeMarkGoodDataRecord ∨ cls = .badDataRecord) (some : data ≠ []) (small : data.length < 2^24)
    (here : slice file (position + metaDataSize) data.length = data) (known : Has items s)
    (rest : ∀ buf t, Has (items ++ [.block data]) t →
      wp (S2pDump.restoreTape (BoardExecutor.virtual i) file passes
        (position + metaDataSize + data.length + metaDataSize) buf) answer t Q E) :
    wp (S2pDump.restoreTape (BoardExecutor.virtual i) file (passes+1) position buf) answer s Q E := by
  have length : data.length ≠ 0 := fun none => some (List.length_eq_zero_iff.mp none)
  have more : ¬(cls = .reservedMarker ∧ data.length = endOfMedium) := by
    rintro ⟨rfl,-⟩
    rcases kind with wrong | wrong <;> cases wrong
  rw [S2pDump.restoreTape,word]
  simp only [more,length,kind,and_false,if_false,ne_eq,not_false_eq_true,and_self,if_true,here,resizedRecord,wpBind]
  refine wpWriteBlock some small known fun buf t known => ?_
  simp only [wpIte,wpBind,wpThrow]
  exact ⟨fun wrong => absurd trivial wrong,fun _ => ⟨fun wrong => absurd wrong (Nat.lt_irrefl _),fun _ => rest buf t known⟩⟩

theorem restoreBehind {position : Nat} (behind : file.length < position + metaDataSize) (rest : Q () s) :
    wp (S2pDump.restoreTape (BoardExecutor.virtual i) file (passes+1) position buf) answer s Q E := by
  rw [S2pDump.restoreTape,readMetaDataBehind (Int.natCast_nonneg _) (by omega)]
  exact rest

theorem restoreEnd (stale : ∀ stale, ending = .endOfData stale → stale.length < metaDataSize) (enough : 1 < passes)
    (rest : Q () s) :
    wp (S2pDump.restoreTape (BoardExecutor.virtual i) (before ++ ending.encode) passes before.length buf) answer s Q E := by
  obtain ⟨passes,rfl⟩ := Nat.exists_eq_add_of_le' enough
  have word := endMetaData ending before
  cases ending with
  | endOfFile =>
    refine restoreBehind ?_ rest
    simp only [SimhEnd.encode,List.append_nil,metaDataSize]
    omega
  | endOfMedium behind =>
    rw [S2pDump.restoreTape,word]
    exact rest
  | endOfData behind =>
    refine restoreOther (m := ⟨.privateMarker,endOfDataValue⟩) word (by decide) (by decide) (by decide) (restoreBehind ?_ rest)
    have short := stale behind rfl
    simp only [SimhEnd.encode,List.length_append,toLittleEndianLength]
    omega

def found (o : SimhObject) : List TapeItem := recordedItems o.item.toList

theorem foundRecord {cls : SimhClass} {data : Bytes} (kind : cls = .tapeMarkGoodDataRecord ∨ cls = .badDataRecord) :
    found (.record cls data) = [.block data] := by
  have item : (SimhObject.record cls data).item = some (.block data) := if_pos kind
  rw [found,item]
  rfl

theorem foundCons (o : SimhObject) (objects : List SimhObject) :
    recordedItems ((o :: objects).filterMap SimhObject.item) = found o ++ recordedItems (objects.filterMap SimhObject.item) := by
  unfold found recordedItems
  rw [List.filterMap_cons,← List.filter_append]
  cases o.item <;> rfl

/- An object is restored, and the next one follows. Only behind a record of odd length the
stream is elsewhere, and nothing more is read. -/
theorem restoreObject {o : SimhObject} {after : Bytes} (good : o.WellFormed)
    (replayable : ∀ cls data, o = .record cls data → Replayable cls data (after = []))
    (whole : file = before ++ (o.encode ++ after)) (known : Has items s)
    (last : after = [] → ∀ t, Has (items ++ found o) t → Q () t)
    (rest : ∀ buf t, Has (items ++ found o) t →
      wp (S2pDump.restoreTape (BoardExecutor.virtual i) file (passes+1) (before ++ o.encode).length buf) answer t Q E) :
    wp (S2pDump.restoreTape (BoardExecutor.virtual i) file (passes+2) before.length buf) answer s Q E := by
  have word : readMetaData (some file) before.length = some o.metaData := by
    rw [whole]
    exact SimhObject.metaDataAt good before after
  have next (bare : o.body = []) : (before ++ o.encode).length = before.length + metaDataSize := by
    rw [List.length_append,SimhObject.encode,bare,List.append_nil,toLittleEndianLength]
  have nothing (none : found o = []) (known : Has items s) : Has (items ++ found o) s := by
    rw [none,List.append_nil]
    exact known
  cases o with
  | filemark =>
    rw [next rfl] at rest
    exact restoreFilemark word known fun t known => rest _ t known
  | badMark =>
    rw [next rfl] at rest
    exact restoreOther (m := ⟨.badDataRecord,0⟩) word (by decide) (by decide) (by decide) (rest _ s (nothing rfl known))
  | marker cls value =>
    rw [next rfl] at rest
    refine restoreOther word ?_ ?_ ?_ (rest _ s (nothing rfl known))
    · rintro ⟨rfl,medium⟩
      rcases good.2 with ⟨wrong,-⟩ | ⟨-,other⟩
      · cases wrong
      · exact other medium
    · rintro ⟨rfl,-⟩
      rcases good.2 with ⟨wrong,-⟩ | ⟨wrong,-⟩ <;> cases wrong
    · rintro ⟨wrong | wrong,-⟩ <;>
      · cases wrong
        rcases good.2 with ⟨wrong,-⟩ | ⟨wrong,-⟩ <;> cases wrong
  | record cls data =>
    obtain ⟨kind,small,parity⟩ := replayable cls data rfl
    obtain ⟨here,-,behind,-⟩ := SimhObject.recordParts whole
    have some : data ≠ [] := by
      rintro rfl
      rcases kind with rfl | rfl <;> exact absurd good.1 (by decide)
    rw [foundRecord kind] at last rest
    refine restoreRecord word kind some small here known fun buf t known => ?_
    by_cases even : data.length % 2 = 0
    · have position : before.length + metaDataSize + data.length + metaDataSize =
          (before ++ (SimhObject.record cls data).encode).length := by
        rw [behind,pad,even,Nat.add_zero]
      rw [position]
      exact rest buf t known
    · have none := parity.resolve_left even
      refine restoreBehind ?_ (last none t known)
      rw [whole,none,List.append_nil,behind,pad]
      unfold metaDataSize
      omega

theorem restoreFrom (good : ∀ o ∈ objects, o.WellFormed)
    (replayable : ∀ front cls data after, objects = front ++ .record cls data :: after →
      Replayable cls data (after = [] ∧ ending.encode = []))
    (stale : ∀ stale, ending = .endOfData stale → stale.length < metaDataSize) (enough : objects.length + 1 < passes)
    (known : Has items s) :
    wp (S2pDump.restoreTape (BoardExecutor.virtual i) (before ++ SimhImage.bytesOf objects ending) passes before.length buf)
      answer s (fun _ t => Has (items ++ recordedItems (objects.filterMap SimhObject.item)) t) fun _ _ => False := by
  induction objects generalizing before items buf s passes with
  | nil =>
    refine restoreEnd stale enough ?_
    exact (List.append_nil items).symm ▸ known
  | cons o objects ih =>
    obtain ⟨passes,rfl⟩ := Nat.exists_eq_add_of_le' (by omega : 2 ≤ passes)
    rw [SimhImage.bytesCons]
    refine restoreObject (good o List.mem_cons_self) (fun cls data same => ?_) rfl known (fun none t known => ?_)
      fun buf t known => ?_
    · have whole := replayable [] cls data objects (by rw [same]; rfl)
      refine ⟨whole.1,whole.2.1,whole.2.2.imp id fun last => ?_⟩
      rw [last.1]
      exact last.2
    · have fit := SimhImage.objectsFit objects ending
      rw [none,List.length_nil,Nat.le_zero,List.length_eq_zero_iff] at fit
      rw [fit,foundCons]
      exact (List.append_nil _).symm ▸ known
    · rw [foundCons,← List.append_assoc,← List.append_assoc]
      refine ih (fun o listed => good o (List.mem_cons_of_mem _ listed)) (fun front cls data after same => ?_)
        (by rw [List.length_cons] at enough; omega) known
      exact replayable (o :: front) cls data after (by rw [same]; rfl)

/- An image is replayed if its records are all those of blocks, with even lengths a WRITE(6) can
have, and if nothing follows the end of the data. -/
theorem restoreReplays (i : BoardExecutor.Initiator) (buf : Bytes) (image : SimhImage) (good : ReplayableImage image) :
    Replayed i buf image.bytes := by
  refine ⟨image.contents,Tape.scanImage image,image.objects.length + 2,fun bound more => ?_⟩
  have start : Has [] { target := {} } := rfl
  have run : wp (S2pDump.restoreTape (BoardExecutor.virtual i) ([] ++ image.bytes) bound 0 buf) answer { target := {} }
      (fun _ t => Has ([] ++ recordedItems (image.objects.filterMap SimhObject.item)) t) fun _ _ => False :=
    restoreFrom image.wellFormed good.1 good.2 (Nat.lt_of_succ_lt_succ (Nat.lt_succ_of_le more)) start
  unfold wp at run
  split at run
  · next result t same => exact ⟨t,same,run⟩
  · exact run.elim

/- A block and a filemark. -/
def shortImage : SimhImage where
  objects := [.record .tapeMarkGoodDataRecord [0x2a,0x2b],.filemark]
  wellFormed := by
    intro o listed
    rcases List.mem_cons.mp listed with rfl | listed
    · exact ⟨rfl,by decide⟩
    · cases List.mem_singleton.mp listed
      trivial

theorem shortImageReplayed : Replayed {} [] shortImage.bytes := by
  refine restoreReplays {} [] shortImage ⟨fun front cls data after same => ?_,fun stale wrong => by cases wrong⟩
  rcases front with _ | ⟨o,_ | ⟨o',front⟩⟩
  · cases same
    exact ⟨.inl rfl,by decide,.inl rfl⟩
  · cases same
  · have length := congrArg List.length same
    simp only [shortImage,List.length_cons,List.length_append,List.length_nil] at length
    omega

/- Behind the end of the data there is a filemark from an earlier use of the tape. -/
def staleImage : SimhImage where
  objects := [.filemark]
  ending := .endOfData [0,0,0,0]
  wellFormed := by
    intro o listed
    cases List.mem_singleton.mp listed
    trivial

theorem staleFilemarkRestored : ¬∀ (i : BoardExecutor.Initiator) (buf : Bytes) (image : SimhImage),
    Replayed i buf image.bytes := by
  intro claimed
  obtain ⟨items,scanned,enough,ran⟩ := claimed {} [] staleImage
  rw [Tape.scanImage] at scanned
  cases scanned
  obtain ⟨t,ran,written⟩ := ran (enough + 4) (Nat.le_add_right _ _)
  have words : readMetaData (some staleImage.bytes) 0 = some ⟨.tapeMarkGoodDataRecord,0⟩ ∧
      readMetaData (some staleImage.bytes) 4 = some ⟨.privateMarker,endOfDataValue⟩ ∧
      readMetaData (some staleImage.bytes) 8 = some ⟨.tapeMarkGoodDataRecord,0⟩ ∧ staleImage.bytes.length < 12 + 4 := by
    decide +kernel
  have run : wp (S2pDump.restoreTape (BoardExecutor.virtual {}) staleImage.bytes (enough + 4) 0 []) answer { target := {} }
      (fun _ t => Has [.filemark,.filemark] t) fun _ _ => False := by
    have start : Has [] { target := {} } := rfl
    refine restoreFilemark words.1 start fun t known => ?_
    refine restoreOther (m := ⟨.privateMarker,endOfDataValue⟩) words.2.1 (by decide) (by decide) (by decide) ?_
    refine restoreFilemark words.2.2.1 known fun t known => ?_
    exact restoreBehind (show staleImage.bytes.length < 12 + metaDataSize from words.2.2.2) known
  have twice := wpOk run ran
  rw [Has,written] at twice
  cases twice

end
end TapeRestore
end Scsi2Pi
