import Scsi2Pi.SimhImage
import Scsi2Pi.TapeOverflow

/-! Long ERASE and FORMAT MEDIUM: which bytes of the image file they write, and that the
tape is empty afterwards. -/
namespace Scsi2Pi
open Slices MemoryUtil Handler Derives Eff SimhUtil

namespace Tape

/- No byte outside of a range is changed. -/
structure WrittenIn (low high : Nat) (file file' : Bytes) : Prop where
  grows : file.length ≤ file'.length
  same : ∀ i, i < low ∨ high ≤ i → file'[i]? = file[i]?

theorem WrittenIn.none {low high : Nat} (file : Bytes) : WrittenIn low high file file :=
  ⟨Nat.le_refl _,fun _ _ => rfl⟩

theorem WrittenIn.trans {low middle high : Nat} {a b c : Bytes} (first : WrittenIn low middle a b)
    (second : WrittenIn middle high b c) (order : low ≤ middle) (order' : middle ≤ high) : WrittenIn low high a c := by
  refine ⟨Nat.le_trans first.grows second.grows,fun i outside => ?_⟩
  rw [second.same i (by omega),first.same i (by omega)]

theorem overwriteOutside (data : Bytes) {file : Bytes} {start : Nat} (inside : start ≤ file.length) :
    WrittenIn start (start + data.length) file (overwrite 0 file start data) := by
  have none : start - file.length = 0 := by omega
  have front : (file.take start).length = start := by
    rw [List.length_take]
    omega
  have whole : overwrite 0 file start data = file.take start ++ data ++ file.drop (start + data.length) := by
    simp only [overwrite,none,List.replicate_zero,List.append_nil]
  rw [whole]
  refine ⟨?_,fun i outside => ?_⟩
  · simp only [List.length_append,List.length_drop,front]
    omega
  · by_cases before : i < start
    · rw [List.append_assoc,List.getElem?_append_left (by omega),List.getElem?_take,if_pos before]
    · have behind : (file.take start ++ data).length = start + data.length := by rw [List.length_append,front]
      rw [List.getElem?_append_right (by omega),behind,List.getElem?_drop]
      congr 1
      omega

theorem overwriteLonger (data : Bytes) {file : Bytes} {start : Nat} (inside : start ≤ file.length) :
    start + data.length ≤ (overwrite 0 file start data).length := by
  simp only [overwrite,List.length_append,List.length_take,List.length_replicate,List.length_drop]
  omega

section
variable {r : Request} {s t : HandlerState Tape} {position : Int} {file : Bytes} {E : ScsiException → HandlerState Tape → Prop}

/- The maximum has room for a word if the file has, see openSized. -/
def Sized (d : Tape) : Prop := metaDataSize ≤ d.fileSize → metaDataSize ≤ d.maxFileSize

/- Only the position and the image file differ. -/
structure Holds (s : HandlerState Tape) (position : Int) (file : Bytes) (t : HandlerState Tape) : Prop where
  device : ∃ location, t.device = { s.device with tapePosition := position, objectLocation := location }
  transfer : t.transfer = s.transfer
  world : t.world = { s.world with files := Function.update s.world.files s.device.filename (some file) }

theorem wpWriteHeld {data : Bytes} {Q : Unit → HandlerState Tape → Prop} (isOpen : s.device.isOpen = true)
    (valid : 0 ≤ position) (known : Holds s position file t)
    (rest : ∀ u, Holds s position (overwrite 0 file position.toNat data) u → Q () u) : wp (writeFile data) r t Q E := by
  obtain ⟨location,device⟩ := known.device
  have here : t.world.files s.device.filename = some file := by
    rw [known.world]
    exact Function.update_self ..
  unfold writeFile
  simp only [wpBind,wpGetDevice,wpGetWorld,wpIte,wpThrow]
  rw [device]
  refine ⟨fun wrong => ?_,fun _ => ?_⟩
  · rcases wrong with closed | negative
    · simp only [isOpen,Bool.not_true,Bool.false_eq_true] at closed
    · exact absurd valid (Int.not_le.mpr negative)
  · rw [FileSystem.writeAtFile here]
    refine rest _ ⟨⟨location,device⟩,known.transfer,?_⟩
    rw [known.world]
    dsimp only
    rw [Function.update_idem]

theorem eraseLength (length : Nat) : (erasePattern length).length = length := by
  have four : gap.length = 4 := toLittleEndianLength _
  unfold erasePattern
  rw [List.length_take,List.length_flatten,List.map_replicate,List.sum_replicate_nat,four]
  omega

/- Chunk after chunk, up to the last three bytes. -/
theorem wpEraseChunks (isOpen : s.device.isOpen = true) {fuel remaining start : Nat} (inside : start ≤ file.length)
    (known : Holds s start file t) :
    wp (eraseChunks fuel remaining) r t
      (fun _ u => ∃ stop file', Holds s stop file' u ∧ WrittenIn start (start + remaining) file file') E := by
  induction fuel generalizing remaining start file t with
  | zero => exact ⟨start,file,known,.none file⟩
  | succ fuel ih =>
    rw [eraseChunks,wpIte]
    refine ⟨fun _ => ⟨start,file,known,.none file⟩,fun room => ?_⟩
    rw [wpBind]
    refine wpWriteHeld isOpen (Int.natCast_nonneg _) known fun u known => ?_
    rw [Int.toNat_natCast] at known
    have written := overwriteOutside (erasePattern (min remaining 4096)) inside
    have length := overwriteLonger (erasePattern (min remaining 4096)) inside
    rw [eraseLength] at written length
    obtain ⟨location,device⟩ := known.device
    rw [wpBind]
    change wp _ r { u with device := { u.device with tapePosition := u.device.tapePosition + (min remaining 4096 : Nat) } } _ E
    rw [wpBind,wpModifyDevice]
    have next : Holds s (start + min remaining 4096 : Nat) (overwrite 0 file start (erasePattern (min remaining 4096)))
        { u with device := { u.device with
          tapePosition := u.device.tapePosition + (min remaining 4096 : Nat)
          objectLocation := u.device.objectLocation + (min remaining 4096 / u.device.blockSize : Nat) } } := by
      refine ⟨⟨location + (min remaining 4096 / s.device.blockSize : Nat),?_⟩,known.transfer,known.world⟩
      rw [device]
      push_cast
      rfl
    refine wpMono (ih length next) (fun _ v ended => ?_) fun _ _ failed => failed
    obtain ⟨stop,file',known,rest⟩ := ended
    refine ⟨stop,file',known,written.trans ?_ (Nat.le_add_right _ _) (by omega)⟩
    have same : start + min remaining 4096 + (remaining - min remaining 4096) = start + remaining := by omega
    rw [← same]
    exact rest

/- The loop ends before the bound is reached. -/
theorem eraseChunksEnds {fuel remaining : Nat} (enough : remaining / 4096 < fuel) :
    eraseChunks fuel remaining = eraseChunks (remaining / 4096 + 1) remaining := by
  have more (fuel remaining : Nat) (enough : remaining < 4096 * fuel + 4) :
      eraseChunks (fuel+1) remaining = eraseChunks fuel remaining := by
    induction fuel generalizing remaining with
    | zero =>
      have none : remaining < 4 := by omega
      unfold eraseChunks
      rw [if_pos none]
    | succ fuel ih =>
      have rest := ih (remaining - min remaining 4096)
      rw [eraseChunks,eraseChunks]
      split
      · rfl
      · dsimp only
        rw [rest (by omega)]
  obtain ⟨extra,rfl⟩ := Nat.exists_eq_add_of_lt enough
  clear enough
  induction extra with
  | zero => rfl
  | succ extra ih =>
    rw [← ih]
    exact more (remaining / 4096 + extra + 1) remaining (by omega)

/-! The commands. -/

/- A long ERASE, or FORMAT MEDIUM. -/
def Erases (r : Request) : Prop := r.opcode = .erase6 ∧ r.cdbByte 1 &&& 0x01 ≠ 0 ∨ r.opcode = .formatMedium

/- The checks of the commands. Only FORMAT MEDIUM needs the beginning of the tape. -/
def EraseRefused (r : Request) (s : HandlerState Tape) : Prop :=
  s.device.mediumChanged = true ∨ s.device.reset = true ∨ s.device.attn = true ∨ s.device.ready = false ∨
    s.device.tarFile = true ∨ s.device.writeProtected = true ∨ r.opcode = .formatMedium ∧ s.device.tapePosition ≠ 0

/- The number of bytes that are to be erased, an unsigned difference. -/
def eraseLeft (d : Tape) : Nat := ((d.fileSize - d.tapePosition) % 2^64).toNat

/- A scan from the beginning, where the tape is, finds the end of the data. -/
def Empty (t : HandlerState Tape) : Prop := t.device.tapePosition = 0 ∧ ∀ r count fuel,
  wp (readSimhMetaData count false (fuel+1)) r t (fun found _ => found.1 = (.endOfData,0)) fun _ _ => False

/- From the position on everything may be erased, up to the size that the file had when
it was opened. The mark at the beginning is written as well. -/
structure ErasedTape (s : HandlerState Tape) (file : Bytes) (t : HandlerState Tape) : Prop where
  other : ∀ name, name ≠ s.device.filename → t.world.files name = s.world.files name
  bounded : ∃ file', t.device.stream t.world = some file' ∧ file.length ≤ file'.length ∧ ∀ i : Nat,
    metaDataSize ≤ i → (i : Int) < s.device.tapePosition ∨ s.device.fileSize ≤ i → file'[i]? = file[i]?
  position : t.device.tapePosition = 0
  empty : metaDataSize ≤ s.device.fileSize → Empty t

theorem endFound (opened : t.device.stream t.world = some file) (here : t.device.tapePosition = 0)
    (word : readMetaData (some file) 0 = some ⟨.privateMarker,endOfDataValue⟩) : Empty t := by
  refine ⟨here,fun r count fuel => ?_⟩
  have mark : objectOf ⟨.privateMarker,endOfDataValue⟩ = some (.endOfData,0) := by decide
  rw [readSimhMetaData,wpBind]
  unfold readNextMetaData
  rw [wpIte]
  refine ⟨(fun wrong => by cases wrong),fun _ => ?_⟩
  unfold readMetaDataHere
  simp only [wpBind,wpGetDevice,wpGetWorld,opened,here,word,wpPure,mark]
  exact trivial

theorem Holds.fields (known : Holds s position file t) : t.device.tapePosition = position ∧
    t.device.isOpen = s.device.isOpen ∧ t.device.tarFile = s.device.tarFile ∧ t.device.fileSize = s.device.fileSize ∧
    t.device.maxFileSize = s.device.maxFileSize := by
  obtain ⟨location,device⟩ := known.device
  rw [device]
  exact ⟨rfl,rfl,rfl,rfl,rfl⟩

/- The mark is written at the beginning if there was room for it. -/
theorem wpEraseMark (isOpen : s.device.isOpen = true) (simh : s.device.tarFile = false)
    (sized : Sized s.device) (known : Holds s 0 file t) :
    wp (writeMetaData .endOfData 0) r t (fun _ u => ¬metaDataSize ≤ s.device.fileSize ∧ Holds s 0 file u ∨
      Holds s 0 (overwrite 0 file 0 (toLittleEndian ⟨.privateMarker,endOfDataValue⟩)) u) fun _ _ => False := by
  obtain ⟨here,opened,tar,size,most⟩ := known.fields
  have closed : ¬((!t.device.isOpen) = true ∨ t.device.tapePosition < 0) := by
    rw [opened,isOpen,here]
    decide
  unfold writeMetaData
  rw [wpBind,wpGetDevice,tar,simh,if_neg Bool.false_ne_true,if_neg (by decide)]
  unfold writeEndOfData
  rw [wpBind,wpGetDevice,if_neg closed,wpIte]
  constructor
  · intro room
    have fits : metaDataSize ≤ s.device.maxFileSize := sized (by rw [here,size] at room; omega)
    unfold writeSimhMetaData checkForOverflow
    simp only [wpBind,wpGetDevice,wpIte,wpThrow,wpPure]
    refine ⟨fun full => by rw [here,most] at full; omega,fun _ => ?_⟩
    exact wpWriteHeld isOpen (Int.le_refl 0) known fun u known => .inr known
  · intro small
    refine .inl ⟨fun room => small ?_,known⟩
    rw [here,size]
    omega

theorem erasedTape {stop : Int} (known : Holds s stop file t) (isOpen : s.device.isOpen = true) :
    (∀ name, name ≠ s.device.filename → t.world.files name = s.world.files name) ∧
      t.device.stream t.world = some file := by
  obtain ⟨location,device⟩ := known.device
  rw [device,known.world]
  refine ⟨fun name other => Function.update_of_ne other .., ?_⟩
  unfold stream
  rw [if_pos isOpen]
  exact Function.update_self ..

/- The commands behind their checks. -/
theorem wpEraseAll (opened : s.device.stream s.world = some file) (valid : 0 ≤ s.device.tapePosition)
    (inside : s.device.tapePosition ≤ file.length) (kept : s.device.tapePosition ≤ s.device.fileSize)
    (simh : s.device.tarFile = false)
    (sized : Sized s.device) :
    wp (eraseAll >>= fun _ => writeMetaData .endOfData 0) r s (fun _ t => ErasedTape s file t) fun _ _ => False := by
  obtain ⟨start,same⟩ := Int.eq_ofNat_of_zero_le valid
  have isOpen : s.device.isOpen = true := by
    unfold stream at opened
    split at opened
    · assumption
    · cases opened
  have here : s.world.files s.device.filename = some file := by
    rw [stream,if_pos isOpen] at opened
    exact opened
  have known : Holds s start file s := by
    refine ⟨⟨s.device.objectLocation,?_⟩,rfl,?_⟩
    · rw [← same]
    · rw [← here,Function.update_eq_self]
  have left : eraseLeft s.device ≤ s.device.fileSize - start := by
    unfold eraseLeft
    rw [same] at kept ⊢
    omega
  unfold eraseAll erase
  simp only [wpBind,wpGetDevice]
  refine wpMono (wpEraseChunks isOpen (by omega) known) (fun _ u erased => ?_) fun _ _ failed => failed
  obtain ⟨stop,file',known,written⟩ := erased
  have rewound : Holds s 0 file' { u with device := { u.device with tapePosition := 0, objectLocation := 0 } } := by
    obtain ⟨location,device⟩ := known.device
    refine ⟨⟨0,?_⟩,known.transfer,known.world⟩
    rw [device]
  unfold resetPositions
  rw [wpModifyDevice]
  refine wpMono (wpEraseMark isOpen simh sized rewound) (fun _ v marked => ?_) fun _ _ failed => failed
  have outside (i : Nat) (outside : (i : Int) < s.device.tapePosition ∨ s.device.fileSize ≤ i) : file'[i]? = file[i]? :=
    written.same i (by change i < start ∨ start + eraseLeft s.device ≤ i; omega)
  rcases marked with ⟨none,known⟩ | known
  · have erased := erasedTape known isOpen
    exact ⟨erased.1,⟨file',erased.2,written.grows,fun i _ => outside i⟩,known.fields.1,fun room => absurd room none⟩
  · have erased := erasedTape known isOpen
    have mark := overwriteOutside (toLittleEndian ⟨.privateMarker,endOfDataValue⟩) (Nat.zero_le file'.length)
    refine ⟨erased.1,⟨_,erased.2,Nat.le_trans written.grows mark.grows,fun i behind other => ?_⟩,known.fields.1,fun _ => ?_⟩
    · rw [mark.same i (.inr (by rw [toLittleEndianLength]; omega)),outside i other]
    · refine endFound erased.2 known.fields.1 ?_
      have front (data : Bytes) : overwrite 0 file' 0 data = [] ++ (data ++ file'.drop data.length) := by
        simp [overwrite]
      rw [front]
      exact readMetaDataAt (m := ⟨.privateMarker,endOfDataValue⟩) (by decide) [] _

/- The checks come first, each leaves everything as it is. -/
theorem wpEraseChecks {h : Handler Tape PhaseCall} {Q : PhaseCall → HandlerState Tape → Prop}
    (refused : s.device.reset = true ∨ s.device.attn = true ∨ s.device.ready = false ∨ s.device.tarFile = true ∨
      s.device.writeProtected = true → ∀ e t, t.world = s.world → E e t)
    (passed : s.device.reset = false → s.device.attn = false → s.device.ready = true → s.device.tarFile = false →
      ¬s.device.writeProtected = true → wp h r s Q E) :
    wp (checkReady >>= fun _ => checkNoTar >>= fun _ => super StorageDevice.checkWritePreconditions >>= fun _ => h)
      r s Q E := by
  rw [wpBind]
  refine wpCheckReady (fun busy e t declined => ?_) fun reset attn ready => ?_
  · exact refused (busy.imp_right fun busy => busy.imp_right .inl) e t declined.2
  rw [wpBind]
  refine wpCheckNoTar (fun tar => refused (.inr (.inr (.inr (.inl tar)))) _ _ rfl) fun simh => ?_
  rw [wpBind]
  refine wpCheckWritePreconditions (fun protect e t declined => ?_) fun writable => ?_
  · exact refused (.inr (.inr (.inr (.inr protect)))) e t declined.2
  · exact passed reset attn ready simh writable

theorem wpErases (erases : Erases r) (opened : s.device.stream s.world = some file)
    (valid : 0 ≤ s.device.tapePosition) (inside : s.device.tapePosition ≤ file.length)
    (kept : s.device.tapePosition ≤ s.device.fileSize)
    (sized : Sized s.device) :
    wp (methods.dispatch r.opcode) r s (fun call t => call = .status ∧ ¬EraseRefused r s ∧ ErasedTape s file t)
      fun _ t => EraseRefused r s ∧ t.world = s.world := by
  have command : (r.opcode ≠ .inquiry ∧ r.opcode ≠ .requestSense) ∧
      Handler.dispatch commands r.opcode = if r.opcode = .formatMedium then formatMedium else erase6 := by
    rcases erases with ⟨same,-⟩ | same <;> rw [same] <;> exact ⟨by decide,rfl⟩
  refine wpDispatch command.1 command.2 (fun changed e t declined => ⟨.inl changed,declined.2⟩) fun unchanged => ?_
  have checked (reset : s.device.reset = false) (attn : s.device.attn = false) (ready : s.device.ready = true)
      (simh : s.device.tarFile = false) (writable : ¬s.device.writeProtected = true)
      (placed : ¬(r.opcode = .formatMedium ∧ s.device.tapePosition ≠ 0)) : ¬EraseRefused r s := by
    rintro (wrong | wrong | wrong | wrong | wrong | wrong | wrong)
    · exact absurd (wrong.symm.trans unchanged) (by decide)
    · exact absurd (wrong.symm.trans reset) (by decide)
    · exact absurd (wrong.symm.trans attn) (by decide)
    · exact absurd (wrong.symm.trans ready) (by decide)
    · exact absurd (wrong.symm.trans simh) (by decide)
    · exact writable wrong
    · exact placed wrong
  have finished (simh : s.device.tarFile = false) (passed : ¬EraseRefused r s) :
      wp (eraseAll >>= fun _ => writeMetaData .endOfData 0 >>= fun _ => pure PhaseCall.status) r s
        (fun call t => call = .status ∧ ¬EraseRefused r s ∧ ErasedTape s file t)
        fun _ t => EraseRefused r s ∧ t.world = s.world := by
    have erased := wpEraseAll (r := r) opened valid inside kept simh sized
    rw [wpBind] at erased ⊢
    refine wpMono erased (fun _ u marked => ?_) fun _ _ failed => failed.elim
    rw [wpBind]
    exact wpMono marked (fun _ t erased => ⟨rfl,passed,erased⟩) fun _ _ failed => failed.elim
  have refused (wrong : s.device.reset = true ∨ s.device.attn = true ∨ s.device.ready = false ∨ s.device.tarFile = true ∨
      s.device.writeProtected = true) (t : HandlerState Tape) (same : t.world = s.world) :
      EraseRefused r s ∧ t.world = s.world :=
    ⟨.inr (wrong.imp_right fun wrong => wrong.imp_right fun wrong => wrong.imp_right fun wrong => wrong.imp_right .inl),same⟩
  split
  · next format =>
    unfold formatMedium
    refine wpEraseChecks (fun wrong _ t same => refused wrong t same) fun reset attn ready simh writable => ?_
    rw [wpBind,wpGetDevice,wpIte]
    refine ⟨fun placed => ⟨.inr (.inr (.inr (.inr (.inr (.inr ⟨format,placed⟩))))),rfl⟩,fun placed => ?_⟩
    exact finished simh (checked reset attn ready simh writable fun wrong => placed wrong.2)
  · next other =>
    have long : r.cdbByte 1 &&& 0x01 ≠ 0 := erases.elim (fun erase => erase.2) fun format => absurd format other
    unfold erase6
    refine wpEraseChecks (fun wrong _ t same => refused wrong t same) fun reset attn ready simh writable => ?_
    rw [wpBind,wpGetRequest,if_pos long]
    exact finished simh (checked reset attn ready simh writable fun wrong => other wrong.1)

/- Open leaves these sizes behind, with any block size that a word fits in. -/
theorem openSized {append : Nat} {readOnlyFile : Bool}
    (words : metaDataSize ≤ if s.device.configuredBlockSize ≠ 0 then s.device.configuredBlockSize else 512)
    (opened : openFile append readOnlyFile r s = (.ok true,t)) : Sized t.device := by
  have finished (u : HandlerState Tape) (sized : Sized u.device) :
      wp (do
        if !(← super (StorageDevice.validateFile readOnlyFile)) then return false
        modifyDevice fun d => { d with
          isOpen := !readOnlyFile, tarFile := S2pUtil.getExtensionLowerCase d.filename = "tar" }
        resetPositions
        return true : Handler Tape Bool) r u (fun done t => done = true → Sized t.device) fun _ _ => False := by
    have ends (v : HandlerState StorageDevice) :
        wp (StorageDevice.validateFile readOnlyFile) r v (fun _ _ => True) fun _ _ => False := by
      unfold StorageDevice.validateFile
      simp only [wpBind,wpGetDevice,wpGetWorld]
      split
      · exact trivial
      · simp only [wpIte,wpPure,wpBind,wpModifyDevice,implies_true,and_self]
    rw [wpBind,wpSuper]
    refine wpMono (ends _) (fun valid v _ => ?_) fun _ _ failed => failed
    rw [wpIte]
    exact ⟨(fun _ wrong => by cases wrong),fun _ _ => sized⟩
  have runs : wp (openFile append readOnlyFile) r s (fun done t => done = true → Sized t.device) fun _ _ => False := by
    unfold openFile
    rw [wpBind,wpGetDevice]
    dsimp only
    split
    · exact fun wrong => by cases wrong
    · rw [wpIte]
      refine ⟨(fun _ wrong => by cases wrong),fun enough => ?_⟩
      rw [wpBind,wpGetWorld,wpBind,wpModifyDevice,wpIte]
      have sized (size : Nat) : metaDataSize ≤ size → metaDataSize ≤ if append = 0 then size else append := by
        intro room
        split <;> omega
      refine ⟨fun _ => ?_,fun _ => finished _ (sized _)⟩
      rw [wpBind,wpSetWorld]
      exact finished _ (sized _)
  exact wpOk runs opened rfl

end

end Tape

/- ERASE and FORMAT MEDIUM of any open tape that is not behind the size that its file had
when it was opened. -/
theorem eraseBounded {s : HandlerState Tape} {file : Bytes} (opened : s.device.stream s.world = some file)
    (valid : 0 ≤ s.device.tapePosition) (inside : s.device.tapePosition ≤ file.length)
    (kept : s.device.tapePosition ≤ s.device.fileSize)
    (sized : Tape.Sized s.device) (r : Request) (erases : Tape.Erases r) :
    (∀ fuel, Tape.eraseLeft s.device / 4096 < fuel →
      Tape.eraseChunks fuel (Tape.eraseLeft s.device) =
        Tape.eraseChunks (Tape.eraseLeft s.device / 4096 + 1) (Tape.eraseLeft s.device)) ∧
    ((∃ e t, Tape.methods.dispatch r.opcode r s = (.error e,t) ∧ Tape.EraseRefused r s ∧ t.world = s.world) ∨
      ∃ t, Tape.methods.dispatch r.opcode r s = (.ok .status,t) ∧ ¬Tape.EraseRefused r s ∧ Tape.ErasedTape s file t) := by
  refine ⟨fun _ enough => Tape.eraseChunksEnds enough,?_⟩
  have ran := Tape.wpErases erases opened valid inside kept sized
  unfold wp at ran
  cases result : Tape.methods.dispatch r.opcode r s with
  | mk ended t =>
    rw [result] at ran
    cases ended with
    | error e => exact .inl ⟨e,t,rfl,ran⟩
    | ok call =>
      obtain ⟨rfl,done⟩ := ran
      exact .inr ⟨t,rfl,done⟩

namespace Tape

/- Four filemarks, with the tape behind the second one. -/
def fourFilemarks : Bytes := List.replicate 16 0

def behindTwo : HandlerState Tape where
  device := {
    type := .sctp
    ready := true
    supportedBlockSizes := [512]
    blockSize := 512
    isOpen := true
    tapePosition := 8
    fileSize := 16
    maxFileSize := 16 }
  transfer := {}
  world := { files := fun _ => some fourFilemarks }

def longErase : Request := { cdb := [0x19,1,0,0,0,0] }

theorem behindTwoErased : ∃ t, methods.dispatch longErase.opcode longErase behindTwo = (.ok .status,t) ∧
    ErasedTape behindTwo fourFilemarks t := by
  have opened : behindTwo.device.stream behindTwo.world = some fourFilemarks := rfl
  have erased := (eraseBounded opened (by decide) (by decide) (by decide) (fun _ => by decide) longErase
    (.inl ⟨rfl,by decide⟩)).2
  have ran : (methods.dispatch longErase.opcode longErase behindTwo).1 = .ok .status := rfl
  rcases erased with ⟨e,t,failed,-⟩ | ⟨t,done,-,bounded⟩
  · rw [failed] at ran
    cases ran
  · exact ⟨t,done,bounded⟩

/- The mark is written in front of the position. -/
theorem frontErased : ¬∀ t file, methods.dispatch longErase.opcode longErase behindTwo = (.ok .status,t) →
    t.device.stream t.world = some file → ∀ i : Nat, (i : Int) < behindTwo.device.tapePosition →
      file[i]? = fourFilemarks[i]? := by
  intro law
  have ran : (methods.dispatch longErase.opcode longErase behindTwo).1 = .ok .status := rfl
  have front := law (methods.dispatch longErase.opcode longErase behindTwo).2 _ (Prod.ext ran rfl) rfl 0 (by decide)
  revert front
  decide

end Tape
end Scsi2Pi
