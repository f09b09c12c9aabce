import Scsi2Pi.DiskClass
import Scsi2Pi.ModeSelect

/-! The parameter lists of MODE SELECT. The first block descriptor is applied before
the pages behind it are read: a list with a page that is not accepted has changed
the block size already. -/
namespace Scsi2Pi.ParameterList
open Slices MemoryUtil Handler Derives Eff StorageDevice

/-! What a list says. -/

def header (r : Request) : Nat := if r.opcode = .modeSelect10 then 8 else 4

def descriptors (r : Request) (buf : Bytes) : Nat :=
  if r.opcode = .modeSelect10 then getInt16 buf 6 else byteAt buf 3

/- The low word of the block length in the first block descriptor. -/
def blockLength (r : Request) (buf : Bytes) : Nat := getInt16 buf (header r + 6)

/- The list is long enough for its header and its block descriptors, and has one. -/
def Describes (r : Request) (buf : Bytes) (length : Nat) : Prop :=
  header r ≤ length ∧ descriptors r buf + header r ≤ length ∧ descriptors r buf ≠ 0 ∧ header r + 8 ≤ length

def pageFormat (r : Request) : Prop := r.cdbByte 1 &&& 0x10 ≠ 0

/- The lists of pages that end without an exception: known pages of the right size
that are ignored or ask for the current block size, up to the end or to page 0. -/
inductive Acceptable (pages : Pages) (buf : Bytes) (size : Nat) : Nat → Nat → Prop where
  | done (offset : Nat) : Acceptable pages buf size offset 0
  | vendor {offset length : Nat} {data : Bytes} (code : byteAt buf offset = 0) (known : pages.lookup 0 = some data) :
      Acceptable pages buf size offset length
  | page {offset length : Nat} {data : Bytes} (known : pages.lookup (byteAt buf offset) = some data)
      (code : byteAt buf offset ≠ 0) (whole : data.length = byteAt buf (offset+1) + 2) (inside : data.length ≤ length)
      (allowed : byteAt buf offset = 0x03 ∧ getInt16 buf (offset+12) = size ∨ byteAt buf offset = 0x01 ∨
        byteAt buf offset = 0x07 ∨ byteAt buf offset = 0x08)
      (rest : Acceptable pages buf size (offset+data.length) (length-data.length)) :
      Acceptable pages buf size offset length

/-! What the classes of devices make of a block length. Tapes take 0 for variable
block lengths. -/

section
variable {δ : Type} [Derives δ StorageDevice]

abbrev sizeOf (s : HandlerState δ) : Nat := (base s.device : StorageDevice).blockSize

def withSize (d : δ) (size : Nat) : δ := setBase d ({ (base d : StorageDevice) with blockSize := size } : StorageDevice)

structure Checks (v : Virtual δ) (zero : Prop) (forget : δ → δ) : Prop where
  permanent : ∀ requested r (s : HandlerState δ), wp (v.verifyBlockSizeChange requested false) r s
    (fun _ t => t = s ∧ requested = sizeOf s) fun _ t => t = s ∧ requested ≠ sizeOf s
  temporary : ∀ requested r (s : HandlerState δ), wp (v.verifyBlockSizeChange requested true) r s
    (fun size t => size = requested ∧ (zero ∧ requested = 0 ∧ t = { s with device := forget s.device } ∨
      ¬(zero ∧ requested = 0) ∧ t = s ∧ (requested = sizeOf s ∨ requested ≠ 0 ∧ requested % 4 = 0)))
    fun _ t => t = s ∧ ¬(zero ∧ requested = 0) ∧ ¬(requested = sizeOf s ∨ requested ≠ 0 ∧ requested % 4 = 0)
  change : ∀ size r (s : HandlerState δ), size = sizeOf s ∨ size = 0 → wp (v.changeBlockSize size) r s
    (fun _ t => t = s ∧ ¬(zero ∧ size = 0)) fun _ t => t = s ∧ (size = 0 ∨ size % 4 ≠ 0)

variable {v : Virtual δ} {zero : Prop} {forget : δ → δ} {r : Request}

/- Induction on the fuel, one page at a time. -/
theorem pagesSelected (checks : Checks v zero forget) (pages : Pages) (fuel offset length : Nat) (s : HandlerState δ)
    (enough : length ≤ fuel) : wp (selectPages v pages fuel offset length) r s
      (fun _ t => t = s ∧ Acceptable pages s.transfer.buffer (sizeOf s) offset length)
      fun _ t => t = s ∧ ¬Acceptable pages s.transfer.buffer (sizeOf s) offset length := by
  induction fuel generalizing offset length with
  | zero =>
    obtain rfl : length = 0 := by omega
    exact ⟨rfl,.done _⟩
  | succ fuel ih =>
    unfold selectPages
    simp only [wpIte,wpPure]
    refine ⟨fun none => ⟨trivial,none ▸ .done _⟩,fun some_ => ?_⟩
    rw [wpBind,wpGetTransfer]
    cases known : pages.lookup (byteAt s.transfer.buffer offset) with
    | none =>
      refine ⟨rfl,fun wrong => ?_⟩
      cases wrong with
      | done => exact some_ rfl
      | vendor code found => exact absurd (known.symm.trans (code ▸ found)) (by simp)
      | page found => exact absurd (known.symm.trans found) (by simp)
    | some data =>
      have inversion (wrong : Acceptable pages s.transfer.buffer (sizeOf s) offset length)
          (code : byteAt s.transfer.buffer offset ≠ 0) :
          data.length = byteAt s.transfer.buffer (offset+1) + 2 ∧ data.length ≤ length ∧
            (byteAt s.transfer.buffer offset = 0x03 ∧ getInt16 s.transfer.buffer (offset+12) = sizeOf s ∨
              byteAt s.transfer.buffer offset = 0x01 ∨ byteAt s.transfer.buffer offset = 0x07 ∨
              byteAt s.transfer.buffer offset = 0x08) ∧
            Acceptable pages s.transfer.buffer (sizeOf s) (offset+data.length) (length-data.length) := by
        cases wrong with
        | done => exact absurd rfl some_
        | vendor zero_ => exact absurd zero_ code
        | page found _ whole inside allowed rest =>
          cases Option.some.inj (known.symm.trans found)
          exact ⟨whole,inside,allowed,rest⟩
      simp only [wpIte,wpPure]
      refine ⟨fun code => ⟨trivial,.vendor code (code ▸ known)⟩,fun code => ?_⟩
      simp only [wpBind,wpIte,wpThrow]
      refine ⟨fun short => ⟨trivial,fun wrong => ?_⟩,fun long => ⟨fun odd => ⟨trivial,fun wrong => ?_⟩,fun whole => ?_⟩⟩
      · have := inversion wrong code
        omega
      · have := inversion wrong code
        omega
      · have size : data.length = byteAt s.transfer.buffer (offset+1) + 2 := by omega
        have rest := ih (offset+data.length) (length-data.length) (by omega)
        rw [size] at rest
        refine ⟨fun format => ?_,fun other => ⟨fun refused => ⟨trivial,fun wrong => ?_⟩,fun ignored => ?_⟩⟩
        · refine wpMono (checks.permanent _ r s) (fun _ t done => ?_) (fun _ t failed => ?_)
          · obtain ⟨rfl,same⟩ := done
            refine wpMono rest (fun _ u ended => ⟨ended.1,?_⟩) (fun _ u failed => ⟨failed.1,fun wrong => ?_⟩)
            · exact .page known code size (by omega) (.inl ⟨format,same⟩) (by rw [size]; exact ended.2)
            · have := (inversion wrong code).2.2.2
              rw [size] at this
              exact failed.2 this
          · refine ⟨failed.1,fun wrong => ?_⟩
            rcases (inversion wrong code).2.2.1 with ⟨_,same⟩ | other
            · exact failed.2 same
            · omega
        · have := (inversion wrong code).2.2.1
          omega
        · refine wpMono rest (fun _ u ended => ⟨ended.1,?_⟩) (fun _ u failed => ⟨failed.1,fun wrong => ?_⟩)
          · exact .page known code size (by omega) (.inr (by omega)) (by rw [size]; exact ended.2)
          · have := (inversion wrong code).2.2.2
            rw [size] at this
            exact failed.2 this

variable (v r) in
def pagesOf (d : δ) : Pages := PageHandler.pagesOf (support v) r d 0x3f true

variable (v zero r) in
/- The list has changed the block size or what is reported for it when it fails. -/
def Spoils (d : δ) (buf : Bytes) (length : Nat) : Prop :=
  Describes r buf length ∧ pageFormat r ∧
    (zero ∧ blockLength r buf = 0 ∨
      ¬(zero ∧ blockLength r buf = 0) ∧ blockLength r buf ≠ (base d : StorageDevice).blockSize ∧
        blockLength r buf ≠ 0 ∧ blockLength r buf % 4 = 0 ∧
        ¬Acceptable (pagesOf v r (withSize d (blockLength r buf))) buf (blockLength r buf)
          (descriptors r buf + header r) (length - (descriptors r buf + header r)))

def spoiled (forget : δ → δ) (d : δ) (size : Nat) : δ := if size = 0 then forget d else withSize d size

/- The pages, and the block size that has been stored already. -/
theorem modePagesSelected (checks : Checks v zero forget) {length offset size : Nat} {s : HandlerState δ}
    (stored : size = sizeOf s ∨ size = 0) : wp (selectModePages v length offset size) r s
      (fun _ t => t = s ∧ (pageFormat r →
        Acceptable (pagesOf v r s.device) s.transfer.buffer (sizeOf s) offset (length-offset) ∧ ¬(zero ∧ size = 0)))
      fun _ t => t = s ∧ pageFormat r ∧
        (¬Acceptable (pagesOf v r s.device) s.transfer.buffer (sizeOf s) offset (length-offset) ∨ size = 0 ∨ size % 4 ≠ 0) := by
  unfold selectModePages
  simp only [wpBind,wpGetRequest,wpIte,wpPure,wpGetDevice]
  refine ⟨fun none => ⟨trivial,fun some_ => absurd none some_⟩,fun some_ => ?_⟩
  refine wpMono (pagesSelected checks _ _ _ _ s (Nat.sub_le _ _)) (fun _ t done => ?_) fun _ t failed => ⟨failed.1,some_,.inl failed.2⟩
  obtain ⟨rfl,accepted⟩ := done
  exact wpMono (checks.change size r t stored) (fun _ u changed => ⟨changed.1,fun _ => ⟨accepted,changed.2⟩⟩)
    fun _ u failed => ⟨failed.1,some_,.inr failed.2⟩

/- The block length of the first descriptor, or the current one. -/
theorem descriptorsEvaluated (checks : Checks v zero forget) (length : Nat) (s : HandlerState δ) :
    wp (evaluateBlockDescriptors v length (sizeOf s)) r s
      (fun found t => found.1 = descriptors r s.transfer.buffer + header r ∧
        (¬Describes r s.transfer.buffer length ∧ found.2 = sizeOf s ∧ t = s ∨
          Describes r s.transfer.buffer length ∧ found.2 = blockLength r s.transfer.buffer ∧
            (zero ∧ blockLength r s.transfer.buffer = 0 ∧ t = { s with device := forget s.device } ∨
              ¬(zero ∧ blockLength r s.transfer.buffer = 0) ∧ t = s ∧ (blockLength r s.transfer.buffer = sizeOf s ∨
                blockLength r s.transfer.buffer ≠ 0 ∧ blockLength r s.transfer.buffer % 4 = 0))))
      fun _ t => t = s ∧ (¬Describes r s.transfer.buffer length ∨ ¬(zero ∧ blockLength r s.transfer.buffer = 0) ∧
        ¬(blockLength r s.transfer.buffer = sizeOf s ∨
          blockLength r s.transfer.buffer ≠ 0 ∧ blockLength r s.transfer.buffer % 4 = 0)) := by
  change wp (do
    if length < header r then throw ⟨.illegalRequest,.parameterListLengthError⟩
    if length < descriptors r s.transfer.buffer + header r then throw ⟨.illegalRequest,.parameterListLengthError⟩
    if descriptors r s.transfer.buffer ≠ 0 ∧ header r + 8 ≤ length then
      let size ← v.verifyBlockSizeChange (blockLength r s.transfer.buffer) true
      return (descriptors r s.transfer.buffer + header r,size)
    return (descriptors r s.transfer.buffer + header r,sizeOf s)) r s _ _
  simp only [wpBind,wpIte,wpThrow,wpPure]
  refine ⟨fun short => ⟨trivial,.inl fun wrong => ?_⟩,fun long => ⟨fun short => ⟨trivial,.inl fun wrong => ?_⟩,fun whole =>
    ⟨fun first => ?_,fun none => ⟨trivial,.inl ⟨fun wrong => none ⟨wrong.2.2.1,wrong.2.2.2⟩,trivial,trivial⟩⟩⟩⟩⟩
  · exact absurd wrong.1 (by omega)
  · exact absurd wrong.2.1 (by omega)
  · have described : Describes r s.transfer.buffer length := ⟨by omega,by omega,first.1,first.2⟩
    refine wpMono (checks.temporary _ r s) (fun size t done => ⟨trivial,.inr ⟨described,done.1,done.2⟩⟩) fun _ t failed => ?_
    exact ⟨failed.1,.inr failed.2⟩

/- The rest of MODE SELECT. -/
def applyList (v : Virtual δ) (length offset size : Nat) : Handler δ Unit := do
  if size ≠ 0 then super (modifyDevice fun (d : StorageDevice) => { d with blockSize := size })
  selectModePages v length offset size

theorem listApplied (checks : Checks v zero forget) {length offset size : Nat} {s : HandlerState δ} (some_ : size ≠ 0) :
    wp (applyList v length offset size) r s
      (fun _ t => t = ⟨withSize s.device size,s.transfer,s.world⟩ ∧ (pageFormat r →
        Acceptable (pagesOf v r (withSize s.device size)) s.transfer.buffer size offset (length-offset)))
      fun _ t => t = ⟨withSize s.device size,s.transfer,s.world⟩ ∧ pageFormat r ∧
        (¬Acceptable (pagesOf v r (withSize s.device size)) s.transfer.buffer size offset (length-offset) ∨ size % 4 ≠ 0) := by
  unfold applyList
  rw [if_pos some_,wpBind,wpSuper,wpModifyDevice]
  change wp (selectModePages v length offset size) r ⟨withSize s.device size,s.transfer,s.world⟩ _ _
  have stored : size = sizeOf ⟨withSize s.device size,s.transfer,s.world⟩ := by
    unfold sizeOf withSize
    rw [baseSet]
  refine wpMono (modePagesSelected checks (.inl stored)) (fun _ t done => ⟨done.1,fun asked => ?_⟩) fun _ t failed => ?_
  · have := (done.2 asked).1
    rw [← stored] at this
    exact this
  · obtain ⟨rfl,asked,why⟩ := failed
    rw [← stored] at why
    exact ⟨rfl,asked,why.imp_right fun other => other.resolve_left some_⟩

theorem nothingApplied (checks : Checks v zero forget) {length offset : Nat} {s : HandlerState δ} :
    wp (applyList v length offset 0) r s (fun _ t => t = s ∧ (pageFormat r → ¬zero)) fun _ t => t = s ∧ pageFormat r := by
  unfold applyList
  rw [if_neg (by omega)]
  refine wpMono (modePagesSelected checks (.inr rfl)) (fun _ t done => ⟨done.1,fun asked wrong => ?_⟩) fun _ t failed => ?_
  · exact (done.2 asked).2 ⟨wrong,rfl⟩
  · exact ⟨failed.1,failed.2.1⟩

theorem modeSelected (checks : Checks v zero forget) (length : Int) (s : HandlerState δ) :
    wp (modeSelect v length) r s (fun _ _ => ¬Spoils v zero r s.device s.transfer.buffer length.toNat)
      fun _ t => ¬Spoils v zero r s.device s.transfer.buffer length.toNat ∧ t.device = s.device ∨
        Spoils v zero r s.device s.transfer.buffer length.toNat ∧
          t.device = spoiled forget s.device (blockLength r s.transfer.buffer) := by
  unfold modeSelect
  rw [wpIte]
  refine ⟨fun none wrong => ?_,fun _ => ?_⟩
  · have := wrong.1.1
    unfold header at this
    split at this <;> omega
  generalize length.toNat = n
  rw [wpBind,wpGetDevice,wpBind]
  refine wpMono (descriptorsEvaluated checks n s) (fun found t done => ?_) fun _ t failed => ?_
  · obtain ⟨offset,size⟩ := found
    change wp (applyList v n offset size) r t _ _
    obtain ⟨rfl,chosen⟩ := done
    dsimp only at chosen ⊢
    have current (t_ : t = s) (size_ : size = sizeOf s) (fine : ¬Spoils v zero r s.device s.transfer.buffer n) :
        wp (applyList v n (descriptors r s.transfer.buffer + header r) size) r t
          (fun _ _ => ¬Spoils v zero r s.device s.transfer.buffer n) fun _ u =>
          ¬Spoils v zero r s.device s.transfer.buffer n ∧ u.device = s.device ∨
            Spoils v zero r s.device s.transfer.buffer n ∧
              u.device = spoiled forget s.device (blockLength r s.transfer.buffer) := by
      subst t_ size_
      by_cases none : sizeOf t = 0
      · rw [none]
        exact wpMono (nothingApplied checks) (fun _ _ _ => fine) fun _ u failed => .inl ⟨fine,by rw [failed.1]⟩
      · refine wpMono (listApplied checks none) (fun _ _ _ => fine) fun _ u failed => .inl ⟨fine,?_⟩
        rw [failed.1]
        exact setBaseSelf t.device
    rcases chosen with ⟨none,size_,rfl⟩ | ⟨described,rfl,⟨variable_,none,rfl⟩ | ⟨fixed,rfl,same | ⟨some_,words⟩⟩⟩
    · exact current rfl size_ fun wrong => none wrong.1
    · change wp (applyList v n _ (blockLength r s.transfer.buffer)) r _ _ _
      rw [none]
      refine wpMono (nothingApplied checks) (fun _ _ done wrong => done.2 wrong.2.1 variable_) fun _ u failed => .inr ?_
      exact ⟨⟨described,failed.2,.inl ⟨variable_,none⟩⟩,by rw [failed.1]; rfl⟩
    · refine current rfl same fun wrong => ?_
      rcases wrong.2.2 with zeros | ⟨_,other,_⟩
      · exact fixed zeros
      · exact other same
    · by_cases same : blockLength r t.transfer.buffer = sizeOf t
      · refine current rfl same fun wrong => ?_
        rcases wrong.2.2 with zeros | ⟨_,other,_⟩
        · exact fixed zeros
        · exact other same
      · refine wpMono (listApplied checks some_) (fun _ _ done wrong => ?_) fun _ u failed => .inr ⟨⟨described,failed.2.1,.inr ?_⟩,?_⟩
        · rcases wrong.2.2 with zeros | ⟨_,_,_,_,unacceptable⟩
          · exact fixed zeros
          · exact unacceptable (done.2 wrong.2.1)
        · exact ⟨fixed,same,some_,words,failed.2.2.resolve_right (not_not.mpr words)⟩
        · rw [failed.1]
          exact (if_neg some_).symm
  · obtain ⟨rfl,why⟩ := failed
    refine .inl ⟨fun wrong => ?_,rfl⟩
    rcases why with none | ⟨fixed,refused⟩
    · exact none wrong.1
    · rcases wrong.2.2 with zeros | ⟨_,_,some_,words,_⟩
      · exact fixed zeros
      · exact refused (.inr ⟨some_,words⟩)

end

/-! What a disk keeps of a list. -/

def Selects (r : Request) (buf : Bytes) (length size : Nat) : Prop :=
  Describes r buf length ∧ blockLength r buf ≠ size ∧ blockLength r buf ≠ 0 ∧ blockLength r buf % 4 = 0

section
variable {δ : Type} [Derives δ StorageDevice] {v : Virtual δ} {r : Request}

/- Accepted or not, nothing but the block size is changed. -/
def Stores (r : Request) (length : Nat) (s t : HandlerState δ) : Prop :=
  t.world = s.world ∧ (t.device = s.device ∨ Selects r s.transfer.buffer length (sizeOf s) ∧
    t.device = withSize s.device (blockLength r s.transfer.buffer))

theorem modeSelectStores (checks : Checks v False id) (length : Int) (s : HandlerState δ) :
    wp (modeSelect v length) r s (fun _ t => Stores r length.toNat s t) fun _ t => Stores r length.toNat s t := by
  have same : Stores r length.toNat s s := ⟨rfl,.inl rfl⟩
  unfold modeSelect
  rw [wpIte]
  refine ⟨fun _ => same,fun _ => ?_⟩
  rw [wpBind,wpGetDevice,wpBind]
  refine wpMono (descriptorsEvaluated checks length.toNat s) (fun found t done => ?_) fun _ t failed => ?_
  · obtain ⟨offset,size⟩ := found
    change wp (applyList v length.toNat offset size) r t _ _
    have nothing : wp (applyList v length.toNat offset 0) r s (fun _ t => Stores r length.toNat s t)
        fun _ t => Stores r length.toNat s t :=
      wpMono (nothingApplied checks) (fun _ u done => done.1 ▸ same) fun _ u failed => failed.1 ▸ same
    have current : wp (applyList v length.toNat offset (sizeOf s)) r s (fun _ t => Stores r length.toNat s t)
        fun _ t => Stores r length.toNat s t := by
      by_cases none : sizeOf s = 0
      · rw [none]
        exact nothing
      · have kept : Stores r length.toNat s ⟨withSize s.device (sizeOf s),s.transfer,s.world⟩ :=
          ⟨rfl,.inl (setBaseSelf s.device)⟩
        exact wpMono (listApplied checks none) (fun _ u done => done.1 ▸ kept) fun _ u failed => failed.1 ▸ kept
    rcases done.2 with ⟨_,rfl,rfl⟩ | ⟨described,rfl,⟨wrong,_⟩ | ⟨_,rfl,same_ | ⟨some_,words⟩⟩⟩
    · exact current
    · exact wrong.elim
    · rw [same_]
      exact current
    · by_cases same_ : blockLength r t.transfer.buffer = sizeOf t
      · rw [same_]
        exact current
      · have stored : Stores r length.toNat t ⟨withSize t.device (blockLength r t.transfer.buffer),t.transfer,t.world⟩ :=
          ⟨rfl,.inr ⟨⟨described,same_,some_,words⟩,rfl⟩⟩
        exact wpMono (listApplied checks some_) (fun _ u done => done.1 ▸ stored) fun _ u failed => failed.1 ▸ stored
  · rw [failed.1]
    exact same

end

/-! The classes of devices. -/

theorem verified (requested : Nat) (temporary : Bool) (r : Request) (s : HandlerState StorageDevice) :
    wp (StorageDevice.verifyBlockSizeChange requested temporary) r s
      (fun size t => size = requested ∧ t = s ∧
        (requested = s.device.blockSize ∨ temporary = true ∧ requested ≠ 0 ∧ requested % 4 = 0))
      fun _ t => t = s ∧ ¬(requested = s.device.blockSize ∨ temporary = true ∧ requested ≠ 0 ∧ requested % 4 = 0) := by
  unfold StorageDevice.verifyBlockSizeChange
  simp only [wpBind,wpGetDevice,wpIte,wpPure,wpThrow]
  refine ⟨fun same => ⟨trivial,trivial,.inl same⟩,fun other => ⟨fun words => ⟨trivial,trivial,.inr ⟨words.2.2,words.1,words.2.1⟩⟩,
    fun refused => ⟨trivial,?_⟩⟩⟩
  rintro (same | ⟨temporary_,some_,words⟩)
  · exact other same
  · exact refused ⟨some_,words,temporary_⟩

section
variable {δ : Type} [Derives δ StorageDevice] {requested size : Nat} {r : Request}

theorem superVerified (temporary : Bool) (s : HandlerState δ) :
    wp (super (StorageDevice.verifyBlockSizeChange requested temporary)) r s
      (fun size t => size = requested ∧ t = s ∧
        (requested = sizeOf s ∨ temporary = true ∧ requested ≠ 0 ∧ requested % 4 = 0))
      fun _ t => t = s ∧ ¬(requested = sizeOf s ∨ temporary = true ∧ requested ≠ 0 ∧ requested % 4 = 0) := by
  rw [wpSuper]
  refine wpMono (verified requested temporary r _) (fun found t done => ?_) fun _ t failed => ?_
  · obtain ⟨rfl,rfl,allowed⟩ := done
    exact ⟨rfl,by rw [setBaseSelf],allowed⟩
  · obtain ⟨rfl,refused⟩ := failed
    exact ⟨by rw [setBaseSelf],refused⟩

/- The block size has been stored already. -/
theorem superChanged (s : HandlerState δ) (stored : size = sizeOf s ∨ size = 0) :
    wp (super (StorageDevice.changeBlockSize size)) r s (fun _ t => t = s ∧ size ≠ 0)
      fun _ t => t = s ∧ (size = 0 ∨ size % 4 ≠ 0) := by
  rw [wpSuper]
  unfold StorageDevice.changeBlockSize
  simp only [wpBind,wpGetDevice,wpIte,wpThrow,wpPure,wpModifyDevice,setBaseSelf,true_and]
  refine ⟨fun wrong => wrong.imp_right And.right,fun right => ?_⟩
  have some_ : size ≠ 0 := fun none => right (.inl none)
  exact ⟨fun other => absurd (stored.resolve_right some_) other,fun _ => some_⟩

end

theorem diskChecks (K : DiskClass) (pages : Request → K.Device → Nat → Bool → Pages → Pages) :
    Checks (Disk.virtual pages : Virtual K.Device) False id where
  permanent requested r s := by
    refine wpMono (superVerified false s) (fun _ t done => ⟨done.2.1,?_⟩) fun _ t failed => ⟨failed.1,fun same => failed.2 (.inl same)⟩
    exact done.2.2.resolve_right fun wrong => by cases wrong.1
  temporary requested r s := by
    refine wpMono (superVerified true s) (fun _ t done => ⟨done.1,.inr ⟨fun wrong => wrong.1,done.2.1,?_⟩⟩) fun _ t failed => ?_
    · exact done.2.2.imp_right And.right
    · exact ⟨failed.1,fun wrong => wrong.1,fun allowed => failed.2 (allowed.imp_right fun words => ⟨rfl,words⟩)⟩
  change size r s stored := by
    change wp (super (Disk.changeBlockSize size)) r s _ _
    rw [wpSuper]
    unfold Disk.changeBlockSize
    have same : (base s.device : Disk).blockSize = sizeOf s := by
      unfold sizeOf
      rw [K.storageBase]
    rw [wpBind,wpGetDevice,wpIte]
    refine ⟨fun other => ?_,fun _ => ⟨by rw [setBaseSelf],fun wrong => wrong.1⟩⟩
    have none : size = 0 := stored.resolve_left fun wrong => other (wrong.trans same.symm)
    rw [wpBind]
    refine wpMono (superChanged _ (.inr none)) (fun _ t done => absurd none done.2) fun _ t failed => ?_
    obtain ⟨rfl,_⟩ := failed
    exact ⟨by rw [setBaseSelf],.inl none⟩

theorem tapeChecks : Checks Tape.virtual True fun d => { d with blockSizeForDescriptor := 0 } where
  permanent requested r s := by
    change wp (Tape.verifyBlockSizeChange requested false) r s _ _
    unfold Tape.verifyBlockSizeChange
    rw [if_neg (fun wrong => by cases wrong.2)]
    refine wpMono (superVerified false s) (fun _ t done => ⟨done.2.1,?_⟩) fun _ t failed => ⟨failed.1,fun same => failed.2 (.inl same)⟩
    exact done.2.2.resolve_right fun wrong => by cases wrong.1
  temporary requested r s := by
    change wp (Tape.verifyBlockSizeChange requested true) r s _ _
    unfold Tape.verifyBlockSizeChange
    rw [wpIte]
    refine ⟨fun zero => ⟨zero.1.symm,.inl ⟨trivial,zero.1,rfl⟩⟩,fun other => ?_⟩
    have some_ : ¬(True ∧ requested = 0) := fun wrong => other ⟨wrong.2,rfl⟩
    refine wpMono (superVerified true s) (fun _ t done => ⟨done.1,.inr ⟨some_,done.2.1,?_⟩⟩) fun _ t failed => ?_
    · exact done.2.2.imp_right And.right
    · exact ⟨failed.1,some_,fun allowed => failed.2 (allowed.imp_right fun words => ⟨rfl,words⟩)⟩
  change size r s stored :=
    wpMono (superChanged s stored) (fun _ _ done => ⟨done.1,fun wrong => done.2 wrong.2⟩) fun _ _ failed => failed

/-! A command and its list. -/

/- What a storage device tells about its blocks, and the cache of a disk. -/
structure Geometry where
  blockSize : Nat
  blocks : Nat
  descriptor : Nat
  cache : Option Cache

def diskGeometry (d : Disk) : Geometry := ⟨d.blockSize,d.blocks,d.blockSize,d.cache⟩

def geometry : AnyDevice → Option Geometry
  | .scsiHd d | .sasiHd d | .opticalMemory d => some (diskGeometry d)
  | .scsiCd d => some (diskGeometry d.toDisk)
  | .tape d => some ⟨d.blockSize,d.blocks,d.blockSizeForDescriptor,none⟩
  | .printer _ | .daynaPort _ | .hostServices _ | .scsiGeneric _ => none

/- The pages that a list may contain, with their sizes. -/
def changeablePages (any : AnyDevice) (r : Request) : Pages :=
  match any with
  | .scsiHd d => pagesOf (Disk.virtual ScsiHd.setUpModePages) r d
  | .sasiHd d => pagesOf (Disk.virtual SasiHd.setUpModePages) r d
  | .opticalMemory d => pagesOf (Disk.virtual OpticalMemory.setUpModePages) r d
  | .scsiCd d => pagesOf (Disk.virtual ScsiCd.setUpModePages) r d
  | .tape d => pagesOf Tape.virtual r d
  | .printer _ | .daynaPort _ | .hostServices _ | .scsiGeneric _ => []

/- The first descriptor has been applied when the list fails: a tape has been told to
use variable block lengths, or another block size is followed by pages that are refused. -/
def HalfApplied (any : AnyDevice) (r : Request) (buf : Bytes) (length : Nat) : Prop :=
  Describes r buf length ∧ pageFormat r ∧
    ((∃ d, any = .tape d ∧ d.blockSizeForDescriptor ≠ 0 ∧ blockLength r buf = 0) ∨
      ∃ s, any.storage = some s ∧ blockLength r buf ≠ s.blockSize ∧ blockLength r buf ≠ 0 ∧ blockLength r buf % 4 = 0 ∧
        ¬Acceptable (changeablePages (any.mapStorage fun s => { s with blockSize := blockLength r buf }) r) buf
          (blockLength r buf) (descriptors r buf + header r) (length - (descriptors r buf + header r)))

/- The buffer of the controller when the list has been received. -/
def delivered (t : Transfer) (list : Bytes) : Transfer :=
  let t := t.setCurrentLength list.length
  { t with buffer := setBytes t.buffer 0 list }

def Atomic {α : Type} (any : AnyDevice) (ran : Except ScsiException α × HandlerState AnyDevice) : Prop :=
  ∀ e, ran.1 = .error e → geometry ran.2.device = geometry any

/- The command itself, and its list if it is asked for. -/
def SelectsAtomically (any : AnyDevice) (r : Request) (t : Transfer) (w : World) (list : Bytes) : Prop :=
  Atomic any (AnyDevice.methods.dispatch r.opcode r ⟨any,t,w⟩) ∧
    ∀ u, AnyDevice.methods.dispatch r.opcode r ⟨any,t,w⟩ = (.ok (.dataOut list.length),u) →
      Atomic any (AnyDevice.methods.modeSelect list.length r { u with transfer := delivered u.transfer list })

theorem atomicIff {δ : Type} (put : δ → AnyDevice) {h : Handler δ Unit} {d broken : δ} {r : Request} {t : Transfer} {w : World}
    {spoils : Prop} (ends : wp h r ⟨d,t,w⟩ (fun _ _ => ¬spoils)
      fun _ u => ¬spoils ∧ u.device = d ∨ spoils ∧ u.device = broken) :
    Atomic (put d) (AnyDevice.within put h d r ⟨put d,t,w⟩) ↔ (spoils → geometry (put broken) = geometry (put d)) := by
  unfold wp at ends
  unfold Atomic AnyDevice.within
  dsimp only
  cases ran : h r ⟨d,t,w⟩ with
  | mk result u =>
    rw [ran] at ends
    cases result with
    | ok _ => exact ⟨fun _ wrong => absurd wrong ends,fun _ e wrong => by cases wrong⟩
    | error e =>
      rcases ends with ⟨fine,same⟩ | ⟨spoilt,same⟩
      · exact ⟨fun _ wrong => absurd wrong fine,fun _ _ _ => by rw [same]⟩
      · refine ⟨fun atomic _ => ?_,fun kept _ _ => ?_⟩
        · rw [← same]
          exact atomic e rfl
        · rw [same]
          exact kept spoilt

section
variable {any : AnyDevice} {r : Request} {buf : Bytes} {length : Nat}

theorem diskSpoils {δ : Type} [Derives δ StorageDevice] {v : Virtual δ} {put : δ → AnyDevice} {d : δ}
    (storage : (put d).storage = some (base d))
    (pages : ∀ size, changeablePages ((put d).mapStorage fun s => { s with blockSize := size }) r = pagesOf v r (withSize d size))
    (noTape : ∀ e, put d ≠ .tape e)
    (sized : ∀ size, geometry (put (withSize d size)) = geometry (put d) → size = (base d : StorageDevice).blockSize) :
    (Spoils v False r d buf length → geometry (put (spoiled id d (blockLength r buf))) = geometry (put d)) ↔
      ¬HalfApplied (put d) r buf length := by
  constructor
  · rintro kept ⟨described,format,⟨e,same,_⟩ | ⟨s,here,other,some_,words,unacceptable⟩⟩
    · exact noTape e same
    · cases storage.symm.trans here
      rw [pages] at unacceptable
      refine other (sized _ ?_)
      rw [← kept ⟨described,format,.inr ⟨fun wrong => wrong.1,other,some_,words,unacceptable⟩⟩,spoiled,if_neg some_]
  · rintro fine ⟨described,format,⟨wrong,_⟩ | ⟨_,other,some_,words,unacceptable⟩⟩
    · exact wrong.elim
    · refine absurd ⟨described,format,.inr ⟨_,storage,other,some_,words,?_⟩⟩ fine
      rw [pages]
      exact unacceptable

theorem tapeSpoils {d : Tape} : (Spoils Tape.virtual True r d buf length →
      geometry (.tape (spoiled (fun d => { d with blockSizeForDescriptor := 0 }) d (blockLength r buf))) = geometry (.tape d)) ↔
    ¬HalfApplied (.tape d) r buf length := by
  constructor
  · rintro kept ⟨described,format,⟨e,same,nonzero,zero⟩ | ⟨s,here,other,some_,words,unacceptable⟩⟩
    · cases same
      have geometries := kept ⟨described,format,.inl ⟨trivial,zero⟩⟩
      rw [spoiled,if_pos zero] at geometries
      exact nonzero (congrArg Geometry.descriptor (Option.some.inj geometries)).symm
    · cases here
      have geometries := kept ⟨described,format,.inr ⟨fun wrong => some_ wrong.2,other,some_,words,unacceptable⟩⟩
      rw [spoiled,if_neg some_] at geometries
      exact other (congrArg Geometry.blockSize (Option.some.inj geometries))
  · rintro fine ⟨described,format,⟨_,zero⟩ | ⟨_,other,some_,words,unacceptable⟩⟩
    · have already : d.blockSizeForDescriptor = 0 :=
        not_not.mp fun nonzero => fine ⟨described,format,.inl ⟨d,rfl,nonzero,zero⟩⟩
      rw [spoiled,if_pos zero]
      change some (Geometry.mk d.blockSize d.blocks 0 none) = some ⟨d.blockSize,d.blocks,d.blockSizeForDescriptor,none⟩
      rw [already]
    · exact absurd ⟨described,format,.inr ⟨_,rfl,other,some_,words,unacceptable⟩⟩ fine

theorem listAtomicIff (storage : any.supportsImageFile = true) (t : Transfer) (w : World) (length : Int) :
    Atomic any (AnyDevice.methods.modeSelect length r ⟨any,t,w⟩) ↔ ¬HalfApplied any r t.buffer length.toNat := by
  have blockSizes {d e : Disk} (same : some (diskGeometry d) = some (diskGeometry e)) : d.blockSize = e.blockSize :=
    congrArg Geometry.blockSize (Option.some.inj same)
  cases any with
  | scsiHd d =>
    refine (atomicIff .scsiHd (modeSelected (diskChecks .scsiHd _) length _)).trans (diskSpoils rfl (fun _ => rfl) ?_ ?_)
    · exact fun _ wrong => by cases wrong
    · exact fun _ same => blockSizes same
  | sasiHd d =>
    refine (atomicIff .sasiHd (modeSelected (diskChecks .sasiHd _) length _)).trans (diskSpoils rfl (fun _ => rfl) ?_ ?_)
    · exact fun _ wrong => by cases wrong
    · exact fun _ same => blockSizes same
  | opticalMemory d =>
    refine (atomicIff .opticalMemory (modeSelected (diskChecks .opticalMemory _) length _)).trans
      (diskSpoils rfl (fun _ => rfl) ?_ ?_)
    · exact fun _ wrong => by cases wrong
    · exact fun _ same => blockSizes same
  | scsiCd d =>
    have ends := modeSelected (r := r) (diskChecks .scsiCd ScsiCd.setUpModePages) length ⟨d,t,w⟩
    have tracked : wp (ScsiCd.methods.modeSelect length) r ⟨d,t,w⟩
        (fun _ _ => ¬Spoils (Disk.virtual ScsiCd.setUpModePages) False r d t.buffer length.toNat) fun _ u =>
        ¬Spoils (Disk.virtual ScsiCd.setUpModePages) False r d t.buffer length.toNat ∧ u.device = d ∨
          Spoils (Disk.virtual ScsiCd.setUpModePages) False r d t.buffer length.toNat ∧
            u.device = spoiled id d (blockLength r t.buffer) :=
      (wpBind _ _).mpr (wpMono ends (fun _ _ done => done) fun _ _ failed => failed)
    refine (atomicIff .scsiCd tracked).trans (diskSpoils rfl (fun _ => rfl) ?_ ?_)
    · exact fun _ wrong => by cases wrong
    · exact fun _ same => blockSizes same
  | tape d => exact (atomicIff .tape (modeSelected tapeChecks length _)).trans tapeSpoils
  | printer | daynaPort | hostServices | scsiGeneric => cases storage

end

theorem modeSelectAtomicIff {any : AnyDevice} (storage : any.supportsImageFile = true) {r : Request} {list : Bytes}
    (asks : ModeSelect.Asks r list.length) (t : Transfer) (w : World) :
    SelectsAtomically any r t w list ↔
      ¬(ModeSelect.Willing any (r.cdbByte 1) ∧ HalfApplied any r (delivered t list).buffer list.length) := by
  have answered := ModeSelect.dispatchAnswers (s := ⟨any,t,w⟩) asks fun g wrong => by
    change any = _ at wrong
    rw [wrong] at storage
    cases storage
  unfold SelectsAtomically
  by_cases willing : ModeSelect.Willing any (r.cdbByte 1)
  · rw [answered.1 willing]
    have lists := listAtomicIff (r := r) storage (delivered t list) w list.length
    rw [Int.toNat_natCast] at lists
    constructor
    · rintro ⟨_,atomic⟩ ⟨_,half⟩
      exact lists.mp (atomic _ rfl) half
    · refine fun fine => ⟨fun e wrong => (by cases wrong),fun u same => ?_⟩
      cases same
      exact lists.mpr fun half => fine ⟨willing,half⟩
  · rw [answered.2 willing]
    refine ⟨fun _ wrong => willing wrong.1,fun _ => ⟨fun _ _ => ?_,fun u wrong => (by cases wrong)⟩⟩
    change geometry (ModeSelect.refused any) = geometry any
    unfold ModeSelect.refused
    split
    · cases any <;> rfl
    · rfl

def hardDisk : AnyDevice :=
  .scsiHd { type := .schd, lun := 0, ready := true, blocks := 8, blockSize := 512, supportedBlockSizes := [512,1024,2048,4096],
            cachingMode := .linux }

/- MODE SELECT(6) with the PF bit and 14 bytes of parameters. -/
def selectRequest : Request := { cdb := [0x15,0x10,0,0,14,0] }

/- The current block length, and a page that does not exist. -/
theorem sameLengthAtomic : SelectsAtomically hardDisk selectRequest {} {} ([0,0,0,8] ++ [0,0,0,0,0,0,2,0] ++ [0x3d,0]) :=
  (modeSelectAtomicIff rfl (.inl ⟨by decide,by decide⟩) {} {}).mpr fun ⟨_,_,_,half⟩ => by
    rcases half with ⟨_,wrong,_⟩ | ⟨s,same,other,_⟩
    · cases wrong
    · cases same
      exact other (by decide +kernel)

/- Another block length, and the same page: the command fails and the block size is 1024. -/
theorem otherLengthStored : ¬SelectsAtomically hardDisk selectRequest {} {} ([0,0,0,8] ++ [0,0,0,0,0,0,4,0] ++ [0x3d,0]) := by
  rintro ⟨_,atomic⟩
  let asked := AnyDevice.methods.dispatch selectRequest.opcode selectRequest ⟨hardDisk,{},{}⟩
  have accepted : asked.1 = .ok (.dataOut 14) := by decide +kernel
  have sizes := congrArg (Option.map Geometry.blockSize) <|
    atomic asked.2 (Prod.ext accepted rfl) ⟨.illegalRequest,.invalidFieldInParameterList⟩ (by decide +kernel)
  exact absurd sizes (by decide +kernel)

end Scsi2Pi.ParameterList
