import Scsi2Pi.TapeWholeBlocks

/-! The INFORMATION field after a READ with FIXED that ends early. -/
namespace Scsi2Pi
open Slices MemoryUtil Handler Derives Eff SimhUtil

namespace Tape

/-! An INFORMATION field that is 0 stays 0 up to the first data. -/

structure Blank (s t : HandlerState Tape) : Prop where
  blank : s.device.information = 0 → t.device.information = 0

instance : IsPreorder (HandlerState Tape) Blank where
  refl _ := ⟨id⟩
  trans _ _ _ h h' := ⟨fun none => h'.blank (h.blank none)⟩

theorem modifyBlank {f : Tape → Tape} (same : ∀ d, (f d).information = d.information) : Does Blank (modifyDevice f) :=
  fun _ s => ⟨⟨fun none => (same s.device).trans none⟩,trivial⟩

theorem superModifyBlank {f : PrimaryDevice → PrimaryDevice} (same : ∀ d, d.information = 0 → (f d).information = 0) :
    Does Blank (super (modifyDevice f)) :=
  fun _ s => ⟨⟨fun none => same (base s.device) none⟩,trivial⟩

theorem informationBlank : Does Blank (setInformation 0) := by
  have zero : int32 0 = 0 := by decide
  exact superModifyBlank fun _ _ => zero

theorem advanceBlank (count : Int) : Does Blank (advance count) := modifyBlank fun _ => rfl

theorem readMetaDataHereBlank : Does Blank readMetaDataHere := by
  refine meetsThen doesGetDevice fun d _ => meetsThen doesGetWorld fun w _ => ?_
  cases readMetaData (d.stream w) d.tapePosition with
  | none => exact meetsThrow _
  | some metaData => exact doesPure _

theorem readSimhMetaDataBlank (fuel : Nat) : Does Blank (readSimhMetaData 0 false fuel) := by
  induction fuel with
  | zero => exact meetsThrow _
  | succ fuel ih =>
    have next : Does Blank (readNextMetaData false) :=
      meetsThen readMetaDataHereBlank fun _ _ => meetsThen (advanceBlank _) fun _ _ => doesPure _
    refine meetsThen next fun found _ => ?_
    cases found with
    | none =>
      refine meetsThen (modifyBlank fun _ => rfl) fun _ _ => meetsThen informationBlank fun _ _ => ?_
      exact meetsThen (superModifyBlank fun _ none => none) fun _ _ => meetsThrow _
    | some m =>
      refine meetsThen (modifyBlank fun d => by split <;> rfl) fun _ _ => ?_
      cases objectOf m with
      | some object => exact doesPure _
      | none =>
        have rest : Does Blank (do
            if !false then advance (recordSize m)
            readSimhMetaData 0 false fuel) := meetsThen (advanceBlank _) fun _ _ => ih
        refine meetsIte (fun _ => ?_) fun _ => rest
        have ends : Does Blank (raiseEndOfPartition 0 : Handler Tape PUnit) := by
          refine meetsThen informationBlank fun _ _ => ?_
          exact meetsThen (superModifyBlank fun _ none => none) fun _ _ => meetsThrow _
        exact meetsThen ends fun _ _ => rest

theorem findObjectFromBlank (limit fuel identifier : Nat) : Does Blank (findObjectFrom limit fuel identifier) := by
  induction fuel generalizing identifier with
  | zero => exact meetsThrow _
  | succ fuel ih =>
    refine meetsThen (readSimhMetaDataBlank limit) fun found _ => ?_
    obtain ⟨object,m⟩ := found
    refine meetsIte (fun _ => doesPure _) fun _ => meetsIte (fun _ => ?_) fun _ => ih _
    exact meetsThen (advanceBlank _) fun _ _ => meetsIte (fun _ => doesPure _) fun _ => ih _

theorem checkReadyBlank : Does Blank checkReady := by
  intro r s
  simp only [checkReady,PrimaryDevice.checkReady,wpSuper,wpBind,wpGetDevice,wpIte,wpModifyDevice,wpThrow,wpPure]
  have same {t : HandlerState Tape} (info : t.device.information = s.device.information) : Blank s t :=
    ⟨fun none => info.trans none⟩
  exact ⟨fun _ => same rfl,fun _ => ⟨fun _ => same rfl,fun _ => ⟨fun _ => same rfl,fun _ => ⟨same rfl,trivial⟩⟩⟩⟩

theorem locateBlank (locate16 : Bool) : Does Blank (locate locate16) := by
  refine meetsThen checkReadyBlank fun _ _ => meetsThen doesGetRequest fun r _ => meetsUnless fun _ => ?_
  refine meetsThen doesGetDevice fun d _ => meetsIte (fun _ => meetsIte (fun _ => ?_) fun _ => ?_) fun _ => ?_
  · exact meetsUnless fun _ => meetsThen (modifyBlank fun _ => rfl) fun _ _ => doesPure _
  · exact meetsThen (modifyBlank fun _ => rfl) fun _ _ => doesPure _
  · refine meetsUnless fun _ => meetsThen (modifyBlank fun _ => rfl) fun _ _ => meetsIte (fun _ => ?_) fun _ => doesPure _
    exact meetsThen doesGetDevice fun _ _ => meetsThen doesGetWorld fun _ _ => findObjectFromBlank _ _ _

section
variable {r : Request} {s t : HandlerState Tape} {long : Bool} {a : Asked} {bytes : Bytes} {size count n k remains rest : Nat}
  {position place info info' : Int} {m : SimhMetaData} {start : Int}

theorem positionedBlank (passed : ¬Refused r long false s) (blank : s.device.information = 0) :
    (positioned r long s).device.information = 0 := by
  have located : wp (locateExplicitly long) r s (fun _ t => Blank s t) fun _ _ => True := by
    unfold locateExplicitly
    rw [wpBind,wpModifyDevice,wpIte]
    refine ⟨fun _ => ?_,fun _ => ⟨id⟩⟩
    rw [wpBind]
    refine wpMono (locateBlank true r _) (fun found u kept => ?_) fun _ _ _ => trivial
    rw [wpIte]
    refine ⟨fun _ => ?_,fun _ => ⟨kept.1.blank⟩⟩
    rw [wpBind,wpGetRequest,wpBind]
    exact wpMono (setInformationMoves _ r u) (fun _ _ _ => trivial) fun _ _ _ => trivial
  unfold positioned
  cases ran : locateExplicitly long r s with
  | mk result u =>
    cases result with
    | error e => exact absurd (.inr (.inr (.inr (.inr (.inr (.inr (.inl ⟨e,u,ran⟩))))))) passed
    | ok _ => exact (wpOk located ran).blank blank

/-! A command that is too large does not get to the data of its first record. -/

/- Nothing has been read yet. -/
structure Unread (s : HandlerState Tape) : Prop where
  fixed : s.device.fixed = true
  simh : s.device.tarFile = false
  left : s.device.remainingCount = s.device.byteCount
  read : s.device.blocksRead = 0

theorem Unread.moved (unread : Unread s) (moved : Moved s t) : Unread t where
  fixed := (moved.same (fun d => d.fixed) fun _ => rfl).trans unread.fixed
  simh := (moved.same (fun d => d.tarFile) fun _ => rfl).trans unread.simh
  left := (moved.same (fun d => d.remainingCount) fun _ => rfl).trans
    (unread.left.trans (moved.same (fun d => d.byteCount) fun _ => rfl).symm)
  read := (moved.same (fun d => d.blocksRead) fun _ => rfl).trans unread.read

theorem wpOpenUnread (known : On bytes 0 position s) (unread : Unread s) :
    wp openRecord r s (fun _ t => t.device.information = 0 ∧ Unread t) fun _ t => t.device.information = 0 := by
  unfold openRecord
  rw [wpBind]
  refine wpMono (wpBoth (wpFindBlock known) (findNextMoves .block 0 true r s)) (fun m t ended => ?_) fun _ t failed => ?_
  · obtain ⟨⟨place,length,-,there⟩,moved,-⟩ := ended
    obtain ⟨fixed,simh,left,read⟩ := unread.moved moved
    unfold advance
    simp only [wpBind,wpModifyDevice,wpIte,wpThrow]
    exact ⟨fun _ => there.information,fun _ => ⟨there.information,fixed,simh,left,read⟩⟩
  · exact failed.1.2.elim And.right And.right

theorem wpCheckUnread (blank : s.device.information = 0) (unread : Unread s) :
    wp checkBlockLength r s (fun _ t => t.device.information = 0) fun _ _ => False := by
  have zero : int32 0 = 0 := by decide
  have nothing : uint32 (s.device.byteCount - s.device.byteCount : Int) = 0 := by
    rw [Int.sub_self]
    rfl
  unfold checkBlockLength
  rw [wpBind,wpGetRequest,wpBind,wpGetDevice,wpIte]
  dsimp only
  rw [unread.left,nothing,unread.read,unread.fixed,Int.ofNat_zero,Int.zero_ediv,Int.sub_zero]
  refine ⟨fun _ => ?_,fun _ => blank⟩
  by_cases divides : s.device.byteCount % s.device.recordLength = 0
  · simp only [divides,ne_eq,not_true,and_false,if_false,Bool.not_true,Bool.false_eq_true,false_and,wpPure]
    exact blank
  · simp only [divides,ne_eq,not_false_eq_true,and_self,if_true]
    exact zero

theorem limitTransferBlank (actual : Nat) : Does Blank (limitTransfer actual) := by
  refine meetsThen (modifyBlank fun _ => rfl) fun _ _ => meetsThen doesGetDevice fun _ _ => ?_
  have kept (f : Transfer → Transfer) : Does Blank (modifyTransfer f : Handler Tape Unit) := fun _ _ => ⟨⟨id⟩,trivial⟩
  exact meetsThen (kept _) fun _ _ => kept _

theorem wpReadBlank {length : Int} (blank : s.device.information = 0) (negative : length < 0) :
    wp (readChunk length) r s (fun _ _ => False) fun _ t => t.device.information = 0 := by
  unfold readChunk readFile
  simp only [wpBind,wpGetDevice,wpGetWorld]
  split
  · exact blank
  · rw [wpIte]
    exact ⟨fun _ => blank,fun wrong => absurd (.inl negative) wrong⟩

theorem wpReadOversized (known : On bytes 0 position s) (unread : Unread s) (negative : s.transfer.chunkSize < 0) :
    wp readData r s (fun _ _ => False) fun _ t => t.device.information = 0 := by
  unfold readData
  rw [wpBind,wpGetTransfer,wpBind]
  refine wpBoundaryOn known.fixed unread.simh ?_
  rw [if_pos rfl,wpBind]
  have begun : On bytes 0 position { s with device := { s.device with initial := false } } :=
    ⟨known.opened,known.here,known.information,known.fixed⟩
  unfold beginRecord
  rw [wpBind]
  refine wpMono (wpOpenUnread begun ⟨unread.fixed,unread.simh,unread.left,unread.read⟩) (fun _ t opened => ?_)
    fun _ _ failed => failed
  rw [wpBind]
  refine wpMono (wpCheckUnread opened.1 opened.2) (fun actual u blank => ?_) fun _ _ wrong => wrong.elim
  rw [wpIte]
  refine ⟨fun _ => wpReadBlank blank negative,fun _ => ?_⟩
  rw [wpBind]
  refine wpMono (limitTransferBlank actual r u) (fun _ v kept => ?_) fun _ _ kept => kept.blank blank
  rw [wpPure]
  exact wpReadBlank (kept.1.blank blank) (by omega)

/-! The chunks before the one that ends the command. -/

/- The next chunk can be read, from a record with an acceptable length. -/
def Acceptable (bytes : Bytes) (size count : Nat) (position : Int) (remains : Nat) : Prop :=
  ∃ m start, NextBlock bytes position m start ∧ count % m.value = 0 ∧ Closes bytes m.value start (min size remains)

/- After this many blocks there is one that ends the command, with its position and the
number of bytes that have not been sent. -/
inductive Halts (bytes : Bytes) (size count : Nat) : Int → Nat → Nat → Int → Nat → Prop where
  | now {position : Int} {remains : Nat} (more : remains ≠ 0) (stops : ¬Acceptable bytes size count position remains) :
      Halts bytes size count position remains 0 position remains
  | later {position start place : Int} {remains blocks rest : Nat} {m : SimhMetaData} (found : NextBlock bytes position m start)
      (divides : count % m.value = 0) (closes : Closes bytes m.value start (min size remains))
      (later : Halts bytes size count (start + pad m.value + metaDataSize) (remains - min size remains) blocks place rest) :
      Halts bytes size count position remains (blocks+1) place rest

theorem Halts.total (halts : Halts bytes size count position remains k place rest) :
    remains = k * size + rest ∧ rest ≠ 0 ∧ ¬Acceptable bytes size count place rest := by
  induction halts with
  | now more stops => exact ⟨by omega,more,stops⟩
  | @later _ _ _ remains blocks rest _ found divides closes later ih =>
    refine ⟨?_,ih.2⟩
    have sum := ih.1
    have some := ih.2.1
    rw [Nat.succ_mul]
    omega

/- What is left to do after some of the chunks. -/
def between (s : HandlerState Tape) (bytes : Bytes) (count remains : Nat) : Asked :=
  { atStart s bytes count with left := remains, remains, chunk := min s.device.blockSize remains }

theorem afterBetween (divides : count % m.value = 0) (more : remains - min s.device.blockSize remains ≠ 0) :
    ((between s bytes count remains).after m.value).sent =
      between s bytes count (remains - min s.device.blockSize remains) := by
  have after := (Asked.afterDivides (a := between s bytes count remains) divides).1
  rw [after]
  unfold Asked.closed Asked.sent between atStart
  dsimp only
  rw [if_neg more]
theorem leavesHalts (halts : Halts bytes s.device.blockSize count position remains k place rest)
    (same : a.sent = between s bytes count remains) (leaves : Leaves a position info) :
    ∃ b, b.sent = between s bytes count rest ∧ Leaves b place info := by
  induction halts generalizing a with
  | now more stops => exact ⟨a,same,leaves⟩
  | @later position start place remains blocks rest m found divides closes later ih =>
    obtain ⟨sum,some,-⟩ := later.total
    have file : a.bytes = bytes := congrArg Asked.bytes same
    have left : a.remains - a.chunk = remains := congrArg Asked.remains same
    have total : (between s bytes count remains).count % m.value = 0 := divides
    cases leaves with
    | done none => omega
    | missing _ none => exact absurd ⟨_,_,file ▸ found⟩ none
    | @unclosed _ _ start' _ m' _ found' unclosed =>
      rw [file] at found'
      obtain ⟨rfl,rfl⟩ := nextBlockOnce found found'
      rw [same] at unclosed
      have taken : (between s bytes count remains).taken m.value = min s.device.blockSize remains := if_pos total
      have checked : (between s bytes count remains).checked m.value = between s bytes count remains := if_pos total
      rw [taken,checked] at unclosed
      rcases unclosed with ⟨mismatch,-⟩ | ⟨outside,-⟩
      · exact absurd closes.trailing mismatch.2
      · exact absurd closes.toInside outside
    | @next _ _ start' _ m' _ found' closes' leaves =>
      rw [file] at found'
      obtain ⟨rfl,rfl⟩ := nextBlockOnce found found'
      rw [same] at leaves
      exact ih (afterBetween divides (by omega)) leaves

/-! The record that ends the command. -/

/- When the INFORMATION field gets the number of blocks that have not been sent: a trailing
length that differs in the last block; a length that does not divide the byte count, half
way, unless a longer record is followed by something else that is reported. -/
inductive ResidualRight (a : Asked) (position : Int) (n k : Nat) : Prop where
  | mismatch {m : SimhMetaData} {start : Int} (found : NextBlock a.bytes position m start)
      (differs : Mismatch a.bytes m.value start (a.taken m.value)) (last : n = k + 1)
  | outside {m : SimhMetaData} {start : Int} (found : NextBlock a.bytes position m start) (other : a.count % m.value ≠ 0)
      (outside : ¬Inside a.bytes m.value start (a.taken m.value)) (half : n = 2 * k)
  | short {m : SimhMetaData} {start : Int} (found : NextBlock a.bytes position m start) (other : a.count % m.value ≠ 0)
      (closes : Closes a.bytes m.value start (a.taken m.value)) (short : min m.value a.count ≤ a.blockSize) (half : n = 2 * k)
  | long {m : SimhMetaData} {start : Int} (found : NextBlock a.bytes position m start) (other : a.count % m.value ≠ 0)
      (closes : Closes a.bytes m.value start (a.taken m.value)) (long : a.blockSize < min m.value a.count)
      (later : Leaves (a.after m.value) (start + pad m.value + metaDataSize) (n - k))

theorem missingOnce (missing : Missing bytes position info place) (missing' : Missing bytes position info info') :
    place = info' := by
  rcases missing with ⟨clears,none⟩ | ⟨other,same⟩ <;> rcases missing' with ⟨clears',none'⟩ | ⟨other',same'⟩
  · exact none.trans none'.symm
  · exact absurd clears other'
  · exact absurd clears' other
  · exact same.trans same'.symm

theorem unclosedOnce {length chunk : Nat} (unclosed : Unclosed a length start chunk info)
    (unclosed' : Unclosed a length start chunk info') : info = info' := by
  rcases unclosed with ⟨mismatch,one⟩ | ⟨outside,same⟩ <;> rcases unclosed' with ⟨mismatch',one'⟩ | ⟨outside',same'⟩
  · exact one.trans one'.symm
  · exact absurd mismatch.1 outside'
  · exact absurd mismatch'.1 outside
  · exact same.trans same'.symm

theorem closesNever {length chunk : Nat} (closes : Closes bytes length start chunk) : ¬Mismatch bytes length start chunk ∧
    Inside bytes length start chunk := ⟨fun mismatch => mismatch.2 closes.trailing,closes.toInside⟩

theorem checkedFile (a : Asked) (length : Nat) : (a.checked length).bytes = a.bytes ∧ (a.checked length).read = a.read := by
  unfold Asked.checked
  split <;> exact ⟨rfl,rfl⟩

theorem unclosedNever {length chunk : Nat} (unclosed : Unclosed (a.checked length) length start chunk info) :
    ¬Closes a.bytes length start chunk := by
  intro closes
  rcases unclosed with ⟨mismatch,-⟩ | ⟨outside,-⟩
  · rw [(checkedFile a length).1] at mismatch
    exact (closesNever closes).1 mismatch
  · rw [(checkedFile a length).1] at outside
    exact outside closes.toInside

theorem leavesOnce (leaves : Leaves a position info) (leaves' : Leaves a position info') : info = info' := by
  induction leaves with
  | done none =>
    cases leaves' with
    | done => rfl
    | missing more => exact absurd none more
    | unclosed more => exact absurd none more
    | next more => exact absurd none more
  | missing more none missing =>
    cases leaves' with
    | done none' => exact absurd none' more
    | missing _ _ missing' => exact missingOnce missing missing'
    | unclosed _ found => exact absurd ⟨_,_,found⟩ none
    | next _ found => exact absurd ⟨_,_,found⟩ none
  | unclosed more found unclosed =>
    cases leaves' with
    | done none => exact absurd none more
    | missing _ none => exact absurd ⟨_,_,found⟩ none
    | unclosed _ found' unclosed' =>
      obtain ⟨rfl,rfl⟩ := nextBlockOnce found found'
      exact unclosedOnce unclosed unclosed'
    | next _ found' closes =>
      obtain ⟨rfl,rfl⟩ := nextBlockOnce found found'
      exact (unclosedNever unclosed closes).elim
  | next more found closes later ih =>
    cases leaves' with
    | done none => exact absurd none more
    | missing _ none => exact absurd ⟨_,_,found⟩ none
    | unclosed _ found' unclosed =>
      obtain ⟨rfl,rfl⟩ := nextBlockOnce found found'
      exact (unclosedNever unclosed closes).elim
    | next _ found' closes' later' =>
      obtain ⟨rfl,rfl⟩ := nextBlockOnce found found'
      exact ih later'

/- What CheckBlockLength leaves there: the number of blocks that have been sent. -/
theorem checkedInformation (blank : s.device.information = 0) (sized : 0 < s.device.blockSize)
    (total : count = k * s.device.blockSize + rest) (small : count < 2^31) (length : Nat) :
    ((between s bytes count rest).checked length).info = if count % length = 0 then 0 else (k : Int) := by
  have divided : (count - rest) / s.device.blockSize = k := by
    rw [total,Nat.add_sub_cancel]
    exact Nat.mul_div_cancel k sized
  have least : k * 1 ≤ k * s.device.blockSize := Nat.mul_le_mul_left k sized
  have bound : k < 2^31 := by omega
  have sent : uint32 (count - rest : Int) = count - rest := by
    have same : (count - rest : Int) = (count - rest : Nat) := by omega
    rw [same,uint32Fits (by omega)]
  by_cases divides : count % length = 0
  · have same : (between s bytes count rest).checked length = between s bytes count rest := if_pos divides
    rw [same,if_pos divides]
    exact blank
  · have other : ¬(between s bytes count rest).count % length = 0 := divides
    unfold Asked.checked
    rw [if_neg other,if_neg divides]
    dsimp only [between,atStart]
    rw [sent,Int.sub_zero,← Int.natCast_ediv,divided]
    exact (smallTotal bound).2

theorem residualLeft (same : a.sent = between s bytes count rest) (leaves : Leaves a position info)
    (blank : s.device.information = 0) (sized : 0 < s.device.blockSize) (total : count = k * s.device.blockSize + rest)
    (some : rest ≠ 0) (asks : count ≤ n * s.device.blockSize) (small : count < 2^31)
    (stops : ¬Acceptable bytes s.device.blockSize count position rest) :
    info = n - k ↔ ResidualRight (between s bytes count rest) position n k := by
  have less : k < n := by
    refine Nat.lt_of_mul_lt_mul_right (a := s.device.blockSize) ?_
    omega
  have file : a.bytes = bytes := congrArg Asked.bytes same
  have left : a.remains - a.chunk = rest := congrArg Asked.remains same
  have zero : a.info = 0 := (congrArg Asked.info same).trans blank
  cases leaves with
  | done none => exact absurd (left.symm.trans none) some
  | missing more none missing =>
    rw [file] at none missing
    have info : info = 0 := by
      rcases missing with ⟨-,cleared⟩ | ⟨-,kept⟩
      · exact cleared
      · exact kept.trans zero
    constructor
    · omega
    · intro right
      cases right with
      | mismatch found => exact absurd ⟨_,_,found⟩ none
      | outside found => exact absurd ⟨_,_,found⟩ none
      | short found => exact absurd ⟨_,_,found⟩ none
      | long found => exact absurd ⟨_,_,found⟩ none
  | @unclosed _ _ start _ m more found unclosed =>
    rw [same] at unclosed
    rw [file] at found
    have checked := checkedFile (between s bytes count rest) m.value
    have once {m' : SimhMetaData} {start' : Int} (found' : NextBlock bytes position m' start') := nextBlockOnce found found'
    rcases unclosed with ⟨mismatch,one⟩ | ⟨outside,kept⟩
    · rw [checked.2] at one
      have step : int32 (0 + 1) = 1 := by decide
      have one : info = 1 := one.trans step
      rw [checked.1] at mismatch
      constructor
      · exact fun right => .mismatch found mismatch (by omega)
      · intro right
        cases right with
        | mismatch _ _ last => omega
        | outside found' _ outside =>
          obtain ⟨rfl,rfl⟩ := once found'
          exact absurd mismatch.1 outside
        | short found' _ closes =>
          obtain ⟨rfl,rfl⟩ := once found'
          exact absurd mismatch (closesNever closes).1
        | long found' _ closes =>
          obtain ⟨rfl,rfl⟩ := once found'
          exact absurd mismatch (closesNever closes).1
    · rw [checked.1] at outside
      rw [checkedInformation blank sized total small] at kept
      constructor
      · intro right
        split at kept
        · omega
        · next other => exact .outside found other outside (by omega)
      · intro right
        cases right with
        | mismatch found' mismatch =>
          obtain ⟨rfl,rfl⟩ := once found'
          exact absurd mismatch.1 outside
        | outside found' other _ half =>
          obtain ⟨rfl,rfl⟩ := once found'
          have other : ¬count % m.value = 0 := other
          rw [if_neg other] at kept
          omega
        | short found' _ closes =>
          obtain ⟨rfl,rfl⟩ := once found'
          exact absurd closes.toInside outside
        | long found' _ closes =>
          obtain ⟨rfl,rfl⟩ := once found'
          exact absurd closes.toInside outside
  | @next _ _ start _ m more found closes later =>
    rw [same] at closes later
    rw [file] at found closes
    have once {m' : SimhMetaData} {start' : Int} (found' : NextBlock bytes position m' start') := nextBlockOnce found found'
    have other : count % m.value ≠ 0 := by
      intro divides
      have taken : (between s bytes count rest).taken m.value = min s.device.blockSize rest := if_pos divides
      rw [taken] at closes
      exact stops ⟨m,start,found,divides,closes⟩
    have limited : ((between s bytes count rest).after m.value).remains = min m.value count ∧
        ((between s bytes count rest).after m.value).chunk = min s.device.blockSize (min m.value count) ∧
        ((between s bytes count rest).after m.value).info = k := by
      have info : ((between s bytes count rest).checked m.value).info = if count % m.value = 0 then 0 else (k : Int) :=
        checkedInformation blank sized total small m.value
      rw [if_neg other] at info
      have other' : ¬(between s bytes count rest).count % m.value = 0 := other
      refine ⟨?_,?_,info⟩
      · unfold Asked.after Asked.checked Asked.closed
        rw [if_neg other']
        rfl
      · unfold Asked.after Asked.checked Asked.closed
        rw [if_neg other']
        rfl
    by_cases short : min m.value count ≤ s.device.blockSize
    · have info : info = k := by
        cases later with
        | done => exact limited.2.2
        | missing more => omega
        | unclosed more => omega
        | next more => omega
      constructor
      · exact fun right => .short found other closes short (by omega)
      · intro right
        cases right with
        | mismatch found' mismatch =>
          obtain ⟨rfl,rfl⟩ := once found'
          exact absurd mismatch (closesNever closes).1
        | outside _ _ _ half => omega
        | short _ _ _ _ half => omega
        | long found' _ _ long =>
          obtain ⟨rfl,rfl⟩ := once found'
          exact absurd short (Nat.not_le_of_lt long)
    · constructor
      · intro right
        rw [right] at later
        exact .long found other closes (Nat.lt_of_not_le short) later
      · intro right
        cases right with
        | mismatch found' mismatch =>
          obtain ⟨rfl,rfl⟩ := once found'
          exact absurd mismatch (closesNever closes).1
        | outside found' _ outside =>
          obtain ⟨rfl,rfl⟩ := once found'
          exact absurd closes.toInside outside
        | short found' _ _ short' =>
          obtain ⟨rfl,rfl⟩ := once found'
          exact absurd short' short
        | long found' _ _ _ later' =>
          obtain ⟨rfl,rfl⟩ := once found'
          exact leavesOnce later later'

/- A READ with FIXED for n blocks that ends early, with the number of blocks it sends, and the
place and what is left when it stops. -/
inductive EndsAfter (bytes : Bytes) (size n : Nat) (position : Int) : Nat → Int → Nat → Prop where
  | oversized (large : Oversized size n) : EndsAfter bytes size n position 0 position (uint32 (n * size : Nat))
  | halts {k rest : Nat} {place : Int} (fits : ¬Oversized size n)
      (halts : Halts bytes size (uint32 (n * size : Nat)) position (uint32 (n * size : Nat)) k place rest) :
      EndsAfter bytes size n position k place rest

theorem wpReadTooMuch {cmd : ScsiCommand} (listed : (cmd,long,false) ∈ transferCommands) (fixed : isFixed r)
    (simh : s.device.tarFile = false) (opened : s.device.stream s.world = some bytes) (size : s.device.blockSize < 2^32)
    (blank : s.device.information = 0) (passed : ¬Refused r long false s)
    (large : Oversized s.device.blockSize (transferLength r long)) :
    wp (readCommand cmd) r s (fun _ t => t.device.information = 0) fun _ _ => False := by
  obtain ⟨stream,flag,tar,block,-⟩ := positionedDrive passed fixed
  have total : s.device.total r long = transferLength r long * s.device.blockSize := if_pos fixed
  have fails : wp readData r (readsFrom (positioned r long s) (uint32 (s.device.total r long))) (fun _ _ => False)
      fun _ t => t.device.information = 0 := by
    refine wpReadOversized ⟨stream.trans opened,rfl,positionedBlank passed blank,flag⟩ ⟨flag,tar.trans simh,rfl,rfl⟩ ?_
    rw [total]
    exact oversizedChunk (block ▸ large.2) (uint32Lt _) (block ▸ size)
  unfold readCommand
  rw [wpTryCatch,wpBind]
  refine wpMono (wpTransfer listed (fun wrong _ _ _ => absurd wrong passed) fun _ _ e t failed => wpError fails failed)
    (fun call t ended => ?_) fun e t none => none
  cases ended.2 with
  | nothing _ _ none => exact absurd (total ▸ none) large.1
  | sends length _ _ ran => exact (wpOk fails ran).elim

theorem residualEnded {result : Bytes × DataEnd} {place : Int} (fixed : isFixed r) (sized : 0 < s.device.blockSize)
    (blank : s.device.information = 0) (passed : ¬Refused r long false s) (ended : Ended r long s bytes result t)
    (fits : ¬Oversized s.device.blockSize (transferLength r long))
    (halts : Halts bytes s.device.blockSize (uint32 (transferLength r long * s.device.blockSize : Nat))
      (positioned r long s).device.tapePosition (uint32 (transferLength r long * s.device.blockSize : Nat)) k place rest) :
    t.device.information = (transferLength r long - k : Int) ↔
      ResidualRight (between (positioned r long s) bytes (uint32 (transferLength r long * s.device.blockSize : Nat)) rest)
        place (transferLength r long) k := by
  have total : s.device.total r long = transferLength r long * s.device.blockSize := if_pos fixed
  have block := (positionedDrive passed fixed).2.2.2.1
  obtain ⟨sum,some,stops⟩ := halts.total
  cases ended with
  | refused wrong => exact absurd wrong passed
  | nothing _ none =>
    rw [total] at none
    omega
  | oversized _ some large => exact absurd ⟨total ▸ some,total ▸ large⟩ fits
  | sends _ _ small _ sent =>
    rw [total] at small sent
    have asks : uint32 (transferLength r long * s.device.blockSize : Nat) ≤ transferLength r long * s.device.blockSize := by
      unfold uint32
      omega
    generalize uint32 (transferLength r long * s.device.blockSize : Nat) = count at small sent halts sum stops asks ⊢
    rw [← block] at halts sum stops asks sized
    obtain ⟨b,same,leaves⟩ := leavesHalts halts rfl sent.leaves
    exact residualLeft same leaves (positionedBlank passed blank) sized sum some asks small stops

end

end Tape

namespace Tape

/- A block of 8 bytes and a shorter one. -/
def unequalBlocks : SimhImage where
  objects := [.record .tapeMarkGoodDataRecord [1,2,3,4,5,6,7,8],.record .tapeMarkGoodDataRecord [1,2,3,4,5,6]]
  wellFormed o member := by
    simp only [List.mem_cons,List.not_mem_nil,or_false] at member
    rcases member with rfl | rfl <;> exact ⟨by decide,by decide⟩

/- READ(6) of two blocks, with FIXED. -/
def readTwo : Request := { cdb := [0x08,1,0,0,2,0] }

theorem goodRecord {bytes : Bytes} {position : Int} {value : Nat} {start : Int} (word : readMetaData (some bytes) position = some ⟨.tapeMarkGoodDataRecord,value⟩)
    (some : value ≠ 0) (there : position + metaDataSize + value % 2 = start) :
    NextBlock bytes position ⟨.tapeMarkGoodDataRecord,value⟩ start := by
  have object : objectOf ⟨.tapeMarkGoodDataRecord,value⟩ = Option.some (.block,value) := by simp [objectOf,some]
  subst there
  exact .record (.here (.found word (by rw [object]; exact Option.some_ne_none _)) object (.inl rfl)) some

theorem firstOfTwo : NextBlock unequalBlocks.bytes 0 ⟨.tapeMarkGoodDataRecord,8⟩ 4 :=
  goodRecord (by decide +kernel) (by decide) (by decide)

theorem secondOfTwo : NextBlock unequalBlocks.bytes 16 ⟨.tapeMarkGoodDataRecord,6⟩ 20 :=
  goodRecord (by decide +kernel) (by decide) (by decide)

theorem filemarkWellFormed : ∀ o ∈ [SimhObject.filemark], o.WellFormed := by
  intro o member
  rw [List.mem_singleton.mp member]
  exact trivial

def onlyFilemark : SimhImage where
  objects := [.filemark]
  wellFormed := filemarkWellFormed

end Tape
end Scsi2Pi
