import Scsi2Pi.TapeFixedData

/-! The blocks of an image that a READ with FIXED returns. -/
namespace Scsi2Pi
open Slices MemoryUtil Handler Derives Eff SimhUtil

namespace Tape

/- The next n blocks, all of this size, with their data and the position behind the last one. -/
inductive Whole (image : SimhImage) (size : Nat) : Nat → Int → Bytes → Int → Prop where
  | none {position : Int} : Whole image size 0 position [] position
  | block {n : Nat} {stop : Int} {block data : Bytes} {before skipped rest : List SimhObject} {o : SimhObject}
      (objects : image.objects = before ++ skipped ++ o :: rest) (bare : skipped.filterMap SimhObject.item = [])
      (found : o.item = some (.block block)) (whole : block.length = size)
      (later : Whole image size n ((before ++ skipped ++ [o]).flatMap SimhObject.encode).length data stop) :
      Whole image size (n+1) (before.flatMap SimhObject.encode).length (block ++ data) stop

/- A command ends with CHECK CONDITION when there has been an exception, or by its status. -/
def ChecksCondition (result : Bytes × DataEnd) (t : HandlerState Tape) : Prop :=
  (∃ e, result.2 = .failed e) ∨ result.2 = .complete ∧ t.transfer.status = .checkCondition

/- Whole blocks with GOOD, or else CHECK CONDITION. -/
def ReturnsWhole (image : SimhImage) (size n : Nat) (position : Int) (ran : Except ScsiException (Bytes × DataEnd) × HandlerState Tape) :
    Prop :=
  ∃ result t, ran = (.ok result,t) ∧
    (result.2 = .complete ∧ t.transfer.status = .good ∧ Whole image size n position result.1 t.device.tapePosition ∨
      ChecksCondition result t)

/- The comparisons of READ accept the records from a position on. -/
def Readable (bytes : Bytes) (size count : Nat) (position : Int) : Prop :=
  ∃ data stop, Delivers bytes size count position count data stop

/- There are n whole blocks, and an int can hold the number of their bytes. -/
def HasBlocks (image : SimhImage) (size n : Nat) (position : Int) : Prop :=
  n * size < 2^31 ∧ ∃ data stop, Whole image size n position data stop

section
variable {image : SimhImage} {size n : Nat} {position stop : Int} {data : Bytes} {bytes : Bytes}

theorem Whole.length (whole : Whole image size n position data stop) : data.length = n * size := by
  induction whole with
  | none => rw [Nat.zero_mul]; rfl
  | block objects bare found whole later ih =>
    rw [List.length_append,ih,whole,Nat.succ_mul]
    omega

theorem Whole.first (whole : Whole image size (n+1) position data stop) :
    ∃ o ∈ image.objects, ∃ block, o.item = some (.block block) ∧ block.length = size := by
  cases whole with
  | @block _ _ block _ _ _ _ o objects bare found whole later =>
    refine ⟨o,?_,block,found,whole⟩
    rw [objects]
    exact List.mem_append_right _ List.mem_cons_self

/- Objects that are not of the tape are passed. -/
theorem nextBehind {skipped : List SimhObject} {o : SimhObject} {after : Bytes} (before : Bytes)
    (good : ∀ p ∈ skipped ++ [o], p.WellFormed) (bare : skipped.filterMap SimhObject.item = [])
    (found : objectOf o.metaData ≠ none) (whole : bytes = before ++ (skipped.flatMap SimhObject.encode ++ (o.encode ++ after))) :
    Next bytes before.length o.metaData (before ++ skipped.flatMap SimhObject.encode).length := by
  induction skipped generalizing before with
  | nil =>
    have word := SimhObject.metaDataAt (good o (List.mem_cons_self)) before after
    subst whole
    simpa using Next.found word found
  | cons p skipped ih =>
    have wellFormed := good p List.mem_cons_self
    have other : p.item = none := by
      cases item : p.item with
      | none => rfl
      | some _ => rw [List.filterMap_cons_some item] at bare; cases bare
    rw [List.filterMap_cons_none other] at bare
    have whole' : bytes = (before ++ p.encode) ++ (skipped.flatMap SimhObject.encode ++ (o.encode ++ after)) := by
      rw [whole]
      simp only [List.flatMap_cons,List.append_assoc]
    have later := ih (before ++ p.encode) (fun q member => good q (List.mem_cons_of_mem _ member)) bare whole'
    have word := SimhObject.metaDataAt wellFormed before (skipped.flatMap SimhObject.encode ++ (o.encode ++ after))
    have same : before ++ (p.encode ++ (skipped.flatMap SimhObject.encode ++ (o.encode ++ after))) = bytes := by
      rw [whole]
      simp only [List.flatMap_cons,List.append_assoc]
    rw [same] at word
    obtain ⟨passed,more⟩ := passedObject wellFormed other
    have behind : ((before ++ p.encode).length : Int) = before.length + metaDataSize + recordSize p.metaData := by
      rw [List.length_append]
      have size := encodedLength wellFormed
      omega
    rw [behind] at later
    rw [List.flatMap_cons,← List.append_assoc]
    exact .passed word passed more later

/- A block of an image is delivered as a whole, if its length is even. -/
theorem blockNext {before skipped rest : List SimhObject} {o : SimhObject} {block : Bytes}
    (objects : image.objects = before ++ skipped ++ o :: rest) (bare : skipped.filterMap SimhObject.item = [])
    (found : o.item = some (.block block)) (even : block.length % 2 = 0) :
    ∃ m start, NextBlock image.bytes (before.flatMap SimhObject.encode).length m start ∧ m.value = block.length ∧
      Closes image.bytes m.value start block.length ∧ slice image.bytes start.toNat block.length = block ∧
      start + pad m.value + metaDataSize = ((before ++ skipped ++ [o]).flatMap SimhObject.encode).length := by
  have wellFormed : ∀ p ∈ before ++ skipped ++ [o], p.WellFormed := by
    intro p member
    refine image.wellFormed p ?_
    rw [objects]
    simp only [List.mem_append,List.mem_cons,List.not_mem_nil,or_false] at member ⊢
    exact member.imp_right .inl
  have good := wellFormed o (List.mem_append_right _ List.mem_cons_self)
  obtain ⟨object,word,kind⟩ := foundObject good found
  rcases kind with ⟨cls,data,rfl,item,rfl,some⟩ | ⟨-,item,-⟩ | ⟨-,item,-⟩
  · cases item
    let front := before.flatMap SimhObject.encode
    have whole : image.bytes = front ++ (skipped.flatMap SimhObject.encode ++
        ((SimhObject.record cls block).encode ++ SimhImage.bytesOf rest image.ending)) := by
      simp only [front,SimhImage.bytes,SimhImage.bytesOf,objects,List.flatMap_append,List.flatMap_cons,List.append_assoc]
    have next := nextBehind front (fun p member => wellFormed p (by
      rw [List.append_assoc]
      exact List.mem_append_right _ member)) bare (by rw [word]; exact Option.some_ne_none _) whole
    rw [← List.append_assoc] at whole
    obtain ⟨dataHere,trailing,behind,room⟩ := SimhObject.recordParts whole
    have start : ((front ++ skipped.flatMap SimhObject.encode).length : Int) + metaDataSize + (block.length : Nat) % 2 =
        ((front ++ skipped.flatMap SimhObject.encode).length + metaDataSize : Nat) := by
      omega
    have padded : block.length ≤ pad block.length := Nat.le_add_right _ _
    have reaches : Reaches image.bytes front.length (.block,block.length) ⟨cls,block.length⟩
        (front ++ skipped.flatMap SimhObject.encode).length := .here next word (.inl rfl)
    refine ⟨⟨cls,block.length⟩,_,.record reaches some,rfl,?_,?_,?_⟩
    · dsimp only
      rw [start]
      refine ⟨⟨Int.natCast_nonneg _,by omega,by omega⟩,?_⟩
      unfold trailingLength
      rw [← Int.natCast_add,Int.toNat_natCast,trailing,littleEndianRoundTrip _ good.2]
    · dsimp only
      rw [start]
      exact dataHere
    · dsimp only
      rw [start]
      have last : (before ++ skipped ++ [SimhObject.record cls block]).flatMap SimhObject.encode =
          front ++ skipped.flatMap SimhObject.encode ++ (SimhObject.record cls block).encode := by
        simp only [front,List.flatMap_append,List.flatMap_cons,List.flatMap_nil,List.append_nil,List.append_assoc]
      rw [last,behind]
      push_cast
      rfl
  · cases item
  · cases item

theorem wholeDelivers {count : Nat} (whole : Whole image size n position data stop) (sized : 0 < size)
    (even : size % 2 = 0) (divides : count % size = 0) :
    Delivers image.bytes size count position (n * size) data stop := by
  induction whole with
  | none =>
    rw [Nat.zero_mul]
    exact .nothing
  | @block n stop block data before skipped rest o objects bare found whole later ih =>
    obtain ⟨m,start,next,length,fits,here,behind⟩ := blockNext objects bare found (whole ▸ even)
    have chunk : min size ((n + 1) * size) = block.length := by
      rw [whole,Nat.succ_mul]
      omega
    have left : (n + 1) * size - block.length = n * size := by
      rw [whole,Nat.succ_mul]
      omega
    rw [← behind] at ih
    have more : 0 < (n + 1) * size := by
      rw [Nat.succ_mul]
      omega
    have delivers := Delivers.chunk more next (by rw [length,whole]; exact divides) (chunk ▸ fits) (by rw [chunk,left]; exact ih)
    rw [chunk,here] at delivers
    exact delivers

variable {r : Request} {long : Bool} {s t : HandlerState Tape} {result : Bytes × DataEnd}

theorem checks (ends : result.2 ≠ .unfinished) (status : result.2 = .complete → t.transfer.status = .good ∨ t.transfer.status = .checkCondition)
    (failed : ¬(result.2 = .complete ∧ t.transfer.status = .good)) : ChecksCondition result t := by
  cases ended : result.2 with
  | complete =>
    refine .inr ⟨ended,(status ended).resolve_left fun good => failed ⟨ended,good⟩⟩
  | failed e => exact .inl ⟨e,ended⟩
  | unfinished => exact absurd ended ends

theorem neverBoth (checks : ChecksCondition result t) : ¬(result.2 = .complete ∧ t.transfer.status = .good) := by
  rintro ⟨complete,good⟩
  rcases checks with ⟨e,failed⟩ | ⟨-,status⟩
  · cases complete.symm.trans failed
  · cases good.symm.trans status

theorem sentWhole {count : Nat} (good : s.transfer.status = .good)
    (sized : 0 < s.device.blockSize ∧ s.device.blockSize % 4 = 0) (same : count = uint32 (n * s.device.blockSize : Nat)) (small : count < 2^31)
    (sent : Sent (atStart s image.bytes count) position [] result t) : ReturnsWhole image s.device.blockSize n position (.ok result,t) ↔
      ¬Readable image.bytes s.device.blockSize count position ∨ HasBlocks image s.device.blockSize n position := by
  have succeeds (complete : result.2 = .complete) (good : t.transfer.status = .good) :
      Delivers image.bytes s.device.blockSize count position count result.1 t.device.tapePosition := by
    obtain ⟨-,data,same,delivers⟩ := sent.succeeds complete good
    rw [same]
    exact delivers
  constructor
  · rintro ⟨_,_,ran,⟨complete,good,whole⟩ | checked⟩
    · cases ran
      have length := (succeeds complete good).length.symm.trans whole.length
      exact .inr ⟨length ▸ small,_,_,whole⟩
    · cases ran
      refine .inl ?_
      rintro ⟨data,stop,delivers⟩
      exact sent.fails good (neverBoth checked) ⟨data,stop,delivers⟩
  · intro holds
    refine ⟨result,t,rfl,?_⟩
    by_cases ended : result.2 = .complete ∧ t.transfer.status = .good
    · have delivers := succeeds ended.1 ended.2
      refine .inl ⟨ended.1,ended.2,?_⟩
      rcases holds with none | ⟨fits,data,stop,whole⟩
      · exact absurd ⟨_,_,delivers⟩ none
      · have exact_ : count = n * s.device.blockSize := same.trans (smallTotal fits).1
        subst exact_
        have even : s.device.blockSize % 2 = 0 := by omega
        obtain ⟨rfl,rfl⟩ := deliversOnce (wholeDelivers whole sized.1 even (Nat.mul_mod_left _ _)) delivers
        exact whole
    · exact .inr (checks sent.ends sent.status ended)

theorem endedWhole (fixed : isFixed r) (good : s.transfer.status = .good)
    (sized : 0 < s.device.blockSize ∧ s.device.blockSize % 4 = 0) (ended : Ended r long s image.bytes result t) :
    ReturnsWhole image s.device.blockSize (transferLength r long) (positioned r long s).device.tapePosition (.ok result,t) ↔
      Refused r long false s ∨ Oversized s.device.blockSize (transferLength r long) ∨
      ¬Readable image.bytes s.device.blockSize (uint32 (transferLength r long * s.device.blockSize : Nat))
        (positioned r long s).device.tapePosition ∨
      HasBlocks image s.device.blockSize (transferLength r long) (positioned r long s).device.tapePosition := by
  have count : s.device.total r long = transferLength r long * s.device.blockSize := if_pos fixed
  have failed (e : ScsiException) (u : HandlerState Tape) (p : Int) :
      ReturnsWhole image s.device.blockSize (transferLength r long) p (.ok ([],.failed e),u) := ⟨_,_,rfl,.inr (.inl ⟨e,rfl⟩)⟩
  cases ended with
  | refused wrong => exact ⟨fun _ => .inl wrong,fun _ => failed _ _ _⟩
  | nothing passed none status here =>
    rw [count] at none
    constructor
    · rintro ⟨_,_,ran,⟨-,-,whole⟩ | checked⟩
      · cases ran
        have length : 0 = transferLength r long * s.device.blockSize := whole.length
        exact .inr (.inr (.inr ⟨by omega,_,_,whole⟩))
      · cases ran
        exact absurd ⟨rfl,status.trans good⟩ (neverBoth checked)
    · rintro (wrong | large | unreadable | ⟨fits,data,stop,whole⟩)
      · exact absurd wrong passed
      · exact absurd none large.1
      · refine absurd ?_ unreadable
        rw [none]
        exact ⟨_,_,.nothing⟩
      · rw [(smallTotal fits).1] at none
        have nothing := (Nat.mul_eq_zero.mp none).resolve_right (Nat.ne_of_gt sized.1)
        refine ⟨_,_,rfl,.inl ⟨rfl,status.trans good,?_⟩⟩
        rw [nothing,here]
        exact .none
  | oversized passed some large =>
    rw [count] at some large
    exact ⟨fun _ => .inr (.inl ⟨some,large⟩),fun _ => failed _ _ _⟩
  | sends passed some small size sent =>
    rw [count] at some small sent
    have drive := positionedDrive passed fixed
    have exact_ := sentWhole (drive.2.2.2.2.trans good) (drive.2.2.2.1 ▸ sized) (by rw [drive.2.2.2.1]) small sent
    rw [drive.2.2.2.1] at exact_
    rw [exact_]
    constructor
    · exact fun holds => .inr (.inr holds)
    · rintro (wrong | large | holds)
      · exact absurd wrong passed
      · exact absurd large.2 (by omega)
      · exact holds

end

end Tape

/- A READ with FIXED returns whole blocks or CHECK CONDITION, unless the comparison of the
lengths accepts records of other sizes. -/
theorem wholeBlocksIff {d : Tape} {t : Transfer} {w : World} {r : Request} {long : Bool} {image : SimhImage}
    (listed : (r.opcode,long,false) ∈ Tape.transferCommands) (fixed : Tape.isFixed r) (good : t.status = .good)
    (simh : d.tarFile = false) (opened : d.stream w = some image.bytes)
    (sized : 0 < d.blockSize ∧ d.blockSize % 4 = 0 ∧ d.blockSize < 2^32) :
    Tape.ReturnsWhole image d.blockSize (Tape.transferLength r long) (Tape.positioned r long ⟨d,t,w⟩).device.tapePosition
      (Tape.readCommand r.opcode r ⟨d,t,w⟩) ↔
        Tape.Refused r long false ⟨d,t,w⟩ ∨ Tape.Oversized d.blockSize (Tape.transferLength r long) ∨
        ¬Tape.Readable image.bytes d.blockSize (uint32 (Tape.transferLength r long * d.blockSize : Nat))
          (Tape.positioned r long ⟨d,t,w⟩).device.tapePosition ∨
        Tape.HasBlocks image d.blockSize (Tape.transferLength r long) (Tape.positioned r long ⟨d,t,w⟩).device.tapePosition := by
  have ended := Tape.wpReadCommand (s := ⟨d,t,w⟩) listed fixed good simh opened sized.1 sized.2.2
  unfold wp at ended
  cases ran : Tape.readCommand r.opcode r ⟨d,t,w⟩ with
  | mk result u =>
    rw [ran] at ended
    cases result with
    | error e => exact ended.elim
    | ok result => exact Tape.endedWhole fixed good ⟨sized.1,sized.2.1⟩ ended

namespace Tape

/- A drive with blocks of 8 bytes. -/
def eightBytes : Tape := { exampleTape with supportedBlockSizes := [8], blockSize := 8, blockSizeForDescriptor := 8 }

/- An image with a single block. -/
def oneBlock (data : Bytes) (some : data.length ≠ 0) (small : data.length < 2^28) : SimhImage where
  objects := [.record .tapeMarkGoodDataRecord data]
  wellFormed o member := by
    obtain rfl := List.mem_singleton.mp member
    exact ⟨decide_eq_true some,small⟩

def loaded (image : SimhImage) : World := { files := fun _ => some image.bytes }

/- READ(6) of one block, with FIXED. -/
def readOne : Request := { cdb := [0x08,1,0,0,1,0] }

def fullBlock : SimhImage := oneBlock [1,2,3,4,5,6,7,8] (by decide) (by decide)

theorem fullBlockReturned : ReturnsWhole fullBlock 8 1 0 (readCommand readOne.opcode readOne ⟨eightBytes,{},loaded fullBlock⟩) := by
  have whole : Whole fullBlock 8 1 0 [1,2,3,4,5,6,7,8] 16 := @Whole.block fullBlock 8 0 16 [1,2,3,4,5,6,7,8] [] [] [] [] _ rfl rfl rfl rfl .none
  refine (wholeBlocksIff (d := eightBytes) (t := {}) (w := loaded fullBlock) (r := readOne) (.head _) ?_ rfl rfl rfl ?_).mpr
    (.inr (.inr (.inr ⟨by decide,_,_,whole⟩)))
  · unfold isFixed
    decide
  · decide

def halfBlock : SimhImage := oneBlock [1,2,3,4] (by decide) (by decide)

/- A block of 4 bytes passes for one of 8 bytes. -/
theorem halfBlockReturned :
    (readCommand readOne.opcode readOne ⟨eightBytes,{},loaded halfBlock⟩).1 = .ok ([1,2,3,4,4,0,0,0],.complete) ∧
    (readCommand readOne.opcode readOne ⟨eightBytes,{},loaded halfBlock⟩).2.transfer.status = .good ∧
    ¬ReturnsWhole halfBlock 8 1 0 (readCommand readOne.opcode readOne ⟨eightBytes,{},loaded halfBlock⟩) := by
  have ran : (readCommand readOne.opcode readOne ⟨eightBytes,{},loaded halfBlock⟩).1 = .ok ([1,2,3,4,4,0,0,0],.complete) := by
    decide +kernel
  have good : (readCommand readOne.opcode readOne ⟨eightBytes,{},loaded halfBlock⟩).2.transfer.status = .good := by
    decide +kernel
  refine ⟨ran,good,?_⟩
  rintro ⟨result,t,same,ends⟩
  rw [same] at ran good
  obtain rfl : result = ([1,2,3,4,4,0,0,0],.complete) := Except.ok.inj ran
  rcases ends with ⟨-,-,whole⟩ | checked
  · obtain ⟨o,member,block,found,length⟩ := whole.first
    obtain rfl := List.mem_singleton.mp member
    cases found
    cases length
  · exact neverBoth checked ⟨rfl,good⟩

end Tape
end Scsi2Pi
