import Scsi2Pi.TapeVariableRead
import Scsi2Pi.TapeWriting

/-! A tape is written from its beginning and read back: blocks of any length and filemarks,
with one command of the initiator after the other. -/
namespace Scsi2Pi
open Slices MemoryUtil Handler Derives Eff SimhUtil

namespace Tape

/- What Execute does before each command. -/
def started (s : HandlerState Tape) : HandlerState Tape where
  device := setBase s.device (PrimaryDevice.resetStatus (base s.device))
  transfer := { (s.transfer.setCurrentLength 0).setTransferSize 0 0 with status := .good }
  world := s.world

/-! Writing. -/

/- WRITE(6) without FIXED, or WRITE FILEMARKS(6). -/
inductive Order where
  | block (r : Request) (data : Bytes)
  | filemarks (r : Request)

namespace Order

def Valid : Order → Prop
  | .block r data => r.opcode = .write6 ∧ ¬isFixed r ∧ transferLength r false = data.length ∧ data ≠ []
  | .filemarks r => r.opcode = .writeFilemarks6 ∧ r.cdbByte 1 &&& 0x02 = 0

def items : Order → List TapeItem
  | .block _ data => [.block data]
  | .filemarks r => List.replicate (transferLength r false) .filemark

def run (o : Order) (s : HandlerState Tape) : Except ScsiException Unit × HandlerState Tape :=
  match o with
  | .block r data => writeCommand r.opcode data r (started s)
  | .filemarks r => writeCommand r.opcode [] r (started s)

end Order

/- There is a result if all commands end with GOOD. -/
def runOrders : List Order → HandlerState Tape → Option (HandlerState Tape)
  | [], s => some s
  | o::orders, s =>
    match o.run s with
    | (.ok _,t) => runOrders orders t
    | (.error _,_) => none

def itemsOf (orders : List Order) : List TapeItem := orders.flatMap Order.items

/-! Reading. -/

inductive Answer where
  | good (data : Bytes)
  | filemark
  | endOfData
  | other
  deriving DecidableEq, Repr

namespace Answer

def ofItem : TapeItem → Answer
  | .block data => .good data
  | .filemark => .filemark
  | .unreadable => .other

def ofError (e : ScsiException) (d : Tape) : Answer :=
  if e.senseKey = .noSense ∧ d.filemark = true then .filemark
  else if e.senseKey = .blankCheck then .endOfData
  else .other

end Answer

/- What the initiator sees of READ(6). -/
def answer (r : Request) (s : HandlerState Tape) : Answer × HandlerState Tape :=
  match readCommand r.opcode r (started s) with
  | (.ok (data,.complete),t) => (if t.transfer.status = .good then .good data else .other,t)
  | (.ok ([],.failed e),t) => (.ofError e t.device,t)
  | (_,t) => (.other,t)

def answers : List Request → HandlerState Tape → List Answer
  | [], _ => []
  | r::reads, s => (answer r s).1 :: answers reads (answer r s).2

/- READ(6) without FIXED, for some bytes. -/
structure Reads (r : Request) : Prop where
  opcode : r.opcode = .read6
  plain : ¬isFixed r
  some : transferLength r false ≠ 0

/- The length is that of the block to come. -/
def Asks (r : Request) (item : TapeItem) : Prop :=
  Reads r ∧ ∀ data, item = .block data → transferLength r false = data.length

/- No record needs padding. -/
def EvenBlocks (items : List TapeItem) : Prop := ∀ data, TapeItem.block data ∈ items → data.length % 2 = 0

/- The objects that are written. -/
def objectFor : TapeItem → SimhObject
  | .block data => block data
  | .filemark => .filemark
  | .unreadable => .badMark

def objectsFor (items : List TapeItem) : List SimhObject := items.map objectFor

def lengthOf (items : List TapeItem) : Nat := ((objectsFor items).flatMap SimhObject.encode).length

/- An image with room for all objects and the mark at the end. A word is checked with its
absolute end, to which the position is added once more. -/
structure Roomy (d : Tape) (stop : Nat) : Prop where
  file : stop + metaDataSize ≤ d.fileSize
  maximum : 2 * (stop + metaDataSize) ≤ d.maxFileSize

section
variable {r : Request} {s t : HandlerState Tape} {d d' : Tape} {image bytes : Bytes} {objects : List SimhObject} {position : Int}

/- What neither writing nor reading changes. -/
def settings (d : Tape) : Bool × String × Bool × Bool × Bool × Bool × Bool × Nat × Bool × Nat × Nat :=
  (d.isOpen,d.filename,d.mediumChanged,d.reset,d.attn,d.ready,d.tarFile,d.blockSize,d.writeProtected,d.fileSize,d.maxFileSize)

/- A drive with a tape that can be written. -/
structure Writable (d : Tape) : Prop where
  idle : Idle d
  protect : d.writeProtected = false
  size : d.blockSize < 2^31
  sized : 0 < d.blockSize

theorem streamSame (same : settings d' = settings d) : d'.stream = d.stream := by
  simp only [settings,Prod.mk.injEq] at same
  funext w
  rw [stream,stream,same.1,same.2.1]

theorem Writable.same (writable : Writable d) (same : settings d' = settings d) : Writable d' := by
  simp only [settings,Prod.mk.injEq] at same
  obtain ⟨_,_,changed,reset,attn,ready,tar,size,protect,_,_⟩ := same
  obtain ⟨idle,writable,small,sized⟩ := writable
  exact ⟨⟨changed.trans idle.unchanged,reset.trans idle.reset,attn.trans idle.attn,ready.trans idle.ready,tar.trans idle.simh⟩,
    protect.trans writable,size ▸ small,size ▸ sized⟩

theorem Loaded.started (known : Loaded bytes position s) : Loaded bytes position (started s) := known.after known.here rfl

/- The file behind what has been written: the objects, the mark and the rest. -/
def Written (image : Bytes) (objects : List SimhObject) (bytes : Bytes) : Prop :=
  if objects = [] then bytes = image
  else objects.flatMap SimhObject.encode ++ toLittleEndian ⟨.privateMarker,endOfDataValue⟩ <+: bytes

theorem Written.front {image : Bytes} (written : Written image objects bytes) : objects.flatMap SimhObject.encode <+: bytes := by
  unfold Written at written
  split at written
  · next none =>
    rw [none]
    exact List.nil_prefix
  · exact (List.prefix_append _ _).trans written

/- A tape that is being written, up to its position. -/
structure Taped (d : Tape) (image : Bytes) (objects : List SimhObject) (s : HandlerState Tape) : Prop where
  drive : settings s.device = settings d
  here : s.device.tapePosition = ((objects.flatMap SimhObject.encode).length : Nat)
  even : (objects.flatMap SimhObject.encode).length % 2 = 0
  file : ∃ bytes, d.stream s.world = some bytes ∧ Written image objects bytes

theorem Taped.started (taped : Taped d image objects s) : Taped d image objects (started s) := ⟨taped.drive,taped.here,taped.even,taped.file⟩

theorem finishedTaped {p : Nat} {new : List SimhObject} (taped : Taped d image objects s) (same : settings d' = settings d)
    (start : p = (objects.flatMap SimhObject.encode).length) (some : new ≠ []) (whole : ∀ o ∈ new, o.encode.length % 2 = 0)
    (room : ((objects ++ new).flatMap SimhObject.encode).length + metaDataSize ≤ d.fileSize)
    (finished : Finished p d' (objects.flatMap SimhObject.encode ++ new.flatMap SimhObject.encode) t) :
    Taped d image (objects ++ new) t := by
  obtain ⟨remaining,initial,transfer,known⟩ := finished
  have position := known.position
  obtain ⟨location,device⟩ := known.device
  obtain ⟨bytes,opened,stored⟩ := known.file
  have file : d'.fileSize = d.fileSize := congrArg (fun x => x.2.2.2.2.2.2.2.2.2.1) same
  have more : 0 < (new.flatMap SimhObject.encode).length := by
    obtain ⟨o,later,rfl⟩ := List.exists_cons_of_ne_nil some
    have first := encodeSome o
    rw [List.flatMap_cons,List.length_append]
    omega
  have parity := encodeEven whole
  have even := taped.even
  have mark : endMark d' ((objects ++ new).flatMap SimhObject.encode).length =
      toLittleEndian ⟨.privateMarker,endOfDataValue⟩ := by
    rw [endMark,file,if_pos room]
  have none : objects ++ new ≠ [] := fun none => some (List.append_eq_nil_iff.mp none).2
  rw [← List.flatMap_append] at position stored
  rw [mark] at stored
  refine ⟨?_,position,?_,bytes,?_,?_⟩
  · rw [device]
    exact same
  · rw [List.flatMap_append,List.length_append]
    omega
  · rw [← streamSame same]
    exact opened
  · rw [Written,if_neg none]
    refine stored.2 ?_
    rw [List.length_append,List.flatMap_append,List.length_append]
    omega

theorem blockLength (data : Bytes) : (block data).encode.length = data.length + data.length % 2 + 8 := by
  have word := toLittleEndianLength ⟨.tapeMarkGoodDataRecord,data.length⟩
  have coded : (block data).encode = toLittleEndian ⟨.tapeMarkGoodDataRecord,data.length⟩ ++
      (data ++ List.replicate (data.length % 2) 0 ++ toLittleEndian ⟨.tapeMarkGoodDataRecord,data.length⟩) := rfl
  unfold metaDataSize at word
  rw [coded]
  simp only [List.length_append,List.length_replicate,word]
  omega

theorem Taped.front (taped : Taped d image objects s) (opened : d.stream s.world = some bytes) :
    upTo bytes (objects.flatMap SimhObject.encode).length = objects.flatMap SimhObject.encode := by
  obtain ⟨bytes',opened',written⟩ := taped.file
  cases Option.some.inj (opened.symm.trans opened')
  obtain ⟨later,whole⟩ := written.front
  rw [← whole]
  exact upToPrefix _ _

/- What a command writes passes the checks if there is room up to its end. -/
theorem roomyPasses {stop : Nat} {place : Int} (roomy : Roomy d stop) (within : place ≤ stop)
    (maximum : d'.maxFileSize = d.maxFileSize) (simh : d'.tarFile = false) : Passes d' place := by
  have room := roomy.maximum
  unfold metaDataSize at room
  rw [passesSimh simh,EndPasses,maximum]
  unfold metaDataSize
  exact ⟨by omega,fun _ => by omega⟩

theorem blockTaped {data : Bytes} {stop : Nat} (writable : Writable d) (taped : Taped d image objects s) (valid : (Order.block r data).Valid)
    (roomy : Roomy d stop) (within : ((objects ++ [block data]).flatMap SimhObject.encode).length ≤ stop) :
    ∃ t, writeCommand r.opcode data r (started s) = (.ok (),t) ∧ Taped d image (objects ++ [block data]) t := by
  obtain ⟨opcode,plain,length,full⟩ := valid
  have begun := taped.started
  have drive := writable.same begun.drive
  obtain ⟨bytes,stream,front⟩ := begun.file
  have opened : (started s).device.stream (started s).world = some bytes := by
    rw [streamSame begun.drive]
    exact stream
  have small : transferLength r false < 2^24 := transferLengthSmall
  have some : 0 < data.length := List.length_pos_iff.mpr full
  have total : (started s).device.total r false = data.length := by
    rw [Tape.total,if_neg plain,length]
  have passed : ¬Refused r false true (started s) := by
    refine acceptedChecks drive.idle.unchanged drive.idle.reset drive.idle.attn drive.idle.ready (fun wrong => ?_)
      (fun wrong => ?_) (fun wrong => ?_) fun wrong => plain wrong.1
    · cases wrong.1
    · exact absurd (wrong.2.symm.trans drive.protect) (by decide)
    · obtain ⟨e,t,failed⟩ := wrong
      cases failed
  have position : startPosition r false (started s) = ((objects.flatMap SimhObject.encode).length : Nat) := begun.here
  have stops : asked (started s).device r false (startPosition r false (started s)) =
      (((objects ++ [block data]).flatMap SimhObject.encode).length : Nat) := by
    have even := taped.even
    rw [asked,drive.idle.simh,if_neg Bool.false_ne_true,if_neg plain,position,length,behind,List.flatMap_append,List.length_append,
      List.flatMap_singleton,blockLength]
    unfold metaDataSize
    push_cast
    omega
  obtain ⟨t,ran⟩ := acceptedWrites data (by rw [opcode]; exact .tail _ (.tail _ (.head _))) passed drive.sized ⟨bytes,opened⟩
    (by rw [position]; exact Int.natCast_nonneg _) (by omega) (by omega) (by
      rw [stops]
      refine roomyPasses roomy (by omega) ?_ drive.idle.simh
      exact congrArg (fun x => x.2.2.2.2.2.2.2.2.2.2) begun.drive)
  refine ⟨t,ran,?_⟩
  have ended := writeYields (r := r) opened drive.idle.simh begun.here taped.even drive.sized (by omega) (by omega) total.symm
  rw [Yields,wp,← opcode,ran] at ended
  obtain ⟨-,finished⟩ := ended
  have one : written (started s).device r data = [block data] := by
    rw [written,if_neg plain]
    rfl
  rw [one,taped.front stream] at finished
  have same : settings (recorder r false (started s)) = settings (started s).device := rfl
  have room := roomy.file
  refine finishedTaped taped (same.trans begun.drive) rfl (List.cons_ne_nil _ _) (fun o member => ?_) (by omega) finished
  rw [List.mem_singleton.mp member]
  exact blockEven data

theorem filemarksLength (count : Nat) : ((List.replicate count SimhObject.filemark).flatMap SimhObject.encode).length = 4 * count := by
  induction count with
  | zero => rfl
  | succ count ih =>
    have one : SimhObject.filemark.encode.length = 4 := by
      rw [SimhObject.encode,List.length_append,toLittleEndianLength]
      rfl
    rw [List.replicate_succ,List.flatMap_cons,List.length_append,one,ih]
    omega

theorem marksTaped {stop : Nat} (writable : Writable d) (taped : Taped d image objects s) (valid : (Order.filemarks r).Valid)
    (roomy : Roomy d stop)
    (within : ((objects ++ List.replicate (transferLength r false) SimhObject.filemark).flatMap SimhObject.encode).length ≤ stop) :
    ∃ t, writeCommand r.opcode [] r (started s) = (.ok (),t) ∧
      Taped d image (objects ++ List.replicate (transferLength r false) SimhObject.filemark) t := by
  obtain ⟨opcode,fields⟩ := valid
  have begun := taped.started
  have drive := writable.same begun.drive
  obtain ⟨bytes,stream,front⟩ := begun.file
  have opened : (started s).device.stream (started s).world = some bytes := by
    rw [streamSame begun.drive]
    exact stream
  have registered : Handler.dispatch commands .writeFilemarks6 = writeFilemarks false := rfl
  have repeats : wp (repeatFilemark (transferLength r false)) r (started s)
      (fun _ t => Taped d image (objects ++ List.replicate (transferLength r false) SimhObject.filemark) t) fun _ _ => False := by
    cases count : transferLength r false with
    | zero =>
      rw [List.replicate_zero,List.append_nil]
      exact begun
    | succ count' =>
      rw [count] at within
      have known : Recording (started s).device (started s).device.tapePosition (started s).device.remainingCount
          (started s).device.initial (started s).transfer (started s) :=
        ⟨⟨(started s).device.objectLocation,rfl⟩,rfl,by rw [begun.here]; exact Int.natCast_nonneg _,bytes,opened⟩
      have marks := marksYield (r := r) count' (writingStart opened begun.here) drive.idle.simh
      rw [taped.front stream] at marks
      have stops : (started s).device.tapePosition + metaDataSize * (count' + 1 : Nat) =
          (((objects ++ List.replicate (count' + 1) SimhObject.filemark).flatMap SimhObject.encode).length : Nat) := by
        rw [begun.here,List.flatMap_append,List.length_append,filemarksLength]
        unfold metaDataSize
        push_cast
        omega
      have passes : Passes (started s).device ((started s).device.tapePosition + metaDataSize * (count' + 1 : Nat)) := by
        rw [stops]
        exact roomyPasses roomy (by omega) (congrArg (fun x => x.2.2.2.2.2.2.2.2.2.2) begun.drive) drive.idle.simh
      refine wpMono (wpBoth (wpRepeatFilemark (r := r) (count' + 1) known drive.idle.simh) marks) (fun _ t ended => ?_)
        fun _ _ failed => failed.1.2.2 passes
      have room := roomy.file
      refine finishedTaped taped begun.drive rfl (by rw [List.replicate_succ]; exact List.cons_ne_nil _ _) (fun o member => ?_)
        (by omega) ended.2
      rw [List.eq_of_mem_replicate member,SimhObject.encode,List.length_append,toLittleEndianLength]
      rfl
  have ran : wp (writeCommand .writeFilemarks6 []) r (started s)
      (fun _ t => Taped d image (objects ++ List.replicate (transferLength r false) SimhObject.filemark) t) fun _ _ => False := by
    unfold writeCommand
    rw [wpBind]
    refine wpDispatch (by decide) registered (fun changed => absurd (changed.symm.trans drive.idle.unchanged) (by decide)) fun _ => ?_
    unfold writeFilemarks
    rw [wpBind]
    refine wpCheckReady (fun busy => ?_) fun _ _ _ => ?_
    · rcases busy with reset | attn | empty
      · exact absurd (reset.symm.trans drive.idle.reset) (by decide)
      · exact absurd (attn.symm.trans drive.idle.attn) (by decide)
      · exact absurd (empty.symm.trans drive.idle.ready) (by decide)
    rw [wpBind,wpGetRequest,wpBind,wpGetDevice,drive.idle.simh,if_neg Bool.false_ne_true,
      if_neg (fun wrong => wrong.elim (fun mark => mark fields) fun other => by cases other.1),wpBind]
    refine wpCheckWritePreconditions (fun protect => absurd (protect.symm.trans drive.protect) (by decide)) fun _ => ?_
    rw [if_neg (fun wrong => by cases wrong.1),wpBind]
    exact repeats
  rw [opcode]
  obtain ⟨_,t,ran,taped⟩ := wpRuns ran
  exact ⟨t,ran,taped⟩

theorem orderTaped {o : Order} {stop : Nat} (writable : Writable d) (taped : Taped d image objects s) (valid : o.Valid) (roomy : Roomy d stop)
    (within : ((objects ++ objectsFor o.items).flatMap SimhObject.encode).length ≤ stop) :
    ∃ t, o.run s = (.ok (),t) ∧ Taped d image (objects ++ objectsFor o.items) t := by
  cases o with
  | block r data => exact blockTaped writable taped valid roomy within
  | filemarks r =>
    have marks : objectsFor (Order.filemarks r).items = List.replicate (transferLength r false) SimhObject.filemark := List.map_replicate
    rw [marks] at within ⊢
    exact marksTaped writable taped valid roomy within

theorem ordersTaped {orders : List Order} {stop : Nat} (writable : Writable d) (taped : Taped d image objects s) (valid : ∀ o ∈ orders, o.Valid)
    (roomy : Roomy d stop) (within : ((objects ++ objectsFor (itemsOf orders)).flatMap SimhObject.encode).length ≤ stop) :
    ∃ t, runOrders orders s = some t ∧ Taped d image (objects ++ objectsFor (itemsOf orders)) t := by
  induction orders generalizing objects s with
  | nil => exact ⟨s,rfl,by rw [itemsOf,List.flatMap_nil,objectsFor,List.map_nil,List.append_nil]; exact taped⟩
  | cons o orders ih =>
    have split : objects ++ objectsFor (itemsOf (o :: orders)) = objects ++ objectsFor o.items ++ objectsFor (itemsOf orders) := by
      rw [itemsOf,List.flatMap_cons,objectsFor,List.map_append,List.append_assoc]
      rfl
    rw [split] at within ⊢
    have first : ((objects ++ objectsFor o.items).flatMap SimhObject.encode).length ≤ stop := by
      rw [List.flatMap_append,List.length_append] at within
      omega
    obtain ⟨t,ran,taped⟩ := orderTaped writable taped (valid o List.mem_cons_self) roomy first
    obtain ⟨u,rest,taped⟩ := ih taped (fun o member => valid o (List.mem_cons_of_mem _ member)) within
    refine ⟨u,?_,taped⟩
    rw [runOrders,ran]
    exact rest

/-! Reading back. -/

/- An object in front of the rest of the file. -/
theorem objectWord {m : SimhMetaData} {before after : Bytes} {o : SimhObject} (word : o.metaData = m) (small : m.value < 2^28)
    (whole : bytes = before ++ (o.encode ++ after)) : readMetaData (some bytes) before.length = some m := by
  rw [whole,SimhObject.encode,List.append_assoc,word]
  exact readMetaDataAt small before _

theorem evenCloses {data before after : Bytes} (whole : bytes = before ++ ((block data).encode ++ after)) (small : data.length < 2^28) :
    Closes bytes data.length (before.length + metaDataSize : Nat) data.length := by
  obtain ⟨_,trailing,_,room⟩ := SimhObject.recordParts whole
  have padded : data.length ≤ pad data.length := Nat.le_add_right _ _
  refine ⟨⟨by omega,by omega,by omega⟩,?_⟩
  unfold trailingLength
  have place : (((before.length + metaDataSize : Nat) : Int) + pad data.length).toNat = before.length + metaDataSize + pad data.length := by
    omega
  rw [place,trailing,littleEndianRoundTrip _ small]

theorem lowerBytes (a b c e : UInt8) : (fromLittleEndian [a,b,c,e]).value % 2^24 = a.toNat + b.toNat * 2^8 + c.toNat * 2^16 := by
  have one := a.toNat_lt
  have two := b.toNat_lt
  have three := c.toNat_lt
  have data : getInt32 [a,b,c,e].reverse 0 = ((e.toNat * 2^8 + c.toNat) * 2^8 + b.toNat) * 2^8 + a.toNat := by
    simp only [getInt32,getInt16,byteAt,List.reverse_cons,List.reverse_nil,List.nil_append,List.cons_append,List.getD_cons_zero,
      List.getD_cons_succ]
    omega
  unfold fromLittleEndian
  dsimp only
  rw [data]
  omega

theorem lengthBytes (n : Nat) (small : n < 2^24) : toLittleEndian ⟨.tapeMarkGoodDataRecord,n⟩ =
    [UInt8.ofNat n,UInt8.ofNat (n / 2^8),UInt8.ofNat (n / 2^16),0] := by
  have code : SimhClass.tapeMarkGoodDataRecord.code = 0 := rfl
  have top : n / 16777216 = 0 := Nat.div_eq_of_lt small
  have same : n % 2^28 = n := Nat.mod_eq_of_lt (by omega)
  unfold toLittleEndian bigEndian
  rw [code,Nat.zero_mul,Nat.zero_add,same]
  simp [List.range,List.range.loop,top]

/- The word that is found one byte too late says another length. -/
theorem oddMismatch {data before after : Bytes} (whole : bytes = before ++ ((block data).encode ++ after)) (full : data ≠ [])
    (small : data.length < 2^24) : ¬Closes bytes data.length ((before.length + metaDataSize : Nat) + 1) data.length := by
  intro closes
  obtain ⟨_,word,_,_⟩ := SimhObject.recordParts whole
  have some : 0 < data.length := List.length_pos_iff.mpr full
  have room := closes.room
  have trailing := closes.trailing
  have place : (((before.length + metaDataSize : Nat) : Int) + 1 + pad data.length).toNat =
      before.length + metaDataSize + pad data.length + 1 := by omega
  unfold trailingLength at trailing
  rw [place] at trailing
  generalize before.length + metaDataSize + pad data.length = q at word room trailing place
  have last : (slice bytes (q + 4) 1).length = 1 := sliceLengthWithin (by unfold metaDataSize at room; omega)
  have first : (slice bytes q 1).length = 1 := sliceLengthWithin (by unfold metaDataSize at room; omega)
  obtain ⟨x,behind⟩ := List.length_eq_one_iff.mp last
  obtain ⟨y,front⟩ := List.length_eq_one_iff.mp first
  have join : slice bytes q 1 ++ slice bytes (q + 1) 4 = slice bytes q 4 ++ slice bytes (q + 4) 1 := by
    rw [← sliceAppend,← sliceAppend]
  unfold metaDataSize at word trailing
  rw [word,front,behind,lengthBytes _ small] at join
  have shifted : slice bytes (q + 1) 4 = [UInt8.ofNat (data.length / 2^8),UInt8.ofNat (data.length / 2^16),0,x] :=
    (List.cons.inj join).2
  have low := lowerBytes (UInt8.ofNat (data.length / 2^8)) (UInt8.ofNat (data.length / 2^16)) 0 x
  rw [← shifted,trailing] at low
  have zero : (0 : UInt8).toNat = 0 := rfl
  rw [zero] at low
  have upper : data.length / 2^16 = data.length / 2^8 / 2^8 := by omega
  simp only [UInt8.toNat_ofNat'] at low
  rw [Nat.mod_eq_of_lt small,upper] at low
  omega

section
variable {before after data : Bytes} {item : TapeItem}

/- What READ(6) sends for a record. -/
theorem playedRecord (known : Loaded bytes before.length s) (asks : Asks r (.block data))
    (whole : bytes = before ++ ((block data).encode ++ after)) : ∃ result t, readCommand r.opcode r (started s) = (.ok result,t) ∧
      Played bytes (before.length + metaDataSize + data.length % 2) data.length 0 [] result t := by
  obtain ⟨⟨opcode,plain,some⟩,length⟩ := asks
  have same := length data rfl
  have small : transferLength r false < 2^24 := transferLengthSmall
  have word : readMetaData (.some bytes) before.length = .some ⟨.tapeMarkGoodDataRecord,transferLength r false⟩ :=
    objectWord (by rw [same]; rfl) (Nat.lt_trans small (by decide)) whole
  rw [opcode,← same]
  exact wpRuns (wpReadRecord known.started plain rfl (Int.natCast_nonneg _) some word)

theorem answerEven (known : Loaded bytes before.length s) (asks : Asks r (.block data)) (even : data.length % 2 = 0)
    (whole : bytes = before ++ ((block data).encode ++ after)) :
    (answer r s).1 = .good data ∧ Loaded bytes (before ++ (block data).encode).length (answer r s).2 := by
  obtain ⟨result,t,ran,played⟩ := playedRecord known asks whole
  obtain ⟨dataHere,-,behind,_⟩ := SimhObject.recordParts whole
  have small : transferLength r false < 2^24 := transferLengthSmall
  have length := asks.2 data rfl
  have start : (before.length : Int) + metaDataSize + (data.length : Int) % 2 = (before.length + metaDataSize : Nat) := by omega
  rw [start] at played
  obtain ⟨rfl,status,loaded⟩ := played.1 (evenCloses whole (by omega))
  have bytesHere : slice bytes (((before.length + metaDataSize : Nat) : Int) + (0 : Nat)).toNat (data.length - 0) = data := dataHere
  unfold answer
  rw [ran,bytesHere,List.nil_append]
  dsimp only
  rw [if_pos status]
  refine ⟨rfl,?_⟩
  have place : (((before ++ (block data).encode).length : Nat) : Int) =
      ((before.length + metaDataSize : Nat) : Int) + pad data.length + metaDataSize := by
    rw [block,behind]
    push_cast
    rfl
  rw [place]
  exact loaded

theorem errorOther (e : ScsiException) (d : Tape) (data : Bytes) : Answer.ofError e d ≠ .good data := by
  unfold Answer.ofError
  split
  · exact Answer.noConfusion
  · split <;> exact Answer.noConfusion

theorem answerOdd (known : Loaded bytes before.length s) (asks : Asks r (.block data)) (odd : data.length % 2 ≠ 0)
    (whole : bytes = before ++ ((block data).encode ++ after)) : (answer r s).1 ≠ .good data := by
  obtain ⟨⟨sent,ends⟩,t,ran,played⟩ := playedRecord known asks whole
  have small : transferLength r false < 2^24 := transferLengthSmall
  have length := asks.2 data rfl
  have start : (before.length : Int) + metaDataSize + (data.length : Int) % 2 = (before.length + metaDataSize : Nat) + 1 := by omega
  have full : data ≠ [] := fun none => asks.1.some (length.trans (by rw [none]; rfl))
  rw [start] at played
  have other := played.2 (oddMismatch whole full (by omega))
  unfold answer
  rw [ran]
  cases ends with
  | complete => exact absurd rfl other
  | failed e =>
    cases sent with
    | nil => exact errorOther e t.device data
    | cons b sent => exact Answer.noConfusion
  | unfinished => exact Answer.noConfusion

theorem answerMark (known : Loaded bytes before.length s) (reads : Reads r)
    (whole : bytes = before ++ (SimhObject.filemark.encode ++ after)) :
    (answer r s).1 = .filemark ∧ Loaded bytes (before ++ SimhObject.filemark.encode).length (answer r s).2 := by
  obtain ⟨opcode,plain,some⟩ := reads
  have word : readMetaData (.some bytes) before.length = .some ⟨.tapeMarkGoodDataRecord,0⟩ :=
    objectWord rfl (Nat.two_pow_pos 28) whole
  obtain ⟨_,t,ran,e,rfl,rfl,loaded,mark⟩ := wpRuns (wpReadMark known.started plain rfl some word)
  have place : (((before ++ SimhObject.filemark.encode).length : Nat) : Int) = before.length + metaDataSize := by
    rw [List.length_append,SimhObject.encode,List.length_append,toLittleEndianLength]
    rfl
  unfold answer
  rw [opcode,ran,place]
  dsimp only
  exact ⟨if_pos ⟨rfl,mark⟩,loaded⟩

theorem answerEndIff (known : Loaded bytes position s) (valid : 0 ≤ position) (reads : Reads r) :
    (answer r s).1 = .endOfData ↔ AtEndOfData bytes position := by
  obtain ⟨opcode,plain,some⟩ := reads
  obtain ⟨⟨sent,ends⟩,t,ran,ended⟩ := wpRuns (wpReadEnd known.started plain rfl valid some)
  rw [← ended]
  unfold answer
  rw [opcode,ran]
  cases ends with
  | complete =>
    dsimp only
    refine ⟨fun wrong => ?_,fun ⟨e,wrong,_⟩ => by cases wrong⟩
    split at wrong <;> cases wrong
  | unfinished => exact ⟨Answer.noConfusion,fun ⟨e,wrong,_⟩ => by cases wrong⟩
  | failed e =>
    cases sent with
    | cons b sent => exact ⟨Answer.noConfusion,fun ⟨e,wrong,_⟩ => by cases wrong⟩
    | nil =>
      dsimp only
      unfold Answer.ofError
      by_cases mark : e.senseKey = .noSense ∧ t.device.filemark = true
      · rw [if_pos mark]
        refine ⟨Answer.noConfusion,fun ⟨e',same,key⟩ => ?_⟩
        cases same
        cases mark.1.symm.trans key
      · rw [if_neg mark]
        by_cases key : e.senseKey = .blankCheck
        · rw [if_pos key]
          exact ⟨fun _ => ⟨e,rfl,key⟩,fun _ => rfl⟩
        · rw [if_neg key]
          refine ⟨Answer.noConfusion,fun ⟨e',same,key'⟩ => ?_⟩
          cases same
          exact absurd key' key

/- The mark behind the last object. -/
theorem markEnds (whole : bytes = before ++ (toLittleEndian ⟨.privateMarker,endOfDataValue⟩ ++ after)) :
    AtEndOfData bytes before.length := by
  have word : readMetaData (.some bytes) before.length = .some ⟨.privateMarker,endOfDataValue⟩ := by
    rw [whole]
    exact readMetaDataAt (by decide) before after
  have object : objectOf ⟨.privateMarker,endOfDataValue⟩ = .some (.endOfData,0) := by decide
  refine ⟨_,_,0,.here (.found word ?_) object (.inr (.inr rfl))⟩
  rw [object]
  exact Option.some_ne_none _

theorem evenMark {items : List TapeItem} : EvenBlocks (.filemark :: items) ↔ EvenBlocks items :=
  ⟨fun even data member => even data (List.mem_cons_of_mem _ member),fun even data member => even data (by simpa using member)⟩

theorem evenBlock {items : List TapeItem} : EvenBlocks (.block data :: items) ↔ data.length % 2 = 0 ∧ EvenBlocks items := by
  refine ⟨fun even => ⟨even data List.mem_cons_self,fun other member => even other (List.mem_cons_of_mem _ member)⟩,?_⟩
  rintro ⟨first,even⟩ other member
  rcases List.mem_cons.mp member with same | member
  · cases same
    exact first
  · exact even other member

/- All items, and one READ more. -/
theorem answersIff {items : List TapeItem} {reads : List Request} {last : Request} (readable : TapeItem.unreadable ∉ items)
    (asks : List.Forall₂ Asks reads items) (ends : Reads last) (known : Loaded bytes before.length s)
    (whole : bytes = before ++ ((objectsFor items).flatMap SimhObject.encode ++ after)) :
    answers (reads ++ [last]) s = items.map Answer.ofItem ++ [.endOfData] ↔
      EvenBlocks items ∧ AtEndOfData bytes (before ++ (objectsFor items).flatMap SimhObject.encode).length := by
  induction asks generalizing before s with
  | nil =>
    have last := answerEndIff known (Int.natCast_nonneg _) ends
    have even : EvenBlocks [] := fun data member => absurd member List.not_mem_nil
    have none : before ++ (objectsFor []).flatMap SimhObject.encode = before := List.append_nil _
    rw [none,List.nil_append,answers,answers,List.map_nil,List.nil_append,List.cons.injEq,last]
    exact ⟨fun both => ⟨even,both.1⟩,fun both => ⟨both.2,rfl⟩⟩
  | @cons r item reads items asks _ ih =>
    have rest : TapeItem.unreadable ∉ items := fun member => readable (List.mem_cons_of_mem _ member)
    have place : before ++ (objectsFor (item :: items)).flatMap SimhObject.encode =
        before ++ (objectFor item).encode ++ (objectsFor items).flatMap SimhObject.encode := by
      rw [List.append_assoc]
      rfl
    rw [objectsFor,List.map_cons,List.flatMap_cons,List.append_assoc] at whole
    have further (loaded : Loaded bytes (before ++ (objectFor item).encode).length (answer r s).2) :=
      ih rest loaded (by rw [List.append_assoc]; exact whole)
    rw [place,List.cons_append,answers,List.map_cons,List.cons_append,List.cons.injEq]
    cases item with
    | unreadable => exact absurd List.mem_cons_self readable
    | filemark =>
      obtain ⟨mark,loaded⟩ := answerMark known asks.1 whole
      rw [further loaded,evenMark]
      exact and_iff_right mark
    | block data =>
      rw [evenBlock,and_assoc]
      by_cases even : data.length % 2 = 0
      · obtain ⟨good,loaded⟩ := answerEven known asks even whole
        rw [further loaded]
        exact ⟨fun both => ⟨even,both.2⟩,fun both => ⟨good,both.2⟩⟩
      · exact ⟨fun both => absurd both.1 (answerOdd known asks even whole),fun both => absurd both.1 even⟩

end

theorem Taped.loaded (taped : Taped d image objects s) (writable : Writable d) (opened : d.stream s.world = some bytes) :
    Loaded bytes s.device.tapePosition s := by
  have drive := writable.same taped.drive
  exact ⟨(congrFun (streamSame taped.drive) s.world).trans opened,rfl,drive.idle,drive.size,drive.sized⟩

theorem rewinds (known : Loaded bytes position s) (r : Request) :
    ∃ t, methods.dispatch .rewind r (started s) = (.ok .status,t) ∧ Loaded bytes 0 t := by
  have registered : Handler.dispatch commands .rewind = rewind := rfl
  have idle := known.started.idle
  have ran : wp (methods.dispatch .rewind) r (started s) (fun call t => call = .status ∧ Loaded bytes 0 t) fun _ _ => False := by
    refine wpDispatch (by decide) registered (fun changed => absurd (changed.symm.trans idle.unchanged) (by decide)) fun _ => ?_
    unfold rewind resetPositions
    rw [wpBind,wpModifyDevice,wpPure]
    exact ⟨rfl,known.started.after rfl rfl⟩
  obtain ⟨_,t,ran,rfl,loaded⟩ := wpRuns ran
  exact ⟨t,ran,loaded⟩

theorem itemsReadable (orders : List Order) : TapeItem.unreadable ∉ itemsOf orders := by
  intro member
  obtain ⟨o,_,member⟩ := List.mem_flatMap.mp member
  cases o with
  | block r data => cases List.mem_singleton.mp member
  | filemarks r => cases List.eq_of_mem_replicate member

end
end Tape

theorem tapeRoundTripIff {s : HandlerState Tape} {image : Bytes} (opened : s.device.stream s.world = some image)
    (writable : Tape.Writable s.device) (begins : s.device.tapePosition = 0) {orders : List Tape.Order} (valid : ∀ o ∈ orders, o.Valid)
    (roomy : Tape.Roomy s.device (Tape.lengthOf (Tape.itemsOf orders))) (rewind : Request) :
    ∃ t u, Tape.runOrders orders s = some t ∧ Tape.methods.dispatch .rewind rewind (Tape.started t) = (.ok .status,u) ∧
      ∀ reads last, List.Forall₂ Tape.Asks reads (Tape.itemsOf orders) → Tape.Reads last →
        (Tape.answers (reads ++ [last]) u = (Tape.itemsOf orders).map Tape.Answer.ofItem ++ [.endOfData] ↔
          Tape.EvenBlocks (Tape.itemsOf orders) ∧ (Tape.itemsOf orders = [] → Tape.AtEndOfData image 0)) := by
  have begun : Tape.Taped s.device image [] s := ⟨rfl,begins,rfl,image,opened,by rw [Tape.Written,if_pos rfl]⟩
  obtain ⟨t,ran,taped⟩ := Tape.ordersTaped writable begun valid roomy (Nat.le_refl _)
  rw [List.nil_append] at taped
  obtain ⟨bytes,stream,written⟩ := taped.file
  obtain ⟨u,rewound,loaded⟩ := Tape.rewinds (taped.loaded writable stream) rewind
  refine ⟨t,u,ran,rewound,fun reads last asks ends => ?_⟩
  obtain ⟨after,whole⟩ := written.front
  have known : Tape.Loaded bytes (([] : Bytes).length : Nat) u := loaded
  rw [Tape.answersIff (Tape.itemsReadable orders) asks ends known whole.symm,List.nil_append]
  refine and_congr_right fun _ => ?_
  unfold Tape.Written at written
  split at written
  · next none =>
    have nothing : Tape.itemsOf orders = [] := List.map_eq_nil_iff.mp none
    rw [none,written]
    exact ⟨fun ends _ => ends,fun ends => ends nothing⟩
  · next some =>
    obtain ⟨rest,marked⟩ := written
    rw [List.append_assoc] at marked
    exact iff_of_true (Tape.markEnds marked.symm) fun none => absurd (by rw [none]; rfl) some

namespace Tape

/- Four bytes and a filemark. -/
def evenOrders : List Order := [.block { cdb := [0x0a,0,0,0,4,0] } [1,2,3,4],.filemarks { cdb := [0x10,0,0,0,1,0] }]

def readFour : Request := { cdb := [0x08,0,0,0,4,0] }

def rewindTape : Request := { cdb := [0x01,0,0,0,0,0] }

theorem kilobyteWritable : Writable (kilobyteTape 0).device := ⟨⟨rfl,rfl,rfl,rfl,rfl⟩,rfl,by decide,by decide⟩

theorem evenBlockReturns : ∃ t u, runOrders evenOrders (kilobyteTape 0) = some t ∧
    methods.dispatch .rewind rewindTape (started t) = (.ok .status,u) ∧
    answers [readFour,readFour,readFour] u = [.good [1,2,3,4],.filemark,.endOfData] := by
  have reads : Reads readFour := ⟨by decide,by decide,by decide⟩
  have valid : ∀ o ∈ evenOrders, o.Valid := by
    intro o member
    rcases List.mem_pair.mp member with rfl | rfl
    · exact ⟨by decide,by decide,by decide,by decide⟩
    · exact ⟨by decide,by decide⟩
  obtain ⟨t,u,ran,rewound,answered⟩ := tapeRoundTripIff rfl kilobyteWritable rfl valid ⟨by decide,by decide⟩ rewindTape
  refine ⟨t,u,ran,rewound,(answered [readFour,readFour] readFour ?_ reads).mpr ⟨?_,?_⟩⟩
  · refine .cons ⟨reads,fun data same => ?_⟩ (.cons ⟨reads,fun data same => ?_⟩ .nil)
    · cases same
      decide
    · cases same
  · intro data member
    rcases List.mem_pair.mp member with same | same
    · cases same
      decide
    · cases same
  · exact fun none => absurd none (List.cons_ne_nil _ _)

def readThree : Request := { cdb := [0x08,0,0,0,3,0] }

/- The data are taken one byte too late, and so is the trailing length. -/
theorem oddBlockUnread : ∃ t u, runOrders [.block oddBlock [1,2,3]] (kilobyteTape 0) = some t ∧
    methods.dispatch .rewind rewindTape (started t) = (.ok .status,u) ∧
    answers [readThree,readThree] u = [.other,.other] :=
  ⟨_,_,rfl,rfl,by decide +kernel⟩

end Tape
end Scsi2Pi
