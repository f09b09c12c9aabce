import Scsi2Pi.FileSystem
import Scsi2Pi.MachineInt

/-! The messages of the remote interface on a descriptor: a length of four bytes, followed by the
serialized message. Each call transfers as many bytes as it likes to. -/
namespace Scsi2Pi

namespace ProtobufUtil

/- How many bytes a call transfers at most, none if it fails. -/
structure Pattern where
  most : Nat → Option Nat
  progress : ∀ k n, most k = some n → 0 < n

def Pattern.NeverFails (p : Pattern) : Prop := ∀ k, ∃ n, p.most k = some n

inductive IoException where
  | cantWriteSize | cantWriteData | cantReadSize | invalidSize | invalidData
  deriving DecidableEq, Repr

/- What has been written, and the calls so far. -/
structure Sink where
  written : Bytes := []
  calls : Nat := 0

/- What is left to be read. -/
structure Source where
  stream : Bytes
  calls : Nat := 0

def write (p : Pattern) (buf : Bytes) (s : Sink) : Option Nat × Sink :=
  match p.most s.calls with
  | none => (none,{ s with calls := s.calls + 1 })
  | some n =>
    let len := min buf.length n
    (some len,⟨s.written ++ buf.take len,s.calls + 1⟩)

def read (p : Pattern) (count : Nat) (s : Source) : Option Bytes × Source :=
  match p.most s.calls with
  | none => (none,{ s with calls := s.calls + 1 })
  | some n =>
    let len := min (min count n) s.stream.length
    (some (s.stream.take len),⟨s.stream.drop len,s.calls + 1⟩)

theorem writeSome {p : Pattern} {buf : Bytes} {s t : Sink} {n : Nat} (wrote : write p buf s = (some n,t)) (more : buf ≠ []) : 0 < n := by
  have some := List.length_pos_of_ne_nil more
  unfold write at wrote
  split at wrote
  · cases wrote
  · next k limit =>
    have progress := p.progress _ _ limit
    cases wrote
    omega

def writeBytes (p : Pattern) (buf : Bytes) (s : Sink) : Option Nat × Sink :=
  if _more : buf = [] then (some 0,s)
  else match _wrote : write p buf s with
    | (none,s) => (none,s)
    | (some len,s) => match writeBytes p (buf.drop len) s with
      | (none,s) => (none,s)
      | (some offset,s) => (some (len + offset),s)
termination_by buf.length
decreasing_by
  have some := List.length_pos_of_ne_nil _more
  have progress := writeSome _wrote _more
  rw [List.length_drop]
  omega

/- Nothing is read at the end of the stream. -/
def readBytes (p : Pattern) (count : Nat) (s : Source) : Option Bytes × Source :=
  if count = 0 then (some [],s)
  else match read p count s with
    | (none,s) => (none,s)
    | (some [],s) => (some [],s)
    | (some (b::bytes),s) => match readBytes p (count - (bytes.length + 1)) s with
      | (none,s) => (none,s)
      | (some rest,s) => (some (b::bytes ++ rest),s)
termination_by count

/- The length as four bytes, the lowest one first. -/
def header (size : Nat) : Bytes := [UInt8.ofNat size,UInt8.ofNat (size / 2^8),UInt8.ofNat (size / 2^16),UInt8.ofNat (size / 2^24)]

def headerSize (header : Bytes) : Int :=
  int32 ((header.getD 3 0).toNat * 2^24 + (header.getD 2 0).toNat * 2^16 + (header.getD 1 0).toNat * 2^8 + (header.getD 0 0).toNat : Nat)

/- The data are what SerializeToArray has written. -/
def serializeMessage (p : Pattern) (data : Bytes) (s : Sink) : Except IoException Unit × Sink :=
  match writeBytes p (header data.length) s with
  | (size,s) =>
    if size ≠ some 4 then (.error .cantWriteSize,s)
    else match writeBytes p data s with
      | (written,s) => if written ≠ some data.length then (.error .cantWriteData,s) else (.ok (),s)

/- The data are what ParseFromArray gets. -/
def deserializeMessage (p : Pattern) (s : Source) : Except IoException Bytes × Source :=
  match readBytes p 4 s with
  | (none,s) => (.error .cantReadSize,s)
  | (some header,s) =>
    if header.length ≠ 4 then (.error .cantReadSize,s)
    else if headerSize header < 0 then (.error .invalidSize,s)
    else match readBytes p (headerSize header).toNat s with
      | (none,s) => (.error .invalidData,s)
      | (some data,s) => if data.length ≠ (headerSize header).toNat then (.error .invalidData,s) else (.ok data,s)

/- Several messages in a row. -/
def serializeAll (p : Pattern) : List Bytes → Sink → Except IoException Unit × Sink
  | [], s => (.ok (),s)
  | message::messages, s => match serializeMessage p message s with
    | (.error e,s) => (.error e,s)
    | (.ok _,s) => serializeAll p messages s

def deserializeAll (p : Pattern) : Nat → Source → Except IoException (List Bytes) × Source
  | 0, s => (.ok [],s)
  | count+1, s => match deserializeMessage p s with
    | (.error e,s) => (.error e,s)
    | (.ok message,s) => match deserializeAll p count s with
      | (.error e,s) => (.error e,s)
      | (.ok messages,s) => (.ok (message::messages),s)

/-! The loops move everything there is. -/

variable {p : Pattern}

theorem writesSome (never : p.NeverFails) (buf : Bytes) (s : Sink) :
    ∃ len ≤ buf.length, write p buf s = (some len,⟨s.written ++ buf.take len,s.calls + 1⟩) := by
  obtain ⟨n,limit⟩ := never s.calls
  refine ⟨min buf.length n,Nat.min_le_left _ _,?_⟩
  unfold write
  rw [limit]

theorem writesAll (never : p.NeverFails) (buf : Bytes) (s : Sink) :
    ∃ calls, writeBytes p buf s = (some buf.length,⟨s.written ++ buf,calls⟩) := by
  fun_induction writeBytes p buf s with
  | case1 s => exact ⟨s.calls,by rw [List.append_nil]; rfl⟩
  | case2 buf s more t failed =>
    obtain ⟨len,_,wrote⟩ := writesSome never buf s
    cases failed.symm.trans wrote
  | case3 buf s more len t wrote u failed ih =>
    obtain ⟨calls,rest⟩ := ih
    cases failed.symm.trans rest
  | case4 buf s more len t wrote offset u rest ih =>
    obtain ⟨calls,all⟩ := ih
    obtain ⟨len',inside,wrote'⟩ := writesSome never buf s
    cases wrote.symm.trans wrote'
    cases rest.symm.trans all
    have length : len + (buf.drop len).length = buf.length := by rw [List.length_drop]; omega
    rw [length,List.append_assoc,List.take_append_drop]
    exact ⟨calls,rfl⟩

theorem readsSome {count : Nat} (never : p.NeverFails) (positive : 0 < count) (s : Source) :
    ∃ len ≤ count, len ≤ s.stream.length ∧ (len = 0 → s.stream = []) ∧
      read p count s = (some (s.stream.take len),⟨s.stream.drop len,s.calls + 1⟩) := by
  obtain ⟨n,limit⟩ := never s.calls
  have progress := p.progress _ _ limit
  refine ⟨min (min count n) s.stream.length,by omega,by omega,fun none => List.eq_nil_of_length_eq_zero (by omega),?_⟩
  unfold read
  rw [limit]

theorem readsAll (never : p.NeverFails) (count : Nat) (s : Source) :
    ∃ calls, readBytes p count s = (some (s.stream.take count),⟨s.stream.drop count,calls⟩) := by
  fun_induction readBytes p count s with
  | case1 s => exact ⟨s.calls,by simp⟩
  | case2 count s some t failed =>
    obtain ⟨len,_,_,_,got⟩ := readsSome never (Nat.pos_of_ne_zero some) s
    cases failed.symm.trans got
  | case3 count s some t ended =>
    obtain ⟨len,_,inside,none,got⟩ := readsSome never (Nat.pos_of_ne_zero some) s
    have same := ended.symm.trans got
    simp only [Prod.mk.injEq,Option.some.injEq] at same
    have empty := none (by simpa [inside] using (congrArg List.length same.1).symm)
    rw [same.2,empty]
    exact ⟨s.calls + 1,by simp⟩
  | case4 count s some b bytes t got u failed ih =>
    obtain ⟨calls,rest⟩ := ih
    cases failed.symm.trans rest
  | case5 count s some b bytes t got rest u others ih =>
    obtain ⟨len,fits,inside,none,got'⟩ := readsSome never (Nat.pos_of_ne_zero some) s
    obtain ⟨calls,all⟩ := ih
    have same := got.symm.trans got'
    simp only [Prod.mk.injEq,Option.some.injEq] at same
    obtain ⟨first,rfl⟩ := same
    have length : bytes.length + 1 = len := by
      have lengths := congrArg List.length first
      rw [List.length_take,Nat.min_eq_left inside] at lengths
      exact lengths
    cases others.symm.trans all
    rw [length,first,← List.take_add,List.drop_drop,Nat.add_sub_cancel' fits]
    exact ⟨calls,rfl⟩

/-! One message. -/

def frame (data : Bytes) : Bytes := header data.length ++ data

def frames (messages : List Bytes) : Bytes := messages.flatMap frame

theorem headerLength (size : Nat) : (header size).length = 4 := rfl

theorem headerRead {size : Nat} (fits : size < 2^31) : headerSize (header size) = size := by
  have first : (UInt8.ofNat size).toNat = size % 256 := UInt8.toNat_ofNat'
  have second : (UInt8.ofNat (size / 2^8)).toNat = size / 2^8 % 256 := UInt8.toNat_ofNat'
  have third : (UInt8.ofNat (size / 2^16)).toNat = size / 2^16 % 256 := UInt8.toNat_ofNat'
  have fourth : (UInt8.ofNat (size / 2^24)).toNat = size / 2^24 % 256 := UInt8.toNat_ofNat'
  have whole : size / 2^24 % 256 * 2^24 + size / 2^16 % 256 * 2^16 + size / 2^8 % 256 * 2^8 + size % 256 = size := by omega
  unfold headerSize header
  simp only [List.getD_cons_succ,List.getD_cons_zero,first,second,third,fourth,whole]
  exact int32Fits (by omega) (by omega)

theorem serializes (never : p.NeverFails) (data : Bytes) (s : Sink) :
    ∃ calls, serializeMessage p data s = (.ok (),⟨s.written ++ frame data,calls⟩) := by
  obtain ⟨calls,size⟩ := writesAll never (header data.length) s
  obtain ⟨calls',all⟩ := writesAll never data ⟨s.written ++ header data.length,calls⟩
  rw [headerLength] at size
  refine ⟨calls',?_⟩
  unfold serializeMessage
  rw [size]
  dsimp only
  rw [if_neg (not_not.mpr rfl),all]
  dsimp only
  rw [if_neg (not_not.mpr rfl),List.append_assoc]
  rfl

/- The header has come, and some of the bytes behind it. -/
theorem deserializesBehind (never : p.NeverFails) {size : Nat} (fits : size < 2^31) (behind : Bytes) (calls : Nat) :
    ∃ calls', deserializeMessage p ⟨header size ++ behind,calls⟩ =
      (if (behind.take size).length ≠ size then .error .invalidData else .ok (behind.take size),⟨behind.drop size,calls'⟩) := by
  obtain ⟨calls1,got⟩ := readsAll never 4 ⟨header size ++ behind,calls⟩
  obtain ⟨calls2,all⟩ := readsAll never size ⟨behind,calls1⟩
  have first : (header size ++ behind).take 4 = header size := List.take_left' (headerLength size)
  have rest : (header size ++ behind).drop 4 = behind := List.drop_left' (headerLength size)
  have natural : ¬headerSize (header size) < 0 := by rw [headerRead fits]; omega
  rw [first,rest] at got
  refine ⟨calls2,?_⟩
  unfold deserializeMessage
  rw [got]
  dsimp only
  rw [if_neg (not_not.mpr (headerLength size)),if_neg natural,headerRead fits,Int.toNat_natCast,all]
  dsimp only
  split <;> rfl

theorem deserializes (never : p.NeverFails) {data : Bytes} (fits : data.length < 2^31) (rest : Bytes) (calls : Nat) :
    ∃ calls', deserializeMessage p ⟨frame data ++ rest,calls⟩ = (.ok data,⟨rest,calls'⟩) := by
  obtain ⟨calls',got⟩ := deserializesBehind never fits (data ++ rest) calls
  rw [List.take_left,List.drop_left,if_neg (not_not.mpr rfl),← List.append_assoc] at got
  exact ⟨calls',got⟩

/- Nothing but a whole frame is accepted. -/
theorem truncated (never : p.NeverFails) {data : Bytes} (fits : data.length < 2^31) {cut : Nat} (within : cut < (frame data).length) (calls : Nat) :
    ∃ e, (deserializeMessage p ⟨(frame data).take cut,calls⟩).1 = .error e := by
  have total : (frame data).length = 4 + data.length := List.length_append
  have behind := fun rest => deserializesBehind never fits rest calls
  clear fits
  by_cases short : cut < 4
  · obtain ⟨calls1,got⟩ := readsAll never 4 ⟨(frame data).take cut,calls⟩
    have less : (((frame data).take cut).take 4).length ≠ 4 := by
      rw [List.length_take,List.length_take]
      omega
    have failed : deserializeMessage p ⟨(frame data).take cut,calls⟩ =
        (.error .cantReadSize,⟨((frame data).take cut).drop 4,calls1⟩) := by
      unfold deserializeMessage
      rw [got]
      exact if_pos less
    exact ⟨_,congrArg Prod.fst failed⟩
  · have kept : (frame data).take cut = header data.length ++ data.take (cut - 4) := by
      unfold frame
      rw [List.take_append,headerLength,List.take_of_length_le (by rw [headerLength]; omega)]
    obtain ⟨calls',got⟩ := behind (data.take (cut - 4))
    have less : ((data.take (cut - 4)).take data.length).length ≠ data.length := by
      rw [List.length_take,List.length_take]
      omega
    rw [if_pos less] at got
    rw [kept,got]
    exact ⟨_,rfl⟩

/-! Messages in a row. -/

theorem serializesAll (never : p.NeverFails) (messages : List Bytes) (s : Sink) :
    ∃ calls, serializeAll p messages s = (.ok (),⟨s.written ++ frames messages,calls⟩) := by
  induction messages generalizing s with
  | nil => exact ⟨s.calls,by rw [frames,List.flatMap_nil,List.append_nil]; rfl⟩
  | cons message messages ih =>
    obtain ⟨calls,first⟩ := serializes never message s
    obtain ⟨calls',rest⟩ := ih ⟨s.written ++ frame message,calls⟩
    refine ⟨calls',?_⟩
    unfold serializeAll
    rw [first]
    dsimp only
    rw [rest,List.append_assoc]
    rfl

theorem deserializesAll (never : p.NeverFails) {messages : List Bytes} (fits : ∀ message ∈ messages, message.length < 2^31) (rest : Bytes)
    (calls : Nat) : ∃ calls', deserializeAll p messages.length ⟨frames messages ++ rest,calls⟩ = (.ok messages,⟨rest,calls'⟩) := by
  induction messages generalizing calls with
  | nil => exact ⟨calls,rfl⟩
  | cons message messages ih =>
    obtain ⟨small,others⟩ := List.forall_mem_cons.mp fits
    obtain ⟨calls1,first⟩ := deserializes never small (frames messages ++ rest) calls
    obtain ⟨calls2,later⟩ := ih others calls1
    refine ⟨calls2,?_⟩
    have parts : frames (message :: messages) ++ rest = frame message ++ (frames messages ++ rest) := by
      unfold frames
      rw [List.flatMap_cons,List.append_assoc]
    rw [parts,List.length_cons,deserializeAll,first]
    dsimp only
    rw [later]

end ProtobufUtil

open ProtobufUtil in
/- What is written for some messages is read back as these messages, up to the last byte. Whatever ends
within a message is an error, once the messages before it have been read. -/
theorem messagesFramed {w r : Pattern} {messages : List Bytes} (writes : w.NeverFails) (reads : r.NeverFails)
    (fits : ∀ message ∈ messages, message.length < 2^31) : ∃ stream calls,
      serializeAll w messages {} = (.ok (),⟨stream,calls⟩) ∧
      (∀ rest, ∃ calls, deserializeAll r messages.length ⟨stream ++ rest,0⟩ = (.ok messages,⟨rest,calls⟩)) ∧
      ∀ before message after, messages = before ++ message :: after → ∀ cut < (frame message).length, ∃ part calls e,
        deserializeAll r before.length ⟨stream.take ((frames before).length + cut),0⟩ = (.ok before,⟨part,calls⟩) ∧
        (deserializeMessage r ⟨part,calls⟩).1 = .error e := by
  obtain ⟨calls,written⟩ := serializesAll writes messages {}
  refine ⟨frames messages,calls,written,fun rest => deserializesAll reads fits rest 0,?_⟩
  rintro before message after rfl cut within
  have parts : frames (before ++ message :: after) = frames before ++ (frame message ++ frames after) := by
    unfold frames
    rw [List.flatMap_append,List.flatMap_cons]
  have cutOff : (frames (before ++ message :: after)).take ((frames before).length + cut) = frames before ++ (frame message).take cut := by
    rw [parts,List.take_length_add_append,List.take_append_of_le_length (Nat.le_of_lt within)]
  obtain ⟨calls1,earlier⟩ := deserializesAll reads (fun m listed => fits m (List.mem_append_left _ listed)) ((frame message).take cut) 0
  obtain ⟨e,error⟩ := truncated reads (fits message (List.mem_append_right _ (List.mem_cons_self ..))) within calls1
  rw [cutOff]
  exact ⟨_,_,e,earlier,error⟩

namespace ProtobufUtil

/- One byte with each call. -/
def single : Pattern := ⟨fun _ => some 1,fun _ _ one => by cases one; exact Nat.one_pos⟩

theorem singleFramed : ∃ stream calls, serializeAll single [[0x0a,0x01],[]] {} = (.ok (),⟨stream,calls⟩) ∧
    ∃ calls, deserializeAll single 2 ⟨stream ++ [0xff],0⟩ = (.ok [[0x0a,0x01],[]],⟨[0xff],calls⟩) := by
  have never : single.NeverFails := fun _ => ⟨1,rfl⟩
  obtain ⟨stream,calls,written,whole,_⟩ := messagesFramed never never
    (show ∀ message ∈ [[0x0a,0x01],[]], message.length < 2^31 by decide)
  exact ⟨stream,calls,written,whole [0xff]⟩

end ProtobufUtil
end Scsi2Pi
