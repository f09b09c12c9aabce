import Scsi2Pi.FileSystem

/-! Big-endian integers in byte buffers. -/
namespace Scsi2Pi.MemoryUtil
open Slices

def byteAt (buf : Bytes) (i : Nat) : Nat := (buf.getD i 0).toNat

def getInt16 (buf : Bytes) (offset : Nat) : Nat := byteAt buf offset * 2^8 + byteAt buf (offset+1)

def getInt24 (buf : Bytes) (offset : Nat) : Nat :=
  byteAt buf offset * 2^16 + byteAt buf (offset+1) * 2^8 + byteAt buf (offset+2)

def getInt32 (buf : Bytes) (offset : Nat) : Nat := getInt16 buf offset * 2^16 + getInt16 buf (offset+2)

def getInt64 (buf : Bytes) (offset : Nat) : Nat := getInt32 buf offset * 2^32 + getInt32 buf (offset+4)

/- The low count bytes of a value, most significant byte first. -/
def bigEndian (count value : Nat) : Bytes :=
  (List.range count).map fun i => UInt8.ofNat (value / 256^(count-1-i))

def setBytes (buf : Bytes) (offset : Nat) (bytes : Bytes) : Bytes := overwrite 0 buf offset bytes

def setInt16 (buf : Bytes) (offset value : Nat) : Bytes := setBytes buf offset (bigEndian 2 value)

def setInt32 (buf : Bytes) (offset value : Nat) : Bytes := setBytes buf offset (bigEndian 4 value)

def setInt64 (buf : Bytes) (offset value : Nat) : Bytes := setBytes buf offset (bigEndian 8 value)

theorem takeFront (buf data : Bytes) : (setBytes buf 0 data).take data.length = data := by
  simp [setBytes,overwrite]

theorem setFirstByte (buf : Bytes) (b : UInt8) : (setBytes buf 0 [b]).head? = some b := by
  simp [setBytes,overwrite]

theorem byteAtLt (buf : Bytes) (i : Nat) : byteAt buf i < 2^8 := UInt8.toNat_lt _

theorem getInt16Lt (buf : Bytes) (offset : Nat) : getInt16 buf offset < 2^16 := by
  have high := byteAtLt buf offset
  have low := byteAtLt buf (offset+1)
  simp only [getInt16]
  omega

theorem getInt24Lt (buf : Bytes) (offset : Nat) : getInt24 buf offset < 2^24 := by
  have high := byteAtLt buf offset
  have mid := byteAtLt buf (offset+1)
  have low := byteAtLt buf (offset+2)
  simp only [getInt24]
  omega

theorem getInt32Lt (buf : Bytes) (offset : Nat) : getInt32 buf offset < 2^32 := by
  have high := getInt16Lt buf offset
  have low := getInt16Lt buf (offset+2)
  simp only [getInt32]
  omega

theorem getInt64Lt (buf : Bytes) (offset : Nat) : getInt64 buf offset < 2^64 := by
  have high := getInt32Lt buf offset
  have low := getInt32Lt buf (offset+4)
  simp only [getInt64]
  omega

/-! What is read behind a write. -/

section
variable {buf bytes : Bytes} {offset a : Nat}

theorem setBytesLength (fits : offset + bytes.length ≤ buf.length) : (setBytes buf offset bytes).length = buf.length :=
  overwriteLength fits

theorem setBytesGrows (buf bytes : Bytes) (offset : Nat) : buf.length ≤ (setBytes buf offset bytes).length := by
  simp only [setBytes,overwrite,List.length_append,List.length_take,List.length_replicate,List.length_drop]
  omega

theorem byteAtZeros (count k : Nat) : byteAt (List.replicate count 0) k = 0 := by
  rw [byteAt,List.getD_eq_getElem?_getD,List.getElem?_replicate]
  split <;> rfl

theorem byteAtBehind {i : Nat} (behind : bytes.length ≤ i) : byteAt bytes i = 0 := by
  rw [byteAt,List.getD_eq_getElem?_getD,List.getElem?_eq_none behind]
  rfl

theorem byteAtDrop (n i : Nat) : byteAt (bytes.drop n) i = byteAt bytes (n+i) := by
  rw [byteAt,byteAt,List.getD_eq_getElem?_getD,List.getD_eq_getElem?_getD,List.getElem?_drop]

theorem byteAtTake {count i : Nat} (inside : i < count) : byteAt (buf.take count) i = byteAt buf i := by
  simp [byteAt,List.getD_eq_getElem?_getD,inside]

theorem byteAtAppend (front back : Bytes) (i : Nat) :
    byteAt (front ++ back) i = if i < front.length then byteAt front i else byteAt back (i - front.length) := by
  rw [byteAt,List.getD_eq_getElem?_getD,List.getElem?_append]
  split <;> rw [byteAt,List.getD_eq_getElem?_getD]

/- Also where the write starts behind the end. -/
theorem byteAtSetBytes (i : Nat) : byteAt (setBytes buf offset bytes) i =
    if offset ≤ i ∧ i < offset + bytes.length then byteAt bytes (i-offset) else byteAt buf i := by
  have front : (buf.take offset ++ List.replicate (offset - buf.length) 0).length = offset := by
    rw [List.length_append,List.length_take,List.length_replicate]
    omega
  unfold setBytes overwrite
  rw [byteAtAppend,byteAtAppend,List.length_append,front]
  by_cases before : i < offset
  · rw [if_pos (by omega),if_pos before,if_neg (by omega),byteAtAppend,List.length_take]
    split
    · rw [byteAtTake before]
    · rw [byteAtZeros,byteAtBehind (by omega)]
  · rw [if_neg before]
    by_cases inside : i < offset + bytes.length
    · rw [if_pos inside,if_pos ⟨by omega,inside⟩]
    · rw [if_neg inside,if_neg fun both => inside both.2,byteAtDrop]
      congr 1
      omega

theorem byteAtFront {k : Nat} (inside : k < bytes.length) : byteAt (setBytes buf 0 bytes) k = byteAt bytes k := by
  rw [byteAtSetBytes,if_pos ⟨Nat.zero_le k,by omega⟩,Nat.sub_zero]

theorem byteAtOther {i : Nat} (apart : i < offset ∨ offset + bytes.length ≤ i) :
    byteAt (setBytes buf offset bytes) i = byteAt buf i := by
  rw [byteAtSetBytes,if_neg (by omega)]

theorem getInt16Other (apart : a + 2 ≤ offset ∨ offset + bytes.length ≤ a) :
    getInt16 (setBytes buf offset bytes) a = getInt16 buf a := by
  unfold getInt16
  rw [byteAtOther (by omega),byteAtOther (by omega)]

theorem getInt32Other (apart : a + 4 ≤ offset ∨ offset + bytes.length ≤ a) :
    getInt32 (setBytes buf offset bytes) a = getInt32 buf a := by
  unfold getInt32
  rw [getInt16Other (by omega),getInt16Other (by omega)]

theorem getInt64Other (apart : a + 8 ≤ offset ∨ offset + bytes.length ≤ a) :
    getInt64 (setBytes buf offset bytes) a = getInt64 buf a := by
  unfold getInt64
  rw [getInt32Other (by omega),getInt32Other (by omega)]

@[simp] theorem bigEndianLength (count value : Nat) : (bigEndian count value).length = count := by
  simp [bigEndian]

theorem byteAtBigEndian {count i : Nat} (inside : i < count) (value : Nat) :
    byteAt (bigEndian count value) i = value / 256^(count-1-i) % 256 := by
  simp [byteAt,bigEndian,List.getD_eq_getElem?_getD,inside]

/- One byte of a field that has been set. -/
theorem byteAtField {count i : Nat} (inside : i < count) (value : Nat) :
    byteAt (setBytes buf offset (bigEndian count value)) (offset + i) = value / 256^(count-1-i) % 256 := by
  rw [byteAtSetBytes,bigEndianLength,if_pos (by omega),Nat.add_sub_cancel_left,
    byteAtBigEndian inside]

/- Adjacent parts of a value, the upper one shifted by count bytes. -/
theorem divPow (value low count : Nat) : value / 256^(low+count) = value / 256^low / 256^count := by
  rw [Nat.pow_add,Nat.div_div_eq_div_mul]

theorem getInt16Field {count i : Nat} (inside : i + 2 ≤ count) (value : Nat) :
    getInt16 (setBytes buf offset (bigEndian count value)) (offset+i) = value / 256^(count-2-i) % 2^16 := by
  have high : count - 1 - i = count - 2 - i + 1 := by omega
  have low : count - 1 - (i+1) = count - 2 - i := by omega
  unfold getInt16
  rw [Nat.add_assoc,byteAtField (by omega),byteAtField (by omega),high,low,divPow]
  omega

theorem getInt32Field {count i : Nat} (inside : i + 4 ≤ count) (value : Nat) :
    getInt32 (setBytes buf offset (bigEndian count value)) (offset+i) = value / 256^(count-4-i) % 2^32 := by
  have high : count - 2 - i = count - 4 - i + 2 := by omega
  have low : count - 2 - (i+2) = count - 4 - i := by omega
  unfold getInt32
  rw [Nat.add_assoc,getInt16Field (by omega),getInt16Field (by omega),high,low,divPow]
  omega

theorem getInt64Field {count i : Nat} (inside : i + 8 ≤ count) (value : Nat) :
    getInt64 (setBytes buf offset (bigEndian count value)) (offset+i) = value / 256^(count-8-i) % 2^64 := by
  have high : count - 4 - i = count - 8 - i + 4 := by omega
  have low : count - 4 - (i+4) = count - 8 - i := by omega
  unfold getInt64
  rw [Nat.add_assoc,getInt32Field (by omega),getInt32Field (by omega),high,low,divPow]
  omega

theorem getInt16Same (value : Nat) : getInt16 (setInt16 buf offset value) offset = value % 2^16 := by
  refine (getInt16Field (show 0 + 2 ≤ 2 by decide) value).trans ?_
  rw [Nat.sub_self,Nat.pow_zero,Nat.div_one]

theorem getInt32Same (value : Nat) : getInt32 (setInt32 buf offset value) offset = value % 2^32 := by
  refine (getInt32Field (show 0 + 4 ≤ 4 by decide) value).trans ?_
  rw [Nat.sub_self,Nat.pow_zero,Nat.div_one]

theorem getInt64Same (value : Nat) : getInt64 (setInt64 buf offset value) offset = value % 2^64 := by
  refine (getInt64Field (show 0 + 8 ≤ 8 by decide) value).trans ?_
  rw [Nat.sub_self,Nat.pow_zero,Nat.div_one]

theorem getInt16Take {count : Nat} (inside : a + 2 ≤ count) : getInt16 (buf.take count) a = getInt16 buf a := by
  unfold getInt16
  rw [byteAtTake (by omega),byteAtTake (by omega)]

theorem getInt32Take {count : Nat} (inside : a + 4 ≤ count) : getInt32 (buf.take count) a = getInt32 buf a := by
  unfold getInt32
  rw [getInt16Take (by omega),getInt16Take (by omega)]

theorem getInt64Take {count : Nat} (inside : a + 8 ≤ count) : getInt64 (buf.take count) a = getInt64 buf a := by
  unfold getInt64
  rw [getInt32Take (by omega),getInt32Take (by omega)]

end
end Scsi2Pi.MemoryUtil
