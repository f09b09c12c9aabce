import Scsi2Pi.MemoryUtil
import Scsi2Pi.ShiftRegister

/-! The TAP driver: what has been received gets its frame check sequence back, which is the one of
CRC-32/IEEE. -/
namespace Scsi2Pi
open Slices MemoryUtil

namespace TapDriver

def ethFrameLen : Nat := 1514

def crc32Bit (crc : UInt32) : UInt32 := (crc >>> 1) ^^^ (0xEDB88320 &&& -(crc &&& 1))

def crc32Byte (crc : UInt32) (d : UInt8) : UInt32 := crc32Bit^[8] (crc ^^^ d.toUInt32)

def crc32 (data : Bytes) : UInt32 := ~~~data.foldl crc32Byte 0xffffffff

def frameCheck (crc : UInt32) : Bytes := [crc.toUInt8,(crc >>> 8).toUInt8,(crc >>> 16).toUInt8,(crc >>> 24).toUInt8]

/- The buffer and the number of bytes received, for what read returns. -/
def receive (pending : Bool) (read : Option Bytes) (buf : Bytes) : Bytes × Nat :=
  match pending,read with
  | true,some packet =>
    let packet := packet.take ethFrameLen
    let buf := setBytes buf 0 packet
    if 0 < packet.length then
      (setBytes buf packet.length (frameCheck (crc32 (buf.take packet.length))),packet.length + 4)
    else (buf,0)
  | _,_ => (buf,0)

/- The frame is the packet and its frame check sequence. -/
theorem receivesFrame {packet buf : Bytes} (some : 0 < packet.length) (fits : packet.length ≤ ethFrameLen)
    (room : packet.length + 4 ≤ buf.length) : (receive true (.some packet) buf).1.take (receive true (.some packet) buf).2 =
      packet ++ frameCheck (crc32 packet) := by
  have whole : packet.take ethFrameLen = packet := List.take_of_length_le fits
  have stored : (setBytes buf 0 packet).take packet.length = packet := by simp [setBytes,overwrite]
  have length : (setBytes buf 0 packet).length = buf.length := setBytesLength (by omega)
  have four : (frameCheck (crc32 packet)).length = 4 := rfl
  have joined {front check : Bytes} (four : check.length = 4) (fits : packet.length ≤ front.length) :
      (setBytes front packet.length check).take (packet.length + 4) = front.take packet.length ++ check := by
    simp [setBytes,overwrite,four,Nat.sub_eq_zero_of_le fits,Nat.min_eq_left fits,List.take_append]
  unfold receive
  simp only [whole,if_pos some,stored]
  rw [joined four (by omega),stored]

/-! The division. -/

open ShiftRegister Polynomial Finset

noncomputable def ieee : (ZMod 2)[X] :=
  X^32 + X^26 + X^23 + X^22 + X^16 + X^12 + X^11 + X^10 + X^8 + X^7 + X^5 + X^4 + X^2 + X + 1

noncomputable def ones : (ZMod 2)[X] := ∑ k ∈ range 32, X ^ k

/- The bits of each byte, the lowest one first. -/
noncomputable def bits (data : Bytes) : (ZMod 2)[X] := message (data.map UInt8.toBitVec)

/- The remainder for a register with initial value 0xffffffff. -/
noncomputable def remainder (data : Bytes) : (ZMod 2)[X] := (ones * X ^ (8 * data.length) + bits data * X ^ 32) %ₘ ieee

/- The reflected remainder, with the final xor. -/
def Ieee (data : Bytes) (crc : UInt32) : Prop := register crc.toBitVec = remainder data + ones

theorem onesRegister : register 0xffffffff#32 = ones := by
  unfold register powers ones
  rw [← sum_range_reflect]
  refine sum_congr rfl fun j listed => ?_
  have below := mem_range.mp listed
  have set : ∀ j < 32, (0xffffffff#32).getLsbD (32-1-j) = true := by decide
  rw [set j below,show 32-1-(32-1-j) = j by omega]
  simp [bit]

theorem ieeeReflected : generator 0xEDB88320#32 = ieee := by
  unfold generator register powers
  simp [sum_range_succ,bit,BitVec.getLsbD,Nat.testBit]
  unfold ieee
  ring

theorem bitShift (crc : UInt32) : (crc32Bit crc).toBitVec = shift 0xEDB88320#32 crc.toBitVec := by
  have mask : (crc &&& 1).toBitVec = BitVec.setWidth 32 (BitVec.ofBool (crc.toBitVec.getLsbD 0)) :=
    BitVec.and_one_eq_setWidth_ofBool_getLsbD
  unfold crc32Bit shift
  rw [UInt32.toBitVec_xor,UInt32.toBitVec_and,UInt32.toBitVec_neg,mask]
  cases crc.toBitVec.getLsbD 0 <;> rfl

theorem byteAbsorbs (crc : UInt32) (d : UInt8) : (crc32Byte crc d).toBitVec = absorb 0xEDB88320#32 crc.toBitVec d.toBitVec := by
  have iterated (k : Nat) (crc : UInt32) : (crc32Bit^[k] crc).toBitVec = (shift 0xEDB88320#32)^[k] crc.toBitVec := by
    induction k generalizing crc with
    | zero => rfl
    | succ k ih => rw [Function.iterate_succ_apply,Function.iterate_succ_apply,ih,bitShift]
  unfold crc32Byte absorb
  rw [iterated,UInt32.toBitVec_xor]
  rfl

theorem bytesAbsorb (data : Bytes) (crc : UInt32) :
    (data.foldl crc32Byte crc).toBitVec = (data.map UInt8.toBitVec).foldl (absorb 0xEDB88320#32) crc.toBitVec := by
  induction data generalizing crc with
  | nil => rfl
  | cons d data ih => rw [List.foldl_cons,List.map_cons,List.foldl_cons,ih,byteAbsorbs]

theorem registerBytes (data : Bytes) : register (data.foldl crc32Byte 0xffffffff).toBitVec = remainder data := by
  have divided := remainderMessage 0xEDB88320#32 0xffffffff#32 (data.map UInt8.toBitVec) (by decide)
  rw [onesRegister,ieeeReflected,List.length_map] at divided
  rw [bytesAbsorb]
  exact divided

theorem registerComplement (v : BitVec 32) : register (~~~v) = register v + ones := by
  have flipped : ~~~v = v ^^^ 0xffffffff#32 := BitVec.xor_allOnes.symm
  rw [flipped,registerXor,onesRegister]

theorem crc32Ieee (data : Bytes) : Ieee data (crc32 data) := by
  unfold Ieee crc32
  rw [UInt32.toBitVec_not,registerComplement,registerBytes]

/-! The residue. -/

theorem bitsAppend (data more : Bytes) : bits (data ++ more) = bits data * X ^ (8 * more.length) + bits more := by
  induction data with
  | nil => simp [bits,message]
  | cons d data ih =>
    unfold bits at ih ⊢
    rw [List.cons_append,List.map_cons,List.map_cons,message,message,ih]
    simp only [List.length_map,List.length_append,Nat.mul_add,pow_add]
    ring

/- The four bytes are the bits of the value, the lowest one first. -/
theorem bitsCheck (crc : UInt32) : bits (frameCheck crc) = register crc.toBitVec := by
  have byte (n k : Nat) (b : UInt8) (is : b.toBitVec = (crc.toBitVec >>> n).setWidth 8) :
      (powers (8+k) fun j => crc.toBitVec.getLsbD (n+j)) =
        register b.toBitVec * X ^ k + powers k fun j => crc.toBitVec.getLsbD (n+8+j) := by
    have own : powers 8 (fun j => crc.toBitVec.getLsbD (n+j)) = register b.toBitVec :=
      powersCongr fun j inside => by simp [is,inside]
    rw [powersAppend,own]
    simp only [Nat.add_assoc]
  have first := byte 0 24 crc.toUInt8 (by simp)
  have second := byte 8 16 (crc >>> 8).toUInt8 (by simp)
  have third := byte 16 8 (crc >>> 16).toUInt8 (by simp)
  have fourth := byte 24 0 (crc >>> 24).toUInt8 (by simp)
  have whole : register crc.toBitVec = powers (8+24) fun j => crc.toBitVec.getLsbD (0+j) :=
    powersCongr fun j _ => by rw [Nat.zero_add]
  rw [whole,first]
  change _ = _ + powers (8+16) _
  rw [second]
  change _ = _ + (_ + powers (8+8) _)
  rw [third]
  change _ = _ + (_ + (_ + powers (8+0) _))
  rw [fourth]
  simp only [bits,frameCheck,message,List.map_cons,List.map_nil,List.length_cons,List.length_nil,powers,sum_range_zero]

/- What the register holds behind the frame check sequence does not depend on the packet. -/
theorem registerResidue (packet : Bytes) :
    register ((packet ++ frameCheck (crc32 packet)).foldl crc32Byte 0xffffffff).toBitVec = (ones * X ^ 32) %ₘ ieee := by
  have monic : ieee.Monic := ieeeReflected ▸ generatorMonic 0xEDB88320#32
  have check : bits (frameCheck (crc32 packet)) = remainder packet + ones := (bitsCheck _).trans (crc32Ieee packet)
  obtain ⟨q,quotient⟩ : ieee ∣ (ones * X ^ (8 * packet.length) + bits packet * X ^ 32) - remainder packet :=
    ⟨_,(sub_eq_iff_eq_add'.mpr (modByMonic_add_div _ ieee).symm)⟩
  rw [registerBytes]
  refine modByMonic_eq_of_dvd_sub monic ⟨q * X ^ 32,?_⟩
  have four : (frameCheck (crc32 packet)).length = 4 := rfl
  have two : (2 : (ZMod 2)[X]) = 0 := CharTwo.two_eq_zero
  rw [bitsAppend,check,List.length_append,four,Nat.mul_add,pow_add]
  linear_combination X ^ 32 * quotient + remainder packet * X ^ 32 * two

end TapDriver

open TapDriver in
theorem frameCheckSequence (packet : Bytes) : (∀ crc, Ieee packet crc ↔ crc = crc32 packet) ∧
    crc32 (packet ++ frameCheck (crc32 packet)) = 0x2144df1c := by
  refine ⟨fun crc => ⟨fun same => ?_,fun same => same ▸ crc32Ieee packet⟩,?_⟩
  · exact UInt32.toBitVec_inj.mp (ShiftRegister.registerInjective (same.trans (crc32Ieee packet).symm))
  · have constant := ShiftRegister.registerInjective ((registerResidue packet).trans (registerResidue []).symm)
    have same : crc32 (packet ++ frameCheck (crc32 packet)) = crc32 ([] ++ frameCheck (crc32 [])) :=
      congrArg (~~~·) (UInt32.toBitVec_inj.mp constant)
    rw [same]
    decide

end Scsi2Pi
