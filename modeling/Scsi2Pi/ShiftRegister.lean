import Mathlib

/-! Shift registers over GF(2) whose lowest bit stands for the highest power, and the remainder
of a division of polynomials that they compute. -/
namespace Scsi2Pi.ShiftRegister
open Polynomial Finset

def bit (b : Bool) : ZMod 2 := if b then 1 else 0

theorem bitXor : ∀ a b, bit (a ^^ b) = bit a + bit b := by
  decide

theorem bitInjective : ∀ a b, bit a = bit b → a = b := by
  decide

/- The first bit is that of the highest power. -/
noncomputable def powers (n : Nat) (f : Nat → Bool) : (ZMod 2)[X] := ∑ j ∈ range n, C (bit (f j)) * X ^ (n-1-j)

variable {n : Nat} {f g : Nat → Bool}

theorem powersCongr (same : ∀ j < n, f j = g j) : powers n f = powers n g :=
  sum_congr rfl fun j listed => by rw [same j (mem_range.mp listed)]

theorem powersXor (f g : Nat → Bool) : powers n (fun j => f j ^^ g j) = powers n f + powers n g := by
  simp only [powers,bitXor,C_add,add_mul,sum_add_distrib]

theorem powersNone : powers n (fun _ => false) = 0 := by
  simp [powers,bit]

theorem powersAppend (n k : Nat) (f : Nat → Bool) : powers (n+k) f = powers n f * X ^ k + powers k fun j => f (n+j) := by
  unfold powers
  rw [sum_range_add,sum_mul]
  congr 1
  · refine sum_congr rfl fun j listed => ?_
    have below := mem_range.mp listed
    rw [mul_assoc,← pow_add,show n+k-1-j = n-1-j+k by omega]
  · refine sum_congr rfl fun j _ => ?_
    rw [show n+k-1-(n+j) = k-1-j by omega]

theorem powersFirst (n : Nat) (f : Nat → Bool) : powers (n+1) f = C (bit (f 0)) * X ^ n + powers n fun j => f (1+j) := by
  have one : powers 1 f = C (bit (f 0)) := by simp [powers]
  rw [Nat.add_comm,powersAppend,one]

theorem powersCoeff (k : Nat) : (powers n f).coeff k = if k < n then bit (f (n-1-k)) else 0 := by
  simp only [powers,finsetSum_coeff,coeff_C_mul,coeff_X_pow]
  split
  · rename_i inside
    rw [sum_eq_single (n-1-k)]
    · rw [if_pos (by omega),mul_one]
    · intro j listed other
      have below := mem_range.mp listed
      rw [if_neg (by omega),mul_zero]
    · intro missing
      exact absurd (mem_range.mpr (by omega)) missing
  · refine sum_eq_zero fun j listed => ?_
    have below := mem_range.mp listed
    rw [if_neg (by omega),mul_zero]

theorem powersDegree : (powers n f).degree < n := by
  refine (degree_lt_iff_coeff_zero _ _).mpr fun k beyond => ?_
  rw [powersCoeff,if_neg (by omega)]

/-! The value of a register. -/

variable {w : Nat} {poly u v : BitVec w}

noncomputable def register (v : BitVec w) : (ZMod 2)[X] := powers w v.getLsbD

theorem registerXor (u v : BitVec w) : register (u ^^^ v) = register u + register v := by
  unfold register
  rw [← powersXor]
  exact powersCongr fun j _ => BitVec.getLsbD_xor

theorem registerInjective (same : register u = register v) : u = v := by
  refine BitVec.eq_of_getLsbD_eq fun j inside => bitInjective _ _ ?_
  have coeff := congrArg (·.coeff (w-1-j)) same
  simp only [register,powersCoeff,if_pos (show w-1-j < w by omega),show w-1-(w-1-j) = j by omega] at coeff
  exact coeff

theorem registerDegree (v : BitVec w) : (register v).degree < w := powersDegree

/- A register that is followed by zeros in a longer one. -/
theorem registerExtended (v : BitVec w) (k : Nat) : register (v.setWidth (w+k)) = register v * X ^ k := by
  have zeros : powers k (fun j => (v.setWidth (w+k)).getLsbD (w+j)) = 0 := by
    rw [← powersNone (n := k)]
    exact powersCongr fun j inside => by simp
  have same : powers w (v.setWidth (w+k)).getLsbD = register v :=
    powersCongr fun j inside => by simp [show j < w+k by omega]
  unfold register
  rw [powersAppend,zeros,add_zero,same]
  rfl

/-! A shift is a multiplication by X, up to multiples of the generator. -/

noncomputable def generator (poly : BitVec w) : (ZMod 2)[X] := X ^ w + register poly

theorem generatorMonic (poly : BitVec w) : (generator poly).Monic := monic_X_pow_add (registerDegree poly)

theorem generatorDegree (poly : BitVec w) : (generator poly).degree = w := by
  unfold generator
  rw [degree_add_eq_left_of_degree_lt]
  · exact degree_X_pow w
  · rw [degree_X_pow]
    exact registerDegree poly

/- The only value that stands for the remainder of a polynomial. -/
theorem registerRemainder {p : (ZMod 2)[X]} (same : AdjoinRoot.mk (generator poly) (register v) = AdjoinRoot.mk (generator poly) p) :
    register v = p %ₘ generator poly := by
  have small : register v %ₘ generator poly = register v :=
    (modByMonic_eq_self_iff (generatorMonic poly)).mpr (by rw [generatorDegree]; exact registerDegree v)
  rw [← small]
  exact modByMonic_eq_of_dvd_sub (generatorMonic poly) (AdjoinRoot.mk_eq_mk.mp same)

def shift (poly v : BitVec w) : BitVec w := (v >>> 1) ^^^ if v.getLsbD 0 then poly else 0#w

theorem registerNone : register (0#w) = 0 := by
  unfold register
  rw [← powersNone (n := w)]
  exact powersCongr fun j _ => BitVec.getLsbD_zero

/- The bit that leaves the register is that of the highest power. -/
theorem registerShifted {v : BitVec (n+1)} : X * register v = register (v >>> 1) + C (bit (v.getLsbD 0)) * X ^ (n+1) := by
  have rest : register (v >>> 1) = X * powers n fun j => v.getLsbD (1+j) := by
    have moved : powers n (v >>> 1).getLsbD = powers n fun j => v.getLsbD (1+j) :=
      powersCongr fun j _ => BitVec.getLsbD_ushiftRight v 1 j
    have empty : powers 1 (fun j => (v >>> 1).getLsbD (n+j)) = 0 := by
      rw [← powersNone (n := 1)]
      exact powersCongr fun j inside => (BitVec.getLsbD_ushiftRight v 1 (n+j)).trans (BitVec.getLsbD_of_ge v _ (by omega))
    unfold register
    rw [powersAppend,empty,moved,add_zero,pow_one,mul_comm]
  have first : register v = C (bit (v.getLsbD 0)) * X ^ n + powers n fun j => v.getLsbD (1+j) := powersFirst n v.getLsbD
  rw [rest,first]
  ring

theorem rootShift {n : Nat} (poly v : BitVec (n+1)) : AdjoinRoot.mk (generator poly) (register (shift poly v)) =
    AdjoinRoot.mk (generator poly) (X * register v) := by
  have reduced : register (if v.getLsbD 0 then poly else 0#(n+1)) = C (bit (v.getLsbD 0)) * register poly := by
    cases v.getLsbD 0 with
    | false =>
      rw [if_neg Bool.false_ne_true,registerNone]
      simp [bit]
    | true => simp [bit]
  refine AdjoinRoot.mk_eq_mk.mpr ⟨C (bit (v.getLsbD 0)),?_⟩
  unfold shift generator
  rw [registerXor,reduced,registerShifted]
  have two : (2 : (ZMod 2)[X]) = 0 := CharTwo.two_eq_zero
  linear_combination (-(C (bit (v.getLsbD 0)) * X ^ (n+1))) * two

/- A symbol is added to the lowest bits and shifted out. -/
def absorb {k : Nat} (poly v : BitVec w) (symbol : BitVec k) : BitVec w := (shift poly)^[k] (v ^^^ symbol.setWidth w)

/- The polynomial of a message of such symbols. -/
noncomputable def message {k : Nat} : List (BitVec k) → (ZMod 2)[X]
  | [] => 0
  | symbol :: symbols => register symbol * X ^ (k*symbols.length) + message symbols

theorem rootShifts {n : Nat} (poly v : BitVec (n+1)) (k : Nat) :
    AdjoinRoot.mk (generator poly) (register ((shift poly)^[k] v)) = AdjoinRoot.mk (generator poly) (X ^ k * register v) := by
  induction k generalizing v with
  | zero => simp
  | succ k ih =>
    have once := rootShift poly v
    rw [Function.iterate_succ_apply,ih,map_mul,once,← map_mul]
    congr 1
    ring

theorem rootAbsorb {n k : Nat} (poly v : BitVec (n+1)) (symbol : BitVec k) (fits : k ≤ n+1) :
    AdjoinRoot.mk (generator poly) (register (absorb poly v symbol)) =
      AdjoinRoot.mk (generator poly) (X ^ k * register v + register symbol * X ^ (n+1)) := by
  obtain ⟨j,length⟩ := Nat.exists_eq_add_of_le fits
  have extended : register (symbol.setWidth (n+1)) = register symbol * X ^ j := by
    rw [length]
    exact registerExtended symbol j
  have top : (X : (ZMod 2)[X]) ^ (n+1) = X ^ k * X ^ j := by rw [length,pow_add]
  unfold absorb
  rw [rootShifts,registerXor,extended,top]
  congr 1
  ring

/- The register behind a message. -/
theorem rootMessage {n k : Nat} (poly v : BitVec (n+1)) (symbols : List (BitVec k)) (fits : k ≤ n+1) :
    AdjoinRoot.mk (generator poly) (register (symbols.foldl (absorb poly) v)) =
      AdjoinRoot.mk (generator poly) (register v * X ^ (k*symbols.length) + message symbols * X ^ (n+1)) := by
  induction symbols generalizing v with
  | nil => simp [message]
  | cons symbol symbols ih =>
    have first := rootAbsorb poly v symbol fits
    rw [List.foldl_cons,ih,map_add,map_mul,first,← map_mul,← map_add]
    have joined : (X ^ k * register v + register symbol * X ^ (n+1)) * X ^ (k * symbols.length) + message symbols * X ^ (n+1) =
        register v * X ^ (k * (symbol :: symbols).length) + message (symbol :: symbols) * X ^ (n+1) := by
      simp only [message,List.length_cons,Nat.mul_succ,pow_add]
      ring
    rw [joined]

theorem remainderMessage {n k : Nat} (poly v : BitVec (n+1)) (symbols : List (BitVec k)) (fits : k ≤ n+1) :
    register (symbols.foldl (absorb poly) v) =
      (register v * X ^ (k*symbols.length) + message symbols * X ^ (n+1)) %ₘ generator poly :=
  registerRemainder (rootMessage poly v symbols fits)

end Scsi2Pi.ShiftRegister
