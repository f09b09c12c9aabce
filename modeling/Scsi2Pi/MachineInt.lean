import Mathlib.Algebra.Group.Int.Defs
import Mathlib.Algebra.Group.Nat.Defs
import Mathlib.Data.Int.Basic

/-! The conversions of the C++ code to its 32-bit integer types. -/
namespace Scsi2Pi

def int32 (x : Int) : Int := x.bmod (2^32)

def uint32 (x : Int) : Nat := (x % 2^32).toNat

theorem int32Fits {x : Int} (low : -2^31 ≤ x) (high : x < 2^31) : int32 x = x := by
  unfold int32
  exact Int.bmod_eq_of_le (by simpa using low) (by simpa using high)

theorem uint32Fits {x : Nat} (h : x < 2^32) : uint32 x = x := by
  unfold uint32
  omega

theorem uint32Lt (x : Int) : uint32 x < 2^32 := by
  unfold uint32
  omega

end Scsi2Pi
