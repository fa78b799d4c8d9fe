import Mathlib

/-!
# Bit flags in a 32-bit word

A set of capability flags is a `UInt32` built as the bitwise or of constants and of masked
parts of other words, `k ||| x &&& k₁ ||| …`, and a flag is tested with `flags &&& m`. The
lemmas push the test through the or (`and_or_distrib_right`) and settle each part: a masked
part whose mask shares no bit with the test is zero (`and_and_eq_zero`, `and_and_eq_zero'`), and
a part that has the flag keeps the whole test away from zero (`or_and_ne_zero_of_left`,
`or_and_ne_zero_of_right`). What is left is a test of constants, closed by `decide`.
-/

set_option autoImplicit false

namespace Flags

theorem and_or_distrib_right (a b m : UInt32) : (a ||| b) &&& m = (a &&& m) ||| (b &&& m) :=
  UInt32.toBitVec_inj.1 BitVec.and_or_distrib_right

/-- A part masked by `k` has none of the flags `k` lacks. -/
theorem and_and_eq_zero {k m : UInt32} (x : UInt32) (h : k &&& m = 0) : x &&& k &&& m = 0 := by
  rw [UInt32.and_assoc, h, UInt32.and_zero]

theorem and_and_eq_zero' {k m : UInt32} (x : UInt32) (h : k &&& m = 0) : k &&& x &&& m = 0 := by
  rw [UInt32.and_comm k x, and_and_eq_zero x h]

/-- A part masked by `k` keeps the flags of `k` it has. -/
theorem and_and_eq_self {k m : UInt32} (x : UInt32) (h : k &&& m = k) : x &&& k &&& m = x &&& k := by
  rw [UInt32.and_assoc, h]

theorem and_and_eq_self' {k m : UInt32} (x : UInt32) (h : k &&& m = k) : k &&& x &&& m = k &&& x := by
  rw [UInt32.and_comm k x, and_and_eq_self x h]

theorem or_and_ne_zero_of_left {a m : UInt32} (b : UInt32) (h : a &&& m ≠ 0) :
    (a ||| b) &&& m ≠ 0 := by
  rw [and_or_distrib_right]
  exact fun h' => h (UInt32.or_eq_zero_iff.mp h').1

theorem or_and_ne_zero_of_right {b m : UInt32} (a : UInt32) (h : b &&& m ≠ 0) :
    (a ||| b) &&& m ≠ 0 := by
  rw [and_or_distrib_right]
  exact fun h' => h (UInt32.or_eq_zero_iff.mp h').2

/-- Setting a flag that is already set changes nothing. -/
theorem or_or_or_self (a b c : UInt32) : a ||| b ||| c ||| b = a ||| b ||| c := by
  rw [UInt32.or_assoc (a ||| b) c b, UInt32.or_comm c b, ← UInt32.or_assoc, UInt32.or_assoc a b b,
    UInt32.or_self]

end Flags
