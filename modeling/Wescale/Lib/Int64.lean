import Mathlib

/-!
# Signed 64-bit arithmetic read as integers

Go's `int64` is Lean's `Int64`: addition and subtraction wrap modulo `2^64`. The model
keeps the wrapping operations of the source and reasons about them through `Int64.toInt`,
where core already turns comparisons into comparisons of integers
(`Int64.lt_iff_toInt_lt`, `Int64.le_iff_toInt_le`). What core leaves to the user is the
one step that matters at the edges: a successor or predecessor read back as an integer,
with the single wrapping case named. Every proof that meets `x + 1` or `x - 1` goes through
these two lemmas and then `omega`.

Where a proof has to follow a wrapped result whatever its operands, it uses the other form:
each operation agrees with the integer operation modulo `2 ^ 64` (`toInt_add_emod` and its
siblings), and with the bounds of `toInt` that fixes the value for `omega`.
-/

set_option autoImplicit false

namespace Int64

/-- `x + 1` read as an integer: the successor, except at the top where it wraps to the
bottom. -/
theorem toInt_add_one_eq (x : Int64) :
    (x + 1).toInt = if x.toInt = 2 ^ 63 - 1 then -2 ^ 63 else x.toInt + 1 := by
  have hlt := x.toInt_lt
  have hle := x.le_toInt
  have hone : (1 : Int64).toInt = 1 := rfl
  rw [Int64.toInt_add, hone]
  split
  · rename_i htop
    rw [htop]
    decide
  · rw [Int.bmod_eq_of_le] <;> omega

/-- `x - 1` read as an integer: the predecessor, except at the bottom where it wraps to the
top. -/
theorem toInt_sub_one_eq (x : Int64) :
    (x - 1).toInt = if x.toInt = -2 ^ 63 then 2 ^ 63 - 1 else x.toInt - 1 := by
  have hlt := x.toInt_lt
  have hle := x.le_toInt
  have hone : (1 : Int64).toInt = 1 := rfl
  rw [Int64.toInt_sub, hone]
  split
  · rename_i hbot
    rw [hbot]
    decide
  · rw [Int.bmod_eq_of_le] <;> omega

/-- Below the top, the successor does not wrap. -/
theorem toInt_add_one_of_lt {x : Int64} (h : x.toInt < 2 ^ 63 - 1) :
    (x + 1).toInt = x.toInt + 1 := by
  rw [toInt_add_one_eq, if_neg (by omega)]

/-- Above the bottom, the predecessor does not wrap. -/
theorem toInt_sub_one_of_lt {x : Int64} (h : -2 ^ 63 < x.toInt) :
    (x - 1).toInt = x.toInt - 1 := by
  rw [toInt_sub_one_eq, if_neg (by omega)]

/-- Below another `int64`, the successor does not wrap. -/
theorem toInt_add_one_of_lt_toInt {x y : Int64} (h : x.toInt < y.toInt) :
    (x + 1).toInt = x.toInt + 1 :=
  toInt_add_one_of_lt (by have := y.toInt_lt; omega)

/-- Above another `int64`, the predecessor does not wrap. -/
theorem toInt_sub_one_of_lt_toInt {x y : Int64} (h : y.toInt < x.toInt) :
    (x - 1).toInt = x.toInt - 1 :=
  toInt_sub_one_of_lt (by have := y.le_toInt; omega)

/-- A non-negative value comes back from its natural number, as a parser rebuilds it. -/
theorem ofNat_toNat_toInt {x : Int64} (h : 0 ≤ x.toInt) : Int64.ofNat x.toInt.toNat = x := by
  rw [← Int64.ofInt_eq_ofNat, Int.toNat_of_nonneg h, Int64.ofInt_toInt]

/-- Without overflow, a sum is the sum of the integers. -/
theorem toInt_add_of_bounds {x y : Int64} (hlo : -2 ^ 63 ≤ x.toInt + y.toInt)
    (hhi : x.toInt + y.toInt < 2 ^ 63) : (x + y).toInt = x.toInt + y.toInt := by
  rw [Int64.toInt_add, Int.bmod_eq_of_le] <;> omega

/-- A sum past the top wraps to the bottom. -/
theorem toInt_add_of_le {x y : Int64} (h : 2 ^ 63 ≤ x.toInt + y.toInt) :
    (x + y).toInt = x.toInt + y.toInt - 2 ^ 64 := by
  have hx := x.toInt_lt
  have hy := y.toInt_lt
  have hmod : (x.toInt + y.toInt) % ((2 ^ 64 : Nat) : Int) = x.toInt + y.toInt :=
    Int.emod_eq_of_lt (by omega) (by simp; omega)
  rw [Int64.toInt_add, Int.bmod, hmod, if_neg (by simp; omega)]
  simp

/-! ### Every operation modulo `2 ^ 64` -/

theorem toInt_add_emod (x y : Int64) :
    (x + y).toInt % 2 ^ 64 = (x.toInt + y.toInt) % 2 ^ 64 := by
  rw [Int64.toInt_add]
  exact Int.bmod_emod

theorem toInt_sub_emod (x y : Int64) :
    (x - y).toInt % 2 ^ 64 = (x.toInt - y.toInt) % 2 ^ 64 := by
  rw [Int64.toInt_sub]
  exact Int.bmod_emod

theorem toInt_mul_emod (x y : Int64) :
    (x * y).toInt % 2 ^ 64 = (x.toInt * y.toInt) % 2 ^ 64 := by
  rw [Int64.toInt_mul]
  exact Int.bmod_emod

theorem toInt_neg_emod (x : Int64) : (-x).toInt % 2 ^ 64 = (-x.toInt) % 2 ^ 64 := by
  rw [Int64.toInt_neg]
  exact Int.bmod_emod

/-- A wrapped value is determined by its residue: within the range, it is the integer. -/
theorem toInt_eq_of_emod {r : Int64} {z : Int} (h : r.toInt % 2 ^ 64 = z % 2 ^ 64)
    (hlo : -2 ^ 63 ≤ z) (hhi : z < 2 ^ 63) : r.toInt = z := by
  have := r.le_toInt
  have := r.toInt_lt
  omega

/-- An integer at most one wrap away from the range, as a sum or a difference of two `int64`
is, comes back in range, `2 ^ 64` below or `2 ^ 64` above. -/
theorem toInt_eq_of_emod_cases {r : Int64} {z : Int} (h : r.toInt % 2 ^ 64 = z % 2 ^ 64)
    (hlo : -2 ^ 64 - 2 ^ 63 ≤ z) (hhi : z < 2 ^ 64 + 2 ^ 63) :
    (r.toInt = z ∧ -2 ^ 63 ≤ z ∧ z < 2 ^ 63) ∨ (r.toInt = z - 2 ^ 64 ∧ 2 ^ 63 ≤ z) ∨
      (r.toInt = z + 2 ^ 64 ∧ z < -2 ^ 63) := by
  by_cases hin : -2 ^ 63 ≤ z ∧ z < 2 ^ 63
  · exact Or.inl ⟨toInt_eq_of_emod h hin.1 hin.2, hin⟩
  · right
    by_cases hup : 2 ^ 63 ≤ z
    · have hsub : (z - 2 ^ 64) % 2 ^ 64 = z % 2 ^ 64 := by omega
      exact Or.inl ⟨toInt_eq_of_emod (h.trans hsub.symm) (by omega) (by omega), hup⟩
    · have hadd : (z + 2 ^ 64) % 2 ^ 64 = z % 2 ^ 64 := by omega
      exact Or.inr ⟨toInt_eq_of_emod (h.trans hadd.symm) (by omega) (by omega), by omega⟩

/-- The bottom is its own negation, as Go's `-math.MinInt64` is. -/
theorem neg_minValue : -minValue = minValue := by decide

/-- Division truncates toward zero, as Go's does, and wraps only for `minValue / -1`. -/
theorem toInt_div_emod (x y : Int64) :
    (x / y).toInt % 2 ^ 64 = x.toInt.tdiv y.toInt % 2 ^ 64 := by
  rw [Int64.toInt_div]
  exact Int.bmod_emod

end Int64

namespace UInt64

/-- Go's `int(u)` for a `uint64` `u`: the same bits read as signed. -/
theorem toInt_toInt64 (u : UInt64) :
    u.toInt64.toInt = if u.toNat < 2 ^ 63 then (u.toNat : Int) else u.toNat - 2 ^ 64 := by
  have hlt := u.toNat_lt
  have hu : u.toInt64 = Int64.ofNat u.toNat := by
    rw [← UInt64.toInt64_ofNat', UInt64.ofNat_toNat]
  rw [hu, Int64.toInt_ofNat']
  split
  · rw [Int.bmod_eq_of_le] <;> simp [Int64.size]
    omega
  · have hmod : (u.toNat : Int) % (Int64.size : Nat) = u.toNat :=
      Int.emod_eq_of_lt (by omega) (by simp [Int64.size]; omega)
    rw [Int.bmod, hmod, if_neg (by simp [Int64.size]; omega)]
    simp [Int64.size]

end UInt64

namespace Int64

/-- Go's `uint64(i)` for an `int64` `i`: the same bits read as unsigned. -/
theorem toNat_toUInt64 (x : Int64) : (x.toUInt64.toNat : Int) = x.toInt % 2 ^ 64 := by
  have h := UInt64.toInt_toInt64 x.toUInt64
  have hlt := x.toUInt64.toNat_lt
  rw [Int64.toInt64_toUInt64] at h
  split at h <;> omega

end Int64
