import Wescale.Lib.Int64

/-!
# Integer arithmetic of the evaluation engine (`go/vt/vtgate/evalengine/arithmetic.go`)

`Add`, `Subtract` and `Multiply` reduce two integer operands to one of nine helpers, by the
types of the operands after `makeNumericAndPrioritize` (which puts an unsigned operand first
for the commutative operations). Each helper computes the wrapped result of Go's 64-bit
arithmetic and infers an overflow from it, by a comparison or a division, before it returns the
result or `dataOutOfRangeError`.

The model keeps Go's types: an `int64` is `Int64` and a `uint64` is `UInt64`, so that every
operation wraps as in Go, and the conversions `int64(u)` and `uint64(i)` are `UInt64.toInt64`
and `Int64.toUInt64`, which keep the bits. An integer `EvalResult` is its type and its value.

What the helpers are meant to compute is `expected`: the sum, difference or product of the
operands as integers, in BIGINT UNSIGNED when either operand is unsigned and in BIGINT
otherwise, or the out-of-range error of that type when it does not fit. `Exact` says that a
result is that. Addition is exact for every pair of operands (`addNumericWithError_exact`);
subtraction is exact except for an unsigned minus a signed operand, and multiplication except
at the edges the section *Where the checks miss* names.
-/

set_option autoImplicit false

namespace Wescale.Evalengine

/-- An `EvalResult` of integer type: `sqltypes.Int64` or `sqltypes.Uint64` with its value. -/
inductive EvalResult where
  | int64 (v : Int64)
  | uint64 (v : UInt64)
  deriving DecidableEq, Repr

/-- The field `numeric_`, which `er.uint64()` returns: the 64 bits of the value, whatever
its type. -/
def EvalResult.numeric : EvalResult → UInt64
  | .int64 v => v.toUInt64
  | .uint64 v => v

/-- The error of `dataOutOfRangeError`: the type, the operands as `%v` prints them, and the
operator. -/
structure DataOutOfRange where
  typ : String
  v1 : Int
  sign : String
  v2 : Int
  deriving DecidableEq, Repr

/-- `dataOutOfRangeError`. -/
def dataOutOfRangeError (v1 v2 : Int) (typ sign : String) : DataOutOfRange :=
  { typ := typ, v1 := v1, sign := sign, v2 := v2 }

/-- The text of the error. -/
def DataOutOfRange.message : DataOutOfRange → String
  | ⟨typ, v1, sign, v2⟩ => s!"{typ} value is out of range in '({v1} {sign} {v2})'"

/-! ## The helpers -/

/-- `intPlusIntWithError`. -/
def intPlusIntWithError (v1u v2u : UInt64) : Except DataOutOfRange EvalResult :=
  let v1 := v1u.toInt64
  let v2 := v2u.toInt64
  let result := v1 + v2
  if decide (result > v1) != decide (v2 > 0) then
    .error (dataOutOfRangeError v1.toInt v2.toInt "BIGINT" "+")
  else .ok (.int64 result)

/-- `intMinusIntWithError`. -/
def intMinusIntWithError (v1u v2u : UInt64) : Except DataOutOfRange EvalResult :=
  let v1 := v1u.toInt64
  let v2 := v2u.toInt64
  let result := v1 - v2
  if decide (result < v1) != decide (v2 > 0) then
    .error (dataOutOfRangeError v1.toInt v2.toInt "BIGINT" "-")
  else .ok (.int64 result)

/-- `intTimesIntWithError`. -/
def intTimesIntWithError (v1u v2u : UInt64) : Except DataOutOfRange EvalResult :=
  let v1 := v1u.toInt64
  let v2 := v2u.toInt64
  let result := v1 * v2
  if v1 != 0 && result / v1 != v2 then
    .error (dataOutOfRangeError v1.toInt v2.toInt "BIGINT" "*")
  else .ok (.int64 result)

/-- `uintMinusUintWithError`. -/
def uintMinusUintWithError (v1 v2 : UInt64) : Except DataOutOfRange EvalResult :=
  let result := v1 - v2
  if v2 > v1 then .error (dataOutOfRangeError v1.toNat v2.toNat "BIGINT UNSIGNED" "-")
  else .ok (.uint64 result)

/-- `intMinusUintWithError`. -/
def intMinusUintWithError (v1u v2 : UInt64) : Except DataOutOfRange EvalResult :=
  let v1 := v1u.toInt64
  if v1 < 0 || v1 < v2.toInt64 then
    .error (dataOutOfRangeError v1.toInt v2.toNat "BIGINT UNSIGNED" "-")
  else uintMinusUintWithError v1u v2

/-- `uintPlusIntWithError`. -/
def uintPlusIntWithError (v1 v2u : UInt64) : Except DataOutOfRange EvalResult :=
  let v2 := v2u.toInt64
  let result := v1 + v2.toUInt64
  if v2 < 0 && v1 < (-v2).toUInt64 || v2 > 0 && (result < v1 || result < v2.toUInt64) then
    .error (dataOutOfRangeError v1.toNat v2.toInt "BIGINT UNSIGNED" "+")
  else .ok (.uint64 result)

/-- `uintMinusIntWithError`: a negative operand is added, by `uintPlusIntWithError` on its
negation. -/
def uintMinusIntWithError (v1 v2u : UInt64) : Except DataOutOfRange EvalResult :=
  let v2 := v2u.toInt64
  if v1.toInt64 < v2 && v2 > 0 then
    .error (dataOutOfRangeError v1.toNat v2.toInt "BIGINT UNSIGNED" "-")
  else if v2 < 0 then uintPlusIntWithError v1 (-v2).toUInt64
  else uintMinusUintWithError v1 v2.toUInt64

/-- `uintPlusUintWithError`. -/
def uintPlusUintWithError (v1 v2 : UInt64) : Except DataOutOfRange EvalResult :=
  let result := v1 + v2
  if result < v1 || result < v2 then
    .error (dataOutOfRangeError v1.toNat v2.toNat "BIGINT UNSIGNED" "+")
  else .ok (.uint64 result)

/-- `uintTimesUintWithError`. -/
def uintTimesUintWithError (v1 v2 : UInt64) : Except DataOutOfRange EvalResult :=
  if v1 == 0 || v2 == 0 then .ok (.uint64 0)
  else
    let result := v1 * v2
    if result < v2 || result < v1 then
      .error (dataOutOfRangeError v1.toNat v2.toNat "BIGINT UNSIGNED" "*")
    else .ok (.uint64 result)

/-- `uintTimesIntWithError`. -/
def uintTimesIntWithError (v1 v2u : UInt64) : Except DataOutOfRange EvalResult :=
  let v2 := v2u.toInt64
  if v1 == 0 || v2 == 0 then .ok (.uint64 0)
  else if v2 < 0 || v1.toInt64 < 0 then
    .error (dataOutOfRangeError v1.toNat v2.toInt "BIGINT UNSIGNED" "*")
  else uintTimesUintWithError v1 v2.toUInt64

/-! ## The operations -/

/-- `makeNumericAndPrioritize` on two integers: an unsigned operand goes first. -/
def makeNumericAndPrioritize (i1 i2 : EvalResult) : EvalResult × EvalResult :=
  match i1, i2 with
  | .int64 _, .uint64 _ => (i2, i1)
  | _, _ => (i1, i2)

/-- `addNumericWithError` on two integers. -/
def addNumericWithError (v1 v2 : EvalResult) : Except DataOutOfRange EvalResult :=
  let (v1, v2) := makeNumericAndPrioritize v1 v2
  match v1, v2 with
  | .int64 _, _ => intPlusIntWithError v1.numeric v2.numeric
  | .uint64 _, .int64 _ => uintPlusIntWithError v1.numeric v2.numeric
  | .uint64 _, .uint64 _ => uintPlusUintWithError v1.numeric v2.numeric

/-- `subtractNumericWithError` on two integers. -/
def subtractNumericWithError (v1 v2 : EvalResult) : Except DataOutOfRange EvalResult :=
  match v1, v2 with
  | .int64 _, .int64 _ => intMinusIntWithError v1.numeric v2.numeric
  | .int64 _, .uint64 _ => intMinusUintWithError v1.numeric v2.numeric
  | .uint64 _, .int64 _ => uintMinusIntWithError v1.numeric v2.numeric
  | .uint64 _, .uint64 _ => uintMinusUintWithError v1.numeric v2.numeric

/-- `multiplyNumericWithError` on two integers. -/
def multiplyNumericWithError (v1 v2 : EvalResult) : Except DataOutOfRange EvalResult :=
  let (v1, v2) := makeNumericAndPrioritize v1 v2
  match v1, v2 with
  | .int64 _, _ => intTimesIntWithError v1.numeric v2.numeric
  | .uint64 _, .int64 _ => uintTimesIntWithError v1.numeric v2.numeric
  | .uint64 _, .uint64 _ => uintTimesUintWithError v1.numeric v2.numeric

/-! ## What the operations are meant to compute -/

/-- The three operations. -/
inductive Op where
  | add
  | sub
  | mul
  deriving DecidableEq, Repr

/-- The operation on integers, without a bound. -/
@[simp] def Op.eval : Op → Int → Int → Int
  | .add, x, y => x + y
  | .sub, x, y => x - y
  | .mul, x, y => x * y

/-- The value of an integer result as an integer. -/
@[simp] def EvalResult.toInt : EvalResult → Int
  | .int64 v => v.toInt
  | .uint64 v => v.toNat

/-- Whether a result is of type `BIGINT UNSIGNED`. -/
@[simp] def EvalResult.unsigned : EvalResult → Bool
  | .int64 _ => false
  | .uint64 _ => true

/-- The name of the result type in the error text. -/
@[simp] def typeName : Bool → String
  | true => "BIGINT UNSIGNED"
  | false => "BIGINT"

/-- The integers that `BIGINT UNSIGNED` and `BIGINT` hold. -/
@[simp] def InRange : Bool → Int → Prop
  | true, z => 0 ≤ z ∧ z < 2 ^ 64
  | false, z => -2 ^ 63 ≤ z ∧ z < 2 ^ 63

instance (unsigned : Bool) (z : Int) : Decidable (InRange unsigned z) :=
  match unsigned with
  | true => inferInstanceAs (Decidable (0 ≤ z ∧ z < 2 ^ 64))
  | false => inferInstanceAs (Decidable (-2 ^ 63 ≤ z ∧ z < 2 ^ 63))

/-- `r` is the integer `z` in the type `unsigned` names, or the out-of-range error of that
type when `z` does not fit it. -/
def ExactResult (unsigned : Bool) (z : Int) : Except DataOutOfRange EvalResult → Prop
  | .ok r => r.unsigned = unsigned ∧ r.toInt = z
  | .error e => e.typ = typeName unsigned ∧ ¬ InRange unsigned z

instance (unsigned : Bool) (z : Int) (r : Except DataOutOfRange EvalResult) :
    Decidable (ExactResult unsigned z r) :=
  match r with
  | .ok r => inferInstanceAs (Decidable (r.unsigned = unsigned ∧ r.toInt = z))
  | .error e => inferInstanceAs (Decidable (e.typ = typeName unsigned ∧ ¬ InRange unsigned z))

/-- The result of `op` on `v1` and `v2` is exact: the integer that `op` gives, in the result
type, which is unsigned when either operand is. -/
def Exact (op : Op) (v1 v2 : EvalResult) (r : Except DataOutOfRange EvalResult) : Prop :=
  ExactResult (v1.unsigned || v2.unsigned) (op.eval v1.toInt v2.toInt) r

instance (op : Op) (v1 v2 : EvalResult) (r : Except DataOutOfRange EvalResult) :
    Decidable (Exact op v1 v2 r) :=
  inferInstanceAs (Decidable (ExactResult _ _ r))

section Exactness

variable {u : Bool} {z : Int}

/-- A helper that returns its error when its check `c` fires, and `r` otherwise. -/
theorem ExactResult.ite {c : Prop} [Decidable c] {e : DataOutOfRange}
    {r : Except DataOutOfRange EvalResult} (htyp : e.typ = typeName u) (hc : c → ¬ InRange u z)
    (hr : ¬ c → ExactResult u z r) : ExactResult u z (if c then .error e else r) := by
  by_cases hcheck : c
  · rw [if_pos hcheck]
    exact ⟨htyp, hc hcheck⟩
  · rw [if_neg hcheck]
    exact hr hcheck

/-- The same when the check is exactly the range test. -/
theorem ExactResult.ite_iff {c : Prop} [Decidable c] {e : DataOutOfRange}
    {r : Except DataOutOfRange EvalResult} (htyp : e.typ = typeName u) (hc : c ↔ ¬ InRange u z)
    (hr : InRange u z → ExactResult u z r) : ExactResult u z (if c then .error e else r) :=
  ExactResult.ite htyp hc.1 fun hcheck => hr (Decidable.of_not_not (mt hc.2 hcheck))

/-- A wrapped `int64` is exact when the integer fits. -/
theorem ExactResult.int64_of_emod {r : Int64} (h : r.toInt % 2 ^ 64 = z % 2 ^ 64)
    (hz : InRange false z) : ExactResult false z (.ok (.int64 r)) :=
  ⟨rfl, Int64.toInt_eq_of_emod h hz.1 hz.2⟩

/-- A wrapped `uint64` is exact when the integer fits. -/
theorem ExactResult.uint64_of_emod {r : UInt64} (h : (r.toNat : Int) = z % 2 ^ 64)
    (hz : InRange true z) : ExactResult true z (.ok (.uint64 r)) := by
  refine ⟨rfl, ?_⟩
  simp only [InRange] at hz
  simp only [EvalResult.toInt]
  omega

/-- One result is exact for two different integers only as an error, with both out of
range. -/
theorem ExactResult.out_of_range_of_ne {z' : Int} {r : Except DataOutOfRange EvalResult}
    (h : ExactResult u z r) (h' : ExactResult u z' r) (hne : z ≠ z') :
    ¬ InRange u z ∧ ¬ InRange u z' := by
  cases r with
  | ok r => exact absurd (h.2.symm.trans h'.2) hne
  | error e => exact ⟨h.2, h'.2⟩

end Exactness

/-! ## The helpers whose check is the range test -/

/-- The check of `intPlusIntWithError` is the range test of the sum. -/
theorem intPlusInt_check (a b : Int64) :
    (decide (a + b > a) != decide (b > 0)) = true ↔ ¬ InRange false (a.toInt + b.toInt) := by
  have := a.le_toInt; have := a.toInt_lt; have := b.le_toInt; have := b.toInt_lt
  have hr := Int64.toInt_eq_of_emod_cases (Int64.toInt_add_emod a b) (by omega) (by omega)
  simp only [bne_iff_ne, ne_eq, decide_eq_decide, gt_iff_lt, Int64.lt_iff_toInt_lt,
    Int64.toInt_zero, InRange]
  omega

theorem intPlusIntWithError_exact (a b : Int64) :
    ExactResult false (a.toInt + b.toInt) (intPlusIntWithError a.toUInt64 b.toUInt64) := by
  unfold intPlusIntWithError
  simp only [Int64.toInt64_toUInt64]
  exact ExactResult.ite_iff rfl (intPlusInt_check a b)
    (ExactResult.int64_of_emod (Int64.toInt_add_emod a b))

/-- The check of `intMinusIntWithError` is the range test of the difference. -/
theorem intMinusInt_check (a b : Int64) :
    (decide (a - b < a) != decide (b > 0)) = true ↔ ¬ InRange false (a.toInt - b.toInt) := by
  have := a.le_toInt; have := a.toInt_lt; have := b.le_toInt; have := b.toInt_lt
  have hr := Int64.toInt_eq_of_emod_cases (Int64.toInt_sub_emod a b) (by omega) (by omega)
  simp only [bne_iff_ne, ne_eq, decide_eq_decide, gt_iff_lt, Int64.lt_iff_toInt_lt,
    Int64.toInt_zero, InRange]
  omega

theorem intMinusIntWithError_exact (a b : Int64) :
    ExactResult false (a.toInt - b.toInt) (intMinusIntWithError a.toUInt64 b.toUInt64) := by
  unfold intMinusIntWithError
  simp only [Int64.toInt64_toUInt64]
  exact ExactResult.ite_iff rfl (intMinusInt_check a b)
    (ExactResult.int64_of_emod (Int64.toInt_sub_emod a b))

/-- The check of `uintMinusUintWithError` is the range test of the difference. -/
theorem uintMinusUint_check (a b : UInt64) :
    b > a ↔ ¬ InRange true ((a.toNat : Int) - b.toNat) := by
  have := a.toNat_lt; have := b.toNat_lt
  simp only [gt_iff_lt, UInt64.lt_iff_toNat_lt, InRange]
  omega

theorem uintMinusUintWithError_exact (a b : UInt64) :
    ExactResult true ((a.toNat : Int) - b.toNat) (uintMinusUintWithError a b) := by
  unfold uintMinusUintWithError
  dsimp only
  apply ExactResult.ite_iff rfl (uintMinusUint_check a b)
  apply ExactResult.uint64_of_emod
  have := a.toNat_lt; have := b.toNat_lt
  rw [UInt64.toNat_sub]
  omega

/-- The check of `uintPlusUintWithError` is the range test of the sum. -/
theorem uintPlusUint_check (a b : UInt64) :
    (a + b < a || a + b < b) = true ↔ ¬ InRange true ((a.toNat : Int) + b.toNat) := by
  have := a.toNat_lt; have := b.toNat_lt
  simp only [Bool.or_eq_true, decide_eq_true_eq, UInt64.lt_iff_toNat_lt, UInt64.toNat_add, InRange]
  omega

theorem uintPlusUintWithError_exact (a b : UInt64) :
    ExactResult true ((a.toNat : Int) + b.toNat) (uintPlusUintWithError a b) := by
  unfold uintPlusUintWithError
  dsimp only
  apply ExactResult.ite_iff rfl (uintPlusUint_check a b)
  apply ExactResult.uint64_of_emod
  rw [UInt64.toNat_add]
  omega

/-- The check of `uintPlusIntWithError` is the range test of the sum. -/
theorem uintPlusInt_check (a : UInt64) (b : Int64) :
    (b < 0 && a < (-b).toUInt64 || b > 0 && (a + b.toUInt64 < a || a + b.toUInt64 < b.toUInt64)) =
      true ↔ ¬ InRange true (a.toNat + b.toInt) := by
  have := a.toNat_lt; have := b.le_toInt; have := b.toInt_lt
  have hneg := (Int64.toNat_toUInt64 (-b)).trans (Int64.toInt_neg_emod b)
  have hb := Int64.toNat_toUInt64 b
  simp only [Bool.or_eq_true, Bool.and_eq_true, decide_eq_true_eq, gt_iff_lt,
    Int64.lt_iff_toInt_lt, Int64.toInt_zero, UInt64.lt_iff_toNat_lt, UInt64.toNat_add, InRange]
  omega

theorem uintPlusIntWithError_exact (a : UInt64) (b : Int64) :
    ExactResult true (a.toNat + b.toInt) (uintPlusIntWithError a b.toUInt64) := by
  unfold uintPlusIntWithError
  simp only [Int64.toInt64_toUInt64]
  apply ExactResult.ite_iff rfl (uintPlusInt_check a b)
  apply ExactResult.uint64_of_emod
  have hb := Int64.toNat_toUInt64 b
  rw [UInt64.toNat_add]
  omega

/-- `intMinusUintWithError` answers a negative difference before it subtracts as unsigned. -/
theorem intMinusUintWithError_exact (a : Int64) (b : UInt64) :
    ExactResult true (a.toInt - b.toNat) (intMinusUintWithError a.toUInt64 b) := by
  have := b.toNat_lt; have := a.toInt_lt
  have hb := UInt64.toInt_toInt64 b
  have ha := Int64.toNat_toUInt64 a
  unfold intMinusUintWithError
  simp only [Int64.toInt64_toUInt64]
  apply ExactResult.ite rfl
  · intro hcheck
    simp only [Bool.or_eq_true, decide_eq_true_eq, Int64.lt_iff_toInt_lt,
      Int64.toInt_zero] at hcheck
    simp only [InRange]
    split at hb <;> omega
  · intro hcheck
    simp only [Bool.or_eq_true, decide_eq_true_eq, Int64.lt_iff_toInt_lt, Int64.toInt_zero,
      not_or, Int.not_lt] at hcheck
    -- past the check `a` is not negative, so its bits read as unsigned are its value
    have hsame : (a.toUInt64.toNat : Int) - b.toNat = a.toInt - b.toNat := by omega
    exact hsame ▸ uintMinusUintWithError_exact a.toUInt64 b

/-! ## Where the checks miss -/

/-- Where `uintMinusIntWithError` is not exact: it refuses an unsigned operand from `2^63` on
minus a positive one, although the difference fits, and it subtracts `minValue` by adding
`-minValue`, which wraps back to `minValue`. -/
def UintMinusIntMisses (a : UInt64) (b : Int64) : Prop :=
  (0 < b.toInt ∧ 2 ^ 63 ≤ a.toNat) ∨ b.toInt = -2 ^ 63

instance (a : UInt64) (b : Int64) : Decidable (UintMinusIntMisses a b) :=
  inferInstanceAs (Decidable ((0 < b.toInt ∧ 2 ^ 63 ≤ a.toNat) ∨ b.toInt = -2 ^ 63))

theorem uintMinusIntWithError_exact_iff (a : UInt64) (b : Int64) :
    ExactResult true (a.toNat - b.toInt) (uintMinusIntWithError a b.toUInt64) ↔
      ¬ UintMinusIntMisses a b := by
  have hmisses : ¬ UintMinusIntMisses a b ↔
      (b.toInt ≤ 0 ∨ a.toNat < 2 ^ 63) ∧ b.toInt ≠ -2 ^ 63 := by
    unfold UintMinusIntMisses
    omega
  rw [hmisses]
  have := a.toNat_lt; have := b.le_toInt; have := b.toInt_lt
  have ha := UInt64.toInt_toInt64 a
  unfold uintMinusIntWithError
  simp only [Int64.toInt64_toUInt64]
  by_cases hcheck : (a.toInt64 < b && b > 0) = true
  · -- the check answers first, right only when `a` reads as itself
    rw [if_pos hcheck]
    simp only [Bool.and_eq_true, decide_eq_true_eq, gt_iff_lt, Int64.lt_iff_toInt_lt,
      Int64.toInt_zero] at hcheck
    simp only [ExactResult, dataOutOfRangeError, typeName, InRange, true_and]
    split at ha <;> omega
  rw [if_neg hcheck]
  simp only [Bool.and_eq_true, decide_eq_true_eq, gt_iff_lt, Int64.lt_iff_toInt_lt,
    Int64.toInt_zero, not_and, Int.not_lt] at hcheck
  by_cases hneg : b < 0
  · rw [if_pos hneg]
    rw [Int64.lt_iff_toInt_lt, Int64.toInt_zero] at hneg
    by_cases hmin : b = Int64.minValue
    · -- `-b` wraps back to `minValue`, which `uintPlusIntWithError` then adds as negative
      subst hmin
      have hwrap := uintPlusIntWithError_exact a Int64.minValue
      rw [Int64.neg_minValue]
      simp only [Int64.toInt_minValue, ne_eq, not_true_eq_false, and_false, iff_false]
      intro hexact
      have hout := ExactResult.out_of_range_of_ne hexact hwrap (by rw [Int64.toInt_minValue]; omega)
      simp only [InRange, Int64.toInt_minValue] at hout
      omega
    · have hb : b.toInt ≠ -2 ^ 63 := fun h =>
        hmin (Int64.toInt_inj.mp (h.trans Int64.toInt_minValue.symm))
      have hnegb : (-b).toInt = -b.toInt :=
        Int64.toInt_eq_of_emod (Int64.toInt_neg_emod b) (by omega) (by omega)
      have hsum := uintPlusIntWithError_exact a (-b)
      rw [hnegb, ← Int.sub_eq_add_neg] at hsum
      simp only [hsum, true_iff]
      omega
  · rw [if_neg hneg]
    rw [Int64.lt_iff_toInt_lt, Int64.toInt_zero, Int.not_lt] at hneg
    -- `b` is not negative, so its bits read as unsigned are its value
    have hbits : (a.toNat : Int) - b.toUInt64.toNat = a.toNat - b.toInt := by
      rw [Int64.toNat_toUInt64 b]
      omega
    simp only [← hbits, uintMinusUintWithError_exact, true_iff]
    split at ha <;> omega

/-- The check of `intTimesIntWithError` divides the wrapped product back: it finds every
overflow but the one where the division wraps too. -/
theorem intTimesInt_check (a b : Int64) :
    (a != 0 && a * b / a != b) = true ↔
      ¬ InRange false (a.toInt * b.toInt) ∧ ¬ (a = -1 ∧ b = Int64.minValue) := by
  have := a.le_toInt; have := a.toInt_lt; have := b.le_toInt; have := b.toInt_lt
  have := (a * b).le_toInt; have := (a * b).toInt_lt
  have := (a * b / a).le_toInt; have := (a * b / a).toInt_lt
  have hprod := Int64.toInt_mul_emod a b
  have hquot := Int64.toInt_div_emod (a * b) a
  have hrem := Int.tmod_def (a * b).toInt a.toInt
  have hdiv := Int.natAbs_tdiv_le_natAbs (a * b).toInt a.toInt
  have hone : (-1 : Int64).toInt = -1 := by decide
  simp only [Bool.and_eq_true, bne_iff_ne, ne_eq, ← Int64.toInt_inj, Int64.toInt_zero, InRange,
    hone, Int64.toInt_minValue]
  constructor
  · rintro ⟨ha, hq⟩
    refine ⟨fun hin => hq ?_, fun ⟨ha', hb'⟩ => hq ?_⟩
    · -- without overflow the product is exact, and dividing it back gives `b`
      have hr := Int64.toInt_eq_of_emod hprod hin.1 hin.2
      rw [hr, Int.mul_tdiv_cancel_left _ ha] at hquot
      exact Int64.toInt_eq_of_emod hquot (b.le_toInt) (b.toInt_lt)
    · have ha1 : a = -1 := Int64.toInt_inj.mp ha'
      have hb1 : b = Int64.minValue := Int64.toInt_inj.mp (hb'.trans Int64.toInt_minValue.symm)
      rw [ha1, hb1, ← Int64.neg_eq_neg_one_mul, Int64.neg_minValue, Int64.minValue_div_neg_one]
  · rintro ⟨hout, hnpair⟩
    refine ⟨fun ha => hout (by rw [ha, Int.zero_mul]; decide), fun hq => ?_⟩
    have ha : a.toInt ≠ 0 := fun ha => hout (by rw [ha, Int.zero_mul]; decide)
    have hlt : (Int.tmod (a * b).toInt a.toInt).natAbs < a.toInt.natAbs := by
      rw [Int.natAbs_tmod]
      exact Nat.mod_lt _ (Int.natAbs_pos.mpr ha)
    by_cases hd : (a * b).toInt.tdiv a.toInt = 2 ^ 63
    · -- the quotient is `2^63` only for `minValue / -1`
      rw [hd] at hrem hquot
      omega
    · -- otherwise the quotient is `b`, so the remainder is a multiple of `2^64` below `a`
      have hdb : (a * b).toInt.tdiv a.toInt = b.toInt := by omega
      rw [hdb] at hrem
      omega

/-- `intTimesIntWithError` is exact but for `-1` times `minValue`, whose product `2^63` wraps
to `minValue` and divides back to it. -/
theorem intTimesIntWithError_exact_iff (a b : Int64) :
    ExactResult false (a.toInt * b.toInt) (intTimesIntWithError a.toUInt64 b.toUInt64) ↔
      ¬ (a = -1 ∧ b = Int64.minValue) := by
  unfold intTimesIntWithError
  simp only [Int64.toInt64_toUInt64]
  by_cases hpair : a = -1 ∧ b = Int64.minValue
  · obtain ⟨rfl, rfl⟩ := hpair
    decide
  · simp only [hpair, not_false_eq_true, iff_true]
    have hcheck := intTimesInt_check a b
    simp only [hpair, not_false_eq_true, and_true] at hcheck
    exact ExactResult.ite_iff rfl hcheck (ExactResult.int64_of_emod (Int64.toInt_mul_emod a b))

/-- Where the check of `uintTimesUintWithError` misses: the product overflows, yet what it
wraps to is at least both operands. -/
def UintTimesUintMisses (a b : UInt64) : Prop :=
  2 ^ 64 ≤ a.toNat * b.toNat ∧ a ≤ a * b ∧ b ≤ a * b

instance (a b : UInt64) : Decidable (UintTimesUintMisses a b) :=
  inferInstanceAs (Decidable (2 ^ 64 ≤ a.toNat * b.toNat ∧ a ≤ a * b ∧ b ≤ a * b))

theorem uintTimesUintWithError_exact_iff (a b : UInt64) :
    ExactResult true (a.toNat * b.toNat) (uintTimesUintWithError a b) ↔
      ¬ UintTimesUintMisses a b := by
  have hmul := UInt64.toNat_mul a b
  unfold uintTimesUintWithError UintTimesUintMisses
  simp only [UInt64.le_iff_toNat_le, hmul]
  by_cases hzero : (a == 0 || b == 0) = true
  · rw [if_pos hzero]
    simp only [Bool.or_eq_true, beq_iff_eq] at hzero
    rcases hzero with rfl | rfl <;> simp [ExactResult]
  rw [if_neg hzero]
  simp only [Bool.or_eq_true, beq_iff_eq, not_or, ← UInt64.toNat_inj, UInt64.toNat_zero] at hzero
  -- a product of two positive operands is at least each of them
  have hpa : a.toNat ≤ a.toNat * b.toNat := Nat.le_mul_of_pos_right _ (by omega)
  have hpb : b.toNat ≤ a.toNat * b.toNat := Nat.le_mul_of_pos_left _ (by omega)
  by_cases hcheck : (a * b < b || a * b < a) = true
  · -- the check fires only on a wrapped product, so the error is right
    rw [if_pos hcheck]
    simp only [Bool.or_eq_true, decide_eq_true_eq, UInt64.lt_iff_toNat_lt, hmul] at hcheck
    simp only [ExactResult, dataOutOfRangeError, typeName, InRange, true_and]
    omega
  · rw [if_neg hcheck]
    simp only [Bool.or_eq_true, decide_eq_true_eq, UInt64.lt_iff_toNat_lt, hmul, not_or,
      Nat.not_lt] at hcheck
    simp only [ExactResult, EvalResult.unsigned, EvalResult.toInt, hmul, true_and]
    omega

/-- Where `uintTimesIntWithError` is not exact: it refuses every unsigned operand from `2^63`
on, although times `1` it fits, and below that it misses where `uintTimesUintWithError` does. -/
def UintTimesIntMisses (a : UInt64) (b : Int64) : Prop :=
  (2 ^ 63 ≤ a.toNat ∧ b.toInt = 1) ∨
    (0 < b.toInt ∧ a.toNat < 2 ^ 63 ∧ UintTimesUintMisses a b.toUInt64)

instance (a : UInt64) (b : Int64) : Decidable (UintTimesIntMisses a b) :=
  inferInstanceAs (Decidable ((2 ^ 63 ≤ a.toNat ∧ b.toInt = 1) ∨
    (0 < b.toInt ∧ a.toNat < 2 ^ 63 ∧ UintTimesUintMisses a b.toUInt64)))

/-- `uintTimesIntWithError` refuses every unsigned operand from `2^63` on, although times `1`
it fits, and past its checks it is `uintTimesUintWithError`. -/
theorem uintTimesIntWithError_exact_iff (a : UInt64) (b : Int64) :
    ExactResult true (a.toNat * b.toInt) (uintTimesIntWithError a b.toUInt64) ↔
      ¬ UintTimesIntMisses a b := by
  rw [UintTimesIntMisses, not_or]
  have := a.toNat_lt; have := b.le_toInt; have := b.toInt_lt
  have ha := UInt64.toInt_toInt64 a
  have hb := Int64.toNat_toUInt64 b
  unfold uintTimesIntWithError
  simp only [Int64.toInt64_toUInt64]
  by_cases hzero : (a == 0 || b == 0) = true
  · rw [if_pos hzero]
    simp only [Bool.or_eq_true, beq_iff_eq, ← UInt64.toNat_inj, ← Int64.toInt_inj,
      UInt64.toNat_zero, Int64.toInt_zero] at hzero
    rcases hzero with h | h <;> simp [ExactResult, UintTimesUintMisses, h]
  rw [if_neg hzero]
  simp only [Bool.or_eq_true, beq_iff_eq, ← UInt64.toNat_inj, ← Int64.toInt_inj,
    UInt64.toNat_zero, Int64.toInt_zero, not_or] at hzero
  by_cases hneg : b.toInt < 0
  · -- a negative product: the check answers with the right error
    have hcheck : (b < 0 || a.toInt64 < 0) = true := by
      simp [Int64.lt_iff_toInt_lt, hneg]
    rw [if_pos hcheck]
    have hprod : (a.toNat : Int) * b.toInt < 0 := Int.mul_neg_of_pos_of_neg (by omega) hneg
    simp only [ExactResult, dataOutOfRangeError, typeName, InRange, true_and]
    omega
  by_cases hbig : 2 ^ 63 ≤ a.toNat
  · -- `a` reads as negative, so the check answers, right unless `b` is `1`
    rw [if_neg (by omega)] at ha
    have hcheck : (b < 0 || a.toInt64 < 0) = true := by
      simp only [Bool.or_eq_true, decide_eq_true_eq, Int64.lt_iff_toInt_lt, Int64.toInt_zero, ha]
      omega
    rw [if_pos hcheck]
    have hsmall : ¬ a.toNat < 2 ^ 63 := by omega
    simp only [ExactResult, dataOutOfRangeError, typeName, InRange, hsmall, true_and, false_and,
      and_false, not_false_eq_true, and_true]
    by_cases hone : b.toInt = 1
    · simp only [hone, Int.mul_one, and_true]
      omega
    · have hprod : 2 ^ 63 * 2 ≤ (a.toNat : Int) * b.toInt :=
        Int.mul_le_mul (by omega) (by omega) (by omega) (by omega)
      omega
  · -- below `2^63` and times a positive `b`, it is the unsigned product
    rw [if_pos (by omega)] at ha
    have hcheck : ¬ (b < 0 || a.toInt64 < 0) = true := by
      simp only [Bool.or_eq_true, decide_eq_true_eq, Int64.lt_iff_toInt_lt, Int64.toInt_zero, ha]
      omega
    rw [if_neg hcheck]
    have hbits : (a.toNat : Int) * b.toUInt64.toNat = a.toNat * b.toInt := by
      rw [hb, Int.emod_eq_of_lt (by omega) (by omega)]
    have hpos : 0 < b.toInt := by omega
    have hsmall : a.toNat < 2 ^ 63 := by omega
    rw [← hbits, uintTimesUintWithError_exact_iff]
    simp only [hbig, hpos, hsmall, false_and, not_false_eq_true, true_and]

/-! ## The three operations -/

/-- Addition is exact for every pair of integer operands. -/
theorem addNumericWithError_exact (v1 v2 : EvalResult) :
    Exact .add v1 v2 (addNumericWithError v1 v2) := by
  cases v1 with
  | int64 a =>
    cases v2 with
    | int64 b => exact intPlusIntWithError_exact a b
    | uint64 b =>
      -- `makeNumericAndPrioritize` puts the unsigned operand first
      have h := uintPlusIntWithError_exact b a
      rw [Int.add_comm] at h
      exact h
  | uint64 a =>
    cases v2 with
    | int64 b => exact uintPlusIntWithError_exact a b
    | uint64 b => exact uintPlusUintWithError_exact a b

/-- Where `subtractNumericWithError` is not exact: only an unsigned minus a signed operand. -/
def SubtractMisses : EvalResult → EvalResult → Prop
  | .uint64 a, .int64 b => UintMinusIntMisses a b
  | .int64 _, .int64 _ => False
  | .int64 _, .uint64 _ => False
  | .uint64 _, .uint64 _ => False

instance : (v1 v2 : EvalResult) → Decidable (SubtractMisses v1 v2)
  | .uint64 a, .int64 b => inferInstanceAs (Decidable (UintMinusIntMisses a b))
  | .int64 _, .int64 _ => inferInstanceAs (Decidable False)
  | .int64 _, .uint64 _ => inferInstanceAs (Decidable False)
  | .uint64 _, .uint64 _ => inferInstanceAs (Decidable False)

theorem subtractNumericWithError_exact_iff (v1 v2 : EvalResult) :
    Exact .sub v1 v2 (subtractNumericWithError v1 v2) ↔ ¬ SubtractMisses v1 v2 := by
  cases v1 with
  | int64 a =>
    cases v2 with
    | int64 b => exact iff_of_true (intMinusIntWithError_exact a b) not_false
    | uint64 b => exact iff_of_true (intMinusUintWithError_exact a b) not_false
  | uint64 a =>
    cases v2 with
    | int64 b => exact uintMinusIntWithError_exact_iff a b
    | uint64 b => exact iff_of_true (uintMinusUintWithError_exact a b) not_false

/-- Where `multiplyNumericWithError` is not exact, after `makeNumericAndPrioritize` has put an
unsigned operand first. -/
def MultiplyMisses : EvalResult → EvalResult → Prop
  | .int64 a, .int64 b => a = -1 ∧ b = Int64.minValue
  | .uint64 a, .int64 b => UintTimesIntMisses a b
  | .int64 b, .uint64 a => UintTimesIntMisses a b
  | .uint64 a, .uint64 b => UintTimesUintMisses a b

instance : (v1 v2 : EvalResult) → Decidable (MultiplyMisses v1 v2)
  | .int64 a, .int64 b => inferInstanceAs (Decidable (a = -1 ∧ b = Int64.minValue))
  | .uint64 a, .int64 b => inferInstanceAs (Decidable (UintTimesIntMisses a b))
  | .int64 b, .uint64 a => inferInstanceAs (Decidable (UintTimesIntMisses a b))
  | .uint64 a, .uint64 b => inferInstanceAs (Decidable (UintTimesUintMisses a b))

theorem multiplyNumericWithError_exact_iff (v1 v2 : EvalResult) :
    Exact .mul v1 v2 (multiplyNumericWithError v1 v2) ↔ ¬ MultiplyMisses v1 v2 := by
  cases v1 with
  | int64 a =>
    cases v2 with
    | int64 b => exact intTimesIntWithError_exact_iff a b
    | uint64 b =>
      -- `makeNumericAndPrioritize` puts the unsigned operand first
      have h := uintTimesIntWithError_exact_iff b a
      rw [Int.mul_comm] at h
      exact h
  | uint64 a =>
    cases v2 with
    | int64 b => exact uintTimesIntWithError_exact_iff a b
    | uint64 b => exact uintTimesUintWithError_exact_iff a b

/-- At the edges: `-1 * minValue` comes back as `minValue`; `2^63 - 1` and `0 - minValue` are
refused, the latter as an addition; `2^63 - minValue` comes back as `0`; `2^63 * 1` is refused;
and `3 * 2^63` comes back as `2^63`. None of them is exact. -/
theorem integer_arithmetic_edges :
    multiplyNumericWithError (.int64 (-1)) (.int64 Int64.minValue) = .ok (.int64 Int64.minValue) ∧
      subtractNumericWithError (.uint64 9223372036854775808) (.int64 1) =
        .error (dataOutOfRangeError 9223372036854775808 1 "BIGINT UNSIGNED" "-") ∧
      subtractNumericWithError (.uint64 0) (.int64 Int64.minValue) =
        .error (dataOutOfRangeError 0 (-9223372036854775808) "BIGINT UNSIGNED" "+") ∧
      subtractNumericWithError (.uint64 9223372036854775808) (.int64 Int64.minValue) =
        .ok (.uint64 0) ∧
      multiplyNumericWithError (.uint64 9223372036854775808) (.int64 1) =
        .error (dataOutOfRangeError 9223372036854775808 1 "BIGINT UNSIGNED" "*") ∧
      multiplyNumericWithError (.uint64 3) (.uint64 9223372036854775808) =
        .ok (.uint64 9223372036854775808) ∧
      ¬ Exact .mul (.int64 (-1)) (.int64 Int64.minValue)
        (multiplyNumericWithError (.int64 (-1)) (.int64 Int64.minValue)) ∧
      ¬ Exact .sub (.uint64 9223372036854775808) (.int64 1)
        (subtractNumericWithError (.uint64 9223372036854775808) (.int64 1)) ∧
      ¬ Exact .sub (.uint64 0) (.int64 Int64.minValue)
        (subtractNumericWithError (.uint64 0) (.int64 Int64.minValue)) ∧
      ¬ Exact .sub (.uint64 9223372036854775808) (.int64 Int64.minValue)
        (subtractNumericWithError (.uint64 9223372036854775808) (.int64 Int64.minValue)) ∧
      ¬ Exact .mul (.uint64 9223372036854775808) (.int64 1)
        (multiplyNumericWithError (.uint64 9223372036854775808) (.int64 1)) ∧
      ¬ Exact .mul (.uint64 3) (.uint64 9223372036854775808)
        (multiplyNumericWithError (.uint64 3) (.uint64 9223372036854775808)) :=
  ⟨rfl, rfl, rfl, rfl, rfl, rfl,
    by decide, by decide, by decide, by decide, by decide, by decide⟩

end Wescale.Evalengine
