import Wescale.Lib.ListLex

/-!
# Go byte strings and `bytes.Compare`

A Go `[]byte` is a list of `UInt8`. Bytes are ordered as numbers, and byte strings
lexicographically, a proper prefix first: that is the order `bytes.Compare` reports, as `-1`,
`0` or `+1`. `bytesCompare` is that function, and its three lemmas read its sign as the order of
Mathlib's `List` (`bytesCompare_neg_iff`, `bytesCompare_nonpos_iff`, `bytesCompare_pos_iff`), so
that a test written with `bytes.Compare` in the source is a comparison of the order in a proof.
-/

set_option autoImplicit false

/-- Bytes in their numeric order, the order of `byte` comparisons in Go. -/
instance instLinearOrderUInt8 : LinearOrder UInt8 where
  le_refl a := UInt8.le_refl a
  le_trans _ _ _ := UInt8.le_trans
  le_antisymm _ _ := UInt8.le_antisymm
  le_total := UInt8.le_total
  lt_iff_le_not_ge a b := by
    simp only [UInt8.lt_iff_toNat_lt, UInt8.le_iff_toNat_le]
    omega
  toDecidableLE := inferInstance
  toDecidableLT := inferInstance
  toDecidableEq := inferInstance

namespace Go

/-- `bytes.Compare(a, b)`: `-1`, `0` or `+1` as `a` comes before, equals or comes after `b`. -/
def bytesCompare : List UInt8 → List UInt8 → Int
  | [], [] => 0
  | [], _ :: _ => -1
  | _ :: _, [] => 1
  | a :: as, b :: bs => if a < b then -1 else if b < a then 1 else bytesCompare as bs

theorem bytesCompare_neg_iff : ∀ a b : List UInt8, bytesCompare a b < 0 ↔ a < b
  | [], [] => by simp [bytesCompare]
  | [], _ :: _ => by simp only [bytesCompare]; exact ⟨fun _ => List.Lex.nil, fun _ => by omega⟩
  | _ :: _, [] => by simp only [bytesCompare]; exact ⟨by omega, fun h => absurd h (List.not_lt_nil_lex _)⟩
  | a :: as, b :: bs => by
    rw [List.cons_lt_cons_iff_lex, bytesCompare]
    rcases lt_trichotomy a b with hab | rfl | hba
    · simp [hab]
    · simp [bytesCompare_neg_iff as bs]
    · simp [hba, not_lt_of_gt hba, ne_of_gt hba]

theorem bytesCompare_pos_iff : ∀ a b : List UInt8, 0 < bytesCompare a b ↔ b < a
  | [], [] => by simp [bytesCompare]
  | [], _ :: _ => by simp only [bytesCompare]; exact ⟨by omega, fun h => absurd h (List.not_lt_nil_lex _)⟩
  | _ :: _, [] => by simp only [bytesCompare]; exact ⟨fun _ => List.Lex.nil, fun _ => by omega⟩
  | a :: as, b :: bs => by
    rw [List.cons_lt_cons_iff_lex, bytesCompare]
    rcases lt_trichotomy a b with hab | rfl | hba
    · simp [hab, not_lt_of_gt hab, ne_of_gt hab]
    · simp [bytesCompare_pos_iff as bs]
    · simp [hba, not_lt_of_gt hba]

theorem bytesCompare_nonpos_iff (a b : List UInt8) : bytesCompare a b ≤ 0 ↔ a ≤ b := by
  rw [← Int.not_lt, bytesCompare_pos_iff, not_lt]

end Go
