import Mathlib
import Wescale.Key.KeyRange

/-!
# Key ranges as 8-byte numbers (`addPadding` and the comparisons built on it in
# `go/vt/key/key.go`)

A hash vindex maps a row to an 8-byte keyspace id, and a shard's bounds are prefixes of such
ids: `-80`, `00-80` and `0000-8000` are one shard. `addPadding` pads a bound with zeros up to 8
bytes, after 8 zero bytes of its own that both sides of every comparison share, and
`KeyRangeEqual`, `KeyRangeStartEqual`, `KeyRangeEndEqual` and `KeyRangeContiguous` compare
padded bounds.

A bound padded to 8 bytes compares with every 8-byte id as the bound itself does
(`List.rightpad_le_iff`, `List.lt_rightpad_iff`), so on 8-byte ids a range means the same as its
padded form, `KeyRange.toPadded` (`mem_toHalfOpen_iff_toPadded`). The one bound padding does not
keep is the empty end: it is the end of the keyspace, and it pads to the zeros that an end of
zero bytes, which holds no 8-byte id, pads to as well.

## What is proved

- `keyRangeEqual_contains`: two ranges that `KeyRangeEqual` finds equal hold the same 8-byte
  ids, provided that every end is empty or has a nonzero byte; the example after it shows that
  the proviso is needed.
-/

set_option autoImplicit false

namespace Wescale.Key

open Go

/-- `addPadding`: 8 zero bytes, then the bound, then zeros for the bytes from its length up to
8. -/
def addPadding (kr : List UInt8) : List UInt8 :=
  List.replicate 8 0 ++ kr.rightpad 8 0

/-- `KeyRangeEqual`: both ranges cover the same area; nil is the whole keyspace. -/
def keyRangeEqual (left right : Option KeyRange) : Bool :=
  match left, right with
  | none, none => true
  | none, some right => right.start.length = 0 && right.stop.length = 0
  | some left, none => left.start.length = 0 && left.stop.length = 0
  | some left, some right =>
    addPadding left.start == addPadding right.start && addPadding left.stop == addPadding right.stop

/-- `KeyRangeStartSmaller`: `right` starts after `left`. -/
def keyRangeStartSmaller (left right : Option KeyRange) : Bool :=
  match left, right with
  | none, right => right.isSome
  | some _, none => false
  | some left, some right => bytesCompare left.start right.start < 0

/-- The comparison `KeyRangeStartEqual` and `KeyRangeEndEqual` make of one bound: nil has an
empty one, and two ranges compare their padded bounds. -/
def boundEqual (bound : KeyRange → List UInt8) (left right : Option KeyRange) : Bool :=
  match left, right with
  | none, none => true
  | none, some right => (bound right).length = 0
  | some left, none => (bound left).length = 0
  | some left, some right => addPadding (bound left) == addPadding (bound right)

/-- `KeyRangeStartEqual`. -/
def keyRangeStartEqual (left right : Option KeyRange) : Bool := boundEqual KeyRange.start left right

/-- `KeyRangeEndEqual`. -/
def keyRangeEndEqual (left right : Option KeyRange) : Bool := boundEqual KeyRange.stop left right

/-- `KeyRangeContiguous`: the end of `left` is the start of `right`; a nil range is contiguous
only with nil or the whole keyspace. -/
def keyRangeContiguous (left right : Option KeyRange) : Bool :=
  match left, right with
  | none, none => true
  | none, some right => right.start.length = 0 && right.stop.length = 0
  | some left, none => left.start.length = 0 && left.stop.length = 0
  | some left, some right => addPadding left.stop == addPadding right.start

/-- `KeyRangeIsPartial`: the range does not cover the whole keyspace. -/
def keyRangeIsPartial (kr : Option KeyRange) : Bool :=
  match kr with
  | none => false
  | some kr => !(kr.start.length = 0 && kr.stop.length = 0)

/-! ## Padded bounds -/

/-- A bound padded with zeros to 8 bytes. -/
def pad8 (bound : List UInt8) : List UInt8 := bound.rightpad 8 0

theorem zero_le_byte (a : UInt8) : 0 ≤ a := UInt8.zero_le

/-- `addPadding` compares the padded bounds. -/
theorem addPadding_eq_iff {a b : List UInt8} : addPadding a = addPadding b ↔ pad8 a = pad8 b :=
  List.append_right_inj _

theorem pad8_nil : pad8 [] = List.replicate 8 0 := rfl

/-- A bound that has a nonzero byte does not pad to zeros. -/
theorem pad8_ne_zeros {bound : List UInt8} (h : ∃ b ∈ bound, b ≠ 0) :
    pad8 bound ≠ List.replicate 8 0 := by
  obtain ⟨b, hb, hne⟩ := h
  intro heq
  have hmem : b ∈ pad8 bound := List.mem_append_left _ hb
  rw [heq] at hmem
  exact hne (List.eq_of_mem_replicate hmem)

/-- The ids of a range of 8-byte ids, read off its padded bounds. -/
def KeyRange.toPadded (kr : KeyRange) : HalfOpen (List UInt8) :=
  ⟨pad8 kr.start, if kr.stop = [] then none else some (pad8 kr.stop)⟩

/-- **On 8-byte ids a range means what its padded bounds mean.** -/
theorem mem_toHalfOpen_iff_toPadded (kr : KeyRange) {id : List UInt8} (hid : id.length = 8) :
    id ∈ kr.toHalfOpen ↔ id ∈ kr.toPadded := by
  have hstart : pad8 kr.start ≤ id ↔ kr.start ≤ id := by
    rw [pad8, ← hid]
    exact List.rightpad_le_iff zero_le_byte
  have hstop : id < pad8 kr.stop ↔ id < kr.stop := by
    rw [pad8, ← hid]
    exact List.lt_rightpad_iff zero_le_byte
  by_cases h : kr.stop = []
  · simp [HalfOpen.mem_iff, KeyRange.toHalfOpen, KeyRange.toPadded, h, hstart]
  · simp [HalfOpen.mem_iff, KeyRange.toHalfOpen, KeyRange.toPadded, h, hstart, hstop]

theorem keyRangeContains_eq_toPadded (kr : KeyRange) {id : List UInt8} (hid : id.length = 8) :
    keyRangeContains (some kr) id = decide (id ∈ kr.toPadded) := by
  rw [Bool.eq_iff_iff, keyRangeContains_iff, mem_toHalfOpen_iff_toPadded kr hid, decide_eq_true_iff]

/-- Ranges with the same padded bounds hold the same 8-byte ids, provided that their ends are
both empty or both not. -/
theorem toPadded_eq {l r : KeyRange} (hstart : pad8 l.start = pad8 r.start)
    (hstop : pad8 l.stop = pad8 r.stop) (hempty : l.stop = [] ↔ r.stop = []) :
    l.toPadded = r.toPadded := by
  by_cases h : l.stop = []
  · simp [KeyRange.toPadded, hstart, h, hempty.mp h]
  · simp [KeyRange.toPadded, hstart, hstop, h, mt hempty.mpr h]

/-! ## `KeyRangeEqual` -/

/-- A range whose end is empty, the end of the keyspace, or has a nonzero byte. -/
def EndsAboveZero : Option KeyRange → Prop
  | none => True
  | some kr => kr.stop = [] ∨ ∃ b ∈ kr.stop, b ≠ 0

instance : DecidablePred EndsAboveZero := fun
  | none => inferInstanceAs (Decidable True)
  | some kr => inferInstanceAs (Decidable (kr.stop = [] ∨ ∃ b ∈ kr.stop, b ≠ 0))

/-- Of two ends with one padding, one is empty exactly when the other is, when neither is a run
of zeros. -/
theorem stop_eq_nil_iff {l r : KeyRange} (hl : EndsAboveZero (some l)) (hr : EndsAboveZero (some r))
    (hstop : pad8 l.stop = pad8 r.stop) : l.stop = [] ↔ r.stop = [] := by
  constructor
  · intro h
    rcases hr with hr | hr
    · exact hr
    · rw [h, pad8_nil] at hstop
      exact absurd hstop.symm (pad8_ne_zeros hr)
  · intro h
    rcases hl with hl | hl
    · exact hl
    · rw [h, pad8_nil] at hstop
      exact absurd hstop (pad8_ne_zeros hl)

/-- **`KeyRangeEqual` is sound on 8-byte ids**: two ranges it finds equal hold the same 8-byte
keyspace ids, when every end is empty or has a nonzero byte. -/
theorem keyRangeEqual_contains {left right : Option KeyRange} (hl : EndsAboveZero left)
    (hr : EndsAboveZero right) (h : keyRangeEqual left right = true) {id : List UInt8}
    (hid : id.length = 8) : keyRangeContains left id = keyRangeContains right id := by
  cases left with
  | none =>
    cases right with
    | none => rfl
    | some r =>
      simp only [keyRangeEqual, Bool.and_eq_true, decide_eq_true_eq, List.length_eq_zero_iff] at h
      simp [keyRangeContains, h.1, h.2, bytesCompare_nonpos_iff, List.nil_le_lex]
  | some l =>
    cases right with
    | none =>
      simp only [keyRangeEqual, Bool.and_eq_true, decide_eq_true_eq, List.length_eq_zero_iff] at h
      simp [keyRangeContains, h.1, h.2, bytesCompare_nonpos_iff, List.nil_le_lex]
    | some r =>
      simp only [keyRangeEqual, Bool.and_eq_true, beq_iff_eq, addPadding_eq_iff] at h
      rw [keyRangeContains_eq_toPadded l hid, keyRangeContains_eq_toPadded r hid,
        toPadded_eq h.1 h.2 (stop_eq_nil_iff hl hr h.2)]

theorem keyRangeEqual_contains_halves :
    EndsAboveZero (some ⟨[], [0x80]⟩) ∧ EndsAboveZero (some ⟨[0], [0x80, 0]⟩) ∧
      keyRangeEqual (some ⟨[], [0x80]⟩) (some ⟨[0], [0x80, 0]⟩) = true ∧
      [0x7f, 0, 0, 0, 0, 0, 0, 1].length = 8 ∧
      keyRangeContains (some ⟨[], [0x80]⟩) [0x7f, 0, 0, 0, 0, 0, 0, 1] =
        keyRangeContains (some ⟨[0], [0x80, 0]⟩) [0x7f, 0, 0, 0, 0, 0, 0, 1] :=
  ⟨by decide, by decide, by decide, rfl, keyRangeEqual_contains (by decide) (by decide) (by decide) rfl⟩

/-- An end of zeros pads like the empty end: `KeyRangeEqual` finds the whole keyspace equal to
the range `-00`, which holds no 8-byte id. -/
example :
    keyRangeEqual (some ⟨[], []⟩) (some ⟨[], [0]⟩) = true ∧
      keyRangeContains (some ⟨[], []⟩) (List.replicate 8 0) = true ∧
      keyRangeContains (some ⟨[], [0]⟩) (List.replicate 8 0) = false := by
  decide

end Wescale.Key
