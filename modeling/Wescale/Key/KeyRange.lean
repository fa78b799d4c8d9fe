import Wescale.Lib.GoBytes
import Wescale.Lib.HalfOpen

/-!
# Key ranges (`go/vt/key/key.go`)

A shard owns the keyspace ids of a `KeyRange`: the byte strings from `Start` up to, not
including, `End`, where an empty `Start` is the beginning of the keyspace and an empty `End` its
end. A nil `*KeyRange` is the whole keyspace. The functions here compare the bounds with
`bytes.Compare`, and each treats the empty bounds and the nil range in its own way.

The model keeps Go's pointer as an `Option`, and each range means a half-open range of byte
strings of the library (`KeyRange.toHalfOpen`); `keyRangeContains` is membership in it
(`keyRangeContains_iff`).

## What is proved

`key_range_laws`: for well-formed ranges, `KeyRangesIntersect` decides whether some id is in
both, `KeyRangesOverlap` returns a range of exactly the ids in both, `KeyRangeIncludes` decides
inclusion, and a range `KeyRangeAdd` returns holds exactly the ids of the two it joins.
-/

set_option autoImplicit false

namespace Wescale.Key

open Go

/-- `topodatapb.KeyRange`; Go's field `End` is a Lean keyword, so it is `stop` here. -/
structure KeyRange where
  start : List UInt8
  stop : List UInt8
  deriving DecidableEq, Repr

/-- `KeyRangeAdd`: two adjacent ranges joined into one, or `(nil, false)`. -/
def keyRangeAdd (first second : Option KeyRange) : Option KeyRange × Bool :=
  match first, second with
  | some first, some second =>
    if first.stop.length ≠ 0 ∧ first.stop = second.start then
      (some ⟨first.start, second.stop⟩, true)
    else if second.stop.length ≠ 0 ∧ second.stop = first.start then
      (some ⟨second.start, first.stop⟩, true)
    else (none, false)
  | _, _ => (none, false)

/-- `KeyRangeContains`. -/
def keyRangeContains (kr : Option KeyRange) (id : List UInt8) : Bool :=
  match kr with
  | none => true
  | some kr => bytesCompare kr.start id ≤ 0 && (kr.stop.length = 0 || bytesCompare id kr.stop < 0)

/-- `KeyRangesIntersect`. -/
def keyRangesIntersect (first second : Option KeyRange) : Bool :=
  match first, second with
  | some first, some second =>
    (first.stop.length = 0 || bytesCompare second.start first.stop < 0) &&
      (second.stop.length = 0 || bytesCompare first.start second.stop < 0)
  | _, _ => true

/-- The error of `KeyRangesOverlap`, `KeyRanges %v and %v don't overlap`, with its two ranges. -/
inductive OverlapError where
  | dontOverlap (first second : Option KeyRange)
  deriving DecidableEq, Repr

/-- `KeyRangesOverlap`: the later start and the earlier end; an empty end is the latest. -/
def keyRangesOverlap (first second : Option KeyRange) : Except OverlapError (Option KeyRange) :=
  if !keyRangesIntersect first second then .error (.dontOverlap first second)
  else
    match first, second with
    | none, _ => .ok second
    | some first, none => .ok (some first)
    | some first, some second =>
      let start := if bytesCompare second.start first.start > 0 then second.start else first.start
      let stop :=
        if first.stop.length = 0 ∨ (second.stop.length ≠ 0 ∧ bytesCompare second.stop first.stop < 0)
        then second.stop else first.stop
      .ok (some ⟨start, stop⟩)

/-- `KeyRangeIncludes`: `big` contains `small`. -/
def keyRangeIncludes (big small : Option KeyRange) : Bool :=
  match big, small with
  | none, _ => true
  | some big, none => big.start.length = 0 && big.stop.length = 0
  | some big, some small =>
    if big.start.length ≠ 0 ∧ bytesCompare small.start big.start < 0 then false
    else if big.stop.length ≠ 0 ∧ (small.stop.length = 0 ∨ bytesCompare small.stop big.stop > 0) then
      false
    else true

/-! ## What a key range means -/

/-- The ids of a range: from its start, up to its end unless that is empty. -/
def KeyRange.toHalfOpen (kr : KeyRange) : HalfOpen (List UInt8) :=
  ⟨kr.start, if kr.stop = [] then none else some kr.stop⟩

/-- A well-formed range: nil, or its start before its end unless the end is empty. -/
def WellFormed : Option KeyRange → Prop
  | none => True
  | some kr => kr.stop = [] ∨ kr.start < kr.stop

instance : DecidablePred WellFormed := fun
  | none => inferInstanceAs (Decidable True)
  | some kr => inferInstanceAs (Decidable (kr.stop = [] ∨ kr.start < kr.stop))

theorem wellFormed_iff {kr : KeyRange} : WellFormed (some kr) ↔ kr.toHalfOpen.WellFormed := by
  by_cases h : kr.stop = []
  · simp [WellFormed, KeyRange.toHalfOpen, HalfOpen.WellFormed, h]
  · simp [WellFormed, KeyRange.toHalfOpen, HalfOpen.WellFormed, h]

/-- The end test of the source: `len(End) == 0 || id < End`. -/
theorem below_toHalfOpen (kr : KeyRange) (id : List UInt8) :
    HalfOpen.Below kr.toHalfOpen.hi id ↔ kr.stop = [] ∨ id < kr.stop := by
  by_cases h : kr.stop = []
  · simp [KeyRange.toHalfOpen, h]
  · simp [KeyRange.toHalfOpen, h]

/-- The end test of the source, `len(End) == 0 || bytes.Compare(id, End) < 0`, is the upper
bound of the range. -/
theorem endTest_iff (kr : KeyRange) (id : List UInt8) :
    (decide (kr.stop.length = 0) || decide (bytesCompare id kr.stop < 0)) = true ↔
      HalfOpen.Below kr.toHalfOpen.hi id := by
  rw [below_toHalfOpen]
  simp [bytesCompare_neg_iff]

/-- **`KeyRangeContains` is membership** in the range the key range means. -/
theorem keyRangeContains_iff (kr : KeyRange) (id : List UInt8) :
    keyRangeContains (some kr) id = true ↔ id ∈ kr.toHalfOpen := by
  rw [HalfOpen.mem_iff, ← endTest_iff]
  simp [keyRangeContains, bytesCompare_nonpos_iff, KeyRange.toHalfOpen]

@[simp] theorem keyRangeContains_none (id : List UInt8) : keyRangeContains none id = true := rfl

/-- A key range with an empty start holds every id up to its end. -/
theorem start_le_iff (kr : KeyRange) : kr.toHalfOpen.lo ≤ [] ↔ kr.start = [] :=
  ⟨fun h => le_antisymm h (List.nil_le_lex _), fun h => by simp [KeyRange.toHalfOpen, h]⟩

/-! ## The four operations against membership -/

section Laws

variable {a b : Option KeyRange}

/-- **`KeyRangesIntersect`** decides whether two well-formed ranges share an id. -/
theorem keyRangesIntersect_iff (ha : WellFormed a) (hb : WellFormed b) :
    keyRangesIntersect a b = true ↔
      ∃ id, keyRangeContains a id = true ∧ keyRangeContains b id = true := by
  match a, b with
  | none, none => simp [keyRangesIntersect, keyRangeContains]
  | none, some kb =>
    exact iff_of_true rfl
      ⟨kb.start, rfl, (keyRangeContains_iff kb _).mpr (HalfOpen.lo_mem (wellFormed_iff.mp hb))⟩
  | some ka, none =>
    exact iff_of_true rfl
      ⟨ka.start, (keyRangeContains_iff ka _).mpr (HalfOpen.lo_mem (wellFormed_iff.mp ha)), rfl⟩
  | some ka, some kb =>
    simp only [keyRangeContains_iff]
    rw [HalfOpen.exists_mem_both_iff (wellFormed_iff.mp ha) (wellFormed_iff.mp hb),
      keyRangesIntersect, Bool.and_eq_true, endTest_iff, endTest_iff]
    rfl

/-- The start `KeyRangesOverlap` keeps is the later one. -/
theorem overlap_start_eq (ka kb : KeyRange) :
    (if bytesCompare kb.start ka.start > 0 then kb.start else ka.start) = max ka.start kb.start := by
  by_cases h : ka.start < kb.start
  · rw [if_pos ((bytesCompare_pos_iff _ _).mpr h), max_eq_right h.le]
  · rw [if_neg (fun h' => h ((bytesCompare_pos_iff _ _).mp h')), max_eq_left (not_lt.mp h)]

/-- The end `KeyRangesOverlap` keeps is the earlier one, an empty end being the latest. -/
theorem overlap_stop_toHalfOpen (ka kb : KeyRange) (start : List UInt8) :
    (KeyRange.mk start (if ka.stop.length = 0 ∨ (kb.stop.length ≠ 0 ∧ bytesCompare kb.stop ka.stop < 0)
      then kb.stop else ka.stop)).toHalfOpen.hi = HalfOpen.minHi ka.toHalfOpen.hi kb.toHalfOpen.hi := by
  by_cases hea : ka.stop = []
  · simp [KeyRange.toHalfOpen, hea, HalfOpen.minHi]
  · by_cases heb : kb.stop = []
    · simp [KeyRange.toHalfOpen, hea, heb, HalfOpen.minHi]
    · by_cases hlt : kb.stop < ka.stop
      · simp [KeyRange.toHalfOpen, hea, heb, HalfOpen.minHi, (bytesCompare_neg_iff _ _).mpr hlt,
          min_eq_right hlt.le]
      · have hc : ¬bytesCompare kb.stop ka.stop < 0 := fun h => hlt ((bytesCompare_neg_iff _ _).mp h)
        simp [KeyRange.toHalfOpen, hea, heb, HalfOpen.minHi, hc, min_eq_left (not_lt.mp hlt)]

/-- **`KeyRangesOverlap`** returns a range of exactly the ids in both. -/
theorem keyRangesOverlap_ok {r : Option KeyRange} (h : keyRangesOverlap a b = .ok r)
    (id : List UInt8) :
    keyRangeContains r id = true ↔ keyRangeContains a id = true ∧ keyRangeContains b id = true := by
  unfold keyRangesOverlap at h
  split at h
  · cases h
  · match a, b with
    | none, _ =>
      cases h
      simp [keyRangeContains]
    | some ka, none =>
      cases h
      simp [keyRangeContains]
    | some ka, some kb =>
      cases h
      rw [keyRangeContains_iff, keyRangeContains_iff, keyRangeContains_iff, ← HalfOpen.mem_inter_iff]
      simp only [HalfOpen.mem_iff]
      rw [overlap_stop_toHalfOpen]
      simp only [KeyRange.toHalfOpen, overlap_start_eq]

/-- The end test of `KeyRangeIncludes`: `small` ends no later than `big`. -/
theorem hiLE_toHalfOpen (small big : KeyRange) :
    HalfOpen.HiLE small.toHalfOpen.hi big.toHalfOpen.hi ↔
      ¬(big.stop.length ≠ 0 ∧ (small.stop.length = 0 ∨ bytesCompare small.stop big.stop > 0)) := by
  by_cases hb : big.stop = []
  · simp [HalfOpen.HiLE, KeyRange.toHalfOpen, hb]
  · by_cases hs : small.stop = []
    · simp [HalfOpen.HiLE, KeyRange.toHalfOpen, hb, hs]
    · simp [HalfOpen.HiLE, KeyRange.toHalfOpen, hb, hs, bytesCompare_pos_iff]

/-- The start test of `KeyRangeIncludes`: `small` starts no earlier than `big`. -/
theorem start_test_iff (small big : KeyRange) :
    big.toHalfOpen.lo ≤ small.toHalfOpen.lo ↔
      ¬(big.start.length ≠ 0 ∧ bytesCompare small.start big.start < 0) := by
  by_cases hb : big.start = []
  · simp [KeyRange.toHalfOpen, hb, List.nil_le_lex]
  · simp [KeyRange.toHalfOpen, hb, bytesCompare_neg_iff]

/-- **`KeyRangeIncludes`** decides whether every id of `b` is in `a`. -/
theorem keyRangeIncludes_iff (hb : WellFormed b) :
    keyRangeIncludes a b = true ↔ ∀ id, keyRangeContains b id = true → keyRangeContains a id = true := by
  match a, b with
  | none, _ => simp [keyRangeIncludes, keyRangeContains]
  | some ka, none =>
    -- the whole keyspace: `ka` must start at the empty id and have no end
    simp only [keyRangeIncludes, keyRangeContains_none, forall_const, keyRangeContains_iff]
    rw [HalfOpen.forall_mem_iff List.nil_le_lex, start_le_iff]
    simp [KeyRange.toHalfOpen]
  | some ka, some kb =>
    simp only [keyRangeContains_iff]
    rw [HalfOpen.forall_mem_subset_iff (wellFormed_iff.mp hb), start_test_iff, hiLE_toHalfOpen]
    simp only [keyRangeIncludes]
    split_ifs with h1 h2 <;> simp_all

/-- **`KeyRangeAdd`** joins two well-formed adjacent ranges into one of exactly their ids. -/
theorem keyRangeAdd_ok (ha : WellFormed a) (hb : WellFormed b) {r : Option KeyRange}
    (h : keyRangeAdd a b = (r, true)) (id : List UInt8) :
    keyRangeContains r id = true ↔ keyRangeContains a id = true ∨ keyRangeContains b id = true := by
  match a, b with
  | none, _ => simp [keyRangeAdd] at h
  | some _, none => simp [keyRangeAdd] at h
  | some ka, some kb =>
    simp only [keyRangeAdd] at h
    split_ifs at h with h1 h2
    · -- `ka` ends where `kb` starts
      cases h
      have hne : ka.stop ≠ [] := fun he => h1.1 (by rw [he]; rfl)
      have hend : ka.toHalfOpen.hi = some kb.toHalfOpen.lo := by
        simp only [KeyRange.toHalfOpen]
        rw [if_neg hne, h1.2]
      rw [keyRangeContains_iff, keyRangeContains_iff, keyRangeContains_iff,
        ← HalfOpen.mem_join_iff (wellFormed_iff.mp ha) (wellFormed_iff.mp hb) hend]
      rfl
    · -- `kb` ends where `ka` starts
      cases h
      have hne : kb.stop ≠ [] := fun he => h2.1 (by rw [he]; rfl)
      have hend : kb.toHalfOpen.hi = some ka.toHalfOpen.lo := by
        simp only [KeyRange.toHalfOpen]
        rw [if_neg hne, h2.2]
      rw [keyRangeContains_iff, keyRangeContains_iff, keyRangeContains_iff, or_comm,
        ← HalfOpen.mem_join_iff (wellFormed_iff.mp hb) (wellFormed_iff.mp ha) hend]
      rfl
    · cases h

end Laws

/-- **The key-range functions against membership.** For well-formed ranges `a` and `b`:
`KeyRangesIntersect(a, b)` holds exactly when some id is in both, a range `KeyRangesOverlap`
returns holds exactly the ids in both, `KeyRangeIncludes(a, b)` holds exactly when every id of
`b` is in `a`, and a range `KeyRangeAdd` returns with `true` holds exactly the ids of `a` and
of `b`. -/
theorem key_range_laws (a b : Option KeyRange) (ha : WellFormed a) (hb : WellFormed b) :
    (keyRangesIntersect a b = true ↔
      ∃ id, keyRangeContains a id = true ∧ keyRangeContains b id = true) ∧
    (∀ r, keyRangesOverlap a b = .ok r → ∀ id,
      keyRangeContains r id = true ↔ keyRangeContains a id = true ∧ keyRangeContains b id = true) ∧
    (keyRangeIncludes a b = true ↔
      ∀ id, keyRangeContains b id = true → keyRangeContains a id = true) ∧
    (∀ r, keyRangeAdd a b = (r, true) → ∀ id,
      keyRangeContains r id = true ↔ keyRangeContains a id = true ∨ keyRangeContains b id = true) :=
  ⟨keyRangesIntersect_iff ha hb, fun _ h => keyRangesOverlap_ok h, keyRangeIncludes_iff hb,
    fun _ h => keyRangeAdd_ok ha hb h⟩

/-- The laws at the shards `-80` and `80-`: two adjacent halves of the keyspace. -/
theorem key_range_laws_halves :
    WellFormed (some ⟨[], [0x80]⟩) ∧ WellFormed (some ⟨[0x80], []⟩) ∧
    ((keyRangesIntersect (some ⟨[], [0x80]⟩) (some ⟨[0x80], []⟩) = true ↔
      ∃ id, keyRangeContains (some ⟨[], [0x80]⟩) id = true ∧
        keyRangeContains (some ⟨[0x80], []⟩) id = true) ∧
    (∀ r, keyRangesOverlap (some ⟨[], [0x80]⟩) (some ⟨[0x80], []⟩) = .ok r → ∀ id,
      keyRangeContains r id = true ↔ keyRangeContains (some ⟨[], [0x80]⟩) id = true ∧
        keyRangeContains (some ⟨[0x80], []⟩) id = true) ∧
    (keyRangeIncludes (some ⟨[], [0x80]⟩) (some ⟨[0x80], []⟩) = true ↔
      ∀ id, keyRangeContains (some ⟨[0x80], []⟩) id = true →
        keyRangeContains (some ⟨[], [0x80]⟩) id = true) ∧
    (∀ r, keyRangeAdd (some ⟨[], [0x80]⟩) (some ⟨[0x80], []⟩) = (r, true) → ∀ id,
      keyRangeContains r id = true ↔ keyRangeContains (some ⟨[], [0x80]⟩) id = true ∨
        keyRangeContains (some ⟨[0x80], []⟩) id = true)) :=
  ⟨by decide, by decide, key_range_laws _ _ (by decide) (by decide)⟩

end Wescale.Key
