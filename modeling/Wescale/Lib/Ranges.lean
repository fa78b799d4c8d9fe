import Mathlib

/-!
# Closed integer ranges, and canonical lists of them

A `Range` is a closed range `[lo, hi]` of integers, and a list of ranges covers the
union of its members (`toSet`). A list is **canonical** when every member is non-empty,
the members are sorted, and any two of them are separated by at least one integer that
neither covers (`Range.Before`). Canonical lists are the normal form of finite sets of
integers: the set decides the list.

## What is proved

- `Canonical.eq_of_toSet_eq` — two canonical lists that cover the same integers are
  equal. This is what makes element-wise comparison of canonical lists a comparison of
  the sets they cover.
- `Canonical.exists_cover` — a block `[a, b]` of integers that a canonical list covers
  lies inside ONE member. This is what makes "each range of one list fits inside one range
  of the other" a complete test of inclusion when the other list is canonical.
- `Canonical.le_hi_getLast` — the last member of a canonical list carries its largest
  integer.

Nothing here names the program: these are facts about ranges of integers, and the model
uses them through the endpoints of its own intervals.
-/

set_option autoImplicit false

namespace Ranges

/-- A closed range `[lo, hi]` of integers; it is empty when `hi < lo`. -/
structure Range where
  lo : Int
  hi : Int
  deriving DecidableEq, Repr

namespace Range

/-- The integers a range covers. -/
def Mem (r : Range) (x : Int) : Prop := r.lo ≤ x ∧ x ≤ r.hi

instance (r : Range) (x : Int) : Decidable (r.Mem x) :=
  inferInstanceAs (Decidable (_ ∧ _))

/-- A range that covers at least its own start. -/
def WF (r : Range) : Prop := r.lo ≤ r.hi

instance (r : Range) : Decidable r.WF := inferInstanceAs (Decidable (_ ≤ _))

/-- `a` ends before `b` starts with at least one integer between them: the gap that
keeps two members of a canonical list from being one range. -/
def Before (a b : Range) : Prop := a.hi + 1 < b.lo

instance (a b : Range) : Decidable (a.Before b) := inferInstanceAs (Decidable (_ < _))

@[simp] theorem mem_iff {r : Range} {x : Int} : r.Mem x ↔ r.lo ≤ x ∧ x ≤ r.hi := Iff.rfl

end Range

/-- The integers a list of ranges covers. -/
def toSet (rs : List Range) : Set Int := {x | ∃ r ∈ rs, r.Mem x}

@[simp] theorem mem_toSet {rs : List Range} {x : Int} :
    x ∈ toSet rs ↔ ∃ r ∈ rs, r.lo ≤ x ∧ x ≤ r.hi := Iff.rfl

@[simp] theorem toSet_nil : toSet [] = ∅ := by
  ext x; simp

theorem mem_toSet_cons {r : Range} {rs : List Range} {x : Int} :
    x ∈ toSet (r :: rs) ↔ (r.lo ≤ x ∧ x ≤ r.hi) ∨ x ∈ toSet rs := by
  simp

theorem toSet_append (rs ss : List Range) : toSet (rs ++ ss) = toSet rs ∪ toSet ss := by
  ext x
  simp only [mem_toSet, List.mem_append, Set.mem_union]
  constructor
  · rintro ⟨r, hr | hr, hx⟩
    · exact .inl ⟨r, hr, hx⟩
    · exact .inr ⟨r, hr, hx⟩
  · rintro (⟨r, hr, hx⟩ | ⟨r, hr, hx⟩)
    · exact ⟨r, .inl hr, hx⟩
    · exact ⟨r, .inr hr, hx⟩

/-- Canonical: every member non-empty, and each member `Before` every later one. -/
structure Canonical (rs : List Range) : Prop where
  wf : ∀ r ∈ rs, r.WF
  sorted : rs.Pairwise Range.Before

instance (rs : List Range) : Decidable (Canonical rs) :=
  decidable_of_iff ((∀ r ∈ rs, r.WF) ∧ rs.Pairwise Range.Before)
    ⟨fun h => ⟨h.1, h.2⟩, fun h => ⟨h.wf, h.sorted⟩⟩

namespace Canonical

theorem nil : Canonical [] := ⟨by simp, .nil⟩

theorem cons_iff {r : Range} {rs : List Range} :
    Canonical (r :: rs) ↔ r.WF ∧ (∀ s ∈ rs, r.Before s) ∧ Canonical rs := by
  constructor
  · rintro ⟨hwf, hs⟩
    obtain ⟨hr, hrs⟩ := List.pairwise_cons.mp hs
    exact ⟨hwf r (by simp), hr, fun s hs => hwf s (by simp [hs]), hrs⟩
  · rintro ⟨hr, hb, hwf, hs⟩
    refine ⟨?_, List.pairwise_cons.mpr ⟨hb, hs⟩⟩
    intro s hs'
    rcases List.mem_cons.mp hs' with rfl | hs'
    · exact hr
    · exact hwf s hs'

theorem tail {r : Range} {rs : List Range} (h : Canonical (r :: rs)) : Canonical rs :=
  (cons_iff.mp h).2.2

/-- Everything the tail of a canonical list covers lies past the head's gap. -/
theorem hi_succ_lt_of_mem_tail {r : Range} {rs : List Range} (h : Canonical (r :: rs))
    {x : Int} (hx : x ∈ toSet rs) : r.hi + 1 < x := by
  obtain ⟨s, hs, hsx⟩ := mem_toSet.mp hx
  have hb : r.Before s := (cons_iff.mp h).2.1 s hs
  simp only [Range.Before] at hb
  omega

/-- The head of a canonical list starts at its least integer. -/
theorem lo_le_of_mem {r : Range} {rs : List Range} (h : Canonical (r :: rs))
    {x : Int} (hx : x ∈ toSet (r :: rs)) : r.lo ≤ x := by
  rcases mem_toSet_cons.mp hx with hx | hx
  · exact hx.1
  · have := h.hi_succ_lt_of_mem_tail hx
    have := (cons_iff.mp h).1
    simp only [Range.WF] at this
    omega

/-- Uniqueness of the canonical form: the covered set decides the list. -/
theorem eq_of_toSet_eq : ∀ {rs ss : List Range}, Canonical rs → Canonical ss →
    toSet rs = toSet ss → rs = ss
  | [], [], _, _, _ => rfl
  | [], s :: ss, _, hs, h => by
    have hmem : s.lo ∈ toSet (s :: ss) :=
      mem_toSet_cons.mpr (.inl ⟨le_rfl, (cons_iff.mp hs).1⟩)
    rw [← h] at hmem
    simp at hmem
  | r :: rs, [], hr, _, h => by
    have hmem : r.lo ∈ toSet (r :: rs) :=
      mem_toSet_cons.mpr (.inl ⟨le_rfl, (cons_iff.mp hr).1⟩)
    rw [h] at hmem
    simp at hmem
  | r :: rs, s :: ss, hr, hs, h => by
    obtain ⟨hrwf, -, hrs⟩ := cons_iff.mp hr
    obtain ⟨hswf, -, hss⟩ := cons_iff.mp hs
    simp only [Range.WF] at hrwf hswf
    -- The starts agree: each head starts at the least covered integer.
    have hlo : r.lo = s.lo := by
      have h1 : r.lo ∈ toSet (s :: ss) := h ▸ mem_toSet_cons.mpr (.inl ⟨le_rfl, hrwf⟩)
      have h2 : s.lo ∈ toSet (r :: rs) := h.symm ▸ mem_toSet_cons.mpr (.inl ⟨le_rfl, hswf⟩)
      exact le_antisymm (hr.lo_le_of_mem h2) (hs.lo_le_of_mem h1)
    -- The ends agree: the integer after the shorter head is covered by the longer head,
    -- but the gap says the shorter list does not cover it.
    have hhi : r.hi = s.hi := by
      by_contra hne
      rcases lt_or_gt_of_ne hne with hlt | hlt
      · have hin : r.hi + 1 ∈ toSet (r :: rs) :=
          h.symm ▸ mem_toSet_cons.mpr (.inl ⟨by omega, by omega⟩)
        rcases mem_toSet_cons.mp hin with hx | hx
        · omega
        · have := hr.hi_succ_lt_of_mem_tail hx; omega
      · have hin : s.hi + 1 ∈ toSet (s :: ss) :=
          h ▸ mem_toSet_cons.mpr (.inl ⟨by omega, by omega⟩)
        rcases mem_toSet_cons.mp hin with hx | hx
        · omega
        · have := hs.hi_succ_lt_of_mem_tail hx; omega
    have hhead : r = s := by cases r; cases s; simp_all
    subst hhead
    -- The tails cover what is left past the common head.
    have htail : toSet rs = toSet ss := by
      ext x
      constructor
      · intro hx
        have hgt := hr.hi_succ_lt_of_mem_tail hx
        have hx' : x ∈ toSet (r :: ss) := h ▸ mem_toSet_cons.mpr (.inr hx)
        rcases mem_toSet_cons.mp hx' with hx' | hx'
        · omega
        · exact hx'
      · intro hx
        have hgt := hs.hi_succ_lt_of_mem_tail hx
        have hx' : x ∈ toSet (r :: rs) := h.symm ▸ mem_toSet_cons.mpr (.inr hx)
        rcases mem_toSet_cons.mp hx' with hx' | hx'
        · omega
        · exact hx'
    rw [eq_of_toSet_eq hrs hss htail]

/-- Two different members of a pairwise-ordered list are ordered one way or the other. -/
theorem rel_or_rel_of_mem {α : Type*} {R : α → α → Prop} :
    ∀ {l : List α}, l.Pairwise R → ∀ {a b : α}, a ∈ l → b ∈ l → a ≠ b → R a b ∨ R b a
  | [], _, _, _, ha, _, _ => absurd ha (by simp)
  | c :: l, h, a, b, ha, hb, hne => by
    obtain ⟨hc, hl⟩ := List.pairwise_cons.mp h
    rcases List.mem_cons.mp ha with ha | ha
    · rcases List.mem_cons.mp hb with hb | hb
      · exact absurd (ha.trans hb.symm) hne
      · exact .inl (ha ▸ hc b hb)
    · rcases List.mem_cons.mp hb with hb | hb
      · exact .inr (hb ▸ hc a ha)
      · exact rel_or_rel_of_mem hl ha hb hne

/-- A block of integers that a canonical list covers lies inside one member. -/
theorem exists_cover {rs : List Range} (h : Canonical rs) {a b : Int} (hab : a ≤ b)
    (hsub : ∀ x, a ≤ x → x ≤ b → x ∈ toSet rs) : ∃ r ∈ rs, r.lo ≤ a ∧ b ≤ r.hi := by
  obtain ⟨r, hr, hra⟩ := hsub a le_rfl hab
  refine ⟨r, hr, hra.1, ?_⟩
  by_contra hle
  have hlt : r.hi < b := lt_of_not_ge hle
  -- The integer after `r` is still in the block, so another member covers it.
  obtain ⟨s, hs, hsx⟩ := hsub (r.hi + 1) (by simp only [Range.mem_iff] at hra; omega) (by omega)
  have hne : r ≠ s := by
    rintro rfl
    simp only [Range.mem_iff] at hsx
    omega
  rcases rel_or_rel_of_mem h.sorted hr hs hne with hb | hb
  · simp only [Range.Before, Range.mem_iff] at hb hsx
    omega
  · simp only [Range.Before, Range.mem_iff] at hb hsx hra
    omega

/-- Every integer a canonical list covers is at most the end of its last member. -/
theorem le_hi_getLast {rs : List Range} (h : Canonical rs) (hne : rs ≠ [])
    {x : Int} (hx : x ∈ toSet rs) : x ≤ (rs.getLast hne).hi := by
  induction rs with
  | nil => exact absurd rfl hne
  | cons r rs ih =>
    cases rs with
    | nil =>
      simp only [mem_toSet_cons, toSet_nil, Set.mem_empty_iff_false, or_false] at hx
      simpa using hx.2
    | cons s ss =>
      rw [List.getLast_cons (by simp)]
      rcases mem_toSet_cons.mp hx with hx | hx
      · -- `x` is in the head; the last member lies past the head's gap.
        have hlast : (s :: ss).getLast (by simp) ∈ s :: ss := List.getLast_mem _
        have hb := (cons_iff.mp h).2.1 _ hlast
        have hwf := h.tail.wf _ hlast
        simp only [Range.Before, Range.WF] at hb hwf
        omega
      · exact ih h.tail (by simp) hx

/-- Appending one range keeps a list canonical exactly when the range is non-empty and
every earlier member is `Before` it. -/
theorem append_singleton_iff {rs : List Range} {r : Range} :
    Canonical (rs ++ [r]) ↔ Canonical rs ∧ r.WF ∧ ∀ s ∈ rs, s.Before r := by
  constructor
  · rintro ⟨hwf, hs⟩
    obtain ⟨hrs, -, hcross⟩ := List.pairwise_append.mp hs
    refine ⟨⟨fun s hs => hwf s (by simp [hs]), hrs⟩, hwf r (by simp), ?_⟩
    intro s hs
    exact hcross s hs r (by simp)
  · rintro ⟨⟨hwf, hs⟩, hr, hb⟩
    refine ⟨?_, List.pairwise_append.mpr ⟨hs, by simp, ?_⟩⟩
    · intro s hs'
      rcases List.mem_append.mp hs' with hs' | hs'
      · exact hwf s hs'
      · rw [List.mem_singleton.mp hs']
        exact hr
    · intro s hs t ht
      rw [List.mem_singleton.mp ht]
      exact hb s hs

end Canonical

end Ranges
