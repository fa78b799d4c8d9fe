import Mathlib

/-!
# Half-open ranges of a linear order

`⟨lo, hi⟩ : HalfOpen α` is the range `[lo, hi)` of a linear order, with `hi = none` for a range
that has no end. A range is well formed when it holds its own start. The lemmas are the laws of
the operations range code is built from, each stated against membership:

* `mem_inter_iff`: the intersection is `[max lo lo', min hi hi')`;
* `exists_mem_both_iff`: two well-formed ranges meet exactly when each starts before the other
  ends;
* `forall_mem_subset_iff`: one well-formed range lies in another exactly when it starts no
  earlier and ends no later; `forall_mem_iff`: a range holds everything exactly when it starts
  at the least element and has no end;
* `mem_join_iff`: two adjacent ranges `[lo, m)` and `[m, hi)` make `[lo, hi)`;
* `countP_mem_chain`: the ranges between consecutive bounds in order, `chain`, hold each element
  of their span exactly once and nothing else.
-/

set_option autoImplicit false

/-- The range `[lo, hi)`; `hi = none` when it has no end. -/
structure HalfOpen (α : Type*) where
  lo : α
  hi : Option α
  deriving DecidableEq, Repr

namespace HalfOpen

variable {α : Type*} [LinearOrder α]

/-- `x` is below an upper end: every `x` is, when there is none. -/
def Below (hi : Option α) (x : α) : Prop := ∀ h ∈ hi, x < h

@[simp] theorem below_none (x : α) : Below none x := by simp [Below]

@[simp] theorem below_some {h x : α} : Below (some h) x ↔ x < h := by simp [Below]

instance : Membership α (HalfOpen α) := ⟨fun r x => r.lo ≤ x ∧ Below r.hi x⟩

theorem mem_iff {r : HalfOpen α} {x : α} : x ∈ r ↔ r.lo ≤ x ∧ Below r.hi x := Iff.rfl

/-- A range that holds its own start: it starts before it ends. -/
def WellFormed (r : HalfOpen α) : Prop := Below r.hi r.lo

theorem lo_mem {r : HalfOpen α} (h : r.WellFormed) : r.lo ∈ r := ⟨le_rfl, h⟩

/-- The lower of two upper ends. -/
def minHi : Option α → Option α → Option α
  | none, h => h
  | some a, none => some a
  | some a, some b => some (min a b)

theorem below_minHi {a b : Option α} {x : α} : Below (minHi a b) x ↔ Below a x ∧ Below b x := by
  cases a <;> cases b <;> simp [minHi]

/-- An upper end no later than another: every element below the first is below the second. -/
def HiLE (a b : Option α) : Prop := ∀ y ∈ b, ∃ x ∈ a, x ≤ y

theorem below_of_hiLE {a b : Option α} {x : α} (h : HiLE a b) (hx : Below a x) : Below b x := by
  intro y hy
  obtain ⟨z, hz, hzy⟩ := h y hy
  exact lt_of_lt_of_le (hx z hz) hzy

variable {r s : HalfOpen α} {x : α}

/-- **Intersection**: both ranges hold `x` exactly when `[max lo lo', min hi hi')` does. -/
theorem mem_inter_iff : x ∈ (⟨max r.lo s.lo, minHi r.hi s.hi⟩ : HalfOpen α) ↔ x ∈ r ∧ x ∈ s := by
  simp only [mem_iff, below_minHi]
  constructor
  · rintro ⟨hmax, hr, hs⟩
    exact ⟨⟨le_trans (le_max_left _ _) hmax, hr⟩, le_trans (le_max_right _ _) hmax, hs⟩
  · rintro ⟨⟨hr, hr'⟩, hs, hs'⟩
    exact ⟨max_le hr hs, hr', hs'⟩

/-- Two well-formed ranges share an element exactly when each starts before the other ends. -/
theorem exists_mem_both_iff (hr : r.WellFormed) (hs : s.WellFormed) :
    (∃ x, x ∈ r ∧ x ∈ s) ↔ Below r.hi s.lo ∧ Below s.hi r.lo := by
  constructor
  · rintro ⟨x, ⟨hrlo, hrhi⟩, ⟨hslo, hshi⟩⟩
    exact ⟨fun h hh => lt_of_le_of_lt hslo (hrhi h hh), fun h hh => lt_of_le_of_lt hrlo (hshi h hh)⟩
  · -- the later of the two starts is in both
    rintro ⟨hrs, hsr⟩
    refine ⟨max r.lo s.lo, ?_, ?_⟩
    · exact ⟨le_max_left _ _, fun h hh => max_lt (hr h hh) (hrs h hh)⟩
    · exact ⟨le_max_right _ _, fun h hh => max_lt (hsr h hh) (hs h hh)⟩

/-- A well-formed range lies in another exactly when it starts no earlier and ends no later. -/
theorem forall_mem_subset_iff (hs : s.WellFormed) :
    (∀ x, x ∈ s → x ∈ r) ↔ r.lo ≤ s.lo ∧ HiLE s.hi r.hi := by
  constructor
  · intro h
    refine ⟨(h s.lo (lo_mem hs)).1, fun y hy => ?_⟩
    -- `max s.lo y` would be in `s` but not below `r`'s end `y`, unless `s` ends by `y`
    have hnot : ¬Below s.hi (max s.lo y) := fun hb =>
      lt_irrefl y (lt_of_le_of_lt (le_max_right _ _) ((h _ ⟨le_max_left _ _, hb⟩).2 y hy))
    cases hsh : s.hi with
    | none => exact absurd (by rw [hsh]; exact below_none _) hnot
    | some e =>
      refine ⟨e, rfl, le_of_not_gt fun hye => hnot ?_⟩
      rw [hsh, below_some]
      exact max_lt (by simpa [WellFormed, hsh] using hs) hye
  · rintro ⟨hlo, hhi⟩ x ⟨hxlo, hxhi⟩
    exact ⟨le_trans hlo hxlo, below_of_hiLE hhi hxhi⟩

/-- A range holds every element exactly when it starts at the least one and has no end. -/
theorem forall_mem_iff {b : α} (hbot : ∀ x, b ≤ x) : (∀ x, x ∈ r) ↔ r.lo ≤ b ∧ r.hi = none := by
  constructor
  · intro h
    refine ⟨(h b).1, ?_⟩
    cases hh : r.hi with
    | none => rfl
    | some e =>
      have he := (h e).2
      rw [hh, below_some] at he
      exact absurd he (lt_irrefl e)
  · rintro ⟨hlo, hhi⟩ x
    exact ⟨le_trans hlo (hbot x), by rw [hhi]; exact below_none x⟩

/-- **Adjacent ranges join**: `[lo, m)` and `[m, hi)` make `[lo, hi)`. -/
theorem mem_join_iff (hr : r.WellFormed) (hs : s.WellFormed) (h : r.hi = some s.lo) :
    x ∈ (⟨r.lo, s.hi⟩ : HalfOpen α) ↔ x ∈ r ∨ x ∈ s := by
  have hlt : r.lo < s.lo := by simpa [WellFormed, h] using hr
  simp only [mem_iff, h, below_some]
  constructor
  · rintro ⟨hlo, hhi⟩
    rcases lt_or_ge x s.lo with hx | hx
    · exact .inl ⟨hlo, hx⟩
    · exact .inr ⟨hx, hhi⟩
  · rintro (⟨hlo, hx⟩ | ⟨hx, hhi⟩)
    · exact ⟨hlo, fun e he => lt_trans hx (hs e he)⟩
    · exact ⟨le_trans hlt.le hx, hhi⟩

/-! ## Consecutive ranges -/

instance (hi : Option α) (x : α) : Decidable (Below hi x) :=
  match hi with
  | none => isTrue (below_none x)
  | some h => decidable_of_iff (x < h) below_some.symm

instance (r : HalfOpen α) (x : α) : Decidable (x ∈ r) :=
  inferInstanceAs (Decidable (r.lo ≤ x ∧ Below r.hi x))

/-- The ranges `[lo, b₁), [b₁, b₂), …, [bₙ, hi)` between consecutive bounds. -/
def chain : α → List α → Option α → List (HalfOpen α)
  | lo, [], hi => [⟨lo, hi⟩]
  | lo, b :: bs, hi => ⟨lo, some b⟩ :: chain b bs hi

/-- A split point `b` inside `[lo, hi)` cuts it into `[lo, b)` and `[b, hi)`, which share
nothing. -/
theorem mem_split_iff {lo b : α} {hi : Option α} (hlo : lo ≤ b) (hhi : ∀ h ∈ hi, b ≤ h) :
    (x ∈ (⟨lo, hi⟩ : HalfOpen α) ↔ x ∈ (⟨lo, some b⟩ : HalfOpen α) ∨ x ∈ (⟨b, hi⟩ : HalfOpen α)) ∧
      ¬(x ∈ (⟨lo, some b⟩ : HalfOpen α) ∧ x ∈ (⟨b, hi⟩ : HalfOpen α)) := by
  simp only [mem_iff, below_some]
  refine ⟨⟨fun ⟨hx, hxhi⟩ => ?_, ?_⟩, fun ⟨⟨_, hxb⟩, hbx, _⟩ => absurd hbx (not_le_of_gt hxb)⟩
  · rcases lt_or_ge x b with hxb | hbx
    · exact .inl ⟨hx, hxb⟩
    · exact .inr ⟨hbx, hxhi⟩
  · rintro (⟨hx, hxb⟩ | ⟨hbx, hxhi⟩)
    · exact ⟨hx, fun h hh => lt_of_lt_of_le hxb (hhi h hh)⟩
    · exact ⟨le_trans hlo hbx, hxhi⟩

/-- **Consecutive ranges partition their span**: with the bounds in order and the last one no
later than the end, an element lies in exactly one of the ranges when it lies in `[lo, hi)`, and
in none when it does not. -/
theorem countP_mem_chain (x : α) :
    ∀ {lo : α} {bs : List α} {hi : Option α}, List.IsChain (· ≤ ·) (lo :: bs) →
      (∀ h ∈ hi, ∀ b ∈ lo :: bs, b ≤ h) →
      (chain lo bs hi).countP (fun r => decide (x ∈ r)) =
        if x ∈ (⟨lo, hi⟩ : HalfOpen α) then 1 else 0
  | lo, [], hi, _, _ => by
    simp only [chain, List.countP_cons, List.countP_nil, Nat.zero_add]
    split <;> simp_all
  | lo, b :: bs, hi, hchain, hhi => by
    obtain ⟨hlo, hrest⟩ := List.isChain_cons_cons.mp hchain
    -- the first range is `[lo, b)`, and the rest partition `[b, hi)` by induction
    have ih := countP_mem_chain x hrest (fun h hh c hc => hhi h hh c (List.mem_cons_of_mem _ hc))
    have hsplit := mem_split_iff (x := x) hlo (fun h hh => hhi h hh b (by simp))
    rw [chain, List.countP_cons, ih]
    by_cases h1 : x ∈ (⟨lo, some b⟩ : HalfOpen α) <;>
      by_cases h2 : x ∈ (⟨b, hi⟩ : HalfOpen α) <;> simp_all

end HalfOpen
