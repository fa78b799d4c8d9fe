import Wescale.Mysql.GtidSet.Basic

/-!
# `Mysql56GTIDSet.Intersect` (`go/mysql/mysql56_gtid_set.go`)

For each server id of the receiver that the other set also holds, `Intersect` walks the two
interval lists with one cursor each. A pair that cannot meet advances the cursor of the
interval that lies wholly before the other; a pair that meets emits its overlap and then
advances the cursor of the interval that ends first, the receiver's on a tie. A server id
whose walk emits nothing is left out.

## What is proved

- `intersectLoop_lower` — every emitted interval starts no earlier than some interval of
  each input: the fact that keeps later emissions past the gap of earlier ones.
- `intersectLoop_spec` — on two gapped lists the walk emits a gapped list covering exactly
  the intersection.
- `lookup_intersect` — the map-level result, server id by server id.

The walk is by well-founded recursion; every proof here is by its own induction principle
(`intersectLoop.induct`), whose five cases are the loop's exits and branches.
-/

set_option autoImplicit false

namespace Wescale.Mysql

/-- Go's local `max` of `Intersect`. -/
def maxInt64 (a b : Int64) : Int64 := if a > b then a else b

/-- Go's local `min` of `Intersect`. -/
def minInt64 (a b : Int64) : Int64 := if a < b then a else b

@[simp] theorem toInt_maxInt64 (a b : Int64) : (maxInt64 a b).toInt = max a.toInt b.toInt := by
  unfold maxInt64
  split
  · rename_i h
    rw [gt_iff_lt, Int64.lt_iff_toInt_lt] at h
    omega
  · rename_i h
    rw [gt_iff_lt, Int64.lt_iff_toInt_lt] at h
    omega

@[simp] theorem toInt_minInt64 (a b : Int64) : (minInt64 a b).toInt = min a.toInt b.toInt := by
  unfold minInt64
  split
  · rename_i h
    rw [Int64.lt_iff_toInt_lt] at h
    omega
  · rename_i h
    rw [Int64.lt_iff_toInt_lt] at h
    omega

/-- The loop of `Intersect` for one server id, over the rest of each list from its cursor.
The overlap of a meeting pair is emitted before the loop goes on, as Go appends it. -/
def intersectLoop : List Interval → List Interval → List Interval
  | [], _ => []
  | _ :: _, [] => []
  | iv :: ivs, ov :: ovs =>
    if iv.start > ov.stop then intersectLoop (iv :: ivs) ovs
    else if iv.stop < ov.start then intersectLoop ivs (ov :: ovs)
    else { start := maxInt64 iv.start ov.start, stop := minInt64 iv.stop ov.stop } ::
      (if iv.stop > ov.stop then intersectLoop (iv :: ivs) ovs else intersectLoop ivs (ov :: ovs))

/-- `Intersect`: walk the receiver's server ids; keep those the other set holds and whose
walk emits something. -/
def Mysql56GTIDSet.intersect (set other : Mysql56GTIDSet) : Mysql56GTIDSet :=
  set.filterMapVals fun sid intervals =>
    match other.lookup sid with
    | none => none
    | some otherIntervals =>
      let intersectIntervals := intersectLoop intervals otherIntervals
      if intersectIntervals = [] then none else some intersectIntervals

example : intersectLoop [⟨1, 5⟩, ⟨8, 10⟩] [⟨3, 9⟩] = [⟨3, 5⟩, ⟨8, 9⟩] := by
  simp [intersectLoop, maxInt64, minInt64]

/-! ## What the walk emits -/

/-- The overlap a meeting pair emits, as a range: from the later start to the earlier end. -/
theorem mem_den_overlap {iv ov : Interval} {x : Int} :
    x ∈ den [{ start := maxInt64 iv.start ov.start, stop := minInt64 iv.stop ov.stop }] ↔
      (iv.start.toInt ≤ x ∧ x ≤ iv.stop.toInt) ∧ (ov.start.toInt ≤ x ∧ x ≤ ov.stop.toInt) := by
  simp only [mem_den_cons, den_nil, Set.mem_empty_iff_false, or_false, toInt_maxInt64,
    toInt_minInt64]
  omega

/-- Every emitted interval starts no earlier than some interval of each input. -/
theorem intersectLoop_lower (xs ys : List Interval) :
    ∀ p ∈ intersectLoop xs ys, (∃ x ∈ xs, x.start.toInt ≤ p.start.toInt) ∧
      (∃ y ∈ ys, y.start.toInt ≤ p.start.toInt) := by
  induction xs, ys using intersectLoop.induct with
  | case1 ys => simp [intersectLoop]
  | case2 iv ivs => simp [intersectLoop]
  | case3 iv ivs ov ovs hgt ih =>
    intro p hp
    rw [intersectLoop, if_pos hgt] at hp
    obtain ⟨hx, y, hy, hle⟩ := ih p hp
    exact ⟨hx, y, List.mem_cons_of_mem _ hy, hle⟩
  | case4 iv ivs ov ovs hgt hlt ih =>
    intro p hp
    rw [intersectLoop, if_neg hgt, if_pos hlt] at hp
    obtain ⟨⟨x, hx, hle⟩, hy⟩ := ih p hp
    exact ⟨⟨x, List.mem_cons_of_mem _ hx, hle⟩, hy⟩
  | case5 iv ivs ov ovs hgt hlt ih1 ih2 =>
    intro p hp
    rw [intersectLoop, if_neg hgt, if_neg hlt] at hp
    rcases List.mem_cons.mp hp with rfl | hp
    · -- The overlap starts at the later of the two starts.
      refine ⟨⟨iv, by simp, ?_⟩, ⟨ov, by simp, ?_⟩⟩ <;> simp only [toInt_maxInt64] <;> omega
    · split at hp
      · obtain ⟨hx, y, hy, hle⟩ := ih1 p hp
        exact ⟨hx, y, List.mem_cons_of_mem _ hy, hle⟩
      · obtain ⟨⟨x, hx, hle⟩, hy⟩ := ih2 p hp
        exact ⟨⟨x, List.mem_cons_of_mem _ hx, hle⟩, hy⟩

/-- On gapped inputs the walk emits a gapped list that covers exactly the intersection. -/
theorem intersectLoop_spec (xs ys : List Interval) :
    Gapped xs → Gapped ys →
      Gapped (intersectLoop xs ys) ∧ den (intersectLoop xs ys) = den xs ∩ den ys := by
  induction xs, ys using intersectLoop.induct with
  | case1 ys => intro _ _; simp [intersectLoop, gapped_nil]
  | case2 iv ivs => intro _ _; simp [intersectLoop, gapped_nil]
  | case3 iv ivs ov ovs hgt ih =>
    -- `ov` ends before `iv` starts, so before everything the receiver has left.
    intro hx hy
    rw [intersectLoop, if_pos hgt]
    rw [gt_iff_lt, Int64.lt_iff_toInt_lt] at hgt
    obtain ⟨hgap, hden⟩ := ih hx hy.tail
    refine ⟨hgap, ?_⟩
    rw [hden]
    ext x
    simp only [Set.mem_inter_iff, @mem_den_cons ov ovs]
    constructor
    · rintro ⟨h1, h2⟩
      exact ⟨h1, .inr h2⟩
    · rintro ⟨h1, h2 | h2⟩
      · have := hx.start_le_of_mem h1
        omega
      · exact ⟨h1, h2⟩
  | case4 iv ivs ov ovs hgt hlt ih =>
    -- `iv` ends before `ov` starts, so before everything the other side has left.
    intro hx hy
    rw [intersectLoop, if_neg hgt, if_pos hlt]
    rw [Int64.lt_iff_toInt_lt] at hlt
    obtain ⟨hgap, hden⟩ := ih hx.tail hy
    refine ⟨hgap, ?_⟩
    rw [hden]
    ext x
    simp only [Set.mem_inter_iff, @mem_den_cons iv ivs]
    constructor
    · rintro ⟨h1, h2⟩
      exact ⟨.inr h1, h2⟩
    · rintro ⟨h1 | h1, h2⟩
      · have := hy.start_le_of_mem h2
        omega
      · exact ⟨h1, h2⟩
  | case5 iv ivs ov ovs hgt hlt ih1 ih2 =>
    intro hx hy
    rw [intersectLoop, if_neg hgt, if_neg hlt]
    rw [gt_iff_lt, Int64.lt_iff_toInt_lt, not_lt] at hgt
    rw [Int64.lt_iff_toInt_lt, not_lt] at hlt
    have hivwf := (gapped_cons_iff.mp hx).1
    have hovwf := (gapped_cons_iff.mp hy).1
    by_cases hend : iv.stop > ov.stop
    · -- `ov` ends first: the rest of the other side lies past the overlap's end.
      rw [if_pos hend]
      rw [gt_iff_lt, Int64.lt_iff_toInt_lt] at hend
      obtain ⟨hgap, hden⟩ := ih1 hx hy.tail
      refine ⟨gapped_cons_iff.mpr ⟨?_, ?_, hgap⟩, ?_⟩
      · simp only [toInt_maxInt64, toInt_minInt64]
        omega
      · intro p hp
        obtain ⟨-, y, hy', hle⟩ := intersectLoop_lower _ _ p hp
        have := (gapped_cons_iff.mp hy).2.1 y hy'
        simp only [toInt_minInt64]
        omega
      · ext x
        rw [← List.singleton_append, den_append, hden]
        simp only [Set.mem_union, Set.mem_inter_iff, mem_den_overlap, @mem_den_cons ov ovs]
        constructor
        · rintro (⟨h1, h2⟩ | ⟨h1, h2⟩)
          · exact ⟨mem_den_cons.mpr (.inl h1), .inl h2⟩
          · exact ⟨h1, .inr h2⟩
        · rintro ⟨h1, h2 | h2⟩
          · rcases mem_den_cons.mp h1 with h1 | h1
            · exact .inl ⟨h1, h2⟩
            · have := hx.lt_of_mem_tail h1
              omega
          · exact .inr ⟨h1, h2⟩
    · -- `iv` ends first: the rest of the receiver lies past the overlap's end.
      rw [if_neg hend]
      rw [gt_iff_lt, Int64.lt_iff_toInt_lt, not_lt] at hend
      obtain ⟨hgap, hden⟩ := ih2 hx.tail hy
      refine ⟨gapped_cons_iff.mpr ⟨?_, ?_, hgap⟩, ?_⟩
      · simp only [toInt_maxInt64, toInt_minInt64]
        omega
      · intro p hp
        obtain ⟨⟨x, hx', hle⟩, -⟩ := intersectLoop_lower _ _ p hp
        have := (gapped_cons_iff.mp hx).2.1 x hx'
        simp only [toInt_minInt64]
        omega
      · ext x
        rw [← List.singleton_append, den_append, hden]
        simp only [Set.mem_union, Set.mem_inter_iff, mem_den_overlap, @mem_den_cons iv ivs]
        constructor
        · rintro (⟨h1, h2⟩ | ⟨h1, h2⟩)
          · exact ⟨.inl h1, mem_den_cons.mpr (.inl h2)⟩
          · exact ⟨.inr h1, h2⟩
        · rintro ⟨h1 | h1, h2⟩
          · rcases mem_den_cons.mp h2 with h2 | h2
            · exact .inl ⟨h1, h2⟩
            · have := hy.lt_of_mem_tail h2
              omega
          · exact .inr ⟨h1, h2⟩

/-! ## The map -/

theorem lookup_intersect (set other : Mysql56GTIDSet) (sid : SID) :
    (set.intersect other).lookup sid =
      match set.lookup sid, other.lookup sid with
      | some intervals, some otherIntervals =>
        if intersectLoop intervals otherIntervals = [] then none
        else some (intersectLoop intervals otherIntervals)
      | _, _ => none := by
  unfold Mysql56GTIDSet.intersect
  rw [AList.lookup_filterMapVals]
  cases set.lookup sid <;> cases other.lookup sid <;> rfl

theorem intervalsOf_intersect (set other : Mysql56GTIDSet) (sid : SID) :
    (set.intersect other).intervalsOf sid =
      match set.lookup sid, other.lookup sid with
      | some intervals, some otherIntervals => intersectLoop intervals otherIntervals
      | _, _ => [] := by
  unfold Mysql56GTIDSet.intervalsOf
  rw [lookup_intersect]
  cases set.lookup sid <;> cases other.lookup sid <;> try rfl
  rename_i intervals otherIntervals
  by_cases hne : intersectLoop intervals otherIntervals = []
  · simp only [hne, if_true, Option.getD_none]
  · simp only [hne, if_false, Option.getD_some]

/-- The intersection of two canonical sets is canonical: the walk keeps the gaps, the
starts stay positive because they are covered by both sides, and empty walks are dropped. -/
theorem intersect_canonical {set other : Mysql56GTIDSet} (hs : set.Canonical)
    (ho : other.Canonical) : (set.intersect other).Canonical := by
  intro sid ivs h
  rw [lookup_intersect] at h
  cases hl : set.lookup sid with
  | none => simp only [hl, reduceCtorEq] at h
  | some intervals =>
    cases hr : other.lookup sid with
    | none => simp only [hl, hr, reduceCtorEq] at h
    | some otherIntervals =>
      simp only [hl, hr] at h
      have hcs := hs sid _ hl
      obtain ⟨hgap, hden⟩ := intersectLoop_spec _ _ hcs.gapped (ho sid _ hr).gapped
      by_cases hne : intersectLoop intervals otherIntervals = []
      · simp only [hne, if_true, reduceCtorEq] at h
      · rw [if_neg hne, Option.some.injEq] at h
        subst h
        refine Canonical.of_den hgap (fun x hx => ?_) hne
        rw [hden] at hx
        exact hcs.one_le_of_mem hx.1

/-- The intersection of two canonical sets means the intersection of what they mean. -/
theorem den_intersect {set other : Mysql56GTIDSet} (hs : set.Canonical)
    (ho : other.Canonical) : (set.intersect other).den = set.den ∩ other.den := by
  ext ⟨sid, n⟩
  rw [Set.mem_inter_iff, Mysql56GTIDSet.mem_den, Mysql56GTIDSet.mem_den,
    Mysql56GTIDSet.mem_den, intervalsOf_intersect]
  unfold Mysql56GTIDSet.intervalsOf
  cases hl : set.lookup sid <;> cases hr : other.lookup sid
  · simp
  · simp
  · simp
  · rw [(intersectLoop_spec _ _ (hs sid _ hl).gapped (ho sid _ hr).gapped).2]
    rfl

/-- Intersecting canonical sets one after the other, as `CompressWithGtidSets` does, gives a
canonical set that means what all of them mean together. -/
theorem foldl_intersect_canonical : ∀ {rest : List Mysql56GTIDSet} {first : Mysql56GTIDSet},
    first.Canonical → (∀ set ∈ rest, set.Canonical) →
      (rest.foldl Mysql56GTIDSet.intersect first).Canonical ∧
        (rest.foldl Mysql56GTIDSet.intersect first).den = {p | p ∈ first.den ∧ ∀ set ∈ rest, p ∈ set.den}
  | [], first, hfirst, _ => ⟨hfirst, by ext p; simp⟩
  | set :: rest, first, hfirst, hrest => by
    have hset := hrest set List.mem_cons_self
    obtain ⟨hcan, hden⟩ := foldl_intersect_canonical (intersect_canonical hfirst hset)
      (fun s hs => hrest s (List.mem_cons_of_mem _ hs))
    refine ⟨hcan, ?_⟩
    rw [List.foldl_cons, hden, den_intersect hfirst hset]
    ext p
    simp only [Set.mem_ofPred_eq, Set.mem_inter_iff, List.mem_cons, forall_eq_or_imp, and_assoc]

end Wescale.Mysql
