import Mathlib
import Wescale.Mysql.GtidSet.Basic

/-!
# `Mysql56GTIDSet.Difference` (`go/mysql/mysql56_gtid_set.go`)

For a server id both sets hold, `Difference` walks the receiver's intervals and the other
set's with two cursors. `diffIntervals` collects the output; its last element `iv` is the
receiver's interval under comparison, and `otherInterval` the other set's. Six cases compare
them: `iv` wholly before (keep it, advance), wholly after (advance the other), inside (drop
it, advance), overlapping the other's start (cut its end, advance), overlapping the other's
end (cut its start, advance the other), or around it (split in two, advance the other). A
failed advance ends the loop, and what is left of the receiver's intervals is appended.

## What is proved

- `diffLoop_spec`: when the receiver's intervals do not overlap one another and the other
  set's are sorted by start, the loop never reaches the `default` panic, and it keeps exactly
  the receiver's integers that no interval of the other set covers.
- `difference_spec`: the same for the map, under the same conditions on every server id.

Neither side needs to be merged: the other set's intervals may overlap, and the receiver's may
touch. Overlapping intervals on the receiver's side are another matter (see `Subtract`).
-/

set_option autoImplicit false

namespace Wescale.Mysql

/-- The labelled loop `diffLoop`. `diffIntervals` is kept as `front ++ [iv]`: it is never empty
at the top of the loop, since every way into the loop has just appended to it. The result is
`diffIntervals` and what is left of `intervals` at the `break`; `none` is the `default` panic. -/
def diffLoop (front : List Interval) (iv otherInterval : Interval)
    (intervals otherIntervals : List Interval) : Option (List Interval × List Interval) :=
  if iv.stop < otherInterval.start then
    -- `[1, 2] - [3, 5]`: keep `iv` whole and advance
    match intervals with
    | [] => some (front ++ [iv], [])
    | next :: rest => diffLoop (front ++ [iv]) next otherInterval rest otherIntervals
  else if iv.start > otherInterval.stop then
    -- `[3, 5] - [1, 2]`: advance the other
    match otherIntervals with
    | [] => some (front ++ [iv], intervals)
    | o :: rest => diffLoop front iv o intervals rest
  else if iv.start ≥ otherInterval.start ∧ iv.stop ≤ otherInterval.stop then
    -- `[3, 4] - [1, 5]`: pop `iv` and advance
    match intervals with
    | [] => some (front, [])
    | next :: rest => diffLoop front next otherInterval rest otherIntervals
  else if iv.start < otherInterval.start ∧ iv.stop ≥ otherInterval.start ∧
      iv.stop ≤ otherInterval.stop then
    -- `[1, 4] - [3, 5]`: cut the end of `iv` and advance
    let cut := { iv with stop := otherInterval.start - 1 }
    match intervals with
    | [] => some (front ++ [cut], [])
    | next :: rest => diffLoop (front ++ [cut]) next otherInterval rest otherIntervals
  else if iv.start ≥ otherInterval.start ∧ iv.start ≤ otherInterval.stop ∧
      iv.stop > otherInterval.stop then
    -- `[3, 7] - [1, 5]`: cut the start of `iv` and advance the other
    let cut := { iv with start := otherInterval.stop + 1 }
    match otherIntervals with
    | [] => some (front ++ [cut], intervals)
    | o :: rest => diffLoop front cut o intervals rest
  else if iv.start < otherInterval.start ∧ iv.stop > otherInterval.stop then
    -- `[1, 7] - [3, 4]`: split `iv` around the other and advance the other
    let front' := front ++ [{ iv with stop := otherInterval.start - 1 }]
    let cut : Interval := ⟨otherInterval.stop + 1, iv.stop⟩
    match otherIntervals with
    | [] => some (front' ++ [cut], intervals)
    | o :: rest => diffLoop front' cut o intervals rest
  else none
termination_by intervals.length + otherIntervals.length

/-- `Difference` for one server id of the receiver, with the other set's list for it if any.
The outer `none` is a panic; an inner `none` writes no entry. -/
def differenceIntervals (intervals : List Interval) (other : Option (List Interval)) :
    Option (Option (List Interval)) :=
  match other with
  | none => some (some intervals)
  | some otherIntervals =>
    match intervals with
    -- `if !advance() { continue }`
    | [] => some none
    | first :: rest =>
      match otherIntervals with
      -- `differenceSet[sid] = intervals` after `advance()` took the first interval off
      | [] => some (some rest)
      | o :: orest =>
        (diffLoop [] first o rest orest).map fun r =>
          -- the rest of `intervals` is appended; an empty result deletes the entry
          if r.1 ++ r.2 = [] then none else some (r.1 ++ r.2)

/-- `Difference`: one pass over the receiver; a panic anywhere is a panic of the call. -/
def Mysql56GTIDSet.difference (set other : Mysql56GTIDSet) : Option Mysql56GTIDSet :=
  set.filterMapValsOpt fun sid intervals => differenceIntervals intervals (other.lookup sid)

/-! ## The lists the loop is specified for -/

/-- Read in order, each interval of the list ends before the next starts: no two of them
overlap, though they may touch. -/
def NonOverlapping (ivs : List Interval) : Prop :=
  ivs.Pairwise fun a b => a.stop.toInt < b.start.toInt

instance (ivs : List Interval) : Decidable (NonOverlapping ivs) :=
  inferInstanceAs (Decidable (List.Pairwise _ ivs))

/-- The state of the loop that its specification needs: the receiver's intervals still to
come do not overlap, the other set's are sorted by start, and all are positive. -/
structure DiffInv (front : List Interval) (iv otherInterval : Interval)
    (intervals otherIntervals : List Interval) : Prop where
  front_pos : Positive front
  pos : Positive (iv :: intervals)
  nonOverlapping : NonOverlapping (iv :: intervals)
  other_pos : Positive (otherInterval :: otherIntervals)
  other_sorted : SortedByStart (otherInterval :: otherIntervals)

variable {front front' intervals rest otherIntervals : List Interval}
  {iv iv' next otherInterval o : Interval} {x : Int}

theorem DiffInv.iv_pos (h : DiffInv front iv otherInterval intervals otherIntervals) :
    1 ≤ iv.start.toInt ∧ iv.start.toInt ≤ iv.stop.toInt :=
  (positive_cons.mp h.pos).1

theorem DiffInv.other_pos_head (h : DiffInv front iv otherInterval intervals otherIntervals) :
    1 ≤ otherInterval.start.toInt ∧ otherInterval.start.toInt ≤ otherInterval.stop.toInt :=
  (positive_cons.mp h.other_pos).1

/-- `advance()`: the receiver's next interval comes under comparison. -/
theorem DiffInv.advance (h : DiffInv front iv otherInterval (next :: rest) otherIntervals)
    (hfront : Positive front') : DiffInv front' next otherInterval rest otherIntervals :=
  ⟨hfront, (positive_cons.mp h.pos).2, h.nonOverlapping.of_cons, h.other_pos, h.other_sorted⟩

/-- `advanceOther()`, with `iv` replaced by a piece of itself that ends where it did. -/
theorem DiffInv.advanceOther (h : DiffInv front iv otherInterval intervals (o :: otherIntervals))
    (hfront : Positive front') (hiv : 1 ≤ iv'.start.toInt ∧ iv'.start.toInt ≤ iv'.stop.toInt)
    (hstop : iv'.stop.toInt = iv.stop.toInt) : DiffInv front' iv' o intervals otherIntervals := by
  have hnon := List.pairwise_cons.mp h.nonOverlapping
  refine ⟨hfront, positive_cons.mpr ⟨hiv, (positive_cons.mp h.pos).2⟩, ?_,
    (positive_cons.mp h.other_pos).2, h.other_sorted.of_cons⟩
  exact List.pairwise_cons.mpr ⟨fun b hb => hstop ▸ hnon.1 b hb, hnon.2⟩

/-! ## What each case of the loop removes -/

/-- Nothing below the first start of a list sorted by start is covered by the list. -/
theorem not_mem_den_of_lt_start (hs : SortedByStart (o :: otherIntervals))
    (hx : x < o.start.toInt) : x ∉ den (o :: otherIntervals) := by
  rw [mem_den]
  rintro ⟨y, hy, hyx, -⟩
  rcases List.mem_cons.mp hy with rfl | hy
  · omega
  · have := List.rel_of_pairwise_cons hs hy
    omega

/-- Everything the intervals after `iv` cover lies past the end of `iv`. -/
theorem lt_of_mem_den_tail (h : NonOverlapping (iv :: intervals)) (hx : x ∈ den intervals) :
    iv.stop.toInt < x := by
  obtain ⟨y, hy, hyx, -⟩ := mem_den.mp hx
  have := List.rel_of_pairwise_cons h hy
  omega

theorem mem_den_singleton {iv : Interval} :
    x ∈ den [iv] ↔ iv.start.toInt ≤ x ∧ x ≤ iv.stop.toInt := by
  simp

theorem den_cons_diff (iv : Interval) (ivs : List Interval) (O : Set Int) :
    den (iv :: ivs) \ O = (den [iv] \ O) ∪ (den ivs \ O) := by
  rw [den_cons, Set.union_sdiff_distrib]

theorem diff_den_cons (A : Set Int) (o : Interval) (otherIntervals : List Interval) :
    A \ den (o :: otherIntervals) = (A \ den [o]) \ den otherIntervals := by
  rw [den_cons, Set.sdiff_sdiff]

/-- The intervals after `iv` miss an interval that ends before `iv` does. -/
theorem den_tail_diff (h : NonOverlapping (iv :: intervals))
    (hle : o.stop.toInt ≤ iv.stop.toInt) : den intervals \ den [o] = den intervals := by
  refine Disjoint.sdiff_eq_left (Set.disjoint_left.mpr fun x hx ho => ?_)
  have := lt_of_mem_den_tail h hx
  rw [mem_den_singleton] at ho
  omega

/-- Case `[1, 2] - [3, 5]`: `iv` is kept whole. -/
theorem diff_of_stop_lt (hs : SortedByStart (otherInterval :: otherIntervals))
    (hlt : iv.stop.toInt < otherInterval.start.toInt) :
    den (iv :: intervals) \ den (otherInterval :: otherIntervals) =
      den [iv] ∪ (den intervals \ den (otherInterval :: otherIntervals)) := by
  rw [den_cons_diff, Disjoint.sdiff_eq_left (Set.disjoint_left.mpr fun x hx => ?_)]
  rw [mem_den_singleton] at hx
  exact not_mem_den_of_lt_start hs (by omega)

/-- Case `[3, 5] - [1, 2]`: the other interval covers nothing still to come. -/
theorem diff_of_stop_lt_start (h : DiffInv front iv otherInterval intervals otherIntervals)
    (hlt : otherInterval.stop.toInt < iv.start.toInt) :
    den (iv :: intervals) \ den (otherInterval :: otherIntervals) =
      den (iv :: intervals) \ den otherIntervals := by
  have hiv := (positive_cons.mp h.pos).1
  have hfar : den [iv] \ den [otherInterval] = den [iv] := by
    refine Disjoint.sdiff_eq_left (Set.disjoint_left.mpr fun x hx ho => ?_)
    rw [mem_den_singleton] at hx ho
    omega
  rw [diff_den_cons, den_cons_diff, den_tail_diff h.nonOverlapping (by omega), hfar, ← den_cons]

/-- Case `[3, 4] - [1, 5]`: `iv` is dropped whole. -/
theorem diff_of_inside (hin : otherInterval.start.toInt ≤ iv.start.toInt ∧
      iv.stop.toInt ≤ otherInterval.stop.toInt) :
    den (iv :: intervals) \ den (otherInterval :: otherIntervals) =
      den intervals \ den (otherInterval :: otherIntervals) := by
  have hsub : den [iv] ⊆ den (otherInterval :: otherIntervals) := by
    intro x hx
    rw [mem_den_singleton] at hx
    exact mem_den_cons.mpr (.inl (by omega))
  rw [den_cons_diff, Set.sdiff_eq_empty.mpr hsub, Set.empty_union]

/-- Case `[1, 4] - [3, 5]`: the end of `iv` is cut at the other interval's start. -/
theorem diff_of_overlap_start (hs : SortedByStart (otherInterval :: otherIntervals))
    (hc : iv.start.toInt < otherInterval.start.toInt ∧
      otherInterval.start.toInt ≤ iv.stop.toInt ∧ iv.stop.toInt ≤ otherInterval.stop.toInt) :
    den (iv :: intervals) \ den (otherInterval :: otherIntervals) =
      den [{ iv with stop := otherInterval.start - 1 }] ∪
        (den intervals \ den (otherInterval :: otherIntervals)) := by
  have hcut := Int64.toInt_sub_one_of_lt_toInt hc.1
  rw [den_cons_diff]
  congr 1
  ext x
  simp only [Set.mem_sdiff, mem_den_singleton, hcut]
  constructor
  · rintro ⟨hx, hnot⟩
    refine ⟨hx.1, ?_⟩
    by_contra hge
    exact hnot (mem_den_cons.mpr (.inl (by omega)))
  · intro hx
    exact ⟨by omega, not_mem_den_of_lt_start hs (by omega)⟩

/-- Case `[3, 7] - [1, 5]`: the start of `iv` is cut past the other interval's end. -/
theorem diff_of_overlap_stop (h : DiffInv front iv otherInterval intervals otherIntervals)
    (hc : otherInterval.start.toInt ≤ iv.start.toInt ∧
      iv.start.toInt ≤ otherInterval.stop.toInt ∧ otherInterval.stop.toInt < iv.stop.toInt) :
    den (iv :: intervals) \ den (otherInterval :: otherIntervals) =
      den ({ iv with start := otherInterval.stop + 1 } :: intervals) \ den otherIntervals := by
  have hcut := Int64.toInt_add_one_of_lt_toInt hc.2.2
  have hpiece : den [iv] \ den [otherInterval] = den [{ iv with start := otherInterval.stop + 1 }] := by
    ext x
    simp only [Set.mem_sdiff, mem_den_singleton, hcut]
    omega
  rw [diff_den_cons, den_cons_diff, den_tail_diff h.nonOverlapping hc.2.2.le, hpiece, ← den_cons]

/-- Case `[1, 7] - [3, 4]`: `iv` is split around the other interval. -/
theorem diff_of_around (h : DiffInv front iv otherInterval intervals otherIntervals)
    (hc : iv.start.toInt < otherInterval.start.toInt ∧
      otherInterval.stop.toInt < iv.stop.toInt) :
    den (iv :: intervals) \ den (otherInterval :: otherIntervals) =
      den [{ iv with stop := otherInterval.start - 1 }] ∪
        (den (⟨otherInterval.stop + 1, iv.stop⟩ :: intervals) \ den otherIntervals) := by
  have hpre := Int64.toInt_sub_one_of_lt_toInt hc.1
  have hpost := Int64.toInt_add_one_of_lt_toInt hc.2
  have ho := (positive_cons.mp h.other_pos).1
  have hsplit : den [iv] \ den [otherInterval] =
      den [{ iv with stop := otherInterval.start - 1 }] ∪ den [⟨otherInterval.stop + 1, iv.stop⟩] := by
    ext x
    simp only [Set.mem_sdiff, Set.mem_union, mem_den_singleton, hpre, hpost]
    omega
  -- the piece before the other interval is below every later interval of the other set
  have hfar : den [{ iv with stop := otherInterval.start - 1 }] \ den otherIntervals =
      den [{ iv with stop := otherInterval.start - 1 }] := by
    refine Disjoint.sdiff_eq_left (Set.disjoint_left.mpr fun x hx hx' => ?_)
    simp only [mem_den_singleton, hpre] at hx
    exact not_mem_den_of_lt_start h.other_sorted (by omega) (mem_den_cons.mpr (.inr hx'))
  rw [diff_den_cons, den_cons_diff, den_tail_diff h.nonOverlapping hc.2.le, hsplit, Set.union_assoc,
    Set.union_sdiff_distrib, hfar, ← den_cons]

/-- The piece of `iv` before the other interval's start is positive. -/
theorem positive_cut_stop (hiv : 1 ≤ iv.start.toInt ∧ iv.start.toInt ≤ iv.stop.toInt)
    (hlt : iv.start.toInt < o.start.toInt) :
    Positive [{ iv with stop := o.start - 1 }] := by
  have := Int64.toInt_sub_one_of_lt_toInt hlt
  refine positive_cons.mpr ⟨?_, List.forall_mem_nil _⟩
  simp only [this]
  omega

/-- The piece of `iv` past the other interval's end is positive. -/
theorem positive_cut_start (ho : 1 ≤ o.start.toInt ∧ o.start.toInt ≤ o.stop.toInt)
    (hlt : o.stop.toInt < iv.stop.toInt) :
    1 ≤ (o.stop + 1).toInt ∧ (o.stop + 1).toInt ≤ iv.stop.toInt := by
  rw [Int64.toInt_add_one_of_lt_toInt hlt]
  omega

/-! ## The loop -/

/-- The loop's contract. From a state of `DiffInv` it never reaches the `default` panic, and
what it returns is positive and covers the pieces already emitted together with exactly the
receiver's integers still to come that no interval of the other set still to come covers. -/
theorem diffLoop_spec :
    DiffInv front iv otherInterval intervals otherIntervals →
    ∃ diffIntervals left,
      diffLoop front iv otherInterval intervals otherIntervals = some (diffIntervals, left) ∧
      Positive (diffIntervals ++ left) ∧
      den (diffIntervals ++ left) =
        den front ∪ (den (iv :: intervals) \ den (otherInterval :: otherIntervals)) := by
  fun_induction diffLoop front iv otherInterval intervals otherIntervals with
  | case1 front iv o others hlt =>
    intro h
    refine ⟨front ++ [iv], [], rfl, by simpa using h.front_pos.append_singleton h.iv_pos, ?_⟩
    rw [diff_of_stop_lt h.other_sorted (Int64.lt_iff_toInt_lt.mp hlt), List.append_nil, den_append,
      den_nil, Set.empty_sdiff, Set.union_empty]
  | case2 front iv o others hlt next rest ih =>
    intro h
    obtain ⟨d, l, hrun, hpos, hden⟩ := ih (h.advance (h.front_pos.append_singleton h.iv_pos))
    refine ⟨d, l, hrun, hpos, ?_⟩
    rw [hden, diff_of_stop_lt h.other_sorted (Int64.lt_iff_toInt_lt.mp hlt), den_append,
      Set.union_assoc]
  | case3 front iv o intervals _ hgt =>
    intro h
    refine ⟨front ++ [iv], intervals, rfl, ?_, ?_⟩
    · rw [List.append_assoc, List.singleton_append]
      exact positive_append.mpr ⟨h.front_pos, h.pos⟩
    · rw [diff_of_stop_lt_start h (Int64.lt_iff_toInt_lt.mp hgt), den_nil, Set.sdiff_empty,
        List.append_assoc, List.singleton_append, den_append]
  | case4 front iv o intervals _ hgt o' rest ih =>
    intro h
    obtain ⟨d, l, hrun, hpos, hden⟩ := ih (h.advanceOther h.front_pos h.iv_pos rfl)
    exact ⟨d, l, hrun, hpos, by rw [hden, diff_of_stop_lt_start h (Int64.lt_iff_toInt_lt.mp hgt)]⟩
  | case5 front iv o others _ _ hin =>
    intro h
    refine ⟨front, [], rfl, by simpa using h.front_pos, ?_⟩
    rw [diff_of_inside (by simpa only [ge_iff_le, Int64.le_iff_toInt_le] using hin), den_nil,
      Set.empty_sdiff, Set.union_empty, List.append_nil]
  | case6 front iv o others _ _ hin next rest ih =>
    intro h
    have hin' : o.start.toInt ≤ iv.start.toInt ∧ iv.stop.toInt ≤ o.stop.toInt := by
      simpa only [ge_iff_le, Int64.le_iff_toInt_le] using hin
    obtain ⟨d, l, hrun, hpos, hden⟩ := ih (h.advance h.front_pos)
    exact ⟨d, l, hrun, hpos, by rw [hden, diff_of_inside hin']⟩
  | case7 front iv o others _ _ _ hc cut =>
    intro h
    have hc' : iv.start.toInt < o.start.toInt ∧ o.start.toInt ≤ iv.stop.toInt ∧
        iv.stop.toInt ≤ o.stop.toInt := by
      simpa only [ge_iff_le, Int64.lt_iff_toInt_lt, Int64.le_iff_toInt_le] using hc
    refine ⟨front ++ [cut], [], rfl, ?_, ?_⟩
    · simpa using positive_append.mpr ⟨h.front_pos, positive_cut_stop h.iv_pos hc'.1⟩
    · rw [diff_of_overlap_start h.other_sorted hc', List.append_nil, den_append, den_nil,
        Set.empty_sdiff, Set.union_empty]
  | case8 front iv o others _ _ _ hc cut next rest ih =>
    intro h
    have hc' : iv.start.toInt < o.start.toInt ∧ o.start.toInt ≤ iv.stop.toInt ∧
        iv.stop.toInt ≤ o.stop.toInt := by
      simpa only [ge_iff_le, Int64.lt_iff_toInt_lt, Int64.le_iff_toInt_le] using hc
    obtain ⟨d, l, hrun, hpos, hden⟩ :=
      ih (h.advance (positive_append.mpr ⟨h.front_pos, positive_cut_stop h.iv_pos hc'.1⟩))
    refine ⟨d, l, hrun, hpos, ?_⟩
    rw [hden, diff_of_overlap_start h.other_sorted hc', den_append, Set.union_assoc]
  | case9 front iv o intervals _ _ _ _ hc cut =>
    intro h
    have hc' : o.start.toInt ≤ iv.start.toInt ∧ iv.start.toInt ≤ o.stop.toInt ∧
        o.stop.toInt < iv.stop.toInt := by
      simpa only [ge_iff_le, gt_iff_lt, Int64.lt_iff_toInt_lt, Int64.le_iff_toInt_le] using hc
    refine ⟨front ++ [cut], intervals, rfl, ?_, ?_⟩
    · rw [List.append_assoc, List.singleton_append]
      exact positive_append.mpr ⟨h.front_pos, positive_cons.mpr
        ⟨positive_cut_start h.other_pos_head hc'.2.2, (positive_cons.mp h.pos).2⟩⟩
    · rw [diff_of_overlap_stop h hc', den_nil, Set.sdiff_empty, List.append_assoc,
        List.singleton_append, den_append]
  | case10 front iv o intervals _ _ _ _ hc cut o' rest ih =>
    intro h
    have hc' : o.start.toInt ≤ iv.start.toInt ∧ iv.start.toInt ≤ o.stop.toInt ∧
        o.stop.toInt < iv.stop.toInt := by
      simpa only [ge_iff_le, gt_iff_lt, Int64.lt_iff_toInt_lt, Int64.le_iff_toInt_le] using hc
    obtain ⟨d, l, hrun, hpos, hden⟩ :=
      ih (h.advanceOther h.front_pos (positive_cut_start h.other_pos_head hc'.2.2) rfl)
    exact ⟨d, l, hrun, hpos, by rw [hden, diff_of_overlap_stop h hc']⟩
  | case11 front iv o intervals _ _ _ _ _ hc front' cut =>
    intro h
    have hc' : iv.start.toInt < o.start.toInt ∧ o.stop.toInt < iv.stop.toInt := by
      simpa only [gt_iff_lt, Int64.lt_iff_toInt_lt] using hc
    have hfront' : Positive front' :=
      positive_append.mpr ⟨h.front_pos, positive_cut_stop h.iv_pos hc'.1⟩
    refine ⟨front' ++ [cut], intervals, rfl, ?_, ?_⟩
    · rw [List.append_assoc, List.singleton_append]
      exact positive_append.mpr ⟨hfront', positive_cons.mpr
        ⟨positive_cut_start h.other_pos_head hc'.2, (positive_cons.mp h.pos).2⟩⟩
    · rw [diff_of_around h hc', den_nil, Set.sdiff_empty, List.append_assoc, List.singleton_append,
        den_append, den_append, Set.union_assoc]
  | case12 front iv o intervals _ _ _ _ _ hc front' cut o' rest ih =>
    intro h
    have hc' : iv.start.toInt < o.start.toInt ∧ o.stop.toInt < iv.stop.toInt := by
      simpa only [gt_iff_lt, Int64.lt_iff_toInt_lt] using hc
    have hfront' : Positive front' :=
      positive_append.mpr ⟨h.front_pos, positive_cut_stop h.iv_pos hc'.1⟩
    obtain ⟨d, l, hrun, hpos, hden⟩ :=
      ih (h.advanceOther hfront' (positive_cut_start h.other_pos_head hc'.2) rfl)
    refine ⟨d, l, hrun, hpos, ?_⟩
    rw [hden, diff_of_around h hc', den_append, Set.union_assoc]
  | case13 front iv o intervals others h1 h2 h3 h4 h5 h6 =>
    -- the six cases cover every pair of intervals, so the panic is never reached
    intro _
    simp only [gt_iff_lt, ge_iff_le, Int64.lt_iff_toInt_lt, Int64.le_iff_toInt_le, not_and,
      not_lt, not_le] at h1 h2 h3 h4 h5 h6
    omega

/-! ## One server id, and the map -/

/-- For one server id the receiver holds: no panic, and the entry written (if any) is
non-empty and positive and holds exactly the receiver's integers the other list misses. -/
theorem differenceIntervals_spec {intervals : List Interval} {other : Option (List Interval)}
    (hne : intervals ≠ []) (hpos : Positive intervals) (hnon : NonOverlapping intervals)
    (hother : ∀ ivs, other = some ivs → ivs ≠ [] ∧ SortedByStart ivs ∧ Positive ivs) :
    ∃ r, differenceIntervals intervals other = some r ∧
      (∀ ivs, r = some ivs → ivs ≠ [] ∧ Positive ivs) ∧
      den (r.getD []) = den intervals \ den (other.getD []) := by
  cases other with
  | none =>
    refine ⟨some intervals, rfl, ?_, by simp⟩
    rintro ivs ⟨⟩
    exact ⟨hne, hpos⟩
  | some otherIntervals =>
    obtain ⟨hone, hosorted, hopos⟩ := hother otherIntervals rfl
    obtain ⟨first, rest, rfl⟩ := List.exists_cons_of_ne_nil hne
    obtain ⟨o, orest, rfl⟩ := List.exists_cons_of_ne_nil hone
    obtain ⟨d, l, hrun, hdpos, hden⟩ :=
      diffLoop_spec ⟨List.forall_mem_nil _, hpos, hnon, hopos, hosorted⟩
    rw [den_nil, Set.empty_union] at hden
    -- an empty result deletes the entry
    by_cases hnil : d ++ l = []
    · refine ⟨none, ?_, by simp, ?_⟩
      · simp only [differenceIntervals, hrun, Option.map_some, if_pos hnil]
      rw [Option.getD_none, Option.getD_some, ← hden, hnil, den_nil]
    · refine ⟨some (d ++ l), ?_, ?_, ?_⟩
      · simp only [differenceIntervals, hrun, Option.map_some, if_neg hnil]
      · rintro ivs ⟨⟩
        exact ⟨hnil, hdpos⟩
      · rw [Option.getD_some, Option.getD_some, hden]

example : differenceIntervals [⟨1, 10⟩, ⟨12, 20⟩] (some [⟨5, 5⟩, ⟨9, 13⟩]) =
    some (some [⟨1, 4⟩, ⟨6, 8⟩, ⟨14, 20⟩]) := by
  simp [differenceIntervals, diffLoop]

namespace Mysql56GTIDSet

/-- No two intervals of a server id overlap. -/
def NonOverlapping (set : Mysql56GTIDSet) : Prop :=
  ∀ sid ivs, set.lookup sid = some ivs → Wescale.Mysql.NonOverlapping ivs

theorem nonOverlapping_iff_entries {set : Mysql56GTIDSet} :
    set.NonOverlapping ↔ ∀ e ∈ set.entries, Wescale.Mysql.NonOverlapping e.2 := by
  constructor
  · intro h e he
    exact h e.1 e.2 (AList.mem_lookup_iff.mpr he)
  · intro h sid ivs hl
    exact h ⟨sid, ivs⟩ (AList.mem_lookup_iff.mp hl)

instance (set : Mysql56GTIDSet) : Decidable set.NonOverlapping :=
  decidable_of_iff _ nonOverlapping_iff_entries.symm

/-- `Difference` of a set whose intervals do not overlap and a sorted set: no panic, and the
result is positive and holds exactly the GTIDs of the receiver that the other set lacks. -/
theorem difference_spec {set other : Mysql56GTIDSet} (hset : set.Positive)
    (hnon : set.NonOverlapping) (hother : other.Sorted) :
    ∃ diff, set.difference other = some diff ∧ diff.Positive ∧ diff.den = set.den \ other.den := by
  -- the entry of each server id the receiver holds
  have hentry : ∀ sid ivs, set.lookup sid = some ivs →
      ∃ r, differenceIntervals ivs (other.lookup sid) = some r ∧
        (∀ ivs', r = some ivs' → ivs' ≠ [] ∧ Wescale.Mysql.Positive ivs') ∧
        Wescale.Mysql.den (r.getD []) =
          Wescale.Mysql.den ivs \ Wescale.Mysql.den ((other.lookup sid).getD []) :=
    fun sid ivs hl => differenceIntervals_spec (hset sid ivs hl).1 (hset sid ivs hl).2
      (hnon sid ivs hl) fun ovs ho => hother sid ovs ho
  have hsome : (set.difference other).isSome := by
    apply AList.filterMapValsOpt_isSome
    intro sid ivs hl
    obtain ⟨r, hr, -⟩ := hentry sid ivs hl
    simp [hr]
  obtain ⟨diff, hdiff⟩ := Option.isSome_iff_exists.mp hsome
  have hlook := AList.lookup_of_filterMapValsOpt hdiff
  refine ⟨diff, hdiff, ?_, ?_⟩
  · intro sid ivs hl
    rw [hlook] at hl
    cases hs : set.lookup sid with
    | none => simp [hs] at hl
    | some ivs0 =>
      obtain ⟨r, hr, hrpos, -⟩ := hentry sid ivs0 hs
      simp only [hs, hr, Option.bind_some, Option.join_some] at hl
      exact hrpos ivs hl
  · ext ⟨sid, n⟩
    simp only [mem_den, Set.mem_sdiff, intervalsOf, hlook]
    cases hs : set.lookup sid with
    | none => simp
    | some ivs =>
      obtain ⟨r, hr, -, hden⟩ := hentry sid ivs hs
      simp only [Option.bind_some, hr, Option.join_some, hden, Set.mem_sdiff, Option.getD_some]

end Mysql56GTIDSet

end Wescale.Mysql
