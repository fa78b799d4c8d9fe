import Wescale.Mysql.GtidSet.Basic

/-!
# `Mysql56GTIDSet.Union` (`go/mysql/mysql56_gtid_set.go`, `Union` and `popInterval`)

For a server id present on both sides, `Union` runs a merge driven by `popInterval`: pop the
interval with the smaller start from the two stacks (the receiver's on a tie), and fold it
into the output list, whose last element is the *active* interval. An interval that ends
inside the active one is skipped, one that starts past the active one's end plus one opens
a new interval, and any other extends the active one. A server id present on one side only
keeps that side's list.

## What is proved

- `unionLoop_eq_foldl_merge` — the `popInterval` loop folds the step over `List.merge` of
  the two stacks: the pops come out in merge order.
- `foldl_unionStep` — the step, folded over any list sorted by start of non-empty
  intervals, keeps the output canonical and adds exactly what it folds in. The two inputs
  need not be canonical; sorted by start is enough.
- `unionIntervals_spec`, `unionIntervals_canonical` — the merge of two lists sorted by start
  is canonical and covers the union, and on canonical lists keeps the canonical form.
- `lookup_union` — the map-level result, server id by server id.

Go's `activeInterval.end+1` wraps at the top of `int64`. It is only evaluated once the next
interval ends past the active one, so the active one does not end at the top and the
successor does not wrap (`Int64.toInt_add_one_of_lt`).
-/

set_option autoImplicit false

namespace Wescale.Mysql

open Ranges

/-- `popInterval`: the earlier head of the two stacks by start, `s1`'s on a tie, with the
stacks that remain; `none` once both are empty. -/
def popInterval : List Interval → List Interval → Option (Interval × List Interval × List Interval)
  | [], [] => none
  | a :: s1, [] => some (a, s1, [])
  | [], b :: s2 => some (b, [], s2)
  | a :: s1, b :: s2 => if a.start ≤ b.start then some (a, s1, b :: s2) else some (b, a :: s1, s2)

theorem popInterval_length {s1 s2 s1' s2' : List Interval} {next : Interval}
    (h : popInterval s1 s2 = some (next, s1', s2')) :
    s1'.length + s2'.length < s1.length + s2.length := by
  unfold popInterval at h
  split at h
  · cases h
  · cases h; simp
  · cases h; simp
  · split at h <;> cases h <;> simp

/-- One pass of `Union`'s loop body: `newIntervals` with `nextInterval` folded in. The last
element of `newIntervals` is Go's `activeInterval`. -/
def unionStep (newIntervals : List Interval) (nextInterval : Interval) : List Interval :=
  match newIntervals.getLast? with
  | none => [nextInterval]
  | some activeInterval =>
    if nextInterval.stop ≤ activeInterval.stop then newIntervals
    else if nextInterval.start > activeInterval.stop + 1 then newIntervals ++ [nextInterval]
    else newIntervals.dropLast ++ [{ activeInterval with stop := nextInterval.stop }]

-- the match hypothesis is used by the termination proof only
set_option linter.unusedVariables false in
/-- `Union`'s loop for one server id: `for popInterval(&nextInterval, &s1, &s2) { ... }`. -/
def unionLoop (s1 s2 newIntervals : List Interval) : List Interval :=
  match h : popInterval s1 s2 with
  | none => newIntervals
  | some (nextInterval, s1', s2') => unionLoop s1' s2' (unionStep newIntervals nextInterval)
termination_by s1.length + s2.length
decreasing_by exact popInterval_length h

/-- The merged intervals of one server id present on both sides, receiver's first. -/
def unionIntervals (intervals otherIntervals : List Interval) : List Interval :=
  unionLoop intervals otherIntervals []

/-- `Union`: the first loop walks `other`, merging where the receiver has the server id
too; the second adds the receiver's server ids that `other` lacks, which is the map union
with the first loop's result taking priority. -/
def Mysql56GTIDSet.union (set other : Mysql56GTIDSet) : Mysql56GTIDSet :=
  other.filterMapVals (fun sid otherIntervals =>
      some (match set.lookup sid with
        | none => otherIntervals
        | some intervals => unionIntervals intervals otherIntervals)) ∪ set

/-! ## The pops come out in merge order -/

/-- The comparison `popInterval` makes: the receiver's head goes first unless it starts
strictly later. -/
def startLE (a b : Interval) : Bool := decide (a.start ≤ b.start)

theorem merge_of_popInterval {s1 s2 s1' s2' : List Interval} {next : Interval}
    (h : popInterval s1 s2 = some (next, s1', s2')) :
    s1.merge s2 startLE = next :: s1'.merge s2' startLE := by
  unfold popInterval at h
  split at h
  · cases h
  · cases h; simp
  · cases h; simp
  · rename_i a s1 b s2
    by_cases hab : a.start ≤ b.start
    · rw [if_pos hab] at h
      cases h
      exact List.cons_merge_cons_pos _ _ _ (by simp [startLE, hab])
    · rw [if_neg hab] at h
      cases h
      exact List.cons_merge_cons_neg _ _ _ (by simp [startLE, hab])

theorem unionLoop_eq_foldl_merge (s1 s2 newIntervals : List Interval) :
    unionLoop s1 s2 newIntervals = (s1.merge s2 startLE).foldl unionStep newIntervals := by
  fun_induction unionLoop s1 s2 newIntervals with
  | case1 s1 s2 acc h =>
    unfold popInterval at h
    split at h
    · simp
    all_goals first | cases h | (split at h <;> cases h)
  | case2 s1 s2 acc next s1' s2' h ih =>
    rw [ih, merge_of_popInterval h, List.foldl_cons]

/-! ## One step of the sweep -/

/-- The step on a non-empty output, with its three outcomes spelled out. -/
theorem unionStep_concat (done : List Interval) (active next : Interval) :
    unionStep (done ++ [active]) next =
      if next.stop ≤ active.stop then done ++ [active]
      else if next.start > active.stop + 1 then done ++ [active, next]
      else done ++ [{ active with stop := next.stop }] := by
  unfold unionStep
  rw [List.getLast?_concat]
  simp only [List.dropLast_concat, List.append_assoc, List.singleton_append]

/-- An interval that starts and ends inside `a` adds nothing to it. -/
theorem den_singleton_subset {a n : Interval} (hs : a.start.toInt ≤ n.start.toInt)
    (he : n.stop.toInt ≤ a.stop.toInt) : den [n] ⊆ den [a] := by
  intro x hx
  simp only [mem_den_cons, den_nil, Set.mem_empty_iff_false, or_false] at hx ⊢
  omega

/-- Extending `a` to the end of an interval that starts inside it or right after it
covers both. -/
theorem den_extend {a n : Interval} (hs : a.start.toInt ≤ n.start.toInt)
    (hgap : n.start.toInt ≤ a.stop.toInt + 1) (he : a.stop.toInt < n.stop.toInt) :
    den [{ a with stop := n.stop }] = den [a] ∪ den [n] := by
  ext x
  simp only [mem_den_cons, den_nil, Set.mem_empty_iff_false, or_false, Set.mem_union]
  omega

/-- Where the sweep stands: a canonical output whose active interval starts no later than
`bound`. -/
def SweepInv (acc : List Interval) (bound : Int) : Prop :=
  Ranges.Canonical (acc.map Interval.toRange) ∧ ∀ a ∈ acc.getLast?, a.start.toInt ≤ bound

theorem SweepInv.mono {acc : List Interval} {b b' : Int} (h : SweepInv acc b) (hb : b ≤ b') :
    SweepInv acc b' :=
  ⟨h.1, fun a ha => (h.2 a ha).trans hb⟩

/-- Folding one interval that starts no earlier than the active one: the output stays
canonical, its active interval starts no later than the folded one, and it covers exactly
one interval more. -/
theorem unionStep_spec {acc : List Interval} {next : Interval}
    (hacc : SweepInv acc next.start.toInt) (hnext : next.start.toInt ≤ next.stop.toInt) :
    SweepInv (unionStep acc next) next.start.toInt ∧
      den (unionStep acc next) = den acc ∪ den [next] := by
  obtain ⟨hcan, hlast⟩ := hacc
  rcases List.eq_nil_or_concat acc with rfl | ⟨done, active, rfl⟩
  · refine ⟨⟨?_, by simp [unionStep]⟩, by simp [unionStep]⟩
    simpa [unionStep] using
      (Canonical.cons_iff.mpr ⟨by simpa [Range.WF] using hnext, by simp, Canonical.nil⟩)
  simp only [List.concat_eq_append] at hcan hlast ⊢
  have hact : active.start.toInt ≤ next.start.toInt := hlast active (by simp)
  rw [List.map_append, List.map_singleton, Canonical.append_singleton_iff] at hcan
  obtain ⟨hdone, hactwf, hbefore⟩ := hcan
  simp only [Range.WF, Interval.toRange_lo, Interval.toRange_hi] at hactwf
  rw [unionStep_concat]
  by_cases hin : next.stop ≤ active.stop
  · -- The next interval ends inside the active one: nothing changes.
    rw [Int64.le_iff_toInt_le] at hin
    rw [if_pos (Int64.le_iff_toInt_le.mpr hin)]
    refine ⟨⟨?_, by simpa using hact⟩, ?_⟩
    · rw [List.map_append, List.map_singleton, Canonical.append_singleton_iff]
      exact ⟨hdone, hactwf, hbefore⟩
    · refine (Set.union_eq_left.mpr ?_).symm
      rw [den_append]
      exact (den_singleton_subset hact hin).trans Set.subset_union_right
  · rw [if_neg hin]
    rw [Int64.le_iff_toInt_le, not_le] at hin
    have hsucc : (active.stop + 1).toInt = active.stop.toInt + 1 :=
      Int64.toInt_add_one_of_lt_toInt hin
    by_cases hgap : next.start > active.stop + 1
    · -- A gap after the active interval: the next one opens a new interval.
      rw [if_pos hgap]
      rw [gt_iff_lt, Int64.lt_iff_toInt_lt, hsucc] at hgap
      refine ⟨⟨?_, by simp⟩, ?_⟩
      · rw [show done ++ [active, next] = (done ++ [active]) ++ [next] by simp,
          List.map_append, List.map_singleton, Canonical.append_singleton_iff,
          List.map_append, List.map_singleton, Canonical.append_singleton_iff]
        refine ⟨⟨hdone, hactwf, hbefore⟩, hnext, ?_⟩
        intro s hs
        rcases List.mem_append.mp hs with hs | hs
        · have := hbefore s hs
          simp only [Range.Before, Interval.toRange_lo] at this ⊢
          omega
        · rw [List.mem_singleton.mp hs]
          simp only [Range.Before, Interval.toRange_lo, Interval.toRange_hi]
          omega
      · rw [show done ++ [active, next] = (done ++ [active]) ++ [next] by simp, den_append]
    · -- The next interval touches or overlaps the active one: extend it.
      rw [if_neg hgap]
      rw [gt_iff_lt, Int64.lt_iff_toInt_lt, hsucc, not_lt] at hgap
      refine ⟨⟨?_, by simpa using hact⟩, ?_⟩
      · rw [List.map_append, List.map_singleton, Canonical.append_singleton_iff]
        refine ⟨hdone, Interval.wf_toRange_iff.mpr (show active.start.toInt ≤ next.stop.toInt by omega),
          fun s hs => ?_⟩
        have hs' := hbefore s hs
        rw [Interval.before_toRange_iff] at hs' ⊢
        exact hs'
      · rw [den_append, den_append, den_extend hact hgap hin, Set.union_assoc]

/-- The sweep folded over a list sorted by start of non-empty intervals, from an output
whose active interval starts no later than any of them. -/
theorem foldl_unionStep :
    ∀ {l : List Interval}, SortedByStart l → (∀ x ∈ l, x.start.toInt ≤ x.stop.toInt) →
      ∀ {acc : List Interval}, Ranges.Canonical (acc.map Interval.toRange) →
        (∀ a ∈ acc.getLast?, ∀ x ∈ l, a.start.toInt ≤ x.start.toInt) →
        Ranges.Canonical ((l.foldl unionStep acc).map Interval.toRange) ∧
          den (l.foldl unionStep acc) = den acc ∪ den l
  | [], _, _, acc, hcan, _ => ⟨hcan, by simp⟩
  | next :: l, hs, hwf, acc, hcan, hlast => by
    obtain ⟨hhead, htail⟩ := List.pairwise_cons.mp hs
    obtain ⟨⟨hcan', hlast'⟩, hden⟩ :=
      unionStep_spec ⟨hcan, fun a ha => hlast a ha next (by simp)⟩ (hwf next (by simp))
    obtain ⟨hfin, hfinden⟩ := foldl_unionStep htail (fun x hx => hwf x (by simp [hx])) hcan'
      (fun a ha x hx => (hlast' a ha).trans (hhead x hx))
    refine ⟨hfin, ?_⟩
    rw [List.foldl_cons, hfinden, hden, Set.union_assoc, ← den_append, List.singleton_append]

/-! ## The merge of two lists sorted by start -/

theorem sortedByStart_merge {s1 s2 : List Interval} (h1 : SortedByStart s1)
    (h2 : SortedByStart s2) : SortedByStart (s1.merge s2 startLE) := by
  have hp := @List.pairwise_merge Interval startLE
    (fun a b c hab hbc => by
      simp only [startLE, decide_eq_true_eq, Int64.le_iff_toInt_le] at hab hbc ⊢; omega)
    (fun a b => by
      simp only [startLE, Int64.le_iff_toInt_le, Bool.or_eq_true, decide_eq_true_eq]; omega)
    s1 s2
    (h1.imp fun h => by simpa [startLE, Int64.le_iff_toInt_le] using h)
    (h2.imp fun h => by simpa [startLE, Int64.le_iff_toInt_le] using h)
  exact hp.imp fun h => by simpa [startLE, Int64.le_iff_toInt_le] using h

theorem den_merge (s1 s2 : List Interval) : den (s1.merge s2 startLE) = den s1 ∪ den s2 := by
  ext x
  simp only [mem_den, Set.mem_union, (List.merge_perm_append startLE).mem_iff, List.mem_append]
  constructor
  · rintro ⟨iv, hiv | hiv, hx⟩
    · exact .inl ⟨iv, hiv, hx⟩
    · exact .inr ⟨iv, hiv, hx⟩
  · rintro (⟨iv, hiv, hx⟩ | ⟨iv, hiv, hx⟩)
    · exact ⟨iv, .inl hiv, hx⟩
    · exact ⟨iv, .inr hiv, hx⟩

/-- `unionIntervals` on two lists sorted by start of non-empty intervals: a canonical
list of the union. -/
theorem unionIntervals_spec {s1 s2 : List Interval} (h1 : SortedByStart s1)
    (h2 : SortedByStart s2) (hwf : ∀ x ∈ s1 ++ s2, x.start.toInt ≤ x.stop.toInt) :
    Ranges.Canonical ((unionIntervals s1 s2).map Interval.toRange) ∧
      den (unionIntervals s1 s2) = den s1 ∪ den s2 := by
  unfold unionIntervals
  rw [unionLoop_eq_foldl_merge]
  have hnil : Ranges.Canonical (([] : List Interval).map Interval.toRange) := by
    simpa using Canonical.nil
  obtain ⟨hcan, hden⟩ := foldl_unionStep (sortedByStart_merge h1 h2)
    (fun x hx => hwf x (List.mem_append.mpr (List.mem_merge.mp hx))) hnil (by simp)
  exact ⟨hcan, by rw [hden, den_nil, Set.empty_union, den_merge]⟩

/-- Merged into a canonical list, a gapped list of positive intervals, possibly empty, gives a
canonical list that covers the union. -/
theorem unionIntervals_canonical_of_gapped {s1 s2 : List Interval} (h1 : Canonical s1)
    (h2 : Gapped s2) (hpos2 : ∀ x ∈ den s2, 1 ≤ x) :
    Canonical (unionIntervals s1 s2) ∧ den (unionIntervals s1 s2) = den s1 ∪ den s2 := by
  have hwf : ∀ x ∈ s1 ++ s2, x.start.toInt ≤ x.stop.toInt := by
    intro x hx
    rcases List.mem_append.mp hx with hx | hx
    · exact h1.gapped.wf hx
    · exact h2.wf hx
  obtain ⟨hgap, hden⟩ := unionIntervals_spec h1.sortedByStart h2.sortedByStart hwf
  refine ⟨Canonical.of_den hgap ?_ ?_, hden⟩
  · intro x hx
    rw [hden] at hx
    rcases hx with hx | hx
    · exact h1.one_le_of_mem hx
    · exact hpos2 x hx
  · intro hnil
    obtain ⟨x, hx⟩ := h1.den_nonempty
    have : x ∈ den (unionIntervals s1 s2) := hden ▸ Set.mem_union_left _ hx
    rw [hnil, den_nil] at this
    exact this

/-- On canonical lists the merge is canonical and covers the union. -/
theorem unionIntervals_canonical {s1 s2 : List Interval} (h1 : Canonical s1)
    (h2 : Canonical s2) :
    Canonical (unionIntervals s1 s2) ∧ den (unionIntervals s1 s2) = den s1 ∪ den s2 :=
  unionIntervals_canonical_of_gapped h1 h2.gapped fun _ hx => h2.one_le_of_mem hx

/-! ## The map -/

/-- `Union`, server id by server id: merged where both sets hold the server id, copied
where only one does. -/
theorem lookup_union (set other : Mysql56GTIDSet) (sid : SID) :
    (set.union other).lookup sid =
      match set.lookup sid, other.lookup sid with
      | some intervals, some otherIntervals => some (unionIntervals intervals otherIntervals)
      | none, some otherIntervals => some otherIntervals
      | some intervals, none => some intervals
      | none, none => none := by
  unfold Mysql56GTIDSet.union
  cases ho : other.lookup sid with
  | none =>
    have hnot : sid ∉ other.filterMapVals (fun sid otherIntervals =>
        some (match set.lookup sid with
          | none => otherIntervals
          | some intervals => unionIntervals intervals otherIntervals)) := by
      rw [AList.mem_filterMapVals, ho]
      simp
    rw [AList.lookup_union_right hnot]
    cases set.lookup sid <;> rfl
  | some otherIntervals =>
    have hin : sid ∈ other.filterMapVals (fun sid otherIntervals =>
        some (match set.lookup sid with
          | none => otherIntervals
          | some intervals => unionIntervals intervals otherIntervals)) := by
      rw [AList.mem_filterMapVals, ho]
      simp
    rw [AList.lookup_union_left hin, AList.lookup_filterMapVals, ho]
    cases set.lookup sid <;> rfl

theorem intervalsOf_union (set other : Mysql56GTIDSet) (sid : SID) :
    (set.union other).intervalsOf sid =
      match set.lookup sid, other.lookup sid with
      | some intervals, some otherIntervals => unionIntervals intervals otherIntervals
      | none, some otherIntervals => otherIntervals
      | some intervals, none => intervals
      | none, none => [] := by
  unfold Mysql56GTIDSet.intervalsOf
  rw [lookup_union]
  cases set.lookup sid <;> cases other.lookup sid <;> rfl

/-- The union of two canonical sets is canonical. -/
theorem union_canonical {set other : Mysql56GTIDSet} (hs : set.Canonical)
    (ho : other.Canonical) : (set.union other).Canonical := by
  intro sid ivs h
  rw [lookup_union] at h
  cases hl : set.lookup sid <;> cases hr : other.lookup sid <;> rw [hl, hr] at h <;> cases h
  · exact ho sid _ hr
  · exact hs sid _ hl
  · exact (unionIntervals_canonical (hs sid _ hl) (ho sid _ hr)).1

/-- The union of two canonical sets means the union of what they mean. -/
theorem den_union {set other : Mysql56GTIDSet} (hs : set.Canonical) (ho : other.Canonical) :
    (set.union other).den = set.den ∪ other.den := by
  ext ⟨sid, n⟩
  rw [Set.mem_union, Mysql56GTIDSet.mem_den, Mysql56GTIDSet.mem_den,
    Mysql56GTIDSet.mem_den, intervalsOf_union]
  unfold Mysql56GTIDSet.intervalsOf
  cases hl : set.lookup sid <;> cases hr : other.lookup sid
  · simp
  · simp
  · simp
  · rw [(unionIntervals_canonical (hs sid _ hl) (ho sid _ hr)).2]
    rfl

/-- The union with a set whose server ids the receiver all holds, with gapped lists of
positive intervals (possibly empty): canonical, and the union of what the two mean. -/
theorem union_canonical_of_sub {set other : Mysql56GTIDSet} (hs : set.Canonical)
    (ho : other.Gapped) (hpos : ∀ sid n, (sid, n) ∈ other.den → 1 ≤ n)
    (hsub : ∀ sid ivs, other.lookup sid = some ivs → ∃ ivs', set.lookup sid = some ivs') :
    (set.union other).Canonical ∧ (set.union other).den = set.den ∪ other.den := by
  -- where the receiver holds the server id, the merge is canonical and covers both
  have hboth : ∀ sid ivs otherIvs, set.lookup sid = some ivs → other.lookup sid = some otherIvs →
      Canonical (unionIntervals ivs otherIvs) ∧
        den (unionIntervals ivs otherIvs) = den ivs ∪ den otherIvs := by
    intro sid ivs otherIvs hl hr
    refine unionIntervals_canonical_of_gapped (hs sid _ hl) (ho sid _ hr) fun n hn => hpos sid n ?_
    rw [Mysql56GTIDSet.mem_den, Mysql56GTIDSet.intervalsOf, hr]
    exact hn
  refine ⟨?_, ?_⟩
  · intro sid ivs h
    rw [lookup_union] at h
    cases hl : set.lookup sid <;> cases hr : other.lookup sid <;> rw [hl, hr] at h <;> cases h
    · obtain ⟨_, hsome⟩ := hsub sid _ hr
      rw [hl] at hsome
      cases hsome
    · exact hs sid _ hl
    · exact (hboth sid _ _ hl hr).1
  · ext ⟨sid, n⟩
    rw [Set.mem_union, Mysql56GTIDSet.mem_den, Mysql56GTIDSet.mem_den,
      Mysql56GTIDSet.mem_den, intervalsOf_union]
    unfold Mysql56GTIDSet.intervalsOf
    cases hl : set.lookup sid <;> cases hr : other.lookup sid
    · simp
    · obtain ⟨_, hsome⟩ := hsub sid _ hr
      rw [hl] at hsome
      cases hsome
    · simp
    · rw [(hboth sid _ _ hl hr).2]
      rfl

end Wescale.Mysql
