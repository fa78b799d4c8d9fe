import Wescale.Mysql.GtidSet.Difference
import Wescale.Mysql.GtidSet.Format
import Wescale.Mysql.GtidSet.Parsed

/-!
# `Subtract` (`go/mysql/mysql56_gtid_set.go`) and the errant GTIDs of vtorc

`Subtract(lhs, rhs)` parses both texts, takes `Difference` and prints the result with
`String`. vtorc reports as errant the GTIDs of `Subtract(executed, primaryExecuted)`.

## What is proved

- `subtract_spec`: when no two intervals that the parser keeps for a server id of `lhs`
  overlap, `Subtract` succeeds, and its text means exactly the GTIDs of `lhs` that `rhs`
  lacks. The intervals of `lhs` may touch, and those of `rhs` may overlap.
- `subtract_overlapping_of_sort`: the parser keeps `u:1-10:2-8` as two overlapping
  intervals, and `Subtract(u:1-10:2-8, u:5)` prints `u:1-4:6-10:2-8`, which still holds `u:5`,
  whatever order the interval sort leaves; `subtract_overlapping_counterexample` is the case of
  `insertionSortByStart`.
-/

set_option autoImplicit false

namespace Wescale.Mysql

/-- `Subtract`: a parse error of either text is returned; `none` is a panic of `Difference`. -/
def subtract (srt : IntervalSort) (lhs rhs : String) : Option (Except ParseError String) :=
  match parseMysql56GTIDSet srt lhs with
  | .error err => some (.error err)
  | .ok lhsSet =>
    match parseMysql56GTIDSet srt rhs with
    | .error err => some (.error err)
    | .ok rhsSet => (lhsSet.difference rhsSet).map fun diffSet => .ok diffSet.string

/-- `Subtract` of two texts the parser accepts, the first with no overlapping intervals: no
panic, and the text returned means exactly the GTIDs of `lhs` that `rhs` lacks. -/
theorem subtract_spec {srt : IntervalSort} {lhs rhs : String} {lhsSet rhsSet : Mysql56GTIDSet}
    (hlhs : parseMysql56GTIDSet srt lhs = .ok lhsSet)
    (hrhs : parseMysql56GTIDSet srt rhs = .ok rhsSet) (hnon : lhsSet.NonOverlapping) :
    ∃ out diffSet, subtract srt lhs rhs = some (.ok out) ∧
      parseMysql56GTIDSet srt out = .ok diffSet ∧ diffSet.den = lhsSet.den \ rhsSet.den := by
  obtain ⟨diff, hdiff, hpos, hden⟩ :=
    Mysql56GTIDSet.difference_spec (parse_sorted hlhs).positive hnon (parse_sorted hrhs)
  obtain ⟨parsed, hparse, hlook⟩ := Mysql56GTIDSet.parse_string srt hpos
  refine ⟨diff.string, parsed, ?_, hparse, ?_⟩
  · simp only [subtract, hlhs, hrhs, hdiff, Option.map_some]
  · rw [Mysql56GTIDSet.den_of_lookup_sort hlook, hden]

theorem subtract_spec_sample :
    gappedSet.NonOverlapping ∧
      ∃ out diffSet, subtract insertionSortByStart "00000000-0000-0000-0000-000000000001:1-5:7-10"
          "00000000-0000-0000-0000-000000000001:2-3" = some (.ok out) ∧
        parseMysql56GTIDSet insertionSortByStart out = .ok diffSet ∧
        diffSet.den = gappedSet.den \ innerSet.den :=
  ⟨by decide, subtract_spec rfl rfl (by decide)⟩

/-! ## Overlapping intervals on the left -/

/-- `u:1-10:2-8` for `u = sidOne`, as the parser returns it: two overlapping intervals. -/
def overlapSet : Mysql56GTIDSet := AList.singleton sidOne [⟨1, 10⟩, ⟨2, 8⟩]

/-- `u:5`. -/
def fiveSet : Mysql56GTIDSet := AList.singleton sidOne [⟨5, 5⟩]

/-- What `Difference` leaves of `overlapSet` without `fiveSet`: the first interval split around
`5`, and the second appended whole. -/
def leftSet : Mysql56GTIDSet := AList.singleton sidOne [⟨1, 4⟩, ⟨6, 10⟩, ⟨2, 8⟩]

theorem difference_overlapSet : overlapSet.difference fiveSet = some leftSet := by
  -- the loop splits `1-10` around `5`, finds no further interval of `fiveSet`, and stops
  have hloop : differenceIntervals [⟨1, 10⟩, ⟨2, 8⟩] (some [⟨5, 5⟩]) =
      some (some [⟨1, 4⟩, ⟨6, 10⟩, ⟨2, 8⟩]) := by
    simp [differenceIntervals, diffLoop]
  have hl : fiveSet.lookup sidOne = some [⟨5, 5⟩] := AList.lookup_singleton_self _ _
  have hall : overlapSet.entries.all
      (fun e => (differenceIntervals e.2 (fiveSet.lookup e.1)).isSome) = true := by
    show [(⟨sidOne, [⟨1, 10⟩, ⟨2, 8⟩]⟩ : Sigma fun _ : SID => List Interval)].all _ = true
    simp only [List.all_cons, List.all_nil, hl, hloop, Option.isSome_some, Bool.and_true]
  rw [Mysql56GTIDSet.difference, AList.filterMapValsOpt, if_pos hall]
  congr 1
  apply AList.ext
  simp only [AList.filterMapVals, overlapSet, leftSet, AList.singleton, AList.filterMapEntries, hl,
    hloop, Option.join_some]

/-- Whatever order the sort leaves, subtracting `u:5` from `u:1-10:2-8` prints a set that still
holds `u:5`. -/
theorem subtract_overlapping_of_sort (srt : IntervalSort) :
    parseMysql56GTIDSet srt "00000000-0000-0000-0000-000000000001:1-10:2-8" = .ok overlapSet ∧
      parseMysql56GTIDSet srt "00000000-0000-0000-0000-000000000001:5" = .ok fiveSet ∧
      subtract srt "00000000-0000-0000-0000-000000000001:1-10:2-8"
          "00000000-0000-0000-0000-000000000001:5" =
        some (.ok "00000000-0000-0000-0000-000000000001:1-4:6-10:2-8") ∧
      (∃ diffSet, parseMysql56GTIDSet srt "00000000-0000-0000-0000-000000000001:1-4:6-10:2-8" =
          .ok diffSet ∧ (sidOne, 5) ∈ diffSet.den) ∧
      (sidOne, 5) ∉ overlapSet.den \ fiveSet.den := by
  have hlhs : parseMysql56GTIDSet srt "00000000-0000-0000-0000-000000000001:1-10:2-8" =
      .ok overlapSet := by
    show Except.ok (AList.insert sidOne (srt.sort [⟨1, 10⟩, ⟨2, 8⟩]) (∅ : Mysql56GTIDSet)) = _
    rw [srt.sort_eq_self (by decide), AList.insert_empty]
    rfl
  have hrhs : parseMysql56GTIDSet srt "00000000-0000-0000-0000-000000000001:5" = .ok fiveSet := by
    show Except.ok (AList.insert sidOne (srt.sort [⟨5, 5⟩]) (∅ : Mysql56GTIDSet)) = _
    rw [srt.sort_eq_self (by decide), AList.insert_empty]
    rfl
  have hprint : leftSet.string = "00000000-0000-0000-0000-000000000001:1-4:6-10:2-8" := by
    decide
  refine ⟨hlhs, hrhs, ?_, ?_, ?_⟩
  · simp only [subtract, hlhs, hrhs, difference_overlapSet, Option.map_some, hprint]
  · -- the printed text is parsed into one list in the sort's order, which still covers `5`
    refine ⟨AList.insert sidOne (srt.sort [⟨1, 4⟩, ⟨6, 10⟩, ⟨2, 8⟩]) ∅, rfl, ?_⟩
    rw [Mysql56GTIDSet.mem_den, Mysql56GTIDSet.intervalsOf, AList.lookup_insert, Option.getD_some,
      den_perm (srt.perm _), mem_den]
    decide
  · rw [fiveSet, Mysql56GTIDSet.den_singleton]
    simp

theorem subtract_overlapping_counterexample :
    parseMysql56GTIDSet insertionSortByStart "00000000-0000-0000-0000-000000000001:1-10:2-8" =
        .ok overlapSet ∧
      parseMysql56GTIDSet insertionSortByStart "00000000-0000-0000-0000-000000000001:5" =
        .ok fiveSet ∧
      subtract insertionSortByStart "00000000-0000-0000-0000-000000000001:1-10:2-8"
          "00000000-0000-0000-0000-000000000001:5" =
        some (.ok "00000000-0000-0000-0000-000000000001:1-4:6-10:2-8") ∧
      (∃ diffSet, parseMysql56GTIDSet insertionSortByStart
          "00000000-0000-0000-0000-000000000001:1-4:6-10:2-8" = .ok diffSet ∧
        (sidOne, 5) ∈ diffSet.den) ∧
      (sidOne, 5) ∉ overlapSet.den \ fiveSet.den :=
  subtract_overlapping_of_sort insertionSortByStart

end Wescale.Mysql
