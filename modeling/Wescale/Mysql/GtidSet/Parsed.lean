import Wescale.Mysql.GtidSet.Parse
import Wescale.Mysql.GtidSet.Compare

/-! # The queries on parsed sets

`ContainsGTID` is right on every set `ParseMysql56GTIDSet` accepts: the parser sorts by start,
and that is all the loop needs. `Contains` and `Equal` are right only when the parsed lists
are also gapped (no two intervals of a server overlap or touch), which the parser does not
ensure: `u:1-5:6-10` and `u:1-10` mean the same GTIDs, yet the first does not contain the
second and the two are not `Equal`. -/

set_option autoImplicit false

namespace Wescale.Mysql

/-- On parsed sets `ContainsGTID` is membership; `Contains` is inclusion when the receiver's
lists are gapped, and `Equal` is equality when both sets' lists are. -/
theorem parsed_set_queries {srt : IntervalSort} {s t : String} {S T : Mysql56GTIDSet}
    (hS : parseMysql56GTIDSet srt s = .ok S) (hT : parseMysql56GTIDSet srt t = .ok T) :
    (∀ gtid : Mysql56GTID,
        S.containsGTID gtid = true ↔ (gtid.server, gtid.sequence.toInt) ∈ S.den) ∧
      (S.Gapped → (S.contains T = true ↔ T.den ⊆ S.den)) ∧
      (S.Gapped → T.Gapped → (S.equal T = true ↔ S.den = T.den)) := by
  have hSsorted := parse_sorted hS
  have hTsorted := parse_sorted hT
  refine ⟨containsGTID_iff hSsorted, fun hSgap => contains_iff hSgap hTsorted, ?_⟩
  intro hSgap hTgap
  exact equal_iff_den (Mysql56GTIDSet.canonical_of_sorted hSsorted hSgap)
    (Mysql56GTIDSet.canonical_of_sorted hTsorted hTgap)

/-- The server id `00000000-0000-0000-0000-000000000001`. -/
def sidOne : SID := ⟨#[0, 0, 0, 0, 0, 0, 0, 0, 0, 0, 0, 0, 0, 0, 0, 1], rfl⟩

/-- `u:1-5:7-10` and `u:2-3` for `u = sidOne`, as the parser returns them. -/
def gappedSet : Mysql56GTIDSet := AList.singleton sidOne [⟨1, 5⟩, ⟨7, 10⟩]

def innerSet : Mysql56GTIDSet := AList.singleton sidOne [⟨2, 3⟩]

theorem parsed_set_queries_sample :
    (∀ gtid : Mysql56GTID,
        gappedSet.containsGTID gtid = true ↔ (gtid.server, gtid.sequence.toInt) ∈ gappedSet.den) ∧
      (gappedSet.Gapped → (gappedSet.contains innerSet = true ↔ innerSet.den ⊆ gappedSet.den)) ∧
      (gappedSet.Gapped → innerSet.Gapped →
        (gappedSet.equal innerSet = true ↔ gappedSet.den = innerSet.den)) :=
  @parsed_set_queries insertionSortByStart "00000000-0000-0000-0000-000000000001:1-5:7-10"
    "00000000-0000-0000-0000-000000000001:2-3" gappedSet innerSet rfl rfl

/-- `u:1-5:6-10`: two intervals that touch. -/
def touchingSet : Mysql56GTIDSet := AList.singleton sidOne [⟨1, 5⟩, ⟨6, 10⟩]

/-- `u:1-10`: the same GTIDs in one interval. -/
def mergedSet : Mysql56GTIDSet := AList.singleton sidOne [⟨1, 10⟩]

theorem den_touching_eq_merged : den [⟨1, 5⟩, ⟨6, 10⟩] = den [⟨1, 10⟩] := by
  ext n
  have h1 : (1 : Int64).toInt = 1 := rfl
  have h5 : (5 : Int64).toInt = 5 := rfl
  have h6 : (6 : Int64).toInt = 6 := rfl
  have h10 : (10 : Int64).toInt = 10 := rfl
  simp only [mem_den_cons, den_nil, Set.mem_empty_iff_false, or_false, h1, h5, h6, h10]
  omega

/-- Whatever order the sort leaves, `u:1-5:6-10` and `u:1-10` parse to two sets with the same
GTIDs, and still the first does not `Contain` the second and they are not `Equal`. -/
theorem parsed_contains_equal_of_sort :
    ∀ srt : IntervalSort,
      parseMysql56GTIDSet srt "00000000-0000-0000-0000-000000000001:1-5:6-10" = .ok touchingSet ∧
        parseMysql56GTIDSet srt "00000000-0000-0000-0000-000000000001:1-10" = .ok mergedSet ∧
        mergedSet.den ⊆ touchingSet.den ∧ touchingSet.contains mergedSet = false ∧
        touchingSet.den = mergedSet.den ∧ touchingSet.equal mergedSet = false := by
  intro srt
  have hden : touchingSet.den = mergedSet.den := by
    rw [touchingSet, mergedSet, Mysql56GTIDSet.den_singleton, Mysql56GTIDSet.den_singleton,
      den_touching_eq_merged]
  refine ⟨?_, ?_, hden.symm.le, by decide, hden, by decide⟩
  · show Except.ok (AList.insert sidOne (srt.sort [⟨1, 5⟩, ⟨6, 10⟩]) (∅ : Mysql56GTIDSet)) = _
    rw [srt.sort_eq_self (by decide), AList.insert_empty]
    rfl
  · show Except.ok (AList.insert sidOne (srt.sort [⟨1, 10⟩]) (∅ : Mysql56GTIDSet)) = _
    rw [srt.sort_eq_self (by decide), AList.insert_empty]
    rfl

theorem parsed_contains_equal_counterexample :
    parseMysql56GTIDSet insertionSortByStart "00000000-0000-0000-0000-000000000001:1-5:6-10" =
        .ok touchingSet ∧
      parseMysql56GTIDSet insertionSortByStart "00000000-0000-0000-0000-000000000001:1-10" =
        .ok mergedSet ∧
      mergedSet.den ⊆ touchingSet.den ∧ touchingSet.contains mergedSet = false ∧
      touchingSet.den = mergedSet.den ∧ touchingSet.equal mergedSet = false :=
  parsed_contains_equal_of_sort insertionSortByStart

end Wescale.Mysql
