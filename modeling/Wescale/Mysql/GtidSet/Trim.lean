import Mathlib
import Wescale.Mysql.GtidSet.Basic

/-!
# `Mysql56GTIDSet.TrimGTIDSet` (`go/mysql/mysql56_gtid_set.go`)

`set.TrimGTIDSet(other)` keeps, for each server id of `other` that `set` holds too, the part
of `other`'s list that does not reach past the end of `set`'s last interval: intervals that
end before it are kept, the first one that reaches it is cut there, and the walk stops at the
first interval that starts past it. Server ids that `set` lacks are dropped. `set`'s last
interval is read as `intervlas[len(intervlas)-1]`, which panics on an empty list: the model
returns `none` there.

## What is proved

- `trimLoop_spec`: on a gapped list the walk keeps a gapped list and covers exactly what the
  list covers up to the bound.
- `trimGTIDSet_spec`: on a canonical receiver and a gapped `other` of positive intervals, the
  call does not panic, returns gapped lists of positive intervals for server ids the receiver
  holds, and covers exactly the GTIDs of `other` that are at most some sequence number of the
  receiver for the same server.
-/

set_option autoImplicit false

namespace Wescale.Mysql

open Ranges

/-- The `min` closure of `TrimGTIDSet`. -/
def trimMin (a b : Int64) : Int64 := if a > b then b else a

/-- The loop over the other set's intervals for one server id, against `set`'s last
interval. -/
def trimLoop (lastInterval : Interval) : List Interval → List Interval
  | [] => []
  | otherInterval :: rest =>
    if otherInterval.stop < lastInterval.stop then otherInterval :: trimLoop lastInterval rest
    else if otherInterval.start ≤ lastInterval.stop then
      { otherInterval with stop := trimMin otherInterval.stop lastInterval.stop } ::
        trimLoop lastInterval rest
    else []

/-- `TrimGTIDSet`: one pass over `other`, writing the trimmed list of each server id that `set`
holds; `none` when `set` holds it with an empty list. -/
def Mysql56GTIDSet.trimGTIDSet (set other : Mysql56GTIDSet) : Option Mysql56GTIDSet :=
  other.filterMapValsOpt fun otherSID otherIntervals =>
    match set.lookup otherSID with
    | none => some none
    | some intervlas =>
      match intervlas.getLast? with
      | none => none
      | some lastInterval => some (some (trimLoop lastInterval otherIntervals))

example : trimLoop ⟨1, 7⟩ [⟨2, 3⟩, ⟨5, 9⟩, ⟨11, 12⟩] = [⟨2, 3⟩, ⟨5, 7⟩] := by decide

theorem toInt_trimMin (a b : Int64) : (trimMin a b).toInt = min a.toInt b.toInt := by
  unfold trimMin
  split
  · rename_i h
    rw [gt_iff_lt, Int64.lt_iff_toInt_lt] at h
    omega
  · rename_i h
    rw [gt_iff_lt, Int64.lt_iff_toInt_lt] at h
    omega

/-- Every interval the walk keeps starts where one of the list starts and ends no later. -/
theorem trimLoop_mem {last : Interval} :
    ∀ {ivs : List Interval} {x : Interval}, x ∈ trimLoop last ivs →
      ∃ y ∈ ivs, x.start = y.start ∧ x.stop.toInt ≤ y.stop.toInt
  | [], x, h => by simp [trimLoop] at h
  | iv :: rest, x, h => by
    unfold trimLoop at h
    split at h
    · rcases List.mem_cons.mp h with rfl | h
      · exact ⟨x, List.mem_cons_self, rfl, le_rfl⟩
      · obtain ⟨y, hy, hs, he⟩ := trimLoop_mem h
        exact ⟨y, List.mem_cons_of_mem _ hy, hs, he⟩
    · split at h
      · rcases List.mem_cons.mp h with rfl | h
        · refine ⟨iv, List.mem_cons_self, rfl, ?_⟩
          show (trimMin iv.stop last.stop).toInt ≤ iv.stop.toInt
          rw [toInt_trimMin]
          omega
        · obtain ⟨y, hy, hs, he⟩ := trimLoop_mem h
          exact ⟨y, List.mem_cons_of_mem _ hy, hs, he⟩
      · simp at h

/-- On a gapped list the walk keeps a gapped list and covers the list up to the bound. By
induction on the list: an interval that ends before the bound is kept, the one that reaches
it is cut and ends the walk in effect (the gap puts every later one past the bound), and one
that starts past it stops the walk. -/
theorem trimLoop_spec (last : Interval) :
    ∀ {ivs : List Interval}, Gapped ivs →
      Gapped (trimLoop last ivs) ∧ den (trimLoop last ivs) = {x | x ∈ den ivs ∧ x ≤ last.stop.toInt}
  | [], _ => ⟨gapped_nil, by ext x; simp [trimLoop]⟩
  | iv :: rest, hgap => by
    obtain ⟨hwf, hafter, hrest⟩ := gapped_cons_iff.mp hgap
    obtain ⟨ihgap, ihden⟩ := trimLoop_spec last hrest
    unfold trimLoop
    split
    · -- ends before the bound: kept whole
      rename_i hlt
      rw [Int64.lt_iff_toInt_lt] at hlt
      refine ⟨gapped_cons_iff.mpr ⟨hwf, fun jv hjv => ?_, ihgap⟩, ?_⟩
      · obtain ⟨y, hy, hs, -⟩ := trimLoop_mem hjv
        rw [hs]
        exact hafter y hy
      · ext x
        rw [den_cons, ihden, den_cons]
        simp only [Set.mem_union, Set.mem_ofPred_eq, mem_den_cons, den_nil,
          Set.mem_empty_iff_false, or_false]
        constructor
        · rintro (hx | ⟨hx, hle⟩)
          · exact ⟨.inl hx, by omega⟩
          · exact ⟨.inr hx, hle⟩
        · rintro ⟨hx | hx, hle⟩
          · exact .inl hx
          · exact .inr ⟨hx, hle⟩
    · rename_i hge
      rw [Int64.lt_iff_toInt_lt, not_lt] at hge
      split
      · -- reaches the bound: cut there; every later interval starts past it
        rename_i hle
        rw [Int64.le_iff_toInt_le] at hle
        have hrestnil : trimLoop last rest = [] := by
          cases rest with
          | nil => rfl
          | cons jv rest' =>
            have hjv := hafter jv List.mem_cons_self
            have hjvwf := (gapped_cons_iff.mp hrest).1
            unfold trimLoop
            rw [if_neg (by rw [Int64.lt_iff_toInt_lt]; omega),
              if_neg (by rw [Int64.le_iff_toInt_le]; omega)]
        have hstop : (trimMin iv.stop last.stop).toInt = last.stop.toInt := by
          rw [toInt_trimMin]
          omega
        rw [hrestnil]
        refine ⟨gapped_cons_iff.mpr ⟨?_, by simp, gapped_nil⟩, ?_⟩
        · show iv.start.toInt ≤ (trimMin iv.stop last.stop).toInt
          omega
        · ext x
          have hlater : x ∈ den rest → last.stop.toInt < x := fun hx => by
            have := hgap.lt_of_mem_tail hx
            omega
          simp only [mem_den_cons, den_nil, Set.mem_empty_iff_false, or_false, Set.mem_ofPred_eq]
          show iv.start.toInt ≤ x ∧ x ≤ (trimMin iv.stop last.stop).toInt ↔ _
          rw [hstop]
          constructor
          · intro hx
            exact ⟨.inl ⟨hx.1, by omega⟩, hx.2⟩
          · rintro ⟨hx | hx, hle'⟩
            · exact ⟨hx.1, hle'⟩
            · exact absurd (hlater hx) (by omega)
      · -- starts past the bound: the walk stops, and nothing later is at most the bound
        rename_i hgt
        rw [Int64.le_iff_toInt_le, not_le] at hgt
        refine ⟨gapped_nil, ?_⟩
        ext x
        rw [den_nil]
        simp only [Set.mem_empty_iff_false, Set.mem_ofPred_eq, false_iff, not_and, not_le]
        intro hx
        have := hgap.start_le_of_mem hx
        omega

/-! ## The map -/

/-- On a canonical receiver and a gapped `other` of positive intervals, `TrimGTIDSet` does
not panic; it keeps gapped lists of positive intervals, only for server ids the receiver
holds, and covers the GTIDs of `other` that some GTID of the receiver's same server reaches. -/
theorem trimGTIDSet_spec {set other : Mysql56GTIDSet} (hset : set.Canonical)
    (hother : other.Gapped) (hpos : ∀ sid n, (sid, n) ∈ other.den → 1 ≤ n) :
    ∃ remain, set.trimGTIDSet other = some remain ∧ remain.Gapped ∧
      (∀ sid n, (sid, n) ∈ remain.den → 1 ≤ n) ∧
      (∀ sid ivs, remain.lookup sid = some ivs → ∃ ivs', set.lookup sid = some ivs') ∧
      remain.den = {p | p ∈ other.den ∧ ∃ m, (p.1, m) ∈ set.den ∧ p.2 ≤ m} := by
  -- no panic: every list of a canonical set has a last interval
  have hsome : (set.trimGTIDSet other).isSome := by
    apply AList.filterMapValsOpt_isSome
    intro sid otherIvs _
    cases hl : set.lookup sid with
    | none => rfl
    | some ivs =>
      obtain ⟨last, hlast⟩ := Option.ne_none_iff_exists'.mp
        (List.getLast?_eq_none_iff.not.mpr (hset sid ivs hl).ne_nil)
      simp [hlast]
  obtain ⟨remain, hremain⟩ := Option.isSome_iff_exists.mp hsome
  have hlook := AList.lookup_of_filterMapValsOpt hremain
  -- what the trim stores for a server id the receiver holds with last interval `last`
  have hat : ∀ sid ivs last, set.lookup sid = some ivs → ivs.getLast? = some last →
      remain.lookup sid = (other.lookup sid).map (trimLoop last) := by
    intro sid ivs last hl hlast
    rw [hlook sid]
    cases other.lookup sid <;> simp [hl, hlast]
  have hnone : ∀ sid, set.lookup sid = none → remain.lookup sid = none := by
    intro sid hl
    rw [hlook sid]
    cases other.lookup sid <;> simp [hl]
  -- the receiver's last interval reaches exactly as far as its GTIDs do
  have hreach : ∀ sid ivs last, set.lookup sid = some ivs → ivs.getLast? = some last →
      ∀ n, (∃ m, (sid, m) ∈ set.den ∧ n ≤ m) ↔ n ≤ last.stop.toInt := by
    intro sid ivs last hl hlast n
    have hcan := hset sid ivs hl
    have hmem : last ∈ ivs := List.mem_of_getLast? hlast
    constructor
    · rintro ⟨m, hm, hnm⟩
      rw [Mysql56GTIDSet.mem_den, Mysql56GTIDSet.intervalsOf, hl, Option.getD_some] at hm
      have hle := Ranges.Canonical.le_hi_getLast hcan.gapped (by simpa using hcan.ne_nil) hm
      rw [List.getLast_map] at hle
      have hget := List.getLast?_eq_some_getLast hcan.ne_nil
      rw [hlast, Option.some.injEq] at hget
      rw [← hget] at hle
      exact hnm.trans hle
    · intro hn
      refine ⟨last.stop.toInt, ?_, hn⟩
      rw [Mysql56GTIDSet.mem_den, Mysql56GTIDSet.intervalsOf, hl, Option.getD_some]
      exact mem_den.mpr ⟨last, hmem, hcan.gapped.wf hmem, le_rfl⟩
  have hden : remain.den = {p | p ∈ other.den ∧ ∃ m, (p.1, m) ∈ set.den ∧ p.2 ≤ m} := by
    ext ⟨sid, n⟩
    rw [Set.mem_ofPred_eq, Mysql56GTIDSet.mem_den, Mysql56GTIDSet.mem_den]
    cases hl : set.lookup sid with
    | none =>
      -- a server id the receiver lacks: nothing is kept, and the receiver has no GTID there
      rw [Mysql56GTIDSet.intervalsOf, hnone sid hl, Option.getD_none, den_nil]
      simp only [Set.mem_empty_iff_false, false_iff, not_and, not_exists]
      intro _ m hm
      rw [Mysql56GTIDSet.mem_den, Mysql56GTIDSet.intervalsOf, hl, Option.getD_none, den_nil] at hm
      exact absurd hm (Set.notMem_empty m)
    | some ivs =>
      obtain ⟨last, hlast⟩ := Option.ne_none_iff_exists'.mp
        (List.getLast?_eq_none_iff.not.mpr (hset sid ivs hl).ne_nil)
      have hgapped : Gapped (other.intervalsOf sid) := by
        unfold Mysql56GTIDSet.intervalsOf
        cases hr : other.lookup sid with
        | none => exact gapped_nil
        | some otherIvs => exact hother sid otherIvs hr
      have hstore : remain.intervalsOf sid = trimLoop last (other.intervalsOf sid) := by
        unfold Mysql56GTIDSet.intervalsOf
        rw [hat sid ivs last hl hlast]
        cases other.lookup sid <;> rfl
      rw [hstore, (trimLoop_spec last hgapped).2, Set.mem_ofPred_eq, hreach sid ivs last hl hlast]
  refine ⟨remain, hremain, ?_, ?_, ?_, hden⟩
  · intro sid ivs h
    cases hl : set.lookup sid with
    | none => rw [hnone sid hl] at h; cases h
    | some setIvs =>
      obtain ⟨last, hlast⟩ := Option.ne_none_iff_exists'.mp
        (List.getLast?_eq_none_iff.not.mpr (hset sid setIvs hl).ne_nil)
      rw [hat sid setIvs last hl hlast] at h
      obtain ⟨otherIvs, hr, rfl⟩ := Option.map_eq_some_iff.mp h
      exact (trimLoop_spec last (hother sid otherIvs hr)).1
  · intro sid n hn
    rw [hden] at hn
    exact hpos sid n hn.1
  · intro sid ivs h
    cases hl : set.lookup sid with
    | none => rw [hnone sid hl] at h; cases h
    | some setIvs => exact ⟨setIvs, rfl⟩

end Wescale.Mysql
