import Wescale.Lib.Ranges
import Wescale.Lib.Int64
import Wescale.Lib.AListMap

/-!
# MySQL 5.6 GTID sets: the data model (`go/mysql/mysql56_gtid_set.go`)

A MySQL 5.6 GTID is a server id (`SID`, 16 bytes) and a sequence number (`int64`). A GTID
set is a Go map `map[SID][]interval`: each server id holds a list of closed intervals of
sequence numbers. This module fixes the model's vocabulary:

- `Interval` is Go's `interval{start, end}` with `int64` fields. Go's field `end` is a Lean
  keyword, so it is `stop` here.
- `Mysql56GTIDSet` is the map, an association list with distinct keys. A Go `nil` map and
  an empty map are the same map here: every nil check of the source returns, on a nil map,
  a map with the same entries as its main path computes for an empty one.
- `den` is what a set means: the pairs `(sid, n)` it contains, with `n` read as an integer.
- `Canonical` is the normal form the set operations keep: every SID holds a non-empty list of
  intervals with `1 ≤ start ≤ end`, sorted, and separated by gaps.

`containsSequence` is the loop of `ContainsGTID`; `containsSequence_iff` says it decides
membership on every list sorted by start, merged or not.
-/

set_option autoImplicit false

namespace Wescale.Mysql

open Ranges

/-- `SID`: the 16-byte unique id of a MySQL 5.6 server. -/
abbrev SID := Vector UInt8 16

/-- `Mysql56GTID`: the server that committed a transaction and its sequence number there. -/
structure Mysql56GTID where
  server : SID
  sequence : Int64
  deriving DecidableEq, Repr

/-- Go's `interval{start, end}` of sequence numbers; `stop` is Go's `end`. -/
structure Interval where
  start : Int64
  stop : Int64
  deriving DecidableEq, Repr

namespace Interval

/-- `interval.contains`: `other` lies inside `iv`. -/
def contains (iv other : Interval) : Bool := iv.start ≤ other.start && other.stop ≤ iv.stop

/-- The integers an interval covers, as a range of the library. -/
def toRange (iv : Interval) : Range := ⟨iv.start.toInt, iv.stop.toInt⟩

@[simp] theorem toRange_lo (iv : Interval) : iv.toRange.lo = iv.start.toInt := rfl
@[simp] theorem toRange_hi (iv : Interval) : iv.toRange.hi = iv.stop.toInt := rfl

/-- `Before` an interval's range, read on its start. Stated with `Iff.rfl` so that proofs
rewrite with it instead of asking the kernel to unfold `toRange` of a structure literal,
which it does by unfolding `Int64.toInt` first. -/
theorem before_toRange_iff {r : Range} {iv : Interval} :
    r.Before iv.toRange ↔ r.hi + 1 < iv.start.toInt := Iff.rfl

theorem toRange_before_iff {iv : Interval} {r : Range} :
    iv.toRange.Before r ↔ iv.stop.toInt + 1 < r.lo := Iff.rfl

theorem wf_toRange_iff {iv : Interval} : iv.toRange.WF ↔ iv.start.toInt ≤ iv.stop.toInt :=
  Iff.rfl

theorem contains_iff {iv other : Interval} :
    iv.contains other = true ↔
      iv.start.toInt ≤ other.start.toInt ∧ other.stop.toInt ≤ iv.stop.toInt := by
  simp [contains, Int64.le_iff_toInt_le]

end Interval

/-- The sequence numbers a list of intervals covers. -/
def den (ivs : List Interval) : Set Int := toSet (ivs.map Interval.toRange)

@[simp] theorem mem_den {ivs : List Interval} {x : Int} :
    x ∈ den ivs ↔ ∃ iv ∈ ivs, iv.start.toInt ≤ x ∧ x ≤ iv.stop.toInt := by
  simp [den]

@[simp] theorem den_nil : den [] = ∅ := by
  ext x; simp

theorem mem_den_cons {iv : Interval} {ivs : List Interval} {x : Int} :
    x ∈ den (iv :: ivs) ↔ (iv.start.toInt ≤ x ∧ x ≤ iv.stop.toInt) ∨ x ∈ den ivs := by
  simp

theorem den_append (ivs jvs : List Interval) : den (ivs ++ jvs) = den ivs ∪ den jvs := by
  simp only [den, List.map_append, toSet_append]

theorem den_cons (iv : Interval) (ivs : List Interval) : den (iv :: ivs) = den [iv] ∪ den ivs :=
  den_append [iv] ivs

theorem den_singleton_subset_of_mem {iv : Interval} {ivs : List Interval} (h : iv ∈ ivs) :
    den [iv] ⊆ den ivs := by
  intro x hx
  simp only [mem_den_cons, den_nil, Set.mem_empty_iff_false, or_false] at hx
  exact mem_den.mpr ⟨iv, h, hx⟩

/-- The intervals, read as ranges, form a canonical list of the library: each non-empty,
each `Before` every later one. No bound on the starts, and the list may be empty. -/
def Gapped (ivs : List Interval) : Prop := Ranges.Canonical (ivs.map Interval.toRange)

instance (ivs : List Interval) : Decidable (Gapped ivs) :=
  inferInstanceAs (Decidable (Ranges.Canonical _))

theorem gapped_nil : Gapped [] := by simpa [Gapped] using Ranges.Canonical.nil

theorem gapped_cons_iff {iv : Interval} {ivs : List Interval} :
    Gapped (iv :: ivs) ↔ iv.start.toInt ≤ iv.stop.toInt ∧
      (∀ jv ∈ ivs, iv.stop.toInt + 1 < jv.start.toInt) ∧ Gapped ivs := by
  simp only [Gapped, List.map_cons, Ranges.Canonical.cons_iff, List.mem_map,
    forall_exists_index, and_imp, forall_apply_eq_imp_iff₂]
  rfl

namespace Gapped

theorem tail {iv : Interval} {ivs : List Interval} (h : Gapped (iv :: ivs)) : Gapped ivs :=
  (gapped_cons_iff.mp h).2.2

theorem wf {ivs : List Interval} (h : Gapped ivs) {iv : Interval} (hiv : iv ∈ ivs) :
    iv.start.toInt ≤ iv.stop.toInt :=
  Ranges.Canonical.wf h _ (List.mem_map_of_mem hiv)

/-- Past the head of a gapped list, everything lies beyond the head's gap. -/
theorem lt_of_mem_tail {iv : Interval} {ivs : List Interval} (h : Gapped (iv :: ivs))
    {x : Int} (hx : x ∈ den ivs) : iv.stop.toInt + 1 < x := by
  obtain ⟨jv, hjv, hx⟩ := mem_den.mp hx
  have := (gapped_cons_iff.mp h).2.1 jv hjv
  omega

/-- A gapped list covers nothing before its head's start. -/
theorem start_le_of_mem {iv : Interval} {ivs : List Interval} (h : Gapped (iv :: ivs))
    {x : Int} (hx : x ∈ den (iv :: ivs)) : iv.start.toInt ≤ x := by
  rcases mem_den_cons.mp hx with hx | hx
  · exact hx.1
  · have := h.lt_of_mem_tail hx
    have := (gapped_cons_iff.mp h).1
    omega

theorem of_append_right {pre rest : List Interval} (h : Gapped (pre ++ rest)) :
    Gapped rest := by
  unfold Gapped at h ⊢
  rw [List.map_append] at h
  exact ⟨fun r hr => h.wf r (List.mem_append_right _ hr),
    (List.pairwise_append.mp h.sorted).2.1⟩

/-- In a gapped list, everything before a cut ends, with a gap, before everything after it
starts. -/
theorem stop_lt_of_append {pre post : List Interval} (h : Gapped (pre ++ post)) {a b : Interval}
    (ha : a ∈ pre) (hb : b ∈ post) : a.stop.toInt + 1 < b.start.toInt := by
  have hs := Ranges.Canonical.sorted h
  rw [List.map_append, List.pairwise_append] at hs
  exact hs.2.2 _ (List.mem_map_of_mem ha) _ (List.mem_map_of_mem hb)

end Gapped

/-- A list of intervals in canonical form: non-empty, every interval with `1 ≤ start ≤ end`,
sorted, consecutive intervals separated by a gap. -/
structure Canonical (ivs : List Interval) : Prop where
  ne_nil : ivs ≠ []
  one_le_start : ∀ iv ∈ ivs, 1 ≤ iv.start.toInt
  gapped : Gapped ivs

instance (ivs : List Interval) : Decidable (Canonical ivs) :=
  decidable_of_iff (ivs ≠ [] ∧ (∀ iv ∈ ivs, 1 ≤ iv.start.toInt) ∧ Gapped ivs)
    ⟨fun h => ⟨h.1, h.2.1, h.2.2⟩, fun h => ⟨h.ne_nil, h.one_le_start, h.gapped⟩⟩

theorem Interval.toRange_injective : Function.Injective Interval.toRange := by
  intro a b h
  simp only [Interval.toRange, Range.mk.injEq, Int64.toInt_inj] at h
  cases a; cases b
  simp_all

/-- Uniqueness of the gapped form: what a gapped list covers decides the list. -/
theorem Gapped.eq_of_den_eq {ivs jvs : List Interval} (hi : Gapped ivs) (hj : Gapped jvs)
    (h : den ivs = den jvs) : ivs = jvs :=
  List.map_injective_iff.mpr Interval.toRange_injective
    (Ranges.Canonical.eq_of_toSet_eq hi hj h)

/-- A gapped list with every interval covering only positive numbers, that covers
something, is canonical. -/
theorem Canonical.of_den {ivs : List Interval} (hgap : Gapped ivs)
    (hpos : ∀ x ∈ den ivs, 1 ≤ x) (hne : ivs ≠ []) : Canonical ivs := by
  refine ⟨hne, fun iv hiv => hpos _ ?_, hgap⟩
  exact mem_den.mpr ⟨iv, hiv, le_rfl, hgap.wf hiv⟩

theorem Canonical.one_le_of_mem {ivs : List Interval} (h : Canonical ivs) {x : Int}
    (hx : x ∈ den ivs) : 1 ≤ x := by
  obtain ⟨iv, hiv, hx1, -⟩ := mem_den.mp hx
  have := h.one_le_start iv hiv
  omega

theorem Canonical.den_nonempty {ivs : List Interval} (h : Canonical ivs) :
    (den ivs).Nonempty := by
  obtain ⟨iv, ivs', rfl⟩ := List.exists_cons_of_ne_nil h.ne_nil
  exact ⟨iv.start.toInt, mem_den_cons.mpr (.inl ⟨le_rfl, h.gapped.wf List.mem_cons_self⟩)⟩

/-- Sorted by start, as `ParseMysql56GTIDSet` leaves every list it builds. -/
def SortedByStart (ivs : List Interval) : Prop :=
  ivs.Pairwise fun a b => a.start.toInt ≤ b.start.toInt

/-- A canonical list is sorted by start. -/
theorem Gapped.sortedByStart {ivs : List Interval} (h : Gapped ivs) : SortedByStart ivs := by
  have hs := List.pairwise_map.mp (Ranges.Canonical.sorted h)
  refine hs.imp_of_mem fun {a b} ha _ hab => ?_
  have hwf := h.wf ha
  rw [Interval.toRange_before_iff, Interval.toRange_lo] at hab
  omega

theorem Canonical.sortedByStart {ivs : List Interval} (h : Canonical ivs) : SortedByStart ivs :=
  h.gapped.sortedByStart

/-- Every interval of the list has `1 ≤ start ≤ end`, as the parser keeps them. -/
def Positive (ivs : List Interval) : Prop :=
  ∀ iv ∈ ivs, 1 ≤ iv.start.toInt ∧ iv.start.toInt ≤ iv.stop.toInt

theorem positive_append {ivs jvs : List Interval} :
    Positive (ivs ++ jvs) ↔ Positive ivs ∧ Positive jvs :=
  List.forall_mem_append

theorem positive_cons {iv : Interval} {ivs : List Interval} :
    Positive (iv :: ivs) ↔ (1 ≤ iv.start.toInt ∧ iv.start.toInt ≤ iv.stop.toInt) ∧ Positive ivs :=
  List.forall_mem_cons

theorem Positive.append_singleton {ivs : List Interval} {iv : Interval} (h : Positive ivs)
    (hiv : 1 ≤ iv.start.toInt ∧ iv.start.toInt ≤ iv.stop.toInt) : Positive (ivs ++ [iv]) :=
  positive_append.mpr ⟨h, positive_cons.mpr ⟨hiv, List.forall_mem_nil _⟩⟩

/-- What a list means does not depend on its order. -/
theorem den_perm {ivs jvs : List Interval} (h : ivs.Perm jvs) : den ivs = den jvs := by
  ext x
  simp only [mem_den]
  exact ⟨fun ⟨iv, hiv, hx⟩ => ⟨iv, h.mem_iff.mp hiv, hx⟩,
    fun ⟨iv, hiv, hx⟩ => ⟨iv, h.mem_iff.mpr hiv, hx⟩⟩

/-- `Mysql56GTIDSet`: the Go map from server id to its intervals. -/
abbrev Mysql56GTIDSet := AList fun _ : SID => List Interval

namespace Mysql56GTIDSet

/-- Go's `set[sid]`: the intervals of a server id, `nil` when it is absent. -/
def intervalsOf (set : Mysql56GTIDSet) (sid : SID) : List Interval :=
  (set.lookup sid).getD []

/-- What a GTID set means: the GTIDs it contains, sequence numbers read as integers. -/
def den (set : Mysql56GTIDSet) : Set (SID × Int) :=
  {p | p.2 ∈ Wescale.Mysql.den (set.intervalsOf p.1)}

theorem mem_den {set : Mysql56GTIDSet} {sid : SID} {n : Int} :
    (sid, n) ∈ set.den ↔ n ∈ Wescale.Mysql.den (set.intervalsOf sid) := Iff.rfl

/-- Every server id of the set holds a canonical list. -/
def Canonical (set : Mysql56GTIDSet) : Prop :=
  ∀ sid ivs, set.lookup sid = some ivs → Wescale.Mysql.Canonical ivs

theorem canonical_iff_entries {set : Mysql56GTIDSet} :
    set.Canonical ↔ ∀ e ∈ set.entries, Wescale.Mysql.Canonical e.2 :=
  AList.forall_lookup_iff

instance (set : Mysql56GTIDSet) : Decidable set.Canonical :=
  decidable_of_iff _ canonical_iff_entries.symm

/-- Every server id of the set holds a gapped list: sorted, each interval non-empty, and a
gap after each. The lists may be empty and the starts are not bounded. -/
def Gapped (set : Mysql56GTIDSet) : Prop :=
  ∀ sid ivs, set.lookup sid = some ivs → Wescale.Mysql.Gapped ivs

theorem gapped_iff_entries {set : Mysql56GTIDSet} :
    set.Gapped ↔ ∀ e ∈ set.entries, Wescale.Mysql.Gapped e.2 :=
  AList.forall_lookup_iff

instance (set : Mysql56GTIDSet) : Decidable set.Gapped :=
  decidable_of_iff _ gapped_iff_entries.symm

theorem den_singleton (sid : SID) (ivs : List Interval) :
    Mysql56GTIDSet.den (AList.singleton sid ivs) =
      {p : SID × Int | p.1 = sid ∧ p.2 ∈ Wescale.Mysql.den ivs} := by
  ext ⟨sid', n⟩
  rw [mem_den, intervalsOf, Set.mem_ofPred_eq]
  by_cases h : sid' = sid
  · subst h
    rw [AList.lookup_singleton_self, Option.getD_some]
    simp
  · rw [AList.lookup_singleton_of_ne _ h, Option.getD_none, den_nil]
    simp [h]

/-- Every server id of the set holds a list sorted by start, of intervals with
`1 ≤ start ≤ end`: what the parser guarantees, short of merging. -/
def Sorted (set : Mysql56GTIDSet) : Prop :=
  ∀ sid ivs, set.lookup sid = some ivs →
    ivs ≠ [] ∧ SortedByStart ivs ∧ ∀ iv ∈ ivs, 1 ≤ iv.start.toInt ∧ iv.start.toInt ≤ iv.stop.toInt

/-- The sequence numbers of a canonical set are positive. -/
theorem one_le_of_mem_den {set : Mysql56GTIDSet} (h : set.Canonical) {sid : SID} {n : Int}
    (hn : (sid, n) ∈ set.den) : 1 ≤ n := by
  rw [mem_den, intervalsOf] at hn
  cases hl : set.lookup sid with
  | none =>
    rw [hl, Option.getD_none, den_nil] at hn
    exact absurd hn (Set.notMem_empty n)
  | some ivs =>
    rw [hl, Option.getD_some] at hn
    exact (h sid ivs hl).one_le_of_mem hn

theorem gapped_of_canonical {set : Mysql56GTIDSet} (h : set.Canonical) : set.Gapped :=
  fun sid ivs hl => (h sid ivs hl).gapped

theorem canonical_empty : (∅ : Mysql56GTIDSet).Canonical := by
  intro sid ivs h
  rw [AList.lookup_empty] at h
  cases h

/-- A canonical set is sorted. -/
theorem sorted_of_canonical {set : Mysql56GTIDSet} (h : set.Canonical) : set.Sorted := by
  intro sid ivs hl
  have hc := h sid ivs hl
  exact ⟨hc.ne_nil, hc.sortedByStart, fun iv hiv => ⟨hc.one_le_start iv hiv, hc.gapped.wf hiv⟩⟩

/-- A sorted set whose lists are gapped is canonical. -/
theorem canonical_of_sorted {set : Mysql56GTIDSet} (hs : set.Sorted) (hg : set.Gapped) :
    set.Canonical := by
  intro sid ivs h
  obtain ⟨hne, -, hwf⟩ := hs sid ivs h
  exact ⟨hne, fun iv hiv => (hwf iv hiv).1, hg sid ivs h⟩

/-- Every server id holds a non-empty list of positive intervals: what `String` prints so that
the parser reads it back. -/
def Positive (set : Mysql56GTIDSet) : Prop :=
  ∀ sid ivs, set.lookup sid = some ivs → ivs ≠ [] ∧ Wescale.Mysql.Positive ivs

theorem Sorted.positive {set : Mysql56GTIDSet} (h : set.Sorted) : set.Positive :=
  fun sid ivs hl => ⟨(h sid ivs hl).1, (h sid ivs hl).2.2⟩

end Mysql56GTIDSet

/-! ## `ContainsGTID` -/

/-- The loop of `ContainsGTID` over one server's intervals: stop with `false` at the first
interval that starts past the sequence number, with `true` at the first that reaches it. -/
def containsSequence (seq : Int64) : List Interval → Bool
  | [] => false
  | iv :: ivs => if iv.start > seq then false else if seq ≤ iv.stop then true else containsSequence seq ivs

/-- `ContainsGTID`: look the server up and run the loop over its intervals. -/
def Mysql56GTIDSet.containsGTID (set : Mysql56GTIDSet) (gtid : Mysql56GTID) : Bool :=
  containsSequence gtid.sequence (set.intervalsOf gtid.server)

/-- The early `false` of `ContainsGTID` is sound on every list sorted by start: no later
interval starts early enough. Overlapping or touching intervals do no harm. -/
theorem containsSequence_iff {seq : Int64} :
    ∀ {ivs : List Interval}, SortedByStart ivs →
      (containsSequence seq ivs = true ↔ seq.toInt ∈ den ivs)
  | [], _ => by simp [containsSequence]
  | iv :: ivs, hs => by
    obtain ⟨hhead, htail⟩ := List.pairwise_cons.mp hs
    have ih := @containsSequence_iff seq ivs htail
    simp only [containsSequence, mem_den_cons, gt_iff_lt, Int64.lt_iff_toInt_lt,
      Int64.le_iff_toInt_le]
    by_cases hlt : seq.toInt < iv.start.toInt
    · -- Every later interval starts at or after this one, so past `seq`.
      simp only [hlt, if_true, Bool.false_eq_true, false_iff, not_or, not_and, not_le]
      refine ⟨fun h => absurd h (by omega), fun h => ?_⟩
      obtain ⟨jv, hjv, hj⟩ := mem_den.mp h
      have := hhead jv hjv
      omega
    · by_cases hle : seq.toInt ≤ iv.stop.toInt
      · simp [hlt, hle]
        omega
      · -- Past this interval: the answer is the rest of the loop's.
        simp [hlt, hle, ih]

theorem containsGTID_iff {set : Mysql56GTIDSet} (hset : set.Sorted) (gtid : Mysql56GTID) :
    set.containsGTID gtid = true ↔ (gtid.server, gtid.sequence.toInt) ∈ set.den := by
  unfold Mysql56GTIDSet.containsGTID Mysql56GTIDSet.intervalsOf
  rw [Mysql56GTIDSet.mem_den, Mysql56GTIDSet.intervalsOf]
  cases hl : set.lookup gtid.server with
  | none => exact containsSequence_iff .nil
  | some ivs => exact containsSequence_iff (hset _ _ hl).2.1

end Wescale.Mysql
