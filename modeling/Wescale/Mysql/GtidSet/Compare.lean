import Wescale.Mysql.GtidSet.Basic
import Mathlib

/-!
# `Mysql56GTIDSet.Contains` and `Mysql56GTIDSet.Equal` (`go/mysql/mysql56_gtid_set.go`)

`Contains` checks, server id by server id of the other set, that each of its intervals fits
inside ONE interval of the receiver, with a cursor into the receiver's list that moves only
forward. `Equal` compares the number of server ids, then each list of the receiver with the
other set's list for the same server id, element by element.

## What is proved

- `coverLoop_sound`, `contains_sound` — a `true` answer of `Contains` is always right: the
  other set's GTIDs are all in the receiver. No assumption on either set.
- `coverLoop_complete`, `contains_iff` — when the receiver's lists are gapped (merged) and
  the other set's lists are sorted by start, `Contains` answers inclusion exactly. The
  cursor may skip an interval of the receiver for good because the other set's next
  interval starts no earlier, and a gapped list's skipped intervals all end before it.
- `equal_iff_lookup`, `equal_iff_den` — `Equal` compares the maps themselves when the
  receiver holds no empty list, and so compares what two canonical sets mean.

What is NOT proved here: completeness without a merged receiver. It fails, and the parser
does not merge (see `Wescale.Mysql.GtidSet.Parsed`).
-/

set_option autoImplicit false

namespace Wescale.Mysql

/-! ## `Contains` -/

/-- The inner `for {}` of `Contains`: move the cursor to the first interval of the receiver
that contains `iv`, or report that the receiver ran out. The cursor is the rest of the
receiver's list from it. -/
def findCover (iv : Interval) : List Interval → Option (List Interval)
  | [] => none
  | s :: ss => if s.contains iv then some (s :: ss) else findCover iv ss

/-- The loop of `Contains` over one server id of the other set: each interval in turn,
from where the cursor stopped for the previous one. -/
def coverLoop : List Interval → List Interval → Bool
  | _, [] => true
  | rest, iv :: ivs =>
    match findCover iv rest with
    | none => false
    | some rest' => coverLoop rest' ivs

/-- `Contains`: every server id of the other set passes the loop against the receiver's
intervals for it (none when the receiver lacks the server id). -/
def Mysql56GTIDSet.contains (set other : Mysql56GTIDSet) : Bool :=
  other.entries.all fun e => coverLoop (set.intervalsOf e.1) e.2

/-- Where the cursor stops: past a prefix none of whose intervals contains `iv`, at one
that does. -/
theorem findCover_eq_some {iv : Interval} :
    ∀ {rest rest' : List Interval}, findCover iv rest = some rest' →
      ∃ pre s ss, rest = pre ++ s :: ss ∧ rest' = s :: ss ∧ s.contains iv = true ∧
        ∀ p ∈ pre, p.contains iv = false
  | [], _, h => by simp [findCover] at h
  | s :: ss, rest', h => by
    unfold findCover at h
    by_cases hs : s.contains iv = true
    · rw [if_pos hs] at h
      cases h
      exact ⟨[], s, ss, rfl, rfl, hs, by simp⟩
    · rw [if_neg hs] at h
      obtain ⟨pre, t, ts, rfl, rfl, ht, hpre⟩ := findCover_eq_some h
      refine ⟨s :: pre, t, ts, rfl, rfl, ht, ?_⟩
      intro p hp
      rcases List.mem_cons.mp hp with rfl | hp
      · simpa using hs
      · exact hpre p hp

/-- The cursor finds an interval whenever the rest of the receiver has one. -/
theorem findCover_isSome {iv : Interval} :
    ∀ {rest : List Interval}, (∃ s ∈ rest, s.contains iv = true) →
      (findCover iv rest).isSome = true
  | [], h => by simp at h
  | s :: ss, h => by
    unfold findCover
    by_cases hs : s.contains iv = true
    · rw [if_pos hs]; rfl
    · rw [if_neg hs]
      obtain ⟨t, ht, htc⟩ := h
      rcases List.mem_cons.mp ht with rfl | ht
      · exact absurd htc hs
      · exact findCover_isSome ⟨t, ht, htc⟩

theorem den_subset_of_contains {s iv : Interval} (h : s.contains iv = true) :
    den [iv] ⊆ den [s] := by
  intro x hx
  rw [Interval.contains_iff] at h
  simp only [mem_den_cons, den_nil, Set.mem_empty_iff_false, or_false] at hx ⊢
  omega

/-- A `true` answer of the loop is right, whatever the two lists are. -/
theorem coverLoop_sound : ∀ {rest ivs : List Interval}, coverLoop rest ivs = true →
    den ivs ⊆ den rest
  | _, [], _ => by simp
  | rest, iv :: ivs, h => by
    unfold coverLoop at h
    cases hf : findCover iv rest with
    | none => rw [hf] at h; cases h
    | some rest' =>
      rw [hf] at h
      obtain ⟨pre, s, ss, rfl, rfl, hs, -⟩ := findCover_eq_some hf
      have htail := coverLoop_sound h
      rw [den_cons]
      apply Set.union_subset
      · exact (den_subset_of_contains hs).trans (den_singleton_subset_of_mem (by simp))
      · refine htail.trans ?_
        rw [den_append]
        exact Set.subset_union_right

/-- Against a gapped receiver, an interval that starts at or after `iv` misses every
interval the cursor skipped on the way to `iv`'s cover. -/
theorem den_subset_of_skipped {pre : List Interval} {s : Interval} {ss : List Interval}
    (hgap : Gapped (pre ++ s :: ss)) {iv jv : Interval} (hs : s.contains iv = true)
    (hstart : iv.start.toInt ≤ jv.start.toInt) (hjv : den [jv] ⊆ den (pre ++ s :: ss)) :
    den [jv] ⊆ den (s :: ss) := by
  intro x hx
  have hin := hjv hx
  rw [den_append] at hin
  rcases hin with hin | hin
  · exfalso
    obtain ⟨p, hp, hpx⟩ := mem_den.mp hin
    have hsorted := Ranges.Canonical.sorted hgap
    rw [List.map_append] at hsorted
    have hb := (List.pairwise_append.mp hsorted).2.2 _
      (List.mem_map_of_mem hp) _ (List.mem_map_of_mem (List.mem_cons_self))
    rw [Interval.toRange_before_iff, Interval.toRange_lo] at hb
    rw [Interval.contains_iff] at hs
    simp only [mem_den_cons, den_nil, Set.mem_empty_iff_false, or_false] at hx
    omega
  · exact hin

/-- Against a gapped receiver, the loop answers `true` for every list sorted by start of
non-empty intervals that the receiver covers. -/
theorem coverLoop_complete : ∀ {ivs rest : List Interval}, Gapped rest → SortedByStart ivs →
    (∀ iv ∈ ivs, iv.start.toInt ≤ iv.stop.toInt) → den ivs ⊆ den rest →
    coverLoop rest ivs = true
  | [], _, _, _, _, _ => rfl
  | iv :: ivs, rest, hgap, hsorted, hwf, hsub => by
    obtain ⟨hhead, htail⟩ := List.pairwise_cons.mp hsorted
    have hivwf := hwf iv List.mem_cons_self
    -- The interval is one block of the receiver's integers, so one interval covers it.
    obtain ⟨r, hr, hrlo, hrhi⟩ := Ranges.Canonical.exists_cover hgap hivwf
      (fun x hx1 hx2 => hsub (mem_den_cons.mpr (.inl ⟨hx1, hx2⟩)))
    obtain ⟨s, hs, rfl⟩ := List.mem_map.mp hr
    have hsome := @findCover_isSome iv _ ⟨s, hs, Interval.contains_iff.mpr ⟨hrlo, hrhi⟩⟩
    obtain ⟨rest', hf⟩ := Option.isSome_iff_exists.mp hsome
    obtain ⟨pre, t, ts, rfl, rfl, ht, -⟩ := findCover_eq_some hf
    unfold coverLoop
    rw [hf]
    apply coverLoop_complete hgap.of_append_right htail
      (fun jv hjv => hwf jv (List.mem_cons_of_mem _ hjv))
    intro x hx
    obtain ⟨jv, hjv, hjx⟩ := mem_den.mp hx
    have hjsub : den [jv] ⊆ den (pre ++ t :: ts) := fun y hy =>
      hsub (by
        rw [← List.singleton_append, den_append]
        exact .inr (mem_den.mpr ⟨jv, hjv, by
          simpa only [mem_den_cons, den_nil, Set.mem_empty_iff_false, or_false] using hy⟩))
    exact den_subset_of_skipped hgap ht (hhead jv hjv) hjsub (by simpa using hjx)

theorem mem_den_intervalsOf {set : Mysql56GTIDSet} {sid : SID} {ivs : List Interval}
    (h : set.lookup sid = some ivs) : set.intervalsOf sid = ivs := by
  simp [Mysql56GTIDSet.intervalsOf, h]

/-- A `true` answer of `Contains` is right, whatever the two sets are. -/
theorem contains_sound {set other : Mysql56GTIDSet} (h : set.contains other = true) :
    other.den ⊆ set.den := by
  rintro ⟨sid, n⟩ hn
  rw [Mysql56GTIDSet.mem_den, Mysql56GTIDSet.intervalsOf] at hn ⊢
  cases hl : other.lookup sid with
  | none => rw [hl] at hn; simp at hn
  | some ivs =>
    rw [hl] at hn
    have hmem : (⟨sid, ivs⟩ : Sigma fun _ : SID => List Interval) ∈ other.entries :=
      AList.mem_lookup_iff.mp hl
    have hloop := List.all_eq_true.mp h _ hmem
    exact coverLoop_sound hloop hn

/-- `Contains` decides inclusion when the receiver's lists are gapped and the other set's
are sorted by start of non-empty intervals. -/
theorem contains_iff {set other : Mysql56GTIDSet}
    (hset : ∀ sid ivs, set.lookup sid = some ivs → Gapped ivs) (hother : other.Sorted) :
    set.contains other = true ↔ other.den ⊆ set.den := by
  refine ⟨contains_sound, fun hsub => List.all_eq_true.mpr ?_⟩
  rintro ⟨sid, ivs⟩ hmem
  have hl : other.lookup sid = some ivs := AList.mem_lookup_iff.mpr hmem
  obtain ⟨-, hsorted, hwf⟩ := hother sid ivs hl
  have hgap : Gapped (set.intervalsOf sid) := by
    unfold Mysql56GTIDSet.intervalsOf
    cases hs : set.lookup sid with
    | none => exact gapped_nil
    | some jvs => exact hset sid jvs hs
  refine coverLoop_complete hgap hsorted (fun iv hiv => (hwf iv hiv).2) ?_
  intro n hn
  have := hsub (show (sid, n) ∈ other.den by
    rw [Mysql56GTIDSet.mem_den, mem_den_intervalsOf hl]; exact hn)
  exact this

/-! ## `Equal` -/

/-- `Equal`: the same number of server ids, and each list of the receiver equal, element by
element, to the other set's list for its server id (`nil` when absent). -/
def Mysql56GTIDSet.equal (set other : Mysql56GTIDSet) : Bool :=
  set.entries.length == other.entries.length &&
    set.entries.all fun e => decide (e.2 = other.intervalsOf e.1)

/-- When the receiver holds no empty list, `Equal` compares the two maps. -/
theorem equal_iff_lookup {set other : Mysql56GTIDSet}
    (hne : ∀ sid ivs, set.lookup sid = some ivs → ivs ≠ []) :
    set.equal other = true ↔ ∀ sid, set.lookup sid = other.lookup sid := by
  unfold Mysql56GTIDSet.equal
  rw [Bool.and_eq_true, beq_iff_eq, List.all_eq_true]
  constructor
  · intro ⟨hlen, hall⟩
    -- Every key of the receiver is a key of the other set, and there are as many.
    have hsub : ∀ sid ivs, set.lookup sid = some ivs → other.lookup sid = some ivs := by
      intro sid ivs hl
      have heq := of_decide_eq_true (hall _ (AList.mem_lookup_iff.mp hl))
      unfold Mysql56GTIDSet.intervalsOf at heq
      cases ho : other.lookup sid with
      | none => rw [ho] at heq; exact (hne sid ivs hl heq).elim
      | some jvs => rw [ho] at heq; exact congrArg some heq.symm
    have hkeys : other.keys ⊆ set.keys := by
      have hsk : set.keys ⊆ other.keys := by
        intro sid hsid
        obtain ⟨ivs, hl⟩ := Option.isSome_iff_exists.mp (AList.lookup_isSome.mpr
          (AList.mem_keys.mpr hsid))
        exact AList.mem_keys.mp (AList.lookup_isSome.mp (by rw [hsub sid ivs hl]; rfl))
      have hlen' : set.keys.length = other.keys.length := by
        simpa [AList.keys, List.keys] using hlen
      have hperm : set.keys.Perm other.keys :=
        (List.Nodup.subperm set.keys_nodup hsk).perm_of_length_le (by omega)
      exact hperm.symm.subset
    intro sid
    cases hl : set.lookup sid with
    | some ivs => rw [hsub sid ivs hl]
    | none =>
      cases ho : other.lookup sid with
      | none => rfl
      | some jvs =>
        have hin : sid ∈ set.keys := hkeys (AList.mem_keys.mp (AList.lookup_isSome.mp (by
          rw [ho]; rfl)))
        exact ((AList.lookup_eq_none.mp hl) (AList.mem_keys.mpr hin)).elim
  · intro h
    refine ⟨?_, ?_⟩
    · have hp := List.lookup_ext set.nodupKeys other.nodupKeys (fun x y => by
        rw [← AList.lookup, ← AList.lookup, h x])
      exact hp.length_eq
    · rintro ⟨sid, ivs⟩ hmem
      have hl : set.lookup sid = some ivs := AList.mem_lookup_iff.mpr hmem
      simp [Mysql56GTIDSet.intervalsOf, ← h sid, hl]

/-- On canonical sets `Equal` answers whether the two sets mean the same GTIDs. -/
theorem equal_iff_den {set other : Mysql56GTIDSet} (hs : set.Canonical)
    (ho : other.Canonical) : set.equal other = true ↔ set.den = other.den := by
  rw [equal_iff_lookup (fun sid ivs h => (hs sid ivs h).ne_nil)]
  constructor
  · intro h
    ext ⟨sid, n⟩
    simp only [Mysql56GTIDSet.mem_den, Mysql56GTIDSet.intervalsOf, h sid]
  · intro h sid
    -- What the two sets mean at `sid` agrees, and a canonical list covers something.
    have hsid : den (set.intervalsOf sid) = den (other.intervalsOf sid) := by
      ext n
      exact Set.ext_iff.mp h (sid, n)
    unfold Mysql56GTIDSet.intervalsOf at hsid
    cases hl : set.lookup sid <;> cases hr : other.lookup sid <;>
      simp only [hl, hr, Option.getD_none, Option.getD_some] at hsid
    · rfl
    · obtain ⟨x, hx⟩ := (ho sid _ hr).den_nonempty
      rw [← hsid, den_nil] at hx
      exact absurd hx (Set.notMem_empty x)
    · obtain ⟨x, hx⟩ := (hs sid _ hl).den_nonempty
      rw [hsid, den_nil] at hx
      exact absurd hx (Set.notMem_empty x)
    · rw [Gapped.eq_of_den_eq (hs sid _ hl).gapped (ho sid _ hr).gapped hsid]

end Wescale.Mysql
