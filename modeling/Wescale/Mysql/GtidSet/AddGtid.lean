import Mathlib
import Wescale.Mysql.GtidSet.Union

/-!
# `Mysql56GTIDSet.AddGTID` (`go/mysql/mysql56_gtid_set.go`)

`AddGTID` returns the receiver when it already contains the GTID. Otherwise it copies the
map, and for the GTID's server walks the intervals with a flag `added`: while it is unset, a
`switch` extends an interval at its start or its end, or inserts `[seq, seq]` before it; after
the `switch`, each interval is merged into the previous one when it starts right after it.
When nothing was added, `[seq, seq]` is appended to the server's list.

## What is proved

- `addLoop_eq_unionSweep`, `addIntervals_eq_unionIntervals`: on a canonical list that does not
  contain the sequence number, the loop produces exactly what `Union` produces with the one
  interval `[seq, seq]`. `AddGTID` of one GTID refines `Union` with the one-GTID set.
- `addGTID_canonical`: from there, on canonical sets `AddGTID` keeps the canonical form and
  adds exactly the GTID, by the properties of `Union` (`unionIntervals_canonical`).

Sequence numbers below 1 are left out: the parser of sets never yields them, and
`iv.start-1 == seq` would then meet intervals that start at the bottom of `int64`.
-/

set_option autoImplicit false

namespace Wescale.Mysql

/-! ## The model -/

/-- The `switch` of the loop, taken while nothing has been added: whether the GTID went in,
the interval to store, and `newIntervals` (with `[seq, seq]` when it was inserted). -/
def addSwitch (seq : Int64) (newIntervals : List Interval) (iv : Interval) :
    Bool × Interval × List Interval :=
  if seq = iv.start - 1 then (true, { iv with start := seq }, newIntervals)
  else if seq = iv.stop + 1 then (true, { iv with stop := seq }, newIntervals)
  else if seq < iv.start - 1 then (true, iv, newIntervals ++ [⟨seq, seq⟩])
  else (false, iv, newIntervals)

/-- The end of the loop body: merge into the last interval when `iv` starts right after it,
append otherwise. -/
def addMerge (newIntervals : List Interval) (iv : Interval) : List Interval :=
  match newIntervals.getLast? with
  | some last =>
    if iv.start = last.stop + 1 then newIntervals.dropLast ++ [{ last with stop := iv.stop }]
    else newIntervals ++ [iv]
  | none => newIntervals ++ [iv]

/-- One pass of the loop over the GTID's server: the flag `added` and `newIntervals`. -/
def addStep (seq : Int64) (st : Bool × List Interval) (iv : Interval) : Bool × List Interval :=
  if st.1 then (true, addMerge st.2 iv)
  else
    let r := addSwitch seq st.2 iv
    (r.1, addMerge r.2.2 r.2.1)

/-- The list `AddGTID` stores for the GTID's server: the loop, then `[seq, seq]` appended
when nothing was added. -/
def addIntervals (seq : Int64) (intervals : List Interval) : List Interval :=
  let r := intervals.foldl (addStep seq) (false, [])
  if r.1 then r.2 else r.2 ++ [⟨seq, seq⟩]

/-- `AddGTID`: the receiver when it contains the GTID; otherwise the copy, with the GTID's
server rewritten by the loop, and the append when the loop added nothing. -/
def Mysql56GTIDSet.addGTID (set : Mysql56GTIDSet) (gtid : Mysql56GTID) : Mysql56GTIDSet :=
  if set.containsGTID gtid then set
  else
    let added := ((set.intervalsOf gtid.server).foldl (addStep gtid.sequence) (false, [])).1
    let newSet := set.filterMapVals fun sid intervals =>
      some (if sid = gtid.server then (intervals.foldl (addStep gtid.sequence) (false, [])).2
        else intervals)
    if added then newSet
    else newSet.insert gtid.server
      (Mysql56GTIDSet.intervalsOf newSet gtid.server ++ [⟨gtid.sequence, gtid.sequence⟩])

/-! ## The switch and the merge, case by case -/

section Cases

variable {seq : Int64} {acc : List Interval} {iv : Interval}

theorem addSwitch_of_before (hstart : 1 ≤ iv.start.toInt) (h : iv.stop.toInt + 1 < seq.toInt)
    (hwf : iv.start.toInt ≤ iv.stop.toInt) : addSwitch seq acc iv = (false, iv, acc) := by
  have hsub : (iv.start - 1).toInt = iv.start.toInt - 1 := Int64.toInt_sub_one_of_lt (by omega)
  have hadd : (iv.stop + 1).toInt = iv.stop.toInt + 1 :=
    Int64.toInt_add_one_of_lt_toInt (show iv.stop.toInt < seq.toInt by omega)
  have h1 : seq ≠ iv.start - 1 := fun he => by
    have := congrArg Int64.toInt he
    omega
  have h2 : seq ≠ iv.stop + 1 := fun he => by
    have := congrArg Int64.toInt he
    omega
  have h3 : ¬seq < iv.start - 1 := by
    rw [Int64.lt_iff_toInt_lt, hsub]
    omega
  simp only [addSwitch, if_neg h1, if_neg h2, if_neg h3]

theorem addSwitch_of_touch_after (hstart : 1 ≤ iv.start.toInt) (h : iv.stop.toInt + 1 = seq.toInt)
    (hwf : iv.start.toInt ≤ iv.stop.toInt) :
    addSwitch seq acc iv = (true, { iv with stop := seq }, acc) := by
  have hsub : (iv.start - 1).toInt = iv.start.toInt - 1 := Int64.toInt_sub_one_of_lt (by omega)
  have hadd : (iv.stop + 1).toInt = iv.stop.toInt + 1 :=
    Int64.toInt_add_one_of_lt_toInt (show iv.stop.toInt < seq.toInt by omega)
  have h1 : seq ≠ iv.start - 1 := fun he => by
    have := congrArg Int64.toInt he
    omega
  have h2 : seq = iv.stop + 1 := Int64.toInt_inj.mp (by omega)
  simp only [addSwitch, if_neg h1, if_pos h2]

theorem addSwitch_of_touch_before (h : seq.toInt + 1 = iv.start.toInt) :
    addSwitch seq acc iv = (true, { iv with start := seq }, acc) := by
  have hsub : (iv.start - 1).toInt = iv.start.toInt - 1 :=
    Int64.toInt_sub_one_of_lt_toInt (show seq.toInt < iv.start.toInt by omega)
  have h1 : seq = iv.start - 1 := Int64.toInt_inj.mp (by omega)
  simp only [addSwitch, if_pos h1]

theorem addSwitch_of_gap_before (hseq : 1 ≤ seq.toInt) (h : seq.toInt + 1 < iv.start.toInt)
    (hwf : iv.start.toInt ≤ iv.stop.toInt) : addSwitch seq acc iv = (true, iv, acc ++ [⟨seq, seq⟩]) := by
  have hsub : (iv.start - 1).toInt = iv.start.toInt - 1 :=
    Int64.toInt_sub_one_of_lt_toInt (show seq.toInt < iv.start.toInt by omega)
  have h1 : seq ≠ iv.start - 1 := fun he => by
    have := congrArg Int64.toInt he
    omega
  -- `iv.stop + 1` may wrap, but then it is negative and the sequence number is not
  have h2 : seq ≠ iv.stop + 1 := fun he => by
    have := congrArg Int64.toInt he
    rw [Int64.toInt_add_one_eq] at this
    split at this <;> omega
  have h3 : seq < iv.start - 1 := by
    rw [Int64.lt_iff_toInt_lt, hsub]
    omega
  simp only [addSwitch, if_neg h1, if_neg h2, if_pos h3]

/-- The merge on a non-empty list, its two outcomes spelled out. -/
theorem addMerge_concat (done : List Interval) (last : Interval) :
    addMerge (done ++ [last]) iv =
      if iv.start = last.stop + 1 then done ++ [{ last with stop := iv.stop }]
      else done ++ [last, iv] := by
  unfold addMerge
  rw [List.getLast?_concat]
  simp only [List.dropLast_concat, List.append_assoc, List.singleton_append]

theorem addMerge_of_gap (h : ∀ a ∈ acc.getLast?, a.stop.toInt + 1 < iv.start.toInt) :
    addMerge acc iv = acc ++ [iv] := by
  rcases List.eq_nil_or_concat acc with rfl | ⟨done, last, rfl⟩
  · rfl
  · simp only [List.concat_eq_append] at h ⊢
    have hlast := h last (by simp)
    have hadd : (last.stop + 1).toInt = last.stop.toInt + 1 :=
      Int64.toInt_add_one_of_lt_toInt (show last.stop.toInt < iv.start.toInt by omega)
    have hne : iv.start ≠ last.stop + 1 := fun he => by
      have := congrArg Int64.toInt he
      omega
    rw [addMerge_concat, if_neg hne, List.append_assoc, List.singleton_append]

theorem getLast?_addMerge : ∀ a ∈ (addMerge acc iv).getLast?, a.stop = iv.stop := by
  rcases List.eq_nil_or_concat acc with rfl | ⟨done, last, rfl⟩
  · simp [addMerge]
  · rw [List.concat_eq_append, addMerge_concat]
    split <;> simp

theorem unionStep_of_gap (hwf : iv.start.toInt ≤ iv.stop.toInt)
    (h : ∀ a ∈ acc.getLast?, a.stop.toInt + 1 < iv.start.toInt) :
    unionStep acc iv = acc ++ [iv] := by
  rcases List.eq_nil_or_concat acc with rfl | ⟨done, last, rfl⟩
  · rfl
  · simp only [List.concat_eq_append] at h ⊢
    have hlast := h last (by simp)
    have hadd : (last.stop + 1).toInt = last.stop.toInt + 1 :=
      Int64.toInt_add_one_of_lt_toInt (show last.stop.toInt < iv.start.toInt by omega)
    have hin : ¬iv.stop ≤ last.stop := by
      rw [Int64.le_iff_toInt_le]
      omega
    have hgap : iv.start > last.stop + 1 := by
      rw [gt_iff_lt, Int64.lt_iff_toInt_lt, hadd]
      omega
    rw [unionStep_concat, if_neg hin, if_pos hgap, List.append_assoc, List.singleton_append]

theorem unionStep_of_touch {done : List Interval} {last : Interval}
    (h : iv.start.toInt = last.stop.toInt + 1) (hlt : last.stop.toInt < iv.stop.toInt) :
    unionStep (done ++ [last]) iv = done ++ [{ last with stop := iv.stop }] := by
  have hadd : (last.stop + 1).toInt = last.stop.toInt + 1 := Int64.toInt_add_one_of_lt_toInt hlt
  have hin : ¬iv.stop ≤ last.stop := by
    rw [Int64.le_iff_toInt_le]
    omega
  have hgap : ¬iv.start > last.stop + 1 := by
    rw [gt_iff_lt, Int64.lt_iff_toInt_lt, hadd]
    omega
  rw [unionStep_concat, if_neg hin, if_neg hgap]

/-- Past the last interval's end, `AddGTID`'s merge and `Union`'s step agree: both extend the
last interval when `iv` starts right after it, and append otherwise. -/
theorem addMerge_eq_unionStep (hwf : iv.start.toInt ≤ iv.stop.toInt)
    (h : ∀ a ∈ acc.getLast?, a.stop.toInt < iv.start.toInt) : addMerge acc iv = unionStep acc iv := by
  rcases List.eq_nil_or_concat acc with rfl | ⟨done, last, rfl⟩
  · rfl
  · simp only [List.concat_eq_append] at h ⊢
    have hlast := h last (by simp)
    by_cases htouch : iv.start.toInt = last.stop.toInt + 1
    · have hadd : (last.stop + 1).toInt = last.stop.toInt + 1 :=
        Int64.toInt_add_one_of_lt_toInt (show last.stop.toInt < iv.stop.toInt by omega)
      have heq : iv.start = last.stop + 1 := Int64.toInt_inj.mp (by omega)
      rw [unionStep_of_touch htouch (by omega), addMerge_concat, if_pos heq]
    · have hgap : ∀ a ∈ (done ++ [last]).getLast?, a.stop.toInt + 1 < iv.start.toInt := by
        simp only [List.getLast?_concat, Option.mem_def, Option.some.injEq, forall_eq']
        omega
      rw [unionStep_of_gap hwf hgap, addMerge_of_gap hgap]

end Cases

/-! ## The loop refines the `Union` sweep -/

/-- Once the GTID is in, the loop runs `Union`'s step over the rest of a gapped list. -/
theorem foldl_addStep_added (seq : Int64) : ∀ {rest acc : List Interval}, Gapped rest →
    (∀ a ∈ acc.getLast?, ∀ r ∈ rest, a.stop.toInt < r.start.toInt) →
    rest.foldl (addStep seq) (true, acc) = (true, rest.foldl unionStep acc)
  | [], _, _, _ => rfl
  | r :: rest, acc, hgap, hlast => by
    obtain ⟨hwf, hafter, hrest⟩ := gapped_cons_iff.mp hgap
    have hmerge := addMerge_eq_unionStep hwf fun a ha => hlast a ha r List.mem_cons_self
    have hstep : addStep seq (true, acc) r = (true, unionStep acc r) := by
      rw [← hmerge]
      rfl
    rw [List.foldl_cons, List.foldl_cons, hstep]
    apply foldl_addStep_added seq hrest
    intro a ha r' hr'
    rw [← hmerge] at ha
    rw [getLast?_addMerge a ha]
    have := hafter r' hr'
    omega

theorem merge_singleton_of_lt {x : Interval} {rest : List Interval}
    (h : ∀ r ∈ rest.head?, x.start.toInt < r.start.toInt) : rest.merge [x] startLE = x :: rest := by
  cases rest with
  | nil => exact List.nil_merge _
  | cons r rest =>
    have hr := h r rfl
    rw [List.cons_merge_cons_neg _ _ _ (by simp [startLE, Int64.le_iff_toInt_le]; omega),
      List.merge_right]

/-- The loop from `added = false`, with a prefix `acc` that ends before `seq` with a gap:
finished by the append, it is the `Union` sweep over the rest merged with `[seq, seq]`.
By induction on the rest, with one case for each place the interval can take relative to
`seq`: before it with a gap, touching it from below or from above, or after it with a gap. -/
theorem addLoop_eq_unionSweep {seq : Int64} (hseq : 1 ≤ seq.toInt) :
    ∀ {ivs acc : List Interval}, Gapped (acc ++ ivs) → (∀ iv ∈ ivs, 1 ≤ iv.start.toInt) →
      seq.toInt ∉ den ivs → (∀ a ∈ acc, a.stop.toInt + 1 < seq.toInt) →
      (let r := ivs.foldl (addStep seq) (false, acc); if r.1 then r.2 else r.2 ++ [⟨seq, seq⟩]) =
        (ivs.merge [⟨seq, seq⟩] startLE).foldl unionStep acc
  | [], acc, _, _, _, hacc => by
    rw [List.nil_merge, List.foldl_cons, List.foldl_nil,
      unionStep_of_gap le_rfl fun a ha => hacc a (List.mem_of_getLast? ha)]
    rfl
  | iv :: ivs, acc, hgap, hpos, hnot, hacc => by
    have hcons : Gapped (iv :: ivs) := hgap.of_append_right
    obtain ⟨hwf, hafter, hrest⟩ := gapped_cons_iff.mp hcons
    have hbefore : ∀ a ∈ acc.getLast?, a.stop.toInt + 1 < iv.start.toInt := fun a ha =>
      hgap.stop_lt_of_append (List.mem_of_getLast? ha) List.mem_cons_self
    have hstart := hpos iv List.mem_cons_self
    have hnotiv : ¬(iv.start.toInt ≤ seq.toInt ∧ seq.toInt ≤ iv.stop.toInt) := fun hin =>
      hnot (mem_den_cons.mpr (.inl hin))
    have hnotrest : seq.toInt ∉ den ivs := fun hin => hnot (mem_den_cons.mpr (.inr hin))
    by_cases hbelow : iv.stop.toInt < seq.toInt
    · have hmerge : (iv :: ivs).merge [⟨seq, seq⟩] startLE = iv :: ivs.merge [⟨seq, seq⟩] startLE :=
        List.cons_merge_cons_pos _ _ _ (by simp [startLE, Int64.le_iff_toInt_le]; omega)
      have hunion : unionStep acc iv = acc ++ [iv] := unionStep_of_gap hwf hbefore
      by_cases hgapbelow : iv.stop.toInt + 1 < seq.toInt
      · -- before `seq` with a gap: nothing happens, the prefix grows by `iv`
        have hstep : addStep seq (false, acc) iv = (false, acc ++ [iv]) := by
          simp only [addStep, addSwitch_of_before hstart hgapbelow hwf, addMerge_of_gap hbefore,
            Bool.false_eq_true, if_false]
        rw [hmerge, List.foldl_cons, List.foldl_cons, hstep, hunion]
        refine addLoop_eq_unionSweep hseq (by simpa using hgap) (fun jv hjv => hpos jv (by simp [hjv]))
          hnotrest ?_
        intro a ha
        rcases List.mem_append.mp ha with ha | ha
        · exact hacc a ha
        · rw [List.mem_singleton.mp ha]
          exact hgapbelow
      · -- touching `seq` from below: the interval is extended to end at `seq`
        have htouch : iv.stop.toInt + 1 = seq.toInt := by omega
        have hext : addMerge acc { iv with stop := seq } = acc ++ [{ iv with stop := seq }] :=
          addMerge_of_gap hbefore
        have hstep : addStep seq (false, acc) iv = (true, acc ++ [{ iv with stop := seq }]) := by
          simp only [addStep, addSwitch_of_touch_after hstart htouch hwf, hext,
            Bool.false_eq_true, if_false]
        have hrestmerge : ivs.merge [⟨seq, seq⟩] startLE = ⟨seq, seq⟩ :: ivs :=
          merge_singleton_of_lt fun r hr => by
            have := hafter r (List.mem_of_mem_head? hr)
            show seq.toInt < r.start.toInt
            omega
        have hunion2 : unionStep (acc ++ [iv]) ⟨seq, seq⟩ = acc ++ [{ iv with stop := seq }] :=
          unionStep_of_touch (show seq.toInt = iv.stop.toInt + 1 by omega) hbelow
        rw [hmerge, hrestmerge, List.foldl_cons, List.foldl_cons, List.foldl_cons, hstep, hunion,
          hunion2, foldl_addStep_added seq hrest]
        · rfl
        · intro a ha r hr
          rw [List.getLast?_concat, Option.mem_some_iff] at ha
          subst ha
          have := hafter r hr
          show seq.toInt < r.start.toInt
          omega
    · have habove : seq.toInt < iv.start.toInt := by omega
      have hmerge : (iv :: ivs).merge [⟨seq, seq⟩] startLE = ⟨seq, seq⟩ :: iv :: ivs :=
        merge_singleton_of_lt fun r hr => by
          rw [List.head?_cons, Option.mem_some_iff] at hr
          subst hr
          exact habove
      have hunion : unionStep acc ⟨seq, seq⟩ = acc ++ [⟨seq, seq⟩] :=
        unionStep_of_gap le_rfl fun a ha => hacc a (List.mem_of_getLast? ha)
      have hlater : ∀ a ∈ (acc ++ [iv]).getLast?, ∀ r ∈ ivs, a.stop.toInt < r.start.toInt := by
        intro a ha r hr
        rw [List.getLast?_concat, Option.mem_some_iff] at ha
        subst ha
        have := hafter r hr
        omega
      by_cases htouch : seq.toInt + 1 = iv.start.toInt
      · -- touching `seq` from above: the interval is extended to start at `seq`
        have hext : addMerge acc { iv with start := seq } = acc ++ [{ iv with start := seq }] :=
          addMerge_of_gap fun a ha => by
            have := hacc a (List.mem_of_getLast? ha)
            show a.stop.toInt + 1 < seq.toInt
            exact this
        have hstep : addStep seq (false, acc) iv = (true, acc ++ [{ iv with start := seq }]) := by
          simp only [addStep, addSwitch_of_touch_before htouch, hext, Bool.false_eq_true, if_false]
        have hunion2 : unionStep (acc ++ [⟨seq, seq⟩]) iv = acc ++ [{ iv with start := seq }] :=
          unionStep_of_touch (show iv.start.toInt = seq.toInt + 1 by omega)
            (show seq.toInt < iv.stop.toInt by omega)
        rw [hmerge, List.foldl_cons, List.foldl_cons, List.foldl_cons, hstep, hunion, hunion2,
          foldl_addStep_added seq hrest]
        · rfl
        · intro a ha r hr
          rw [List.getLast?_concat, Option.mem_some_iff] at ha
          subst ha
          have := hafter r hr
          show iv.stop.toInt < r.start.toInt
          omega
      · -- after `seq` with a gap: `[seq, seq]` goes in before the interval
        have hgapabove : seq.toInt + 1 < iv.start.toInt := by omega
        have hnext : addMerge (acc ++ [⟨seq, seq⟩]) iv = acc ++ [⟨seq, seq⟩, iv] := by
          rw [addMerge_of_gap (by simpa using hgapabove), List.append_assoc, List.singleton_append]
        have hstep : addStep seq (false, acc) iv = (true, acc ++ [⟨seq, seq⟩, iv]) := by
          simp only [addStep, addSwitch_of_gap_before hseq hgapabove hwf, hnext, Bool.false_eq_true,
            if_false]
        have hunion2 : unionStep (acc ++ [⟨seq, seq⟩]) iv = acc ++ [⟨seq, seq⟩, iv] := by
          rw [unionStep_of_gap hwf (by simpa using hgapabove), List.append_assoc,
            List.singleton_append]
        rw [hmerge, List.foldl_cons, List.foldl_cons, List.foldl_cons, hstep, hunion, hunion2,
          foldl_addStep_added seq hrest]
        · rfl
        · rw [show acc ++ [⟨seq, seq⟩, iv] = (acc ++ [⟨seq, seq⟩]) ++ [iv] by simp]
          intro a ha r hr
          rw [List.getLast?_concat, Option.mem_some_iff] at ha
          subst ha
          have := hafter r hr
          omega

/-- `AddGTID`'s list for the GTID's server is `Union`'s list for the server with the one
interval `[seq, seq]`. -/
theorem addIntervals_eq_unionIntervals {seq : Int64} {ivs : List Interval} (hgap : Gapped ivs)
    (hpos : ∀ iv ∈ ivs, 1 ≤ iv.start.toInt) (hseq : 1 ≤ seq.toInt) (hnot : seq.toInt ∉ den ivs) :
    addIntervals seq ivs = unionIntervals ivs [⟨seq, seq⟩] := by
  rw [unionIntervals, unionLoop_eq_foldl_merge]
  exact addLoop_eq_unionSweep hseq (by simpa using hgap) hpos hnot (by simp)

example : addIntervals 4 [⟨1, 3⟩, ⟨5, 6⟩] = [⟨1, 6⟩] := by decide

theorem canonical_single {seq : Int64} (hseq : 1 ≤ seq.toInt) : Canonical [⟨seq, seq⟩] :=
  ⟨List.cons_ne_nil _ _, by simpa using hseq, gapped_cons_iff.mpr ⟨le_rfl, by simp, gapped_nil⟩⟩

theorem den_single (seq : Int64) : den [⟨seq, seq⟩] = {seq.toInt} := by
  ext x
  simp only [mem_den_cons, den_nil, Set.mem_empty_iff_false, or_false, Set.mem_singleton_iff]
  omega

/-- The list `AddGTID` stores for the GTID's server is canonical and covers one sequence
number more, whether the server was absent or held a canonical list. -/
theorem addIntervals_canonical {seq : Int64} {ivs : List Interval}
    (hivs : ivs = [] ∨ Canonical ivs) (hseq : 1 ≤ seq.toInt) (hnot : seq.toInt ∉ den ivs) :
    Canonical (addIntervals seq ivs) ∧ den (addIntervals seq ivs) = den ivs ∪ {seq.toInt} := by
  rcases hivs with rfl | hcan
  · refine ⟨canonical_single hseq, ?_⟩
    rw [den_nil, Set.empty_union, ← den_single]
    rfl
  · rw [addIntervals_eq_unionIntervals hcan.gapped hcan.one_le_start hseq hnot, ← den_single]
    exact unionIntervals_canonical hcan (canonical_single hseq)

/-! ## The map -/

/-- What `AddGTID` stores, server id by server id, when the set lacks the GTID. -/
theorem lookup_addGTID {set : Mysql56GTIDSet} {gtid : Mysql56GTID}
    (hnot : set.containsGTID gtid = false) (sid : SID) :
    (set.addGTID gtid).lookup sid =
      if sid = gtid.server then some (addIntervals gtid.sequence (set.intervalsOf gtid.server))
      else set.lookup sid := by
  unfold Mysql56GTIDSet.addGTID
  rw [if_neg (by simp [hnot])]
  dsimp only
  by_cases hsid : sid = gtid.server
  · subst hsid
    rw [if_pos rfl]
    unfold Mysql56GTIDSet.intervalsOf addIntervals
    cases hl : set.lookup gtid.server with
    | none =>
      -- an absent server: the loop ran over nothing and the append makes `[seq, seq]`
      simp [AList.lookup_filterMapVals, hl]
    | some ivs =>
      simp only [Option.getD_some]
      by_cases hadded : (ivs.foldl (addStep gtid.sequence) (false, [])).1 = true
      · simp [hadded, AList.lookup_filterMapVals, hl]
      · simp [hadded, AList.lookup_filterMapVals, hl]
  · split
    · simp [AList.lookup_filterMapVals, hsid]
    · rw [AList.lookup_insert_ne hsid]
      simp [AList.lookup_filterMapVals, hsid]

/-- On a canonical set and a sequence number from 1 on, `AddGTID` keeps the canonical form and
adds exactly the GTID. -/
theorem addGTID_canonical {set : Mysql56GTIDSet} (hset : set.Canonical) {gtid : Mysql56GTID}
    (hseq : 1 ≤ gtid.sequence.toInt) :
    (set.addGTID gtid).Canonical ∧
      (set.addGTID gtid).den = set.den ∪ {(gtid.server, gtid.sequence.toInt)} := by
  have hsorted := Mysql56GTIDSet.sorted_of_canonical hset
  by_cases hc : set.containsGTID gtid = true
  · have hin := (containsGTID_iff hsorted gtid).mp hc
    rw [Mysql56GTIDSet.addGTID, if_pos hc]
    exact ⟨hset, (Set.union_eq_left.mpr (Set.singleton_subset_iff.mpr hin)).symm⟩
  have hnot : set.containsGTID gtid = false := by simpa using hc
  have hnotin : gtid.sequence.toInt ∉ den (set.intervalsOf gtid.server) := fun hin =>
    hc ((containsGTID_iff hsorted gtid).mpr hin)
  have hivs : set.intervalsOf gtid.server = [] ∨ Canonical (set.intervalsOf gtid.server) := by
    unfold Mysql56GTIDSet.intervalsOf
    cases hl : set.lookup gtid.server with
    | none => exact .inl rfl
    | some ivs => exact .inr (hset _ _ hl)
  obtain ⟨hcan, hden⟩ := addIntervals_canonical hivs hseq hnotin
  refine ⟨?_, ?_⟩
  · intro sid ivs h
    rw [lookup_addGTID hnot] at h
    split at h
    · cases h
      exact hcan
    · exact hset sid ivs h
  · ext ⟨sid, n⟩
    have hlook : (set.addGTID gtid).intervalsOf sid =
        if sid = gtid.server then addIntervals gtid.sequence (set.intervalsOf gtid.server)
        else set.intervalsOf sid := by
      unfold Mysql56GTIDSet.intervalsOf
      rw [lookup_addGTID hnot]
      split <;> rfl
    rw [Mysql56GTIDSet.mem_den, hlook, Set.mem_union, Mysql56GTIDSet.mem_den,
      Set.mem_singleton_iff, Prod.mk.injEq]
    by_cases hsid : sid = gtid.server
    · subst hsid
      rw [if_pos rfl, hden, Set.mem_union, Set.mem_singleton_iff]
      simp
    · rw [if_neg hsid]
      simp [hsid]

end Wescale.Mysql
