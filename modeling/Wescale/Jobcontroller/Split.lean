import Wescale.Jobcontroller.Batches
import Wescale.Lib.GoString

/-!
# Splitting a batch that grew (`splitBatchIntoTwo`)

When the count SQL of a batch finds more rows than `batchSize` (rows were inserted since the
batches were cut), `batchRunner` splits the batch before it runs it. `splitBatchIntoTwo` runs
the select that `genSelectPKsSQLByBatchCountSQL` makes of the batch's count SQL, its select
list replaced by the PK columns and no `ORDER BY` added, and walks its rows: the PK of the
`batchSize`-th row becomes the new end of the current batch, the PK of the next row the start of
a new batch. `genNewBatchSQLsAndCountSQLsWhenSplittingBatch` keeps the user's WHERE and splices
the bounds: the current batch keeps its `>=` part and takes `<= end`, the new batch takes
`>= start` and the old `<=` part. The new batch's id is `genNewBatchID` of the old one.

Without an `ORDER BY`, MySQL may return the rows of that select in any order: the model takes
them as a list, any permutation of the PK tuples of the rows the batch matches. The spliced
bounds are texts parsed back by `genExprNodeFromStr`; the model takes them as read back, as
`createBatchTable` does for every batch it creates (`ReadsBack`), the WHERE of a batch as its PK
range (`pkRangeWhere`). The begin and end texts and the count written to the batch table are
left out.

## What is proved

`splitBatchIntoTwo_partitions_of_sorted`: when the rows come in PK order, the two batches split
the rows of the old one between them, match no other row, and the current batch keeps exactly
`batchSize` rows. `split_batch_into_two_order` adds that in another order they need not: with
the rows `3, 1, 2` and `batchSize = 1`, both batches match the row `2`, and the current one
matches all three rows.
-/

set_option autoImplicit false

namespace Wescale.Jobcontroller

open GoString

variable {α : Type} [LinearOrder α]

/-- The loop of `splitBatchIntoTwo` over the rows of the select of the PKs, from the row
`rowCount` on: the row at `batchSize - 1` ends the current batch, and the row at `batchSize`
starts the new one and stops the loop. -/
def splitLoop (batchSize : Nat) :
    Nat → List (List α) → Option (List α) → Option (List α) × Option (List α)
  | _, [], curBatchNewEnd => (curBatchNewEnd, none)
  | rowCount, row :: rows, curBatchNewEnd =>
    let curBatchNewEnd := if rowCount + 1 = batchSize then some row else curBatchNewEnd
    if rowCount = batchSize then (curBatchNewEnd, some row)
    else splitLoop batchSize (rowCount + 1) rows curBatchNewEnd

/-- `genNewBatchSQLsAndCountSQLsWhenSplittingBatch`: the WHEREs of the two batches, each the
user's WHERE `AND` a PK range spliced from the old one's (the new batch's count SQL has the new
batch's WHERE). -/
def genNewBatchSQLsAndCountSQLsWhenSplittingBatch (pkNames : List String) (batchWhere : BatchWhere α)
    (curBatchNewEnd newBatchStart : List α) : BatchWhere α × BatchWhere α :=
  (⟨batchWhere.greatThanPart, genPKsGreaterEqualOrLessEqualStr pkNames curBatchNewEnd false⟩,
    ⟨genPKsGreaterEqualOrLessEqualStr pkNames newBatchStart true, batchWhere.lessThanPart⟩)

/-- `genNewBatchID`: `n` becomes `n-2` and `a-k` becomes `a-(k+1)`, the sum in `int64`; a number
that does not parse is an error. -/
def genNewBatchID (batchID : List Char) : Option (List Char) :=
  if '-' ∈ batchID then
    -- `strings.Split(batchID, "-")`: `parts[0]` is before the first dash, `parts[1]` up to the next
    let (part0, rest, _) := cut '-' batchID
    (parseInt (cut '-' rest).1).map fun num => part0 ++ '-' :: formatInt (Int64.ofInt num + 1).toInt
  else
    (parseInt batchID).map fun num => formatInt num ++ ['-', '2']

/-- `splitBatchIntoTwo` on the batch `batchID` with the WHERE `batchWhere`, given the rows the
select of the PKs returns: the new WHERE of the current batch, the WHERE of the new batch, and
its id. `none` where the Go code fails: with `batchSize` rows or fewer the bound of a missing row
is indexed and panics, and an id `genNewBatchID` cannot read is an error. -/
def splitBatchIntoTwo (pkNames : List String) (batchID : List Char) (batchWhere : BatchWhere α)
    (batchSize : Nat) (rows : List (List α)) : Option (BatchWhere α × BatchWhere α × List Char) :=
  match splitLoop batchSize 0 rows none with
  | (some curBatchNewEnd, some newBatchStart) =>
    let (curBatch, newBatch) :=
      genNewBatchSQLsAndCountSQLsWhenSplittingBatch pkNames batchWhere curBatchNewEnd newBatchStart
    (genNewBatchID batchID).map fun nextBatchID => (curBatch, newBatch, nextBatchID)
  | _ => none

/-! ## The split points -/

omit [LinearOrder α] in
/-- The loop picks the rows at `batchSize - 1` and `batchSize`, counted from `rowCount`. -/
theorem splitLoop_eq (batchSize : Nat) :
    ∀ (rows : List (List α)) (rowCount : Nat) (acc : Option (List α)),
      rowCount ≤ batchSize → batchSize - rowCount < rows.length →
      splitLoop batchSize rowCount rows acc =
        (if rowCount < batchSize then rows[batchSize - 1 - rowCount]? else acc,
          rows[batchSize - rowCount]?)
  | [], _, _, _, hlt => by simp at hlt
  | row :: rows, rowCount, acc, hle, hlt => by
    simp only [splitLoop]
    by_cases heq : rowCount = batchSize
    · subst heq
      simp
    · rw [if_neg heq, splitLoop_eq batchSize rows (rowCount + 1) _ (by omega)
        (by simp only [List.length_cons] at hlt; omega)]
      -- a position in `rows` is one less than in `row :: rows`
      have hpos : batchSize - rowCount = batchSize - (rowCount + 1) + 1 := by omega
      rw [hpos, List.getElem?_cons_succ]
      by_cases hnext : rowCount + 1 < batchSize
      · have hpos' : batchSize - 1 - rowCount = batchSize - 1 - (rowCount + 1) + 1 := by omega
        rw [if_pos hnext, if_pos (by omega), hpos', List.getElem?_cons_succ]
      · have hlast : rowCount + 1 = batchSize := by omega
        rw [if_neg hnext, if_pos hlast, if_pos (by omega), show batchSize - 1 - rowCount = 0 by omega]
        rfl

omit [LinearOrder α] in
/-- With more than `batchSize ≥ 1` rows, the current batch ends at the row at `batchSize - 1` and
the new one starts at the row at `batchSize`. -/
theorem splitLoop_start {batchSize : Nat} {rows : List (List α)} (hbs : 1 ≤ batchSize)
    (hlen : batchSize < rows.length) :
    splitLoop batchSize 0 rows none = (some rows[batchSize - 1], some rows[batchSize]) := by
  rw [splitLoop_eq batchSize rows 0 none (Nat.zero_le _) (by omega), if_pos (by omega)]
  simp [List.getElem?_eq_getElem (show batchSize - 1 < rows.length by omega),
    List.getElem?_eq_getElem hlen]

omit [LinearOrder α] in
theorem splitBatchIntoTwo_eq {pkNames : List String} {batchID nextBatchID : List Char}
    {start stop : List α} {batchSize : Nat} {rows : List (List α)} (hbs : 1 ≤ batchSize)
    (hlen : batchSize < rows.length) (hid : genNewBatchID batchID = some nextBatchID) :
    splitBatchIntoTwo pkNames batchID (pkRangeWhere pkNames start stop) batchSize rows =
      some (pkRangeWhere pkNames start rows[batchSize - 1],
        pkRangeWhere pkNames rows[batchSize] stop, nextBatchID) := by
  simp only [splitBatchIntoTwo, splitLoop_start hbs hlen, hid, Option.map_some]
  rfl

/-! ## In PK order the split partitions the batch -/

/-- **With the rows in PK order, the split partitions the batch.** Let the batch's WHERE be the
user's WHERE and the PK range `[start, stop]`, and let `sel`, the rows of the select of the PKs,
be the PK tuples of the rows it matches in increasing order, more than `batchSize ≥ 1` of them.
Then `splitBatchIntoTwo` gives two batches, the new one with the id `genNewBatchID` gives; every
row of the table matches one of them when it matches the old batch and none otherwise; and the
current batch matches exactly `batchSize` rows. -/
theorem splitBatchIntoTwo_partitions_of_sorted (pkNames : List String) (userWhere : Row α → Bool)
    (table : List (Row α)) (batchID nextBatchID : List Char) (start stop : List α)
    (sel : List (List α)) (batchSize : Nat) (hpk : pkNames ≠ [])
    (hstart : start.length = pkNames.length) (hstop : stop.length = pkNames.length)
    (hsel : sel.Perm ((table.filter fun row =>
      (pkRangeWhere pkNames start stop).eval userWhere row).map (pkTuple pkNames)))
    (hsorted : sel.Pairwise (· < ·)) (hbs : 1 ≤ batchSize) (hlen : batchSize < sel.length)
    (hid : genNewBatchID batchID = some nextBatchID) :
    ∃ curBatch newBatch,
      splitBatchIntoTwo pkNames batchID (pkRangeWhere pkNames start stop) batchSize sel =
        some (curBatch, newBatch, nextBatchID) ∧
      (∀ row ∈ table, (if curBatch.eval userWhere row then 1 else 0) +
          (if newBatch.eval userWhere row then 1 else 0) =
        if (pkRangeWhere pkNames start stop).eval userWhere row then 1 else 0) ∧
      table.countP (fun row => curBatch.eval userWhere row) = batchSize := by
  set w := pkRangeWhere pkNames start stop with hw
  set p := sel[batchSize - 1] with hp
  set q := sel[batchSize] with hq
  -- every tuple of `sel` is the PK tuple of a row the batch matches
  have hmem : ∀ t ∈ sel, ∃ row ∈ table, w.eval userWhere row = true ∧ pkTuple pkNames row = t := by
    intro t ht
    obtain ⟨row, hrow, rfl⟩ := List.mem_map.mp (hsel.mem_iff.mp ht)
    obtain ⟨hrow, hwr⟩ := List.mem_filter.mp hrow
    exact ⟨row, hrow, hwr, rfl⟩
  have hlenPk : ∀ row : Row α, (pkTuple pkNames row).length = pkNames.length := by
    simp [pkTuple]
  -- what the WHEREs of the batches say, as bounds on the PK tuple
  have heval : ∀ (a b : List α) (row : Row α), a.length = pkNames.length →
      b.length = pkNames.length → (pkRangeWhere pkNames a b).eval userWhere row =
        (userWhere row && decide (a ≤ pkTuple pkNames row) && decide (pkTuple pkNames row ≤ b)) := by
    intro a b row ha hb
    rw [BatchWhere.eval, pkRangeWhere, genPKs_ge_eval row hpk ha, genPKs_le_eval row hpk hb,
      Bool.and_assoc]
  have hbounds : ∀ t ∈ sel, t.length = pkNames.length ∧ start ≤ t ∧ t ≤ stop := by
    intro t ht
    obtain ⟨row, -, hwr, rfl⟩ := hmem t ht
    rw [hw, heval start stop row hstart hstop] at hwr
    simp only [Bool.and_eq_true, decide_eq_true_eq] at hwr
    exact ⟨hlenPk row, hwr.1.2, hwr.2⟩
  have hpb := hbounds p (List.getElem_mem _)
  have hqb := hbounds q (List.getElem_mem _)
  have hpq : p < q := List.pairwise_iff_getElem.mp hsorted _ _ _ _ (by omega)
  refine ⟨_, _, splitBatchIntoTwo_eq hbs hlen hid, fun row hrow => ?_, ?_⟩
  · rw [heval start p row hstart hpb.1, heval q stop row hqb.1 hstop, heval start stop row hstart hstop]
    by_cases hwr : userWhere row && decide (start ≤ pkTuple pkNames row) &&
        decide (pkTuple pkNames row ≤ stop)
    · -- a row of the batch: its PK tuple is in `sel`, before or after the split point
      have hin : pkTuple pkNames row ∈ sel :=
        hsel.mem_iff.mpr (List.mem_map_of_mem (List.mem_filter.mpr ⟨hrow, by
          rw [hw, heval start stop row hstart hstop]; exact hwr⟩))
      obtain ⟨j, hj, hjt⟩ := List.mem_iff_getElem.mp hin
      simp only [Bool.and_eq_true, decide_eq_true_eq] at hwr
      obtain ⟨⟨hu, hs⟩, he⟩ := hwr
      rcases Nat.lt_or_ge j batchSize with hjb | hjb
      · have hle : pkTuple pkNames row ≤ p :=
          hjt ▸ (List.getElem_le_getElem_iff hsorted hj _).mpr (by omega)
        have hnq : ¬q ≤ pkTuple pkNames row := fun h => absurd (lt_of_lt_of_le hpq h) (not_lt_of_ge hle)
        simp [hu, hs, he, hle, hnq]
      · have hge : q ≤ pkTuple pkNames row :=
          hjt ▸ (List.getElem_le_getElem_iff hsorted _ hj).mpr hjb
        have hnp : ¬pkTuple pkNames row ≤ p := fun h => absurd (lt_of_lt_of_le hpq hge) (not_lt_of_ge h)
        simp [hu, hs, he, hge, hnp]
    · -- a row outside the batch is outside both halves: `start ≤ q` and `p ≤ stop`
      have hcur : ¬(userWhere row && decide (start ≤ pkTuple pkNames row) &&
          decide (pkTuple pkNames row ≤ p)) = true := by
        simp only [Bool.and_eq_true, decide_eq_true_eq] at hwr ⊢
        rintro ⟨⟨hu, hs⟩, hle⟩
        exact hwr ⟨⟨hu, hs⟩, le_trans hle hpb.2.2⟩
      have hnew : ¬(userWhere row && decide (q ≤ pkTuple pkNames row) &&
          decide (pkTuple pkNames row ≤ stop)) = true := by
        simp only [Bool.and_eq_true, decide_eq_true_eq] at hwr ⊢
        rintro ⟨⟨hu, hge⟩, he⟩
        exact hwr ⟨⟨hu, le_trans hqb.2.1 hge⟩, he⟩
      simp only [hwr, hcur, hnew]
      rfl
  · -- the current batch matches the rows of the batch up to `p`: the first `batchSize` of `sel`
    have hcur : ∀ row ∈ table, (pkRangeWhere pkNames start p).eval userWhere row =
        (decide (pkTuple pkNames row ≤ p) && w.eval userWhere row) := by
      intro row _
      rw [heval start p row hstart hpb.1, hw, heval start stop row hstart hstop]
      by_cases hle : pkTuple pkNames row ≤ p
      · simp [hle, le_trans hle hpb.2.2]
      · simp [hle]
    calc table.countP (fun row => (pkRangeWhere pkNames start p).eval userWhere row)
        = table.countP (fun row => decide (pkTuple pkNames row ≤ p) && w.eval userWhere row) :=
          List.countP_congr fun row hrow => by rw [hcur row hrow]
      _ = ((table.filter fun row => w.eval userWhere row).map (pkTuple pkNames)).countP
            (fun t => decide (t ≤ p)) := by
          rw [List.countP_map, List.countP_filter]
          rfl
      _ = sel.countP (fun t => decide (t ≤ p)) := (hsel.countP_eq _).symm
      _ = batchSize := by
          rw [hp, List.countP_le_getElem hsorted (by omega : batchSize - 1 < sel.length)]
          omega

/-- The batch `id` from `1` to `3` over three rows, split after the first: the new batch `1-2`
starts at `2`. -/
theorem splitBatchIntoTwo_partitions_of_sorted_three :
    ["id"] ≠ [] ∧ [1].length = ["id"].length ∧ [3].length = ["id"].length ∧
      [[1], [2], [3]].Perm ((([fun _ => 1, fun _ => 2, fun _ => 3] : List (Row Nat)).filter
        fun row => (pkRangeWhere ["id"] [1] [3]).eval (fun _ => true) row).map (pkTuple ["id"])) ∧
      [[1], [2], [3]].Pairwise (· < ·) ∧ 1 ≤ 1 ∧ 1 < [[1], [2], [3]].length ∧
      genNewBatchID ['1'] = some ['1', '-', '2'] ∧
      ∃ curBatch newBatch,
        splitBatchIntoTwo ["id"] ['1'] (pkRangeWhere ["id"] [1] [3]) 1 [[1], [2], [3]] =
          some (curBatch, newBatch, ['1', '-', '2']) ∧
        (∀ row ∈ ([fun _ => 1, fun _ => 2, fun _ => 3] : List (Row Nat)),
          (if curBatch.eval (fun _ => true) row then 1 else 0) +
            (if newBatch.eval (fun _ => true) row then 1 else 0) =
          if (pkRangeWhere ["id"] [1] [3]).eval (fun _ => true) row then 1 else 0) ∧
        ([fun _ => 1, fun _ => 2, fun _ => 3] : List (Row Nat)).countP
          (fun row => curBatch.eval (fun _ => true) row) = 1 :=
  ⟨by decide, rfl, rfl, by decide, by decide, le_rfl, by decide, by decide,
    splitBatchIntoTwo_partitions_of_sorted ["id"] (fun _ => true) [fun _ => 1, fun _ => 2, fun _ => 3]
      ['1'] ['1', '-', '2'] [1] [3] [[1], [2], [3]] 1 (by decide) rfl rfl (by decide) (by decide)
      le_rfl (by decide) (by decide)⟩

/-! ## In another order it need not -/

/-- A row of a table whose PK is the one column `id`. -/
def idRow (id : Nat) : Row Nat := fun _ => id

/-- The rows `id = 1, 2, 3`. -/
def threeRows : List (Row Nat) := [idRow 1, idRow 2, idRow 3]

/-- The batch `1`: any row, with `id` between `1` and `3`. -/
def wholeBatch : BatchWhere Nat := pkRangeWhere ["id"] [1] [3]

/-- **Out of PK order the split does not partition the batch.** The select of the PKs has no
`ORDER BY`. When MySQL returns the rows of `wholeBatch` as `id = 3, 1, 2` and `batchSize = 1`,
the current batch ends at `3` and the new batch `1-2` starts at `1`: both are the whole batch
again, so every row is in both, and the current batch keeps all three rows. -/
theorem split_batch_into_two_order :
    splitBatchIntoTwo ["id"] ['1'] wholeBatch 1 [[3], [1], [2]] =
      some (wholeBatch, wholeBatch, ['1', '-', '2']) ∧
    [[3], [1], [2]].Perm
      ((threeRows.filter fun row => wholeBatch.eval (fun _ => true) row).map (pkTuple ["id"])) ∧
    threeRows.countP (fun row => wholeBatch.eval (fun _ => true) row) = 3 :=
  ⟨splitBatchIntoTwo_eq (by decide) (by decide) (by decide), by decide, by decide⟩

end Wescale.Jobcontroller
