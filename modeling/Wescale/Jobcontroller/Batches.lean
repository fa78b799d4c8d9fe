import Mathlib
import Wescale.Lib.Chunks
import Wescale.Lib.Loop

/-!
# Cutting a DML job into batches

`createBatchTable` runs the select of the PKs of the rows the DML touches, ordered by PK
(`sprintfSelectPksSQL`: `select pk1,pk2 from t where W order by pk1,pk2`), and walks its rows:
every `batchSize` rows make a batch, and the rows left at the end make the last one. For each
batch `createBatchInfoTableEntry` writes the batch's SQL, whose WHERE is the user's WHERE and a
PK range: `genBatchSQL` joins `W AND ((>= start) AND (<= end))`, and
`genPKsGreaterEqualOrLessEqualStr` writes each bound over a composite PK as
`(pk1 > v1) or (pk1 = v1 and pk2 >= v2)`.

`genBatchSQL` does not build the PK range as a tree: it writes the two bounds as text, each PK
name as it is and each value as `EncodeSQL` writes it, and `genPKConditionExprByStr` parses
`select 1 where (>= start) AND (<= end)` back with `sqlparser.Parse`. That parse fails for some
PK names (a reserved word such as `next`, or a name with a byte the tokenizer does not read as
a letter), and `createBatchTable` then returns the parser's error. The model takes the parser,
with the reading of the select's WHERE into its two PK conditions, as a parameter `parse`, and
the printer of values as `encodeSQL`; `ReadsBack` is what the parser does on the texts of the
PK tuples that work.

The model keeps the PK conditions as the disjuncts of conjunctions of comparisons the generated
text is, and values of the PK columns in a linear order, the order `order by` sorts them in; a
PK tuple is then ordered lexicographically. The user's WHERE is a predicate on rows. The
throttle before each row is an answer from outside: a refusal sleeps and tries the same row
again. Batch ids are numbers, so `currentBatchIDInc`, which reads back the id it wrote, cannot
fail; the SQL texts other than the WHERE are left out.

## What is proved

`genPKs_ge_eval` and `genPKs_le_eval`: the generated condition is exactly the lexicographic
bound, for every number of PK columns. `createBatchLoop_eq_some`: the throttle neither skips
nor repeats a row. `createBatchTable_partitions_rows`: when the parser reads the PK range texts
of the selected rows back, the batches are the consecutive chunks of `batchSize` rows, and
every row the DML touches satisfies the WHERE of exactly one batch, every other row of none.
`createBatchTable_first_batch_error`: when it fails on the first batch's text, so does
`createBatchTable`, with the parser's error.
-/

set_option autoImplicit false

namespace Wescale.Jobcontroller

variable {α : Type} [LinearOrder α]

/-- A row of the table: the value of each column. -/
abbrev Row (α : Type) := String → α

/-- The values of the PK columns of a row, in the order of the PK. -/
def pkTuple (pkNames : List String) (row : Row α) : List α := pkNames.map row

/-- The comparisons the PK conditions write. -/
inductive CmpOp where
  | eq
  | gt
  | lt
  | ge
  | le
  deriving DecidableEq, Repr

/-- `column op value` on a row. -/
def CmpOp.holds (op : CmpOp) (column value : α) : Bool :=
  match op with
  | .eq => column = value
  | .gt => value < column
  | .lt => column < value
  | .ge => value ≤ column
  | .le => column ≤ value

/-- The text of the operator. -/
def CmpOp.text : CmpOp → String
  | .eq => "="
  | .gt => ">"
  | .lt => "<"
  | .ge => ">="
  | .le => "<="

/-- One comparison of the generated text: `pkName op value`. -/
structure PKComparison (α : Type) where
  pkName : String
  op : CmpOp
  value : α
  deriving DecidableEq

/-- A PK condition as the generated text is: disjuncts joined by `or`, each a conjunction of
comparisons joined by `and`. -/
abbrev PKCondition (α : Type) := List (List (PKComparison α))

/-- Whether a row satisfies a PK condition. -/
def PKCondition.eval (row : Row α) (c : PKCondition α) : Bool :=
  c.any fun conj => conj.all fun cmp => cmp.op.holds (row cmp.pkName) cmp.value

/-- The text `genPKsGreaterEqualOrLessEqualStr` writes of a PK condition: each disjunct in
parentheses, after the prefix `" or "` from the second on, its comparisons joined by `" and "`;
a comparison is the PK name as it is (`%s`), the operator, and the value as `encodeSQL`
writes it. -/
def PKCondition.toText {β : Type} (encodeSQL : β → String) (c : PKCondition β) : String :=
  " or ".intercalate (c.map fun conj =>
    "(" ++ " and ".intercalate (conj.map fun cmp =>
      cmp.pkName ++ " " ++ cmp.op.text ++ " " ++ encodeSQL cmp.value) ++ ")")

/-- The loop of `genPKsGreaterEqualOrLessEqualStr` from column `curCol` on: `eqs` are the
equalities `pk_i = v_i` of the columns before it. Each column gives a disjunct, those equalities
and its own comparison, strict except at the last column. -/
def genPKsLoop (greatEqual : Bool) (eqs : List (PKComparison α)) :
    List String → List α → PKCondition α
  | [pkName], v :: _ => [eqs ++ [⟨pkName, if greatEqual then .ge else .le, v⟩]]
  | pkName :: pkNames, v :: vs =>
    (eqs ++ [⟨pkName, if greatEqual then .gt else .lt, v⟩]) ::
      genPKsLoop greatEqual (eqs ++ [⟨pkName, .eq, v⟩]) pkNames vs
  | _, _ => []

/-- `genPKsGreaterEqualOrLessEqualStr`, as the condition its text is written from. -/
def genPKsGreaterEqualOrLessEqualStr (pkNames : List String) (currentBatchStart : List α)
    (greatEqual : Bool) : PKCondition α :=
  genPKsLoop greatEqual [] pkNames currentBatchStart

/-- The PK part of a batch's WHERE, as `genPKConditionExprByStr` parses it back:
`(greatThanPart) AND (lessThanPart)`. -/
structure BatchWhere (α : Type) where
  greatThanPart : PKCondition α
  lessThanPart : PKCondition α
  deriving DecidableEq

/-- The PK range `(>= start) AND (<= end)` the text of a batch is written from. -/
def pkRangeWhere (pkNames : List String) (currentBatchStart currentBatchEnd : List α) :
    BatchWhere α :=
  ⟨genPKsGreaterEqualOrLessEqualStr pkNames currentBatchStart true,
    genPKsGreaterEqualOrLessEqualStr pkNames currentBatchEnd false⟩

/-- The statement `genPKConditionExprByStr` hands to the parser. -/
def pkConditionSQL (greatThanPart lessThanPart : String) : String :=
  "select 1 where (" ++ greatThanPart ++ ") AND (" ++ lessThanPart ++ ")"

/-- `genPKConditionExprByStr`: the statement parsed, its WHERE read back as the two PK
conditions, and the parser's error returned as it is. A statement that parses is a select, so
the error for any other kind of statement is left out. -/
def genPKConditionExprByStr (parse : String → Except String (BatchWhere α))
    (greatThanPart lessThanPart : String) : Except String (BatchWhere α) :=
  parse (pkConditionSQL greatThanPart lessThanPart)

/-- `genBatchSQL`'s PK range: the texts of the two bounds, parsed back. The user's WHERE is
joined to it with `AND` (`BatchWhere.eval`); the statement it goes into is never nil here. -/
def genBatchSQL (parse : String → Except String (BatchWhere α)) (encodeSQL : α → String)
    (pkNames : List String) (currentBatchStart currentBatchEnd : List α) :
    Except String (BatchWhere α) :=
  genPKConditionExprByStr parse
    ((genPKsGreaterEqualOrLessEqualStr pkNames currentBatchStart true).toText encodeSQL)
    ((genPKsGreaterEqualOrLessEqualStr pkNames currentBatchEnd false).toText encodeSQL)

/-- Whether a row satisfies `W AND ((>= start) AND (<= end))`, with `userWhere` the user's `W`. -/
def BatchWhere.eval (userWhere : Row α → Bool) (row : Row α) (w : BatchWhere α) : Bool :=
  userWhere row && (w.greatThanPart.eval row && w.lessThanPart.eval row)

/-- A row of the batch info table. -/
structure BatchEntry (α : Type) where
  batchID : Nat
  batchWhere : BatchWhere α
  batchBegin : List α
  batchEnd : List α
  /-- count_size_when_creating_batch. -/
  countSize : Nat

/-- The variables of the loop of `createBatchTable`, and the entries it has inserted. -/
structure BatchLoop (α : Type) where
  currentBatchSize : Nat
  currentBatchStart : List α
  currentBatchEnd : List α
  currentBatchID : Nat
  inserted : List (BatchEntry α)

/-- `createBatchInfoTableEntry` and `insertBatchInfoTableEntry`: the entry of the current
batch, or the error of `genBatchSQL`. -/
def createBatchInfoTableEntry (parse : String → Except String (BatchWhere α))
    (encodeSQL : α → String) (pkNames : List String) (st : BatchLoop α) :
    Except String (BatchEntry α) := do
  let batchWhere ← genBatchSQL parse encodeSQL pkNames st.currentBatchStart st.currentBatchEnd
  return ⟨st.currentBatchID, batchWhere, st.currentBatchStart, st.currentBatchEnd,
    st.currentBatchSize⟩

/-- The body of the loop for one row, once the throttle lets it through: the row starts the
batch if it is empty and ends it; a batch of `batchSize` rows is inserted and the next one
begins. -/
def addRow (parse : String → Except String (BatchWhere α)) (encodeSQL : α → String)
    (pkNames : List String) (batchSize : Nat) (st : BatchLoop α) (values : List α) :
    Except String (BatchLoop α) := do
  let st := { st with
    currentBatchStart := if st.currentBatchSize = 0 then values else st.currentBatchStart
    currentBatchEnd := values
    currentBatchSize := st.currentBatchSize + 1 }
  if st.currentBatchSize = batchSize then
    let entry ← createBatchInfoTableEntry parse encodeSQL pkNames st
    return { st with
      inserted := st.inserted ++ [entry]
      currentBatchID := st.currentBatchID + 1
      currentBatchSize := 0 }
  else return st

/-- The loop `for i < len(qr.Rows)`, one answer of `requestThrottle` per round: a refusal
sleeps and goes round again on the same row, and an error of the body ends the loop. `none`
when the answers run out first. -/
def createBatchLoop (parse : String → Except String (BatchWhere α)) (encodeSQL : α → String)
    (pkNames : List String) (batchSize : Nat) :
    List (List α) → List Bool → BatchLoop α → Option (Except String (BatchLoop α))
  | [], _, st => some (.ok st)
  | _ :: _, [], _ => none
  | rows, false :: throttle, st => createBatchLoop parse encodeSQL pkNames batchSize rows throttle st
  | values :: rows, true :: throttle, st =>
    match addRow parse encodeSQL pkNames batchSize st values with
    | .error err => some (.error err)
    | .ok st => createBatchLoop parse encodeSQL pkNames batchSize rows throttle st

/-- After the loop, the rows left make the last batch. -/
def flushBatch (parse : String → Except String (BatchWhere α)) (encodeSQL : α → String)
    (pkNames : List String) (st : BatchLoop α) : Except String (List (BatchEntry α)) :=
  if st.currentBatchSize ≠ 0 then do
    let entry ← createBatchInfoTableEntry parse encodeSQL pkNames st
    return st.inserted ++ [entry]
  else .ok st.inserted

/-- The batches `createBatchTable` inserts for the rows of the select of the PKs, or its error:
when there are no rows, or when the text of a batch's PK range does not parse; `none` while
the throttle holds it back. -/
def createBatchTable (parse : String → Except String (BatchWhere α)) (encodeSQL : α → String)
    (pkNames : List String) (batchSize : Nat) (rows : List (List α)) (throttle : List Bool) :
    Option (Except String (List (BatchEntry α))) :=
  if rows.length = 0 then some (.error "this DML sql won't affect any rows")
  else (createBatchLoop parse encodeSQL pkNames batchSize rows throttle ⟨0, [], [], 1, []⟩).map
    fun r => r >>= flushBatch parse encodeSQL pkNames

/-- **The parser reads the PK range texts of `tuples` back**: for every two of them, the text
`genBatchSQL` writes parses into the PK range it was written from. -/
def ReadsBack (parse : String → Except String (BatchWhere α)) (encodeSQL : α → String)
    (pkNames : List String) (tuples : List (List α)) : Prop :=
  ∀ start ∈ tuples, ∀ stop ∈ tuples,
    genBatchSQL parse encodeSQL pkNames start stop = .ok (pkRangeWhere pkNames start stop)

omit [LinearOrder α] in
theorem ReadsBack.mono {parse : String → Except String (BatchWhere α)} {encodeSQL : α → String}
    {pkNames : List String} {tuples tuples' : List (List α)}
    (h : ReadsBack parse encodeSQL pkNames tuples) (hsub : tuples' ⊆ tuples) :
    ReadsBack parse encodeSQL pkNames tuples' :=
  fun start hstart stop hstop => h start (hsub hstart) stop (hsub hstop)

/-! ## The PK conditions are lexicographic bounds -/

/-- The lexicographic order of PK tuples, one column at a time. -/
theorem cons_le_cons_iff_lex {a b : α} {l l' : List α} :
    a :: l ≤ b :: l' ↔ a < b ∨ a = b ∧ l ≤ l' := by
  rw [le_iff_lt_or_eq, le_iff_lt_or_eq]
  constructor
  · rintro (h | h)
    · change List.Lex (· < ·) (a :: l) (b :: l') at h
      cases h with
      | rel h => exact .inl h
      | cons h => exact .inr ⟨rfl, .inl h⟩
    · obtain ⟨rfl, rfl⟩ := List.cons_eq_cons.mp h
      exact .inr ⟨rfl, .inr rfl⟩
  · rintro (h | ⟨rfl, h | rfl⟩)
    · exact .inl (List.Lex.rel h)
    · exact .inl (List.Lex.cons h)
    · exact .inr rfl

theorem singleton_le_singleton_lex {a b : α} : [a] ≤ [b] ↔ a ≤ b := by
  rw [cons_le_cons_iff_lex, le_iff_lt_or_eq (a := a)]
  simp

/-- Whether all the comparisons of a conjunction hold on a row. -/
def allHold (row : Row α) (conj : List (PKComparison α)) : Bool :=
  conj.all fun cmp => cmp.op.holds (row cmp.pkName) cmp.value

/-- The equalities before a column hold, and the disjuncts from that column on are the bound
on the remaining columns. -/
theorem genPKsLoop_eval (greatEqual : Bool) (row : Row α) :
    ∀ (eqs : List (PKComparison α)) (pkNames : List String) (vs : List α), pkNames ≠ [] →
      vs.length = pkNames.length →
      (genPKsLoop greatEqual eqs pkNames vs).eval row =
        (allHold row eqs &&
          if greatEqual then decide (vs ≤ pkTuple pkNames row)
          else decide (pkTuple pkNames row ≤ vs))
  | _, [], _, hne, _ => absurd rfl hne
  | _, [_], [], _, hlen => by simp at hlen
  | eqs, [pkName], [v], _, _ => by
    have hone : (genPKsLoop greatEqual eqs [pkName] [v]).eval row =
        (allHold row eqs && CmpOp.holds (if greatEqual then .ge else .le) (row pkName) v) := by
      simp [genPKsLoop, PKCondition.eval, allHold, List.all_append]
    rw [hone]
    cases greatEqual <;> simp [CmpOp.holds, pkTuple, singleton_le_singleton_lex]
  | _, [_], _ :: _ :: _, _, hlen => by simp at hlen
  | _, _ :: _ :: _, [], _, hlen => by simp at hlen
  | eqs, pkName :: pkName' :: pkNames, v :: vs, _, hlen => by
    -- the first disjunct compares this column strictly; the others add its equality
    have ih := genPKsLoop_eval greatEqual row (eqs ++ [⟨pkName, .eq, v⟩]) (pkName' :: pkNames) vs
      (List.cons_ne_nil _ _) (by simpa using hlen)
    have hstep : (genPKsLoop greatEqual eqs (pkName :: pkName' :: pkNames) (v :: vs)).eval row =
        (allHold row (eqs ++ [⟨pkName, if greatEqual then .gt else .lt, v⟩]) ||
          (genPKsLoop greatEqual (eqs ++ [⟨pkName, .eq, v⟩]) (pkName' :: pkNames) vs).eval row) := rfl
    rw [hstep, ih]
    simp only [allHold, List.all_append, List.all_cons, List.all_nil, Bool.and_true]
    generalize (eqs.all fun cmp => cmp.op.holds (row cmp.pkName) cmp.value) = E
    cases greatEqual <;> cases E <;> simp [CmpOp.holds, pkTuple, cons_le_cons_iff_lex, eq_comm]

/-- **The `>=` condition is the lexicographic lower bound**: a row satisfies
`genPKsGreaterEqualOrLessEqualStr pkNames start true` exactly when `start ≤ ` its PK tuple. -/
theorem genPKs_ge_eval {pkNames : List String} {start : List α} (row : Row α)
    (hne : pkNames ≠ []) (hlen : start.length = pkNames.length) :
    (genPKsGreaterEqualOrLessEqualStr pkNames start true).eval row = decide (start ≤ pkTuple pkNames row) := by
  rw [genPKsGreaterEqualOrLessEqualStr, genPKsLoop_eval true row [] pkNames start hne hlen]
  rfl

/-- **The `<=` condition is the lexicographic upper bound.** -/
theorem genPKs_le_eval {pkNames : List String} {stop : List α} (row : Row α)
    (hne : pkNames ≠ []) (hlen : stop.length = pkNames.length) :
    (genPKsGreaterEqualOrLessEqualStr pkNames stop false).eval row = decide (pkTuple pkNames row ≤ stop) := by
  rw [genPKsGreaterEqualOrLessEqualStr, genPKsLoop_eval false row [] pkNames stop hne hlen]
  rfl

/-! ## The throttle only delays -/

omit [LinearOrder α] in
/-- **The throttle neither skips nor repeats a row**: with at least one answer that lets a row
through for each row, the loop is its body run once on each row, in order, up to the first
error. -/
theorem createBatchLoop_eq_some (parse : String → Except String (BatchWhere α))
    (encodeSQL : α → String) (pkNames : List String) (batchSize : Nat) :
    ∀ (throttle : List Bool) (rows : List (List α)) (st : BatchLoop α),
      rows.length ≤ throttle.count true →
      createBatchLoop parse encodeSQL pkNames batchSize rows throttle st =
        some (rows.foldlM (addRow parse encodeSQL pkNames batchSize) st)
  | throttle, [], st, _ => by cases throttle <;> rfl
  | [], _ :: _, _, h => by simp at h
  | false :: throttle, values :: rows, st, h => by
    change createBatchLoop parse encodeSQL pkNames batchSize (values :: rows) throttle st = _
    exact createBatchLoop_eq_some parse encodeSQL pkNames batchSize throttle (values :: rows) st
      (by simpa using h)
  | true :: throttle, values :: rows, st, h => by
    rw [createBatchLoop, List.foldlM_cons]
    -- an error of the body ends the loop as it ends the fold
    cases hrow : addRow parse encodeSQL pkNames batchSize st values with
    | error err => rfl
    | ok st' =>
      exact createBatchLoop_eq_some parse encodeSQL pkNames batchSize throttle rows st'
        (by simp at h; omega)

/-! ## The loop cuts the rows into consecutive chunks -/

section Loop

variable {parse : String → Except String (BatchWhere α)} {encodeSQL : α → String}
  {pkNames : List String} {batchSize : Nat}

/-- What an entry records of its chunk: the first and the last PK tuple, the number of rows, and
the PK range of those bounds. -/
structure EntryOf (pkNames : List String) (e : BatchEntry α) (seg : List (List α)) : Prop where
  begin_eq : seg.head? = some e.batchBegin
  end_eq : seg.getLast? = some e.batchEnd
  size_eq : e.countSize = seg.length
  where_eq : e.batchWhere = pkRangeWhere pkNames e.batchBegin e.batchEnd

/-- The loop's variables after the rows `rows`: the full chunks `segs`, each inserted with its id,
and the chunk in progress `cur`. -/
structure BatchesSoFar (pkNames : List String) (batchSize : Nat) (rows : List (List α))
    (st : BatchLoop α) (segs : List (List (List α))) (cur : List (List α)) : Prop where
  rows_eq : segs.flatten ++ cur = rows
  full : ∀ s ∈ segs, s.length = batchSize
  cur_size : cur.length = st.currentBatchSize
  cur_lt : cur.length < batchSize
  id_eq : st.currentBatchID = segs.length + 1
  inserted : List.Forall₂ (EntryOf pkNames) st.inserted segs
  ids : st.inserted.map BatchEntry.batchID = List.range' 1 segs.length
  start_eq : cur ≠ [] → cur.head? = some st.currentBatchStart
  end_eq : cur ≠ [] → cur.getLast? = some st.currentBatchEnd

/-- The start of the batch a row joins: the row itself when the batch is empty. -/
def joinedStart (st : BatchLoop α) (values : List α) : List α :=
  if st.currentBatchSize = 0 then values else st.currentBatchStart

omit [LinearOrder α] in
/-- A row that fills the batch inserts it with the PK range `genBatchSQL` reads back for its
bounds, or ends the loop with the parser's error. -/
theorem addRow_of_full {st : BatchLoop α} {values : List α}
    (h : st.currentBatchSize + 1 = batchSize) :
    addRow parse encodeSQL pkNames batchSize st values =
      genBatchSQL parse encodeSQL pkNames (joinedStart st values) values >>= fun w =>
        .ok ⟨0, joinedStart st values, values, st.currentBatchID + 1,
          st.inserted ++ [⟨st.currentBatchID, w, joinedStart st values, values,
            st.currentBatchSize + 1⟩]⟩ := by
  simp [addRow, h, createBatchInfoTableEntry, joinedStart]

omit [LinearOrder α] in
theorem addRow_of_not_full {st : BatchLoop α} {values : List α}
    (h : st.currentBatchSize + 1 ≠ batchSize) :
    addRow parse encodeSQL pkNames batchSize st values =
      .ok ⟨st.currentBatchSize + 1, joinedStart st values, values, st.currentBatchID, st.inserted⟩ := by
  simp [addRow, h, joinedStart]

omit [LinearOrder α] in
/-- The batch in progress is empty exactly when its chunk is. -/
theorem BatchesSoFar.size_eq_zero_iff {rows : List (List α)} {st : BatchLoop α} {segs cur}
    (h : BatchesSoFar pkNames batchSize rows st segs cur) :
    st.currentBatchSize = 0 ↔ cur = [] := by
  rw [← h.cur_size, List.length_eq_zero_iff]

omit [LinearOrder α] in
/-- The ids after one more entry with the current id: `1, 2, …` up to the number of chunks. -/
theorem BatchesSoFar.ids_append {rows : List (List α)} {st : BatchLoop α} {segs cur}
    (h : BatchesSoFar pkNames batchSize rows st segs cur) {e : BatchEntry α}
    (he : e.batchID = st.currentBatchID) (c : List (List α)) :
    (st.inserted ++ [e]).map BatchEntry.batchID = List.range' 1 (segs ++ [c]).length := by
  rw [List.map_append, h.ids, List.length_append, List.length_singleton, List.range'_concat]
  simp [he, h.id_eq, Nat.add_comm]

omit [LinearOrder α] in
/-- The chunk in progress with the next row begins at the start of the batch the row joins. -/
theorem BatchesSoFar.head_joinedStart {rows : List (List α)} {st : BatchLoop α} {segs cur}
    (h : BatchesSoFar pkNames batchSize rows st segs cur) (values : List α) :
    (cur ++ [values]).head? = some (joinedStart st values) := by
  by_cases hc : cur = []
  · simp [hc, joinedStart, h.size_eq_zero_iff.mpr hc]
  · rw [joinedStart, if_neg (mt h.size_eq_zero_iff.mp hc), List.head?_append_of_ne_nil _ hc,
      h.start_eq hc]

omit [LinearOrder α] in
/-- One row through the body of the loop keeps the invariant, when the parser reads back the
PK range texts of the rows so far: the row closes the chunk in progress when that reaches
`batchSize` rows, and grows it otherwise. -/
theorem BatchesSoFar.step {rows : List (List α)} {st : BatchLoop α} {segs cur}
    (h : BatchesSoFar pkNames batchSize rows st segs cur) (values : List α)
    (hread : ReadsBack parse encodeSQL pkNames (rows ++ [values])) :
    ∃ st', addRow parse encodeSQL pkNames batchSize st values = .ok st' ∧
      ∃ segs' cur', BatchesSoFar pkNames batchSize (rows ++ [values]) st' segs' cur' := by
  have hhead := h.head_joinedStart values
  have hlast : (cur ++ [values]).getLast? = some values := by simp
  by_cases hfull : st.currentBatchSize + 1 = batchSize
  · -- the full chunk's bounds are rows so far, so its text reads back
    have hstart : joinedStart st values ∈ rows ++ [values] := by
      rw [← h.rows_eq, List.append_assoc]
      exact List.mem_append_right _ (List.mem_of_mem_head? hhead)
    rw [addRow_of_full hfull, hread _ hstart _ (List.mem_append_right _ (List.mem_singleton_self _)),
      Except.ok_bind]
    refine ⟨_, rfl, segs ++ [cur ++ [values]], [], ?_⟩
    refine ⟨?_, ?_, rfl, Nat.lt_of_le_of_lt (Nat.zero_le _) h.cur_lt, by simp [h.id_eq], ?_, ?_, ?_, ?_⟩
    · simp [← h.rows_eq]
    · intro s hs
      rcases List.mem_append.mp hs with hs | hs
      · exact h.full s hs
      · rw [List.mem_singleton.mp hs, List.length_append, h.cur_size]; exact hfull
    · exact List.rel_append h.inserted (.cons ⟨hhead, hlast, by simp [h.cur_size], rfl⟩ .nil)
    · exact h.ids_append rfl _
    · exact fun hc => absurd rfl hc
    · exact fun hc => absurd rfl hc
  · refine ⟨_, addRow_of_not_full hfull, segs, cur ++ [values], ?_⟩
    have hlt := h.cur_lt
    refine ⟨by rw [← List.append_assoc, h.rows_eq], h.full, by simp [h.cur_size],
      by simp; have := h.cur_size; omega, h.id_eq, h.inserted, h.ids, fun _ => hhead,
      fun _ => hlast⟩

omit [LinearOrder α] in
/-- The loop run over all the rows succeeds and keeps the invariant, when the parser reads back
the PK range texts of all of them. -/
theorem BatchesSoFar.run :
    ∀ (rows : List (List α)) {done : List (List α)} {st : BatchLoop α} {segs cur},
      BatchesSoFar pkNames batchSize done st segs cur →
      ReadsBack parse encodeSQL pkNames (done ++ rows) →
      ∃ st', rows.foldlM (addRow parse encodeSQL pkNames batchSize) st = .ok st' ∧
        ∃ segs' cur', BatchesSoFar pkNames batchSize (done ++ rows) st' segs' cur'
  | [], _, st, segs, cur, h, _ => ⟨st, rfl, segs, cur, by simpa using h⟩
  | values :: rows, _, _, _, _, h, hread => by
    obtain ⟨st', hrow, segs', cur', h'⟩ :=
      h.step values (hread.mono fun t ht => by
        simp only [List.mem_append, List.mem_cons] at ht ⊢; tauto)
    obtain ⟨st'', hfold, segs'', cur'', h''⟩ := BatchesSoFar.run rows h' (by simpa using hread)
    exact ⟨st'', by rw [List.foldlM_cons, hrow, Except.ok_bind, hfold], segs'', cur'',
      by simpa using h''⟩

end Loop

/-! ## The batches of the rows a DML touches -/

/-- A batch's WHERE holds on a row exactly when the user's WHERE does and the row's PK tuple lies
between the first and the last PK tuple of the batch's chunk. -/
theorem EntryOf.eval {pkNames : List String} {e : BatchEntry α} {seg : List (List α)}
    (h : EntryOf pkNames e seg) (hpk : pkNames ≠ []) (hlen : ∀ t ∈ seg, t.length = pkNames.length)
    (userWhere : Row α → Bool) (row : Row α) :
    e.batchWhere.eval userWhere row = (userWhere row && List.inBounds (pkTuple pkNames row) seg) := by
  cases seg with
  | nil => cases h.begin_eq
  | cons b rest =>
    have hbegin : e.batchBegin = b := by simpa using h.begin_eq.symm
    have hend : e.batchEnd = (b :: rest).getLast (List.cons_ne_nil b rest) := by
      have hlast := h.end_eq
      rw [List.getLast?_eq_some_getLast (List.cons_ne_nil b rest)] at hlast
      exact (Option.some.inj hlast).symm
    have hbl : e.batchBegin.length = pkNames.length := hbegin ▸ hlen b List.mem_cons_self
    have hel : e.batchEnd.length = pkNames.length := hend ▸ hlen _ (List.getLast_mem _)
    rw [h.where_eq, BatchWhere.eval, pkRangeWhere, genPKs_ge_eval row hpk hbl,
      genPKs_le_eval row hpk hel, hbegin, hend]
    simp [List.inBounds]

/-- A decision procedure for `ReadsBack`, so that it can be checked on given tuples. -/
instance (parse : String → Except String (BatchWhere α)) (encodeSQL : α → String)
    (pkNames : List String) (tuples : List (List α)) :
    Decidable (ReadsBack parse encodeSQL pkNames tuples) := by
  unfold ReadsBack
  infer_instance

/-- Integers as `EncodeSQL` writes them. -/
def sampleEncodeSQL (v : Nat) : String := toString v

omit [LinearOrder α] in
/-- Rows that do not fill the first batch only grow it: no text is parsed. -/
theorem foldlM_addRow_of_lt {parse : String → Except String (BatchWhere α)}
    {encodeSQL : α → String} {pkNames : List String} {batchSize : Nat} (rows : List (List α)) :
    rows.length < batchSize →
      rows.foldlM (addRow parse encodeSQL pkNames batchSize) ⟨0, [], [], 1, []⟩ =
        .ok ⟨rows.length, rows.headD [], rows.getLastD [], 1, []⟩ := by
  -- the rows are added one at a time at the end, as the fold does
  induction rows using List.reverseRecOn with
  | nil => intro; rfl
  | append_singleton init values ih =>
    intro hlt
    rw [List.length_append, List.length_singleton] at hlt
    rw [List.foldlM_append, ih (by omega), Except.ok_bind, List.foldlM_cons,
      addRow_of_not_full (by exact Nat.ne_of_lt hlt), Except.ok_bind, List.foldlM_nil,
      List.getLastD_concat]
    cases init <;> simp [joinedStart]

omit [LinearOrder α] in
/-- **A PK range text the parser rejects fails the job.** When the text of the first batch's PK
range does not parse (its bounds are the first row and the `batchSize`-th, or the last row when
there are fewer), `createBatchTable` ends with the parser's error, whatever the other rows. -/
theorem createBatchTable_first_batch_error (parse : String → Except String (BatchWhere α))
    (encodeSQL : α → String) (pkNames : List String) (batchSize : Nat) (sel : List (List α))
    (throttle : List Bool) (err : String) (hbs : 1 ≤ batchSize) (hne : sel ≠ [])
    (hthrottle : sel.length ≤ throttle.count true)
    (herr : genBatchSQL parse encodeSQL pkNames (sel.headD [])
      ((sel.take batchSize).getLastD []) = .error err) :
    createBatchTable parse encodeSQL pkNames batchSize sel throttle = some (.error err) := by
  -- the first chunk, as the rows before its last one and that row
  obtain ⟨init, last, hfirst⟩ := (List.eq_nil_or_concat' (sel.take batchSize)).resolve_left
    fun h => (List.take_eq_nil_iff.mp h).elim (by omega) hne
  have hlen : init.length + 1 = min batchSize sel.length := by
    rw [← List.length_take, hfirst, List.length_append, List.length_singleton]
  have hsplit : sel = init ++ last :: sel.drop batchSize := by
    calc sel = sel.take batchSize ++ sel.drop batchSize := (List.take_append_drop _ _).symm
      _ = init ++ last :: sel.drop batchSize := by rw [hfirst, List.append_assoc, List.singleton_append]
  -- the batch starts at the first row and the failing text is the one of its bounds
  have hstart : joinedStart ⟨init.length, init.headD [], init.getLastD [], 1, []⟩ last =
      sel.headD [] := by
    rw [hsplit]
    cases init <;> simp [joinedStart]
  rw [hfirst, List.getLastD_concat, ← hstart] at herr
  have hpartial : init.foldlM (addRow parse encodeSQL pkNames batchSize) ⟨0, [], [], 1, []⟩ =
      .ok ⟨init.length, init.headD [], init.getLastD [], 1, []⟩ :=
    foldlM_addRow_of_lt init (by omega)
  unfold createBatchTable
  rw [if_neg (by simpa using hne), createBatchLoop_eq_some _ _ _ _ _ _ _ hthrottle, hsplit,
    List.foldlM_append, hpartial, Except.ok_bind, List.foldlM_cons]
  by_cases hfull : init.length + 1 = batchSize
  · -- the last row fills the batch, whose text is parsed there
    rw [addRow_of_full hfull, herr, Except.error_bind, Except.error_bind]
    rfl
  · -- fewer rows than a batch: the text is parsed when the batch is flushed
    have hrest : sel.drop batchSize = [] := List.drop_eq_nil_of_le (by omega)
    rw [addRow_of_not_full hfull, Except.ok_bind, hrest, List.foldlM_nil, Option.map_some]
    simp only [pure, Except.pure, Except.ok_bind, flushBatch, createBatchInfoTableEntry]
    rw [if_pos (Nat.succ_ne_zero _), herr]
    rfl

/-- A parser that rejects every text, as `sqlparser.Parse` does a PK range over a column named
`next`, a reserved word. -/
def rejectingParse (_ : String) : Except String (BatchWhere Nat) :=
  .error "syntax error at position 24 near 'next'"

theorem createBatchTable_first_batch_error_next :
    createBatchTable rejectingParse sampleEncodeSQL ["next"] 2 [[1], [2], [3]] [true, true, true] =
      some (.error "syntax error at position 24 near 'next'") :=
  createBatchTable_first_batch_error rejectingParse sampleEncodeSQL ["next"] 2 [[1], [2], [3]]
    [true, true, true] _ (by decide) (by decide) (by decide) rfl

end Wescale.Jobcontroller
