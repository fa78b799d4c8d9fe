import Mathlib
import Wescale.Lib.Loop
import Wescale.Schemadiff.TableOptions

/-!
# Schemas, their diff and its application (`go/vt/schemadiff/schema.go`, `go/vt/wrangler/branch.go`)

A schema is a list of `CREATE TABLE` statements. `Schema.diff` is `Schema.Diff`: a `DROP` for
each table of the old schema the new one lacks, an `ALTER TABLE` for each table whose options
differ (`tableDiff`, `CreateTableEntity.TableDiff`), and a `CREATE` for each new table, in that
order. `Schema.apply` is `Schema.Apply`: the diffs replayed one after the other on the tables,
then `Schema.normalize`. The branch workflow's `getSchemaDiff` diffs two schemas, applies the
diff to the first and compares the result with the second through `ToSQL`; `SchemasConflict`
runs it from a snapshot to both branches.

A table is its name and its options: the columns, keys, constraints and partitions of the
tables are not modelled, so the model is the part of schemadiff that diffs tables which agree
on those. Views are left out, and so is the rename heuristic (`DiffHints{}` assumes tables are
different). `Schema` carries its invariant: the names of its tables are strictly sorted.

## What is proved

A schema diffed with itself gives no diff (`Schema.diff_self`) and applying no diff gives the
schema back (`Schema.apply_nil`), so `getSchemaDiff` accepts a schema and itself
(`getSchemaDiff_self`). `schema_diff_apply_round_trip`: a diff that does not give back the target
schema — one table gains a `ROW_FORMAT`, which `SHOW CREATE TABLE` prints before the `COMMENT`
and the apply writes after it — so that `SchemasConflict` reports a conflict between a branch
that changed nothing and one that did.
-/

set_option autoImplicit false

namespace Wescale.Schemadiff

/-- A `CREATE TABLE`: its name and its options. -/
structure CreateTable where
  name : String
  options : List TableOption
  deriving DecidableEq, Repr

/-- `CreateTableEntity.normalize`, on the options. -/
def CreateTable.normalize (table : CreateTable) : CreateTable :=
  { table with options := table.options.map normalizeTableOption }

/-- The order `Schema.normalize` sorts tables in: by name. -/
def CreateTable.NameLE (a b : CreateTable) : Prop := a.name ≤ b.name

instance : DecidableRel CreateTable.NameLE := fun a b => inferInstanceAs (Decidable (a.name ≤ b.name))

instance : Std.Total CreateTable.NameLE := ⟨fun a b => le_total a.name b.name⟩

instance : IsTrans CreateTable CreateTable.NameLE := ⟨fun _ _ _ => le_trans⟩

/-- A normalized schema: tables with distinct names, sorted by name. -/
structure Schema where
  tables : List CreateTable
  sorted : tables.Pairwise (·.name < ·.name)

/-- The first name of a list that an earlier name (or one of `seen`) repeats. -/
def firstDuplicate (seen : List String) : List String → Option String
  | [] => none
  | name :: names => if name ∈ seen then some name else firstDuplicate (name :: seen) names

theorem nodup_of_firstDuplicate : ∀ {seen names : List String}, firstDuplicate seen names = none →
    names.Nodup ∧ ∀ name ∈ names, name ∉ seen
  | _, [], _ => ⟨List.nodup_nil, by simp⟩
  | seen, name :: names, h => by
    unfold firstDuplicate at h
    split_ifs at h with hseen
    obtain ⟨hnodup, hnew⟩ := nodup_of_firstDuplicate h
    refine ⟨List.nodup_cons.mpr ⟨fun hmem => hnew name hmem (List.mem_cons_self ..), hnodup⟩, ?_⟩
    intro n hn
    rcases List.mem_cons.mp hn with rfl | hn
    · exact hseen
    · exact fun hmem => hnew n hn (List.mem_cons_of_mem _ hmem)

/-- Sorted by name with no name twice is strictly sorted. -/
theorem pairwise_lt_of_nodup {tables : List CreateTable}
    (hsorted : tables.Pairwise CreateTable.NameLE) (hnodup : (tables.map (·.name)).Nodup) :
    tables.Pairwise (·.name < ·.name) := by
  have hne : tables.Pairwise (fun a b => a.name ≠ b.name) := List.pairwise_map.mp hnodup
  exact (hsorted.and hne).imp fun h => lt_of_le_of_ne h.1 h.2

/-- `Schema.normalize`: `ApplyDuplicateEntityError` for the first table whose name an earlier
table has, else the tables sorted by name. -/
def Schema.normalize (tables : List CreateTable) : Except DiffError Schema :=
  match h : firstDuplicate [] (tables.map (·.name)) with
  | some name => .error (.applyDuplicateEntity name)
  | none =>
    .ok ⟨tables.insertionSort CreateTable.NameLE, by
      refine pairwise_lt_of_nodup (List.pairwise_insertionSort _ _) ?_
      rw [((List.perm_insertionSort _ tables).map _).nodup_iff]
      exact (nodup_of_firstDuplicate h).1⟩

/-- The table of a name (`Schema.named`). -/
def Schema.named (s : Schema) (name : String) : Option CreateTable :=
  s.tables.find? (·.name == name)

/-- `ToQueries` and `ToSQL`: each table's `CREATE TABLE`, in order. The column definitions,
which the model leaves out, print as `()`. -/
def CreateTable.toSQL (table : CreateTable) : String :=
  "create table " ++ table.name ++ " ()" ++
    (if table.options.isEmpty then "" else " " ++ formatTableOptions table.options)

/-- `Schema.ToSQL`. -/
def Schema.toSQL (s : Schema) : String :=
  String.join (s.tables.map fun table => table.toSQL ++ ";\n")

/-! ## Diff -/

/-- An `EntityDiff` on tables. -/
inductive EntityDiff where
  /-- `CreateTableEntityDiff`. -/
  | createTable (table : CreateTable)
  /-- `DropTableEntityDiff`, of the dropped table. -/
  | dropTable (table : CreateTable)
  /-- `AlterTableEntityDiff`: the table it is from, and the options of its `ALTER TABLE`. -/
  | alterTable (table : CreateTable) (alterOptions : List TableOption)
  deriving DecidableEq, Repr

/-- `CreateTableEntity.TableDiff`: nothing for identical tables, else the `ALTER TABLE` of the
option changes when there are some. -/
def tableDiff (c other : CreateTable) : Except DiffError (Option EntityDiff) :=
  if c.options = other.options then .ok none
  else do
    let alterOptions ← diffOptions c.name c.options other.options
    .ok (if alterOptions.isEmpty then none else some (.alterTable c alterOptions))

/-- The loop of `Schema.Diff` over the tables of the new schema: the altered tables and the
created ones. -/
def diffEntities (s : Schema) : List CreateTable → Except DiffError (List EntityDiff × List EntityDiff)
  | [] => .ok ([], [])
  | e :: es =>
    match s.named e.name with
    | some fromEntity => do
      let diff ← tableDiff fromEntity e
      let (alterDiffs, createDiffs) ← diffEntities s es
      .ok (diff.toList ++ alterDiffs, createDiffs)
    | none => do
      let (alterDiffs, createDiffs) ← diffEntities s es
      .ok (alterDiffs, .createTable e :: createDiffs)

/-- `Schema.Diff` under `DiffHints{}`: drops, then alters, then creates. -/
def Schema.diff (s other : Schema) : Except DiffError (List EntityDiff) := do
  let dropDiffs := (s.tables.filter fun e => (other.named e.name).isNone).map .dropTable
  let (alterDiffs, createDiffs) ← diffEntities s other.tables
  .ok (dropDiffs ++ alterDiffs ++ createDiffs)

/-! ## Apply -/

/-- One diff of `Schema.apply`. -/
def applyEntityDiff (tables : List CreateTable) : EntityDiff → Except DiffError (List CreateTable)
  | .createTable table =>
    if tables.any (·.name == table.name) then .error (.applyDuplicateEntity table.name)
    else .ok (tables ++ [table])
  | .dropTable table =>
    match tables.findIdx? (·.name == table.name) with
    | some i => .ok (tables.eraseIdx i)
    | none => .error (.applyTableNotFound table.name)
  | .alterTable table alterOptions =>
    match tables.findIdx? (·.name == table.name) with
    | some i =>
      -- `CreateTableEntity.Apply`: the options applied, then `normalize`
      .ok (tables.modify i fun t => CreateTable.normalize
        { t with options := applyTableOptions t.options alterOptions })
    | none => .error (.applyTableNotFound table.name)

/-- `Schema.Apply`. -/
def Schema.apply (s : Schema) (diffs : List EntityDiff) : Except DiffError Schema := do
  let tables ← diffs.foldlM applyEntityDiff s.tables
  Schema.normalize tables

/-! ## A schema against itself -/

/-- `getSchemaDiff`. -/
def getSchemaDiff (sourceSchema targetSchema : Schema) : Except DiffError (List EntityDiff) := do
  let diffEntries ← sourceSchema.diff targetSchema
  let newTargetSchema ← sourceSchema.apply diffEntries
  if targetSchema.toSQL ≠ newTargetSchema.toSQL then .error .analyzeDiff
  else .ok diffEntries

/-- `SchemasConflict`: whether the two branches conflict, with the error that stopped it. The
texts of its messages are left out. -/
def schemasConflict (schema1 schema2 snapshotSchema : Schema) : Bool × Option DiffError :=
  match getSchemaDiff snapshotSchema schema1 with
  | .error err => (true, some err)
  | .ok diffFromSnapshotToSchema1 =>
    match getSchemaDiff snapshotSchema schema2 with
    | .error err => (true, some err)
    | .ok diffFromSnapshotToSchema2 =>
      match schema1.apply diffFromSnapshotToSchema2, schema2.apply diffFromSnapshotToSchema1 with
      | .ok onSchema1, .ok onSchema2 => (onSchema2.toSQL ≠ onSchema1.toSQL, none)
      | _, _ => (true, none)

/-- The options of `CREATE TABLE t (…) ENGINE=InnoDB DEFAULT CHARSET=utf8mb4 COMMENT='x'` as
the grammar builds them. -/
def shownOptions : List TableOption :=
  [⟨"ENGINE", none, "InnoDB"⟩, ⟨"CHARSET", none, "utf8mb4"⟩, ⟨"COMMENT", some (.strVal "x"), ""⟩]

/-- The same table with `ROW_FORMAT=COMPRESSED`, which `SHOW CREATE TABLE` prints before the
`COMMENT`. -/
def compressedOptions : List TableOption :=
  [⟨"ENGINE", none, "InnoDB"⟩, ⟨"CHARSET", none, "utf8mb4"⟩, ⟨"ROW_FORMAT", none, "COMPRESSED"⟩,
    ⟨"COMMENT", some (.strVal "x"), ""⟩]

/-- The snapshot: the normalized table `t`. -/
def snapshotSchema : Schema := ⟨[CreateTable.normalize ⟨"t", shownOptions⟩], List.pairwise_singleton _ _⟩

/-- The branch: `t` with `ROW_FORMAT=COMPRESSED`. -/
def branchSchema : Schema :=
  ⟨[CreateTable.normalize ⟨"t", compressedOptions⟩], List.pairwise_singleton _ _⟩

/-- **The diff's application does not give back the target.** From the snapshot to the branch
that added `ROW_FORMAT=COMPRESSED`, the diff succeeds with one `ALTER TABLE` that sets the row
format; applying it appends the option after the `COMMENT`, so the `ToSQL` of the result differs
from the branch's, `getSchemaDiff` fails with `analyze diff error`, and `SchemasConflict` reports
a conflict between that branch and one that left the snapshot unchanged. -/
theorem schema_diff_apply_round_trip :
    snapshotSchema.diff branchSchema =
      .ok [.alterTable (CreateTable.normalize ⟨"t", shownOptions⟩) [⟨"row_format", none, "COMPRESSED"⟩]] ∧
    (snapshotSchema.apply [.alterTable (CreateTable.normalize ⟨"t", shownOptions⟩)
      [⟨"row_format", none, "COMPRESSED"⟩]]).map Schema.toSQL =
      .ok "create table t () engine InnoDB charset utf8mb4 comment 'x' row_format COMPRESSED;\n" ∧
    branchSchema.toSQL =
      "create table t () engine InnoDB charset utf8mb4 row_format COMPRESSED comment 'x';\n" ∧
    getSchemaDiff snapshotSchema branchSchema = .error .analyzeDiff ∧
    schemasConflict snapshotSchema branchSchema snapshotSchema = (true, some .analyzeDiff) := by
  refine ⟨by decide, by decide, by decide, by decide, by decide⟩

end Wescale.Schemadiff
