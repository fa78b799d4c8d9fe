import Wescale.Lib.Kleene

/-!
# Predicate expressions and their value (`go/vt/sqlparser/ast.go`)

The expressions `RewritePredicate` works on: columns, integer and `NULL` literals, `NOT`, `AND`,
`OR`, `XOR`, comparisons, and value tuples, as the right side of `IN`. `Equals.Expr`, with which
the rewriter finds equal operands, is equality of syntax trees.

An expression's value is MySQL's: an integer or `NULL`. The logical operators read their operands
as truth values (a nonzero integer is true, zero false, `NULL` unknown) and return `1`, `0` or
`NULL` by Kleene's logic; comparisons return the same; `IN` is true if the value equals an element
of the tuple, unknown if it does not but `NULL` is involved, false otherwise. A `WHERE` clause
selects a row when its predicate's truth value is true.

`Wescale.Sqlparser.Analyzer` models other constructors of the same `Expr`, those the classifiers of
statements look at; the constructors here are the ones `RewritePredicate` looks at, in a namespace
of their own.

**What is left out.** Values are integers and `NULL`; strings, decimals, their comparisons and
collations, and `LIKE` are not modelled. A literal is its value, so two spellings of one integer
are one literal. A tuple outside `IN` has no value here (`NULL`).
-/

set_option autoImplicit false

namespace Wescale.Sqlparser.Predicate

/-- `ComparisonExprOperator`, those of them on integers. -/
inductive ComparisonExprOperator where
  | equalOp
  | lessThanOp
  | greaterThanOp
  | lessEqualOp
  | greaterEqualOp
  | notEqualOp
  | nullSafeEqualOp
  | inOp
  | notInOp
  deriving DecidableEq, Repr

/-- The expressions of a predicate. -/
inductive Expr where
  | colName (name : String)
  | intVal (v : Int)
  | nullVal
  | notExpr (expr : Expr)
  | andExpr (left right : Expr)
  | orExpr (left right : Expr)
  | xorExpr (left right : Expr)
  | comparisonExpr (operator : ComparisonExprOperator) (left right : Expr)
  | valTuple (exprs : List Expr)
  deriving Repr

mutual

/-- `Equals.Expr`, the comparator the source generates: equality of syntax trees. -/
def Expr.equals : Expr → Expr → Bool
  | .colName a, .colName b => a == b
  | .intVal a, .intVal b => a == b
  | .nullVal, .nullVal => true
  | .notExpr a, .notExpr b => a.equals b
  | .andExpr a₁ a₂, .andExpr b₁ b₂ => a₁.equals b₁ && a₂.equals b₂
  | .orExpr a₁ a₂, .orExpr b₁ b₂ => a₁.equals b₁ && a₂.equals b₂
  | .xorExpr a₁ a₂, .xorExpr b₁ b₂ => a₁.equals b₁ && a₂.equals b₂
  | .comparisonExpr o a₁ a₂, .comparisonExpr p b₁ b₂ => o == p && a₁.equals b₁ && a₂.equals b₂
  | .valTuple as, .valTuple bs => Expr.equalsList as bs
  | _, _ => false

/-- `Equals.Exprs`: the elements pairwise. -/
def Expr.equalsList : List Expr → List Expr → Bool
  | [], [] => true
  | a :: as, b :: bs => a.equals b && Expr.equalsList as bs
  | _, _ => false

end

mutual

theorem Expr.eq_of_equals : ∀ {a b : Expr}, a.equals b = true → a = b
  | .colName _, b, h => by
    cases b
    case colName => exact congrArg _ (beq_iff_eq.mp h)
    all_goals exact absurd h Bool.false_ne_true
  | .intVal _, b, h => by
    cases b
    case intVal => exact congrArg _ (beq_iff_eq.mp h)
    all_goals exact absurd h Bool.false_ne_true
  | .nullVal, b, h => by
    cases b
    case nullVal => rfl
    all_goals exact absurd h Bool.false_ne_true
  | .notExpr a, b, h => by
    cases b
    case notExpr b =>
      have h' : a.equals b = true := h
      rw [Expr.eq_of_equals h']
    all_goals exact absurd h Bool.false_ne_true
  | .andExpr a₁ a₂, b, h => by
    cases b
    case andExpr b₁ b₂ =>
      have h' : (a₁.equals b₁ && a₂.equals b₂) = true := h
      rw [Bool.and_eq_true] at h'
      rw [Expr.eq_of_equals h'.1, Expr.eq_of_equals h'.2]
    all_goals exact absurd h Bool.false_ne_true
  | .orExpr a₁ a₂, b, h => by
    cases b
    case orExpr b₁ b₂ =>
      have h' : (a₁.equals b₁ && a₂.equals b₂) = true := h
      rw [Bool.and_eq_true] at h'
      rw [Expr.eq_of_equals h'.1, Expr.eq_of_equals h'.2]
    all_goals exact absurd h Bool.false_ne_true
  | .xorExpr a₁ a₂, b, h => by
    cases b
    case xorExpr b₁ b₂ =>
      have h' : (a₁.equals b₁ && a₂.equals b₂) = true := h
      rw [Bool.and_eq_true] at h'
      rw [Expr.eq_of_equals h'.1, Expr.eq_of_equals h'.2]
    all_goals exact absurd h Bool.false_ne_true
  | .comparisonExpr o a₁ a₂, b, h => by
    cases b
    case comparisonExpr p b₁ b₂ =>
      have h' : (o == p && a₁.equals b₁ && a₂.equals b₂) = true := h
      rw [Bool.and_eq_true, Bool.and_eq_true, beq_iff_eq] at h'
      rw [h'.1.1, Expr.eq_of_equals h'.1.2, Expr.eq_of_equals h'.2]
    all_goals exact absurd h Bool.false_ne_true
  | .valTuple as, b, h => by
    cases b
    case valTuple bs =>
      have h' : Expr.equalsList as bs = true := h
      rw [Expr.eq_of_equalsList h']
    all_goals exact absurd h Bool.false_ne_true

theorem Expr.eq_of_equalsList : ∀ {as bs : List Expr}, Expr.equalsList as bs = true → as = bs
  | [], [], _ => rfl
  | [], _ :: _, h => absurd h Bool.false_ne_true
  | _ :: _, [], h => absurd h Bool.false_ne_true
  | a :: as, b :: bs, h => by
    have h' : (a.equals b && Expr.equalsList as bs) = true := h
    rw [Bool.and_eq_true] at h'
    rw [Expr.eq_of_equals h'.1, Expr.eq_of_equalsList h'.2]

end

mutual

theorem Expr.equals_self : ∀ a : Expr, a.equals a = true
  | .colName a => beq_self_eq_true a
  | .intVal a => beq_self_eq_true a
  | .nullVal => rfl
  | .notExpr a => Expr.equals_self a
  | .andExpr a b | .orExpr a b | .xorExpr a b => by
    show (a.equals a && b.equals b) = true
    rw [Expr.equals_self a, Expr.equals_self b, Bool.and_self]
  | .comparisonExpr o a b => by
    show (o == o && a.equals a && b.equals b) = true
    rw [beq_self_eq_true, Expr.equals_self a, Expr.equals_self b, Bool.and_self, Bool.and_self]
  | .valTuple as => Expr.equalsList_self as

theorem Expr.equalsList_self : ∀ as : List Expr, Expr.equalsList as as = true
  | [] => rfl
  | a :: as => by
    show (a.equals a && Expr.equalsList as as) = true
    rw [Expr.equals_self a, Expr.equalsList_self as, Bool.and_self]

end

theorem Expr.equals_iff (a b : Expr) : a.equals b = true ↔ a = b :=
  ⟨Expr.eq_of_equals, fun h => h ▸ Expr.equals_self a⟩

instance : DecidableEq Expr := fun a b => decidable_of_iff _ (Expr.equals_iff a b)

/-! ## The value of an expression -/

/-- A value read as a truth value: nonzero is true, zero false, `NULL` unknown. -/
def truth : Option Int → Option Bool :=
  Option.map (· != 0)

/-- A truth value as the value MySQL gives it: `1`, `0` or `NULL`. -/
def ofTruth : Option Bool → Option Int :=
  Option.map fun b => if b then 1 else 0

@[simp] theorem truth_ofTruth (t : Option Bool) : truth (ofTruth t) = t := by
  rcases t with _ | _ | _ <;> rfl

/-- `=` on two values: unknown when either is `NULL`. -/
def eqTruth : Option Int → Option Int → Option Bool
  | some a, some b => some (a == b)
  | _, _ => none

/-- The comparisons other than `IN`; `IN` and `NOT IN` without a tuple have no value here. -/
def compareTruth : ComparisonExprOperator → Option Int → Option Int → Option Bool
  | .nullSafeEqualOp, a, b => some (a == b)
  | .equalOp, a, b => eqTruth a b
  | .notEqualOp, a, b => Kleene.not (eqTruth a b)
  | .lessThanOp, some a, some b => some (decide (a < b))
  | .greaterThanOp, some a, some b => some (decide (b < a))
  | .lessEqualOp, some a, some b => some (decide (a ≤ b))
  | .greaterEqualOp, some a, some b => some (decide (b ≤ a))
  | _, _, _ => none

/-- `v IN (w₁, …)`: `=` with some element, by Kleene's `or`. -/
def inTruth (v : Option Int) (ws : List (Option Int)) : Option Bool :=
  Kleene.any (ws.map (eqTruth v))

mutual

/-- The value of an expression when the columns have the values `env` gives them. -/
def eval (env : String → Option Int) : Expr → Option Int
  | .colName c => env c
  | .intVal v => some v
  | .nullVal => none
  | .notExpr e => ofTruth (Kleene.not (truth (eval env e)))
  | .andExpr l r => ofTruth (Kleene.and (truth (eval env l)) (truth (eval env r)))
  | .orExpr l r => ofTruth (Kleene.or (truth (eval env l)) (truth (eval env r)))
  | .xorExpr l r => ofTruth (Kleene.xor (truth (eval env l)) (truth (eval env r)))
  | .comparisonExpr .inOp l (.valTuple es) => ofTruth (inTruth (eval env l) (evalList env es))
  | .comparisonExpr .notInOp l (.valTuple es) =>
    ofTruth (Kleene.not (inTruth (eval env l) (evalList env es)))
  | .comparisonExpr op l r => ofTruth (compareTruth op (eval env l) (eval env r))
  | .valTuple _ => none

/-- The values of the elements of a tuple. -/
def evalList (env : String → Option Int) : List Expr → List (Option Int)
  | [] => []
  | e :: es => eval env e :: evalList env es

end

section Equations

variable (env : String → Option Int)

@[simp] theorem eval_notExpr (e : Expr) :
    eval env (.notExpr e) = ofTruth (Kleene.not (truth (eval env e))) := rfl

@[simp] theorem eval_andExpr (l r : Expr) :
    eval env (.andExpr l r) = ofTruth (Kleene.and (truth (eval env l)) (truth (eval env r))) := rfl

@[simp] theorem eval_orExpr (l r : Expr) :
    eval env (.orExpr l r) = ofTruth (Kleene.or (truth (eval env l)) (truth (eval env r))) := rfl

@[simp] theorem eval_xorExpr (l r : Expr) :
    eval env (.xorExpr l r) = ofTruth (Kleene.xor (truth (eval env l)) (truth (eval env r))) := rfl

theorem eval_equalOp (l r : Expr) :
    eval env (.comparisonExpr .equalOp l r) = ofTruth (eqTruth (eval env l) (eval env r)) := rfl

theorem eval_inOp (l : Expr) (es : List Expr) :
    eval env (.comparisonExpr .inOp l (.valTuple es)) =
      ofTruth (inTruth (eval env l) (evalList env es)) := rfl

@[simp] theorem evalList_cons (e : Expr) (es : List Expr) :
    evalList env (e :: es) = eval env e :: evalList env es := rfl

end Equations

end Wescale.Sqlparser.Predicate
