import Wescale.Sqlparser.Expr

/-!
# Rewriting predicates into a simpler form (`go/vt/sqlparser/predicate_rewriting.go`)

`RewritePredicate` runs `SafeRewrite` passes over an expression until a pass changes nothing. A
pass visits each node after its children and replaces it with what `simplifyExpression` gives,
when that reports `Changed`: double negation and De Morgan under `NOT`, the expansion of `XOR`,
factoring, absorption and distribution under `OR` and `AND`, the merge of `=` and `IN` on one
column into one `IN`, and the removal of repeated operands from chains of `OR` or `AND`
(`distinctOr`, `distinctAnd`).

The model keeps the source's functions one by one. `SafeRewrite` is a function of its `up`
function, `safeRewrite`, and so is the loop, `fixpointRewrite`; `RewritePredicate` is both at
`simplifyExpression`. The loop of the source has no bound: `fuel` bounds the passes here, and
`none` says that they went past it.

**What is left out.** The source rewrites the syntax tree in place, and a subtree that
distribution copies into two places is one node there, which a pass may visit twice; here the
tree is a value, and each copy is rewritten on its own. `ColName.Metadata`, which every pass
clears, is not modelled.
-/

set_option autoImplicit false

namespace Wescale.Sqlparser.Predicate

/-- `Changed`: a rewrite replaced its node. -/
def Changed : Bool := true

/-- `NoChange`: a rewrite left its node. -/
def NoChange : Bool := false

/-! ## The simplifiers -/

/-- `simplifyNot`, on the operand of a `NOT`. -/
def simplifyNot (child : Expr) : Expr × Bool :=
  match child with
  -- NOT NOT A => A
  | .notExpr a => (a, Changed)
  -- NOT (A OR B) => NOT A AND NOT B
  | .orExpr l r => (.andExpr (.notExpr l) (.notExpr r), Changed)
  -- NOT (A AND B) => NOT A OR NOT B
  | .andExpr l r => (.orExpr (.notExpr l) (.notExpr r), Changed)
  | _ => (.notExpr child, NoChange)

/-- `uniquefy`: the elements of a tuple, each kept at its first occurrence. -/
def uniquefy (tuple : List Expr) : List Expr :=
  tuple.foldl (fun output expr => if output.any expr.equals then output else output ++ [expr]) []

/-- The elements an `=` or an `IN` over a tuple adds to the tuple of `tryTurningOrIntoIn`. -/
def inElements : ComparisonExprOperator → Expr → Option (List Expr)
  | .equalOp, right => some [right]
  | .inOp, .valTuple exprs => some exprs
  | _, _ => none

/-- `tryTurningOrIntoIn` on the comparisons `l` and `r`, given by their operators and sides:
`A = X OR A = Y` becomes `A IN (X, Y)`, and so does an `IN` on either side. `none` is the
source's `nil, NoChange`. -/
def tryTurningOrIntoIn (lop : ComparisonExprOperator) (lleft lright : Expr)
    (rop : ComparisonExprOperator) (rleft rright : Expr) : Option Expr :=
  match lleft with
  | .colName col =>
    if !(Expr.colName col).equals rleft then none
    else
      match inElements lop lright, inElements rop rright with
      | some lft, some rgt => some (.comparisonExpr .inOp (.colName col) (.valTuple (uniquefy (lft ++ rgt))))
      | _, _ => none
  | _ => none

/-- `simplifyXor`: `A XOR B` becomes `(A OR B) AND NOT (A AND B)`. -/
def simplifyXor (left right : Expr) : Expr × Bool :=
  (.andExpr (.orExpr left right) (.notExpr (.andExpr left right)), Changed)

/-! ### Removing repeated operands -/

/-- The two operators whose chains `distinctOr` and `distinctAnd` flatten. -/
inductive Junction where
  | and
  | or
  deriving DecidableEq, Repr

/-- The two sides of a node of the operator. -/
def Junction.parts : Junction → Expr → Option (Expr × Expr)
  | .and, .andExpr l r => some (l, r)
  | .or, .orExpr l r => some (l, r)
  | _, _ => none

/-- The node of the operator on two sides. -/
def Junction.mk : Junction → Expr → Expr → Expr
  | .and, l, r => .andExpr l r
  | .or, l, r => .orExpr l r

/-- `addAnd` of `distinctOr` and `distinctAnd`: a node of the operator is queued, any other
expression kept as a leaf. -/
def addAnd (j : Junction) (st : List (Expr × Expr) × List Expr) (e : Expr) :
    List (Expr × Expr) × List Expr :=
  match j.parts e with
  | some p => (st.1 ++ [p], st.2)
  | none => (st.1, st.2 ++ [e])

mutual

/-- The number of nodes of an expression. -/
def Expr.size : Expr → Nat
  | .notExpr e => e.size + 1
  | .andExpr l r => l.size + r.size + 1
  | .orExpr l r => l.size + r.size + 1
  | .xorExpr l r => l.size + r.size + 1
  | .comparisonExpr _ l r => l.size + r.size + 1
  | .valTuple es => Expr.sizeList es + 1
  | _ => 1

/-- The number of nodes of the elements of a tuple. -/
def Expr.sizeList : List Expr → Nat
  | [] => 0
  | e :: es => e.size + Expr.sizeList es

end

theorem Expr.size_orExpr (l r : Expr) : (Expr.orExpr l r).size = l.size + r.size + 1 := rfl

theorem Expr.size_pos (e : Expr) : 0 < e.size := by
  cases e <;> exact Nat.succ_pos _

/-- The size of the nodes waiting in `todo`: what the loop of `distinct` decreases. -/
def todoSize (todo : List (Expr × Expr)) : Nat :=
  (todo.map fun p => p.1.size + p.2.size).sum

theorem size_lt_of_parts {j : Junction} {e a b : Expr} (h : j.parts e = some (a, b)) :
    a.size + b.size < e.size := by
  cases j <;> cases e <;> simp only [Junction.parts, reduceCtorEq, Option.some.injEq,
    Prod.mk.injEq] at h <;> obtain ⟨rfl, rfl⟩ := h <;> exact Nat.lt_succ_self _

theorem todoSize_addAnd (j : Junction) (st : List (Expr × Expr) × List Expr) (e : Expr) :
    todoSize (addAnd j st e).1 + 1 ≤ todoSize st.1 + e.size := by
  have hpos := e.size_pos
  unfold addAnd
  split
  · rename_i p hp
    have := size_lt_of_parts hp
    simp only [todoSize, List.map_append, List.map_cons, List.map_nil, List.sum_append,
      List.sum_cons, List.sum_nil] at this ⊢
    omega
  · simp only
    omega

/-- The loop of `distinctOr` and `distinctAnd` over the queue `todo`: the operands of the chain,
in the order the queue meets them. -/
def collectLeaves (j : Junction) (todo : List (Expr × Expr)) (leaves : List Expr) : List Expr :=
  match todo with
  | [] => leaves
  | (l, r) :: todo =>
    let st := addAnd j (addAnd j (todo, leaves) l) r
    collectLeaves j st.1 st.2
termination_by todoSize todo
decreasing_by
  have h1 := todoSize_addAnd j (todo, leaves) l
  have h2 := todoSize_addAnd j (addAnd j (todo, leaves) l) r
  simp only [todoSize, List.map_cons, List.sum_cons] at h1 h2 ⊢
  omega

/-- The chain of the operator on a nonempty list, nested to the left. The empty list does not
occur: a chain has at least two operands. -/
def rebuild (j : Junction) : List Expr → Expr
  | [] => .nullVal
  | p :: ps => ps.foldl j.mk p

/-- `distinctOr` and `distinctAnd` on a node of the operator: the chain without its repeated
operands, or the node itself when none repeats. The loop `outer1` keeps each operand at its first
occurrence, as `uniquefy` does. -/
def distinct (j : Junction) (left right : Expr) : Expr × Bool :=
  let leaves := collectLeaves j [(left, right)] []
  let original := leaves.length
  let predicates := uniquefy leaves
  if original == predicates.length then (j.mk left right, NoChange)
  else (rebuild j predicates, Changed)

/-- `distinctOr`. -/
def distinctOr (left right : Expr) : Expr × Bool :=
  distinct .or left right

/-- `distinctAnd`. -/
def distinctAnd (left right : Expr) : Expr × Bool :=
  distinct .and left right

theorem Expr.ne_of_size_lt {a b : Expr} (h : a.size < b.size) : a ≠ b := by
  rintro rfl
  exact Nat.lt_irrefl _ h

theorem collectLeaves_pair {j : Junction} {l r : Expr} (hl : j.parts l = none)
    (hr : j.parts r = none) : collectLeaves j [(l, r)] [] = [l, r] := by
  rw [collectLeaves]
  simp only [addAnd, hl, hr, List.nil_append]
  rw [collectLeaves]
  rfl

theorem uniquefy_pair {l r : Expr} (h : l ≠ r) : uniquefy [l, r] = [l, r] := by
  have hrl : r.equals l = false := Bool.eq_false_iff.mpr fun he => h (Expr.eq_of_equals he).symm
  simp [uniquefy, hrl]

/-- On two operands that differ and are not of the operator, `distinct` changes nothing. -/
theorem distinct_pair {j : Junction} {l r : Expr} (hl : j.parts l = none)
    (hr : j.parts r = none) (h : l ≠ r) : distinct j l r = (j.mk l r, NoChange) := by
  simp only [distinct, collectLeaves_pair hl hr, uniquefy_pair h]
  rfl

/-! ### `OR` and `AND` -/

/-- `simplifyOr`. -/
def simplifyOr (left right : Expr) : Expr × Bool :=
  match left, right with
  | .andExpr ll lr, .andExpr rl rr =>
    -- (A and B) or (A and C) => A AND (B OR C), and the other three orders
    if ll.equals rl then (.andExpr ll (.orExpr lr rr), Changed)
    else if ll.equals rr then (.andExpr ll (.orExpr lr rl), Changed)
    else if lr.equals rl then (.andExpr lr (.orExpr ll rr), Changed)
    else if lr.equals rr then (.andExpr lr (.orExpr ll rl), Changed)
    else (.orExpr left right, NoChange)
  | .andExpr ll lr, _ =>
    -- (A AND B) OR A => A, else (A AND B) OR C => (A OR C) AND (B OR C)
    if right.equals ll || right.equals lr then (right, Changed)
    else (.andExpr (.orExpr ll right) (.orExpr lr right), Changed)
  | _, .andExpr rl rr =>
    -- A OR (A AND B) => A, else C OR (A AND B) => (C OR A) AND (C OR B)
    if left.equals rl || left.equals rr then (left, Changed)
    else (.andExpr (.orExpr left rl) (.orExpr left rr), Changed)
  | .comparisonExpr lop ll lr, .comparisonExpr rop rl rr =>
    match tryTurningOrIntoIn lop ll lr rop rl rr with
    | some newExpr => (newExpr, Changed)
    | none => distinctOr left right
  | _, _ => distinctOr left right

/-- `simplifyAnd`. The second absorption returns the left operand of the `OR`, whichever of its
operands equals the other side of the `AND`. -/
def simplifyAnd (left right : Expr) : Expr × Bool :=
  match distinctAnd left right with
  | (res, true) => (res, Changed)
  | (_, false) =>
    -- (A OR B) AND A => A
    let absorbsRight := match left with
      | .orExpr ol orr => ol.equals right || orr.equals right
      | _ => false
    if absorbsRight then (right, Changed)
    else
      match right with
      | .orExpr ol orr =>
        if ol.equals left || orr.equals left then (ol, Changed) else (.andExpr left right, NoChange)
      | _ => (.andExpr left right, NoChange)

/-- The second absorption of `simplifyAnd` at work: `A AND (B OR A)` becomes `B`, for every `A`
that is not itself an `AND`. -/
theorem simplifyAnd_or_right {left : Expr} (ol : Expr) (hleft : Junction.and.parts left = none) :
    simplifyAnd left (.orExpr ol left) = (ol, Changed) := by
  have hsize : left.size < (Expr.orExpr ol left).size := by
    rw [Expr.size_orExpr]
    omega
  have hdistinct : distinctAnd left (.orExpr ol left) =
      (.andExpr left (.orExpr ol left), NoChange) :=
    distinct_pair hleft rfl (Expr.ne_of_size_lt hsize)
  unfold simplifyAnd
  rw [hdistinct, NoChange]
  dsimp only
  rw [if_neg]
  · simp [Expr.equals_self]
  · cases left with
    | orExpr a b =>
      have ha : a.equals (.orExpr ol (.orExpr a b)) = false := by
        apply Bool.eq_false_iff.mpr
        apply mt Expr.eq_of_equals
        apply Expr.ne_of_size_lt
        rw [Expr.size_orExpr, Expr.size_orExpr]
        omega
      have hb : b.equals (.orExpr ol (.orExpr a b)) = false := by
        apply Bool.eq_false_iff.mpr
        apply mt Expr.eq_of_equals
        apply Expr.ne_of_size_lt
        rw [Expr.size_orExpr, Expr.size_orExpr]
        omega
      simp [ha, hb]
    | _ => simp

/-- `simplifyExpression`. -/
def simplifyExpression : Expr → Expr × Bool
  | .notExpr e => simplifyNot e
  | .orExpr l r => simplifyOr l r
  | .xorExpr l r => simplifyXor l r
  | .andExpr l r => simplifyAnd l r
  | e => (e, NoChange)

/-! ## The passes -/

/-- The `up` function at a node whose children a pass has rewritten: the replacement when the
simplifier reports `Changed`, the node otherwise. -/
def applyUp (up : Expr → Expr × Bool) (node : Expr) (changed : Bool) : Expr × Bool :=
  match up node with
  | (rewritten, true) => (rewritten, true)
  | (_, false) => (node, changed)

section ApplyUp

variable (up : Expr → Expr × Bool) {node : Expr} (changed : Bool)

theorem applyUp_of_false (h : (up node).2 = false) : applyUp up node changed = (node, changed) := by
  unfold applyUp
  rcases hu : up node with ⟨rewritten, c⟩
  rw [hu] at h
  subst h
  rfl

theorem applyUp_of_true (h : (up node).2 = true) :
    applyUp up node changed = ((up node).1, true) := by
  unfold applyUp
  rcases hu : up node with ⟨rewritten, c⟩
  rw [hu] at h
  subst h
  rfl

end ApplyUp

mutual

/-- `SafeRewrite` with the `up` function `up`: each node after its children, and whether some
node changed. -/
def safeRewrite (up : Expr → Expr × Bool) : Expr → Expr × Bool
  | .notExpr e =>
    let (e', c) := safeRewrite up e
    applyUp up (.notExpr e') c
  | .andExpr l r =>
    let (l', cl) := safeRewrite up l
    let (r', cr) := safeRewrite up r
    applyUp up (.andExpr l' r') (cl || cr)
  | .orExpr l r =>
    let (l', cl) := safeRewrite up l
    let (r', cr) := safeRewrite up r
    applyUp up (.orExpr l' r') (cl || cr)
  | .xorExpr l r =>
    let (l', cl) := safeRewrite up l
    let (r', cr) := safeRewrite up r
    applyUp up (.xorExpr l' r') (cl || cr)
  | .comparisonExpr op l r =>
    let (l', cl) := safeRewrite up l
    let (r', cr) := safeRewrite up r
    applyUp up (.comparisonExpr op l' r') (cl || cr)
  | .valTuple es =>
    let (es', c) := safeRewriteList up es
    applyUp up (.valTuple es') c
  | e => applyUp up e false

/-- `SafeRewrite` over the elements of a tuple, in order. -/
def safeRewriteList (up : Expr → Expr × Bool) : List Expr → List Expr × Bool
  | [] => ([], false)
  | e :: es =>
    let (e', c) := safeRewrite up e
    let (es', cs) := safeRewriteList up es
    (e' :: es', c || cs)

end

section Equations

variable (up : Expr → Expr × Bool) (e l r : Expr)

theorem safeRewrite_notExpr :
    safeRewrite up (.notExpr e) = applyUp up (.notExpr (safeRewrite up e).1) (safeRewrite up e).2 :=
  rfl

theorem safeRewrite_andExpr :
    safeRewrite up (.andExpr l r) = applyUp up (.andExpr (safeRewrite up l).1 (safeRewrite up r).1)
      ((safeRewrite up l).2 || (safeRewrite up r).2) :=
  rfl

theorem safeRewrite_orExpr :
    safeRewrite up (.orExpr l r) = applyUp up (.orExpr (safeRewrite up l).1 (safeRewrite up r).1)
      ((safeRewrite up l).2 || (safeRewrite up r).2) :=
  rfl

theorem safeRewrite_xorExpr :
    safeRewrite up (.xorExpr l r) = applyUp up (.xorExpr (safeRewrite up l).1 (safeRewrite up r).1)
      ((safeRewrite up l).2 || (safeRewrite up r).2) :=
  rfl

theorem safeRewrite_comparisonExpr (op : ComparisonExprOperator) :
    safeRewrite up (.comparisonExpr op l r) =
      applyUp up (.comparisonExpr op (safeRewrite up l).1 (safeRewrite up r).1)
        ((safeRewrite up l).2 || (safeRewrite up r).2) :=
  rfl

theorem safeRewrite_valTuple (es : List Expr) :
    safeRewrite up (.valTuple es) =
      applyUp up (.valTuple (safeRewriteList up es).1) (safeRewriteList up es).2 :=
  rfl

theorem safeRewriteList_cons (es : List Expr) :
    safeRewriteList up (e :: es) =
      ((safeRewrite up e).1 :: (safeRewriteList up es).1,
        (safeRewrite up e).2 || (safeRewriteList up es).2) :=
  rfl

end Equations

/-- The loop of `RewritePredicate` with the `up` function `up`: passes until one changes
nothing, at most `fuel` of them. -/
def fixpointRewrite (up : Expr → Expr × Bool) : Nat → Expr → Option Expr
  | 0, _ => none
  | fuel + 1, ast =>
    let (ast', changed) := safeRewrite up ast
    if changed then fixpointRewrite up fuel ast' else some ast'

theorem fixpointRewrite_succ (up : Expr → Expr × Bool) (fuel : Nat) (ast : Expr) :
    fixpointRewrite up (fuel + 1) ast =
      if (safeRewrite up ast).2 then fixpointRewrite up fuel (safeRewrite up ast).1
      else some (safeRewrite up ast).1 :=
  rfl

/-- `RewritePredicate`, with at most `fuel` passes. -/
def RewritePredicate (fuel : Nat) (ast : Expr) : Option Expr :=
  fixpointRewrite simplifyExpression fuel ast

end Wescale.Sqlparser.Predicate
