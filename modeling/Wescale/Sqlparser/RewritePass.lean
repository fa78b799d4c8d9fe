import Wescale.Sqlparser.RewriteTruth

/-!
# Passes over predicates

A pass of `SafeRewrite` rewrites the children of a node before the node, so it hands its `up`
function each node with its children already rewritten (`visited`). When the `up` function keeps
the truth value of the nodes it is handed, the pass keeps that of a logical node, since a logical
node's truth value is a function of its children's. It does not for a comparison, whose value is
a function of its operands' values: a pass is sound on a predicate (`IsPredicate`), whose
comparisons hold no logical operator, and on which it rewrites nothing below a comparison.

`SoundUp` says what a pass needs of its `up` function, away from the nodes `Bad`; the loop then
keeps the truth value of its predicate as long as none of its passes meets a bad node
(`fixpointRewrite_sameTruth`). `simplifyExpression` meets these demands with the nodes
`AbsorbsWrongly` as the bad ones.
-/

set_option autoImplicit false

namespace Wescale.Sqlparser.Predicate

/-! ## Predicates -/

/-- An expression with no logical operator in it: a column, a literal, a comparison of such, or a
tuple of such. -/
inductive Flat : Expr → Prop
  | colName (name : String) : Flat (.colName name)
  | intVal (v : Int) : Flat (.intVal v)
  | nullVal : Flat .nullVal
  | comparisonExpr (op : ComparisonExprOperator) {l r : Expr} :
      Flat l → Flat r → Flat (.comparisonExpr op l r)
  | valTuple {es : List Expr} : (∀ e ∈ es, Flat e) → Flat (.valTuple es)

/-- A predicate: `NOT`, `AND`, `OR` and `XOR` over expressions with no logical operator in them. -/
inductive IsPredicate : Expr → Prop
  | flat {e : Expr} : Flat e → IsPredicate e
  | notExpr {e : Expr} : IsPredicate e → IsPredicate (.notExpr e)
  | andExpr {l r : Expr} : IsPredicate l → IsPredicate r → IsPredicate (.andExpr l r)
  | orExpr {l r : Expr} : IsPredicate l → IsPredicate r → IsPredicate (.orExpr l r)
  | xorExpr {l r : Expr} : IsPredicate l → IsPredicate r → IsPredicate (.xorExpr l r)

section Inversion

variable {e l r : Expr}

@[simp] theorem isPredicate_notExpr : IsPredicate (.notExpr e) ↔ IsPredicate e := by
  constructor
  · intro h
    cases h with
    | flat hf => cases hf
    | notExpr he => exact he
  · exact IsPredicate.notExpr

@[simp] theorem isPredicate_andExpr : IsPredicate (.andExpr l r) ↔ IsPredicate l ∧ IsPredicate r := by
  constructor
  · intro h
    cases h with
    | flat hf => cases hf
    | andExpr hl hr => exact ⟨hl, hr⟩
  · intro h
    exact IsPredicate.andExpr h.1 h.2

@[simp] theorem isPredicate_orExpr : IsPredicate (.orExpr l r) ↔ IsPredicate l ∧ IsPredicate r := by
  constructor
  · intro h
    cases h with
    | flat hf => cases hf
    | orExpr hl hr => exact ⟨hl, hr⟩
  · intro h
    exact IsPredicate.orExpr h.1 h.2

@[simp] theorem isPredicate_xorExpr : IsPredicate (.xorExpr l r) ↔ IsPredicate l ∧ IsPredicate r := by
  constructor
  · intro h
    cases h with
    | flat hf => cases hf
    | xorExpr hl hr => exact ⟨hl, hr⟩
  · intro h
    exact IsPredicate.xorExpr h.1 h.2

theorem isPredicate_comparisonExpr {op : ComparisonExprOperator} :
    IsPredicate (.comparisonExpr op l r) ↔ Flat l ∧ Flat r := by
  constructor
  · intro h
    cases h with
    | flat hf =>
      cases hf with
      | comparisonExpr _ hl hr => exact ⟨hl, hr⟩
  · intro h
    exact IsPredicate.flat (Flat.comparisonExpr op h.1 h.2)

theorem isPredicate_mk (j : Junction) :
    IsPredicate (j.mk l r) ↔ IsPredicate l ∧ IsPredicate r := by
  cases j
  · exact isPredicate_andExpr
  · exact isPredicate_orExpr

end Inversion

/-! ## What the simplifiers build -/

section Build

variable (j : Junction)

theorem isPredicate_addAnd (st : List (Expr × Expr) × List Expr) (e : Expr)
    (htodo : ∀ p ∈ st.1, IsPredicate p.1 ∧ IsPredicate p.2) (hleaves : ∀ x ∈ st.2, IsPredicate x)
    (he : IsPredicate e) :
    (∀ p ∈ (addAnd j st e).1, IsPredicate p.1 ∧ IsPredicate p.2) ∧
      ∀ x ∈ (addAnd j st e).2, IsPredicate x := by
  unfold addAnd
  split
  · rename_i p hp
    have hparts : IsPredicate p.1 ∧ IsPredicate p.2 := by
      rw [j.mk_of_parts hp, isPredicate_mk] at he
      exact he
    refine ⟨?_, hleaves⟩
    intro q hq
    rcases List.mem_append.mp hq with hq | hq
    · exact htodo q hq
    · rw [List.mem_singleton.mp hq]
      exact hparts
  · refine ⟨htodo, ?_⟩
    intro x hx
    rcases List.mem_append.mp hx with hx | hx
    · exact hleaves x hx
    · rw [List.mem_singleton.mp hx]
      exact he

/-- The operands `distinct` collects from a chain of predicates are predicates. -/
theorem isPredicate_collectLeaves (todo : List (Expr × Expr)) (leaves : List Expr)
    (htodo : ∀ p ∈ todo, IsPredicate p.1 ∧ IsPredicate p.2) (hleaves : ∀ x ∈ leaves, IsPredicate x) :
    ∀ x ∈ collectLeaves j todo leaves, IsPredicate x := by
  fun_induction collectLeaves j todo leaves with
  | case1 leaves => exact hleaves
  | case2 leaves l r todo st ih =>
    have hlr := htodo (l, r) List.mem_cons_self
    have hrest : ∀ p ∈ todo, IsPredicate p.1 ∧ IsPredicate p.2 :=
      fun p hp => htodo p (List.mem_cons_of_mem _ hp)
    obtain ⟨htodo₁, hleaves₁⟩ := isPredicate_addAnd j (todo, leaves) l hrest hleaves hlr.1
    obtain ⟨htodo₂, hleaves₂⟩ := isPredicate_addAnd j _ r htodo₁ hleaves₁ hlr.2
    exact ih htodo₂ hleaves₂

theorem isPredicate_foldl_mk (p : Expr) (ps : List Expr) (hp : IsPredicate p)
    (hps : ∀ q ∈ ps, IsPredicate q) : IsPredicate (ps.foldl j.mk p) := by
  induction ps generalizing p with
  | nil => exact hp
  | cons q qs ih =>
    apply ih
    · exact (isPredicate_mk j).mpr ⟨hp, hps q List.mem_cons_self⟩
    · exact fun x hx => hps x (List.mem_cons_of_mem _ hx)

theorem isPredicate_distinct {l r : Expr} (hl : IsPredicate l) (hr : IsPredicate r) :
    IsPredicate (distinct j l r).1 := by
  have hleaves : ∀ x ∈ uniquefy (collectLeaves j [(l, r)] []), IsPredicate x := by
    intro x hx
    apply isPredicate_collectLeaves j [(l, r)] []
    · intro p hp
      rw [List.mem_singleton.mp hp]
      exact ⟨hl, hr⟩
    · intro x hx
      cases hx
    · exact (mem_uniquefy x _).mp hx
  unfold distinct
  dsimp only
  split
  · exact (isPredicate_mk j).mpr ⟨hl, hr⟩
  · revert hleaves
    cases uniquefy (collectLeaves j [(l, r)] []) with
    | nil => intro _; exact IsPredicate.flat Flat.nullVal
    | cons p ps =>
      intro hleaves
      exact isPredicate_foldl_mk j p ps (hleaves p List.mem_cons_self)
        (fun q hq => hleaves q (List.mem_cons_of_mem _ hq))

end Build

theorem flat_of_inElements {op : ComparisonExprOperator} {right : Expr} {xs : List Expr}
    (h : inElements op right = some xs) (hright : Flat right) : ∀ x ∈ xs, Flat x := by
  unfold inElements at h
  split at h
  · cases h
    intro x hx
    rw [List.mem_singleton.mp hx]
    exact hright
  · cases h
    cases hright with
    | valTuple hes => exact hes
  · cases h

theorem isPredicate_tryTurningOrIntoIn {lop rop : ComparisonExprOperator} {ll lr rl rr e : Expr}
    (h : tryTurningOrIntoIn lop ll lr rop rl rr = some e) (hlr : Flat lr) (hrr : Flat rr) :
    IsPredicate e := by
  unfold tryTurningOrIntoIn at h
  split at h
  · rename_i col
    split at h
    · cases h
    · split at h
      · rename_i lft rgt hl hr
        cases h
        apply IsPredicate.flat
        apply Flat.comparisonExpr .inOp (Flat.colName col)
        apply Flat.valTuple
        intro x hx
        rcases List.mem_append.mp ((mem_uniquefy x _).mp hx) with hx | hx
        · exact flat_of_inElements hl hlr x hx
        · exact flat_of_inElements hr hrr x hx
      · cases h
  · cases h

theorem isPredicate_simplifyNot {child : Expr} (h : IsPredicate child) :
    IsPredicate (simplifyNot child).1 := by
  unfold simplifyNot
  split
  · exact isPredicate_notExpr.mp h
  · rw [isPredicate_orExpr] at h
    exact IsPredicate.andExpr (.notExpr h.1) (.notExpr h.2)
  · rw [isPredicate_andExpr] at h
    exact IsPredicate.orExpr (.notExpr h.1) (.notExpr h.2)
  · exact IsPredicate.notExpr h

theorem isPredicate_simplifyOr {left right : Expr} (hl : IsPredicate left)
    (hr : IsPredicate right) : IsPredicate (simplifyOr left right).1 := by
  unfold simplifyOr
  split
  · rw [isPredicate_andExpr] at hl hr
    split_ifs
    · exact .andExpr hl.1 (.orExpr hl.2 hr.2)
    · exact .andExpr hl.1 (.orExpr hl.2 hr.1)
    · exact .andExpr hl.2 (.orExpr hl.1 hr.2)
    · exact .andExpr hl.2 (.orExpr hl.1 hr.1)
    · exact .orExpr (.andExpr hl.1 hl.2) (.andExpr hr.1 hr.2)
  · rw [isPredicate_andExpr] at hl
    split_ifs
    · exact hr
    · exact .andExpr (.orExpr hl.1 hr) (.orExpr hl.2 hr)
  · rw [isPredicate_andExpr] at hr
    split_ifs
    · exact hl
    · exact .andExpr (.orExpr hl hr.1) (.orExpr hl hr.2)
  · rw [isPredicate_comparisonExpr] at hl hr
    split
    · rename_i hin
      exact isPredicate_tryTurningOrIntoIn hin hl.2 hr.2
    · exact isPredicate_distinct .or
        (isPredicate_comparisonExpr.mpr hl) (isPredicate_comparisonExpr.mpr hr)
  · exact isPredicate_distinct .or hl hr

theorem isPredicate_simplifyAnd {left right : Expr} (hl : IsPredicate left)
    (hr : IsPredicate right) : IsPredicate (simplifyAnd left right).1 := by
  unfold simplifyAnd
  split
  · rename_i res hres
    have hd := isPredicate_distinct .and hl hr
    rw [← distinctAnd, hres] at hd
    exact hd
  · dsimp only
    split_ifs
    · exact hr
    · cases right with
      | orExpr ol orr =>
        dsimp only
        split_ifs
        · exact (isPredicate_orExpr.mp hr).1
        · exact .andExpr hl hr
      | _ => exact .andExpr hl hr

theorem isPredicate_simplifyExpression {e : Expr} (h : IsPredicate e) :
    IsPredicate (simplifyExpression e).1 := by
  cases e with
  | notExpr e => exact isPredicate_simplifyNot (isPredicate_notExpr.mp h)
  | orExpr l r =>
    rw [isPredicate_orExpr] at h
    exact isPredicate_simplifyOr h.1 h.2
  | xorExpr l r =>
    rw [isPredicate_xorExpr] at h
    exact .andExpr (.orExpr h.1 h.2) (.notExpr (.andExpr h.1 h.2))
  | andExpr l r =>
    rw [isPredicate_andExpr] at h
    exact isPredicate_simplifyAnd h.1 h.2
  | _ => exact h

/-- On an expression with no logical operator, `simplifyExpression` changes nothing. -/
theorem simplifyExpression_flat {e : Expr} (h : Flat e) : simplifyExpression e = (e, NoChange) := by
  cases h <;> rfl

/-! ## Passes -/

mutual

/-- The nodes a pass of `safeRewrite up` hands to `up`, each with its children as the pass has
rewritten them, in the order the pass visits them. -/
def visited (up : Expr → Expr × Bool) : Expr → List Expr
  | .notExpr e => visited up e ++ [.notExpr (safeRewrite up e).1]
  | .andExpr l r =>
    visited up l ++ visited up r ++ [.andExpr (safeRewrite up l).1 (safeRewrite up r).1]
  | .orExpr l r =>
    visited up l ++ visited up r ++ [.orExpr (safeRewrite up l).1 (safeRewrite up r).1]
  | .xorExpr l r =>
    visited up l ++ visited up r ++ [.xorExpr (safeRewrite up l).1 (safeRewrite up r).1]
  | .comparisonExpr op l r =>
    visited up l ++ visited up r ++
      [.comparisonExpr op (safeRewrite up l).1 (safeRewrite up r).1]
  | .valTuple es => visitedList up es ++ [.valTuple (safeRewriteList up es).1]
  | e => [e]

/-- The nodes a pass hands to `up` in the elements of a tuple. -/
def visitedList (up : Expr → Expr × Bool) : List Expr → List Expr
  | [] => []
  | e :: es => visited up e ++ visitedList up es

end

/-- The nodes the passes of `fixpointRewrite up fuel` hand to `up`. -/
def loopVisited (up : Expr → Expr × Bool) : Nat → Expr → List Expr
  | 0, _ => []
  | fuel + 1, ast =>
    visited up ast ++
      if (safeRewrite up ast).2 then loopVisited up fuel (safeRewrite up ast).1 else []

/-- What a pass needs of its `up` function to keep the truth value of a predicate, at the nodes
that are not `Bad`: it changes no expression without a logical operator, it turns predicates into
predicates, and it keeps their truth value. -/
structure SoundUp (up : Expr → Expr × Bool) (Bad : Expr → Prop) : Prop where
  flat : ∀ e, Flat e → (up e).2 = false
  isPredicate : ∀ e, IsPredicate e → IsPredicate (up e).1
  sameTruth : ∀ e, IsPredicate e → ¬ Bad e → SameTruth (up e).1 e

section Pass

variable (up : Expr → Expr × Bool)

theorem safeRewriteList_of_forall {es : List Expr} (h : ∀ e ∈ es, safeRewrite up e = (e, false)) :
    safeRewriteList up es = (es, false) := by
  induction es with
  | nil => rfl
  | cons e es ih =>
    rw [safeRewriteList_cons, h e List.mem_cons_self,
      ih fun x hx => h x (List.mem_cons_of_mem _ hx)]
    rfl

/-- A pass leaves an expression with no logical operator as it is, when `up` does. -/
theorem safeRewrite_flat (hflat : ∀ e, Flat e → (up e).2 = false) {e : Expr} (h : Flat e) :
    safeRewrite up e = (e, false) := by
  induction h with
  | colName name => exact applyUp_of_false up false (hflat _ (.colName name))
  | intVal v => exact applyUp_of_false up false (hflat _ (.intVal v))
  | nullVal => exact applyUp_of_false up false (hflat _ .nullVal)
  | comparisonExpr op hl hr ihl ihr =>
    rw [safeRewrite_comparisonExpr, ihl, ihr]
    exact applyUp_of_false up _ (hflat _ (.comparisonExpr op hl hr))
  | valTuple hes ih =>
    rw [safeRewrite_valTuple, safeRewriteList_of_forall up ih]
    exact applyUp_of_false up _ (hflat _ (.valTuple hes))

variable {Bad : Expr → Prop} (hup : SoundUp up Bad)
include hup

theorem applyUp_sound {node : Expr} (hn : IsPredicate node) (hb : ¬ Bad node) (c : Bool) :
    IsPredicate (applyUp up node c).1 ∧ SameTruth (applyUp up node c).1 node := by
  cases hc : (up node).2
  · rw [applyUp_of_false up c hc]
    exact ⟨hn, .refl _⟩
  · rw [applyUp_of_true up c hc]
    exact ⟨hup.isPredicate node hn, hup.sameTruth node hn hb⟩

/-- A binary logical node after the pass has rewritten its children. -/
theorem applyUp_binary_sound (mk : Expr → Expr → Expr)
    (hmk : ∀ {a b}, IsPredicate a → IsPredicate b → IsPredicate (mk a b))
    (hcongr : ∀ {a a' b b'}, SameTruth a a' → SameTruth b b' → SameTruth (mk a b) (mk a' b'))
    {l r l' r' : Expr} (hl : IsPredicate l' ∧ SameTruth l' l) (hr : IsPredicate r' ∧ SameTruth r' r)
    (hb : ¬ Bad (mk l' r')) (c : Bool) :
    IsPredicate (applyUp up (mk l' r') c).1 ∧ SameTruth (applyUp up (mk l' r') c).1 (mk l r) := by
  obtain ⟨hp, ht⟩ := applyUp_sound up hup (hmk hl.1 hr.1) hb c
  exact ⟨hp, ht.trans (hcongr hl.2 hr.2)⟩

/-- A pass keeps a predicate a predicate and keeps its truth value, when `up` is handed no bad
node. The induction is on the predicate: below a comparison nothing changes (`safeRewrite_flat`),
and at a logical node the truth value is a function of the children's. -/
theorem safeRewrite_sound {e : Expr} (he : IsPredicate e) (hv : ∀ n ∈ visited up e, ¬ Bad n) :
    IsPredicate (safeRewrite up e).1 ∧ SameTruth (safeRewrite up e).1 e := by
  induction he with
  | flat hf =>
    rw [safeRewrite_flat up hup.flat hf]
    exact ⟨.flat hf, .refl _⟩
  | notExpr he ih =>
    obtain ⟨hve, hvn⟩ := List.forall_mem_append.mp hv
    obtain ⟨hp, ht⟩ := ih hve
    rw [safeRewrite_notExpr]
    obtain ⟨hp', ht'⟩ := applyUp_sound up hup (.notExpr hp) (hvn _ List.mem_cons_self) _
    exact ⟨hp', ht'.trans (.notExpr ht)⟩
  | andExpr hl hr ihl ihr =>
    obtain ⟨hvlr, hvn⟩ := List.forall_mem_append.mp hv
    obtain ⟨hvl, hvr⟩ := List.forall_mem_append.mp hvlr
    rw [safeRewrite_andExpr]
    exact applyUp_binary_sound up hup _ IsPredicate.andExpr SameTruth.andExpr (ihl hvl) (ihr hvr)
      (hvn _ List.mem_cons_self) _
  | orExpr hl hr ihl ihr =>
    obtain ⟨hvlr, hvn⟩ := List.forall_mem_append.mp hv
    obtain ⟨hvl, hvr⟩ := List.forall_mem_append.mp hvlr
    rw [safeRewrite_orExpr]
    exact applyUp_binary_sound up hup _ IsPredicate.orExpr SameTruth.orExpr (ihl hvl) (ihr hvr)
      (hvn _ List.mem_cons_self) _
  | xorExpr hl hr ihl ihr =>
    obtain ⟨hvlr, hvn⟩ := List.forall_mem_append.mp hv
    obtain ⟨hvl, hvr⟩ := List.forall_mem_append.mp hvlr
    rw [safeRewrite_xorExpr]
    exact applyUp_binary_sound up hup _ IsPredicate.xorExpr SameTruth.xorExpr (ihl hvl) (ihr hvr)
      (hvn _ List.mem_cons_self) _

/-- The loop keeps the truth value of a predicate, when none of its passes hands `up` a bad
node. The induction is on the passes left. -/
theorem fixpointRewrite_sameTruth {fuel : Nat} {e e' : Expr} (h : fixpointRewrite up fuel e = some e')
    (he : IsPredicate e) (hv : ∀ n ∈ loopVisited up fuel e, ¬ Bad n) : SameTruth e' e := by
  induction fuel generalizing e with
  | zero => cases h
  | succ fuel ih =>
    rw [fixpointRewrite_succ] at h
    obtain ⟨hp, ht⟩ := safeRewrite_sound up hup he fun n hn =>
      hv n (List.mem_append_left _ hn)
    split at h
    · rename_i hc
      apply (ih h hp _).trans ht
      intro n hn
      apply hv n
      rw [loopVisited, if_pos hc]
      exact List.mem_append_right _ hn
    · cases h
      exact ht

end Pass

/-- `simplifyExpression` is a sound `up` function away from the nodes `AbsorbsWrongly`. -/
theorem simplifyExpression_soundUp : SoundUp simplifyExpression AbsorbsWrongly where
  flat _ h := by rw [simplifyExpression_flat h]; rfl
  isPredicate _ h := isPredicate_simplifyExpression h
  sameTruth e _ hb := simplifyExpression_sameTruth e hb

/-- `RewritePredicate` keeps the truth value of a predicate, unless one of its passes hands
`simplifyExpression` a node where the second absorption of `simplifyAnd` goes wrong. -/
theorem RewritePredicate_sameTruth {fuel : Nat} {P Q : Expr} (h : RewritePredicate fuel P = some Q)
    (hP : IsPredicate P) (hv : ∀ n ∈ loopVisited simplifyExpression fuel P, ¬ AbsorbsWrongly n) :
    SameTruth Q P :=
  fixpointRewrite_sameTruth simplifyExpression simplifyExpression_soundUp h hP hv

/-- Two equalities on one column joined by `OR` become an `IN`, with the same truth value. -/
example :
    RewritePredicate 2 (.orExpr (.comparisonExpr .equalOp (.colName "x") (.intVal 1))
        (.comparisonExpr .equalOp (.colName "x") (.intVal 2))) =
      some (.comparisonExpr .inOp (.colName "x") (.valTuple [.intVal 1, .intVal 2])) ∧
    IsPredicate (.orExpr (.comparisonExpr .equalOp (.colName "x") (.intVal 1))
        (.comparisonExpr .equalOp (.colName "x") (.intVal 2))) ∧
    (∀ n ∈ loopVisited simplifyExpression 2
        (.orExpr (.comparisonExpr .equalOp (.colName "x") (.intVal 1))
          (.comparisonExpr .equalOp (.colName "x") (.intVal 2))), ¬ AbsorbsWrongly n) ∧
    SameTruth (.comparisonExpr .inOp (.colName "x") (.valTuple [.intVal 1, .intVal 2]))
      (.orExpr (.comparisonExpr .equalOp (.colName "x") (.intVal 1))
        (.comparisonExpr .equalOp (.colName "x") (.intVal 2))) := by
  have hrun : RewritePredicate 2 (.orExpr (.comparisonExpr .equalOp (.colName "x") (.intVal 1))
        (.comparisonExpr .equalOp (.colName "x") (.intVal 2))) =
      some (.comparisonExpr .inOp (.colName "x") (.valTuple [.intVal 1, .intVal 2])) := by
    decide
  have hpred : IsPredicate (.orExpr (.comparisonExpr .equalOp (.colName "x") (.intVal 1))
        (.comparisonExpr .equalOp (.colName "x") (.intVal 2))) :=
    .orExpr (.flat (.comparisonExpr _ (.colName _) (.intVal _)))
      (.flat (.comparisonExpr _ (.colName _) (.intVal _)))
  have hv : ∀ n ∈ loopVisited simplifyExpression 2
      (.orExpr (.comparisonExpr .equalOp (.colName "x") (.intVal 1))
        (.comparisonExpr .equalOp (.colName "x") (.intVal 2))), ¬ AbsorbsWrongly n := by
    decide
  exact ⟨hrun, hpred, hv, RewritePredicate_sameTruth hrun hpred hv⟩

/-- Where the second absorption of `simplifyAnd` fires: on `A AND (B OR A)`, with no logical
operator in `A` or `B` and an `OR` that `simplifyOr` leaves, `RewritePredicate` returns `B`. -/
theorem RewritePredicate_and_or {a b : Expr} (ha : Flat a) (hb : Flat b)
    (hor : (simplifyExpression (.orExpr b a)).2 = false) :
    RewritePredicate 2 (.andExpr a (.orExpr b a)) = some b := by
  have hflat := simplifyExpression_soundUp.flat
  have hparts : Junction.and.parts a = none := by
    cases ha <;> rfl
  have hand : simplifyExpression (.andExpr a (.orExpr b a)) = (b, Changed) :=
    simplifyAnd_or_right b hparts
  have hpass : safeRewrite simplifyExpression (.andExpr a (.orExpr b a)) = (b, true) := by
    rw [safeRewrite_andExpr, safeRewrite_orExpr, safeRewrite_flat _ hflat ha,
      safeRewrite_flat _ hflat hb, applyUp_of_false _ _ hor,
      applyUp_of_true _ _ (by rw [hand]; rfl), hand]
  rw [RewritePredicate, fixpointRewrite_succ, hpass, if_pos rfl, fixpointRewrite_succ,
    safeRewrite_flat _ hflat hb]
  rfl

theorem rewritePredicate_changes_truth :
    RewritePredicate 2 (.andExpr (.comparisonExpr .equalOp (.colName "x") (.intVal 1))
        (.orExpr (.comparisonExpr .equalOp (.colName "y") (.intVal 1))
          (.comparisonExpr .equalOp (.colName "x") (.intVal 1)))) =
      some (.comparisonExpr .equalOp (.colName "y") (.intVal 1)) ∧
    (Expr.andExpr (.comparisonExpr .equalOp (.colName "x") (.intVal 1))
        (.orExpr (.comparisonExpr .equalOp (.colName "y") (.intVal 1))
          (.comparisonExpr .equalOp (.colName "x") (.intVal 1)))).truthIn
      (fun c => if c = "x" then some 1 else some 0) = some true ∧
    (Expr.comparisonExpr .equalOp (.colName "y") (.intVal 1)).truthIn
      (fun c => if c = "x" then some 1 else some 0) = some false ∧
    RewritePredicate 2 (.comparisonExpr .equalOp (.notExpr (.notExpr (.colName "a"))) (.intVal 1)) =
      some (.comparisonExpr .equalOp (.colName "a") (.intVal 1)) ∧
    (Expr.comparisonExpr .equalOp (.notExpr (.notExpr (.colName "a"))) (.intVal 1)).truthIn
      (fun _ => some 5) = some true ∧
    (Expr.comparisonExpr .equalOp (.colName "a") (.intVal 1)).truthIn (fun _ => some 5) =
      some false := by
  -- `y = 1 OR x = 1` compares two columns, so `simplifyOr` leaves it to `distinctOr`
  have hor : simplifyExpression (.orExpr (.comparisonExpr .equalOp (.colName "y") (.intVal 1))
      (.comparisonExpr .equalOp (.colName "x") (.intVal 1))) =
      (.orExpr (.comparisonExpr .equalOp (.colName "y") (.intVal 1))
        (.comparisonExpr .equalOp (.colName "x") (.intVal 1)), NoChange) :=
    distinct_pair rfl rfl (by decide)
  have hrun := RewritePredicate_and_or (.comparisonExpr .equalOp (.colName "x") (.intVal 1))
    (.comparisonExpr .equalOp (.colName "y") (.intVal 1)) (by rw [hor]; rfl)
  exact ⟨hrun, rfl, rfl, rfl, rfl, rfl⟩

end Wescale.Sqlparser.Predicate
