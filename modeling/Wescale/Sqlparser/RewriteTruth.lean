import Wescale.Sqlparser.PredicateRewriting

/-!
# What `RewritePredicate` preserves

A `WHERE` clause selects the rows whose predicate is true, so a rewrite of a predicate is sound
when it keeps the truth value under every assignment of the columns (`SameTruth`).

Each simplifier is taken in turn. `simplifyNot`, `simplifyXor`, the factoring, distribution and
first absorption of `simplifyOr`, the first absorption of `simplifyAnd`, the merge into `IN`, and
`distinctOr` and `distinctAnd` keep the truth value of every node they rewrite: Kleene's logic
has the laws they use, and the truth value of a chain of `OR` or `AND` depends only on which
truth values its operands have. The second absorption of `simplifyAnd` does not: it turns
`A AND (B OR A)` into `B` (`AbsorbsWrongly`).

A pass is then sound on a predicate whose comparisons have no logical operator in their operands
(`IsPredicate`), as long as it does not hand the simplifier a node where the simplifier is
wrong: the nodes a pass hands its `up` function are `visited`, those of the loop `loopVisited`.
Inside the operand of a comparison, a rewrite that keeps the truth value can change the value,
and with it the comparison.
-/

set_option autoImplicit false

namespace Wescale.Sqlparser.Predicate

/-! ## Truth values -/

/-- The truth value of an expression when the columns have the values `env` gives them. -/
def Expr.truthIn (env : String → Option Int) (e : Expr) : Option Bool :=
  truth (eval env e)

section Truth

variable (env : String → Option Int)

@[simp] theorem truthIn_notExpr (e : Expr) :
    (Expr.notExpr e).truthIn env = Kleene.not (e.truthIn env) := by
  rw [Expr.truthIn, eval_notExpr, truth_ofTruth]
  rfl

@[simp] theorem truthIn_andExpr (l r : Expr) :
    (Expr.andExpr l r).truthIn env = Kleene.and (l.truthIn env) (r.truthIn env) := by
  rw [Expr.truthIn, eval_andExpr, truth_ofTruth]
  rfl

@[simp] theorem truthIn_orExpr (l r : Expr) :
    (Expr.orExpr l r).truthIn env = Kleene.or (l.truthIn env) (r.truthIn env) := by
  rw [Expr.truthIn, eval_orExpr, truth_ofTruth]
  rfl

@[simp] theorem truthIn_xorExpr (l r : Expr) :
    (Expr.xorExpr l r).truthIn env = Kleene.xor (l.truthIn env) (r.truthIn env) := by
  rw [Expr.truthIn, eval_xorExpr, truth_ofTruth]
  rfl

theorem evalList_eq_map (es : List Expr) : evalList env es = es.map (eval env) := by
  induction es with
  | nil => rfl
  | cons e es ih => rw [evalList_cons, ih, List.map_cons]

theorem truthIn_equalOp (l r : Expr) :
    (Expr.comparisonExpr .equalOp l r).truthIn env = eqTruth (eval env l) (eval env r) := by
  rw [Expr.truthIn, eval_equalOp, truth_ofTruth]

theorem truthIn_inOp (l : Expr) (es : List Expr) :
    (Expr.comparisonExpr .inOp l (.valTuple es)).truthIn env =
      Kleene.any (es.map fun e => eqTruth (eval env l) (eval env e)) := by
  rw [Expr.truthIn, eval_inOp, truth_ofTruth, inTruth, evalList_eq_map, List.map_map]
  rfl

end Truth

/-- Two expressions with the same truth value under every assignment: as `WHERE` clauses they
select the same rows. -/
def SameTruth (e e' : Expr) : Prop :=
  ∀ env, e.truthIn env = e'.truthIn env

namespace SameTruth

variable {a a' b b' c : Expr}

@[refl] theorem refl (a : Expr) : SameTruth a a := fun _ => rfl

@[symm] theorem symm (h : SameTruth a b) : SameTruth b a := fun env => (h env).symm

@[trans] theorem trans (h : SameTruth a b) (h' : SameTruth b c) : SameTruth a c :=
  fun env => (h env).trans (h' env)

theorem notExpr (h : SameTruth a a') : SameTruth (.notExpr a) (.notExpr a') := by
  intro env
  simp only [truthIn_notExpr, h env]

theorem andExpr (ha : SameTruth a a') (hb : SameTruth b b') :
    SameTruth (.andExpr a b) (.andExpr a' b') := by
  intro env
  simp only [truthIn_andExpr, ha env, hb env]

theorem orExpr (ha : SameTruth a a') (hb : SameTruth b b') :
    SameTruth (.orExpr a b) (.orExpr a' b') := by
  intro env
  simp only [truthIn_orExpr, ha env, hb env]

theorem xorExpr (ha : SameTruth a a') (hb : SameTruth b b') :
    SameTruth (.xorExpr a b) (.xorExpr a' b') := by
  intro env
  simp only [truthIn_xorExpr, ha env, hb env]

end SameTruth

/-! ## Chains of `OR` and `AND` -/

namespace Junction

/-- The connective of the operator. -/
def op : Junction → Option Bool → Option Bool → Option Bool
  | .and => Kleene.and
  | .or => Kleene.or

/-- The connective over a list of truth values. -/
def fold : Junction → List (Option Bool) → Option Bool
  | .and => Kleene.all
  | .or => Kleene.any

variable (j : Junction) (x y z : Option Bool)

theorem op_assoc : j.op (j.op x y) z = j.op x (j.op y z) := by
  cases j
  · exact Kleene.and_assoc x y z
  · exact Kleene.or_assoc x y z

theorem fold_cons (l : List (Option Bool)) : j.fold (x :: l) = j.op x (j.fold l) := by
  cases j <;> rfl

theorem fold_singleton : j.fold [x] = x := by
  cases j
  · exact Kleene.and_true x
  · exact Kleene.or_false x

theorem fold_append (l l' : List (Option Bool)) :
    j.fold (l ++ l') = j.op (j.fold l) (j.fold l') := by
  cases j
  · exact Kleene.all_append l l'
  · exact Kleene.any_append l l'

/-- The fold reads only which truth values occur. -/
theorem fold_congr {l l' : List (Option Bool)} (h : ∀ a, a ∈ l ↔ a ∈ l') :
    j.fold l = j.fold l' := by
  cases j
  · exact Kleene.all_congr h
  · exact Kleene.any_congr h

theorem fold_perm {l l' : List (Option Bool)} (h : l.Perm l') : j.fold l = j.fold l' :=
  j.fold_congr fun _ => h.mem_iff

theorem fold_concat (l : List (Option Bool)) : j.fold (l ++ [x]) = j.op (j.fold l) x := by
  rw [fold_append, fold_singleton]

theorem mk_of_parts {e a b : Expr} (h : j.parts e = some (a, b)) : e = j.mk a b := by
  cases j <;> cases e <;> simp_all [parts, mk]

@[simp] theorem truthIn_mk (env : String → Option Int) (a b : Expr) :
    (j.mk a b).truthIn env = j.op (a.truthIn env) (b.truthIn env) := by
  cases j <;> simp [mk, op]

end Junction

section Distinct

variable (j : Junction) (env : String → Option Int)

/-- The truth values of the operands a state of the loop of `distinct` still holds: the leaves,
and the node each queued pair stands for. -/
def pending (st : List (Expr × Expr) × List Expr) : List (Option Bool) :=
  st.2.map (Expr.truthIn env) ++ st.1.map fun p => (j.mk p.1 p.2).truthIn env

theorem fold_pending_addAnd (st : List (Expr × Expr) × List Expr) (e : Expr) :
    j.fold (pending j env (addAnd j st e)) = j.op (j.fold (pending j env st)) (e.truthIn env) := by
  unfold addAnd
  split
  · rename_i p hp
    have he : e = j.mk p.1 p.2 := j.mk_of_parts hp
    simp only [pending, List.map_append, List.map_cons, List.map_nil]
    rw [← List.append_assoc, j.fold_concat, he]
  · rw [← j.fold_concat]
    apply j.fold_perm
    simp only [pending, List.map_append, List.map_cons, List.map_nil, List.append_assoc]
    exact List.perm_append_comm.append_left _

/-- The loop of `distinct` keeps the fold of what it still holds. -/
theorem fold_collectLeaves (todo : List (Expr × Expr)) (leaves : List Expr) :
    j.fold ((collectLeaves j todo leaves).map (Expr.truthIn env)) =
      j.fold (pending j env (todo, leaves)) := by
  fun_induction collectLeaves j todo leaves with
  | case1 leaves => simp [pending]
  | case2 leaves l r todo st ih =>
    rw [ih, fold_pending_addAnd, fold_pending_addAnd, j.op_assoc, ← Junction.truthIn_mk,
      ← j.fold_concat]
    apply j.fold_perm
    simp only [pending, List.map_cons, List.append_assoc]
    exact List.perm_append_comm.append_left _

/-- The operands of a chain, read off the chain: the fold of their truth values is the chain's. -/
theorem fold_leaves (l r : Expr) :
    j.fold ((collectLeaves j [(l, r)] []).map (Expr.truthIn env)) = (j.mk l r).truthIn env := by
  rw [fold_collectLeaves]
  simp only [pending, List.map_nil, List.map_cons, List.nil_append]
  exact j.fold_singleton _

theorem truthIn_foldl_mk (p : Expr) (ps : List Expr) :
    (ps.foldl j.mk p).truthIn env = j.fold ((p :: ps).map (Expr.truthIn env)) := by
  induction ps generalizing p with
  | nil => simp [j.fold_singleton]
  | cons q qs ih =>
    rw [List.foldl_cons, ih, List.map_cons, List.map_cons, List.map_cons, j.fold_cons,
      j.fold_cons, j.fold_cons, Junction.truthIn_mk, j.op_assoc]

end Distinct

theorem mem_foldl_uniquefy (x : Expr) (l acc : List Expr) :
    x ∈ l.foldl (fun output expr => if output.any expr.equals then output else output ++ [expr])
      acc ↔ x ∈ acc ∨ x ∈ l := by
  induction l generalizing acc with
  | nil => simp
  | cons e l ih =>
    rw [List.foldl_cons, ih]
    split
    · rename_i hany
      obtain ⟨y, hy, hey⟩ := List.any_eq_true.mp hany
      have hye : e = y := Expr.eq_of_equals hey
      subst hye
      simp only [List.mem_cons]
      constructor
      · rintro (hx | hx)
        · exact .inl hx
        · exact .inr (.inr hx)
      · rintro (hx | rfl | hx)
        · exact .inl hx
        · exact .inl hy
        · exact .inr hx
    · simp only [List.mem_append, List.mem_cons]
      tauto

@[simp] theorem mem_uniquefy (x : Expr) (l : List Expr) : x ∈ uniquefy l ↔ x ∈ l := by
  rw [uniquefy, mem_foldl_uniquefy]
  simp

/-- Dropping repeated operands keeps the fold of their truth values. -/
theorem fold_map_uniquefy (j : Junction) (f : Expr → Option Bool) (l : List Expr) :
    j.fold ((uniquefy l).map f) = j.fold (l.map f) := by
  apply j.fold_congr
  intro a
  simp only [List.mem_map, mem_uniquefy]

theorem distinct_sameTruth (j : Junction) (l r : Expr) :
    SameTruth (distinct j l r).1 (j.mk l r) := by
  unfold distinct
  dsimp only
  split
  · exact SameTruth.refl _
  · rename_i hlen
    intro env
    cases hu : uniquefy (collectLeaves j [(l, r)] []) with
    | nil =>
      have hnil : collectLeaves j [(l, r)] [] = [] := by
        apply List.eq_nil_iff_forall_not_mem.mpr
        intro x hx
        simpa [hu] using (mem_uniquefy x _).mpr hx
      simp only [hnil] at hlen
      exact absurd rfl hlen
    | cons p ps =>
      rw [rebuild, truthIn_foldl_mk, ← hu, ← fold_leaves j env l r, fold_map_uniquefy]

/-! ## The rules of the simplifiers -/

section Rules

variable (a b c : Expr)

theorem sameTruth_and_comm : SameTruth (.andExpr a b) (.andExpr b a) := by
  intro env
  simp only [truthIn_andExpr, Kleene.and_comm]

theorem sameTruth_not_not : SameTruth a (.notExpr (.notExpr a)) := by
  intro env
  simp only [truthIn_notExpr, Kleene.not_not]

theorem sameTruth_not_or :
    SameTruth (.andExpr (.notExpr a) (.notExpr b)) (.notExpr (.orExpr a b)) := by
  intro env
  simp only [truthIn_notExpr, truthIn_andExpr, truthIn_orExpr, Kleene.not_or]

theorem sameTruth_not_and :
    SameTruth (.orExpr (.notExpr a) (.notExpr b)) (.notExpr (.andExpr a b)) := by
  intro env
  simp only [truthIn_notExpr, truthIn_andExpr, truthIn_orExpr, Kleene.not_and]

theorem sameTruth_xor :
    SameTruth (.andExpr (.orExpr a b) (.notExpr (.andExpr a b))) (.xorExpr a b) := by
  intro env
  simp only [truthIn_notExpr, truthIn_andExpr, truthIn_orExpr, truthIn_xorExpr, Kleene.xor_eq]

/-- `(A AND B) OR (A AND C)` is `A AND (B OR C)`. -/
theorem sameTruth_factor :
    SameTruth (.andExpr a (.orExpr b c)) (.orExpr (.andExpr a b) (.andExpr a c)) := by
  intro env
  simp only [truthIn_andExpr, truthIn_orExpr, Kleene.and_or_and_left]

/-- `(A AND B) OR A` is `A`. -/
theorem sameTruth_or_absorb : SameTruth a (.orExpr (.andExpr a b) a) := by
  intro env
  simp only [truthIn_andExpr, truthIn_orExpr, Kleene.or_and_absorb]

/-- `(A AND B) OR C` is `(A OR C) AND (B OR C)`. -/
theorem sameTruth_or_distrib_right :
    SameTruth (.andExpr (.orExpr a c) (.orExpr b c)) (.orExpr (.andExpr a b) c) := by
  intro env
  simp only [truthIn_andExpr, truthIn_orExpr, Kleene.and_or_right]

/-- `C OR (A AND B)` is `(C OR A) AND (C OR B)`. -/
theorem sameTruth_or_distrib_left :
    SameTruth (.andExpr (.orExpr c a) (.orExpr c b)) (.orExpr c (.andExpr a b)) := by
  intro env
  simp only [truthIn_andExpr, truthIn_orExpr, Kleene.or_and_left]

/-- `(A OR B) AND A` is `A`. -/
theorem sameTruth_and_absorb : SameTruth a (.andExpr (.orExpr a b) a) := by
  intro env
  simp only [truthIn_andExpr, truthIn_orExpr, Kleene.and_or_absorb]

theorem sameTruth_orExpr_comm : SameTruth (.orExpr a b) (.orExpr b a) := by
  intro env
  simp only [truthIn_orExpr, Kleene.or_comm]

end Rules

/-! ## The simplifiers -/

theorem simplifyNot_sameTruth (child : Expr) :
    SameTruth (simplifyNot child).1 (.notExpr child) := by
  unfold simplifyNot
  split
  · exact sameTruth_not_not _
  · exact sameTruth_not_or _ _
  · exact sameTruth_not_and _ _
  · exact SameTruth.refl _

theorem truthIn_of_inElements {op : ComparisonExprOperator} {l right : Expr} {xs : List Expr}
    (h : inElements op right = some xs) (env : String → Option Int) :
    (Expr.comparisonExpr op l right).truthIn env =
      Kleene.any (xs.map fun e => eqTruth (eval env l) (eval env e)) := by
  unfold inElements at h
  split at h
  · cases h
    rw [truthIn_equalOp, List.map_singleton, Kleene.any_cons, Kleene.any_nil, Kleene.or_false]
  · cases h
    exact truthIn_inOp env l _
  · cases h

theorem tryTurningOrIntoIn_sameTruth {lop rop : ComparisonExprOperator} {ll lr rl rr e : Expr}
    (h : tryTurningOrIntoIn lop ll lr rop rl rr = some e) :
    SameTruth e (.orExpr (.comparisonExpr lop ll lr) (.comparisonExpr rop rl rr)) := by
  unfold tryTurningOrIntoIn at h
  split at h
  · rename_i col
    split at h
    · cases h
    · rename_i hcol
      have hrl : rl = .colName col := (Expr.eq_of_equals (by simpa using hcol)).symm
      split at h
      · rename_i lft rgt hl hr
        cases h
        intro env
        rw [truthIn_inOp, truthIn_orExpr, truthIn_of_inElements hl, hrl,
          truthIn_of_inElements hr, ← Kleene.any_append, ← List.map_append]
        exact fold_map_uniquefy .or _ _
      · cases h
  · cases h

theorem simplifyOr_sameTruth (left right : Expr) :
    SameTruth (simplifyOr left right).1 (.orExpr left right) := by
  unfold simplifyOr
  split
  · -- factoring, in the four orders of the common operand
    rename_i ll lr rl rr
    split_ifs with h1 h2 h3 h4
    · obtain rfl := Expr.eq_of_equals h1
      exact sameTruth_factor _ _ _
    · obtain rfl := Expr.eq_of_equals h2
      exact (sameTruth_factor _ _ _).trans (.orExpr (.refl _) (sameTruth_and_comm _ _))
    · obtain rfl := Expr.eq_of_equals h3
      exact (sameTruth_factor _ _ _).trans (.orExpr (sameTruth_and_comm _ _) (.refl _))
    · obtain rfl := Expr.eq_of_equals h4
      exact (sameTruth_factor _ _ _).trans
        (.orExpr (sameTruth_and_comm _ _) (sameTruth_and_comm _ _))
    · exact SameTruth.refl _
  · rename_i ll lr _
    split_ifs with h
    · rcases Bool.or_eq_true_iff.mp h with h | h
      · obtain rfl := Expr.eq_of_equals h
        exact sameTruth_or_absorb _ _
      · obtain rfl := Expr.eq_of_equals h
        exact (sameTruth_or_absorb _ _).trans (.orExpr (sameTruth_and_comm _ _) (.refl _))
    · exact sameTruth_or_distrib_right _ _ _
  · rename_i rl rr _
    split_ifs with h
    · rcases Bool.or_eq_true_iff.mp h with h | h
      · obtain rfl := Expr.eq_of_equals h
        exact (sameTruth_or_absorb _ _).trans (sameTruth_orExpr_comm _ _)
      · obtain rfl := Expr.eq_of_equals h
        exact (sameTruth_or_absorb _ _).trans
          ((SameTruth.orExpr (sameTruth_and_comm _ _) (.refl _)).trans (sameTruth_orExpr_comm _ _))
    · exact sameTruth_or_distrib_left _ _ _
  · split
    · rename_i hin
      exact tryTurningOrIntoIn_sameTruth hin
    · exact distinct_sameTruth .or _ _
  · exact distinct_sameTruth .or left right

/-- The nodes where the second absorption of `simplifyAnd` can return the wrong operand:
`A AND (B OR A)` with `B` other than `A`, which it turns into `B`. -/
def AbsorbsWrongly : Expr → Prop
  | .andExpr left (.orExpr ol orr) => orr = left ∧ ol ≠ left
  | _ => False

instance : DecidablePred AbsorbsWrongly := fun e =>
  match e with
  | .andExpr left (.orExpr ol orr) => inferInstanceAs (Decidable (orr = left ∧ ol ≠ left))
  | .colName _ | .intVal _ | .nullVal | .notExpr _ | .orExpr _ _ | .xorExpr _ _
  | .comparisonExpr _ _ _ | .valTuple _ => inferInstanceAs (Decidable False)
  | .andExpr _ (.colName _) | .andExpr _ (.intVal _) | .andExpr _ .nullVal
  | .andExpr _ (.notExpr _) | .andExpr _ (.andExpr _ _) | .andExpr _ (.xorExpr _ _)
  | .andExpr _ (.comparisonExpr _ _ _) | .andExpr _ (.valTuple _) =>
    inferInstanceAs (Decidable False)

theorem simplifyAnd_sameTruth (left right : Expr) (h : ¬ AbsorbsWrongly (.andExpr left right)) :
    SameTruth (simplifyAnd left right).1 (.andExpr left right) := by
  unfold simplifyAnd
  split
  · rename_i res hres
    have hd := distinct_sameTruth .and left right
    rw [← distinctAnd, hres] at hd
    exact hd
  · dsimp only
    split_ifs with habs
    · -- (A OR B) AND A => A
      split at habs
      · rename_i ol orr
        rcases Bool.or_eq_true_iff.mp habs with habs | habs
        · obtain rfl := Expr.eq_of_equals habs
          exact sameTruth_and_absorb _ _
        · obtain rfl := Expr.eq_of_equals habs
          exact (sameTruth_and_absorb _ _).trans (.andExpr (sameTruth_orExpr_comm _ _) (.refl _))
      · cases habs
    · cases right with
      | orExpr ol orr =>
        dsimp only
        split_ifs with hor
        · -- the operand returned is the one the other side equals, unless `AbsorbsWrongly`
          have hol : ol = left := by
            rcases Bool.or_eq_true_iff.mp hor with hor | hor
            · exact Expr.eq_of_equals hor
            · exact Decidable.byContradiction fun hne => h ⟨Expr.eq_of_equals hor, hne⟩
          subst hol
          exact (sameTruth_and_absorb _ _).trans (sameTruth_and_comm _ _)
        · exact SameTruth.refl _
      | _ => exact SameTruth.refl _

/-- `simplifyExpression` keeps the truth value of every node but those where the second absorption
of `simplifyAnd` can go wrong. -/
theorem simplifyExpression_sameTruth (e : Expr) (h : ¬ AbsorbsWrongly e) :
    SameTruth (simplifyExpression e).1 e := by
  cases e with
  | notExpr e => exact simplifyNot_sameTruth e
  | orExpr l r => exact simplifyOr_sameTruth l r
  | xorExpr l r => exact sameTruth_xor l r
  | andExpr l r => exact simplifyAnd_sameTruth l r h
  | _ => exact SameTruth.refl _

end Wescale.Sqlparser.Predicate
