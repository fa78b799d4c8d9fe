import Mathlib

/-!
# Kleene's three-valued logic

Truth values are `Option Bool`: `some true`, `some false`, and `none` for the unknown value that
SQL calls `NULL`. `Kleene.and` is false as soon as one side is false and unknown when neither is
false but one is unknown; `Kleene.or` is its dual; `Kleene.not` keeps the unknown value; and
`Kleene.xor` is unknown when either side is.

The laws below are the ones a rewriter of predicates relies on: double negation, De Morgan,
distribution, absorption, idempotence, and `xor` as `(a ∨ b) ∧ ¬(a ∧ b)`. Each is checked on the
nine or twenty-seven cases of its arguments. `any` and `all` fold `or` and `and` over a list; their
value depends only on which truth values occur in the list (`any_congr`, `all_congr`), which is
what makes dropping duplicates and reordering sound.
-/

set_option autoImplicit false

namespace Kleene

/-- Strong conjunction. -/
def and : Option Bool → Option Bool → Option Bool
  | some false, _ => some false
  | _, some false => some false
  | some true, some true => some true
  | _, _ => none

/-- Strong disjunction. -/
def or : Option Bool → Option Bool → Option Bool
  | some true, _ => some true
  | _, some true => some true
  | some false, some false => some false
  | _, _ => none

/-- Negation. -/
def not : Option Bool → Option Bool :=
  Option.map (!·)

/-- Exclusive or: unknown when either side is. -/
def xor : Option Bool → Option Bool → Option Bool
  | some a, some b => some (a ^^ b)
  | _, _ => none

section Laws

variable (a b c : Option Bool)

theorem not_not : not (not a) = a := by
  rcases a with _ | _ | _ <;> rfl

theorem not_or : not (or a b) = and (not a) (not b) := by
  rcases a with _ | _ | _ <;> rcases b with _ | _ | _ <;> rfl

theorem not_and : not (and a b) = or (not a) (not b) := by
  rcases a with _ | _ | _ <;> rcases b with _ | _ | _ <;> rfl

theorem and_comm : and a b = and b a := by
  rcases a with _ | _ | _ <;> rcases b with _ | _ | _ <;> rfl

theorem or_comm : or a b = or b a := by
  rcases a with _ | _ | _ <;> rcases b with _ | _ | _ <;> rfl

theorem and_assoc : and (and a b) c = and a (and b c) := by
  rcases a with _ | _ | _ <;> rcases b with _ | _ | _ <;> rcases c with _ | _ | _ <;> rfl

theorem or_assoc : or (or a b) c = or a (or b c) := by
  rcases a with _ | _ | _ <;> rcases b with _ | _ | _ <;> rcases c with _ | _ | _ <;> rfl

theorem or_false : or a (some false) = a := by
  rcases a with _ | _ | _ <;> rfl

theorem and_true : and a (some true) = a := by
  rcases a with _ | _ | _ <;> rfl

theorem and_self : and a a = a := by
  rcases a with _ | _ | _ <;> rfl

theorem or_self : or a a = a := by
  rcases a with _ | _ | _ <;> rfl

/-- `(a ∧ b) ∨ c = (a ∨ c) ∧ (b ∨ c)`. -/
theorem and_or_right : or (and a b) c = and (or a c) (or b c) := by
  rcases a with _ | _ | _ <;> rcases b with _ | _ | _ <;> rcases c with _ | _ | _ <;> rfl

/-- `c ∨ (a ∧ b) = (c ∨ a) ∧ (c ∨ b)`. -/
theorem or_and_left : or c (and a b) = and (or c a) (or c b) := by
  rcases a with _ | _ | _ <;> rcases b with _ | _ | _ <;> rcases c with _ | _ | _ <;> rfl

/-- `(a ∧ b) ∨ (a ∧ c) = a ∧ (b ∨ c)`. -/
theorem and_or_and_left : or (and a b) (and a c) = and a (or b c) := by
  rcases a with _ | _ | _ <;> rcases b with _ | _ | _ <;> rcases c with _ | _ | _ <;> rfl

/-- `(a ∧ b) ∨ a = a`. -/
theorem or_and_absorb : or (and a b) a = a := by
  rcases a with _ | _ | _ <;> rcases b with _ | _ | _ <;> rfl

/-- `(a ∨ b) ∧ a = a`. -/
theorem and_or_absorb : and (or a b) a = a := by
  rcases a with _ | _ | _ <;> rcases b with _ | _ | _ <;> rfl

theorem xor_eq : xor a b = and (or a b) (not (and a b)) := by
  rcases a with _ | _ | _ <;> rcases b with _ | _ | _ <;> rfl

end Laws

/-! ## Folds over lists -/

/-- `or` over a list: true if some element is, false if all are, unknown otherwise. -/
def any (l : List (Option Bool)) : Option Bool :=
  l.foldr or (some false)

/-- `and` over a list: false if some element is, true if all are, unknown otherwise. -/
def all (l : List (Option Bool)) : Option Bool :=
  l.foldr and (some true)

@[simp] theorem any_nil : any [] = some false := rfl

@[simp] theorem any_cons (a : Option Bool) (l : List (Option Bool)) :
    any (a :: l) = or a (any l) := rfl

@[simp] theorem all_nil : all [] = some true := rfl

@[simp] theorem all_cons (a : Option Bool) (l : List (Option Bool)) :
    all (a :: l) = and a (all l) := rfl

/-- `any` read off which values occur. -/
theorem any_eq (l : List (Option Bool)) :
    any l = if some true ∈ l then some true else if none ∈ l then none else some false := by
  induction l with
  | nil => rfl
  | cons a l ih =>
    rw [any_cons, ih]
    rcases a with _ | _ | _ <;> by_cases ht : some true ∈ l <;> by_cases hn : none ∈ l <;>
      simp [ht, hn, or]

/-- `all` read off which values occur. -/
theorem all_eq (l : List (Option Bool)) :
    all l = if some false ∈ l then some false else if none ∈ l then none else some true := by
  induction l with
  | nil => rfl
  | cons a l ih =>
    rw [all_cons, ih]
    rcases a with _ | _ | _ <;> by_cases hf : some false ∈ l <;> by_cases hn : none ∈ l <;>
      simp [hf, hn, and]

/-- Lists with the same values have the same `any`. -/
theorem any_congr {l l' : List (Option Bool)} (h : ∀ a, a ∈ l ↔ a ∈ l') : any l = any l' := by
  simp only [any_eq, h]

/-- Lists with the same values have the same `all`. -/
theorem all_congr {l l' : List (Option Bool)} (h : ∀ a, a ∈ l ↔ a ∈ l') : all l = all l' := by
  simp only [all_eq, h]

theorem any_append (l l' : List (Option Bool)) : any (l ++ l') = or (any l) (any l') := by
  induction l with
  | nil =>
    rw [List.nil_append, any_nil]
    rcases any l' with _ | _ | _ <;> rfl
  | cons a l ih => rw [List.cons_append, any_cons, any_cons, ih, or_assoc]

theorem all_append (l l' : List (Option Bool)) : all (l ++ l') = and (all l) (all l') := by
  induction l with
  | nil =>
    rw [List.nil_append, all_nil]
    rcases all l' with _ | _ | _ <;> rfl
  | cons a l ih => rw [List.cons_append, all_cons, all_cons, ih, and_assoc]

end Kleene
