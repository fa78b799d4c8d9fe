import Mathlib

/-! # Invariants of loops that can fail

A Go loop that returns an error from inside its body is a `List.foldlM` in `Except`. The rule
here is the Hoare rule for such a loop: a property kept by every round that does not fail
holds of what the loop returns. The same for a step function folded over a trace, also with
the elements still to come in the invariant, and for a `List.mapM` whose rounds all succeed. -/

set_option autoImplicit false

universe u

namespace Except

variable {ε : Type*} {α β : Type u}

@[simp] theorem ok_bind (a : α) (f : α → Except ε β) : (Except.ok a >>= f) = f a := rfl

@[simp] theorem error_bind (e : ε) (f : α → Except ε β) : (Except.error e >>= f) = .error e := rfl

@[simp] theorem pure_eq_ok (a : α) : (pure a : Except ε α) = .ok a := rfl

/-- A `do` block in `Except` succeeds when its first step does and the rest does after it. -/
theorem bind_eq_ok {x : Except ε α} {f : α → Except ε β} {b : β} :
    x >>= f = .ok b ↔ ∃ a, x = .ok a ∧ f a = .ok b := by
  cases x with
  | error e => simp [bind, Except.bind]
  | ok a => simp [bind, Except.bind]

end Except

namespace List

variable {ε : Type*} {α : Type u} {β : Type*}

/-- The loop rule: an invariant of each successful round is an invariant of the loop. -/
theorem foldlM_except_invariant (P : α → Prop) {f : α → β → Except ε α}
    (hf : ∀ a b a', P a → f a b = .ok a' → P a') :
    ∀ (l : List β) {a r : α}, P a → l.foldlM f a = .ok r → P r
  | [], a, r, ha, h => by
    cases h
    exact ha
  | b :: l, a, r, ha, h => by
    rw [List.foldlM_cons] at h
    obtain ⟨a', hstep, hrest⟩ := Except.bind_eq_ok.mp h
    exact foldlM_except_invariant P hf l (hf a b a' ha hstep) hrest

/-- The same rule for a step function that cannot fail, folded over a trace. -/
theorem foldl_invariant (P : α → Prop) {f : α → β → α} (hf : ∀ a b, P a → P (f a b)) :
    ∀ (l : List β) {a : α}, P a → P (l.foldl f a)
  | [], _, ha => ha
  | b :: l, a, ha => foldl_invariant P hf l (hf a b ha)

/-- The same rule with the elements still to come in the invariant, for a property of a round
that depends on what is left of the list. -/
theorem foldl_invariant_rest (P : List β → α → Prop) {f : α → β → α}
    (hf : ∀ b l a, P (b :: l) a → P l (f a b)) : ∀ (l : List β) {a : α}, P l a → P [] (l.foldl f a)
  | [], _, ha => ha
  | b :: l, a, ha => foldl_invariant_rest P hf l (hf b l a ha)

/-- A loop over a list that fails on none of its elements does not fail. -/
theorem mapM_except_ok {γ : Type u} {f : β → Except ε γ} :
    ∀ (l : List β), (∀ b ∈ l, ∃ c, f b = .ok c) → ∃ cs, l.mapM f = .ok cs
  | [], _ => ⟨[], rfl⟩
  | b :: l, h => by
    obtain ⟨c, hc⟩ := h b List.mem_cons_self
    obtain ⟨cs, hcs⟩ := mapM_except_ok l fun b' hb' => h b' (List.mem_cons_of_mem _ hb')
    exact ⟨c :: cs, by rw [List.mapM_cons, hc, Except.ok_bind, hcs]; rfl⟩

end List
