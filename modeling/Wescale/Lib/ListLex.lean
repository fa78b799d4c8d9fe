import Mathlib

/-!
# The lexicographic order of lists, one element at a time

Mathlib orders `List α` lexicographically for a linear order `α` (`List.Lex (· < ·)`), and its
`≤` replaces the one of core Lean, so the core lemmas about `a :: l ≤ b :: l'` do not apply to it.
These are the unfolding rules for that order: the empty list comes first, and two non-empty lists
compare by their heads, then by their tails.

A list padded on the right with the least element up to the length of another compares with it
as the list itself does (`rightpad_le_iff`, `lt_rightpad_iff`), and padding keeps the order
(`rightpad_le_rightpad`): a short key compares with keys of a fixed width as its padded form.
-/

set_option autoImplicit false

namespace List

variable {α : Type*} [LinearOrder α] {a b : α} {l l' : List α}

/-- The empty list comes before every list. -/
theorem nil_le_lex (l : List α) : [] ≤ l := by
  rcases l with _ | ⟨a, l⟩
  · exact le_rfl
  · exact le_of_lt List.Lex.nil

/-- No list comes before the empty list. -/
theorem not_lt_nil_lex (l : List α) : ¬l < [] :=
  not_lt_of_ge (nil_le_lex l)

theorem cons_lt_cons_iff_lex : a :: l < b :: l' ↔ a < b ∨ a = b ∧ l < l' := by
  constructor
  · intro h
    change List.Lex (· < ·) (a :: l) (b :: l') at h
    cases h with
    | rel h => exact .inl h
    | cons h => exact .inr ⟨rfl, h⟩
  · rintro (h | ⟨rfl, h⟩)
    · exact List.Lex.rel h
    · exact List.Lex.cons h

theorem cons_le_cons_iff_lex : a :: l ≤ b :: l' ↔ a < b ∨ a = b ∧ l ≤ l' := by
  rw [le_iff_lt_or_eq, le_iff_lt_or_eq, cons_lt_cons_iff_lex, List.cons_eq_cons]
  constructor
  · rintro ((h | ⟨rfl, h⟩) | ⟨rfl, rfl⟩)
    · exact .inl h
    · exact .inr ⟨rfl, .inl h⟩
    · exact .inr ⟨rfl, .inr rfl⟩
  · rintro (h | ⟨rfl, h | rfl⟩)
    · exact .inl (.inl h)
    · exact .inl (.inr ⟨rfl, h⟩)
    · exact .inr ⟨rfl, rfl⟩

theorem singleton_le_singleton_lex : [a] ≤ [b] ↔ a ≤ b := by
  rw [cons_le_cons_iff_lex, le_iff_lt_or_eq (a := a)]
  simp

/-! ## Padding with the least element -/

section Padding

variable {z : α}

omit [LinearOrder α] in
theorem rightpad_cons (n : Nat) (a : α) (l : List α) :
    rightpad n z (a :: l) = a :: rightpad (n - 1) z l := by
  rw [rightpad, rightpad, length_cons, cons_append, Nat.sub_sub, Nat.add_comm 1]

omit [LinearOrder α] in
theorem rightpad_of_length_le {n : Nat} (h : n ≤ l.length) : rightpad n z l = l := by
  rw [rightpad, Nat.sub_eq_zero_of_le h, replicate_zero, append_nil]

/-- Copies of the least element come before every list at least as long. -/
theorem replicate_le_of_le_length (hz : ∀ a, z ≤ a) :
    ∀ {m : Nat} {l : List α}, m ≤ l.length → replicate m z ≤ l
  | 0, l, _ => nil_le_lex l
  | m + 1, [], h => absurd h (by simp)
  | m + 1, a :: l, h => by
    rw [replicate_succ, cons_le_cons_iff_lex]
    rcases (hz a).lt_or_eq with hlt | heq
    · exact .inl hlt
    · exact .inr ⟨heq, replicate_le_of_le_length hz (by simpa using h)⟩

/-- A list comes before `x` exactly when its padding to the length of `x` does. -/
theorem rightpad_le_iff (hz : ∀ a, z ≤ a) : ∀ {s x : List α}, rightpad x.length z s ≤ x ↔ s ≤ x
  | [], x => by
    rw [rightpad, length_nil, Nat.sub_zero, nil_append]
    exact iff_of_true (replicate_le_of_le_length hz le_rfl) (nil_le_lex x)
  | _ :: _, [] => by rw [length_nil, rightpad_of_length_le (Nat.zero_le _)]
  | a :: s, b :: x => by
    rw [length_cons, rightpad_cons, Nat.add_sub_cancel, cons_le_cons_iff_lex,
      cons_le_cons_iff_lex, rightpad_le_iff hz]

/-- `x` comes before a list exactly when it comes before its padding to the length of `x`. -/
theorem lt_rightpad_iff (hz : ∀ a, z ≤ a) : ∀ {s x : List α}, x < rightpad x.length z s ↔ x < s
  | [], x => by
    rw [rightpad, length_nil, Nat.sub_zero, nil_append]
    exact iff_of_false (not_lt_of_ge (replicate_le_of_le_length hz le_rfl)) (not_lt_nil_lex x)
  | _ :: _, [] => by rw [length_nil, rightpad_of_length_le (Nat.zero_le _)]
  | a :: s, b :: x => by
    rw [length_cons, rightpad_cons, Nat.add_sub_cancel, cons_lt_cons_iff_lex,
      cons_lt_cons_iff_lex, lt_rightpad_iff hz]

/-- Padding keeps the order. -/
theorem rightpad_le_rightpad (hz : ∀ a, z ≤ a) (n : Nat) :
    ∀ {s t : List α}, s ≤ t → rightpad n z s ≤ rightpad n z t
  | [], t, _ => by
    rw [rightpad, length_nil, Nat.sub_zero, nil_append]
    exact replicate_le_of_le_length hz (by rw [length_rightpad]; exact le_max_left _ _)
  | _ :: _, [], h => absurd h (not_le_of_gt List.Lex.nil)
  | a :: s, b :: t, h => by
    rw [rightpad_cons, rightpad_cons, cons_le_cons_iff_lex]
    rcases cons_le_cons_iff_lex.mp h with hab | ⟨hab, hst⟩
    · exact .inl hab
    · exact .inr ⟨hab, rightpad_le_rightpad hz (n - 1) hst⟩

end Padding

end List
