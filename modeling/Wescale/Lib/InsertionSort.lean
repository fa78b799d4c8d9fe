import Mathlib

/-!
# Insertion sort with a comparison that need not be an order

`slices.SortFunc` of `golang.org/x/exp` sorts a slice of at most twelve elements with
`insertionSortLessFunc`:

```
for i := a + 1; i < b; i++ {
	for j := i; j > a && less(data[j], data[j-1]); j-- {
		data[j], data[j-1] = data[j-1], data[j]
	}
}
```

Each element, from the left, moves left past its neighbours while it is `less` than them. Here
the sorted prefix is kept reversed, nearest element first, so that one move is one step of
`sinkLeft`. The comparison is any function to `Bool`: a caller may pass one that is neither
irreflexive nor transitive, and what the sort then guarantees is what
`pairwise_insertionSortLessFunc` says: a transitive relation `R` that holds whenever `less`
answers `true` and, the other way round, whenever it answers `false`, orders the result.
-/

set_option autoImplicit false

namespace List

variable {α : Type*} (less : α → α → Bool)

/-- One element moves left through the reversed sorted prefix while it is `less` than its left
neighbour. -/
def sinkLeft (x : α) : List α → List α
  | [] => [x]
  | y :: ys => if less x y then y :: sinkLeft x ys else x :: y :: ys

/-- `insertionSortLessFunc` over a whole list. -/
def insertionSortLessFunc (l : List α) : List α :=
  (l.foldl (fun rev x => sinkLeft less x rev) []).reverse

theorem perm_sinkLeft (x : α) : ∀ ys : List α, sinkLeft less x ys ~ x :: ys
  | [] => Perm.refl _
  | y :: ys => by
    unfold sinkLeft
    split
    · exact ((perm_sinkLeft x ys).cons y).trans (Perm.swap x y ys)
    · exact Perm.refl _

theorem perm_foldl_sinkLeft : ∀ (l rev : List α),
    l.foldl (fun rev x => sinkLeft less x rev) rev ~ l.reverse ++ rev
  | [], _ => Perm.refl _
  | x :: l, rev => by
    rw [foldl_cons, reverse_cons, append_assoc, singleton_append]
    exact (perm_foldl_sinkLeft l _).trans ((perm_sinkLeft less x rev).append_left _)

/-- The sort returns the elements it was given. -/
theorem perm_insertionSortLessFunc (l : List α) : insertionSortLessFunc less l ~ l := by
  unfold insertionSortLessFunc
  refine (reverse_perm _).trans ?_
  simpa using perm_foldl_sinkLeft less l []

section Pairwise

variable {R : α → α → Prop} {s : List α}
  (htrans : ∀ a b c, R a b → R b c → R a c)
  (htrue : ∀ x ∈ s, ∀ y ∈ s, less x y = true → R x y)
  (hfalse : ∀ x ∈ s, ∀ y ∈ s, less x y = false → R y x)
include htrans htrue hfalse

/-- The step: an element of `s` that moves into a reversed prefix ordered by `R` keeps it
ordered. It stops at a neighbour it is not `less` than, which is then `R`-before it, and so is
every element further left; it is `R`-before each neighbour it passed. -/
theorem pairwise_sinkLeft {x : α} (hx : x ∈ s) :
    ∀ {rev : List α}, (∀ y ∈ rev, y ∈ s) → rev.Pairwise (fun a b => R b a) →
      (sinkLeft less x rev).Pairwise (fun a b => R b a)
  | [], _, _ => pairwise_singleton _ _
  | y :: ys, hmem, hsorted => by
    have hy : y ∈ s := hmem y (mem_cons_self ..)
    rw [pairwise_cons] at hsorted
    unfold sinkLeft
    split
    · rename_i hless
      refine pairwise_cons.mpr ⟨?_, pairwise_sinkLeft hx (fun z hz => hmem z (mem_cons_of_mem _ hz))
        hsorted.2⟩
      intro z hz
      rcases mem_cons.mp ((perm_sinkLeft less x ys).subset hz) with rfl | hz
      · exact htrue z hx y hy hless
      · exact hsorted.1 z hz
    · rename_i hless
      have hyx : R y x := hfalse x hx y hy (by simpa using hless)
      refine pairwise_cons.mpr ⟨?_, pairwise_cons.mpr hsorted⟩
      intro z hz
      rcases mem_cons.mp hz with rfl | hz
      · exact hyx
      · exact htrans _ _ _ (hsorted.1 z hz) hyx

/-- The run: the elements of `s`, sorted one after the other, come out ordered by `R`. -/
theorem pairwise_foldl_sinkLeft : ∀ {l rev : List α}, (∀ y ∈ l, y ∈ s) → (∀ y ∈ rev, y ∈ s) →
    rev.Pairwise (fun a b => R b a) →
    (l.foldl (fun rev x => sinkLeft less x rev) rev).Pairwise (fun a b => R b a)
  | [], _, _, _, hsorted => hsorted
  | x :: l, rev, hl, hrev, hsorted => by
    rw [foldl_cons]
    have hx : x ∈ s := hl x (mem_cons_self ..)
    refine pairwise_foldl_sinkLeft (fun y hy => hl y (mem_cons_of_mem _ hy)) ?_
      (pairwise_sinkLeft less htrans htrue hfalse hx hrev hsorted)
    intro y hy
    rcases mem_cons.mp ((perm_sinkLeft less x rev).subset hy) with rfl | hy
    · exact hx
    · exact hrev y hy

/-- **What the sort guarantees.** For a transitive `R` that holds of `x, y` in `s` when
`less x y` is `true` and of `y, x` when it is `false`, the sorted list is ordered by `R`. -/
theorem pairwise_insertionSortLessFunc : (insertionSortLessFunc less s).Pairwise R := by
  unfold insertionSortLessFunc
  rw [pairwise_reverse]
  exact pairwise_foldl_sinkLeft less htrans htrue hfalse (fun _ h => h) (by simp) Pairwise.nil

end Pairwise

end List
