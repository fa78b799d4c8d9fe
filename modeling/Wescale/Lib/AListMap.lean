import Mathlib

/-!
# Maps built by one pass over another map

A loop `for k, v := range m { if ... { out[k] = f(k, v) } }` over a map `m` writes each key
of `m` at most once, into a map `out` that starts empty. Whatever order the loop visits the
keys in, the result is the same map: key `k` holds `f k v` when `m` holds `v` at `k` and
the loop writes it, and nothing otherwise. `AList.filterMapVals` is that map, and
`lookup_filterMapVals` is the one fact about it that proofs use.

The keys of the result are those of `m`, in `m`'s order, less the ones the loop skips.
-/

set_option autoImplicit false

namespace AList

variable {α : Type*} {β γ : α → Type*}

/-- The entries a one-pass loop writes, in the order of the map it walks. -/
def filterMapEntries (f : (a : α) → β a → Option (γ a)) :
    List (Sigma β) → List (Sigma γ)
  | [] => []
  | ⟨a, b⟩ :: l =>
    match f a b with
    | some c => ⟨a, c⟩ :: filterMapEntries f l
    | none => filterMapEntries f l

theorem keys_filterMapEntries_sublist (f : (a : α) → β a → Option (γ a)) :
    ∀ l : List (Sigma β), List.Sublist (filterMapEntries f l).keys l.keys
  | [] => by simp [filterMapEntries]
  | ⟨a, b⟩ :: l => by
    simp only [filterMapEntries, List.keys_cons]
    cases f a b with
    | some c => exact (keys_filterMapEntries_sublist f l).cons_cons a
    | none => exact (keys_filterMapEntries_sublist f l).cons a

variable [DecidableEq α]

theorem dlookup_filterMapEntries (f : (a : α) → β a → Option (γ a)) (a : α) :
    ∀ {l : List (Sigma β)}, l.NodupKeys →
      (filterMapEntries f l).dlookup a = (l.dlookup a).bind (f a)
  | [], _ => rfl
  | ⟨k, b⟩ :: l, hnd => by
    obtain ⟨hk, hl⟩ := List.nodupKeys_cons.mp hnd
    by_cases hak : a = k
    · subst hak
      -- The key is written at most once, so the skipped case finds nothing later.
      have hnone : (filterMapEntries f l).dlookup a = none := by
        rw [dlookup_filterMapEntries f a hl, List.dlookup_eq_none.mpr hk]
        rfl
      simp only [filterMapEntries, List.dlookup_cons_eq, Option.bind_some]
      cases f a b with
      | some c => exact List.dlookup_cons_eq _ a c
      | none => exact hnone
    · have ih := dlookup_filterMapEntries f a hl
      simp only [filterMapEntries, List.dlookup_cons_ne l ⟨k, b⟩ hak]
      cases f k b with
      | some c => rw [List.dlookup_cons_ne _ ⟨k, c⟩ hak, ih]
      | none => exact ih

/-- The map a one-pass loop over `s` builds, writing `f a b` at each key `a` it keeps. -/
def filterMapVals (f : (a : α) → β a → Option (γ a)) (s : AList β) : AList γ where
  entries := filterMapEntries f s.entries
  nodupKeys := (keys_filterMapEntries_sublist f s.entries).nodup s.nodupKeys

@[simp] theorem lookup_filterMapVals (f : (a : α) → β a → Option (γ a)) (s : AList β)
    (a : α) : (s.filterMapVals f).lookup a = (s.lookup a).bind (f a) :=
  dlookup_filterMapEntries f a s.nodupKeys

theorem mem_filterMapVals {f : (a : α) → β a → Option (γ a)} {s : AList β} {a : α} :
    a ∈ s.filterMapVals f ↔ ∃ b, s.lookup a = some b ∧ (f a b).isSome := by
  rw [← AList.lookup_isSome, lookup_filterMapVals]
  cases s.lookup a with
  | none => simp
  | some b => simp

/-- A one-pass loop over `s` that may panic on an entry: `none` when `f` panics on some entry,
otherwise the map the loop builds, writing the inner value of `f a b` where there is one. -/
def filterMapValsOpt (f : (a : α) → β a → Option (Option (γ a))) (s : AList β) :
    Option (AList γ) :=
  if s.entries.all fun e => (f e.1 e.2).isSome then some (s.filterMapVals fun a b => (f a b).join)
  else none

theorem lookup_of_filterMapValsOpt {f : (a : α) → β a → Option (Option (γ a))} {s : AList β}
    {t : AList γ} (h : s.filterMapValsOpt f = some t) (a : α) :
    t.lookup a = (s.lookup a).bind fun b => (f a b).join := by
  unfold filterMapValsOpt at h
  split at h
  · cases h
    exact lookup_filterMapVals _ s a
  · cases h

/-- The loop does not panic when `f` does not on any entry. -/
theorem filterMapValsOpt_isSome {f : (a : α) → β a → Option (Option (γ a))} {s : AList β}
    (h : ∀ a b, s.lookup a = some b → (f a b).isSome) : (s.filterMapValsOpt f).isSome := by
  unfold filterMapValsOpt
  rw [if_pos (List.all_eq_true.mpr fun e he => h e.1 e.2 (AList.mem_lookup_iff.mpr he))]
  rfl

/-- A property of every value a map holds is a property of every entry of its list. -/
theorem forall_lookup_iff {P : (a : α) → β a → Prop} {s : AList β} :
    (∀ a b, s.lookup a = some b → P a b) ↔ ∀ e ∈ s.entries, P e.1 e.2 := by
  constructor
  · intro h e he
    exact h e.1 e.2 (AList.mem_lookup_iff.mpr he)
  · intro h a b hl
    exact h ⟨a, b⟩ (AList.mem_lookup_iff.mp hl)

theorem lookup_singleton_self (a : α) (b : β a) : (AList.singleton a b).lookup a = some b := by
  rw [← AList.insert_empty, AList.lookup_insert]

theorem lookup_singleton_of_ne {a a' : α} (b : β a) (h : a' ≠ a) :
    (AList.singleton a b).lookup a' = none := by
  rw [← AList.insert_empty, AList.lookup_insert_ne h, AList.lookup_empty]

end AList
