import Mathlib
import Wescale.Lib.Int64
import Wescale.Lib.Loop

/-!
# Go slices and the run-time panics of indexing and slicing

A Go slice is modelled by its elements. Indices and bounds are Go's `int`, a signed 64-bit
integer, so the arithmetic that computes them wraps as in Go (`Int64`). Every operation that
can panic returns `Except Panic`: `s[i]` needs `0 ≤ i < len(s)`, `s[lo:hi]` needs
`0 ≤ lo ≤ hi ≤ cap(s)`, and `make([]T, n)` needs `0 ≤ n ≤ maxAlloc`.

Two simplifications, both on the side of finding more panics, not fewer: the capacity of a
slice is its length, and every allocation counts one byte per element, so that no slice is
longer than `maxAlloc` (`2^48` on 64-bit Linux). The second is what keeps the positions of a
decoder far from the edges of `int`.

A Go function that returns an error is an `ExceptT ε (Except Panic)` computation: the outer
layer is the panic, the inner one the error value. `Returns m Q` says that `m` does not panic
and that its result, when it is not an error, satisfies `Q`; its rules (`returns_bind` and the
rest) are the Hoare rules the proofs about such functions are made of.

## What is proved

Each operation gets an exact statement of when it panics and, when it does not, what it
returns (`index_of_lt`, `slice_of_le`, `slice_of_not_le`, `make_of_le`, `indexByte_cases`),
and `Returns` gets its rules for `pure`, `throw`, `bind` and a lifted operation.
-/

set_option autoImplicit false

namespace Go

/-- The run-time panics the modelled code can raise. -/
inductive Panic where
  /-- `index out of range`. -/
  | indexOutOfRange
  /-- `slice bounds out of range`. -/
  | sliceBoundsOutOfRange
  /-- `makeslice: len out of range`. -/
  | makeSliceLenOutOfRange
  deriving DecidableEq, Repr

/-- The largest allocation the Go runtime accepts on 64-bit Linux. -/
def maxAlloc : Nat := 2 ^ 48

/-- A Go slice: its elements, no more of them than one allocation can hold. -/
structure Slice (α : Type) where
  toList : List α
  length_le : toList.length ≤ maxAlloc
  deriving DecidableEq

variable {α : Type}

/-- The slice `nil`. -/
def Slice.nil : Slice α := ⟨[], Nat.zero_le _⟩

/-- `len(s)`. -/
def Slice.len (s : Slice α) : Int64 := Int64.ofNat s.toList.length

@[simp] theorem Slice.toInt_len (s : Slice α) : s.len.toInt = s.toList.length :=
  Int64.toInt_ofNat_of_lt (Nat.lt_of_le_of_lt s.length_le (by decide))

/-- A bounds test against `len(s)` is a test on integers. -/
@[simp] theorem Slice.len_le_iff (s : Slice α) (x : Int64) :
    s.len ≤ x ↔ (s.toList.length : Int) ≤ x.toInt := by
  rw [Int64.le_iff_toInt_le, Slice.toInt_len]

theorem Slice.length_le_maxAlloc (s : Slice α) : (s.toList.length : Int) ≤ 2 ^ 48 := by
  have h := s.length_le
  simp only [maxAlloc] at h
  omega

/-- `s[i]`. -/
def Slice.index (s : Slice α) (i : Int64) : Except Panic α :=
  if h : 0 ≤ i.toInt ∧ i.toInt < s.toList.length then
    .ok (s.toList.get ⟨i.toInt.toNat, by omega⟩)
  else .error .indexOutOfRange

/-- `s[lo:hi]`. -/
def Slice.slice (s : Slice α) (lo hi : Int64) : Except Panic (Slice α) :=
  if 0 ≤ lo.toInt ∧ lo.toInt ≤ hi.toInt ∧ hi.toInt ≤ s.toList.length then
    .ok ⟨(s.toList.take hi.toInt.toNat).drop lo.toInt.toNat,
      Nat.le_trans (by simp only [List.length_drop, List.length_take]; omega) s.length_le⟩
  else .error .sliceBoundsOutOfRange

/-- `s[lo:]`. -/
def Slice.sliceFrom (s : Slice α) (lo : Int64) : Except Panic (Slice α) :=
  s.slice lo s.len

/-- `make([]T, n)`, its elements the zero value. -/
def make (zero : α) (n : Int) : Except Panic (Slice α) :=
  if h : 0 ≤ n ∧ n ≤ maxAlloc then
    .ok ⟨List.replicate n.toNat zero, by simp only [List.length_replicate]; omega⟩
  else .error .makeSliceLenOutOfRange

/-- `copy(dst, src)`: the first `min(len(dst), len(src))` elements of `dst` become those of
`src`. -/
def copy (dst src : Slice α) : Slice α :=
  ⟨src.toList.take dst.toList.length ++ dst.toList.drop src.toList.length,
    Nat.le_trans (by simp only [List.length_append, List.length_take, List.length_drop]; omega)
      dst.length_le⟩

/-- `bytes.IndexByte(s, c)`: the position of the first `c`, or `-1`. -/
def Slice.indexByte [DecidableEq α] (s : Slice α) (c : α) : Int64 :=
  match s.toList.idxOf? c with
  | some i => Int64.ofNat i
  | none => -1

/-! ## When each operation panics -/

theorem index_of_lt (s : Slice α) (i : Int64) (h0 : 0 ≤ i.toInt)
    (hi : i.toInt < s.toList.length) :
    s.index i = .ok (s.toList.get ⟨i.toInt.toNat, by omega⟩) := by
  rw [Slice.index, dif_pos ⟨h0, hi⟩]

theorem index_of_not_lt (s : Slice α) (i : Int64)
    (h : ¬(0 ≤ i.toInt ∧ i.toInt < s.toList.length)) :
    s.index i = .error .indexOutOfRange := by
  rw [Slice.index, dif_neg h]

theorem slice_of_le (s : Slice α) (lo hi : Int64) (h0 : 0 ≤ lo.toInt)
    (hlo : lo.toInt ≤ hi.toInt) (hhi : hi.toInt ≤ s.toList.length) :
    ∃ t, s.slice lo hi = .ok t ∧
      t.toList = (s.toList.take hi.toInt.toNat).drop lo.toInt.toNat :=
  ⟨_, by rw [Slice.slice, if_pos ⟨h0, hlo, hhi⟩], rfl⟩

theorem slice_of_not_le (s : Slice α) (lo hi : Int64)
    (h : ¬(0 ≤ lo.toInt ∧ lo.toInt ≤ hi.toInt ∧ hi.toInt ≤ s.toList.length)) :
    s.slice lo hi = .error .sliceBoundsOutOfRange := by
  rw [Slice.slice, if_neg h]

/-- A slice of length `n` taken from `lo`. -/
theorem length_slice {s t : Slice α} {lo hi : Int64} (h : s.slice lo hi = .ok t) :
    t.toList.length = (hi.toInt - lo.toInt).toNat := by
  unfold Slice.slice at h
  split at h
  next hb =>
    cases h
    simp only [List.length_drop, List.length_take]
    omega
  next => cases h

theorem make_of_le (zero : α) (n : Int) (h0 : 0 ≤ n) (h : n ≤ maxAlloc) :
    ∃ t, make zero n = .ok t ∧ t.toList.length = n.toNat :=
  ⟨_, by rw [make, dif_pos ⟨h0, h⟩], List.length_replicate⟩

theorem make_of_neg (zero : α) (n : Int) (h : n < 0) :
    make zero n = .error .makeSliceLenOutOfRange := by
  rw [make, dif_neg (by omega)]

/-- Copying a slice into one of its length gives the slice. -/
theorem copy_of_length_eq {dst src : Slice α} (h : dst.toList.length = src.toList.length) :
    (copy dst src).toList = src.toList := by
  simp [copy, h]

/-- `bytes.IndexByte` returns `-1` or a position of the slice. -/
theorem indexByte_cases [DecidableEq α] (s : Slice α) (c : α) :
    s.indexByte c = -1 ∨ ∃ i < s.toList.length, s.indexByte c = Int64.ofNat i := by
  unfold Slice.indexByte
  split
  next i hi =>
    obtain ⟨hlt, -⟩ := List.idxOf?_eq_some_iff.mp hi
    exact .inr ⟨i, hlt, rfl⟩
  next => exact .inl rfl

/-! ## Functions that return an error or panic -/

section Returns

variable {ε β : Type}

/-- `m` does not panic, and its result, when it is not an error, satisfies `Q`. -/
def Returns (m : ExceptT ε (Except Panic) α) (Q : α → Prop) : Prop :=
  ∃ r, m.run = .ok r ∧ ∀ a, r = .ok a → Q a

theorem returns_pure {Q : α → Prop} {a : α} (h : Q a) :
    Returns (pure a : ExceptT ε (Except Panic) α) Q :=
  ⟨.ok a, rfl, fun _ hb => by cases hb; exact h⟩

theorem returns_throw {Q : α → Prop} (e : ε) :
    Returns (throw e : ExceptT ε (Except Panic) α) Q :=
  ⟨.error e, rfl, fun _ h => by cases h⟩

theorem returns_lift {Q : α → Prop} {r : Except Panic α} {a : α} (hr : r = .ok a) (h : Q a) :
    Returns (ExceptT.lift r : ExceptT ε (Except Panic) α) Q :=
  ⟨.ok a, by rw [ExceptT.run_lift, hr]; rfl, fun _ hb => by cases hb; exact h⟩

theorem returns_mono {m : ExceptT ε (Except Panic) α} {P Q : α → Prop} (hm : Returns m P)
    (h : ∀ a, P a → Q a) : Returns m Q := by
  obtain ⟨r, hr, hp⟩ := hm
  exact ⟨r, hr, fun a ha => h a (hp a ha)⟩

/-- The rule of sequence: `x` returns with `P`, and `f` returns with `Q` after every result
that satisfies `P`. -/
theorem returns_bind {x : ExceptT ε (Except Panic) α} {f : α → ExceptT ε (Except Panic) β}
    {P : α → Prop} {Q : β → Prop} (hx : Returns x P) (hf : ∀ a, P a → Returns (f a) Q) :
    Returns (x >>= f) Q := by
  obtain ⟨r, hr, hp⟩ := hx
  cases r with
  | error e => exact ⟨.error e, by rw [ExceptT.run_bind, hr]; rfl, fun _ h => by cases h⟩
  | ok a =>
    obtain ⟨r', hr', hq⟩ := hf a (hp a rfl)
    exact ⟨r', by rw [ExceptT.run_bind, hr]; exact hr', hq⟩

/-- A lifted operation that does not panic returns its result. -/
theorem run_lift_of_ok {r : Except Panic α} {a : α} (hr : r = .ok a) :
    (ExceptT.lift r : ExceptT ε (Except Panic) α).run = .ok (.ok a) := by
  rw [ExceptT.run_lift, hr]
  rfl

/-- An operation whose errors are wrapped into another error type returns what it returned. -/
theorem run_adapt_of_ok {ε' : Type} {x : ExceptT ε (Except Panic) α} {f : ε → ε'} {a : α}
    (hx : x.run = .ok (.ok a)) : (x.adapt f).run = .ok (.ok a) := by
  change Except.mapError f <$> x.run = _
  rw [hx]
  rfl

/-- An error of `x` is an error of `x >>= f`. -/
theorem run_bind_of_error {x : ExceptT ε (Except Panic) α} {f : α → ExceptT ε (Except Panic) β}
    {e : ε} (hx : x.run = .ok (.error e)) : (x >>= f).run = .ok (.error e) := by
  rw [ExceptT.run_bind, hx]
  rfl

/-- After a result of `x`, `x >>= f` runs `f`. -/
theorem run_bind_of_ok {x : ExceptT ε (Except Panic) α} {f : α → ExceptT ε (Except Panic) β}
    {a : α} (hx : x.run = .ok (.ok a)) : (x >>= f).run = (f a).run := by
  rw [ExceptT.run_bind, hx]
  rfl

/-- A result of `x >>= f` comes from a result of `x`. -/
theorem run_bind_eq_ok {x : ExceptT ε (Except Panic) α} {f : α → ExceptT ε (Except Panic) β}
    {b : β} (h : (x >>= f).run = .ok (.ok b)) : ∃ a, x.run = .ok (.ok a) ∧ (f a).run = .ok (.ok b) := by
  rw [ExceptT.run_bind] at h
  cases hx : x.run with
  | error p => rw [hx] at h; cases h
  | ok r =>
    cases r with
    | error e => rw [hx] at h; cases h
    | ok a => rw [hx] at h; exact ⟨a, rfl, h⟩

end Returns

end Go
