import Mathlib
import Wescale.Lib.GoString
import Wescale.Lib.Loop
import Wescale.Key.KeyRange

/-!
# Sharding specs (`ParseShardingSpec`, `KeyRangeString` and `ParseKeyRangeParts` in
# `go/vt/key/key.go`)

A sharding spec names a keyspace's shards by their bounds in hex, joined by `-`: `-80-c0-` is
the three shards `-80`, `80-c0` and `c0-`, where an empty bound at either end is the beginning or
the end of the keyspace. `ParseShardingSpec` splits the spec at `-`, refuses an empty bound
between two others and bounds out of order, decodes each bound and returns the ranges between
consecutive bounds; `0` stands for `-`, the whole keyspace.

The order check compares the bounds as text, before they are decoded. Hex in lowercase orders
byte strings as the bytes do (`GoString.encodeHex_lt_encodeHex_iff`), but a spec that mixes the
cases is checked in an order the bytes do not have.

## What is proved

- `parseShardingSpec_keyRangeString`: the name `KeyRangeString` gives a range parses back to the
  range when the range is well formed, and to the order error when it is not.
- `parseShardingSpec_assigns_once`: the ranges of an accepted spec without uppercase letters
  partition the span from its first bound to its last: every keyspace id in the span lies in
  exactly one of them, and no other id in any. The ranges are consecutive, with bounds in
  increasing order (`map_toHalfOpen_parseShardingSpecLoop`). The example after it shows that
  the proviso is needed: `-B0-a0-` is accepted, and an id lies in two of its ranges.
-/

set_option autoImplicit false

namespace Wescale.Key

open Go GoString

/-- The errors of `ParseShardingSpec`, each with the spec its message quotes. -/
inductive SpecError where
  | noRange (spec : List Char)
  | minMaxInMiddle (spec : List Char)
  | notInOrder (spec : List Char)
  /-- the error of `hex.DecodeString` on a bound -/
  | hex (err : HexError)
  deriving DecidableEq, Repr

/-- The message of a `ParseShardingSpec` error. -/
def SpecError.message : SpecError → String
  | .noRange spec => "malformed spec: doesn't define a range: " ++ String.ofList (quote spec)
  | .minMaxInMiddle spec =>
    "malformed spec: MinKey/MaxKey cannot be in the middle of the spec: " ++
      String.ofList (quote spec)
  | .notInOrder spec =>
    "malformed spec: shard limits should be in order: " ++ String.ofList (quote spec)
  | .hex err => err.message

/-- The loop of `ParseShardingSpec` over `parts[1:]`: `i` is the index of the part `p`, `old` the
part before it, and `last` the index of the last part, `len(parts) - 2`. -/
def parseShardingSpecLoop (spec : List Char) (last : Nat) :
    Nat → List Char → List (List Char) → Except SpecError (List KeyRange)
  | _, _, [] => pure []
  | i, old, p :: ps => do
    if p = [] ∧ i ≠ last then throw (.minMaxInMiddle spec)
    if p ≠ [] ∧ p ≤ old then throw (.notInOrder spec)
    let s ← (decodeString old).mapError .hex
    let e ← (decodeString p).mapError .hex
    let ranges ← parseShardingSpecLoop spec last (i + 1) p ps
    pure (⟨s, e⟩ :: ranges)

/-- `ParseShardingSpec`. -/
def parseShardingSpec (spec : List Char) : Except SpecError (List KeyRange) := do
  let parts := split '-' spec
  let parts ← if parts.length = 1 then
      if spec = ['0'] then pure [[], []] else throw (.noRange spec)
    else pure parts
  -- `parts[0]`, and the loop over `parts[1:]`; a split has at least one part
  parseShardingSpecLoop spec (parts.length - 2) 0 (parts.headD []) parts.tail

/-- `KeyRangeString`: the bounds in hex joined by `-`; nil is `-`. -/
def keyRangeString : Option KeyRange → List Char
  | none => ['-']
  | some kr => encodeHex kr.start ++ '-' :: encodeHex kr.stop

/-- `ParseKeyRangeParts`: a range from its two bounds in hex. -/
def parseKeyRangeParts (start stop : List Char) : Except HexError KeyRange := do
  let s ← decodeString start
  let e ← decodeString stop
  pure ⟨s, e⟩

/-! ## The name of a range parses back -/

theorem dash_not_mem_encodeHex (bs : List UInt8) : '-' ∉ encodeHex bs := fun h => by
  obtain ⟨n, hn, hc⟩ := mem_encodeHex h
  exact (digitChar_ne_of_lt hn).2.2.1 hc.symm

theorem decodeString_encodeHex (bs : List UInt8) : decodeString (encodeHex bs) = .ok bs :=
  decodeString_eq_ok_iff.mpr (decodeHex_encodeHex bs)

theorem encodeHex_eq_nil_iff {bs : List UInt8} : encodeHex bs = [] ↔ bs = [] := by
  rw [← List.length_eq_zero_iff, length_encodeHex, ← List.length_eq_zero_iff]
  omega

/-- The order check on the name of a range fails exactly when the range is not well formed. -/
theorem notInOrder_iff (kr : KeyRange) :
    (encodeHex kr.stop ≠ [] ∧ encodeHex kr.stop ≤ encodeHex kr.start) ↔ ¬WellFormed (some kr) := by
  rw [Ne, encodeHex_eq_nil_iff, ← not_lt, encodeHex_lt_encodeHex_iff, WellFormed, not_or]

/-- **The name of a range parses back**: `ParseShardingSpec` reads the name `KeyRangeString`
gives a range as that one range when the range is well formed, and refuses it as out of order
when it is not. -/
theorem parseShardingSpec_keyRangeString (kr : KeyRange) :
    parseShardingSpec (keyRangeString (some kr)) =
      if WellFormed (some kr) then .ok [kr] else .error (.notInOrder (keyRangeString (some kr))) := by
  have hsplit : split '-' (keyRangeString (some kr)) = [encodeHex kr.start, encodeHex kr.stop] := by
    rw [keyRangeString, split_append _ (dash_not_mem_encodeHex _),
      split_of_not_mem (dash_not_mem_encodeHex _)]
  rw [parseShardingSpec]
  simp only [hsplit, List.length_cons, List.length_nil, Nat.reduceAdd, OfNat.ofNat_ne_one,
    if_false, pure_bind, List.headD_cons, List.tail_cons]
  rw [parseShardingSpecLoop]
  -- the one round of the loop: the end is the last part, and then only the order is checked
  rw [if_neg (fun h => h.2 rfl)]
  by_cases hwf : WellFormed (some kr)
  · rw [if_neg (mt (notInOrder_iff kr).mp (not_not.mpr hwf)), if_pos hwf]
    simp [decodeString_encodeHex, Except.mapError, parseShardingSpecLoop]
  · rw [if_pos ((notInOrder_iff kr).mpr hwf), if_neg hwf]
    rfl

/-! ## The ranges of an accepted spec -/

theorem length_of_decodeHex : ∀ {s : List Char} {bs : List UInt8}, decodeHex s = some bs →
    s.length = 2 * bs.length
  | [], bs, h => by
    simp only [decodeHex, Option.some.injEq] at h
    simp [← h]
  | [_], _, h => by simp [decodeHex] at h
  | p :: q :: rest, bs, h => by
    simp only [decodeHex, Option.bind_eq_bind, Option.pure_def, Option.bind_eq_some_iff,
      Option.some.injEq] at h
    obtain ⟨a, -, b, -, tail, htail, rfl⟩ := h
    simp only [List.length_cons, length_of_decodeHex htail]
    omega

theorem eq_nil_of_decodeHex {s : List Char} {bs : List UInt8} (h : decodeHex s = some bs) :
    bs = [] ↔ s = [] := by
  rw [← List.length_eq_zero_iff, ← List.length_eq_zero_iff, length_of_decodeHex h]
  omega

/-- Text without uppercase letters that decodes compares as the bytes it decodes to. -/
theorem lt_iff_of_decodeHex {a b : List Char} {x y : List UInt8} (ha : decodeHex a = some x)
    (hb : decodeHex b = some y) (hca : ∀ c ∈ a, c.isUpper = false)
    (hcb : ∀ c ∈ b, c.isUpper = false) : a < b ↔ x < y := by
  rw [← encodeHex_of_decodeHex ha hca, ← encodeHex_of_decodeHex hb hcb,
    encodeHex_lt_encodeHex_iff]

theorem decodeHex_of_mapError {s : List Char} {bs : List UInt8}
    (h : (decodeString s).mapError SpecError.hex = .ok bs) : decodeHex s = some bs := by
  apply decodeString_eq_ok_iff.mp
  cases hs : decodeString s with
  | error e => rw [hs] at h; cases h
  | ok t => rw [hs] at h; cases h; rfl

/-- One round of the loop: what it checks, what it decodes and what it returns. -/
theorem parseShardingSpecLoop_cons {spec : List Char} {last i : Nat} {old p : List Char}
    {ps : List (List Char)} {ranges : List KeyRange}
    (h : parseShardingSpecLoop spec last i old (p :: ps) = .ok ranges) :
    (p = [] → i = last) ∧ (p ≠ [] → old < p) ∧
      ∃ s e rest, decodeHex old = some s ∧ decodeHex p = some e ∧
        parseShardingSpecLoop spec last (i + 1) p ps = .ok rest ∧ ranges = ⟨s, e⟩ :: rest := by
  rw [parseShardingSpecLoop] at h
  by_cases hmid : p = [] ∧ i ≠ last
  · rw [if_pos hmid] at h
    cases h
  · rw [if_neg hmid] at h
    by_cases hord : p ≠ [] ∧ p ≤ old
    · rw [if_pos hord] at h
      cases h
    · rw [if_neg hord] at h
      obtain ⟨s, hs, h⟩ := Except.bind_eq_ok.mp h
      obtain ⟨e, he, h⟩ := Except.bind_eq_ok.mp h
      obtain ⟨rest, hrest, h⟩ := Except.bind_eq_ok.mp h
      refine ⟨fun hp => not_not.mp fun hi => hmid ⟨hp, hi⟩,
        fun hp => lt_of_not_ge fun hle => hord ⟨hp, hle⟩,
        s, e, rest, decodeHex_of_mapError hs, decodeHex_of_mapError he, hrest, ?_⟩
      cases h
      rfl

/-- **The ranges of the loop are consecutive, in increasing order**: from the part `old` on, where
only the last part may be empty, the ranges run from the bound of each part to the next, and the
bounds increase. -/
theorem map_toHalfOpen_parseShardingSpecLoop {spec : List Char} {last : Nat}
    (hcase : ∀ c ∈ spec, c.isUpper = false) :
    ∀ {ps : List (List Char)} {i : Nat} {old : List Char} {ranges : List KeyRange},
      (∀ c ∈ old, c ∈ spec) → (∀ p ∈ ps, ∀ c ∈ p, c ∈ spec) → ps ≠ [] → i + ps.length = last + 1 →
      parseShardingSpecLoop spec last i old ps = .ok ranges →
      ∃ lo bs hi, decodeHex old = some lo ∧
        ranges.map KeyRange.toHalfOpen = HalfOpen.chain lo bs hi ∧
        List.IsChain (· < ·) (lo :: bs) ∧ ∀ h ∈ hi, ∀ b ∈ lo :: bs, b < h
  | [], _, _, _, _, _, hne, _, _ => absurd rfl hne
  | [p], i, old, ranges, hold, hps, _, hlen, h => by
    obtain ⟨-, hord, s, e, rest, hs, he, hrest, rfl⟩ := parseShardingSpecLoop_cons h
    rw [parseShardingSpecLoop] at hrest
    cases hrest
    -- the last range ends at the last bound, the end of the keyspace when it is empty
    refine ⟨s, [], if e = [] then none else some e, hs, rfl, List.isChain_singleton s, ?_⟩
    intro x hx b hb
    have heh : e = x ∧ e ≠ [] := by
      by_cases he0 : e = [] <;> simp_all
    obtain ⟨rfl, he0⟩ := heh
    rw [List.mem_singleton] at hb
    subst hb
    have hp : p ≠ [] := fun hp => he0 ((eq_nil_of_decodeHex he).mpr hp)
    exact (lt_iff_of_decodeHex hs he (fun c hc => hcase c (hold c hc))
      (fun c hc => hcase c (hps p (by simp) c hc))).mp (hord hp)
  | p :: q :: ps, i, old, ranges, hold, hps, _, hlen, h => by
    obtain ⟨hlast, hord, s, e, rest, hs, he, hrest, rfl⟩ := parseShardingSpecLoop_cons h
    -- `p` is not the last part, so it is not empty, and its bound is above that of `old`
    have hp : p ≠ [] := fun hp => by
      have := hlast hp
      simp only [List.length_cons] at hlen
      omega
    have hse : s < e := (lt_iff_of_decodeHex hs he (fun c hc => hcase c (hold c hc))
      (fun c hc => hcase c (hps p (by simp) c hc))).mp (hord hp)
    have he0 : e ≠ [] := fun he0 => hp ((eq_nil_of_decodeHex he).mp he0)
    obtain ⟨lo, bs, hi, hlo, hmap, hchain, hhi⟩ :=
      map_toHalfOpen_parseShardingSpecLoop hcase (hps p (by simp))
        (fun r hr => hps r (List.mem_cons_of_mem _ hr)) (List.cons_ne_nil q ps)
        (by simp only [List.length_cons] at hlen ⊢; omega) hrest
    rw [show lo = e from Option.some.inj (hlo.symm.trans he)] at hmap hchain hhi
    refine ⟨s, e :: bs, hi, hs, ?_, List.isChain_cons_cons.mpr ⟨hse, hchain⟩, ?_⟩
    · rw [List.map_cons, hmap]
      simp [KeyRange.toHalfOpen, HalfOpen.chain, he0]
    · intro x hx b hb
      rcases List.mem_cons.mp hb with rfl | hb
      · exact lt_trans hse (hhi x hx e List.mem_cons_self)
      · exact hhi x hx b hb

theorem head_chain {α : Type} [LinearOrder α] (lo : α) (bs : List α) (hi : Option α) (hne) :
    ((HalfOpen.chain lo bs hi).head hne).lo = lo := by
  cases bs <;> rfl

theorem getLast_chain {α : Type} [LinearOrder α] :
    ∀ (lo : α) (bs : List α) (hi : Option α) (hne), ((HalfOpen.chain lo bs hi).getLast hne).hi = hi
  | _, [], _, _ => rfl
  | _, b :: bs, hi, _ => by
    simp only [HalfOpen.chain]
    rw [List.getLast_cons (by cases bs <;> simp [HalfOpen.chain])]
    exact getLast_chain b bs hi _

/-- The parts of an accepted spec: at least two, each made of the spec's characters. -/
theorem parts_of_parseShardingSpec {spec : List Char} {ranges : List KeyRange}
    (h : parseShardingSpec spec = .ok ranges) :
    ∃ old rest, rest ≠ [] ∧ (∀ c ∈ old, c ∈ spec) ∧ (∀ p ∈ rest, ∀ c ∈ p, c ∈ spec) ∧
      parseShardingSpecLoop spec (rest.length - 1) 0 old rest = .ok ranges := by
  rw [parseShardingSpec] at h
  by_cases h1 : (split '-' spec).length = 1
  · rw [if_pos h1] at h
    by_cases h0 : spec = ['0']
    · -- `0` is the spec `-`
      rw [if_pos h0, pure_bind] at h
      exact ⟨[], [[]], List.cons_ne_nil _ _, by simp, by simp, h⟩
    · rw [if_neg h0] at h
      cases h
  · rw [if_neg h1, pure_bind] at h
    have hmem : ∀ p ∈ split '-' spec, ∀ c ∈ p, c ∈ spec := fun p hp c hc => mem_of_mem_split hp hc
    have hne := @split_ne_nil '-' spec
    generalize split '-' spec = parts at h h1 hmem hne
    rcases parts with _ | ⟨old, _ | ⟨p, rest⟩⟩
    · exact absurd rfl hne
    · exact absurd h1 (by simp)
    · exact ⟨old, p :: rest, List.cons_ne_nil p rest, hmem old List.mem_cons_self,
        fun q hq => hmem q (List.mem_cons_of_mem _ hq), h⟩

/-- **The ranges of an accepted spec partition its span**: when the spec has no uppercase
letters, every keyspace id from its first bound up to its last lies in exactly one of its ranges,
and no other id lies in any. -/
theorem parseShardingSpec_assigns_once {spec : List Char} {ranges : List KeyRange}
    (h : parseShardingSpec spec = .ok ranges) (hcase : ∀ c ∈ spec, c.isUpper = false) :
    ∃ hne : ranges ≠ [], ∀ id : List UInt8,
      ranges.countP (fun r => keyRangeContains (some r) id) =
        if keyRangeContains (some ⟨(ranges.head hne).start, (ranges.getLast hne).stop⟩) id
        then 1 else 0 := by
  obtain ⟨old, rest, hrest, hold, hps, hloop⟩ := parts_of_parseShardingSpec h
  have hlen : 0 + rest.length = rest.length - 1 + 1 := by
    have := List.length_pos_iff.mpr hrest
    omega
  obtain ⟨lo, bs, hi, -, hmap, hchain, hhi⟩ :=
    map_toHalfOpen_parseShardingSpecLoop hcase hold hps hrest hlen hloop
  have hne : ranges ≠ [] := by
    intro h0
    rw [h0] at hmap
    cases bs <;> simp [HalfOpen.chain] at hmap
  refine ⟨hne, fun id => ?_⟩
  -- the span is the first range's start and the last range's end
  have hspan : (⟨(ranges.head hne).start, (ranges.getLast hne).stop⟩ : KeyRange).toHalfOpen =
      ⟨lo, hi⟩ := by
    have hmne : ranges.map KeyRange.toHalfOpen ≠ [] := by simpa using hne
    have hh := head_chain lo bs hi (hmap ▸ hmne)
    have hl := getLast_chain lo bs hi (hmap ▸ hmne)
    simp only [← hmap, List.head_map, List.getLast_map] at hh hl
    simp only [KeyRange.toHalfOpen] at hh hl ⊢
    rw [hh, hl]
  calc ranges.countP (fun r => keyRangeContains (some r) id)
      = (ranges.map KeyRange.toHalfOpen).countP (fun r => decide (id ∈ r)) := by
        rw [List.countP_map]
        refine List.countP_congr fun r _ => ?_
        rw [keyRangeContains_iff]
        simp
    _ = if id ∈ (⟨lo, hi⟩ : HalfOpen (List UInt8)) then 1 else 0 := by
        rw [hmap]
        exact HalfOpen.countP_mem_chain id (hchain.imp fun _ _ hab => le_of_lt hab)
          (fun x hx b hb => le_of_lt (hhi x hx b hb))
    _ = if keyRangeContains (some ⟨(ranges.head hne).start, (ranges.getLast hne).stop⟩) id
        then 1 else 0 := by
        rw [← hspan]
        simp [keyRangeContains_iff]

/-- The spec `-80-c0-`, three shards of the whole keyspace. -/
theorem parseShardingSpec_assigns_once_three :
    parseShardingSpec ['-', '8', '0', '-', 'c', '0', '-'] =
        .ok [⟨[], [0x80]⟩, ⟨[0x80], [0xc0]⟩, ⟨[0xc0], []⟩] ∧
      (∀ c ∈ ['-', '8', '0', '-', 'c', '0', '-'], c.isUpper = false) ∧
      ∃ hne : [(⟨[], [0x80]⟩ : KeyRange), ⟨[0x80], [0xc0]⟩, ⟨[0xc0], []⟩] ≠ [],
        ∀ id : List UInt8,
          [(⟨[], [0x80]⟩ : KeyRange), ⟨[0x80], [0xc0]⟩, ⟨[0xc0], []⟩].countP
              (fun r => keyRangeContains (some r) id) =
            if keyRangeContains (some ⟨([(⟨[], [0x80]⟩ : KeyRange), ⟨[0x80], [0xc0]⟩,
                ⟨[0xc0], []⟩].head hne).start, ([(⟨[], [0x80]⟩ : KeyRange), ⟨[0x80], [0xc0]⟩,
                ⟨[0xc0], []⟩].getLast hne).stop⟩) id
            then 1 else 0 := by
  have h : parseShardingSpec ['-', '8', '0', '-', 'c', '0', '-'] =
      .ok [⟨[], [0x80]⟩, ⟨[0x80], [0xc0]⟩, ⟨[0xc0], []⟩] := by decide
  have hcase : ∀ c ∈ ['-', '8', '0', '-', 'c', '0', '-'], c.isUpper = false := by
    simp [Char.isUpper]
  exact ⟨h, hcase, parseShardingSpec_assigns_once h hcase⟩

/-- Hex that mixes the cases is checked in another order than the bytes': `B0` comes before
`a0` as text, so `-B0-a0-` is accepted, and the id `a8` lies in its first range and its last. -/
example :
    parseShardingSpec ['-', 'B', '0', '-', 'a', '0', '-'] =
        .ok [⟨[], [0xb0]⟩, ⟨[0xb0], [0xa0]⟩, ⟨[0xa0], []⟩] ∧
      [(⟨[], [0xb0]⟩ : KeyRange), ⟨[0xb0], [0xa0]⟩, ⟨[0xa0], []⟩].countP
        (fun r => keyRangeContains (some r) [0xa8]) = 2 := by
  decide

end Wescale.Key
