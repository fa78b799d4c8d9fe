import Wescale.Sqltypes.Value

/-!
# Scanning a quoted string (`go/vt/sqlparser/token.go`)

`Tokenizer.Scan`, at a quote, skips it and calls `scanString`, which reads bytes up to the
closing quote. While it meets neither a backslash nor a doubled quote it only advances; at the
first of them it hands what it has read to `scanStringSlow`, whose loop reads escapes through
`SQLDecodeMap`, keeps the backslash of `\%` and `\_`, and reads a doubled quote as one.

The tokenizer's position is the text left to scan: `tkn.cur()` is its first byte, `eofChar` the
empty text, and `tkn.skip(1)` drops a byte. Each function returns the token, the string and the
text after it, so "consumes the whole literal" is a statement about the last component.

**The law** (`encodeSQL_scans_back`): the text `EncodeSQL` writes for a `VARBINARY` value of any
bytes scans back as one `STRING` token with exactly those bytes, and nothing is left. Its proof is
by recursion on the bytes, one byte of the value (or the pair `\%`, `\_`) against one pass of the
loop of `scanStringSlow`; the pass lemmas (`scanStringSlow_ordinary`, `scanStringSlow_escape`,
`scanStringSlow_wildcard`, `scanStringSlow_delim`) say once what a pass does.

**What is left out.** Of `Scan` only the branch a quote takes is modelled; the others give `none`.
Token values are the constants of the generated parser.
-/

set_option autoImplicit false

namespace Wescale.Sqlparser

open Wescale.Sqltypes

/-- `LEX_ERROR`, the token of text the tokenizer cannot read. -/
def LEX_ERROR : Int := 57349

/-- `STRING`, the token of a quoted string. -/
def STRING : Int := 57429

/-! ## The slow path -/

/-- The scan-ahead loop of `scanStringSlow`: the bytes before the next delimiter or backslash,
and the text from there. -/
def scanAhead (delim : UInt8) : List UInt8 → List UInt8 × List UInt8
  | [] => ([], [])
  | ch :: rest =>
    if ch == delim || ch == '\\'.toUInt8 then ([], ch :: rest)
    else (ch :: (scanAhead delim rest).1, (scanAhead delim rest).2)

/-- The first statement of the loop of `scanStringSlow`: past a byte that is neither the
delimiter nor a backslash, scan ahead to the next one that is. -/
def nextSpecial (delim : UInt8) (text : List UInt8) : List UInt8 × List UInt8 :=
  match text with
  | ch :: _ => if ch != delim && ch != '\\'.toUInt8 then scanAhead delim text else ([], text)
  | [] => ([], [])

/-- The rest of a pass of the loop of `scanStringSlow`, from the text where the scan ahead
stopped, with `buffer` holding the string so far: the result the loop returns with, or the
buffer and text of the next pass. -/
def slowPassAt (delim : UInt8) (typ : Int) (buffer : List UInt8) :
    List UInt8 → (Int × List UInt8 × List UInt8) ⊕ (List UInt8 × List UInt8)
  -- the end of the text, without a delimiter or an escape: `tkn.skip(1); continue`
  | [] => .inr (buffer, [])
  | ch :: rest =>
    if ch == '\\'.toUInt8 then
      match rest with
      -- the string ends in the middle of an escape
      | [] => .inl (LEX_ERROR, buffer, [])
      | cur :: rest =>
        if cur == '%'.toUInt8 || cur == '_'.toUInt8 then .inr (buffer ++ ['\\'.toUInt8, cur], rest)
        else
          let decodedChar := SQLDecodeMap cur
          .inr (buffer ++ [if decodedChar == DontEscape then cur else decodedChar], rest)
    else if ch == delim && rest.head? != some delim then .inl (typ, buffer, rest)
    else .inr (buffer ++ [ch], rest.tail)

/-- One pass of the loop of `scanStringSlow`. -/
def slowPass (delim : UInt8) (typ : Int) (buffer text : List UInt8) :
    (Int × List UInt8 × List UInt8) ⊕ (List UInt8 × List UInt8) :=
  match text with
  -- `eofChar`: the string is not terminated
  | [] => .inl (LEX_ERROR, buffer, [])
  | ch :: rest =>
    slowPassAt delim typ (buffer ++ (nextSpecial delim (ch :: rest)).1)
      (nextSpecial delim (ch :: rest)).2

theorem length_scanAhead_le (delim : UInt8) :
    ∀ text : List UInt8, (scanAhead delim text).2.length ≤ text.length
  | [] => Nat.le_refl _
  | ch :: rest => by
    unfold scanAhead
    split
    · exact Nat.le_refl _
    · exact Nat.le_succ_of_le (length_scanAhead_le delim rest)

theorem length_nextSpecial_le (delim : UInt8) (text : List UInt8) :
    (nextSpecial delim text).2.length ≤ text.length := by
  unfold nextSpecial
  split
  · split
    · exact length_scanAhead_le delim _
    · exact Nat.le_refl _
  · exact Nat.le_refl _

/-- The rest of a pass goes on from a shorter text, or from the end. -/
theorem length_slowPassAt {delim : UInt8} {typ : Int} {buffer after buffer' text' : List UInt8}
    (h : slowPassAt delim typ buffer after = .inr (buffer', text')) :
    text' = [] ∨ text'.length < after.length := by
  unfold slowPassAt at h
  split at h
  · simp only [Sum.inr.injEq, Prod.mk.injEq] at h
    exact Or.inl h.2.symm
  · split at h
    · split at h
      · simp at h
      · split at h <;>
        · simp only [Sum.inr.injEq, Prod.mk.injEq] at h
          rw [← h.2]
          right
          simp only [List.length_cons]
          omega
    · split at h
      · simp at h
      · simp only [Sum.inr.injEq, Prod.mk.injEq] at h
        rw [← h.2, List.length_tail]
        right
        simp only [List.length_cons]
        omega

/-- Every pass that goes on leaves less text, so the loop of `scanStringSlow` ends. -/
theorem length_slowPass_lt {delim : UInt8} {typ : Int} {buffer text buffer' text' : List UInt8}
    (h : slowPass delim typ buffer text = .inr (buffer', text')) : text'.length < text.length := by
  cases text with
  | nil => simp [slowPass] at h
  | cons ch rest =>
    have hle := length_nextSpecial_le delim (ch :: rest)
    simp only [slowPass] at h
    rcases length_slowPassAt h with hend | hlt
    · simp [hend]
    · omega

/-- `Tokenizer.scanStringSlow` on the text left to scan, `buffer` holding the string read so
far: the passes of its loop until one returns. -/
def scanStringSlow (delim : UInt8) (typ : Int) (buffer text : List UInt8) :
    Int × List UInt8 × List UInt8 :=
  match _hpass : slowPass delim typ buffer text with
  | .inl result => result
  | .inr (buffer', text') => scanStringSlow delim typ buffer' text'
termination_by text.length
decreasing_by exact length_slowPass_lt _hpass

/-! ## The fast path and `Scan` -/

/-- `Tokenizer.scanString`, from just after the opening delimiter: `scanned` holds the bytes
read so far, the source's `tkn.buf[start:tkn.Pos]`. -/
def scanString (delim : UInt8) (typ : Int) (scanned : List UInt8) :
    List UInt8 → Int × List UInt8 × List UInt8
  | [] => (LEX_ERROR, scanned, [])
  | ch :: rest =>
    if ch == delim && rest.head? != some delim then (typ, scanned, rest)
    -- a doubled delimiter falls through to the case of the backslash
    else if ch == delim || ch == '\\'.toUInt8 then scanStringSlow delim typ scanned (ch :: rest)
    else scanString delim typ (scanned ++ [ch]) rest

/-- `Tokenizer.skipBlank`: drop spaces, newlines, carriage returns and tabs. -/
def skipBlank (text : List UInt8) : List UInt8 :=
  text.dropWhile fun ch =>
    ch == ' '.toUInt8 || ch == '\n'.toUInt8 || ch == '\r'.toUInt8 || ch == '\t'.toUInt8

/-- `Tokenizer.Scan` of a new tokenizer, for text that starts with a quote after `skipBlank`:
the `default` case skips the quote and scans the string it opens. Other text goes to the other
cases of `Scan`, which are not modelled (`none`). -/
def Scan (text : List UInt8) : Option (Int × List UInt8 × List UInt8) :=
  match skipBlank text with
  | ch :: rest =>
    if ch == '\x27'.toUInt8 || ch == '"'.toUInt8 then some (scanString ch STRING [] rest) else none
  | [] => none

/-! ## What one pass of the slow path does -/

section Passes

variable {delim : UInt8} {typ : Int} {buffer : List UInt8}

/-- A pass that returns ends the loop. -/
theorem scanStringSlow_of_inl {text : List UInt8} {result : Int × List UInt8 × List UInt8}
    (h : slowPass delim typ buffer text = .inl result) :
    scanStringSlow delim typ buffer text = result := by
  rw [scanStringSlow]
  split <;> simp_all

/-- A pass that goes on hands the loop its buffer and text. -/
theorem scanStringSlow_of_inr {text buffer' text' : List UInt8}
    (h : slowPass delim typ buffer text = .inr (buffer', text')) :
    scanStringSlow delim typ buffer text = scanStringSlow delim typ buffer' text' := by
  rw [scanStringSlow]
  split <;> simp_all

/-- Two starts whose first passes agree scan alike. -/
theorem scanStringSlow_congr {buffer₂ text text₂ : List UInt8}
    (h : slowPass delim typ buffer text = slowPass delim typ buffer₂ text₂) :
    scanStringSlow delim typ buffer text = scanStringSlow delim typ buffer₂ text₂ := by
  cases hpass : slowPass delim typ buffer text with
  | inl result =>
    rw [scanStringSlow_of_inl hpass, scanStringSlow_of_inl (h.symm.trans hpass)]
  | inr next =>
    obtain ⟨buffer', text'⟩ := next
    rw [scanStringSlow_of_inr hpass, scanStringSlow_of_inr (h.symm.trans hpass)]

theorem scanAhead_of_special {ch : UInt8} {rest : List UInt8}
    (h : (ch == delim || ch == '\\'.toUInt8) = true) :
    scanAhead delim (ch :: rest) = ([], ch :: rest) := by
  rw [scanAhead, if_pos h]

theorem scanAhead_backslash {rest : List UInt8} :
    scanAhead delim ('\\'.toUInt8 :: rest) = ([], '\\'.toUInt8 :: rest) :=
  scanAhead_of_special (by simp)

theorem scanAhead_delim {rest : List UInt8} :
    scanAhead delim (delim :: rest) = ([], delim :: rest) :=
  scanAhead_of_special (by simp)

/-- The guard of the scan ahead changes nothing: the scan stops at once where it does not
apply. -/
theorem nextSpecial_eq_scanAhead (text : List UInt8) :
    nextSpecial delim text = scanAhead delim text := by
  unfold nextSpecial
  split
  · split
    · rfl
    · rename_i ch rest hguard
      rw [scanAhead_of_special]
      simp only [bne_iff_ne, ne_eq, Bool.and_eq_true, not_and, Decidable.not_not] at hguard
      simp only [Bool.or_eq_true, beq_iff_eq]
      exact or_iff_not_imp_left.mpr hguard
  · rfl

/-- A byte that is neither the delimiter nor a backslash is appended. -/
theorem scanStringSlow_ordinary {ch : UInt8} {rest : List UInt8} (hdelim : ch ≠ delim)
    (hbackslash : ch ≠ '\\'.toUInt8) :
    scanStringSlow delim typ buffer (ch :: rest) =
      scanStringSlow delim typ (buffer ++ [ch]) rest := by
  have hahead : scanAhead delim (ch :: rest) =
      (ch :: (scanAhead delim rest).1, (scanAhead delim rest).2) := by
    rw [scanAhead, if_neg (by simp [hdelim, hbackslash])]
  cases rest with
  | nil =>
    -- the scan ahead runs to the end, and the next pass finds it
    apply scanStringSlow_of_inr
    simp only [slowPass, nextSpecial_eq_scanAhead, hahead]
    rfl
  | cons c cs =>
    -- one scan ahead from `ch`, or one from the byte after it with `ch` already appended
    apply scanStringSlow_congr
    simp only [slowPass, nextSpecial_eq_scanAhead, hahead, List.append_assoc, List.singleton_append]

/-- An escape reads back as the byte `SQLDecodeMap` gives its letter, or as the letter itself. -/
theorem scanStringSlow_escape {c : UInt8} {rest : List UInt8} (hc : c ≠ '%'.toUInt8)
    (hc' : c ≠ '_'.toUInt8) :
    scanStringSlow delim typ buffer ('\\'.toUInt8 :: c :: rest) =
      scanStringSlow delim typ
        (buffer ++ [if SQLDecodeMap c == DontEscape then c else SQLDecodeMap c]) rest := by
  apply scanStringSlow_of_inr
  simp [slowPass, nextSpecial_eq_scanAhead, scanAhead_backslash, slowPassAt, hc, hc']

/-- `\%` and `\_` read back with their backslash. -/
theorem scanStringSlow_wildcard {c : UInt8} {rest : List UInt8}
    (hc : c = '%'.toUInt8 ∨ c = '_'.toUInt8) :
    scanStringSlow delim typ buffer ('\\'.toUInt8 :: c :: rest) =
      scanStringSlow delim typ (buffer ++ ['\\'.toUInt8, c]) rest := by
  apply scanStringSlow_of_inr
  simp only [slowPass, nextSpecial_eq_scanAhead, scanAhead_backslash, slowPassAt]
  rcases hc with rfl | rfl <;> simp

section Delimiter

variable (hdelim : delim ≠ '\\'.toUInt8)
include hdelim

/-- A delimiter not doubled ends the string. -/
theorem scanStringSlow_delim {rest : List UInt8} (hrest : rest.head? ≠ some delim) :
    scanStringSlow delim typ buffer (delim :: rest) = (typ, buffer, rest) := by
  apply scanStringSlow_of_inl
  simp [slowPass, nextSpecial_eq_scanAhead, scanAhead_delim, slowPassAt, hdelim, hrest]

end Delimiter

end Passes

/-! ## Reading back what `encodeBytesSQL` writes -/

section RoundTrip

variable {typ : Int} {rest : List UInt8}

/-- One byte of the value, unless it is a backslash kept before `%` or `_`, reads back in one
pass: as itself, or from its escape. -/
theorem scanStringSlow_encode_cons {ch : UInt8} {s : List UInt8}
    (hkeep : ¬ (ch == '\\'.toUInt8 &&
      (s.head? == some '%'.toUInt8 || s.head? == some '_'.toUInt8)) = true)
    (ih : ∀ buffer,
      scanStringSlow '\x27'.toUInt8 typ buffer (encodeBytesLoop s ++ '\x27'.toUInt8 :: rest) =
        (typ, buffer ++ s, rest))
    (buffer : List UInt8) :
    scanStringSlow '\x27'.toUInt8 typ buffer (encodeBytesLoop (ch :: s) ++ '\x27'.toUInt8 :: rest) =
      (typ, buffer ++ ch :: s, rest) := by
  rw [encodeBytesLoop, if_neg hkeep]
  split
  · rename_i hplain
    have hne := ne_of_SQLEncodeMap_eq (beq_iff_eq.mp hplain)
    rw [List.cons_append, scanStringSlow_ordinary hne.1 hne.2, ih]
    simp
  · rename_i hesc
    obtain ⟨hpercent, hunderscore, hdecode, hne⟩ := SQLEncodeMap_letter (by simpa using hesc)
    rw [List.cons_append, List.cons_append, scanStringSlow_escape hpercent hunderscore, hdecode, ih]
    simp [hne]

/-- The slow path reads back the text `encodeBytesLoop` writes, up to the closing quote. -/
theorem scanStringSlow_encode (hrest : rest.head? ≠ some '\x27'.toUInt8) :
    ∀ s buffer : List UInt8,
      scanStringSlow '\x27'.toUInt8 typ buffer (encodeBytesLoop s ++ '\x27'.toUInt8 :: rest) =
        (typ, buffer ++ s, rest)
  | [], buffer => by
    rw [encodeBytesLoop, List.nil_append, scanStringSlow_delim (by decide) hrest, List.append_nil]
  | [ch], buffer => scanStringSlow_encode_cons (by simp) (scanStringSlow_encode hrest []) buffer
  | ch :: c :: s, buffer => by
    by_cases hkeep : (ch == '\\'.toUInt8 &&
        ((c :: s).head? == some '%'.toUInt8 || (c :: s).head? == some '_'.toUInt8)) = true
    · -- `\%` or `\_`: the backslash is kept, and one pass reads the pair back
      simp only [Bool.and_eq_true, beq_iff_eq, List.head?_cons, Bool.or_eq_true,
        Option.some.injEq] at hkeep
      obtain ⟨rfl, hc⟩ := hkeep
      rw [encodeBytesLoop_wildcard hc, List.cons_append, List.cons_append,
        scanStringSlow_wildcard hc, scanStringSlow_encode hrest s]
      simp
    · exact scanStringSlow_encode_cons hkeep (scanStringSlow_encode hrest (c :: s)) buffer

/-- The fast path reads the bytes written as themselves, and hands the rest to the slow path at
the first backslash. -/
theorem scanString_encode (hrest : rest.head? ≠ some '\x27'.toUInt8) :
    ∀ s scanned : List UInt8,
      scanString '\x27'.toUInt8 typ scanned (encodeBytesLoop s ++ '\x27'.toUInt8 :: rest) =
        (typ, scanned ++ s, rest)
  | [], scanned => by
    rw [encodeBytesLoop, List.nil_append, scanString, if_pos (by simpa using hrest),
      List.append_nil]
  | ch :: s, scanned => by
    by_cases hplain : SQLEncodeMap ch = DontEscape
    · have hne := ne_of_SQLEncodeMap_eq hplain
      rw [encodeBytesLoop_cons_of_eq hplain, List.cons_append, scanString,
        if_neg (by simp [hne.1]), if_neg (by simp [hne.1, hne.2]), scanString_encode hrest s]
      simp
    · obtain ⟨t, ht⟩ := encodeBytesLoop_cons_of_ne (s := s) hplain
      have hbq : ('\\'.toUInt8 == '\x27'.toUInt8) = false := by decide
      rw [ht, List.cons_append, scanString, if_neg (by simp [hbq]), if_pos (by simp),
        ← List.cons_append, ← ht, scanStringSlow_encode hrest]

end RoundTrip

/-- A `VARBINARY` value of any bytes, written into a query by `EncodeSQL`, scans back as one
`STRING` token of exactly those bytes, and the whole literal is read. -/
theorem encodeSQL_scans_back (s : List UInt8) :
    Scan (MakeTrusted .varBinary s).EncodeSQL = some (STRING, s, []) := by
  have htext : (MakeTrusted .varBinary s).EncodeSQL =
      '\x27'.toUInt8 :: (encodeBytesLoop s ++ ['\x27'.toUInt8]) := rfl
  rw [htext, Scan, skipBlank, List.dropWhile_cons_of_neg (by decide)]
  simp only [Bool.or_eq_true, beq_iff_eq, true_or, if_true]
  rw [scanString_encode (by simp) s []]
  rfl

end Wescale.Sqlparser
