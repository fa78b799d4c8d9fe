import Mathlib

/-!
# SQL encoding of a byte string (`go/sqltypes/value.go`)

`Value.EncodeSQL` writes a value into the text of a query. A quoted value, such as a
`VARBINARY`, goes through `encodeBytesSQL`: a single quote, each byte either as itself or as a
backslash and the letter `SQLEncodeMap` gives it, and a closing quote. One exception keeps
`LIKE` patterns as they were written: a backslash right before `%` or `_` is written as itself,
not escaped, so that `\%` and `\_` reach the query unchanged.

`SQLDecodeMap` is the table the tokenizer reads escapes back with; `init` builds both tables from
`encodeRef`, and the two are inverse on the escaped bytes (`SQLEncodeMap_letter`). The
round trip through the tokenizer is in `Wescale.Sqlparser.Token`.

**What is left out.** A `Value` here is its type and its bytes; of the types, `NULL`, `BIT`, two
quoted types and one that is not stand for the rest, which `EncodeSQL` only asks whether they
are quoted. The `BinWriter` is the list the bytes are appended to.
-/

set_option autoImplicit false

namespace Wescale.Sqltypes

/-- `DontEscape`: the table entry of a byte written as itself. -/
def DontEscape : UInt8 := 255

/-- `encodeRef`: each byte that is escaped, with the letter written after the backslash. -/
def encodeRef : List (UInt8 × UInt8) :=
  [('\x00'.toUInt8, '0'.toUInt8), ('\x27'.toUInt8, '\x27'.toUInt8), ('"'.toUInt8, '"'.toUInt8),
    ('\x08'.toUInt8, 'b'.toUInt8), ('\n'.toUInt8, 'n'.toUInt8), ('\r'.toUInt8, 'r'.toUInt8),
    ('\t'.toUInt8, 't'.toUInt8), ((26 : UInt8), 'Z'.toUInt8), ('\\'.toUInt8, '\\'.toUInt8)]

/-- `SQLEncodeMap`, as `init` fills it: the letter of an escaped byte, `DontEscape` for the
others. -/
def SQLEncodeMap (c : UInt8) : UInt8 :=
  (encodeRef.lookup c).getD DontEscape

/-- `SQLDecodeMap`, as `init` fills it: the byte a letter after a backslash stands for,
`DontEscape` for the others. The letters of `encodeRef` are distinct, so the order in which
`init` writes them does not matter. -/
def SQLDecodeMap (c : UInt8) : UInt8 :=
  ((encodeRef.find? fun p => p.2 == c).map Prod.fst).getD DontEscape

/-- An escaped byte is an entry of `encodeRef`, with its letter. -/
theorem mem_encodeRef {ch : UInt8} (h : SQLEncodeMap ch ≠ DontEscape) :
    (ch, SQLEncodeMap ch) ∈ encodeRef := by
  unfold SQLEncodeMap at h ⊢
  cases hl : encodeRef.lookup ch with
  | none =>
    rw [hl] at h
    exact absurd rfl h
  | some e =>
    obtain ⟨l₁, l₂, hsplit, -⟩ := List.lookup_eq_some_iff.mp hl
    rw [Option.getD_some, hsplit]
    exact List.mem_append_right _ List.mem_cons_self

/-- What reading an escape back needs of it: its letter is neither `%` nor `_`, and
`SQLDecodeMap` takes the letter back to the byte, which is not `DontEscape`. -/
theorem SQLEncodeMap_letter {ch : UInt8} (h : SQLEncodeMap ch ≠ DontEscape) :
    SQLEncodeMap ch ≠ '%'.toUInt8 ∧ SQLEncodeMap ch ≠ '_'.toUInt8 ∧
      SQLDecodeMap (SQLEncodeMap ch) = ch ∧ ch ≠ DontEscape := by
  -- checked on each of the nine escapes
  have hall : ∀ p ∈ encodeRef, p.2 ≠ '%'.toUInt8 ∧ p.2 ≠ '_'.toUInt8 ∧
      SQLDecodeMap p.2 = p.1 ∧ p.1 ≠ DontEscape := by
    intro p hp
    simp only [encodeRef, List.mem_cons, List.not_mem_nil, or_false] at hp
    rcases hp with rfl | rfl | rfl | rfl | rfl | rfl | rfl | rfl | rfl <;> decide
  exact hall _ (mem_encodeRef h)

/-- The loop of `encodeBytesSQLBytes2` over the bytes from `idx` on: a backslash before `%` or
`_` is kept, an escaped byte becomes a backslash and its letter, and any other byte stays. -/
def encodeBytesLoop : List UInt8 → List UInt8
  | [] => []
  | ch :: rest =>
    if ch == '\\'.toUInt8 && (rest.head? == some '%'.toUInt8 || rest.head? == some '_'.toUInt8) then
      ch :: encodeBytesLoop rest
    else if SQLEncodeMap ch == DontEscape then ch :: encodeBytesLoop rest
    else '\\'.toUInt8 :: SQLEncodeMap ch :: encodeBytesLoop rest

/-- A byte written as itself is neither the quote nor the backslash, which are escaped. -/
theorem ne_of_SQLEncodeMap_eq {ch : UInt8} (h : SQLEncodeMap ch = DontEscape) :
    ch ≠ '\x27'.toUInt8 ∧ ch ≠ '\\'.toUInt8 := by
  constructor
  · intro hq
    rw [hq] at h
    exact absurd h (by decide)
  · intro hb
    rw [hb] at h
    exact absurd h (by decide)

/-- A byte written as itself: it stands for itself in the text. -/
theorem encodeBytesLoop_cons_of_eq {ch : UInt8} {s : List UInt8}
    (h : SQLEncodeMap ch = DontEscape) :
    encodeBytesLoop (ch :: s) = ch :: encodeBytesLoop s := by
  rw [encodeBytesLoop, if_neg (by simp [(ne_of_SQLEncodeMap_eq h).2]), if_pos (by simpa using h)]

/-- A byte that has an escape starts its text with a backslash: the escape, or the backslash
kept before `%` or `_`. -/
theorem encodeBytesLoop_cons_of_ne {ch : UInt8} {s : List UInt8}
    (h : SQLEncodeMap ch ≠ DontEscape) :
    ∃ t, encodeBytesLoop (ch :: s) = '\\'.toUInt8 :: t := by
  rw [encodeBytesLoop]
  split
  · rename_i hkeep
    simp only [Bool.and_eq_true, beq_iff_eq] at hkeep
    exact ⟨_, by rw [hkeep.1]⟩
  · split
    · rename_i hplain
      exact absurd (beq_iff_eq.mp hplain) h
    · exact ⟨_, rfl⟩

/-- A backslash before `%` or `_` is kept, and so is the wildcard after it. -/
theorem encodeBytesLoop_wildcard {c : UInt8} {s : List UInt8}
    (hc : c = '%'.toUInt8 ∨ c = '_'.toUInt8) :
    encodeBytesLoop ('\\'.toUInt8 :: c :: s) = '\\'.toUInt8 :: c :: encodeBytesLoop s := by
  have hplain : SQLEncodeMap c = DontEscape := by
    rcases hc with rfl | rfl <;> decide
  rw [encodeBytesLoop, if_pos (by rcases hc with rfl | rfl <;> simp),
    encodeBytesLoop_cons_of_eq hplain]

/-- `encodeBytesSQLBytes2`: the bytes between single quotes. -/
def encodeBytesSQLBytes2 (val : List UInt8) : List UInt8 :=
  '\x27'.toUInt8 :: encodeBytesLoop val ++ ['\x27'.toUInt8]

/-- `encodeBytesSQL`, which writes what `encodeBytesSQLBytes2` builds. -/
def encodeBytesSQL (val : List UInt8) : List UInt8 :=
  encodeBytesSQLBytes2 val

/-- `fmt.Fprintf(b, "%08b", ch)`: the eight binary digits of a byte. -/
def bits8 (ch : UInt8) : List UInt8 :=
  (List.range 8).reverse.map fun i => if ch.toNat.testBit i then '1'.toUInt8 else '0'.toUInt8

/-- `encodeBytesSQLBits`: `b'`, the binary digits of each byte, and `'`. -/
def encodeBytesSQLBits (val : List UInt8) : List UInt8 :=
  ['b'.toUInt8, '\x27'.toUInt8] ++ val.flatMap bits8 ++ ['\x27'.toUInt8]

/-- The types `EncodeSQL` tells apart. -/
inductive SqlType where
  | null
  | bit
  | varBinary
  | varChar
  | int64
  deriving DecidableEq, Repr

/-- `IsQuoted`: text and binary types, but not `BIT`. -/
def SqlType.IsQuoted : SqlType → Bool
  | .varBinary | .varChar => true
  | .null | .bit | .int64 => false

/-- A `Value`: its type and its bytes. -/
structure Value where
  typ : SqlType
  val : List UInt8
  deriving DecidableEq, Repr

/-- `NULL`. -/
def NULL : Value := ⟨.null, []⟩

/-- `MakeTrusted`: the value of `typ` with the bytes `val`, or `NULL` for the type `Null`. -/
def MakeTrusted (typ : SqlType) (val : List UInt8) : Value :=
  if typ == .null then NULL else ⟨typ, val⟩

/-- `nullstr`. -/
def nullstr : List UInt8 := "null".toUTF8.toList

/-- `Value.EncodeSQL`: the bytes it writes. -/
def Value.EncodeSQL (v : Value) : List UInt8 :=
  if v.typ == .null then nullstr
  else if v.typ.IsQuoted then encodeBytesSQL v.val
  else if v.typ == .bit then encodeBytesSQLBits v.val
  else v.val

end Wescale.Sqltypes
