import Mathlib
import Wescale.Lib.GoBytes

/-! # Go strings, decimal numbers and hex over lists of characters

The parts of Go's `strings`, `strconv` and `encoding/hex` packages that a text format
calls, written over `List Char` by structural recursion, so that a parse of a concrete
text evaluates by `decide`. A Go string is a byte string; on ASCII text, the only text these
functions accept, bytes and characters agree.

* `cut` is `strings.Cut` for a one-character separator; `fields` lists the pieces that the
  loop `for len(s) > 0 { head, s, _ = strings.Cut(s, sep) }` visits (`fields_eq`); `split` is
  `strings.Split` for a one-character separator.
* `parseUint` and `parseInt` are `strconv.ParseUint(s, 10, bitSize)` and
  `strconv.ParseInt(s, 10, 64)`; `formatInt` is `strconv.FormatInt(n, 10)`.
* `decodeHex` and `encodeHex` are `hex.Decode` and `hex.Encode`; `decodeString` is
  `hex.DecodeString` with its errors, and `quote` is `strconv.Quote`, the `%q` of `fmt`, on
  ASCII text.
* `toLower`, `toUpper` and `equalFold` are `strings.ToLower`, `strings.ToUpper` and
  `strings.EqualFold` on ASCII letters, over `String`.

What a printer followed by a parser needs: `fields_intercalate`, `split_intercalate`,
`parseUint_toDigits`, `decodeHex_encodeHex`, and `trimSpace_eq_self`; and for text compared as
text, `encodeHex_lt_encodeHex_iff`: hex in lowercase orders byte strings as the bytes do. -/

set_option autoImplicit false

namespace GoString

/-! ## Splitting and trimming -/

/-- `unicode.IsSpace`: the Latin-1 spaces, then the rest of Unicode's white space. -/
def isSpace (c : Char) : Bool :=
  c == '\t' || c == '\n' || c.toNat == 0x0b || c.toNat == 0x0c || c == '\r' || c == ' ' ||
    c.toNat == 0x85 || c.toNat == 0xa0 || c.toNat == 0x1680 ||
    (0x2000 ≤ c.toNat && c.toNat ≤ 0x200a) || c.toNat == 0x2028 || c.toNat == 0x2029 ||
    c.toNat == 0x202f || c.toNat == 0x205f || c.toNat == 0x3000

/-- `strings.TrimSpace`. -/
def trimSpace (s : List Char) : List Char :=
  ((s.dropWhile isSpace).reverse.dropWhile isSpace).reverse

theorem dropWhile_eq_self {p : Char → Bool} {s : List Char} (h : ∀ c ∈ s.head?, p c = false) :
    s.dropWhile p = s := by
  cases s with
  | nil => rfl
  | cons c cs => simp [h c rfl]

/-- A text that neither starts nor ends with a space is its own trim. -/
theorem trimSpace_eq_self {s : List Char} (hhead : ∀ c ∈ s.head?, isSpace c = false)
    (hlast : ∀ c ∈ s.getLast?, isSpace c = false) : trimSpace s = s := by
  have hrev : ∀ c ∈ s.reverse.head?, isSpace c = false := by
    rw [List.head?_reverse]
    exact hlast
  rw [trimSpace, dropWhile_eq_self hhead, dropWhile_eq_self hrev, List.reverse_reverse]

/-- A text with no space in it is its own trim. -/
theorem trimSpace_of_forall {s : List Char} (h : ∀ c ∈ s, isSpace c = false) : trimSpace s = s :=
  trimSpace_eq_self (fun c hc => h c (List.mem_of_mem_head? hc))
    (fun c hc => h c (List.mem_of_mem_getLast? hc))

/-- `strings.Cut(s, string(sep))`: the text before the first `sep`, the text after it, and
whether there was one; without one, the whole text and an empty rest. -/
def cut (sep : Char) : List Char → List Char × List Char × Bool
  | [] => ([], [], false)
  | c :: cs =>
    if c = sep then ([], cs, true)
    else
      let r := cut sep cs
      (c :: r.1, r.2.1, r.2.2)

/-- The pieces the loop `for len(s) > 0 { head, s, _ = strings.Cut(s, sep) }` visits: an
empty text has none, and a trailing separator adds none. -/
def fields (sep : Char) : List Char → List (List Char)
  | [] => []
  | c :: cs =>
    if c = sep then [] :: fields sep cs
    else
      match fields sep cs with
      | [] => [[c]]
      | p :: ps => (c :: p) :: ps

variable {sep : Char}

theorem cut_of_not_mem : ∀ {s : List Char}, sep ∉ s → cut sep s = (s, [], false)
  | [], _ => rfl
  | c :: cs, h => by
    have hc : c ≠ sep := fun e => h (e ▸ List.mem_cons_self)
    rw [cut, if_neg hc, cut_of_not_mem (fun hm => h (List.mem_cons_of_mem _ hm))]

theorem cut_append (b : List Char) : ∀ {a : List Char}, sep ∉ a →
    cut sep (a ++ sep :: b) = (a, b, true)
  | [], _ => by simp [cut]
  | c :: cs, h => by
    have hc : c ≠ sep := fun e => h (e ▸ List.mem_cons_self)
    rw [List.cons_append, cut, if_neg hc, cut_append b (fun hm => h (List.mem_cons_of_mem _ hm))]

/-- `fields` is the Go loop: each round cuts at the first separator and goes on with the rest. -/
theorem fields_eq (s : List Char) :
    fields sep s = if s = [] then [] else (cut sep s).1 :: fields sep (cut sep s).2.1 := by
  induction s with
  | nil => rfl
  | cons c cs ih =>
    rw [if_neg (List.cons_ne_nil c cs)]
    by_cases hc : c = sep
    · simp only [fields, cut, if_pos hc]
    · simp only [fields, cut, if_neg hc]
      -- the first piece grows by `c`; whether `cs` is empty decides whether there was one
      by_cases hcs : cs = []
      · subst hcs
        rfl
      · rw [ih, if_neg hcs]

theorem fields_of_not_mem {s : List Char} (hs : s ≠ []) (h : sep ∉ s) : fields sep s = [s] := by
  rw [fields_eq, if_neg hs, cut_of_not_mem h]
  rfl

theorem fields_append {a : List Char} (b : List Char) (h : sep ∉ a) :
    fields sep (a ++ sep :: b) = a :: fields sep b := by
  rw [fields_eq, if_neg (by simp), cut_append b h]

/-- Joining non-empty pieces that hold no separator, and splitting again, gives the pieces. -/
theorem fields_intercalate : ∀ {ps : List (List Char)}, (∀ p ∈ ps, p ≠ [] ∧ sep ∉ p) →
    fields sep ([sep].intercalate ps) = ps
  | [], _ => rfl
  | [p], h => by
    rw [List.intercalate_singleton, fields_of_not_mem (h p (by simp)).1 (h p (by simp)).2]
  | p :: q :: ps, h => by
    have hp := h p List.mem_cons_self
    rw [List.intercalate_cons_cons, List.append_assoc, List.singleton_append,
      fields_append _ hp.2, fields_intercalate (fun r hr => h r (List.mem_cons_of_mem _ hr))]

/-- Writing a separator before each piece is the separator, then the pieces joined by it. -/
theorem flatMap_cons_eq_intercalate {α : Type*} (f : α → List Char) :
    ∀ {l : List α}, l ≠ [] → l.flatMap (fun a => sep :: f a) = sep :: [sep].intercalate (l.map f)
  | [], h => absurd rfl h
  | [a], _ => by simp
  | a :: b :: l, _ => by
    rw [List.flatMap_cons, flatMap_cons_eq_intercalate f (List.cons_ne_nil b l)]
    simp only [List.map_cons, List.intercalate_cons_cons]
    simp

/-- `strings.Split(s, string(sep))`: the texts between the separators, the empty ones too; a
text without a separator is one piece. -/
def split (sep : Char) : List Char → List (List Char)
  | [] => [[]]
  | c :: cs =>
    if c = sep then [] :: split sep cs
    else
      match split sep cs with
      | [] => [[c]]
      | p :: ps => (c :: p) :: ps

theorem split_ne_nil (s : List Char) : split sep s ≠ [] := by
  cases s with
  | nil => simp [split]
  | cons c cs =>
    unfold split
    split
    · simp
    · split <;> simp

theorem split_of_not_mem : ∀ {s : List Char}, sep ∉ s → split sep s = [s]
  | [], _ => rfl
  | c :: cs, h => by
    have hc : c ≠ sep := fun e => h (e ▸ List.mem_cons_self)
    rw [split, if_neg hc, split_of_not_mem (fun hm => h (List.mem_cons_of_mem _ hm))]

theorem split_append {a : List Char} (b : List Char) : sep ∉ a →
    split sep (a ++ sep :: b) = a :: split sep b := by
  induction a with
  | nil => intro _; simp [split]
  | cons c cs ih =>
    intro h
    have hc : c ≠ sep := fun e => h (e ▸ List.mem_cons_self)
    rw [List.cons_append, split, if_neg hc, ih (fun hm => h (List.mem_cons_of_mem _ hm))]

/-- Joining pieces that hold no separator, and splitting again, gives the pieces; unlike
`fields`, empty pieces come back too. -/
theorem split_intercalate : ∀ {ps : List (List Char)}, ps ≠ [] → (∀ p ∈ ps, sep ∉ p) →
    split sep ([sep].intercalate ps) = ps
  | [], h, _ => absurd rfl h
  | [p], _, h => by rw [List.intercalate_singleton, split_of_not_mem (h p (by simp))]
  | p :: q :: ps, _, h => by
    rw [List.intercalate_cons_cons, List.append_assoc, List.singleton_append,
      split_append _ (h p List.mem_cons_self),
      split_intercalate (List.cons_ne_nil q ps) (fun r hr => h r (List.mem_cons_of_mem _ hr))]

/-- Every character of a piece is a character of the text. -/
theorem mem_of_mem_split : ∀ {s p : List Char} {c : Char}, p ∈ split sep s → c ∈ p → c ∈ s
  | [], p, c, hp, hc => by
    rw [split, List.mem_singleton] at hp
    subst hp
    cases hc
  | d :: ds, p, c, hp, hc => by
    rw [split] at hp
    split at hp
    · rcases List.mem_cons.mp hp with rfl | hp
      · cases hc
      · exact List.mem_cons_of_mem _ (mem_of_mem_split hp hc)
    · split at hp
      · rename_i heq
        exact absurd heq (split_ne_nil ds)
      · rename_i q qs heq
        rcases List.mem_cons.mp hp with rfl | hp
        · rcases List.mem_cons.mp hc with rfl | hc
          · exact List.mem_cons_self
          · exact List.mem_cons_of_mem _ (mem_of_mem_split (heq ▸ List.mem_cons_self) hc)
        · exact List.mem_cons_of_mem _ (mem_of_mem_split (heq ▸ List.mem_cons_of_mem _ hp) hc)

/-! ## Decimal numbers -/

/-- The value of a text of decimal digits, read left to right as `ParseUint` does. -/
def digitsValue (s : List Char) : Nat := s.foldl (fun n c => 10 * n + (c.toNat - 48)) 0

/-- `strconv.ParseUint(s, 10, bitSize)`: a syntax error unless the text is a non-empty run of
decimal digits (base 10 takes no sign and no underscore), a range error past
`1<<bitSize - 1`. -/
def parseUint (s : List Char) (bitSize : Nat) : Option Nat :=
  if s.isEmpty || !s.all Char.isDigit then none
  else if 2 ^ bitSize ≤ digitsValue s then none
  else some (digitsValue s)

/-- `strconv.ParseInt(s, 10, 64)`: an optional sign, then `ParseUint` of the rest; the
range is `[-2^63, 2^63 - 1]`. -/
def parseInt (s : List Char) : Option Int :=
  match s with
  | [] => none
  | '+' :: t => (parseUint t 64).bind fun un => if 2 ^ 63 ≤ un then none else some un
  | '-' :: t => (parseUint t 64).bind fun un => if 2 ^ 63 < un then none else some (-(un : Int))
  | t => (parseUint t 64).bind fun un => if 2 ^ 63 ≤ un then none else some un

/-- `strconv.FormatInt(n, 10)`. -/
def formatInt (n : Int) : List Char :=
  if n < 0 then '-' :: Nat.toDigits 10 n.natAbs else Nat.toDigits 10 n.toNat

theorem parseUint_eq_some {s : List Char} {bitSize n : Nat} :
    parseUint s bitSize = some n ↔
      s ≠ [] ∧ (∀ c ∈ s, c.isDigit = true) ∧ digitsValue s = n ∧ n < 2 ^ bitSize := by
  unfold parseUint
  by_cases hs : s.isEmpty || !s.all Char.isDigit
  · rw [if_pos hs]
    simp only [Bool.or_eq_true, List.isEmpty_iff, Bool.not_eq_true', List.all_eq_false] at hs
    simp only [reduceCtorEq, false_iff]
    rintro ⟨hne, hall, -⟩
    rcases hs with hs | ⟨c, hc, hd⟩
    · exact hne hs
    · simp [hall c hc] at hd
  · rw [if_neg hs]
    simp only [Bool.or_eq_true, List.isEmpty_iff, Bool.not_eq_true', List.all_eq_false,
      not_or, not_exists, not_and, not_not] at hs
    split
    · simp only [reduceCtorEq, false_iff]
      omega
    · simp only [Option.some.injEq]
      constructor
      · rintro rfl
        exact ⟨hs.1, hs.2, rfl, by omega⟩
      · rintro ⟨-, -, h, -⟩
        exact h

theorem parseUint_lt {s : List Char} {bitSize n : Nat} (h : parseUint s bitSize = some n) :
    n < 2 ^ bitSize :=
  (parseUint_eq_some.mp h).2.2.2

theorem digitsValue_append_singleton (s : List Char) (c : Char) :
    digitsValue (s ++ [c]) = 10 * digitsValue s + (c.toNat - 48) := by
  simp [digitsValue, List.foldl_append]

/-- Reading back `Nat.toDigits`: the decimal printer and `digitsValue` are inverse. -/
theorem digitsValue_toDigits (n : Nat) : digitsValue (Nat.toDigits 10 n) = n := by
  induction n using Nat.strongRecOn with
  | _ n ih =>
    rw [Nat.toDigits_eq_if (by decide)]
    split
    · rename_i h
      simp [digitsValue, Nat.toNat_digitChar_of_lt_ten h]
    · rename_i h
      have hmod : n % 10 < 10 := Nat.mod_lt _ (by decide)
      rw [digitsValue_append_singleton, ih (n / 10) (by omega),
        Nat.toNat_digitChar_of_lt_ten hmod]
      omega

theorem digitChar_facts : ∀ n, n < 10 →
    isSpace (Char.ofNat (48 + n)) = false ∧ Char.ofNat (48 + n) ≠ ':' ∧
      Char.ofNat (48 + n) ≠ ',' ∧ Char.ofNat (48 + n) ≠ '-' := by
  decide

/-- A decimal digit is neither a space nor a separator of the GTID text. -/
theorem isDigit_ne {c : Char} (h : c.isDigit = true) :
    isSpace c = false ∧ c ≠ ':' ∧ c ≠ ',' ∧ c ≠ '-' := by
  have hn : 48 ≤ c.toNat ∧ c.toNat ≤ 57 := by
    simp only [Char.isDigit, Bool.and_eq_true, decide_eq_true_eq] at h
    exact h
  have hc : Char.ofNat (48 + (c.toNat - 48)) = c := by
    rw [show 48 + (c.toNat - 48) = c.toNat by omega, Char.ofNat_toNat]
  rw [← hc]
  exact digitChar_facts _ (by omega)

theorem isDigit_of_mem_toDigits {n : Nat} {c : Char} (h : c ∈ Nat.toDigits 10 n) :
    c.isDigit = true :=
  Nat.isDigit_of_mem_toDigits (by decide) (by decide) h

theorem parseUint_toDigits {n bitSize : Nat} (h : n < 2 ^ bitSize) :
    parseUint (Nat.toDigits 10 n) bitSize = some n :=
  parseUint_eq_some.mpr ⟨List.ne_nil_of_length_pos Nat.length_toDigits_pos,
    fun _ hc => isDigit_of_mem_toDigits hc, digitsValue_toDigits n, h⟩

theorem formatInt_of_nonneg {n : Int} (h : 0 ≤ n) : formatInt n = Nat.toDigits 10 n.toNat := by
  rw [formatInt, if_neg (by omega)]

/-! ## Hex -/

/-- `encoding/hex`'s `fromHexChar`: the value of one hex digit, either case. -/
def fromHexChar (c : Char) : Option Nat :=
  if '0' ≤ c ∧ c ≤ '9' then some (c.toNat - 48)
  else if 'a' ≤ c ∧ c ≤ 'f' then some (c.toNat - 87)
  else if 'A' ≤ c ∧ c ≤ 'F' then some (c.toNat - 55)
  else none

/-- `hex.Decode`: two digits a byte, `(a << 4) | b`; a bad digit or an odd length is an error. -/
def decodeHex : List Char → Option (List UInt8)
  | [] => some []
  | [_] => none
  | p :: q :: rest => do
    let a ← fromHexChar p
    let b ← fromHexChar q
    let tail ← decodeHex rest
    pure (UInt8.ofNat (a * 16 + b) :: tail)

/-- `hex.Encode`: two lowercase digits a byte. -/
def encodeHex (bs : List UInt8) : List Char :=
  bs.flatMap fun b => [Nat.digitChar (b.toNat / 16), Nat.digitChar (b.toNat % 16)]

theorem encodeHex_cons (b : UInt8) (bs : List UInt8) :
    encodeHex (b :: bs) =
      Nat.digitChar (b.toNat / 16) :: Nat.digitChar (b.toNat % 16) :: encodeHex bs := rfl

theorem encodeHex_append (bs cs : List UInt8) :
    encodeHex (bs ++ cs) = encodeHex bs ++ encodeHex cs :=
  List.flatMap_append

/-- Every character `hex.Encode` writes is a lowercase hex digit. -/
theorem mem_encodeHex {bs : List UInt8} {c : Char} (h : c ∈ encodeHex bs) :
    ∃ n < 16, c = Nat.digitChar n := by
  obtain ⟨b, -, hc⟩ := List.mem_flatMap.mp h
  rcases List.mem_pair.mp hc with rfl | rfl
  · exact ⟨b.toNat / 16, by have := b.toNat_lt; omega, rfl⟩
  · exact ⟨b.toNat % 16, Nat.mod_lt _ (by decide), rfl⟩

theorem length_encodeHex (bs : List UInt8) : (encodeHex bs).length = 2 * bs.length := by
  induction bs with
  | nil => rfl
  | cons b bs ih =>
    rw [encodeHex_cons, List.length_cons, List.length_cons, ih, List.length_cons]
    omega

theorem fromHexChar_digitChar : ∀ n, n < 16 → fromHexChar (Nat.digitChar n) = some n := by
  decide

/-- What `hex.Encode` writes, `hex.Decode` reads back. -/
theorem decodeHex_encodeHex : ∀ bs : List UInt8, decodeHex (encodeHex bs) = some bs
  | [] => rfl
  | b :: bs => by
    have hb : b.toNat < 256 := b.toNat_lt
    have hbyte : UInt8.ofNat (b.toNat / 16 * 16 + b.toNat % 16) = b := by
      rw [show b.toNat / 16 * 16 + b.toNat % 16 = b.toNat by omega]
      exact UInt8.ofNat_toNat
    rw [encodeHex_cons, decodeHex, fromHexChar_digitChar _ (by omega),
      fromHexChar_digitChar _ (Nat.mod_lt _ (by decide)), decodeHex_encodeHex bs]
    simp only [Option.bind_eq_bind, Option.bind_some, Option.pure_def, hbyte]

/-- A lowercase hex digit is neither a separator nor a space. -/
theorem digitChar_ne_of_lt {n : Nat} (h : n < 16) :
    Nat.digitChar n ≠ ':' ∧ Nat.digitChar n ≠ ',' ∧ Nat.digitChar n ≠ '-' ∧
      isSpace (Nat.digitChar n) = false := by
  revert n
  decide

/-- The errors of `hex.DecodeString`. -/
inductive HexError where
  /-- `InvalidByteError`: a character that is not a hex digit. -/
  | invalidByte (c : Char)
  /-- `ErrLength`: an odd number of digits. -/
  | errLength
  deriving DecidableEq, Repr

/-- `hex.DecodeString`: the pairs of digits from the left, each checked before it is read; a
last, lone digit is checked before the length is. -/
def decodeString : List Char → Except HexError (List UInt8)
  | [] => .ok []
  | [p] =>
    match fromHexChar p with
    | none => .error (.invalidByte p)
    | some _ => .error .errLength
  | p :: q :: rest =>
    match fromHexChar p, fromHexChar q with
    | none, _ => .error (.invalidByte p)
    | some _, none => .error (.invalidByte q)
    | some a, some b => (decodeString rest).map (UInt8.ofNat (a * 16 + b) :: ·)

/-- `hex.DecodeString` succeeds exactly where `hex.Decode` does. -/
theorem decodeString_eq_ok_iff : ∀ {s : List Char} {bs : List UInt8},
    decodeString s = .ok bs ↔ decodeHex s = some bs
  | [], bs => by simp [decodeString, decodeHex, eq_comm]
  | [p], bs => by
    unfold decodeString
    split <;> simp [decodeHex]
  | p :: q :: rest, bs => by
    unfold decodeString decodeHex
    split
    · rename_i hp
      simp [hp]
    · rename_i a hp hq
      simp [hp, hq]
    · rename_i a b hp hq
      cases hr : decodeString rest with
      | error e =>
        have hnone : decodeHex rest = none := by
          cases hd : decodeHex rest with
          | none => rfl
          | some t => exact absurd (decodeString_eq_ok_iff.mpr hd) (by rw [hr]; simp)
        simp [hp, hq, hnone, Except.map]
      | ok t =>
        have hsome : decodeHex rest = some t := decodeString_eq_ok_iff.mp hr
        simp [hp, hq, hsome, Except.map, eq_comm]

/-- `strconv.Quote` of one ASCII character: the quote and the backslash escaped, the control
characters as `\a`, `\b`, `\f`, `\n`, `\r`, `\t` and `\v` or as `\x` with two hex digits. -/
def quoteChar (c : Char) : List Char :=
  let backslash := Char.ofNat 92
  if c.toNat = 34 ∨ c.toNat = 92 then [backslash, c]
  else if c.toNat = 7 then [backslash, 'a']
  else if c.toNat = 8 then [backslash, 'b']
  else if c.toNat = 12 then [backslash, 'f']
  else if c.toNat = 10 then [backslash, 'n']
  else if c.toNat = 13 then [backslash, 'r']
  else if c.toNat = 9 then [backslash, 't']
  else if c.toNat = 11 then [backslash, 'v']
  else if c.toNat < 32 ∨ c.toNat = 127 then
    [backslash, 'x', Nat.digitChar (c.toNat / 16), Nat.digitChar (c.toNat % 16)]
  else [c]

/-- `strconv.Quote`, the `%q` of `fmt`: the text between double quotes, escaped. -/
def quote (s : List Char) : List Char := Char.ofNat 34 :: s.flatMap quoteChar ++ [Char.ofNat 34]

/-- A byte as `%#U` prints it: `U+` and four uppercase hex digits, then the character in single
quotes when it is printable ASCII. -/
def formatCodePoint (c : Char) : List Char :=
  let digit (n : Nat) := (Nat.digitChar n).toUpper
  ['U', '+', digit (c.toNat / 4096 % 16), digit (c.toNat / 256 % 16), digit (c.toNat / 16 % 16),
    digit (c.toNat % 16)] ++
    if 32 ≤ c.toNat ∧ c.toNat < 127 then [' ', Char.ofNat 39, c, Char.ofNat 39] else []

/-- The message of a `hex.DecodeString` error. -/
def HexError.message : HexError → String
  | .invalidByte c => "encoding/hex: invalid byte: " ++ String.ofList (formatCodePoint c)
  | .errLength => "encoding/hex: odd length hex string"

/-! ## Hex and the order of text -/

/-- The lowercase digits come in the order of their values. -/
theorem digitChar_lt_digitChar_iff {a b : Nat} (ha : a < 16) (hb : b < 16) :
    Nat.digitChar a < Nat.digitChar b ↔ a < b := by
  have key : ∀ a < 16, ∀ b < 16, (Nat.digitChar a < Nat.digitChar b ↔ a < b) := by decide
  exact key a ha b hb

theorem digitChar_inj {a b : Nat} (ha : a < 16) (hb : b < 16) :
    Nat.digitChar a = Nat.digitChar b ↔ a = b := by
  have key : ∀ a < 16, ∀ b < 16, (Nat.digitChar a = Nat.digitChar b ↔ a = b) := by decide
  exact key a ha b hb

/-- **Lowercase hex orders byte strings as the bytes do.** -/
theorem encodeHex_lt_encodeHex_iff : ∀ {bs cs : List UInt8},
    encodeHex bs < encodeHex cs ↔ bs < cs
  | [], [] => by simp [encodeHex]
  | [], c :: cs => by
    rw [encodeHex_cons]
    exact iff_of_true List.Lex.nil List.Lex.nil
  | b :: bs, [] => by
    rw [encodeHex_cons]
    exact iff_of_false (List.not_lt_nil_lex _) (List.not_lt_nil_lex _)
  | b :: bs, c :: cs => by
    have hb := b.toNat_lt
    have hc := c.toNat_lt
    have h16 : ∀ n : Nat, n < 2 ^ 8 → n / 16 < 16 := fun n hn => by omega
    have hm : ∀ n : Nat, n % 16 < 16 := fun n => Nat.mod_lt _ (by decide)
    -- two digits a byte: the bytes compare by their high digits, then their low ones
    have hbyte : b = c ↔ b.toNat / 16 = c.toNat / 16 ∧ b.toNat % 16 = c.toNat % 16 := by
      rw [← UInt8.toNat_inj]
      omega
    have hlt : b < c ↔ b.toNat / 16 < c.toNat / 16 ∨
        b.toNat / 16 = c.toNat / 16 ∧ b.toNat % 16 < c.toNat % 16 := by
      rw [UInt8.lt_iff_toNat_lt]
      omega
    rw [encodeHex_cons, encodeHex_cons, List.cons_lt_cons_iff_lex, List.cons_lt_cons_iff_lex,
      List.cons_lt_cons_iff_lex, encodeHex_lt_encodeHex_iff,
      digitChar_lt_digitChar_iff (h16 _ hb) (h16 _ hc), digitChar_lt_digitChar_iff (hm _) (hm _),
      digitChar_inj (h16 _ hb) (h16 _ hc), digitChar_inj (hm _) (hm _), hlt, hbyte]
    simp only [and_or_left, or_assoc, and_assoc]

/-- What `fromHexChar` reads is below 16, and a digit that is not an uppercase letter is the
lowercase digit of its value. -/
theorem fromHexChar_spec {c : Char} {n : Nat} (h : fromHexChar c = some n) :
    n < 16 ∧ (c.isUpper = false → Nat.digitChar n = c) := by
  have hc : c = Char.ofNat c.toNat := (Char.ofNat_toNat c).symm
  unfold fromHexChar at h
  split at h
  · rename_i hr
    injection h with h
    subst h
    obtain ⟨h1, h2⟩ : 48 ≤ c.toNat ∧ c.toNat ≤ 57 := by
      simpa [Char.le_def, UInt32.le_iff_toNat_le] using hr
    refine ⟨by omega, fun _ => ?_⟩
    conv_rhs => rw [hc]
    generalize c.toNat = k at h1 h2 ⊢
    interval_cases k <;> decide
  · split at h
    · rename_i _ hr
      injection h with h
      subst h
      obtain ⟨h1, h2⟩ : 97 ≤ c.toNat ∧ c.toNat ≤ 102 := by
        simpa [Char.le_def, UInt32.le_iff_toNat_le] using hr
      refine ⟨by omega, fun _ => ?_⟩
      conv_rhs => rw [hc]
      generalize c.toNat = k at h1 h2 ⊢
      interval_cases k <;> decide
    · split at h
      · rename_i _ _ hr
        injection h with h
        subst h
        obtain ⟨h1, h2⟩ : 65 ≤ c.toNat ∧ c.toNat ≤ 70 := by
          simpa [Char.le_def, UInt32.le_iff_toNat_le] using hr
        -- an uppercase digit: the second half says nothing
        have hup : c.isUpper = true := by
          simp only [Char.isUpper, ge_iff_le, UInt32.le_iff_toNat_le, decide_eq_true_eq]
          exact ⟨by simpa using h1, by simp; omega⟩
        exact ⟨by omega, fun hlow => absurd hup (by rw [hlow]; decide)⟩
      · cases h

/-- Hex without uppercase letters is `hex.Encode` of what it decodes to. -/
theorem encodeHex_of_decodeHex : ∀ {s : List Char} {bs : List UInt8}, decodeHex s = some bs →
    (∀ c ∈ s, c.isUpper = false) → encodeHex bs = s
  | [], bs, h, _ => by
    simp only [decodeHex, Option.some.injEq] at h
    rw [← h]
    rfl
  | [_], _, h, _ => by simp [decodeHex] at h
  | p :: q :: rest, bs, h, hcase => by
    simp only [decodeHex, Option.bind_eq_bind, Option.pure_def, Option.bind_eq_some_iff,
      Option.some.injEq] at h
    obtain ⟨a, ha, b, hb, tail, htail, rfl⟩ := h
    obtain ⟨ha16, hpa⟩ := fromHexChar_spec ha
    obtain ⟨hb16, hqb⟩ := fromHexChar_spec hb
    have hbyte : (UInt8.ofNat (a * 16 + b)).toNat = a * 16 + b :=
      UInt8.toNat_ofNat_of_lt' (show a * 16 + b < 256 by omega)
    rw [encodeHex_cons, hbyte, show (a * 16 + b) / 16 = a by omega,
      show (a * 16 + b) % 16 = b by omega, hpa (hcase p List.mem_cons_self),
      hqb (hcase q (by simp)),
      encodeHex_of_decodeHex htail (fun c hc => hcase c (by simp [hc]))]

/-! ## Case -/

/-- `strings.ToLower`, on ASCII letters. -/
def toLower (s : String) : String := String.ofList (s.toList.map Char.toLower)

/-- `strings.ToUpper`, on ASCII letters. -/
def toUpper (s : String) : String := String.ofList (s.toList.map Char.toUpper)

/-- `strings.EqualFold`, on ASCII letters. -/
def equalFold (s t : String) : Bool := toLower s == toLower t

end GoString
