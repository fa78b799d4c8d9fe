import Wescale.Lib.GoSlice

/-!
# The decoders of the MySQL wire protocol (`go/mysql/encoding.go`)

Each decoder reads at position `pos` of a packet and returns the value, the next position and
an `ok` flag, or `(zero, 0, false)` when the packet is too short. Positions and sizes are Go's
`int`; the bounds tests are written as in the source (`pos+size-1 >= len(data)`), so they
wrap where Go's do. A decoder that indexes or slices out of range panics (`Go.Panic`).

A Go `string` is a sequence of bytes and is modelled as one (`List UInt8`).

## What is proved

- The `_decodes` lemmas: from every position in `[0, len(data)]`, `readByte`, `readLenEncInt`
  and `readNullString` never panic, and when `ok` they move forward and stay within the packet
  (`Decodes`).
- `readBytes_decodes`, `readBytesCopy_decodes`: the same for a non-negative size whose end
  does not overflow `int`; `readBytesCopy_of_neg` and `readBytesCopy_of_overflow`: any other
  size passes the bounds test and panics in `make`.
- The `_ok_inv` lemmas: from any position, a decoder that reports `ok` returns a position
  within the packet.
-/

set_option autoImplicit false

namespace Wescale.Mysql

open Go

/-- The value of bytes read least significant first. -/
def littleEndian : List UInt8 → Nat
  | [] => 0
  | b :: bs => b.toNat + 256 * littleEndian bs

/-- `readByte`. -/
def readByte (data : Slice UInt8) (pos : Int64) : Except Panic (UInt8 × Int64 × Bool) :=
  if pos ≥ data.len then .ok (0, 0, false)
  else do
    let b ← data.index pos
    return (b, pos + 1, true)

/-- `readBytes`: a subslice of `size` bytes. -/
def readBytes (data : Slice UInt8) (pos size : Int64) :
    Except Panic (Slice UInt8 × Int64 × Bool) :=
  if pos + size - 1 ≥ data.len then .ok (.nil, 0, false)
  else do
    let s ← data.slice pos (pos + size)
    return (s, pos + size, true)

/-- `readBytesCopy`: a fresh copy of `size` bytes. -/
def readBytesCopy (data : Slice UInt8) (pos size : Int64) :
    Except Panic (Slice UInt8 × Int64 × Bool) :=
  if pos + size - 1 ≥ data.len then .ok (.nil, 0, false)
  else do
    let result ← make 0 size.toInt
    let src ← data.slice pos (pos + size)
    return (copy result src, pos + size, true)

/-- `readNullString`: the bytes up to the next zero byte, which is skipped. -/
def readNullString (data : Slice UInt8) (pos : Int64) :
    Except Panic (List UInt8 × Int64 × Bool) := do
  let rest ← data.sliceFrom pos
  let e := rest.indexByte 0
  if e = -1 then return ([], 0, false)
  let s ← data.slice pos (pos + e)
  return (s.toList, pos + e + 1, true)

/-- `readUint16`, `readUint32` and `readUint64`: `n` little-endian bytes at `pos`, if byte
`pos + (n - 1)` is in the packet. -/
def readFixed (n : Nat) (data : Slice UInt8) (pos : Int64) : Except Panic (Nat × Int64 × Bool) :=
  if pos + Int64.ofNat (n - 1) ≥ data.len then .ok (0, 0, false)
  else do
    let s ← data.slice pos (pos + Int64.ofNat n)
    return (littleEndian s.toList, pos + Int64.ofNat n, true)

/-- `readUint16`. -/
def readUint16 (data : Slice UInt8) (pos : Int64) : Except Panic (UInt16 × Int64 × Bool) :=
  (readFixed 2 data pos).map fun (v, p, ok) => (UInt16.ofNat v, p, ok)

/-- `readUint32`. -/
def readUint32 (data : Slice UInt8) (pos : Int64) : Except Panic (UInt32 × Int64 × Bool) :=
  (readFixed 4 data pos).map fun (v, p, ok) => (UInt32.ofNat v, p, ok)

/-- `readUint64`. -/
def readUint64 (data : Slice UInt8) (pos : Int64) : Except Panic (UInt64 × Int64 × Bool) :=
  (readFixed 8 data pos).map fun (v, p, ok) => (UInt64.ofNat v, p, ok)

/-- The value of the `n` bytes after `pos`, each read by index as in `readLenEncInt`:
`uint64(data[pos+1]) | uint64(data[pos+2])<<8 | ...`. -/
def readAfter (data : Slice UInt8) (pos : Int64) (n : Nat) : Except Panic UInt64 := do
  let bs ← (List.range' 1 n).mapM fun i => data.index (pos + Int64.ofNat i)
  return UInt64.ofNat (littleEndian bs)

/-- A case of `readLenEncInt` for a marker byte: the value in the next `n` bytes, if byte
`pos + n` is in the packet. -/
def readLenEncTail (data : Slice UInt8) (pos : Int64) (n : Nat) :
    Except Panic (UInt64 × Int64 × Bool) :=
  if pos + Int64.ofNat n ≥ data.len then .ok (0, 0, false)
  else do
    let v ← readAfter data pos n
    return (v, pos + Int64.ofNat (n + 1), true)

/-- `readLenEncInt`: one byte below `0xfc` is the value; `0xfc`, `0xfd` and `0xfe` announce
2, 3 and 8 bytes. -/
def readLenEncInt (data : Slice UInt8) (pos : Int64) : Except Panic (UInt64 × Int64 × Bool) :=
  if pos ≥ data.len then .ok (0, 0, false)
  else do
    let b ← data.index pos
    if b = 0xfc then readLenEncTail data pos 2
    else if b = 0xfd then readLenEncTail data pos 3
    else if b = 0xfe then readLenEncTail data pos 8
    else return (b.toUInt64, pos + 1, true)

/-- `readLenEncStringAsBytes`: the decoded length converted by `int(size)`, then the test
and the subslice of `readBytes`. -/
def readLenEncStringAsBytes (data : Slice UInt8) (pos : Int64) :
    Except Panic (Slice UInt8 × Int64 × Bool) := do
  let (size, pos, ok) ← readLenEncInt data pos
  if !ok then return (.nil, 0, false)
  readBytes data pos size.toInt64

/-- `readLenEncString`: the same bytes as a string. -/
def readLenEncString (data : Slice UInt8) (pos : Int64) :
    Except Panic (List UInt8 × Int64 × Bool) :=
  (readLenEncStringAsBytes data pos).map fun (s, p, ok) => (s.toList, p, ok)

/-- `skipLenEncString`: the bounds test of `readLenEncString`, without the subslice. -/
def skipLenEncString (data : Slice UInt8) (pos : Int64) : Except Panic (Int64 × Bool) := do
  let (size, pos, ok) ← readLenEncInt data pos
  if !ok then return (0, false)
  let s := size.toInt64
  if pos + s - 1 ≥ data.len then return (0, false)
  return (pos + s, true)

/-- `readLenEncStringAsBytesCopy`: the buffer is made with the unsigned length, the bytes are
copied from the subslice at `int(size)`. -/
def readLenEncStringAsBytesCopy (data : Slice UInt8) (pos : Int64) :
    Except Panic (Slice UInt8 × Int64 × Bool) := do
  let (size, pos, ok) ← readLenEncInt data pos
  if !ok then return (.nil, 0, false)
  let s := size.toInt64
  if pos + s - 1 ≥ data.len then return (.nil, 0, false)
  let result ← make 0 size.toNat
  let src ← data.slice pos (pos + s)
  return (copy result src, pos + s, true)

/-! ## What each decoder returns -/

section Decoders

variable {data : Slice UInt8} {pos : Int64}

/-- A small count added to a position of the packet does not overflow `int`. -/
theorem toInt_add_ofNat {x : Int64} {n : Nat} (h0 : 0 ≤ x.toInt) (hx : x.toInt ≤ 2 ^ 48)
    (hn : n ≤ 2 ^ 48) : (x + Int64.ofNat n).toInt = x.toInt + n := by
  have hn' : (Int64.ofNat n).toInt = n := Int64.toInt_ofNat_of_lt (by omega)
  rw [Int64.toInt_add_of_bounds (by omega) (by omega), hn']

theorem readByte_of_lt (h0 : 0 ≤ pos.toInt) (hlt : pos.toInt < data.toList.length) :
    readByte data pos = .ok (data.toList.get ⟨pos.toInt.toNat, by omega⟩, pos + 1, true) := by
  rw [readByte, if_neg (by simp only [ge_iff_le, Slice.len_le_iff]; omega),
    index_of_lt data pos h0 hlt]
  rfl

theorem readByte_of_le (h : (data.toList.length : Int) ≤ pos.toInt) :
    readByte data pos = .ok (0, 0, false) := by
  rw [readByte, if_pos (by simpa only [ge_iff_le, Slice.len_le_iff] using h)]

/-- `readByte` reports `ok` only for a byte of the packet, and moves past it. -/
theorem readByte_ok_inv {b : UInt8} {p : Int64} (h : readByte data pos = .ok (b, p, true)) :
    0 ≤ pos.toInt ∧ pos.toInt < data.toList.length ∧ p.toInt = pos.toInt + 1 := by
  by_cases hi : 0 ≤ pos.toInt ∧ pos.toInt < data.toList.length
  · rw [readByte_of_lt hi.1 hi.2] at h
    cases h
    have hlen := data.length_le_maxAlloc
    exact ⟨hi.1, hi.2, Int64.toInt_add_one_of_lt (by omega)⟩
  · unfold readByte at h
    split at h
    · cases h
    · rw [index_of_not_lt data pos hi] at h
      cases h

/-- Where `pos + size` stays inside `int`, the end of the read and its last byte are the
integers they look like. -/
theorem toInt_end (x size : Int64) (hlo : -2 ^ 63 < x.toInt + size.toInt)
    (hhi : x.toInt + size.toInt < 2 ^ 63) :
    (x + size).toInt = x.toInt + size.toInt ∧
      (x + size - 1).toInt = x.toInt + size.toInt - 1 := by
  have hend : (x + size).toInt = x.toInt + size.toInt :=
    Int64.toInt_add_of_bounds (by omega) hhi
  exact ⟨hend, by rw [Int64.toInt_sub_one_of_lt (by omega), hend]⟩

/-- Where `pos + size` overflows `int`, the end of the read and its last byte wrap to
negative values. -/
theorem toInt_end_of_overflow (x size : Int64) (hov : 2 ^ 63 < x.toInt + size.toInt) :
    (x + size).toInt = x.toInt + size.toInt - 2 ^ 64 ∧
      (x + size - 1).toInt = x.toInt + size.toInt - 2 ^ 64 - 1 := by
  have hend : (x + size).toInt = x.toInt + size.toInt - 2 ^ 64 :=
    Int64.toInt_add_of_le (by omega)
  exact ⟨hend, by rw [Int64.toInt_sub_one_of_lt (by omega), hend]⟩

theorem readBytes_of_le {size : Int64} (h0 : 0 ≤ pos.toInt) (hs : 0 ≤ size.toInt)
    (hle : pos.toInt + size.toInt ≤ data.toList.length) :
    ∃ s, readBytes data pos size = .ok (s, pos + size, true) ∧
      s.toList = (data.toList.take (pos + size).toInt.toNat).drop pos.toInt.toNat := by
  have hlen := data.length_le_maxAlloc
  obtain ⟨hend, hlast⟩ := toInt_end pos size (by omega) (by omega)
  obtain ⟨s, hs', hlist⟩ := slice_of_le data pos (pos + size) h0 (by omega) (by omega)
  refine ⟨s, ?_, hlist⟩
  rw [readBytes, if_neg (by simp only [ge_iff_le, Slice.len_le_iff]; omega), hs']
  rfl

theorem readBytes_of_gt {size : Int64} (h0 : 0 ≤ pos.toInt) (hs : 0 ≤ size.toInt)
    (hov : pos.toInt + size.toInt < 2 ^ 63) (hgt : data.toList.length < pos.toInt + size.toInt) :
    readBytes data pos size = .ok (.nil, 0, false) := by
  obtain ⟨-, hlast⟩ := toInt_end pos size (by omega) hov
  rw [readBytes, if_pos (by simp only [ge_iff_le, Slice.len_le_iff]; omega)]

/-- `readBytes` reports `ok` only for bytes of the packet, and moves past them. -/
theorem readBytes_ok_inv {size : Int64} {s : Slice UInt8} {p : Int64}
    (h : readBytes data pos size = .ok (s, p, true)) :
    0 ≤ pos.toInt ∧ pos.toInt ≤ p.toInt ∧ p.toInt ≤ data.toList.length ∧ p = pos + size := by
  unfold readBytes at h
  split at h
  · cases h
  · by_cases hb : 0 ≤ pos.toInt ∧ pos.toInt ≤ (pos + size).toInt ∧
        (pos + size).toInt ≤ data.toList.length
    · obtain ⟨t, ht, -⟩ := slice_of_le data pos (pos + size) hb.1 hb.2.1 hb.2.2
      rw [ht] at h
      cases h
      exact ⟨hb.1, hb.2.1, hb.2.2, rfl⟩
    · rw [slice_of_not_le data pos (pos + size) hb] at h
      cases h

theorem readBytesCopy_of_le {size : Int64} (h0 : 0 ≤ pos.toInt) (hs : 0 ≤ size.toInt)
    (hle : pos.toInt + size.toInt ≤ data.toList.length) :
    ∃ s, readBytesCopy data pos size = .ok (s, pos + size, true) ∧
      s.toList = (data.toList.take (pos + size).toInt.toNat).drop pos.toInt.toNat := by
  have hlen := data.length_le_maxAlloc
  obtain ⟨hend, hlast⟩ := toInt_end pos size (by omega) (by omega)
  obtain ⟨src, hsrc, hlist⟩ := slice_of_le data pos (pos + size) h0 (by omega) (by omega)
  obtain ⟨dst, hdst, hdlen⟩ := make_of_le (0 : UInt8) size.toInt hs (by simp only [maxAlloc]; omega)
  have hcopy : (copy dst src).toList = src.toList :=
    copy_of_length_eq (by rw [hdlen, length_slice hsrc]; omega)
  refine ⟨copy dst src, ?_, hcopy.trans hlist⟩
  rw [readBytesCopy, if_neg (by simp only [ge_iff_le, Slice.len_le_iff]; omega), hdst,
    Except.ok_bind, hsrc]
  rfl

theorem readBytesCopy_of_gt {size : Int64} (h0 : 0 ≤ pos.toInt) (hs : 0 ≤ size.toInt)
    (hov : pos.toInt + size.toInt < 2 ^ 63) (hgt : data.toList.length < pos.toInt + size.toInt) :
    readBytesCopy data pos size = .ok (.nil, 0, false) := by
  obtain ⟨-, hlast⟩ := toInt_end pos size (by omega) hov
  rw [readBytesCopy, if_pos (by simp only [ge_iff_le, Slice.len_le_iff]; omega)]

/-- `readBytesCopy` reports `ok` only for bytes of the packet, and moves past them. -/
theorem readBytesCopy_ok_inv {size : Int64} {s : Slice UInt8} {p : Int64}
    (h : readBytesCopy data pos size = .ok (s, p, true)) :
    0 ≤ pos.toInt ∧ pos.toInt ≤ p.toInt ∧ p.toInt ≤ data.toList.length ∧ p = pos + size := by
  unfold readBytesCopy at h
  split at h
  · cases h
  · cases hm : make (0 : UInt8) size.toInt with
    | error e => rw [hm] at h; cases h
    | ok dst =>
      rw [hm, Except.ok_bind] at h
      by_cases hb : 0 ≤ pos.toInt ∧ pos.toInt ≤ (pos + size).toInt ∧
          (pos + size).toInt ≤ data.toList.length
      · obtain ⟨t, ht, -⟩ := slice_of_le data pos (pos + size) hb.1 hb.2.1 hb.2.2
        rw [ht] at h
        cases h
        exact ⟨hb.1, hb.2.1, hb.2.2, rfl⟩
      · rw [slice_of_not_le data pos (pos + size) hb] at h
        cases h

/-- A negative size passes the bounds test of `readBytesCopy`, unless its end wraps, and
`make` is then asked for a negative length. -/
theorem readBytesCopy_of_neg {size : Int64}
    (hle : pos.toInt ≤ data.toList.length) (hs : size.toInt < 0)
    (hmin : -2 ^ 63 < pos.toInt + size.toInt) :
    readBytesCopy data pos size = .error .makeSliceLenOutOfRange := by
  have hlen := data.length_le_maxAlloc
  obtain ⟨-, hlast⟩ := toInt_end pos size hmin (by omega)
  rw [readBytesCopy, if_neg (by simp only [ge_iff_le, Slice.len_le_iff]; omega),
    make_of_neg _ _ hs]
  rfl

/-- A size whose end overflows `int` passes the bounds test of `readBytesCopy`, which then
asks `make` for more than one allocation can hold. -/
theorem readBytesCopy_of_overflow {size : Int64} (hle : pos.toInt ≤ data.toList.length)
    (hov : 2 ^ 63 < pos.toInt + size.toInt) :
    readBytesCopy data pos size = .error .makeSliceLenOutOfRange := by
  have hlen := data.length_le_maxAlloc
  have hsize := size.toInt_lt
  obtain ⟨-, hlast⟩ := toInt_end_of_overflow pos size hov
  rw [readBytesCopy, if_neg (by simp only [ge_iff_le, Slice.len_le_iff]; omega), make,
    dif_neg (by simp only [maxAlloc]; omega)]
  rfl

theorem readNullString_of_gt (h : (data.toList.length : Int) < pos.toInt) :
    readNullString data pos = .error .sliceBoundsOutOfRange := by
  rw [readNullString, Slice.sliceFrom,
    slice_of_not_le data pos data.len (by simp only [Slice.toInt_len]; omega)]
  rfl

/-- From a position of the packet, `readNullString` fails or moves past a zero byte of the
packet. -/
theorem readNullString_spec (h0 : 0 ≤ pos.toInt) (hle : pos.toInt ≤ data.toList.length) :
    readNullString data pos = .ok ([], 0, false) ∨
      ∃ s p, readNullString data pos = .ok (s, p, true) ∧ pos.toInt < p.toInt ∧
        p.toInt ≤ data.toList.length := by
  have hlen := data.length_le_maxAlloc
  obtain ⟨rest, hrest, hlist⟩ :=
    slice_of_le data pos data.len h0 (by simpa only [Slice.toInt_len] using hle)
      (by simp only [Slice.toInt_len]; omega)
  have hrlen : (rest.toList.length : Int) = data.toList.length - pos.toInt := by
    rw [hlist, List.length_drop, List.length_take]
    simp only [Slice.toInt_len, Int.toNat_natCast]
    omega
  simp only [readNullString, Slice.sliceFrom, hrest, Except.ok_bind]
  rcases indexByte_cases rest 0 with he | ⟨i, hi, he⟩
  · rw [he, if_pos rfl]
    exact .inl rfl
  · have hi' : (Int64.ofNat i).toInt = i := Int64.toInt_ofNat_of_lt (by omega)
    have hne : Int64.ofNat i ≠ -1 := fun h => by
      have hm : (-1 : Int64).toInt = -1 := by decide
      have := congrArg Int64.toInt h
      omega
    have hend : (pos + Int64.ofNat i).toInt = pos.toInt + i :=
      toInt_add_ofNat h0 (by omega) (by omega)
    have hnext : (pos + Int64.ofNat i + 1).toInt = pos.toInt + i + 1 := by
      rw [Int64.toInt_add_one_of_lt (by omega), hend]
    obtain ⟨s, hs, -⟩ := slice_of_le data pos (pos + Int64.ofNat i) h0 (by omega) (by omega)
    rw [he, if_neg hne, hs, Except.ok_bind]
    exact .inr ⟨_, _, rfl, by omega, by omega⟩

/-- `readNullString` reports `ok` only after a zero byte of the packet. -/
theorem readNullString_ok_inv {s : List UInt8} {p : Int64}
    (h : readNullString data pos = .ok (s, p, true)) :
    0 ≤ pos.toInt ∧ pos.toInt < p.toInt ∧ p.toInt ≤ data.toList.length := by
  by_cases hb : 0 ≤ pos.toInt ∧ pos.toInt ≤ data.toList.length
  · rcases readNullString_spec hb.1 hb.2 with hf | ⟨s', p', hok, hlt, hle⟩
    · rw [hf] at h
      cases h
    · rw [hok] at h
      cases h
      exact ⟨hb.1, hlt, hle⟩
  · rw [readNullString, Slice.sliceFrom,
      slice_of_not_le data pos data.len (by simp only [Slice.toInt_len]; omega)] at h
    cases h

theorem readFixed_of_le {n : Nat} (h0 : 0 ≤ pos.toInt) (hn1 : 1 ≤ n) (hn : n ≤ 8)
    (hle : pos.toInt + n ≤ data.toList.length) :
    readFixed n data pos = .ok (littleEndian
      ((data.toList.take (pos.toInt.toNat + n)).drop pos.toInt.toNat), pos + Int64.ofNat n, true) := by
  have hlen := data.length_le_maxAlloc
  have hlast : (pos + Int64.ofNat (n - 1)).toInt = pos.toInt + (n - 1 : Nat) :=
    toInt_add_ofNat h0 (by omega) (by omega)
  have hend : (pos + Int64.ofNat n).toInt = pos.toInt + n := toInt_add_ofNat h0 (by omega) (by omega)
  obtain ⟨s, hs, hlist⟩ := slice_of_le data pos (pos + Int64.ofNat n) h0 (by omega) (by omega)
  have htake : (pos + Int64.ofNat n).toInt.toNat = pos.toInt.toNat + n := by omega
  rw [readFixed, if_neg (by simp only [ge_iff_le, Slice.len_le_iff]; omega), hs, Except.ok_bind,
    hlist, htake]
  rfl

/-- Indexing the packet at `pos + s`, `pos + s + 1`, ... reads the `n` bytes from `pos + s`. -/
theorem mapM_index_range' (h0 : 0 ≤ pos.toInt) : ∀ (s n : Nat),
    pos.toInt + s + n ≤ data.toList.length →
    (List.range' s n).mapM (fun i => data.index (pos + Int64.ofNat i)) =
      .ok ((data.toList.drop (pos.toInt.toNat + s)).take n)
  | _, 0, _ => by simp
  | s, n + 1, hle => by
    have hlen := data.length_le_maxAlloc
    have hend : (pos + Int64.ofNat s).toInt = pos.toInt + s :=
      toInt_add_ofNat h0 (by omega) (by omega)
    have hidx : (pos + Int64.ofNat s).toInt.toNat = pos.toInt.toNat + s := by omega
    -- the byte at `pos + s` heads the bytes from there
    have hcons : data.toList.drop (pos.toInt.toNat + s) =
        data.toList[pos.toInt.toNat + s] :: data.toList.drop (pos.toInt.toNat + (s + 1)) :=
      List.drop_eq_getElem_cons (by omega)
    rw [List.range'_succ, List.mapM_cons, index_of_lt data _ (by omega) (by omega), Except.ok_bind,
      mapM_index_range' h0 (s + 1) n (by omega), Except.ok_bind, hcons, List.take_succ_cons]
    simp only [List.get_eq_getElem, hidx]
    rfl

/-- The `n` bytes after a position, up to the end of the packet, read as one little-endian
value. -/
theorem readAfter_eq {n : Nat} (h0 : 0 ≤ pos.toInt) (hlt : pos.toInt + n < data.toList.length) :
    readAfter data pos n =
      .ok (UInt64.ofNat (littleEndian ((data.toList.drop (pos.toInt.toNat + 1)).take n))) := by
  rw [readAfter, mapM_index_range' h0 1 n (by omega), Except.ok_bind]
  rfl

/-- The bytes after a position, up to the end of the packet, can all be read by index. -/
theorem readAfter_ok {n : Nat} (h0 : 0 ≤ pos.toInt)
    (hlt : pos.toInt + n < data.toList.length) : ∃ v, readAfter data pos n = .ok v :=
  ⟨_, readAfter_eq h0 hlt⟩

/-- From a byte of the packet, a marker case of `readLenEncInt` fails or moves past the `n`
bytes after it. -/
theorem readLenEncTail_spec {n : Nat} (h0 : 0 ≤ pos.toInt) (hlt : pos.toInt < data.toList.length)
    (hn : n ≤ 8) :
    readLenEncTail data pos n = .ok (0, 0, false) ∨
      ∃ v p, readLenEncTail data pos n = .ok (v, p, true) ∧ p.toInt = pos.toInt + n + 1 ∧
        p.toInt ≤ data.toList.length := by
  have hlen := data.length_le_maxAlloc
  have hn' : (pos + Int64.ofNat n).toInt = pos.toInt + n := toInt_add_ofNat h0 (by omega) (by omega)
  have hn1 : (pos + Int64.ofNat (n + 1)).toInt = pos.toInt + n + 1 := by
    rw [toInt_add_ofNat h0 (by omega) (by omega)]
    omega
  by_cases hfit : pos.toInt + n < data.toList.length
  · obtain ⟨v, hv⟩ := readAfter_ok h0 hfit
    rw [readLenEncTail, if_neg (by simp only [ge_iff_le, Slice.len_le_iff]; omega), hv,
      Except.ok_bind]
    exact .inr ⟨v, _, rfl, hn1, by omega⟩
  · rw [readLenEncTail, if_pos (by simp only [ge_iff_le, Slice.len_le_iff]; omega)]
    exact .inl rfl

/-- From a position of the packet, `readLenEncInt` fails or moves forward within the packet. -/
theorem readLenEncInt_spec (h0 : 0 ≤ pos.toInt) (hle : pos.toInt ≤ data.toList.length) :
    readLenEncInt data pos = .ok (0, 0, false) ∨
      ∃ v p, readLenEncInt data pos = .ok (v, p, true) ∧ pos.toInt < p.toInt ∧
        p.toInt ≤ data.toList.length := by
  have hlen := data.length_le_maxAlloc
  by_cases hlt : pos.toInt < data.toList.length
  · -- each marker case moves past its bytes
    have htail : ∀ n, n ≤ 8 →
        readLenEncTail data pos n = .ok (0, 0, false) ∨
          ∃ v p, readLenEncTail data pos n = .ok (v, p, true) ∧ pos.toInt < p.toInt ∧
            p.toInt ≤ data.toList.length := fun n hn => by
      rcases readLenEncTail_spec h0 hlt hn with hf | ⟨v, p, hok, hp, hple⟩
      · exact .inl hf
      · exact .inr ⟨v, p, hok, by omega, hple⟩
    rw [readLenEncInt, if_neg (by simp only [ge_iff_le, Slice.len_le_iff]; omega),
      index_of_lt data pos h0 hlt, Except.ok_bind]
    split_ifs
    · exact htail 2 (by decide)
    · exact htail 3 (by decide)
    · exact htail 8 (by decide)
    · exact .inr ⟨_, _, rfl, by rw [Int64.toInt_add_one_of_lt (by omega)]; omega,
        by rw [Int64.toInt_add_one_of_lt (by omega)]; omega⟩
  · rw [readLenEncInt, if_pos (by simp only [ge_iff_le, Slice.len_le_iff]; omega)]
    exact .inl rfl

/-- `readLenEncInt` reports `ok` only for bytes of the packet. -/
theorem readLenEncInt_ok_inv {v : UInt64} {p : Int64}
    (h : readLenEncInt data pos = .ok (v, p, true)) :
    0 ≤ pos.toInt ∧ pos.toInt < p.toInt ∧ p.toInt ≤ data.toList.length := by
  by_cases hb : 0 ≤ pos.toInt ∧ pos.toInt ≤ data.toList.length
  · rcases readLenEncInt_spec hb.1 hb.2 with hf | ⟨v', p', hok, hlt, hle⟩
    · rw [hf] at h
      cases h
    · rw [hok] at h
      cases h
      exact ⟨hb.1, hlt, hle⟩
  · unfold readLenEncInt at h
    split at h
    · cases h
    · rw [index_of_not_lt data pos (by simp only [ge_iff_le, Slice.len_le_iff] at *; omega)] at h
      cases h

/-! ## Safe decoders -/

/-- A decoder run at `pos` returns without a panic, and when it reports `ok` its new position
lies between `pos` and `len(data)`. -/
def Decodes {β : Type} (data : Slice UInt8) (pos : Int64) (r : Except Panic (β × Int64 × Bool)) :
    Prop :=
  ∃ v p ok, r = .ok (v, p, ok) ∧ (ok = true → pos.toInt ≤ p.toInt ∧ p.toInt ≤ data.toList.length)

theorem decodes_of_fail {β : Type} {r : Except Panic (β × Int64 × Bool)} {v : β}
    (h : r = .ok (v, 0, false)) : Decodes data pos r :=
  ⟨v, 0, false, h, fun h => by cases h⟩

theorem decodes_of_ok {β : Type} {r : Except Panic (β × Int64 × Bool)} {v : β} {p : Int64}
    (h : r = .ok (v, p, true)) (hlo : pos.toInt ≤ p.toInt) (hhi : p.toInt ≤ data.toList.length) :
    Decodes data pos r :=
  ⟨v, p, true, h, fun _ => ⟨hlo, hhi⟩⟩

theorem readByte_decodes (h0 : 0 ≤ pos.toInt) : Decodes data pos (readByte data pos) := by
  by_cases hlt : pos.toInt < data.toList.length
  · have hlen := data.length_le_maxAlloc
    exact decodes_of_ok (readByte_of_lt h0 hlt)
      (by rw [Int64.toInt_add_one_of_lt (by omega)]; omega)
      (by rw [Int64.toInt_add_one_of_lt (by omega)]; omega)
  · exact decodes_of_fail (readByte_of_le (by omega))

theorem readNullString_decodes (h0 : 0 ≤ pos.toInt) (hle : pos.toInt ≤ data.toList.length) :
    Decodes data pos (readNullString data pos) := by
  rcases readNullString_spec h0 hle with hf | ⟨s, p, hok, hlt, hple⟩
  · exact decodes_of_fail hf
  · exact decodes_of_ok hok (by omega) hple

theorem readLenEncInt_decodes (h0 : 0 ≤ pos.toInt) (hle : pos.toInt ≤ data.toList.length) :
    Decodes data pos (readLenEncInt data pos) := by
  rcases readLenEncInt_spec h0 hle with hf | ⟨v, p, hok, hlt, hple⟩
  · exact decodes_of_fail hf
  · exact decodes_of_ok hok (by omega) hple

/-- `readBytes` is safe for a size that is not negative and whose end does not overflow. -/
theorem readBytes_decodes {size : Int64} (h0 : 0 ≤ pos.toInt) (hs : 0 ≤ size.toInt)
    (hov : pos.toInt + size.toInt < 2 ^ 63) : Decodes data pos (readBytes data pos size) := by
  by_cases hfit : pos.toInt + size.toInt ≤ data.toList.length
  · obtain ⟨hend, -⟩ := toInt_end pos size (by omega) hov
    obtain ⟨s, hs', -⟩ := readBytes_of_le h0 hs hfit
    exact decodes_of_ok hs' (by omega) (by omega)
  · exact decodes_of_fail (readBytes_of_gt h0 hs hov (by omega))

/-- `readBytesCopy` is safe for a size that is not negative and whose end does not overflow. -/
theorem readBytesCopy_decodes {size : Int64} (h0 : 0 ≤ pos.toInt) (hs : 0 ≤ size.toInt)
    (hov : pos.toInt + size.toInt < 2 ^ 63) : Decodes data pos (readBytesCopy data pos size) := by
  by_cases hfit : pos.toInt + size.toInt ≤ data.toList.length
  · obtain ⟨hend, -⟩ := toInt_end pos size (by omega) hov
    obtain ⟨s, hs', -⟩ := readBytesCopy_of_le h0 hs hfit
    exact decodes_of_ok hs' (by omega) (by omega)
  · exact decodes_of_fail (readBytesCopy_of_gt h0 hs hov (by omega))

/-! ## Length-encoded strings -/

section LenEnc

variable {size : UInt64} {p : Int64}

theorem readLenEncStringAsBytes_of_ok (hint : readLenEncInt data pos = .ok (size, p, true)) :
    readLenEncStringAsBytes data pos = readBytes data p size.toInt64 := by
  rw [readLenEncStringAsBytes, hint, Except.ok_bind]
  rfl

/-- `int(size)` for a decoded length: the length itself below `2^63`, negative from there. -/
theorem toInt_lenEnc (size : UInt64) :
    (size.toNat < 2 ^ 63 → size.toInt64.toInt = size.toNat) ∧
      (2 ^ 63 ≤ size.toNat → size.toInt64.toInt = size.toNat - 2 ^ 64) := by
  rw [UInt64.toInt_toInt64]
  constructor
  · intro h
    rw [if_pos h]
  · intro h
    rw [if_neg (by omega)]

/-- The same for `readBytesCopy`, which panics in `make`. -/
theorem readBytesCopy_lenEnc_panics (hle : p.toInt ≤ data.toList.length)
    (hbig : 2 ^ 63 < p.toInt + size.toNat) :
    readBytesCopy data p size.toInt64 = .error .makeSliceLenOutOfRange := by
  have hsize := size.toNat_lt
  by_cases hs : size.toNat < 2 ^ 63
  · have hconv := (toInt_lenEnc size).1 hs
    exact readBytesCopy_of_overflow hle (by omega)
  · have hconv := (toInt_lenEnc size).2 (by omega)
    exact readBytesCopy_of_neg hle (by omega) (by omega)

/-- `readBytes` returns as many bytes as it moves forward. -/
theorem length_readBytes_of_ok {size : Int64} {s : Slice UInt8} {q : Int64}
    (h : readBytes data pos size = .ok (s, q, true)) :
    s.toList.length = (q.toInt - pos.toInt).toNat := by
  unfold readBytes at h
  split at h
  · cases h
  · cases hs : data.slice pos (pos + size) with
    | error e =>
      rw [hs] at h
      cases h
    | ok t =>
      rw [hs] at h
      cases h
      exact length_slice hs

/-- A failed `readBytes` returns the empty slice. -/
theorem readBytes_of_fail {size : Int64} {s : Slice UInt8} {q : Int64}
    (h : readBytes data pos size = .ok (s, q, false)) : s = .nil := by
  unfold readBytes at h
  split at h
  · cases h
    rfl
  · cases hs : data.slice pos (pos + size) with
    | error e =>
      rw [hs] at h
      cases h
    | ok t =>
      rw [hs] at h
      cases h

/-- `readLenEncString` returns the bytes `readLenEncStringAsBytes` returns. -/
theorem readLenEncString_eq_ok {s : List UInt8} {q : Int64} {ok : Bool}
    (h : readLenEncString data pos = .ok (s, q, ok)) :
    ∃ t : Slice UInt8, readLenEncStringAsBytes data pos = .ok (t, q, ok) ∧ t.toList = s := by
  unfold readLenEncString at h
  cases hr : readLenEncStringAsBytes data pos with
  | error e =>
    rw [hr] at h
    cases h
  | ok r =>
    rw [hr] at h
    cases h
    exact ⟨r.1, rfl, rfl⟩

/-- A failed `readLenEncString` returns the empty string. -/
theorem readLenEncString_of_fail {s : List UInt8} {q : Int64}
    (h : readLenEncString data pos = .ok (s, q, false)) : s = [] := by
  obtain ⟨t, ht, rfl⟩ := readLenEncString_eq_ok h
  unfold readLenEncStringAsBytes at ht
  cases hint : readLenEncInt data pos with
  | error e =>
    rw [hint] at ht
    cases ht
  | ok r =>
    obtain ⟨size, p, ok⟩ := r
    rw [hint, Except.ok_bind] at ht
    cases ok with
    | false =>
      cases ht
      rfl
    | true => rw [readBytes_of_fail ht]; rfl

/-- A length-encoded string that is read lies after its length, inside the packet. -/
theorem readLenEncString_ok_inv {s : List UInt8} {q : Int64}
    (h : readLenEncString data pos = .ok (s, q, true)) :
    0 ≤ pos.toInt ∧ pos.toInt + 1 + s.length ≤ data.toList.length := by
  obtain ⟨t, ht, rfl⟩ := readLenEncString_eq_ok h
  unfold readLenEncStringAsBytes at ht
  cases hint : readLenEncInt data pos with
  | error e =>
    rw [hint] at ht
    cases ht
  | ok r =>
    obtain ⟨size, p, ok⟩ := r
    rw [hint, Except.ok_bind] at ht
    cases ok with
    | false => cases ht
    | true =>
      obtain ⟨h0, hlt, -⟩ := readLenEncInt_ok_inv hint
      obtain ⟨-, hpq, hle, -⟩ := readBytes_ok_inv ht
      have hlength := length_readBytes_of_ok ht
      exact ⟨h0, by omega⟩

end LenEnc

end Decoders

end Wescale.Mysql
