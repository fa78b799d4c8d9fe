import Mathlib
import Wescale.Mysql.OkPacket

/-!
# The writers of `encoding.go`, and a cursor over a packet

`writeByte`, `writeUint32`, `writeZeroes` and `writeNullString` store their bytes into a packet
from a position and return the position after them. As for the writers of the OK packet, each
is modelled by the bytes it stores; `lenNullString` is how many there are for a string.

A decoder reads a packet from a position. `At data pos bs` says that the bytes of the packet
from `pos` to its end are `bs`. Each `_at` lemma runs a decoder with the cursor at `enc ++ rest`,
the bytes its encoder wrote and anything after them, and finds the encoded value with the
cursor moved to `rest` (`At.advance` is the one step all of them end with). A packet written
field after field, `f₁ ++ (f₂ ++ …)`, is read back by chaining the lemmas in the order of the
parser, with no position arithmetic in the chain.
-/

set_option autoImplicit false

namespace Wescale.Mysql

open Go

/-! ## The writers -/

/-- The bytes `writeByte` stores. -/
def writeByte (value : UInt8) : List UInt8 := [value]

/-- The bytes `writeUint32` stores, least significant first. -/
def writeUint32 (value : UInt32) : List UInt8 :=
  [value.toUInt8, (value >>> 8).toUInt8, (value >>> 16).toUInt8, (value >>> 24).toUInt8]

/-- The bytes `writeZeroes` stores. -/
def writeZeroes (len : Nat) : List UInt8 := List.replicate len 0

/-- `lenNullString`. -/
def lenNullString (value : List UInt8) : Nat := value.length + 1

/-- The bytes `writeNullString` stores: the string, then a zero byte. -/
def writeNullString (value : List UInt8) : List UInt8 := value ++ [0]

@[simp] theorem length_writeUint32 (value : UInt32) : (writeUint32 value).length = 4 := rfl

@[simp] theorem length_writeNullString (value : List UInt8) :
    (writeNullString value).length = lenNullString value := by
  simp [writeNullString, lenNullString]

/-- `readEOFString`: the rest of the packet. The position it returns is `len(data) - pos`, the
length of what it read, as the source has it. -/
def readEOFString (data : Slice UInt8) (pos : Int64) : Except Panic (List UInt8 × Int64 × Bool) := do
  let s ← data.sliceFrom pos
  return (s.toList, data.len - pos, true)

theorem littleEndian_writeUint32 (v : UInt32) : littleEndian (writeUint32 v) = v.toNat := by
  have hv := v.toNat_lt
  simp only [writeUint32, littleEndian, UInt32.toNat_toUInt8, UInt32.toNat_shiftRight,
    Nat.shiftRight_eq_div_pow, Nat.reducePow, UInt32.reduceToNat, Nat.reduceMod, Nat.mul_zero,
    Nat.add_zero]
  omega

/-! ## The cursor -/

/-- The bytes of the packet from `pos` to its end are `bs`. -/
structure At (data : Slice UInt8) (pos : Int64) (bs : List UInt8) : Prop where
  nonneg : 0 ≤ pos.toInt
  le_length : pos.toInt ≤ data.toList.length
  drop_eq : data.toList.drop pos.toInt.toNat = bs

namespace At

variable {data : Slice UInt8} {pos p : Int64} {bs enc rest : List UInt8}

/-- The cursor at the start of a packet. -/
theorem start (h : data.toList = bs) : At data 0 bs :=
  ⟨le_refl _, by simp, by simpa using h⟩

/-- What is left from the cursor ends the packet. -/
theorem length_eq (h : At data pos bs) : pos.toInt + bs.length = data.toList.length := by
  have hlen : bs.length = data.toList.length - pos.toInt.toNat := by
    rw [← h.drop_eq, List.length_drop]
  have := h.le_length
  have := h.nonneg
  omega

/-- The packet is what lies before the cursor, then what lies after it. -/
theorem eq_take_append (h : At data pos bs) :
    data.toList = data.toList.take pos.toInt.toNat ++ bs ∧
      ((data.toList.take pos.toInt.toNat).length : Int) = pos.toInt := by
  have := h.le_length
  have := h.nonneg
  refine ⟨by rw [← h.drop_eq, List.take_append_drop], ?_⟩
  rw [List.length_take]
  omega

/-- **The step every read ends with**: a cursor moved past `enc` is at `rest`. -/
theorem advance (h : At data pos (enc ++ rest)) (hp : p.toInt = pos.toInt + enc.length) :
    At data p rest := by
  have hend := h.length_eq
  rw [List.length_append] at hend
  refine ⟨by have := h.nonneg; omega, by omega, ?_⟩
  have hidx : p.toInt.toNat = pos.toInt.toNat + enc.length := by
    have := h.nonneg
    omega
  rw [hidx, ← List.drop_drop, h.drop_eq, List.drop_left]

/-- Moving the cursor by a count: Go's `pos += n`. -/
theorem skip (h : At data pos (enc ++ rest)) : At data (pos + Int64.ofNat enc.length) rest := by
  have hend := h.length_eq
  have hlen := data.length_le_maxAlloc
  rw [List.length_append] at hend
  push_cast at hend
  have := h.nonneg
  exact h.advance (toInt_add_ofNat h.nonneg (by omega) (by omega))

/-- At the end of the packet: Go's `pos == len(data)`. -/
theorem eq_len_iff (h : At data pos bs) : pos = data.len ↔ bs = [] := by
  have hend := h.length_eq
  constructor
  · intro hp
    have hpl : pos.toInt = data.toList.length := by rw [hp, Slice.toInt_len]
    exact List.eq_nil_of_length_eq_zero (by omega)
  · rintro rfl
    apply Int64.toInt_inj.mp
    rw [Slice.toInt_len]
    simpa using hend

end At

/-! ## Each decoder at the cursor -/

section Decoders

variable {data : Slice UInt8} {pos : Int64} {rest : List UInt8}

theorem readByte_at {b : UInt8} (h : At data pos (b :: rest)) :
    ∃ p, readByte data pos = .ok (b, p, true) ∧ At data p rest := by
  obtain ⟨hdata, hpre⟩ := h.eq_take_append
  have hdata' : data.toList = data.toList.take pos.toInt.toNat ++ [b] ++ rest := by
    rw [List.append_assoc, List.singleton_append]
    exact hdata
  obtain ⟨p, hp, hplen⟩ := readByte_of_append hdata' hpre.symm
  refine ⟨p, hp, (show At data pos ([b] ++ rest) from h).advance ?_⟩
  rw [hplen, List.length_append, ← hpre]
  simp

/-- `n` little-endian bytes at the cursor. -/
theorem readFixed_at {bs : List UInt8} (h : At data pos (bs ++ rest)) (hn1 : 1 ≤ bs.length)
    (hn : bs.length ≤ 8) :
    readFixed bs.length data pos = .ok (littleEndian bs, pos + Int64.ofNat bs.length, true) ∧
      At data (pos + Int64.ofNat bs.length) rest := by
  have hend := h.length_eq
  rw [List.length_append] at hend
  push_cast at hend
  refine ⟨?_, h.skip⟩
  rw [readFixed_of_le h.nonneg hn1 hn (by omega), List.drop_take, Nat.add_sub_cancel_left,
    h.drop_eq, List.take_left]

theorem readUint16_at {v : UInt16} (h : At data pos (writeUint16 v ++ rest)) :
    ∃ p, readUint16 data pos = .ok (v, p, true) ∧ At data p rest := by
  obtain ⟨hread, hat⟩ := readFixed_at h (by simp [writeUint16]) (by simp [writeUint16])
  have hw : (writeUint16 v).length = 2 := rfl
  rw [hw] at hread hat
  refine ⟨_, ?_, hat⟩
  rw [readUint16, hread, littleEndian_writeUint16]
  simp only [Except.map, UInt16.ofNat_toNat]

theorem readUint32_at {v : UInt32} (h : At data pos (writeUint32 v ++ rest)) :
    ∃ p, readUint32 data pos = .ok (v, p, true) ∧ At data p rest := by
  obtain ⟨hread, hat⟩ := readFixed_at h (by simp) (by simp)
  rw [length_writeUint32] at hread hat
  refine ⟨_, ?_, hat⟩
  rw [readUint32, hread, littleEndian_writeUint32]
  simp only [Except.map, UInt32.ofNat_toNat]

/-- `readBytes` of as many bytes as lie in front of the cursor, and more. -/
theorem readBytes_at {bs : List UInt8} {size : Int64} (h : At data pos (bs ++ rest))
    (hsize : size.toInt = bs.length) :
    ∃ s p, readBytes data pos size = .ok (s, p, true) ∧ s.toList = bs ∧ At data p rest := by
  have hend := h.length_eq
  have hlen := data.length_le_maxAlloc
  rw [List.length_append] at hend
  push_cast at hend
  have := h.nonneg
  obtain ⟨s, hs, hlist⟩ := @readBytes_of_le data pos size h.nonneg (by omega) (by omega)
  have hto : (pos + size).toInt = pos.toInt + bs.length := by
    rw [(toInt_end pos size (by omega) (by omega)).1, hsize]
  refine ⟨s, pos + size, hs, ?_, h.advance hto⟩
  have hidx : (pos + size).toInt.toNat = pos.toInt.toNat + bs.length := by
    have := h.nonneg
    omega
  rw [hlist, hidx, List.drop_take, Nat.add_sub_cancel_left, h.drop_eq, List.take_left]

theorem readBytesCopy_at {bs : List UInt8} {size : Int64} (h : At data pos (bs ++ rest))
    (hsize : size.toInt = bs.length) :
    ∃ s p, readBytesCopy data pos size = .ok (s, p, true) ∧ s.toList = bs ∧ At data p rest := by
  have hend := h.length_eq
  have hlen := data.length_le_maxAlloc
  rw [List.length_append] at hend
  push_cast at hend
  have := h.nonneg
  obtain ⟨s, hs, hlist⟩ := @readBytesCopy_of_le data pos size h.nonneg (by omega) (by omega)
  have hto : (pos + size).toInt = pos.toInt + bs.length := by
    rw [(toInt_end pos size (by omega) (by omega)).1, hsize]
  refine ⟨s, pos + size, hs, ?_, h.advance hto⟩
  have hidx : (pos + size).toInt.toNat = pos.toInt.toNat + bs.length := by
    have := h.nonneg
    omega
  rw [hlist, hidx, List.drop_take, Nat.add_sub_cancel_left, h.drop_eq, List.take_left]

/-- The first zero byte after a string without one is its terminator. -/
theorem idxOf?_zero_append {s : List UInt8} (hz : 0 ∉ s) :
    (s ++ 0 :: rest).idxOf? 0 = some s.length := by
  rw [List.idxOf?_eq_some_iff]
  refine ⟨by simp, by simp, fun j hj heq => hz ?_⟩
  rw [List.getElem_append_left (by omega)] at heq
  exact heq ▸ List.getElem_mem _

/-- A string without a zero byte, stored by `writeNullString`, reads back. -/
theorem readNullString_at {s : List UInt8} (hz : 0 ∉ s)
    (h : At data pos (writeNullString s ++ rest)) :
    ∃ p, readNullString data pos = .ok (s, p, true) ∧ At data p rest := by
  have hend := h.length_eq
  have hlen := data.length_le_maxAlloc
  simp only [writeNullString, List.append_assoc, List.length_append, List.length_singleton] at hend
  push_cast at hend
  have := h.nonneg
  obtain ⟨tail, htail, hlist⟩ :=
    slice_of_le data pos data.len h.nonneg (by rw [Slice.toInt_len]; exact h.le_length)
      (by rw [Slice.toInt_len])
  have htl : tail.toList = s ++ 0 :: rest := by
    rw [hlist, Slice.toInt_len, Int.toNat_natCast, List.take_length, h.drop_eq, writeNullString,
      List.append_assoc, List.singleton_append]
  -- the first zero byte from the cursor is the terminator
  have hidx : tail.indexByte 0 = Int64.ofNat s.length := by
    rw [Slice.indexByte, htl, idxOf?_zero_append hz]
  have hs : (Int64.ofNat s.length).toInt = s.length := Int64.toInt_ofNat_of_lt (by omega)
  have hne : Int64.ofNat s.length ≠ -1 := fun heq => by
    have hm : (-1 : Int64).toInt = -1 := by decide
    have := congrArg Int64.toInt heq
    omega
  have hend' : (pos + Int64.ofNat s.length).toInt = pos.toInt + s.length :=
    toInt_add_ofNat h.nonneg (by omega) (by omega)
  obtain ⟨sub, hsub, hsublist⟩ :=
    slice_of_le data pos (pos + Int64.ofNat s.length) h.nonneg (by omega) (by omega)
  refine ⟨pos + Int64.ofNat s.length + 1, ?_, h.advance ?_⟩
  · have hval : sub.toList = s := by
      have hi : (pos + Int64.ofNat s.length).toInt.toNat = pos.toInt.toNat + s.length := by
        have := h.nonneg
        omega
      rw [hsublist, hi, List.drop_take, Nat.add_sub_cancel_left, h.drop_eq, writeNullString,
        List.append_assoc, List.take_left]
    rw [readNullString, Slice.sliceFrom, htail, Except.ok_bind, hidx, if_neg hne, hsub,
      Except.ok_bind, hval]
    rfl
  · rw [Int64.toInt_add_one_of_lt (by omega), hend', length_writeNullString, lenNullString]
    omega

/-- At the end of the packet there is no zero byte to end a string. -/
theorem readNullString_at_end (h : At data pos []) : readNullString data pos = .ok ([], 0, false) := by
  obtain ⟨tail, htail, hlist⟩ :=
    slice_of_le data pos data.len h.nonneg (by rw [Slice.toInt_len]; exact h.le_length)
      (by rw [Slice.toInt_len])
  have htl : tail.toList = [] := by
    rw [hlist, Slice.toInt_len, Int.toNat_natCast, List.take_length, h.drop_eq]
  have hidx : tail.indexByte 0 = -1 := by
    rw [Slice.indexByte, htl]
    rfl
  rw [readNullString, Slice.sliceFrom, htail, Except.ok_bind, hidx, if_pos rfl]
  rfl

theorem readLenEncInt_at {i : UInt64} (h : At data pos (getLenEncInt i ++ rest)) :
    ∃ p, readLenEncInt data pos = .ok (i, p, true) ∧ At data p rest := by
  obtain ⟨hdata, hpre⟩ := h.eq_take_append
  obtain ⟨p, hp, hplen⟩ :=
    readLenEncInt_getLenEncInt (show data.toList =
        data.toList.take pos.toInt.toNat ++ getLenEncInt i ++ rest by
      rw [List.append_assoc]; exact hdata) hpre.symm
  refine ⟨p, hp, h.advance ?_⟩
  rw [hplen, List.length_append]
  push_cast
  omega

end Decoders

end Wescale.Mysql
