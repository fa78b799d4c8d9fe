import Mathlib

/-!
# Little-endian byte encodings of naturals

`LittleEndian.encode w n` is the `w` bytes of `n`, least significant first, with the bits above
`8 * w` dropped, and `LittleEndian.decode` reads bytes back into a natural. Every fixed-width
integer of a wire format is one of these: `decode_encode` says a field reads back as its value
modulo `256 ^ w`, so wrap-around is part of the statement.
-/

set_option autoImplicit false

namespace LittleEndian

/-- The `w` bytes of `n`, least significant first. -/
def encode : ℕ → ℕ → List UInt8
  | 0, _ => []
  | w + 1, n => UInt8.ofNat (n % 256) :: encode w (n / 256)

/-- The natural whose bytes, least significant first, are the list. -/
def decode : List UInt8 → ℕ
  | [] => 0
  | b :: bs => b.toNat + 256 * decode bs

@[simp] theorem length_encode (w n : ℕ) : (encode w n).length = w := by
  induction w generalizing n with
  | zero => rfl
  | succ w ih => simp only [encode, List.length_cons, ih]

theorem decode_encode (w n : ℕ) : decode (encode w n) = n % 256 ^ w := by
  induction w generalizing n with
  | zero => rw [encode, decode, pow_zero, Nat.mod_one]
  | succ w ih =>
    have hlow : (UInt8.ofNat (n % 256)).toNat = n % 256 := by
      rw [UInt8.toNat_ofNat']
      exact Nat.mod_mod_of_dvd n (⟨1, rfl⟩ : 2 ^ 8 ∣ 256)
    rw [encode, decode, ih, hlow, pow_succ', Nat.mod_mul]

end LittleEndian
