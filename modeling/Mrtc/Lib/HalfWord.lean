import Mathlib.Tactic

/-! # The halves of a 32-bit word

Masks and shifts by 16 bits, as arithmetic on the values.
-/

namespace HalfWord

theorem toNat_low (w : UInt32) : (w &&& 0xFFFF).toNat = w.toNat % 2 ^ 16 := by
  rw [UInt32.toNat_and]
  exact Nat.and_two_pow_sub_one_eq_mod w.toNat 16

theorem toNat_shiftRight (w : UInt32) : (w >>> 16).toNat = w.toNat / 2 ^ 16 := by
  rw [UInt32.toNat_shiftRight, Nat.shiftRight_eq_div_pow]
  rfl

theorem toNat_shiftLeft (w : UInt32) : (w <<< 16).toNat = w.toNat % 2 ^ 16 * 2 ^ 16 := by
  rw [UInt32.toNat_shiftLeft, Nat.shiftLeft_eq]
  show w.toNat * 2 ^ 16 % 2 ^ 32 = _
  omega

theorem toNat_mul_or {high low : Nat} (h : low < 2 ^ 16) :
    high * 2 ^ 16 ||| low = high * 2 ^ 16 + low := by
  rw [← Nat.shiftLeft_eq, ← Nat.shiftLeft_add_eq_or_of_lt h]

theorem toNat_join (high low : UInt32) :
    ((high &&& 0xFFFF) <<< 16 ||| (low >>> 16)).toNat
      = high.toNat % 2 ^ 16 * 2 ^ 16 + low.toNat / 2 ^ 16 := by
  have hlow := low.toNat_lt
  rw [UInt32.toNat_or, toNat_shiftLeft, toNat_low, toNat_shiftRight, Nat.mod_mod,
    toNat_mul_or (by omega)]

theorem toNat_high (w : UInt32) : (w &&& 0xFFFF0000).toNat = w.toNat / 2 ^ 16 * 2 ^ 16 := by
  rw [UInt32.toNat_and, ← Nat.shiftRight_eq_div_pow, ← Nat.shiftLeft_eq]
  show w.toNat &&& (2 ^ 16 - 1) <<< 16 = _
  apply Nat.eq_of_testBit_eq
  intro i
  rw [Nat.testBit_and, Nat.testBit_shiftLeft, Nat.testBit_shiftLeft, Nat.testBit_shiftRight,
    Nat.testBit_two_pow_sub_one]
  by_cases hi : 16 ≤ i
  · -- above the mask the word has no bits
    rw [Nat.add_sub_cancel' hi]
    by_cases hlt : i - 16 < 16
    · simp [hi, hlt]
    · have hhigh : w.toNat.testBit i = false :=
        Nat.testBit_lt_two_pow (Nat.lt_of_lt_of_le w.toNat_lt (Nat.pow_le_pow_right (by decide)
          (show 32 ≤ i by omega)))
      simp [hhigh]
  · simp [hi]

theorem toNat_replaceLow (w : UInt32) (low : UInt16) :
    ((w &&& 0xFFFF0000) ||| low.toUInt32).toNat = w.toNat / 2 ^ 16 * 2 ^ 16 + low.toNat := by
  rw [UInt32.toNat_or, toNat_high, UInt16.toNat_toUInt32, toNat_mul_or low.toNat_lt]

end HalfWord
