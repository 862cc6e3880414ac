import Mrtc.Lib.Bytes

/-! # Byte strings as numbers

A byte string read as one number in network byte order.
-/

namespace Net

open List

def bigEndian : Bytes → Nat
  | [] => 0
  | b :: rest => b.toNat * 2 ^ (8 * rest.length) + bigEndian rest

theorem bigEndian_lt (s : Bytes) : bigEndian s < 2 ^ (8 * s.length) := by
  induction s with
  | nil => exact Nat.one_pos
  | cons b rest ih =>
    have hb : b.toNat + 1 ≤ 2 ^ 8 := UInt8.toNat_lt b
    calc bigEndian (b :: rest)
        < b.toNat * 2 ^ (8 * rest.length) + 2 ^ (8 * rest.length) := Nat.add_lt_add_left ih _
      _ = (b.toNat + 1) * 2 ^ (8 * rest.length) := by rw [Nat.add_mul, Nat.one_mul]
      _ ≤ 2 ^ 8 * 2 ^ (8 * rest.length) := Nat.mul_le_mul_right _ hb
      _ = 2 ^ (8 * (b :: rest).length) := by rw [← Nat.pow_add, length_cons]; ring_nf

theorem bigEndian_append (s t : Bytes) :
    bigEndian (s ++ t) = bigEndian s * 2 ^ (8 * t.length) + bigEndian t := by
  induction s with
  | nil => simp [bigEndian]
  | cons b rest ih =>
    rw [cons_append, bigEndian, bigEndian, ih, length_append, Nat.mul_add, Nat.pow_add]
    ring

theorem bigEndian_append_zeros (s : Bytes) (n : Nat) :
    bigEndian (s ++ replicate n 0) = bigEndian s * 2 ^ (8 * n) := by
  induction n with
  | zero => simp
  | succ n ih =>
    rw [replicate_succ', ← append_assoc, bigEndian_append, ih, Nat.mul_assoc,
      ← Nat.pow_add]
    rfl

theorem bigEndian_writeU16 {v : Nat} (h : v < 2 ^ 16) : bigEndian (writeU16 v) = v := by
  simp [bigEndian, writeU16]
  omega

theorem bigEndian_writeU32 {v : Nat} (h : v < 2 ^ 32) : bigEndian (writeU32 v) = v := by
  simp [bigEndian, writeU32]
  omega

/-! ## XOR -/

theorem mul_two_pow_add_xor {k x y : Nat} (a b : Nat) (hx : x < 2 ^ k) (hy : y < 2 ^ k) :
    (a * 2 ^ k + x) ^^^ (b * 2 ^ k + y) = (a ^^^ b) * 2 ^ k + (x ^^^ y) := by
  have hxy : x ^^^ y < 2 ^ k := Nat.xor_lt_two_pow hx hy
  apply Nat.eq_of_testBit_eq
  intro i
  rw [Nat.testBit_xor, Nat.mul_comm a, Nat.mul_comm b, Nat.mul_comm (a ^^^ b),
    Nat.testBit_two_pow_mul_add a hx, Nat.testBit_two_pow_mul_add b hy,
    Nat.testBit_two_pow_mul_add (a ^^^ b) hxy]
  split
  · rw [Nat.testBit_xor]
  · rw [Nat.testBit_xor]

theorem mul_two_pow_xor {k y : Nat} (a : Nat) (hy : y < 2 ^ k) :
    a * 2 ^ k ^^^ y = a * 2 ^ k + y := by
  simpa using mul_two_pow_add_xor a 0 (Nat.two_pow_pos k) hy

theorem bigEndian_zipWith_xor {s t : Bytes} (h : s.length = t.length) :
    bigEndian (List.zipWith (· ^^^ ·) s t) = bigEndian s ^^^ bigEndian t := by
  induction s generalizing t with
  | nil =>
    obtain rfl := length_eq_zero_iff.mp h.symm
    rfl
  | cons b rest ih =>
    cases t with
    | nil => cases h
    | cons c rest' =>
      have hlen : rest.length = rest'.length := Nat.succ.inj h
      have hzip : (List.zipWith (· ^^^ ·) rest rest').length = rest.length := by
        rw [length_zipWith, ← hlen, Nat.min_self]
      have hlt := bigEndian_lt rest'
      rw [zipWith_cons_cons, bigEndian, bigEndian, bigEndian, ih hlen, hzip, ← hlen,
        mul_two_pow_add_xor _ _ (bigEndian_lt rest) (hlen ▸ hlt), UInt8.toNat_xor]

end Net
