import Mathlib.Tactic

/-! # The bits below the highest one

`x ||| x >>> k` doubles the number of one bits at the top of a number, if the highest `k` were all
set.
-/

namespace PowerOfTwo

structure Filled (size k x : Nat) : Prop where
  lt : x < 2 ^ size
  top : ∀ i < size, size ≤ i + k → x.testBit i = true

namespace Filled

variable {size k x : Nat}

theorem of_pos (h : x ≠ 0) : Filled (Nat.log2 x + 1) 1 x := by
  refine ⟨Nat.lt_log2_self, fun i hlt hle => ?_⟩
  rw [show i = Nat.log2 x by omega]
  exact Nat.testBit_log2 h

theorem double (h : Filled size k x) : Filled size (k + k) (x ||| x >>> k) := by
  have hshift : x >>> k < 2 ^ size := (Nat.shiftRight_le x k).trans_lt h.lt
  refine ⟨Nat.or_lt_two_pow h.lt hshift, fun i hlt hle => ?_⟩
  rw [Nat.testBit_or, Nat.testBit_shiftRight, Bool.or_eq_true]
  rcases Nat.lt_or_ge (i + k) size with hlow | hhigh
  · exact .inr (h.top (k + i) (by omega) (by omega))
  · exact .inl (h.top i hlt hhigh)

theorem eq_of_size_le (h : Filled size k x) (hle : size ≤ k) : x = 2 ^ size - 1 := by
  apply Nat.eq_of_testBit_eq
  intro i
  rw [Nat.testBit_two_pow_sub_one]
  rcases Nat.lt_or_ge i size with hlt | hge
  · rw [h.top i hlt (by omega), decide_eq_true hlt]
  · rw [Nat.testBit_lt_two_pow (h.lt.trans_le (Nat.pow_le_pow_right (by decide) hge)),
      decide_eq_false (by omega)]

end Filled

end PowerOfTwo
