import Mathlib.Tactic

/-! # Recovering a long counter from its low digits

A counter `n` is sent as `n % M` with `M = 2 * H`; the other side keeps the last value it
saw, `n`, and must recover the next one, `m`, from `m % M`.
-/

namespace Rollover

def rolledOver (H last cur : Nat) : Bool := decide (cur < last) && decide (H < last - cur)

theorem rolledOver_iff (H last cur : Nat) :
    rolledOver H last cur = true ↔ cur < last ∧ H < last - cur := by
  simp [rolledOver]

def guess (H block last cur : Nat) : Nat := if rolledOver H last cur then block + 1 else block

/-- **The guess is exact for every value less than half a range ahead.** -/
theorem div_of_ahead {H n g : Nat} (hg : g < H) :
    guess H (n / (2 * H)) (n % (2 * H)) ((n + g) % (2 * H)) = (n + g) / (2 * H) := by
  have hM : 0 < 2 * H := by omega
  have hr : n % (2 * H) < 2 * H := Nat.mod_lt _ hM
  have hn : n = 2 * H * (n / (2 * H)) + n % (2 * H) := (Nat.div_add_mod n (2 * H)).symm
  set q := n / (2 * H) with hq
  set r := n % (2 * H) with hr'
  unfold guess
  by_cases hc : r + g < 2 * H
  · -- no carry: the low digits went up
    have hsum : n + g = (r + g) + 2 * H * q := by omega
    rw [hsum, Nat.add_mul_mod_self_left, Nat.add_mul_div_left _ _ hM, Nat.mod_eq_of_lt hc,
      Nat.div_eq_of_lt hc, if_neg (by rw [rolledOver_iff]; omega)]
    omega
  · -- carry: they went down by `2 * H - g`, which is more than `H`
    have hsum : n + g = (r + g - 2 * H) + 2 * H * (q + 1) := by
      rw [Nat.mul_add]; omega
    have hlt : r + g - 2 * H < 2 * H := by omega
    rw [hsum, Nat.add_mul_mod_self_left, Nat.add_mul_div_left _ _ hM, Nat.mod_eq_of_lt hlt,
      Nat.div_eq_of_lt hlt, if_pos (by rw [rolledOver_iff]; omega)]
    omega

theorem not_rolledOver_of_same_block {H n d : Nat} (hd : d ≤ H) (hdn : d ≤ n)
    (hb : (n - d) / (2 * H) = n / (2 * H)) :
    rolledOver H (n % (2 * H)) ((n - d) % (2 * H)) = false := by
  rw [Bool.eq_false_iff, Ne, rolledOver_iff]
  have h1 := Nat.div_add_mod n (2 * H)
  have h2 := Nat.div_add_mod (n - d) (2 * H)
  rw [hb] at h2
  omega

theorem not_rolledOver_of_earlier_block {H n d : Nat} (hd : d ≤ H) (hdn : d ≤ n)
    (hb : (n - d) / (2 * H) < n / (2 * H)) :
    rolledOver H (n % (2 * H)) ((n - d) % (2 * H)) = false := by
  rw [Bool.eq_false_iff, Ne, rolledOver_iff]
  have h1 := Nat.div_add_mod n (2 * H)
  have h2 := Nat.div_add_mod (n - d) (2 * H)
  have h3 : 2 * H * ((n - d) / (2 * H) + 1) ≤ 2 * H * (n / (2 * H)) :=
    Nat.mul_le_mul_left _ hb
  have h4 : n % (2 * H) ≤ 2 * H := by
    rcases Nat.eq_zero_or_pos H with h0 | h0
    · subst h0; simp at hb
    · exact (Nat.mod_lt _ (by omega)).le
  rw [Nat.mul_add] at h3
  omega

end Rollover
