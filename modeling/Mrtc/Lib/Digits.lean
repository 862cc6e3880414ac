import Mathlib.Tactic

/-! # Numbers from their digits

A number as the row of its digits to some base, the highest first, behind a leading part.
-/

namespace Digits

open List

def value (base top : Nat) (digits : List Nat) : Nat :=
  digits.foldl (fun n digit => base * n + digit) top

variable {base : Nat} {digits : List Nat} (top : Nat)

@[simp] theorem value_nil : value base top [] = top := rfl

theorem value_cons (digit : Nat) :
    value base top (digit :: digits) = value base (base * top + digit) digits := rfl

theorem add_digit_div {digit : Nat} (h : digit < base) : (base * top + digit) / base = top := by
  have hpos : 0 < base := Nat.zero_lt_of_lt h
  rw [Nat.mul_add_div hpos, Nat.div_eq_of_lt h, Nat.add_zero]

theorem value_div_pow (h : ∀ digit ∈ digits, digit < base) :
    value base top digits / base ^ digits.length = top := by
  induction digits generalizing top with
  | nil => simp
  | cons digit digits ih =>
    rw [value_cons, length_cons, Nat.pow_succ, ← Nat.div_div_eq_div_mul, ih _ fun d hd => h d
      (mem_cons_of_mem _ hd), add_digit_div _ (h digit mem_cons_self)]

theorem value_digit {i : Nat} {digit : Nat} (h : ∀ digit ∈ digits, digit < base)
    (hi : digits[i]? = some digit) :
    value base top digits / base ^ (digits.length - 1 - i) % base = digit := by
  induction digits generalizing top i with
  | nil => cases hi
  | cons d digits ih =>
    have htail : ∀ digit ∈ digits, digit < base := fun x hx => h x (mem_cons_of_mem _ hx)
    rw [value_cons, length_cons, Nat.add_sub_cancel]
    cases i with
    | zero =>
      obtain rfl : d = digit := Option.some.inj hi
      rw [Nat.sub_zero, value_div_pow _ htail, Nat.mul_add_mod,
        Nat.mod_eq_of_lt (h d mem_cons_self)]
    | succ i => grind

theorem map_range_digit {α : Type*} (f : Nat → α) (h : ∀ digit ∈ digits, digit < base) :
    (range digits.length).map
        (fun i => f (value base top digits / base ^ (digits.length - 1 - i) % base))
      = digits.map f := by
  apply ext_getElem
  · simp
  · intro i hi hi'
    have hlt : i < digits.length := by simpa using hi
    rw [getElem_map, getElem_range, getElem_map,
      value_digit top h (getElem?_eq_getElem hlt)]

theorem value_lt (h : ∀ digit ∈ digits, digit < base) :
    value base top digits < (top + 1) * base ^ digits.length := by
  have hdiv := value_div_pow top h
  have hpos : 0 < base ^ digits.length := by
    cases digits with
    | nil => exact Nat.one_pos
    | cons d digits => exact Nat.pow_pos (Nat.zero_lt_of_lt (h d mem_cons_self))
  rw [← Nat.div_lt_iff_lt_mul hpos, hdiv]
  exact Nat.lt_succ_self top

end Digits
