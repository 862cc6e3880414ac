import Mathlib.Data.List.Basic
import Mathlib.Algebra.Order.Ring.Int

/-! # Averages of samples between successive events

An estimator takes one sample from every two successive events and keeps a moving average that
rounds down.
-/

namespace Samples

section

variable {α : Type} (f : α → α → Int)

def between : List α → List Int
  | [] => []
  | [_] => []
  | a :: b :: l => f a b :: between (b :: l)

theorem between_concat (l : List α) (a b : α) :
    between f (l ++ [a] ++ [b]) = between f (l ++ [a]) ++ [f a b] := by
  induction l with
  | nil => rfl
  | cons c l ih =>
    cases l with
    | nil => rfl
    | cons d l =>
      exact congrArg (f c d :: ·) ih

end

def largest (xs : List Int) : Int := xs.foldl max 0

theorem largest_concat (xs : List Int) (x : Int) : largest (xs ++ [x]) = max (largest xs) x := by
  rw [largest, List.foldl_append]
  rfl

def average (w : Nat) (e x : Int) : Int := (e * w + x).tdiv (w + 1)

variable {w : Nat} {e x : Int}

theorem average_nonneg (he : 0 ≤ e) (hx : 0 ≤ x) : 0 ≤ average w e x :=
  Int.tdiv_nonneg (Int.add_nonneg (Int.mul_nonneg he (Int.natCast_nonneg w)) hx) (by omega)

theorem average_le_max (he : 0 ≤ e) (hx : 0 ≤ x) : average w e x ≤ max e x := by
  have hw : (0 : Int) ≤ w := Int.natCast_nonneg w
  have hsum : e * w + x ≤ max e x * (w + 1) := calc
    e * w + x ≤ max e x * w + max e x :=
      Int.add_le_add (Int.mul_le_mul_of_nonneg_right (Int.le_max_left e x) hw)
        (Int.le_max_right e x)
    _ = max e x * (w + 1) := (mul_add_one _ _).symm
  have hnonneg : 0 ≤ e * w + x := Int.add_nonneg (Int.mul_nonneg he hw) hx
  rw [average, Int.tdiv_eq_ediv_of_nonneg hnonneg]
  exact Int.ediv_le_of_le_mul (by omega) hsum

theorem average_le_largest (he : 0 ≤ e) (hx : 0 ≤ x) {xs : List Int} (hle : e ≤ largest xs) :
    average w e x ≤ largest (xs ++ [x]) := by
  rw [largest_concat]
  exact (average_le_max he hx).trans (max_le_max hle (Int.le_refl x))

end Samples
