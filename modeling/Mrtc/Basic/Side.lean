import Mathlib.Tactic

/-! # The two ends of a connection -/

namespace Mrtc

inductive Side where
  | a
  | b
  deriving DecidableEq

def Side.other : Side → Side
  | .a => .b
  | .b => .a

@[simp] theorem Side.other_other (x : Side) : x.other.other = x := by
  cases x with
  | a => rfl
  | b => rfl

@[simp] theorem Side.other_ne (x : Side) : x.other ≠ x := by
  cases x with
  | a => exact Side.noConfusion
  | b => exact Side.noConfusion

@[simp] theorem Side.ne_other (x : Side) : x ≠ x.other := Ne.symm x.other_ne

theorem Side.eq_or_other (x y : Side) : y = x ∨ y = x.other := by
  cases x with
  | a =>
    cases y with
    | a => exact Or.inl rfl
    | b => exact Or.inr rfl
  | b =>
    cases y with
    | a => exact Or.inr rfl
    | b => exact Or.inl rfl

end Mrtc
