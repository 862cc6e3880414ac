import Mathlib.Data.Finset.Max
import Mathlib.Tactic

/-! # Sliding windows over accepted indices

The purpose of a replay window of width `W`: of the indices presented one after another,
accept each one at most once, and only while it is less than `W` behind the highest index
accepted so far.
-/

namespace Window

def Fresh (W : Nat) (A : Finset Nat) (i : Nat) : Prop := i ∉ A ∧ ∀ a ∈ A, a < i + W

theorem fresh_empty (W i : Nat) : Fresh W ∅ i := ⟨by simp, by simp⟩

variable {A : Finset Nat} {i h : Nat}

theorem fresh_of_above {W : Nat} (hW : 0 < W) (h : ∀ a ∈ A, a < i) : Fresh W A i := by
  refine ⟨fun hi => absurd (h i hi) (lt_irrefl i), fun a ha => ?_⟩
  have := h a ha
  omega

def IsHighest (A : Finset Nat) (h : Nat) : Prop := h ∈ A ∧ ∀ a ∈ A, a ≤ h

theorem fresh_iff {W : Nat} (hh : IsHighest A h) : Fresh W A i ↔ i ∉ A ∧ h < i + W := by
  constructor
  · rintro ⟨hi, hw⟩
    exact ⟨hi, hw h hh.1⟩
  · rintro ⟨hi, hw⟩
    refine ⟨hi, fun a ha => ?_⟩
    have := hh.2 a ha
    omega

theorem isHighest_singleton (i : Nat) : IsHighest {i} i := ⟨by simp, by simp⟩

theorem isHighest_insert_above (hh : IsHighest A h) (hi : h < i) : IsHighest (insert i A) i := by
  refine ⟨Finset.mem_insert_self i A, fun a ha => ?_⟩
  rcases Finset.mem_insert.mp ha with rfl | ha
  · exact le_rfl
  · exact le_trans (hh.2 a ha) hi.le

theorem isHighest_insert_below (hh : IsHighest A h) (hi : i ≤ h) : IsHighest (insert i A) h := by
  refine ⟨Finset.mem_insert_of_mem hh.1, fun a ha => ?_⟩
  rcases Finset.mem_insert.mp ha with rfl | ha
  · exact hi
  · exact hh.2 a ha

theorem IsHighest.unique {h' : Nat} (hh : IsHighest A h) (hh' : IsHighest A h') : h = h' :=
  le_antisymm (hh'.2 h hh.1) (hh.2 h' hh'.1)

end Window
