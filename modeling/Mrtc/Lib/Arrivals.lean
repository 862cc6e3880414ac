import Mathlib.Data.List.GetD
import Mathlib.Data.Set.Card
import Mathlib.Order.Interval.Finset.Nat

/-! # Numbers that arrive out of order

The elements of a stream are numbered and arrive in some order, some of them not at all and some
more than once.
-/

namespace Arrivals

open List

def missed (start : Nat) (xs : List Nat) : Set Nat :=
  {n | start ≤ n ∧ ∃ before x, before ++ [x] <+: xs ∧ n < x ∧ n ∉ before}

def highest (first : Nat) (xs : List Nat) : Nat := xs.foldl max first

def overcounted : (highest last : Nat) → List Nat → Nat
  | _, _, [] => 0
  | h, last, x :: xs => (min h (x - 1) - last) + overcounted (max h x) x xs

variable {start first x n : Nat} {xs : List Nat}

theorem highest_concat : highest first (xs ++ [x]) = max (highest first xs) x := by
  rw [highest, foldl_append]
  rfl

theorem overcounted_concat (h last : Nat) (xs : List Nat) (x : Nat) :
    overcounted h last (xs ++ [x])
      = overcounted h last xs + (min (highest h xs) (x - 1) - xs.getLastD last) := by
  induction xs generalizing h last with
  | nil => simp [overcounted, highest]
  | cons y ys ih =>
    rw [cons_append, overcounted, ih, overcounted, getLastD_cons, Nat.add_assoc]
    rfl

theorem highest_mem (first : Nat) (xs : List Nat) : highest first xs ∈ first :: xs := by
  induction xs using List.reverseRecOn with
  | nil => exact mem_cons_self
  | append_singleton xs x ih =>
    rw [highest_concat]
    rcases max_choice (highest first xs) x with hmax | hmax
    · rw [hmax]
      exact mem_append_left [x] ih
    · rw [hmax]
      exact mem_cons_of_mem first mem_concat_self

theorem le_highest (hn : n ∈ first :: xs) : n ≤ highest first xs := by
  induction xs using List.reverseRecOn with
  | nil => exact (mem_singleton.mp hn).le
  | append_singleton xs x ih =>
    rw [highest_concat]
    rw [← cons_append, mem_append, mem_singleton] at hn
    rcases hn with hold | rfl
    · exact (ih hold).trans (le_max_left _ _)
    · exact le_max_right _ _

theorem getLastD_le_highest (first : Nat) (xs : List Nat) : xs.getLastD first ≤ highest first xs := by
  refine le_highest ?_
  rw [← getLast_eq_getLastD]
  exact getLast_mem (cons_ne_nil first xs)

/-! ## How many are missed -/

theorem missed_concat (start : Nat) (xs : List Nat) (x : Nat) :
    missed start (xs ++ [x]) = missed start xs ∪ {n | start ≤ n ∧ n < x ∧ n ∉ xs} := by
  ext n
  constructor
  · rintro ⟨hstart, before, y, hbefore, hlt, hnot⟩
    rcases prefix_concat_iff.mp hbefore with heq | hold
    · grind [append_singleton_inj]
    · exact .inl ⟨hstart, before, y, hold, hlt, hnot⟩
  · rintro (⟨hstart, before, y, hbefore, hlt, hnot⟩ | ⟨hstart, hlt, hnot⟩)
    · exact ⟨hstart, before, y, hbefore.trans (prefix_append _ _), hlt, hnot⟩
    · exact ⟨hstart, xs, x, prefix_rfl, hlt, hnot⟩

theorem lt_highest_of_missed (h : n ∈ missed start (first :: xs)) : n < highest first xs := by
  obtain ⟨-, before, x, hbefore, hlt, -⟩ := h
  have hx : x ∈ first :: xs := hbefore.subset (mem_append_right before mem_cons_self)
  exact hlt.trans_le (le_highest hx)

theorem missed_of_not_mem (hstart : start ≤ n) (hlt : n < highest first xs)
    (hnot : n ∉ first :: xs) : n ∈ missed start (first :: xs) := by
  obtain ⟨before, after, hsplit⟩ := append_of_mem (highest_mem first xs)
  refine ⟨hstart, before, highest first xs, ⟨after, ?_⟩, hlt, fun hn => hnot ?_⟩
  · rw [hsplit, append_assoc]
    rfl
  · rw [hsplit]
    exact mem_append_left _ hn

theorem finite_missed (start first : Nat) (xs : List Nat) : (missed start (first :: xs)).Finite :=
  (Set.finite_Iio (highest first xs)).subset fun _ hn => lt_highest_of_missed hn

theorem ncard_missed_concat (hstart : start ≤ first) (xs : List Nat) (x : Nat) :
    (missed start (first :: (xs ++ [x]))).ncard
      = (missed start (first :: xs)).ncard + (x - highest first xs - 1) := by
  have hunion : missed start (first :: (xs ++ [x]))
      = missed start (first :: xs) ∪ (Finset.Ioo (highest first xs) x : Set Nat) := by
    rw [← cons_append, missed_concat]
    ext n
    rw [Set.mem_union, Set.mem_union, Finset.coe_Ioo, Set.mem_Ioo]
    constructor
    · grind [lt_trichotomy, missed_of_not_mem, highest_mem]
    · rintro (hold | ⟨habove, hlt⟩)
      · exact .inl hold
      · have hfirst : first ≤ highest first xs := le_highest mem_cons_self
        exact .inr ⟨by omega, hlt, fun hn => absurd (le_highest hn) (by omega)⟩
  have hdisjoint : Disjoint (missed start (first :: xs))
      (Finset.Ioo (highest first xs) x : Set Nat) := by
    rw [Set.disjoint_left]
    intro n hmissed hnew
    rw [Finset.coe_Ioo, Set.mem_Ioo] at hnew
    have hlt := lt_highest_of_missed hmissed
    omega
  rw [hunion, Set.ncard_union_eq hdisjoint (finite_missed start first xs) (Finset.finite_toSet _),
    Set.ncard_coe_finset, Nat.card_Ioo]

theorem ncard_missed_singleton (start first : Nat) :
    (missed start [first]).ncard = first - start := by
  have heq : missed start [first] = (Finset.Ico start first : Set Nat) := by
    have hnil : missed start [] = ∅ := by
      refine Set.eq_empty_of_forall_notMem fun n hn => ?_
      obtain ⟨-, before, x, hbefore, -⟩ := hn
      simp at hbefore
    have hconcat := missed_concat start [] first
    rw [nil_append, hnil, Set.empty_union] at hconcat
    rw [hconcat]
    ext n
    simp
  rw [heq, Set.ncard_coe_finset, Nat.card_Ico]

end Arrivals
