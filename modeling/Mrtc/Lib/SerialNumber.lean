import Mathlib.Tactic

/-! # Serial numbers

A stream numbers its elements by integers and sends the low `w + 1` bits of each number.
-/

namespace Serial

open List

variable {w : Nat}

def wrap (w : Nat) (i : Int) : BitVec (w + 1) := BitVec.ofInt (w + 1) i

def diff (a b : BitVec (w + 1)) : Int := (a - b).toInt

theorem wrap_sub (i j : Int) : wrap w i - wrap w j = wrap w (i - j) := by
  rw [wrap, wrap, wrap, BitVec.sub_eq_add_neg, ← BitVec.ofInt_neg, ← BitVec.ofInt_add,
    Int.sub_eq_add_neg]

theorem wrap_add_one (i : Int) : wrap w i + 1 = wrap w (i + 1) := by
  simp [wrap, BitVec.ofInt_add]

theorem diff_wrap {i j : Int} (hlow : -2 ^ w ≤ i - j) (hhigh : i - j < 2 ^ w) :
    diff (wrap w i) (wrap w j) = i - j := by
  rw [diff, wrap_sub, wrap, BitVec.toInt_ofInt]
  apply Int.bmod_eq_of_le
  · rw [Nat.pow_succ]
    push_cast
    omega
  · rw [Nat.pow_succ]
    push_cast
    omega

theorem eq_of_wrap_eq {i j : Int} (h : wrap w i = wrap w j) (hlow : -2 ^ w ≤ i - j)
    (hhigh : i - j < 2 ^ w) : i = j := by
  have hdiff := diff_wrap hlow hhigh
  rw [h, diff, BitVec.sub_self, BitVec.toInt_zero] at hdiff
  omega

/-! ## The earliest element -/

section Earliest

variable {α : Type} (before : α → α → Bool)

def earlier (best : Option α) (a : α) : Option α :=
  match best with
  | none => some a
  | some b => if before a b then some a else some b

def earliest (l : List α) : Option α := l.foldl (earlier before) none

variable {before} {index : α → Int}

theorem earliest_mem {l : List α} {a : α} (h : earliest before l = some a) : a ∈ l := by
  induction l using List.reverseRecOn generalizing a with
  | nil => cases h
  | append_singleton l b ih =>
    rw [earliest, foldl_append] at h
    change earlier before (earliest before l) b = some a at h
    unfold earlier at h
    split at h
    · cases h
      exact mem_concat_self
    · grind

theorem earliest_least {l : List α}
    (hbefore : ∀ a ∈ l, ∀ b ∈ l, before a b = true ↔ index a < index b) :
    match earliest before l with
    | none => l = []
    | some a => a ∈ l ∧ ∀ b ∈ l, index a ≤ index b := by
  induction l using List.reverseRecOn with
  | nil => rfl
  | append_singleton l a ih =>
    have hstep : earliest before (l ++ [a]) = earlier before (earliest before l) a := by
      simp [earliest, foldl_append]
    have hleast := ih fun b hb c hc =>
      hbefore b (mem_append_left _ hb) c (mem_append_left _ hc)
    rw [hstep]
    cases hbest : earliest before l with
    | none =>
      rw [hbest] at hleast
      subst hleast
      simp [earlier]
    | some b =>
      rw [hbest] at hleast
      obtain ⟨hmem, hle⟩ := hleast
      have hcompare := hbefore a (by simp) b (mem_append_left _ hmem)
      by_cases hlt : index a < index b
      · simp only [earlier, hcompare.2 hlt, if_true]
        refine ⟨by simp, fun c hc => ?_⟩
        rcases mem_append.1 hc with h | h
        · exact hlt.le.trans (hle c h)
        · rw [mem_singleton.1 h]
      · have hnot : before a b = false := by
          rw [Bool.eq_false_iff]
          exact fun h => hlt (hcompare.1 h)
        simp only [earlier, hnot, Bool.false_eq_true, if_false]
        refine ⟨mem_append_left _ hmem, fun c hc => ?_⟩
        rcases mem_append.1 hc with h | h
        · exact hle c h
        · rw [mem_singleton.1 h]
          omega

end Earliest

end Serial
