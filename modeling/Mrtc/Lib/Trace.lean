import Mathlib.Data.List.Basic

/-! # Points and steps of a run

A run of a machine whose steps may fail to return.
-/

namespace Trace

open List

variable {σ ι : Type} (step : σ → ι → Option σ)

def run (s : σ) (is : List ι) : Option σ := is.foldlM step s

def EveryPoint (P : σ → Prop) (s : σ) (is : List ι) : Prop :=
  ∀ before s', before <+: is → run step s before = some s' → P s'

def EveryStep (Q : σ → ι → Prop) (s : σ) (is : List ι) : Prop :=
  ∀ before i s', before ++ [i] <+: is → run step s before = some s' → Q s' i

variable {step} {Inv P : σ → Prop} {Q : σ → ι → Prop} {s s₁ : σ} {i : ι} {is : List ι}

@[simp] theorem run_nil : run step s [] = some s := rfl

theorem run_cons (h : step s i = some s₁) : run step s (i :: is) = run step s₁ is := by
  rw [run, foldlM_cons, h]
  rfl

theorem everyPoint_nil : EveryPoint step P s [] ↔ P s := by
  constructor
  · intro h
    exact h [] s prefix_rfl rfl
  · intro hP before s' hbefore hrun
    obtain rfl := prefix_nil.mp hbefore
    cases hrun
    exact hP

theorem everyStep_nil : EveryStep step Q s [] := by
  intro before i s' hbefore
  cases append_ne_nil_of_right_ne_nil before (cons_ne_nil i [])
    (prefix_nil.mp hbefore)

theorem everyPoint_cons (h : step s i = some s₁) :
    EveryPoint step P s (i :: is) ↔ P s ∧ EveryPoint step P s₁ is := by
  constructor
  · intro hall
    refine ⟨hall [] s ( nil_prefix) rfl, fun before s' hbefore hrun => ?_⟩
    exact hall (i :: before) s' (cons_prefix_cons.mpr ⟨rfl, hbefore⟩)
      ((run_cons h).trans hrun)
  · rintro ⟨hP, hrest⟩ before s' hbefore hrun
    cases before with
    | nil =>
      cases hrun
      exact hP
    | cons j before =>
      obtain ⟨rfl, hrest'⟩ := cons_prefix_cons.mp hbefore
      exact hrest before s' hrest' ((run_cons h).symm.trans hrun)

theorem everyStep_cons (h : step s i = some s₁) :
    EveryStep step Q s (i :: is) ↔ Q s i ∧ EveryStep step Q s₁ is := by
  constructor
  · intro hall
    refine ⟨hall [] i s (cons_prefix_cons.mpr ⟨rfl, nil_prefix⟩) rfl,
      fun before j s' hbefore hrun => ?_⟩
    exact hall (i :: before) j s' (cons_prefix_cons.mpr ⟨rfl, hbefore⟩)
      ((run_cons h).trans hrun)
  · rintro ⟨hQ, hrest⟩ before j s' hbefore hrun
    cases before with
    | nil =>
      obtain ⟨rfl, -⟩ := cons_prefix_cons.mp hbefore
      cases hrun
      exact hQ
    | cons k before =>
      obtain ⟨rfl, hrest'⟩ := cons_prefix_cons.mp hbefore
      exact hrest before j s' hrest' ((run_cons h).symm.trans hrun)

theorem EveryPoint.everyStep (h : EveryPoint step P s is) :
    EveryStep step (fun s i => ∀ s', step s i = some s' → P s') s is := by
  intro before i s' hbefore hrun s'' hstep
  refine h (before ++ [i]) s'' hbefore ?_
  rw [run, foldlM_append, ← run, hrun]
  change List.foldlM step s' [i] = some s''
  rw [foldlM_cons, hstep]
  rfl

variable (step Inv P Q) in
/-- **What breaks an invariant.** -/
theorem everyPoint_iff_of {A : σ → ι → Prop}
    (hstep : ∀ s i, Inv s → A s i → ∃ s', step s i = some s' ∧ Inv s' ∧ (P s → (P s' ↔ Q s i)))
    (hs : Inv s) (hP : P s) {is : List ι} (hA : EveryStep step A s is) :
    (∃ s', run step s is = some s' ∧ Inv s')
      ∧ (EveryPoint step P s is ↔ EveryStep step Q s is) := by
  -- after a step that breaks `P` neither side holds, and nothing is known of what follows
  suffices h : (∃ s', run step s is = some s' ∧ Inv s')
      ∧ (P s → (EveryPoint step P s is ↔ EveryStep step Q s is)) from ⟨h.1, h.2 hP⟩
  clear hP
  induction is generalizing s with
  | nil => exact ⟨⟨s, rfl, hs⟩, fun hP => ⟨fun _ => everyStep_nil, fun _ => everyPoint_nil.mpr hP⟩⟩
  | cons i is ih =>
    obtain ⟨s₁, h₁, hinv, hiff⟩ := hstep s i hs
      (hA [] i s (cons_prefix_cons.mpr ⟨rfl, nil_prefix⟩) rfl)
    obtain ⟨hrun, hrest⟩ := ih hinv ((everyStep_cons h₁).mp hA).2
    refine ⟨by rwa [run_cons h₁], fun hP => ?_⟩
    rw [everyPoint_cons h₁, everyStep_cons h₁, ← hiff hP]
    constructor
    · rintro ⟨-, hpoints⟩
      have hP₁ : P s₁ := hpoints [] s₁ nil_prefix rfl
      exact ⟨hP₁, (hrest hP₁).mp hpoints⟩
    · rintro ⟨hP₁, hsteps⟩
      exact ⟨hP, (hrest hP₁).mpr hsteps⟩

variable (step Inv P Q) in
theorem everyPoint_iff
    (hstep : ∀ s i, Inv s → ∃ s', step s i = some s' ∧ Inv s' ∧ (P s → (P s' ↔ Q s i)))
    (hs : Inv s) (hP : P s) (is : List ι) :
    (∃ s', run step s is = some s' ∧ Inv s')
      ∧ (EveryPoint step P s is ↔ EveryStep step Q s is) :=
  everyPoint_iff_of step Inv P Q (fun s i hinv (_ : True) => hstep s i hinv) hs hP
    fun _ _ _ _ _ => trivial

variable (step Inv P) in
theorem everyPoint_iff_last
    (hstep : ∀ s i, Inv s → ∃ s', step s i = some s' ∧ Inv s' ∧ (P s' → P s)) (hs : Inv s)
    (is : List ι) :
    ∃ s', run step s is = some s' ∧ Inv s' ∧ (EveryPoint step P s is ↔ P s') ∧ (P s' → P s) := by
  induction is generalizing s with
  | nil => exact ⟨s, rfl, hs, everyPoint_nil, id⟩
  | cons i is ih =>
    obtain ⟨s₁, h₁, hinv, hback⟩ := hstep s i hs
    obtain ⟨s', hrun, hinv', hiff, hlast⟩ := ih hinv
    refine ⟨s', (run_cons h₁).trans hrun, hinv', ?_, hback ∘ hlast⟩
    rw [everyPoint_cons h₁, hiff]
    exact ⟨And.right, fun hP => ⟨hback (hlast hP), hP⟩⟩

end Trace
