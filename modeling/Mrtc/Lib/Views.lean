import Mathlib.Data.Set.Insert
import Mathlib.Logic.Function.Basic

/-! # Views of a group

A member is in one group at most, and has a name.
-/

def ViewsAgree {Member Group Name : Type} (name : Member → Option Name)
    (group : Member → Option Group) (view : Member → Set Name) : Prop :=
  ∀ p g, group p = some g → view p = {x | ∃ q, q ≠ p ∧ group q = some g ∧ name q = some x}

namespace ViewsAgree

open Function

variable {Member Group Name : Type} [DecidableEq Member] {name : Member → Option Name}
  {group : Member → Option Group} {view view' : Member → Set Name}

theorem leave (h : ViewsAgree name group view)
    (hdistinct : ∀ q r x, name q = some x → name r = some x → q = r) {p : Member} {x : Name}
    (hname : name p = some x)
    (htold : ∀ q ≠ p, ∀ g, group p = some g → group q = some g → view' q = view q \ {x})
    (hothers : ∀ q ≠ p, ∀ g, group p ≠ some g → group q = some g → view' q = view q) :
    ViewsAgree name (update group p none) view' := by
  intro q g hq
  have hqp : q ≠ p := by
    rintro rfl
    rw [update_self] at hq
    cases hq
  rw [update_of_ne hqp] at hq
  by_cases hp : group p = some g
  · -- `q` was in the same group: just the name of `p` goes, and nobody else has it
    rw [htold q hqp g hp hq, h q g hq]
    ext y
    constructor
    · rintro ⟨⟨r, hrq, hr, hy⟩, hne⟩
      have hrp : r ≠ p := by
        rintro rfl
        exact hne (Option.some.inj (hy.symm.trans hname))
      exact ⟨r, hrq, by rwa [update_of_ne hrp], hy⟩
    · rintro ⟨r, hrq, hr, hy⟩
      have hrp : r ≠ p := by
        rintro rfl
        rw [update_self] at hr
        cases hr
      rw [update_of_ne hrp] at hr
      refine ⟨⟨r, hrq, hr, hy⟩, ?_⟩
      rintro rfl
      exact hrp (hdistinct r p _ hy hname)
  · rw [hothers q hqp g hp hq, h q g hq]
    ext y
    refine exists_congr fun r => and_congr_right fun _ => and_congr_left fun _ => ?_
    by_cases hrp : r = p
    · rw [hrp, update_self]
      exact iff_of_false hp nofun
    · rw [update_of_ne hrp]

theorem join (h : ViewsAgree name group view) {p : Member} {x : Name} {g : Group}
    (hname : name p = some x) (hfree : group p = none)
    (hself : view' p = {y | ∃ q, group q = some g ∧ name q = some y})
    (htold : ∀ q, group q = some g → view' q = insert x (view q))
    (hothers : ∀ q ≠ p, group q ≠ some g → view' q = view q) :
    ViewsAgree name (update group p (some g)) view' := by
  have hne : ∀ q g', group q = some g' → q ≠ p := by
    rintro q g' hq rfl
    rw [hfree] at hq
    cases hq
  intro q g' hq
  by_cases hqp : q = p
  · -- those it is told of are the others, since it was not there before
    subst hqp
    rw [update_self] at hq
    obtain rfl := Option.some.inj hq
    rw [hself]
    ext y
    constructor
    · grind
    · grind
  · rw [update_of_ne hqp] at hq
    by_cases hg : g' = g
    · subst hg
      rw [htold q hq, h q g' hq]
      ext y
      constructor
      · rintro (rfl | ⟨r, hrq, hr, hy⟩)
        · exact ⟨p, Ne.symm hqp, update_self .., hname⟩
        · exact ⟨r, hrq, by rwa [update_of_ne (hne r g' hr)], hy⟩
      · rintro ⟨r, hrq, hr, hy⟩
        by_cases hrp : r = p
        · rw [hrp, hname] at hy
          exact .inl (Option.some.inj hy).symm
        · rw [update_of_ne hrp] at hr
          exact .inr ⟨r, hrq, hr, hy⟩
    · rw [hothers q hqp (by rw [hq]; simpa using hg), h q g' hq]
      ext y
      refine exists_congr fun r => and_congr_right fun _ => and_congr_left fun _ => ?_
      by_cases hrp : r = p
      · grind
      · rw [update_of_ne hrp]

end ViewsAgree
