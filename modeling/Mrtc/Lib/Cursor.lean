import Mathlib.Data.List.Basic
import Mathlib.Order.Nat

/-! # Tables with a cursor

A table whose entries are only ever added behind the last one.
-/

namespace Cursor

open List

variable {α : Type} (active : α → Bool)

def Reusable (cap : Nat) (l : List α) : Prop := l.countP active < cap → l.length < cap

def Grows (l l' : List α) : Prop :=
  ∀ (i : Nat) (a : α), l[i]? = some a → ∃ a', l'[i]? = some a' ∧ (active a' = true → active a = true)

variable {active} {cap : Nat} {l l' : List α}

theorem reusable_iff (hcap : l.length ≤ cap) :
    Reusable active cap l ↔ l.length < cap ∨ ∀ a ∈ l, active a = true := by
  constructor
  · intro h
    by_contra hno
    rw [not_or, not_lt] at hno
    have hcount : l.countP active ≠ l.length := fun heq => hno.2 (countP_eq_length.mp heq)
    have hle : l.countP active ≤ l.length := countP_le_length
    exact absurd (h (by omega)) (by omega)
  · rintro (hlt | hall) hcount
    · exact hlt
    · rwa [countP_eq_length.mpr hall] at hcount

theorem Grows.length_le (h : Grows active l l') : l.length ≤ l'.length := by
  by_contra hlt
  rw [not_le] at hlt
  obtain ⟨a', ha', -⟩ := h l'.length _ (getElem?_eq_getElem hlt)
  rw [getElem?_eq_none le_rfl] at ha'
  cases ha'

theorem Reusable.of_grows (h : Grows active l l') (hcap : l'.length ≤ cap)
    (hl' : Reusable active cap l') : Reusable active cap l := by
  have hle := h.length_le
  rw [reusable_iff hcap] at hl'
  rw [reusable_iff (hle.trans hcap)]
  rcases hl' with hlt | hall
  · exact .inl (hle.trans_lt hlt)
  · refine .inr fun a ha => ?_
    obtain ⟨i, hi⟩ := getElem?_of_mem ha
    obtain ⟨a', ha', hactive⟩ := h i a hi
    exact hactive (hall a' (mem_of_getElem? ha'))

theorem Grows.refl (l : List α) : Grows active l l := fun _ a ha => ⟨a, ha, id⟩

theorem Grows.trans {l'' : List α} (h : Grows active l l') (h' : Grows active l' l'') :
    Grows active l l'' := by
  intro i a ha
  obtain ⟨a', ha', hactive⟩ := h i a ha
  obtain ⟨a'', ha'', hactive'⟩ := h' i a' ha'
  exact ⟨a'', ha'', hactive ∘ hactive'⟩

theorem Grows.append (l : List α) (a : α) : Grows active l (l ++ [a]) := by
  intro i b hb
  exact ⟨b, (getElem?_append_left (List.getElem?_eq_some_iff.mp hb).1).trans hb, id⟩

theorem Grows.map {f : α → α} (hf : ∀ a, active (f a) = true → active a = true) (l : List α) :
    Grows active l (l.map f) :=
  fun _ a ha => ⟨f a, by rw [getElem?_map, ha, Option.map_some], hf a⟩

theorem Grows.modify {f : α → α} (hf : ∀ a, active (f a) = true → active a = true) (l : List α)
    (i : Nat) : Grows active l (l.modify i f) := by
  intro j a ha
  rw [getElem?_modify, ha]
  by_cases hij : i = j
  · exact ⟨f a, by simp [hij], hf a⟩
  · exact ⟨a, by simp [hij], id⟩

end Cursor
