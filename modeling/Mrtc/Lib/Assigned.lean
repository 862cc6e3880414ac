import Mathlib.Data.List.Basic
import Mathlib.Data.List.Nodup
import Mathlib.Data.List.Perm.Basic

/-! # Members of at most one owner

A table of vectors, one for every owner, and for every member the owner it has, if any.
-/

variable {α : Type} {l : List α}

theorem List.getElem?_set_eq_some {a b : α} {i j : Nat} (hi : i < l.length) :
    (l.set i a)[j]? = some b ↔ (j = i ∧ b = a) ∨ (j ≠ i ∧ l[j]? = some b) := by
  rw [List.getElem?_set]
  by_cases hij : i = j
  · subst hij
    simp [hi, eq_comm]
  · simp [hij, Ne.symm hij]

theorem List.getElem?_set_iff_of_ne {a b c : α} {i k : Nat} (ha : l[i]? = some a) (hac : a ≠ c)
    (hbc : b ≠ c) : (l.set i b)[k]? = some c ↔ l[k]? = some c := by
  rw [List.getElem?_set_eq_some (List.getElem?_eq_some_iff.mp ha).1]
  constructor
  · rintro (⟨-, rfl⟩ | ⟨-, hk⟩)
    · exact absurd rfl hbc
    · exact hk
  · grind

theorem List.map_set_of_eq {α β : Type} {f : α → β} {l : List α} {i : Nat} {a b : α}
    (ha : l[i]? = some a) (heq : f b = f a) : (l.set i b).map f = l.map f := by
  obtain ⟨hi, hget⟩ := List.getElem?_eq_some_iff.mp ha
  have hfa : (l.map f)[i]? = some (f b) := by rw [List.getElem?_map, ha, heq, Option.map_some]
  obtain ⟨hi', hmap⟩ := List.getElem?_eq_some_iff.mp hfa
  rw [List.map_set, ← hmap, List.set_getElem_self]

structure Assigned (vectors : List (List Nat)) (owner : Nat → Option Nat) : Prop where
  nodup : ∀ (i : Nat) (v : List Nat), vectors[i]? = some v → v.Nodup
  mem_iff : ∀ (i : Nat) (v : List Nat) (c : Nat),
    vectors[i]? = some v → (c ∈ v ↔ owner c = some i)
  owner_lt : ∀ c i : Nat, owner c = some i → i < vectors.length

namespace Assigned

open List Function

variable {vectors : List (List Nat)} {owner : Nat → Option Nat}

theorem replicate_nil (n : Nat) : Assigned (replicate n []) fun _ => none where
  nodup i v hv := by
    obtain rfl := eq_of_mem_replicate (mem_of_getElem? hv)
    exact nodup_nil
  mem_iff i v c hv := by
    obtain rfl := eq_of_mem_replicate (mem_of_getElem? hv)
    simp
  owner_lt c i h := by cases h

section

variable (h : Assigned vectors owner)
include h

variable {c i : Nat}

theorem exists_vector (hc : owner c = some i) : ∃ v, vectors[i]? = some v ∧ c ∈ v := by
  have hlt := h.owner_lt c i hc
  exact ⟨_, getElem?_eq_getElem hlt, (h.mem_iff i _ c (getElem?_eq_getElem hlt)).mpr hc⟩

theorem attach {v : List Nat} (hv : vectors[i]? = some v) (hc : owner c = none) :
    Assigned (vectors.set i (v ++ [c])) (update owner c (some i)) := by
  have hlt : i < vectors.length := (List.getElem?_eq_some_iff.mp hv).1
  have hfresh : ∀ (j : Nat) (w : List Nat), vectors[j]? = some w → c ∉ w := by
    intro j w hj hmem
    rw [h.mem_iff j w c hj, hc] at hmem
    cases hmem
  refine ⟨?_, ?_, ?_⟩
  · intro j w hj
    rcases (List.getElem?_set_eq_some hlt).mp hj with ⟨-, rfl⟩ | ⟨-, hold⟩
    · rw [← concat_eq_append]
      exact List.Nodup.concat (hfresh i v hv) (h.nodup i v hv)
    · exact h.nodup j w hold
  · intro j w x hj
    rcases (List.getElem?_set_eq_some hlt).mp hj with ⟨rfl, rfl⟩ | ⟨hne, hold⟩
    · rw [mem_append, mem_singleton, h.mem_iff j v x hv]
      by_cases hx : x = c
      · subst hx
        simp
      · simp [hx]
    · rw [h.mem_iff j w x hold]
      by_cases hx : x = c
      · subst hx
        simp [hc, Ne.symm hne]
      · simp [hx]
  · intro x j hx
    rw [length_set]
    by_cases hxc : x = c
    · subst hxc
      rw [update_self, Option.some.injEq] at hx
      omega
    · rw [update_of_ne hxc] at hx
      exact h.owner_lt x j hx

theorem detach {w : List Nat} (hc : owner c = some i) (hw : w.Nodup)
    (hmem : ∀ x, x ∈ w ↔ x ≠ c ∧ owner x = some i) :
    Assigned (vectors.set i w) (update owner c none) := by
  have hlt : i < vectors.length := h.owner_lt c i hc
  refine ⟨?_, ?_, ?_⟩
  · grind [List.getElem?_set_eq_some, h.nodup]
  · intro j u x hj
    rcases (List.getElem?_set_eq_some hlt).mp hj with ⟨rfl, rfl⟩ | ⟨hne, hold⟩
    · rw [hmem]
      by_cases hx : x = c
      · simp [hx]
      · simp [hx]
    · rw [h.mem_iff j u x hold]
      by_cases hx : x = c
      · subst hx
        simp [hc, Ne.symm hne]
      · simp [hx]
  · intro x j hx
    rw [length_set]
    by_cases hxc : x = c
    · subst hxc
      rw [update_self] at hx
      cases hx
    · rw [update_of_ne hxc] at hx
      exact h.owner_lt x j hx

end

end Assigned

theorem List.dropLast_set_perm {last : α} {i : Nat} (hi : i < l.length)
    (hlast : l.getLast? = some last) : ((l.set i last).dropLast).Perm (l.eraseIdx i) := by
  rcases List.eq_nil_or_concat l with rfl | ⟨front, b, rfl⟩
  · exact absurd hi (Nat.not_lt_zero _)
  · simp only [List.concat_eq_append, List.length_append, List.length_singleton,
      List.getLast?_concat, Option.some.injEq] at hi hlast ⊢
    subst hlast
    by_cases heq : i = front.length
    · subst heq
      simp [List.eraseIdx_append_of_length_le, List.set_append_right]
    · have hlt : i < front.length := by omega
      rw [List.set_append_left _ _ hlt, List.dropLast_concat, List.eraseIdx_append_of_lt_length hlt]
      exact (List.set_perm_cons_eraseIdx hlt b).trans (List.perm_append_singleton _ _).symm
