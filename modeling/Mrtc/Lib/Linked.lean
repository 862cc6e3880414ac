import Mrtc.Lib.Assigned

/-! # Back links

Two tables that record one relation from both ends: a vector of members for every owner, and a link
to its owner for every member, with a mark once the member is gone.
-/

theorem List.getElem?_concat_eq_some {α : Type} {l : List α} {a b : α} {i : Nat} :
    (l ++ [a])[i]? = some b ↔ l[i]? = some b ∨ (i = l.length ∧ b = a) := by
  rw [List.getElem?_append]
  split
  · rw [or_iff_left]
    omega
  · grind

structure Linked (vectors : List (List Nat)) (links : List (Nat × Bool)) : Prop where
  nodup : ∀ (p : Nat) (v : List Nat), vectors[p]? = some v → v.Nodup
  mem_iff : ∀ (p : Nat) (v : List Nat) (c : Nat),
    vectors[p]? = some v → (c ∈ v ↔ links[c]? = some (p, false))
  owner_lt : ∀ (c p : Nat) (gone : Bool), links[c]? = some (p, gone) → p < vectors.length

namespace Linked

open List Function

variable {vectors : List (List Nat)} {links : List (Nat × Bool)}

def owner (links : List (Nat × Bool)) (c : Nat) : Option Nat :=
  links[c]?.bind fun link => if link.2 then none else some link.1

theorem owner_eq_some {c p : Nat} : owner links c = some p ↔ links[c]? = some (p, false) := by
  rw [owner, Option.bind_eq_some_iff]
  constructor
  · grind
  · exact fun hlink => ⟨_, hlink, rfl⟩

theorem assigned (h : Linked vectors links) : Assigned vectors (owner links) where
  nodup := h.nodup
  mem_iff p v c hv := (h.mem_iff p v c hv).trans owner_eq_some.symm
  owner_lt c p hc := h.owner_lt c p false (owner_eq_some.mp hc)

theorem of_assigned (h : Assigned vectors (owner links))
    (hlt : ∀ (c p : Nat) (gone : Bool), links[c]? = some (p, gone) → p < vectors.length) :
    Linked vectors links where
  nodup := h.nodup
  mem_iff p v c hv := (h.mem_iff p v c hv).trans owner_eq_some
  owner_lt := hlt

theorem nil : Linked [] [] where
  nodup := by simp
  mem_iff := by simp
  owner_lt := by simp

section

variable (h : Linked vectors links)
include h

theorem addOwner : Linked (vectors ++ [[]]) links where
  nodup p v hv := by
    rcases List.getElem?_concat_eq_some.mp hv with hold | ⟨-, rfl⟩
    · exact h.nodup p v hold
    · exact nodup_nil
  mem_iff p v c hv := by
    rcases List.getElem?_concat_eq_some.mp hv with hold | ⟨rfl, rfl⟩
    · exact h.mem_iff p v c hold
    · refine ⟨fun hc => absurd hc not_mem_nil, fun hc => ?_⟩
      exact absurd (h.owner_lt c _ _ hc) (Nat.lt_irrefl _)
  owner_lt c p gone hc := by
    have := h.owner_lt c p gone hc
    rw [length_append, length_singleton]
    omega

theorem attach {p : Nat} {v : List Nat} (hp : vectors[p]? = some v) :
    Linked (vectors.set p (v ++ [links.length])) (links ++ [(p, false)]) := by
  have hfresh : owner links links.length = none := by simp [owner]
  have howner : owner (links ++ [(p, false)])
      = update (owner links) links.length (some p) := by
    funext c
    by_cases hc : c = links.length
    · simp [owner, hc]
    · rw [update_of_ne hc, owner, owner, getElem?_append]
      split
      · rfl
      · grind
  refine of_assigned (howner ▸ h.assigned.attach hp hfresh) fun c q gone hc => ?_
  rw [length_set]
  rcases List.getElem?_concat_eq_some.mp hc with hold | ⟨-, heq⟩
  · exact h.owner_lt c q gone hold
  · rw [(Prod.mk.inj heq).1]
    exact (List.getElem?_eq_some_iff.mp hp).1

theorem detach {p c : Nat} {v w : List Nat} (hp : vectors[p]? = some v)
    (hc : links[c]? = some (p, false)) (hw : w.Nodup) (hmem : ∀ x, x ∈ w ↔ x ≠ c ∧ x ∈ v) :
    Linked (vectors.set p w) (links.set c (p, true)) := by
  have hclt : c < links.length := (List.getElem?_eq_some_iff.mp hc).1
  have howner : owner (links.set c (p, true)) = update (owner links) c none := by
    funext x
    by_cases hx : x = c
    · simp [owner, hx, hclt]
    · rw [update_of_ne hx, owner, owner, getElem?_set_ne (Ne.symm hx)]
  have hdetached := h.assigned.detach (owner_eq_some.mpr hc) hw fun x => by
    rw [hmem, h.assigned.mem_iff p v x hp]
  refine of_assigned (howner ▸ hdetached) fun x q gone hx => ?_
  rw [length_set]
  rcases (List.getElem?_set_eq_some hclt).mp hx with ⟨-, heq⟩ | ⟨-, hold⟩
  · rw [(Prod.mk.inj heq).1]
    exact (List.getElem?_eq_some_iff.mp hp).1
  · exact h.owner_lt x q gone hold

end

end Linked
