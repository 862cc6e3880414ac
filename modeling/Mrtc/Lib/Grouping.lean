import Mathlib.Data.List.Basic

/-! # Lists cut into pieces

A list that was put together from `parts` can be cut into pieces again.
-/

namespace Grouping

open List

variable {α : Type} {parts : List (List α)} {n fuel : Nat}

def IsCut (parts : List (List α)) (n : Nat) : Prop := ∃ j, (parts.take j).flatten.length = n

def Regroups (parts groups : List (List α)) : Prop :=
  ∃ gs : List (List (List α)), gs.flatten = parts ∧ gs.map List.flatten = groups

theorem isCut_zero (parts : List (List α)) : IsCut parts 0 := ⟨0, rfl⟩

theorem isCut_length (parts : List (List α)) : IsCut parts parts.flatten.length :=
  ⟨parts.length, by rw [take_length]⟩

theorem IsCut.drop {j : Nat} (h : IsCut parts ((parts.take j).flatten.length + n)) :
    IsCut (parts.drop j) n := by
  obtain ⟨j', hj'⟩ := h
  by_cases hle : j ≤ j'
  · refine ⟨j' - j, ?_⟩
    have hsplit : parts.take j' = parts.take j ++ (parts.drop j).take (j' - j) := by
      conv_lhs => rw [← Nat.add_sub_cancel' hle, take_add]
    rw [hsplit, flatten_append, length_append] at hj'
    omega
  · -- it is in front of the other one only if nothing is between them
    have hsplit : parts.take j = parts.take j' ++ (parts.drop j').take (j - j') := by
      conv_lhs => rw [← Nat.add_sub_cancel' (Nat.le_of_not_le hle), take_add]
    rw [hsplit, flatten_append, length_append] at hj'
    have hn : n = 0 := by omega
    rw [hn]
    exact isCut_zero _

/-- **The groups are made of whole parts just if they are cut where parts are.** -/
theorem regroups_iff (hparts : ∀ p ∈ parts, p ≠ []) (groups : List (List α)) :
    Regroups parts groups
      ↔ groups.flatten = parts.flatten ∧ ∀ i, IsCut parts (groups.take i).flatten.length := by
  constructor
  · rintro ⟨gs, rfl, rfl⟩
    have hflat : ∀ l : List (List (List α)), (l.map List.flatten).flatten = l.flatten.flatten := by
      intro l
      rw [flatten_flatten]
    refine ⟨hflat gs, fun i => ⟨(gs.take i).flatten.length, ?_⟩⟩
    have htake : gs.flatten.take (gs.take i).flatten.length = (gs.take i).flatten := by
      conv_lhs => rw [← take_append_drop i gs, flatten_append]
      simp
    rw [htake, ← map_take, hflat]
  · rintro ⟨hflat, hcuts⟩
    induction groups generalizing parts with
    | nil =>
      -- nothing is left, and no part is empty
      cases parts with
      | nil => exact ⟨[], rfl, rfl⟩
      | cons p ps => grind [append_eq_nil_iff]
    | cons g groups ih =>
      obtain ⟨j, hj⟩ := hcuts 1
      have hj : (parts.take j).flatten.length = g.length := by simpa using hj
      have hwhole : g ++ groups.flatten = (parts.take j).flatten ++ (parts.drop j).flatten := by
        rw [← flatten_append, take_append_drop]
        exact hflat
      obtain ⟨hg, hrest⟩ := append_inj hwhole hj.symm
      obtain ⟨gs, hgs, hmap⟩ := ih (fun p hp => hparts p (mem_of_mem_drop hp)) hrest
        fun i => by
          have hi := hcuts (i + 1)
          rw [take_succ_cons, flatten_cons, length_append, ← hj] at hi
          exact hi.drop
      refine ⟨parts.take j :: gs, ?_, ?_⟩
      · rw [flatten_cons, hgs, take_append_drop]
      · rw [map_cons, hmap, ← hg]

theorem exists_groups_of_map {β : Type} (f : β → List α) {items : List β}
    {gs : List (List (List α))} (h : gs.flatten = items.map f) :
    ∃ groups : List (List β), groups.flatten = items ∧ groups.map (List.map f) = gs := by
  induction gs generalizing items with
  | nil =>
    have hnil : items = [] := map_eq_nil_iff.mp h.symm
    exact ⟨[], hnil.symm, rfl⟩
  | cons g gs ih =>
    obtain ⟨first, rest, rfl, hg, hrest⟩ := map_eq_append_iff.mp h.symm
    obtain ⟨groups, hflat, hmap⟩ := ih hrest.symm
    exact ⟨first :: groups, by rw [flatten_cons, hflat], by rw [map_cons, hg, hmap]⟩

/-! ## Chunks -/

def chunks (n : Nat) : (fuel : Nat) → List α → List (List α)
  | 0, _ => []
  | _ + 1, [] => []
  | fuel + 1, x :: xs => (x :: xs).take n :: chunks n fuel ((x :: xs).drop n)

theorem flatten_take_chunks (hn : 0 < n) {xs : List α} (hfuel : xs.length ≤ fuel) (i : Nat) :
    ((chunks n fuel xs).take i).flatten = xs.take (n * i) := by
  induction fuel generalizing xs i with
  | zero =>
    rw [length_eq_zero_iff.mp (Nat.le_zero.mp hfuel)]
    simp [chunks]
  | succ fuel ih =>
    cases xs with
    | nil => simp [chunks]
    | cons x xs =>
      cases i with
      | zero => simp
      | succ i =>
        have hrest : ((x :: xs).drop n).length ≤ fuel := by
          rw [length_drop]
          omega
        rw [chunks, take_succ_cons, flatten_cons, ih hrest, ← take_add]
        rw [Nat.mul_succ, Nat.add_comm]

theorem flatten_chunks (hn : 0 < n) {xs : List α} (hfuel : xs.length ≤ fuel) :
    (chunks n fuel xs).flatten = xs := by
  induction fuel generalizing xs with
  | zero =>
    rw [length_eq_zero_iff.mp (Nat.le_zero.mp hfuel)]
    rfl
  | succ fuel ih =>
    cases xs with
    | nil => rfl
    | cons x xs =>
      have hrest : ((x :: xs).drop n).length ≤ fuel := by
        rw [length_drop]
        omega
      rw [chunks, flatten_cons, ih hrest, take_append_drop]

/-- **Chunks are made of whole parts just if a part starts wherever one of them does.** -/
theorem regroups_chunks_iff (hn : 0 < n)
    (hparts : ∀ p ∈ parts, p ≠ []) (hfuel : parts.flatten.length ≤ fuel) :
    Regroups parts (chunks n fuel parts.flatten)
      ↔ ∀ k, n * k < parts.flatten.length → IsCut parts (n * k) := by
  rw [regroups_iff hparts, and_iff_right (flatten_chunks hn hfuel)]
  constructor
  · intro hcuts k hk
    have hcut := hcuts k
    rw [flatten_take_chunks hn hfuel, length_take, Nat.min_eq_left (Nat.le_of_lt hk)] at hcut
    exact hcut
  · intro hcuts k
    rw [flatten_take_chunks hn hfuel, length_take]
    by_cases hk : n * k < parts.flatten.length
    · rw [Nat.min_eq_left (Nat.le_of_lt hk)]
      exact hcuts k hk
    · rw [Nat.min_eq_right (Nat.le_of_not_lt hk)]
      exact isCut_length parts

end Grouping
