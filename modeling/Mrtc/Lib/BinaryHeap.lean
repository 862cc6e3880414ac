import Mathlib.Order.WithBot
import Mathlib.Data.List.Basic
import Mathlib.Data.Multiset.Basic
import Mathlib.Tactic

/-! # Binary heaps in a list

A min-heap in level order, for elements with a key in a linear order.
-/

namespace BinaryHeap

open List

variable {α β : Type} (key : α → β)

/-! ## Keys and exchanges -/

def keyAt (h : List α) (i : Nat) : WithTop β :=
  match h[i]? with
  | some a => (key a : WithTop β)
  | none => ⊤

def parent (i : Nat) : Nat := (i - 1) / 2

def swap (h : List α) (i j : Nat) : List α :=
  match h[i]?, h[j]? with
  | some a, some b => (h.set i b).set j a
  | _, _ => h

variable {i : Nat} {h : List α} {idx : Nat}

theorem parent_lt (hi : 0 < i) : parent i < i := by
  unfold parent
  omega

theorem swap_eq {j : Nat} (hi : i < h.length) (hj : j < h.length) :
    swap h i j = (h.set i h[j]).set j h[i] := by
  unfold swap
  rw [getElem?_eq_getElem hi, getElem?_eq_getElem hj]

theorem keyAt_of_le (hi : h.length ≤ i) : keyAt key h i = ⊤ := by
  unfold keyAt
  rw [getElem?_eq_none hi]

theorem keyAt_swap {j : Nat} (hi : i < h.length) (hj : j < h.length) (k : Nat) :
    keyAt key (swap h i j) k
      = if k = j then keyAt key h i else if k = i then keyAt key h j else keyAt key h k := by
  rw [swap_eq hi hj]
  unfold keyAt
  grind

theorem swap_length (h : List α) (i j : Nat) : (swap h i j).length = h.length := by
  unfold swap
  split
  · rw [length_set, length_set]
  · rfl

theorem swap_perm (h : List α) (i j : Nat) : (swap h i j).Perm h := by
  unfold swap
  split
  · grind [List.getElem?_eq_some_iff, set_set_perm]
  · exact List.Perm.refl h

/-! ## Operations -/

variable [LinearOrder β]

def siftUp : (fuel : Nat) → List α → (idx : Nat) → List α
  | 0, h, _ => h
  | fuel + 1, h, idx =>
    if idx = 0 then h
    else if keyAt key h (parent idx) ≤ keyAt key h idx then h
    else siftUp fuel (swap h (parent idx) idx) (parent idx)

def smallest (h : List α) (idx : Nat) : Nat :=
  let left := idx * 2 + 1
  let s := if keyAt key h left < keyAt key h idx then left else idx
  if keyAt key h (left + 1) < keyAt key h s then left + 1 else s

def siftDown : (fuel : Nat) → List α → (idx : Nat) → List α
  | 0, h, _ => h
  | fuel + 1, h, idx =>
    if smallest key h idx = idx then h
    else siftDown fuel (swap h idx (smallest key h idx)) (smallest key h idx)

def push (h : List α) (a : α) : List α := siftUp key h.length (h ++ [a]) h.length

def pop (h : List α) : List α :=
  match h.getLast? with
  | none => []
  | some a =>
    if h.length ≤ 1 then [] else siftDown key h.length (h.dropLast.set 0 a) 0

def IsHeap (h : List α) : Prop := ∀ i, 0 < i → keyAt key h (parent i) ≤ keyAt key h i

theorem isHeap_nil : IsHeap key ([] : List α) := by
  intro i _
  have htop : keyAt key ([] : List α) i = ⊤ := keyAt_of_le key (Nat.zero_le i)
  rw [htop]
  exact le_top

theorem root_le (hh : IsHeap key h) (i : Nat) : keyAt key h 0 ≤ keyAt key h i := by
  induction i using Nat.strong_induction_on with
  | _ i ih =>
    rcases Nat.eq_zero_or_pos i with rfl | hi
    · exact le_refl _
    · exact (ih (parent i) (parent_lt hi)).trans (hh i hi)

theorem root_le_of_mem (hh : IsHeap key h) {a : α} (hroot : h.head? = some a) {b : α} (hb : b ∈ h) :
    key a ≤ key b := by
  obtain ⟨i, hi⟩ := mem_iff_getElem?.mp hb
  have hle := root_le key hh i
  unfold keyAt at hle
  rw [← head?_eq_getElem?, hroot, hi] at hle
  exact WithTop.coe_le_coe.mp hle

/-! ## Sifting up -/

structure UpReady (h : List α) (idx : Nat) : Prop where
  others : ∀ i, 0 < i → i ≠ idx → keyAt key h (parent i) ≤ keyAt key h i
  across : 0 < idx → ∀ i, 0 < i → parent i = idx → keyAt key h (parent idx) ≤ keyAt key h i

theorem UpReady.isHeap (hr : UpReady key h idx)
    (hedge : 0 < idx → keyAt key h (parent idx) ≤ keyAt key h idx) : IsHeap key h := by
  intro i hi
  by_cases hidx : i = idx
  · subst hidx
    exact hedge hi
  · exact hr.others i hi hidx

theorem UpReady.step (hr : UpReady key h idx) (hlt : idx < h.length) (hpos : 0 < idx)
    (hgt : keyAt key h idx < keyAt key h (parent idx)) :
    UpReady key (swap h (parent idx) idx) (parent idx) := by
  have hp := parent_lt hpos
  have hk := keyAt_swap key (hp.trans hlt) hlt
  refine ⟨fun i hi hip => ?_, fun hp0 i hi hpi => ?_⟩
  · have hother := hr.others i hi
    have hacross := hr.across hpos i hi
    grind
  · have hgrand := hr.others (parent idx) hp0 (by omega)
    have hother := hr.others i hi
    have hpp := parent_lt hp0
    grind

theorem siftUp_isHeap {fuel : Nat} (hfuel : idx ≤ fuel) (hlt : idx < h.length)
    (hr : UpReady key h idx) : IsHeap key (siftUp key fuel h idx) := by
  induction fuel generalizing h idx with
  | zero => exact hr.isHeap key (fun hpos => by omega)
  | succ fuel ih =>
    rw [siftUp]
    by_cases h0 : idx = 0
    · rw [if_pos h0]
      exact hr.isHeap key (fun hpos => by omega)
    · rw [if_neg h0]
      have hpos : 0 < idx := Nat.pos_of_ne_zero h0
      by_cases hle : keyAt key h (parent idx) ≤ keyAt key h idx
      · rw [if_pos hle]
        exact hr.isHeap key (fun _ => hle)
      · rw [if_neg hle]
        have hp := parent_lt hpos
        refine ih (by omega) ?_ (hr.step key hlt hpos (not_le.mp hle))
        rw [swap_length]
        omega

theorem siftUp_perm (fuel : Nat) (h : List α) (idx : Nat) : (siftUp key fuel h idx).Perm h := by
  induction fuel generalizing h idx with
  | zero => exact List.Perm.refl h
  | succ fuel ih =>
    rw [siftUp]
    split
    · exact List.Perm.refl h
    · split
      · exact List.Perm.refl h
      · exact (ih _ _).trans (swap_perm h _ _)

/-! ## Sifting down -/

structure DownReady (h : List α) (idx : Nat) : Prop where
  others : ∀ i, 0 < i → parent i ≠ idx → keyAt key h (parent i) ≤ keyAt key h i
  across : 0 < idx → ∀ i, 0 < i → parent i = idx → keyAt key h (parent idx) ≤ keyAt key h i

theorem child_cases {idx : Nat} (hi : 0 < i) (h : parent i = idx) :
    i = idx * 2 + 1 ∨ i = idx * 2 + 1 + 1 := by
  unfold parent at h
  omega

theorem smallest_spec (h : List α) (idx : Nat) :
    (smallest key h idx = idx ∨ (0 < smallest key h idx ∧ parent (smallest key h idx) = idx
        ∧ keyAt key h (smallest key h idx) < keyAt key h idx))
      ∧ ∀ i, 0 < i → parent i = idx → keyAt key h (smallest key h idx) ≤ keyAt key h i := by
  have hleft : parent (idx * 2 + 1) = idx := by unfold parent; omega
  have hright : parent (idx * 2 + 1 + 1) = idx := by unfold parent; omega
  refine ⟨by grind [smallest], fun i hi hpi => ?_⟩
  rcases child_cases hi hpi with rfl | rfl
  · grind [smallest]
  · grind [smallest]

theorem DownReady.isHeap (hr : DownReady key h idx)
    (hedge : ∀ i, 0 < i → parent i = idx → keyAt key h idx ≤ keyAt key h i) : IsHeap key h := by
  intro i hi
  by_cases hidx : parent i = idx
  · rw [hidx]
    exact hedge i hi hidx
  · exact hr.others i hi hidx

theorem DownReady.step {idx c : Nat} (hr : DownReady key h idx) (hlt : idx < h.length)
    (hc : c < h.length) (hpos : 0 < c) (hpc : parent c = idx)
    (hltc : keyAt key h c < keyAt key h idx)
    (hmin : ∀ i, 0 < i → parent i = idx → keyAt key h c ≤ keyAt key h i) :
    DownReady key (swap h idx c) c := by
  have hic := parent_lt hpos
  have hk := keyAt_swap key hlt hc
  refine ⟨fun i hi hpi => ?_, fun _ i hi hpi => ?_⟩
  · grind [parent_lt, hr.others, hr.across]
  · have hip := parent_lt hi
    have hother := hr.others i hi (by omega)
    grind

theorem siftDown_isHeap {fuel : Nat} (hfuel : h.length ≤ fuel + idx) (hr : DownReady key h idx) :
    IsHeap key (siftDown key fuel h idx) := by
  induction fuel generalizing h idx with
  | zero =>
    refine hr.isHeap key fun i hi hpi => ?_
    have hip := parent_lt hi
    have htop : keyAt key h i = ⊤ := keyAt_of_le key (by omega)
    rw [htop]
    exact le_top
  | succ fuel ih =>
    rw [siftDown]
    obtain ⟨hcase, hmin⟩ := smallest_spec key h idx
    by_cases hidx : smallest key h idx = idx
    · rw [if_pos hidx]
      rw [hidx] at hmin
      exact hr.isHeap key hmin
    · rw [if_neg hidx]
      obtain ⟨hpos, hpc, hltc⟩ := hcase.resolve_left hidx
      have hic := parent_lt hpos
      have hc : smallest key h idx < h.length := by
        by_contra hge
        rw [keyAt_of_le key (Nat.not_lt.mp hge)] at hltc
        exact not_top_lt hltc
      refine ih ?_ (hr.step key (by omega) hc hpos hpc hltc hmin)
      rw [swap_length]
      omega

theorem siftDown_perm (fuel : Nat) (h : List α) (idx : Nat) : (siftDown key fuel h idx).Perm h := by
  induction fuel generalizing h idx with
  | zero => exact List.Perm.refl h
  | succ fuel ih =>
    rw [siftDown]
    split
    · exact List.Perm.refl h
    · exact (ih _ _).trans (swap_perm h _ _)

/-! ## Push and pop -/

theorem push_perm (h : List α) (a : α) : (push key h a).Perm (a :: h) :=
  (siftUp_perm key _ _ _).trans (perm_append_singleton a h)

theorem push_isHeap (hh : IsHeap key h) (a : α) : IsHeap key (push key h a) := by
  have hlen : (h ++ [a]).length = h.length + 1 := by simp
  have htop : ∀ i, h.length < i → keyAt key (h ++ [a]) i = ⊤ :=
    fun i hi => keyAt_of_le key (by omega)
  have hsame : ∀ i, i ≠ h.length → keyAt key (h ++ [a]) i = keyAt key h i := by grind [keyAt]
  refine siftUp_isHeap key (Nat.le_refl _) (by omega) ⟨fun i hi hidx => ?_, fun _ i hi hpi => ?_⟩
  · by_cases hp : parent i = h.length
    · rw [htop i (by have := parent_lt hi; omega)]
      exact le_top
    · rw [hsame i hidx, hsame _ hp]
      exact hh i hi
  · rw [htop i (by have := parent_lt hi; omega)]
    exact le_top

theorem pop_perm {a : α} (hroot : h.head? = some a) : (a :: pop key h).Perm h := by
  obtain ⟨rest, rfl⟩ : ∃ rest, h = a :: rest := by
    cases h with
    | nil => cases hroot
    | cons b rest =>
      cases hroot
      exact ⟨rest, rfl⟩
  rcases eq_nil_or_concat rest with rfl | ⟨mid, last, rfl⟩
  · exact List.Perm.refl _
  · have hlast : (a :: (mid ++ [last])).getLast? = some last := by
      rw [← cons_append, getLast?_append]
      rfl
    have hdrop : (a :: (mid ++ [last])).dropLast = a :: mid := by
      rw [← cons_append, dropLast_concat]
    unfold pop
    rw [concat_eq_append, hlast]
    simp only [hdrop, set_cons_zero]
    rw [if_neg (by simp)]
    refine List.Perm.cons a ((siftDown_perm key _ _ _).trans ?_)
    exact (perm_append_singleton last mid).symm

theorem pop_isHeap (hh : IsHeap key h) : IsHeap key (pop key h) := by
  unfold pop
  split
  · exact isHeap_nil key
  · rename_i a hlast
    split
    · exact isHeap_nil key
    · rename_i hlen
      have hlen' : (h.dropLast.set 0 a).length = h.length - 1 := by simp
      have hsame : ∀ i, 0 < i → i < h.length - 1 →
          keyAt key (h.dropLast.set 0 a) i = keyAt key h i := by grind [keyAt]
      refine siftDown_isHeap key (by omega) ⟨fun i hi hpi => ?_, fun h0 => absurd h0 (by omega)⟩
      have hip := parent_lt hi
      by_cases hlt : i < h.length - 1
      · rw [hsame i hi hlt, hsame (parent i) (by omega) (by omega)]
        exact hh i hi
      · rw [keyAt_of_le key (show (h.dropLast.set 0 a).length ≤ i by omega)]
        exact le_top

end BinaryHeap
