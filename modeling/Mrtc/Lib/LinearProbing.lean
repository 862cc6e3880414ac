import Mathlib.Data.List.Nodup
import Mathlib.Tactic

/-! # Open addressing with linear probing

A table of cells, each empty, used or a tombstone.
-/

namespace LinearProbing

open List Function

inductive Cell (κ β : Type) where
  | empty
  | used (key : κ) (value : β)
  | tombstone
  deriving DecidableEq

open Cell

variable {κ β : Type} {hash : κ → Nat} {t : List (Cell κ β)} {M : κ → Option β} {k : κ} {slot : Nat}
  {c : Cell κ β} {found : Bool} {old : Cell κ β} {wrap : Nat → Nat} {source t' : List (Cell κ β)}

/-! ## The loops -/

def probe [DecidableEq κ] (wrap : Nat → Nat) (t : List (Cell κ β)) (key : κ) :
    (fuel : Nat) → (slot : Nat) → (firstTombstone : Option Nat) → Option (Nat × Bool)
  | 0, _, _ => none
  | fuel + 1, slot, first =>
    match t[slot]? with
    | none => none
    | some .empty => some (first.getD slot, false)
    | some (.used k _) =>
      if k = key then some (slot, true) else probe wrap t key fuel (wrap (slot + 1)) first
    | some .tombstone =>
      probe wrap t key fuel (wrap (slot + 1)) (some (first.getD slot))

def freeSlot (wrap : Nat → Nat) (t : List (Cell κ β)) : (fuel : Nat) → (slot : Nat) → Option Nat
  | 0, _ => none
  | fuel + 1, slot =>
    match t[slot]? with
    | none => none
    | some (.used _ _) => freeSlot wrap t fuel (wrap (slot + 1))
    | some _ => some slot

def rehashInto (wrap : Nat → Nat) (hash : κ → Nat) :
    (source t : List (Cell κ β)) → Option (List (Cell κ β))
  | [], t => some t
  | .used k v :: rest, t =>
    match freeSlot wrap t t.length (wrap (hash k)) with
    | none => none
    | some slot => rehashInto wrap hash rest (t.set slot (.used k v))
  | .empty :: rest, t => rehashInto wrap hash rest t
  | .tombstone :: rest, t => rehashInto wrap hash rest t

def nextUsed (t : List (Cell κ β)) : (fuel : Nat) → (idx : Nat) → Option (κ × β) × Nat
  | 0, idx => (none, idx)
  | fuel + 1, idx =>
    match t[idx]? with
    | none => (none, idx)
    | some (.used k v) => (some (k, v), idx + 1)
    | some _ => nextUsed t fuel (idx + 1)

/-! ## The invariant -/

def Reach (hash : κ → Nat) (t : List (Cell κ β)) (k : κ) (i : Nat) : Prop :=
  ∃ j, i = (hash k + j) % t.length
    ∧ ∀ j' < j, t[(hash k + j') % t.length]? ≠ some .empty

structure Valid (hash : κ → Nat) (t : List (Cell κ β)) : Prop where
  reach : ∀ (i : Nat) k v, t[i]? = some (.used k v) → Reach hash t k i
  unique : ∀ (i i' : Nat) k v v', t[i]? = some (.used k v) → t[i']? = some (.used k v') → i = i'

def Holds (M : κ → Option β) (t : List (Cell κ β)) : Prop :=
  ∀ k v, M k = some v ↔ .used k v ∈ t

def Located (hash : κ → Nat) (t : List (Cell κ β)) (k : κ) (slot : Nat) : (found : Bool) → Prop
  | true => ∃ v, t[slot]? = some (.used k v)
  | false => (∀ v, .used k v ∉ t) ∧ Reach hash t k slot
      ∧ (t[slot]? = some .empty ∨ t[slot]? = some .tombstone)

theorem exists_step {n i : Nat} (hi : i < n) (h : Nat) : ∃ j < n, (h + j) % n = i := by
  have hpos : 0 < n := Nat.lt_of_le_of_lt (Nat.zero_le i) hi
  refine ⟨(i + (n - h % n)) % n, Nat.mod_lt _ hpos, ?_⟩
  have hmod := Nat.mod_lt h hpos
  have hsplit := Nat.div_add_mod h n
  rw [Nat.add_mod_mod]
  calc (h + (i + (n - h % n))) % n = (i + n * (h / n + 1)) % n := by
        rw [Nat.mul_add, Nat.mul_one]
        congr 1
        omega
    _ = i := by rw [Nat.add_mul_mod_self_left, Nat.mod_eq_of_lt hi]

theorem step_succ (n h j : Nat) : ((h + j) % n + 1) % n = (h + (j + 1)) % n := by
  rw [Nat.mod_add_mod, Nat.add_assoc]

theorem Valid.not_mem_of_empty (hv : Valid hash t) {j : Nat}
    (hseen : ∀ j' < j, ∀ v, t[(hash k + j') % t.length]? ≠ some (.used k v))
    (hempty : t[(hash k + j) % t.length]? = some .empty) (v : β) : .used k v ∉ t := by
  intro hmem
  obtain ⟨i, hi⟩ := mem_iff_getElem?.mp hmem
  obtain ⟨j', rfl, hpath⟩ := hv.reach i k v hi
  rcases Nat.lt_trichotomy j' j with hlt | rfl | hgt
  · exact hseen j' hlt v hi
  · rw [hempty] at hi
    cases hi
  · exact hpath j hgt hempty

/-! ## The search returns -/

theorem not_whole_turn (hempty : .empty ∈ t) (x : Nat)
    (hpath : ∀ j < t.length, t[(x + j) % t.length]? ≠ some .empty) : False := by
  obtain ⟨i, hi⟩ := mem_iff_getElem?.mp hempty
  obtain ⟨j, hj, hstep⟩ := exists_step (List.getElem?_eq_some_iff.mp hi).1 x
  rw [← hstep] at hi
  exact hpath j hj hi

section Search

variable [DecidableEq κ] {wrap : Nat → Nat}

theorem probe_from (hwrap : ∀ x, wrap x = x % t.length) (hv : Valid hash t) (k : κ)
    (hempty : .empty ∈ t) (fuel j : Nat) (first : Option Nat) (hfuel : j + fuel = t.length)
    (hpath : ∀ j' < j, t[(hash k + j') % t.length]? ≠ some .empty)
    (hseen : ∀ j' < j, ∀ v, t[(hash k + j') % t.length]? ≠ some (.used k v))
    (hfirst : ∀ s, first = some s →
      ∃ j' < j, s = (hash k + j') % t.length ∧ t[s]? = some .tombstone) :
    ∃ slot found, probe wrap t k fuel ((hash k + j) % t.length) first = some (slot, found)
      ∧ Located hash t k slot found := by
  induction fuel generalizing j first with
  | zero =>
    exact (not_whole_turn hempty (hash k) fun j' hj' => hpath j' (by omega)).elim
  | succ fuel ih =>
    have hlt : (hash k + j) % t.length < t.length := Nat.mod_lt _ (by omega)
    have hnext : wrap ((hash k + j) % t.length + 1) = (hash k + (j + 1)) % t.length := by
      rw [hwrap, step_succ]
    rw [probe, getElem?_eq_getElem hlt]
    have hcell := getElem?_eq_getElem hlt
    cases hc : t[(hash k + j) % t.length] with
    | empty =>
      rw [hc] at hcell
      have habsent := hv.not_mem_of_empty hseen hcell
      refine ⟨_, false, rfl, habsent, ?_⟩
      cases hf : first with
      | none => exact ⟨⟨j, rfl, hpath⟩, Or.inl hcell⟩
      | some s =>
        obtain ⟨j', hj', hs, htomb⟩ := hfirst s hf
        exact ⟨⟨j', hs, fun i hi => hpath i (by omega)⟩, Or.inr htomb⟩
    | used k' v =>
      rw [hc] at hcell
      simp only
      by_cases hk : k' = k
      · rw [if_pos hk]
        exact ⟨_, true, rfl, v, hk ▸ hcell⟩
      · rw [if_neg hk, hnext]
        refine ih (j + 1) first (by omega)
          (Nat.forall_lt_succ_right.mpr ⟨hpath, by rw [hcell]; exact nofun⟩)
          (Nat.forall_lt_succ_right.mpr ⟨hseen, fun v' => ?_⟩) ?_
        · rw [hcell]
          rintro ⟨⟩
          exact hk rfl
        · intro s hs
          obtain ⟨j', hj', hrest⟩ := hfirst s hs
          exact ⟨j', by omega, hrest⟩
    | tombstone =>
      rw [hc] at hcell
      simp only
      rw [hnext]
      refine ih (j + 1) _ (by omega)
        (Nat.forall_lt_succ_right.mpr ⟨hpath, by rw [hcell]; exact nofun⟩)
        (Nat.forall_lt_succ_right.mpr ⟨hseen, fun v' => by rw [hcell]; exact nofun⟩) ?_
      intro s hs
      cases hf : first with
      | none =>
        rw [hf, Option.getD_none] at hs
        cases hs
        exact ⟨j, by omega, rfl, hcell⟩
      | some s' =>
        rw [hf, Option.getD_some] at hs
        cases hs
        obtain ⟨j', hj', hrest⟩ := hfirst s hf
        exact ⟨j', by omega, hrest⟩

/-- **A search returns** while the table has an empty cell, and is right. -/
theorem probe_spec (hwrap : ∀ x, wrap x = x % t.length) (hv : Valid hash t) (k : κ)
    (hempty : .empty ∈ t) :
    ∃ slot found, probe wrap t k t.length (wrap (hash k)) none = some (slot, found)
      ∧ Located hash t k slot found := by
  have h := probe_from hwrap hv k hempty t.length 0 none (Nat.zero_add _)
    (fun j hj => absurd hj (Nat.not_lt_zero j)) (fun j hj => absurd hj (Nat.not_lt_zero j)) nofun
  rwa [Nat.add_zero, ← hwrap] at h

end Search

/-! ## Writing a cell -/

theorem getElem?_set_cell (hslot : slot < t.length) (c : Cell κ β) (i : Nat) :
    (t.set slot c)[i]? = if i = slot then some c else t[i]? := by
  rw [getElem?_set]
  by_cases hi : i = slot
  · rw [if_pos hi.symm, if_pos hslot, if_pos hi]
  · rw [if_neg (Ne.symm hi), if_neg hi]

theorem mem_set_used (hslot : slot < t.length) (c : Cell κ β) (k : κ) (v : β) :
    .used k v ∈ t.set slot c ↔ c = .used k v ∨ ∃ i ≠ slot, t[i]? = some (.used k v) := by
  rw [mem_iff_getElem?]
  constructor
  · grind
  · rintro (rfl | ⟨i, hne, hi⟩)
    · exact ⟨slot, by rw [getElem?_set_cell hslot, if_pos rfl]⟩
    · exact ⟨i, by rw [getElem?_set_cell hslot, if_neg hne]; exact hi⟩

theorem Reach.set {i slot : Nat} (h : Reach hash t k i)
    (hslot : slot < t.length) (hc : c ≠ .empty) : Reach hash (t.set slot c) k i := by
  obtain ⟨j, hi, hpath⟩ := h
  refine ⟨j, by rw [length_set]; exact hi, fun j' hj' hempty => ?_⟩
  rw [length_set, getElem?_set_cell hslot] at hempty
  split at hempty
  · exact hc (Option.some.inj hempty)
  · exact hpath j' hj' hempty

theorem Valid.set (hv : Valid hash t) (hslot : slot < t.length)
    (hc : c ≠ .empty)
    (hnew : ∀ k v, c = .used k v →
      Reach hash t k slot ∧ ∀ (i : Nat) v', i ≠ slot → t[i]? ≠ some (.used k v')) :
    Valid hash (t.set slot c) := by
  refine ⟨fun i k v hi => ?_, fun i i' k v v' hi hi' => ?_⟩
  · rw [getElem?_set_cell hslot] at hi
    split at hi
    · rename_i heq
      rw [heq]
      exact (hnew k v (Option.some.inj hi)).1.set hslot hc
    · exact (hv.reach i k v hi).set hslot hc
  · rw [getElem?_set_cell hslot] at hi hi'
    split at hi
    · grind
    · rename_i hne
      split at hi'
      · exact absurd hi ((hnew k v' (Option.some.inj hi')).2 i v hne)
      · exact hv.unique i i' k v v' hi hi'

theorem Located.slot_lt (h : Located hash t k slot found) : slot < t.length := by
  cases found with
  | true =>
    obtain ⟨v, hv⟩ := h
    exact (List.getElem?_eq_some_iff.mp hv).1
  | false =>
    rcases h.2.2 with hcell | hcell
    · exact (List.getElem?_eq_some_iff.mp hcell).1
    · exact (List.getElem?_eq_some_iff.mp hcell).1

theorem Located.others (hv : Valid hash t) (h : Located hash t k slot found) (i : Nat) (v : β)
    (hne : i ≠ slot) : t[i]? ≠ some (.used k v) := by
  intro hi
  cases found with
  | true =>
    obtain ⟨v', hv'⟩ := h
    exact hne (hv.unique i slot k v v' hi hv')
  | false => exact h.1 v (mem_of_getElem? hi)

theorem Located.key_eq {k k' : κ} {v : β} (h : Located hash t k slot found)
    (hcell : t[slot]? = some (.used k' v)) : k' = k := by
  cases found with
  | true =>
    obtain ⟨v', hv'⟩ := h
    rw [hcell] at hv'
    cases hv'
    rfl
  | false =>
    rcases h.2.2 with hc | hc
    · rw [hcell] at hc
      cases hc
    · rw [hcell] at hc
      cases hc

section

variable (hv : Valid hash t)
include hv

section

variable (h : Located hash t k slot found)
include h

theorem Located.reach : Reach hash t k slot := by
  cases found with
  | true =>
    obtain ⟨v, hcell⟩ := h
    exact hv.reach slot k v hcell
  | false => exact h.2.1

theorem Located.put_valid (v : β) : Valid hash (t.set slot (.used k v)) := by
  refine hv.set h.slot_lt nofun fun k' v' heq => ?_
  cases heq
  exact ⟨h.reach hv, h.others hv⟩

theorem Located.write_holds [DecidableEq κ] (hm : Holds M t) {w : Option β}
    (hc : ∀ k' v', c = .used k' v' ↔ k' = k ∧ w = some v') :
    Holds (update M k w) (t.set slot c) := by
  intro k' v'
  rw [mem_set_used h.slot_lt, hc]
  by_cases hk : k' = k
  · subst hk
    rw [update_self]
    constructor
    · exact fun heq => Or.inl ⟨rfl, heq⟩
    · grind [h.others]
  · rw [update_of_ne hk, hm k' v', mem_iff_getElem?]
    constructor
    · rintro ⟨i, hi⟩
      refine Or.inr ⟨i, ?_, hi⟩
      rintro rfl
      exact hk (h.key_eq hi)
    · rintro (heq | ⟨i, _, hi⟩)
      · exact absurd heq.1 hk
      · exact ⟨i, hi⟩

theorem Located.put_holds [DecidableEq κ] (hm : Holds M t) (v : β) :
    Holds (update M k (some v)) (t.set slot (.used k v)) :=
  h.write_holds hv hm fun k' v' => by simp [eq_comm]

end

theorem Located.erase_valid (h : Located hash t k slot true) : Valid hash (t.set slot .tombstone) :=
  hv.set h.slot_lt nofun nofun

theorem Located.erase_holds [DecidableEq κ] (h : Located hash t k slot true) (hm : Holds M t) :
    Holds (update M k none) (t.set slot .tombstone) :=
  h.write_holds hv hm fun k' v' => by simp

end

/-! ## Counting cells -/

def Cell.isUsed : Cell κ β → Bool
  | .used _ _ => true
  | _ => false

def Cell.isTombstone : Cell κ β → Bool
  | .tombstone => true
  | _ => false

def usedCount (t : List (Cell κ β)) : Nat := t.countP isUsed

def tombstoneCount (t : List (Cell κ β)) : Nat := t.countP isTombstone

theorem usedCount_cons (c : Cell κ β) :
    usedCount (c :: t) = usedCount t + if c.isUsed then 1 else 0 :=
  countP_cons

theorem tombstoneCount_cons (c : Cell κ β) :
    tombstoneCount (c :: t) = tombstoneCount t + if c.isTombstone then 1 else 0 :=
  countP_cons

theorem empty_mem_of_count (h : usedCount t + tombstoneCount t < t.length) : .empty ∈ t := by
  induction t with
  | nil => exact absurd h (Nat.not_lt_zero _)
  | cons c t ih =>
    rw [usedCount_cons, tombstoneCount_cons, length_cons] at h
    cases c with
    | empty => exact mem_cons_self
    | used k v => grind [isUsed, isTombstone, mem_cons_of_mem]
    | tombstone => grind [isUsed, isTombstone, mem_cons_of_mem]

section

variable (hold : t[slot]? = some old)
include hold

theorem countP_set_cell {p : Cell κ β → Bool} (c : Cell κ β) :
    (t.set slot c).countP p + (if p old then 1 else 0) = t.countP p + (if p c then 1 else 0) := by
  obtain ⟨hlt, rfl⟩ := List.getElem?_eq_some_iff.mp hold
  have hle : (if p t[slot] = true then 1 else 0) ≤ t.countP p := by grind
  rw [countP_set hlt]
  omega

theorem usedCount_set (c : Cell κ β) :
    usedCount (t.set slot c) + (if old.isUsed then 1 else 0)
      = usedCount t + (if c.isUsed then 1 else 0) :=
  countP_set_cell hold c

theorem tombstoneCount_set (c : Cell κ β) :
    tombstoneCount (t.set slot c) + (if old.isTombstone then 1 else 0)
      = tombstoneCount t + (if c.isTombstone then 1 else 0) :=
  countP_set_cell hold c

end

theorem tombstone_notMem (h : tombstoneCount t = 0) : .tombstone ∉ t := by
  intro hmem
  have hpos := countP_pos_iff.mpr ⟨tombstone, hmem, (rfl : isTombstone _ = true)⟩
  unfold tombstoneCount at h
  omega

/-! ## Rehashing -/

theorem freeSlot_from (hash : κ → Nat) (hwrap : ∀ x, wrap x = x % t.length) (k : κ)
    (hempty : .empty ∈ t) (htomb : .tombstone ∉ t) (fuel j : Nat) (hfuel : j + fuel = t.length)
    (hpath : ∀ j' < j, t[(hash k + j') % t.length]? ≠ some .empty) :
    ∃ slot, freeSlot wrap t fuel ((hash k + j) % t.length) = some slot
      ∧ Reach hash t k slot ∧ t[slot]? = some .empty := by
  induction fuel generalizing j with
  | zero =>
    exact (not_whole_turn hempty (hash k) fun j' hj' => hpath j' (by omega)).elim
  | succ fuel ih =>
    have hlt : (hash k + j) % t.length < t.length := Nat.mod_lt _ (by omega)
    have hcell := getElem?_eq_getElem hlt
    rw [freeSlot, hcell]
    cases hc : t[(hash k + j) % t.length] with
    | empty =>
      rw [hc] at hcell
      exact ⟨_, rfl, ⟨j, rfl, hpath⟩, hcell⟩
    | used k' v =>
      rw [hc] at hcell
      simp only
      rw [hwrap, step_succ]
      exact ih (j + 1) (by omega)
        (Nat.forall_lt_succ_right.mpr ⟨hpath, by rw [hcell]; exact nofun⟩)
    | tombstone =>
      rw [hc] at hcell
      exact absurd (mem_of_getElem? hcell) htomb

theorem freeSlot_spec (hash : κ → Nat) (hwrap : ∀ x, wrap x = x % t.length) (k : κ)
    (hempty : .empty ∈ t) (htomb : .tombstone ∉ t) :
    ∃ slot, freeSlot wrap t t.length (wrap (hash k)) = some slot
      ∧ Reach hash t k slot ∧ t[slot]? = some .empty := by
  have h := freeSlot_from hash hwrap k hempty htomb t.length 0 (Nat.zero_add _)
    (fun j hj => absurd hj (Nat.not_lt_zero j))
  rwa [Nat.add_zero, ← hwrap] at h

def DistinctKeys (t : List (Cell κ β)) : Prop :=
  t.Pairwise fun a b => ∀ k v v', a = .used k v → b ≠ .used k v'

theorem Valid.distinctKeys (hv : Valid hash t) : DistinctKeys t := by
  refine pairwise_iff_getElem.mpr fun i j hi hj hlt k v v' ha hb => ?_
  have heq := hv.unique i j k v v' (by rw [getElem?_eq_getElem hi, ha])
    (by rw [getElem?_eq_getElem hj, hb])
  omega

theorem rehashInto_length {t : List (Cell κ β)} (h : rehashInto wrap hash source t = some t') :
    t'.length = t.length := by
  induction source generalizing t with
  | nil => cases h; rfl
  | cons c rest ih =>
    cases c with
    | used k v =>
      rw [rehashInto] at h
      split at h
      · cases h
      · rw [ih h, length_set]
    | empty | tombstone => exact ih h

structure Rehashed (hash : κ → Nat) (source t t' : List (Cell κ β)) : Prop where
  length : t'.length = t.length
  valid : Valid hash t'
  tombstones : tombstoneCount t' = 0
  used : usedCount t' = usedCount t + usedCount source
  mem : ∀ k v, .used k v ∈ t' ↔ .used k v ∈ t ∨ .used k v ∈ source

theorem Rehashed.skip (h : Rehashed hash source t t') (hc : c.isUsed = false) :
    Rehashed hash (c :: source) t t' := by
  refine ⟨h.length, h.valid, h.tombstones, ?_, fun k v => ?_⟩
  · rw [h.used, usedCount_cons, hc]
    rfl
  · rw [h.mem, mem_cons]
    refine or_congr_right ⟨Or.inr, ?_⟩
    rintro (rfl | hmem)
    · cases hc
    · exact hmem

theorem Rehashed.put {v : β} (hempty : t[slot]? = some .empty)
    (h : Rehashed hash source (t.set slot (.used k v)) t') :
    Rehashed hash (.used k v :: source) t t' := by
  refine ⟨h.length.trans length_set, h.valid, h.tombstones, ?_, fun k' v' => ?_⟩
  · have hcount := usedCount_set hempty (.used k v)
    simp only [isUsed, if_true, Bool.false_eq_true, if_false] at hcount
    have hused := h.used
    rw [usedCount_cons, isUsed, if_pos rfl]
    omega
  · have hother : (∃ i ≠ slot, t[i]? = some (.used k' v')) ↔ .used k' v' ∈ t := by
      grind [mem_iff_getElem?]
    rw [h.mem, mem_set_used (List.getElem?_eq_some_iff.mp hempty).1, mem_cons, hother,
      eq_comm, or_assoc, or_left_comm]

/-- **Rehashing returns** and loses nothing, if the new table has room. -/
theorem rehashInto_spec (source : List (Cell κ β)) (hwrap : ∀ x, wrap x = x % t.length)
    (hd : DistinctKeys source) (hv : Valid hash t) (htomb : tombstoneCount t = 0)
    (hdisj : ∀ k v v', .used k v ∈ source → .used k v' ∉ t)
    (hroom : usedCount t + usedCount source < t.length) :
    ∃ t', rehashInto wrap hash source t = some t' ∧ Rehashed hash source t t' := by
  induction source generalizing t with
  | nil =>
    refine ⟨t, rfl, rfl, hv, htomb, rfl, fun k v => ?_⟩
    rw [or_iff_left not_mem_nil]
  | cons c rest ih =>
    obtain ⟨hhead, hrest⟩ := pairwise_cons.mp hd
    have hdisj' : ∀ k v v', .used k v ∈ rest → .used k v' ∉ t := fun k v v' hmem =>
      hdisj k v v' (mem_cons_of_mem c hmem)
    rw [usedCount_cons] at hroom
    cases c with
    | empty =>
      obtain ⟨t', ht', hr⟩ := ih hwrap hrest hv htomb hdisj' (by omega)
      exact ⟨t', ht', hr.skip rfl⟩
    | tombstone =>
      obtain ⟨t', ht', hr⟩ := ih hwrap hrest hv htomb hdisj' (by omega)
      exact ⟨t', ht', hr.skip rfl⟩
    | used k v =>
      rw [isUsed, if_pos rfl] at hroom
      obtain ⟨slot, hslot, hreach, hempty⟩ := freeSlot_spec hash hwrap k
        (empty_mem_of_count (by omega)) (tombstone_notMem htomb)
      have hlt := (List.getElem?_eq_some_iff.mp hempty).1
      have hloc : Located hash t k slot false :=
        ⟨fun v' => hdisj k v v' mem_cons_self, hreach, Or.inl hempty⟩
      have hused := usedCount_set hempty (.used k v)
      have htombs := tombstoneCount_set hempty (.used k v)
      simp only [isUsed, isTombstone, if_true, Bool.false_eq_true, if_false,
        Nat.add_zero] at hused htombs
      obtain ⟨t', ht', hr⟩ := ih (t := t.set slot (.used k v))
        (by rw [length_set]; exact hwrap) hrest (hloc.put_valid hv v)
        (htombs.trans htomb)
        (by
          intro k' v₁ v₂ hmem hput
          rcases (mem_set_used hlt _ k' v₂).mp hput with heq | ⟨i, _, hi⟩
          · cases heq
            exact hhead _ hmem _ _ _ rfl rfl
          · exact hdisj' k' v₁ v₂ hmem (mem_of_getElem? hi))
        (by rw [length_set]; omega)
      refine ⟨t', ?_, hr.put hempty⟩
      rw [rehashInto, hslot]
      exact ht'

theorem valid_replicate_empty (hash : κ → Nat) (n : Nat) :
    Valid hash (replicate n (.empty : Cell κ β)) := by
  have hcell : ∀ (i : Nat) (k : κ) (v : β),
      (replicate n (.empty : Cell κ β))[i]? ≠ some (.used k v) := by
    intro i k v hi
    cases eq_of_mem_replicate (mem_of_getElem? hi)
  exact ⟨fun i k v hi => absurd hi (hcell i k v), fun i _ k v _ hi => absurd hi (hcell i k v)⟩

theorem usedCount_replicate_empty (n : Nat) :
    usedCount (replicate n (.empty : Cell κ β)) = 0 := by
  simp [usedCount, countP_replicate, isUsed]

theorem tombstoneCount_replicate_empty (n : Nat) :
    tombstoneCount (replicate n (.empty : Cell κ β)) = 0 := by
  simp [tombstoneCount, countP_replicate, isTombstone]

theorem used_notMem_replicate_empty (n : Nat) (k : κ) (v : β) :
    .used k v ∉ replicate n (.empty : Cell κ β) := by
  intro hmem
  cases eq_of_mem_replicate hmem

theorem rehashInto_empty {n : Nat} (hwrap : ∀ x, wrap x = x % n)
    (hv : Valid hash t) (hm : Holds M t) (hroom : usedCount t < n) :
    ∃ t', rehashInto wrap hash t (replicate n .empty) = some t' ∧ t'.length = n
      ∧ Valid hash t' ∧ Holds M t' ∧ tombstoneCount t' = 0 ∧ usedCount t' = usedCount t := by
  obtain ⟨t', ht', hr⟩ := rehashInto_spec (t := replicate n .empty) t
    (by rw [length_replicate]; exact hwrap) hv.distinctKeys (valid_replicate_empty hash n)
    (tombstoneCount_replicate_empty n) (fun k _ v' _ => used_notMem_replicate_empty n k v')
    (by rw [usedCount_replicate_empty, length_replicate, Nat.zero_add]; exact hroom)
  refine ⟨t', ht', hr.length.trans length_replicate, hr.valid, fun k v => ?_, hr.tombstones,
    ?_⟩
  · rw [hm k v, hr.mem, or_iff_right (used_notMem_replicate_empty n k v)]
  · rw [hr.used, usedCount_replicate_empty, Nat.zero_add]

/-! ## Iteration -/

def Cell.item : Cell κ β → Option (κ × β)
  | .used k v => some (k, v)
  | _ => none

def items (t : List (Cell κ β)) : List (κ × β) := t.filterMap item

theorem mem_items (k : κ) (v : β) : (k, v) ∈ items t ↔ .used k v ∈ t := by
  unfold items
  rw [mem_filterMap]
  constructor
  · rintro ⟨c, hc, hitem⟩
    cases c with
    | empty => cases hitem
    | tombstone => cases hitem
    | used k' v' =>
      cases hitem
      exact hc
  · exact fun h => ⟨_, h, rfl⟩

theorem length_items (t : List (Cell κ β)) : (items t).length = usedCount t := by
  unfold items usedCount
  rw [length_filterMap_eq_countP]
  congr 1
  funext c
  cases c with
  | empty => rfl
  | used k v => rfl
  | tombstone => rfl

theorem Valid.items_nodup (hv : Valid hash t) : ((items t).map Prod.fst).Nodup := by
  refine pairwise_map.mpr (pairwise_filterMap.mpr (hv.distinctKeys.imp ?_))
  intro a b hab x hx y hy hkey
  cases a with
  | empty => cases hx
  | tombstone => cases hx
  | used k v =>
    cases b with
    | empty => cases hy
    | tombstone => cases hy
    | used k' v' =>
      cases hx
      cases hy
      exact hab k v v' rfl (by rw [show k = k' from hkey])

theorem nextUsed_spec (t : List (Cell κ β)) (fuel idx : Nat) (hfuel : fuel = t.length - idx) :
    ((nextUsed t fuel idx).1 = none ∧ items (t.drop idx) = [])
      ∨ ∃ kv, (nextUsed t fuel idx).1 = some kv ∧ idx < (nextUsed t fuel idx).2
        ∧ (nextUsed t fuel idx).2 ≤ t.length
        ∧ items (t.drop idx) = kv :: items (t.drop (nextUsed t fuel idx).2) := by
  induction fuel generalizing idx with
  | zero =>
    left
    rw [drop_eq_nil_of_le (by omega)]
    exact ⟨rfl, rfl⟩
  | succ fuel ih =>
    have hlt : idx < t.length := by omega
    rw [nextUsed, getElem?_eq_getElem hlt, drop_eq_getElem_cons hlt]
    cases hc : t[idx] with
    | used k v => exact Or.inr ⟨(k, v), rfl, Nat.lt_succ_self idx, hlt, rfl⟩
    | empty =>
      rcases ih (idx + 1) (by omega) with hnone | ⟨kv, hkv, hgt, hle, hitems⟩
      · exact Or.inl hnone
      · exact Or.inr ⟨kv, hkv, Nat.lt_of_succ_lt hgt, hle, hitems⟩
    | tombstone =>
      rcases ih (idx + 1) (by omega) with hnone | ⟨kv, hkv, hgt, hle, hitems⟩
      · exact Or.inl hnone
      · exact Or.inr ⟨kv, hkv, Nat.lt_of_succ_lt hgt, hle, hitems⟩

end LinearProbing
