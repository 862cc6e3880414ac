import Mrtc.Lib.LinearProbing

/-! # A hash table that grows and compacts itself

A table of `LinearProbing` whose size is a power of two, with the number of its used cells and of
its tombstones.
-/

open LinearProbing Cell

structure HashTable (κ β : Type) where
  entries : List (Cell κ β) := []
  len : Nat := 0
  tombstones : Nat := 0
  deriving DecidableEq

namespace HashTable

open List Function

variable {κ β : Type} {hash : κ → Nat} {entrySize : Nat} {h : HashTable κ β} {M : κ → Option β}
  {n : Nat} {key : κ} {slot : Nat} {h' : HashTable κ β} {L : Nat}

inductive Outcome (α : Type) where
  | stuck
  | noMemory
  | done (a : α)
  deriving DecidableEq

def cap (h : HashTable κ β) : Nat := h.entries.length

def initialCap : Nat := 16

def mask (cap slot : Nat) : Nat := slot &&& (cap - 1)

/-! ## Operations -/

def rehash (hash : κ → Nat) (entrySize : Nat) (h : HashTable κ β) (newCap : Nat) (alloc : Bool) :
    Outcome (HashTable κ β) :=
  if alloc && decide (newCap * entrySize < 2 ^ 64) then
    match rehashInto (mask newCap) hash h.entries (replicate newCap .empty) with
    | none => .stuck
    | some entries => .done { h with entries := entries, tombstones := 0 }
  else .noMemory

def grow (hash : κ → Nat) (entrySize : Nat) (h : HashTable κ β) (alloc : Bool) :
    Outcome (HashTable κ β) :=
  if h.cap = 0 then rehash hash entrySize h initialCap alloc
  else if h.cap * 3 ≤ (h.len + h.tombstones) * 4 then
    if (2 ^ 64 - 1) / 2 < h.cap then .noMemory
    else rehash hash entrySize h (h.cap * 2) alloc
  else .done h

def findSlot [DecidableEq κ] (hash : κ → Nat) (h : HashTable κ β) (key : κ) :
    Option (Nat × Bool) :=
  probe (mask h.cap) h.entries key h.cap (mask h.cap (hash key)) none

def putAt (h : HashTable κ β) (slot : Nat) (found : Bool) (key : κ) (value : β) :
    HashTable κ β :=
  if found then { h with entries := h.entries.set slot (.used key value) }
  else
    { entries := h.entries.set slot (.used key value)
      len := h.len + 1
      tombstones :=
        if h.entries[slot]?.any isTombstone then h.tombstones - 1 else h.tombstones }

def valueAt (h : HashTable κ β) (slot : Nat) : Option β :=
  match h.entries[slot]? with
  | some (.used _ v) => some v
  | _ => none

def lookup [DecidableEq κ] (hash : κ → Nat) (h : HashTable κ β) (key : κ) : Option (Option β) :=
  if h.cap = 0 then some none
  else
    match findSlot hash h key with
    | none => none
    | some (slot, found) => some (if found then h.valueAt slot else none)

def compact (hash : κ → Nat) (entrySize : Nat) (h : HashTable κ β) (alloc : Bool) :
    Option (HashTable κ β) :=
  if h.cap ≤ h.tombstones * 8 ∧ h.len * 2 < h.cap ∧ initialCap < h.cap then
    match rehash hash entrySize h h.cap alloc with
    | .stuck => none
    | .noMemory => some h
    | .done h => some h
  else some h

def remove [DecidableEq κ] (hash : κ → Nat) (entrySize : Nat) (h : HashTable κ β) (key : κ)
    (alloc : Bool) : Option (Option β × HashTable κ β) :=
  if h.cap = 0 then some (none, h)
  else
    match findSlot hash h key with
    | none => none
    | some (_, false) => some (none, h)
    | some (slot, true) =>
      (compact hash entrySize
        { entries := h.entries.set slot .tombstone
          len := h.len - 1
          tombstones := h.tombstones + 1 } alloc).map fun h' => (h.valueAt slot, h')

def clear (h : HashTable κ β) : HashTable κ β :=
  if h.entries.isEmpty then h
  else { entries := replicate h.cap .empty, len := 0, tombstones := 0 }

def next (h : HashTable κ β) (idx : Nat) : Option (κ × β) × Nat :=
  if h.cap = 0 then (none, idx) else nextUsed h.entries (h.cap - idx) idx

def iterate (h : HashTable κ β) : (fuel : Nat) → (idx : Nat) → Option (List (κ × β))
  | 0, _ => none
  | fuel + 1, idx =>
    match h.next idx with
    | (none, _) => some []
    | (some kv, idx') => (iterate h fuel idx').map (kv :: ·)

/-! ## The invariant -/

structure Sound (hash : κ → Nat) (entrySize : Nat) (h : HashTable κ β) (M : κ → Option β)
    (n : Nat) : Prop where
  valid : Valid hash h.entries
  holds : Holds M h.entries
  len : h.len = usedCount h.entries
  tombstones : h.tombstones = tombstoneCount h.entries
  cap : h.cap = 0 ∨ ∃ e, 4 ≤ e ∧ h.cap = 2 ^ e
  fits : h.cap * entrySize < 2 ^ 64
  load : (h.len + h.tombstones) * 4 ≤ h.cap * 3
  puts : h.len + h.tombstones ≤ n

theorem mask_two_pow (e x : Nat) : mask (2 ^ e) x = x % 2 ^ e :=
  Nat.and_two_pow_sub_one_eq_mod x e

theorem Sound.empty_mem (hs : Sound hash entrySize h M n) (hcap : h.cap ≠ 0) :
    .empty ∈ h.entries := by
  have hload := hs.load
  rw [hs.len, hs.tombstones] at hload
  refine empty_mem_of_count ?_
  unfold HashTable.cap at hload hcap
  omega

theorem Sound.mask_mod (hs : Sound hash entrySize h M n) (hcap : h.cap ≠ 0) (x : Nat) :
    mask h.cap x = x % h.cap := by
  rcases hs.cap with hzero | ⟨e, _, he⟩
  · exact absurd hzero hcap
  · rw [he, mask_two_pow]

theorem sound_empty (hash : κ → Nat) (entrySize : Nat) :
    Sound hash entrySize ({} : HashTable κ β) (fun _ => none) 0 where
  valid := valid_replicate_empty hash 0
  holds k v := by
    constructor
    · exact nofun
    · exact fun hmem => absurd hmem not_mem_nil
  len := rfl
  tombstones := rfl
  cap := Or.inl rfl
  fits := by
    show 0 * entrySize < 2 ^ 64
    rw [Nat.zero_mul]
    exact Nat.two_pow_pos 64
  load := Nat.le_refl 0
  puts := Nat.le_refl 0

theorem Sound.more {m : Nat} (hs : Sound hash entrySize h M n) (hle : n ≤ m) :
    Sound hash entrySize h M m :=
  { hs with puts := Nat.le_trans hs.puts hle }

/-! ## Growing -/

def Room (h : HashTable κ β) : Prop := (h.len + h.tombstones) * 4 < h.cap * 3

theorem Room.cap_ne_zero (hroom : h.Room) : h.cap ≠ 0 := by
  unfold Room at hroom
  omega

theorem Sound.rehash (hs : Sound hash entrySize h M n) {e : Nat} (he : 4 ≤ e)
    (hroom : h.len * 4 < 2 ^ e * 3) (alloc : Bool) :
    (HashTable.rehash hash entrySize h (2 ^ e) alloc = .noMemory
        ∧ (alloc = false ∨ 2 ^ 64 ≤ 2 ^ e * entrySize))
      ∨ ∃ h', HashTable.rehash hash entrySize h (2 ^ e) alloc = .done h'
        ∧ Sound hash entrySize h' M n ∧ h'.Room := by
  unfold HashTable.rehash
  by_cases hok : (alloc && decide (2 ^ e * entrySize < 2 ^ 64)) = true
  · right
    rw [if_pos hok]
    obtain ⟨t, ht, hlength, hvalid, hholds, htombs, hused⟩ := rehashInto_empty
      (mask_two_pow e) hs.valid hs.holds (by rw [← hs.len]; omega)
    rw [ht]
    have hcap : ({ h with entries := t, tombstones := 0 } : HashTable κ β).cap = 2 ^ e := hlength
    refine ⟨_, rfl, ⟨hvalid, hholds, hs.len.trans hused.symm, htombs.symm,
      Or.inr ⟨e, he, hcap⟩, ?_, ?_, ?_⟩, ?_⟩
    · rw [hcap]
      exact of_decide_eq_true (Bool.and_eq_true_iff.mp hok).2
    · rw [hcap]
      exact Nat.le_of_lt hroom
    · exact Nat.le_trans (Nat.le_add_right h.len h.tombstones) hs.puts
    · unfold Room
      rw [hcap]
      exact hroom
  · grind

/-- **Growing** makes room, or finds no memory: none is left, or more than the memory that can be
addressed was asked for. -/
theorem Sound.grow (hs : Sound hash entrySize h M n) (hpos : 0 < entrySize)
    (hsize : initialCap * entrySize < 2 ^ 64) (alloc : Bool) :
    (HashTable.grow hash entrySize h alloc = .noMemory
        ∧ (alloc = false ∨ 3 * 2 ^ 64 ≤ 8 * (n * entrySize)))
      ∨ ∃ h', HashTable.grow hash entrySize h alloc = .done h' ∧ Sound hash entrySize h' M n
        ∧ h'.Room := by
  unfold HashTable.grow
  have hload := hs.load
  by_cases hzero : h.cap = 0
  · rw [if_pos hzero]
    rcases hs.rehash (Nat.le_refl 4) (by omega) alloc with ⟨hno, hwhy⟩ | hdone
    · exact Or.inl ⟨hno, hwhy.imp_right fun hbig => absurd hsize (not_lt.mpr hbig)⟩
    · exact Or.inr hdone
  rw [if_neg hzero]
  by_cases hfull : h.cap * 3 ≤ (h.len + h.tombstones) * 4
  · obtain ⟨e, he, hcap⟩ := hs.cap.resolve_left hzero
    have hputs := hs.puts
    rw [if_pos hfull]
    -- the table holds so many cells that their insertions alone fill the memory
    have hmany : 2 ^ 64 ≤ h.cap * 2 * entrySize → 3 * 2 ^ 64 ≤ 8 * (n * entrySize) := by
      intro hbig
      have hle : h.cap * 3 ≤ n * 4 := by omega
      calc 3 * 2 ^ 64 ≤ 3 * (h.cap * 2 * entrySize) := Nat.mul_le_mul_left 3 hbig
        _ = 2 * (h.cap * 3 * entrySize) := by ring
        _ ≤ 2 * (n * 4 * entrySize) :=
            Nat.mul_le_mul_left 2 (Nat.mul_le_mul_right entrySize hle)
        _ = 8 * (n * entrySize) := by ring
    by_cases hmax : (2 ^ 64 - 1) / 2 < h.cap
    · rw [if_pos hmax]
      refine Or.inl ⟨rfl, Or.inr (hmany ?_)⟩
      exact Nat.le_trans (show 2 ^ 64 ≤ h.cap * 2 by omega) (Nat.le_mul_of_pos_right _ hpos)
    · rw [if_neg hmax, hcap, ← Nat.pow_succ]
      rcases hs.rehash (Nat.le_succ_of_le he) (by rw [Nat.pow_succ, ← hcap]; omega) alloc
        with ⟨hno, hwhy⟩ | hdone
      · grind
      · exact Or.inr hdone
  · rw [if_neg hfull]
    exact Or.inr ⟨h, rfl, hs, not_le.mp hfull⟩

/-! ## Searching, writing and removing -/

theorem valueAt_of_found (hm : Holds M h.entries) (hloc : Located hash h.entries key slot true) :
    h.valueAt slot = M key := by
  obtain ⟨v, hcell⟩ := hloc
  rw [valueAt, hcell, (hm key v).mpr (mem_of_getElem? hcell)]

theorem eq_none_of_not_found (hm : Holds M h.entries)
    (hloc : Located hash h.entries key slot false) : M key = none := by
  rw [Option.eq_none_iff_forall_ne_some]
  exact fun v hv => hloc.1 v ((hm key v).mp hv)

section

variable (hs : Sound hash entrySize h M n)
include hs

theorem Sound.eq_none_of_cap (hcap : h.cap = 0) (key : κ) : M key = none := by
  rw [Option.eq_none_iff_forall_ne_some]
  intro v hv
  have hmem := (hs.holds key v).mp hv
  rw [eq_nil_of_length_eq_zero hcap] at hmem
  exact absurd hmem not_mem_nil

theorem Sound.four_dvd_cap : 4 ∣ h.cap := by
  rcases hs.cap with hzero | ⟨e, he, hcap⟩
  · rw [hzero]
    exact Nat.dvd_zero 4
  · rw [hcap]
    exact Nat.pow_dvd_pow 2 (Nat.le_of_succ_le (Nat.le_of_succ_le he))

theorem Sound.set {len tombstones m : Nat} {c : Cell κ β} {M' : κ → Option β}
    (hvalid : Valid hash (h.entries.set slot c)) (hholds : Holds M' (h.entries.set slot c))
    (hlen : len = usedCount (h.entries.set slot c))
    (htombs : tombstones = tombstoneCount (h.entries.set slot c))
    (hload : (len + tombstones) * 4 ≤ h.cap * 3) (hputs : len + tombstones ≤ m) :
    Sound hash entrySize ⟨h.entries.set slot c, len, tombstones⟩ M' m := by
  have hcap : (⟨h.entries.set slot c, len, tombstones⟩ : HashTable κ β).cap = h.cap :=
    length_set
  refine ⟨hvalid, hholds, hlen, htombs, ?_, ?_, ?_, hputs⟩
  · rw [hcap]
    exact hs.cap
  · rw [hcap]
    exact hs.fits
  · rw [hcap]
    exact hload

/-- **Rebuilding** ends and changes nothing that can be looked up. -/
theorem Sound.compact (alloc : Bool) :
    ∃ h', HashTable.compact hash entrySize h alloc = some h' ∧ Sound hash entrySize h' M n := by
  unfold HashTable.compact
  by_cases hmany : h.cap ≤ h.tombstones * 8 ∧ h.len * 2 < h.cap ∧ initialCap < h.cap
  · rw [if_pos hmany]
    obtain ⟨e, he, hcap⟩ := hs.cap.resolve_left (by omega)
    rw [hcap]
    rcases hs.rehash he (by rw [← hcap]; omega) alloc with ⟨hno, _⟩ | ⟨h', hdone, hs', _⟩
    · rw [hno]
      exact ⟨h, rfl, hs⟩
    · rw [hdone]
      exact ⟨h', rfl, hs'⟩
  · rw [if_neg hmany]
    exact ⟨h, rfl, hs⟩

end

section

variable [DecidableEq κ]

section

variable (hs : Sound hash entrySize h M n)
include hs

theorem Sound.findSlot (hcap : h.cap ≠ 0) (key : κ) :
    ∃ slot found, HashTable.findSlot hash h key = some (slot, found)
      ∧ Located hash h.entries key slot found :=
  probe_spec (hs.mask_mod hcap) hs.valid key (hs.empty_mem hcap)

/-- **Looking up** ends, with the value of the key. -/
theorem Sound.lookup (key : κ) : HashTable.lookup hash h key = some (M key) := by
  unfold HashTable.lookup
  by_cases hcap : h.cap = 0
  · rw [if_pos hcap, hs.eq_none_of_cap hcap]
  · obtain ⟨slot, found, hfind, hloc⟩ := hs.findSlot hcap key
    rw [if_neg hcap, hfind]
    cases found with
    | true => exact congrArg some (valueAt_of_found hs.holds hloc)
    | false => exact congrArg some (eq_none_of_not_found hs.holds hloc).symm

/-- **Writing** an entry where the search ended. -/
theorem Sound.putAt (hroom : h.Room) {key : κ} {slot : Nat}
    {found : Bool} (hloc : Located hash h.entries key slot found) (value : β) :
    Sound hash entrySize (h.putAt slot found key value) (update M key (some value))
      (n + 1) := by
  have hvalid := hloc.put_valid hs.valid value
  have hholds := hloc.put_holds hs.valid hs.holds value
  have hlen := hs.len
  have htombs := hs.tombstones
  have hload := hs.load
  have hputs := hs.puts
  cases found with
  | true =>
    obtain ⟨v, hcell⟩ := hloc
    have hused := usedCount_set hcell (.used key value)
    have htomb := tombstoneCount_set hcell (.used key value)
    simp only [isUsed, isTombstone, Bool.false_eq_true, if_false, if_true] at hused htomb
    exact hs.set hvalid hholds (by omega) (by omega) hload (by omega)
  | false =>
    obtain ⟨c, hc⟩ := hs.four_dvd_cap
    unfold Room at hroom
    rcases hloc.2.2 with hcell | hcell
    · have hused := usedCount_set hcell (.used key value)
      have htomb := tombstoneCount_set hcell (.used key value)
      simp only [isUsed, isTombstone, Bool.false_eq_true, if_false, if_true]
        at hused htomb
      have hput : h.putAt slot false key value
          = ⟨h.entries.set slot (.used key value), h.len + 1, h.tombstones⟩ := by
        simp [HashTable.putAt, hcell, isTombstone]
      rw [hput]
      exact hs.set hvalid hholds (by omega) (by omega) (by omega) (by omega)
    · have hused := usedCount_set hcell (.used key value)
      have htomb := tombstoneCount_set hcell (.used key value)
      simp only [isUsed, isTombstone, Bool.false_eq_true, if_false, if_true]
        at hused htomb
      have hput : h.putAt slot false key value
          = ⟨h.entries.set slot (.used key value), h.len + 1, h.tombstones - 1⟩ := by
        simp [HashTable.putAt, hcell, isTombstone]
      rw [hput]
      exact hs.set hvalid hholds (by omega) (by omega) (by omega) (by omega)

/-- **Removing** ends, and removes the entry of the key if there is one. -/
theorem Sound.remove (key : κ) (alloc : Bool) :
    ∃ h', HashTable.remove hash entrySize h key alloc = some (M key, h')
      ∧ Sound hash entrySize h' (update M key none) n := by
  have habsent : M key = none → Sound hash entrySize h (update M key none) n := by
    intro hnone
    rw [← hnone, update_eq_self]
    exact hs
  unfold HashTable.remove
  by_cases hcap : h.cap = 0
  · grind [hs.eq_none_of_cap]
  · rw [if_neg hcap]
    obtain ⟨slot, found, hfind, hloc⟩ := hs.findSlot hcap key
    rw [hfind]
    cases found with
    | false => grind [eq_none_of_not_found, hs.holds]
    | true =>
      obtain ⟨v, hcell⟩ := id hloc
      have hused := usedCount_set hcell .tombstone
      have htomb := tombstoneCount_set hcell .tombstone
      simp only [isUsed, isTombstone, Bool.false_eq_true, if_false, if_true]
        at hused htomb
      have hlen := hs.len
      have htombs := hs.tombstones
      have hload := hs.load
      have hputs := hs.puts
      have herased : Sound hash entrySize
          ⟨h.entries.set slot .tombstone, h.len - 1, h.tombstones + 1⟩
          (update M key none) n :=
        hs.set (hloc.erase_valid hs.valid) (hloc.erase_holds hs.valid hs.holds) (by omega)
          (by omega) (by omega) (by omega)
      obtain ⟨h', hcompact, hs'⟩ := herased.compact alloc
      refine ⟨h', ?_, hs'⟩
      simp only [hcompact, Option.map_some, valueAt_of_found hs.holds hloc]

end

end

theorem Sound.clear (hs : Sound hash entrySize h M n) :
    Sound hash entrySize h.clear (fun _ => none) n := by
  unfold HashTable.clear
  cases hempty : h.entries.isEmpty with
  | true =>
    have hcap : h.cap = 0 := by
      rw [HashTable.cap, List.isEmpty_iff.mp hempty, length_nil]
    have hM : M = fun _ => none := funext fun key => hs.eq_none_of_cap hcap key
    rw [if_pos rfl, ← hM]
    exact hs
  | false =>
    rw [if_neg Bool.false_ne_true]
    have hcap : (⟨replicate h.cap .empty, 0, 0⟩ : HashTable κ β).cap = h.cap :=
      length_replicate
    refine ⟨valid_replicate_empty hash _, fun key v => ?_, (usedCount_replicate_empty _).symm,
      (tombstoneCount_replicate_empty _).symm, ?_, ?_, Nat.zero_le _, Nat.zero_le _⟩
    · exact ⟨nofun, fun hmem => absurd hmem (used_notMem_replicate_empty _ key v)⟩
    · rw [hcap]
      exact hs.cap
    · rw [hcap]
      exact hs.fits

/-! ## Size -/

/-- A table of which at most `L` cells were ever used at once is not larger than `L` asks for, and
is mostly tombstones only if it is half full of entries. -/
structure Bounded (L : Nat) (h : HashTable κ β) : Prop where
  cap_le : h.cap ≤ max 32 (4 * L)
  compacted : h.cap ≤ initialCap ∨ h.tombstones * 8 < h.cap ∨ h.cap ≤ h.len * 2

theorem rehash_done {newCap : Nat} {alloc : Bool}
    (hr : rehash hash entrySize h newCap alloc = .done h') :
    h'.cap = newCap ∧ h'.len = h.len ∧ h'.tombstones = 0 := by
  unfold rehash at hr
  split at hr
  · split at hr
    · cases hr
    · rename_i hin
      cases hr
      exact ⟨(rehashInto_length hin).trans length_replicate, rfl, rfl⟩
  · cases hr

theorem Bounded.grow {alloc : Bool} (hb : h.Bounded L) (hlen : h.len ≤ L)
    (hg : h.grow hash entrySize alloc = .done h') : h'.Bounded L := by
  obtain ⟨hle, hcompacted⟩ := hb
  unfold HashTable.grow at hg
  unfold initialCap at hcompacted hg
  split_ifs at hg with hzero hfull
  · obtain ⟨hcap, -, -⟩ := rehash_done hg
    exact ⟨by omega, .inl hcap.le⟩
  · obtain ⟨hcap, -, htomb⟩ := rehash_done hg
    exact ⟨by omega, .inr (.inl (by omega))⟩
  · cases hg
    exact ⟨hle, hcompacted⟩

theorem Bounded.putAt (hb : h.Bounded L) (slot : Nat) (found : Bool) (key : κ) (value : β) :
    (h.putAt slot found key value).Bounded L := by
  have hcap : (h.putAt slot found key value).cap = h.cap := by
    unfold HashTable.putAt HashTable.cap
    split <;> exact length_set
  have hlen : h.len ≤ (h.putAt slot found key value).len := by
    unfold HashTable.putAt
    grind
  have htomb : (h.putAt slot found key value).tombstones ≤ h.tombstones := by
    unfold HashTable.putAt
    grind
  have hcompacted := hb.compacted
  exact ⟨hcap ▸ hb.cap_le, by omega⟩

theorem Bounded.compact (hle : h.cap ≤ max 32 (4 * L)) (hfits : h.cap * entrySize < 2 ^ 64)
    (hc : h.compact hash entrySize true = some h') : h'.Bounded L := by
  unfold HashTable.compact at hc
  split_ifs at hc with hmany
  · cases hr : rehash hash entrySize h h.cap true with
    | stuck => simp only [hr] at hc; cases hc
    | noMemory =>
      -- there is memory for a table of the same size
      unfold rehash at hr
      rw [decide_eq_true hfits, Bool.and_self, if_pos rfl] at hr
      split at hr <;> cases hr
    | done h'' =>
      simp only [hr] at hc
      cases hc
      obtain ⟨hcap, -, htomb⟩ := rehash_done hr
      exact ⟨hcap ▸ hle, .inr (.inl (by omega))⟩
  · cases hc
    exact ⟨hle, by omega⟩

theorem Bounded.remove [DecidableEq κ] {r : Option β × HashTable κ β} (hb : h.Bounded L)
    (hfits : h.cap * entrySize < 2 ^ 64) (hr : h.remove hash entrySize key true = some r) :
    r.2.Bounded L := by
  unfold HashTable.remove at hr
  split at hr
  · cases hr
    exact hb
  split at hr
  · cases hr
  · cases hr
    exact hb
  · obtain ⟨h', hc, rfl⟩ := Option.map_eq_some_iff.mp hr
    have hcap : ∀ (slot len tombs : Nat),
        (⟨h.entries.set slot .tombstone, len, tombs⟩ : HashTable κ β).cap = h.cap :=
      fun _ _ _ => length_set
    exact .compact (by rw [hcap]; exact hb.cap_le) (by rw [hcap]; exact hfits) hc

theorem Bounded.clear (hb : h.Bounded L) : h.clear.Bounded L := by
  unfold HashTable.clear
  split
  · exact hb
  · rename_i hne
    have hcap : (⟨replicate h.cap .empty, 0, 0⟩ : HashTable κ β).cap = h.cap :=
      length_replicate
    refine ⟨by rw [hcap]; exact hb.cap_le, .inr (.inl ?_)⟩
    rw [hcap]
    exact length_pos_iff.mpr fun hnil => hne (by rw [hnil]; rfl)

/-! ## Iteration -/

theorem iterate_from (h : HashTable κ β) (fuel idx : Nat) (hfuel : h.cap - idx < fuel) :
    h.iterate fuel idx = some (items (h.entries.drop idx)) := by
  induction fuel generalizing idx with
  | zero => exact absurd hfuel (Nat.not_lt_zero _)
  | succ fuel ih =>
    have hnext : h.next idx = nextUsed h.entries (h.cap - idx) idx := by
      unfold HashTable.next
      split
      · rename_i hcap
        rw [hcap, Nat.zero_sub]
        rfl
      · rfl
    rw [HashTable.iterate, hnext]
    rcases nextUsed_spec h.entries (h.cap - idx) idx rfl with
      ⟨hnone, hitems⟩ | ⟨kv, hsome, hgt, hle, hitems⟩
    · grind
    · grind [HashTable.cap]

/-- **Iterating** ends, and lists every entry, each key once. -/
theorem Sound.iterate (hs : Sound hash entrySize h M n) :
    ∃ l, h.iterate (h.cap + 1) 0 = some l ∧ (l.map Prod.fst).Nodup
      ∧ (∀ key value, (key, value) ∈ l ↔ M key = some value) ∧ l.length = h.len := by
  refine ⟨items h.entries, ?_, hs.valid.items_nodup, fun key value => ?_, ?_⟩
  · rw [iterate_from h (h.cap + 1) 0 (by omega), drop_zero]
  · rw [mem_items, hs.holds]
  · rw [length_items, hs.len]

end HashTable
