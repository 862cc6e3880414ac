import Mrtc.Lib.HashTable
import Mrtc.Map.Spec

/-! # The map from `uint32_t` to pointers (`rtc_u32_map.c`)

An instance of `HashTable`, whose operations follow the source line by line; `rtc_str_map.c` is
another.
-/

namespace Mrtc

open LinearProbing

variable {α : Type} {S : MapState UInt32 α}

abbrev U32Map (α : Type) : Type := HashTable UInt32 (Option α)

def u32MapEntrySize : Nat := 16

def fibMul : UInt32 := 2654435769

def u32Hash (key : UInt32) : Nat := (key * fibMul).toNat

def u32Put (m : U32Map α) (key : UInt32) (value : Option α) : Option (U32Map α) :=
  match m.findSlot u32Hash key with
  | none => none
  | some (slot, found) => some (m.putAt slot found key value)

def rtcU32MapSet (m : U32Map α) (key : UInt32) (value : Option α) (alloc : Bool) :
    Option (Except RtcErr Unit × U32Map α) :=
  match m.grow u32Hash u32MapEntrySize alloc with
  | .stuck => none
  | .noMemory => some (.error .nomem, m)
  | .done m => (u32Put m key value).map fun m => (.ok (), m)

def rtcU32MapGet (m : U32Map α) (key : UInt32) : Option (Option α) :=
  (m.lookup u32Hash key).map fun v => v.getD none

def rtcU32MapHas (m : U32Map α) (key : UInt32) : Option Bool :=
  (m.lookup u32Hash key).map Option.isSome

def rtcU32MapRemove (m : U32Map α) (key : UInt32) (alloc : Bool) : Option (Bool × U32Map α) :=
  (m.remove u32Hash u32MapEntrySize key alloc).map fun r => (r.1.isSome, r.2)

def rtcU32MapLen (m : U32Map α) : Nat := m.len

def rtcU32MapClear (m : U32Map α) : U32Map α := m.clear

/-! ## Runs -/

def u32MapStep (m : U32Map α) :
    MapOp UInt32 α Bool → Option (MapResult UInt32 α × U32Map α)
  | .set key value alloc => (rtcU32MapSet m key value alloc).map fun r => (.status r.1, r.2)
  | .get key => (rtcU32MapGet m key).map fun v => (.value v, m)
  | .has key => (rtcU32MapHas m key).map fun b => (.flag b, m)
  | .remove key alloc => (rtcU32MapRemove m key alloc).map fun r => (.flag r.1, r.2)
  | .clear => some (.done, rtcU32MapClear m)
  | .len => some (.size (rtcU32MapLen m), m)
  | .iterate => (m.iterate (m.cap + 1) 0).map fun l => (.items l, m)

def u32MapRun : U32Map α → List (MapOp UInt32 α Bool) →
    Option (List (MapResult UInt32 α) × U32Map α) :=
  mapRun u32MapStep

/-! ## Refinement -/

def U32Map.Represents (m : U32Map α) (S : MapState UInt32 α) : Prop :=
  HashTable.Sound u32Hash u32MapEntrySize m S.entries S.sets

variable {m : U32Map α}

section

variable (h : U32Map.Represents m S)
include h

theorem U32Map.Represents.set_cases (key : UInt32) (value : Option α) (alloc : Bool) :
    (rtcU32MapSet m key value alloc = some (.error .nomem, m) ∧ (alloc = false ∨ 2 ^ 58 ≤ S.sets))
      ∨ ∃ m', rtcU32MapSet m key value alloc = some (.ok (), m')
        ∧ U32Map.Represents m' ⟨Function.update S.entries key (some value), S.sets + 1⟩ := by
  unfold rtcU32MapSet
  rcases HashTable.Sound.grow h (by decide) (by decide) alloc with
    ⟨hno, hwhy⟩ | ⟨m₁, hdone, hs, hroom⟩
  · grind [u32MapEntrySize]
  · rw [hdone]
    obtain ⟨slot, found, hfind, hloc⟩ := hs.findSlot hroom.cap_ne_zero key
    simp only [u32Put, hfind, Option.map_some]
    exact .inr ⟨_, rfl, hs.putAt hroom hloc value⟩

theorem U32Map.Represents.set (key : UInt32) (value : Option α) (alloc : Bool) :
    ∃ rc m' S', rtcU32MapSet m key value alloc = some (rc, m')
      ∧ MapState.Step (· = false) S (.set key value alloc) (.status rc) S'
      ∧ U32Map.Represents m' S' := by
  rcases h.set_cases key value alloc with ⟨hset, hwhy⟩ | ⟨m', hset, hm'⟩
  · exact ⟨_, m, _, hset, .refused key value alloc hwhy, h.more (Nat.le_succ _)⟩
  · exact ⟨_, m', _, hset, .set key value alloc, hm'⟩

theorem U32Map.Represents.get (key : UInt32) :
    rtcU32MapGet m key = some ((S.entries key).getD none) := by
  rw [rtcU32MapGet, HashTable.Sound.lookup h key, Option.map_some]

end

theorem u32MapStep_refines (m : U32Map α) (S : MapState UInt32 α) (op : MapOp UInt32 α Bool)
    (h : U32Map.Represents m S) :
    ∃ r m' S', u32MapStep m op = some (r, m') ∧ MapState.Step (· = false) S op r S'
      ∧ U32Map.Represents m' S' := by
  cases op with
  | set key value alloc =>
    obtain ⟨rc, m', S', hset, hstep, h'⟩ := h.set key value alloc
    refine ⟨_, m', S', ?_, hstep, h'⟩
    rw [u32MapStep, hset, Option.map_some]
  | get key =>
    refine ⟨_, m, S, ?_, .get key, h⟩
    rw [u32MapStep, h.get, Option.map_some]
  | has key =>
    refine ⟨_, m, S, ?_, .has key, h⟩
    rw [u32MapStep, rtcU32MapHas, HashTable.Sound.lookup h key, Option.map_some, Option.map_some]
  | remove key alloc =>
    obtain ⟨m', hremove, h'⟩ := HashTable.Sound.remove h key alloc
    refine ⟨_, m', _, ?_, .remove key alloc, h'⟩
    rw [u32MapStep, rtcU32MapRemove, hremove, Option.map_some, Option.map_some]
  | clear => exact ⟨_, _, _, rfl, .clear, HashTable.Sound.clear h⟩
  | len =>
    obtain ⟨l, _, honce, hall, hlen⟩ := HashTable.Sound.iterate h
    refine ⟨_, m, S, rfl, ?_, h⟩
    rw [rtcU32MapLen, ← hlen, ← MapState.ncard_keys honce hall]
    exact .len
  | iterate =>
    obtain ⟨l, hl, honce, hall, _⟩ := HashTable.Sound.iterate h
    refine ⟨_, m, S, ?_, .iterate l honce hall, h⟩
    rw [u32MapStep, hl, Option.map_some]

/-- **The map is a finite map**: any sequence of calls, with any of its allocations failing,
returns, with the results of a run of the map of keys to values, and leaves an empty cell in the
table. -/
theorem u32MapRun_refines (ops : List (MapOp UInt32 α Bool)) :
    ∃ rs m S, u32MapRun ({} : U32Map α) ops = some (rs, m)
      ∧ MapState.Run (· = false) {} ops rs S ∧ (m.cap = 0 ∨ .empty ∈ m.entries) := by
  obtain ⟨rs, m, S, hrun, hspec, h⟩ := mapRun_refines u32MapStep_refines ops
    (show U32Map.Represents ({} : U32Map α) {} from HashTable.sound_empty u32Hash u32MapEntrySize)
  exact ⟨rs, m, S, hrun, hspec, or_iff_not_imp_left.mpr h.empty_mem⟩

/-! ## Size -/

theorem u32MapStep_bounded {L : Nat} (m : U32Map α) (op : MapOp UInt32 α Bool)
    (h : (∃ S, U32Map.Represents m S) ∧ m.Bounded L) (hop : op.Granted (· = true))
    (hlen : rtcU32MapLen m ≤ L) :
    ∃ r m', u32MapStep m op = some (r, m') ∧ (∃ S, U32Map.Represents m' S) ∧ m'.Bounded L := by
  obtain ⟨⟨S, hS⟩, hb⟩ := h
  obtain ⟨r, m', S', hstep, -, hS'⟩ := u32MapStep_refines m S op hS
  refine ⟨r, m', hstep, ⟨S', hS'⟩, ?_⟩
  cases op with
  | set key value alloc =>
    obtain ⟨r', hset, heq⟩ := Option.map_eq_some_iff.mp hstep
    cases heq
    unfold rtcU32MapSet at hset
    split at hset
    · cases hset
    · cases hset
      exact hb
    · rename_i hgrow
      obtain ⟨m₂, hput, rfl⟩ := Option.map_eq_some_iff.mp hset
      unfold u32Put at hput
      split at hput
      · cases hput
      · cases hput
        exact (hb.grow hlen hgrow).putAt ..
  | remove key alloc =>
    obtain rfl : alloc = true := hop
    obtain ⟨r', hremove, heq⟩ := Option.map_eq_some_iff.mp hstep
    cases heq
    obtain ⟨r'', hfound, rfl⟩ := Option.map_eq_some_iff.mp hremove
    exact hb.remove hS.fits hfound
  | clear =>
    cases hstep
    exact hb.clear
  | get | has | iterate =>
    obtain ⟨v, hv, heq⟩ := Option.map_eq_some_iff.mp hstep
    cases heq
    exact hb
  | len =>
    cases hstep
    exact hb

end Mrtc
