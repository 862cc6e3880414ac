import Mrtc.Map.U32

/-! # The map from strings to pointers (`rtc_str_map.c`)

A second instance of `HashTable`.
-/

namespace Mrtc

open LinearProbing List Function

variable {α : Type} {ownsKeys : Bool}

abbrev CString : Type := { bytes : List UInt8 // 0 ∉ bytes }

def fnv1a (s : CString) : UInt32 :=
  s.val.foldl (fun h b => (h ^^^ b.toUInt32) * 16777619) 2166136261

structure StrKey where
  text : CString
  hash : UInt32
  deriving DecidableEq

def strKey (text : CString) : StrKey := ⟨text, fnv1a text⟩

structure StrEntry (α : Type) where
  copy : Option Nat
  value : Option α
  deriving DecidableEq

open StrEntry

structure StrMap (α : Type) where
  table : HashTable StrKey (StrEntry α) := {}
  ownsKeys : Bool
  made : Nat := 0
  freed : List Nat := []

structure StrAlloc where
  table : Bool := true
  key : Bool := true
  deriving DecidableEq

def strMapEntrySize : Nat := 24

def strHash (key : StrKey) : Nat := key.hash.toNat

def strMapInit (ownsKeys : Bool) : StrMap α := { ownsKeys := ownsKeys }

def strPut (m : StrMap α) (key : CString) (value : Option α) (alloc : StrAlloc) :
    Option (Except RtcErr Unit × StrMap α) :=
  match m.table.findSlot strHash (strKey key) with
  | none => none
  | some (slot, true) =>
    -- the stored key stays
    let copy := (m.table.valueAt slot).bind copy
    some (.ok (), { m with table := m.table.putAt slot true (strKey key) ⟨copy, value⟩ })
  | some (slot, false) =>
    if m.ownsKeys then
      if alloc.key then
        some (.ok (), { m with
          table := m.table.putAt slot false (strKey key) ⟨some m.made, value⟩
          made := m.made + 1 })
      else some (.error .nomem, m)
    else
      some (.ok (), { m with table := m.table.putAt slot false (strKey key) ⟨none, value⟩ })

def rtcStrMapSet (m : StrMap α) (key : CString) (value : Option α) (alloc : StrAlloc) :
    Option (Except RtcErr Unit × StrMap α) :=
  match m.table.grow strHash strMapEntrySize alloc.table with
  | .stuck => none
  | .noMemory => some (.error .nomem, m)
  | .done table => strPut { m with table := table } key value alloc

def rtcStrMapGet (m : StrMap α) (key : CString) : Option (Option α) :=
  (m.table.lookup strHash (strKey key)).map fun e => (e.map value).getD none

def rtcStrMapHas (m : StrMap α) (key : CString) : Option Bool :=
  (m.table.lookup strHash (strKey key)).map Option.isSome

def rtcStrMapRemove (m : StrMap α) (key : CString) (alloc : StrAlloc) :
    Option (Bool × StrMap α) :=
  (m.table.remove strHash strMapEntrySize (strKey key) alloc.table).map fun r =>
    (r.1.isSome, { m with table := r.2, freed := m.freed ++ (r.1.bind copy).toList })

def rtcStrMapLen (m : StrMap α) : Nat := m.table.len

def StrMap.copies (m : StrMap α) : List Nat :=
  (items m.table.entries).filterMap fun kv => kv.2.copy

def rtcStrMapClear (m : StrMap α) : StrMap α :=
  { m with table := m.table.clear, freed := m.freed ++ m.copies }

def strMapStep (m : StrMap α) :
    MapOp CString α StrAlloc → Option (MapResult CString α × StrMap α)
  | .set key value alloc => (rtcStrMapSet m key value alloc).map fun r => (.status r.1, r.2)
  | .get key => (rtcStrMapGet m key).map fun v => (.value v, m)
  | .has key => (rtcStrMapHas m key).map fun b => (.flag b, m)
  | .remove key alloc => (rtcStrMapRemove m key alloc).map fun r => (.flag r.1, r.2)
  | .clear => some (.done, rtcStrMapClear m)
  | .len => some (.size (rtcStrMapLen m), m)
  | .iterate =>
    (m.table.iterate (m.table.cap + 1) 0).map fun l =>
      (.items (l.map fun kv => (kv.1.text, kv.2.value)), m)

def strMapRun : StrMap α → List (MapOp CString α StrAlloc) →
    Option (List (MapResult CString α) × StrMap α) :=
  mapRun strMapStep

/-! ## Key copies -/

/-- Each copy of a key is freed or belongs to one live key. -/
structure Owned {κ : Type} (C : κ → Option Nat) (made : Nat) (freed : List Nat) : Prop where
  freed_nodup : freed.Nodup
  freed_lt : ∀ id ∈ freed, id < made
  live : ∀ k id, C k = some id → id < made ∧ id ∉ freed
  one : ∀ k k' id, C k = some id → C k' = some id → k = k'
  all : ∀ id < made, id ∈ freed ∨ ∃ k, C k = some id

section

variable {κ : Type} {C : κ → Option Nat} {made : Nat} {freed : List Nat}

theorem owned_none : Owned (fun _ : κ => none) 0 [] where
  freed_nodup := nodup_nil
  freed_lt id hid := absurd hid not_mem_nil
  live k id h := by cases h
  one k k' id h := by cases h
  all id hid := absurd hid (Nat.not_lt_zero id)

section

variable (h : Owned C made freed)
include h

theorem Owned.make [DecidableEq κ] {key : κ} (hnone : C key = none) :
    Owned (update C key (some made)) (made + 1) freed := by
  have hother : ∀ k id, update C key (some made) k = some id →
      (k = key ∧ id = made) ∨ (k ≠ key ∧ C k = some id) := by grind
  refine ⟨h.freed_nodup, fun id hid => Nat.lt_succ_of_lt (h.freed_lt id hid), ?_, ?_, ?_⟩
  · intro k id hk
    rcases hother k id hk with ⟨_, rfl⟩ | ⟨_, hold⟩
    · exact ⟨Nat.lt_succ_self _, fun hmem => absurd (h.freed_lt _ hmem) (lt_irrefl _)⟩
    · exact ⟨Nat.lt_succ_of_lt (h.live k id hold).1, (h.live k id hold).2⟩
  · intro k k' id hk hk'
    rcases hother k id hk with ⟨hkey, hid⟩ | ⟨_, hold⟩
    · rcases hother k' id hk' with ⟨hkey', _⟩ | ⟨_, hold'⟩
      · rw [hkey, hkey']
      · exact absurd (h.live k' id hold').1 (by omega)
    · rcases hother k' id hk' with ⟨_, hid'⟩ | ⟨_, hold'⟩
      · exact absurd (h.live k id hold).1 (by omega)
      · exact h.one k k' id hold hold'
  · intro id hid
    rcases Nat.lt_succ_iff_lt_or_eq.mp hid with hlt | rfl
    · rcases h.all id hlt with hfreed | ⟨k, hk⟩
      · exact Or.inl hfreed
      · grind
    · exact Or.inr ⟨key, update_self key _ C⟩

theorem Owned.release {C' : κ → Option Nat} {l : List Nat} (hl : l.Nodup)
    (hmem : ∀ id, id ∈ l ↔ ∃ k, C k = some id ∧ C' k = none)
    (hkeep : ∀ k id, C' k = some id → C k = some id) (hdrop : ∀ k, C' k = none ∨ C' k = C k) :
    Owned C' made (freed ++ l) := by
  have hlive : ∀ id ∈ l, id < made ∧ id ∉ freed := by
    intro id hid
    obtain ⟨k, hk, _⟩ := (hmem id).mp hid
    exact h.live k id hk
  refine ⟨?_, ?_, ?_, ?_, ?_⟩
  · grind [nodup_append, h.freed_nodup]
  · grind [h.freed_lt]
  · intro k id hk
    have hold := hkeep k id hk
    refine ⟨(h.live k id hold).1, fun hid => ?_⟩
    rcases mem_append.mp hid with hid | hid
    · exact (h.live k id hold).2 hid
    · -- the key that gave the copy up is the only one that had it
      obtain ⟨k', hk', hnone⟩ := (hmem id).mp hid
      rw [h.one k k' id hold hk', hnone] at hk
      cases hk
  · intro k k' id hk hk'
    exact h.one k k' id (hkeep k id hk) (hkeep k' id hk')
  · intro id hid
    rcases h.all id hid with hfreed | ⟨k, hk⟩
    · exact Or.inl (mem_append_left l hfreed)
    · grind

theorem Owned.release_one [DecidableEq κ] (key : κ) :
    Owned (update C key none) made (freed ++ (C key).toList) := by
  refine h.release ?_ ?_ ?_ ?_
  · grind
  · intro id
    rw [Option.mem_toList]
    constructor
    · intro hid
      exact ⟨key, hid, update_self key none C⟩
    · grind
  · grind
  · grind

end

end

/-! ## Refinement -/

def copyIn (M : StrKey → Option (StrEntry α)) (k : StrKey) : Option Nat :=
  (M k).bind copy

structure StrMap.Tabulates (m : StrMap α) (M : StrKey → Option (StrEntry α))
    (S : MapState CString α) : Prop where
  sound : HashTable.Sound strHash strMapEntrySize m.table M S.sets
  cached : ∀ k e, M k = some e → k = strKey k.text
  entries : ∀ text, S.entries text = (M (strKey text)).map value
  owned : Owned (copyIn M) m.made m.freed

def StrMap.Represents (ownsKeys : Bool) (m : StrMap α) (S : MapState CString α) : Prop :=
  m.ownsKeys = ownsKeys ∧ ∃ M, m.Tabulates M S

theorem StrMap.represents_init (ownsKeys : Bool) :
    StrMap.Represents ownsKeys (strMapInit ownsKeys : StrMap α) {} :=
  ⟨rfl, fun _ => none, HashTable.sound_empty strHash strMapEntrySize, nofun, fun _ => rfl,
    owned_none⟩

variable {m : StrMap α} {S : MapState CString α} {M : StrKey → Option (StrEntry α)}

theorem StrMap.Represents.get (h : m.Represents ownsKeys S) (key : CString) :
    rtcStrMapGet m key = some ((S.entries key).getD none) := by
  obtain ⟨-, M, hM⟩ := h
  rw [rtcStrMapGet, hM.sound.lookup, Option.map_some, hM.entries]

def StrAlloc.Fails (ownsKeys : Bool) (alloc : StrAlloc) : Prop :=
  alloc.table = false ∨ (ownsKeys = true ∧ alloc.key = false)

theorem strKey_injective : Function.Injective strKey := fun _ _ h => congrArg StrKey.text h

theorem copyIn_update (M : StrKey → Option (StrEntry α)) (k : StrKey) (e : Option (StrEntry α)) :
    copyIn (update M k e) = update (copyIn M) k (e.bind copy) := by
  funext k'
  unfold copyIn
  by_cases hk : k' = k
  · rw [hk, update_self, update_self]
  · rw [update_of_ne hk, update_of_ne hk]

theorem entries_update (h : ∀ text, S.entries text = (M (strKey text)).map value)
    (key : CString) (e : Option (StrEntry α)) (text : CString) :
    update S.entries key (e.map value) text
      = (update M (strKey key) e (strKey text)).map value := by
  by_cases hk : text = key
  · rw [hk, update_self, update_self]
  · rw [update_of_ne hk, update_of_ne (strKey_injective.ne hk)]
    exact h text

theorem cached_update (h : ∀ k e, M k = some e → k = strKey k.text) (key : CString)
    (e : Option (StrEntry α)) :
    ∀ k e', update M (strKey key) e k = some e' → k = strKey k.text := by
  intro k e' hk
  by_cases heq : k = strKey key
  · rw [heq]
    rfl
  · rw [update_of_ne heq] at hk
    exact h k e' hk

theorem StrMap.Tabulates.put (h : m.Tabulates M S) (hroom : m.table.Room) {key : CString}
    {slot : Nat} {found : Bool} (hloc : Located strHash m.table.entries (strKey key) slot found)
    (copy : Option Nat) (value : Option α) {made : Nat}
    (howned : Owned (update (copyIn M) (strKey key) copy) made m.freed) :
    StrMap.Tabulates
      { m with table := m.table.putAt slot found (strKey key) ⟨copy, value⟩, made := made }
      (update M (strKey key) (some ⟨copy, value⟩))
      ⟨update S.entries key (some value), S.sets + 1⟩ where
  sound := h.sound.putAt hroom hloc ⟨copy, value⟩
  cached := cached_update h.cached key _
  entries := entries_update h.entries key (some ⟨copy, value⟩)
  owned := by
    rw [copyIn_update]
    exact howned

theorem StrMap.Tabulates.strPut_cases (h : m.Tabulates M S) (hroom : m.table.Room) (key : CString)
    (value : Option α) (alloc : StrAlloc) :
    (m.ownsKeys = true ∧ alloc.key = false ∧ strPut m key value alloc = some (.error .nomem, m))
      ∨ ∃ m' M', strPut m key value alloc = some (.ok (), m') ∧ m'.ownsKeys = m.ownsKeys
        ∧ m'.Tabulates M' ⟨update S.entries key (some value), S.sets + 1⟩ := by
  obtain ⟨slot, found, hfind, hloc⟩ := h.sound.findSlot hroom.cap_ne_zero (strKey key)
  unfold strPut
  rw [hfind]
  cases found with
  | true =>
    -- the key keeps its copy
    have hcopy : (m.table.valueAt slot).bind copy = copyIn M (strKey key) := by
      rw [HashTable.valueAt_of_found h.sound.holds hloc, copyIn]
    simp only [hcopy]
    refine .inr ⟨_, _, rfl, rfl, h.put hroom hloc _ value ?_⟩
    rw [update_eq_self]
    exact h.owned
  | false =>
    have hnone := HashTable.eq_none_of_not_found h.sound.holds hloc
    have hcopy : copyIn M (strKey key) = none := by rw [copyIn, hnone, Option.bind_none]
    dsimp only
    by_cases hcase : m.ownsKeys = true
    · rw [if_pos hcase]
      by_cases halloc : alloc.key = true
      · rw [if_pos halloc]
        exact .inr ⟨_, _, rfl, rfl, h.put hroom hloc (some m.made) value (h.owned.make hcopy)⟩
      · rw [if_neg halloc]
        exact .inl ⟨hcase, Bool.eq_false_iff.mpr halloc, rfl⟩
    · rw [if_neg hcase]
      refine .inr ⟨_, _, rfl, rfl, h.put hroom hloc none value ?_⟩
      rw [← hcopy, update_eq_self]
      exact h.owned

theorem StrMap.Represents.set_cases
    (h : m.Represents ownsKeys S) (key : CString) (value : Option α) (alloc : StrAlloc) :
    (∃ m', rtcStrMapSet m key value alloc = some (.error .nomem, m')
        ∧ StrMap.Represents ownsKeys m' S ∧ (StrAlloc.Fails ownsKeys alloc ∨ 2 ^ 58 ≤ S.sets))
      ∨ ∃ m', rtcStrMapSet m key value alloc = some (.ok (), m')
        ∧ StrMap.Represents ownsKeys m'
          ⟨update S.entries key (some value), S.sets + 1⟩ := by
  obtain ⟨howns, M, hM⟩ := h
  unfold rtcStrMapSet
  rcases hM.sound.grow (by decide) (by decide) alloc.table with
    ⟨hno, hwhy⟩ | ⟨table, hdone, hs, hroom⟩
  · rw [hno]
    refine .inl ⟨m, rfl, ⟨howns, M, hM⟩, ?_⟩
    rcases hwhy with hfail | hbig
    · exact .inl (.inl hfail)
    · right
      unfold strMapEntrySize at hbig
      omega
  · rw [hdone]
    have hM' : StrMap.Tabulates { m with table := table } M S :=
      ⟨hs, hM.cached, hM.entries, hM.owned⟩
    rcases hM'.strPut_cases hroom key value alloc with
      ⟨hcase, halloc, hput⟩ | ⟨m', M', hput, howns', hM''⟩
    · exact .inl ⟨_, hput, ⟨howns, M, hM'⟩, .inl (.inr ⟨howns ▸ hcase, halloc⟩)⟩
    · exact .inr ⟨m', hput, howns'.trans howns, M', hM''⟩

theorem StrMap.Represents.set
    (h : m.Represents ownsKeys S) (key : CString) (value : Option α) (alloc : StrAlloc) :
    ∃ rc m' S', rtcStrMapSet m key value alloc = some (rc, m')
      ∧ MapState.Step (StrAlloc.Fails ownsKeys) S (.set key value alloc) (.status rc) S'
      ∧ StrMap.Represents ownsKeys m' S' := by
  rcases h.set_cases key value alloc with ⟨m', hset, ⟨howns, M, hM⟩, hwhy⟩ | ⟨m', hset, hm'⟩
  · exact ⟨_, m', _, hset, .refused key value alloc hwhy, howns, M,
      ⟨hM.sound.more (Nat.le_succ _), hM.cached, hM.entries, hM.owned⟩⟩
  · exact ⟨_, m', _, hset, .set key value alloc, hm'⟩

theorem StrMap.Tabulates.remove (h : m.Tabulates M S) (key : CString) (alloc : StrAlloc) :
    ∃ m', rtcStrMapRemove m key alloc = some ((S.entries key).isSome, m')
      ∧ m'.ownsKeys = m.ownsKeys
      ∧ m'.Tabulates (update M (strKey key) none)
        { S with entries := update S.entries key none } := by
  obtain ⟨table, hremove, hs⟩ := h.sound.remove (strKey key) alloc.table
  refine ⟨{ m with table := table, freed := m.freed ++ (copyIn M (strKey key)).toList }, ?_, rfl,
    hs, cached_update h.cached key none, entries_update h.entries key none, ?_⟩
  · rw [rtcStrMapRemove, hremove, Option.map_some, h.entries, Option.isSome_map]
    rfl
  · rw [copyIn_update]
    exact h.owned.release_one (strKey key)

theorem StrMap.Represents.remove (h : m.Represents ownsKeys S) (key : CString) (alloc : StrAlloc) :
    ∃ m', rtcStrMapRemove m key alloc = some ((S.entries key).isSome, m')
      ∧ m'.Represents ownsKeys { S with entries := update S.entries key none } := by
  obtain ⟨howns, M, hM⟩ := h
  obtain ⟨m', hremove, howns', hM'⟩ := hM.remove key alloc
  exact ⟨m', hremove, howns'.trans howns, _, hM'⟩

section

variable (h : m.Tabulates M S)
include h

theorem StrMap.Tabulates.copies :
    m.copies.Nodup ∧ ∀ id, id ∈ m.copies ↔ ∃ k, copyIn M k = some id := by
  have hitem : ∀ k e, (k, e) ∈ items m.table.entries ↔ M k = some e := by
    intro k e
    rw [mem_items, h.sound.holds]
  have hcopy : ∀ kv ∈ items m.table.entries, copyIn M kv.1 = kv.2.copy := by
    intro kv hkv
    rw [copyIn, (hitem kv.1 kv.2).mp hkv, Option.bind_some]
  constructor
  · have hkeys := pairwise_map.mp h.sound.valid.items_nodup
    refine pairwise_filterMap.mpr (hkeys.imp_of_mem ?_)
    intro a b ha hb hne id hid id' hid' heq
    refine hne (h.owned.one a.1 b.1 id ?_ ?_)
    · exact (hcopy a ha).trans hid
    · exact (hcopy b hb).trans (heq ▸ hid')
  · intro id
    unfold StrMap.copies
    rw [mem_filterMap]
    constructor
    · rintro ⟨kv, hkv, hid⟩
      exact ⟨kv.1, (hcopy kv hkv).trans hid⟩
    · rintro ⟨k, hk⟩
      obtain ⟨e, he, hid⟩ := Option.bind_eq_some_iff.mp hk
      exact ⟨(k, e), (hitem k e).mpr he, hid⟩

theorem StrMap.Tabulates.release_all :
    Owned (fun _ : StrKey => none) m.made (m.freed ++ m.copies) := by
  obtain ⟨hnodup, hmem⟩ := h.copies
  refine h.owned.release hnodup ?_ nofun fun _ => Or.inl rfl
  intro id
  rw [hmem]
  exact exists_congr fun k => (and_iff_left rfl).symm

theorem StrMap.Tabulates.clear :
    (rtcStrMapClear m).Tabulates (fun _ => none) { S with entries := fun _ => none } where
  sound := h.sound.clear
  cached k e hk := by cases hk
  entries text := rfl
  owned := h.release_all

theorem StrMap.Tabulates.iterate :
    ∃ l, m.table.iterate (m.table.cap + 1) 0 = some l
      ∧ ((l.map fun kv => (kv.1.text, kv.2.value)).map Prod.fst).Nodup
      ∧ (∀ text value, (text, value) ∈ l.map (fun kv => (kv.1.text, kv.2.value))
        ↔ S.entries text = some value)
      ∧ l.length = m.table.len := by
  obtain ⟨l, hl, honce, hall, hlen⟩ := h.sound.iterate
  have hcached : ∀ kv ∈ l, kv.1 = strKey kv.1.text := fun kv hkv =>
    h.cached kv.1 kv.2 ((hall kv.1 kv.2).mp hkv)
  refine ⟨l, hl, ?_, ?_, hlen⟩
  · rw [map_map]
    refine pairwise_map.mpr ((pairwise_map.mp honce).imp_of_mem ?_)
    intro a b ha hb hne (htext : a.1.text = b.1.text)
    refine hne ?_
    rw [hcached a ha, hcached b hb, htext]
  · intro text value
    rw [mem_map, h.entries, Option.map_eq_some_iff]
    constructor
    · grind
    · rintro ⟨e, he, rfl⟩
      exact ⟨(strKey text, e), (hall _ e).mpr he, rfl⟩

end

theorem strMapStep_refines (ownsKeys : Bool) (m : StrMap α) (S : MapState CString α)
    (op : MapOp CString α StrAlloc) (h : m.Represents ownsKeys S) :
    ∃ r m' S', strMapStep m op = some (r, m')
      ∧ MapState.Step (StrAlloc.Fails ownsKeys) S op r S' ∧ m'.Represents ownsKeys S' := by
  obtain ⟨howns, M, hM⟩ := id h
  have hlookup := hM.sound.lookup
  cases op with
  | set key value alloc =>
    obtain ⟨rc, m', S', hset, hstep, h'⟩ := h.set key value alloc
    refine ⟨_, m', S', ?_, hstep, h'⟩
    rw [strMapStep, hset, Option.map_some]
  | get key =>
    refine ⟨_, m, S, ?_, .get key, h⟩
    rw [strMapStep, h.get, Option.map_some]
  | has key =>
    refine ⟨_, m, S, ?_, .has key, h⟩
    rw [strMapStep, rtcStrMapHas, hlookup, Option.map_some, Option.map_some, hM.entries,
      Option.isSome_map]
  | remove key alloc =>
    obtain ⟨m', hremove, h'⟩ := h.remove key alloc
    refine ⟨_, m', _, ?_, .remove key alloc, h'⟩
    rw [strMapStep, hremove, Option.map_some]
  | clear => exact ⟨_, _, _, rfl, .clear, howns, _, hM.clear⟩
  | len =>
    obtain ⟨l, _, honce, hall, hlen⟩ := hM.iterate
    refine ⟨_, m, S, rfl, ?_, h⟩
    have hcard := MapState.ncard_keys honce hall
    rw [length_map, hlen] at hcard
    rw [rtcStrMapLen, ← hcard]
    exact .len
  | iterate =>
    obtain ⟨l, hl, honce, hall, _⟩ := hM.iterate
    refine ⟨_, m, S, ?_, .iterate _ honce hall, h⟩
    rw [strMapStep, hl, Option.map_some]

theorem strMapStep_bounded {L : Nat} {ownsKeys : Bool} (m : StrMap α)
    (op : MapOp CString α StrAlloc) (h : (∃ S, m.Represents ownsKeys S) ∧ m.table.Bounded L)
    (hop : op.Granted fun alloc => alloc.table = true ∧ alloc.key = true)
    (hlen : rtcStrMapLen m ≤ L) :
    ∃ r m', strMapStep m op = some (r, m')
      ∧ (∃ S, m'.Represents ownsKeys S) ∧ m'.table.Bounded L := by
  obtain ⟨⟨S, hS⟩, hb⟩ := h
  obtain ⟨r, m', S', hstep, -, hS'⟩ := strMapStep_refines ownsKeys m S op hS
  obtain ⟨-, M, hM⟩ := hS
  refine ⟨r, m', hstep, ⟨S', hS'⟩, ?_⟩
  cases op with
  | set key value alloc =>
    obtain ⟨r', hset, heq⟩ := Option.map_eq_some_iff.mp hstep
    cases heq
    unfold rtcStrMapSet at hset
    split at hset
    · cases hset
    · cases hset
      exact hb
    · rename_i hgrow
      have hb' := hb.grow hlen hgrow
      unfold strPut at hset
      split at hset
      · cases hset
      · cases hset
        dsimp only
        exact hb'.putAt _ _ _ _
      · split_ifs at hset
        · cases hset
          dsimp only
          exact hb'.putAt _ _ _ _
        · cases hset
          exact hb'
        · cases hset
          dsimp only
          exact hb'.putAt _ _ _ _
  | remove key alloc =>
    obtain ⟨r', hremove, heq⟩ := Option.map_eq_some_iff.mp hstep
    cases heq
    obtain ⟨r'', hfound, rfl⟩ := Option.map_eq_some_iff.mp hremove
    rw [hop.1] at hfound
    exact hb.remove hM.sound.fits hfound
  | clear =>
    cases hstep
    exact hb.clear
  | get | has | iterate =>
    obtain ⟨v, hv, heq⟩ := Option.map_eq_some_iff.mp hstep
    cases heq
    exact hb
  | len =>
    cases hstep
    exact hb

/-- **The tables are bounded by what is live in them**: after any calls whose allocations succeed
and between which at most `L` keys are live, either map has at most `max 32 (4 * L)` cells. -/
theorem maps_bounded_by_live (L : Nat) :
    (∀ ops : List (MapOp UInt32 α Bool), (∀ op ∈ ops, op.Granted (· = true)) →
      LiveAtMost u32MapStep rtcU32MapLen L {} ops →
      ∃ rs m, u32MapRun ({} : U32Map α) ops = some (rs, m) ∧ m.cap ≤ max 32 (4 * L))
    ∧ ∀ (ownsKeys : Bool) (ops : List (MapOp CString α StrAlloc)),
      (∀ op ∈ ops, op.Granted fun alloc => alloc.table = true ∧ alloc.key = true) →
      LiveAtMost strMapStep rtcStrMapLen L (strMapInit ownsKeys) ops →
      ∃ rs m, strMapRun (strMapInit ownsKeys : StrMap α) ops = some (rs, m)
        ∧ m.table.cap ≤ max 32 (4 * L) := by
  have hempty : ∀ {κ β : Type}, ({} : HashTable κ β).Bounded L :=
    ⟨Nat.zero_le _, .inl (Nat.zero_le _)⟩
  constructor
  · intro ops hops hlive
    obtain ⟨rs, m, hrun, -, hb⟩ := mapRun_invariant u32MapStep_bounded ops hops
      ⟨⟨{}, HashTable.sound_empty u32Hash u32MapEntrySize⟩, hempty⟩ hlive
    exact ⟨rs, m, hrun, hb.cap_le⟩
  · intro ownsKeys ops hops hlive
    obtain ⟨rs, m, hrun, -, hb⟩ := mapRun_invariant (@strMapStep_bounded α L ownsKeys) ops hops
      ⟨⟨{}, StrMap.represents_init ownsKeys⟩, hempty⟩ hlive
    exact ⟨rs, m, hrun, hb.cap_le⟩

def churnOps {κ A : Type} (key key' : κ) (alloc : A) : List (MapOp κ Nat A) :=
  [.set key (some 5) alloc, .remove key alloc, .set key' none alloc, .remove key' alloc]

theorem churnOps_bounded :
    (∃ rs m, u32MapRun ({} : U32Map Nat) (churnOps 7 23 true) = some (rs, m) ∧ m.cap ≤ 32)
      ∧ ∃ rs m, strMapRun (strMapInit true : StrMap Nat)
          (churnOps ⟨[1], by decide⟩ ⟨[2], by decide⟩ {}) = some (rs, m) ∧ m.table.cap ≤ 32 :=
  have hu32 : LiveAtMost u32MapStep rtcU32MapLen 1 ({} : U32Map Nat) (churnOps 7 23 true) :=
    liveAtMost_of_inits (by decide +kernel)
  have hstr : LiveAtMost strMapStep rtcStrMapLen 1 (strMapInit true : StrMap Nat)
      (churnOps ⟨[1], by decide⟩ ⟨[2], by decide⟩ {}) := liveAtMost_of_inits (by decide +kernel)
  ⟨(maps_bounded_by_live 1).1 _ (by simp [churnOps, MapOp.Granted]) hu32,
    (maps_bounded_by_live 1).2 true _ (by simp [churnOps, MapOp.Granted]) hstr⟩

end Mrtc
