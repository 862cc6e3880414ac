import Mrtc.Srtp.Replay

/-! # The per-SSRC stream table (`rtc_srtp.c`, `srtp_find_ssrc`, `srtp_entry_for_ssrc`)

A context keeps eight entries per direction, one for each SSRC it has seen, and evicts the
least recently used one when a ninth SSRC arrives.
-/

namespace Mrtc

open List

def srtpReplayMaxStreams : Nat := 8

structure StreamEntry where
  ssrc : Nat := 0
  inUse : Bool := false
  lruTick : Nat := 0
  roc : Nat := 0
  lastSeq : Nat := 0
  rocInit : Bool := false
  replay : Replay := {}
  deriving DecidableEq

open StreamEntry

def StreamEntry.hits (ssrc : Nat) (e : StreamEntry) : Bool := e.inUse && e.ssrc == ssrc

variable {ssrc : Nat} {e : StreamEntry} {other : Nat}

theorem StreamEntry.hits_iff : e.hits ssrc = true ↔ e.inUse = true ∧ e.ssrc = ssrc := by
  simp [hits]

theorem StreamEntry.not_hits_other (h : e.hits ssrc = true) (hne : other ≠ ssrc) :
    e.hits other = false := by
  rw [hits_iff] at h
  rw [Bool.eq_false_iff, Ne, hits_iff]
  rintro ⟨-, rfl⟩
  exact hne h.2

@[ext]
structure StreamTable where
  entries : List StreamEntry
  size : entries.length = srtpReplayMaxStreams

def StreamTable.empty : StreamTable := ⟨replicate srtpReplayMaxStreams {}, by simp⟩

def StreamTable.set (t : StreamTable) (i : Nat) (e : StreamEntry) : StreamTable :=
  ⟨t.entries.set i e, by rw [length_set]; exact t.size⟩

def srtpFindSsrc (t : StreamTable) (ssrc : Nat) : Option StreamEntry :=
  t.entries.find? (hits ssrc)

/-- The loop of `srtp_entry_for_ssrc` from position `i` on, with the current `free_slot` and
`lru_slot` (its position and tick): the position of the entry of `ssrc`, or the two slots. -/
def scanEntries (ssrc : Nat) : List StreamEntry → Nat → Option Nat → Nat × Nat →
    Nat ⊕ (Option Nat × Nat)
  | [], _, free, lru => .inr (free, lru.1)
  | e :: es, i, free, lru =>
    if e.hits ssrc then .inl i
    else
      scanEntries ssrc es (i + 1)
        (if !e.inUse && free.isNone then some i else free)
        (if e.lruTick < lru.2 then (i, e.lruTick) else lru)

structure Slot where
  idx : Nat
  table : StreamTable
  tick : Nat

open Slot

def Slot.entry (s : Slot) : StreamEntry := s.table.entries.getD s.idx {}

def Slot.put (s : Slot) (e : StreamEntry) : StreamTable := s.table.set s.idx e

def srtpEntryForSsrc (t : StreamTable) (lruTick ssrc : Nat) : Slot :=
  let tick := (lruTick + 1) % 2 ^ 64
  match scanEntries ssrc t.entries 0 none (0, (t.entries.getD 0 {}).lruTick) with
  | .inl i => ⟨i, t.set i { t.entries.getD i {} with lruTick := tick }, tick⟩
  | .inr (free, lru) =>
    let i := free.getD lru
    ⟨i, t.set i { ssrc := ssrc, inUse := true, lruTick := tick }, tick⟩

def StreamTable.Admits (t : StreamTable) (ssrc : Nat) : Prop :=
  (srtpFindSsrc t ssrc).isSome = true ∨ ∃ e ∈ t.entries, e.inUse = false

instance (t : StreamTable) (ssrc : Nat) : Decidable (t.Admits ssrc) :=
  inferInstanceAs (Decidable (_ ∨ _))

/-! ## The scan -/

theorem scanEntries_inl {es : List StreamEntry} {k i : Nat} {free : Option Nat}
    {lru : Nat × Nat} (h : scanEntries ssrc es k free lru = .inl i) :
    ∃ pre e post, es = pre ++ e :: post ∧ i = k + pre.length ∧ e.hits ssrc = true ∧
      ∀ y ∈ pre, y.hits ssrc = false := by
  induction es generalizing k free lru with
  | nil => simp [scanEntries] at h
  | cons e es ih =>
    rw [scanEntries] at h
    by_cases he : e.hits ssrc = true
    · rw [if_pos he] at h
      exact ⟨[], e, es, rfl, by simpa using h.symm, he, by simp⟩
    · grind

theorem scanEntries_inr {es : List StreamEntry} {k l : Nat} {free f : Option Nat}
    {lru : Nat × Nat} (h : scanEntries ssrc es k free lru = .inr (f, l)) :
    (∀ y ∈ es, y.hits ssrc = false) ∧ (l = lru.1 ∨ (k ≤ l ∧ l < k + es.length)) ∧
    (∀ j, f = some j → free = some j ∨ (k ≤ j ∧ ∃ e, es[j - k]? = some e ∧ e.inUse = false)) ∧
    (f = none → free = none ∧ ∀ y ∈ es, y.inUse = true) := by
  induction es generalizing k free lru with
  | nil =>
    simp only [scanEntries, Sum.inr.injEq, Prod.mk.injEq] at h
    obtain ⟨rfl, rfl⟩ := h
    refine ⟨by simp, Or.inl rfl, fun j hj => Or.inl hj, fun hn => ⟨hn, by simp⟩⟩
  | cons e es ih =>
    rw [scanEntries] at h
    by_cases he : e.hits ssrc = true
    · rw [if_pos he] at h; cases h
    · rw [if_neg he] at h
      obtain ⟨h1, h2, h3, h4⟩ := ih h
      refine ⟨?_, ?_, ?_, ?_⟩
      · grind
      · grind
      · intro j hj
        rcases h3 j hj with h3 | ⟨hkj, x, hx, hu⟩
        · grind
        · grind
      · intro hn
        obtain ⟨h5, h6⟩ := h4 hn
        split at h5
        · cases h5
        · grind

/-! ## The returned slot -/

private theorem set_split {es : List StreamEntry} {pre post : List StreamEntry}
    {x e : StreamEntry} (h : es = pre ++ x :: post) : es.set pre.length e = pre ++ e :: post := by
  rw [h, set_append_right _ _ le_rfl]
  simp

/-- **What `srtp_entry_for_ssrc` returns.** -/
theorem srtpEntryForSsrc_split (t : StreamTable) (lruTick ssrc : Nat) :
    ∃ pre x post, t.entries = pre ++ x :: post ∧
      (srtpEntryForSsrc t lruTick ssrc).idx = pre.length ∧
      (srtpEntryForSsrc t lruTick ssrc).table.entries
        = pre ++ (srtpEntryForSsrc t lruTick ssrc).entry :: post ∧
      (∀ y ∈ pre, y.hits ssrc = false) ∧
      ((srtpFindSsrc t ssrc = some x ∧ x.hits ssrc = true ∧
          (srtpEntryForSsrc t lruTick ssrc).entry
            = { x with lruTick := (lruTick + 1) % 2 ^ 64 }) ∨
       (srtpFindSsrc t ssrc = none ∧ (x.inUse = false ∨ ∀ y ∈ t.entries, y.inUse = true) ∧
          (srtpEntryForSsrc t lruTick ssrc).entry
            = { ssrc := ssrc, inUse := true, lruTick := (lruTick + 1) % 2 ^ 64 })) := by
  unfold srtpEntryForSsrc
  cases hs : scanEntries ssrc t.entries 0 none (0, (t.entries.getD 0 {}).lruTick) with
  | inl i =>
    obtain ⟨pre, x, post, hsplit, hi, hx, hpre⟩ := scanEntries_inl hs
    rw [Nat.zero_add] at hi
    subst hi
    have hget : t.entries.getD pre.length {} = x := by simp [hsplit]
    refine ⟨pre, x, post, hsplit, rfl, ?_, hpre, Or.inl ⟨?_, hx, ?_⟩⟩
    · simp only [entry, StreamTable.set, set_split hsplit]
      simp
    · grind [srtpFindSsrc]
    · simp only [entry, StreamTable.set, set_split hsplit, hget]
      simp
  | inr fl =>
    obtain ⟨f, l⟩ := fl
    obtain ⟨hmiss, hl, hf, hn⟩ := scanEntries_inr hs
    have hfind : srtpFindSsrc t ssrc = none := by
      unfold srtpFindSsrc
      rw [find?_eq_none]
      simpa using hmiss
    have hpos : 0 < t.entries.length := by rw [t.size]; decide
    -- the chosen position is inside the table, and holds a free entry if there is one
    have hidx : ∃ e, t.entries[f.getD l]? = some e ∧
        (e.inUse = false ∨ ∀ y ∈ t.entries, y.inUse = true) := by
      cases f with
      | none => grind
      | some j => grind
    obtain ⟨x, hx, hu⟩ := hidx
    obtain ⟨hlt, hxe⟩ := List.getElem?_eq_some_iff.mp hx
    have hsplit : t.entries = t.entries.take (f.getD l) ++ x :: t.entries.drop (f.getD l + 1) := by
      rw [← hxe, cons_getElem_drop_succ, take_append_drop]
    have hlen : (t.entries.take (f.getD l)).length = f.getD l :=
      length_take_of_le hlt.le
    have hset := fun e => set_split (e := e) hsplit
    rw [hlen] at hset
    refine ⟨_, x, _, hsplit, hlen.symm, ?_, ?_, Or.inr ⟨hfind, hu, ?_⟩⟩
    · simp only [entry, StreamTable.set, hset]
      rw [getD_eq_getElem?_getD, getElem?_append_right (by rw [hlen])]
      simp [hlen]
    · exact fun y hy => hmiss y (mem_of_mem_take hy)
    · simp only [entry, StreamTable.set]
      rw [getD_eq_getElem?_getD, getElem?_set_self hlt]
      simp

theorem srtpEntryForSsrc_hits (t : StreamTable) (lruTick ssrc : Nat) :
    (srtpEntryForSsrc t lruTick ssrc).entry.hits ssrc = true := by
  obtain ⟨pre, x, post, -, -, -, -, ⟨-, hx, he⟩ | ⟨-, -, he⟩⟩ :=
    srtpEntryForSsrc_split t lruTick ssrc
  · rw [he]; exact hx
  · rw [he]; simp [hits]

theorem srtpEntryForSsrc_entry (t : StreamTable) (lruTick ssrc : Nat) :
    (srtpEntryForSsrc t lruTick ssrc).entry
      = { (srtpFindSsrc t ssrc).getD { ssrc := ssrc, inUse := true } with
          lruTick := (lruTick + 1) % 2 ^ 64 } := by
  obtain ⟨pre, x, post, -, -, -, -, ⟨hf, -, he⟩ | ⟨hf, -, he⟩⟩ :=
    srtpEntryForSsrc_split t lruTick ssrc
  · rw [he, hf]; rfl
  · rw [he, hf]; rfl

theorem Slot.put_entries {s : Slot} {pre post : List StreamEntry} {x : StreamEntry}
    (h : s.table.entries = pre ++ x :: post) (hi : s.idx = pre.length) (e : StreamEntry) :
    (s.put e).entries = pre ++ e :: post := by
  simp only [put, StreamTable.set, hi, set_split h]

theorem find_put_self (t : StreamTable) (lruTick : Nat) (he : e.hits ssrc = true) :
    srtpFindSsrc ((srtpEntryForSsrc t lruTick ssrc).put e) ssrc = some e := by
  obtain ⟨pre, x, post, -, hi, htab, hpre, -⟩ := srtpEntryForSsrc_split t lruTick ssrc
  unfold srtpFindSsrc
  rw [put_entries htab hi, find?_append, find?_eq_none.mpr (by simpa using hpre)]
  simp [he]

theorem find_put_other (t : StreamTable) (lruTick : Nat) (hadm : t.Admits ssrc)
    (he : e.hits ssrc = true) (hne : other ≠ ssrc) :
    srtpFindSsrc ((srtpEntryForSsrc t lruTick ssrc).put e) other = srtpFindSsrc t other := by
  obtain ⟨pre, x, post, hsplit, hi, htab, -, hx⟩ := srtpEntryForSsrc_split t lruTick ssrc
  have hxo : x.hits other = false := by
    rcases hx with ⟨-, hx, -⟩ | ⟨hf, hx, -⟩
    · exact not_hits_other hx hne
    · rcases hadm with h | ⟨y, hy, hu⟩
      · rw [hf] at h; cases h
      · grind [hits]
  unfold srtpFindSsrc
  rw [put_entries htab hi, hsplit, find?_append, find?_append]
  simp [hxo, not_hits_other he hne]

@[simp] theorem srtpFindSsrc_empty (ssrc : Nat) : srtpFindSsrc StreamTable.empty ssrc = none := by
  simp [srtpFindSsrc, StreamTable.empty, hits, srtpReplayMaxStreams]

theorem srtpEntryForSsrc_put_entry (t : StreamTable) (lruTick ssrc : Nat) :
    (srtpEntryForSsrc t lruTick ssrc).put (srtpEntryForSsrc t lruTick ssrc).entry
      = (srtpEntryForSsrc t lruTick ssrc).table := by
  obtain ⟨pre, x, post, -, hi, htab, -, -⟩ := srtpEntryForSsrc_split t lruTick ssrc
  exact StreamTable.ext (by rw [put_entries htab hi, htab])

/-! ## Every SSRC has at most one entry -/

def StreamTable.Distinct (t : StreamTable) : Prop :=
  t.entries.Pairwise fun a b => ∀ ssrc, a.hits ssrc = true → b.hits ssrc = false

theorem StreamTable.empty_distinct : StreamTable.empty.Distinct :=
  pairwise_replicate.mpr (Or.inr fun ssrc h => by simp [hits] at h)

variable {t : StreamTable}

theorem StreamTable.Distinct.put (h : t.Distinct) (lruTick : Nat) (he : e.hits ssrc = true) :
    ((srtpEntryForSsrc t lruTick ssrc).put e).Distinct := by
  obtain ⟨pre, x, post, hsplit, hi, htab, hpre, hx⟩ := srtpEntryForSsrc_split t lruTick ssrc
  unfold StreamTable.Distinct at h ⊢
  rw [hsplit, pairwise_append, pairwise_cons] at h
  obtain ⟨h1, ⟨h2, h3⟩, h4⟩ := h
  have hpost : ∀ y ∈ post, y.hits ssrc = false := by
    rcases hx with ⟨-, hx, -⟩ | ⟨hf, -, -⟩
    · exact fun y hy => h2 y hy ssrc hx
    · intro y hy
      have := find?_eq_none.mp hf y (by rw [hsplit]; simp [hy])
      simpa using this
  rw [put_entries htab hi, pairwise_append, pairwise_cons]
  refine ⟨h1, ⟨fun y hy other ho => ?_, h3⟩, fun a ha b hb other ho => ?_⟩
  · by_cases hs : other = ssrc
    · rw [hs]; exact hpost y hy
    · rw [not_hits_other he hs] at ho
      cases ho
  · grind [not_hits_other, mem_cons_of_mem]

theorem find_put_other_or_none (h : t.Distinct) (lruTick : Nat)
    (he : e.hits ssrc = true) (hne : other ≠ ssrc) :
    srtpFindSsrc ((srtpEntryForSsrc t lruTick ssrc).put e) other = srtpFindSsrc t other ∨
    srtpFindSsrc ((srtpEntryForSsrc t lruTick ssrc).put e) other = none := by
  obtain ⟨pre, x, post, hsplit, hi, htab, -, -⟩ := srtpEntryForSsrc_split t lruTick ssrc
  unfold StreamTable.Distinct at h
  rw [hsplit, pairwise_append, pairwise_cons] at h
  obtain ⟨-, ⟨h2, -⟩, h4⟩ := h
  have heo : e.hits other = false := not_hits_other he hne
  unfold srtpFindSsrc
  rw [put_entries htab hi, hsplit]
  cases hxo : x.hits other with
  | false =>
    left
    simp [find?_append, hxo, heo]
  | true =>
    right
    rw [find?_eq_none]
    intro y hy
    rw [Bool.not_eq_true]
    rcases mem_append.mp hy with hy | hy
    · grind
    · rcases mem_cons.mp hy with rfl | hy
      · exact heo
      · exact h2 y hy other hxo

def StreamTable.Within (t : StreamTable) (S : Finset Nat) : Prop :=
  ∀ e ∈ t.entries, e.inUse = true → e.ssrc ∈ S

theorem StreamTable.empty_within (S : Finset Nat) : StreamTable.empty.Within S := by
  intro e he huse
  rw [eq_of_mem_replicate he] at huse
  cases huse

theorem StreamTable.Within.put {S : Finset Nat} (h : t.Within S) (lruTick : Nat) (hs : ssrc ∈ S)
    (he : e.hits ssrc = true) : ((srtpEntryForSsrc t lruTick ssrc).put e).Within S := by
  obtain ⟨pre, x, post, hsplit, hi, htab, -, -⟩ := srtpEntryForSsrc_split t lruTick ssrc
  intro y hy huse
  rw [put_entries htab hi] at hy
  rcases mem_append.mp hy with hy | hy
  · exact h y (by rw [hsplit]; exact mem_append_left _ hy) huse
  · rcases mem_cons.mp hy with rfl | hy
    · rw [(hits_iff.mp he).2]
      exact hs
    · exact h y (by rw [hsplit]; simp [hy]) huse

/-- **Pigeonhole.** -/
theorem StreamTable.admits_of_card (hd : t.Distinct) {S : Finset Nat}
    (hS : S.card ≤ srtpReplayMaxStreams) (hin : t.Within S) (hs : ssrc ∈ S) : t.Admits ssrc := by
  by_contra hno
  simp only [StreamTable.Admits, not_or, not_exists, not_and, Bool.not_eq_false] at hno
  obtain ⟨hfind, huse⟩ := hno
  rw [Option.not_isSome_iff_eq_none] at hfind
  have hmiss : ∀ e ∈ t.entries, e.ssrc ≠ ssrc := by
    rintro e he rfl
    have := find?_eq_none.mp hfind e he
    simp [hits, huse e he] at this
  have hnodup : (t.entries.map (·.ssrc)).Nodup := by
    rw [List.Nodup, pairwise_map]
    refine List.Pairwise.imp_of_mem ?_ hd
    intro a b ha hb hab heq
    have := hab a.ssrc (by simp [hits, huse a ha])
    simp [hits, huse b hb, heq] at this
  have hcard : (t.entries.map (·.ssrc)).toFinset.card = srtpReplayMaxStreams := by
    rw [toFinset_card_of_nodup hnodup, length_map, t.size]
  have hsub : (t.entries.map (·.ssrc)).toFinset ⊆ S.erase ssrc := by
    intro a ha
    rw [mem_toFinset, mem_map] at ha
    obtain ⟨e, he, rfl⟩ := ha
    exact Finset.mem_erase.mpr ⟨hmiss e he, hin e he (huse e he)⟩
  have hle := Finset.card_le_card hsub
  rw [hcard, Finset.card_erase_of_mem hs] at hle
  have : 0 < srtpReplayMaxStreams := by decide
  omega

end Mrtc
