import Mrtc.Media.JitterBuffer

/-! # The order of popped packets (`jitter_buffer.c`)

A packet is popped in the order of its index in the stream, if none arrives that is older than one
that was already popped: `next_seq` goes back for such a packet as well.
-/

namespace Mrtc

open Net List Serial

def seqOf (i : Int) : UInt16 := ⟨wrap 15 i⟩

theorem seqCompare_seqOf {i j : Int} (hlow : -2 ^ 15 ≤ i - j) (hhigh : i - j < 2 ^ 15) :
    seqCompare (seqOf i) (seqOf j) = i - j :=
  diff_wrap hlow hhigh

theorem eq_of_seqOf_eq {i j : Int} (h : seqOf i = seqOf j) (hlow : -2 ^ 15 ≤ i - j)
    (hhigh : i - j < 2 ^ 15) : i = j :=
  eq_of_wrap_eq (congrArg UInt16.toBitVec h) hlow hhigh

theorem seqOf_add_one (i : Int) : seqOf i + 1 = seqOf (i + 1) :=
  congrArg UInt16.ofBitVec (wrap_add_one i)

theorem jbKey_injective {a b : UInt16} (h : jbKey a = jbKey b) : a = b := by
  have hnat := congrArg UInt32.toNat h
  simpa [jbKey, UInt16.toNat_inj] using hnat

/-! ## What is in the map -/

def Slots (m : U32Map JbSlot) (P : Int → Prop) : Prop :=
  ∃ S : MapState UInt32 JbSlot, U32Map.Represents m S ∧
    ∀ key v, S.entries key = some v →
      ∃ slot, v = some slot ∧ key = jbKey slot.seq ∧ slot.seq = seqOf slot.index ∧ P slot.index

theorem slots_empty (P : Int → Prop) : Slots {} P :=
  ⟨{}, HashTable.sound_empty u32Hash u32MapEntrySize, fun _ _ h => nomatch h⟩

namespace Slots

variable {m : U32Map JbSlot} {P Q : Int → Prop} {slot : JbSlot}

theorem mono (h : Slots m P) (hPQ : ∀ i, P i → Q i) : Slots m Q := by
  obtain ⟨S, hS, hslots⟩ := h
  refine ⟨S, hS, fun key v hv => ?_⟩
  obtain ⟨slot, rfl, hkey, hseq, hP⟩ := hslots key v hv
  exact ⟨slot, rfl, hkey, hseq, hPQ _ hP⟩

theorem get (h : Slots m P) (seq : UInt16) :
    rtcU32MapGet m (jbKey seq) = some none ∨
      ∃ slot, rtcU32MapGet m (jbKey seq) = some (some slot) ∧ seqOf slot.index = seq ∧
        P slot.index := by
  obtain ⟨S, hS, hslots⟩ := h
  have hget : rtcU32MapGet m (jbKey seq) = some ((S.entries (jbKey seq)).getD none) := by
    rw [rtcU32MapGet, HashTable.Sound.lookup hS, Option.map_some]
  rw [hget]
  cases hv : S.entries (jbKey seq) with
  | none => exact .inl rfl
  | some v => grind [jbKey_injective]

theorem remove (h : Slots m P) (seq : UInt16) (alloc : Bool) :
    ∃ found m', rtcU32MapRemove m (jbKey seq) alloc = some (found, m') ∧
      Slots m' fun i => P i ∧ seqOf i ≠ seq := by
  obtain ⟨S, hS, hslots⟩ := h
  obtain ⟨m', hremove, hS'⟩ := HashTable.Sound.remove hS (jbKey seq) alloc
  refine ⟨_, m', by rw [rtcU32MapRemove, hremove, Option.map_some],
    { S with entries := Function.update S.entries (jbKey seq) none }, hS', fun key v hv => ?_⟩
  dsimp only at hv
  by_cases hkey : key = jbKey seq
  · subst hkey
    rw [Function.update_self] at hv
    cases hv
  · grind

section

variable (h : Slots m P)
include h

theorem set (hslot : slot.seq = seqOf slot.index) (alloc : Bool) :
    ∃ rc m', rtcU32MapSet m (jbKey slot.seq) (some slot) alloc = some (rc, m') ∧
      Slots m' fun i => P i ∨ i = slot.index := by
  obtain ⟨S, hS, hslots⟩ := h
  obtain ⟨rc, m', S', hset, hstep, hS'⟩ := hS.set (jbKey slot.seq) (some slot) alloc
  have hold : ∀ key v, S.entries key = some v → ∃ s, v = some s ∧ key = jbKey s.seq ∧
      s.seq = seqOf s.index ∧ (P s.index ∨ s.index = slot.index) := by grind
  refine ⟨rc, m', hset, S', hS', fun key v hv => ?_⟩
  cases hstep with
  | refused => exact hold key v hv
  | set => grind

theorem of_get
    (hQ : ∀ slot, rtcU32MapGet m (jbKey slot.seq) = some (some slot) → P slot.index →
      Q slot.index) : Slots m Q := by
  obtain ⟨S, hS, hslots⟩ := h
  refine ⟨S, hS, fun key v hv => ?_⟩
  obtain ⟨slot, rfl, rfl, hseq, hP⟩ := hslots key v hv
  refine ⟨slot, rfl, rfl, hseq, hQ slot ?_ hP⟩
  rw [rtcU32MapGet, HashTable.Sound.lookup hS, hv]
  rfl

theorem items : ∃ items : List JbSlot,
    Mrtc.findOldest m = some (earliest
        (fun s oldest => decide (seqCompare s.seq oldest.seq < 0)) items)
      ∧ ∀ slot, slot ∈ items ↔ rtcU32MapGet m (jbKey slot.seq) = some (some slot) := by
  obtain ⟨S, hS, hslots⟩ := h
  obtain ⟨items, hitems, -, hall, -⟩ := HashTable.Sound.iterate hS
  refine ⟨items.filterMap Prod.snd, by rw [Mrtc.findOldest, hitems, Option.map_some],
    fun slot => ?_⟩
  rw [rtcU32MapGet, HashTable.Sound.lookup hS, Option.map_some, Option.some.injEq,
    mem_filterMap]
  constructor
  · grind
  · intro hget
    cases hentry : S.entries (jbKey slot.seq) with
    | none =>
      rw [hentry] at hget
      cases hget
    | some v =>
      rw [hentry] at hget
      obtain rfl : v = some slot := hget
      exact ⟨(jbKey slot.seq, some slot), (hall _ _).2 hentry, rfl⟩

theorem findOldest_mem : ∃ found, Mrtc.findOldest m = some found
    ∧ ∀ slot, found = some slot → rtcU32MapGet m (jbKey slot.seq) = some (some slot) := by
  obtain ⟨items, hfind, hitems⟩ := h.items
  exact ⟨_, hfind, fun slot hslot => (hitems slot).1 (earliest_mem hslot)⟩

theorem index_of_get {seq : UInt16} (hget : rtcU32MapGet m (jbKey seq) = some (some slot)) :
    seqOf slot.index = seq ∧ P slot.index := by
  obtain hnone | ⟨s, hsome, hs⟩ := h.get seq
  · rw [hget] at hnone
    cases hnone
  · rw [hget] at hsome
    cases hsome
    exact hs

theorem findOldest {low : Int} (hP : ∀ i, P i → low ≤ i ∧ i < low + 2 ^ 15)
    (hfound : Mrtc.findOldest m = some (some slot)) : Slots m fun i => P i ∧ slot.index ≤ i := by
  obtain ⟨items, hfind, hitems⟩ := h.items
  have hbefore : ∀ s ∈ items, ∀ t ∈ items,
      decide (seqCompare s.seq t.seq < 0) = true ↔ s.index < t.index := by
    intro s hs t ht
    obtain ⟨hseqs, hPs⟩ := h.index_of_get ((hitems s).1 hs)
    obtain ⟨hseqt, hPt⟩ := h.index_of_get ((hitems t).1 ht)
    have hlows := hP _ hPs
    have hlowt := hP _ hPt
    rw [decide_eq_true_iff, ← hseqs, ← hseqt, seqCompare_seqOf (by omega) (by omega)]
    omega
  have hleast := earliest_least hbefore
  rw [Option.some.inj (hfind.symm.trans hfound)] at hleast
  exact h.of_get fun s hs hPs => ⟨hPs, hleast.2 s ((hitems s).2 hs)⟩

end

end Slots

/-! ## Runs -/

structure JbRun where
  jb : JitterBuffer
  pushed : List Int := []
  popped : List Int := []

inductive JbOp where
  | push (index : Int) (data : Bytes) (timestamp : UInt32) (marker : Bool) (now : UInt64)
      (alloc : JbAlloc)
  | pop (now : UInt64) (alloc : Bool)

def JbRun.step (r : JbRun) : JbOp → Option JbRun
  | .push index data timestamp marker now alloc =>
    (jitterBufferPush r.jb index data (seqOf index) timestamp marker now alloc).map fun jb =>
      { r with jb := jb, pushed := index :: r.pushed }
  | .pop now alloc =>
    (jitterBufferPop r.jb now alloc).map fun res =>
      { r with jb := res.2, popped := r.popped ++ (res.1.map JbSlot.index).toList }

def JbRun.run (r : JbRun) : List JbOp → Option JbRun
  | [] => some r
  | op :: ops => (r.step op).bind fun r => r.run ops

def Near (pushed : List Int) (i : Int) : Prop :=
  pushed = [] ∨ (∀ j ∈ pushed, j ≤ i + 127) ∧ ∃ j ∈ pushed, i ≤ j + 127

instance decidableNear (pushed : List Int) (i : Int) : Decidable (Near pushed i) :=
  inferInstanceAs (Decidable (_ ∨ _))

def jbFloor (pushed popped : List Int) : Option Int :=
  match popped.getLast? with
  | some p => some (p + 1)
  | none => pushed.min?

/-- A packet may be pushed that is near the highest one, above all that were popped, and less than
half the range of sequence numbers above the lowest one that is still to come. -/
def JbRun.Allows (r : JbRun) : JbOp → Prop
  | .push index _ _ _ _ _ =>
    Near r.pushed index ∧ (∀ p ∈ r.popped, p < index) ∧
      ∀ low ∈ jbFloor r.pushed r.popped, index < low + 2 ^ 15
  | .pop _ _ => True

def JbRun.Timely (r : JbRun) : List JbOp → Prop
  | [] => True
  | op :: ops => r.Allows op ∧ ∀ r' ∈ r.step op, r'.Timely ops

instance JbRun.decidableAllows (r : JbRun) : (op : JbOp) → Decidable (r.Allows op)
  | .push _ _ _ _ _ _ => inferInstanceAs (Decidable (_ ∧ _ ∧ _))
  | .pop _ _ => .isTrue trivial

instance JbRun.decidableTimely : (ops : List JbOp) → (r : JbRun) → Decidable (r.Timely ops)
  | [], _ => .isTrue trivial
  | op :: ops, r =>
    have : DecidablePred fun r' : JbRun => r'.Timely ops := JbRun.decidableTimely ops
    inferInstanceAs (Decidable (r.Allows op ∧ ∀ r' ∈ r.step op, r'.Timely ops))

/-! ## The invariant -/

structure JbRun.Running (r : JbRun) (next low : Int) : Prop where
  started : r.jb.started = true
  nextSeq : r.jb.nextSeq = seqOf next
  floor : jbFloor r.pushed r.popped = some low
  low_le : low ≤ next
  next_le : ∃ j ∈ r.pushed, next ≤ j + 1
  popped_lt : ∀ p ∈ r.popped, p < low
  sorted : r.popped.Pairwise (· < ·)
  slots : Slots r.jb.bySeq fun i => i ∈ r.pushed ∧ next ≤ i ∧ i < low + 2 ^ 15

structure JbRun.Idle (r : JbRun) : Prop where
  started : r.jb.started = false
  pushed : r.pushed = []
  popped : r.popped = []
  slots : Slots r.jb.bySeq fun _ => False

def JbRun.Ordered (r : JbRun) : Prop := r.Idle ∨ ∃ next low, r.Running next low

/-! ## Push -/

section Insert

variable {m : U32Map JbSlot} {P : Int → Prop}

theorem jbEvict_slots (h : Slots m P) (alloc : Bool) :
    ∃ m', jbEvict m alloc = some m' ∧ Slots m' P := by
  unfold jbEvict
  by_cases hfull : jbMaxPackets ≤ rtcU32MapLen m
  · rw [if_pos hfull]
    obtain ⟨found, hfound, -⟩ := h.findOldest_mem
    rw [hfound]
    cases found with
    | none => exact ⟨m, rfl, h⟩
    | some slot =>
      obtain ⟨found, m', hremove, hslots⟩ := h.remove slot.seq alloc
      refine ⟨m', ?_, hslots.mono fun i hi => hi.1⟩
      simp only [hremove, Option.map_some]
  · rw [if_neg hfull]
    exact ⟨m, rfl, h⟩

theorem jbStore_slots (h : Slots m P) {slot : JbSlot} (hslot : slot.seq = seqOf slot.index)
    (alloc : JbAlloc) :
    ∃ m', jbStore m slot alloc = some m' ∧ Slots m' fun i => P i ∨ i = slot.index := by
  unfold jbStore
  cases halloc : alloc.slot with
  | false => exact ⟨m, rfl, h.mono fun i hi => .inl hi⟩
  | true =>
    obtain ⟨rc, m', hset, hslots⟩ := h.set hslot alloc.set
    refine ⟨m', ?_, hslots⟩
    simp only [if_true, hset, Option.map_some]

theorem jbInsert_slots {jb : JitterBuffer} (h : Slots jb.bySeq P) (slot : JbSlot)
    (hslot : slot.seq = seqOf slot.index) (now : UInt64) (alloc : JbAlloc) :
    ∃ jb', jbInsert jb slot now alloc = some jb'
      ∧ ((∃ old, rtcU32MapGet jb.bySeq (jbKey slot.seq) = some (some old)) ∧ jb' = jb
        ∨ rtcU32MapGet jb.bySeq (jbKey slot.seq) = some none
          ∧ ∃ m, jb' = { jbEstimate jb slot.timestamp now with bySeq := m })
      ∧ Slots jb'.bySeq fun i => P i ∨ i = slot.index := by
  obtain hnone | ⟨old, hsome, -⟩ := h.get slot.seq
  · obtain ⟨m₁, hevict, h₁⟩ := jbEvict_slots h alloc.remove
    obtain ⟨m₂, hstore, h₂⟩ := jbStore_slots h₁ hslot alloc
    refine ⟨{ jbEstimate jb slot.timestamp now with bySeq := m₂ }, ?_, .inr ⟨hnone, m₂, rfl⟩, h₂⟩
    have hestimate : (jbEstimate jb slot.timestamp now).bySeq = jb.bySeq := rfl
    unfold jbInsert
    simp only [hnone, hestimate, hevict, hstore, Option.map_some]
  · exact ⟨jb, by rw [jbInsert, hsome], .inl ⟨⟨old, hsome⟩, rfl⟩, h.mono fun i hi => .inl hi⟩

end Insert

theorem jbFloor_push {pushed popped : List Int} {low i : Int}
    (hfloor : jbFloor pushed popped = some low) (habove : ∀ p ∈ popped, p < i) :
    ∃ low', jbFloor (i :: pushed) popped = some low' ∧ low' ≤ i ∧
      (low' = low ∨ low' = i ∧ i ≤ low) := by
  unfold jbFloor at hfloor ⊢
  cases hlast : popped.getLast? with
  | none => grind [min?_cons, min_le_left]
  | some p =>
    rw [hlast] at hfloor
    cases hfloor
    have hp := habove p (mem_of_getLast? hlast)
    exact ⟨p + 1, rfl, by omega, .inl rfl⟩

section Push

variable {r : JbRun} (index : Int) (data : Bytes) (timestamp : UInt32) (marker : Bool)
  (now : UInt64) (alloc : JbAlloc)

theorem jitterBufferPush_admitted {jb jb₁ : JitterBuffer} {P : Int → Prop}
    (hroom : jbAdmit jb (seqOf index) timestamp now = some jb₁) (h : Slots jb₁.bySeq P) :
    ∃ jb', jitterBufferPush jb index data (seqOf index) timestamp marker now alloc = some jb' ∧
      jb'.started = jb₁.started ∧ jb'.nextSeq = jb₁.nextSeq ∧
      Slots jb'.bySeq fun i => P i ∨ i = index := by
  unfold jitterBufferPush
  rw [hroom]
  obtain ⟨jb', hinsert, ⟨-, rfl⟩ | ⟨-, m, rfl⟩, hslots⟩ := jbInsert_slots h
    ⟨index, data.take 2048, seqOf index, timestamp, marker, now⟩ rfl now alloc
  · exact ⟨_, hinsert, rfl, rfl, hslots⟩
  · exact ⟨_, hinsert, rfl, rfl, hslots⟩

theorem JbRun.Idle.push (h : r.Idle) :
    ∃ jb, jitterBufferPush r.jb index data (seqOf index) timestamp marker now alloc = some jb ∧
      JbRun.Running { r with jb := jb, pushed := index :: r.pushed } index index := by
  have hroom : jbAdmit r.jb (seqOf index) timestamp now =
      some { r.jb with
        nextSeq := seqOf index
        started := true
        lastArrivalMs := now
        lastTimestamp := timestamp } := by
    rw [jbAdmit, h.started]
    rfl
  obtain ⟨jb, hpush, hstarted, hnext, hslots⟩ :=
    jitterBufferPush_admitted index data timestamp marker now alloc hroom h.slots
  refine ⟨jb, hpush, hstarted, hnext, ?_, le_rfl, ⟨index, by simp, by omega⟩, ?_, ?_, ?_⟩
  · simp [jbFloor, h.popped, h.pushed]
  · simp [h.popped]
  · simp [h.popped]
  · grind [le_rfl, hslots.mono]

theorem JbRun.Running.pushed {next low next' : Int} (h : r.Running next low)
    (hclose : ∀ j ∈ r.pushed, j ≤ index + 127) (habove : ∀ p ∈ r.popped, p < index)
    (hrange : index < low + 2 ^ 15) {jb : JitterBuffer} (hstarted : jb.started = true)
    (hnextSeq : jb.nextSeq = seqOf next') (hnext : next' = next ∨ next' = index ∧ index ≤ next)
    (hslots : Slots jb.bySeq fun i =>
      (i ∈ r.pushed ∧ next ≤ i ∧ i < low + 2 ^ 15) ∨ i = index ∧ next' ≤ index) :
    ∃ low', JbRun.Running { r with jb := jb, pushed := index :: r.pushed } next' low' := by
  obtain ⟨low', hfloor, hle, hcase⟩ := jbFloor_push h.floor habove
  have hlow := h.low_le
  refine ⟨low', hstarted, hnextSeq, hfloor, by omega, ?_, ?_, h.sorted, hslots.mono ?_⟩
  · grind [mem_cons_of_mem, h.next_le]
  · intro p hp
    have hfloor := h.popped_lt p hp
    have hindex := habove p hp
    omega
  · grind

theorem JbRun.Running.push {next low : Int} (h : r.Running next low) (hnear : Near r.pushed index)
    (habove : ∀ p ∈ r.popped, p < index) (hrange : index < low + 2 ^ 15) :
    ∃ jb, jitterBufferPush r.jb index data (seqOf index) timestamp marker now alloc = some jb ∧
      ∃ next' low', JbRun.Running { r with jb := jb, pushed := index :: r.pushed } next' low' := by
  obtain ⟨top, htop, hnext⟩ := h.next_le
  have hlow := h.low_le
  have hclose : ∀ j ∈ r.pushed, j ≤ index + 127 := by
    obtain hnil | ⟨hclose, -⟩ := hnear
    · rw [hnil] at htop
      cases htop
    · exact hclose
  have hback := hclose top htop
  have hcompare : seqCompare (seqOf index) r.jb.nextSeq = index - next := by
    rw [h.nextSeq, seqCompare_seqOf (by omega) (by omega)]
  have hgap : seqCompare r.jb.nextSeq (seqOf index) = next - index := by
    rw [h.nextSeq, seqCompare_seqOf (by omega) (by omega)]
  by_cases hold : index < next
  · by_cases hpull : next - index < 128
    · -- the packet is the next one now
      have hroom : jbAdmit r.jb (seqOf index) timestamp now =
          some { r.jb with nextSeq := seqOf index } := by grind [jbMaxPackets, jbAdmit, h.started]
      obtain ⟨jb, hpush, hstarted, hnextSeq, hslots⟩ :=
        jitterBufferPush_admitted index data timestamp marker now alloc hroom h.slots
      refine ⟨jb, hpush, index, h.pushed index hclose habove hrange (hstarted.trans h.started)
        hnextSeq (.inr ⟨rfl, hold.le⟩) (hslots.mono fun i hi => ?_)⟩
      exact hi.imp id fun heq => ⟨heq, le_rfl⟩
    · have hroom : jbAdmit r.jb (seqOf index) timestamp now = none := by
        grind [jbMaxPackets, jbAdmit, h.started]
      refine ⟨r.jb, by rw [jitterBufferPush, hroom], next, h.pushed index hclose habove hrange
        h.started h.nextSeq (.inl rfl) (h.slots.mono fun i hi => .inl hi)⟩
  · have hroom : jbAdmit r.jb (seqOf index) timestamp now = some r.jb := by
      rw [jbAdmit, if_neg (by simp [h.started]), hcompare, if_neg (by omega)]
    obtain ⟨jb, hpush, hstarted, hnextSeq, hslots⟩ :=
      jitterBufferPush_admitted index data timestamp marker now alloc hroom h.slots
    refine ⟨jb, hpush, next, h.pushed index hclose habove hrange (hstarted.trans h.started)
      (hnextSeq.trans h.nextSeq) (.inl rfl) (hslots.mono fun i hi => ?_)⟩
    exact hi.imp id fun heq => ⟨heq, by omega⟩

end Push

/-! ## Pop -/

section Pop

variable {r : JbRun} (now : UInt64) (alloc : Bool)

def JbRun.afterPop (r : JbRun) (res : Option JbSlot × JitterBuffer) : JbRun :=
  { r with jb := res.2, popped := r.popped ++ (res.1.map JbSlot.index).toList }

theorem JbRun.afterPop_none (r : JbRun) : r.afterPop (none, r.jb) = r := by
  simp [JbRun.afterPop]

/-- What a call of pop can do: nothing, or go on to the oldest packet and not pop it yet, or pop
the next packet or the oldest one. -/
inductive PopEffect (jb : JitterBuffer) (alloc : Bool) : Option JbSlot × JitterBuffer → Prop where
  | nothing : PopEffect jb alloc (none, jb)
  | skipped {slot : JbSlot} (holdest : findOldest jb.bySeq = some (some slot)) :
      PopEffect jb alloc (none, { jb with nextSeq := slot.seq })
  | popped {slot : JbSlot} {next : UInt16} {found : Bool} {m : U32Map JbSlot}
      (hnext : next = jb.nextSeq ∨ findOldest jb.bySeq = some (some slot) ∧ next = slot.seq)
      (hget : rtcU32MapGet jb.bySeq (jbKey next) = some (some slot))
      (hremove : rtcU32MapRemove jb.bySeq (jbKey next) alloc = some (found, m)) :
      PopEffect jb alloc (some slot, { jb with bySeq := m, nextSeq := next + 1 })

theorem jitterBufferPop_effect {jb : JitterBuffer} {P : Int → Prop} (h : Slots jb.bySeq P) :
    ∃ res, jitterBufferPop jb now alloc = some res ∧ PopEffect jb alloc res := by
  unfold jitterBufferPop
  by_cases hempty : rtcU32MapLen jb.bySeq = 0
  · rw [if_pos hempty]
    exact ⟨_, rfl, .nothing⟩
  rw [if_neg hempty]
  obtain hnone | ⟨slot, hsome, -⟩ := h.get jb.nextSeq
  · -- the next packet is missing
    rw [jbPopLoop, hnone]
    dsimp only
    obtain ⟨found, hfound, hmem⟩ := h.findOldest_mem
    rw [hfound]
    cases found with
    | none => exact ⟨_, rfl, .nothing⟩
    | some slot =>
      dsimp only
      split_ifs with hwait
      · exact ⟨_, rfl, .nothing⟩
      · rw [jbPopLoop, hmem slot rfl]
        dsimp only
        split_ifs with hearly
        · exact ⟨_, rfl, .skipped hfound⟩
        · obtain ⟨found, m, hremove, -⟩ := h.remove slot.seq alloc
          rw [hremove]
          exact ⟨_, rfl, .popped (.inr ⟨hfound, rfl⟩) (hmem slot rfl) hremove⟩
  · rw [jbPopLoop, hsome]
    dsimp only
    split_ifs with hearly
    · exact ⟨_, rfl, .nothing⟩
    · obtain ⟨found, m, hremove, -⟩ := h.remove jb.nextSeq alloc
      rw [hremove]
      exact ⟨_, rfl, .popped (.inl rfl) hsome hremove⟩

variable {next low : Int}

theorem JbRun.Running.skip (h : r.Running next low) {slot : JbSlot}
    (holdest : findOldest r.jb.bySeq = some (some slot)) :
    JbRun.Running { r with jb := { r.jb with nextSeq := slot.seq } } slot.index low := by
  have hlow := h.low_le
  obtain ⟨found, hfound, hmem⟩ := h.slots.findOldest_mem
  obtain ⟨hseq, hpushed, hfrom, hto⟩ :=
    h.slots.index_of_get (hmem slot (Option.some.inj (hfound.symm.trans holdest)))
  have hslots := h.slots.findOldest
    (fun i hi => (⟨hi.2.1, by omega⟩ : next ≤ i ∧ i < next + 2 ^ 15)) holdest
  exact ⟨h.started, hseq.symm, h.floor, by omega, ⟨slot.index, hpushed, by omega⟩, h.popped_lt,
    h.sorted, hslots.mono fun i hi => ⟨hi.1.1, hi.2, hi.1.2.2⟩⟩

theorem JbRun.Running.popNext (h : r.Running next low) {slot : JbSlot}
    (hslot : rtcU32MapGet r.jb.bySeq (jbKey r.jb.nextSeq) = some (some slot)) {found : Bool}
    {m : U32Map JbSlot}
    (hremove : rtcU32MapRemove r.jb.bySeq (jbKey r.jb.nextSeq) alloc = some (found, m)) :
    (r.afterPop (some slot, { r.jb with bySeq := m, nextSeq := r.jb.nextSeq + 1 })).Running
      (next + 1) (next + 1) := by
  have hlow := h.low_le
  obtain ⟨hindex, hpushed⟩ : slot.index = next ∧ slot.index ∈ r.pushed := by
    obtain ⟨hseq, hmem, hfrom, hto⟩ := h.slots.index_of_get hslot
    rw [h.nextSeq] at hseq
    exact ⟨eq_of_seqOf_eq hseq (by omega) (by omega), hmem⟩
  obtain ⟨_, _, hremove', hslots⟩ := h.slots.remove r.jb.nextSeq alloc
  cases hremove.symm.trans hremove'
  refine ⟨h.started, ?_, ?_, le_rfl, ?_, ?_, ?_, hslots.mono ?_⟩
  · show r.jb.nextSeq + 1 = _
    rw [h.nextSeq, seqOf_add_one]
  · simp [JbRun.afterPop, jbFloor, hindex]
  · exact ⟨slot.index, hpushed, by omega⟩
  · intro p hp
    obtain hp | rfl : p ∈ r.popped ∨ p = slot.index := by
      simpa [JbRun.afterPop] using hp
    · have hfloor := h.popped_lt p hp
      omega
    · omega
  · show (r.popped ++ [slot.index]).Pairwise (· < ·)
    rw [pairwise_append]
    refine ⟨h.sorted, pairwise_singleton _ _, fun p hp q hq => ?_⟩
    rw [mem_singleton.1 hq, hindex]
    have hfloor := h.popped_lt p hp
    omega
  · rintro i ⟨⟨hi, hfrom, hto⟩, hne⟩
    have hother : i ≠ next := by
      rintro rfl
      exact hne h.nextSeq.symm
    exact ⟨hi, by omega, by omega⟩

theorem JbRun.Running.pop {next low : Int} (h : r.Running next low) :
    ∃ res, jitterBufferPop r.jb now alloc = some res ∧
      ∃ next' low', (r.afterPop res).Running next' low' := by
  obtain ⟨res, hpop, heffect⟩ := jitterBufferPop_effect now alloc h.slots
  refine ⟨res, hpop, ?_⟩
  cases heffect with
  | nothing => exact ⟨next, low, by rw [r.afterPop_none]; exact h⟩
  | @skipped slot holdest =>
    refine ⟨slot.index, low, ?_⟩
    simpa [JbRun.afterPop] using h.skip holdest
  | @popped slot seq _ _ hnext hget hremove =>
    obtain rfl | ⟨holdest, rfl⟩ := hnext
    · exact ⟨_, _, h.popNext alloc hget hremove⟩
    · exact ⟨_, _, (h.skip holdest).popNext alloc hget hremove⟩

theorem JbRun.Idle.pop (h : r.Idle) :
    ∃ res, jitterBufferPop r.jb now alloc = some res ∧ (r.afterPop res).Idle := by
  obtain ⟨res, hpop, heffect⟩ := jitterBufferPop_effect now alloc h.slots
  refine ⟨res, hpop, ?_⟩
  cases heffect with
  | nothing =>
    rw [r.afterPop_none]
    exact h
  | skipped holdest =>
    obtain ⟨found, hfound, hmem⟩ := h.slots.findOldest_mem
    exact (h.slots.index_of_get (hmem _ (Option.some.inj (hfound.symm.trans holdest)))).2.elim
  | popped _ hget => exact (h.slots.index_of_get hget).2.elim

end Pop

/-! ## Order -/

variable {r : JbRun}

theorem JbRun.Ordered.step (h : r.Ordered) {op : JbOp} (hallow : r.Allows op) :
    ∃ r', r.step op = some r' ∧ r'.Ordered := by
  cases op with
  | push index data timestamp marker now alloc =>
    obtain ⟨hnear, habove, hrange⟩ := hallow
    obtain hidle | ⟨next, low, hrunning⟩ := h
    · obtain ⟨jb, hpush, h'⟩ := hidle.push index data timestamp marker now alloc
      exact ⟨_, by rw [JbRun.step, hpush, Option.map_some], .inr ⟨_, _, h'⟩⟩
    · obtain ⟨jb, hpush, h'⟩ := hrunning.push index data timestamp marker now alloc hnear habove
        (hrange low hrunning.floor)
      exact ⟨_, by rw [JbRun.step, hpush, Option.map_some], .inr h'⟩
  | pop now alloc =>
    obtain hidle | ⟨next, low, hrunning⟩ := h
    · obtain ⟨res, hpop, h'⟩ := hidle.pop now alloc
      exact ⟨r.afterPop res, by rw [JbRun.step, hpop, Option.map_some]; rfl, .inl h'⟩
    · obtain ⟨res, hpop, h'⟩ := hrunning.pop now alloc
      exact ⟨r.afterPop res, by rw [JbRun.step, hpop, Option.map_some]; rfl, .inr h'⟩

theorem JbRun.Ordered.run (h : r.Ordered) {ops : List JbOp} (htimely : r.Timely ops) :
    ∃ r', r.run ops = some r' ∧ r'.Ordered := by
  induction ops generalizing r with
  | nil => exact ⟨r, rfl, h⟩
  | cons op ops ih =>
    obtain ⟨hallow, hrest⟩ := htimely
    obtain ⟨r₁, hstep, h₁⟩ := h.step hallow
    obtain ⟨r₂, hrun, h₂⟩ := ih h₁ (hrest r₁ hstep)
    exact ⟨r₂, by rw [JbRun.run, hstep, Option.bind_some, hrun], h₂⟩

theorem JbRun.Ordered.sorted (h : r.Ordered) : r.popped.Pairwise (· < ·) := by
  obtain hidle | ⟨next, low, hrunning⟩ := h
  · rw [hidle.popped]
    exact List.Pairwise.nil
  · exact hrunning.sorted

def jbStart (cfg : Option (Int × Int)) : JbRun := { jb := jitterBufferCreate cfg }

theorem jbStart_ordered (cfg : Option (Int × Int)) : (jbStart cfg).Ordered :=
  .inl ⟨rfl, rfl, rfl, slots_empty _⟩

/-- Every run in which packets arrive in time returns, and pops them in order, each once. -/
theorem jitterBuffer_pops_in_order (cfg : Option (Int × Int)) (ops : List JbOp)
    (htimely : (jbStart cfg).Timely ops) :
    ∃ r, (jbStart cfg).run ops = some r ∧ r.popped.Pairwise (· < ·) := by
  obtain ⟨r, hrun, h⟩ := (jbStart_ordered cfg).run htimely
  exact ⟨r, hrun, h.sorted⟩

def pushAt (index : Int) (now : UInt64) : JbOp := .push index [] 0 false now {}

/-- The second packet comes late, after the sequence numbers started again. -/
theorem lateAcrossWrap_in_order :
    ((jbStart none).run [pushAt 65534 1000, pushAt 65536 1010, pushAt 65535 1020, .pop 2000 true,
        .pop 2000 true, .pop 2000 true]).map JbRun.popped = some [65534, 65535, 65536] ∧
      ∃ r, (jbStart none).run [pushAt 65534 1000, pushAt 65536 1010, pushAt 65535 1020,
          .pop 2000 true, .pop 2000 true, .pop 2000 true] = some r ∧
        r.popped.Pairwise (· < ·) :=
  ⟨by decide +kernel, jitterBuffer_pops_in_order none _ (by decide +kernel)⟩

/-- A packet, and one that was popped, pushed after a later one was popped: each is popped once
more, out of order. -/
theorem lateAfterPop_out_of_order :
    Near [10] 9 ∧ Near [10] 10 ∧
      ((jbStart none).run [pushAt 10 1000, .pop 1100 true, pushAt 9 1110, .pop 1300 true]).map
        JbRun.popped = some [10, 9] ∧
      ((jbStart none).run [pushAt 10 1000, .pop 1100 true, pushAt 10 1110, .pop 1300 true]).map
        JbRun.popped = some [10, 10] := by
  decide +kernel

end Mrtc
