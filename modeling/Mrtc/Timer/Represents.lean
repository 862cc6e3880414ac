import Mrtc.Timer.Sched

/-! # What the timer scheduler's heap and slots stand for

`Represents s S` relates the heap and the slots to an abstract `TimerSet`: the active timers are
the active nodes of the heap.
-/

namespace Mrtc

open BinaryHeap List

variable {α : Type} {i g : Nat}

/-! ## Handles -/

theorem timerMakeHandle_toNat (hi : i < 2 ^ 32) (hg : g < 2 ^ 32) :
    (timerMakeHandle i g).toNat = g * 2 ^ 32 + i := by
  unfold timerMakeHandle
  rw [UInt64.toNat_ofNat']
  exact Nat.mod_eq_of_lt (by omega)

theorem timerHandle_make (hi : i < 2 ^ 32) (hg : g < 2 ^ 32) :
    timerHandleSlot (timerMakeHandle i g) = i ∧ timerHandleGeneration (timerMakeHandle i g) = g := by
  unfold timerHandleSlot timerHandleGeneration
  rw [timerMakeHandle_toNat hi hg]
  omega

theorem timerMakeHandle_ne_zero (hi : i < 2 ^ 32) (hg : g < 2 ^ 32) (hpos : 1 ≤ g) :
    timerMakeHandle i g ≠ 0 := by
  intro h
  have hnat := congrArg UInt64.toNat h
  rw [timerMakeHandle_toNat hi hg, UInt64.toNat_zero] at hnat
  omega

theorem timerMakeHandle_parts (handle : UInt64) :
    timerMakeHandle (timerHandleSlot handle) (timerHandleGeneration handle) = handle := by
  unfold timerMakeHandle timerHandleSlot timerHandleGeneration
  rw [Nat.mul_comm, Nat.div_add_mod, UInt64.ofNat_toNat]

/-! ## Slots -/

def slotAt (s : TimerSched α) (i : Nat) : TimerSlot := s.slots[i]?.getD {}

theorem slotAt_of_some {s : TimerSched α} {sl : TimerSlot} (h : s.slots[i]? = some sl) :
    slotAt s i = sl := by
  rw [slotAt, h, Option.getD_some]

theorem timerNodeActive_eq (s : TimerSched α) (n : TimerNode α) :
    timerNodeActive s n
      = ((slotAt s n.slot).active && (slotAt s n.slot).generation == n.generation) := by
  unfold timerNodeActive slotAt
  cases s.slots[n.slot]? <;> rfl

theorem slotAt_deactivate (s : TimerSched α) (slot i : Nat) :
    slotAt (deactivate s slot) i
      = if i = slot then { slotAt s slot with active := false } else slotAt s i := by
  unfold deactivate slotAt
  grind

theorem generation_deactivate (s : TimerSched α) (slot i : Nat) :
    (slotAt (deactivate s slot) i).generation = (slotAt s i).generation := by
  grind [slotAt_deactivate]

theorem deactivate_of_free {s : TimerSched α} {slot : Nat} (hfree : (slotAt s slot).active = false) :
    deactivate s slot = s := by
  unfold deactivate
  cases hsl : s.slots[slot]? with
  | none => rfl
  | some sl =>
    rw [slotAt_of_some hsl] at hfree
    obtain ⟨hlt, hget⟩ := List.getElem?_eq_some_iff.mp hsl
    have hclear : ({ sl with active := false } : TimerSlot) = s.slots[slot] := by rw [hget, ← hfree]
    simp only [hclear, set_getElem_self]

theorem deactivate_fields (s : TimerSched α) (slot : Nat) :
    (deactivate s slot).heap = s.heap ∧ (deactivate s slot).slots.length = s.slots.length
      ∧ (deactivate s slot).slotCap = s.slotCap := by
  unfold deactivate
  grind

theorem pruneRoots_slots (fuel : Nat) (s : TimerSched α) : (pruneRoots fuel s).slots = s.slots := by
  induction fuel generalizing s with
  | zero => rfl
  | succ fuel ih =>
    rw [pruneRoots]
    grind

/-! ## The relation -/

def TimerNode.timer (n : TimerNode α) : Timer α :=
  ⟨timerMakeHandle n.slot n.generation, n.deadlineMs, n.callback⟩

open TimerNode

def TimerNode.id (n : TimerNode α) : Nat × Nat := (n.slot, n.generation)

structure Represents (s : TimerSched α) (S : TimerSet α) : Prop where
  isHeap : IsHeap deadlineMs s.heap
  active : S.active = ((s.heap.filter (timerNodeActive s)).map timer : Multiset _)
  ids : (s.heap.map TimerNode.id).Nodup
  nodes : ∀ n ∈ s.heap, 1 ≤ n.generation ∧ n.generation ≤ (slotAt s n.slot).generation
  current : ∀ i, (slotAt s i).active = true →
    ∃ n ∈ s.heap, n.slot = i ∧ n.generation = (slotAt s i).generation
  generations : ∀ i, (slotAt s i).generation < 2 ^ 32
  handles : ∀ t ∈ S.added, ∃ i g, i < 2 ^ 31 ∧ g ≤ (slotAt s i).generation
    ∧ t.handle = timerMakeHandle i g
  slots_le : s.slots.length ≤ s.slotCap ∧ s.slotCap < 2 ^ 31
  heap_card : s.heap.length ≤ S.added.card
  slots_card : s.slots.length ≤ S.added.card

section Represents

variable {s : TimerSched α} {S : TimerSet α} (h : Represents s S) {m n root : TimerNode α}

theorem represents_empty : Represents ({} : TimerSched α) {} where
  isHeap := isHeap_nil _
  active := rfl
  ids := nodup_nil
  nodes n hn := absurd hn not_mem_nil
  current i h := by cases h
  generations i := Nat.two_pow_pos 32
  handles t ht := absurd ht (Multiset.notMem_zero t)
  slots_le := ⟨Nat.le_refl 0, Nat.two_pow_pos 31⟩
  heap_card := Nat.le_refl 0
  slots_card := Nat.le_refl 0

include h

theorem Represents.slot_lt {i : Nat} (hpos : 1 ≤ (slotAt s i).generation) : i < 2 ^ 31 := by
  have hlt : i < s.slots.length := by
    by_contra hge
    rw [slotAt, getElem?_eq_none (Nat.not_lt.mp hge)] at hpos
    exact absurd hpos (by decide)
  have hcap := h.slots_le
  omega

theorem Represents.active_of_current {i : Nat} (hact : (slotAt s i).active = true) :
    ∃ n ∈ s.heap, n.slot = i ∧ n.generation = (slotAt s i).generation
      ∧ timerNodeActive s n = true := by
  obtain ⟨n, hn, rfl, hgen⟩ := h.current i hact
  exact ⟨n, hn, rfl, hgen, by simp [timerNodeActive_eq, hact, hgen]⟩

theorem Represents.active_unique (hm : m ∈ s.heap) (hn : n ∈ s.heap)
    (hma : timerNodeActive s m = true) (hna : timerNodeActive s n = true)
    (hslot : m.slot = n.slot) : m = n := by
  rw [timerNodeActive_eq] at hma hna
  exact inj_on_of_nodup_map h.ids hm hn (by grind [TimerNode.id])

theorem Represents.mem_active {t : Timer α} :
    t ∈ S.active ↔ ∃ n ∈ s.heap, timerNodeActive s n = true ∧ n.timer = t := by
  rw [h.active, Multiset.mem_coe, mem_map]
  grind

/-! ## Discarding nodes and clearing slots -/

theorem Represents.popStale (hroot : s.heap.head? = some root)
    (hstale : timerNodeActive s root = false) : Represents { s with heap := heapPop s.heap } S := by
  have hperm : (root :: heapPop s.heap).Perm s.heap := pop_perm deadlineMs hroot
  have hlen := hperm.length_eq
  refine { h with
    isHeap := pop_isHeap _ h.isHeap, active := ?_, ids := ?_, current := fun i hact => ?_
    nodes := fun n hn => h.nodes n (hperm.subset (mem_cons_of_mem root hn))
    heap_card := (Nat.le_of_succ_le hlen.le).trans h.heap_card }
  · have hfilter := hperm.filter (timerNodeActive s)
    rw [filter_cons_of_neg (by simp [hstale])] at hfilter
    rw [h.active]
    exact (Multiset.coe_eq_coe.mpr (hfilter.map timer)).symm
  · exact (nodup_cons.mp ((hperm.map TimerNode.id).nodup_iff.mpr h.ids)).2
  · obtain ⟨n, hn, hslot, hgen, hactive⟩ := h.active_of_current hact
    refine ⟨n, ?_, hslot, hgen⟩
    rcases mem_cons.mp (hperm.mem_iff.mpr hn) with rfl | hmem
    · exact absurd (hactive.symm.trans hstale) nofun
    · exact hmem

omit h in
theorem filter_perm_cons {β : Type} {l : List β} {p q : β → Bool} {a : β} (hnodup : l.Nodup)
    (ha : a ∈ l) (hpa : p a = true) (hqa : q a = false)
    (hrest : ∀ b ∈ l, b ≠ a → q b = p b) : (l.filter p).Perm (a :: l.filter q) := by
  obtain ⟨l₁, l₂, rfl⟩ := append_of_mem ha
  rw [nodup_middle, nodup_cons] at hnodup
  have hcongr : ∀ l' : List β, (∀ b ∈ l', b ∈ l₁ ++ l₂) → l'.filter q = l'.filter p :=
    fun l' hsub => filter_congr fun b hb => hrest b (by grind) (by grind)
  rw [filter_append, filter_append, filter_cons_of_pos hpa,
    filter_cons_of_neg (by simp [hqa]), hcongr l₁ fun b hb => mem_append_left _ hb,
    hcongr l₂ fun b hb => mem_append_right _ hb]
  exact perm_middle

theorem Represents.deactivate (hn : n ∈ s.heap) (hact : timerNodeActive s n = true) :
    ∃ rest, S.active = n.timer ::ₘ rest
      ∧ timerNodeActive (deactivate s n.slot) n = false
      ∧ ∀ fired cancelled, Represents (deactivate s n.slot) ⟨rest, S.added, fired, cancelled⟩ := by
  obtain ⟨hheap, hlen, hcap⟩ := deactivate_fields s n.slot
  have hgens := generation_deactivate s n.slot
  have hactive : ∀ m, timerNodeActive (Mrtc.deactivate s n.slot) m
      = if m.slot = n.slot then false else timerNodeActive s m := by
    grind [slotAt_deactivate, timerNodeActive_eq]
  refine ⟨_, ?_, by rw [hactive, if_pos rfl], fun fired cancelled => ⟨hheap ▸ h.isHeap, rfl,
    hheap ▸ h.ids, ?_, ?_, ?_, ?_, ?_, ?_, ?_⟩⟩
  · rw [h.active, hheap]
    refine Multiset.coe_eq_coe.mpr ((filter_perm_cons (List.Nodup.of_map _ h.ids) hn hact
      (by rw [hactive, if_pos rfl]) fun m hm hne => ?_).map timer)
    have hunique := h.active_unique hm hn
    grind
  · simpa only [hheap, hgens] using h.nodes
  · intro i hi
    rw [hheap, hgens]
    exact h.current i (by grind [slotAt_deactivate])
  · simpa only [hgens] using h.generations
  · simpa only [hgens] using h.handles
  · rw [hlen, hcap]
    exact h.slots_le
  · rw [hheap]
    exact h.heap_card
  · rw [hlen]
    exact h.slots_card

/-! ## What each call does -/

theorem pruneRoots_spec (fuel : Nat) (hfuel : s.heap.length ≤ fuel) :
    Represents (pruneRoots fuel s) S
      ∧ ∀ root, (pruneRoots fuel s).heap.head? = some root →
        timerNodeActive (pruneRoots fuel s) root = true := by
  induction fuel generalizing s with
  | zero =>
    refine ⟨h, fun root hroot => ?_⟩
    rw [pruneRoots, eq_nil_of_length_eq_zero (Nat.le_zero.mp hfuel)] at hroot
    cases hroot
  | succ fuel ih =>
    cases hhead : s.heap.head? with
    | none =>
      simp only [pruneRoots, hhead]
      exact ⟨h, nofun⟩
    | some root =>
      cases hact : timerNodeActive s root with
      | true =>
        simp only [pruneRoots, hhead, hact, if_true]
        exact ⟨h, by grind⟩
      | false =>
        simp only [pruneRoots, hhead, hact, Bool.false_eq_true, if_false]
        have hlen := (pop_perm deadlineMs hhead).length_eq
        refine ih (h.popStale hhead hact) (show (heapPop s.heap).length ≤ fuel from ?_)
        exact Nat.le_of_succ_le_succ (hlen.le.trans hfuel)

theorem pruneStaleRoots_spec :
    Represents (pruneStaleRoots s) S
      ∧ (∀ root, (pruneStaleRoots s).heap.head? = some root →
        timerNodeActive (pruneStaleRoots s) root = true)
      ∧ slotAt (pruneStaleRoots s) = slotAt s := by
  obtain ⟨hrep, hroot⟩ := pruneRoots_spec h _ (Nat.le_refl _)
  exact ⟨hrep, hroot, by funext i; rw [slotAt, pruneStaleRoots, pruneRoots_slots, slotAt]⟩

theorem Represents.active_handle {t : Timer α} (ht : t ∈ S.active) :
    t.handle ≠ 0 ∧ timerHandleSlot t.handle < 2 ^ 31
      ∧ (slotAt s (timerHandleSlot t.handle)).active = true
      ∧ (slotAt s (timerHandleSlot t.handle)).generation = timerHandleGeneration t.handle := by
  obtain ⟨n, hn, hact, rfl⟩ := h.mem_active.mp ht
  obtain ⟨hpos, hle⟩ := h.nodes n hn
  have hlt := h.generations n.slot
  have hslot := h.slot_lt (hpos.trans hle)
  have hparts := timerHandle_make (i := n.slot) (g := n.generation) (by omega) (by omega)
  have hvalid := timerMakeHandle_ne_zero (i := n.slot) (g := n.generation) (by omega) (by omega) hpos
  rw [timerNodeActive_eq] at hact
  simp only [timer]
  grind

theorem Represents.cancel (handle : UInt64) :
    ∃ S', S.Step (.cancel handle) .done S' ∧ Represents (rtcTimerSchedCancel s handle) S' := by
  by_cases hany : ∃ t ∈ S.active, t.handle = handle
  · obtain ⟨t, ht, rfl⟩ := hany
    obtain ⟨hvalid, hsmall, hact, hgen⟩ := h.active_handle ht
    obtain ⟨n, hn, hslot, hngen, hnact⟩ := h.active_of_current hact
    obtain ⟨rest, hrest, _, hrep⟩ := h.deactivate hn hnact
    have hhandle : n.timer.handle = t.handle := by
      show timerMakeHandle n.slot n.generation = t.handle
      rw [hslot, hngen, hgen, timerMakeHandle_parts]
    have hrun : rtcTimerSchedCancel s t.handle = Mrtc.deactivate s n.slot := by
      unfold rtcTimerSchedCancel
      grind [slotAt]
    rw [hrun, ← hhandle]
    exact ⟨_, .cancelled n.timer rest hrest, hrep _ _⟩
  · have hstale : ∀ t ∈ S.active, t.handle ≠ handle := fun t ht heq => hany ⟨t, ht, heq⟩
    refine ⟨S, .stale handle hstale, ?_⟩
    -- the slot that the handle names is free already, or has another generation
    have hfree : (slotAt s (timerHandleSlot handle)).generation = timerHandleGeneration handle →
        (slotAt s (timerHandleSlot handle)).active = false := by
      intro hgen
      by_contra hact
      obtain ⟨n, hn, hslot, hngen, hnact⟩ := h.active_of_current (Bool.not_eq_false _ ▸ hact)
      refine hstale n.timer (h.mem_active.mpr ⟨n, hn, hnact, rfl⟩) ?_
      show timerMakeHandle n.slot n.generation = handle
      rw [hslot, hngen, hgen, timerMakeHandle_parts]
    have hsame : rtcTimerSchedCancel s handle = s := by
      unfold rtcTimerSchedCancel
      grind [deactivate_of_free, slotAt_of_some]
    rw [hsame]
    exact h

theorem Represents.root_earliest (hroot : s.heap.head? = some root) : S.Earliest root.timer := by
  intro t ht
  obtain ⟨n, hn, _, rfl⟩ := h.mem_active.mp ht
  exact root_le_of_mem _ h.isHeap hroot hn

theorem Represents.active_of_empty (hempty : s.heap.head? = none) : S.active = 0 := by
  rw [h.active, head?_eq_none_iff.mp hempty]
  rfl

omit h in
theorem deactivate_heap (s : TimerSched α) (heap : List (TimerNode α)) (slot : Nat) :
    deactivate { s with heap := heap } slot = { deactivate s slot with heap := heap } := by
  unfold deactivate
  grind

theorem Represents.popDue (nowMs : Nat) :
    ∃ S', S.Step (.popDue nowMs) (.due (rtcTimerSchedPopDue s nowMs).1) S'
      ∧ Represents (rtcTimerSchedPopDue s nowMs).2 S'
      ∧ ∀ i, (slotAt (rtcTimerSchedPopDue s nowMs).2 i).generation = (slotAt s i).generation := by
  obtain ⟨hrep, hactive, hslots⟩ := pruneStaleRoots_spec h
  rw [rtcTimerSchedPopDue, popDueLoop]
  simp only
  rw [← hslots]
  cases hroot : (pruneStaleRoots s).heap.head? with
  | none =>
    refine ⟨S, .notDue nowMs fun t ht => ?_, hrep, fun i => rfl⟩
    rw [hrep.active_of_empty hroot] at ht
    exact absurd ht (Multiset.notMem_zero t)
  | some root =>
    have hact := hactive root hroot
    have hfirst := hrep.root_earliest hroot
    simp only
    split
    · rename_i hearly
      exact ⟨S, .notDue nowMs fun t ht => lt_of_lt_of_le hearly (hfirst t ht), hrep, fun i => rfl⟩
    · rename_i hdue
      obtain ⟨rest, hrest, hstale, hcleared⟩ := hrep.deactivate (mem_of_head? hroot) hact
      rw [if_pos (show timerNodeActive { pruneStaleRoots s with
        heap := heapPop (pruneStaleRoots s).heap } root = true from hact)]
      refine ⟨_, .fired root.timer rest nowMs hrest (not_lt.mp hdue) hfirst, ?_,
        generation_deactivate _ _⟩
      -- popping the node and then clearing its slot is clearing the slot first
      show Represents (Mrtc.deactivate _ root.slot) _
      have hheap := (deactivate_fields (pruneStaleRoots s) root.slot).1
      rw [deactivate_heap, ← hheap]
      exact (hcleared _ _).popStale (by rw [hheap]; exact hroot) hstale

theorem Represents.nextTimeout (nowMs : Nat) (defaultMs : Int) :
    S.Step (.nextTimeout nowMs defaultMs)
        (.timeout (rtcTimerSchedNextTimeoutMs s nowMs defaultMs).1) S
      ∧ Represents (rtcTimerSchedNextTimeoutMs s nowMs defaultMs).2 S
      ∧ slotAt (rtcTimerSchedNextTimeoutMs s nowMs defaultMs).2 = slotAt s := by
  obtain ⟨hrep, hactive, hslots⟩ := pruneStaleRoots_spec h
  unfold rtcTimerSchedNextTimeoutMs
  simp only
  cases hroot : (pruneStaleRoots s).heap.head? with
  | none => exact ⟨.noTimeout nowMs defaultMs (hrep.active_of_empty hroot), hrep, hslots⟩
  | some root =>
    have hmem : root.timer ∈ S.active :=
      hrep.mem_active.mpr ⟨root, mem_of_head? hroot, hactive root hroot, rfl⟩
    have hstep := TimerSet.Step.timeout root.timer nowMs defaultMs hmem
      (hrep.root_earliest hroot)
    have hmin : ((min (root.deadlineMs - nowMs) intMax : Nat) : Int)
        = if root.deadlineMs ≤ nowMs then 0
          else if intMax < root.deadlineMs - nowMs then (intMax : Int)
          else ((root.deadlineMs - nowMs : Nat) : Int) := by
      grind
    rw [show root.timer.deadlineMs = root.deadlineMs from rfl, hmin] at hstep
    by_cases hdue : root.deadlineMs ≤ nowMs
    · simp only [if_pos hdue] at hstep ⊢
      exact ⟨hstep, hrep, hslots⟩
    · simp only [if_neg hdue] at hstep ⊢
      exact ⟨hstep, hrep, hslots⟩

/-! ## Counting -/

omit h in
theorem countP_eq_range {β : Type} (p : β → Bool) (l : List β) :
    l.countP p = ((range l.length).filter fun i => l[i]?.any p).length := by
  have hl : l.map some = (range l.length).map (l[·]?) := by
    refine ext_getElem (by simp) fun i hi hi' => ?_
    rw [length_map] at hi
    simp [getElem?_eq_getElem hi]
  calc l.countP p = (l.map some).countP (Option.any p) := by
        rw [countP_map]
        rfl
    _ = _ := by
        rw [hl, countP_map, countP_eq_length_filter]
        rfl

theorem Represents.pendingCount : rtcTimerSchedPendingCount s = S.active.card := by
  have hinj : ((s.heap.filter (timerNodeActive s)).map slot).Nodup := by
    refine List.Nodup.map_on (fun m hm n hn hslot => ?_)
      ((List.Nodup.of_map _ h.ids).filter (timerNodeActive s))
    obtain ⟨hm, hma⟩ := mem_filter.mp hm
    obtain ⟨hn, hna⟩ := mem_filter.mp hn
    exact h.active_unique hm hn hma hna hslot
  have hperm : ((range s.slots.length).filter fun i => s.slots[i]?.any (·.active)).Perm
      ((s.heap.filter (timerNodeActive s)).map slot) := by
    refine (perm_ext_iff_of_nodup (nodup_range.filter _) hinj).mpr fun i => ?_
    have hslot : (i < s.slots.length ∧ s.slots[i]?.any (·.active) = true)
        ↔ (slotAt s i).active = true := by
      grind [slotAt]
    rw [mem_filter, mem_range, hslot, mem_map]
    constructor
    · grind [h.active_of_current]
    · grind [timerNodeActive_eq]
  rw [rtcTimerSchedPendingCount, countP_eq_range, hperm.length_eq, length_map, h.active,
    Multiset.coe_card, length_map]

end Represents

end Mrtc
