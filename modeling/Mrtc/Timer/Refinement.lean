import Mathlib.Data.UInt
import Mrtc.Timer.Represents

/-! # The timer scheduler refines a multiset of timers

Adding a timer keeps `Represents` as long as its slot's generation does not wrap
(`Represents.add`).
-/

namespace Mrtc

open BinaryHeap List

variable {α : Type} {s : TimerSched α} {S : TimerSet α} {slot : Nat}

/-! ## Adding a timer -/

structure FreeSlot (s s' : TimerSched α) (slot : Nat) : Prop where
  heap : s'.heap = s.heap
  free : (slotAt s slot).active = false
  same : s'.slots.getD slot {} = slotAt s slot
  set : ∀ (new : TimerSlot) (i : Nat),
    (s'.slots.set slot new)[i]?.getD {} = if i = slot then new else slotAt s i
  length_le : s'.slots.length ≤ s.slots.length + 1
  slot_lt : slot < 2 ^ 31
  slots_le : s'.slots.length ≤ s'.slotCap ∧ s'.slotCap < 2 ^ 31

theorem growCap_spec (granted : Bool) (cap : Nat) :
    cap < growCap cap 16 ∧ (¬(granted && decide (growCap cap 16 < 2 ^ 31)) = true →
      granted = false ∨ 2 ^ 30 ≤ cap) := by
  unfold growCap
  grind

theorem ensureHeapCap_spec (s : TimerSched α) (alloc : AddAlloc) :
    (ensureHeapCap s alloc = none ∧ (alloc.heap = false ∨ 2 ^ 30 ≤ s.heap.length))
      ∨ ∃ cap, ensureHeapCap s alloc = some { s with heapCap := cap } := by
  have hgrow := growCap_spec alloc.heap s.heapCap
  unfold ensureHeapCap timerInitialHeapCap
  dsimp only
  split_ifs with hroom hok
  · exact Or.inr ⟨s.heapCap, rfl⟩
  · exact Or.inr ⟨_, rfl⟩
  · exact Or.inl ⟨rfl, (hgrow.2 hok).imp_right (not_lt.mp hroom).trans'⟩

theorem ensureSlotCap_spec
    (hcap : s.slots.length ≤ s.slotCap ∧ s.slotCap < 2 ^ 31) (alloc : AddAlloc) :
    (ensureSlotCap s alloc = none
        ∧ ((alloc.generations && alloc.active) = false ∨ 2 ^ 30 ≤ s.slots.length))
      ∨ ∃ cap, ensureSlotCap s alloc = some { s with slotCap := cap }
        ∧ s.slots.length < cap ∧ cap < 2 ^ 31 := by
  have hgrow := growCap_spec (alloc.generations && alloc.active) s.slotCap
  unfold ensureSlotCap timerInitialSlotCap
  dsimp only
  split_ifs with hroom hok
  · exact Or.inr ⟨s.slotCap, rfl, hroom, hcap.2⟩
  · exact Or.inr ⟨_, rfl, hcap.1.trans_lt hgrow.1, of_decide_eq_true (Bool.and_eq_true_iff.mp hok).2⟩
  · exact Or.inl ⟨rfl, (hgrow.2 hok).imp_right (not_lt.mp hroom).trans'⟩

theorem allocSlot_spec (hcap : s.slots.length ≤ s.slotCap ∧ s.slotCap < 2 ^ 31) (alloc : AddAlloc) :
    (allocSlot s alloc = none
        ∧ ((alloc.generations && alloc.active) = false ∨ 2 ^ 30 ≤ s.slots.length))
      ∨ ∃ slot s', allocSlot s alloc = some (slot, s') ∧ FreeSlot s s' slot := by
  unfold allocSlot
  cases hfind : s.slots.findIdx? (fun sl => !sl.active) with
  | some i =>
    obtain ⟨hlt, hfree, _⟩ := findIdx?_eq_some_iff_getElem.mp hfind
    refine Or.inr ⟨i, s, rfl, rfl, ?_, getD_eq_getElem?_getD, fun new j => ?_, Nat.le_succ _,
      by omega, hcap⟩
    · simpa [slotAt, hlt] using hfree
    · grind [slotAt]
  | none =>
    simp only
    rcases ensureSlotCap_spec hcap alloc with ⟨hnone, hwhy⟩ | ⟨cap, hsome, hlt, hcap'⟩
    · rw [hnone]
      exact Or.inl ⟨rfl, hwhy⟩
    · rw [hsome]
      refine Or.inr ⟨s.slots.length, _, rfl, rfl, ?_, ?_, fun new i => ?_, ?_, by omega, ?_, hcap'⟩
      · simp [slotAt]
      · simp [slotAt]
      · rw [set_append_right _ _ (Nat.le_refl _), Nat.sub_self, set_cons_zero]
        grind [slotAt]
      · simp
      · simpa using hlt

theorem nextGeneration_of_lt {g : Nat} (hg : g + 1 < 2 ^ 32) : nextGeneration g = g + 1 := by
  unfold nextGeneration
  rw [Nat.mod_eq_of_lt hg, if_neg (Nat.succ_ne_zero g)]

theorem Represents.addNode {s s' : TimerSched α} (h : Represents s S) (hfree : FreeSlot s s' slot)
    (hwrap : (slotAt s slot).generation + 1 < 2 ^ 32) (deadlineMs : Nat) (callback : α)
    {n : TimerNode α} (hn : n = ⟨deadlineMs, callback, (slotAt s slot).generation + 1, slot⟩) :
    Represents
      { s' with
        slots := s'.slots.set slot ⟨(slotAt s slot).generation + 1, true⟩
        heap := heapPush s'.heap n }
      { S with active := n.timer ::ₘ S.active, added := n.timer ::ₘ S.added } := by
  set s'' : TimerSched α := { s' with
    slots := s'.slots.set slot ⟨(slotAt s slot).generation + 1, true⟩
    heap := heapPush s'.heap n } with hs''
  have hget : ∀ i, slotAt s'' i
      = if i = slot then ⟨(slotAt s slot).generation + 1, true⟩ else slotAt s i := hfree.set _
  have hgrow : ∀ i, (slotAt s i).generation ≤ (slotAt s'' i).generation := by grind
  have hperm : s''.heap.Perm (n :: s.heap) :=
    hfree.heap ▸ push_perm TimerNode.deadlineMs s'.heap n
  have hslots : s''.slots.length = s'.slots.length := length_set ..
  -- a node that was there before is as active as it was
  have hkept : ∀ m ∈ s.heap, timerNodeActive s'' m = timerNodeActive s m := by
    intro m hm
    have hle := (h.nodes m hm).2
    have hoff := hfree.free
    grind [timerNodeActive_eq]
  refine ⟨push_isHeap _ (hfree.heap ▸ h.isHeap) n, ?_, ?_, ?_, ?_, ?_, ?_, ?_, ?_, ?_⟩
  · have hfilter := hperm.filter (timerNodeActive s'')
    rw [filter_cons_of_pos (by grind [timerNodeActive_eq]), filter_congr hkept] at hfilter
    show n.timer ::ₘ S.active = _
    rw [h.active, Multiset.cons_coe]
    exact (Multiset.coe_eq_coe.mpr (hfilter.map TimerNode.timer)).symm
  · refine (hperm.map TimerNode.id).nodup_iff.mpr (nodup_cons.mpr ⟨fun hmem => ?_, h.ids⟩)
    obtain ⟨m, hm, hid⟩ := mem_map.mp hmem
    have hle := (h.nodes m hm).2
    grind [TimerNode.id]
  · intro m hm
    rcases mem_cons.mp (hperm.mem_iff.mp hm) with rfl | hm
    · grind
    · exact ⟨(h.nodes m hm).1, (h.nodes m hm).2.trans (hgrow _)⟩
  · intro i hact
    by_cases heq : i = slot
    · exact ⟨n, hperm.mem_iff.mpr mem_cons_self, by grind, by grind⟩
    · grind [mem_cons_of_mem, h.current, hperm.mem_iff]
  · intro i
    have hold := h.generations i
    grind
  · intro t ht
    rcases Multiset.mem_cons.mp ht with rfl | ht
    · exact ⟨slot, _, hfree.slot_lt, by rw [hget, if_pos rfl], by rw [hn]; rfl⟩
    · grind [h.handles]
  · rw [hslots]
    exact hfree.slots_le
  · rw [hperm.length_eq, length_cons, Multiset.card_cons]
    exact Nat.succ_le_succ h.heap_card
  · rw [hslots, Multiset.card_cons]
    exact hfree.length_le.trans (Nat.succ_le_succ h.slots_card)

theorem Represents.handle_new (h : Represents s S) (hslot : slot < 2 ^ 31)
    (hwrap : (slotAt s slot).generation + 1 < 2 ^ 32) :
    ∀ u ∈ S.added, u.handle ≠ timerMakeHandle slot ((slotAt s slot).generation + 1) := by
  intro u hu heq
  obtain ⟨i, g, hi, hle, hhandle⟩ := h.handles u hu
  have hg := h.generations i
  have hparts := timerHandle_make (i := i) (g := g) (by omega) (by omega)
  have hparts' := timerHandle_make (i := slot) (by omega) hwrap
  rw [← hhandle, heq, hparts'.1, hparts'.2] at hparts
  rw [← hparts.1] at hle
  omega

def TimerResult.usesSlot (slot : Nat) : TimerResult α → Bool
  | .handle h => h != 0 && timerHandleSlot h == slot
  | _ => false

def slotUses (rs : List (TimerResult α)) (slot : Nat) : Nat := rs.countP (TimerResult.usesSlot slot)

theorem slotUses_cons (r : TimerResult α) (rs : List (TimerResult α)) (slot : Nat) :
    slotUses (r :: rs) slot = slotUses [r] slot + slotUses rs slot := by
  unfold slotUses
  rw [← countP_append, singleton_append]

theorem slotUses_made {g : Nat} (hslot : slot < 2 ^ 32) (hpos : 1 ≤ g) (hg : g < 2 ^ 32) (i : Nat) :
    slotUses [(.handle (timerMakeHandle slot g) : TimerResult α)] i = if i = slot then 1 else 0 := by
  have hne := timerMakeHandle_ne_zero hslot hg hpos
  have hslot' := (timerHandle_make hslot hg).1
  by_cases hi : i = slot
  · simp [slotUses, TimerResult.usesSlot, hne, hslot', hi]
  · simp [slotUses, TimerResult.usesSlot, hslot', hi, Ne.symm hi]

theorem nextGeneration_range (g : Nat) : 1 ≤ nextGeneration g ∧ nextGeneration g < 2 ^ 32 := by
  unfold nextGeneration
  split
  · decide
  · rename_i hne
    exact ⟨Nat.pos_of_ne_zero hne, Nat.mod_lt _ (Nat.two_pow_pos 32)⟩

def StepRefines (s : TimerSched α) (S : TimerSet α) (op : TimerOp α)
    (r : TimerResult α × TimerSched α) : Prop :=
  ∃ S', S.Step op r.1 S' ∧ Represents r.2 S'
    ∧ ∀ i, (slotAt r.2 i).generation = (slotAt s i).generation + slotUses [r.1] i

theorem Represents.add (h : Represents s S)
    (deadlineMs : Nat) (callback : α) (alloc : AddAlloc)
    (hwrap : ∀ i, (slotAt s i).generation
      + slotUses [(timerStep s (.add deadlineMs callback alloc)).1] i < 2 ^ 32) :
    StepRefines s S (.add deadlineMs callback alloc)
      (timerStep s (.add deadlineMs callback alloc)) := by
  simp only [timerStep, rtcTimerSchedAdd] at hwrap ⊢
  rcases ensureHeapCap_spec s alloc with ⟨hnone, hwhy⟩ | ⟨cap, hsome⟩
  · rw [hnone]
    refine ⟨S, .refused deadlineMs callback alloc ?_, h, fun i => rfl⟩
    exact hwhy.imp (fun hal => by simp [AddAlloc.ok, hal]) h.heap_card.trans'
  · rw [hsome] at hwrap ⊢
    have h₁ : Represents { s with heapCap := cap } S := { h with }
    rcases allocSlot_spec h₁.slots_le alloc with ⟨hnone, hwhy⟩ | ⟨slot, s', hslot, hfree⟩
    · simp only [hnone]
      refine ⟨S, .refused deadlineMs callback alloc ?_, h₁, fun i => rfl⟩
      exact hwhy.imp (fun hal => by rw [AddAlloc.ok, Bool.and_assoc, hal, Bool.and_false])
        h.slots_card.trans'
    · have hlt : slot < 2 ^ 32 := hfree.slot_lt.trans (by decide)
      have hat : slotAt { s with heapCap := cap } = slotAt s := rfl
      simp only [hslot, addAt, hfree.same, hat] at hwrap ⊢
      obtain ⟨hpos, hsmall⟩ := nextGeneration_range (slotAt s slot).generation
      have hwrap' : (slotAt s slot).generation + 1 < 2 ^ 32 := by
        have hw := hwrap slot
        rwa [slotUses_made hlt hpos hsmall, if_pos rfl] at hw
      rw [nextGeneration_of_lt hwrap'] at hpos hsmall ⊢
      refine ⟨_, .added ⟨timerMakeHandle slot ((slotAt s slot).generation + 1), deadlineMs, callback⟩
        alloc (timerMakeHandle_ne_zero hlt hsmall hpos) (h.handle_new hfree.slot_lt hwrap'),
        h₁.addNode hfree hwrap' deadlineMs callback rfl, fun i => ?_⟩
      rw [slotUses_made hlt hpos hsmall]
      refine (congrArg TimerSlot.generation (hfree.set _ i)).trans ?_
      by_cases hi : i = slot
      · rw [if_pos hi, if_pos hi, hi]
      · rw [if_neg hi, if_neg hi]
        rfl

/-! ## Runs -/

theorem timerStep_refines (h : Represents s S) (op : TimerOp α)
    (hwrap : ∀ i, (slotAt s i).generation + slotUses [(timerStep s op).1] i < 2 ^ 32) :
    StepRefines s S op (timerStep s op) := by
  cases op with
  | add deadlineMs callback alloc => exact h.add deadlineMs callback alloc hwrap
  | cancel handle =>
    obtain ⟨S', hstep, hrep⟩ := h.cancel handle
    refine ⟨S', hstep, hrep, fun i => ?_⟩
    show (slotAt (rtcTimerSchedCancel s handle) i).generation = (slotAt s i).generation
    unfold rtcTimerSchedCancel
    grind [generation_deactivate]
  | popDue nowMs => exact h.popDue nowMs
  | nextTimeout nowMs defaultMs =>
    obtain ⟨hstep, hrep, hslots⟩ := h.nextTimeout nowMs defaultMs
    exact ⟨S, hstep, hrep, fun i => congrArg TimerSlot.generation (congrFun hslots i)⟩
  | pendingCount =>
    refine ⟨S, ?_, h, fun i => rfl⟩
    show S.Step .pendingCount (.count (rtcTimerSchedPendingCount s)) S
    rw [h.pendingCount]
    exact .pending

theorem timerRun_represents (ops : List (TimerOp α)) (s : TimerSched α) (S : TimerSet α)
    (h : Represents s S)
    (hwrap : ∀ i, (slotAt s i).generation + slotUses (timerRun s ops).1 i < 2 ^ 32) :
    ∃ S', S.Run ops (timerRun s ops).1 S' := by
  induction ops generalizing s S with
  | nil => exact ⟨S, .nil S⟩
  | cons op ops ih =>
    have hcons : ∀ i, (slotAt s i).generation + (slotUses [(timerStep s op).1] i
        + slotUses (timerRun (timerStep s op).2 ops).1 i) < 2 ^ 32 :=
      fun i => slotUses_cons .. ▸ hwrap i
    obtain ⟨S₁, hstep, hrep, hgen⟩ := timerStep_refines h op fun i => by
      have hw := hcons i
      omega
    obtain ⟨S', hrun⟩ := ih _ S₁ hrep fun i => by
      have hw := hcons i
      rw [hgen]
      omega
    exact ⟨S', .cons hstep hrun⟩

/-- **The scheduler is a multiset of timers**: with no slot handed out `2^32` times, the results
of any sequence of calls are those of a run of the abstract scheduler, and every timer added is
active, or fired once, or cancelled once. -/
theorem timerRun_refines (ops : List (TimerOp α))
    (hwrap : ∀ slot, slotUses (timerRun ({} : TimerSched α) ops).1 slot < 2 ^ 32) :
    ∃ S : TimerSet α, TimerSet.Run {} ops (timerRun {} ops).1 S ∧ S.Accounted := by
  obtain ⟨S, hrun⟩ := timerRun_represents ops {} {} represents_empty fun i => by
    rw [show (slotAt ({} : TimerSched α) i).generation = 0 from rfl, Nat.zero_add]
    exact hwrap i
  exact ⟨S, hrun, hrun.accounted TimerSet.empty_accounted⟩

def busyOps : List (TimerOp Nat) :=
  [.add 20 1 {}, .add 10 2 {}, .nextTimeout 4 (-1), .popDue 15, .add 30 3 {}, .cancel (2 ^ 32),
    .cancel (2 ^ 32 + 1), .pendingCount, .popDue 40, .popDue 40, .nextTimeout 40 (-1)]

theorem busyOps_refines :
    (timerRun {} busyOps).1
        = [.handle (2 ^ 32), .handle (2 ^ 32 + 1), .timeout 6, .due (some 2),
          .handle (2 * 2 ^ 32 + 1), .done, .done, .count 1, .due (some 3), .due none, .timeout (-1)]
      ∧ ∃ S : TimerSet Nat, TimerSet.Run {} busyOps (timerRun {} busyOps).1 S ∧ S.Accounted := by
  have hlen : (timerRun {} busyOps).1.length < 2 ^ 32 := by decide +kernel
  have hwrap : ∀ slot, slotUses (timerRun {} busyOps).1 slot < 2 ^ 32 := fun slot =>
    lt_of_le_of_lt countP_le_length hlen
  exact ⟨by decide +kernel, timerRun_refines busyOps hwrap⟩

/-! ## When a generation wraps -/

def rounds (tail : List (TimerOp Unit)) : Nat → List (TimerOp Unit)
  | 0 => tail
  | n + 1 => .add 0 () {} :: .popDue 0 :: rounds tail n

def oneFreeSlot (g : Nat) : TimerSched Unit := ⟨[], 16, [⟨g, false⟩], 16⟩

theorem round_results (g : Nat) (ops : List (TimerOp Unit)) :
    (timerRun (oneFreeSlot g) (.add 0 () {} :: .popDue 0 :: ops)).1
      = .handle (timerMakeHandle 0 (nextGeneration g)) :: .due (some ())
        :: (timerRun (oneFreeSlot (nextGeneration g)) ops).1 := by
  have hadd : timerStep (oneFreeSlot g) (.add 0 () {})
      = (.handle (timerMakeHandle 0 (nextGeneration g)),
        ⟨[⟨0, (), nextGeneration g, 0⟩], 16, [⟨nextGeneration g, true⟩], 16⟩) := rfl
  have hpop : timerStep (⟨[⟨0, (), nextGeneration g, 0⟩], 16, [⟨nextGeneration g, true⟩], 16⟩ :
      TimerSched Unit) (.popDue 0)
      = (.due (some ()), oneFreeSlot (nextGeneration g)) := by
    simp [timerStep, rtcTimerSchedPopDue, popDueLoop, pruneStaleRoots, pruneRoots,
      timerNodeActive, deactivate, oneFreeSlot, heapPop, pop]
  simp only [timerRun, hadd, hpop]

theorem rounds_results (tail : List (TimerOp Unit)) (n g : Nat) (hwrap : g + n < 2 ^ 32) :
    ∃ rs, (timerRun (oneFreeSlot g) (rounds tail n)).1
      = rs ++ (timerRun (oneFreeSlot (g + n)) tail).1 := by
  induction n generalizing g with
  | zero => exact ⟨[], rfl⟩
  | succ n ih =>
    obtain ⟨rs, hrs⟩ := ih (g + 1) (by omega)
    rw [rounds, round_results, nextGeneration_of_lt (by omega), hrs, Nat.add_right_comm g 1 n]
    exact ⟨_ :: _ :: rs, rfl⟩

theorem rounds_suffix (tail : List (TimerOp Unit)) (n : Nat) : tail <:+ rounds tail n := by
  induction n with
  | zero => exact suffix_refl tail
  | succ n ih => exact ih.trans ⟨[_, _], rfl⟩

def cancelFirst : List (TimerOp Unit) := [.add 5 () {}, .cancel (2 ^ 32), .pendingCount]

theorem wrap_results (n : Nat) (hn : n + 2 = 2 ^ 32) :
    ∃ rs, (timerRun {} (rounds cancelFirst (n + 1))).1
      = .handle (2 ^ 32) :: rs ++ [.handle (2 ^ 32), .done, .count 0] := by
  obtain ⟨rs, hrs⟩ := rounds_results cancelFirst n 1 (by omega)
  have hlast : (timerRun (oneFreeSlot (1 + n)) cancelFirst).1
      = [.handle (2 ^ 32), .done, .count 0] := by
    rw [show 1 + n = 2 ^ 32 - 1 by omega]
    decide +kernel
  have hfirst : (timerRun {} (rounds cancelFirst (n + 1))).1
      = .handle (2 ^ 32) :: .due (some ()) :: (timerRun (oneFreeSlot 1) (rounds cancelFirst n)).1 :=
    rfl
  rw [hfirst, hrs, hlast]
  exact ⟨.due (some ()) :: rs, rfl⟩

def TimerOp.isAdd : TimerOp α → Bool
  | .add _ _ _ => true
  | _ => false

theorem slotUses_le_adds (ops : List (TimerOp α)) (s : TimerSched α) (slot : Nat) :
    slotUses (timerRun s ops).1 slot ≤ ops.countP TimerOp.isAdd := by
  induction ops generalizing s with
  | nil => exact Nat.le_refl 0
  | cons op ops ih =>
    have hrest := ih (timerStep s op).2
    have hone : slotUses [(timerStep s op).1] slot ≤ [op].countP TimerOp.isAdd := by
      cases op with
      | add deadlineMs callback alloc => exact countP_le_length
      | cancel handle => exact Nat.le_refl 0
      | popDue nowMs => exact Nat.le_refl 0
      | nextTimeout nowMs defaultMs => exact Nat.le_refl 0
      | pendingCount => exact Nat.le_refl 0
    rw [← singleton_append, countP_append]
    show slotUses ((timerStep s op).1 :: (timerRun (timerStep s op).2 ops).1) slot ≤ _
    rw [slotUses_cons]
    omega

theorem rounds_adds (tail : List (TimerOp Unit)) (n : Nat) :
    (rounds tail n).countP TimerOp.isAdd = n + tail.countP TimerOp.isAdd := by
  induction n with
  | zero => rw [rounds, Nat.zero_add]
  | succ n ih =>
    rw [rounds, countP_cons_of_pos rfl, countP_cons_of_neg (by decide), ih]
    omega

theorem rounds_alloc {tail : List (TimerOp Unit)} {n deadlineMs : Nat} {alloc : AddAlloc}
    (hmem : .add deadlineMs () alloc ∈ rounds tail n) :
    alloc = {} ∨ .add deadlineMs () alloc ∈ tail := by
  induction n with
  | zero => exact Or.inr hmem
  | succ n ih =>
    rw [rounds, mem_cons, mem_cons] at hmem
    rcases hmem with heq | heq | hmem
    · cases heq
      exact Or.inl rfl
    · cases heq
    · exact ih hmem

/-- With `2^32 - 1` reuses of a slot, and every allocation succeeding, the first timer's handle is
handed out again: cancelling that timer, which fired long ago, cancels the last one. -/
theorem fired_handle_cancels_other :
    ∃ ops : List (TimerOp Unit),
      (∀ deadlineMs alloc, .add deadlineMs () alloc ∈ ops → alloc.ok = true)
        ∧ (∀ slot, slotUses (timerRun {} ops).1 slot - 1 < 2 ^ 32)
        ∧ (∃ rs, (timerRun {} ops).1
          = .handle (2 ^ 32) :: rs ++ [.handle (2 ^ 32), .done, .count 0])
        ∧ [.add 5 () {}, .cancel (2 ^ 32), .pendingCount] <:+ ops
        ∧ ¬∃ S : TimerSet Unit, TimerSet.Run {} ops (timerRun {} ops).1 S := by
  obtain ⟨n, hn⟩ : ∃ n, n + 2 = 2 ^ 32 := ⟨2 ^ 32 - 2, by norm_num⟩
  obtain ⟨rs, hrs⟩ := wrap_results n hn
  refine ⟨rounds cancelFirst (n + 1), fun deadlineMs alloc hmem => ?_, fun slot => ?_, ⟨rs, hrs⟩,
    rounds_suffix cancelFirst (n + 1), ?_⟩
  · rcases rounds_alloc hmem with rfl | hmem
    · rfl
    · simp only [cancelFirst, mem_cons, TimerOp.add.injEq, reduceCtorEq, or_false,
        not_mem_nil] at hmem
      rw [hmem.2.2]
      rfl
  · have hle := slotUses_le_adds (rounds cancelFirst (n + 1)) {} slot
    rw [rounds_adds, show cancelFirst.countP TimerOp.isAdd = 1 from rfl] at hle
    omega
  · rintro ⟨S, hrun⟩
    rw [hrs, rounds] at hrun
    cases hrun with
    | cons hstep hrun =>
      obtain ⟨t, ht, hhandle⟩ := hstep.handle_added (by decide)
      have hmem := hrun.handle_not_reused ht (by rw [hhandle]; decide)
      rw [hhandle] at hmem
      exact hmem (mem_append_right _ mem_cons_self)

end Mrtc
