import Mathlib.Data.Multiset.Filter
import Mrtc.Timer.Spec

/-! # A timer whose callback arms it again

The abstract scheduler as functions, with its choices as arguments, and a discipline for a timer
that two threads share.
-/

namespace Mrtc

open TimerSet

variable {α : Type} {S S' : TimerSet α} {t : Timer α} {nowMs : Nat} {u : Timer α}

/-! ## The scheduler's operations as functions -/

def TimerSet.add (S : TimerSet α) (t : Timer α) : Option (TimerSet α) :=
  if t.handle = 0 then some S
  else if ∀ u ∈ S.added, u.handle ≠ t.handle then
    some { S with active := t ::ₘ S.active, added := t ::ₘ S.added }
  else none

def TimerSet.cancel (S : TimerSet α) (handle : UInt64) : TimerSet α :=
  { S with
    active := S.active.filter fun t => t.handle ≠ handle
    cancelled := (S.active.filter fun t => t.handle = handle) + S.cancelled }

def TimerSet.pop [DecidableEq α] (S : TimerSet α) (t : Timer α) (nowMs : Nat) :
    Option (TimerSet α) :=
  if t ∈ S.active ∧ t.deadlineMs ≤ nowMs ∧ ∀ u ∈ S.active, t.deadlineMs ≤ u.deadlineMs then
    some { S with active := S.active.erase t, fired := t ::ₘ S.fired }
  else none

structure TimerSet.Sound (S : TimerSet α) : Prop where
  accounted : S.Accounted
  valid : ∀ t ∈ S.active, t.handle ≠ 0

theorem TimerSet.empty_sound : ({} : TimerSet α).Sound where
  accounted := empty_accounted
  valid := fun t ht => absurd ht (Multiset.notMem_zero t)

theorem TimerSet.Accounted.active_nodup (h : S.Accounted) : (S.active.map Timer.handle).Nodup := by
  have hle : S.active ≤ S.added := by
    rw [h.accounted, add_assoc]
    exact Multiset.le_add_right _ _
  exact Multiset.nodup_of_le (Multiset.map_le_map hle) h.handles

theorem TimerSet.add_cases (hadd : S.add t = some S') :
    t.handle = 0 ∧ S' = S
      ∨ t.handle ≠ 0 ∧ (∀ u ∈ S.added, u.handle ≠ t.handle)
        ∧ S' = { S with active := t ::ₘ S.active, added := t ::ₘ S.added } := by
  unfold add at hadd
  grind

theorem TimerSet.pop_cases [DecidableEq α] (hpop : S.pop t nowMs = some S') :
    t ∈ S.active ∧ t.deadlineMs ≤ nowMs ∧ (∀ u ∈ S.active, t.deadlineMs ≤ u.deadlineMs)
      ∧ S' = { S with active := S.active.erase t, fired := t ::ₘ S.fired } := by
  unfold pop at hpop
  grind

theorem TimerSet.add_step (hadd : S.add t = some S') :
    ∃ alloc, S.Step (.add t.deadlineMs t.callback alloc) (.handle t.handle) S' := by
  rcases add_cases hadd with ⟨hzero, rfl⟩ | ⟨hvalid, hnew, rfl⟩
  · rw [hzero]
    exact ⟨{ heap := false }, .refused _ _ _ (Or.inl rfl)⟩
  · exact ⟨{}, .added t _ hvalid hnew⟩

theorem TimerSet.pop_step [DecidableEq α] (hpop : S.pop t nowMs = some S') :
    S.Step (.popDue nowMs) (.due (some t.callback)) S' := by
  obtain ⟨hactive, hdue, hfirst, rfl⟩ := pop_cases hpop
  exact .fired t (S.active.erase t) nowMs (Multiset.cons_erase hactive).symm hdue hfirst

theorem TimerSet.cancel_step (h : S.Accounted) (handle : UInt64) :
    S.Step (.cancel handle) .done (S.cancel handle) := by
  by_cases hactive : ∃ t ∈ S.active, t.handle = handle
  · obtain ⟨t, ht, hhandle⟩ := hactive
    obtain ⟨rest, hrest⟩ := Multiset.exists_cons_of_mem ht
    have hnodup := h.active_nodup
    rw [hrest, Multiset.map_cons, Multiset.nodup_cons] at hnodup
    have hother : ∀ u ∈ rest, u.handle ≠ handle := by grind [Multiset.mem_map]
    have hkeep : (S.active.filter fun u => u.handle ≠ handle) = rest := by
      rw [hrest, Multiset.filter_cons_of_neg (p := fun u : Timer α => u.handle ≠ handle) _
        (not_not_intro hhandle)]
      exact Multiset.filter_eq_self.mpr hother
    have hgone : (S.active.filter fun u => u.handle = handle) = {t} := by
      rw [hrest, Multiset.filter_cons_of_pos (p := fun u : Timer α => u.handle = handle) _ hhandle,
        Multiset.filter_eq_nil.mpr hother]
      rfl
    unfold cancel
    rw [hkeep, hgone, Multiset.singleton_add, ← hhandle]
    exact .cancelled t rest hrest
  · have hstale : ∀ u ∈ S.active, u.handle ≠ handle := fun u hu heq => hactive ⟨u, hu, heq⟩
    have hkeep : (S.active.filter fun u => u.handle ≠ handle) = S.active :=
      Multiset.filter_eq_self.mpr hstale
    have hgone : (S.active.filter fun u => u.handle = handle) = 0 :=
      Multiset.filter_eq_nil.mpr hstale
    unfold cancel
    rw [hkeep, hgone, zero_add]
    exact .stale handle hstale

theorem TimerSet.Sound.step {op : TimerOp α} {r : TimerResult α} (h : S.Sound)
    (hstep : S.Step op r S') : S'.Sound := by
  refine ⟨h.accounted.step hstep, ?_⟩
  have hvalid := h.valid
  cases hstep with
  | added t alloc hnonzero hnew => exact Multiset.forall_mem_cons.mpr ⟨hnonzero, hvalid⟩
  | cancelled t rest hactive | fired t rest nowMs hactive =>
    rw [hactive] at hvalid
    exact (Multiset.forall_mem_cons.mp hvalid).2
  | refused | stale | notDue | noTimeout | timeout | pending => exact hvalid

theorem TimerSet.Sound.add (h : S.Sound) (hadd : S.add t = some S') : S'.Sound :=
  let ⟨_, hstep⟩ := add_step hadd
  h.step hstep

theorem TimerSet.Sound.pop [DecidableEq α] {S S' : TimerSet α} {t : Timer α} {nowMs : Nat}
    (h : S.Sound) (hpop : S.pop t nowMs = some S') : S'.Sound :=
  h.step (pop_step hpop)

theorem TimerSet.Sound.cancel {S : TimerSet α} (h : S.Sound) (handle : UInt64) :
    (S.cancel handle).Sound :=
  h.step (cancel_step h.accounted handle)

theorem TimerSet.mem_cancel {handle : UInt64} :
    t ∈ (S.cancel handle).active ↔ t ∈ S.active ∧ t.handle ≠ handle :=
  Multiset.mem_filter

theorem TimerSet.mem_add (hadd : S.add t = some S') (hu : u ∈ S'.active) :
    u = t ∨ u ∈ S.active := by
  rcases add_cases hadd with ⟨_, rfl⟩ | ⟨_, _, rfl⟩
  · exact Or.inr hu
  · exact Multiset.mem_cons.mp hu

theorem TimerSet.mem_pop [DecidableEq α] (hpop : S.pop t nowMs = some S') (hu : u ∈ S'.active) :
    u ∈ S.active := by
  obtain ⟨_, _, _, rfl⟩ := pop_cases hpop
  exact Multiset.mem_of_mem_erase hu

theorem TimerSet.handle_ne_of_mem_pop [DecidableEq α] (h : S.Accounted)
    (hpop : S.pop t nowMs = some S') (hu : u ∈ S'.active) : u.handle ≠ t.handle := by
  obtain ⟨hactive, _, _, rfl⟩ := pop_cases hpop
  have hnodup := h.active_nodup
  rw [← Multiset.cons_erase hactive, Multiset.map_cons, Multiset.nodup_cons] at hnodup
  intro heq
  exact hnodup.1 (Multiset.mem_map.mpr ⟨u, hu, heq⟩)

/-! ## The discipline -/

/-- How far the callback is: not in flight, in flight with no timer added yet, or about to store
the handle of the timer it added. -/
inductive Flight where
  | out
  | empty
  | storing (handle : UInt64)
  deriving DecidableEq

def Flight.goesOn (before after : Flight) : Bool :=
  after == before || (before == .empty && after == .out)

/-- How far the holder is: elsewhere, about to store the handle of a timer it added, between its
two readings of the field, about to cancel, or past the timer. -/
inductive Holder where
  | away
  | storing (handle : UInt64)
  | reading
  | cancelling (handle : UInt64)
  | past
  deriving DecidableEq

def Holder.free : Holder → Bool
  | .away | .past => true
  | .storing _ | .reading | .cancelling _ => false

structure HandleUse (α : Type) where
  timers : TimerSet α
  field : UInt64
  flight : Flight
  holder : Holder

open HandleUse

inductive HandleStep [DecidableEq α] (k : α) : HandleUse α → HandleUse α → Prop where
  /-- Timers of another callback are added, and any timers are handed out or cancelled. -/
  | frame {x : HandleUse α} {S : TimerSet α}
      (hsub : ∀ t ∈ S.active, t.callback = k → t ∈ x.timers.active) :
      HandleStep k x { x with timers := S }
  | pop {x : HandleUse α} {S : TimerSet α} {t : Timer α} {nowMs : Nat} (hk : t.callback = k)
      (hpop : x.timers.pop t nowMs = some S) (hflight : x.flight = .out)
      (hholder : x.holder.free = true) :
      HandleStep k x { x with timers := S, flight := .empty }
  /-- The callback starts without being handed out, if the field names no timer. -/
  | start {x : HandleUse α} (hfield : x.field = 0) (hflight : x.flight = .out)
      (hholder : x.holder = .away) : HandleStep k x { x with flight := .empty }
  | clear {x : HandleUse α} (hflight : x.flight = .empty) : HandleStep k x { x with field := 0 }
  | finish {x : HandleUse α} (hflight : x.flight = .empty) : HandleStep k x { x with flight := .out }
  | arm {x : HandleUse α} {S : TimerSet α} {t : Timer α} (hadd : x.timers.add t = some S)
      (hflight : x.flight = .empty) :
      HandleStep k x { x with timers := S, flight := .storing t.handle }
  | store {x : HandleUse α} {handle : UInt64} (hflight : x.flight = .storing handle) :
      HandleStep k x { x with field := handle, flight := .out }
  | holderArm {x : HandleUse α} {S : TimerSet α} {t : Timer α} (hadd : x.timers.add t = some S)
      (hflight : x.flight = .out) (hfield : x.field = 0) (hholder : x.holder = .away) :
      HandleStep k x { x with timers := S, holder := .storing t.handle }
  | holderStore {x : HandleUse α} {handle : UInt64} (hholder : x.holder = .storing handle) :
      HandleStep k x { x with field := handle, holder := .away }
  | readNone {x : HandleUse α} (hfield : x.field = 0) (hflight : x.flight = .out)
      (hholder : x.holder = .away) : HandleStep k x { x with holder := .past }
  | read {x : HandleUse α} (hflight : x.flight = .out) (hholder : x.holder = .away) :
      HandleStep k x { x with holder := .reading }
  | reread {x : HandleUse α} (hholder : x.holder = .reading) :
      HandleStep k x { x with holder := .cancelling x.field }
  | cancel {x : HandleUse α} {handle : UInt64} (hholder : x.holder = .cancelling handle) :
      HandleStep k x { x with timers := x.timers.cancel handle, holder := .past }
  | wipe {x : HandleUse α} (hholder : x.holder = .past) : HandleStep k x { x with field := 0 }

def HandleUse.handle (x : HandleUse α) : UInt64 :=
  match x.holder, x.flight with
  | .storing handle, _ => handle
  | _, .out => x.field
  | _, .empty => 0
  | _, .storing handle => handle

structure HandleUse.Ok (k : α) (x : HandleUse α) : Prop where
  only : ∀ t ∈ x.timers.active, t.callback = k → t.handle = x.handle
  busy : x.holder ≠ .away → x.flight = .out
  cancelling : ∀ handle, x.holder = .cancelling handle → handle = x.field
  past : x.holder = .past → ∀ t ∈ x.timers.active, t.callback ≠ k

section Handle

variable {x y : HandleUse α} {k : α}

theorem HandleUse.handle_of_out (hflight : x.flight = .out)
    (hholder : ∀ handle, x.holder ≠ .storing handle) : x.handle = x.field := by
  unfold handle
  grind

theorem HandleUse.Ok.away (h : x.Ok k) (hflight : x.flight ≠ .out) : x.holder = .away :=
  not_not.mp fun hholder => hflight (h.busy hholder)

theorem HandleUse.Ok.none_of_handle (h : x.Ok k) (hsound : x.timers.Sound) (hzero : x.handle = 0) :
    ∀ t ∈ x.timers.active, t.callback ≠ k := by
  intro t ht hk
  exact hsound.valid t ht ((h.only t ht hk).trans hzero)

theorem HandleUse.Ok.none_of_empty (h : x.Ok k) (hsound : x.timers.Sound)
    (hflight : x.flight = .empty) : ∀ t ∈ x.timers.active, t.callback ≠ k := by
  apply h.none_of_handle hsound
  have hholder := h.away (by rw [hflight]; exact nofun)
  unfold handle
  rw [hflight, hholder]

theorem HandleUse.Ok.none_of_field (h : x.Ok k) (hsound : x.timers.Sound)
    (hflight : x.flight = .out) (hholder : x.holder = .away) (hfield : x.field = 0) :
    ∀ t ∈ x.timers.active, t.callback ≠ k := by
  apply h.none_of_handle hsound
  rw [handle_of_out hflight (by rw [hholder]; exact nofun), hfield]

theorem HandleUse.Ok.of_none (hnone : ∀ t ∈ x.timers.active, t.callback ≠ k)
    (hholder : x.holder = .away) : x.Ok k where
  only := fun t ht hk => absurd hk (hnone t ht)
  busy := fun hne => absurd hholder hne
  cancelling := by rw [hholder]; exact nofun
  past := fun _ => hnone

theorem TimerSet.handle_of_add {S S' : TimerSet α} {t : Timer α} (hadd : S.add t = some S')
    (hnone : ∀ u ∈ S.active, u.callback ≠ k) :
    ∀ u ∈ S'.active, u.callback = k → u.handle = t.handle := by
  intro u hu hk
  rcases mem_add hadd hu with rfl | hu
  · rfl
  · exact absurd hk (hnone u hu)

theorem HandleStep.move [DecidableEq α] (htimers : y.timers = x.timers) (hfield : y.field = x.field)
    (hholder : y.holder = x.holder) (hflight : x.flight.goesOn y.flight = true) :
    HandleStep k x y := by
  obtain ⟨timers, field, flight, holder⟩ := y
  subst htimers hfield hholder
  by_cases hsame : flight = x.flight
  · subst hsame
    exact HandleStep.frame fun t ht _ => ht
  · simp only [Flight.goesOn, beq_eq_false_iff_ne.mpr hsame, Bool.false_or, Bool.and_eq_true,
      beq_iff_eq] at hflight
    obtain ⟨hempty, hout⟩ := hflight
    subst hout
    exact HandleStep.finish hempty

/-- **One step keeps the field naming the active timer.** -/
theorem HandleStep.ok [DecidableEq α] (hstep : HandleStep k x y) (hsound : x.timers.Sound)
    (h : x.Ok k) : y.Ok k := by
  cases hstep with
  | frame hsub =>
    exact ⟨fun t ht hk => h.only t (hsub t ht hk) hk, h.busy, h.cancelling,
      fun hpast t ht hk => h.past hpast t (hsub t ht hk) hk⟩
  | @pop S t nowMs hk hpop hflight hholder =>
    have hactive := (pop_cases hpop).1
    -- past the timer there would be none to hand out
    have haway : x.holder = .away := by
      cases hx : x.holder with
      | away => rfl
      | past => exact absurd hk (h.past hx t hactive)
      | storing _ | reading | cancelling _ => rw [hx] at hholder; exact absurd hholder nofun
    have hnone : ∀ u ∈ S.active, u.callback ≠ k := by
      intro u hu hku
      apply handle_ne_of_mem_pop hsound.accounted hpop hu
      rw [h.only u (mem_pop hpop hu) hku, h.only t hactive hk]
    exact HandleUse.Ok.of_none hnone haway
  | start hfield hflight hholder =>
    exact HandleUse.Ok.of_none (h.none_of_field hsound hflight hholder hfield) hholder
  | clear hflight | finish hflight => grind [HandleUse.Ok.of_none, h.away, h.none_of_empty]
  | @arm S t hadd hflight =>
    have hholder := h.away (by rw [hflight]; exact nofun)
    have honly := handle_of_add hadd (h.none_of_empty hsound hflight)
    constructor <;> grind [handle]
  | store hflight =>
    have hholder := h.away (by rw [hflight]; exact nofun)
    have honly := h.only
    constructor <;> grind [handle]
  | @holderArm S t hadd hflight hfield hholder =>
    refine ⟨?_, fun _ => hflight, nofun, nofun⟩
    exact handle_of_add hadd (h.none_of_field hsound hflight hholder hfield)
  | holderStore hholder =>
    have hflight := h.busy (by rw [hholder]; exact nofun)
    have honly := h.only
    constructor <;> grind [handle]
  | readNone hfield hflight hholder =>
    have hnone := h.none_of_field hsound hflight hholder hfield
    exact ⟨fun t ht hk => absurd hk (hnone t ht), fun _ => hflight, nofun, fun _ => hnone⟩
  | read hflight hholder =>
    have honly := h.only
    constructor <;> grind [handle]
  | reread hholder =>
    have hflight := h.busy (by rw [hholder]; exact nofun)
    have honly := h.only
    constructor <;> grind [handle]
  | @cancel handle hholder =>
    have hflight := h.busy (by rw [hholder]; exact nofun)
    -- the handle that is cancelled is the one every active timer of the callback has
    have hnone : ∀ t ∈ (x.timers.cancel handle).active, t.callback ≠ k := by
      intro t ht hk
      obtain ⟨ht, hne⟩ := mem_cancel.mp ht
      apply hne
      rw [h.only t ht hk, handle_of_out hflight (by rw [hholder]; exact nofun),
        h.cancelling handle hholder]
    exact ⟨fun t ht hk => absurd hk (hnone t ht), fun _ => hflight, nofun, fun _ => hnone⟩
  | wipe hholder =>
    have hnone := h.past hholder
    exact ⟨fun t ht hk => absurd hk (hnone t ht), h.busy, by grind, fun _ => hnone⟩

end Handle

end Mrtc
