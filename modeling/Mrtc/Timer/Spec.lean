import Mathlib.Data.Multiset.AddSub
import Mathlib.Tactic

/-! # What a timer scheduler is for

The operations on timers and their results, and the abstract scheduler: a multiset of active
timers, with a record of what was added, fired and cancelled.
-/

namespace Mrtc

variable {α : Type}

def intMax : Nat := 2 ^ 31 - 1

structure AddAlloc where
  heap : Bool := true
  generations : Bool := true
  active : Bool := true
  deriving DecidableEq

def AddAlloc.ok (al : AddAlloc) : Bool := al.heap && al.generations && al.active

inductive TimerOp (α : Type) where
  | add (deadlineMs : Nat) (callback : α) (alloc : AddAlloc)
  | cancel (handle : UInt64)
  | popDue (nowMs : Nat)
  | nextTimeout (nowMs : Nat) (defaultMs : Int)
  | pendingCount
  deriving DecidableEq

inductive TimerResult (α : Type) where
  | handle (h : UInt64)
  | done
  | due (callback : Option α)
  | timeout (ms : Int)
  | count (n : Nat)
  deriving DecidableEq

structure Timer (α : Type) where
  handle : UInt64
  deadlineMs : Nat
  callback : α
  deriving DecidableEq

structure TimerSet (α : Type) where
  active : Multiset (Timer α) := 0
  added : Multiset (Timer α) := 0
  fired : Multiset (Timer α) := 0
  cancelled : Multiset (Timer α) := 0

def TimerSet.Earliest (S : TimerSet α) (t : Timer α) : Prop :=
  ∀ u ∈ S.active, t.deadlineMs ≤ u.deadlineMs

inductive TimerSet.Step : TimerSet α → TimerOp α → TimerResult α → TimerSet α → Prop where
  /-- A timer is added under a handle that no other timer ever had. -/
  | added {S : TimerSet α} (t : Timer α) (alloc : AddAlloc) (hvalid : t.handle ≠ 0)
      (hnew : ∀ u ∈ S.added, u.handle ≠ t.handle) :
      Step S (.add t.deadlineMs t.callback alloc) (.handle t.handle)
        { S with active := t ::ₘ S.active, added := t ::ₘ S.added }
  /-- Adding fails only if an allocation does, or after `2^30` timers. -/
  | refused {S : TimerSet α} (deadlineMs : Nat) (callback : α) (alloc : AddAlloc)
      (hfail : alloc.ok = false ∨ 2 ^ 30 ≤ S.added.card) :
      Step S (.add deadlineMs callback alloc) (.handle 0) S
  | cancelled {S : TimerSet α} (t : Timer α) (rest : Multiset (Timer α))
      (hactive : S.active = t ::ₘ rest) :
      Step S (.cancel t.handle) .done { S with active := rest, cancelled := t ::ₘ S.cancelled }
  /-- A handle that is not that of an active timer cancels nothing. -/
  | stale {S : TimerSet α} (handle : UInt64) (hstale : ∀ u ∈ S.active, u.handle ≠ handle) :
      Step S (.cancel handle) .done S
  | fired {S : TimerSet α} (t : Timer α) (rest : Multiset (Timer α)) (nowMs : Nat)
      (hactive : S.active = t ::ₘ rest) (hdue : t.deadlineMs ≤ nowMs) (hfirst : S.Earliest t) :
      Step S (.popDue nowMs) (.due (some t.callback))
        { S with active := rest, fired := t ::ₘ S.fired }
  | notDue {S : TimerSet α} (nowMs : Nat) (hnone : ∀ u ∈ S.active, nowMs < u.deadlineMs) :
      Step S (.popDue nowMs) (.due none) S
  | noTimeout {S : TimerSet α} (nowMs : Nat) (defaultMs : Int) (hnone : S.active = 0) :
      Step S (.nextTimeout nowMs defaultMs) (.timeout defaultMs) S
  /-- The time to the earliest deadline, zero if it has passed, and at most `INT_MAX`. -/
  | timeout {S : TimerSet α} (t : Timer α) (nowMs : Nat) (defaultMs : Int)
      (hactive : t ∈ S.active) (hfirst : S.Earliest t) :
      Step S (.nextTimeout nowMs defaultMs)
        (.timeout ((min (t.deadlineMs - nowMs) intMax : Nat) : Int)) S
  | pending {S : TimerSet α} : Step S .pendingCount (.count S.active.card) S

inductive TimerSet.Run : TimerSet α → List (TimerOp α) → List (TimerResult α) → TimerSet α → Prop
    where
  | nil (S : TimerSet α) : Run S [] [] S
  | cons {S S' S'' : TimerSet α} {op : TimerOp α} {r : TimerResult α} {ops : List (TimerOp α)}
      {rs : List (TimerResult α)} (hstep : S.Step op r S') (hrun : Run S' ops rs S'') :
      Run S (op :: ops) (r :: rs) S''

/-- Each timer is active, fired or cancelled, and just one of them. -/
structure TimerSet.Accounted (S : TimerSet α) : Prop where
  accounted : S.added = S.active + S.fired + S.cancelled
  handles : (S.added.map Timer.handle).Nodup

theorem TimerSet.empty_accounted : ({} : TimerSet α).Accounted where
  accounted := rfl
  handles := Multiset.nodup_zero

variable {S S' : TimerSet α}

theorem TimerSet.Accounted.step {op : TimerOp α} {r : TimerResult α} (h : S.Accounted)
    (hstep : S.Step op r S') : S'.Accounted := by
  cases hstep with
  | added t alloc hvalid hnew =>
    refine ⟨?_, ?_⟩
    · show t ::ₘ S.added = t ::ₘ S.active + S.fired + S.cancelled
      rw [h.accounted, Multiset.cons_add, Multiset.cons_add]
    · show ((t ::ₘ S.added).map Timer.handle).Nodup
      rw [Multiset.map_cons, Multiset.nodup_cons]
      refine ⟨fun hmem => ?_, h.handles⟩
      obtain ⟨u, hu, hhandle⟩ := Multiset.mem_map.mp hmem
      exact hnew u hu hhandle
  | refused deadlineMs callback alloc hfail => exact h
  | cancelled t rest hactive =>
    refine ⟨?_, h.handles⟩
    show S.added = rest + S.fired + t ::ₘ S.cancelled
    rw [h.accounted, hactive, Multiset.add_cons, Multiset.cons_add, Multiset.cons_add]
  | stale handle hstale => exact h
  | fired t rest nowMs hactive hdue hfirst =>
    refine ⟨?_, h.handles⟩
    show S.added = rest + t ::ₘ S.fired + S.cancelled
    rw [h.accounted, hactive, Multiset.add_cons, Multiset.cons_add]
  | notDue nowMs hnone => exact h
  | noTimeout nowMs defaultMs hnone => exact h
  | timeout t nowMs defaultMs hactive hfirst => exact h
  | pending => exact h

theorem TimerSet.Step.handle_added {op : TimerOp α} {h : UInt64} (hstep : S.Step op (.handle h) S')
    (hvalid : h ≠ 0) : ∃ t ∈ S'.added, t.handle = h := by
  cases hstep with
  | added t alloc _ hnew => exact ⟨t, Multiset.mem_cons_self t _, rfl⟩
  | refused deadlineMs callback alloc hfail => exact absurd rfl hvalid

theorem TimerSet.Run.handle_not_reused {ops : List (TimerOp α)} {rs : List (TimerResult α)}
    (hrun : S.Run ops rs S') {t : Timer α} (ht : t ∈ S.added) (hvalid : t.handle ≠ 0) :
    .handle t.handle ∉ rs := by
  induction hrun with
  | nil S => exact List.not_mem_nil
  | cons hstep _ ih =>
    rw [List.mem_cons, not_or]
    cases hstep with
    | added u alloc _ hnew => grind
    | refused deadlineMs callback alloc hfail =>
      exact ⟨fun heq => hvalid (TimerResult.handle.inj heq), ih ht⟩
    | cancelled u rest hactive => exact ⟨nofun, ih ht⟩
    | stale handle hstale => exact ⟨nofun, ih ht⟩
    | fired u rest nowMs hactive hdue hfirst => exact ⟨nofun, ih ht⟩
    | notDue nowMs hnone => exact ⟨nofun, ih ht⟩
    | noTimeout nowMs defaultMs hnone => exact ⟨nofun, ih ht⟩
    | timeout u nowMs defaultMs hactive hfirst => exact ⟨nofun, ih ht⟩
    | pending => exact ⟨nofun, ih ht⟩

/-- **No timer is lost or returned twice**, in any run. -/
theorem TimerSet.Run.accounted {ops : List (TimerOp α)} {rs : List (TimerResult α)}
    (hrun : S.Run ops rs S') (h : S.Accounted) : S'.Accounted := by
  induction hrun with
  | nil S => exact h
  | cons hstep _ ih => exact ih (h.step hstep)

end Mrtc
