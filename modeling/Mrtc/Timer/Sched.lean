import Mrtc.Lib.BinaryHeap
import Mrtc.Timer.Spec

/-! # The timer scheduler (`rtc_timer_sched.c`)

A binary heap of timers by deadline, with lazy deletion: a timer is active while its slot is and
has the generation that the timer was added with.
-/

namespace Mrtc

variable {α : Type}

structure TimerNode (α : Type) where
  deadlineMs : Nat
  callback : α
  generation : Nat
  slot : Nat
  deriving DecidableEq

structure TimerSlot where
  generation : Nat := 0
  active : Bool := false
  deriving DecidableEq

structure TimerSched (α : Type) where
  heap : List (TimerNode α) := []
  heapCap : Nat := 0
  slots : List TimerSlot := []
  slotCap : Nat := 0
  deriving DecidableEq

def timerInitialHeapCap : Nat := 16
def timerInitialSlotCap : Nat := 16

def timerMakeHandle (slot generation : Nat) : UInt64 := UInt64.ofNat (generation * 2 ^ 32 + slot)

def timerHandleSlot (handle : UInt64) : Nat := handle.toNat % 2 ^ 32

def timerHandleGeneration (handle : UInt64) : Nat := handle.toNat / 2 ^ 32

def timerNodeActive (s : TimerSched α) (n : TimerNode α) : Bool :=
  match s.slots[n.slot]? with
  | some sl => sl.active && sl.generation == n.generation
  | none => false

def heapPush (h : List (TimerNode α)) (n : TimerNode α) : List (TimerNode α) :=
  BinaryHeap.push TimerNode.deadlineMs h n

def heapPop (h : List (TimerNode α)) : List (TimerNode α) :=
  BinaryHeap.pop TimerNode.deadlineMs h

def growCap (cap initial : Nat) : Nat := if cap = 0 then initial else cap * 2

def ensureHeapCap (s : TimerSched α) (alloc : AddAlloc) : Option (TimerSched α) :=
  if s.heap.length < s.heapCap then some s
  else
    let newCap := growCap s.heapCap timerInitialHeapCap
    if alloc.heap && decide (newCap < 2 ^ 31) then some { s with heapCap := newCap } else none

def ensureSlotCap (s : TimerSched α) (alloc : AddAlloc) : Option (TimerSched α) :=
  if s.slots.length < s.slotCap then some s
  else
    let newCap := growCap s.slotCap timerInitialSlotCap
    if alloc.generations && alloc.active && decide (newCap < 2 ^ 31) then
      some { s with slotCap := newCap }
    else none

def allocSlot (s : TimerSched α) (alloc : AddAlloc) : Option (Nat × TimerSched α) :=
  match s.slots.findIdx? (fun sl => !sl.active) with
  | some i => some (i, s)
  | none =>
    match ensureSlotCap s alloc with
    | none => none
    | some s => some (s.slots.length, { s with slots := s.slots ++ [{}] })

def pruneRoots : (fuel : Nat) → TimerSched α → TimerSched α
  | 0, s => s
  | fuel + 1, s =>
    match s.heap.head? with
    | none => s
    | some root =>
      if timerNodeActive s root then s
      else pruneRoots fuel { s with heap := heapPop s.heap }

def pruneStaleRoots (s : TimerSched α) : TimerSched α := pruneRoots s.heap.length s

def nextGeneration (g : Nat) : Nat := if (g + 1) % 2 ^ 32 = 0 then 1 else (g + 1) % 2 ^ 32

def addAt (s : TimerSched α) (slot deadlineMs : Nat) (callback : α) : UInt64 × TimerSched α :=
  let generation := nextGeneration (s.slots.getD slot {}).generation
  (timerMakeHandle slot generation,
    { s with
      slots := s.slots.set slot ⟨generation, true⟩
      heap := heapPush s.heap ⟨deadlineMs, callback, generation, slot⟩ })

def rtcTimerSchedAdd (s : TimerSched α) (deadlineMs : Nat) (callback : α) (alloc : AddAlloc) :
    UInt64 × TimerSched α :=
  match ensureHeapCap s alloc with
  | none => (0, s)
  | some s =>
    match allocSlot s alloc with
    | none => (0, s)
    | some (slot, s) => addAt s slot deadlineMs callback

def deactivate (s : TimerSched α) (slot : Nat) : TimerSched α :=
  match s.slots[slot]? with
  | some sl => { s with slots := s.slots.set slot { sl with active := false } }
  | none => s

def rtcTimerSchedCancel (s : TimerSched α) (handle : UInt64) : TimerSched α :=
  if handle = 0 then s
  else
    let slot := timerHandleSlot handle
    -- as an `int`, such a slot is negative
    if 2 ^ 31 ≤ slot then s
    else
      match s.slots[slot]? with
      | none => s
      | some sl =>
        if sl.generation ≠ timerHandleGeneration handle then s else deactivate s slot

def rtcTimerSchedNextTimeoutMs (s : TimerSched α) (nowMs : Nat) (defaultMs : Int) :
    Int × TimerSched α :=
  let s := pruneStaleRoots s
  match s.heap.head? with
  | none => (defaultMs, s)
  | some root =>
    if root.deadlineMs ≤ nowMs then (0, s)
    else
      let diff := root.deadlineMs - nowMs
      (if intMax < diff then (intMax : Int) else (diff : Int), s)

def popDueLoop : (fuel : Nat) → TimerSched α → (nowMs : Nat) → Option α × TimerSched α
  | 0, s, _ => (none, s)
  | fuel + 1, s, nowMs =>
    let s := pruneStaleRoots s
    match s.heap.head? with
    | none => (none, s)
    | some root =>
      if nowMs < root.deadlineMs then (none, s)
      else
        let s := { s with heap := heapPop s.heap }
        if timerNodeActive s root then (some root.callback, deactivate s root.slot)
        else popDueLoop fuel s nowMs

def rtcTimerSchedPopDue (s : TimerSched α) (nowMs : Nat) : Option α × TimerSched α :=
  popDueLoop (s.heap.length + 1) s nowMs

def rtcTimerSchedPendingCount (s : TimerSched α) : Nat := s.slots.countP (·.active)

/-! ## Runs -/

def timerStep (s : TimerSched α) : TimerOp α → TimerResult α × TimerSched α
  | .add deadlineMs callback alloc =>
    let r := rtcTimerSchedAdd s deadlineMs callback alloc
    (.handle r.1, r.2)
  | .cancel handle => (.done, rtcTimerSchedCancel s handle)
  | .popDue nowMs =>
    let r := rtcTimerSchedPopDue s nowMs
    (.due r.1, r.2)
  | .nextTimeout nowMs defaultMs =>
    let r := rtcTimerSchedNextTimeoutMs s nowMs defaultMs
    (.timeout r.1, r.2)
  | .pendingCount => (.count (rtcTimerSchedPendingCount s), s)

def timerRun : TimerSched α → List (TimerOp α) → List (TimerResult α) × TimerSched α
  | s, [] => ([], s)
  | s, op :: ops =>
    let r := timerStep s op
    let rest := timerRun r.2 ops
    (r.1 :: rest.1, rest.2)

end Mrtc
