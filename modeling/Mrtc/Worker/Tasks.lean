import Mathlib.Tactic

/-! # The task queue of a worker (`rtc_worker.c`)

The loop thread of a worker, any number of other threads that call `rtc_worker_post` and
`rtc_worker_invoke`, and the thread that calls `rtc_worker_close`.
-/

namespace Mrtc

open List Function

structure WorkerTask where
  id : Nat
  caller : Nat
  sync : Bool
  drains : Nat
  deriving DecidableEq

inductive LoopPc where
  | top
  | poll
  | dequeue (final : Bool)
  | runTask (final : Bool) (task : WorkerTask)
  | finishTask (final : Bool) (task : WorkerTask)
  | timers
  | timerFn
  | exited
  deriving DecidableEq

inductive CallerPc where
  | idle
  | inline (task : WorkerTask)
  | waiting (task : WorkerTask)
  deriving DecidableEq

inductive CloserPc where
  | ready
  | locked
  | joining
  | returned
  deriving DecidableEq

inductive TaskRunner where
  | loop
  | caller (i : Nat)
  deriving DecidableEq

structure WorkerState where
  queue : List WorkerTask := []
  closed : Bool := false
  running : Bool := true
  mutexHeld : Bool := false
  done : List Nat := []
  nextId : Nat := 0
  loop : LoopPc := .top
  callers : Nat → CallerPc := fun _ => .idle
  closer : CloserPc := .ready
  enqueued : List WorkerTask := []
  ran : List (TaskRunner × WorkerTask) := []
  returned : List WorkerTask := []
  drains : Nat := 0

open WorkerState

def WorkerState.newTask (s : WorkerState) (i : Nat) (sync : Bool) : WorkerTask :=
  ⟨s.nextId, i, sync, s.drains⟩

def workerEnqueue (s : WorkerState) (i : Nat) (sync : Bool) (pc : CallerPc) : WorkerState :=
  { s with
    queue := s.queue ++ [s.newTask i sync]
    enqueued := s.enqueued ++ [s.newTask i sync]
    nextId := s.nextId + 1
    callers := update s.callers i pc }

def rtcWorkerPost (s : WorkerState) (i : Nat) : Option WorkerState :=
  if s.mutexHeld || s.callers i != .idle then none
  else if s.closed then some s
  else some (workerEnqueue s i false .idle)

def rtcWorkerInvoke (s : WorkerState) (i : Nat) : Option WorkerState :=
  if s.mutexHeld || s.callers i != .idle then none
  else if s.closed || !s.running then
    some
      { s with
        nextId := s.nextId + 1
        callers := update s.callers i (.inline (s.newTask i true)) }
  else some (workerEnqueue s i true (.waiting (s.newTask i true)))

def workerInline (s : WorkerState) (i : Nat) : Option WorkerState :=
  match s.callers i with
  | .inline task =>
    some
      { s with
        ran := s.ran ++ [(.caller i, task)]
        callers := update s.callers i .idle }
  | _ => none

def workerWake (s : WorkerState) (i : Nat) : Option WorkerState :=
  match s.callers i with
  | .waiting task =>
    if s.mutexHeld then none
    else if s.done.contains task.id then
      some
        { s with
          returned := s.returned ++ [task]
          callers := update s.callers i .idle }
    else some s
  | _ => none

def rtcWorkerClose (s : WorkerState) : Option WorkerState :=
  if s.mutexHeld then none
  else
    match s.closer with
    | .ready => some { s with closed := true, mutexHeld := true, closer := .locked }
    | .returned => some s
    | _ => none

def workerCloseStop (s : WorkerState) : Option WorkerState :=
  if s.closer = .locked then
    some { s with running := false, mutexHeld := false, closer := .joining }
  else none

def workerCloseJoin (s : WorkerState) : Option WorkerState :=
  if s.closer = .joining ∧ s.loop = .exited then some { s with closer := .returned } else none

def workerLoop (s : WorkerState) (due : Bool) : Option WorkerState :=
  match s.loop with
  | .top => some { s with loop := if s.running then .poll else .dequeue true }
  | .poll => if s.mutexHeld then none else some { s with loop := .dequeue false }
  | .dequeue final =>
    if s.mutexHeld then none
    else
      match s.queue with
      | [] => some { s with loop := if final then .exited else .timers, drains := s.drains + 1 }
      | task :: rest => some { s with queue := rest, loop := .runTask final task }
  | .runTask final task =>
    some { s with ran := s.ran ++ [(.loop, task)], loop := .finishTask final task }
  | .finishTask final task =>
    if task.sync then
      if s.mutexHeld then none
      else some { s with done := task.id :: s.done, loop := .dequeue final }
    else some { s with loop := .dequeue final }
  | .timers => if s.mutexHeld then none else some { s with loop := if due then .timerFn else .top }
  | .timerFn => some { s with loop := .timers }
  | .exited => none

inductive WorkerLabel where
  | post (i : Nat)
  | invoke (i : Nat)
  | inline (i : Nat)
  | wake (i : Nat)
  | close
  | closeStop
  | closeJoin
  | loop (due : Bool)
  deriving DecidableEq

def workerStep (s : WorkerState) : WorkerLabel → Option WorkerState
  | .post i => rtcWorkerPost s i
  | .invoke i => rtcWorkerInvoke s i
  | .inline i => workerInline s i
  | .wake i => workerWake s i
  | .close => rtcWorkerClose s
  | .closeStop => workerCloseStop s
  | .closeJoin => workerCloseJoin s
  | .loop due => workerLoop s due

def workerRun (s : WorkerState) : List WorkerLabel → Option WorkerState
  | [] => some s
  | label :: labels => (workerStep s label).bind fun s => workerRun s labels

def WorkerState.loopRan (s : WorkerState) : List WorkerTask :=
  s.ran.filterMap fun e => if e.1 = .loop then some e.2 else none

/-! ## The invariant -/

def LoopPc.holding : LoopPc → List WorkerTask
  | .runTask _ task => [task]
  | _ => []

def LoopPc.stopping : LoopPc → Bool
  | .dequeue final | .runTask final _ | .finishTask final _ => final
  | .exited => true
  | _ => false

def LoopPc.plain : LoopPc → Bool
  | .runTask _ _ | .finishTask _ _ | .exited => false
  | _ => true

inductive LoopMove (s : WorkerState) : WorkerState → Prop where
  | goto {pc : LoopPc} (hempty : s.loop.holding = []) (hhere : s.loop ≠ .exited)
      (hplain : pc.plain = true)
      (hstopping : pc.stopping = true → s.loop.stopping = true ∨ s.running = false) :
      LoopMove s { s with loop := pc }
  | signalled (final : Bool) (task : WorkerTask) (hloop : s.loop = .finishTask final task) :
      LoopMove s { s with done := task.id :: s.done, loop := .dequeue final }
  | drained (final : Bool) (hloop : s.loop = .dequeue final) (hqueue : s.queue = []) :
      LoopMove s { s with loop := if final then .exited else .timers, drains := s.drains + 1 }
  | taken (final : Bool) (task : WorkerTask) (rest : List WorkerTask)
      (hloop : s.loop = .dequeue final) (hqueue : s.queue = task :: rest) :
      LoopMove s { s with queue := rest, loop := .runTask final task }
  | ran (final : Bool) (task : WorkerTask) (hloop : s.loop = .runTask final task) :
      LoopMove s { s with ran := s.ran ++ [(.loop, task)], loop := .finishTask final task }

theorem LoopMove.goto_of {s : WorkerState} {here : LoopPc} (hloop : s.loop = here)
    (hempty : here.holding = []) (hhere : here ≠ .exited) {pc : LoopPc} (hplain : pc.plain = true)
    (hstopping : pc.stopping = true → here.stopping = true ∨ s.running = false) :
    LoopMove s { s with loop := pc } := by
  subst hloop
  exact .goto hempty hhere hplain hstopping

theorem workerLoop_move {s s' : WorkerState} {due : Bool} (hstep : workerLoop s due = some s') :
    LoopMove s s' := by
  unfold workerLoop at hstep
  cases hloop : s.loop with
  | top =>
    rw [hloop] at hstep
    cases hstep
    apply LoopMove.goto_of hloop rfl LoopPc.noConfusion
    · split
      · rfl
      · rfl
    · intro hstopping
      cases hrunning : s.running with
      | true =>
        rw [hrunning] at hstopping
        cases hstopping
      | false => exact Or.inr rfl
  | poll =>
    rw [hloop] at hstep
    dsimp only at hstep
    split_ifs at hstep
    cases hstep
    exact LoopMove.goto_of hloop rfl LoopPc.noConfusion rfl Or.inl
  | dequeue final =>
    rw [hloop] at hstep
    dsimp only at hstep
    -- only the guard is split; the state that is reached has an `if` of its own
    by_cases hheld : s.mutexHeld = true
    · rw [if_pos hheld] at hstep
      cases hstep
    · rw [if_neg hheld] at hstep
      cases hqueue : s.queue with
      | nil => grind [LoopMove.drained]
      | cons task rest =>
        rw [hqueue] at hstep
        cases hstep
        exact .taken final task rest hloop hqueue
  | runTask final task =>
    rw [hloop] at hstep
    cases hstep
    exact .ran final task hloop
  | finishTask final task =>
    rw [hloop] at hstep
    dsimp only at hstep
    split_ifs at hstep
    · cases hstep
      exact .signalled final task hloop
    · cases hstep
      exact LoopMove.goto_of hloop rfl LoopPc.noConfusion rfl Or.inl
  | timers =>
    rw [hloop] at hstep
    dsimp only at hstep
    by_cases hheld : s.mutexHeld = true
    · rw [if_pos hheld] at hstep
      cases hstep
    · rw [if_neg hheld] at hstep
      cases hstep
      apply LoopMove.goto_of hloop rfl LoopPc.noConfusion
      · cases due with
        | true => rfl
        | false => rfl
      · cases due with
        | true => exact Or.inl
        | false => exact Or.inl
  | timerFn =>
    rw [hloop] at hstep
    cases hstep
    exact LoopMove.goto_of hloop rfl LoopPc.noConfusion rfl Or.inl
  | exited =>
    rw [hloop] at hstep
    cases hstep

def WorkerState.FlagsAt (s : WorkerState) : CloserPc → Prop
  | .ready => s.closed = false ∧ s.running = true ∧ s.mutexHeld = false
  | .locked => s.closed = true ∧ s.running = true ∧ s.mutexHeld = true
  | .joining | .returned => s.closed = true ∧ s.running = false ∧ s.mutexHeld = false

structure WorkerState.Fifo (s : WorkerState) : Prop where
  order : s.enqueued = s.loopRan ++ (s.loop.holding ++ s.queue)
  nodup : (s.enqueued.map WorkerTask.id).Nodup
  numbered : ∀ task ∈ s.enqueued, task.id < s.nextId
  recent : ∀ task ∈ s.loop.holding ++ s.queue, task.drains = s.drains
  inline : ∀ i task, s.callers i = .inline task → task.id < s.nextId ∧ task ∉ s.enqueued
  ranInline : ∀ i task, (.caller i, task) ∈ s.ran → task.id < s.nextId ∧ task ∉ s.enqueued

structure WorkerState.Waits (s : WorkerState) : Prop where
  waiting : ∀ i task, s.callers i = .waiting task → task ∈ s.enqueued
  finishing : ∀ final task, s.loop = .finishTask final task → task ∈ s.loopRan
  done : ∀ id ∈ s.done, ∃ task ∈ s.loopRan, task.id = id
  returned : ∀ task ∈ s.returned, task ∈ s.loopRan

structure WorkerState.Closes (s : WorkerState) : Prop where
  flags : s.FlagsAt s.closer
  stopping : s.loop.stopping = true → s.running = false
  exited : s.loop = .exited → s.queue = []
  joined : s.closer = .returned → s.loop = .exited

theorem WorkerState.Closes.closed_of_stopped {s : WorkerState} (h : s.Closes)
    (hstopped : s.running = false) : s.closed = true := by
  have hflags := h.flags
  cases hcloser : s.closer with
  | ready =>
    rw [hcloser] at hflags
    rw [hflags.2.1] at hstopped
    cases hstopped
  | locked | joining | returned =>
    rw [hcloser] at hflags
    exact hflags.1

structure WorkerState.Inv (s : WorkerState) : Prop where
  fifo : s.Fifo
  waits : s.Waits
  closes : s.Closes

theorem workerStart_inv : WorkerState.Inv {} where
  fifo := by
    constructor <;> simp [loopRan, LoopPc.holding]
  waits := by
    constructor <;> simp
  closes := ⟨⟨rfl, rfl, rfl⟩, by simp [LoopPc.stopping], by simp, by simp⟩

/-! ## Steps of the callers -/

theorem update_cases {callers : Nat → CallerPc} {i j : Nat} {moved pc : CallerPc}
    (h : update callers i moved j = pc) : j = i ∧ moved = pc ∨ j ≠ i ∧ callers j = pc := by
  rw [update_apply] at h
  split at h
  · next hji => exact .inl ⟨hji, h⟩
  · next hji => exact .inr ⟨hji, h⟩

theorem idle_of_update {callers : Nat → CallerPc} {i j : Nat} {pc : CallerPc} (hpc : pc ≠ .idle)
    (h : update callers i .idle j = pc) : callers j = pc := by
  rcases update_cases h with ⟨-, h⟩ | ⟨-, h⟩
  · exact absurd h.symm hpc
  · exact h

section Enqueue

variable {s : WorkerState}

theorem WorkerState.Fifo.enqueue (h : s.Fifo) (i : Nat) (sync : Bool) {pc : CallerPc}
    (hpc : ∀ task, pc ≠ .inline task) : (workerEnqueue s i sync pc).Fifo := by
  have hfresh : ∀ task ∈ s.enqueued, task.id ≠ (s.newTask i sync).id := by
    intro task htask
    exact Nat.ne_of_lt (h.numbered task htask)
  have hnew : ∀ task, task.id < s.nextId ∧ task ∉ s.enqueued →
      task.id < s.nextId + 1 ∧ task ∉ s.enqueued ++ [s.newTask i sync] := by
    rintro task ⟨hid, hmem⟩
    refine ⟨Nat.lt_succ_of_lt hid, ?_⟩
    intro hmem'
    rcases mem_append.mp hmem' with hold | hlast
    · exact hmem hold
    · rw [mem_singleton.mp hlast] at hid
      exact lt_irrefl _ hid
  constructor
  case order =>
    show s.enqueued ++ [s.newTask i sync]
      = s.loopRan ++ (s.loop.holding ++ (s.queue ++ [s.newTask i sync]))
    rw [h.order, append_assoc, append_assoc]
  case nodup =>
    show ((s.enqueued ++ [s.newTask i sync]).map WorkerTask.id).Nodup
    rw [map_append, nodup_append]
    refine ⟨h.nodup, nodup_singleton _, ?_⟩
    intro id hid id' hid' heq
    obtain ⟨task, htask, rfl⟩ := mem_map.mp hid
    rw [map_singleton, mem_singleton] at hid'
    exact hfresh task htask (heq.trans hid')
  case numbered =>
    exact forall_mem_append.mpr ⟨fun task hold => Nat.lt_succ_of_lt (h.numbered task hold),
      forall_mem_singleton.mpr (Nat.lt_succ_self _)⟩
  case recent =>
    change ∀ task ∈ s.loop.holding ++ (s.queue ++ [s.newTask i sync]), task.drains = s.drains
    rw [← append_assoc]
    exact forall_mem_append.mpr ⟨h.recent, forall_mem_singleton.mpr rfl⟩
  case inline =>
    intro j task hj
    rcases update_cases hj with ⟨-, hj⟩ | ⟨-, hj⟩
    · exact absurd hj (hpc task)
    · exact hnew task (h.inline j task hj)
  case ranInline =>
    intro j task hj
    exact hnew task (h.ranInline j task hj)

theorem WorkerState.Waits.enqueue (h : s.Waits) (i : Nat) (sync : Bool) {pc : CallerPc}
    (hpc : ∀ task, pc = .waiting task → task = s.newTask i sync) :
    (workerEnqueue s i sync pc).Waits := by
  refine ⟨?_, h.finishing, h.done, h.returned⟩
  intro j task hj
  rcases update_cases hj with ⟨-, hj⟩ | ⟨-, hj⟩
  · rw [hpc task hj]
    exact mem_append_right _ (mem_singleton_self _)
  · exact mem_append_left _ (h.waiting j task hj)

theorem WorkerState.Closes.enqueue (h : s.Closes) (hopen : s.closed = false) (i : Nat)
    (sync : Bool) (pc : CallerPc) : (workerEnqueue s i sync pc).Closes := by
  refine ⟨?_, h.stopping, ?_, h.joined⟩
  · have hflags := h.flags
    show (workerEnqueue s i sync pc).FlagsAt s.closer
    cases hcloser : s.closer <;> rw [hcloser] at hflags <;> exact hflags
  · intro hexited
    have hstopped : s.running = false := by
      apply h.stopping
      rw [show s.loop = .exited from hexited]
      rfl
    rw [h.closed_of_stopped hstopped] at hopen
    cases hopen

end Enqueue

namespace WorkerState.Inv

variable {s s' : WorkerState} {i : Nat} {final : Bool}

section

variable (h : s.Inv)
include h

theorem post (hstep : rtcWorkerPost s i = some s') : s'.Inv := by
  unfold rtcWorkerPost at hstep
  split_ifs at hstep with hbusy hclosed
  · cases hstep
    exact h
  · cases hstep
    rw [Bool.not_eq_true] at hclosed
    exact ⟨h.fifo.enqueue i false (fun _ => CallerPc.noConfusion), h.waits.enqueue i false (fun _ =>
      CallerPc.noConfusion), h.closes.enqueue hclosed i false .idle⟩

theorem invoke (hstep : rtcWorkerInvoke s i = some s') : s'.Inv := by
  unfold rtcWorkerInvoke at hstep
  split_ifs at hstep with hbusy hstopped
  · -- the task is run inline; it was never in the queue
    cases hstep
    refine ⟨⟨h.fifo.order, h.fifo.nodup, ?_, h.fifo.recent, ?_, ?_⟩, ⟨?_, h.waits.finishing,
      h.waits.done, h.waits.returned⟩, ⟨h.closes.flags, h.closes.stopping, h.closes.exited,
      h.closes.joined⟩⟩
    · intro task htask
      exact Nat.lt_succ_of_lt (h.fifo.numbered task htask)
    · intro j task hj
      rcases update_cases hj with ⟨-, hj⟩ | ⟨-, hj⟩
      · cases hj
        exact ⟨Nat.lt_succ_self _, fun hmem => lt_irrefl _ (h.fifo.numbered _ hmem)⟩
      · obtain ⟨hid, hmem⟩ := h.fifo.inline j task hj
        exact ⟨Nat.lt_succ_of_lt hid, hmem⟩
    · intro j task hj
      obtain ⟨hid, hmem⟩ := h.fifo.ranInline j task hj
      exact ⟨Nat.lt_succ_of_lt hid, hmem⟩
    · intro j task hj
      rcases update_cases hj with ⟨-, hj⟩ | ⟨-, hj⟩
      · cases hj
      · exact h.waits.waiting j task hj
  · cases hstep
    have hopen : s.closed = false := by
      simp only [Bool.or_eq_true, not_or, Bool.not_eq_true] at hstopped
      exact hstopped.1
    refine ⟨h.fifo.enqueue i true (fun _ => CallerPc.noConfusion), h.waits.enqueue i true ?_,
      h.closes.enqueue hopen i true _⟩
    intro task htask
    cases htask
    rfl

theorem inline (hstep : workerInline s i = some s') : s'.Inv := by
  unfold workerInline at hstep
  split at hstep
  · rename_i task hi
    cases hstep
    -- the loop did not run it
    have hloopRan : loopRan
        { s with
          ran := s.ran ++ [(.caller i, task)]
          callers := update s.callers i .idle } = s.loopRan := by
      unfold loopRan
      rw [filterMap_append]
      simp
    have hinline := h.fifo.inline i task hi
    refine ⟨⟨?_, h.fifo.nodup, h.fifo.numbered, h.fifo.recent, ?_, ?_⟩, ⟨?_, ?_, ?_, ?_⟩,
      ⟨h.closes.flags, h.closes.stopping, h.closes.exited, h.closes.joined⟩⟩
    · rw [hloopRan]
      exact h.fifo.order
    · intro j task' hj
      exact h.fifo.inline j task' (idle_of_update CallerPc.noConfusion hj)
    · intro j task' hj
      rcases mem_append.mp hj with hold | hlast
      · exact h.fifo.ranInline j task' hold
      · rw [mem_singleton] at hlast
        cases hlast
        exact hinline
    · intro j task' hj
      exact h.waits.waiting j task' (idle_of_update CallerPc.noConfusion hj)
    · rw [hloopRan]
      exact h.waits.finishing
    · rw [hloopRan]
      exact h.waits.done
    · rw [hloopRan]
      exact h.waits.returned
  · cases hstep

theorem wake (hstep : workerWake s i = some s') : s'.Inv := by
  unfold workerWake at hstep
  split at hstep
  · rename_i task hi
    split_ifs at hstep with hheld hdone
    · cases hstep
      -- the task whose number is done is the one that was waited for
      have hran : task ∈ s.loopRan := by
        obtain ⟨task', hmem, hid⟩ := h.waits.done task.id (contains_iff_mem.mp hdone)
        have hqueued := h.waits.waiting i task hi
        have hqueued' : task' ∈ s.enqueued := by
          rw [h.fifo.order]
          exact mem_append_left _ hmem
        rwa [← inj_on_of_nodup_map h.fifo.nodup hqueued' hqueued hid]
      refine ⟨⟨h.fifo.order, h.fifo.nodup, h.fifo.numbered, h.fifo.recent, ?_, h.fifo.ranInline⟩,
        ⟨?_, h.waits.finishing, h.waits.done, ?_⟩,
        ⟨h.closes.flags, h.closes.stopping, h.closes.exited, h.closes.joined⟩⟩
      · intro j task' hj
        exact h.fifo.inline j task' (idle_of_update CallerPc.noConfusion hj)
      · intro j task' hj
        exact h.waits.waiting j task' (idle_of_update CallerPc.noConfusion hj)
      · exact forall_mem_append.mpr ⟨h.waits.returned, forall_mem_singleton.mpr hran⟩
    · cases hstep
      exact h
  · cases hstep

/-! ## Steps of the closing thread -/

theorem closing {closed running mutexHeld : Bool} {closer : CloserPc}
    (hcloses : WorkerState.Closes
      { s with closed := closed, running := running, mutexHeld := mutexHeld, closer := closer }) :
    WorkerState.Inv
      { s with closed := closed, running := running, mutexHeld := mutexHeld, closer := closer } where
  fifo := ⟨h.fifo.order, h.fifo.nodup, h.fifo.numbered, h.fifo.recent, h.fifo.inline,
    h.fifo.ranInline⟩
  waits := ⟨h.waits.waiting, h.waits.finishing, h.waits.done, h.waits.returned⟩
  closes := hcloses

theorem close (hstep : rtcWorkerClose s = some s') : s'.Inv := by
  unfold rtcWorkerClose at hstep
  split_ifs at hstep with hheld
  have hflags := h.closes.flags
  cases hcloser : s.closer with
  | ready =>
    rw [hcloser] at hstep hflags
    cases hstep
    apply h.closing
    exact ⟨⟨rfl, hflags.2.1, rfl⟩, h.closes.stopping, h.closes.exited, CloserPc.noConfusion⟩
  | locked | joining =>
    rw [hcloser] at hstep
    cases hstep
  | returned =>
    rw [hcloser] at hstep
    cases hstep
    exact h

theorem closeStop (hstep : workerCloseStop s = some s') : s'.Inv := by
  unfold workerCloseStop at hstep
  split_ifs at hstep with hlocked
  cases hstep
  have hflags := h.closes.flags
  rw [hlocked] at hflags
  apply h.closing
  exact ⟨⟨hflags.1, rfl, rfl⟩, fun _ => rfl, h.closes.exited, CloserPc.noConfusion⟩

theorem closeJoin (hstep : workerCloseJoin s = some s') : s'.Inv := by
  unfold workerCloseJoin at hstep
  split_ifs at hstep with hjoin
  cases hstep
  have hflags := h.closes.flags
  rw [hjoin.1] at hflags
  apply h.closing
  exact ⟨hflags, h.closes.stopping, h.closes.exited, fun _ => hjoin.2⟩

/-! ## Steps of the loop thread -/

theorem goOn (hhere : s.loop ≠ .exited) (pc : LoopPc) (hpc : pc ≠ .exited)
    (hstopping : pc.stopping = true → s.running = false) {queue : List WorkerTask}
    {done : List Nat} {ran : List (TaskRunner × WorkerTask)} :
    WorkerState.Closes { s with queue := queue, done := done, loop := pc, ran := ran } where
  flags := h.closes.flags
  stopping := hstopping
  exited := fun hexited => absurd hexited hpc
  joined := fun hreturned => absurd (h.closes.joined hreturned) hhere

theorem goto (hempty : s.loop.holding = []) (hhere : s.loop ≠ .exited) (pc : LoopPc)
    (hplain : pc.plain = true) (hstopping : pc.stopping = true → s.running = false)
    {done : List Nat} (hdone : ∀ id ∈ done, ∃ task ∈ s.loopRan, task.id = id) :
    WorkerState.Inv { s with loop := pc, done := done } := by
  have horder := h.fifo.order
  have hrecent := h.fifo.recent
  have hholding : pc.holding = s.loop.holding := by
    rw [hempty]
    cases pc <;> first | rfl | cases hplain
  have hpc : pc ≠ .exited := by
    rintro rfl
    cases hplain
  rw [← hholding] at horder hrecent
  refine ⟨⟨horder, h.fifo.nodup, h.fifo.numbered, hrecent, h.fifo.inline, h.fifo.ranInline⟩,
    ⟨h.waits.waiting, ?_, hdone, h.waits.returned⟩, h.goOn hhere pc hpc hstopping⟩
  intro final task htask
  rw [show pc = .finishTask final task from htask] at hplain
  cases hplain

end

section

variable (h : s.Inv)
include h

theorem drained (hloop : s.loop = .dequeue final) (hqueue : s.queue = []) :
    WorkerState.Inv
      { s with loop := if final then .exited else .timers, drains := s.drains + 1 } := by
  have horder := h.fifo.order
  rw [hloop, hqueue] at horder
  have hnone : LoopPc.holding (if final then .exited else .timers) = [] := by
    cases final with
    | true => rfl
    | false => rfl
  refine ⟨⟨?_, h.fifo.nodup, h.fifo.numbered, ?_, h.fifo.inline, h.fifo.ranInline⟩,
    ⟨h.waits.waiting, ?_, h.waits.done, h.waits.returned⟩, ⟨h.closes.flags, ?_, ?_, ?_⟩⟩
  · show s.enqueued = s.loopRan ++ (LoopPc.holding (if final then .exited else .timers) ++ s.queue)
    rw [hnone, hqueue]
    exact horder
  · grind
  · grind
  · intro hstopping
    apply h.closes.stopping
    rw [hloop]
    cases final with
    | true => rfl
    | false => cases hstopping
  · exact fun _ => hqueue
  · intro hreturned
    rw [h.closes.joined hreturned] at hloop
    cases hloop

theorem taken (hloop : s.loop = .dequeue final) {task : WorkerTask} {rest : List WorkerTask}
    (hqueue : s.queue = task :: rest) :
    WorkerState.Inv { s with queue := rest, loop := .runTask final task } := by
  have horder := h.fifo.order
  have hrecent := h.fifo.recent
  have hstopping := h.closes.stopping
  rw [hloop, hqueue] at horder hrecent
  rw [hloop] at hstopping
  have hhere : s.loop ≠ .exited := hloop ▸ LoopPc.noConfusion
  refine ⟨⟨horder, h.fifo.nodup, h.fifo.numbered, hrecent, h.fifo.inline, h.fifo.ranInline⟩,
    ⟨h.waits.waiting, ?_, h.waits.done, h.waits.returned⟩,
    h.goOn hhere (.runTask final task) LoopPc.noConfusion hstopping⟩
  intro final' task' htask'
  cases htask'

theorem runs {task : WorkerTask} (hloop : s.loop = .runTask final task) :
    WorkerState.Inv { s with ran := s.ran ++ [(.loop, task)], loop := .finishTask final task } := by
  have horder := h.fifo.order
  have hrecent := h.fifo.recent
  have hstopping := h.closes.stopping
  rw [hloop] at horder hrecent hstopping
  have hhere : s.loop ≠ .exited := hloop ▸ LoopPc.noConfusion
  have hloopRan : loopRan
      { s with ran := s.ran ++ [(.loop, task)], loop := .finishTask final task }
      = s.loopRan ++ [task] := by
    unfold loopRan
    rw [filterMap_append]
    rfl
  have hgrow : ∀ {task' : WorkerTask}, task' ∈ s.loopRan → task' ∈ s.loopRan ++ [task] :=
    fun hmem => mem_append_left _ hmem
  refine ⟨⟨?_, h.fifo.nodup, h.fifo.numbered, ?_, h.fifo.inline, ?_⟩, ⟨h.waits.waiting, ?_, ?_, ?_⟩,
    h.goOn hhere (.finishTask final task) LoopPc.noConfusion hstopping⟩
  · rw [hloopRan, append_assoc]
    exact horder
  · intro task' htask'
    exact hrecent task' (mem_cons_of_mem _ htask')
  · intro i task' htask'
    rcases mem_append.mp htask' with hold | hlast
    · exact h.fifo.ranInline i task' hold
    · rw [mem_singleton] at hlast
      cases hlast
  · grind
  · intro id hid
    obtain ⟨task', hmem, hid'⟩ := h.waits.done id hid
    rw [hloopRan]
    exact ⟨task', hgrow hmem, hid'⟩
  · intro task' htask'
    rw [hloopRan]
    exact hgrow (h.waits.returned task' htask')

theorem loopStep {due : Bool} (hstep : workerLoop s due = some s') : s'.Inv := by
  cases workerLoop_move hstep with
  | goto hempty hhere hplain hstopping =>
    apply h.goto hempty hhere _ hplain _ h.waits.done
    intro hpc
    rcases hstopping hpc with hloop | hrunning
    · exact h.closes.stopping hloop
    · exact hrunning
  | signalled final task hloop =>
    apply h.goto (by rw [hloop]; rfl) (by rw [hloop]; exact LoopPc.noConfusion) _ rfl
    · intro hfinal
      apply h.closes.stopping
      rw [hloop]
      exact hfinal
    · intro id hid
      rcases mem_cons.mp hid with rfl | hold
      · exact ⟨task, h.waits.finishing final task hloop, rfl⟩
      · exact h.waits.done id hold
  | drained final hloop hqueue => exact h.drained hloop hqueue
  | taken final task rest hloop hqueue => exact h.taken hloop hqueue
  | ran final task hloop => exact h.runs hloop

theorem step {label : WorkerLabel} (hstep : workerStep s label = some s') : s'.Inv := by
  cases label with
  | post i => exact h.post hstep
  | invoke i => exact h.invoke hstep
  | inline i => exact h.inline hstep
  | wake i => exact h.wake hstep
  | close => exact h.close hstep
  | closeStop => exact h.closeStop hstep
  | closeJoin => exact h.closeJoin hstep
  | loop due => exact h.loopStep hstep

end

theorem run (labels : List WorkerLabel) : ∀ {s s' : WorkerState}, s.Inv →
    workerRun s labels = some s' → s'.Inv := by
  induction labels with
  | nil =>
    intro s s' h hrun
    cases hrun
    exact h
  | cons label labels ih =>
    intro s s' h hrun
    obtain ⟨s₁, hstep, hrun⟩ := Option.bind_eq_some_iff.mp hrun
    exact ih (h.step hstep) hrun

end WorkerState.Inv

end Mrtc
