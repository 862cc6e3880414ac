import Mrtc.Worker.Tasks

/-! # Tasks run exactly once and in order

What follows from the invariant for the callers of a worker, at any point of any interleaving.
-/

namespace Mrtc

/-! ## The queue is drained -/

def WorkerState.Drains (s : WorkerState) : Prop :=
  ∃ labels s', (∀ label ∈ labels, label = .loop false ∨ label = .closeStop)
    ∧ workerRun s labels = some s' ∧ s.drains < s'.drains

namespace WorkerState.Drains

variable {s s' : WorkerState}

theorem of_step {label : WorkerLabel} (hlabel : label = .loop false ∨ label = .closeStop)
    (hstep : workerStep s label = some s') (hle : s.drains ≤ s'.drains) (h : s'.Drains) :
    s.Drains := by
  obtain ⟨labels, s'', hlabels, hrun, hlt⟩ := h
  refine ⟨label :: labels, s'', ?_, ?_, lt_of_le_of_lt hle hlt⟩
  · grind
  · rw [workerRun, hstep]
    exact hrun

theorem of_loop (hstep : workerLoop s false = some s') (hdrains : s'.drains = s.drains)
    (h : s'.Drains) : s.Drains :=
  h.of_step (Or.inl rfl) hstep (le_of_eq hdrains.symm)

theorem finishTask (hfree : s.mutexHeld = false) {final : Bool} {task : WorkerTask}
    (hloop : s.loop = .finishTask final task)
    (hnext : ∀ s' : WorkerState, s'.mutexHeld = false → s'.queue = s.queue →
      s'.loop = .dequeue final → s'.Drains) : s.Drains := by
  have hstep : workerLoop s false
      = some
        { s with
          done := if task.sync then task.id :: s.done else s.done
          loop := .dequeue final } := by
    simp only [workerLoop, hloop, hfree]
    cases task.sync <;> rfl
  exact of_loop hstep rfl (hnext _ hfree rfl rfl)

theorem runTask (hfree : s.mutexHeld = false) {final : Bool} {task : WorkerTask}
    (hloop : s.loop = .runTask final task)
    (hnext : ∀ s' : WorkerState, s'.mutexHeld = false → s'.queue = s.queue →
      s'.loop = .dequeue final → s'.Drains) : s.Drains := by
  have hstep : workerLoop s false
      = some { s with ran := s.ran ++ [(.loop, task)], loop := .finishTask final task } := by
    simp only [workerLoop, hloop]
  exact of_loop hstep rfl (finishTask hfree rfl hnext)

theorem dequeue (queue : List WorkerTask) : ∀ {s : WorkerState} {final : Bool},
    s.mutexHeld = false → s.queue = queue → s.loop = .dequeue final → s.Drains := by
  induction queue with
  | nil =>
    intro s final hfree hqueue hloop
    have hrun : workerRun s [.loop false]
        = some
          { s with
            loop := if final then .exited else .timers
            drains := s.drains + 1 } := by
      simp [workerRun, workerStep, workerLoop, hloop, hfree, hqueue]
    exact ⟨_, _, by simp, hrun, Nat.lt_succ_self s.drains⟩
  | cons task queue ih =>
    intro s final hfree hqueue hloop
    have hstep : workerLoop s false
        = some { s with queue := queue, loop := .runTask final task } := by
      simp [workerLoop, hloop, hfree, hqueue]
    exact of_loop hstep rfl (runTask hfree rfl fun s' hfree' hqueue' hloop' =>
      ih hfree' hqueue' hloop')

section

variable (hfree : s.mutexHeld = false)
include hfree

theorem poll (hloop : s.loop = .poll) : s.Drains := by
  have hstep : workerLoop s false = some { s with loop := .dequeue false } := by
    simp [workerLoop, hloop, hfree]
  exact of_loop hstep rfl (dequeue s.queue hfree rfl rfl)

theorem top (hloop : s.loop = .top) : s.Drains := by
  have hstep : workerLoop s false
      = some { s with loop := if s.running then .poll else .dequeue true } := by
    simp only [workerLoop, hloop]
  apply of_loop hstep rfl
  cases hrunning : s.running with
  | true => exact poll hfree rfl
  | false => exact dequeue s.queue hfree rfl rfl

theorem timers (hloop : s.loop = .timers) : s.Drains := by
  have hstep : workerLoop s false = some { s with loop := .top } := by
    simp [workerLoop, hloop, hfree]
  exact of_loop hstep rfl (top hfree rfl)

theorem of_free (hloop : s.loop ≠ .exited) : s.Drains := by
  cases hpc : s.loop with
  | top => exact top hfree hpc
  | poll => exact poll hfree hpc
  | dequeue final => exact dequeue s.queue hfree rfl hpc
  | runTask final task => exact runTask hfree hpc fun _ hfree' _ hloop' => dequeue _ hfree' rfl hloop'
  | finishTask final task =>
    exact finishTask hfree hpc fun _ hfree' _ hloop' => dequeue _ hfree' rfl hloop'
  | timers => exact timers hfree hpc
  | timerFn =>
    have hstep : workerLoop s false = some { s with loop := .timers } := by
      simp only [workerLoop, hpc]
    exact of_loop hstep rfl (timers hfree rfl)
  | exited => exact absurd hpc hloop

end

end WorkerState.Drains

theorem WorkerState.Inv.drains {s : WorkerState} (h : s.Inv) (hloop : s.loop ≠ .exited) :
    s.Drains := by
  cases hheld : s.mutexHeld with
  | false => exact WorkerState.Drains.of_free hheld hloop
  | true =>
    -- only `rtc_worker_close` holds the mutex between steps
    have hlocked : s.closer = .locked := by
      have hflags := h.closes.flags
      cases hcloser : s.closer with
      | locked => rfl
      | ready | joining | returned =>
        rw [hcloser] at hflags
        cases hflags.2.2.symm.trans hheld
    have hstop : workerStep s .closeStop
        = some { s with running := false, mutexHeld := false, closer := .joining } :=
      if_pos hlocked
    exact WorkerState.Drains.of_step (Or.inr rfl) hstop (le_refl _)
      (WorkerState.Drains.of_free rfl hloop)

/-! ## Closed workers -/

variable {s s' : WorkerState}

theorem rtcWorkerPost_closed (hclosed : s.closed = true) {i : Nat}
    (hstep : rtcWorkerPost s i = some s') : s' = s := by
  unfold rtcWorkerPost at hstep
  rw [if_pos hclosed] at hstep
  split_ifs at hstep
  exact (Option.some.inj hstep).symm

theorem workerLoop_keeps {due : Bool} (hstep : workerLoop s due = some s') :
    s'.closed = s.closed ∧ s'.enqueued = s.enqueued := by
  cases workerLoop_move hstep with
  | goto hempty hhere hplain hstopping => exact ⟨rfl, rfl⟩
  | signalled final task hloop => exact ⟨rfl, rfl⟩
  | drained final hloop hqueue => exact ⟨rfl, rfl⟩
  | taken final task rest hloop hqueue => exact ⟨rfl, rfl⟩
  | ran final task hloop => exact ⟨rfl, rfl⟩

theorem workerStep_closed (hclosed : s.closed = true) {label : WorkerLabel}
    (hstep : workerStep s label = some s') : s'.closed = true ∧ s'.enqueued = s.enqueued := by
  cases label with
  | post i =>
    rw [rtcWorkerPost_closed hclosed hstep]
    exact ⟨hclosed, rfl⟩
  | invoke i =>
    change rtcWorkerInvoke s i = some s' at hstep
    unfold rtcWorkerInvoke at hstep
    rw [hclosed, Bool.true_or, if_pos rfl] at hstep
    split_ifs at hstep
    cases hstep
    exact ⟨rfl, rfl⟩
  | inline | wake | close | closeStop | closeJoin =>
    dsimp only [workerStep, workerInline, workerWake, rtcWorkerClose, workerCloseStop,
      workerCloseJoin] at hstep
    repeat' split at hstep
    all_goals cases hstep
    all_goals first | exact ⟨hclosed, rfl⟩ | exact ⟨rfl, rfl⟩
  | loop due =>
    obtain ⟨hsame, henqueued⟩ := workerLoop_keeps hstep
    exact ⟨hsame.trans hclosed, henqueued⟩

theorem workerRun_closed (labels : List WorkerLabel) : ∀ {s s' : WorkerState}, s.closed = true →
    workerRun s labels = some s' → s'.enqueued = s.enqueued := by
  induction labels with
  | nil =>
    intro s s' _ hrun
    cases hrun
    rfl
  | cons label labels ih =>
    intro s s' hclosed hrun
    obtain ⟨s₁, hstep, hrun⟩ := Option.bind_eq_some_iff.mp hrun
    obtain ⟨hclosed₁, henqueued⟩ := workerStep_closed hclosed hstep
    exact (ih hclosed₁ hrun).trans henqueued

/-! ## Exactly once, in order -/

structure WorkerState.ExactlyOnce (s : WorkerState) : Prop where
  /-- No two enqueued tasks are the same, and the loop runs them in the order of the queue. -/
  distinct : s.enqueued.Nodup
  order : s.loopRan <+: s.enqueued
  /-- No other thread runs an enqueued task. -/
  loopOnly : ∀ i task, (.caller i, task) ∈ s.ran → task ∉ s.enqueued
  /-- A task has run once a drain that began or went on after it was enqueued is over. -/
  drained : ∀ task ∈ s.enqueued, task.drains < s.drains → task ∈ s.loopRan
  /-- As long as the loop thread lives, it gets through its next drain. -/
  drains : s.loop ≠ .exited → s.Drains
  /-- An invoke whose task was enqueued has returned only if the task has run. -/
  invoked : ∀ task ∈ s.returned, task ∈ s.loopRan
  /-- After `rtc_worker_close` everything has run, and nothing is taken any more. -/
  closed : s.closer = .returned → s.queue = [] ∧ s.loopRan = s.enqueued
    ∧ ∀ labels s', workerRun s labels = some s' → s'.enqueued = s.enqueued

theorem WorkerState.Inv.exactlyOnce {s : WorkerState} (h : s.Inv) : s.ExactlyOnce where
  distinct := h.fifo.nodup.of_map _
  order := by
    rw [h.fifo.order]
    exact List.prefix_append _ _
  loopOnly := fun i task hran => (h.fifo.ranInline i task hran).2
  drained := by
    intro task htask hdrains
    rw [h.fifo.order] at htask
    rcases List.mem_append.mp htask with hran | hwaits
    · exact hran
    · rw [h.fifo.recent task hwaits] at hdrains
      exact absurd hdrains (lt_irrefl _)
  drains := h.drains
  invoked := h.waits.returned
  closed := by
    intro hreturned
    have hexited := h.closes.joined hreturned
    have hqueue := h.closes.exited hexited
    have hflags := h.closes.flags
    rw [hreturned] at hflags
    refine ⟨hqueue, ?_, fun labels s' hrun => workerRun_closed labels hflags.1 hrun⟩
    have horder := h.fifo.order
    rw [hexited, hqueue] at horder
    simpa [LoopPc.holding] using horder.symm

/-- For every interleaving: enqueued tasks run exactly once, in order and on the loop thread. -/
theorem workerRun_exactlyOnce (labels : List WorkerLabel) (s : WorkerState)
    (hrun : workerRun {} labels = some s) : s.ExactlyOnce :=
  (workerStart_inv.run labels hrun).exactlyOnce

def racingClose : List WorkerLabel :=
  [.loop false, .post 1, .invoke 2, .loop false, .close, .closeStop, .loop false, .invoke 3,
    .inline 3, .loop false, .loop false, .loop false, .loop false, .loop false, .wake 2, .loop false,
    .loop false, .loop false, .loop false, .closeJoin, .post 1]

theorem racingClose_exactlyOnce :
    ∃ s, workerRun {} racingClose = some s ∧ s.closer = .returned ∧ s.enqueued.length = 2
      ∧ s.returned.length = 1 ∧ s.ExactlyOnce := by
  have hcheck : (workerRun {} racingClose).any (fun s => decide (s.closer = .returned
      ∧ s.enqueued.length = 2 ∧ s.returned.length = 1)) = true := by decide +kernel
  simp only [Option.any_eq_true, decide_eq_true_eq] at hcheck
  obtain ⟨s, hrun, hcloser, henqueued, hreturned⟩ := hcheck
  exact ⟨s, hrun, hcloser, henqueued, hreturned, workerRun_exactlyOnce racingClose s hrun⟩

end Mrtc
