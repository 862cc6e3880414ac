import Mrtc.Worker.Teardown

/-! # A closed peer is left alone

The invariant of a worker and one peer along every run in which the threads stay apart
(`TeardownState.apart`), and what it says once close has returned.
-/

namespace Mrtc

section Steps

variable {s s' : TeardownState}

/-! ## Steps -/

theorem teardownLoop_frame (hstep : teardownLoop s = some s') :
    s'.timers = s.timers ∧ s'.app = s.app ∧ s'.connectStarted = s.connectStarted := by
  unfold teardownLoop at hstep
  split at hstep <;> try (split at hstep)
  all_goals first | (cases hstep; exact ⟨rfl, rfl, rfl⟩) | cases hstep

theorem teardownApp_frame (hstep : teardownApp s = some s') :
    (s'.timers = s.timers ∨ ∃ handle, s'.timers = s.timers.cancel handle)
      ∧ s'.loop = s.loop ∧ s'.connectStarted = s.connectStarted ∧ s'.late = s.late := by
  unfold teardownApp at hstep
  split at hstep <;> try (split at hstep)
  case h_6 handle _ | h_11 handle _ =>
    cases hstep
    exact ⟨Or.inr ⟨handle, rfl⟩, rfl, rfl, rfl⟩
  all_goals first | (cases hstep; exact ⟨Or.inl rfl, rfl, rfl, rfl⟩) | cases hstep

theorem teardownStep_sound {label : TeardownLabel} (hstep : teardownStep s label = some s')
    (h : s.timers.Sound) : s'.timers.Sound := by
  cases label with
  | tick ms =>
    cases hstep
    exact h
  | addOther handle deadlineMs =>
    obtain ⟨S, hadd, rfl⟩ := Option.map_eq_some_iff.mp hstep
    exact h.add hadd
  | cancelOther handle => grind [teardownStep, h.cancel]
  | loop =>
    rw [(teardownLoop_frame hstep).1]
    exact h
  | pop t =>
    obtain ⟨-, S, hpop, rfl⟩ := teardownPop_cases hstep
    exact h.pop hpop
  | stats outcome =>
    obtain ⟨-, p, -, -, rfl⟩ := teardownStats_cases hstep
    exact h
  | arm handle =>
    obtain ⟨S, t, p, hadd, -, rfl, -⟩ := teardownArm_cases hstep
    exact h.add hadd
  | connect ice =>
    obtain ⟨-, -, rfl⟩ := teardownConnect_cases hstep
    exact h
  | connectArm handle =>
    obtain ⟨-, S, hadd, rfl⟩ := teardownConnectArm_cases hstep
    exact h.add hadd
  | app =>
    rcases (teardownApp_frame hstep).1 with heq | ⟨handle, heq⟩
    · rw [heq]
      exact h
    · rw [heq]
      exact h.cancel handle

theorem teardownLoop_outside (hstep : teardownLoop s = some s')
    (hflight : s.loop.connectFlight = .out) :
    s'.connectTimer = s.connectTimer ∧ s'.loop.connectFlight = .out := by
  unfold teardownLoop at hstep
  cases hloop : s.loop <;> rw [hloop] at hstep hflight <;> dsimp only at hstep
  case tasks | timers =>
    split at hstep <;> cases hstep <;> exact ⟨rfl, rfl⟩
  case runClose | reportClear | reportStore | otherFn =>
    cases hstep
    exact ⟨rfl, rfl⟩
  case reportRunning =>
    cases hstep
    refine ⟨rfl, ?_⟩
    dsimp only
    split <;> rfl
  case reportArm => cases hstep
  all_goals cases hflight

theorem AppPoint.past_of_closed {q : AppPoint} (hclosed : q.closed = true) :
    q.connectHolder = .past ∧ q.reportHolder = .past := by
  cases q <;> first | exact ⟨rfl, rfl⟩ | exact absurd hclosed nofun

theorem TeardownState.Inv.not_closed (h : s.Inv)
    (hflight : s.loop.connectFlight ≠ .out ∨ s.loop.reportFlight ≠ .out) :
    s.app.closed = false := by
  by_contra hclosed
  obtain ⟨hconnect, hreport⟩ := AppPoint.past_of_closed (Bool.not_eq_false _ ▸ hclosed)
  rcases hflight with hflight | hflight
  · exact absurd ((h.connect.away hflight).symm.trans hconnect) nofun
  · exact absurd ((h.report.away hflight).symm.trans hreport) nofun

theorem teardownLoop_late (hstep : teardownLoop s = some s') (h : s.Inv) : s'.late = s.late := by
  unfold teardownLoop at hstep
  cases hloop : s.loop <;> rw [hloop] at hstep <;> dsimp only at hstep
  case connectClear =>
    cases hstep
    have hclosed := h.not_closed (Or.inl (by rw [hloop]; exact nofun))
    dsimp only [TeardownState.started]
    rw [hclosed]
    rfl
  case reportClear =>
    cases hstep
    have hclosed := h.not_closed (Or.inr (by rw [hloop]; exact nofun))
    dsimp only [TeardownState.started]
    rw [hclosed]
    rfl
  case tasks | timers => split at hstep <;> cases hstep <;> rfl
  all_goals first | (cases hstep; rfl) | cases hstep

theorem TeardownState.Inv.keep (h : s.Inv) (hsound : s'.timers.Sound) (hdisc : Disciplined s s')
    (happ : s'.app = s.app) (hstarted : s'.connectStarted = s.connectStarted)
    (hfield : s'.connectTimer = s.connectTimer) (hlate : s'.late = s.late)
    (hflight : s.connectStarted = false ∨ s.app = .connectArm →
      s.loop.connectFlight = .out → s'.loop.connectFlight = .out) : s'.Inv where
  sound := hsound
  connect := hdisc.1.ok h.sound h.connect
  report := hdisc.2.ok h.sound h.report
  connecting := by
    rw [happ, hstarted]
    exact h.connecting
  unused := by grind [h.unused]
  late := hlate.trans h.late

theorem TeardownState.Inv.pop_unused (h : s.Inv) {t : Timer PeerTimer} {S : TimerSet PeerTimer}
    (hpop : s.timers.pop t s.nowMs = some S) (hfree : s.app.connectHolder.free = true)
    (hunused : s.connectStarted = false ∨ s.app = .connectArm) : t.callback ≠ .connect := by
  obtain ⟨hfield, hflight⟩ := h.unused hunused
  have hactive := (TimerSet.pop_cases hpop).1
  cases hholder : s.app.connectHolder with
  | away => exact h.connect.none_of_field h.sound hflight hholder hfield t hactive
  | past => exact h.connect.past hholder t hactive
  | storing _ | reading | cancelling _ => rw [hholder] at hfree; exact absurd hfree nofun

theorem teardownPop_inv {t : Timer PeerTimer} (hstep : teardownPop s t = some s')
    (hapart : s.apart (.pop t) = true) (h : s.Inv) : s'.Inv := by
  have hdisc := teardownPop_disciplined hstep hapart
  obtain ⟨-, S, hpop, rfl⟩ := teardownPop_cases hstep
  apply h.keep (h.sound.pop hpop) hdisc rfl rfl rfl rfl
  intro hunused _
  dsimp only [TeardownState.apart] at hapart
  cases hk : t.callback <;> rw [hk] at hapart
  case connect => exact absurd hk (h.pop_unused hpop hapart hunused)
  case report | other => rfl

theorem teardownStats_inv {outcome : StatsOutcome} (hstep : teardownStats s outcome = some s')
    (h : s.Inv) : s'.Inv := by
  have hdisc := teardownStats_disciplined hstep
  obtain ⟨hloop, p, -, -, rfl⟩ := teardownStats_cases hstep
  have hin : s.loop.connectFlight ≠ .out := by
    rw [hloop]
    exact nofun
  exact h.keep h.sound hdisc rfl rfl rfl rfl fun _ hout => absurd hout hin

theorem teardownArm_inv {handle : UInt64} (hstep : teardownArm s handle = some s') (h : s.Inv) :
    s'.Inv := by
  have hdisc := teardownArm_disciplined hstep
  obtain ⟨S, t, p, hadd, -, rfl, hcases⟩ := teardownArm_cases hstep
  apply h.keep (h.sound.add hadd) hdisc rfl rfl rfl rfl
  intro _ hout
  -- only the report callback adds a timer while no connect callback is in flight
  rcases hcases with ⟨hloop, -, -⟩ | ⟨hloop, -, -⟩ | ⟨-, -, rfl⟩
  · rw [hloop] at hout
    cases hout
  · rw [hloop] at hout
    cases hout
  · rfl

theorem teardownLoop_inv (hstep : teardownLoop s = some s') (h : s.Inv) : s'.Inv where
  sound := (teardownLoop_frame hstep).1 ▸ h.sound
  connect := (teardownLoop_disciplined hstep h).1.ok h.sound h.connect
  report := (teardownLoop_disciplined hstep h).2.ok h.sound h.report
  connecting := by
    rw [(teardownLoop_frame hstep).2.1, (teardownLoop_frame hstep).2.2]
    exact h.connecting
  unused := by
    rw [(teardownLoop_frame hstep).2.1, (teardownLoop_frame hstep).2.2]
    intro hunused
    obtain ⟨hfield, hflight⟩ := h.unused hunused
    obtain ⟨hsame, hout⟩ := teardownLoop_outside hstep hflight
    exact ⟨hsame.trans hfield, hout⟩
  late := (teardownLoop_late hstep h).trans h.late

theorem teardownConnect_inv {ice : Bool} (hstep : teardownConnect s ice = some s') (h : s.Inv) :
    s'.Inv := by
  have hdisc := teardownConnect_disciplined hstep
  obtain ⟨-, hfresh, rfl⟩ := teardownConnect_cases hstep
  exact ⟨h.sound, hdisc.1.ok h.sound h.connect, hdisc.2.ok h.sound h.report, fun _ => rfl,
    fun _ => h.unused (Or.inl hfresh), h.late⟩

theorem teardownConnectArm_inv {handle : UInt64} (hstep : teardownConnectArm s handle = some s')
    (h : s.Inv) : s'.Inv := by
  have hdisc := teardownConnectArm_disciplined hstep h
  obtain ⟨happ, S, hadd, rfl⟩ := teardownConnectArm_cases hstep
  exact ⟨h.sound.add hadd, hdisc.1.ok h.sound h.connect, hdisc.2.ok h.sound h.report,
    fun _ => h.connecting (by rw [happ]; rfl), fun _ => h.unused (Or.inr happ), h.late⟩

theorem teardownApp_outside (hstep : teardownApp s = some s') :
    s'.app.connecting = false
      ∧ (s.app.connecting = true ∨ s'.connectTimer = s.connectTimer ∨ s'.connectTimer = 0) := by
  unfold teardownApp at hstep
  cases happ : s.app <;> rw [happ] at hstep <;> dsimp only at hstep
  case connectStore handle =>
    cases hstep
    exact ⟨rfl, Or.inl rfl⟩
  case closeRead | stopRead =>
    cases hstep
    refine ⟨?_, Or.inr (Or.inl rfl)⟩
    dsimp only
    split <;> rfl
  case closeWait =>
    split at hstep <;> cases hstep
    exact ⟨rfl, Or.inr (Or.inl rfl)⟩
  case closeClear =>
    cases hstep
    exact ⟨rfl, Or.inr (Or.inr rfl)⟩
  case connectArm | destroyed => cases hstep
  all_goals
    cases hstep
    exact ⟨rfl, Or.inr (Or.inl rfl)⟩

theorem teardownApp_inv (hstep : teardownApp s = some s') (hapart : s.apart .app = true)
    (h : s.Inv) : s'.Inv := by
  obtain ⟨_, hloop, hstarted, hlate⟩ := teardownApp_frame hstep
  obtain ⟨houtside, hfield⟩ := teardownApp_outside hstep
  have hdisc := teardownApp_disciplined hstep hapart
  have hsound : s'.timers.Sound :=
    teardownStep_sound (show teardownStep s .app = some s' from hstep) h.sound
  refine ⟨hsound, hdisc.1.ok h.sound h.connect, hdisc.2.ok h.sound h.report, ?_, ?_,
    hlate.trans h.late⟩
  · intro hconnecting
    exact absurd (houtside.symm.trans hconnecting) nofun
  · intro hunused
    have hfresh : s.connectStarted = false := by
      rcases hunused with hunused | happ
      · exact hstarted.symm.trans hunused
      · rw [happ] at houtside
        exact absurd houtside nofun
    obtain ⟨hzero, hout⟩ := h.unused (Or.inl hfresh)
    refine ⟨?_, hloop ▸ hout⟩
    rcases hfield with hconnecting | hsame | hcleared
    · exact absurd ((h.connecting hconnecting).symm.trans hfresh) nofun
    · exact hsame.trans hzero
    · exact hcleared

/-- **One step keeps the invariant**, if the threads stay apart. -/
theorem teardownStep_inv {label : TeardownLabel} (hstep : teardownStep s label = some s')
    (hapart : s.apart label = true) (h : s.Inv) : s'.Inv := by
  cases label with
  | tick ms =>
    have hdisc := teardownStep_disciplined hstep hapart h
    cases hstep
    exact h.keep h.sound hdisc rfl rfl rfl rfl fun _ => id
  | addOther handle deadlineMs =>
    have hdisc := teardownStep_disciplined hstep hapart h
    obtain ⟨S, hadd, rfl⟩ := Option.map_eq_some_iff.mp hstep
    exact h.keep (h.sound.add hadd) hdisc rfl rfl rfl rfl fun _ => id
  | cancelOther handle =>
    have hdisc := teardownStep_disciplined hstep hapart h
    dsimp only [teardownStep] at hstep
    split at hstep <;> cases hstep
    exact h.keep (h.sound.cancel handle) hdisc rfl rfl rfl rfl fun _ => id
  | loop => exact teardownLoop_inv hstep h
  | pop t => exact teardownPop_inv hstep hapart h
  | stats outcome => exact teardownStats_inv hstep h
  | arm handle => exact teardownArm_inv hstep h
  | connect ice => exact teardownConnect_inv hstep h
  | connectArm handle => exact teardownConnectArm_inv hstep h
  | app => exact teardownApp_inv hstep hapart h

/-! ## Runs -/

theorem teardown_inv_init : ({} : TeardownState).Inv where
  sound := TimerSet.empty_sound
  connect := HandleUse.Ok.of_none (fun t ht => absurd ht (Multiset.notMem_zero t)) rfl
  report := HandleUse.Ok.of_none (fun t ht => absurd ht (Multiset.notMem_zero t)) rfl
  connecting := nofun
  unused := fun _ => ⟨rfl, rfl⟩
  late := rfl

theorem teardownRun_inv (labels : List TeardownLabel) (s s' : TeardownState)
    (hrun : teardownRun s labels = some s') (hapart : apartRun s labels = true) (h : s.Inv) :
    s'.Inv := by
  induction labels generalizing s with
  | nil =>
    cases hrun
    exact h
  | cons label labels ih =>
    obtain ⟨s₁, hstep, hrest⟩ := Option.bind_eq_some_iff.mp hrun
    unfold apartRun at hapart
    rw [Bool.and_eq_true, hstep, Option.all_some] at hapart
    exact ih s₁ hrest hapart.2 (teardownStep_inv hstep hapart.1 h)

theorem TeardownState.Inv.quiet (h : s.Inv) : s.Quiet := by
  intro hclosed
  obtain ⟨hconnect, hreport⟩ := AppPoint.past_of_closed hclosed
  refine ⟨?_, h.late⟩
  intro t ht
  cases hk : t.callback with
  | connect => exact absurd hk (h.connect.past hconnect t ht)
  | report => exact absurd hk (h.report.past hreport t ht)
  | other => rfl

end Steps

/-- **A closed peer is left alone**: in every run in which close looks for each timer while its
callback is not in flight, once close has returned no timer of the peer is pending and none of its
callbacks starts. -/
theorem teardownRun_quiet (labels : List TeardownLabel) (s : TeardownState)
    (hrun : teardownRun {} labels = some s) (hapart : apartRun {} labels = true) : s.Quiet :=
  (teardownRun_inv labels {} s hrun hapart teardown_inv_init).quiet

/-- The peer connects after one retry, the session reports once, and the peer is closed and
destroyed between two callbacks, while another user has a timer of their own. -/
def orderlyClose : List TeardownLabel :=
  [.addOther 9 100, .connect true, .connectArm 1, .app, .loop, .pop ⟨1, 0, .connect⟩,
    .loop, .loop, .loop, .loop, .stats .noTuple, .arm 2, .loop, .loop, .tick 50, .loop,
    .pop ⟨2, 50, .connect⟩, .loop, .loop, .loop, .loop, .stats .up, .loop, .loop, .loop, .loop,
    .loop, .arm 3, .loop, .loop, .tick 5000, .pop ⟨9, 100, .other⟩, .loop,
    .pop ⟨3, 5050, .report⟩, .loop, .loop, .arm 4, .loop, .app, .app, .app, .app, .app, .app, .app,
    .app, .loop, .loop, .loop, .app, .app, .app, .app, .app, .app, .loop, .tick 9000, .loop]

theorem orderlyClose_quiet :
    apartRun {} orderlyClose = true
      ∧ ∃ s, teardownRun {} orderlyClose = some s ∧ s.app = .destroyed ∧ s.Quiet := by
  have hapart : apartRun {} orderlyClose = true := by decide +kernel
  have hend : (teardownRun {} orderlyClose).any (fun s => s.app == .destroyed) = true := by
    decide +kernel
  simp only [Option.any_eq_true, beq_iff_eq] at hend
  obtain ⟨s, hrun, happ⟩ := hend
  exact ⟨hapart, s, hrun, happ, teardownRun_quiet orderlyClose s hrun hapart⟩

/-! ## Close in the middle of a callback -/

def closeInCallback : List TeardownLabel :=
  [.connect true, .connectArm 1, .app, .loop, .pop ⟨1, 0, .connect⟩, .loop, .loop, .loop, .loop,
    .stats .noTuple, .app, .app, .app, .app, .app, .arm 2, .loop, .loop, .loop, .loop, .app, .app,
    .app, .app, .app]

def fireLater : List TeardownLabel :=
  [.app, .tick 50, .loop, .pop ⟨2, 50, .connect⟩, .loop]

theorem closeInCallback_not_quiet :
    (∃ s, teardownRun {} closeInCallback = some s ∧ s.app = .returned ∧ ¬ s.Quiet)
      ∧ ∃ s, teardownRun {} (closeInCallback ++ fireLater) = some s ∧ s.app = .destroyed
        ∧ s.late = [.connect] := by
  have hclosed : (teardownRun {} closeInCallback).any
      (fun s => s.app == .returned && !decide s.Quiet) = true := by
    decide +kernel
  have hfired : (teardownRun {} (closeInCallback ++ fireLater)).any
      (fun s => s.app == .destroyed && s.late == [.connect]) = true := by
    decide +kernel
  simp only [Option.any_eq_true, Bool.and_eq_true, beq_iff_eq, Bool.not_eq_true',
    decide_eq_false_iff_not] at hclosed hfired
  exact ⟨hclosed, hfired⟩

end Mrtc
