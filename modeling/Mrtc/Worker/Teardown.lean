import Mrtc.Signaling.Peer
import Mrtc.Timer.Handle

/-! # Closing a peer while the worker runs (`rtc_peer.c`, `rtc_media_session.c`)

A worker with the two timers of one peer: the connect timer, which carries the peer connection, and
the report timer, which carries its media session.
-/

namespace Mrtc

inductive PeerTimer where
  | connect
  | report
  | other
  deriving DecidableEq

/-- What `peer_runtime_connect_timer` learns from the transport: no stats, no tuple selected,
DTLS not started and its start failed, DTLS and SRTP up, or none of these. -/
inductive StatsOutcome where
  | failed
  | noTuple
  | startFailed
  | up
  | pending
  deriving DecidableEq

inductive LoopPoint where
  | tasks
  | runClose
  | timers
  | connectClear
  | connectClosed
  | connectFailed
  | connectConnected
  | connectStats
  | connectArm
  | connectStore (handle : UInt64)
  | connectFail
  | completeCheck
  | completeSet
  | startReady
  | startRunning
  | startRead
  | startArm
  | startStore (handle : UInt64)
  | completeState
  | reportClear
  | reportRunning
  | reportArm
  | reportStore (handle : UInt64)
  | otherFn
  deriving DecidableEq

/-- Where the application thread is: in `peer_try_connect` (`connect…`), in `peer_runtime_close`
with `rtc_media_session_stop` in the middle, in the rest of `rtc_peer_connection_close`, or after
it. -/
inductive AppPoint where
  | ready
  | connectArm
  | connectStore (handle : UInt64)
  | closeRead
  | closeReread
  | closeCancel (handle : UInt64)
  | closeClear
  | stopRunning
  | stopRead
  | stopReread
  | stopCancel (handle : UInt64)
  | stopClear
  | closeTransport
  | closeWait
  | clearTransport
  | clearRuntime
  | closeSession
  | setClosed
  | returned
  | destroyed
  deriving DecidableEq

def AppPoint.closed : AppPoint → Bool
  | .returned | .destroyed => true
  | _ => false

/-- The worker's timers and clock, the fields of the peer and its session that the callbacks read
or write, the marshalled `tx_close_impl` (queued, done), and the two threads. -/
structure TeardownState where
  timers : TimerSet PeerTimer := {}
  nowMs : Nat := 0
  connectTimer : UInt64 := 0
  reportTimer : UInt64 := 0
  running : Bool := false
  ready : Bool := true
  connection : ConnectionState := .new
  connected : Bool := false
  connectStarted : Bool := false
  transport : Bool := true
  runtime : Bool := true
  closeQueued : Bool := false
  closeDone : Bool := false
  loop : LoopPoint := .tasks
  app : AppPoint := .ready
  late : List PeerTimer := []

open TeardownState TimerSet

def TeardownState.started (s : TeardownState) (k : PeerTimer) : List PeerTimer :=
  if s.app.closed then s.late ++ [k] else s.late

def teardownLoop (s : TeardownState) : Option TeardownState :=
  match s.loop with
  | .tasks =>
    if s.closeQueued then some { s with closeQueued := false, loop := .runClose }
    else some { s with loop := .timers }
  | .runClose => some { s with closeDone := true, loop := .tasks }
  | .timers =>
    if ∀ t ∈ s.timers.active, s.nowMs < t.deadlineMs then some { s with loop := .tasks } else none
  | .connectClear =>
    some { s with connectTimer := 0, late := s.started .connect, loop := .connectClosed }
  | .connectClosed =>
    some { s with loop := if s.connection = .closed then .timers else .connectFailed }
  | .connectFailed =>
    some { s with loop := if s.connection = .failed then .timers else .connectConnected }
  | .connectConnected => some { s with loop := if s.connected then .timers else .connectStats }
  | .connectStore handle => some { s with connectTimer := handle, loop := .timers }
  | .connectFail => some { s with connection := .failed, loop := .timers }
  | .completeCheck => some { s with loop := if s.connected then .timers else .completeSet }
  | .completeSet => some { s with connected := true, loop := .startReady }
  | .startReady => some { s with loop := if s.ready then .startRunning else .completeState }
  | .startRunning =>
    some { s with running := true, loop := if s.running then .completeState else .startRead }
  | .startRead => some { s with loop := if s.reportTimer = 0 then .startArm else .completeState }
  | .startStore handle => some { s with reportTimer := handle, loop := .completeState }
  | .completeState => some { s with connection := .connected, loop := .timers }
  | .reportClear =>
    some { s with reportTimer := 0, late := s.started .report, loop := .reportRunning }
  | .reportRunning => some { s with loop := if s.running then .reportArm else .timers }
  | .reportStore handle => some { s with reportTimer := handle, loop := .timers }
  | .otherFn => some { s with loop := .timers }
  | .connectStats | .connectArm | .startArm | .reportArm => none

def PeerTimer.entry : PeerTimer → LoopPoint
  | .connect => .connectClear
  | .report => .reportClear
  | .other => .otherFn

def teardownPop (s : TeardownState) (t : Timer PeerTimer) : Option TeardownState :=
  if s.loop = .timers then
    (s.timers.pop t s.nowMs).map fun S => { s with timers := S, loop := t.callback.entry }
  else none

def teardownStats (s : TeardownState) (outcome : StatsOutcome) : Option TeardownState :=
  if s.loop = .connectStats ∧ (s.transport = true ∨ outcome = .failed) then
    match outcome with
    | .failed | .startFailed => some { s with loop := .connectFail }
    | .noTuple | .pending => some { s with loop := .connectArm }
    | .up => some { s with loop := .completeCheck }
  else none

def teardownArm (s : TeardownState) (handle : UInt64) : Option TeardownState :=
  match s.loop with
  | .connectArm =>
    if s.runtime then
      (s.timers.add ⟨handle, s.nowMs + 50, .connect⟩).map fun S =>
        { s with timers := S, loop := .connectStore handle }
    else none
  | .startArm =>
    (s.timers.add ⟨handle, s.nowMs + 5000, .report⟩).map fun S =>
      { s with timers := S, loop := .startStore handle }
  | .reportArm =>
    (s.timers.add ⟨handle, s.nowMs + 5000, .report⟩).map fun S =>
      { s with timers := S, loop := .reportStore handle }
  | _ => none

def teardownConnect (s : TeardownState) (ice : Bool) : Option TeardownState :=
  if s.app = .ready ∧ s.connectStarted = false then
    some
      { s with
        connectStarted := true
        connection := if ice then .connecting else .failed
        app := if ice then .connectArm else .ready }
  else none

def teardownConnectArm (s : TeardownState) (handle : UInt64) : Option TeardownState :=
  if s.app = .connectArm then
    (s.timers.add ⟨handle, s.nowMs, .connect⟩).map fun S =>
      { s with timers := S, app := .connectStore handle }
  else none

def teardownApp (s : TeardownState) : Option TeardownState :=
  match s.app with
  | .ready => some { s with app := .closeRead }
  | .connectArm => none
  | .connectStore handle => some { s with connectTimer := handle, app := .ready }
  | .closeRead => some { s with app := if s.connectTimer = 0 then .stopRunning else .closeReread }
  | .closeReread => some { s with app := .closeCancel s.connectTimer }
  | .closeCancel handle => some { s with timers := s.timers.cancel handle, app := .closeClear }
  | .closeClear => some { s with connectTimer := 0, app := .stopRunning }
  | .stopRunning => some { s with running := false, app := .stopRead }
  | .stopRead => some { s with app := if s.reportTimer = 0 then .closeTransport else .stopReread }
  | .stopReread => some { s with app := .stopCancel s.reportTimer }
  | .stopCancel handle => some { s with timers := s.timers.cancel handle, app := .stopClear }
  | .stopClear => some { s with reportTimer := 0, app := .closeTransport }
  | .closeTransport => some { s with closeQueued := true, app := .closeWait }
  | .closeWait => if s.closeDone then some { s with app := .clearTransport } else none
  | .clearTransport => some { s with transport := false, app := .clearRuntime }
  | .clearRuntime => some { s with runtime := false, app := .closeSession }
  | .closeSession => some { s with ready := false, app := .setClosed }
  | .setClosed => some { s with connection := .closed, app := .returned }
  | .returned => some { s with app := .destroyed }
  | .destroyed => none

inductive TeardownLabel where
  | tick (ms : Nat)
  | addOther (handle : UInt64) (deadlineMs : Nat)
  | cancelOther (handle : UInt64)
  | loop
  | pop (t : Timer PeerTimer)
  | stats (outcome : StatsOutcome)
  | arm (handle : UInt64)
  | connect (ice : Bool)
  | connectArm (handle : UInt64)
  | app
  deriving DecidableEq

def teardownStep (s : TeardownState) : TeardownLabel → Option TeardownState
  | .tick ms => some { s with nowMs := s.nowMs + ms }
  | .addOther handle deadlineMs =>
    (s.timers.add ⟨handle, deadlineMs, .other⟩).map fun S => { s with timers := S }
  | .cancelOther handle =>
    if ∀ t ∈ s.timers.active, t.handle = handle → t.callback = .other then
      some { s with timers := s.timers.cancel handle }
    else none
  | .loop => teardownLoop s
  | .pop t => teardownPop s t
  | .stats outcome => teardownStats s outcome
  | .arm handle => teardownArm s handle
  | .connect ice => teardownConnect s ice
  | .connectArm handle => teardownConnectArm s handle
  | .app => teardownApp s

def teardownRun (s : TeardownState) : List TeardownLabel → Option TeardownState
  | [] => some s
  | label :: labels => (teardownStep s label).bind fun s => teardownRun s labels

/-- After the close no callback of its own is armed or runs. -/
def TeardownState.Quiet (s : TeardownState) : Prop :=
  s.app.closed = true → (∀ t ∈ s.timers.active, t.callback = .other) ∧ s.late = []

instance (s : TeardownState) : Decidable s.Quiet :=
  inferInstanceAs (Decidable (_ → _))

/-! ## The two handles -/

def LoopPoint.connectFlight : LoopPoint → Flight
  | .tasks | .runClose | .timers | .otherFn => .out
  | .reportClear | .reportRunning | .reportArm | .reportStore _ => .out
  | .connectStore handle => .storing handle
  | _ => .empty

def LoopPoint.reportFlight : LoopPoint → Flight
  | .startStore handle | .reportStore handle => .storing handle
  | .startArm | .reportClear | .reportRunning | .reportArm => .empty
  | _ => .out

def AppPoint.connectHolder : AppPoint → Holder
  | .ready | .connectArm | .closeRead => .away
  | .connectStore handle => .storing handle
  | .closeReread => .reading
  | .closeCancel handle => .cancelling handle
  | _ => .past

def AppPoint.reportHolder : AppPoint → Holder
  | .ready | .connectArm | .connectStore _ => .away
  | .closeRead | .closeReread | .closeCancel _ | .closeClear | .stopRunning | .stopRead => .away
  | .stopReread => .reading
  | .stopCancel handle => .cancelling handle
  | _ => .past

def TeardownState.connectUse (s : TeardownState) : HandleUse PeerTimer :=
  ⟨s.timers, s.connectTimer, s.loop.connectFlight, s.app.connectHolder⟩

def TeardownState.reportUse (s : TeardownState) : HandleUse PeerTimer :=
  ⟨s.timers, s.reportTimer, s.loop.reportFlight, s.app.reportHolder⟩

/-- The application thread looks for a timer to cancel only while the callback of that timer is not
in flight, and the loop does not pop a timer while the application thread is about to store its
handle or to cancel it. -/
def TeardownState.apart (s : TeardownState) : TeardownLabel → Bool
  | .pop t =>
    match t.callback with
    | .connect => s.app.connectHolder.free
    | .report => s.app.reportHolder.free
    | .other => true
  | .app =>
    match s.app with
    | .closeRead => s.loop.connectFlight == .out
    | .stopRead => s.loop.reportFlight == .out
    | _ => true
  | _ => true

def apartRun (s : TeardownState) : List TeardownLabel → Bool
  | [] => true
  | label :: labels => s.apart label && (teardownStep s label).all fun s => apartRun s labels

def AppPoint.connecting : AppPoint → Bool
  | .connectArm | .connectStore _ => true
  | _ => false

structure TeardownState.Inv (s : TeardownState) : Prop where
  sound : s.timers.Sound
  connect : s.connectUse.Ok .connect
  report : s.reportUse.Ok .report
  connecting : s.app.connecting = true → s.connectStarted = true
  unused : s.connectStarted = false ∨ s.app = .connectArm →
    s.connectTimer = 0 ∧ s.loop.connectFlight = .out
  late : s.late = []

/-! ## What each step can do -/

section Cases

variable {s s' : TeardownState}

theorem teardownPop_cases {t : Timer PeerTimer} (hstep : teardownPop s t = some s') :
    s.loop = .timers ∧ ∃ S, s.timers.pop t s.nowMs = some S
      ∧ s' = { s with timers := S, loop := t.callback.entry } := by
  unfold teardownPop at hstep
  split_ifs at hstep with hloop
  obtain ⟨S, hpop, hS⟩ := Option.map_eq_some_iff.mp hstep
  exact ⟨hloop, S, hpop, hS.symm⟩

theorem teardownStats_cases {outcome : StatsOutcome} (hstep : teardownStats s outcome = some s') :
    s.loop = .connectStats ∧ ∃ p : LoopPoint, p.connectFlight = .empty ∧ p.reportFlight = .out
      ∧ s' = { s with loop := p } := by
  unfold teardownStats at hstep
  split_ifs at hstep with hloop
  refine ⟨hloop.1, ?_⟩
  cases outcome with
  | failed | startFailed => exact ⟨.connectFail, rfl, rfl, (Option.some.inj hstep).symm⟩
  | noTuple | pending => exact ⟨.connectArm, rfl, rfl, (Option.some.inj hstep).symm⟩
  | up => exact ⟨.completeCheck, rfl, rfl, (Option.some.inj hstep).symm⟩

theorem teardownArm_cases {handle : UInt64} (hstep : teardownArm s handle = some s') :
    ∃ S t p, s.timers.add t = some S ∧ t.handle = handle ∧ s' = { s with timers := S, loop := p }
      ∧ ((s.loop = .connectArm ∧ t.callback = .connect ∧ p = .connectStore handle)
        ∨ (s.loop = .startArm ∧ t.callback = .report ∧ p = .startStore handle)
        ∨ s.loop = .reportArm ∧ t.callback = .report ∧ p = .reportStore handle) := by
  unfold teardownArm at hstep
  split at hstep
  · next hloop =>
    split_ifs at hstep
    obtain ⟨S, hadd, hS⟩ := Option.map_eq_some_iff.mp hstep
    exact ⟨S, _, _, hadd, rfl, hS.symm, Or.inl ⟨hloop, rfl, rfl⟩⟩
  · next hloop =>
    obtain ⟨S, hadd, hS⟩ := Option.map_eq_some_iff.mp hstep
    exact ⟨S, _, _, hadd, rfl, hS.symm, Or.inr (Or.inl ⟨hloop, rfl, rfl⟩)⟩
  · next hloop =>
    obtain ⟨S, hadd, hS⟩ := Option.map_eq_some_iff.mp hstep
    exact ⟨S, _, _, hadd, rfl, hS.symm, Or.inr (Or.inr ⟨hloop, rfl, rfl⟩)⟩
  · cases hstep

theorem teardownConnect_cases {ice : Bool} (hstep : teardownConnect s ice = some s') :
    s.app = .ready ∧ s.connectStarted = false
      ∧ s' =
        { s with
          connectStarted := true
          connection := if ice then .connecting else .failed
          app := if ice then .connectArm else .ready } := by
  unfold teardownConnect at hstep
  by_cases hready : s.app = .ready ∧ s.connectStarted = false
  · rw [if_pos hready] at hstep
    exact ⟨hready.1, hready.2, (Option.some.inj hstep).symm⟩
  · rw [if_neg hready] at hstep
    cases hstep

theorem teardownConnectArm_cases {handle : UInt64} (hstep : teardownConnectArm s handle = some s') :
    s.app = .connectArm ∧ ∃ S, s.timers.add ⟨handle, s.nowMs, .connect⟩ = some S
      ∧ s' = { s with timers := S, app := .connectStore handle } := by
  unfold teardownConnectArm at hstep
  split_ifs at hstep with happ
  obtain ⟨S, hadd, hS⟩ := Option.map_eq_some_iff.mp hstep
  exact ⟨happ, S, hadd, hS.symm⟩

end Cases

/-! ## What each step does with the handles -/

section Steps

variable {s s' : TeardownState}

def Disciplined (s s' : TeardownState) : Prop :=
  HandleStep .connect s.connectUse s'.connectUse ∧ HandleStep .report s.reportUse s'.reportUse

theorem TeardownState.Inv.connect_away (h : s.Inv) (hflight : s.loop.connectFlight ≠ .out) :
    s.app.connectHolder = .away :=
  h.connect.away hflight

theorem TeardownState.Inv.report_away_of_connect (h : s.Inv)
    (hflight : s.loop.connectFlight ≠ .out) : s.app.reportHolder = .away := by
  have hholder := h.connect_away hflight
  cases happ : s.app <;> rw [happ] at hholder <;> first | rfl | exact absurd hholder nofun

theorem TeardownState.connectUse_eq {p : LoopPoint} {q : AppPoint} (hloop : s.loop = p)
    (happ : s.app = q) :
    s.connectUse = ⟨s.timers, s.connectTimer, p.connectFlight, q.connectHolder⟩ := by
  rw [connectUse, hloop, happ]

theorem TeardownState.reportUse_eq {p : LoopPoint} {q : AppPoint} (hloop : s.loop = p)
    (happ : s.app = q) :
    s.reportUse = ⟨s.timers, s.reportTimer, p.reportFlight, q.reportHolder⟩ := by
  rw [reportUse, hloop, happ]

theorem teardownLoop_disciplined (hstep : teardownLoop s = some s') (h : s.Inv) :
    Disciplined s s' := by
  unfold teardownLoop at hstep
  cases hloop : s.loop <;> rw [hloop] at hstep <;>
    rw [Disciplined, connectUse_eq hloop rfl, reportUse_eq hloop rfl]
  case tasks =>
    dsimp only at hstep
    split at hstep <;> cases hstep <;> exact ⟨.move rfl rfl rfl rfl, .move rfl rfl rfl rfl⟩
  case timers =>
    dsimp only at hstep
    split at hstep <;> cases hstep
    exact ⟨.move rfl rfl rfl rfl, .move rfl rfl rfl rfl⟩
  case runClose | connectFail | completeSet | completeState | otherFn =>
    cases hstep
    exact ⟨.move rfl rfl rfl rfl, .move rfl rfl rfl rfl⟩
  case connectClosed | connectFailed | connectConnected | completeCheck | startReady | startRunning
    | reportRunning =>
    cases hstep
    refine ⟨.move rfl rfl rfl ?_, .move rfl rfl rfl ?_⟩ <;>
      dsimp only [connectUse, reportUse] <;> split <;> rfl
  case connectClear =>
    cases hstep
    exact ⟨.clear rfl, .move rfl rfl rfl rfl⟩
  case reportClear =>
    cases hstep
    exact ⟨.move rfl rfl rfl rfl, .clear rfl⟩
  case connectStore handle =>
    cases hstep
    exact ⟨.store rfl, .move rfl rfl rfl rfl⟩
  case startStore handle | reportStore handle =>
    cases hstep
    exact ⟨.move rfl rfl rfl rfl, .store rfl⟩
  case startRead =>
    cases hstep
    -- the session adds its timer only if the field names none
    by_cases hfield : s.reportTimer = 0
    · have haway := h.report_away_of_connect (by rw [hloop]; exact nofun)
      simp only [hfield, if_true]
      exact ⟨.move rfl rfl rfl rfl, .start rfl rfl haway⟩
    · simp only [hfield, if_false]
      exact ⟨.move rfl rfl rfl rfl, .move rfl rfl rfl rfl⟩
  case connectStats | connectArm | startArm | reportArm => exact absurd hstep nofun

theorem teardownPop_disciplined {t : Timer PeerTimer} (hstep : teardownPop s t = some s')
    (hapart : s.apart (.pop t) = true) : Disciplined s s' := by
  obtain ⟨hloop, S, hpop, rfl⟩ := teardownPop_cases hstep
  have hsub : ∀ k, ∀ u ∈ S.active, u.callback = k → u ∈ s.timers.active :=
    fun k u hu _ => mem_pop hpop hu
  rw [Disciplined, connectUse_eq hloop rfl, reportUse_eq hloop rfl]
  dsimp only [apart] at hapart
  cases hk : t.callback <;> rw [hk] at hapart
  case connect => exact ⟨.pop hk hpop rfl hapart, .frame (hsub _)⟩
  case report => exact ⟨.frame (hsub _), .pop hk hpop rfl hapart⟩
  case other => exact ⟨.frame (hsub _), .frame (hsub _)⟩

theorem teardownStats_disciplined {outcome : StatsOutcome}
    (hstep : teardownStats s outcome = some s') : Disciplined s s' := by
  obtain ⟨hloop, p, hconnect, hreport, rfl⟩ := teardownStats_cases hstep
  rw [Disciplined, connectUse_eq hloop rfl, reportUse_eq hloop rfl]
  refine ⟨.move rfl rfl rfl ?_, .move rfl rfl rfl ?_⟩
  · show Flight.empty.goesOn p.connectFlight = true
    rw [hconnect]
    rfl
  · show Flight.out.goesOn p.reportFlight = true
    rw [hreport]
    rfl

theorem mem_of_add_other {S S' : TimerSet PeerTimer} {t : Timer PeerTimer} {k : PeerTimer}
    (hadd : S.add t = some S') (hk : t.callback ≠ k) :
    ∀ u ∈ S'.active, u.callback = k → u ∈ S.active := by
  intro u hu huk
  rcases mem_add hadd hu with rfl | hu
  · exact absurd huk hk
  · exact hu

theorem teardownArm_disciplined {handle : UInt64} (hstep : teardownArm s handle = some s') :
    Disciplined s s' := by
  obtain ⟨S, t, p, hadd, rfl, rfl, hcases⟩ := teardownArm_cases hstep
  rcases hcases with ⟨hloop, hk, rfl⟩ | ⟨hloop, hk, rfl⟩ | ⟨hloop, hk, rfl⟩ <;>
    rw [Disciplined, connectUse_eq hloop rfl, reportUse_eq hloop rfl]
  · exact ⟨.arm hadd rfl, .frame (mem_of_add_other hadd (hk ▸ nofun))⟩
  · exact ⟨.frame (mem_of_add_other hadd (hk ▸ nofun)), .arm hadd rfl⟩
  · exact ⟨.frame (mem_of_add_other hadd (hk ▸ nofun)), .arm hadd rfl⟩

theorem teardownConnect_disciplined {ice : Bool} (hstep : teardownConnect s ice = some s') :
    Disciplined s s' := by
  obtain ⟨happ, -, rfl⟩ := teardownConnect_cases hstep
  rw [Disciplined, connectUse_eq rfl happ, reportUse_eq rfl happ]
  cases ice <;> exact ⟨.frame fun t ht _ => ht, .frame fun t ht _ => ht⟩

theorem teardownConnectArm_disciplined {handle : UInt64}
    (hstep : teardownConnectArm s handle = some s') (h : s.Inv) : Disciplined s s' := by
  obtain ⟨happ, S, hadd, rfl⟩ := teardownConnectArm_cases hstep
  obtain ⟨hfield, hflight⟩ := h.unused (Or.inr happ)
  rw [Disciplined, connectUse_eq rfl happ, reportUse_eq rfl happ]
  exact ⟨.holderArm (t := ⟨handle, s.nowMs, .connect⟩) hadd hflight hfield rfl,
    .frame (mem_of_add_other hadd nofun)⟩

theorem teardownApp_disciplined (hstep : teardownApp s = some s') (hapart : s.apart .app = true) :
    Disciplined s s' := by
  unfold teardownApp at hstep
  dsimp only [apart] at hapart
  cases happ : s.app <;> rw [happ] at hstep hapart <;>
    rw [Disciplined, connectUse_eq rfl happ, reportUse_eq rfl happ] <;>
    dsimp only at hstep hapart
  case ready | stopRunning | closeTransport | clearTransport | clearRuntime | closeSession
    | setClosed | returned =>
    cases hstep
    exact ⟨.frame fun t ht _ => ht, .frame fun t ht _ => ht⟩
  case closeWait =>
    split at hstep <;> cases hstep
    exact ⟨.frame fun t ht _ => ht, .frame fun t ht _ => ht⟩
  case connectStore handle =>
    cases hstep
    exact ⟨.holderStore rfl, .frame fun t ht _ => ht⟩
  case closeRead =>
    cases hstep
    rw [beq_iff_eq] at hapart
    by_cases hfield : s.connectTimer = 0
    · simp only [hfield, if_true]
      exact ⟨.readNone rfl hapart rfl, .frame fun t ht _ => ht⟩
    · simp only [hfield, if_false]
      exact ⟨.read hapart rfl, .frame fun t ht _ => ht⟩
  case closeReread =>
    cases hstep
    exact ⟨.reread rfl, .frame fun t ht _ => ht⟩
  case closeCancel handle =>
    cases hstep
    exact ⟨.cancel rfl, .frame fun t ht _ => (mem_cancel.mp ht).1⟩
  case closeClear =>
    cases hstep
    exact ⟨.wipe rfl, .frame fun t ht _ => ht⟩
  case stopRead =>
    cases hstep
    rw [beq_iff_eq] at hapart
    by_cases hfield : s.reportTimer = 0
    · simp only [hfield, if_true]
      exact ⟨.frame fun t ht _ => ht, .readNone rfl hapart rfl⟩
    · simp only [hfield, if_false]
      exact ⟨.frame fun t ht _ => ht, .read hapart rfl⟩
  case stopReread =>
    cases hstep
    exact ⟨.frame fun t ht _ => ht, .reread rfl⟩
  case stopCancel handle =>
    cases hstep
    exact ⟨.frame fun t ht _ => (mem_cancel.mp ht).1, .cancel rfl⟩
  case stopClear =>
    cases hstep
    exact ⟨.frame fun t ht _ => ht, .wipe rfl⟩
  case connectArm | destroyed => exact absurd hstep nofun

theorem teardownStep_disciplined {label : TeardownLabel} (hstep : teardownStep s label = some s')
    (hapart : s.apart label = true) (h : s.Inv) : Disciplined s s' := by
  cases label with
  | tick ms =>
    cases hstep
    exact ⟨.frame fun t ht _ => ht, .frame fun t ht _ => ht⟩
  | addOther handle deadlineMs =>
    obtain ⟨S, hadd, rfl⟩ := Option.map_eq_some_iff.mp hstep
    exact ⟨.frame (mem_of_add_other hadd nofun), .frame (mem_of_add_other hadd nofun)⟩
  | cancelOther handle =>
    dsimp only [teardownStep] at hstep
    split at hstep <;> cases hstep
    exact ⟨.frame fun t ht _ => (mem_cancel.mp ht).1,
      .frame fun t ht _ => (mem_cancel.mp ht).1⟩
  | loop => exact teardownLoop_disciplined hstep h
  | pop t => exact teardownPop_disciplined hstep hapart
  | stats outcome => exact teardownStats_disciplined hstep
  | arm handle => exact teardownArm_disciplined hstep
  | connect ice => exact teardownConnect_disciplined hstep
  | connectArm handle => exact teardownConnectArm_disciplined hstep h
  | app => exact teardownApp_disciplined hstep hapart

end Steps

end Mrtc
