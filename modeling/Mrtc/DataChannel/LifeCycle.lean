import Mrtc.DataChannel.Calls

/-! # The life of a channel (`rtc_data_channel.c`)

A channel goes from `CONNECTING` over `OPEN` to `CLOSED`, and the application is told once of each.
-/

namespace Mrtc

open Net List DcManager

def DcState.rank : DcState → Nat
  | .connecting => 0
  | .opened => 1
  | .closing => 2
  | .closed => 3

/-- No channel goes back to an earlier state. -/
def DcManager.Forward (mgr mgr' : DcManager) : Prop :=
  ∀ dc state, mgr.stateOf dc = some state →
    ∃ state', mgr'.stateOf dc = some state' ∧ state.rank ≤ state'.rank

def DcOnce (events : List DcEvent) : Prop :=
  ∀ dc, events.count (.onOpen dc) ≤ 1 ∧ events.count (.onClose dc) ≤ 1

/-- States only go forward, and each event comes once. -/
structure DcHistory.LifeCycle (h : DcHistory) (calls : List DcCall) : Prop where
  forward : ∀ before after h₁ h₂, before ++ after <+: calls → dcRun h before = some h₁ →
    dcRun h₁ after = some h₂ → h₁.mgr.Forward h₂.mgr
  once : ∀ h', dcRun h calls = some h' → DcOnce h'.events

open DcHistory

/-- No message opens a channel that is open or closed. -/
def DcHistory.OpensInTime (h : DcHistory) (calls : List DcCall) : Prop :=
  ∀ before call h', before ++ [call] <+: calls → dcRun h before = some h' →
    ∀ dc, call.opens h'.mgr = some dc →
      h'.mgr.stateOf dc ≠ some .closed ∧ .onOpen dc ∉ h'.events

structure DcHistory.Told (h : DcHistory) : Prop where
  opened : ∀ dc, .onOpen dc ∈ h.events →
    h.mgr.stateOf dc = some .opened ∨ h.mgr.stateOf dc = some .closed
  closed : ∀ dc, .onClose dc ∈ h.events → h.mgr.stateOf dc = some .closed
  once : DcOnce h.events
  -- `CLOSING` is left before `rtc_data_channel_close` returns
  settled : ∀ dc, h.mgr.stateOf dc ≠ some .closing

section LifeCycle

variable {mgr mgr' : DcManager} {dc : Nat} {state : DcState} {events : List DcEvent} {h : DcHistory}

theorem DcManager.Forward.refl (mgr : DcManager) : mgr.Forward mgr :=
  fun _ state hstate => ⟨state, hstate, Nat.le_refl _⟩

theorem DcManager.Forward.trans {mgr'' : DcManager} (h : mgr.Forward mgr')
    (h' : mgr'.Forward mgr'') : mgr.Forward mgr'' := by
  intro dc state hstate
  obtain ⟨state', hstate', hle⟩ := h dc state hstate
  obtain ⟨state'', hstate'', hle'⟩ := h' dc state' hstate'
  exact ⟨state'', hstate'', hle.trans hle'⟩

theorem DcManager.stateOf_setState_self (hstate : mgr.stateOf dc = some state) (target : DcState) :
    (mgr.setState dc target).stateOf dc = some target := by
  rw [stateOf_setState, hstate, Option.map_some, if_pos rfl]

theorem DcManager.stateOf_setState_ne {dc dc' : Nat} (hne : dc ≠ dc') (target : DcState) :
    (mgr.setState dc target).stateOf dc' = mgr.stateOf dc' := by
  rw [stateOf_setState]
  simp [hne]

theorem DcManager.settled_setState {target : DcState} (htarget : target ≠ .closing)
    (h : ∀ dc', mgr.stateOf dc' ≠ some .closing) (dc' : Nat) :
    (mgr.setState dc target).stateOf dc' ≠ some .closing := by
  by_cases hdc : dc = dc'
  · rw [stateOf_setState]
    simp [hdc, htarget]
  · rw [stateOf_setState_ne hdc]
    exact h dc'

theorem DcManager.forward_setState {state target : DcState} (hstate : mgr.stateOf dc = some state)
    (hle : state.rank ≤ target.rank) : mgr.Forward (mgr.setState dc target) := by
  intro dc' state' hstate'
  by_cases hdc : dc = dc'
  · grind [stateOf_setState_self]
  · exact ⟨state', (stateOf_setState_ne hdc target).trans hstate', Nat.le_refl _⟩

theorem DcOnce.append_quiet {events new : List DcEvent} (h : DcOnce events) (hquiet : DcQuiet new) :
    DcOnce (events ++ new) := by
  intro dc
  rw [count_append, count_append, count_eq_zero_of_not_mem (hquiet dc).1,
    count_eq_zero_of_not_mem (hquiet dc).2]
  exact h dc

theorem DcOnce.concat (h : DcOnce events) {event : DcEvent} (hfresh : event ∉ events) :
    DcOnce (events ++ [event]) := by
  have hcount : ∀ e, events.count e ≤ 1 → (events ++ [event]).count e ≤ 1 := by grind
  exact fun dc => ⟨hcount _ (h dc).1, hcount _ (h dc).2⟩

theorem DcHistory.Told.quiet (htold : h.Told)
    (hstates : ∀ dc state, h.mgr.stateOf dc = some state → mgr'.stateOf dc = some state)
    (hsettled : ∀ dc, mgr'.stateOf dc ≠ some .closing) (hquiet : DcQuiet events) :
    DcHistory.Told ⟨mgr', h.events ++ events⟩ where
  opened dc hdc := by
    have hdc := (mem_append.mp hdc).resolve_right (hquiet dc).1
    exact (htold.opened dc hdc).imp (hstates dc _) (hstates dc _)
  closed dc hdc := by
    have hdc := (mem_append.mp hdc).resolve_right (hquiet dc).2
    exact hstates dc _ (htold.closed dc hdc)
  once := htold.once.append_quiet hquiet
  settled := hsettled

theorem DcHistory.Told.reportOpen (htold : h.Told) (hstate : h.mgr.stateOf dc = some state)
    (hclosed : state ≠ .closed) (hfresh : .onOpen dc ∉ h.events) :
    DcHistory.Told ⟨h.mgr.setState dc .opened, h.events ++ [.onOpen dc]⟩ where
  opened dc' hdc' := by
    by_cases hdc : dc = dc'
    · subst hdc
      exact .inl (stateOf_setState_self hstate .opened)
    · rw [stateOf_setState_ne hdc]
      refine htold.opened dc' ((mem_append.mp hdc').resolve_right fun hnew => ?_)
      cases mem_singleton.mp hnew
      exact hdc rfl
  closed dc' hdc' := by grind [stateOf_setState_ne, htold.closed]
  once := htold.once.concat hfresh
  settled := settled_setState (by decide) htold.settled

theorem DcHistory.Told.reportClose (htold : h.Told)
    (hstate : h.mgr.stateOf dc = some state) (hopen : state ≠ .closed) :
    DcHistory.Told ⟨h.mgr.setState dc .closed, h.events ++ [.onClose dc]⟩ where
  opened dc' hdc' := by
    by_cases hdc : dc = dc'
    · subst hdc
      exact .inr (stateOf_setState_self hstate .closed)
    · rw [stateOf_setState_ne hdc]
      exact htold.opened dc' ((mem_append.mp hdc').resolve_right (by simp))
  closed dc' hdc' := by
    by_cases hdc : dc = dc'
    · subst hdc
      exact stateOf_setState_self hstate .closed
    · rw [stateOf_setState_ne hdc]
      refine htold.closed dc' ((mem_append.mp hdc').resolve_right fun hnew => ?_)
      cases mem_singleton.mp hnew
      exact hdc rfl
  -- it would be closed if that had been reported
  once := htold.once.concat fun hold =>
    hopen (Option.some.inj (hstate.symm.trans (htold.closed dc hold)))
  settled := settled_setState (by decide) htold.settled

theorem DcManager.stateOf_of_append {more : List DataChannel}
    (hobjects : mgr'.objects = mgr.objects ++ more) (h : mgr.stateOf dc = some state) :
    mgr'.stateOf dc = some state := by
  obtain ⟨c, hc, rfl⟩ := stateOf_eq_some.mp h
  obtain ⟨hlt, -⟩ := List.getElem?_eq_some_iff.mp hc
  rw [stateOf, hobjects, getElem?_append_left hlt, hc, Option.map_some]

theorem DcHistory.Told.grow (htold : h.Told) {more : List DataChannel}
    (hobjects : mgr'.objects = h.mgr.objects ++ more) (hmore : ∀ c ∈ more, c.state ≠ .closing)
    (hquiet : DcQuiet events) : DcHistory.Told ⟨mgr', h.events ++ events⟩ ∧ h.mgr.Forward mgr' := by
  refine ⟨htold.quiet (fun dc state => stateOf_of_append hobjects) ?_ hquiet,
    fun dc state hs => ⟨state, stateOf_of_append hobjects hs, Nat.le_refl _⟩⟩
  intro dc hclosing
  obtain ⟨c, hc, hstate⟩ := stateOf_eq_some.mp hclosing
  rw [hobjects, getElem?_append] at hc
  split at hc
  · exact htold.settled dc (stateOf_eq_some.mpr ⟨c, hc, hstate⟩)
  · exact hmore c (mem_of_getElem? hc) hstate

/-- **A call, if an OPEN comes in time.** -/
theorem DcHistory.Told.step (htold : h.Told) {M M' : Nat → Option Nat}
    {call : DcCall} (heffect : DcEffect h.mgr M call mgr' events M')
    (htime : ∀ dc, call.opens h.mgr = some dc →
      h.mgr.stateOf dc ≠ some .closed ∧ .onOpen dc ∉ h.events) :
    DcHistory.Told ⟨mgr', h.events ++ events⟩ ∧ h.mgr.Forward mgr' := by
  cases heffect with
  | kept hobjects hchannels hquiet =>
    exact htold.grow (hobjects.trans (append_nil _).symm) (forall_mem_nil _) hquiet
  | added c hc hid hobjects hmaps hquiet =>
    exact htold.grow hobjects (forall_mem_singleton.mpr hc) hquiet
  | acked dc hstate =>
    have hfresh : .onOpen dc ∉ h.events := by grind [htold.opened]
    exact ⟨htold.reportOpen hstate (by decide) hfresh,
      forward_setState hstate (by decide)⟩
  | @opened dc state hstate hopens =>
    obtain ⟨hclosed, hfresh⟩ := htime dc hopens
    have hne : state ≠ .closed := fun heq => hclosed (heq ▸ hstate)
    have hle : state.rank ≤ DcState.rank .opened := by
      cases state with
      | connecting => decide
      | opened => decide
      | closing => exact absurd hstate (htold.settled dc)
      | closed => exact absurd rfl hne
    exact ⟨htold.reportOpen hstate hne hfresh, forward_setState hstate hle⟩
  | @closed dc state hstate hopen =>
    have hle : state.rank ≤ DcState.rank .closed := by cases state <;> decide
    exact ⟨htold.reportClose hstate hopen, forward_setState hstate hle⟩

/-- **A run in which every OPEN comes in time.** -/
theorem DcHistory.Told.run {h h' : DcHistory} {M : Nat → Option Nat} (hM : h.mgr.Indexed M)
    (htold : h.Told) {calls : List DcCall} (htime : h.OpensInTime calls)
    (hrun : dcRun h calls = some h') : h'.Told ∧ h.mgr.Forward h'.mgr := by
  induction calls using List.reverseRecOn generalizing h' with
  | nil =>
    cases hrun
    exact ⟨htold, .refl _⟩
  | append_singleton calls call ih =>
    obtain ⟨h₁, M₁, hbefore, hM₁⟩ := dcRun_returns hM calls
    obtain ⟨mgr', events, M', hstep, heffect, -⟩ := hM₁.dcStep call
    cases hrun.symm.trans ((dcRun_concat hbefore call).trans hstep)
    obtain ⟨htold₁, hforward⟩ := ih (fun before call' h₂ hpre => htime before call' h₂
      (hpre.trans (prefix_append calls [call]))) hbefore
    obtain ⟨htold', hforward'⟩ := htold₁.step heffect
      (htime calls call h₁ prefix_rfl hbefore)
    exact ⟨htold', hforward.trans hforward'⟩

theorem DcHistory.OpensInTime.rest {h h₁ : DcHistory} {calls before after : List DcCall}
    (htime : h.OpensInTime calls) (hpre : before ++ after <+: calls)
    (hbefore : dcRun h before = some h₁) : h₁.OpensInTime after := by
  intro mid call h₂ hmid hrun
  refine htime (before ++ mid) call h₂ ?_ ?_
  · rw [append_assoc]
    exact ((prefix_append_right_inj before).mpr hmid).trans hpre
  · rw [dcRun_append, hbefore]
    exact hrun

end LifeCycle

theorem DcHistory.start_told : start.Told where
  opened _ hdc := by cases hdc
  closed _ hdc := by cases hdc
  once _ := ⟨Nat.zero_le _, Nat.zero_le _⟩
  settled _ hdc := by cases hdc

/-- **The channels of a manager live as they should just if no OPEN comes late**: for a channel that
is closed, or that was reported open before. -/
theorem lifeCycle_iff (calls : List DcCall) :
    (∃ h, dcRun .start calls = some h)
      ∧ (start.LifeCycle calls ↔ start.OpensInTime calls) := by
  have hM := start_indexed
  obtain ⟨h', M', hrun, -⟩ := dcRun_returns hM calls
  refine ⟨⟨h', hrun⟩, fun hlife => ?_, fun htime => ⟨?_, ?_⟩⟩
  · intro before call h₁ hpre hbefore dc hopens
    have hstep : dcStep h₁ call
        = some ⟨h₁.mgr.setState dc .opened, h₁.events ++ [.onOpen dc]⟩ := by
      rw [dcStep, dcCall_of_opens hopens, Option.map_some]
    constructor
    · -- a closed channel would go back
      intro hclosed
      have hone : dcRun h₁ [call]
          = some ⟨h₁.mgr.setState dc .opened, h₁.events ++ [.onOpen dc]⟩ :=
        (@dcRun_concat h₁ h₁ [] rfl call).trans hstep
      obtain ⟨state', hstate', hle⟩ :=
        hlife.forward before [call] h₁ _ hpre hbefore hone dc .closed hclosed
      cases hstate'.symm.trans (stateOf_setState_self hclosed .opened)
      exact absurd hle (by decide)
    · -- the callback would be called twice
      intro hold
      obtain ⟨after, rfl⟩ := hpre
      have hsplit := dcRun_append .start (before ++ [call]) after
      rw [hrun, dcRun_concat hbefore, hstep] at hsplit
      have htwice := (dcRun_events hsplit.symm).sublist.count_le (.onOpen dc)
      have honce := (hlife.once h' hrun dc).1
      have hpos := count_pos_iff.mpr hold
      rw [count_append, count_singleton_self] at htwice
      omega
  · intro before after h₁ h₂ hpre hbefore hafter
    have hbefore' : start.OpensInTime before :=
      @DcHistory.OpensInTime.rest _ _ _ [] _ htime
        ((prefix_append before after).trans hpre) rfl
    obtain ⟨htold₁, -⟩ := start_told.run hM hbefore' hbefore
    obtain ⟨h₁', M₁, hbefore₁, hM₁⟩ := dcRun_returns hM before
    cases hbefore.symm.trans hbefore₁
    exact (htold₁.run hM₁ (htime.rest hpre hbefore) hafter).2
  · intro h'' hrun'
    exact (start_told.run hM htime hrun').1.once

def openedThenClosed : List DcCall :=
  [.create true {} [0x61] none, .recv true {} (dcMessage 0 dcMsgAck []),
    .recv true {} (dcMessage 0 dcMsgClose [])]

/-- An OPEN with its id opens it again. -/
theorem lateOpen_reopens :
    (dcRun .start openedThenClosed).map (fun h => (h.mgr.stateOf 0, h.events))
        = some (some .closed, [.onOpen 0, .onClose 0])
      ∧ (dcRun .start (openedThenClosed ++ [.recv true {} (dcMessage 0 dcMsgOpen [])])).map
          (fun h => (h.mgr.stateOf 0, h.events))
        = some (some .opened, [.onOpen 0, .onClose 0, .onOpen 0]) := by
  decide +kernel

end Mrtc
