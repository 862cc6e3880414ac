import Mrtc.Ice.Checks

/-! # Checks that fail (`rtc_transport.c`)

`transport_ice_timer` gives up its handle, sends a check, and arms the timer again just if the check
was sent. `keeps_trying_iff` says when a transport that has started goes on trying.
-/

namespace Mrtc

open Net List IceTransport

/-! ## The return codes -/

def IceTransport.sendCheckRc (t : IceTransport) (fault : IceFault) : Except RtcErr Unit :=
  if t.remoteIce.isNone || t.remoteCandidate.isNone then .error .invalid
  else if !fault.route then .error .nomem
  else if !fault.send then .error .socket
  else .ok ()

def IceTransport.startIceRc (t : IceTransport) (fault : IceFault) : Except RtcErr Unit :=
  if t.mode ≠ .full then .error .invalid
  else if t.selected.isSome then .ok ()
  else t.sendCheckRc fault

/-- The transport needs no more checks. -/
def IceTransport.Settled (t : IceTransport) : Prop :=
  t.closed = true ∨ t.selected.isSome = true ∨ 120 ≤ t.checkCount

def IceTransport.Trying (t : IceTransport) : Prop := t.Settled ∨ t.timer = true

/-- A check of the transport is registered and sent, and its timer is allocated if it is not the
last one. -/
def IceTransport.Retries (t : IceTransport) (fault : IceFault) : Prop :=
  fault.route = true ∧ fault.send = true ∧ (fault.timer = true ∨ 119 ≤ t.checkCount)

def IceTransport.Ready (t : IceTransport) : Prop :=
  t.remoteIce.isSome = true ∧ t.remoteCandidate.isSome = true

/-- The timer of a transport that is not settled can be armed again as it fires. -/
def IceListener.Retries (l : IceListener) (i : Nat) : IceOp → Prop
  | .iceTimer j _ fault => j = i → ∀ t, l.transports[i]? = some t → t.Settled ∨ t.Retries fault
  | _ => True

namespace IceTransport

variable {t t' : IceTransport} {fault : IceFault}

theorem Moves.settled {candidates : List RtcAddr} {checks : List IceCheck}
    (h : t.Moves candidates checks t') (hsettled : t.Settled) : t'.Settled := by
  rcases hsettled with hclosed | hselected | hcount
  · refine .inl ?_
    by_contra hopen
    cases hclosed.symm.trans (h.closed (Bool.eq_false_of_not_eq_true hopen))
  · refine .inr (.inl ?_)
    by_contra hnone
    rw [h.selected (Option.not_isSome_iff_eq_none.mp hnone)] at hselected
    cases hselected
  · refine .inr (.inr ?_)
    rw [h.count]
    omega

theorem sendCheck_ready (h : t.Ready) (txn : Bytes) (fault : IceFault) :
    (t.sendCheck txn fault).Ready := by
  unfold sendCheck
  split
  · exact h
  · split
    · split
      · rw [transportArmIceTimer_eq]
        exact h
      · exact h
    · exact h

theorem step_ready (h : t.Ready) (op : IceOp) : (t.step op).Ready := by
  cases op with
  | create | restartIce | packet | close | teardown =>
    dsimp only [step, receive]
    repeat' split
    all_goals exact h
  | setRemoteIce j ufrag pwd =>
    rw [step]
    split
    · exact h
    · exact ⟨rfl, h.2⟩
  | addCandidate j addr => exact ⟨h.1, rfl⟩
  | startIce j txn fault =>
    rw [step]
    split
    · exact h
    · exact sendCheck_ready h txn fault
  | iceTimer j txn fault =>
    rw [step]
    split
    · exact h
    · split
      · exact h
      · exact sendCheck_ready (t := { t with timer := false }) h txn fault

theorem Ready.built (h : t.Ready) :
    ¬ (t.remoteIce.isNone || t.remoteCandidate.isNone) = true := by
  simp [Option.isNone_eq_false_iff.mpr h.1, Option.isNone_eq_false_iff.mpr h.2]

theorem sendCheck_timer (htimer : t.timer = true) (txn : Bytes) (fault : IceFault) :
    (t.sendCheck txn fault).timer = true := by
  unfold sendCheck
  split
  · exact htimer
  · split
    · split
      · rw [transportArmIceTimer_eq]
        simp [htimer]
      · exact htimer
    · exact htimer

theorem sendCheck_trying_iff (h : t.Ready) (hopen : ¬ t.Settled) (txn : Bytes)
    (fault : IceFault) : (t.sendCheck txn fault).Trying
      ↔ t.timer = true ∧ ¬ (fault.route = true ∧ fault.send = true)
        ∨ fault.route = true ∧ fault.send = true
          ∧ (t.timer = true ∨ fault.timer = true ∨ 119 ≤ t.checkCount) := by
  rw [sendCheck, if_neg h.built]
  simp only [IceTransport.Settled, not_or, Bool.not_eq_true] at hopen
  obtain ⟨hclosed, hselected, hcount⟩ := hopen
  obtain ⟨route, alloc, send⟩ := fault
  cases route with
  | false => simp [IceTransport.Trying, IceTransport.Settled, hclosed, hselected, hcount]
  | true =>
    cases send with
    | false => simp [IceTransport.Trying, IceTransport.Settled, hclosed, hselected, hcount]
    | true =>
      simp only [if_true, transportArmIceTimer_eq, IceTransport.Trying, IceTransport.Settled]
      simp only [hclosed, hselected]
      grind

theorem receive_trying {msg : StunMsg} {source : RtcAddr} (htimer : t.timer = true) :
    (t.receive msg source).Trying := by
  have hselected : (t.selected.or (some source)).isSome = true := by
    cases t.selected <;> rfl
  unfold receive
  split
  · split
    · exact .inr htimer
    · exact .inl (.inr (.inl hselected))
  · split
    · exact .inr htimer
    · exact .inr htimer

/-- **Nothing but a firing takes the timer from a transport that needs it.** -/
theorem step_trying (htimer : t.timer = true) {op : IceOp}
    (hop : ∀ j txn fault, op ≠ .iceTimer j txn fault) : (t.step op).Trying := by
  cases op with
  | create | addCandidate => exact .inr htimer
  | setRemoteIce j ufrag pwd =>
    rw [step]
    split <;> exact .inr htimer
  | startIce j txn fault =>
    rw [step]
    split
    · exact .inr htimer
    · exact .inr (sendCheck_timer htimer txn fault)
  | iceTimer j txn fault => exact absurd rfl (hop j txn fault)
  | restartIce j random alloc =>
    dsimp only [step]
    split
    · exact .inr htimer
    · cases random <;> exact .inr htimer
  | packet data source alloc =>
    rw [step]
    split
    · exact .inr htimer
    · split
      · exact .inr htimer
      · exact receive_trying htimer
  | close j => exact .inl (.inl rfl)
  | teardown j =>
    rw [step]
    split
    · exact .inr htimer
    · rename_i hstop
      simp only [Bool.or_eq_true, not_or, Bool.not_eq_true', Bool.not_eq_false] at hstop
      exact .inl (.inl hstop.1)

theorem iceTimer_trying_iff (h : t.Ready) (hopen : ¬ t.Settled)
    (htimer : t.timer = true) (j : Nat) (txn : Bytes) :
    (t.step (.iceTimer j txn fault)).Trying ↔ t.Retries fault := by
  have hstop : ¬ (t.closed || t.selected.isSome || decide (120 ≤ t.checkCount)) = true := by
    simpa [IceTransport.Settled, or_assoc] using hopen
  rw [step, if_neg (by simp [htimer]), if_neg hstop,
    sendCheck_trying_iff (t := { t with timer := false }) h hopen]
  simp [IceTransport.Retries]

theorem startIceRc_ok (h : t.startIceRc fault = .ok ()) :
    (t.Settled ∨ t.Ready) ∧ ∀ i txn, ¬ t.Settled → ((t.step (.startIce i txn fault)).Trying
      ↔ t.timer = true ∨ fault.timer = true ∨ 119 ≤ t.checkCount) := by
  unfold startIceRc at h
  split at h
  · cases h
  rename_i hmode
  split at h
  · rename_i hselected
    exact ⟨.inl (.inr (.inl hselected)), fun i txn hopen => absurd (.inr (.inl hselected)) hopen⟩
  rename_i hselected
  unfold sendCheckRc at h
  split at h
  · cases h
  rename_i hbuilt
  split at h
  · cases h
  rename_i hroute
  split at h
  · cases h
  rename_i hsend
  have hready : t.Ready := by
    simp only [Bool.or_eq_true, not_or, Option.isNone_iff_eq_none, ← Option.isSome_iff_ne_none]
      at hbuilt
    exact hbuilt
  have hguard : ¬ (t.mode ≠ .full ∨ t.selected.isSome = true) := by
    rw [not_or]
    exact ⟨hmode, hselected⟩
  refine ⟨.inr hready, fun i txn hopen => ?_⟩
  rw [step, if_neg hguard, sendCheck_trying_iff hready hopen]
  simp only [Bool.not_eq_true', Bool.not_eq_false] at hroute hsend
  simp [hroute, hsend]

end IceTransport

/-! ## Runs -/

section Run

variable {l : IceListener} {i : Nat} {t : IceTransport}

theorem iceStep_settled (ht : l.transports[i]? = some t) (hsettled : t.Settled) (op : IceOp)
    {t' : IceTransport} (ht' : (iceStep l op).transports[i]? = some t') : t'.Settled := by
  obtain ⟨u, hu, hmoves⟩ := iceStep_moves ht op
  cases hu.symm.trans ht'
  exact hmoves.settled hsettled

theorem iceStep_trying_iff (ht : l.transports[i]? = some t) (h : t.Settled ∨ t.Ready)
    (htrying : t.Trying) (op : IceOp) {t' : IceTransport}
    (ht' : (iceStep l op).transports[i]? = some t') :
    (t'.Settled ∨ t'.Ready) ∧ (t'.Trying ↔ l.Retries i op) := by
  by_cases hsettled : t.Settled
  · have hsettled' := iceStep_settled ht hsettled op ht'
    refine ⟨.inl hsettled', iff_of_true (.inl hsettled') ?_⟩
    cases op with
    | iceTimer j txn fault =>
      intro _ u hu
      cases ht.symm.trans hu
      exact .inl hsettled
    | _ => trivial
  have hready := h.resolve_left hsettled
  have htimer := htrying.resolve_left hsettled
  cases (iceStep_getElem? ht op).symm.trans ht'
  by_cases hfor : l.addressee op = some i
  · rw [if_pos hfor]
    refine ⟨.inr (step_ready hready op), ?_⟩
    cases op with
    | iceTimer j txn fault =>
      obtain rfl : j = i := Option.some.inj hfor
      rw [iceTimer_trying_iff hready hsettled htimer]
      simp [IceListener.Retries, ht, hsettled]
    | _ => exact iff_of_true (step_trying htimer (by simp)) trivial
  · rw [if_neg hfor]
    refine ⟨.inr hready, iff_of_true htrying ?_⟩
    cases op with
    | iceTimer j txn fault => exact fun hj => absurd (congrArg some hj) hfor
    | _ => trivial

/-- **A transport that is trying goes on if and only if each firing arms the timer again.** -/
theorem iceRun_trying_iff (ht : l.transports[i]? = some t) (h : t.Settled ∨ t.Ready)
    (htrying : t.Trying) (ops : List IceOp) :
    (∀ done, done <+: ops → ∀ t', (iceRun l done).transports[i]? = some t' → t'.Trying)
      ↔ ∀ done op, done ++ [op] <+: ops → (iceRun l done).Retries i op := by
  induction ops generalizing l t with
  | nil =>
    refine iff_of_true (fun done hdone t' ht' => ?_) fun done op hdone => ?_
    · rw [prefix_nil] at hdone
      subst hdone
      cases ht.symm.trans ht'
      exact htrying
    · simp at hdone
  | cons op ops ih =>
    obtain ⟨u, hu, -⟩ := iceStep_moves ht op
    obtain ⟨hu', hstep⟩ := iceStep_trying_iff ht h htrying op hu
    constructor
    · intro hall
      have hnow : u.Trying := hall [op] (by simp) u hu
      have hrest := (ih hu hu' hnow).mp fun done hdone =>
        hall (op :: done) (cons_prefix_cons.mpr ⟨rfl, hdone⟩)
      rintro (_ | ⟨first, done⟩) op' hdone
      · obtain ⟨rfl, -⟩ := cons_prefix_cons.mp hdone
        exact hstep.mp hnow
      · obtain ⟨rfl, hlater⟩ := cons_prefix_cons.mp hdone
        exact hrest done op' hlater
    · intro hall
      have hnow : u.Trying := hstep.mpr (hall [] op (by simp))
      have hrest := (ih hu hu' hnow).mpr fun done op' hdone =>
        hall (op :: done) op' (cons_prefix_cons.mpr ⟨rfl, hdone⟩)
      rintro (_ | ⟨first, done⟩) hdone t' ht'
      · cases ht.symm.trans ht'
        exact htrying
      · obtain ⟨rfl, hlater⟩ := cons_prefix_cons.mp hdone
        exact hrest done hlater t' ht'

end Run

/-- **A transport that has started is settled or has its timer armed, at every time, if and only if
the timer is armed at the start and each firing before it is settled can arm it again.** -/
theorem keeps_trying_iff {l : IceListener} {i : Nat} {t : IceTransport}
    (ht : l.transports[i]? = some t) {fault : IceFault} (hok : t.startIceRc fault = .ok ())
    (txn : Bytes) (ops : List IceOp) :
    (∀ done, done <+: ops → ∀ t',
        (iceRun (iceStep l (.startIce i txn fault)) done).transports[i]? = some t' → t'.Trying)
      ↔ (t.Settled ∨ t.timer = true ∨ fault.timer = true ∨ 119 ≤ t.checkCount)
        ∧ ∀ done op, done ++ [op] <+: ops →
          (iceRun (iceStep l (.startIce i txn fault)) done).Retries i op := by
  obtain ⟨hbegun, hstart⟩ := startIceRc_ok hok
  have hu := (iceStep_getElem? ht (.startIce i txn fault)).trans (congrArg some (if_pos rfl))
  have htrying : (t.step (.startIce i txn fault)).Trying
      ↔ t.Settled ∨ t.timer = true ∨ fault.timer = true ∨ 119 ≤ t.checkCount := by
    by_cases hsettled : t.Settled
    · exact iff_of_true (.inl (iceStep_settled ht hsettled _ hu)) (.inl hsettled)
    · rw [hstart i txn hsettled, or_iff_right hsettled]
  have hbegun' := hbegun.imp (iceStep_settled ht · _ hu)
    (step_ready · (.startIce i txn fault))
  rw [← htrying]
  constructor
  · intro hall
    have hnow := hall [] nil_prefix _ hu
    exact ⟨hnow, (iceRun_trying_iff hu hbegun' hnow ops).mp hall⟩
  · rintro ⟨hnow, hall⟩
    exact (iceRun_trying_iff hu hbegun' hnow ops).mpr hall

def startedWith (ops : List IceOp) : IceListener :=
  iceRun (iceStep (iceRun oneTransport (givenCandidates [hostAddr 5000])) (.startIce 0 (txnOf 0) {}))
    ops

theorem sentChecks_keep_trying :
    ∃ t', (startedWith [.iceTimer 0 (txnOf 1) {}]).transports[0]? = some t' ∧ t'.Trying := by
  have hiff := @keeps_trying_iff (iceRun oneTransport (givenCandidates [hostAddr 5000])) 0 _ rfl {}
    (by decide +kernel) (txnOf 0) [.iceTimer 0 (txnOf 1) {}]
  refine ⟨_, rfl, hiff.mpr ⟨.inr (.inr (.inl rfl)), fun done op hdone => ?_⟩ _ prefix_rfl _ rfl⟩
  obtain rfl : done = [] := by
    simpa using hdone.length_le
  obtain ⟨rfl, -⟩ := cons_prefix_cons.mp hdone
  exact fun _ t _ => .inr ⟨rfl, rfl, .inl rfl⟩

/-- The first check is sent and the second one is not, for the socket's buffer is full. -/
theorem fullSocket_stops_trying :
    (iceRun oneTransport (givenCandidates [hostAddr 5000])).transports[0]?.map
        (fun t => t.startIceRc {}) = some (.ok ())
      ∧ (startedWith [.iceTimer 0 (txnOf 1) { send := false }]).transports[0]?.map
        (fun t => (t.closed, t.selected, t.checkCount, t.timer)) = some (false, none, 1, false)
      ∧ iceChecks (startedWith [.iceTimer 0 (txnOf 1) { send := false }])
        [.iceTimer 0 (txnOf 2) {}, .iceTimer 0 (txnOf 3) {}] = [] := by
  refine ⟨?_, ?_, ?_⟩ <;> decide +kernel

end Mrtc
