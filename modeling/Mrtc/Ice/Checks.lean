import Mrtc.Ice.Routes

/-! # Connectivity checks (`rtc_transport.c`)

A transport has one remote candidate, the one it was given last, and one outstanding check, the one
it sent last: a new check takes the transaction id of the one before off the listener's table.
-/

namespace Mrtc

open Net List IceTransport

/-! ## The checks of a run -/

def IceCheck.sent (c : IceCheck) : Bool := c.fault.route && c.fault.send

def IceCheck.outstanding (c : IceCheck) : Option Bytes := if c.fault.route then some c.txn else none

def iceCheck (l : IceListener) (op : IceOp) : Option IceCheck :=
  (l.addressee op).bind fun i => (l.transports[i]?).bind fun t => t.check i op

def iceChecks : IceListener → List IceOp → List IceCheck
  | _, [] => []
  | l, op :: ops => (iceCheck l op).toList ++ iceChecks (iceStep l op) ops

def checksOf (i : Nat) (checks : List IceCheck) : List IceCheck :=
  checks.filter fun c => c.transport = i

def IceOp.candidate : IceOp → Option RtcAddr
  | .addCandidate _ addr => some addr
  | _ => none

open IceOp

/-- How a transport goes on, with the candidates it is given and the checks it builds: the candidate
is the last one, and so is the outstanding transaction while it is open and has no remote. -/
structure IceTransport.Moves (t : IceTransport) (candidates : List RtcAddr)
    (checks : List IceCheck) (t' : IceTransport) : Prop where
  candidate : t'.remoteCandidate = candidates.getLast?.or t.remoteCandidate
  target : candidates = [] → ∀ c ∈ checks, t.remoteCandidate = some c.target
  count : t'.checkCount = t.checkCount + (checks.filter IceCheck.sent).length
  selected : t'.selected = none → t.selected = none
  closed : t'.closed = false → t.closed = false
  txn : t'.selected = none → t'.closed = false →
    t'.txn = checks.getLast?.elim t.txn IceCheck.outstanding

section Moves

variable {t t' : IceTransport}

theorem IceTransport.Moves.quiet (hcandidate : t'.remoteCandidate = t.remoteCandidate)
    (hcount : t'.checkCount = t.checkCount) (hselected : t'.selected = t.selected)
    (hclosed : t'.closed = false → t.closed = false) (htxn : t'.closed = false → t'.txn = t.txn) :
    t.Moves [] [] t' where
  candidate := hcandidate
  target := by simp
  count := hcount
  selected h := hselected ▸ h
  closed := hclosed
  txn _ := htxn

theorem IceTransport.sendCheck_moves (t : IceTransport) (i : Nat) (txn : Bytes)
    (fault : IceFault) : t.Moves [] (t.checkNow i txn fault).toList (t.sendCheck txn fault) := by
  obtain ⟨mode, ufrag, pwd, _ | ice, _ | target, selected, old, armed, count, closed, torn⟩ := t
  · exact .quiet rfl rfl rfl id fun _ => rfl
  · exact .quiet rfl rfl rfl id fun _ => rfl
  · exact .quiet rfl rfl rfl id fun _ => rfl
  · have htarget : ([] : List RtcAddr) = [] → ∀ c ∈ [(⟨i, target, txn, fault⟩ : IceCheck)],
        some target = some c.target := by
      intro _ c hc
      rw [mem_singleton.mp hc]
    obtain ⟨route, timer, send⟩ := fault
    cases route with
    | false => exact ⟨rfl, htarget, rfl, id, id, fun _ _ => rfl⟩
    | true =>
      cases send with
      | false => exact ⟨rfl, htarget, rfl, id, id, fun _ _ => rfl⟩
      | true =>
        -- the timer is armed, unless it is already
        show IceTransport.Moves _ _ [_] (transportArmIceTimer _ timer)
        unfold transportArmIceTimer
        split
        · exact ⟨rfl, htarget, rfl, id, id, fun _ _ => rfl⟩
        · split <;> exact ⟨rfl, htarget, rfl, id, id, fun _ _ => rfl⟩

theorem IceTransport.receive_moves (t : IceTransport) (msg : StunMsg) (source : RtcAddr) :
    t.Moves [] [] (t.receive msg source) := by
  have hselected : t.selected.or (some source) ≠ none := by
    cases t.selected <;> simp
  unfold receive
  split
  · split
    · exact .quiet rfl rfl rfl id fun _ => rfl
    · exact ⟨rfl, by simp, rfl, fun h => absurd h hselected, id, fun h => absurd h hselected⟩
  · split
    · exact .quiet rfl rfl rfl id fun _ => rfl
    · exact ⟨rfl, by simp, rfl, fun h => absurd h hselected, id, fun h => absurd h hselected⟩

/-- **How a transport goes on in an operation that is for it.** -/
theorem IceTransport.step_moves (t : IceTransport) (i : Nat) (op : IceOp) :
    t.Moves op.candidate.toList (t.check i op).toList (t.step op) := by
  cases op with
  | create => exact .quiet rfl rfl rfl id fun _ => rfl
  | setRemoteIce j ufrag pwd =>
    rw [step]
    split <;> exact .quiet rfl rfl rfl id fun _ => rfl
  | addCandidate j addr => exact ⟨rfl, by simp [candidate], rfl, id, id, fun _ _ => rfl⟩
  | startIce j txn fault =>
    rw [step, check]
    by_cases hguard : t.mode ≠ .full ∨ t.selected.isSome = true
    · rw [if_pos hguard, if_pos hguard]
      exact .quiet rfl rfl rfl id fun _ => rfl
    · rw [if_neg hguard, if_neg hguard]
      exact t.sendCheck_moves i txn fault
  | iceTimer j txn fault =>
    rw [step, check]
    by_cases hidle : (!t.timer) = true
    · rw [if_pos hidle, if_pos hidle]
      exact .quiet rfl rfl rfl id fun _ => rfl
    · rw [if_neg hidle, if_neg hidle]
      by_cases hstop : (t.closed || t.selected.isSome || decide (120 ≤ t.checkCount)) = true
      · rw [if_pos hstop, if_pos hstop]
        exact .quiet rfl rfl rfl id fun _ => rfl
      · rw [if_neg hstop, if_neg hstop]
        have hsend := sendCheck_moves { t with timer := false } i txn fault
        exact ⟨hsend.candidate, hsend.target, hsend.count, hsend.selected, hsend.closed, hsend.txn⟩
  | restartIce j random alloc =>
    dsimp only [step]
    split
    · exact .quiet rfl rfl rfl id fun _ => rfl
    · cases random <;> exact .quiet rfl rfl rfl id fun _ => rfl
  | packet data source alloc =>
    rw [step]
    split
    · exact .quiet rfl rfl rfl id fun _ => rfl
    · split
      · exact .quiet rfl rfl rfl id fun _ => rfl
      · exact t.receive_moves _ source
  -- of a transport that is closed nothing is said about its transaction
  | close j => exact .quiet rfl rfl rfl (fun h => by cases h) fun h => by cases h
  | teardown j =>
    rw [step]
    split
    · exact .quiet rfl rfl rfl id fun _ => rfl
    · rename_i hclosing
      have hclosed : t.closed = true := by grind
      refine .quiet rfl rfl rfl id fun hopen => ?_
      cases hclosed.symm.trans hopen

theorem IceTransport.Moves.trans {t'' : IceTransport} {candidates candidates' : List RtcAddr}
    {checks checks' : List IceCheck} (h : t.Moves candidates checks t')
    (h' : t'.Moves candidates' checks' t'') :
    t.Moves (candidates ++ candidates') (checks ++ checks') t'' where
  candidate := by
    rw [h'.candidate, h.candidate, getLast?_append, Option.or_assoc]
  target hnone c hc := by
    obtain ⟨rfl, rfl⟩ := append_eq_nil_iff.mp hnone
    rcases mem_append.mp hc with hc | hc
    · exact h.target rfl c hc
    · -- no candidate was added before it, so it is still the first one
      exact h.candidate.symm.trans (h'.target rfl c hc)
  count := by
    rw [h'.count, h.count, filter_append, length_append, Nat.add_assoc]
  selected hnone := h.selected (h'.selected hnone)
  closed hopen := h.closed (h'.closed hopen)
  txn hnone hopen := by
    rw [h'.txn hnone hopen, h.txn (h'.selected hnone) (h'.closed hopen), getLast?_append]
    cases checks'.getLast? <;> rfl

end Moves

/-! ## Runs -/

def IceOp.candidateFor (i : Nat) : IceOp → Option RtcAddr
  | .addCandidate j addr => if j = i then some addr else none
  | _ => none

theorem IceTransport.check_transport {t : IceTransport} {i : Nat} {op : IceOp} {c : IceCheck}
    (h : t.check i op = some c) : c.transport = i := by
  have hnow : ∀ txn fault, t.checkNow i txn fault = some c → c.transport = i := by
    grind [checkNow, Option.map_eq_some_iff]
  cases op with
  | startIce j txn fault =>
    rw [check] at h
    split at h
    · cases h
    · exact hnow txn fault h
  | iceTimer j txn fault => grind [check]
  | create | setRemoteIce | addCandidate | restartIce | packet | close | teardown => cases h

section Run

variable {l : IceListener} {i : Nat} {t : IceTransport} {op : IceOp}

theorem iceCheck_of_addressee (ht : l.transports[i]? = some t) (hfor : l.addressee op = some i) :
    iceCheck l op = t.check i op := by
  rw [iceCheck, hfor, Option.bind_some, ht, Option.bind_some]

theorem iceCheck_transport {c : IceCheck} (h : iceCheck l op = some c) :
    l.addressee op = some c.transport ∧ ∃ u, l.transports[c.transport]? = some u := by
  obtain ⟨j, hj, hcheck⟩ := Option.bind_eq_some_iff.mp h
  obtain ⟨u, hu, hcheck⟩ := Option.bind_eq_some_iff.mp hcheck
  rw [check_transport hcheck]
  exact ⟨hj, u, hu⟩

theorem checksOf_iceCheck_eq_nil (h : ∀ c, iceCheck l op = some c → c.transport ≠ i) :
    checksOf i (iceCheck l op).toList = [] := by
  rw [checksOf, filter_eq_nil_iff]
  intro c hc
  rw [decide_eq_true_eq]
  exact h c (Option.mem_toList.mp hc)

theorem checksOf_of_addressee (ht : l.transports[i]? = some t) (hfor : l.addressee op = some i) :
    checksOf i (iceCheck l op).toList = (t.check i op).toList := by
  rw [iceCheck_of_addressee ht hfor, checksOf, filter_eq_self]
  intro c hc
  exact decide_eq_true (check_transport (Option.mem_toList.mp hc))

theorem checksOf_of_not_addressee (hfor : l.addressee op ≠ some i) :
    checksOf i (iceCheck l op).toList = [] := by
  refine checksOf_iceCheck_eq_nil fun c hc => ?_
  rintro rfl
  exact hfor (iceCheck_transport hc).1

theorem checksOf_iceChecks_cons (l : IceListener) (i : Nat) (op : IceOp) (ops : List IceOp) :
    checksOf i (iceChecks l (op :: ops))
      = checksOf i (iceCheck l op).toList ++ checksOf i (iceChecks (iceStep l op) ops) :=
  filter_append ..

theorem iceStep_moves (ht : l.transports[i]? = some t) (op : IceOp) :
    ∃ t', (iceStep l op).transports[i]? = some t'
      ∧ t.Moves (op.candidateFor i).toList (checksOf i (iceCheck l op).toList) t' := by
  refine ⟨_, iceStep_getElem? ht op, ?_⟩
  by_cases hfor : l.addressee op = some i
  · have hcandidate : op.candidateFor i = op.candidate := by
      cases op with
      | addCandidate j addr =>
        cases hfor
        exact if_pos rfl
      | create | setRemoteIce | startIce | iceTimer | restartIce | packet | close | teardown => rfl
    rw [if_pos hfor, checksOf_of_addressee ht hfor, hcandidate]
    exact t.step_moves i op
  · have hcandidate : op.candidateFor i = none := by
      cases op with
      | addCandidate j addr => exact if_neg fun hji => hfor (congrArg some hji)
      | create | setRemoteIce | startIce | iceTimer | restartIce | packet | close | teardown => rfl
    rw [if_neg hfor, checksOf_of_not_addressee hfor, hcandidate]
    exact .quiet rfl rfl rfl id fun _ => rfl

/-- **How a transport goes on in a run.** -/
theorem iceRun_moves (ht : l.transports[i]? = some t) (ops : List IceOp) :
    ∃ t', (iceRun l ops).transports[i]? = some t'
      ∧ t.Moves (ops.filterMap (candidateFor i)) (checksOf i (iceChecks l ops)) t' := by
  induction ops generalizing l t with
  | nil => exact ⟨t, ht, .quiet rfl rfl rfl id fun _ => rfl⟩
  | cons op ops ih =>
    obtain ⟨t', ht', hstep⟩ := iceStep_moves ht op
    obtain ⟨t'', ht'', hrun⟩ := ih ht'
    refine ⟨t'', ht'', ?_⟩
    have hcandidates : (op :: ops).filterMap (candidateFor i)
        = (op.candidateFor i).toList ++ ops.filterMap (candidateFor i) := by
      rw [filterMap_cons]
      cases op.candidateFor i <;> rfl
    rw [hcandidates, checksOf_iceChecks_cons]
    exact hstep.trans hrun

end Run

/-! ## Every candidate is tried -/

/-- **Every candidate is tried just if they are all the last one.** -/
theorem candidates_tried_iff {l : IceListener} {i : Nat} {t : IceTransport}
    (ht : l.transports[i]? = some t) (hfresh : t.checkCount = 0) {before after : List IceOp}
    (hquiet : checksOf i (iceChecks l before) = [])
    (hgiven : after.filterMap (candidateFor i) = []) {t' : IceTransport}
    (ht' : (iceRun (iceRun l before) after).transports[i]? = some t')
    (hdone : 120 ≤ t'.checkCount) :
    (∀ addr ∈ before.filterMap (candidateFor i),
        ∃ c ∈ checksOf i (iceChecks (iceRun l before) after), c.sent = true ∧ c.target = addr)
      ↔ ∀ addr ∈ before.filterMap (candidateFor i),
        (before.filterMap (candidateFor i)).getLast? = some addr := by
  obtain ⟨u, hu, hbefore⟩ := iceRun_moves ht before
  obtain ⟨u', hu', hafter⟩ := iceRun_moves hu after
  cases ht'.symm.trans hu'
  rw [hquiet] at hbefore
  -- a check was sent, or the count would not have grown
  obtain ⟨c, hc⟩ :
      ∃ c, c ∈ (checksOf i (iceChecks (iceRun l before) after)).filter IceCheck.sent := by
    refine exists_mem_of_length_pos ?_
    have hcount := hafter.count
    rw [hbefore.count, hfresh] at hcount
    simp only [filter_nil, length_nil] at hcount
    omega
  obtain ⟨hc, hsent⟩ := mem_filter.mp hc
  -- and every check went to the last candidate
  have htarget : ∀ addr ∈ before.filterMap (candidateFor i),
      ∀ c ∈ checksOf i (iceChecks (iceRun l before) after),
        (before.filterMap (candidateFor i)).getLast? = some c.target := by
    intro addr haddr c hc
    have hlast := hafter.target hgiven c hc
    rw [hbefore.candidate] at hlast
    cases hcandidates : (before.filterMap (candidateFor i)).getLast? with
    | none =>
      rw [getLast?_eq_none_iff.mp hcandidates] at haddr
      cases haddr
    | some last =>
      rw [hcandidates] at hlast
      exact hlast
  constructor
  · grind
  · grind

def oneTransport : IceListener := iceStep {} (.create .full [0x61] [0x70] true)

def txnOf (n : Nat) : Bytes := replicate 11 0 ++ [UInt8.ofNat n]

def givenCandidates (addrs : List RtcAddr) : List IceOp :=
  .setRemoteIce 0 [0x62] [0x71] :: addrs.map (.addCandidate 0)

def untilGivenUp : List IceOp :=
  .startIce 0 (txnOf 0) {} :: (range 120).map fun n => .iceTimer 0 (txnOf (n + 1)) {}

theorem oneCandidate_tried :
    ∃ c ∈ checksOf 0 (iceChecks (iceRun oneTransport (givenCandidates [hostAddr 5000])) untilGivenUp),
      c.sent = true ∧ c.target = hostAddr 5000 := by
  have hcount : (iceRun (iceRun oneTransport (givenCandidates [hostAddr 5000]))
      untilGivenUp).transports[0]?.map checkCount = some 120 := by decide +kernel
  obtain ⟨t', ht', hdone⟩ := Option.map_eq_some_iff.mp hcount
  have hquiet : checksOf 0 (iceChecks oneTransport (givenCandidates [hostAddr 5000])) = [] := by
    decide +kernel
  have hiff := candidates_tried_iff rfl rfl hquiet (by decide +kernel) ht' (Nat.le_of_eq hdone.symm)
  exact hiff.mpr (by decide +kernel) (hostAddr 5000) (by decide +kernel)

/-- Of two candidates the first one is given up untried. -/
theorem twoCandidates_not_tried :
    (checksOf 0 (iceChecks (iceRun oneTransport (givenCandidates [hostAddr 5000, hostAddr 5001]))
        untilGivenUp)).map (fun c => (c.sent, c.target)) = replicate 120 (true, hostAddr 5001)
      ∧ (iceRun (iceRun oneTransport (givenCandidates [hostAddr 5000, hostAddr 5001]))
        untilGivenUp).transports[0]?.map (fun t => (t.checkCount, t.timer)) = some (120, false) := by
  constructor <;> decide +kernel

end Mrtc
