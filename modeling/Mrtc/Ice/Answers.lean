import Mrtc.Ice.Checks

/-! # Answers to connectivity checks (`rtc_transport.c`, `rtc_listener.c`)

A transport has one outstanding check.
-/

namespace Mrtc

open Net List IceListener

/-! ## The table of transactions -/

section Txn

variable {l l' : IceListener} {i : Nat} {t : IceTransport} {op : IceOp}

def IceListener.transactions (l : IceListener) : List (Option Bytes) :=
  l.transports.map IceTransport.txn

structure IceListener.OwnsTxns (l : IceListener) (used : List Bytes) : Prop where
  routes : Directory.Exact l.txns l.transactions
  used : ∀ txn, some txn ∈ l.transactions → txn ∈ used

theorem TxnChange.exact {txns txns' : Bytes → Option Nat} {check : Option IceCheck}
    {old new : Option Bytes} {keys : List (Option Bytes)} (h : TxnChange txns i check old new txns')
    (hexact : Directory.Exact txns keys) (hi : keys[i]? = some old)
    (hfresh : ∀ c ∈ check, some c.txn ∉ keys) : Directory.Exact txns' (keys.set i new) := by
  cases h with
  | same => rwa [← eq_set_self hi]
  | released => exact hexact.release hi
  | assigned c hc => exact hexact.assign hi fun j _ hj => hfresh c hc (mem_of_getElem? hj)

theorem TxnChange.used {txns txns' : Bytes → Option Nat} {check : Option IceCheck}
    {old : Option Bytes} {txn : Bytes} (h : TxnChange txns i check old (some txn) txns') :
    old = some txn ∨ ∃ c ∈ check, c.txn = txn := by
  cases h with
  | same => exact .inl rfl
  | assigned c hc => exact .inr ⟨c, hc, rfl⟩

theorem IceEffect.ownsTxns {used : List Bytes} (heffect : IceEffect l op l') (h : l.OwnsTxns used)
    (hfresh : ∀ c ∈ iceCheck l op, c.txn ∉ used) :
    l'.OwnsTxns (used ++ (iceCheck l op).toList.map IceCheck.txn) := by
  have hused : ∀ txn, some txn ∈ l.transactions →
      txn ∈ used ++ (iceCheck l op).toList.map IceCheck.txn :=
    fun txn htxn => mem_append_left _ (h.used txn htxn)
  cases heffect with
  | nothing => exact ⟨h.routes, hused⟩
  | created t hafter htuples htxns hnew =>
    have hkeys : l'.transactions = l.transactions ++ [none] := by
      rw [transactions, hafter, map_append, map_singleton, hnew.2.2]
      rfl
    refine ⟨?_, fun txn htxn => hused txn (by simpa [hkeys] using htxn)⟩
    rw [htxns, hkeys]
    exact h.routes.append_none
  | @stepped _ i t t' hfor ht hstep hafter htxns =>
    have hi : l.transactions[i]? = some t.txn := by
      rw [transactions, getElem?_map, ht, Option.map_some]
    have hkeys : l'.transactions = l.transactions.set i t'.txn := by
      rw [transactions, hafter, map_set]
      rfl
    rw [← iceCheck_of_addressee ht hfor] at htxns
    refine ⟨?_, fun txn htxn => ?_⟩
    · rw [hkeys]
      exact htxns.exact h.routes hi fun c hc hmem => hfresh c hc (h.used c.txn hmem)
    · rw [hkeys] at htxn
      rcases mem_or_eq_of_mem_set htxn with hold | hnew
      · exact hused txn hold
      · rw [← hnew] at htxns
        rcases htxns.used with hold | ⟨c, hc, rfl⟩
        · exact hused txn (mem_of_getElem? (hold ▸ hi))
        · exact mem_append_right _ (mem_map_of_mem (Option.mem_toList.mpr hc))

theorem iceRun_ownsTxns {used : List Bytes} {ops : List IceOp} (h : l.OwnsTxns used)
    (hfresh : (used ++ (iceChecks l ops).map IceCheck.txn).Nodup) :
    (iceRun l ops).OwnsTxns (used ++ (iceChecks l ops).map IceCheck.txn) := by
  induction ops generalizing l used with
  | nil => rwa [iceChecks, map_nil, append_nil]
  | cons op ops ih =>
    rw [iceChecks, map_append, ← append_assoc] at hfresh ⊢
    refine ih ((iceStep_effect l op).ownsTxns h fun c hc hused => ?_) hfresh
    have hdisjoint := disjoint_of_nodup_append (nodup_append.mp hfresh).1
    exact hdisjoint hused (mem_map_of_mem (Option.mem_toList.mpr hc))

theorem IceEffect.txn_of_created (heffect : IceEffect l op l') (hnone : l.transports[i]? = none)
    (ht : l'.transports[i]? = some t) : t.txn = none := by
  cases heffect with
  | nothing => cases hnone.symm.trans ht
  | created u hafter htuples htxns hfresh => grind
  | stepped hfor hu hstep hafter => grind

end Txn

/-! ## The last check -/

theorem iceRun_created {l : IceListener} {i : Nat} {t : IceTransport} {ops : List IceOp}
    (hnone : l.transports[i]? = none) (ht : (iceRun l ops).transports[i]? = some t) :
    ∃ (t₀ : IceTransport) (candidates : List RtcAddr), t₀.txn = none
      ∧ t₀.Moves candidates (checksOf i (iceChecks l ops)) t := by
  induction ops generalizing l with
  | nil => cases hnone.symm.trans ht
  | cons op ops ih =>
    have hcheck : checksOf i (iceCheck l op).toList = [] := by
      refine checksOf_iceCheck_eq_nil fun c hc => ?_
      obtain ⟨-, u, hu⟩ := iceCheck_transport hc
      rintro rfl
      cases hnone.symm.trans hu
    have hchecks : checksOf i (iceChecks l (op :: ops))
        = checksOf i (iceChecks (iceStep l op) ops) := by
      rw [iceChecks, checksOf, filter_append]
      exact congrArg (· ++ _) hcheck
    rw [hchecks]
    cases hcreated : (iceStep l op).transports[i]? with
    | none => exact ih hcreated ht
    | some t₀ =>
      obtain ⟨t', ht', hmoves⟩ := iceRun_moves hcreated ops
      cases ht.symm.trans ht'
      exact ⟨t₀, _, (iceStep_effect l op).txn_of_created hnone hcreated, hmoves⟩

theorem listenerRouteStun_response (l : IceListener) {data : Bytes} {msg : StunMsg}
    (hparse : rtcStunParse data = .ok msg) (hresponse : msg.type = stunBindingResponse) :
    listenerRouteStun l data = l.txns msg.txnId := by
  rw [listenerRouteStun, hparse]
  dsimp only
  rw [if_neg (by rw [hresponse]; decide), Option.none_or]

/-- **A transport takes the answer to a check just if it is its last one.** -/
theorem response_selects_iff {ops : List IceOp}
    (hfresh : ((iceChecks {} ops).map IceCheck.txn).Nodup) {i : Nat} {t : IceTransport}
    (ht : (iceRun {} ops).transports[i]? = some t) (hopen : t.closed = false)
    (hnone : t.selected = none) {c : IceCheck} (hc : c ∈ checksOf i (iceChecks {} ops))
    (hsent : c.sent = true) {data : Bytes} {msg : StunMsg} (hparse : rtcStunParse data = .ok msg)
    (hresponse : msg.type = stunBindingResponse) (hid : msg.txnId = c.txn) (source : RtcAddr)
    (alloc : Bool) :
    (∃ t', (iceStep (iceRun {} ops) (.packet data source alloc)).transports[i]? = some t'
        ∧ t'.selected = some source)
      ↔ (checksOf i (iceChecks {} ops)).getLast? = some c := by
  obtain ⟨t₀, candidates, hstart, hmoves⟩ := iceRun_created rfl ht
  have htxn : t.txn = (checksOf i (iceChecks {} ops)).getLast?.elim none IceCheck.outstanding := by
    rw [hmoves.txn hnone hopen, hstart]
  have howns : (iceRun {} ops).OwnsTxns ([] ++ (iceChecks {} ops).map IceCheck.txn) :=
    iceRun_ownsTxns ⟨Directory.exact_none, nofun⟩ hfresh
  have hroute := listenerRouteStun_response (iceRun {} ops) hparse hresponse
  have hstep : t.step (.packet data source alloc) = t.receive msg source := by
    rw [IceTransport.step, if_neg (by simp [hopen]), hparse]
  rw [iceStep_getElem? ht]
  constructor
  · rintro ⟨t', ht', hselected⟩
    cases ht'
    -- the response reached the transport, and its transaction is the outstanding one
    split at hselected
    · rw [hstep, IceTransport.receive, if_pos hresponse] at hselected
      split at hselected
      · cases hnone.symm.trans hselected
      · rename_i houtstanding
        rw [not_not, htxn, hid] at houtstanding
        cases hlast : (checksOf i (iceChecks {} ops)).getLast? with
        | none =>
          rw [hlast] at houtstanding
          cases houtstanding
        | some c' =>
          rw [hlast, Option.elim_some, IceCheck.outstanding] at houtstanding
          split at houtstanding
          · have hc' := mem_of_getLast? hlast
            rw [inj_on_of_nodup_map hfresh (mem_of_mem_filter hc')
              (mem_of_mem_filter hc) (Option.some.inj houtstanding)]
          · cases houtstanding
    · cases hnone.symm.trans hselected
  · intro hlast
    have hregistered : c.fault.route = true := (Bool.and_eq_true_iff.mp hsent).1
    -- its id is the outstanding one, and so in the table
    have houtstanding : t.txn = some c.txn := by
      rw [htxn, hlast, Option.elim_some, IceCheck.outstanding, if_pos hregistered]
    have hfor : (iceRun {} ops).addressee (.packet data source alloc) = some i := by
      rw [addressee, hroute, hid]
      refine (howns.routes c.txn i).mpr ?_
      rw [transactions, getElem?_map, ht, Option.map_some, houtstanding]
    refine ⟨_, rfl, ?_⟩
    rw [if_pos hfor, hstep, IceTransport.receive, if_pos hresponse,
      if_neg (by rw [houtstanding, hid]; simp), hnone]
    rfl

def bareResponse (txn : Bytes) : Bytes := [1, 1, 0, 0, 0x21, 0x12, 0xA4, 0x42] ++ txn

def retriedOnce : List IceOp :=
  .create .full [0x61] [0x70] true :: givenCandidates [hostAddr 5000]
    ++ [.startIce 0 (txnOf 0) {}, .iceTimer 0 (txnOf 1) {}]

theorem secondResponse_selects :
    ∃ t', (iceStep (iceRun {} retriedOnce)
        (.packet (bareResponse (txnOf 1)) (hostAddr 5000) true)).transports[0]? = some t'
      ∧ t'.selected = some (hostAddr 5000) := by
  have hstate : (iceRun {} retriedOnce).transports[0]?.map (fun t => (t.closed, t.selected))
      = some (false, none) := by decide +kernel
  obtain ⟨t, ht, hidle⟩ := Option.map_eq_some_iff.mp hstate
  rw [Prod.mk.injEq] at hidle
  have hlast : (checksOf 0 (iceChecks {} retriedOnce)).getLast?
      = some ⟨0, hostAddr 5000, txnOf 1, {}⟩ := by decide +kernel
  have hparse : rtcStunParse (bareResponse (txnOf 1))
      = .ok ⟨stunBindingResponse, 0, txnOf 1, bareResponse (txnOf 1)⟩ := by decide +kernel
  exact (response_selects_iff (by decide +kernel) ht hidle.1 hidle.2 (mem_of_getLast? hlast) rfl
    hparse rfl rfl (hostAddr 5000) true).mpr hlast

/-- The answer to the first check comes after the second was sent, and the transport does not take
it. -/
theorem firstResponse_dropped :
    (⟨0, hostAddr 5000, txnOf 0, {}⟩ : IceCheck) ∈ checksOf 0 (iceChecks {} retriedOnce)
      ∧ (iceRun {} retriedOnce).transports[0]?.any (fun t => !t.closed && t.selected.isNone) = true
      ∧ listenerRouteStun (iceRun {} retriedOnce) (bareResponse (txnOf 0)) = none
      ∧ (iceStep (iceRun {} retriedOnce)
          (.packet (bareResponse (txnOf 0)) (hostAddr 5000) true)).transports[0]?.any
          (fun t => t.selected.isNone) = true := by
  decide +kernel

end Mrtc
