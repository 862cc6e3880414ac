import Mrtc.Ice.Listener
import Mrtc.Lib.Assigned
import Mrtc.Lib.Directory

/-! # What an operation does (`rtc_listener.c`, `rtc_transport.c`)

`IceTransport.step` is an operation as the one transport sees it that it is for.
-/

namespace Mrtc

open Net

/-! ## One transport -/

def IceListener.addressee (l : IceListener) : IceOp → Option Nat
  | .create .. => none
  | .setRemoteIce i .. | .addCandidate i .. | .startIce i .. | .iceTimer i .. | .restartIce i ..
  | .close i | .teardown i => some i
  | .packet data .. => listenerRouteStun l data

def IceTransport.sendCheck (t : IceTransport) (txn : Bytes) (fault : IceFault) : IceTransport :=
  if t.remoteIce.isNone || t.remoteCandidate.isNone then t
  else if fault.route then
    if fault.send then
      transportArmIceTimer { t with txn := some txn, checkCount := t.checkCount + 1 } fault.timer
    else { t with txn := some txn }
  else { t with txn := none }

def IceTransport.receive (t : IceTransport) (msg : StunMsg) (source : RtcAddr) : IceTransport :=
  if msg.type = stunBindingResponse then
    if t.txn ≠ some msg.txnId then t
    else { t with txn := none, timer := false, selected := t.selected.or (some source) }
  else if msg.type ≠ stunBindingRequest then t
  else { t with selected := t.selected.or (some source) }

def IceTransport.step (t : IceTransport) : IceOp → IceTransport
  | .create .. => t
  | .setRemoteIce _ ufrag pwd =>
    if ufrag = [] ∨ pwd = [] then t else { t with remoteIce := some (ufrag, pwd) }
  | .addCandidate _ addr => { t with remoteCandidate := some addr }
  | .startIce _ txn fault =>
    if t.mode ≠ .full ∨ t.selected.isSome then t else t.sendCheck txn fault
  | .iceTimer _ txn fault =>
    if !t.timer then t
    else if t.closed || t.selected.isSome || decide (120 ≤ t.checkCount) then
      { t with timer := false }
    else IceTransport.sendCheck { t with timer := false } txn fault
  | .restartIce _ random _ =>
    if t.selected.isSome then t
    else
      match random with
      | none => t
      | some (ufrag, pwd) => { t with ufrag := ufrag, pwd := pwd }
  | .packet data source _ =>
    if t.closed then t
    else
      match rtcStunParse data with
      | .error _ => t
      | .ok msg => t.receive msg source
  | .close _ => { t with closed := true }
  | .teardown _ =>
    if !t.closed || t.torn then t else { t with txn := none, timer := false, torn := true }

/-- A check that is built: its transport, the address it goes to, its transaction id, and whether it
can be registered and sent. -/
structure IceCheck where
  transport : Nat
  target : RtcAddr
  txn : Bytes
  fault : IceFault
  deriving DecidableEq

def IceTransport.checkNow (t : IceTransport) (i : Nat) (txn : Bytes) (fault : IceFault) :
    Option IceCheck :=
  if t.remoteIce.isNone then none
  else t.remoteCandidate.map fun target => ⟨i, target, txn, fault⟩

def IceTransport.check (t : IceTransport) (i : Nat) : IceOp → Option IceCheck
  | .startIce _ txn fault =>
    if t.mode ≠ .full ∨ t.selected.isSome then none else t.checkNow i txn fault
  | .iceTimer _ txn fault =>
    if !t.timer then none
    else if t.closed || t.selected.isSome || decide (120 ≤ t.checkCount) then none
    else t.checkNow i txn fault
  | _ => none

def transportSelects (t : IceTransport) (msg : StunMsg) : Bool :=
  !t.closed && t.selected.isNone
    && (msg.type == stunBindingRequest
      || (msg.type == stunBindingResponse && t.txn == some msg.txnId))

def IceOp.isQuiet : IceOp → Bool
  | .setRemoteIce .. | .addCandidate .. | .startIce .. | .iceTimer .. | .packet .. => true
  | .create .. | .restartIce .. | .close .. | .teardown .. => false

theorem transportArmIceTimer_eq (t : IceTransport) (alloc : Bool) :
    transportArmIceTimer t alloc
      = { t with timer := t.timer || (!(t.selected.isSome || t.closed) && alloc) } := by
  obtain ⟨mode, ufrag, pwd, ice, candidate, selected, txn, armed, count, closed, torn⟩ := t
  unfold transportArmIceTimer
  split
  · rename_i hstop
    dsimp only at hstop ⊢
    rw [hstop]
    simp
  · grind

theorem IceTransport.sendCheck_eq (t : IceTransport) (txn : Bytes) (fault : IceFault) :
    ∃ txn' timer checkCount, t.sendCheck txn fault
      = { t with txn := txn', timer := timer, checkCount := checkCount } := by
  unfold IceTransport.sendCheck
  split
  · exact ⟨t.txn, t.timer, t.checkCount, rfl⟩
  · split
    · split
      · exact ⟨_, _, _, transportArmIceTimer_eq ..⟩
      · exact ⟨some txn, t.timer, t.checkCount, rfl⟩
    · exact ⟨none, t.timer, t.checkCount, rfl⟩

/-! ## The listener -/

inductive TxnChange (txns : Bytes → Option Nat) (i : Nat) (check : Option IceCheck)
    (old : Option Bytes) : Option Bytes → (Bytes → Option Nat) → Prop where
  | same : TxnChange txns i check old old txns
  | released : TxnChange txns i check old none (Directory.release txns old)
  | assigned (c : IceCheck) (hc : check = some c) : TxnChange txns i check old (some c.txn)
      (Function.update (Directory.release txns old) c.txn (some i))

inductive TupleChange (tuples : TupleKey → Option Nat) (i : Nat) (t t' : IceTransport) :
    IceOp → (TupleKey → Option Nat) → Prop where
  | same {op : IceOp} (hselected : t'.selected = t.selected) (htorn : t'.torn = t.torn) :
      TupleChange tuples i t t' op tuples
  | registered {data : Bytes} {source : RtcAddr} {alloc : Bool} (msg : StunMsg)
      (hparse : rtcStunParse data = .ok msg) (hselects : transportSelects t msg = true)
      (hselected : t'.selected = some source) (htorn : t'.torn = t.torn) :
      TupleChange tuples i t t' (.packet data source alloc)
        (match rtcListenerRegisterTuple tuples source i alloc with
        | .ok tuples' => tuples'
        | .error _ => tuples)
  | unregistered {j : Nat} (hclosing : t.closed = true ∧ t.torn = false)
      (hselected : t'.selected = t.selected) (htorn : t'.torn = true) :
      TupleChange tuples i t t' (.teardown j)
        (match t.selected with
        | some remote => rtcListenerUnregisterTuple tuples remote
        | none => tuples)

inductive IceEffect (l : IceListener) (op : IceOp) : IceListener → Prop where
  | nothing (hnobody : ∀ i, l.addressee op = some i → l.transports[i]? = none) : IceEffect l op l
  | created {l' : IceListener} (t : IceTransport) (hafter : l'.transports = l.transports ++ [t])
      (htuples : l'.tuples = l.tuples) (htxns : l'.txns = l.txns)
      (hfresh : t.selected = none ∧ t.torn = false ∧ t.txn = none)
      (hcreate : l.addressee op = none ∧ op.isQuiet = false) : IceEffect l op l'
  | stepped {l' : IceListener} {i : Nat} {t t' : IceTransport} (hfor : l.addressee op = some i)
      (ht : l.transports[i]? = some t) (hstep : t.step op = t')
      (hafter : l'.transports = l.transports.set i t')
      (htxns : TxnChange l.txns i (t.check i op) t.txn t'.txn l'.txns)
      (htuples : TupleChange l.tuples i t t' op l'.tuples)
      (hufrags : op.isQuiet = true → l'.ufrags = l.ufrags) : IceEffect l op l'

theorem getElem?_set_cases {α : Type} {xs : List α} {i j : Nat} {x y : α}
    (h : (xs.set i x)[j]? = some y) : j = i ∧ y = x ∨ j ≠ i ∧ xs[j]? = some y := by
  rw [List.getElem?_set] at h
  split at h
  · grind
  · next hne => exact Or.inr ⟨fun heq => hne heq.symm, h⟩

theorem eq_set_self {α : Type} {xs : List α} {i : Nat} {x : α} (h : xs[i]? = some x) :
    xs = xs.set i x := by
  obtain ⟨hlt, rfl⟩ := List.getElem?_eq_some_iff.mp h
  exact (List.set_getElem_self hlt).symm

theorem transportUnregisterIceTxn_eq (txns : Bytes → Option Nat) (t : IceTransport) :
    transportUnregisterIceTxn txns t = Directory.release txns t.txn := by
  unfold transportUnregisterIceTxn
  cases t.txn <;> rfl

namespace IceEffect

variable {l l' : IceListener} {i : Nat} {t t' : IceTransport} {op : IceOp}

section

variable (hfor : l.addressee op = some i)
include hfor

section

variable (ht : l.transports[i]? = some t)
include ht

theorem idle (hstep : t.step op = t) : IceEffect l op l :=
  .stepped hfor ht hstep (eq_set_self ht) .same (.same rfl rfl) fun _ => rfl

theorem written (hstep : t.step op = t') (htxn : t'.txn = t.txn)
    (hselected : t'.selected = t.selected) (htorn : t'.torn = t.torn) :
    IceEffect l op (l.set i t') :=
  .stepped hfor ht hstep rfl (htxn ▸ .same) (.same hselected htorn) fun _ => rfl

theorem sendCheck {txn : Bytes} {fault : IceFault} (hstep : t.step op = t'.sendCheck txn fault)
    (hcheck : t.check i op = t'.checkNow i txn fault) (htxn : t'.txn = t.txn)
    (hselected : t'.selected = t.selected) (htorn : t'.torn = t.torn) :
    IceEffect l op (transportSendIceCheck l i t' txn fault) := by
  have hrelease := (transportUnregisterIceTxn_eq l.txns t').trans (congrArg _ htxn)
  unfold IceTransport.sendCheck at hstep
  unfold transportSendIceCheck listenerRegisterRoute
  split
  · rename_i hguard
    rw [if_pos hguard] at hstep
    exact .written hfor ht hstep htxn hselected htorn
  · rename_i hguard
    rw [if_neg hguard] at hstep
    rw [hrelease]
    simp only [Bool.or_eq_true, Option.isNone_iff_eq_none, not_or] at hguard
    obtain ⟨target, htarget⟩ := Option.ne_none_iff_exists'.mp hguard.2
    rw [IceTransport.checkNow, htarget, if_neg (by simp [hguard.1]), Option.map_some] at hcheck
    cases hroute : fault.route with
    | false =>
      rw [hroute] at hstep
      exact .stepped hfor ht hstep rfl .released (.same hselected htorn) fun _ => rfl
    | true =>
      rw [hroute, if_pos rfl] at hstep
      cases hsend : fault.send with
      | false =>
        rw [hsend] at hstep
        exact .stepped hfor ht hstep rfl (.assigned _ hcheck) (.same hselected htorn) fun _ => rfl
      | true =>
        rw [hsend, if_pos rfl, transportArmIceTimer_eq] at hstep
        dsimp only
        rw [if_pos rfl, transportArmIceTimer_eq]
        exact .stepped hfor ht hstep rfl (.assigned _ hcheck) (.same hselected htorn) fun _ => rfl

end

theorem call {f : IceTransport → IceListener}
    (h : ∀ t, l.transports[i]? = some t → IceEffect l op (f t)) : IceEffect l op (l.call i f) := by
  unfold IceListener.call
  cases ht : l.transports[i]? with
  | none =>
    refine .nothing fun j hj => ?_
    cases hfor.symm.trans hj
    exact ht
  | some t => exact h t ht

end

end IceEffect

section Effect

variable {l : IceListener} {i : Nat} {t : IceTransport}

theorem transportOnPacket_effect (data : Bytes) (source : RtcAddr) (alloc : Bool)
    (hroute : listenerRouteStun l data = some i) :
    IceEffect l (.packet data source alloc) (transportOnPacket l i data source alloc) := by
  rw [transportOnPacket]
  cases ht : l.transports[i]? with
  | none => exact .nothing fun j hj => (Option.some.inj (hroute.symm.trans hj)) ▸ ht
  | some t => ?_
  dsimp only
  by_cases hclosed : t.closed = true
  · rw [if_pos hclosed]
    exact .idle hroute ht (if_pos hclosed)
  rw [if_neg hclosed]
  cases hparse : rtcStunParse data with
  | error e => exact .idle hroute ht (by simp [IceTransport.step, hparse])
  | ok msg =>
    have hstep : t.step (.packet data source alloc) = t.receive msg source := by
      simp [IceTransport.step, hclosed, hparse]
    unfold IceTransport.receive at hstep
    dsimp only
    by_cases hresponse : msg.type = stunBindingResponse
    · rw [if_pos hresponse] at hstep ⊢
      by_cases htxn : t.txn ≠ some msg.txnId
      · rw [if_pos htxn] at hstep ⊢
        exact .idle hroute ht hstep
      · rw [if_neg htxn] at hstep ⊢
        rw [transportUnregisterIceTxn_eq]
        cases hselected : t.selected with
        | none =>
          rw [hselected] at hstep
          have hselects : transportSelects t msg = true := by simp_all [transportSelects]
          exact .stepped hroute ht hstep rfl .released
            (.registered msg hparse hselects rfl rfl) fun _ => rfl
        | some remote =>
          rw [hselected] at hstep
          exact .stepped hroute ht hstep rfl .released
            (.same hselected.symm rfl) fun _ => rfl
    · rw [if_neg hresponse] at hstep ⊢
      by_cases hrequest : msg.type ≠ stunBindingRequest
      · rw [if_pos hrequest] at hstep ⊢
        exact .idle hroute ht hstep
      · rw [if_neg hrequest] at hstep ⊢
        cases hselected : t.selected with
        | none =>
          rw [hselected] at hstep
          have hselects : transportSelects t msg = true := by simp_all [transportSelects]
          exact .stepped hroute ht hstep rfl .same
            (.registered msg hparse hselects rfl rfl) fun _ => rfl
        | some remote =>
          rw [hselected, Option.some_or, ← hselected] at hstep
          exact .idle hroute ht hstep

theorem txRestartIceImpl_effect (random : Option (Bytes × Bytes)) (alloc : Bool)
    (ht : l.transports[i]? = some t) :
    IceEffect l (.restartIce i random alloc) (txRestartIceImpl l i t random alloc) := by
  unfold txRestartIceImpl listenerRegisterRoute
  by_cases hselected : t.selected.isSome = true
  · rw [if_pos hselected]
    exact .idle rfl ht (if_pos hselected)
  · rw [if_neg hselected]
    cases random with
    | none =>
      exact .stepped rfl ht (if_neg hselected) (eq_set_self ht) .same (.same rfl rfl) nofun
    | some drawn =>
      cases alloc <;> exact .stepped rfl ht (if_neg hselected) rfl .same (.same rfl rfl) nofun

theorem txCloseImpl_effect (ht : l.transports[i]? = some t) :
    IceEffect l (.teardown i) (txCloseImpl l i t) := by
  unfold txCloseImpl
  by_cases hrun : (!t.closed || t.torn) = true
  · rw [if_pos hrun]
    exact .idle rfl ht (if_pos hrun)
  · have hclosing : t.closed = true ∧ t.torn = false := by simpa using hrun
    rw [if_neg hrun, transportUnregisterIceTxn_eq]
    exact .stepped rfl ht (if_neg hrun) rfl .released (.unregistered hclosing rfl rfl) nofun

/-- **What an operation does.** -/
theorem iceStep_effect (l : IceListener) (op : IceOp) : IceEffect l op (iceStep l op) := by
  cases op with
  | create mode ufrag pwd alloc =>
    cases alloc with
    | false => exact .nothing nofun
    | true => exact .created _ rfl rfl rfl ⟨rfl, rfl, rfl⟩ ⟨rfl, rfl⟩
  | setRemoteIce i ufrag pwd =>
    refine .call rfl fun t ht => ?_
    split
    · exact .idle rfl ht (if_pos ‹_›)
    · exact .written rfl ht (if_neg ‹_›) rfl rfl rfl
  | addCandidate i addr => exact .call rfl fun t ht => .written rfl ht rfl rfl rfl rfl
  | startIce i txn fault =>
    refine .call rfl fun t ht => ?_
    rw [txStartIceImpl, ← ite_or]
    split
    · exact .idle rfl ht (if_pos ‹_›)
    · exact .sendCheck rfl ht (if_neg ‹_›) (if_neg ‹_›) rfl rfl rfl
  | iceTimer i txn fault =>
    refine .call rfl fun t ht => ?_
    by_cases hidle : (!t.timer) = true
    · rw [transportIceTimer, if_pos hidle]
      exact .idle rfl ht (if_pos hidle)
    · rw [transportIceTimer, if_neg hidle, ← ite_or]
      by_cases hstop : (t.closed || t.selected.isSome || decide (120 ≤ t.checkCount)) = true
      · rw [if_pos (by simpa using hstop)]
        exact .written rfl ht ((if_neg hidle).trans (if_pos hstop)) rfl rfl rfl
      · rw [if_neg (by simpa using hstop)]
        refine .sendCheck rfl ht ((if_neg hidle).trans (if_neg hstop)) ?_ ?_ ?_ ?_
        · exact (if_neg hidle).trans (if_neg hstop)
        all_goals rfl
  | restartIce i random alloc => exact .call rfl fun t ht => txRestartIceImpl_effect random alloc ht
  | packet data source alloc =>
    rw [iceStep, listenerOnPacket]
    cases hroute : listenerRouteStun l data with
    | none => exact .nothing fun i hi => by cases hroute.symm.trans hi
    | some i => exact transportOnPacket_effect data source alloc hroute
  | close i => exact .call rfl fun t ht => .written rfl ht rfl rfl rfl rfl
  | teardown i => exact .call rfl fun t ht => txCloseImpl_effect ht

/-- **What an operation does to a transport that is there.** -/
theorem iceStep_getElem? (ht : l.transports[i]? = some t) (op : IceOp) :
    (iceStep l op).transports[i]? = some (if l.addressee op = some i then t.step op else t) := by
  obtain ⟨hlt, -⟩ := List.getElem?_eq_some_iff.mp ht
  have heffect := iceStep_effect l op
  generalize iceStep l op = l' at heffect ⊢
  cases heffect with
  | nothing hnobody =>
    rw [if_neg fun hfor => by cases ht.symm.trans (hnobody i hfor)]
    exact ht
  | created u hafter htuples htxns hfresh hcreate =>
    rw [hafter, List.getElem?_append_left hlt, hcreate.1]
    exact ht
  | @stepped _ j u u' hfor hu hstep hafter => grind

theorem iceStep_tuples {op : IceOp} (ht : l.transports[i]? = some t)
    (hfor : l.addressee op = some i) :
    TupleChange l.tuples i t (t.step op) op (iceStep l op).tuples := by
  have heffect := iceStep_effect l op
  generalize iceStep l op = l' at heffect ⊢
  cases heffect with
  | nothing hnobody => cases ht.symm.trans (hnobody i hfor)
  | created u hafter htuples htxns hfresh hcreate => cases hcreate.1.symm.trans hfor
  | @stepped _ j u u' hfor' hu hstep hafter htxns htuples =>
    cases hfor.symm.trans hfor'
    cases ht.symm.trans hu
    rw [hstep]
    exact htuples

end Effect

end Mrtc
