import Mrtc.Ice.Routes
import Mrtc.Ice.StunSealed
import Mrtc.Lib.Trace
import Mrtc.Sdp.Generate

/-! # Requests by user fragment (`rtc_listener.c`, `rtc_transport.c`)

A binding request is for the transport whose local user fragment stands in front of the colon of its
USERNAME.
-/

namespace Mrtc

open Net List Function IceTransport IceListener Trace Directory

/-! ## The source -/

inductive RtcPktType where
  | stun
  | channelData
  | dtls
  | rtp
  | rtcp
  | unknown
  deriving DecidableEq

def listenerRouteUfrag (l : IceListener) (msg : StunMsg) : Option Nat :=
  if msg.type = stunBindingRequest then
    match usernameLocalUfrag msg with
    | .ok ufrag => l.ufrags ufrag
    | .error _ => none
  else none

def listenerRouteTuple (l : IceListener) (source : RtcAddr) : Option Nat :=
  match tupleKey source with
  | .ok key => l.tuples key
  | .error _ => none

def listenerHands (l : IceListener) (type : RtcPktType) (data : Bytes) (source : RtcAddr) :
    List Nat :=
  match type with
  | .stun => (listenerRouteStun l data).toList
  | .dtls | .rtp | .rtcp => (listenerRouteTuple l source).toList
  | .channelData | .unknown => []

inductive TransportCall where
  | create (mode : IceMode) (ufrag pwd : Bytes)
  | restart (i : Nat) (random : Option (Bytes × Bytes))
  | close (i : Nat)
  | other (op : IceOp) (hquiet : op.isQuiet = true)

def TransportCall.ops : TransportCall → List IceOp
  | .create mode ufrag pwd => [.create mode ufrag pwd true]
  | .restart i random => [.restartIce i random true]
  | .close i => [.close i, .teardown i]
  | .other op _ => [op]

def transportStep (l : IceListener) (call : TransportCall) : Option IceListener :=
  some (iceRun l call.ops)

/-! ## What is to hold -/

def IceTransport.openUfrag (t : IceTransport) : Option Bytes :=
  if t.closed then none else some t.ufrag

def IceListener.openUfrags (l : IceListener) : List (Option Bytes) :=
  l.transports.map openUfrag

def IceListener.DistinctUfrags (l : IceListener) : Prop := l.openUfrags.reduceOption.Nodup

structure RequestFor (ufrag rest data : Bytes) (msg : StunMsg) : Prop where
  parse : rtcStunParse data = .ok msg
  type : msg.type = stunBindingRequest
  username : rtcStunFindAttr msg stunAttrUsername = some (ufrag ++ 0x3A :: rest)
  colon : 0x3A ∉ ufrag
  nul : 0 ∉ ufrag

/-- A request is handed to the open transport that has the fragment and to no other, and to none by
its fragment if there is no such transport. -/
structure IceListener.RoutesRequests (l : IceListener) : Prop where
  handed : ∀ (ufrag rest data : Bytes) (msg : StunMsg) (source : RtcAddr),
    RequestFor ufrag rest data msg → ∀ (i : Nat) (t : IceTransport),
      l.transports[i]? = some t → t.closed = false → t.ufrag = ufrag →
        listenerHands l .stun data source = [i]
  unrouted : ∀ (ufrag rest data : Bytes) (msg : StunMsg), RequestFor ufrag rest data msg →
    (∀ t ∈ l.transports, t.closed = false → t.ufrag ≠ ufrag) → listenerRouteUfrag l msg = none
  once : ∀ (type : RtcPktType) (data : Bytes) (source : RtcAddr),
    (listenerHands l type data source).length ≤ 1

structure IsUfrag (ufrag : Bytes) : Prop where
  length : ufrag.length = iceUfragLen - 1
  colon : 0x3A ∉ ufrag
  nul : 0 ∉ ufrag

def TransportCall.DrawsUfrag : TransportCall → Prop
  | .create _ ufrag _ => IsUfrag ufrag
  | .restart _ (some (ufrag, _)) => IsUfrag ufrag
  | .restart _ none | .close _ | .other _ _ => True

/-- A restart that gets through is of an open transport and draws a new fragment; or it is of a
closed one and draws none, and no open transport has the old one. -/
def TransportCall.RestartsOpen (l : IceListener) : TransportCall → Prop
  | .restart i random =>
    ∀ t, l.transports[i]? = some t → t.selected = none →
      if t.closed then random = none ∧ some t.ufrag ∉ l.openUfrags else random ≠ none
  | .create .. | .close _ | .other _ _ => True

section

variable {l l' : IceListener} {i : Nat} {t : IceTransport} {ufrag rest data : Bytes} {msg : StunMsg}

theorem IceListener.openUfrags_getElem? : l.openUfrags[i]? = some (some ufrag)
    ↔ ∃ t, l.transports[i]? = some t ∧ t.closed = false ∧ t.ufrag = ufrag := by
  rw [openUfrags, getElem?_map, Option.map_eq_some_iff]
  refine exists_congr fun t => and_congr_right fun _ => ?_
  rw [openUfrag]
  cases t.closed <;> simp

theorem IceListener.mem_openUfrags : some ufrag ∈ l.openUfrags
    ↔ ∃ t ∈ l.transports, t.closed = false ∧ t.ufrag = ufrag := by
  rw [openUfrags, mem_map]
  refine exists_congr fun t => and_congr_right fun _ => ?_
  rw [openUfrag]
  cases t.closed <;> simp

/-! ## Reading the USERNAME -/

section

variable (h : RequestFor ufrag rest data msg)
include h

theorem RequestFor.usernameLocalUfrag :
    usernameLocalUfrag msg = if ufrag = [] then .error .invalid else .ok (ufrag.take 127) := by
  have hfront : (ufrag ++ 0x3A :: rest).takeWhile (· != 0x3A) = ufrag := by
    rw [takeWhile_append_of_pos (fun b hb => by
      simp only [bne_iff_ne]
      rintro rfl
      exact h.colon hb)]
    simp
  have hwhole : (ufrag.take 127).takeWhile (· != 0) = ufrag.take 127 := by
    rw [takeWhile_eq_self_iff]
    intro b hb
    simp only [bne_iff_ne]
    rintro rfl
    exact h.nul (mem_of_mem_take hb)
  rw [Mrtc.usernameLocalUfrag, h.username]
  dsimp only
  rw [hfront, hwhole]
  simp only [length_eq_zero_iff]

theorem RequestFor.listenerRouteUfrag (l : IceListener) :
    listenerRouteUfrag l msg = if ufrag = [] then none else l.ufrags (ufrag.take 127) := by
  rw [Mrtc.listenerRouteUfrag, if_pos h.type, h.usernameLocalUfrag]
  split_ifs <;> rfl

theorem RequestFor.listenerHands (l : IceListener)
    (source : RtcAddr) : listenerHands l .stun data source
      = ((Mrtc.listenerRouteUfrag l msg).or (l.txns msg.txnId)).toList := by
  rw [Mrtc.listenerHands, listenerRouteStun, h.parse]
  rfl

end

theorem IsUfrag.listenerRouteUfrag (hufrag : IsUfrag ufrag) (h : RequestFor ufrag rest data msg)
    (l : IceListener) : Mrtc.listenerRouteUfrag l msg = l.ufrags ufrag := by
  have hlength : ufrag.length = 7 := hufrag.length
  have hne : ufrag ≠ [] := by
    rintro rfl
    cases hlength
  rw [h.listenerRouteUfrag, if_neg hne, take_of_length_le (by omega)]

theorem IsUfrag.request (hufrag : IsUfrag ufrag) {txnId : Bytes}
    (htxn : txnId.length = stunTxnIdSize) :
    ∃ data msg, RequestFor ufrag [] data msg ∧ msg.txnId = txnId := by
  have hlength : ufrag.length = 7 := hufrag.length
  have hshort : (ufrag ++ [0x3A]).length < 65533 := by
    rw [length_append, length_singleton]
    omega
  refine ⟨(stunMsg stunBindingRequest txnId [⟨stunAttrUsername, ufrag ++ [0x3A]⟩]).buf, _,
    ⟨rtcStunParse_stunMsg (by decide) htxn ?_, rfl, ?_, hufrag.colon, hufrag.nul⟩, rfl⟩
  · rw [stunAttrBytes_cons, length_append, StunAttr.length_bytes hshort, length_append,
      hlength]
    decide
  · rw [rtcStunFindAttr_stunMsg htxn]
    · simp
    · intro a ha
      rw [mem_singleton.mp ha]
      exact ⟨show stunAttrUsername < 2 ^ 16 by decide, hshort⟩

end

/-! ## The invariant -/

/-- What holds between two calls, whatever they are: a transport that is closed is torn down, all
fragments are such as are drawn, and every entry of the table of transactions leads to the transport
whose transaction it is. -/
structure IceListener.Settled (l : IceListener) : Prop where
  torn : ∀ t ∈ l.transports, t.torn = t.closed
  ufrag : ∀ t ∈ l.transports, IsUfrag t.ufrag
  key : ∀ ufrag i, l.ufrags ufrag = some i → IsUfrag ufrag
  txns : Directory.Leads l.txns (l.transports.map txn)

section Invariant

variable {l l' : IceListener} {i : Nat} {t t' : IceTransport}

theorem settled_empty : ({} : IceListener).Settled where
  torn _ ht := by cases ht
  ufrag _ ht := by cases ht
  key _ _ hentry := by cases hentry
  txns := leads_none _

theorem TxnChange.leads {txns txns' : Bytes → Option Nat} {check : Option IceCheck}
    {old new : Option Bytes} {transactions : List (Option Bytes)}
    (h : TxnChange txns i check old new txns') (hleads : Directory.Leads txns transactions)
    (hi : transactions[i]? = some old) : Directory.Leads txns' (transactions.set i new) := by
  cases h with
  | same => rwa [← eq_set_self hi]
  | released => exact hleads.release hi
  | assigned c => exact hleads.assign hi c.txn

theorem IceListener.Settled.written (h : l.Settled) (ht : l.transports[i]? = some t)
    (hafter : l'.transports = l.transports.set i t') (htorn : t'.torn = t'.closed)
    (hufrag : IsUfrag t'.ufrag) (hkey : ∀ ufrag j, l'.ufrags ufrag = some j → IsUfrag ufrag)
    (check : Option IceCheck) (htxns : TxnChange l.txns i check t.txn t'.txn l'.txns) :
    l'.Settled := by
  have hmem : ∀ u ∈ l'.transports, u ∈ l.transports ∨ u = t' := by
    intro u hu
    rw [hafter] at hu
    exact mem_or_eq_of_mem_set hu
  refine ⟨fun u hu => ?_, fun u hu => ?_, hkey, ?_⟩
  · rcases hmem u hu with hold | rfl
    · exact h.torn u hold
    · exact htorn
  · rcases hmem u hu with hold | rfl
    · exact h.ufrag u hold
    · exact hufrag
  · rw [hafter, map_set]
    exact htxns.leads h.txns (by rw [getElem?_map, ht, Option.map_some])

theorem IceTransport.step_of_isQuiet (t : IceTransport) {op : IceOp} (hquiet : op.isQuiet = true) :
    (t.step op).ufrag = t.ufrag ∧ (t.step op).closed = t.closed ∧ (t.step op).torn = t.torn := by
  have hsend : ∀ (t : IceTransport) txn fault, (t.sendCheck txn fault).ufrag = t.ufrag
      ∧ (t.sendCheck txn fault).closed = t.closed ∧ (t.sendCheck txn fault).torn = t.torn := by
    intro t txn fault
    obtain ⟨_, _, _, hsent⟩ := t.sendCheck_eq txn fault
    rw [hsent]
    exact ⟨rfl, rfl, rfl⟩
  cases op <;> dsimp only [step, receive]
  case create | restartIce | close | teardown => cases hquiet
  all_goals
    repeat' split
    all_goals first | exact ⟨rfl, rfl, rfl⟩ | exact hsend ..

theorem IceEffect.settled {op : IceOp} (h : IceEffect l op l') (hquiet : op.isQuiet = true)
    (hsettled : l.Settled) : l'.Settled ∧ l'.ufrags = l.ufrags ∧ l'.openUfrags = l.openUfrags := by
  cases h with
  | nothing => exact ⟨hsettled, rfl, rfl⟩
  | created _ _ _ _ _ hcreate => cases hcreate.2.symm.trans hquiet
  | @stepped _ i t t' hfor ht hstep hafter htxns htuples hufrags =>
    have hmem := mem_of_getElem? ht
    obtain ⟨hsame, hclosed, htorn⟩ := t.step_of_isQuiet hquiet
    rw [hstep] at hsame hclosed htorn
    refine ⟨hsettled.written ht hafter ?_ ?_ (hufrags hquiet ▸ hsettled.key) _ htxns,
      hufrags hquiet, ?_⟩
    · rw [htorn, hclosed]
      exact hsettled.torn t hmem
    · rw [hsame]
      exact hsettled.ufrag t hmem
    · rw [openUfrags, hafter]
      refine List.map_set_of_eq ht ?_
      rw [openUfrag, hsame, hclosed]
      rfl

theorem IceListener.Settled.other_txn (h : l.Settled) (i : Nat) :
    ∃ txnId : Bytes, txnId.length = stunTxnIdSize ∧ l.txns txnId ≠ some i := by
  by_cases hzero : l.txns (replicate 12 0) = some i
  · refine ⟨replicate 12 1, rfl, fun hone => ?_⟩
    have heq := (h.txns _ _ hzero).symm.trans (h.txns _ _ hone)
    exact absurd (Option.some.inj (Option.some.inj heq)) (by decide)
  · exact ⟨replicate 12 0, rfl, hzero⟩

theorem listenerHands_length (l : IceListener) (type : RtcPktType) (data : Bytes)
    (source : RtcAddr) : (listenerHands l type data source).length ≤ 1 := by
  have honce : ∀ o : Option Nat, o.toList.length ≤ 1 := fun o => by cases o <;> simp
  cases type with
  | stun | dtls | rtp | rtcp => exact honce _
  | channelData | unknown => exact Nat.zero_le 1

theorem IceListener.Settled.routesRequests_iff (h : l.Settled) :
    l.RoutesRequests ↔ Directory.Exact l.ufrags l.openUfrags := by
  constructor
  · intro hroutes ufrag i
    constructor
    · intro hentry
      have hufrag := h.key ufrag i hentry
      obtain ⟨data, msg, hrequest, -⟩ := hufrag.request (length_replicate (a := 0))
      have hroute := (hufrag.listenerRouteUfrag hrequest l).trans hentry
      by_cases hopen : some ufrag ∈ l.openUfrags
      · obtain ⟨j, hj⟩ := mem_iff_getElem?.mp hopen
        obtain ⟨t, ht, hclosed, hsame⟩ := openUfrags_getElem?.mp hj
        have hhands := hroutes.handed ufrag [] data msg (hostAddr 5000) hrequest j t ht hclosed hsame
        rw [hrequest.listenerHands, hroute] at hhands
        cases hhands
        exact hj
      · grind [mem_openUfrags, hroutes.unrouted]
    · intro hopen
      obtain ⟨t, ht, hclosed, rfl⟩ := openUfrags_getElem?.mp hopen
      have hufrag := h.ufrag t (mem_of_getElem? ht)
      obtain ⟨txnId, hlength, hother⟩ := h.other_txn i
      obtain ⟨data, msg, hrequest, rfl⟩ := hufrag.request hlength
      have hhands := hroutes.handed t.ufrag [] data msg (hostAddr 5000) hrequest i t ht hclosed rfl
      rw [hrequest.listenerHands, hufrag.listenerRouteUfrag hrequest] at hhands
      cases hentry : l.ufrags t.ufrag with
      | none =>
        rw [hentry, Option.none_or] at hhands
        exact absurd (Option.toList_eq_singleton_iff.mp hhands) hother
      | some j =>
        rw [hentry] at hhands
        cases hhands
        rfl
  · intro hexact
    refine ⟨fun ufrag rest data msg source hrequest i t ht hclosed hsame => ?_,
      fun ufrag rest data msg hrequest hnone => ?_, listenerHands_length l⟩
    · have hufrag : IsUfrag ufrag := hsame ▸ h.ufrag t (mem_of_getElem? ht)
      have hentry := (hexact ufrag i).mpr
        (openUfrags_getElem?.mpr ⟨t, ht, hclosed, hsame⟩)
      rw [hrequest.listenerHands, hufrag.listenerRouteUfrag hrequest, hentry]
      rfl
    · rw [hrequest.listenerRouteUfrag]
      split_ifs with hnil
      · rfl
      · cases hentry : l.ufrags (ufrag.take 127) with
        | none => rfl
        | some j =>
          -- a drawn fragment is too short to be a fragment that was cut
          have hlength : (ufrag.take 127).length = 7 := (h.key _ j hentry).length
          rw [length_take] at hlength
          obtain ⟨t, ht, hclosed, hsame⟩ :=
            openUfrags_getElem?.mp ((hexact _ j).mp hentry)
          rw [take_of_length_le (by omega)] at hsame
          exact absurd hsame (hnone t (mem_of_getElem? ht) hclosed)

end Invariant

/-! ## Calls -/

section Calls

variable {l : IceListener} {i : Nat} {t : IceTransport} {ufrag : Bytes}

theorem IceListener.Settled.create (h : l.Settled) (mode : IceMode) (pwd : Bytes)
    (hufrag : IsUfrag ufrag) :
    (rtcTransportCreate l mode ufrag pwd true).Settled
      ∧ (rtcTransportCreate l mode ufrag pwd true).ufrags
        = update l.ufrags ufrag (some l.openUfrags.length)
      ∧ (rtcTransportCreate l mode ufrag pwd true).openUfrags = l.openUfrags ++ [some ufrag] := by
  have hlength : l.openUfrags.length = l.transports.length := length_map ..
  rw [hlength]
  refine ⟨⟨?_, ?_, ?_, ?_⟩, rfl, map_append⟩
  · intro t ht
    rcases mem_append.mp ht with hold | hnew
    · exact h.torn t hold
    · rw [mem_singleton.mp hnew]
  · intro t ht
    rcases mem_append.mp ht with hold | hnew
    · exact h.ufrag t hold
    · rw [mem_singleton.mp hnew]
      exact hufrag
  · intro ufrag' j hentry
    change update l.ufrags ufrag (some l.transports.length) ufrag' = some j at hentry
    rw [update_apply] at hentry
    split at hentry
    · next heq => exact heq ▸ hufrag
    · exact h.key ufrag' j hentry
  · exact (map_append (f := txn)).symm ▸ h.txns.append none

theorem IceListener.openUfrags_set (l : IceListener) (i : Nat) (t : IceTransport) :
    (l.set i t).openUfrags = l.openUfrags.set i t.openUfrag := map_set

section

variable (h : l.Settled)
include h

theorem IceListener.Settled.unregister (key : Bytes) {j : Nat}
    (hentry : listenerUnregisterRoute l.ufrags key ufrag = some j) : IsUfrag ufrag := by
  rw [listenerUnregisterRoute, update_apply] at hentry
  split at hentry
  · cases hentry
  · exact h.key ufrag j hentry

theorem IceListener.Settled.restart_none (hselected : t.selected = none) :
    (txRestartIceImpl l i t none true).Settled
      ∧ (txRestartIceImpl l i t none true).ufrags = update l.ufrags t.ufrag none
      ∧ (txRestartIceImpl l i t none true).openUfrags = l.openUfrags := by
  rw [txRestartIceImpl, if_neg (by simp [hselected])]
  exact ⟨⟨h.torn, h.ufrag, fun ufrag j => h.unregister t.ufrag, h.txns⟩, rfl, rfl⟩

theorem IceListener.Settled.restart_some (ht : l.transports[i]? = some t)
    (hselected : t.selected = none) (pwd : Bytes) (hufrag : IsUfrag ufrag) :
    (txRestartIceImpl l i t (some (ufrag, pwd)) true).Settled
      ∧ (txRestartIceImpl l i t (some (ufrag, pwd)) true).ufrags
        = update (update l.ufrags t.ufrag none) ufrag (some i)
      ∧ (txRestartIceImpl l i t (some (ufrag, pwd)) true).openUfrags
        = l.openUfrags.set i (if t.closed then none else some ufrag) := by
  rw [txRestartIceImpl, if_neg (by simp [hselected])]
  refine ⟨h.written ht rfl ?_ hufrag (fun ufrag' j hentry => ?_) none .same, rfl, ?_⟩
  · exact h.torn t (mem_of_getElem? ht)
  · change update (update l.ufrags t.ufrag none) ufrag (some i) ufrag' = some j
      at hentry
    rw [update_apply] at hentry
    split at hentry
    · next heq => exact heq ▸ hufrag
    · exact h.unregister t.ufrag hentry
  · exact l.openUfrags_set i { t with ufrag := ufrag, pwd := pwd }

theorem IceListener.Settled.close (ht : l.transports[i]? = some t) :
    (iceRun l [.close i, .teardown i]).Settled
      ∧ (iceRun l [.close i, .teardown i]).ufrags = release l.ufrags t.openUfrag
      ∧ (iceRun l [.close i, .teardown i]).openUfrags = l.openUfrags.set i none := by
  obtain ⟨hlt, -⟩ := List.getElem?_eq_some_iff.mp ht
  have hmem := mem_of_getElem? ht
  have hrun : iceRun l [.close i, .teardown i]
      = txCloseImpl (l.set i { t with closed := true }) i { t with closed := true } := by
    have hclose : iceStep l (.close i) = l.set i { t with closed := true } := by
      rw [iceStep, call, ht]
    change iceStep (iceStep l (.close i)) (.teardown i) = _
    rw [hclose, iceStep, call, IceListener.set, getElem?_set_self hlt]
  rw [hrun, txCloseImpl]
  have htorn := h.torn t hmem
  by_cases hclosed : t.closed = true
  · -- it is torn down already
    rw [if_pos (by simp [htorn, hclosed])]
    refine ⟨h.written ht rfl (htorn.trans hclosed) (h.ufrag t hmem) h.key none .same, ?_,
      l.openUfrags_set i _⟩
    rw [openUfrag, if_pos hclosed]
    rfl
  · rw [if_neg (by simp [htorn, hclosed])]
    refine ⟨h.written ht (set_set ..) rfl (h.ufrag t hmem)
      (fun ufrag j => h.unregister t.ufrag) none ?_, ?_, ?_⟩
    · dsimp only
      rw [transportUnregisterIceTxn_eq]
      exact .released
    · rw [openUfrag, if_neg hclosed]
      rfl
    · change ((l.transports.set i _).set i _).map openUfrag = _
      rw [set_set, map_set]
      rfl

end

theorem IceListener.DistinctUfrags.free_at {l' : IceListener} (hdistinct : l'.DistinctUfrags)
    (hopens : l'.openUfrags = l.openUfrags.set i (some ufrag)) (hi : i < l.openUfrags.length)
    (j : Nat) (hne : j ≠ i) : l.openUfrags[j]? ≠ some (some ufrag) := by
  intro hj
  refine hne (eq_of_nodup hdistinct (k := ufrag) ?_ ?_)
  · rw [hopens, getElem?_set_ne hne.symm, hj]
  · rw [hopens, getElem?_set_self hi]

theorem IceListener.Settled.restart (h : l.Settled) (ht : l.transports[i]? = some t)
    (hselected : t.selected = none) (random : Option (Bytes × Bytes))
    (hufrag : (TransportCall.restart i random).DrawsUfrag)
    (hdistinct : (txRestartIceImpl l i t random true).DistinctUfrags)
    (hexact : Directory.Exact l.ufrags l.openUfrags) :
    Directory.Exact (txRestartIceImpl l i t random true).ufrags
        (txRestartIceImpl l i t random true).openUfrags
      ↔ if t.closed then random = none ∧ some t.ufrag ∉ l.openUfrags else random ≠ none := by
  have hi : l.openUfrags[i]? = some t.openUfrag := by
    rw [openUfrags, getElem?_map, ht, Option.map_some]
  obtain ⟨hlt, -⟩ := List.getElem?_eq_some_iff.mp hi
  cases random with
  | none =>
    obtain ⟨-, hufrags, hopens⟩ := h.restart_none (i := i) hselected
    rw [hufrags, hopens, hexact.erase_iff]
    by_cases hclosed : t.closed = true
    · rw [if_pos hclosed]
      exact ⟨fun hfree => ⟨rfl, hfree⟩, And.right⟩
    · -- it has the fragment and is not in the table any more
      rw [openUfrag, if_neg hclosed] at hi
      rw [if_neg hclosed]
      exact ⟨fun hfree => absurd (mem_of_getElem? hi) hfree, fun hne => absurd rfl hne⟩
  | some drawn =>
    obtain ⟨-, hufrags, hopens⟩ := h.restart_some ht hselected drawn.2 hufrag
    rw [hufrags, hopens]
    by_cases hclosed : t.closed = true
    · -- it is in the table and has no fragment
      rw [if_pos hclosed, if_pos hclosed]
      refine ⟨fun hexact' => absurd hexact' ?_, fun hnone => by cases hnone.1⟩
      exact not_exact_of_entry (getElem?_set_self hlt) drawn.1
    · rw [if_neg hclosed, if_neg hclosed]
      rw [if_neg hclosed] at hopens
      rw [openUfrag, if_neg hclosed] at hi
      refine ⟨fun _ => nofun, fun _ => hexact.assign hi ?_⟩
      exact hdistinct.free_at hopens hlt

def TransportCall.Draws (l : IceListener) (call : TransportCall) : Prop :=
  call.DrawsUfrag ∧ ∀ l', transportStep l call = some l' → l'.DistinctUfrags

/-- **What a call does.** -/
theorem IceListener.Settled.step (h : l.Settled) (call : TransportCall) (hdraws : call.Draws l) :
    ∃ l', transportStep l call = some l' ∧ l'.Settled
      ∧ (l.RoutesRequests → (l'.RoutesRequests ↔ call.RestartsOpen l)) := by
  obtain ⟨hufrag, hdistinct⟩ := hdraws
  have hdistinct := hdistinct _ rfl
  suffices hcall : (iceRun l call.ops).Settled ∧ (Directory.Exact l.ufrags l.openUfrags →
      (Directory.Exact (iceRun l call.ops).ufrags (iceRun l call.ops).openUfrags
        ↔ call.RestartsOpen l)) by
    refine ⟨_, rfl, hcall.1, ?_⟩
    rw [h.routesRequests_iff, hcall.1.routesRequests_iff]
    exact hcall.2
  cases call with
  | create mode ufrag pwd =>
    obtain ⟨hsettled, hufrags, hopens⟩ := h.create mode pwd hufrag
    have hrun : iceRun l (TransportCall.create mode ufrag pwd).ops
        = rtcTransportCreate l mode ufrag pwd true := rfl
    rw [hrun] at hdistinct ⊢
    refine ⟨hsettled, fun hexact => iff_true_intro ?_⟩
    rw [hufrags, hopens]
    refine hexact.append fun hmem => ?_
    rw [IceListener.DistinctUfrags, hopens, reduceOption_append, nodup_append]
      at hdistinct
    exact hdistinct.2.2 ufrag (reduceOption_mem_iff.mpr hmem) ufrag
      (reduceOption_mem_iff.mpr (mem_singleton_self _)) rfl
  | restart i random =>
    have hrun : iceRun l (TransportCall.restart i random).ops
        = l.call i fun t => txRestartIceImpl l i t random true := rfl
    rw [hrun, call] at hdistinct ⊢
    unfold TransportCall.RestartsOpen
    cases ht : l.transports[i]? with
    | none => grind
    | some t =>
      rw [ht] at hdistinct
      dsimp only at hdistinct ⊢
      cases hselected : t.selected with
      | some remote =>
        -- it is refused
        rw [txRestartIceImpl, if_pos (by rw [hselected]; rfl)]
        refine ⟨h, fun hexact => iff_of_true hexact fun t' ht' hnone => ?_⟩
        cases ht.symm.trans ht'
        cases hselected.symm.trans hnone
      | none =>
        refine ⟨?_, fun hexact => ?_⟩
        · cases random with
          | none => exact (h.restart_none hselected).1
          | some drawn => exact (h.restart_some ht hselected drawn.2 hufrag).1
        · rw [h.restart ht hselected random hufrag hdistinct hexact]
          refine ⟨fun hrestart t' ht' _ => ?_, fun hrestart => hrestart t ht hselected⟩
          cases ht.symm.trans ht'
          exact hrestart
  | close i =>
    cases ht : l.transports[i]? with
    | none =>
      have hrun : iceRun l (TransportCall.close i).ops = l := by
        have hcall : ∀ f, l.call i f = l := fun f => by rw [call, ht]
        change (l.call i _).call i _ = l
        rw [hcall, hcall]
      rw [hrun]
      exact ⟨h, fun hexact => iff_true_intro hexact⟩
    | some t =>
      obtain ⟨hsettled, hufrags, hopens⟩ := h.close ht
      refine ⟨hsettled, fun hexact => iff_true_intro ?_⟩
      change Directory.Exact (iceRun l [.close i, .teardown i]).ufrags
        (iceRun l [.close i, .teardown i]).openUfrags
      rw [hufrags, hopens]
      refine hexact.release ?_
      rw [openUfrags, getElem?_map, ht, Option.map_some]
  | other op hquiet =>
    obtain ⟨hsettled, hufrags, hopens⟩ := (iceStep_effect l op).settled hquiet h
    refine ⟨hsettled, fun hexact => iff_true_intro ?_⟩
    change Directory.Exact (iceStep l op).ufrags (iceStep l op).openUfrags
    rw [hufrags, hopens]
    exact hexact

end Calls

/-- **Exactly when requests reach their transports.** -/
theorem requests_routed_iff (calls : List TransportCall) (hufrags : ∀ call ∈ calls, call.DrawsUfrag)
    (hdistinct : Trace.EveryPoint transportStep IceListener.DistinctUfrags {} calls) :
    Trace.EveryPoint transportStep IceListener.RoutesRequests {} calls
      ↔ Trace.EveryStep transportStep (fun l call => call.RestartsOpen l) {} calls := by
  have hstart : IceListener.RoutesRequests {} :=
    settled_empty.routesRequests_iff.mpr exact_none
  have hdraws : Trace.EveryStep transportStep (fun l call => call.Draws l) {} calls := by
    intro before call l hbefore hrun
    exact ⟨hufrags call (hbefore.subset (mem_append_right before mem_cons_self)),
      hdistinct.everyStep before call l hbefore hrun⟩
  exact (everyPoint_iff_of transportStep IceListener.Settled IceListener.RoutesRequests
    (fun l call => call.RestartsOpen l) (fun l call hsettled hcall => hsettled.step call hcall)
    settled_empty hstart hdraws).2

def letterUfrag (letter : UInt8) : Bytes := replicate 7 letter

def restartAndClose : List TransportCall :=
  [.create .full (letterUfrag 0x61) [0x70], .create .lite (letterUfrag 0x62) [0x71],
    .restart 0 (some (letterUfrag 0x63, [0x72])), .close 1]

theorem restartAndClose_routed :
    Trace.EveryPoint transportStep IceListener.RoutesRequests {} restartAndClose := by
  refine (requests_routed_iff restartAndClose ?_ ?_).mpr ?_
  · simp only [restartAndClose, forall_mem_cons]
    exact ⟨⟨rfl, by decide, by decide⟩, ⟨rfl, by decide, by decide⟩, ⟨rfl, by decide, by decide⟩,
      trivial, nofun⟩
  · refine (everyPoint_cons rfl).mpr ⟨?_, (everyPoint_cons rfl).mpr ⟨?_,
      (everyPoint_cons rfl).mpr ⟨?_, (everyPoint_cons rfl).mpr ⟨?_,
      everyPoint_nil.mpr ?_⟩⟩⟩⟩
    all_goals
      unfold IceListener.DistinctUfrags
      decide +kernel
  · refine (everyStep_cons rfl).mpr ⟨trivial, (everyStep_cons rfl).mpr ⟨trivial,
      (everyStep_cons rfl).mpr ⟨?_, (everyStep_cons rfl).mpr ⟨trivial,
      everyStep_nil⟩⟩⟩⟩
    rintro t ⟨⟩ -
    exact nofun

/-- A transport that is restarted after it was closed: requests with the fragment it draws are
handed to it, although no transport is open. -/
theorem closedTransport_routed :
    let request := stunMsg stunBindingRequest (replicate 12 0)
      [⟨stunAttrUsername, letterUfrag 0x62 ++ [0x3A, 0x78]⟩]
    let hands := fun calls => (Trace.run transportStep {} calls).map fun l =>
      (l.openUfrags, listenerHands l .stun request.buf (hostAddr 5000))
    hands [.create .full (letterUfrag 0x61) [0x70], .close 0,
        .restart 0 (some (letterUfrag 0x62, [0x71]))] = some ([none], [0])
      ∧ hands [.create .full (letterUfrag 0x62) [0x70], .restart 0 none]
        = some ([some (letterUfrag 0x62)], []) := by
  decide +kernel

end Mrtc
