import Mrtc.Lib.CText
import Mrtc.Map.U32
import Mrtc.Rtp.Extensions

/-! # Which stream an incoming packet is for (`rtc_media_session.c`, `rtc_rtp_demux.c`)

A packet goes to the receive stream that its SSRC is bound to. `midRouting_iff` says when this is the
one of its MID.
-/

set_option autoImplicit false

namespace Mrtc

open Net CText List Function

/-! ## The source -/

def rtcRtpMidMax : Nat := 17

structure RecvStream where
  payloadType : Nat
  active : Bool := false
  onFrame : Bool := false
  mid : Option Bytes := none
  ssrc : UInt32 := 0
  deriving DecidableEq

def rtcRtpRecvStreamCanReceive (rs : RecvStream) (payloadType : Nat) : Bool :=
  rs.active && rs.onFrame && decide (rs.payloadType = payloadType)

def rtcRtpRecvStreamMidMatches (rs : RecvStream) (mid : Bytes) : Bool := decide (rs.mid = some mid)

def rtcRtpRecvStreamSetMid (rs : RecvStream) (mid : Bytes) : RecvStream :=
  { rs with mid := if mid = [] then none else some (mid.take (rtcRtpMidMax - 1)) }

def rtcRtpRecvStreamOnPacket (rs : RecvStream) : Bool := rs.active && rs.onFrame

def rtcRtpExtReadString (e : RtpExt) (cap : Nat) : Bytes :=
  e.data.take (min rtpExtMaxData (cap - 1))

def rtcRtpExtGetString (body : Bytes) (id cap : Nat) : Bytes :=
  if body = [] ∨ id = 0 then []
  else
    match rtcRtpExtParseBody rtpExtMaxEntries body with
    | .error _ => []
    | .ok exts => (rtcRtpExtFind exts id).elim [] fun e => rtcRtpExtReadString e cap

structure RtpRouter where
  midExtId : Nat := 0
  recvStreams : List RecvStream := []
  bySsrc : U32Map Nat := {}
  deriving DecidableEq

def RtpRouter.packetMid (s : RtpRouter) (pkt : RtpPacket) : Option Bytes :=
  if s.midExtId ≠ 0 ∧ pkt.header.extension = true ∧ pkt.extData ≠ none ∧ pkt.extLen ≠ 0 then
    let value := rtcRtpExtGetString pkt.extBody s.midExtId rtcRtpMidMax
    if 0 < value.length then some (cstr value) else none
  else none

def RtpRouter.byMid (s : RtpRouter) (pkt : RtpPacket) : Option Nat :=
  (s.packetMid pkt).bind fun mid =>
    s.recvStreams.findIdx? fun rs =>
      rtcRtpRecvStreamMidMatches rs mid && rtcRtpRecvStreamCanReceive rs pkt.header.payloadType

def RtpRouter.byPayloadType (s : RtpRouter) (pkt : RtpPacket) : Option Nat :=
  s.recvStreams.findIdx? fun rs => rtcRtpRecvStreamCanReceive rs pkt.header.payloadType

def rtcMediaSessionResolve (s : RtpRouter) (pkt : RtpPacket) : Option Nat × RtpRouter :=
  match (s.byMid pkt).or (s.byPayloadType pkt) with
  | none => (none, s)
  | some i =>
    (some i,
      { s with
        recvStreams := s.recvStreams.modify i fun rs => { rs with ssrc := pkt.header.ssrc } })

def RtpRouter.sink (s : RtpRouter) (i : Nat) : Option Nat :=
  if s.recvStreams[i]?.any rtcRtpRecvStreamOnPacket then some i else none

structure Routed where
  frame : Option Nat
  session : RtpRouter
  deriving DecidableEq

def RtpRouter.dispatch (s : RtpRouter) (pkt : RtpPacket) (alloc : Bool) : Option Routed :=
  match rtcU32MapGet s.bySsrc pkt.header.ssrc with
  | none => none
  | some (some i) => some ⟨s.sink i, s⟩
  | some none =>
    match rtcMediaSessionResolve s pkt with
    | (none, s) => some ⟨none, s⟩
    | (some i, s) =>
      (rtcU32MapSet s.bySsrc pkt.header.ssrc (some i) alloc).map fun r =>
        ⟨s.sink i, { s with bySsrc := r.2 }⟩

inductive RouterOp where
  | addReceiver (payloadType : Nat) (alloc : Bool)
  | setActive (i : Nat) (active : Bool)
  | onFrame (i : Nat) (onFrame : Bool)
  | setMid (i : Nat) (mid : Bytes)
  | setMidExtId (id : Nat)
  | bindReceiver (i : Nat) (ssrc : UInt32) (alloc : Bool)
  | packet (pkt : RtpPacket) (alloc : Bool)

def RtpRouter.modify (s : RtpRouter) (i : Nat) (f : RecvStream → RecvStream) : RtpRouter :=
  { s with recvStreams := s.recvStreams.modify i f }

def rtcMediaSessionBindReceiver (s : RtpRouter) (i : Nat) (ssrc : UInt32) (alloc : Bool) :
    Option RtpRouter :=
  if s.recvStreams.length ≤ i then some s
  else
    (rtcU32MapSet s.bySsrc ssrc (some i) alloc).map fun r =>
      { s.modify i (fun rs => { rs with ssrc := ssrc }) with bySsrc := r.2 }

def routerStep (s : RtpRouter) : RouterOp → Option RtpRouter
  | .addReceiver payloadType alloc =>
    some (if alloc then
      { s with recvStreams := s.recvStreams ++ [{ payloadType := payloadType }] }
    else s)
  | .setActive i active => some (s.modify i fun rs => { rs with active := active })
  | .onFrame i onFrame => some (s.modify i fun rs => { rs with onFrame := onFrame })
  | .setMid i mid => some (s.modify i fun rs => rtcRtpRecvStreamSetMid rs mid)
  | .setMidExtId id => some { s with midExtId := id }
  | .bindReceiver i ssrc alloc => rtcMediaSessionBindReceiver s i ssrc alloc
  | .packet pkt alloc => (s.dispatch pkt alloc).map Routed.session

def routerRun (s : RtpRouter) (ops : List RouterOp) : Option RtpRouter :=
  ops.foldlM routerStep s

/-! ## The bindings -/

def RtpRouter.Binds (s : RtpRouter) (bound : UInt32 → Option Nat) : Prop :=
  ∃ S, U32Map.Represents s.bySsrc S ∧ ∀ ssrc, (S.entries ssrc).getD none = bound ssrc

section Binds

variable {s : RtpRouter} {bound : UInt32 → Option Nat}

theorem RtpRouter.Binds.get (h : s.Binds bound) (ssrc : UInt32) :
    rtcU32MapGet s.bySsrc ssrc = some (bound ssrc) := by
  obtain ⟨S, hrep, hbound⟩ := h
  rw [hrep.get, hbound]

theorem RtpRouter.Binds.set (h : s.Binds bound) (ssrc : UInt32) (i : Nat) (alloc : Bool) :
    ∃ r, rtcU32MapSet s.bySsrc ssrc (some i) alloc = some r
      ∧ ∃ now, (now = bound ∨ now = update bound ssrc (some i))
        ∧ ∀ streams midExtId, RtpRouter.Binds ⟨midExtId, streams, r.2⟩ now := by
  obtain ⟨S, hrep, hbound⟩ := h
  rcases hrep.set_cases ssrc (some i) alloc with ⟨hset, -⟩ | ⟨m, hset, hm⟩
  · exact ⟨_, hset, bound, .inl rfl, fun _ _ => ⟨S, hrep, hbound⟩⟩
  · refine ⟨_, hset, _, .inr rfl, fun _ _ => ⟨_, hm, fun key => ?_⟩⟩
    by_cases hkey : key = ssrc
    · subst hkey
      simp only [update_self, Option.getD_some]
    · simp only [update_of_ne hkey, hbound]

end Binds

theorem RtpRouter.sink_modify (s : RtpRouter) (i j : Nat) (ssrc : UInt32) (m : U32Map Nat) :
    RtpRouter.sink
        { s with
          recvStreams := s.recvStreams.modify j fun rs => { rs with ssrc := ssrc }
          bySsrc := m } i
      = s.sink i := by
  have hsame : (s.recvStreams.modify j fun rs => { rs with ssrc := ssrc })[i]?.any
      rtcRtpRecvStreamOnPacket = s.recvStreams[i]?.any rtcRtpRecvStreamOnPacket := by
    rw [getElem?_modify]
    cases s.recvStreams[i]? with
    | none => rfl
    | some rs =>
      dsimp only [Option.map_eq_map, Option.map_some, Option.any_some]
      split <;> rfl
  unfold RtpRouter.sink
  rw [hsame]

variable {s : RtpRouter}

theorem RtpRouter.Binds.dispatch {bound : UInt32 → Option Nat}
    (h : s.Binds bound) (pkt : RtpPacket) (alloc : Bool) :
    ∃ r, s.dispatch pkt alloc = some r
      ∧ r.frame = ((bound pkt.header.ssrc).or ((s.byMid pkt).or (s.byPayloadType pkt))).bind s.sink
      ∧ ∃ now, r.session.Binds now
        ∧ (now = bound
          ∨ bound pkt.header.ssrc = none
            ∧ now = update bound pkt.header.ssrc
              ((s.byMid pkt).or (s.byPayloadType pkt))) := by
  unfold RtpRouter.dispatch
  rw [h.get]
  cases hbound : bound pkt.header.ssrc with
  | some i => exact ⟨_, rfl, rfl, bound, h, .inl rfl⟩
  | none =>
    dsimp only
    unfold rtcMediaSessionResolve
    cases hfound : (s.byMid pkt).or (s.byPayloadType pkt) with
    | none => exact ⟨_, rfl, rfl, bound, h, .inl rfl⟩
    | some i =>
      obtain ⟨r, hset, now, hnow, hbinds⟩ := h.set pkt.header.ssrc i alloc
      dsimp only
      rw [hset]
      exact ⟨_, rfl, s.sink_modify i i _ s.bySsrc, now, hbinds _ _,
        hnow.imp_right fun hnow => ⟨rfl, hnow⟩⟩

theorem routerStep_binds (h : ∃ bound, s.Binds bound) (op : RouterOp) :
    ∃ s', routerStep s op = some s' ∧ ∃ bound, s'.Binds bound := by
  obtain ⟨bound, h⟩ := h
  cases op with
  | addReceiver payloadType alloc => exact ⟨_, rfl, bound, by cases alloc <;> exact h⟩
  | setActive => exact ⟨_, rfl, bound, h⟩
  | onFrame => exact ⟨_, rfl, bound, h⟩
  | setMid => exact ⟨_, rfl, bound, h⟩
  | setMidExtId => exact ⟨_, rfl, bound, h⟩
  | bindReceiver i ssrc alloc =>
    rw [routerStep, rtcMediaSessionBindReceiver]
    split
    · exact ⟨_, rfl, bound, h⟩
    · obtain ⟨r, hset, now, -, hbinds⟩ := h.set ssrc i alloc
      rw [hset]
      exact ⟨_, rfl, now, hbinds _ _⟩
  | packet pkt alloc =>
    obtain ⟨r, hdispatch, -, now, hbinds, -⟩ := h.dispatch pkt alloc
    exact ⟨_, by rw [routerStep, hdispatch, Option.map_some], now, hbinds⟩

theorem routerRun_binds (h : ∃ bound, s.Binds bound) (ops : List RouterOp) :
    ∃ s', routerRun s ops = some s' ∧ ∃ bound, s'.Binds bound := by
  induction ops generalizing s with
  | nil => exact ⟨s, rfl, h⟩
  | cons op ops ih =>
    obtain ⟨s₁, hstep, h₁⟩ := routerStep_binds h op
    obtain ⟨s', hrun, h'⟩ := ih h₁
    refine ⟨s', ?_, h'⟩
    rw [routerRun, foldlM_cons, hstep]
    exact hrun

theorem rtpRouter_binds : RtpRouter.Binds {} fun _ => none :=
  ⟨{}, HashTable.sound_empty u32Hash u32MapEntrySize, fun _ => rfl⟩

/-! ## Following the MID -/

/-- No two streams have the same MID. -/
def DistinctMids (streams : List RecvStream) : Prop :=
  streams.Pairwise fun a b => a.mid = none ∨ a.mid ≠ b.mid

instance (streams : List RecvStream) : Decidable (DistinctMids streams) :=
  inferInstanceAs (Decidable (streams.Pairwise _))

theorem DistinctMids.eq_of_mid {streams : List RecvStream} (h : DistinctMids streams) {i j : Nat}
    {a b : RecvStream} {mid : Bytes} (hi : streams[i]? = some a) (hj : streams[j]? = some b)
    (ha : a.mid = some mid) (hb : b.mid = some mid) : i = j := by
  obtain ⟨hilt, rfl⟩ := List.getElem?_eq_some_iff.mp hi
  obtain ⟨hjlt, rfl⟩ := List.getElem?_eq_some_iff.mp hj
  have hpair := pairwise_iff_getElem.mp h
  rcases Nat.lt_trichotomy i j with hlt | heq | hlt
  · rcases hpair i j hilt hjlt hlt with hnone | hne
    · rw [ha] at hnone
      cases hnone
    · exact absurd (ha.trans hb.symm) hne
  · exact heq
  · rcases hpair j i hjlt hilt hlt with hnone | hne
    · rw [hb] at hnone
      cases hnone
    · exact absurd (hb.trans ha.symm) hne

section Resolve

variable {s : RtpRouter} {pkt : RtpPacket} {mid : Bytes} {k : Nat} {rs : RecvStream}

theorem RtpRouter.byMid_eq (hdistinct : DistinctMids s.recvStreams)
    (hmid : s.packetMid pkt = some mid) (hk : s.recvStreams[k]? = some rs)
    (hrs : rs.mid = some mid) :
    s.byMid pkt
      = if rtcRtpRecvStreamCanReceive rs pkt.header.payloadType then some k else none := by
  have honly : ∀ (i : Nat) (a : RecvStream), s.recvStreams[i]? = some a →
      (rtcRtpRecvStreamMidMatches a mid
        && rtcRtpRecvStreamCanReceive a pkt.header.payloadType) = true →
      i = k ∧ a = rs := by
    intro i a hi hmatch
    obtain ⟨hname, -⟩ := Bool.and_eq_true_iff.mp hmatch
    obtain rfl := hdistinct.eq_of_mid hi hk (of_decide_eq_true hname) hrs
    exact ⟨rfl, Option.some.inj (hi.symm.trans hk)⟩
  rw [RtpRouter.byMid, hmid, Option.bind_some]
  split
  · next hcan =>
    obtain ⟨hlt, hget⟩ := List.getElem?_eq_some_iff.mp hk
    refine findIdx?_eq_some_iff_getElem.mpr ⟨hlt, ?_, fun j hj hmatch => ?_⟩
    · rw [hget]
      exact Bool.and_eq_true_iff.mpr ⟨decide_eq_true hrs, hcan⟩
    · exact absurd (honly j _ (getElem?_eq_getElem _) hmatch).1 (Nat.ne_of_lt hj)
  · next hcan =>
    refine findIdx?_eq_none_iff.mpr fun a ha => Bool.eq_false_iff.mpr fun hmatch => ?_
    obtain ⟨i, hi⟩ := mem_iff_getElem?.mp ha
    obtain ⟨-, rfl⟩ := honly i a hi hmatch
    exact hcan (Bool.and_eq_true_iff.mp hmatch).2

theorem RtpRouter.resolved_iff (hdistinct : DistinctMids s.recvStreams)
    (hmid : s.packetMid pkt = some mid) (hk : s.recvStreams[k]? = some rs)
    (hrs : rs.mid = some mid) :
    (∀ j ∈ (s.byMid pkt).or (s.byPayloadType pkt), j = k)
      ↔ rtcRtpRecvStreamCanReceive rs pkt.header.payloadType = true
        ∨ ∀ a ∈ s.recvStreams, rtcRtpRecvStreamCanReceive a pkt.header.payloadType = false := by
  have hnobody : s.byPayloadType pkt = none ↔ _ := findIdx?_eq_none_iff
  rw [← hnobody, RtpRouter.byMid_eq hdistinct hmid hk hrs]
  split
  · next hcan => exact iff_of_true (fun j hj => (Option.some.inj hj).symm) (.inl hcan)
  · next hcan =>
    rw [Option.none_or, or_iff_right hcan]
    cases hfound : s.byPayloadType pkt with
    | none => exact iff_of_true (fun j hj => (by cases hj)) rfl
    | some i =>
      -- the payload type finds a stream that is ready, which `k` is not
      obtain ⟨hlt, hready, -⟩ := findIdx?_eq_some_iff_getElem.mp hfound
      have hne : i ≠ k := by
        rintro rfl
        obtain rfl := Option.some.inj ((getElem?_eq_getElem hlt).symm.trans hk)
        exact hcan hready
      exact iff_of_false (fun h => hne (h i rfl)) (by simp)

theorem RtpRouter.sink_resolved {i : Nat}
    (h : (s.byMid pkt).or (s.byPayloadType pkt) = some i) : s.sink i = some i := by
  have hsink : ∀ p : RecvStream → Bool,
      (∀ a, p a = true → rtcRtpRecvStreamCanReceive a pkt.header.payloadType = true) →
      s.recvStreams.findIdx? p = some i → s.sink i = some i := by
    intro p hp hfound
    obtain ⟨hlt, hready, -⟩ := findIdx?_eq_some_iff_getElem.mp hfound
    rw [RtpRouter.sink, getElem?_eq_getElem hlt, Option.any_some, if_pos]
    exact (Bool.and_eq_true_iff.mp (hp _ hready)).1
  rcases Option.or_eq_some_iff.mp h with h | ⟨-, h⟩
  · obtain ⟨name, -, hfound⟩ := Option.bind_eq_some_iff.mp h
    exact hsink _ (fun a ha => (Bool.and_eq_true_iff.mp ha).2) hfound
  · exact hsink _ (fun a ha => ha) h

theorem RtpRouter.forall_mem_sink_iff (i : Nat) :
    (∀ j ∈ s.sink i, j = k) ↔ i = k ∨ s.sink i = none := by
  unfold RtpRouter.sink
  split <;> simp

end Resolve

/-- The frame goes to stream `k` and the SSRC is bound to no other stream anew. -/
def Routed.Follows (r : Routed) (s : RtpRouter) (ssrc : UInt32) (k : Nat) : Prop :=
  (∀ j ∈ r.frame, j = k)
    ∧ ∀ j, rtcU32MapGet r.session.bySsrc ssrc = some (some j) →
      j = k ∨ rtcU32MapGet s.bySsrc ssrc = some (some j)

/-- **Exactly when a packet follows its MID.** -/
theorem midRouting_iff {ops : List RouterOp} {s : RtpRouter} (hrun : routerRun {} ops = some s)
    (hdistinct : DistinctMids s.recvStreams) {pkt : RtpPacket} {mid : Bytes}
    (hmid : s.packetMid pkt = some mid) {k : Nat} {rs : RecvStream}
    (hk : s.recvStreams[k]? = some rs) (hrs : rs.mid = some mid) (alloc : Bool) :
    ∃ r, s.dispatch pkt alloc = some r
      ∧ (r.Follows s pkt.header.ssrc k
        ↔ (∃ i, rtcU32MapGet s.bySsrc pkt.header.ssrc = some (some i) ∧ (i = k ∨ s.sink i = none))
          ∨ rtcU32MapGet s.bySsrc pkt.header.ssrc = some none
            ∧ (rtcRtpRecvStreamCanReceive rs pkt.header.payloadType = true
              ∨ ∀ a ∈ s.recvStreams,
                rtcRtpRecvStreamCanReceive a pkt.header.payloadType = false)) := by
  obtain ⟨s', hrun', bound, hbound⟩ := routerRun_binds ⟨_, rtpRouter_binds⟩ ops
  obtain rfl := Option.some.inj (hrun.symm.trans hrun')
  obtain ⟨r, hdispatch, hframe, now, hnow, hcases⟩ := hbound.dispatch pkt alloc
  refine ⟨r, hdispatch, ?_⟩
  simp only [Routed.Follows, hbound.get, hnow.get, hframe, Option.some.injEq]
  rw [← RtpRouter.resolved_iff hdistinct hmid hk hrs]
  cases hssrc : bound pkt.header.ssrc with
  | some i =>
    -- the binding is taken as it is, and stays
    have hkept : now = bound := by
      rcases hcases with hkept | ⟨hnone, -⟩
      · exact hkept
      · rw [hssrc] at hnone
        cases hnone
    rw [hkept, hssrc, Option.some_or, Option.bind_some, RtpRouter.forall_mem_sink_iff,
      and_iff_left fun j hj => .inr hj]
    simp
  | none =>
    have hfound : ((s.byMid pkt).or (s.byPayloadType pkt)).bind s.sink
        = (s.byMid pkt).or (s.byPayloadType pkt) := by
      cases hfound : (s.byMid pkt).or (s.byPayloadType pkt) with
      | none => rfl
      | some i => exact RtpRouter.sink_resolved hfound
    have hbinding : now pkt.header.ssrc = none
        ∨ now pkt.header.ssrc = (s.byMid pkt).or (s.byPayloadType pkt) := by
      rcases hcases with rfl | ⟨-, rfl⟩
      · exact .inl hssrc
      · exact .inr (update_self ..)
    rw [Option.none_or, hfound]
    simp only [reduceCtorEq, false_and, exists_false, or_false, false_or, true_and]
    refine and_iff_left_of_imp fun hto j hj => ?_
    rcases hbinding with hnone | hsame
    · cases hnone.symm.trans hj
    · exact hto j (hsame.symm.trans hj)

def midPacket (ssrc : UInt32) (mid : String) : RtpPacket :=
  { header := builtHeader 96 1 0 ssrc false true
    payload := [1]
    extData := some (rtpExtBytes [⟨4, ascii mid⟩])
    extLen := (rtpExtBytes [⟨4, ascii mid⟩]).length
    buf := none }

def twoVideos : List RouterOp :=
  [.addReceiver 96 true, .addReceiver 96 true, .setActive 0 true, .setActive 1 true,
    .setMid 0 (ascii "0"), .setMid 1 (ascii "1"), .setMidExtId 4, .onFrame 0 true]

theorem readyStream_followed :
    ∃ s r, routerRun {} twoVideos = some s ∧ s.dispatch (midPacket 7 "0") true = some r
      ∧ r.Follows s 7 0 := by
  obtain ⟨r, hdispatch, hfollows⟩ := @midRouting_iff twoVideos _ rfl (by decide +kernel)
    (midPacket 7 "0") (ascii "0") (by decide +kernel) 0 _ rfl rfl true
  exact ⟨_, r, rfl, hdispatch, hfollows.mpr (.inr ⟨by decide +kernel, .inl (by decide +kernel)⟩)⟩

/-- A packet for the second stream is given to the first, and so are those that come after it, with
the callback set by then. -/
theorem unreadyStream_misrouted :
    let first := midPacket 7 "1"
    ∃ s r, routerRun {} twoVideos = some s ∧ s.packetMid first = some (ascii "1")
      ∧ s.dispatch first true = some r ∧ r.frame = some 0
      ∧ rtcU32MapGet r.session.bySsrc 7 = some (some 0)
      ∧ ((routerRun r.session [.onFrame 1 true]).bind (·.dispatch first true)).map Routed.frame
        = some (some 0) := by
  exact ⟨_, _, rfl, by decide +kernel, rfl, by decide +kernel, by decide +kernel, by decide +kernel⟩

end Mrtc
