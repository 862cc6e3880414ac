import Mrtc.Sdp.Generate
import Mrtc.Signaling.Roster

/-! # Offers, answers and candidates between clients

A client sends an offer, an answer or a candidate for a peer to the server
(`signaling_client.c`).
-/

namespace Mrtc

open Net CText MeetingManager List Function

/-! ## The client -/

structure SignalingClient where
  connected : Bool := false
  queue : List Bytes := []

def enqueueMsg (sc : SignalingClient) (text : Bytes) (alloc : Bool) : SignalingClient :=
  if alloc then { sc with queue := sc.queue ++ [text] } else sc

def signalingSend (codec : JsonCodec) (sc : SignalingClient) (json : Json) (alloc : Bool) :
    Except RtcErr Unit × SignalingClient :=
  if sc.connected then (.ok (), enqueueMsg sc (codec.print json) alloc) else (.error .invalid, sc)

def signalingSendOffer (codec : JsonCodec) (sc : SignalingClient) (toId sdp : CString)
    (alloc : Bool) : Except RtcErr Unit × SignalingClient :=
  signalingSend codec sc (sigMsgBuildOffer toId sdp) alloc

def signalingSendAnswer (codec : JsonCodec) (sc : SignalingClient) (toId sdp : CString)
    (alloc : Bool) : Except RtcErr Unit × SignalingClient :=
  signalingSend codec sc (sigMsgBuildAnswer toId sdp) alloc

def signalingSendCandidate (codec : JsonCodec) (sc : SignalingClient) (toId candidate : CString)
    (alloc : Bool) : Except RtcErr Unit × SignalingClient :=
  signalingSend codec sc (sigMsgBuildCandidate toId candidate) alloc

inductive SignalingEvent where
  | joined (peerId : CString) (peers : List CString)
  | peerJoined (peerId : CString)
  | peerLeft (peerId : CString)
  | offer (fromId sdp : CString)
  | answer (fromId sdp : CString)
  | candidate (fromId candidate : CString)
  | error (message : CString)
  deriving DecidableEq

def dispatchMessage (codec : JsonCodec) (data : Bytes) : Option SignalingEvent :=
  match sigMsgParse (codec.parse data) with
  | none => none
  | some msg =>
    match msg.type with
    | .joined => some (.joined msg.peerId msg.peers)
    | .peerJoined => some (.peerJoined msg.peerId)
    | .peerLeft => some (.peerLeft msg.peerId)
    | .offer => some (.offer msg.fromId msg.sdp)
    | .answer => some (.answer msg.fromId msg.sdp)
    | .candidate => some (.candidate msg.fromId msg.candidate)
    | .error => some (.error msg.errorMsg)
    | .join | .leave => none

/-! ## The server -/

def maxPendingMsgs : Nat := 64

abbrev Queues : Type := Nat → List Bytes

def queueMessage (codec : JsonCodec) (p : Nat) (json : Json) (queues : Queues) : Queues :=
  if maxPendingMsgs ≤ (queues p).length then queues
  else update queues p (queues p ++ [codec.print json])

def invalidMessage : CString := ⟨ascii "invalid message", by decide⟩
def unsupportedType : CString := ⟨ascii "unsupported message type", by decide⟩

def tellError (codec : JsonCodec) (mgr : MeetingManager Queues) (p : Nat) (text : CString) :
    MeetingManager Queues :=
  { mgr with world := queueMessage codec p (sigMsgBuildError text) mgr.world }

def relayMessage (codec : JsonCodec) (mgr : MeetingManager Queues) (p : Nat) (toId : CString)
    (build : CString → Json) : Option (MeetingManager Queues) :=
  match mgr.peers[p]? with
  | none => none
  | some peer =>
    (meetingRouteMessage (queueMessage codec) mgr p toId (build peer.id)).map Prod.snd

def handleMessage (codec : JsonCodec) (mgr : MeetingManager Queues) (p : Nat) (data : Bytes)
    (allocs : StrAlloc × StrAlloc) : Option (MeetingManager Queues) :=
  match sigMsgParse (codec.parse data) with
  | none => some (tellError codec mgr p invalidMessage)
  | some msg =>
    match msg.type with
    | .join => (meetingJoin (queueMessage codec) mgr p msg.meeting allocs).map Prod.snd
    | .leave => meetingLeave (queueMessage codec) mgr p allocs.1
    | .offer => relayMessage codec mgr p msg.toId fun id => sigMsgBuildRelayOffer id msg.sdp
    | .answer => relayMessage codec mgr p msg.toId fun id => sigMsgBuildRelayAnswer id msg.sdp
    | .candidate =>
      relayMessage codec mgr p msg.toId fun id => sigMsgBuildRelayCandidate id msg.candidate
    | .joined | .peerJoined | .peerLeft | .error =>
      some (tellError codec mgr p unsupportedType)

/-! ## The three messages that are relayed -/

inductive RelayKind where
  | offer
  | answer
  | candidate
  deriving DecidableEq

namespace RelayKind

def limit : RelayKind → Nat
  | .offer | .answer => sigMaxSdp
  | .candidate => sigMaxCandidate

def send : RelayKind → JsonCodec → SignalingClient → CString → CString → Bool →
    Except RtcErr Unit × SignalingClient
  | .offer => signalingSendOffer
  | .answer => signalingSendAnswer
  | .candidate => signalingSendCandidate

def build : RelayKind → CString → CString → Json
  | .offer => sigMsgBuildOffer
  | .answer => sigMsgBuildAnswer
  | .candidate => sigMsgBuildCandidate

def buildRelay : RelayKind → CString → CString → Json
  | .offer => sigMsgBuildRelayOffer
  | .answer => sigMsgBuildRelayAnswer
  | .candidate => sigMsgBuildRelayCandidate

def msg : RelayKind → (toId fromId text : CString) → SigMsg
  | .offer, toId, fromId, text => { type := .offer, toId, fromId, sdp := text }
  | .answer, toId, fromId, text => { type := .answer, toId, fromId, sdp := text }
  | .candidate, toId, fromId, text => { type := .candidate, toId, fromId, candidate := text }

def event : RelayKind → CString → CString → SignalingEvent
  | .offer => .offer
  | .answer => .answer
  | .candidate => .candidate

section

variable (kind : RelayKind)
include kind

theorem event_inj {fromId text text' : CString} :
    kind.event fromId text = kind.event fromId text' ↔ text = text' := by
  cases kind <;> simp [event]

theorem send_eq (codec : JsonCodec) {sc : SignalingClient}
    (hconnected : sc.connected = true) (toId text : CString) :
    kind.send codec sc toId text true
      = (.ok (), { sc with queue := sc.queue ++ [codec.print (kind.build toId text)] }) := by
  cases kind <;>
    simp [send, build, signalingSendOffer, signalingSendAnswer, signalingSendCandidate,
      signalingSend, enqueueMsg, hconnected]

theorem sigMsgParse_build (toId text : CString) :
    sigMsgParse (some (kind.build toId text))
      = some (kind.msg (toId.take (sigMaxPeerId - 1)) CString.empty (text.take (kind.limit - 1))) := by
  cases kind with
  | offer =>
    rw [build, sigMsgBuildOffer, makeMessage, sigMsgParse_type]
    simp [sigMsgFields, msg, limit, Json.item, lookup_cons, safeCopy]
  | answer =>
    rw [build, sigMsgBuildAnswer, makeMessage, sigMsgParse_type]
    simp [sigMsgFields, msg, limit, Json.item, lookup_cons, safeCopy]
  | candidate =>
    rw [build, sigMsgBuildCandidate, makeMessage, sigMsgParse_type]
    simp [sigMsgFields, msg, limit, Json.item, lookup_cons, safeCopy]

theorem sigMsgParse_buildRelay (fromId text : CString) :
    sigMsgParse (some (kind.buildRelay fromId text))
      = some (kind.msg CString.empty (fromId.take (sigMaxPeerId - 1))
          (text.take (kind.limit - 1))) := by
  cases kind with
  | offer =>
    rw [buildRelay, sigMsgBuildRelayOffer, makeMessage, sigMsgParse_type]
    simp [sigMsgFields, msg, limit, Json.item, lookup_cons, safeCopy]
  | answer =>
    rw [buildRelay, sigMsgBuildRelayAnswer, makeMessage, sigMsgParse_type]
    simp [sigMsgFields, msg, limit, Json.item, lookup_cons, safeCopy]
  | candidate =>
    rw [buildRelay, sigMsgBuildRelayCandidate, makeMessage, sigMsgParse_type]
    simp [sigMsgFields, msg, limit, Json.item, lookup_cons, safeCopy]

theorem handleMessage_build (codec : JsonCodec) (mgr : MeetingManager Queues)
    (p : Nat) (toId text : CString) (allocs : StrAlloc × StrAlloc) :
    handleMessage codec mgr p (codec.print (kind.build toId text)) allocs
      = relayMessage codec mgr p (toId.take (sigMaxPeerId - 1))
          fun id => kind.buildRelay id (text.take (kind.limit - 1)) := by
  rw [handleMessage, codec.parse_print, sigMsgParse_build]
  cases kind <;> rfl

theorem dispatchMessage_buildRelay (codec : JsonCodec) (fromId text : CString) :
    dispatchMessage codec (codec.print (kind.buildRelay fromId text))
      = some (kind.event (fromId.take (sigMaxPeerId - 1)) (text.take (kind.limit - 1))) := by
  rw [dispatchMessage, codec.parse_print, sigMsgParse_buildRelay]
  cases kind <;> rfl

end

end RelayKind

theorem CString.take_take (s : CString) (n : Nat) : (s.take n).take n = s.take n :=
  CString.take_of_le (length_take_le n s.val)

theorem CString.take_eq_self_iff {s : CString} {n : Nat} : s.take n = s ↔ s.val.length ≤ n := by
  rw [Subtype.ext_iff]
  exact List.take_eq_self_iff s.val

/-! ## Routing -/

/-- The live peer `p` can address `q`, which is in its meeting. -/
structure MeetingManager.Addresses {σ : Type} (mgr : MeetingManager σ) (p q : Nat)
    (peer other : MeetingPeer) : Prop where
  sender : mgr.peers[p]? = some peer
  live : peer.freed = false
  meeting : ∃ idx m, peer.meetingIdx = some idx ∧ mgr.meetings[idx]? = some m ∧ q ∈ m.peers
  member : mgr.peers[q]? = some other
  distinct : DistinctIds mgr.peers

theorem MeetingManager.Addresses.route {σ : Type} {mgr : MeetingManager σ} {p q : Nat}
    {peer other : MeetingPeer} (h : mgr.Addresses p q peer other) (send : Nat → Json → σ → σ)
    (json : Json) :
    meetingRouteMessage send mgr p other.id json
      = some (true, { mgr with world := send q json mgr.world }) := by
  obtain ⟨idx, m, hidx, hm, hq⟩ := h.meeting
  have hname : nameOf mgr.peers q = some other.id.val := by rw [nameOf, h.member, Option.map_some]
  -- the loop stops at the first peer with the id, and there is only one
  have hfind : (m.peers.find? fun r =>
      mgr.peers[r]?.map (fun peer => peer.id.val) == some other.id.val) = some q := by
    cases hfound : m.peers.find? fun r =>
        mgr.peers[r]?.map (fun peer => peer.id.val) == some other.id.val with
    | none =>
      have hne := find?_eq_none.mp hfound q hq
      exact absurd (beq_iff_eq.mpr hname) hne
    | some r =>
      have hr := find?_some hfound
      rw [h.distinct r q _ (beq_iff_eq.mp hr) hname]
  rw [meetingRouteMessage, h.sender]
  dsimp only
  rw [if_neg (by rw [h.live]; exact Bool.false_ne_true), hidx]
  dsimp only
  rw [hm]
  dsimp only
  rw [hfind]

section

variable (codec : JsonCodec) {mgr : MeetingManager Queues} {p q : Nat} {peer other : MeetingPeer}

theorem handleMessage_relayed (h : mgr.Addresses p q peer other)
    (hroom : (mgr.world q).length < maxPendingMsgs) (kind : RelayKind) (text : CString)
    (allocs : StrAlloc × StrAlloc) :
    ∃ relayed mgr',
      handleMessage codec mgr p (codec.print (kind.build other.id text)) allocs = some mgr'
      ∧ mgr'.world = update mgr.world q (mgr.world q ++ [relayed])
      ∧ dispatchMessage codec relayed
        = some (kind.event peer.id (text.take (kind.limit - 1))) := by
  have hhandle : handleMessage codec mgr p (codec.print (kind.build other.id text)) allocs
      = some { mgr with
        world := queueMessage codec q (kind.buildRelay peer.id (text.take (kind.limit - 1)))
          mgr.world } := by
    rw [kind.handleMessage_build, other.id.take, relayMessage, h.sender]
    dsimp only
    rw [h.route, Option.map_some]
  refine ⟨_, _, hhandle, if_neg (Nat.not_le.mpr hroom), ?_⟩
  -- the client cuts once more, what is left fits
  rw [kind.dispatchMessage_buildRelay, peer.id.take, CString.take_take]

/-- **Relaying.** -/
theorem relay_exact_iff (sc : SignalingClient) (hconnected : sc.connected = true)
    (h : mgr.Addresses p q peer other) (hroom : (mgr.world q).length < maxPendingMsgs)
    (kind : RelayKind) (text : CString) (allocs : StrAlloc × StrAlloc) :
    ∃ data mgr' relayed event,
      kind.send codec sc other.id text true = (.ok (), { sc with queue := sc.queue ++ [data] })
      ∧ handleMessage codec mgr p data allocs = some mgr'
      ∧ mgr'.world = update mgr.world q (mgr.world q ++ [relayed])
      ∧ dispatchMessage codec relayed = some event
      ∧ (event = kind.event peer.id text ↔ text.val.length < kind.limit) := by
  obtain ⟨relayed, mgr', hhandle, hworld, hdispatch⟩ :=
    handleMessage_relayed codec h hroom kind text allocs
  refine ⟨_, mgr', relayed, _, kind.send_eq codec hconnected other.id text, hhandle, hworld,
    hdispatch, ?_⟩
  have hlimit : 0 < kind.limit := by cases kind <;> decide
  rw [kind.event_inj, CString.take_eq_self_iff]
  omega

end

/-! ## Two peers -/

noncomputable def anyCodec : JsonCodec := Classical.choice JsonCodec.nonempty

theorem alice_meets_bob :
    ∃ mgr, meetingRun (queueMessage anyCodec) (meetingManagerInit [alice, bob] fun _ => [])
        (meetAndPart.take 2) = some mgr
      ∧ mgr.Addresses 0 1 { id := alice, meetingIdx := some 0 } { id := bob, meetingIdx := some 0 }
      ∧ (mgr.world 1).length < maxPendingMsgs := by
  have hrun : (meetingRun (queueMessage anyCodec) (meetingManagerInit [alice, bob] fun _ => [])
        (meetAndPart.take 2)).map
        (fun mgr => (mgr.peers, mgr.meetings[0]?, (mgr.world 1).length))
      = some ([{ id := alice, meetingIdx := some 0 }, { id := bob, meetingIdx := some 0 }],
        some { name := standup, peers := [0, 1], active := true }, 1) := by
    decide +kernel
  obtain ⟨mgr, hmgr, heq⟩ := Option.map_eq_some_iff.mp hrun
  simp only [Prod.mk.injEq] at heq
  obtain ⟨hpeers, hm, hlen⟩ := heq
  refine ⟨mgr, hmgr, ⟨by rw [hpeers]; rfl, rfl, ⟨0, _, rfl, hm, by simp⟩, by rw [hpeers]; rfl, ?_⟩,
    by rw [hlen]; decide⟩
  have hne : alice.val ≠ bob.val := by decide
  rw [hpeers]
  rintro (_ | _ | p) (_ | _ | q) x hp hq <;> simp_all [nameOf]

theorem standup_relayed :
    ∃ mgr data mgr' relayed event,
      meetingRun (queueMessage anyCodec) (meetingManagerInit [alice, bob] fun _ => [])
        (meetAndPart.take 2) = some mgr
      ∧ signalingSendCandidate anyCodec { connected := true } bob standup true
        = (.ok (), { connected := true, queue := [data] })
      ∧ handleMessage anyCodec mgr 0 data ({}, {}) = some mgr'
      ∧ mgr'.world = update mgr.world 1 (mgr.world 1 ++ [relayed])
      ∧ dispatchMessage anyCodec relayed = some event
      ∧ (event = .candidate alice standup ↔ standup.val.length < sigMaxCandidate) := by
  obtain ⟨mgr, hrun, haddresses, hroom⟩ := alice_meets_bob
  obtain ⟨data, mgr', relayed, event, hsend, hrest⟩ := relay_exact_iff anyCodec
    { connected := true } rfl haddresses hroom .candidate standup ({}, {})
  exact ⟨mgr, data, mgr', relayed, event, hrun, hsend, hrest⟩

def longSdp : CString := ⟨replicate sigMaxSdp 97, by simp⟩

/-- An offer that the SDP layer may write arrives without its last byte. -/
theorem longSdp_cut :
    longSdp.val.length < sdpMaxSize ∧ ∃ mgr mgr' relayed,
      meetingRun (queueMessage anyCodec) (meetingManagerInit [alice, bob] fun _ => [])
        (meetAndPart.take 2) = some mgr
      ∧ handleMessage anyCodec mgr 0 (anyCodec.print (sigMsgBuildOffer bob longSdp)) ({}, {})
        = some mgr'
      ∧ mgr'.world = update mgr.world 1 (mgr.world 1 ++ [relayed])
      ∧ dispatchMessage anyCodec relayed = some (.offer alice (longSdp.take 4095))
      ∧ longSdp.take 4095 ≠ longSdp := by
  obtain ⟨mgr, hrun, haddresses, hroom⟩ := alice_meets_bob
  obtain ⟨relayed, mgr', hhandle, hworld, hdispatch⟩ :=
    handleMessage_relayed anyCodec haddresses hroom .offer longSdp ({}, {})
  have hlong : longSdp.val.length = 4096 := length_replicate
  refine ⟨by rw [hlong]; decide, mgr, mgr', relayed, hrun, hhandle, hworld, hdispatch, ?_⟩
  rw [Ne, CString.take_eq_self_iff, hlong]
  decide

end Mrtc
