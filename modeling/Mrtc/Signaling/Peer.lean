import Mrtc.Basic.Err

/-! # Offer and answer (`rtc_peer.c`)

The part of a peer connection that decides when it connects and in which DTLS role: the signaling
state, the two descriptions, and the type of the description it created last.
-/

namespace Mrtc

inductive SdpType where
  | offer
  | answer
  | pranswer
  deriving DecidableEq

inductive SetupRole where
  | active
  | passive
  | actpass
  deriving DecidableEq

inductive SignalingState where
  | stable
  | haveLocalOffer
  | haveRemoteOffer
  | haveLocalPranswer
  | haveRemotePranswer
  | closed
  deriving DecidableEq

inductive ConnectionState where
  | new
  | connecting
  | connected
  | disconnected
  | failed
  | closed
  deriving DecidableEq

inductive DtlsRole where
  | client
  | server
  deriving DecidableEq

structure RtcDesc where
  type : SdpType
  setup : SetupRole
  deriving DecidableEq

structure SignalingPeer where
  localSdp : SdpType := .offer
  signaling : SignalingState := .stable
  localDesc : Option RtcDesc := none
  remoteDesc : Option RtcDesc := none
  connectStarted : Bool := false
  role : DtlsRole := .client
  /-- The DTLS state of the transport is NEW. -/
  dtlsNew : Bool := true
  deriving DecidableEq

def peerCreateDesc (p : SignalingPeer) (desc : RtcDesc) (fits : Bool) :
    Except RtcErr RtcDesc × SignalingPeer :=
  if fits then (.ok desc, { p with localSdp := desc.type }) else (.error .sdp, p)

def offerDesc : RtcDesc := ⟨.offer, .actpass⟩
def answerDesc : RtcDesc := ⟨.answer, .active⟩

def rtcPeerConnectionCreateOffer (p : SignalingPeer) (fits : Bool) :
    Except RtcErr RtcDesc × SignalingPeer :=
  peerCreateDesc p offerDesc fits

def rtcPeerConnectionCreateAnswer (p : SignalingPeer) (fits : Bool) :
    Except RtcErr RtcDesc × SignalingPeer :=
  peerCreateDesc p answerDesc fits

def peerTryConnect (p : SignalingPeer) : SignalingPeer :=
  if p.localDesc.isNone || p.remoteDesc.isNone then p
  else if p.connectStarted then p
  else if p.signaling ≠ .stable then p
  else { p with connectStarted := true }

/-- The signaling state after a description of the given type, if an answer to it is awaited in
the state `pending` and an offer leads to `offered`. -/
def nextSignaling (offered pending : SignalingState) (type : SdpType) (signaling : SignalingState) :
    SignalingState :=
  match type with
  | .offer => offered
  | .answer => if signaling = pending then .stable else signaling
  | .pranswer => signaling

def rtcPeerConnectionSetLocalDesc (p : SignalingPeer) (desc : RtcDesc) :
    Except RtcErr Unit × SignalingPeer :=
  if p.connectStarted then (.error .invalid, p)
  else
    (.ok (), peerTryConnect
      { p with
        localDesc := some desc
        signaling := nextSignaling .haveLocalOffer .haveRemoteOffer desc.type p.signaling })

/-- The role that `peer_runtime_set_remote_desc` asks the transport to take. -/
def peerRuntimeSetRemoteDesc (localSdp : SdpType) (setup : SetupRole) : Option DtlsRole :=
  if localSdp = .offer ∧ setup = .active then some .server
  else if localSdp = .answer ∨ setup = .actpass then some .client
  else none

/-- The transport refuses a change once DTLS has left NEW, and the caller ignores the error. -/
def rtcTransportSetDtlsRole (p : SignalingPeer) (asked : Option DtlsRole) : DtlsRole :=
  if p.dtlsNew then asked.getD p.role else p.role

def rtcPeerConnectionSetRemoteDesc (p : SignalingPeer) (desc : RtcDesc) :
    Except RtcErr Unit × SignalingPeer :=
  if p.connectStarted then (.error .invalid, p)
  else
    (.ok (), peerTryConnect
      { p with
        remoteDesc := some desc
        role := rtcTransportSetDtlsRole p (peerRuntimeSetRemoteDesc p.localSdp desc.setup)
        signaling := nextSignaling .haveRemoteOffer .haveLocalOffer desc.type p.signaling })

/-! ## Runs of one peer -/

inductive SignalingOp where
  | createOffer (fits : Bool)
  | createAnswer (fits : Bool)
  | setLocal (desc : RtcDesc)
  | setRemote (desc : RtcDesc)
  deriving DecidableEq

inductive DescSide where
  | ours
  | theirs
  deriving DecidableEq

open DescSide

def DescSide.other : DescSide → DescSide
  | .ours => .theirs
  | .theirs => .ours

def SignalingPeer.desc (p : SignalingPeer) : DescSide → Option RtcDesc
  | .ours => p.localDesc
  | .theirs => p.remoteDesc

structure SignalingRun where
  peer : SignalingPeer := {}
  accepted : List (DescSide × SdpType) := []
  deriving DecidableEq

def SignalingRun.note (r : SignalingRun) (side : DescSide) (type : SdpType)
    (result : Except RtcErr Unit × SignalingPeer) : SignalingRun :=
  match result.1 with
  | .error _ => { r with peer := result.2 }
  | .ok _ => { peer := result.2, accepted := r.accepted ++ [(side, type)] }

def signalingStep (r : SignalingRun) : SignalingOp → SignalingRun
  | .createOffer fits => { r with peer := (rtcPeerConnectionCreateOffer r.peer fits).2 }
  | .createAnswer fits => { r with peer := (rtcPeerConnectionCreateAnswer r.peer fits).2 }
  | .setLocal desc => r.note .ours desc.type (rtcPeerConnectionSetLocalDesc r.peer desc)
  | .setRemote desc => r.note .theirs desc.type (rtcPeerConnectionSetRemoteDesc r.peer desc)

def signalingRun (ops : List SignalingOp) : SignalingRun := ops.foldl signalingStep {}

/-- One side holds an offer, and the other an answer that came after it. -/
def SignalingRun.OfferThenAnswer (r : SignalingRun) : Prop :=
  ∃ side : DescSide, (r.peer.desc side).map RtcDesc.type = some .offer
    ∧ (r.peer.desc side.other).map RtcDesc.type = some .answer
    ∧ ∃ before between,
      r.accepted = before ++ (side, .offer) :: between ++ [(side.other, .answer)]
        ∧ ∀ e ∈ between, e.1 = side.other

def SignalingOp.inOrder (r : SignalingRun) : SignalingOp → Bool
  | .setLocal desc => desc.type == .offer || r.peer.signaling == .haveRemoteOffer
  | .setRemote desc => desc.type == .offer || r.peer.signaling == .haveLocalOffer
  | _ => true

def inOrderRun (r : SignalingRun) : List SignalingOp → Bool
  | [] => true
  | op :: ops => op.inOrder r && inOrderRun (signalingStep r op) ops

/-! ## Connections start after an answer -/

def DescSide.offered : DescSide → SignalingState
  | .ours => .haveLocalOffer
  | .theirs => .haveRemoteOffer

@[simp] theorem DescSide.other_other (side : DescSide) : side.other.other = side := by
  cases side with
  | ours => rfl
  | theirs => rfl

theorem DescSide.eq_or_other (side side' : DescSide) : side' = side ∨ side' = side.other := by
  cases side <;> cases side' <;> simp [other]

theorem DescSide.offered_ne_stable (side : DescSide) : side.offered ≠ .stable := by
  cases side with
  | ours => exact SignalingState.noConfusion
  | theirs => exact SignalingState.noConfusion

theorem DescSide.offered_inj {side side' : DescSide} (h : side.offered = side'.offered) :
    side = side' := by
  cases side <;> cases side' <;> simp_all [offered]

def SignalingRun.Offers (accepted : List (DescSide × SdpType)) (side : DescSide) : Prop :=
  ∃ before between, accepted = before ++ (side, .offer) :: between ∧ ∀ e ∈ between, e.1 = side.other

structure SignalingRun.Ordered (r : SignalingRun) : Prop where
  started : r.peer.connectStarted = true → r.OfferThenAnswer
  state : r.peer.connectStarted = false →
    r.peer.signaling = .stable ∨ ∃ side : DescSide, r.peer.signaling = side.offered
  offered : r.peer.connectStarted = false → ∀ side : DescSide, r.peer.signaling = side.offered →
    (r.peer.desc side).map RtcDesc.type = some .offer ∧ SignalingRun.Offers r.accepted side

variable {p : SignalingPeer} {r : SignalingRun}

theorem peerTryConnect_stays (h : p.signaling ≠ .stable) : peerTryConnect p = p := by
  unfold peerTryConnect
  rw [if_pos h]
  split_ifs <;> rfl

theorem peerTryConnect_starts (hboth : ∀ side, p.desc side ≠ none)
    (hstarted : p.connectStarted = false) (hstable : p.signaling = .stable) :
    peerTryConnect p = { p with connectStarted := true } := by
  have hlocal : p.localDesc ≠ none := hboth .ours
  have hremote : p.remoteDesc ≠ none := hboth .theirs
  simp [peerTryConnect, hlocal, hremote, hstarted, hstable]

theorem SignalingRun.Ordered.apply (h : r.Ordered) (side : DescSide)
    {desc : RtcDesc} (hbefore : r.peer.connectStarted = false)
    (horder : desc.type = .offer ∨ r.peer.signaling = side.other.offered)
    (hdesc : p.desc side = some desc) (hother : p.desc side.other = r.peer.desc side.other)
    (hsignaling : p.signaling
      = nextSignaling side.offered side.other.offered desc.type r.peer.signaling)
    (hstarted : p.connectStarted = false) :
    SignalingRun.Ordered ⟨peerTryConnect p, r.accepted ++ [(side, desc.type)]⟩ := by
  cases htype : desc.type with
  | offer =>
    -- the offer is open now, and it is the last description
    rw [htype] at hsignaling
    have hstate : p.signaling = side.offered := hsignaling
    rw [peerTryConnect_stays (by rw [hstate]; exact side.offered_ne_stable)]
    refine ⟨?_, fun _ => Or.inr ⟨side, hstate⟩, ?_⟩
    · intro hnot
      rw [hstarted] at hnot
      cases hnot
    · intro _ side' hside'
      obtain rfl := offered_inj (hstate.symm.trans hside')
      refine ⟨?_, r.accepted, [], rfl, by simp⟩
      rw [hdesc, Option.map_some, htype]
  | answer =>
    -- the offer of the other side is answered: this is where the connection starts
    have hopen : r.peer.signaling = side.other.offered := by grind
    obtain ⟨hoffer, before, between, haccepted, hbetween⟩ := h.offered hbefore side.other hopen
    have hstable : p.signaling = .stable := by
      rw [hsignaling, htype]
      exact if_pos hopen
    have hboth : ∀ side', p.desc side' ≠ none := by
      intro side' hnone
      rcases side.eq_or_other side' with rfl | rfl
      · rw [hdesc] at hnone
        cases hnone
      · rw [← hother, hnone] at hoffer
        cases hoffer
    rw [peerTryConnect_starts hboth hstarted hstable]
    refine ⟨fun _ => ⟨side.other, ?_, ?_, before, between, ?_, hbetween⟩, ?_, ?_⟩
    · have hkept : p.desc side.other = r.peer.desc side.other := hother
      rw [← hkept] at hoffer
      cases side with
      | ours => exact hoffer
      | theirs => exact hoffer
    · rw [other_other, ← htype]
      cases side with
      | ours => exact congrArg (Option.map RtcDesc.type) hdesc
      | theirs => exact congrArg (Option.map RtcDesc.type) hdesc
    · rw [haccepted, other_other]
    · intro hnot
      cases hnot
    · intro hnot
      cases hnot
  | pranswer =>
    have hopen : r.peer.signaling = side.other.offered := by grind
    obtain ⟨hsome, before, between, haccepted, hbetween⟩ := h.offered hbefore side.other hopen
    have hstate : p.signaling = side.other.offered := by
      rw [hsignaling, htype]
      exact hopen
    rw [peerTryConnect_stays (by rw [hstate]; exact side.other.offered_ne_stable)]
    refine ⟨?_, fun _ => Or.inr ⟨side.other, hstate⟩, ?_⟩
    · intro hnot
      rw [hstarted] at hnot
      cases hnot
    · intro _ side' hside'
      obtain rfl := offered_inj (hstate.symm.trans hside')
      refine ⟨by rw [hother]; exact hsome, before, between ++ [(side, .pranswer)], ?_, ?_⟩
      · rw [haccepted, List.append_assoc, List.cons_append]
      · intro e he
        rcases List.mem_append.mp he with hold | hlast
        · exact hbetween e hold
        · rw [List.mem_singleton.mp hlast, other_other]

theorem SignalingRun.Ordered.create (h : r.Ordered) (desc : RtcDesc) (fits : Bool) :
    SignalingRun.Ordered { r with peer := (peerCreateDesc r.peer desc fits).2 } := by
  unfold peerCreateDesc
  split
  · refine ⟨h.started, h.state, ?_⟩
    intro hbefore side hside
    cases side with
    | ours => exact h.offered hbefore .ours hside
    | theirs => exact h.offered hbefore .theirs hside
  · exact h

theorem SignalingRun.Ordered.step (h : r.Ordered) (op : SignalingOp)
    (horder : op.inOrder r = true) : (signalingStep r op).Ordered := by
  cases op with
  | createOffer fits => exact h.create offerDesc fits
  | createAnswer fits => exact h.create answerDesc fits
  | setLocal desc =>
    unfold signalingStep rtcPeerConnectionSetLocalDesc
    cases hbefore : r.peer.connectStarted with
    | true => exact h
    | false =>
      have hopen : desc.type = .offer ∨ r.peer.signaling = .haveRemoteOffer := by
        simpa [SignalingOp.inOrder] using horder
      exact h.apply .ours hbefore hopen rfl rfl rfl rfl
  | setRemote desc =>
    unfold signalingStep rtcPeerConnectionSetRemoteDesc
    cases hbefore : r.peer.connectStarted with
    | true => exact h
    | false =>
      have hopen : desc.type = .offer ∨ r.peer.signaling = .haveLocalOffer := by
        simpa [SignalingOp.inOrder] using horder
      exact h.apply .theirs hbefore hopen rfl rfl rfl rfl

theorem SignalingRun.Ordered.run (ops : List SignalingOp) : ∀ {r : SignalingRun}, r.Ordered →
    inOrderRun r ops = true → (ops.foldl signalingStep r).Ordered := by
  induction ops with
  | nil =>
    intro r h _
    exact h
  | cons op ops ih =>
    intro r h horder
    simp only [inOrderRun, Bool.and_eq_true] at horder
    exact ih (h.step op horder.1) horder.2

/-- If answers are applied only to an open offer of the other side, a connection starts only after
an OFFER of one side and then an ANSWER of the other. -/
theorem signalingRun_offerThenAnswer (ops : List SignalingOp) (horder : inOrderRun {} ops = true)
    (hstarted : (signalingRun ops).peer.connectStarted = true) :
    (signalingRun ops).OfferThenAnswer := by
  have hfresh : SignalingRun.Ordered {} := by
    refine ⟨?_, fun _ => Or.inl rfl, ?_⟩
    · intro hnot
      cases hnot
    · intro _ side hside
      exact absurd hside.symm side.offered_ne_stable
  exact (hfresh.run ops horder).started hstarted

def yieldingOps : List SignalingOp :=
  [.createOffer true, .setLocal offerDesc, .setRemote offerDesc, .createAnswer true,
    .setLocal ⟨.pranswer, .active⟩, .setLocal answerDesc]

theorem yieldingOps_offerThenAnswer :
    inOrderRun {} yieldingOps = true ∧ (signalingRun yieldingOps).peer.connectStarted = true
      ∧ (signalingRun yieldingOps).OfferThenAnswer :=
  ⟨by decide, by decide, signalingRun_offerThenAnswer yieldingOps (by decide) (by decide)⟩

def answersOnly : List SignalingOp := [.setLocal answerDesc, .setRemote answerDesc]

/-- In the state STABLE an answer is taken without an offer, and the second one starts the
connection. -/
theorem answersOnly_starts :
    (signalingRun answersOnly).peer.connectStarted = true
      ∧ ¬ (signalingRun answersOnly).OfferThenAnswer := by
  refine ⟨by decide, ?_⟩
  rintro ⟨side, hoffer, _⟩
  cases side with
  | ours => cases hoffer
  | theirs => cases hoffer

end Mrtc
