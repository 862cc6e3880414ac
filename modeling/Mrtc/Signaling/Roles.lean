import Mrtc.Basic.Side
import Mrtc.Signaling.Peer

/-! # DTLS roles of two peers

Two peers that exchange their descriptions, while DTLS packets may reach their transports. Under the
offer/answer discipline one of them is the client and the other the server
(`pairRun_complementary`).
-/

namespace Mrtc

open Function

structure SignalingPair where
  peer : Side → SignalingPeer := fun _ => {}
  created : Side → List RtcDesc := fun _ => []

inductive PairOp where
  | createOffer (x : Side) (fits : Bool)
  | createAnswer (x : Side) (fits : Bool)
  | setLocal (x : Side) (desc : RtcDesc)
  | setRemote (x : Side) (desc : RtcDesc)
  /-- A DTLS packet comes in, or the handshake is started. -/
  | dtls (x : Side)
  deriving DecidableEq

def SignalingPair.create (s : SignalingPair) (x : Side)
    (result : Except RtcErr RtcDesc × SignalingPeer) : SignalingPair where
  peer := update s.peer x result.2
  created := update s.created x <|
    match result.1 with
    | .error _ => s.created x
    | .ok desc => s.created x ++ [desc]

def SignalingPair.put (s : SignalingPair) (x : Side) (p : SignalingPeer) : SignalingPair :=
  { s with peer := update s.peer x p }

def pairStep (s : SignalingPair) : PairOp → SignalingPair
  | .createOffer x fits => s.create x (rtcPeerConnectionCreateOffer (s.peer x) fits)
  | .createAnswer x fits => s.create x (rtcPeerConnectionCreateAnswer (s.peer x) fits)
  | .setLocal x desc => s.put x (rtcPeerConnectionSetLocalDesc (s.peer x) desc).2
  | .setRemote x desc => s.put x (rtcPeerConnectionSetRemoteDesc (s.peer x) desc).2
  | .dtls x => s.put x { s.peer x with dtlsNew := false }

def pairRun (s : SignalingPair) (ops : List PairOp) : SignalingPair := ops.foldl pairStep s

/-- A peer applies its own descriptions as local ones and those of the other as remote ones. -/
def PairOp.exchanged (s : SignalingPair) : PairOp → Bool
  | .setLocal x desc => (s.created x).contains desc
  | .setRemote x desc => (s.created x.other).contains desc
  | _ => true

/-- The offer/answer discipline. A peer answers only while a remote offer is open, applies a
description only in a signaling state where it belongs, and gets only what the other one has
applied. Calls after the connection has started are free. No DTLS packet reaches a peer before it
has set a remote description. -/
def PairOp.disciplined (s : SignalingPair) : PairOp → Bool
  | .createOffer _ _ => true
  | .createAnswer x _ =>
    (s.peer x).connectStarted || (s.peer x).signaling == .haveRemoteOffer
  | .setLocal x desc => (s.peer x).connectStarted ||
      ((s.peer x).signaling == .haveRemoteOffer) == (desc.type == .answer)
  | .setRemote x desc => (s.peer x).connectStarted ||
      ((s.peer x.other).localDesc == some desc
        && ((s.peer x).signaling == .haveLocalOffer) == (desc.type == .answer))
  | .dtls x => (s.peer x).remoteDesc.isSome

def pairRunAll (ok : SignalingPair → PairOp → Bool) (s : SignalingPair) : List PairOp → Bool
  | [] => true
  | op :: ops => ok s op && pairRunAll ok (pairStep s op) ops

/-- Peers that connect have different DTLS roles. -/
def SignalingPair.Complementary (s : SignalingPair) : Prop :=
  (s.peer .a).connectStarted = true → (s.peer .b).connectStarted = true →
    (s.peer .a).role ≠ (s.peer .b).role

/-! ## Phases -/

inductive Phase where
  | fresh
  | offering
  | answering
  | offered
  | answered
  deriving DecidableEq

def Phase.Holds (p : SignalingPeer) : Phase → Prop
  | .fresh => p.connectStarted = false ∧ p.signaling = .stable ∧ p.localSdp = .offer
      ∧ p.localDesc = none ∧ p.remoteDesc = none ∧ p.dtlsNew = true
  | .offering => p.connectStarted = false ∧ p.signaling = .haveLocalOffer ∧ p.localSdp = .offer
      ∧ p.localDesc = some offerDesc ∧ p.remoteDesc = none ∧ p.dtlsNew = true
  | .answering => p.connectStarted = false ∧ p.signaling = .haveRemoteOffer ∧ p.role = .client
      ∧ p.localDesc = none ∧ p.remoteDesc = some offerDesc
  | .offered => p.connectStarted = true ∧ p.role = .server ∧ p.localDesc = some offerDesc
  | .answered => p.connectStarted = true ∧ p.role = .client ∧ p.localDesc = some answerDesc

def Phase.sees : Phase → Phase → Bool
  | .fresh, _ | .offering, _ => true
  | .answering, other | .answered, other => other == .offering || other == .offered
  | .offered, other => other == .answered

structure SignalingPair.InPhases (s : SignalingPair) (ph : Side → Phase) : Prop where
  holds : ∀ x, (ph x).Holds (s.peer x)
  sees : ∀ x, (ph x).sees (ph x.other) = true
  created : ∀ x, ∀ desc ∈ s.created x, desc = offerDesc ∨ desc = answerDesc

namespace Phase.Holds

variable {p : SignalingPeer} {ph : Phase}

section

variable (h : ph.Holds p)
include h

theorem createOffer : ph.Holds { p with localSdp := .offer } := by
  cases ph with
  | fresh => exact ⟨h.1, h.2.1, rfl, h.2.2.2⟩
  | offering => exact ⟨h.1, h.2.1, rfl, h.2.2.2⟩
  | answering => exact h
  | offered => exact h
  | answered => exact h

theorem createAnswer (hopen : p.connectStarted = true ∨ p.signaling = .haveRemoteOffer) :
    ph.Holds { p with localSdp := .answer } := by
  cases ph with
  | fresh =>
    obtain ⟨hstarted, hsignaling, _⟩ := h
    rw [hstarted, hsignaling] at hopen
    simp at hopen
  | offering =>
    obtain ⟨hstarted, hsignaling, _⟩ := h
    rw [hstarted, hsignaling] at hopen
    simp at hopen
  | answering => exact h
  | offered => exact h
  | answered => exact h

theorem setLocal {desc : RtcDesc} (hdesc : desc = offerDesc ∨ desc = answerDesc)
    (hopen : p.connectStarted = true ∨ (p.signaling = .haveRemoteOffer ↔ desc.type = .answer)) :
    ∃ ph' : Phase, ph'.Holds (rtcPeerConnectionSetLocalDesc p desc).2
      ∧ (ph' = ph ∨ (ph = .fresh ∧ ph' = .offering) ∨ (ph = .answering ∧ ph' = .answered)) := by
  unfold rtcPeerConnectionSetLocalDesc
  cases ph with
  | fresh =>
    obtain ⟨hstarted, hsignaling, hsdp, hlocal, hremote, hdtls⟩ := h
    rcases hdesc with rfl | rfl
    · refine ⟨.offering, ?_, Or.inr (Or.inl ⟨rfl, rfl⟩)⟩
      simp [hstarted, nextSignaling, offerDesc, peerTryConnect, Phase.Holds, hremote, hsdp, hdtls]
    · simp [hstarted, hsignaling, answerDesc] at hopen
  | offering =>
    obtain ⟨hstarted, hsignaling, hsdp, hlocal, hremote, hdtls⟩ := h
    rcases hdesc with rfl | rfl
    · refine ⟨.offering, ?_, Or.inl rfl⟩
      simp [hstarted, nextSignaling, offerDesc, peerTryConnect, Phase.Holds, hremote, hsdp, hdtls]
    · simp [hstarted, hsignaling, answerDesc] at hopen
  | answering =>
    obtain ⟨hstarted, hsignaling, hrole, hlocal, hremote⟩ := h
    rcases hdesc with rfl | rfl
    · simp [hstarted, hsignaling, offerDesc] at hopen
    · refine ⟨.answered, ?_, Or.inr (Or.inr ⟨rfl, rfl⟩)⟩
      simp [hstarted, hsignaling, nextSignaling, answerDesc, peerTryConnect, Phase.Holds, hremote,
        hrole]
  | offered => exact ⟨.offered, by rw [if_pos h.1]; exact h, Or.inl rfl⟩
  | answered => exact ⟨.answered, by rw [if_pos h.1]; exact h, Or.inl rfl⟩

theorem setRemote {desc : RtcDesc} (hdesc : desc = offerDesc ∨ desc = answerDesc)
    (hopen : p.connectStarted = true ∨ (p.signaling = .haveLocalOffer ↔ desc.type = .answer)) :
    ∃ ph' : Phase, ph'.Holds (rtcPeerConnectionSetRemoteDesc p desc).2
      ∧ (ph' = ph ∨ (ph = .fresh ∧ desc = offerDesc ∧ ph' = .answering)
        ∨ (ph = .offering ∧ desc = answerDesc ∧ ph' = .offered)) := by
  unfold rtcPeerConnectionSetRemoteDesc
  cases ph with
  | fresh =>
    obtain ⟨hstarted, hsignaling, hsdp, hlocal, hremote, hdtls⟩ := h
    rcases hdesc with rfl | rfl
    · refine ⟨.answering, ?_, Or.inr (Or.inl ⟨rfl, rfl, rfl⟩)⟩
      simp [hstarted, nextSignaling, offerDesc, peerTryConnect, Phase.Holds, hlocal,
        peerRuntimeSetRemoteDesc, rtcTransportSetDtlsRole, hdtls]
    · simp [hstarted, hsignaling, answerDesc] at hopen
  | offering =>
    obtain ⟨hstarted, hsignaling, hsdp, hlocal, hremote, hdtls⟩ := h
    rcases hdesc with rfl | rfl
    · simp [hstarted, hsignaling, offerDesc] at hopen
    · -- the last description created here was the offer, so the answerer's role decides
      refine ⟨.offered, ?_, Or.inr (Or.inr ⟨rfl, rfl, rfl⟩)⟩
      simp [hstarted, hsignaling, nextSignaling, answerDesc, peerTryConnect, Phase.Holds, hlocal,
        peerRuntimeSetRemoteDesc, rtcTransportSetDtlsRole, hsdp, hdtls]
  | answering =>
    obtain ⟨hstarted, hsignaling, hrole, hlocal, hremote⟩ := h
    rcases hdesc with rfl | rfl
    · refine ⟨.answering, ?_, Or.inl rfl⟩
      simp [hstarted, nextSignaling, offerDesc, peerTryConnect, Phase.Holds, hlocal,
        peerRuntimeSetRemoteDesc, rtcTransportSetDtlsRole, hrole]
    · simp [hstarted, hsignaling, answerDesc] at hopen
  | offered => exact ⟨.offered, by rw [if_pos h.1]; exact h, Or.inl rfl⟩
  | answered => exact ⟨.answered, by rw [if_pos h.1]; exact h, Or.inl rfl⟩

theorem dtls (hremote : p.remoteDesc.isSome = true) : ph.Holds { p with dtlsNew := false } := by
  cases ph with
  | fresh => simp [h.2.2.2.2.1] at hremote
  | offering => simp [h.2.2.2.2.1] at hremote
  | answering => exact h
  | offered => exact h
  | answered => exact h

theorem of_localDesc :
    (p.localDesc = some offerDesc → ph = .offering ∨ ph = .offered)
      ∧ (p.localDesc = some answerDesc → ph = .answered) := by
  cases ph with
  | fresh => simp [h.2.2.2.1]
  | offering => simp [h.2.2.2.1, offerDesc, answerDesc]
  | answering => simp [h.2.2.2.1]
  | offered => simp [h.2.2, offerDesc, answerDesc]
  | answered => simp [h.2.2, offerDesc, answerDesc]

end

end Phase.Holds

namespace SignalingPair.InPhases

variable {s : SignalingPair} {ph : Side → Phase} {x : Side}

theorem move (h : s.InPhases ph) {p : SignalingPeer} {ph' : Phase} (hp : ph'.Holds p)
    (hsees : ph'.sees (ph x.other) = true) (hseen : (ph x.other).sees ph' = true) :
    (s.put x p).InPhases (update ph x ph') := by
  refine ⟨?_, ?_, h.created⟩
  · intro y
    rcases x.eq_or_other y with rfl | rfl
    · simp only [SignalingPair.put, update_self]
      exact hp
    · simp only [SignalingPair.put, update_of_ne x.other_ne]
      exact h.holds x.other
  · intro y
    rcases x.eq_or_other y with rfl | rfl
    · rw [update_self, update_of_ne y.other_ne]
      exact hsees
    · rw [update_of_ne x.other_ne, Side.other_other, update_self]
      exact hseen

theorem stay (h : s.InPhases ph) {p : SignalingPeer} (hp : (ph x).Holds p) :
    (s.put x p).InPhases ph := by
  have hseen := h.sees x.other
  rw [Side.other_other] at hseen
  have hmove := h.move hp (h.sees x) hseen
  rwa [update_eq_self] at hmove

theorem create (h : s.InPhases ph) {desc : RtcDesc} (hdesc : desc = offerDesc ∨ desc = answerDesc)
    (fits : Bool) (hp : (ph x).Holds { s.peer x with localSdp := desc.type }) :
    (s.create x (peerCreateDesc (s.peer x) desc fits)).InPhases ph := by
  have hpeer : (ph x).Holds (peerCreateDesc (s.peer x) desc fits).2 := by
    unfold peerCreateDesc
    split
    · exact hp
    · exact h.holds x
  refine ⟨(h.stay hpeer).holds, h.sees, ?_⟩
  intro y
  rcases x.eq_or_other y with rfl | rfl
  · simp only [SignalingPair.create, update_self]
    unfold peerCreateDesc
    cases fits with
    | false => exact h.created y
    | true =>
      intro d hd
      rcases List.mem_append.mp hd with hold | hnew
      · exact h.created y d hold
      · rw [List.mem_singleton.mp hnew]
        exact hdesc
  · simp only [SignalingPair.create, update_of_ne x.other_ne]
    exact h.created x.other

theorem beq_eq_beq_iff (state state' : SignalingState) (type type' : SdpType) :
    (state == state') = (type == type') ↔ (state = state' ↔ type = type') := by
  by_cases hstate : state = state'
  · by_cases htype : type = type'
    · simp [hstate, htype]
    · simp [hstate, htype]
  · by_cases htype : type = type'
    · simp [hstate, htype]
    · simp [hstate, htype]

theorem step (h : s.InPhases ph) (op : PairOp) (hexchanged : op.exchanged s = true)
    (hdisciplined : op.disciplined s = true) : ∃ ph', (pairStep s op).InPhases ph' := by
  cases op with
  | createOffer x fits => exact ⟨ph, h.create (Or.inl rfl) fits (h.holds x).createOffer⟩
  | createAnswer x fits =>
    have hopen : (s.peer x).connectStarted = true ∨ (s.peer x).signaling = .haveRemoteOffer := by
      simpa [PairOp.disciplined] using hdisciplined
    exact ⟨ph, h.create (Or.inr rfl) fits ((h.holds x).createAnswer hopen)⟩
  | setLocal x desc =>
    have hdesc := h.created x desc (by simpa [PairOp.exchanged] using hexchanged)
    have hopen : (s.peer x).connectStarted = true
        ∨ ((s.peer x).signaling = .haveRemoteOffer ↔ desc.type = .answer) := by
      simpa only [PairOp.disciplined, Bool.or_eq_true, Bool.and_eq_true, beq_iff_eq,
        beq_eq_beq_iff] using hdisciplined
    obtain ⟨ph', hp, hnext⟩ := (h.holds x).setLocal hdesc hopen
    have hseen := h.sees x.other
    rw [Side.other_other] at hseen
    rcases hnext with rfl | ⟨hfresh, rfl⟩ | ⟨hanswering, rfl⟩
    · exact ⟨ph, h.stay hp⟩
    · refine ⟨_, h.move hp rfl ?_⟩
      -- nobody answers or has answered a fresh peer
      rw [hfresh] at hseen
      revert hseen
      cases ph x.other <;> decide
    · have hsees := h.sees x
      rw [hanswering] at hsees hseen
      refine ⟨_, h.move hp hsees ?_⟩
      revert hseen
      cases ph x.other <;> decide
  | setRemote x desc =>
    have hdesc := h.created x.other desc (by simpa [PairOp.exchanged] using hexchanged)
    have hopen : (s.peer x).connectStarted = true
        ∨ ((s.peer x.other).localDesc = some desc
          ∧ ((s.peer x).signaling = .haveLocalOffer ↔ desc.type = .answer)) := by
      simpa only [PairOp.disciplined, Bool.or_eq_true, Bool.and_eq_true, beq_iff_eq,
        beq_eq_beq_iff] using hdisciplined
    obtain ⟨ph', hp, hnext⟩ := (h.holds x).setRemote hdesc (hopen.imp_right And.right)
    have hseen := h.sees x.other
    rw [Side.other_other] at hseen
    rcases hnext with rfl | ⟨hfresh, rfl, rfl⟩ | ⟨hoffering, rfl, rfl⟩
    · exact ⟨ph, h.stay hp⟩
    · -- the offer was applied by the other peer, and nobody has answered this one
      have hx := h.holds x
      rw [hfresh] at hx hseen
      have happlied := hopen.resolve_left (by simp [hx.1])
      rcases (h.holds x.other).of_localDesc.1 happlied.1 with hother | hother
      · exact ⟨_, h.move hp (by rw [hother]; rfl) (by rw [hother]; rfl)⟩
      · rw [hother] at hseen
        cases hseen
    · have hx := h.holds x
      rw [hoffering] at hx
      have happlied := hopen.resolve_left (by simp [hx.1])
      have hother := (h.holds x.other).of_localDesc.2 happlied.1
      exact ⟨_, h.move hp (by rw [hother]; rfl) (by rw [hother]; rfl)⟩
  | dtls x => exact ⟨ph, h.stay ((h.holds x).dtls hdisciplined)⟩

theorem fresh : SignalingPair.InPhases {} fun _ => .fresh :=
  ⟨fun _ => ⟨rfl, rfl, rfl, rfl, rfl, rfl⟩, fun _ => rfl, by simp⟩

theorem run (ops : List PairOp) : ∀ {s : SignalingPair} {ph : Side → Phase}, s.InPhases ph →
    pairRunAll (fun s op => op.exchanged s) s ops = true →
    pairRunAll (fun s op => op.disciplined s) s ops = true → ∃ ph', (pairRun s ops).InPhases ph' := by
  induction ops with
  | nil =>
    intro s ph h _ _
    exact ⟨ph, h⟩
  | cons op ops ih =>
    intro s ph h hexchanged hdisciplined
    simp only [pairRunAll, Bool.and_eq_true] at hexchanged hdisciplined
    obtain ⟨ph', h'⟩ := h.step op hexchanged.1 hdisciplined.1
    exact ih h' hexchanged.2 hdisciplined.2

theorem started (h : s.InPhases ph) (hstarted : (s.peer x).connectStarted = true) :
    (ph x = .offered ∧ (s.peer x).role = .server)
      ∨ (ph x = .answered ∧ (s.peer x).role = .client) := by
  have hx := h.holds x
  cases hph : ph x with
  | fresh =>
    rw [hph] at hx
    exact absurd hstarted (by simp [hx.1])
  | offering =>
    rw [hph] at hx
    exact absurd hstarted (by simp [hx.1])
  | answering =>
    rw [hph] at hx
    exact absurd hstarted (by simp [hx.1])
  | offered =>
    rw [hph] at hx
    exact Or.inl ⟨rfl, hx.2.1⟩
  | answered =>
    rw [hph] at hx
    exact Or.inr ⟨rfl, hx.2.1⟩

theorem complementary (h : s.InPhases ph) : s.Complementary := by
  intro hstarted hstarted'
  have hsees : (ph .a).sees (ph .b) = true := h.sees .a
  rcases h.started hstarted with ⟨ha, hrole⟩ | ⟨ha, hrole⟩
  · rcases h.started hstarted' with ⟨hb, hrole'⟩ | ⟨hb, hrole'⟩
    · rw [ha, hb] at hsees
      cases hsees
    · rw [hrole, hrole']
      exact DtlsRole.noConfusion
  · rcases h.started hstarted' with ⟨hb, hrole'⟩ | ⟨hb, hrole'⟩
    · rw [hrole, hrole']
      exact DtlsRole.noConfusion
    · rw [ha, hb] at hsees
      cases hsees

end SignalingPair.InPhases

/-- **Under the offer/answer discipline the DTLS roles are complementary.** -/
theorem pairRun_complementary (ops : List PairOp)
    (hexchanged : pairRunAll (fun s op => op.exchanged s) {} ops = true)
    (hdisciplined : pairRunAll (fun s op => op.disciplined s) {} ops = true) :
    (pairRun {} ops).Complementary := by
  obtain ⟨ph, h⟩ := SignalingPair.InPhases.fresh.run ops hexchanged hdisciplined
  exact h.complementary

def offerAnswer : List PairOp :=
  [.createOffer .b true, .setLocal .b offerDesc, .setRemote .a offerDesc, .createAnswer .a true,
    .setLocal .a answerDesc, .dtls .a, .setRemote .b answerDesc, .dtls .b]

theorem offerAnswer_complementary :
    ((pairRun {} offerAnswer).peer .a).connectStarted = true
      ∧ ((pairRun {} offerAnswer).peer .b).connectStarted = true
      ∧ (pairRun {} offerAnswer).Complementary :=
  ⟨by decide, by decide, pairRun_complementary offerAnswer (by decide) (by decide)⟩

def glare : List PairOp :=
  [.createOffer .a true, .createOffer .b true, .setLocal .a offerDesc, .setLocal .b offerDesc,
    .setRemote .a offerDesc, .setRemote .b offerDesc, .createAnswer .a true, .createAnswer .b true,
    .setLocal .a answerDesc, .setLocal .b answerDesc]

/-- Both have started, and both are DTLS clients. -/
theorem glare_not_complementary :
    pairRunAll (fun s op => op.exchanged s) {} glare = true
      ∧ ((pairRun {} glare).peer .a).connectStarted = true
      ∧ ((pairRun {} glare).peer .b).connectStarted = true
      ∧ ¬ (pairRun {} glare).Complementary := by
  refine ⟨by decide, by decide, by decide, ?_⟩
  intro hcomplementary
  exact hcomplementary (by decide) (by decide) (by decide)

end Mrtc
