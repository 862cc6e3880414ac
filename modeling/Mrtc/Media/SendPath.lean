import Mrtc.Media.Vp8
import Mrtc.Rtp.SendStream

/-! # The video send path (`media_pipeline.c`)

`push_video_to_stream` cuts an encoded frame into VP8 payloads and sends them, in order, through
the send stream of every peer.
-/

namespace Mrtc

open Net List

structure SendPeer where
  active : Bool
  videoSender : Option RtpSendStream
  deriving DecidableEq

def videoFrameSamples : UInt32 := 90000 / 30

def maxVideoPayloads : Nat := 64

def sendPayloads : (first : Bool) → RtpSendStream → List Vp8Payload →
    List RtpPacket × RtpSendStream
  | _, s, [] => ([], s)
  | first, s, p :: ps =>
    let r := rtcRtpSendStreamSend s p.data (if first then videoFrameSamples else 0) p.marker
    let rest := sendPayloads false r.stream ps
    (r.sent.toList ++ rest.1, rest.2)

def pushPeer (payloads : List Vp8Payload) (peer : SendPeer) : List RtpPacket × SendPeer :=
  match peer.active, peer.videoSender with
  | true, some s =>
    let r := sendPayloads true s payloads
    (r.1, { peer with videoSender := some r.2 })
  | _, _ => ([], peer)

def hasSendTargets (peers : List SendPeer) : Bool := peers.any (·.active)

/-- `push_video_to_stream` on the frame the encoder returned: the return code, and for every
peer its packets and its state afterwards. -/
def pushVideoToStream (peers : List SendPeer) (frame : Bytes) (isKeyframe : Bool) :
    Except RtcErr Unit × List (List RtpPacket × SendPeer) :=
  if !hasSendTargets peers then (.error .invalid, peers.map ([], ·))
  else
    match rtcVp8Packetize frame isKeyframe maxVideoPayloads with
    | .error e => (.error e, peers.map ([], ·))
    | .ok payloads => (.ok (), peers.map (pushPeer payloads))

/-! ## The receiving end -/

def RtpPacket.media (pkt : RtpPacket) : MediaPacket :=
  ⟨pkt.payload, pkt.header.timestamp, pkt.header.marker⟩

open RtpPacket

variable {s : RtpSendStream} {ps : List Vp8Payload} {peer : SendPeer} {frame : Bytes} {key : Bool}
  {maxPayloads : Nat}

/-- The packets of a frame carry one timestamp, and a depacketizer in any state that is fed
them returns the frame on the last one. -/
def Reassembles (pkts : List RtpPacket) (frame : Bytes) : Prop :=
  (∃ ts, ∀ pkt ∈ pkts, pkt.header.timestamp = ts)
  ∧ (pkts ≠ [] → ∀ d, ∃ isKeyframe,
      (vp8Results d (pkts.map media)).getLast? = some (.ok (frame, isKeyframe)))

/-! ## What a stream sends for a list of payloads -/

theorem sendPayloads_silent (hs : s.transmits = false) (first : Bool) (ps : List Vp8Payload) :
    (sendPayloads first s ps).1 = [] := by
  induction ps generalizing s first with
  | nil => rfl
  | cons p ps ih => grind [sendPayloads, rtcRtpSendStreamSend_silent]

theorem sendPayloads_cons (hs : s.transmits = true) (first : Bool)
    {p : Vp8Payload} (hp : p.data.length ≤ rtpMaxPacket) (ps : List Vp8Payload) :
    ∃ pkt s', (sendPayloads first s (p :: ps)).1 = pkt :: (sendPayloads false s' ps).1
      ∧ Stamped s p.data p.marker pkt ∧ s'.transmits = true
      ∧ s'.session.timestamp
        = s.session.timestamp + (if first then videoFrameSamples else 0) := by
  obtain ⟨pkt, s', hsend, hstamped, hs', hsession⟩ := rtcRtpSendStreamSend_transmits hs hp
    (if first then videoFrameSamples else 0) p.marker
  refine ⟨pkt, s', ?_, hstamped, hs', by rw [hsession]; rfl⟩
  rw [sendPayloads, hsend]
  rfl

theorem Stamped.media_eq {payload : Bytes} {marker : Bool} {pkt : RtpPacket}
    (h : Stamped s payload marker pkt) : pkt.media = ⟨payload, s.session.timestamp, marker⟩ := by
  unfold media
  rw [h.payload, h.timestamp, h.marker]

theorem sendPayloads_rest (hs : s.transmits = true) (hps : ∀ p ∈ ps, p.data.length ≤ rtpMaxPacket) :
    (sendPayloads false s ps).1.map media
      = ps.map fun p => ⟨p.data, s.session.timestamp, p.marker⟩ := by
  induction ps generalizing s with
  | nil => rfl
  | cons p ps ih =>
    obtain ⟨pkt, s', hout, hstamped, hs', hts⟩ :=
      sendPayloads_cons hs false (hps p mem_cons_self) ps
    have hts' : s'.session.timestamp = s.session.timestamp := by
      rw [hts]
      exact UInt32.add_zero _
    rw [hout, map_cons, map_cons, hstamped.media_eq,
      ih hs' fun q hq => hps q (mem_cons_of_mem _ hq), hts']

theorem sendPayloads_media (hs : s.transmits = true) {p : Vp8Payload}
    (hps : ∀ q ∈ p :: ps, q.data.length ≤ rtpMaxPacket) :
    (sendPayloads true s (p :: ps)).1.map media
      = ⟨p.data, s.session.timestamp, p.marker⟩
        :: ps.map fun q => ⟨q.data, s.session.timestamp + videoFrameSamples, q.marker⟩ := by
  obtain ⟨pkt, s', hout, hstamped, hs', hts⟩ :=
    sendPayloads_cons hs true (hps p mem_cons_self) ps
  rw [hout, map_cons, hstamped.media_eq,
    sendPayloads_rest hs' fun q hq => hps q (mem_cons_of_mem _ hq), hts, if_pos rfl]

theorem timestamp_advances (ts : UInt32) : ts + videoFrameSamples ≠ ts := by
  intro h
  have h0 : videoFrameSamples = 0 := by
    calc videoFrameSamples = ts + videoFrameSamples - ts := by rw [UInt32.add_comm]; simp
      _ = 0 := by rw [h]; simp
  exact absurd h0 (by decide)

/-! ## Which frames survive -/

def SendPeer.transmits (peer : SendPeer) : Bool :=
  peer.active && (match peer.videoSender with
    | some s => s.transmits
    | none => false)

theorem pushPeer_silent (hpeer : peer.transmits = false) (ps : List Vp8Payload) :
    (pushPeer ps peer).1 = [] := by
  obtain ⟨active, sender⟩ := peer
  cases active with
  | false => rfl
  | true =>
    cases sender with
    | none => rfl
    | some s => exact sendPayloads_silent (by simpa [SendPeer.transmits] using hpeer) true ps

theorem pushPeer_transmits (hpeer : peer.transmits = true) :
    ∃ s : RtpSendStream, s.transmits = true
      ∧ ∀ ps, (pushPeer ps peer).1 = (sendPayloads true s ps).1 := by
  obtain ⟨active, sender⟩ := peer
  cases active with
  | false => simp [SendPeer.transmits] at hpeer
  | true =>
    cases sender with
    | none => simp [SendPeer.transmits] at hpeer
    | some s => exact ⟨s, by simpa [SendPeer.transmits] using hpeer, fun ps => rfl⟩

theorem rtcVp8Packetize_eq (hne : frame ≠ []) (key : Bool) (maxPayloads : Nat) :
    rtcVp8Packetize frame key maxPayloads = vp8Fragments key maxPayloads frame true :=
  if_neg fun h => hne (length_eq_zero_iff.mp h)

section

variable (hpeer : peer.transmits = true)
include hpeer

theorem pushPeer_media (hne : frame ≠ []) (hps : rtcVp8Packetize frame key maxPayloads = .ok ps) :
    ∃ ts free tail, vp8Fragments key free (frame.drop vp8MaxFragSize) false = .ok tail
      ∧ ps = ⟨vp8Descriptor true key :: frame.take vp8MaxFragSize,
          (frame.drop vp8MaxFragSize).isEmpty⟩ :: tail
      ∧ (pushPeer ps peer).1.map media
        = ⟨vp8Descriptor true key :: frame.take vp8MaxFragSize, ts,
            (frame.drop vp8MaxFragSize).isEmpty⟩
          :: tail.map fun p => ⟨p.data, ts + videoFrameSamples, p.marker⟩ := by
  obtain ⟨s, hs, hpush⟩ := pushPeer_transmits hpeer
  rw [rtcVp8Packetize_eq hne] at hps
  have hlen := vp8Fragments_data_length hps
  obtain ⟨free, tail, _, htail, rfl⟩ := vp8Fragments_cons hne hps
  refine ⟨s.session.timestamp, free, tail, htail, rfl, ?_⟩
  rw [hpush, sendPayloads_media hs hlen]

theorem pushPeer_single (hne : frame ≠ []) (hlen : frame.length ≤ vp8MaxFragSize)
    (hps : rtcVp8Packetize frame key maxPayloads = .ok ps) :
    Reassembles (pushPeer ps peer).1 frame := by
  obtain ⟨ts, free, tail, htail, hcons, hmedia⟩ := pushPeer_media hpeer hne hps
  rw [drop_eq_nil_of_le hlen, vp8Fragments_nil] at htail
  cases htail
  have hone : (pushPeer ps peer).1.map media
      = ps.map fun p => ⟨p.data, ts, p.marker⟩ := by
    rw [hmedia, hcons, map_cons, map_nil, map_nil]
  refine ⟨⟨ts, fun pkt hpkt => ?_⟩, fun _ d => ⟨key, ?_⟩⟩
  · have hmem := mem_map_of_mem (f := media) hpkt
    rw [hone] at hmem
    obtain ⟨p, _, hp⟩ := mem_map.mp hmem
    exact (congrArg MediaPacket.timestamp hp).symm
  · rw [hone]
    exact vp8Depacketize_packetize hps (hlen.trans (by decide)) d ts

theorem pushPeer_two_timestamps (hlen : vp8MaxFragSize < frame.length)
    (hps : rtcVp8Packetize frame key maxPayloads = .ok ps) :
    ¬∃ ts, ∀ pkt ∈ (pushPeer ps peer).1, pkt.header.timestamp = ts := by
  have hne : frame ≠ [] := ne_nil_of_length_pos (by omega)
  obtain ⟨ts, free, tail, htail, _, hmedia⟩ := pushPeer_media hpeer hne hps
  have hdrop : frame.drop vp8MaxFragSize ≠ [] := by
    intro h
    have := drop_eq_nil_iff.mp h
    omega
  obtain ⟨_, tail', _, _, rfl⟩ := vp8Fragments_cons hdrop htail
  rintro ⟨ts', hcommon⟩
  have hall : ∀ m ∈ (pushPeer ps peer).1.map media, m.timestamp = ts' := by
    intro m hm
    obtain ⟨pkt, hpkt, rfl⟩ := mem_map.mp hm
    exact hcommon pkt hpkt
  rw [hmedia, map_cons] at hall
  have hfirst := hall _ mem_cons_self
  have hsecond := hall _ (mem_cons_of_mem _ mem_cons_self)
  exact timestamp_advances ts (hsecond.trans hfirst.symm)

end

theorem reassembles_nil (frame : Bytes) : Reassembles [] frame :=
  ⟨⟨0, fun _ h => absurd h not_mem_nil⟩, fun h => absurd rfl h⟩

theorem pushPeer_reassembles_iff (peer : SendPeer) (hne : frame ≠ [])
    (hps : rtcVp8Packetize frame key maxPayloads = .ok ps) :
    Reassembles (pushPeer ps peer).1 frame
      ↔ frame.length ≤ vp8MaxFragSize ∨ peer.transmits = false := by
  cases hpeer : peer.transmits with
  | false =>
    rw [pushPeer_silent hpeer]
    exact ⟨fun _ => .inr rfl, fun _ => reassembles_nil frame⟩
  | true =>
    constructor
    · intro h
      by_contra hcond
      rw [not_or] at hcond
      exact pushPeer_two_timestamps hpeer (by omega) hps h.1
    · grind [pushPeer_single]

theorem SendPeer.transmits_of_no_targets {peers : List SendPeer}
    (h : hasSendTargets peers = false) : ∀ peer ∈ peers, peer.transmits = false := by
  intro peer hpeer
  have hactive : peer.active = false := by
    have := any_eq_false.mp h peer hpeer
    simpa using this
  unfold SendPeer.transmits
  rw [hactive, Bool.false_and]

/-- **Which frames survive the video send path.** -/
theorem pushVideo_reassembles_iff (peers : List SendPeer) {frame : Bytes}
    (hpos : 1 ≤ frame.length) (hlen : frame.length ≤ 64 * 1399) (isKeyframe : Bool) :
    List.Forall₂ (fun peer out => Reassembles out.1 frame
        ↔ frame.length ≤ vp8MaxFragSize ∨ peer.transmits = false)
      peers (pushVideoToStream peers frame isKeyframe).2 := by
  have hne : frame ≠ [] := ne_nil_of_length_pos hpos
  unfold pushVideoToStream
  cases htargets : hasSendTargets peers with
  | false =>
    have hsilent := SendPeer.transmits_of_no_targets htargets
    rw [if_pos (by decide), forall₂_map_right_iff, forall₂_same]
    intro peer hpeer
    exact ⟨fun _ => .inr (hsilent peer hpeer), fun _ => reassembles_nil frame⟩
  | true =>
    obtain ⟨ps, hps⟩ := vp8Fragments_ok isKeyframe maxVideoPayloads true hlen
    rw [← rtcVp8Packetize_eq hne] at hps
    rw [if_neg (by decide), hps, forall₂_map_right_iff, forall₂_same]
    intro peer _
    exact pushPeer_reassembles_iff peer hne hps

def cameraPeer : SendPeer where
  active := true
  videoSender := some
    { session := { payloadType := 96, seq := 7, timestamp := 90000, ssrc := 0x1234 }
      transport := true
      active := true
      sendActive := true
      twccNextSeq := some 0
      twccExtId := 5 }

theorem small_frame_reassembles :
    cameraPeer.transmits = true
      ∧ List.Forall₂ (fun peer out => Reassembles out.1 [0x30, 0x01, 0x00]
          ↔ [0x30, 0x01, 0x00].length ≤ vp8MaxFragSize ∨ peer.transmits = false)
        [cameraPeer] (pushVideoToStream [cameraPeer] [0x30, 0x01, 0x00] true).2 :=
  ⟨by decide, pushVideo_reassembles_iff [cameraPeer] (by decide) (by decide) true⟩

/-- A frame of 1400 bytes takes two packets, and these do not reassemble. -/
theorem two_fragment_frame_lost :
    ¬List.Forall₂ (fun _ out => Reassembles out.1 (replicate 1400 0))
      [cameraPeer] (pushVideoToStream [cameraPeer] (replicate 1400 0) true).2 := by
  have hlen : (replicate 1400 (0 : UInt8)).length = 1400 := length_replicate
  have hne : replicate 1400 (0 : UInt8) ≠ [] := ne_nil_of_length_pos (by omega)
  generalize replicate 1400 (0 : UInt8) = frame at hlen hne
  obtain ⟨ps, hps⟩ := @vp8Fragments_ok true maxVideoPayloads frame true
    (by rw [hlen]; decide)
  rw [← rtcVp8Packetize_eq hne] at hps
  intro h
  unfold pushVideoToStream at h
  rw [if_neg (by decide), hps, forall₂_map_right_iff, forall₂_same] at h
  have hcamera := h cameraPeer mem_cons_self
  exact pushPeer_two_timestamps (by decide) (by rw [hlen]; decide) hps hcamera.1

end Mrtc
