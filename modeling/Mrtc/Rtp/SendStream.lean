import Mrtc.Rtp.Packet

/-! # RTP sessions and send streams (`rtc_rtp.c`, `rtc_rtp_stream.c`)

A send stream stamps each payload with its session's sequence number and timestamp, tags it
with a transport-wide sequence number if that extension is negotiated, and hands the packet to
its transport.
-/

namespace Mrtc

open Net

structure RtpSession where
  payloadType : Nat
  seq : UInt16
  timestamp : UInt32
  ssrc : UInt32
  deriving DecidableEq

def rtcRtpSessionSendWithExt (sess : RtpSession) (exts : List RtpExt) (payload : Bytes)
    (samples : UInt32) (marker : Bool) : Except RtcErr RtpPacket × RtpSession :=
  match rtcRtpBuildWithExt sess.payloadType sess.seq sess.timestamp sess.ssrc marker exts
      payload with
  | .error e => (.error e, sess)
  | .ok pkt =>
    (.ok pkt, { sess with seq := sess.seq + 1, timestamp := sess.timestamp + samples })

def rtcRtpSessionSend (sess : RtpSession) (payload : Bytes) (samples : UInt32) (marker : Bool) :
    Except RtcErr RtpPacket × RtpSession :=
  match rtcRtpBuild sess.payloadType sess.seq sess.timestamp sess.ssrc marker payload with
  | .error e => (.error e, sess)
  | .ok pkt =>
    (.ok pkt, { sess with seq := sess.seq + 1, timestamp := sess.timestamp + samples })

/-- `rtc_rtp_send_stream_t`: whether it has a transport, its two flags, and the transport-wide
counter `twcc->next_seq` where the stream has one. -/
structure RtpSendStream where
  session : RtpSession
  transport : Bool
  active : Bool
  sendActive : Bool
  twccNextSeq : Option UInt16
  twccExtId : Nat
  deriving DecidableEq

open RtpSendStream

def RtpSendStream.tag (s : RtpSendStream) : Option UInt16 :=
  if s.twccExtId ≠ 0 then s.twccNextSeq else none

structure SendResult where
  rc : Except RtcErr Unit
  sent : Option RtpPacket
  stream : RtpSendStream

def sendStamped (s : RtpSendStream) : Except RtcErr RtpPacket × RtpSession → SendResult
  | (.error e, sess) => ⟨.error e, none, { s with session := sess }⟩
  | (.ok pkt, sess) => ⟨.ok (), some pkt, { s with session := sess }⟩

def rtcRtpSendStreamSend (s : RtpSendStream) (payload : Bytes) (samples : UInt32)
    (marker : Bool) : SendResult :=
  if !s.active then ⟨.error .invalid, none, s⟩
  else if !s.transport then ⟨.error .invalid, none, s⟩
  else if !s.sendActive then ⟨.ok (), none, s⟩
  else
    match s.tag with
    | some twccSeq =>
      sendStamped { s with twccNextSeq := some (twccSeq + 1) }
        (rtcRtpSessionSendWithExt s.session [rtcRtpExtMakeTransportCc s.twccExtId twccSeq]
          payload samples marker)
    | none => sendStamped s (rtcRtpSessionSend s.session payload samples marker)

/-! ## What a call puts on the wire -/

/-- The stream sends: it is active with a transport, and its extension id, if it tags, is one
that the one-byte form can carry. -/
def RtpSendStream.transmits (s : RtpSendStream) : Bool :=
  s.active && s.transport && s.sendActive
    && (s.tag.isNone || decide (1 ≤ s.twccExtId ∧ s.twccExtId ≤ 14))

variable {id : Nat} {payload : Bytes} {s : RtpSendStream}

theorem rtcRtpExtWriteBlock_refused (hid : ¬(1 ≤ id ∧ id ≤ 14)) (seq : UInt16) :
    rtcRtpExtWriteBlock rtpMaxExtLen [rtcRtpExtMakeTransportCc id seq] = .error .invalid := by
  have hid' : (rtcRtpExtMakeTransportCc id seq).id < 1
      ∨ 14 < (rtcRtpExtMakeTransportCc id seq).id := by
    show id < 1 ∨ 14 < id
    omega
  unfold rtcRtpExtWriteBlock
  rw [if_neg (by decide), rtpExtBody, if_pos hid']

theorem rtcRtpExtWriteBlock_carried (hid : 1 ≤ id ∧ id ≤ 14) (seq : UInt16) :
    ∃ block, rtcRtpExtWriteBlock rtpMaxExtLen [rtcRtpExtMakeTransportCc id seq] = .ok block := by
  have hid' : ¬((rtcRtpExtMakeTransportCc id seq).id < 1
      ∨ 14 < (rtcRtpExtMakeTransportCc id seq).id) := by
    show ¬(id < 1 ∨ 14 < id)
    omega
  have hlen : (rtcRtpExtMakeTransportCc id seq).data.length = 2 := rfl
  unfold rtcRtpExtWriteBlock
  rw [if_neg (by decide), rtpExtBody, if_neg hid', if_neg (by rw [hlen]; decide),
    if_neg (by rw [hlen]; decide), rtpExtBody]
  exact ⟨_, if_neg (by simp [hlen, rtpMaxExtLen])⟩

theorem rtcRtpBuildWithExt_carried (hid : 1 ≤ id ∧ id ≤ 14) (twccSeq : UInt16)
    (hlen : payload.length ≤ rtpMaxPacket) (pt : Nat) (seq : UInt16)
    (ts ssrc : UInt32) (marker : Bool) :
    ∃ pkt, rtcRtpBuildWithExt pt seq ts ssrc marker [rtcRtpExtMakeTransportCc id twccSeq] payload
      = .ok pkt := by
  obtain ⟨block, hblock⟩ := rtcRtpExtWriteBlock_carried hid twccSeq
  unfold rtcRtpBuildWithExt
  rw [if_neg (by omega), hblock]
  exact ⟨_, rfl⟩

structure Stamped (s : RtpSendStream) (payload : Bytes) (marker : Bool) (pkt : RtpPacket) :
    Prop where
  built : ∃ exts, rtcRtpBuildWithExt s.session.payloadType s.session.seq s.session.timestamp
    s.session.ssrc marker exts payload = .ok pkt
  timestamp : pkt.header.timestamp = s.session.timestamp
  marker : pkt.header.marker = marker
  payload : pkt.payload = payload

theorem stamped_of_build {marker : Bool}
    {exts : List RtpExt} {pkt : RtpPacket}
    (h : rtcRtpBuildWithExt s.session.payloadType s.session.seq s.session.timestamp
      s.session.ssrc marker exts payload = .ok pkt) : Stamped s payload marker pkt := by
  have hfields : pkt.header.timestamp = s.session.timestamp ∧ pkt.header.marker = marker
      ∧ pkt.payload = payload := by
    unfold rtcRtpBuildWithExt at h
    split at h
    · cases h
    · grind
  exact ⟨⟨exts, h⟩, hfields.1, hfields.2.1, hfields.2.2⟩

def RtpSession.advance (sess : RtpSession) (samples : UInt32) : RtpSession :=
  { sess with seq := sess.seq + 1, timestamp := sess.timestamp + samples }

theorem RtpSendStream.transmits_tagged {twccSeq : UInt16}
    (h : s.tag = some twccSeq) (sess : RtpSession) (next : UInt16) :
    transmits { s with session := sess, twccNextSeq := some next }
      = s.transmits := by
  have hid : s.twccExtId ≠ 0 := by
    intro h0
    simp [tag, h0] at h
  have htag : tag { s with session := sess, twccNextSeq := some next }
      = some next := if_pos hid
  unfold transmits
  rw [h, htag]
  rfl

theorem rtcRtpSendStreamSend_transmits (hs : s.transmits = true)
    (hlen : payload.length ≤ rtpMaxPacket) (samples : UInt32) (marker : Bool) :
    ∃ pkt s', rtcRtpSendStreamSend s payload samples marker = ⟨.ok (), some pkt, s'⟩
      ∧ Stamped s payload marker pkt ∧ s'.transmits = true
      ∧ s'.session = s.session.advance samples := by
  have hflags := hs
  simp only [transmits, Bool.and_eq_true, Bool.or_eq_true,
    Option.isNone_iff_eq_none, decide_eq_true_eq] at hflags
  obtain ⟨⟨⟨hactive, htransport⟩, hsend⟩, htag⟩ := hflags
  unfold rtcRtpSendStreamSend
  rw [if_neg (by rw [hactive]; decide), if_neg (by rw [htransport]; decide),
    if_neg (by rw [hsend]; decide)]
  cases hcase : s.tag with
  | none =>
    obtain ⟨pkt, hpkt⟩ : ∃ pkt, rtcRtpBuild s.session.payloadType s.session.seq
        s.session.timestamp s.session.ssrc marker payload = .ok pkt := by
      unfold rtcRtpBuild rtcRtpBuildWithExt
      rw [if_neg (by omega)]
      exact ⟨_, rfl⟩
    refine ⟨pkt, { s with session := s.session.advance samples }, ?_, stamped_of_build hpkt,
      hs, rfl⟩
    simp only [rtcRtpSessionSend, hpkt]
    rfl
  | some twccSeq =>
    rw [hcase] at htag
    have hid : 1 ≤ s.twccExtId ∧ s.twccExtId ≤ 14 := by simpa using htag
    obtain ⟨pkt, hpkt⟩ := rtcRtpBuildWithExt_carried hid twccSeq hlen s.session.payloadType
      s.session.seq s.session.timestamp s.session.ssrc marker
    refine ⟨pkt, { s with session := s.session.advance samples,
                          twccNextSeq := some (twccSeq + 1) }, ?_, stamped_of_build hpkt,
      (transmits_tagged hcase _ _).trans hs, rfl⟩
    simp only [rtcRtpSessionSendWithExt, hpkt]
    rfl

theorem rtcRtpSendStreamSend_silent (hs : s.transmits = false)
    (payload : Bytes) (samples : UInt32) (marker : Bool) :
    (rtcRtpSendStreamSend s payload samples marker).sent = none
      ∧ (rtcRtpSendStreamSend s payload samples marker).stream.transmits = false := by
  unfold rtcRtpSendStreamSend
  split
  · exact ⟨rfl, hs⟩
  · split
    · exact ⟨rfl, hs⟩
    · split
      · exact ⟨rfl, hs⟩
      · rename_i hactive htransport hsend
        simp only [Bool.not_eq_true', Bool.not_eq_false] at hactive htransport hsend
        cases hcase : s.tag with
        | none => simp [transmits, hactive, htransport, hsend, hcase] at hs
        | some twccSeq =>
          have hid : ¬(1 ≤ s.twccExtId ∧ s.twccExtId ≤ 14) := by
            simpa [transmits, hactive, htransport, hsend, hcase] using hs
          have hbuild : ∃ e, rtcRtpBuildWithExt s.session.payloadType s.session.seq
              s.session.timestamp s.session.ssrc marker
              [rtcRtpExtMakeTransportCc s.twccExtId twccSeq] payload = .error e := by
            unfold rtcRtpBuildWithExt
            split
            · exact ⟨_, rfl⟩
            · rw [rtcRtpExtWriteBlock_refused hid]
              exact ⟨_, rfl⟩
          obtain ⟨e, he⟩ := hbuild
          simp only [rtcRtpSessionSendWithExt, he]
          exact ⟨rfl, (transmits_tagged hcase _ _).trans hs⟩

end Mrtc
