import Mrtc.Rtcp.Compound
import Mrtc.Rtcp.Report
import Mrtc.Rtp.NackBuf
import Mrtc.Rtp.SendStream
import Mrtc.Srtp.Send

/-! # A packet on its way from the stream to the network (`rtc_rtp_stream.c`, `rtc_transport.c`)

What `rtc_rtp_send_stream_send` does with a packet that the session has stamped: it is counted,
protected and handed to the socket, and then kept, for the bandwidth estimation by its
transport-wide number and for retransmission by its sequence number.
-/

namespace Mrtc

open Net

/-! ## The source -/

structure SendTransport where
  srtpReady : Bool
  selectedRemoteValid : Bool
  srtpSend : SrtpCtx

def rtcTransportSendRaw (t : SendTransport) (io : Option RtcErr) (data : Bytes) :
    Except RtcErr Unit :=
  if data.length = 0 then .error .invalid
  else if !t.selectedRemoteValid then .error .invalid
  else
    match io with
    | some e => .error e
    | none => .ok ()

def rtcTransportSendRtp (cr : Crypto) (t : SendTransport) (ev : EvpFault) (io : Option RtcErr)
    (buf : Bytes) (bufCap : Nat) : Except RtcErr Bytes × SendTransport :=
  if !t.srtpReady || !t.selectedRemoteValid then (.error .invalid, t)
  else
    match rtcSrtpProtect cr ev t.srtpSend buf bufCap with
    | (.error e, ctx) => (.error e, { t with srtpSend := ctx })
    | (.ok out, ctx) =>
      match rtcTransportSendRaw t io out with
      | .error e => (.error e, { t with srtpSend := ctx })
      | .ok () => (.ok out, { t with srtpSend := ctx })

/-- `rtc_rtp_send_stream_t` with its statistics, its retransmission buffer, the ring of its
`rtc_twcc_sender_t`, and its transport. -/
structure RtpSender where
  stream : RtpSendStream
  stats : RtcpStats
  nackBuf : Option NackBuf
  ring : List TwccSentPkt
  transport : SendTransport

/-- The arguments of `rtc_rtp_send_stream_send`, and what happens below it: the failures of the
ciphers and of the socket, and the clock. -/
structure SendCall where
  payload : Bytes
  samples : UInt32 := 0
  marker : Bool := false
  ev : EvpFault := {}
  io : Option RtcErr := none
  nowUs : Nat := 0

def RtpSender.keep (s : RtpSender) (p : NackStore) (nowUs : Nat) : RtpSender :=
  { s with
    ring :=
      if p.hasTwcc then
        s.ring.set (p.twccSeq.toNat % twccSenderRing)
          { seq := p.twccSeq, size := p.data.length % 2 ^ 16, sendTimeUs := nowUs, used := true }
      else s.ring
    nackBuf := s.nackBuf.map fun buf => rtcNackBufStore buf p }

structure SenderResult where
  rc : Except RtcErr Unit
  handed : Option NackStore
  sender : RtpSender

def rtcRtpSendStreamSendOut (cr : Crypto) (s : RtpSender) (c : SendCall) : SenderResult :=
  let r := rtcRtpSendStreamSend s.stream c.payload c.samples c.marker
  match r.sent with
  | none => ⟨r.rc, none, { s with stream := r.stream }⟩
  | some pkt =>
    -- counted here, whatever becomes of the packet
    let stats := rtcRtcpStatsOnRtpSend s.stats pkt.header.timestamp c.payload.length
    match rtcTransportSendRtp cr s.transport c.ev c.io (pkt.buf.getD []) rtpBufSize with
    | (.error e, transport) =>
      ⟨.error e, none, { s with stream := r.stream, stats := stats, transport := transport }⟩
    | (.ok out, transport) =>
      let p : NackStore :=
        { data := out, seq := pkt.header.seq, hasTwcc := s.stream.tag.isSome,
          twccSeq := s.stream.tag.getD 0 }
      ⟨.ok (), some p,
        RtpSender.keep { s with stream := r.stream, stats := stats, transport := transport } p
          c.nowUs⟩

def rtcTwccSenderInvalidate (ring : List TwccSentPkt) (seq : UInt16) : List TwccSentPkt :=
  ring.modify (seq.toNat % twccSenderRing) fun e =>
    if e.seq = seq then { e with used := false } else e

/-- A packet that is sent again: the number that was asked for, its bytes, and the transport-wide
number of `rtc_nack_buf_retransmit`. -/
structure Resent where
  seq : UInt16
  data : Bytes
  twccSeq : UInt16
  deriving DecidableEq

def resendLost (twcc : Bool) : NackBuf → List TwccSentPkt → List UInt16 →
    List Resent × NackBuf × List TwccSentPkt
  | buf, ring, [] => ([], buf, ring)
  | buf, ring, seq :: lost =>
    match rtcNackBufRetransmit buf seq with
    | (none, buf) => resendLost twcc buf ring lost
    | (some (pkt, twccSeq), buf) =>
      -- 0 stands for a packet without a number
      let ring :=
        if twccSeq ≠ 0 ∧ twcc then rtcTwccSenderInvalidate ring twccSeq else ring
      let rest := resendLost twcc buf ring lost
      (⟨seq, pkt, twccSeq⟩ :: rest.1, rest.2)

def rtcRtpSendStreamHandleNack (s : RtpSender) (lost : List UInt16) : List Resent × RtpSender :=
  match s.nackBuf with
  | none => ([], s)
  | some buf =>
    if s.stream.transport then
      let r := resendLost s.stream.twccNextSeq.isSome buf s.ring lost
      (r.1, { s with nackBuf := some r.2.1, ring := r.2.2 })
    else ([], s)

/-! ## Runs -/

inductive SenderOp where
  | send (c : SendCall)
  | nack (lost : List UInt16)
  | transport (t : SendTransport)

def senderStep (cr : Crypto) (s : RtpSender) : SenderOp → RtpSender
  | .send c => (rtcRtpSendStreamSendOut cr s c).sender
  | .nack lost => (rtcRtpSendStreamHandleNack s lost).2
  | .transport t => { s with transport := t }

def senderRun (cr : Crypto) (s : RtpSender) (ops : List SenderOp) : RtpSender :=
  ops.foldl (senderStep cr) s

@[simp] theorem senderRun_cons (cr : Crypto) (s : RtpSender) (op : SenderOp) (ops : List SenderOp) :
    senderRun cr s (op :: ops) = senderRun cr (senderStep cr s op) ops := rfl

/-! ## One call -/

inductive SendOutcome where
  | silent
  | refused
  | handed
  deriving DecidableEq

def sendOutcome (cr : Crypto) (s : RtpSender) (c : SendCall) : SendOutcome :=
  if (rtcRtpSendStreamSend s.stream c.payload c.samples c.marker).sent.isNone then .silent
  else if (rtcRtpSendStreamSendOut cr s c).handed.isSome then .handed
  else .refused

def RtpSender.counted (s : RtpSender) (stream : RtpSendStream) (timestamp : UInt32) (len : Nat)
    (transport : SendTransport) : RtpSender :=
  { s with
    stream := stream
    stats := rtcRtcpStatsOnRtpSend s.stats timestamp len
    transport := transport }

/-- **What a call does.** -/
theorem rtcRtpSendStreamSendOut_cases (cr : Crypto) (s : RtpSender) (c : SendCall) :
    ∃ stream, stream = (rtcRtpSendStreamSend s.stream c.payload c.samples c.marker).stream
      ∧ ((sendOutcome cr s c = .silent ∧ (rtcRtpSendStreamSendOut cr s c).handed = none
          ∧ (rtcRtpSendStreamSendOut cr s c).sender = { s with stream := stream })
        ∨ (sendOutcome cr s c = .refused ∧ (rtcRtpSendStreamSendOut cr s c).handed = none
          ∧ ∃ timestamp transport, (rtcRtpSendStreamSendOut cr s c).sender
            = s.counted stream timestamp c.payload.length transport)
        ∨ (sendOutcome cr s c = .handed ∧ ∃ pkt out timestamp transport,
          rtcTransportSendRtp cr s.transport c.ev c.io pkt rtpBufSize = (.ok out, transport)
          ∧ ∃ p : NackStore, p.data = out ∧ p.hasTwcc = s.stream.tag.isSome
            ∧ (rtcRtpSendStreamSendOut cr s c).handed = some p
            ∧ (rtcRtpSendStreamSendOut cr s c).sender
              = (s.counted stream timestamp c.payload.length transport).keep p c.nowUs)) := by
  refine ⟨_, rfl, ?_⟩
  unfold sendOutcome
  cases hsent : (rtcRtpSendStreamSend s.stream c.payload c.samples c.marker).sent with
  | none => grind [rtcRtpSendStreamSendOut]
  | some pkt =>
    rcases htransport : rtcTransportSendRtp cr s.transport c.ev c.io (pkt.buf.getD []) rtpBufSize
      with ⟨e | out, transport⟩
    · have hout : rtcRtpSendStreamSendOut cr s c
          = ⟨.error e, none, s.counted
            (rtcRtpSendStreamSend s.stream c.payload c.samples c.marker).stream
            pkt.header.timestamp c.payload.length transport⟩ := by
        simp only [rtcRtpSendStreamSendOut, hsent, htransport, RtpSender.counted]
      rw [hout]
      exact .inr (.inl ⟨rfl, rfl, _, _, rfl⟩)
    · have hout : rtcRtpSendStreamSendOut cr s c
          = ⟨.ok (), some ⟨out, pkt.header.seq, s.stream.tag.isSome, s.stream.tag.getD 0⟩,
            (s.counted (rtcRtpSendStreamSend s.stream c.payload c.samples c.marker).stream
              pkt.header.timestamp c.payload.length transport).keep
              ⟨out, pkt.header.seq, s.stream.tag.isSome, s.stream.tag.getD 0⟩ c.nowUs⟩ := by
        simp only [rtcRtpSendStreamSendOut, hsent, htransport, RtpSender.counted]
      rw [hout]
      exact .inr (.inr ⟨rfl, _, _, _, _, htransport, _, rfl, rfl, rfl, rfl⟩)

theorem rtcRtpSendStreamHandleNack_cases (s : RtpSender) (lost : List UInt16) :
    rtcRtpSendStreamHandleNack s lost = ([], s)
      ∨ ∃ buf r, s.nackBuf = some buf
        ∧ resendLost s.stream.twccNextSeq.isSome buf s.ring lost = r
        ∧ rtcRtpSendStreamHandleNack s lost
          = (r.1, { s with nackBuf := some r.2.1, ring := r.2.2 }) := by
  unfold rtcRtpSendStreamHandleNack
  cases hbuf : s.nackBuf with
  | none => exact .inl rfl
  | some buf =>
    dsimp only
    split
    · exact .inr ⟨buf, _, rfl, rfl, rfl⟩
    · exact .inl rfl

/-! ## What a sender report counts -/

def payloadLengths (cr : Crypto) (o : SendOutcome) : RtpSender → List SenderOp → List Nat
  | _, [] => []
  | s, op :: ops =>
    (match op with
      | .send c => if sendOutcome cr s c = o then [c.payload.length] else []
      | _ => [])
      ++ payloadLengths cr o (senderStep cr s op) ops

theorem senderStep_counts (cr : Crypto) (s : RtpSender) (op : SenderOp) :
    (senderStep cr s op).stats.packetsSent
        = s.stats.packetsSent + UInt32.ofNat ((payloadLengths cr .handed s [op]).length
          + (payloadLengths cr .refused s [op]).length)
      ∧ (senderStep cr s op).stats.octetsSent
        = s.stats.octetsSent + UInt32.ofNat ((payloadLengths cr .handed s [op]).sum
          + (payloadLengths cr .refused s [op]).sum) := by
  cases op with
  | send c =>
    obtain ⟨stream, -, ⟨houtcome, -, hsender⟩ | ⟨houtcome, -, timestamp, transport, hsender⟩
      | ⟨houtcome, -, -, timestamp, transport, -, p, -, -, -, hsender⟩⟩ :=
      rtcRtpSendStreamSendOut_cases cr s c
    all_goals
      rw [senderStep, hsender]
      simp [payloadLengths, houtcome, RtpSender.counted, RtpSender.keep, rtcRtcpStatsOnRtpSend]
  | nack lost =>
    have hstats : (senderStep cr s (.nack lost)).stats = s.stats := by
      rw [senderStep]
      rcases rtcRtpSendStreamHandleNack_cases s lost with h | ⟨buf, r, -, -, h⟩ <;> rw [h]
    rw [hstats]
    simp [payloadLengths]
  | transport t => simp [payloadLengths, senderStep]

theorem senderRun_counts (cr : Crypto) (s : RtpSender) (ops : List SenderOp) :
    (senderRun cr s ops).stats.packetsSent
        = s.stats.packetsSent + UInt32.ofNat ((payloadLengths cr .handed s ops).length
          + (payloadLengths cr .refused s ops).length)
      ∧ (senderRun cr s ops).stats.octetsSent
        = s.stats.octetsSent + UInt32.ofNat ((payloadLengths cr .handed s ops).sum
          + (payloadLengths cr .refused s ops).sum) := by
  induction ops generalizing s with
  | nil => simp [senderRun, payloadLengths]
  | cons op ops ih =>
    -- both sums are of 32 bits, so the order of the terms does not matter
    obtain ⟨hpackets, hoctets⟩ := ih (senderStep cr s op)
    obtain ⟨hpacket, hoctet⟩ := senderStep_counts cr s op
    have happend : ∀ o, payloadLengths cr o s (op :: ops)
        = payloadLengths cr o s [op] ++ payloadLengths cr o (senderStep cr s op) ops := by
      intro o
      simp only [payloadLengths, List.append_nil]
    rw [senderRun_cons, hpackets, hoctets, hpacket, hoctet, happend, happend]
    simp only [List.length_append, List.sum_append, UInt32.ofNat_add]
    constructor <;> ac_rfl

theorem toNat_ofNat_add_eq_iff (a b : Nat) :
    (UInt32.ofNat (a + b)).toNat = a % 2 ^ 32 ↔ b % 2 ^ 32 = 0 := by
  rw [UInt32.toNat_ofNat']
  omega

/-- **A sender report counts what was handed to the network** just if the packets that were built
and refused, and their bytes, are a multiple of 2^32. -/
theorem senderReport_counts_iff (cr : Crypto) (s : RtpSender) (ssrc : UInt32)
    (initMs unixMs nowMs : UInt64) (ops : List SenderOp) :
    ∃ report,
      rtcRtcpParse (rtcRtcpBuildSr
        (senderRun cr { s with stats := rtcRtcpStatsInit ssrc initMs } ops).stats unixMs nowMs)
          = .ok report
      ∧ ((report.sr.senderPktCount.toNat
            = (payloadLengths cr .handed { s with stats := rtcRtcpStatsInit ssrc initMs }
              ops).length % 2 ^ 32
          ∧ report.sr.senderOctCount.toNat
            = (payloadLengths cr .handed { s with stats := rtcRtcpStatsInit ssrc initMs }
              ops).sum % 2 ^ 32)
        ↔ (payloadLengths cr .refused { s with stats := rtcRtcpStatsInit ssrc initMs }
              ops).length % 2 ^ 32 = 0
          ∧ (payloadLengths cr .refused { s with stats := rtcRtcpStatsInit ssrc initMs }
              ops).sum % 2 ^ 32 = 0) := by
  obtain ⟨hpackets, hoctets⟩ :=
    senderRun_counts cr { s with stats := rtcRtcpStatsInit ssrc initMs } ops
  refine ⟨_, rtcRtcpParse_buildSr _ unixMs nowMs, ?_⟩
  dsimp only [RtcpStats.senderInfo]
  rw [hpackets, hoctets]
  dsimp only [rtcRtcpStatsInit]
  rw [UInt32.zero_add, UInt32.zero_add, toNat_ofNat_add_eq_iff, toNat_ofNat_add_eq_iff]

def taggingSender (ready : Bool) : RtpSender :=
  { stream :=
      { session := ⟨96, 0, 0, 7⟩, transport := true, active := true, sendActive := true,
        twccNextSeq := some 0, twccExtId := 5 }
    stats := rtcRtcpStatsInit 7 0
    nackBuf := rtcNackBufCreate nackBufDefaultSize true
    ring := List.replicate twccSenderRing ⟨0, 0, 0, false⟩
    transport := ⟨ready, true, toyCtx⟩ }

/-- A packet that is sent before the transport has its keys is refused. -/
theorem refused_counted :
    payloadLengths toyCrypto .handed (taggingSender false) [.send { payload := [1, 2, 3] }] = []
      ∧ ∃ report,
        rtcRtcpParse (rtcRtcpBuildSr
          (senderRun toyCrypto (taggingSender false) [.send { payload := [1, 2, 3] }]).stats 0 0)
            = .ok report
        ∧ report.sr.senderPktCount = 1 ∧ report.sr.senderOctCount = 3 :=
  ⟨by decide +kernel, _, rtcRtcpParse_buildSr _ 0 0, by decide +kernel, by decide +kernel⟩

end Mrtc
