import Mrtc.Rtp.Extensions
import Mrtc.Rtp.SendStream
import Mrtc.Sdp.ExtraSections

/-! # Transport-wide numbers (`rtc_peer.c`, `rtc_transport.c`, `rtc_rtp_stream.c`)

A remote description that names the transport-cc extension gives the peer its id.
-/

namespace Mrtc

open Net CText List SdpLine

/-! ## The source -/

def rtcExtUriTransportCc : Bytes :=
  ascii "http://www.ietf.org/id/draft-holmer-rmcat-transport-wide-cc-extensions-01"

def rtcSdpMediaFindExtmapId (m : SdpMedia) (uri : Bytes) : Nat :=
  ((m.extmaps.find? fun e => e.uri = uri).map SdpExtmap.id).getD 0

structure TwccTransport where
  enableTwcc : Bool
  twccEnabled : Bool := false
  twccExtId : Nat := 0
  twccLocalSsrc : UInt32 := 0
  nextSeq : UInt16 := 0
  deriving DecidableEq

def txEnableTwccImpl (t : TwccTransport) (extId : Nat) (localSsrc : UInt32) (alloc : Bool) :
    Except RtcErr Unit × TwccTransport :=
  if !t.enableTwcc then (.error .invalid, t)
  else if t.twccEnabled then (.ok (), t)
  else
    let t := { t with twccExtId := extId, twccLocalSsrc := localSsrc, nextSeq := 0 }
    if !alloc then (.error .nomem, t) else (.ok (), { t with twccEnabled := true })

def rtcTransportEnableTwcc (t : TwccTransport) (extId : Nat) (localSsrc : UInt32) (alloc : Bool) :
    Except RtcErr Unit × TwccTransport :=
  if extId = 0 then (.error .invalid, t) else txEnableTwccImpl t extId localSsrc alloc

def rtcTransportTwccSender (t : TwccTransport) : Option UInt16 :=
  if t.twccEnabled then some t.nextSeq else none

def rtcRtpSendStreamAttachTransport (s : RtpSendStream) : RtpSendStream :=
  if !s.active then s else { s with transport := true }

def rtcRtpSendStreamAttachTwcc (t : TwccTransport) (s : RtpSendStream) (extId : Nat) :
    RtpSendStream :=
  if !s.active || decide (extId = 0) || !s.transport then s
  else { s with twccNextSeq := rtcTransportTwccSender t, twccExtId := extId }

structure TwccPeer where
  transport : TwccTransport
  twccExtId : Nat := 0
  connectStarted : Bool := false
  runtimeConnected : Bool := false
  senders : List RtpSendStream := []
  deriving DecidableEq

def remoteTwccId (media : List SdpMedia) : Option Nat :=
  ((media.filter fun m => m.mediaType = .audio || m.mediaType = .video).map fun m =>
    rtcSdpMediaFindExtmapId m rtcExtUriTransportCc).find? fun id => decide (id ≠ 0)

def TwccPeer.setRemoteDesc (p : TwccPeer) (sdp : Sdp) (alloc : Bool) : TwccPeer :=
  if p.connectStarted then p
  else
    match remoteTwccId sdp.media with
    | none => p
    | some id =>
      let localSsrc := ((p.senders.find? fun s => s.active).map fun s => s.session.ssrc).getD 0
      { p with
        twccExtId := id
        transport := (rtcTransportEnableTwcc p.transport id localSsrc alloc).2 }

def TwccPeer.attach (p : TwccPeer) (s : RtpSendStream) : RtpSendStream :=
  if !s.active then s
  else
    let s := rtcRtpSendStreamAttachTransport s
    if p.twccExtId ≠ 0 then rtcRtpSendStreamAttachTwcc p.transport s p.twccExtId else s

def TwccPeer.completeConnection (p : TwccPeer) : TwccPeer :=
  if !p.connectStarted || p.runtimeConnected then p
  else { p with runtimeConnected := true, senders := p.senders.map p.attach }

def rtcMaxTransceivers : Nat := 8

def TwccPeer.addSender (p : TwccPeer) (session : RtpSession) (active : Bool) : TwccPeer :=
  if rtcMaxTransceivers ≤ p.senders.length then p
  else
    let s : RtpSendStream :=
      { session := session, transport := false, active := active, sendActive := true,
        twccNextSeq := none, twccExtId := 0 }
    { p with senders := p.senders ++ [s] }

def TwccPeer.addTrack (p : TwccPeer) (session : RtpSession) : TwccPeer := p.addSender session true

def TwccPeer.addTransceiver (p : TwccPeer) (session : RtpSession) (active : Bool) : TwccPeer :=
  if p.connectStarted then p else p.addSender session active

def TwccPeer.removeTrack (p : TwccPeer) (i : Nat) : TwccPeer :=
  if p.connectStarted then p
  else { p with senders := p.senders.modify i fun s => { s with active := false } }

def RtpSendStream.counting (s : RtpSendStream) (nextSeq : UInt16) : RtpSendStream :=
  { s with twccNextSeq := s.twccNextSeq.map fun _ => nextSeq }

def TwccPeer.send (p : TwccPeer) (i : Nat) (payload : Bytes) (samples : UInt32) (marker : Bool) :
    Option RtpPacket × TwccPeer :=
  match p.senders[i]? with
  | none => (none, p)
  | some s =>
    let r := rtcRtpSendStreamSend (s.counting p.transport.nextSeq) payload samples marker
    (r.sent,
      { p with
        senders := p.senders.set i r.stream
        transport :=
          { p.transport with nextSeq := r.stream.twccNextSeq.getD p.transport.nextSeq } })

inductive TwccOp where
  | addTrack (session : RtpSession)
  | addTransceiver (session : RtpSession) (active : Bool)
  | removeTrack (i : Nat)
  | setParameters (i : Nat) (active : Bool)
  | setRemoteDesc (sdp : Sdp) (alloc : Bool)
  | connect
  | completeConnection
  | send (i : Nat) (payload : Bytes) (samples : UInt32) (marker : Bool)

def TwccPeer.step (p : TwccPeer) : TwccOp → Option RtpPacket × TwccPeer
  | .addTrack session => (none, p.addTrack session)
  | .addTransceiver session active => (none, p.addTransceiver session active)
  | .removeTrack i => (none, p.removeTrack i)
  | .setParameters i active =>
    (none, { p with senders := p.senders.modify i fun s => { s with sendActive := active } })
  | .setRemoteDesc sdp alloc => (none, p.setRemoteDesc sdp alloc)
  | .connect => (none, { p with connectStarted := true })
  | .completeConnection => (none, p.completeConnection)
  | .send i payload samples marker => p.send i payload samples marker

def twccPackets : TwccPeer → List TwccOp → List RtpPacket
  | _, [] => []
  | p, op :: ops => (p.step op).1.toList ++ twccPackets (p.step op).2 ops

def TwccPeer.run (p : TwccPeer) (ops : List TwccOp) : TwccPeer :=
  ops.foldl (fun p op => (p.step op).2) p

def TwccPeer.create (enableTwcc : Bool) : TwccPeer :=
  { transport := { enableTwcc := enableTwcc } }

def peerRuntimeInit : TwccPeer := TwccPeer.create false

/-! ## The number on a packet -/

def transportCcOf (id : Nat) (pkt : RtpPacket) : Option UInt16 :=
  match rtcRtpParse (pkt.buf.getD []) with
  | .error _ => none
  | .ok parsed =>
    if !parsed.header.extension || parsed.extData.isNone || decide (parsed.extLen = 0) then none
    else
      match rtcRtpExtParseBody rtpExtMaxEntries parsed.extBody with
      | .error _ => none
      | .ok exts => (rtcRtpExtFind exts id).map rtcRtpExtReadTransportCc

section Number

variable {pt : Nat} {seq : UInt16} {ts ssrc : UInt32} {marker : Bool} {payload : Bytes}
  {pkt : RtpPacket}

theorem transportCcOf_untagged (h : rtcRtpBuild pt seq ts ssrc marker payload = .ok pkt)
    (id : Nat) : transportCcOf id pkt = none := by
  obtain ⟨bytes, hbuf, hparse⟩ := rtcRtpParse_build h
  have hext : pkt.header.extension = false := by
    unfold rtcRtpBuild rtcRtpBuildWithExt at h
    split at h
    · cases h
    · cases h
      rfl
  rw [transportCcOf, hbuf, Option.getD_some, hparse]
  dsimp only
  rw [hext]
  rfl

theorem rtcRtpExtReadTransportCc_make (id : Nat) (n : UInt16) :
    rtcRtpExtReadTransportCc (rtcRtpExtMakeTransportCc id n) = n := by
  have hlength : ¬ (rtcRtpExtMakeTransportCc id n).data.length < 2 := by
    rw [rtcRtpExtMakeTransportCc, writeU16_length]
    omega
  have hread := readU16_writeU16 n.toNat_lt []
  rw [append_nil] at hread
  rw [rtcRtpExtReadTransportCc, if_neg hlength, rtcRtpExtMakeTransportCc, hread]
  exact UInt16.ofNat_toNat

theorem rtcRtpExtMakeTransportCc_ok {id : Nat} (hid : 1 ≤ id ∧ id ≤ 14) (n : UInt16) :
    (rtcRtpExtMakeTransportCc id n).Ok where
  id_pos := hid.1
  id_le := hid.2
  len_pos := by rw [rtcRtpExtMakeTransportCc, writeU16_length]; omega
  len_le := by rw [rtcRtpExtMakeTransportCc, writeU16_length]; decide

theorem RtpPacket.block_of_extBody (h : pkt.extBody ≠ []) :
    pkt.extData.isNone = false ∧ decide (pkt.extLen = 0) = false := by
  refine ⟨?_, decide_eq_false fun hzero => h ?_⟩
  · cases hdata : pkt.extData with
    | none => exact absurd (by rw [RtpPacket.extBody, hdata]; exact take_nil) h
    | some data => rfl
  · rw [RtpPacket.extBody, hzero, take_zero]

theorem rtcRtpBuildWithExt_element {e : RtpExt} (hok : e.Ok)
    (h : rtcRtpBuildWithExt pt seq ts ssrc marker [e] payload = .ok pkt) :
    pkt.header.extension = true ∧ pkt.extBody ≠ []
      ∧ rtcRtpExtParseBody rtpExtMaxEntries pkt.extBody = .ok [e] := by
  have hone : ∀ e' ∈ [e], e'.Ok := forall_mem_singleton.mpr hok
  have hpayload : payload.length ≤ rtpMaxPacket := by
    by_contra hlong
    rw [rtcRtpBuildWithExt, if_pos (by omega)] at h
    cases h
  rcases rtcRtpBuildWithExt_cases hone hpayload with ⟨-, hrefused⟩ | ⟨-, pkt', k, hbuilt, hheader,
    -, hbody⟩
  · cases h.symm.trans hrefused
  · cases h.symm.trans hbuilt
    refine ⟨by rw [hheader]; rfl, ?_, ?_⟩
    · rw [hbody]
      exact cons_ne_nil _ _
    · rw [hbody]
      exact rtcRtpExtParseBody_bytes hone (Nat.le_of_ble_eq_true rfl) k

theorem transportCcOf_tagged {id : Nat} (hid : 1 ≤ id ∧ id ≤ 14) {n : UInt16}
    (h : rtcRtpBuildWithExt pt seq ts ssrc marker [rtcRtpExtMakeTransportCc id n] payload
      = .ok pkt) : transportCcOf id pkt = some n := by
  obtain ⟨bytes, hbuf, hparse⟩ := rtcRtpParse_build h
  obtain ⟨hheader, hne, hread⟩ := rtcRtpBuildWithExt_element (rtcRtpExtMakeTransportCc_ok hid n) h
  obtain ⟨hdata, hlen⟩ := RtpPacket.block_of_extBody hne
  have hfind : rtcRtpExtFind [rtcRtpExtMakeTransportCc id n] id
      = some (rtcRtpExtMakeTransportCc id n) := by
    rw [rtcRtpExtFind, find?_cons_of_pos (by simp [rtcRtpExtMakeTransportCc])]
  have hblock : ¬ (!pkt.header.extension || pkt.extData.isNone || decide (pkt.extLen = 0))
      = true := by
    rw [hheader, hdata, hlen]
    decide
  rw [transportCcOf, hbuf, Option.getD_some, hparse]
  dsimp only
  rw [if_neg hblock]
  show (match rtcRtpExtParseBody rtpExtMaxEntries pkt.extBody with
    | .error _ => none
    | .ok exts => (rtcRtpExtFind exts id).map rtcRtpExtReadTransportCc) = some n
  rw [hread]
  dsimp only
  rw [hfind, Option.map_some, rtcRtpExtReadTransportCc_make]

end Number

/-! ## Ids that are read -/

def SdpMedia.IdsOk (m : SdpMedia) : Prop := ∀ e ∈ m.extmaps, 1 ≤ e.id ∧ e.id ≤ 14

theorem SdpLine.onSection_idsOk {m : SdpMedia} (h : m.IdsOk) (l : SdpLine) :
    (l.onSection m).IdsOk := by
  cases l with
  | extmap e =>
    dsimp only [onSection, addExtmap]
    split
    · next hid =>
      intro e' he'
      rcases mem_append.mp he' with he' | he'
      · exact h e' he'
      · rw [mem_singleton.mp he']
        dsimp only
        omega
    · exact h
  | ssrc value =>
    dsimp only [onSection]
    split <;> exact h
  | _ => exact h

theorem forall_mem_modify {α : Type} {P : α → Prop} {f : α → α} (hf : ∀ a, P a → P (f a))
    {as : List α} (h : ∀ a ∈ as, P a) (i : Nat) : ∀ a ∈ as.modify i f, P a := by
  intro a ha
  obtain ⟨j, hj⟩ := mem_iff_getElem?.mp ha
  rw [getElem?_modify] at hj
  obtain ⟨b, hb, rfl⟩ := Option.map_eq_some_iff.mp hj
  have hkept := h b (mem_of_getElem? hb)
  split
  · exact hf b hkept
  · exact hkept

theorem SdpLine.onSections_idsOk {ms : List SdpMedia} (h : ∀ m ∈ ms, m.IdsOk) (l : SdpLine) :
    ∀ m ∈ l.onSections ms, m.IdsOk := by
  have hmodify : ∀ m ∈ ms.modify (ms.length - 1) (fun m => l.onSection m), m.IdsOk :=
    forall_mem_modify (fun m hm => onSection_idsOk hm l) h _
  cases l with
  | media mediaType payloadType =>
    dsimp only [onSections]
    split
    · intro m hm
      rcases mem_append.mp hm with hm | hm
      · exact h m hm
      · rw [mem_singleton.mp hm]
        exact forall_mem_nil _
    · exact h
  | _ => exact hmodify

theorem foldl_onSections_idsOk (ls : List SdpLine) {ms : List SdpMedia}
    (h : ∀ m ∈ ms, m.IdsOk) : ∀ m ∈ ls.foldl onSections ms, m.IdsOk := by
  induction ls generalizing ms with
  | nil => exact h
  | cons l ls ih => exact ih (onSections_idsOk h l)

theorem rtcSdpParse_idsOk (inet : InetText) (alloc : Bool) (old : Sdp) (text : Bytes) (len : Nat) :
    ∀ m ∈ (rtcSdpParse inet alloc old text len).media, m.IdsOk := by
  have hmedia : (rtcSdpParse inet alloc old text len).media = sectionsOf _ :=
    sdpParseLines_sections inet alloc (min len (sdpMaxSize - 1)) old
      (text.take (min len (sdpMaxSize - 1))) text (min len (sdpMaxSize - 1))
  rw [hmedia]
  exact foldl_onSections_idsOk _ (forall_mem_nil _)

theorem remoteTwccId_range {media : List SdpMedia} (h : ∀ m ∈ media, m.IdsOk) {id : Nat}
    (hid : remoteTwccId media = some id) : 1 ≤ id ∧ id ≤ 14 := by
  have hne := find?_some hid
  obtain ⟨m, hm, rfl⟩ := mem_map.mp (mem_of_find?_eq_some hid)
  have hok := h m (mem_filter.mp hm).1
  rw [rtcSdpMediaFindExtmapId] at hne ⊢
  cases hfind : m.extmaps.find? fun e => e.uri = rtcExtUriTransportCc with
  | none =>
    rw [hfind] at hne
    exact absurd hne (by decide)
  | some e => exact hok e (mem_of_find?_eq_some hfind)

/-! ## One call -/

def RtpSendStream.Attached (id : Nat) (enabled : Bool) (s : RtpSendStream) : Prop :=
  s.transport = true → s.twccExtId = id ∧ s.twccNextSeq.isSome = enabled

structure TwccPeer.Told (id : Nat) (enabled : Bool) (p : TwccPeer) : Prop where
  extId : p.twccExtId = id
  twccEnabled : p.transport.twccEnabled = enabled
  senders : ∀ s ∈ p.senders, s.Attached id enabled

def TwccOp.Plain : TwccOp → Prop
  | .setRemoteDesc .. => False
  | .send _ payload _ _ => payload.length ≤ rtpMaxPacket
  | _ => True

def TwccPeer.Counts (id : Nat) (enabled : Bool) (p : TwccPeer) (sent : Option RtpPacket)
    (p' : TwccPeer) : Prop :=
  match sent with
  | none => p'.transport.nextSeq = p.transport.nextSeq
  | some pkt =>
    if enabled then
      transportCcOf id pkt = some p.transport.nextSeq
        ∧ p'.transport.nextSeq = p.transport.nextSeq + 1
    else transportCcOf id pkt = none

section Step

variable {id : Nat} {enabled : Bool} {p : TwccPeer}

theorem TwccPeer.Told.attach (h : p.Told id enabled) (hid : 1 ≤ id) {s : RtpSendStream}
    (hs : s.Attached id enabled) : (p.attach s).Attached id enabled := by
  have hne : id ≠ 0 := by omega
  cases hactive : s.active with
  | false =>
    have hkept : p.attach s = s := by simp [TwccPeer.attach, hactive]
    rwa [hkept]
  | true =>
    have hattach : p.attach s
        = { s with
            transport := true
            twccNextSeq := rtcTransportTwccSender p.transport
            twccExtId := id } := by
      simp [TwccPeer.attach, rtcRtpSendStreamAttachTransport, rtcRtpSendStreamAttachTwcc, hactive,
        h.extId, hne]
    rw [hattach]
    refine fun _ => ⟨rfl, ?_⟩
    show (rtcTransportTwccSender p.transport).isSome = enabled
    rw [rtcTransportTwccSender, h.twccEnabled]
    cases enabled <;> rfl

theorem rtcRtpSendStreamSend_counts (hid : 1 ≤ id ∧ id ≤ 14) {s : RtpSendStream}
    (hs : s.Attached id enabled) {payload : Bytes} (hlen : payload.length ≤ rtpMaxPacket)
    (samples : UInt32) (marker : Bool) : let r := rtcRtpSendStreamSend s payload samples marker
    r.stream.Attached id enabled
      ∧ match r.sent with
        | none => r.stream.twccNextSeq = s.twccNextSeq
        | some pkt =>
          if enabled then
            ∃ n, s.twccNextSeq = some n ∧ transportCcOf id pkt = some n
              ∧ r.stream.twccNextSeq = some (n + 1)
          else transportCcOf id pkt = none := by
  have hne : id ≠ 0 := by omega
  unfold rtcRtpSendStreamSend
  by_cases hactive : (!s.active) = true
  · rw [if_pos hactive]
    exact ⟨hs, rfl⟩
  by_cases htransport : (!s.transport) = true
  · rw [if_neg hactive, if_pos htransport]
    exact ⟨hs, rfl⟩
  by_cases hsend : (!s.sendActive) = true
  · rw [if_neg hactive, if_neg htransport, if_pos hsend]
    exact ⟨hs, rfl⟩
  rw [if_neg hactive, if_neg htransport, if_neg hsend]
  obtain ⟨hext, hsome⟩ := hs (by simpa using htransport)
  cases hcounter : s.twccNextSeq with
  | none =>
    rw [hcounter] at hsome
    obtain rfl := hsome
    have htag : s.tag = none := by rw [RtpSendStream.tag, hcounter, ite_self]
    rw [htag]
    dsimp only [rtcRtpSessionSend]
    cases hbuild : rtcRtpBuild s.session.payloadType s.session.seq s.session.timestamp
        s.session.ssrc marker payload with
    | error e => exact ⟨hs, hcounter⟩
    | ok pkt => exact ⟨hs, transportCcOf_untagged hbuild id⟩
  | some n =>
    rw [hcounter] at hsome
    obtain rfl := hsome
    have htag : s.tag = some n := by rw [RtpSendStream.tag, hext, if_pos hne, hcounter]
    rw [htag]
    dsimp only [rtcRtpSessionSendWithExt]
    obtain ⟨pkt, hbuild⟩ := rtcRtpBuildWithExt_carried hid n hlen s.session.payloadType
      s.session.seq s.session.timestamp s.session.ssrc marker
    rw [hext, hbuild]
    exact ⟨fun _ => ⟨rfl, rfl⟩, n, rfl, transportCcOf_tagged hid hbuild, rfl⟩

theorem TwccPeer.Told.addSender (h : p.Told id enabled) (session : RtpSession) (active : Bool) :
    (p.addSender session active).Told id enabled := by
  unfold TwccPeer.addSender
  split
  · exact h
  · refine ⟨h.extId, h.twccEnabled, fun s hs => ?_⟩
    rcases mem_append.mp hs with hs | hs
    · exact h.senders s hs
    · rw [mem_singleton.mp hs]
      exact fun htransport => absurd htransport Bool.false_ne_true

theorem TwccPeer.addSender_nextSeq (p : TwccPeer) (session : RtpSession) (active : Bool) :
    (p.addSender session active).transport.nextSeq = p.transport.nextSeq := by
  unfold TwccPeer.addSender
  split <;> rfl

section

variable (h : p.Told id enabled)
include h

theorem TwccPeer.Told.modify (i : Nat) {f : RtpSendStream → RtpSendStream}
    (hf : ∀ s : RtpSendStream, s.Attached id enabled → (f s).Attached id enabled) :
    TwccPeer.Told id enabled { p with senders := p.senders.modify i f } :=
  ⟨h.extId, h.twccEnabled, forall_mem_modify hf h.senders i⟩

theorem TwccPeer.Told.send (hid : 1 ≤ id ∧ id ≤ 14) (i : Nat)
    {payload : Bytes} (hlen : payload.length ≤ rtpMaxPacket) (samples : UInt32) (marker : Bool) :
    (p.send i payload samples marker).2.Told id enabled
      ∧ p.Counts id enabled (p.send i payload samples marker).1
        (p.send i payload samples marker).2 := by
  unfold TwccPeer.send
  cases hsender : p.senders[i]? with
  | none => exact ⟨h, rfl⟩
  | some s =>
    have hs : (s.counting p.transport.nextSeq).Attached id enabled := by
      intro htransport
      obtain ⟨hext, hsome⟩ := h.senders s (mem_of_getElem? hsender) htransport
      exact ⟨hext, hsome ▸ Option.isSome_map⟩
    obtain ⟨hattached, hcounts⟩ := rtcRtpSendStreamSend_counts hid hs hlen samples marker
    dsimp only
    -- from here on only what the sender did to its counter matters, not how
    generalize rtcRtpSendStreamSend (s.counting p.transport.nextSeq) payload samples marker = r
      at hattached hcounts ⊢
    constructor
    · refine ⟨h.extId, h.twccEnabled, fun s' hs' => ?_⟩
      rcases mem_or_eq_of_mem_set hs' with hs' | rfl
      · exact h.senders s' hs'
      · exact hattached
    · unfold TwccPeer.Counts
      cases hsent : r.sent with
      | none =>
        rw [hsent] at hcounts
        dsimp only at hcounts ⊢
        -- without a packet the counter goes back as it was lent, if it was
        rw [hcounts, RtpSendStream.counting]
        cases s.twccNextSeq <;> rfl
      | some pkt =>
        rw [hsent] at hcounts
        cases enabled with
        | false => exact hcounts
        | true =>
          obtain ⟨n, hn, hnumber, hnext⟩ := hcounts
          obtain ⟨-, -, rfl⟩ := Option.map_eq_some_iff.mp hn
          exact ⟨hnumber, by rw [hnext]; rfl⟩

/-- **One call.** -/
theorem TwccPeer.Told.step (hid : 1 ≤ id ∧ id ≤ 14) {op : TwccOp} (hop : op.Plain) :
    (p.step op).2.Told id enabled ∧ p.Counts id enabled (p.step op).1 (p.step op).2 := by
  cases op with
  | addTrack session => exact ⟨h.addSender session true, p.addSender_nextSeq session true⟩
  | addTransceiver session active =>
    dsimp only [TwccPeer.step, TwccPeer.addTransceiver]
    split
    · exact ⟨h, rfl⟩
    · exact ⟨h.addSender session active, p.addSender_nextSeq session active⟩
  | removeTrack i =>
    dsimp only [TwccPeer.step, TwccPeer.removeTrack]
    split
    · exact ⟨h, rfl⟩
    · exact ⟨h.modify i fun s hs => hs, rfl⟩
  | setParameters i active => exact ⟨h.modify i fun s hs => hs, rfl⟩
  | setRemoteDesc => exact hop.elim
  | connect => exact ⟨⟨h.extId, h.twccEnabled, h.senders⟩, rfl⟩
  | completeConnection =>
    dsimp only [TwccPeer.step, TwccPeer.completeConnection]
    split
    · exact ⟨h, rfl⟩
    · refine ⟨⟨h.extId, h.twccEnabled, fun s hs => ?_⟩, rfl⟩
      obtain ⟨s', hs', rfl⟩ := mem_map.mp hs
      exact h.attach hid.1 (h.senders s' hs')
  | send i payload samples marker => exact h.send hid i hop samples marker

end

end Step

/-! ## Runs -/

def consecutive (first : UInt16) : (count : Nat) → List UInt16
  | 0 => []
  | count + 1 => first :: consecutive (first + 1) count

/-- The packets carry consecutive transport-wide numbers. -/
def Numbered (id : Nat) (packets : List RtpPacket) : Prop :=
  ∃ first, packets.map (transportCcOf id) = (consecutive first packets.length).map some

section Run

variable {id : Nat} {p : TwccPeer} {ops : List TwccOp}

theorem twccPackets_untagged (hid : 1 ≤ id ∧ id ≤ 14) (h : p.Told id false)
    (hops : ∀ op ∈ ops, op.Plain) : ∀ pkt ∈ twccPackets p ops, transportCcOf id pkt = none := by
  induction ops generalizing p with
  | nil => exact forall_mem_nil _
  | cons op ops ih =>
    obtain ⟨hnext, hcounts⟩ := h.step hid (hops op mem_cons_self)
    intro pkt hpkt
    rcases mem_append.mp hpkt with hpkt | hpkt
    · rw [Option.mem_toList.mp hpkt] at hcounts
      exact hcounts
    · exact ih hnext (fun op hop => hops op (mem_cons_of_mem _ hop)) pkt hpkt

theorem twccPackets_numbered (hid : 1 ≤ id ∧ id ≤ 14) (h : p.Told id true)
    (hops : ∀ op ∈ ops, op.Plain) :
    (twccPackets p ops).map (transportCcOf id)
      = (consecutive p.transport.nextSeq (twccPackets p ops).length).map some := by
  induction ops generalizing p with
  | nil => rfl
  | cons op ops ih =>
    obtain ⟨hnext, hcounts⟩ := h.step hid (hops op mem_cons_self)
    have hrest := ih hnext fun op hop => hops op (mem_cons_of_mem _ hop)
    rw [twccPackets]
    cases hsent : (p.step op).1 with
    | none =>
      rw [hsent] at hcounts
      rw [hcounts] at hrest
      exact hrest
    | some pkt =>
      rw [hsent] at hcounts
      obtain ⟨hnumber, hseq⟩ := hcounts
      rw [hseq] at hrest
      exact congrArg₂ List.cons hnumber hrest

end Run

/-! ## From the start on -/

/-- Transport-cc is enabled only on a transport that was created for it, and no sender has a
transport before the connection completes. -/
structure TwccPeer.Valid (enable : Bool) (p : TwccPeer) : Prop where
  enableTwcc : p.transport.enableTwcc = enable
  enabled : p.transport.twccEnabled = true → enable = true
  connected : p.runtimeConnected = true → p.connectStarted = true
  senders : p.runtimeConnected = false → ∀ s ∈ p.senders, s.transport = false

theorem rtcRtpSendStreamSend_transport (s : RtpSendStream) (payload : Bytes) (samples : UInt32)
    (marker : Bool) :
    (rtcRtpSendStreamSend s payload samples marker).stream.transport = s.transport := by
  have hstamped : ∀ (s' : RtpSendStream) (x : Except RtcErr RtpPacket × RtpSession),
      (sendStamped s' x).stream.transport = s'.transport := by
    rintro s' ⟨_ | _, _⟩ <;> rfl
  unfold rtcRtpSendStreamSend
  split_ifs
  · rfl
  · rfl
  · rfl
  · cases s.tag with
    | none => exact hstamped _ _
    | some n => exact hstamped _ _

section Valid

variable {enable : Bool} {p : TwccPeer} {id : Nat}

theorem rtcTransportEnableTwcc_enabled (t : TwccTransport) (hid : id ≠ 0)
    (ssrc : UInt32) (alloc : Bool) :
    (rtcTransportEnableTwcc t id ssrc alloc).2.enableTwcc = t.enableTwcc
      ∧ (rtcTransportEnableTwcc t id ssrc alloc).2.twccEnabled
        = (t.twccEnabled || (t.enableTwcc && alloc)) := by
  rw [rtcTransportEnableTwcc, if_neg hid, txEnableTwccImpl]
  cases henable : t.enableTwcc <;> cases henabled : t.twccEnabled <;> cases alloc <;>
    simp [henable, henabled]

theorem remoteTwccId_ne_zero {media : List SdpMedia} (h : remoteTwccId media = some id) :
    id ≠ 0 := by
  have hne := find?_some h
  exact of_decide_eq_true hne

theorem TwccPeer.setRemoteDesc_eq (hstarted : p.connectStarted = false) {sdp : Sdp}
    (hid : remoteTwccId sdp.media = some id) (alloc : Bool) :
    ∃ ssrc, p.setRemoteDesc sdp alloc
      = { p with
          twccExtId := id
          transport := (rtcTransportEnableTwcc p.transport id ssrc alloc).2 } := by
  rw [TwccPeer.setRemoteDesc, if_neg (by simp [hstarted]), hid]
  exact ⟨_, rfl⟩

section

variable (h : p.Valid enable)
include h

theorem TwccPeer.Valid.setRemoteDesc (sdp : Sdp) (alloc : Bool) :
    (p.setRemoteDesc sdp alloc).Valid enable := by
  cases hstarted : p.connectStarted with
  | true =>
    rw [TwccPeer.setRemoteDesc, if_pos hstarted]
    exact h
  | false =>
    cases hid : remoteTwccId sdp.media with
    | none =>
      rw [TwccPeer.setRemoteDesc, if_neg (by simp [hstarted]), hid]
      exact h
    | some id =>
      obtain ⟨ssrc, heq⟩ := TwccPeer.setRemoteDesc_eq hstarted hid alloc
      obtain ⟨henable, henabled⟩ :=
        rtcTransportEnableTwcc_enabled p.transport (remoteTwccId_ne_zero hid) ssrc alloc
      rw [heq]
      refine ⟨henable.trans h.enableTwcc, fun hnow => ?_, h.connected, h.senders⟩
      rcases Bool.or_eq_true_iff.mp (henabled.symm.trans hnow) with hbefore | hgiven
      · exact h.enabled hbefore
      · rw [← h.enableTwcc]
        exact (Bool.and_eq_true_iff.mp hgiven).1

theorem TwccPeer.Valid.addSender (session : RtpSession) (active : Bool) :
    (p.addSender session active).Valid enable := by
  unfold TwccPeer.addSender
  split
  · exact h
  · refine ⟨h.enableTwcc, h.enabled, h.connected, fun hconnected s hs => ?_⟩
    rcases mem_append.mp hs with hs | hs
    · exact h.senders hconnected s hs
    · rw [mem_singleton.mp hs]

theorem TwccPeer.Valid.modify (i : Nat) {f : RtpSendStream → RtpSendStream}
    (hf : ∀ s : RtpSendStream, s.transport = false → (f s).transport = false) :
    TwccPeer.Valid enable { p with senders := p.senders.modify i f } :=
  ⟨h.enableTwcc, h.enabled, h.connected, fun hconnected =>
    forall_mem_modify hf (h.senders hconnected) i⟩

theorem TwccPeer.Valid.step (op : TwccOp) : (p.step op).2.Valid enable := by
  cases op with
  | addTrack session => exact h.addSender session true
  | addTransceiver session active =>
    dsimp only [TwccPeer.step, TwccPeer.addTransceiver]
    split
    · exact h
    · exact h.addSender session active
  | removeTrack i =>
    dsimp only [TwccPeer.step, TwccPeer.removeTrack]
    split
    · exact h
    · exact h.modify i fun s hs => hs
  | setParameters i active => exact h.modify i fun s hs => hs
  | setRemoteDesc sdp alloc => exact h.setRemoteDesc sdp alloc
  | connect => exact ⟨h.enableTwcc, h.enabled, fun _ => rfl, h.senders⟩
  | completeConnection =>
    dsimp only [TwccPeer.step, TwccPeer.completeConnection]
    split
    · exact h
    · next hgo =>
      have hstarted : p.connectStarted = true := by
        simp only [Bool.or_eq_true, not_or, Bool.not_eq_true'] at hgo
        simpa using hgo.1
      exact ⟨h.enableTwcc, h.enabled, fun _ => hstarted, fun hconnected => by cases hconnected⟩
  | send i payload samples marker =>
    dsimp only [TwccPeer.step, TwccPeer.send]
    cases hsender : p.senders[i]? with
    | none => exact h
    | some s =>
      refine ⟨h.enableTwcc, h.enabled, h.connected, fun hconnected s' hs' => ?_⟩
      rcases mem_or_eq_of_mem_set hs' with hs' | rfl
      · exact h.senders hconnected s' hs'
      · rw [rtcRtpSendStreamSend_transport]
        exact h.senders hconnected s (mem_of_getElem? hsender)

theorem TwccPeer.Valid.run (ops : List TwccOp) : (p.run ops).Valid enable := by
  induction ops generalizing p with
  | nil => exact h
  | cons op ops ih => exact ih (h.step op)

end

theorem TwccPeer.create_valid (enable : Bool) : (TwccPeer.create enable).Valid enable where
  enableTwcc := rfl
  enabled henabled := absurd henabled Bool.false_ne_true
  connected hconnected := absurd hconnected Bool.false_ne_true
  senders _ := forall_mem_nil _

theorem TwccPeer.Valid.told (h : p.Valid enable) (hstarted : p.connectStarted = false) {sdp : Sdp}
    (hid : remoteTwccId sdp.media = some id) (alloc : Bool) :
    (p.setRemoteDesc sdp alloc).Told id (p.transport.twccEnabled || (enable && alloc)) := by
  obtain ⟨ssrc, heq⟩ := TwccPeer.setRemoteDesc_eq hstarted hid alloc
  obtain ⟨-, henabled⟩ :=
    rtcTransportEnableTwcc_enabled p.transport (remoteTwccId_ne_zero hid) ssrc alloc
  -- the description is not refused, so no sender has been attached yet
  have hconnected : p.runtimeConnected = false := by
    cases hconnected : p.runtimeConnected with
    | false => rfl
    | true => exact absurd (hstarted.symm.trans (h.connected hconnected)) Bool.false_ne_true
  rw [heq]
  refine ⟨rfl, h.enableTwcc ▸ henabled, fun s hs htransport => ?_⟩
  exact absurd ((h.senders hconnected s hs).symm.trans htransport) Bool.false_ne_true

end Valid

/-- **Exactly when negotiated transport-cc takes effect.** -/
theorem transportCc_takes_effect_iff (inet : InetText) (candAlloc : Bool) (enable : Bool)
    (before : List TwccOp)
    (hstarted : ((TwccPeer.create enable).run before).connectStarted = false) (text : Bytes)
    (len : Nat) {id : Nat}
    (hid : remoteTwccId (rtcSdpParse inet candAlloc {} text len).media = some id) (alloc : Bool)
    {ops : List TwccOp} (hops : ∀ op ∈ ops, op.Plain) :
    let p := (TwccPeer.create enable).run before
    let told := (p.step (.setRemoteDesc (rtcSdpParse inet candAlloc {} text len) alloc)).2
    Numbered id (twccPackets told ops)
      ↔ twccPackets told ops = []
        ∨ enable = true ∧ (p.transport.twccEnabled = true ∨ alloc = true) := by
  intro p told
  have hrange := remoteTwccId_range (rtcSdpParse_idsOk inet candAlloc {} text len) hid
  have hvalid : p.Valid enable := (TwccPeer.create_valid enable).run before
  have htold : told.Told id (p.transport.twccEnabled || (enable && alloc)) :=
    hvalid.told hstarted hid alloc
  have henabled : (p.transport.twccEnabled || (enable && alloc)) = true
      ↔ enable = true ∧ (p.transport.twccEnabled = true ∨ alloc = true) := by
    have hcreated := hvalid.enabled
    simp only [Bool.or_eq_true, Bool.and_eq_true]
    tauto
  rw [← henabled]
  cases hcase : (p.transport.twccEnabled || (enable && alloc)) with
  | true =>
    rw [hcase] at htold
    exact ⟨fun _ => .inr rfl, fun _ => ⟨_, twccPackets_numbered hrange htold hops⟩⟩
  | false =>
    rw [hcase] at htold
    have huntagged := twccPackets_untagged hrange htold hops
    constructor
    · rintro ⟨first, hnumbers⟩
      left
      cases hpackets : twccPackets told ops with
      | nil => rfl
      | cons pkt packets =>
        rw [hpackets] at hnumbers huntagged
        cases (huntagged pkt mem_cons_self).symm.trans (List.cons.inj hnumbers).1
    · rintro (hnil | htrue)
      · rw [hnil]
        exact ⟨0, rfl⟩
      · cases htrue

def twccOffer : Bytes :=
  ascii "m=audio 9 UDP/TLS/RTP/SAVPF 111" ++ crlf
    ++ (ascii "a=extmap:5 " ++ rtcExtUriTransportCc) ++ crlf

def parsedTwccOffer : Sdp := rtcSdpParse dottedQuad true {} (twccOffer ++ [0]) twccOffer.length

def oneTrack : List TwccOp := [.addTrack ⟨111, 0, 0, 7⟩]

def twoSends : List TwccOp :=
  [.connect, .completeConnection, .send 0 [1] 960 false, .send 0 [2] 960 false]

theorem enabledTransport_numbers :
    Numbered 5 (twccPackets
      (((TwccPeer.create true).run oneTrack).step (.setRemoteDesc parsedTwccOffer true)).2
      twoSends) := by
  refine (transportCc_takes_effect_iff dottedQuad true true oneTrack rfl (twccOffer ++ [0])
    twccOffer.length (by decide +kernel) true ?_).mpr (.inr ⟨rfl, .inr rfl⟩)
  simp [twoSends, TwccOp.Plain, rtpMaxPacket]

/-- On the peer as it is created the extension is negotiated, and both packets go out without it. -/
theorem peerTransport_untagged :
    let p := (peerRuntimeInit.run oneTrack).setRemoteDesc parsedTwccOffer true
    p.twccExtId = 5 ∧ p.transport.twccEnabled = false
      ∧ (twccPackets p twoSends).map (transportCcOf 5) = [none, none] := by
  decide +kernel

end Mrtc
