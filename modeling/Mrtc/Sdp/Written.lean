import Mrtc.Sdp.Loop
import Mrtc.Sdp.ReadLine

/-! # The lines that are generated

The text that `rtc_sdp_generate` writes is the text of a list of lines (`sdpLines`,
`rtcSdpGenerate_raw`), if the description is one that can be read back (`Sdp.Ok`).
-/

namespace Mrtc

open Net CText List

def linesText (ls : List SdpLine) : Bytes := ls.flatMap fun l => l.text ++ crlf

/-! ## The lines of a description -/

def rtpmapLine (m : SdpMedia) : SdpLine :=
  .rtpmap m.payloadType m.codecName m.clockrate
    (if m.mediaType == .audio && 0 < m.channels then some m.channels else none)

def rtpLines (m : SdpMedia) : List SdpLine :=
  ([.inert .direction, .inert .rtcpMux, rtpmapLine m] : List SdpLine)
    ++ m.extmaps.map SdpLine.extmap ++ (if m.ssrc = 0 then [] else [SdpLine.ssrc m.ssrc])

def sectionLines (sdp : Sdp) (m : SdpMedia) : List SdpLine :=
  ([.media m.mediaType (if m.mediaType.isRtp then m.payloadType else 0), .inert .connection,
    .mid m.midIndex, .iceUfrag sdp.iceUfrag, .icePwd sdp.icePwd, .fingerprint sdp.fingerprint,
    .setup sdp.setup] : List SdpLine)
  ++ (if m.mediaType.isRtp then rtpLines m else [SdpLine.inert .sctpPort])

def headerLines (sdp : Sdp) : List SdpLine :=
  [.inert .version, .inert (.origin sdp.sessionId), .inert .name, .inert .time,
    .inert (.group (sdp.media.map (·.midIndex))), .iceOptions]

def candidateValues (inet : InetText) (cs : List IceCandidate) : List Bytes :=
  cs.filterMap fun c =>
    match rtcIceCandidateToString inet c 256 with
    | .ok text => some (text.drop (ascii "candidate:").length)
    | .error _ => none

def sdpLines (inet : InetText) (sdp : Sdp) : List SdpLine :=
  headerLines sdp ++ sdp.media.flatMap (sectionLines sdp)
    ++ (candidateValues inet sdp.candidates).map SdpLine.candidate

/-! ## Descriptions that can be read back -/

/-- The strings of an audio or video section are not empty, fit and have no white space, its numbers
are ones C holds, and the number of channels is one that is written. -/
@[mk_iff]
structure SdpMedia.RtpOk (m : SdpMedia) : Prop where
  payloadType : IsInt m.payloadType
  clockrate : IsInt m.clockrate
  channels : IsInt m.channels
  audio : m.mediaType = .audio → 0 ≤ m.channels
  video : m.mediaType = .video → m.channels = 0
  codec : Word m.codecName sdpCodecNameLen
  codec_slash : 0x2F ∉ m.codecName
  ssrc : m.ssrc < 2 ^ 32
  extmaps : ∀ e ∈ m.extmaps, 1 ≤ e.id ∧ e.id ≤ 14 ∧ Word e.uri sdpExtmapUriLen
  extmap_count : m.extmaps.length ≤ sdpMaxExtmap

instance (m : SdpMedia) : Decidable m.RtpOk := decidable_of_iff' _ (SdpMedia.rtpOk_iff m)

@[mk_iff]
structure SdpMedia.Ok (m : SdpMedia) : Prop where
  mid : IsInt m.midIndex
  rtp : m.mediaType.isRtp = true → m.RtpOk

instance (m : SdpMedia) : Decidable m.Ok := decidable_of_iff' _ (SdpMedia.ok_iff m)

@[mk_iff]
structure Sdp.Ok (sdp : Sdp) : Prop where
  media_pos : 1 ≤ sdp.media.length
  media_count : sdp.media.length ≤ sdpMaxMedia
  media : ∀ m ∈ sdp.media, m.Ok
  iceUfrag : Word sdp.iceUfrag iceUfragLen
  icePwd : Word sdp.icePwd icePwdLen
  fingerprint : Word sdp.fingerprint sdpFingerprintLen
  sessionId : Plain sdp.sessionId
  foundations : ∀ c ∈ sdp.candidates, Plain c.foundation

instance (sdp : Sdp) : Decidable sdp.Ok := decidable_of_iff' _ (Sdp.ok_iff sdp)

/-! ## The text of the lines -/

theorem mediaLine_eq (m : SdpMedia) :
    mediaLine m
      = (SdpLine.media m.mediaType (if m.mediaType.isRtp then m.payloadType else 0)).text := by
  have haudio : ascii "m=audio 9 UDP/TLS/RTP/SAVPF "
      = ascii "m=audio" ++ ascii " 9 UDP/TLS/RTP/SAVPF " := by decide
  have hvideo : ascii "m=video 9 UDP/TLS/RTP/SAVPF "
      = ascii "m=video" ++ ascii " 9 UDP/TLS/RTP/SAVPF " := by decide
  have happlication : ascii "m=application 9 UDP/DTLS/SCTP webrtc-datachannel"
      = ascii "m=application" ++ ascii " 9 UDP/DTLS/SCTP webrtc-datachannel" := by decide
  unfold mediaLine
  cases m.mediaType with
  | audio =>
    rw [haudio, append_assoc]
    rfl
  | video =>
    rw [hvideo, append_assoc]
    rfl
  | application => exact happlication

variable {m : SdpMedia} {sdp : Sdp}

section

variable (hrtp : m.mediaType.isRtp = true)
include hrtp

theorem rtpmapLines_eq (hm : m.RtpOk) : rtpmapLines m = [(rtpmapLine m).text] := by
  have hcodec : (m.codecName != []) = true := bne_iff_ne.mpr hm.codec.ne_nil
  simp only [rtpmapLines, hrtp, hcodec, Bool.and_self, if_true, rtpmapLine]
  split
  · simp only [SdpLine.text, SdpLine.tail, channelsText, append_assoc]
    rfl
  · simp only [SdpLine.text, SdpLine.tail, channelsText, append_assoc, append_nil]
    rfl

theorem extmapLines_eq (hm : m.RtpOk) :
    extmapLines m = (m.extmaps.map SdpLine.extmap).map SdpLine.text := by
  -- entries without an id or a name are left out; here there are none
  have hall : m.extmaps.filter (fun e => e.id != 0 && e.uri != []) = m.extmaps := by
    apply filter_eq_self.mpr
    intro e he
    obtain ⟨hid, -, huri⟩ := hm.extmaps e he
    rw [Bool.and_eq_true, bne_iff_ne, bne_iff_ne]
    exact ⟨by omega, huri.ne_nil⟩
  rw [extmapLines, hrtp, if_pos rfl, hall, map_map]
  apply map_congr_left
  intro e _
  simp only [extmapLine, Function.comp_apply, SdpLine.text, SdpLine.tail, append_assoc]
  rfl

theorem ssrcLines_eq :
    ssrcLines m
      = (if m.ssrc = 0 then [] else [SdpLine.ssrc m.ssrc] : List SdpLine).map SdpLine.text := by
  rw [ssrcLines, hrtp, Bool.true_and]
  by_cases hzero : m.ssrc = 0
  · rw [if_pos hzero, if_neg (by rw [hzero]; exact Bool.false_ne_true)]
    rfl
  · rw [if_neg hzero, if_pos (bne_iff_ne.mpr hzero), append_assoc]
    rfl

end

theorem MediaType.beq_application (mediaType : MediaType) :
    (mediaType == MediaType.application) = !mediaType.isRtp := by
  cases mediaType <;> rfl

theorem mediaSectionLines_eq (sdp : Sdp) (hm : m.Ok) :
    mediaSectionLines m sdp = (sectionLines sdp m).map SdpLine.text := by
  rw [mediaSectionLines, mediaLine_eq, sectionLines, map_append, MediaType.beq_application]
  by_cases hrtp : m.mediaType.isRtp = true
  · rw [rtpmapLines_eq hrtp (hm.rtp hrtp), extmapLines_eq hrtp (hm.rtp hrtp), ssrcLines_eq hrtp]
    simp only [hrtp, if_true, rtpLines, map_append, append_assoc]
    rfl
  · simp only [rtpmapLines, extmapLines, ssrcLines, hrtp, Bool.false_and, Bool.false_eq_true,
      if_false, append_nil, Bool.not_false, if_true]
    rfl

/-! ## Candidates -/

section Candidates

variable {inet : InetText} {c : IceCandidate} {ip : Bytes}

theorem oneLine_of_rtcAddrToString {addr : RtcAddr} {port : Nat}
    (h : rtcAddrToString inet addr = .ok (ip, port)) : OneLine ip := by
  obtain ⟨family, bytes, _, _⟩ := addr
  cases family with
  | inet =>
    cases h
    exact oneLine_of_plain (inet.ntop_plain _ _)
  | inet6 =>
    cases h
    exact oneLine_of_plain (inet.ntop_plain _ _)
  | other => cases h

theorem rtcIceCandidateToString_ok {len : Nat} {text : Bytes}
    (h : rtcIceCandidateToString inet c len = .ok text) :
    ∃ ip port, rtcAddrToString inet c.addr = .ok (ip, port)
      ∧ (text = candidateText c ip port
        ∨ ∃ addr relatedIp relatedPort, rtcAddrToString inet addr = .ok (relatedIp, relatedPort)
          ∧ text = candidateText c ip port ++ relatedText relatedIp relatedPort) := by
  unfold rtcIceCandidateToString at h
  cases haddr : rtcAddrToString inet c.addr with
  | error e =>
    rw [haddr] at h
    cases h
  | ok r =>
    rw [haddr] at h
    refine ⟨r.1, r.2, rfl, ?_⟩
    simp only [bind, Except.bind] at h
    split at h
    · cases h
    · split at h
      · cases h
        exact .inl rfl
      · next addr _ =>
        cases hrelated : rtcAddrToString inet addr with
        | error e =>
          rw [hrelated] at h
          cases h
        | ok r' => grind

theorem oneLine_candidateText (hc : Plain c.foundation) (hip : OneLine ip) (port : Nat) :
    OneLine ((candidateText c ip port).drop (ascii "candidate:").length) := by
  have hnat : ∀ n : Nat, OneLine (decimal n) := fun n => oneLine_of_plain (plain_decimal n)
  have hspace : OneLine (ascii " ") := by decide
  have hudp : OneLine (ascii " udp ") := by decide
  have htyp : OneLine (ascii " typ ") := by decide
  have htype : OneLine (ascii (candidateTypeText c.type)) := by
    cases c.type <;> decide
  rw [candidateText, drop_left]
  exact (((((((((((oneLine_of_plain hc).append hspace).append
    (oneLine_of_plain (plain_decimalInt _))).append hudp).append (hnat _)).append hspace).append
    hip).append hspace).append (hnat _)).append htyp).append htype)

theorem oneLine_relatedText (hip : OneLine ip) (port : Nat) : OneLine (relatedText ip port) := by
  have hraddr : OneLine (ascii " raddr ") := by decide
  have hrport : OneLine (ascii " rport ") := by decide
  exact ((hraddr.append hip).append hrport).append (oneLine_of_plain (plain_decimal port))

theorem candidateText_drop (c : IceCandidate) (ip : Bytes) (port : Nat) :
    candidateText c ip port
      = ascii "candidate:" ++ (candidateText c ip port).drop (ascii "candidate:").length := by
  rw [candidateText, drop_left]

theorem candidate_value {len : Nat} {text : Bytes} (hc : Plain c.foundation)
    (h : rtcIceCandidateToString inet c len = .ok text) :
    text = ascii "candidate:" ++ text.drop (ascii "candidate:").length
      ∧ OneLine (text.drop (ascii "candidate:").length) := by
  obtain ⟨ip, port, haddr, htext⟩ := rtcIceCandidateToString_ok h
  have hfirst := oneLine_candidateText hc (oneLine_of_rtcAddrToString haddr) port
  rcases htext with rfl | ⟨addr, relatedIp, relatedPort, hrelated, rfl⟩
  · exact ⟨candidateText_drop c ip port, hfirst⟩
  · have hlast := oneLine_relatedText (oneLine_of_rtcAddrToString hrelated) relatedPort
    have hdrop : (candidateText c ip port ++ relatedText relatedIp relatedPort).drop
          (ascii "candidate:").length
        = (candidateText c ip port).drop (ascii "candidate:").length
          ++ relatedText relatedIp relatedPort := by
      apply drop_append_of_le_length
      rw [candidateText, length_append]
      exact Nat.le_add_right _ _
    -- the related address comes after the first part, whose start is the one that is dropped
    rw [hdrop, ← append_assoc, ← candidateText_drop]
    exact ⟨rfl, hfirst.append hlast⟩

theorem candidateLines_eq {cs : List IceCandidate} (hcs : ∀ c ∈ cs, Plain c.foundation) :
    candidateLines inet cs
      = ((candidateValues inet cs).map SdpLine.candidate).map SdpLine.text := by
  rw [candidateLines, candidateValues, map_map, map_filterMap]
  apply filterMap_congr
  intro c hc
  cases htext : rtcIceCandidateToString inet c 256 with
  | error e => rfl
  | ok text =>
    have hvalue := (candidate_value (hcs c hc) htext).1
    have hstart : ascii "a=" ++ ascii "candidate:" = ascii "a=candidate:" := by decide
    have hline : ascii "a=" ++ text
        = ascii "a=candidate:" ++ text.drop (ascii "candidate:").length := by
      rw [← hstart, append_assoc, ← hvalue]
    exact congrArg some hline

theorem oneLine_of_mem_candidateValues {cs : List IceCandidate}
    (hcs : ∀ c ∈ cs, Plain c.foundation) : ∀ value ∈ candidateValues inet cs, OneLine value := by
  intro value hvalue
  obtain ⟨c, hc, hsome⟩ := mem_filterMap.mp hvalue
  cases htext : rtcIceCandidateToString inet c 256 with
  | error e =>
    rw [htext] at hsome
    cases hsome
  | ok text =>
    rw [htext] at hsome
    cases hsome
    exact (candidate_value (hcs c hc) htext).2

end Candidates

/-! ## The text of a description -/

theorem linesText_eq (ls : List SdpLine) : linesText ls = crlfLines (ls.map SdpLine.text) := by
  rw [linesText, crlfLines, flatMap_map]

theorem withEnds_text (ls : List SdpLine) :
    (withEnds (ls.map SdpLine.text)).flatten = linesText ls := by
  rw [withEnds_flatten, linesText_eq]

theorem linesText_append (ls ms : List SdpLine) :
    linesText (ls ++ ms) = linesText ls ++ linesText ms :=
  flatMap_append

theorem group_flatten (sdp : Sdp) :
    ([ascii "a=group:BUNDLE"] ++ sdp.media.map (fun m => ascii " " ++ decimalInt m.midIndex)
        ++ [crlf]).flatten
      = linesText [.inert (.group (sdp.media.map (·.midIndex)))] := by
  simp only [linesText, flatMap_cons, flatMap_nil, append_nil, flatten_append,
    flatten_singleton, SdpLine.text, SdpLine.tail, InertLine.tail, flatMap_map]
  rfl

theorem sections_flatten {ms : List SdpMedia} (hms : ∀ m ∈ ms, m.Ok) :
    (ms.flatMap fun m => withEnds (mediaSectionLines m sdp)).flatten
      = linesText (ms.flatMap (sectionLines sdp)) := by
  induction ms with
  | nil => rfl
  | cons m ms ih =>
    rw [flatMap_cons, flatten_append, ih fun n hn => hms n (mem_cons_of_mem m hn),
      mediaSectionLines_eq sdp (hms m mem_cons_self), withEnds_text, flatMap_cons,
      linesText_append]

theorem effectiveMedia_eq (h : sdp.Ok) : effectiveMedia sdp = sdp.media := by
  have hne : sdp.media ≠ [] := ne_nil_of_length_pos h.media_pos
  exact if_neg hne

theorem sdpPieces_flatten (inet : InetText) (h : sdp.Ok) :
    (sdpPieces inet sdp).flatten = linesText (sdpLines inet sdp) := by
  have horigin : ascii "o=mrtc " ++ sdp.sessionId ++ ascii " 1 IN IP4 0.0.0.0"
      = (SdpLine.inert (.origin sdp.sessionId)).text := append_assoc _ _ _
  have hhead : withEnds
        [ascii "v=0", ascii "o=mrtc " ++ sdp.sessionId ++ ascii " 1 IN IP4 0.0.0.0",
          ascii "s=mrtc", ascii "t=0 0"]
      = withEnds (([.inert .version, .inert (.origin sdp.sessionId), .inert .name, .inert .time]
          : List SdpLine).map SdpLine.text) := by
    rw [horigin]
    rfl
  have hoptions : withEnds [ascii "a=ice-options:trickle"]
      = withEnds (([.iceOptions] : List SdpLine).map SdpLine.text) := rfl
  rw [sdpPieces, effectiveMedia_eq h, hhead, hoptions, candidateLines_eq h.foundations,
    flatten_append, flatten_append, flatten_append, flatten_append,
    group_flatten, sections_flatten h.media, withEnds_text, withEnds_text, withEnds_text,
    ← linesText_append, ← linesText_append, ← linesText_append, ← linesText_append]
  rfl

theorem SdpMedia.RtpOk.lines_ok (h : m.RtpOk) : ∀ l ∈ rtpLines m, l.Ok := by
  intro l hl
  simp only [rtpLines, mem_append, mem_cons, not_mem_nil, or_false,
    mem_map] at hl
  rcases hl with ((rfl | rfl | rfl) | ⟨e, he, rfl⟩) | hl
  · trivial
  · trivial
  · refine ⟨h.payloadType, h.clockrate, ?_, h.codec, h.codec_slash⟩
    intro n hn
    split at hn
    · cases hn
      exact h.channels
    · cases hn
  · exact h.extmaps e he
  · split at hl
    · cases hl
    · rw [mem_singleton.mp hl]
      exact h.ssrc

theorem sectionLines_ok (h : sdp.Ok) (hm : m.Ok) : ∀ l ∈ sectionLines sdp m, l.Ok := by
  intro l hl
  simp only [sectionLines, mem_append, mem_cons, not_mem_nil, or_false] at hl
  rcases hl with (rfl | rfl | rfl | rfl | rfl | rfl | rfl) | hl
  · cases hmedia : m.mediaType with
    | audio => exact (hm.rtp (by rw [hmedia]; rfl)).payloadType
    | video => exact (hm.rtp (by rw [hmedia]; rfl)).payloadType
    | application => rfl
  · trivial
  · exact hm.mid
  · exact h.iceUfrag
  · exact h.icePwd
  · exact h.fingerprint
  · trivial
  · split at hl
    · next hrtp => exact (hm.rtp hrtp).lines_ok l hl
    · rw [mem_singleton.mp hl]
      trivial

theorem sdpLines_ok (inet : InetText) (h : sdp.Ok) : ∀ l ∈ sdpLines inet sdp, l.Ok := by
  intro l hl
  simp only [sdpLines, headerLines, mem_append, mem_cons, not_mem_nil, or_false,
    mem_flatMap, mem_map] at hl
  rcases hl with ((rfl | rfl | rfl | rfl | rfl | rfl) | ⟨m, hm, hl⟩) | ⟨value, hvalue, rfl⟩
  · trivial
  · exact h.sessionId
  · trivial
  · trivial
  · trivial
  · trivial
  · exact sectionLines_ok h (h.media m hm) l hl
  · exact oneLine_of_mem_candidateValues h.foundations value hvalue

/-! ## What is generated -/

theorem foldlM_sdpWritef {pieces : List Bytes} {out raw : Bytes} (hout : out.length < sdpMaxSize)
    (h : pieces.foldlM sdpWritef out = .ok raw) :
    raw = out ++ pieces.flatten ∧ raw.length < sdpMaxSize := by
  induction pieces generalizing out with
  | nil =>
    cases h
    exact ⟨(append_nil _).symm, hout⟩
  | cons piece pieces ih =>
    rw [foldlM_cons, sdpWritef] at h
    split at h
    · cases h
    · next hroom =>
      have hnext : (out ++ piece).length < sdpMaxSize := by
        rw [length_append]
        omega
      obtain ⟨hraw, hlength⟩ := ih hnext h
      rw [flatten_cons, ← append_assoc]
      exact ⟨hraw, hlength⟩

theorem Sdp.Ok.withSessionId (h : sdp.Ok) (nowMs : Nat) :
    Sdp.Ok { sdp with sessionId := sdpSessionId sdp nowMs } := by
  have hid : Plain (sdpSessionId sdp nowMs) := by
    unfold sdpSessionId
    split
    · exact plain_decimal nowMs
    · exact h.sessionId
  exact ⟨h.media_pos, h.media_count, h.media, h.iceUfrag, h.icePwd, h.fingerprint, hid,
    h.foundations⟩

theorem rtcSdpGenerate_flatten {inet : InetText} {sdp written : Sdp} {nowMs : Nat}
    (hgen : rtcSdpGenerate inet sdp nowMs = .ok written) :
    written.raw = (sdpPieces inet { sdp with sessionId := sdpSessionId sdp nowMs }).flatten
      ∧ written.raw.length < sdpMaxSize := by
  unfold rtcSdpGenerate at hgen
  cases hraw : (sdpPieces inet { sdp with sessionId := sdpSessionId sdp nowMs }).foldlM
      sdpWritef [] with
  | error e =>
    simp only [hraw] at hgen
    cases hgen
  | ok raw =>
    simp only [hraw] at hgen
    cases hgen
    have hwritten := foldlM_sdpWritef (by decide) hraw
    rw [nil_append] at hwritten
    exact hwritten

theorem rtcSdpGenerate_raw {inet : InetText} {sdp written : Sdp} {nowMs : Nat} (h : sdp.Ok)
    (hgen : rtcSdpGenerate inet sdp nowMs = .ok written) :
    written.raw = linesText (sdpLines inet { sdp with sessionId := sdpSessionId sdp nowMs })
      ∧ written.raw.length < sdpMaxSize := by
  obtain ⟨hraw, hlength⟩ := rtcSdpGenerate_flatten hgen
  exact ⟨hraw.trans (sdpPieces_flatten inet (h.withSessionId nowMs)), hlength⟩

end Mrtc
