import Mrtc.Sdp.ReadCandidate

/-! # The candidates of a description are read back

`rtcSdpParse_generate_candidates`: the parser finds the candidates of a generated description just
if none without a related address comes before one with such an address, and no string of the
description brings a line that is read as a candidate.
-/

namespace Mrtc

open Net CText List IceCandidate

/-! ## What the loop collects -/

section Frame

variable (st : SdpState) (line : Bytes) (n : Nat)

theorem ite_candidates {p : Prop} [Decidable p] {st st' : SdpState}
    (h : st'.sdp.candidates = st.sdp.candidates) :
    (if p then st' else st).sdp.candidates = st.sdp.candidates := by
  split
  · exact h
  · rfl

theorem update_candidates (f : SdpMedia → SdpMedia) :
    (st.update f).sdp.candidates = st.sdp.candidates := by
  unfold SdpState.update
  split <;> rfl

theorem openSection_candidates (mediaType : MediaType) (pt : Int) :
    (openSection st mediaType pt).sdp.candidates = st.sdp.candidates :=
  ite_candidates rfl

theorem openRtpSection_candidates (mediaType : MediaType) (format : List Directive) :
    (openRtpSection st mediaType format line).sdp.candidates = st.sdp.candidates := by
  rw [openRtpSection, openSection_candidates]
  split <;> rfl

theorem parseMedia_candidates : (parseMedia st line).sdp.candidates = st.sdp.candidates := by
  unfold parseMedia
  split
  · exact openRtpSection_candidates st line _ _
  · split
    · exact openRtpSection_candidates st line _ _
    · exact ite_candidates (openSection_candidates _ _ _)

theorem parseIceUfrag_candidates : (parseIceUfrag st line n).sdp.candidates = st.sdp.candidates :=
  ite_candidates rfl

theorem parseIcePwd_candidates : (parseIcePwd st line n).sdp.candidates = st.sdp.candidates :=
  ite_candidates rfl

theorem parseFingerprint_candidates :
    (parseFingerprint st line n).sdp.candidates = st.sdp.candidates :=
  ite_candidates rfl

theorem parseSetup_candidates : (parseSetup st line).sdp.candidates = st.sdp.candidates :=
  ite_candidates rfl

theorem parseIceOptions_candidates :
    (parseIceOptions st line n).sdp.candidates = st.sdp.candidates :=
  ite_candidates (ite_candidates rfl)

theorem parseMid_candidates : (parseMid st line).sdp.candidates = st.sdp.candidates :=
  ite_candidates (ite_candidates (update_candidates _ _))

theorem parseRtpmap_candidates : (parseRtpmap st line).sdp.candidates = st.sdp.candidates :=
  ite_candidates (ite_candidates (update_candidates _ _))

theorem parseSsrc_candidates : (parseSsrc st line).sdp.candidates = st.sdp.candidates :=
  ite_candidates (ite_candidates (update_candidates _ _))

theorem parseExtmap_candidates : (parseExtmap st line).sdp.candidates = st.sdp.candidates :=
  ite_candidates (ite_candidates (update_candidates _ _))

def candidatesOf (inet : InetText) (line : Bytes) : List IceCandidate :=
  if sdpLineStarts line "a=candidate:" then
    match rtcSdpParseCandidateLine inet (cstr line) with
    | .ok c => [c]
    | .error _ => []
  else []

theorem parseCandidate_candidates (inet : InetText) :
    (parseCandidate inet true st line).sdp.candidates
      = st.sdp.candidates ++ candidatesOf inet line := by
  unfold parseCandidate candidatesOf
  split
  · grind
  · exact (append_nil _).symm

theorem sdpParseLine_candidates (inet : InetText) :
    (sdpParseLine inet true st line n).sdp.candidates
      = st.sdp.candidates ++ candidatesOf inet line := by
  rw [sdpParseLine, parseCandidate_candidates, parseExtmap_candidates, parseSsrc_candidates,
    parseRtpmap_candidates, parseMid_candidates, parseIceOptions_candidates,
    parseSetup_candidates, parseFingerprint_candidates, parseIcePwd_candidates,
    parseIceUfrag_candidates, parseMedia_candidates]

end Frame

theorem foldl_line_candidates (inet : InetText) (lines : List (Bytes × Nat)) (st : SdpState) :
    (lines.foldl (fun st l => sdpParseLine inet true st l.1 l.2) st).sdp.candidates
      = st.sdp.candidates ++ lines.flatMap fun l => candidatesOf inet l.1 := by
  induction lines generalizing st with
  | nil => exact (append_nil _).symm
  | cons l lines ih =>
    rw [foldl_cons, ih, sdpParseLine_candidates, append_assoc, flatMap_cons]

def candidatesIn (inet : InetText) (rest : Bytes) : List Bytes → List IceCandidate
  | [] => []
  | l :: ls =>
    candidatesOf inet (l ++ (crlf ++ (crlfLines ls ++ rest))) ++ candidatesIn inet rest ls

theorem candidatesIn_parsedLines (inet : InetText) (rest : Bytes) {ls : List Bytes}
    (hls : ∀ l ∈ ls, OneLine l) :
    (parsedLines (crlfLines ls).length (crlfLines ls ++ rest) (crlfLines ls).length).flatMap
        (fun l => candidatesOf inet l.1) = candidatesIn inet rest ls := by
  have hlf : ∀ l ∈ ls.map (· ++ [0x0D]), (0x0A : UInt8) ∉ l := by
    intro l hl
    obtain ⟨m, hm, rfl⟩ := mem_map.mp hl
    simp only [mem_append, mem_singleton, not_or]
    exact ⟨fun hmem => (hls m hm _ hmem).2.1 rfl, by decide⟩
  have hlines := parsedLines_lfLines hlf [] rest (Nat.le_refl _)
  rw [append_nil, ← crlfLines_eq_lfLines] at hlines
  rw [hlines, nil_append, length_nil, parsedLines, append_nil]
  clear hlines hlf hls
  induction ls with
  | nil => rfl
  | cons l ls ih =>
    rw [map_cons, linesBefore, flatMap_cons, ih, candidatesIn, crlfLines_eq_lfLines ls]
    simp [crlf]

/-! ## Lines of other attributes -/

def OtherLine (l : Bytes) : Prop :=
  ∃ (a : LineStart) (x : Bytes), l = ascii a.text ++ x ∧ LineStart.candidate ≠ a

theorem candidatesOf_other (inet : InetText) {l : Bytes} (hl : OtherLine l) (t : Bytes) :
    candidatesOf inet (l ++ t) = [] := by
  obtain ⟨a, x, rfl, ha⟩ := hl
  have hstart : sdpLineStarts (ascii a.text ++ (x ++ t)) "a=candidate:" = false :=
    sdpLineStarts_skip (x ++ t) ha
  rw [candidatesOf, append_assoc, hstart, if_neg Bool.false_ne_true]

theorem candidatesIn_others (inet : InetText) (rest : Bytes) {ls : List Bytes}
    (hls : ∀ l ∈ ls, OtherLine l) (ms : List Bytes) :
    candidatesIn inet rest (ls ++ ms) = candidatesIn inet rest ms := by
  induction ls with
  | nil => rfl
  | cons l ls ih =>
    rw [cons_append, candidatesIn, candidatesOf_other inet (hls l mem_cons_self),
      nil_append, ih fun m hm => hls m (mem_cons_of_mem l hm)]

/-! ## Lines of candidates -/

/-- No candidate with a related address comes after one without. -/
def RelatedFirst (cs : List IceCandidate) : Prop :=
  cs.Pairwise fun c d => c.relatedAddr = none → d.relatedAddr = none

instance : DecidablePred RelatedFirst := fun cs =>
  inferInstanceAs (Decidable (cs.Pairwise fun c d => c.relatedAddr = none → d.relatedAddr = none))

def candidateLine (inet : InetText) (c : IceCandidate) : Bytes :=
  ascii "a=" ++ wholeCandidate inet c

section CandidateLines

variable {inet : InetText} {c : IceCandidate} {cs : List IceCandidate}

theorem oneLine_candidateLine (h : c.WellFormed inet) : OneLine (candidateLine inet c) := by
  obtain ⟨htext, hvalue⟩ :=
    candidate_value h.foundation.plain (rtcIceCandidateToString_wellFormed h)
  have hstart : OneLine (ascii "a=") := by decide
  have hname : OneLine (ascii "candidate:") := by decide
  rw [candidateLine, htext]
  exact hstart.append (hname.append hvalue)

/-- Behind a line the scanner finds the next related address there is. -/
theorem parseRelated_candidateLines (hcs : ∀ c ∈ cs, c.WellFormed inet) :
    parseRelated inet (crlf ++ crlfLines (cs.map (candidateLine inet)))
      = .ok (cs.findSome? relatedAddr) := by
  have hcrlf : (0x20 : UInt8) ∉ crlf := by decide
  have hstart : (0x20 : UInt8) ∉ ascii "a=" ++ ascii "candidate:" := by decide
  induction cs with
  | nil =>
    show parseRelated inet (crlf ++ []) = .ok none
    rfl
  | cons c cs ih =>
    have hnext := ih fun d hd => hcs d (mem_cons_of_mem c hd)
    have hread := parseRelated_part (hcs c mem_cons_self)
      (stops_crlf (crlfLines (cs.map (candidateLine inet))) (by decide)) hnext
    have hcons : (c :: cs).findSome? relatedAddr
        = c.relatedAddr.or (cs.findSome? relatedAddr) := by
      rw [findSome?_cons]
      cases c.relatedAddr <;> rfl
    rw [hcons, ← hread]
    unfold parseRelated
    rw [map_cons, crlfLines_cons, candidateLine, wholeCandidate, append_assoc, append_assoc,
      candidateText_append, ← append_assoc (ascii "a="), raddr_eq, strstr_word hcrlf,
      strstr_word hstart]

theorem cstr_crlfLines {ls : List Bytes} (hls : ∀ l ∈ ls, OneLine l) (rest : Bytes) :
    cstr (crlfLines ls ++ 0 :: rest) = crlfLines ls := by
  have hzero : ∀ b ∈ crlfLines ls, b ≠ 0 := by
    intro b hb
    obtain ⟨l, hl, hb⟩ := mem_flatMap.mp hb
    rcases mem_append.mp hb with hb | hb
    · exact (hls l hl b hb).1
    · rintro rfl
      exact absurd hb (by decide)
  calc cstr (crlfLines ls ++ 0 :: rest) = crlfLines ls ++ cstr (0 :: rest) := cstr_append hzero
    _ = crlfLines ls := append_nil _

theorem candidatesOf_candidateLine (h : c.WellFormed inet) (hcs : ∀ d ∈ cs, d.WellFormed inet)
    (rest : Bytes) :
    candidatesOf inet (candidateLine inet c
        ++ (crlf ++ (crlfLines (cs.map (candidateLine inet)) ++ 0 :: rest)))
      = [{ c with relatedAddr := c.relatedAddr.or (cs.findSome? relatedAddr) }] := by
  have hone := oneLine_candidateLine h
  have hones : ∀ l ∈ cs.map (candidateLine inet), OneLine l := by
    grind [oneLine_candidateLine]
  have hcrlf : ∀ b ∈ crlf, b ≠ 0 := by simp [crlf]
  have hcstr : cstr (candidateLine inet c
        ++ (crlf ++ (crlfLines (cs.map (candidateLine inet)) ++ 0 :: rest)))
      = ascii "a=" ++ (wholeCandidate inet c
          ++ (crlf ++ crlfLines (cs.map (candidateLine inet)))) := by
    rw [cstr_append fun b hb => (hone b hb).1, cstr_append hcrlf, cstr_crlfLines hones,
      candidateLine, append_assoc]
  have hread := rtcSdpParseCandidateLine_own h
    (stops_crlf (crlfLines (cs.map (candidateLine inet))) (by decide))
    (stops_crlf _ (by decide)) (parseRelated_candidateLines hcs)
  have hname : ascii "a=" ++ ascii "candidate:" = ascii "a=candidate:" := by decide
  have hstart : sdpLineStarts (candidateLine inet c
      ++ (crlf ++ (crlfLines (cs.map (candidateLine inet)) ++ 0 :: rest))) "a=candidate:"
      = true := by
    rw [sdpLineStarts, hcstr, wholeCandidate, append_assoc, candidateText_append,
      ← append_assoc, hname]
    exact isPrefixOf_append_self _ _
  rw [candidatesOf, if_pos hstart, hcstr, hread]

/-- A candidate without a related address is read with the next one in the text. -/
def lendRelated : List IceCandidate → List IceCandidate
  | [] => []
  | c :: cs =>
    { c with relatedAddr := c.relatedAddr.or (cs.findSome? relatedAddr) }
      :: lendRelated cs

theorem candidatesIn_candidateLines (hcs : ∀ c ∈ cs, c.WellFormed inet) (rest : Bytes) :
    candidatesIn inet (0 :: rest) (cs.map (candidateLine inet)) = lendRelated cs := by
  induction cs with
  | nil => rfl
  | cons c cs ih =>
    have htail : ∀ d ∈ cs, d.WellFormed inet := fun d hd => hcs d (mem_cons_of_mem c hd)
    rw [map_cons, candidatesIn, candidatesOf_candidateLine (hcs c mem_cons_self) htail, ih htail]
    rfl

theorem length_lendRelated (cs : List IceCandidate) : (lendRelated cs).length = cs.length := by
  induction cs with
  | nil => rfl
  | cons c cs ih => rw [lendRelated, length_cons, length_cons, ih]

theorem lendRelated_eq_iff (cs : List IceCandidate) : lendRelated cs = cs ↔ RelatedFirst cs := by
  induction cs with
  | nil => exact iff_of_true rfl .nil
  | cons c cs ih =>
    have hfirst :
        { c with relatedAddr := c.relatedAddr.or (cs.findSome? relatedAddr) } = c
        ↔ ∀ d ∈ cs, c.relatedAddr = none → d.relatedAddr = none := by
      obtain ⟨type, addr, related, priority, component, foundation⟩ := c
      cases related <;> simp
    rw [lendRelated, cons_eq_cons, hfirst, ih, RelatedFirst, RelatedFirst, pairwise_cons]

end CandidateLines

/-! ## The lines in front of the candidates -/

structure SdpMedia.OneLines (m : SdpMedia) : Prop where
  codecName : OneLine m.codecName
  uris : ∀ e ∈ m.extmaps, OneLine e.uri

/-- No string of the description has a line end in it. -/
structure Sdp.OneLines (sdp : Sdp) : Prop where
  sessionId : OneLine sdp.sessionId
  iceUfrag : OneLine sdp.iceUfrag
  icePwd : OneLine sdp.icePwd
  fingerprint : OneLine sdp.fingerprint
  codecName : OneLine sdp.codecName
  media : ∀ m ∈ sdp.media, m.OneLines

def groupLine (sdp : Sdp) : Bytes :=
  ascii "a=group:BUNDLE"
    ++ (effectiveMedia sdp).flatMap fun m => ascii " " ++ decimalInt m.midIndex

def otherLines (sdp : Sdp) : List Bytes :=
  [ascii "v=0", ascii "o=mrtc " ++ sdp.sessionId ++ ascii " 1 IN IP4 0.0.0.0", ascii "s=mrtc",
    ascii "t=0 0", groupLine sdp, ascii "a=ice-options:trickle"]
  ++ (effectiveMedia sdp).flatMap fun m => mediaSectionLines m sdp

theorem sdpPieces_flatten_lines (inet : InetText) (sdp : Sdp) :
    (sdpPieces inet sdp).flatten
      = crlfLines (otherLines sdp ++ candidateLines inet sdp.candidates) := by
  have hsections : ∀ ms : List SdpMedia,
      (ms.flatMap fun m => withEnds (mediaSectionLines m sdp)).flatten
        = crlfLines (ms.flatMap fun m => mediaSectionLines m sdp) := by
    intro ms
    induction ms with
    | nil => rfl
    | cons m ms ih =>
      rw [flatMap_cons, flatten_append, ih, withEnds_flatten, flatMap_cons,
        crlfLines_append]
  have hgroup : ([ascii "a=group:BUNDLE"]
        ++ (effectiveMedia sdp).map (fun m => ascii " " ++ decimalInt m.midIndex)
        ++ [crlf]).flatten
      = crlfLines [groupLine sdp] := by
    rw [crlfLines_cons, groupLine, flatten_append, flatten_append, crlfLines_nil,
      append_nil]
    rfl
  rw [sdpPieces, flatten_append, flatten_append, flatten_append,
    flatten_append, hgroup, hsections, withEnds_flatten, withEnds_flatten, withEnds_flatten,
    ← crlfLines_append, ← crlfLines_append, ← crlfLines_append, ← crlfLines_append]
  rfl

theorem otherLine_start {a : LineStart} {x : Bytes} (ha : LineStart.candidate ≠ a)
    (hx : OneLine x) : OtherLine (ascii a.text ++ x) ∧ OneLine (ascii a.text ++ x) :=
  ⟨⟨a, x, rfl, ha⟩, a.oneLine_text.append hx⟩

theorem oneLine_nil : OneLine [] := fun _ hb => absurd hb not_mem_nil

theorem otherLine_fixed {a : LineStart} (ha : LineStart.candidate ≠ a) :
    OtherLine (ascii a.text) ∧ OneLine (ascii a.text) := by
  have hline := otherLine_start ha oneLine_nil
  rwa [append_nil] at hline

section Section

variable {sdp : Sdp} {m : SdpMedia}

theorem otherLine_mediaLine (m : SdpMedia) : OtherLine (mediaLine m) ∧ OneLine (mediaLine m) := by
  have hint := oneLine_of_plain (plain_decimalInt m.payloadType)
  have hrtp : OneLine (ascii " 9 UDP/TLS/RTP/SAVPF ") := by decide
  have happ : OneLine (ascii " 9 UDP/DTLS/SCTP webrtc-datachannel") := by decide
  rw [mediaLine_eq]
  cases m.mediaType with
  | audio => exact otherLine_start (a := .audio) (by decide) (hrtp.append hint)
  | video => exact otherLine_start (a := .video) (by decide) (hrtp.append hint)
  | application => exact otherLine_start (a := .application) (by decide) happ

theorem otherLine_rtpmapLines (hm : m.OneLines) : ∀ l ∈ rtpmapLines m, OtherLine l ∧ OneLine l := by
  have hint : ∀ v : Int, OneLine (decimalInt v) := fun v => oneLine_of_plain (plain_decimalInt v)
  have hspace : OneLine (ascii " ") := by decide
  have hslash : OneLine (ascii "/") := by decide
  have hcodec : ∀ x, OneLine x → OneLine (decimalInt m.payloadType ++ (ascii " "
      ++ (m.codecName ++ (ascii "/" ++ (decimalInt m.clockrate ++ x))))) := fun x hx =>
    (hint _).append (hspace.append (hm.codecName.append (hslash.append ((hint _).append hx))))
  have hline : ∀ x, OneLine x → _ := fun x hx =>
    otherLine_start (a := .rtpmap) (by decide) (hcodec x hx)
  intro l hl
  unfold rtpmapLines at hl
  split at hl
  · dsimp only at hl
    split at hl
    · rw [mem_singleton.mp hl]
      simp only [append_assoc]
      exact hline _ (hslash.append (hint m.channels))
    · rw [mem_singleton.mp hl, ← append_nil (decimalInt m.clockrate)]
      simp only [append_assoc]
      exact hline [] oneLine_nil
  · cases hl

theorem otherLine_extmapLines (hm : m.OneLines) : ∀ l ∈ extmapLines m, OtherLine l ∧ OneLine l := by
  have hspace : OneLine (ascii " ") := by decide
  intro l hl
  unfold extmapLines at hl
  split at hl
  · obtain ⟨e, he, rfl⟩ := mem_map.mp hl
    rw [extmapLine, append_assoc, append_assoc]
    exact otherLine_start (a := .extmap) (by decide)
      ((oneLine_of_plain (plain_decimal e.id)).append
        (hspace.append (hm.uris e (mem_filter.mp he).1)))
  · cases hl

theorem otherLine_ssrcLines (m : SdpMedia) : ∀ l ∈ ssrcLines m, OtherLine l ∧ OneLine l := by
  have hcname : OneLine (ascii " cname:mrtc") := by decide
  intro l hl
  unfold ssrcLines at hl
  split at hl
  · rw [mem_singleton.mp hl, append_assoc]
    exact otherLine_start (a := .ssrc) (by decide)
      ((oneLine_of_plain (plain_decimal m.ssrc)).append hcname)
  · cases hl

theorem otherLine_mediaSectionLines (h : sdp.OneLines) (hm : m.OneLines) :
    ∀ l ∈ mediaSectionLines m sdp, OtherLine l ∧ OneLine l := by
  have hsetup : OneLine (ascii (setupText sdp.setup)) := by
    cases sdp.setup <;> decide
  intro l hl
  simp only [mediaSectionLines, mem_append, mem_cons, not_mem_nil, or_false] at hl
  rcases hl with (((((rfl | rfl | rfl | rfl | rfl | rfl | rfl) | hl) | hl) | hl) | hl) | hl
  · exact otherLine_mediaLine m
  · exact otherLine_fixed (a := .connection) (by decide)
  · exact otherLine_start (a := .mid) (by decide) (oneLine_of_plain (plain_decimalInt m.midIndex))
  · exact otherLine_start (a := .iceUfrag) (by decide) h.iceUfrag
  · exact otherLine_start (a := .icePwd) (by decide) h.icePwd
  · exact otherLine_start (a := .fingerprint) (by decide) h.fingerprint
  · exact otherLine_start (a := .setup) (by decide) hsetup
  · split at hl
    · simp only [mem_cons, not_mem_nil, or_false] at hl
      rcases hl with rfl | rfl
      · exact otherLine_fixed (a := .direction) (by decide)
      · exact otherLine_fixed (a := .rtcpMux) (by decide)
    · cases hl
  · exact otherLine_rtpmapLines hm l hl
  · exact otherLine_extmapLines hm l hl
  · split at hl
    · rw [mem_singleton.mp hl]
      exact otherLine_fixed (a := .sctpPort) (by decide)
    · cases hl
  · exact otherLine_ssrcLines m l hl

theorem oneLines_effectiveMedia (h : sdp.OneLines) : ∀ m ∈ effectiveMedia sdp, m.OneLines := by
  intro m hm
  unfold effectiveMedia at hm
  split at hm
  · rw [mem_singleton.mp hm]
    exact ⟨h.codecName, fun e he => absurd he not_mem_nil⟩
  · exact h.media m hm

theorem otherLine_otherLines (h : sdp.OneLines) : ∀ l ∈ otherLines sdp, OtherLine l ∧ OneLine l := by
  have hgroup : OneLine ((effectiveMedia sdp).flatMap fun m => ascii " " ++ decimalInt m.midIndex) := by
    apply OneLine.flatMap
    intro m
    exact OneLine.append (by decide) (oneLine_of_plain (plain_decimalInt m.midIndex))
  have horigin : OneLine (ascii " 1 IN IP4 0.0.0.0") := by decide
  have htrickle : OneLine (ascii "trickle") := by decide
  intro l hl
  simp only [otherLines, mem_append, mem_cons, not_mem_nil, or_false,
    mem_flatMap] at hl
  rcases hl with (rfl | rfl | rfl | rfl | rfl | rfl) | ⟨m, hm, hl⟩
  · exact otherLine_fixed (a := .version) (by decide)
  · rw [append_assoc]
    exact otherLine_start (a := .origin) (by decide) (h.sessionId.append horigin)
  · exact otherLine_fixed (a := .name) (by decide)
  · exact otherLine_fixed (a := .time) (by decide)
  · exact otherLine_start (a := .group) (by decide) hgroup
  · exact otherLine_start (a := .iceOptions) (by decide) htrickle
  · exact otherLine_mediaSectionLines h (oneLines_effectiveMedia h m hm) l hl

end Section

/-! ## Round trip -/

theorem Sdp.OneLines.withSessionId {sdp : Sdp} (h : sdp.OneLines) (nowMs : Nat) :
    Sdp.OneLines { sdp with sessionId := sdpSessionId sdp nowMs } := by
  have hid : OneLine (sdpSessionId sdp nowMs) := by
    unfold sdpSessionId
    split
    · exact oneLine_of_plain (plain_decimal nowMs)
    · exact h.sessionId
  exact ⟨hid, h.iceUfrag, h.icePwd, h.fingerprint, h.codecName, h.media⟩

/-- The candidates that are read from the lines in front of the first candidate, which may be more
lines than were written if a string has a line end in it. -/
def strayCandidates (inet : InetText) (sdp : Sdp) (nowMs : Nat) (rest : Bytes) :
    List IceCandidate :=
  let front := crlfLines (otherLines { sdp with sessionId := sdpSessionId sdp nowMs })
  let after := crlfLines (candidateLines inet sdp.candidates) ++ rest
  (parsedLines front.length (front ++ after) front.length).flatMap fun l => candidatesOf inet l.1

theorem strayCandidates_oneLines {sdp : Sdp} (h : sdp.OneLines) (inet : InetText) (nowMs : Nat)
    (rest : Bytes) : strayCandidates inet sdp nowMs rest = [] := by
  have hlines := otherLine_otherLines (h.withSessionId nowMs)
  rw [strayCandidates, candidatesIn_parsedLines inet _ fun l hl => (hlines l hl).2,
    ← append_nil (otherLines _), candidatesIn_others inet _ fun l hl => (hlines l hl).1]
  rfl

theorem rtcSdpParse_generate_stray {inet : InetText} {sdp written : Sdp} {nowMs : Nat}
    (hcs : ∀ c ∈ sdp.candidates, c.WellFormed inet)
    (hgen : rtcSdpGenerate inet sdp nowMs = .ok written) (old : Sdp) (rest : Bytes) :
    (rtcSdpParse inet true old (written.raw ++ 0 :: rest) written.raw.length).candidates
      = strayCandidates inet sdp nowMs (0 :: rest) ++ lendRelated sdp.candidates := by
  obtain ⟨hraw, hlength⟩ := rtcSdpGenerate_flatten hgen
  have hpieces := sdpPieces_flatten_lines inet { sdp with sessionId := sdpSessionId sdp nowMs }
  rw [hpieces, crlfLines_append] at hraw
  have hcandidates : candidateLines inet sdp.candidates
      = sdp.candidates.map (candidateLine inet) := candidateLines_wellFormed hcs
  have hones : ∀ l ∈ candidateLines inet sdp.candidates, OneLine l := by
    intro l hl
    rw [hcandidates] at hl
    obtain ⟨c, hc, rfl⟩ := mem_map.mp hl
    exact oneLine_candidateLine (hcs c hc)
  have hlast := candidatesIn_parsedLines inet (0 :: rest) hones
  have hread : candidatesIn inet (0 :: rest) (candidateLines inet sdp.candidates)
      = lendRelated sdp.candidates := hcandidates ▸ candidatesIn_candidateLines hcs rest
  rw [rtcSdpParse_eq inet true old hlength, hraw, sdpParseLines_eq_foldl, foldl_line_candidates,
    strayCandidates, ← hread, ← hlast]
  -- the lines in front of the candidates end where these begin
  obtain ⟨ms, hms, hfront⟩ := exists_lfLines_crlfLines
    (otherLines { sdp with sessionId := sdpSessionId sdp nowMs })
  have hstray := parsedLines_lfLines hms []
    (crlfLines (candidateLines inet sdp.candidates) ++ 0 :: rest) (Nat.le_refl _)
  rw [append_nil, length_nil, parsedLines, append_nil, nil_append] at hstray
  dsimp only
  rw [hfront, hstray, parsedLines_lfLines hms _ _ (Nat.le_refl _), flatMap_append]
  rfl

/-- **When the candidates are read back**: if and only if no line of a string of the description is
read as a candidate and none with a related address comes after one without; for strings of one line
the latter alone decides. -/
theorem rtcSdpParse_generate_candidates {inet : InetText} {sdp written : Sdp} {nowMs : Nat}
    (hcs : ∀ c ∈ sdp.candidates, c.WellFormed inet)
    (hgen : rtcSdpGenerate inet sdp nowMs = .ok written) (old : Sdp) (rest : Bytes) :
    ((rtcSdpParse inet true old (written.raw ++ 0 :: rest) written.raw.length).candidates
        = sdp.candidates
      ↔ strayCandidates inet sdp nowMs (0 :: rest) = [] ∧ RelatedFirst sdp.candidates)
    ∧ (sdp.OneLines →
      ((rtcSdpParse inet true old (written.raw ++ 0 :: rest) written.raw.length).candidates
        = sdp.candidates ↔ RelatedFirst sdp.candidates)) := by
  have hiff : strayCandidates inet sdp nowMs (0 :: rest) ++ lendRelated sdp.candidates
        = sdp.candidates
      ↔ strayCandidates inet sdp nowMs (0 :: rest) = [] ∧ RelatedFirst sdp.candidates := by
    rw [← lendRelated_eq_iff]
    constructor
    · intro hsame
      have hlength := congrArg List.length hsame
      rw [length_append, length_lendRelated] at hlength
      have hnil : strayCandidates inet sdp nowMs (0 :: rest) = [] :=
        length_eq_zero_iff.mp (by omega)
      rw [hnil] at hsame
      exact ⟨hnil, hsame⟩
    · rintro ⟨hnil, hsame⟩
      rw [hnil]
      exact hsame
  rw [rtcSdpParse_generate_stray hcs hgen]
  refine ⟨hiff, fun hlines => hiff.trans ?_⟩
  rw [strayCandidates_oneLines hlines]
  exact and_iff_right rfl

/-! ## A candidate takes over the next one's address -/

def dottedText : Bytes → Bytes
  | [a, b, c, d] =>
    decimal a.toNat ++ 0x2E :: (decimal b.toNat ++ 0x2E :: (decimal c.toNat
      ++ 0x2E :: decimal d.toNat))
  | _ => []

theorem plain_dottedText (ip : Bytes) : Plain (dottedText ip) := by
  have happend : ∀ n s, Plain s → Plain (decimal n ++ 0x2E :: s) := by
    intro n s hs b hb
    rcases mem_append.mp hb with hb | hb
    · exact plain_decimal n b hb
    · rcases mem_cons.mp hb with rfl | hb
      · decide
      · exact hs b hb
  unfold dottedText
  split
  · exact happend _ _ (happend _ _ (happend _ _ (plain_decimal _)))
  · exact fun b hb => absurd hb not_mem_nil

def dottedQuad : InetText where
  ntop _ ip := dottedText ip
  pton family text :=
    let values := scan [.uint, .lit 0x2E, .uint, .lit 0x2E, .uint, .lit 0x2E, .uint] text
    if family = .inet ∧ values.length = 4 then
      some ([0, 1, 2, 3].map fun i => UInt8.ofNat (natAt values i))
    else none
  ntop_plain _ ip := plain_dottedText ip

def hostCandidate : IceCandidate where
  type := .host
  addr := { family := .inet, ip := [192, 168, 0, 7], port := 50000 }
  priority := 2130706431
  component := 1
  foundation := ascii "1"

def reflexiveCandidate : IceCandidate where
  type := .srflx
  addr := { family := .inet, ip := [203, 0, 113, 9], port := 61000 }
  relatedAddr := some { family := .inet, ip := [192, 168, 0, 7], port := 50000 }
  priority := 1694498815
  component := 1
  foundation := ascii "2"

theorem hostCandidate_wellFormed : hostCandidate.WellFormed dottedQuad where
  foundation := by decide
  component_pos := by decide
  component_int := by decide
  priority := by decide
  addr := by decide +kernel
  related _ hrelated := by cases hrelated

theorem reflexiveCandidate_wellFormed : reflexiveCandidate.WellFormed dottedQuad where
  foundation := by decide
  component_pos := by decide
  component_int := by decide
  priority := by decide
  addr := by decide +kernel
  related _ hrelated := by
    cases hrelated
    decide +kernel

def withCandidates (cs : List IceCandidate) : Sdp where
  mediaType := .application
  iceUfrag := ascii "u7Kq"
  icePwd := ascii "p0123456789abcdefghijk"
  fingerprint := ascii "AB:CD"
  candidates := cs

theorem withCandidates_oneLines (cs : List IceCandidate) : (withCandidates cs).OneLines where
  sessionId := oneLine_nil
  iceUfrag := show OneLine (ascii "u7Kq") by decide
  icePwd := show OneLine (ascii "p0123456789abcdefghijk") by decide
  fingerprint := show OneLine (ascii "AB:CD") by decide
  codecName := oneLine_nil
  media _ hm := absurd hm not_mem_nil

theorem reflexiveThenHost_readBack :
    ∃ written,
      rtcSdpGenerate dottedQuad (withCandidates [reflexiveCandidate, hostCandidate]) 7 = .ok written
      ∧ (rtcSdpParse dottedQuad true {} (written.raw ++ [0]) written.raw.length).candidates
        = [reflexiveCandidate, hostCandidate] := by
  have hcs : ∀ c ∈ [reflexiveCandidate, hostCandidate], c.WellFormed dottedQuad := by
    intro c hc
    simp only [mem_cons, not_mem_nil, or_false] at hc
    rcases hc with rfl | rfl
    · exact reflexiveCandidate_wellFormed
    · exact hostCandidate_wellFormed
  have hwritten : (rtcSdpGenerate dottedQuad
      (withCandidates [reflexiveCandidate, hostCandidate]) 7).isOk = true := by decide +kernel
  cases hgen : rtcSdpGenerate dottedQuad
      (withCandidates [reflexiveCandidate, hostCandidate]) 7 with
  | error e =>
    rw [hgen] at hwritten
    cases hwritten
  | ok written =>
    have hiff := (rtcSdpParse_generate_candidates hcs hgen {} []).2 (withCandidates_oneLines _)
    exact ⟨written, rfl, hiff.mpr (by decide)⟩

/-- The host's candidate, which has no related address, is written first and is read with the
address that is related to the second one. -/
theorem hostThenReflexive_misread :
    hostCandidate.WellFormed dottedQuad ∧ reflexiveCandidate.WellFormed dottedQuad
      ∧ (withCandidates [hostCandidate, reflexiveCandidate]).OneLines
      ∧ ∃ written,
        rtcSdpGenerate dottedQuad (withCandidates [hostCandidate, reflexiveCandidate]) 7
          = .ok written
        ∧ (rtcSdpParse dottedQuad true {} (written.raw ++ [0]) written.raw.length).candidates
          = [{ hostCandidate with relatedAddr := reflexiveCandidate.relatedAddr },
              reflexiveCandidate] := by
  refine ⟨hostCandidate_wellFormed, reflexiveCandidate_wellFormed, withCandidates_oneLines _, ?_⟩
  have hread : (rtcSdpGenerate dottedQuad
        (withCandidates [hostCandidate, reflexiveCandidate]) 7).toOption.map (fun written =>
          (rtcSdpParse dottedQuad true {} (written.raw ++ [0]) written.raw.length).candidates)
      = some [{ hostCandidate with relatedAddr := reflexiveCandidate.relatedAddr },
          reflexiveCandidate] := by decide +kernel
  cases hgen : rtcSdpGenerate dottedQuad
      (withCandidates [hostCandidate, reflexiveCandidate]) 7 with
  | error e =>
    rw [hgen] at hread
    cases hread
  | ok written =>
    rw [hgen] at hread
    exact ⟨written, rfl, Option.some.inj hread⟩

end Mrtc
