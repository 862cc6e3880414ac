import Mrtc.Sdp.Lines

/-! # Reading one line back

`sdpParseLine_view`: on the text of a line and whatever comes after the line's end, the parser does
what the line means.
-/

namespace Mrtc

open Net CText List

/-! ## One line -/

theorem OneLine.append {s t : Bytes} (hs : OneLine s) (ht : OneLine t) : OneLine (s ++ t) := by
  intro b hb
  rcases mem_append.mp hb with hb | hb
  · exact hs b hb
  · exact ht b hb

theorem OneLine.flatMap {α : Type} {xs : List α} {f : α → Bytes} (h : ∀ x, OneLine (f x)) :
    OneLine (xs.flatMap f) := by
  intro b hb
  obtain ⟨x, _, hx⟩ := mem_flatMap.mp hb
  exact h x b hx

theorem oneLine_of_plain {s : Bytes} (hs : Plain s) : OneLine s := by
  intro b hb
  have hspace := hs.not_space b hb
  refine ⟨hs.ne_zero b hb, ?_, ?_⟩
  · rintro rfl
    exact absurd hspace (by decide)
  · rintro rfl
    exact absurd hspace (by decide)

theorem LineStart.oneLine_text (a : LineStart) : OneLine (ascii a.text) := by
  have hall : ∀ a ∈ all, OneLine (ascii a.text) := by decide +kernel
  exact hall a (mem_all a)

theorem InertLine.oneLine_tail {l : InertLine} (h : (SdpLine.inert l).Ok) : OneLine l.tail := by
  cases l with
  | origin sessionId =>
    apply OneLine.append (oneLine_of_plain h)
    decide
  | group mids =>
    apply OneLine.flatMap
    intro mid
    exact OneLine.append (by decide) (oneLine_of_plain (plain_decimalInt mid))
  | _ => exact fun b hb => absurd hb not_mem_nil

theorem oneLine_channelsText (channels : Option Int) : OneLine (channelsText channels) := by
  cases channels with
  | none => exact fun b hb => absurd hb not_mem_nil
  | some n => exact OneLine.append (by decide) (oneLine_of_plain (plain_decimalInt n))

variable {l : SdpLine}

theorem SdpLine.oneLine_tail (h : l.Ok) : OneLine l.tail := by
  have hint : ∀ v : Int, OneLine (decimalInt v) := fun v => oneLine_of_plain (plain_decimalInt v)
  have hnat : ∀ n : Nat, OneLine (decimal n) := fun n => oneLine_of_plain (plain_decimal n)
  cases l with
  | inert line => exact InertLine.oneLine_tail h
  | iceOptions => decide
  | media mediaType payloadType =>
    cases mediaType with
    | application =>
      show OneLine (ascii " 9 UDP/DTLS/SCTP webrtc-datachannel")
      decide
    | audio => exact OneLine.append (by decide) (hint payloadType)
    | video => exact OneLine.append (by decide) (hint payloadType)
  | mid midIndex => exact hint midIndex
  | iceUfrag value => exact oneLine_of_plain (Word.plain h)
  | icePwd value => exact oneLine_of_plain (Word.plain h)
  | fingerprint value => exact oneLine_of_plain (Word.plain h)
  | setup role => cases role <;> decide
  | rtpmap payloadType codec clockrate channels =>
    obtain ⟨-, -, -, hcodec, -⟩ := h
    have hslash : OneLine (ascii "/") := by decide
    have hspace : OneLine (ascii " ") := by decide
    exact (((((hint payloadType).append hspace).append (oneLine_of_plain hcodec.plain)).append
      hslash).append (hint clockrate)).append (oneLine_channelsText channels)
  | extmap e =>
    obtain ⟨-, -, huri⟩ := h
    have hspace : OneLine (ascii " ") := by decide
    exact ((hnat e.id).append hspace).append (oneLine_of_plain huri.plain)
  | ssrc value => exact (hnat value).append (by decide)
  | candidate value => exact h

theorem SdpLine.oneLine_text (h : l.Ok) : OneLine l.text :=
  l.start.oneLine_text.append (oneLine_tail h)

/-! ## The line as a string -/

section Own

variable {l : SdpLine} (h : l.Ok) (rest : Bytes)

include h

theorem cstr_line :
    cstr (l.text ++ (crlf ++ rest)) = ascii l.start.text ++ (l.tail ++ (crlf ++ cstr rest)) := by
  have hcrlf : ∀ b ∈ crlf, b ≠ 0 := by simp [crlf]
  rw [cstr_append fun b hb => (SdpLine.oneLine_text h b hb).1, cstr_append hcrlf, SdpLine.text,
    append_assoc]

theorem sdpLineStarts_own : sdpLineStarts (l.text ++ (crlf ++ rest)) l.start.text = true := by
  rw [sdpLineStarts, cstr_line h]
  exact isPrefixOf_append_self _ _

theorem sdpLineStartsN_own :
    sdpLineStartsN (l.text ++ (crlf ++ rest)) l.text.length l.start.text = true := by
  rw [sdpLineStartsN, sdpLineStarts_own h, Bool.true_and, decide_eq_true_eq, SdpLine.text,
    length_append]
  exact Nat.le_add_right _ _

omit h in
theorem lineValue_own {cap : Nat} (hword : Word l.tail cap) :
    lineValue (l.text ++ (crlf ++ rest)) l.text.length l.start.text cap = l.tail := by
  have hlen : l.text.length - (ascii l.start.text).length = l.tail.length := by
    rw [SdpLine.text, length_append]
    omega
  have hmin : min l.tail.length (cap - 1) = l.tail.length := by
    have hfits := hword.fits
    omega
  have hdrop : (l.text ++ (crlf ++ rest)).drop (ascii l.start.text).length
      = l.tail ++ (crlf ++ rest) := by
    rw [SdpLine.text, append_assoc, drop_left]
  rw [lineValue, hlen, hmin, hdrop, take_left]
  exact cstr_eq_self hword.plain.ne_zero

omit h in
theorem stops_crlf {p : UInt8 → Bool} (hp : p 0x0D = false) : Stops p (crlf ++ rest) :=
  stops_cons hp _

end Own

/-! ## Attribute by attribute -/

section Attributes

variable (st : SdpState) (rest : Bytes)

variable {payloadType : Int} {value : Bytes} {channels : Option Int}

theorem scan_mediaFormat (hpt : IsInt payloadType) :
    scan mediaFormat (ascii " 9 UDP/TLS/RTP/SAVPF " ++ decimalInt payloadType ++ (crlf ++ rest))
      = [.int payloadType] := by
  have hnine : decimal 9 = ascii "9" := by simp [decimal, digit, ascii]
  have htext : ascii " 9 UDP/TLS/RTP/SAVPF " ++ decimalInt payloadType ++ (crlf ++ rest)
      = 0x20 :: (decimal 9 ++ 0x20 :: (ascii "UDP/TLS/RTP/SAVPF"
          ++ 0x20 :: (decimalInt payloadType ++ (crlf ++ rest)))) := by
    rw [hnine, append_assoc]
    rfl
  have hword : Plain (ascii "UDP/TLS/RTP/SAVPF") := by decide
  -- the port and the transport are passed over, the payload type is read
  rw [htext, mediaFormat,
    scan_space _ (stops_word (decimal_ne_nil 9) (plain_decimal 9).not_space _),
    scan_skipInt _ _ (stops_cons (by decide) _),
    scan_space _ (stops_word (by decide) hword.not_space _),
    scan_skipWord _ (by decide) hword.not_space (stops_cons (by decide) _),
    scan_space _ (stops_word (decimalInt_ne_nil _) (plain_decimalInt _).not_space _),
    scan_int _ hpt.1 hpt.2 (stops_crlf rest (by decide))]
  rfl

theorem parseMid_own {midIndex : Int} (h : (SdpLine.mid midIndex).Ok) :
    parseMid st ((SdpLine.mid midIndex).text ++ (crlf ++ rest))
      = st.update fun m => { m with midIndex := midIndex } := by
  have hstarts : sdpLineStarts _ "a=mid:" = true := sdpLineStarts_own h rest
  have hscan : scan (lits "a=mid:" ++ [Directive.int])
      (cstr ((SdpLine.mid midIndex).text ++ (crlf ++ rest))) = [.int midIndex] := by
    rw [cstr_line h]
    exact (scan_lits _ _ _).trans (scan_int _ h.1 h.2 (stops_crlf _ (by decide)))
  simp only [parseMid, hstarts, hscan, if_true]
  rfl

theorem openSection_view (mediaType : MediaType) (payloadType : Int) :
    (openSection st mediaType payloadType).view
      = (SdpLine.media mediaType payloadType).apply st.view := by
  rw [openSection, SdpLine.apply]
  by_cases hroom : st.sdp.media.length < sdpMaxMedia
  · rw [if_pos hroom]
    exact (if_pos hroom).symm
  · rw [if_neg hroom]
    exact (if_neg hroom).symm

theorem openRtpSection_view {mediaType : MediaType} {format : List Directive}
    {line : Bytes} (hscan : scan format (cstr line) = [.int payloadType]) :
    (openRtpSection st mediaType format line).view
      = (SdpLine.media mediaType payloadType).apply st.view := by
  simp only [openRtpSection, hscan, length_singleton, if_true]
  exact openSection_view _ _ _

theorem parseMedia_own {mediaType : MediaType} (h : (SdpLine.media mediaType payloadType).Ok) :
    (parseMedia st ((SdpLine.media mediaType payloadType).text ++ (crlf ++ rest))).view
      = (SdpLine.media mediaType payloadType).apply st.view := by
  have hcstr := cstr_line h rest
  have hother : ∀ a, a ≠ (SdpLine.media mediaType payloadType).start →
      sdpLineStarts ((SdpLine.media mediaType payloadType).text ++ (crlf ++ rest)) a.text
        = false := by
    intro a ha
    rw [SdpLine.text, append_assoc]
    exact sdpLineStarts_skip _ ha
  cases mediaType with
  | audio =>
    have hstarts : sdpLineStarts _ "m=audio" = true := sdpLineStarts_own h rest
    rw [parseMedia, if_pos hstarts]
    apply openRtpSection_view
    rw [hcstr]
    exact (scan_lits _ _ _).trans (scan_mediaFormat (cstr rest) h)
  | video =>
    have haudio : sdpLineStarts _ "m=audio" = false := hother .audio nofun
    have hstarts : sdpLineStarts _ "m=video" = true := sdpLineStarts_own h rest
    rw [parseMedia, haudio, if_neg Bool.false_ne_true, if_pos hstarts]
    apply openRtpSection_view
    rw [hcstr]
    exact (scan_lits _ _ _).trans (scan_mediaFormat (cstr rest) h)
  | application =>
    have haudio : sdpLineStarts _ "m=audio" = false := hother .audio nofun
    have hvideo : sdpLineStarts _ "m=video" = false := hother .video nofun
    have hstarts : sdpLineStarts _ "m=application" = true := sdpLineStarts_own h rest
    have hzero : payloadType = 0 := h
    rw [parseMedia, haudio, if_neg Bool.false_ne_true, hvideo, if_neg Bool.false_ne_true,
      if_pos hstarts, hzero]
    exact openSection_view _ _ _

theorem parseIceUfrag_own (h : (SdpLine.iceUfrag value).Ok) :
    parseIceUfrag st ((SdpLine.iceUfrag value).text ++ (crlf ++ rest))
        (SdpLine.iceUfrag value).text.length
      = { st with sdp := { st.sdp with iceUfrag := value } } := by
  have hstarts : sdpLineStartsN _ _ "a=ice-ufrag:" = true := sdpLineStartsN_own h rest
  have hvalue : lineValue _ _ "a=ice-ufrag:" iceUfragLen = value :=
    lineValue_own (l := .iceUfrag value) rest h
  rw [parseIceUfrag, if_pos hstarts, hvalue]

theorem parseIcePwd_own (h : (SdpLine.icePwd value).Ok) :
    parseIcePwd st ((SdpLine.icePwd value).text ++ (crlf ++ rest))
        (SdpLine.icePwd value).text.length
      = { st with sdp := { st.sdp with icePwd := value } } := by
  have hstarts : sdpLineStartsN _ _ "a=ice-pwd:" = true := sdpLineStartsN_own h rest
  have hvalue : lineValue _ _ "a=ice-pwd:" icePwdLen = value :=
    lineValue_own (l := .icePwd value) rest h
  rw [parseIcePwd, if_pos hstarts, hvalue]

theorem parseFingerprint_own (h : (SdpLine.fingerprint value).Ok) :
    parseFingerprint st ((SdpLine.fingerprint value).text ++ (crlf ++ rest))
        (SdpLine.fingerprint value).text.length
      = { st with sdp := { st.sdp with fingerprint := value } } := by
  have hstarts : sdpLineStartsN _ _ "a=fingerprint:sha-256 " = true := sdpLineStartsN_own h rest
  have hvalue : lineValue _ _ "a=fingerprint:sha-256 " sdpFingerprintLen = value :=
    lineValue_own (l := .fingerprint value) rest h
  rw [parseFingerprint, if_pos hstarts, hvalue]

theorem parseSetup_own (role : SetupRole) :
    parseSetup st ((SdpLine.setup role).text ++ (crlf ++ rest))
      = { st with sdp := { st.sdp with setup := role } } := by
  have h : (SdpLine.setup role).Ok := trivial
  have hstarts : sdpLineStarts _ "a=setup:" = true := sdpLineStarts_own h rest
  have hvalue : (cstr ((SdpLine.setup role).text ++ (crlf ++ rest))).drop (ascii "a=setup:").length
      = ascii (setupText role) ++ (crlf ++ cstr rest) := by
    rw [cstr_line h]
    exact drop_left
  simp only [parseSetup, hstarts, hvalue, if_true]
  -- `actpass` is what is left; it shares only its first three letters with `active`
  cases role with
  | active => rfl
  | passive => rfl
  | actpass => rfl

theorem scan_channelsText (h : ∀ n ∈ channels, IsInt n) :
    scan [.lit 0x2F, .int] (channelsText channels ++ (crlf ++ rest))
      = channels.toList.map Scanned.int := by
  cases channels with
  | none => rfl
  | some n =>
    have hn := h n rfl
    exact scan_int _ hn.1 hn.2 (stops_crlf rest (by decide))

theorem stops_channelsText (channels : Option Int) :
    Stops isDigit (channelsText channels ++ (crlf ++ rest)) := by
  cases channels with
  | none => exact stops_crlf rest (by decide)
  | some n => exact stops_cons (by decide) _

theorem scan_rtpmapFormat {payloadType clockrate : Int} {codec : Bytes}
    (h : (SdpLine.rtpmap payloadType codec clockrate channels).Ok) :
    scan rtpmapFormat
        (cstr ((SdpLine.rtpmap payloadType codec clockrate channels).text ++ (crlf ++ rest)))
      = .int payloadType :: .text codec :: .int clockrate :: channels.toList.map Scanned.int := by
  rw [cstr_line h]
  obtain ⟨hpt, hrate, hchannels, hcodec, hslash⟩ := h
  have htail : (SdpLine.rtpmap payloadType codec clockrate channels).tail ++ (crlf ++ cstr rest)
      = decimalInt payloadType ++ 0x20 :: (codec ++ 0x2F :: (decimalInt clockrate
          ++ (channelsText channels ++ (crlf ++ cstr rest)))) := by
    simp only [SdpLine.tail, append_assoc]
    rfl
  -- the name fits the width of the format, so that the slash behind it is the next character
  have hlength : codec.length ≤ 31 := Nat.le_of_lt_succ hcodec.fits
  rw [htail]
  apply (scan_lits _ _ _).trans
  rw [scan_int _ hpt.1 hpt.2 (stops_cons (by decide) _),
    scan_space _ (stops_word hcodec.ne_nil hcodec.plain.not_space _),
    scan_upTo _ hcodec.ne_nil hlength hslash]
  have hnext : ∀ ds s, scan (.lit 0x2F :: ds) (0x2F :: s) = scan ds s := fun _ _ => rfl
  rw [hnext, scan_int _ hrate.1 hrate.2 (stops_channelsText _ channels),
    scan_channelsText _ hchannels]

theorem parseRtpmap_own {payloadType clockrate : Int} {codec : Bytes}
    (h : (SdpLine.rtpmap payloadType codec clockrate channels).Ok) :
    parseRtpmap st ((SdpLine.rtpmap payloadType codec clockrate channels).text ++ (crlf ++ rest))
      = setRtpmap st payloadType codec clockrate (channels.getD 0) := by
  have hstarts : sdpLineStarts _ "a=rtpmap:" = true := sdpLineStarts_own h rest
  rw [parseRtpmap, if_pos hstarts, scan_rtpmapFormat rest h]
  cases channels with
  | none => rfl
  | some n => rfl

theorem parseSsrc_own {value : Nat} (h : (SdpLine.ssrc value).Ok) :
    parseSsrc st ((SdpLine.ssrc value).text ++ (crlf ++ rest))
      = st.update fun m => if m.ssrc = 0 then { m with ssrc := value } else m := by
  have hstarts : sdpLineStarts _ "a=ssrc:" = true := sdpLineStarts_own h rest
  have hvalue : value < 2 ^ 32 := h
  have hscan : scan (lits "a=ssrc:" ++ [Directive.ulong])
      (cstr ((SdpLine.ssrc value).text ++ (crlf ++ rest))) = [.nat value] := by
    rw [cstr_line h, SdpLine.tail, append_assoc]
    exact (scan_lits _ _ _).trans (scan_ulong _ (by omega) (stops_cons (by decide) _))
  have hmod : natAt [.nat value] 0 % 2 ^ 32 = value := Nat.mod_eq_of_lt hvalue
  simp only [parseSsrc, hstarts, hscan, hmod, if_true]
  rfl

theorem parseExtmap_own {e : SdpExtmap} (h : (SdpLine.extmap e).Ok) :
    parseExtmap st ((SdpLine.extmap e).text ++ (crlf ++ rest))
      = st.update (addExtmap e.id e.uri) := by
  have hstarts : sdpLineStarts _ "a=extmap:" = true := sdpLineStarts_own h rest
  have hscan : scan extmapFormat (cstr ((SdpLine.extmap e).text ++ (crlf ++ rest)))
      = [.int e.id, .text e.uri] := by
    rw [cstr_line h]
    obtain ⟨hlow, hhigh, huri⟩ := h
    have htail : (SdpLine.extmap e).tail ++ (crlf ++ cstr rest)
        = decimalInt (e.id : Int) ++ 0x20 :: (e.uri ++ (crlf ++ cstr rest)) := by
      simp only [SdpLine.tail, append_assoc]
      rfl
    have hlength : e.uri.length ≤ 95 := Nat.le_of_lt_succ huri.fits
    rw [htail]
    apply (scan_lits _ _ _).trans
    rw [scan_int _ (by omega) (by omega) (stops_cons (by decide) _),
      scan_space _ (stops_word huri.ne_nil huri.plain.not_space _),
      scan_word _ huri.ne_nil hlength huri.plain.not_space (stops_crlf _ (by decide))]
    rfl
  simp only [parseExtmap, hstarts, hscan, if_true]
  rfl

theorem parseIceOptions_view (line : Bytes) (lineLen : Nat) :
    (parseIceOptions st line lineLen).view = st.view := by
  dsimp only [parseIceOptions]
  split
  · split <;> rfl
  · rfl

theorem parseCandidate_view (inet : InetText) (alloc : Bool) (line : Bytes) :
    (parseCandidate inet alloc st line).view = st.view := by
  unfold parseCandidate
  split
  · split
    · split <;> rfl
    · rfl
  · rfl

end Attributes

/-! ## Every line -/

theorem SdpLine.handle_view (inet : InetText) (alloc : Bool) (st : SdpState) (rest : Bytes)
    (h : l.Ok) :
    (l.start.handle inet alloc st (l.text ++ (crlf ++ rest)) l.text.length).view
      = l.apply st.view := by
  cases l with
  | inert line => cases line <;> rfl
  | iceOptions => exact parseIceOptions_view _ _ _
  | media mediaType payloadType =>
    have hmedia := parseMedia_own st rest h
    cases mediaType <;> exact hmedia
  | mid midIndex => exact (congrArg _ (parseMid_own st rest h)).trans (st.view_update _)
  | iceUfrag value => exact congrArg _ (parseIceUfrag_own st rest h)
  | icePwd value => exact congrArg _ (parseIcePwd_own st rest h)
  | fingerprint value => exact congrArg _ (parseFingerprint_own st rest h)
  | setup role => exact congrArg _ (parseSetup_own st rest role)
  | rtpmap payloadType codec clockrate channels =>
    exact (congrArg _ (parseRtpmap_own st rest h)).trans (SdpState.view_update _ _)
  | extmap e => exact (congrArg _ (parseExtmap_own st rest h)).trans (st.view_update _)
  | ssrc value => exact (congrArg _ (parseSsrc_own st rest h)).trans (st.view_update _)
  | candidate value => exact parseCandidate_view _ _ _ _

theorem sdpParseLine_view (inet : InetText) (alloc : Bool) (st : SdpState) (rest : Bytes)
    (h : l.Ok) :
    (sdpParseLine inet alloc st (l.text ++ (crlf ++ rest)) l.text.length).view
      = l.apply st.view := by
  have hhead : l.text ++ (crlf ++ rest) = ascii l.start.text ++ (l.tail ++ (crlf ++ rest)) := by
    rw [SdpLine.text, append_assoc]
  calc (sdpParseLine inet alloc st (l.text ++ (crlf ++ rest)) l.text.length).view
      = (l.start.handle inet alloc st (l.text ++ (crlf ++ rest)) l.text.length).view := by
        rw [hhead, sdpParseLine_eq]
    _ = l.apply st.view := SdpLine.handle_view inet alloc st rest h

end Mrtc
