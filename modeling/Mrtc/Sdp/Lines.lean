import Mrtc.Sdp.Parse

/-! # The lines of a description

The lines that `rtc_sdp_generate` writes, as data (`SdpLine`): what a line says, its text, and what
it means to a reader (`SdpLine.apply`, on the part of the parser's state that the media sections and
the transport parameters are in).
-/

namespace Mrtc

open Net CText

/-! ## How lines start -/

inductive LineStart where
  | version
  | origin
  | name
  | time
  | group
  | connection
  | direction
  | rtcpMux
  | sctpPort
  | audio
  | video
  | application
  | iceUfrag
  | icePwd
  | fingerprint
  | setup
  | iceOptions
  | mid
  | rtpmap
  | ssrc
  | extmap
  | candidate
  deriving DecidableEq

namespace LineStart

def text : LineStart → String
  | .version => "v=0"
  | .origin => "o=mrtc "
  | .name => "s=mrtc"
  | .time => "t=0 0"
  | .group => "a=group:BUNDLE"
  | .connection => "c=IN IP4 0.0.0.0"
  | .direction => "a=sendrecv"
  | .rtcpMux => "a=rtcp-mux"
  | .sctpPort => "a=sctp-port:5000"
  | .audio => "m=audio"
  | .video => "m=video"
  | .application => "m=application"
  | .iceUfrag => "a=ice-ufrag:"
  | .icePwd => "a=ice-pwd:"
  | .fingerprint => "a=fingerprint:sha-256 "
  | .setup => "a=setup:"
  | .iceOptions => "a=ice-options:"
  | .mid => "a=mid:"
  | .rtpmap => "a=rtpmap:"
  | .ssrc => "a=ssrc:"
  | .extmap => "a=extmap:"
  | .candidate => "a=candidate:"

def all : List LineStart :=
  [.version, .origin, .name, .time, .group, .connection, .direction, .rtcpMux, .sctpPort, .audio,
    .video, .application, .iceUfrag, .icePwd, .fingerprint, .setup, .iceOptions, .mid, .rtpmap,
    .ssrc, .extmap, .candidate]

theorem mem_all (a : LineStart) : a ∈ all := by
  cases a <;> decide

theorem differs_text {a b : LineStart} (h : a ≠ b) :
    differs (ascii a.text) (ascii b.text) = true := by
  have hall : ∀ a ∈ all, ∀ b ∈ all, a ≠ b → differs (ascii a.text) (ascii b.text) = true := by
    decide +kernel
  exact hall a (mem_all a) b (mem_all b) h

end LineStart

/-! ## Lines -/

inductive InertLine where
  | version
  | origin (sessionId : Bytes)
  | name
  | time
  | group (mids : List Int)
  | connection
  | direction
  | rtcpMux
  | sctpPort
  deriving DecidableEq

inductive SdpLine where
  | inert (line : InertLine)
  | iceOptions
  | media (mediaType : MediaType) (payloadType : Int)
  | mid (midIndex : Int)
  | iceUfrag (value : Bytes)
  | icePwd (value : Bytes)
  | fingerprint (value : Bytes)
  | setup (role : SetupRole)
  | rtpmap (payloadType : Int) (codec : Bytes) (clockrate : Int) (channels : Option Int)
  | extmap (e : SdpExtmap)
  | ssrc (value : Nat)
  | candidate (value : Bytes)
  deriving DecidableEq

def InertLine.start : InertLine → LineStart
  | .version => .version
  | .origin _ => .origin
  | .name => .name
  | .time => .time
  | .group _ => .group
  | .connection => .connection
  | .direction => .direction
  | .rtcpMux => .rtcpMux
  | .sctpPort => .sctpPort

def InertLine.tail : InertLine → Bytes
  | .origin sessionId => sessionId ++ ascii " 1 IN IP4 0.0.0.0"
  | .group mids => mids.flatMap fun mid => ascii " " ++ decimalInt mid
  | _ => []

def SdpLine.start : SdpLine → LineStart
  | .inert line => line.start
  | .iceOptions => .iceOptions
  | .media .audio _ => .audio
  | .media .video _ => .video
  | .media .application _ => .application
  | .mid _ => .mid
  | .iceUfrag _ => .iceUfrag
  | .icePwd _ => .icePwd
  | .fingerprint _ => .fingerprint
  | .setup _ => .setup
  | .rtpmap .. => .rtpmap
  | .extmap _ => .extmap
  | .ssrc _ => .ssrc
  | .candidate _ => .candidate

def channelsText : Option Int → Bytes
  | some channels => ascii "/" ++ decimalInt channels
  | none => []

def SdpLine.tail : SdpLine → Bytes
  | .inert line => line.tail
  | .iceOptions => ascii "trickle"
  | .media .audio payloadType | .media .video payloadType =>
    ascii " 9 UDP/TLS/RTP/SAVPF " ++ decimalInt payloadType
  | .media .application _ => ascii " 9 UDP/DTLS/SCTP webrtc-datachannel"
  | .mid midIndex => decimalInt midIndex
  | .iceUfrag value | .icePwd value | .fingerprint value | .candidate value => value
  | .setup role => ascii (setupText role)
  | .rtpmap payloadType codec clockrate channels =>
    decimalInt payloadType ++ ascii " " ++ codec ++ ascii "/" ++ decimalInt clockrate
      ++ channelsText channels
  | .extmap e => decimal e.id ++ ascii " " ++ e.uri
  | .ssrc value => decimal value ++ ascii " cname:mrtc"

def SdpLine.text (l : SdpLine) : Bytes := ascii l.start.text ++ l.tail

def IsInt (v : Int) : Prop := -2 ^ 31 ≤ v ∧ v < 2 ^ 31

instance : DecidablePred IsInt := fun v => inferInstanceAs (Decidable (_ ∧ v < 2 ^ 31))

@[mk_iff]
structure Word (s : Bytes) (cap : Nat) : Prop where
  ne_nil : s ≠ []
  fits : s.length < cap
  plain : Plain s

instance (s : Bytes) (cap : Nat) : Decidable (Word s cap) := decidable_of_iff' _ (word_iff s cap)

def OneLine (s : Bytes) : Prop := ∀ b ∈ s, b ≠ 0 ∧ b ≠ 0x0A ∧ b ≠ 0x0D

instance : DecidablePred OneLine :=
  fun s => List.decidableBAll (fun b => b ≠ 0 ∧ b ≠ 0x0A ∧ b ≠ 0x0D) s

def SdpLine.Ok : SdpLine → Prop
  | .inert (.origin sessionId) => Plain sessionId
  | .media .application payloadType => payloadType = 0
  | .media _ payloadType => IsInt payloadType
  | .mid midIndex => IsInt midIndex
  | .iceUfrag value => Word value iceUfragLen
  | .icePwd value => Word value icePwdLen
  | .fingerprint value => Word value sdpFingerprintLen
  | .rtpmap payloadType codec clockrate channels =>
    IsInt payloadType ∧ IsInt clockrate ∧ (∀ n ∈ channels, IsInt n)
      ∧ Word codec sdpCodecNameLen ∧ 0x2F ∉ codec
  | .extmap e => 1 ≤ e.id ∧ e.id ≤ 14 ∧ Word e.uri sdpExtmapUriLen
  | .ssrc value => value < 2 ^ 32
  | .candidate value => OneLine value
  | _ => True

/-! ## What a line means -/

structure SdpView where
  iceUfrag : Bytes
  icePwd : Bytes
  fingerprint : Bytes
  setup : SetupRole
  media : List SdpMedia
  current : Option Nat
  deriving DecidableEq

def SdpState.view (st : SdpState) : SdpView :=
  ⟨st.sdp.iceUfrag, st.sdp.icePwd, st.sdp.fingerprint, st.sdp.setup, st.sdp.media, st.current⟩

def SdpView.update (v : SdpView) (f : SdpMedia → SdpMedia) : SdpView :=
  match v.current with
  | some i => { v with media := v.media.modify i f }
  | none => v

def SdpLine.apply (v : SdpView) : SdpLine → SdpView
  | .inert _ | .iceOptions | .candidate _ => v
  | .media mediaType payloadType =>
    if v.media.length < sdpMaxMedia then
      { v with
        media := v.media ++
          [{ mediaType := mediaType, payloadType := payloadType, midIndex := v.media.length }]
        current := some v.media.length }
    else v
  | .mid midIndex => v.update fun m => { m with midIndex := midIndex }
  | .iceUfrag value => { v with iceUfrag := value }
  | .icePwd value => { v with icePwd := value }
  | .fingerprint value => { v with fingerprint := value }
  | .setup role => { v with setup := role }
  | .rtpmap payloadType codec clockrate channels =>
    v.update fun m =>
      { m with
        payloadType := payloadType
        clockrate := clockrate
        channels := channels.getD 0
        codecName := codec }
  | .extmap e => v.update (addExtmap e.id e.uri)
  | .ssrc value => v.update fun m => if m.ssrc = 0 then { m with ssrc := value } else m

theorem SdpState.view_update (st : SdpState) (f : SdpMedia → SdpMedia) :
    (st.update f).view = st.view.update f := by
  obtain ⟨sdp, current⟩ := st
  cases current with
  | none => rfl
  | some i => rfl

/-! ## Attributes that a line is not about -/

section Skip

variable {inet : InetText} {alloc : Bool} {st : SdpState} {a : LineStart} (x : Bytes) (n : Nat)

variable {b : LineStart}

theorem sdpLineStarts_skip (h : b ≠ a) : sdpLineStarts (ascii a.text ++ x) b.text = false :=
  isPrefixOf_of_differs (LineStart.differs_text h)

theorem if_sdpLineStarts_skip (h : b ≠ a) (st' : SdpState) :
    (if sdpLineStarts (ascii a.text ++ x) b.text then st' else st) = st := by
  rw [sdpLineStarts_skip x h, if_neg Bool.false_ne_true]

theorem if_sdpLineStartsN_skip (h : b ≠ a) (st' : SdpState) :
    (if sdpLineStartsN (ascii a.text ++ x) n b.text then st' else st) = st := by
  rw [sdpLineStartsN, sdpLineStarts_skip x h, Bool.false_and, if_neg Bool.false_ne_true]

theorem parseMedia_skip (haudio : .audio ≠ a) (hvideo : .video ≠ a) (happ : .application ≠ a) :
    parseMedia st (ascii a.text ++ x) = st :=
  (if_neg (Bool.eq_false_iff.mp (sdpLineStarts_skip x haudio))).trans
    ((if_neg (Bool.eq_false_iff.mp (sdpLineStarts_skip x hvideo))).trans
      (if_sdpLineStarts_skip x happ _))

theorem parseIceUfrag_skip (h : .iceUfrag ≠ a) : parseIceUfrag st (ascii a.text ++ x) n = st :=
  if_sdpLineStartsN_skip x n h _

theorem parseIcePwd_skip (h : .icePwd ≠ a) : parseIcePwd st (ascii a.text ++ x) n = st :=
  if_sdpLineStartsN_skip x n h _

theorem parseFingerprint_skip (h : .fingerprint ≠ a) :
    parseFingerprint st (ascii a.text ++ x) n = st :=
  if_sdpLineStartsN_skip x n h _

theorem parseSetup_skip (h : .setup ≠ a) : parseSetup st (ascii a.text ++ x) = st :=
  if_sdpLineStarts_skip x h _

theorem parseIceOptions_skip (h : .iceOptions ≠ a) :
    parseIceOptions st (ascii a.text ++ x) n = st :=
  if_sdpLineStartsN_skip x n h _

theorem parseMid_skip (h : .mid ≠ a) : parseMid st (ascii a.text ++ x) = st :=
  if_sdpLineStarts_skip x h _

theorem parseRtpmap_skip (h : .rtpmap ≠ a) : parseRtpmap st (ascii a.text ++ x) = st :=
  if_sdpLineStarts_skip x h _

theorem parseSsrc_skip (h : .ssrc ≠ a) : parseSsrc st (ascii a.text ++ x) = st :=
  if_sdpLineStarts_skip x h _

theorem parseExtmap_skip (h : .extmap ≠ a) : parseExtmap st (ascii a.text ++ x) = st :=
  if_sdpLineStarts_skip x h _

theorem parseCandidate_skip (h : .candidate ≠ a) :
    parseCandidate inet alloc st (ascii a.text ++ x) = st :=
  if_sdpLineStarts_skip x h _

end Skip

def LineStart.handle (inet : InetText) (alloc : Bool) (st : SdpState) (line : Bytes)
    (lineLen : Nat) : LineStart → SdpState
  | .audio | .video | .application => parseMedia st line
  | .iceUfrag => parseIceUfrag st line lineLen
  | .icePwd => parseIcePwd st line lineLen
  | .fingerprint => parseFingerprint st line lineLen
  | .setup => parseSetup st line
  | .iceOptions => parseIceOptions st line lineLen
  | .mid => parseMid st line
  | .rtpmap => parseRtpmap st line
  | .ssrc => parseSsrc st line
  | .extmap => parseExtmap st line
  | .candidate => parseCandidate inet alloc st line
  | _ => st

theorem sdpParseLine_eq (inet : InetText) (alloc : Bool) (st : SdpState) (a : LineStart) (x : Bytes)
    (n : Nat) :
    sdpParseLine inet alloc st (ascii a.text ++ x) n
      = a.handle inet alloc st (ascii a.text ++ x) n := by
  cases a <;>
    simp (disch := decide) only [LineStart.handle, sdpParseLine, parseMedia_skip,
      parseIceUfrag_skip, parseIcePwd_skip, parseFingerprint_skip, parseSetup_skip,
      parseIceOptions_skip, parseMid_skip, parseRtpmap_skip, parseSsrc_skip, parseExtmap_skip,
      parseCandidate_skip]

end Mrtc
