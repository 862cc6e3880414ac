import Mrtc.Sdp.Generate

/-! # Reading a description (`rtc_sdp.c`, `rtc_sdp_parse`)

The parser goes over the lines of the text and tries every attribute it knows on each of them; an
attribute of a media section changes the section that the last `m=` line opened.
-/

namespace Mrtc

open Net CText

structure SdpState where
  sdp : Sdp
  current : Option Nat := none
  deriving DecidableEq

def sdpLineStarts (line : Bytes) (start : String) : Bool := (ascii start).isPrefixOf (cstr line)

def sdpLineStartsN (line : Bytes) (lineLen : Nat) (start : String) : Bool :=
  sdpLineStarts line start && decide ((ascii start).length ≤ lineLen)

def openSection (st : SdpState) (mediaType : MediaType) (pt : Int) : SdpState :=
  if st.sdp.media.length < sdpMaxMedia then
    { sdp :=
        { st.sdp with
          media := st.sdp.media ++
            [{ mediaType := mediaType, payloadType := pt, midIndex := st.sdp.media.length }] }
      current := some st.sdp.media.length }
  else st

def openRtpSection (st : SdpState) (mediaType : MediaType) (format : List Directive)
    (line : Bytes) : SdpState :=
  let values := scan format (cstr line)
  let pt := intAt values 0
  let sdp := { st.sdp with mediaType := mediaType }
  -- the old field keeps its value if the line has no payload type, the section gets zero
  let sdp := if values.length = 1 then { sdp with payloadType := pt } else sdp
  openSection { st with sdp := sdp } mediaType pt

def mediaFormat : List Directive := [.space, .skipInt, .space, .skipWord, .space, .int]

def parseMedia (st : SdpState) (line : Bytes) : SdpState :=
  if sdpLineStarts line "m=audio" then
    openRtpSection st .audio (lits "m=audio" ++ mediaFormat) line
  else if sdpLineStarts line "m=video" then
    openRtpSection st .video (lits "m=video" ++ mediaFormat) line
  else if sdpLineStarts line "m=application" then
    openSection { st with sdp := { st.sdp with mediaType := .application } } .application 0
  else st

def lineValue (line : Bytes) (lineLen : Nat) (start : String) (cap : Nat) : Bytes :=
  cstr ((line.drop (ascii start).length).take (min (lineLen - (ascii start).length) (cap - 1)))

def parseIceUfrag (st : SdpState) (line : Bytes) (lineLen : Nat) : SdpState :=
  if sdpLineStartsN line lineLen "a=ice-ufrag:" then
    { st with sdp :=
      { st.sdp with iceUfrag := lineValue line lineLen "a=ice-ufrag:" iceUfragLen } }
  else st

def parseIcePwd (st : SdpState) (line : Bytes) (lineLen : Nat) : SdpState :=
  if sdpLineStartsN line lineLen "a=ice-pwd:" then
    { st with sdp := { st.sdp with icePwd := lineValue line lineLen "a=ice-pwd:" icePwdLen } }
  else st

def parseFingerprint (st : SdpState) (line : Bytes) (lineLen : Nat) : SdpState :=
  if sdpLineStartsN line lineLen "a=fingerprint:sha-256 " then
    { st with sdp :=
      { st.sdp with
        fingerprint := lineValue line lineLen "a=fingerprint:sha-256 " sdpFingerprintLen } }
  else st

def parseSetup (st : SdpState) (line : Bytes) : SdpState :=
  if sdpLineStarts line "a=setup:" then
    let value := (cstr line).drop (ascii "a=setup:").length
    let role :=
      if (ascii "active").isPrefixOf value then SetupRole.active
      else if (ascii "passive").isPrefixOf value then .passive
      else .actpass
    { st with sdp := { st.sdp with setup := role } }
  else st

def optionTokens : Bytes → List Bytes
  | [] => [[]]
  | b :: rest =>
    if b = 0x20 ∨ b = 0x09 then [] :: optionTokens rest
    else
      match optionTokens rest with
      | [] => [[b]]
      | token :: tokens => (b :: token) :: tokens

def parseIceOptions (st : SdpState) (line : Bytes) (lineLen : Nat) : SdpState :=
  if sdpLineStartsN line lineLen "a=ice-options:" then
    let start := (ascii "a=ice-options:").length
    if (optionTokens ((line.drop start).take (lineLen - start))).contains (ascii "trickle") then
      { st with sdp := { st.sdp with iceOptionsTrickle := true } }
    else st
  else st

def SdpState.update (st : SdpState) (f : SdpMedia → SdpMedia) : SdpState :=
  match st.current with
  | some i => { st with sdp := { st.sdp with media := st.sdp.media.modify i f } }
  | none => st

def parseMid (st : SdpState) (line : Bytes) : SdpState :=
  if sdpLineStarts line "a=mid:" then
    let values := scan (lits "a=mid:" ++ [Directive.int]) (cstr line)
    if values.length = 1 then st.update fun m => { m with midIndex := intAt values 0 } else st
  else st

def rtpmapFormat : List Directive :=
  lits "a=rtpmap:"
    ++ ([.int, .space, .upTo 31 0x2F, .lit 0x2F, .int, .lit 0x2F, .int] : List Directive)

def setRtpmap (st : SdpState) (pt : Int) (codec : Bytes) (rate channels : Int) : SdpState :=
  ({ st with
    sdp :=
      { st.sdp with
        payloadType := pt
        clockrate := rate
        channels := channels
        codecName := codec } } : SdpState).update fun m =>
    { m with payloadType := pt, clockrate := rate, channels := channels, codecName := codec }

def parseRtpmap (st : SdpState) (line : Bytes) : SdpState :=
  if sdpLineStarts line "a=rtpmap:" then
    let values := scan rtpmapFormat (cstr line)
    if 3 ≤ values.length then
      -- a fourth value that was not assigned is zero
      setRtpmap st (intAt values 0) (textAt values 1) (intAt values 2) (intAt values 3)
    else st
  else st

def parseSsrc (st : SdpState) (line : Bytes) : SdpState :=
  if sdpLineStarts line "a=ssrc:" then
    let values := scan (lits "a=ssrc:" ++ [Directive.ulong]) (cstr line)
    if values.length = 1 then
      st.update fun m => if m.ssrc = 0 then { m with ssrc := natAt values 0 % 2 ^ 32 } else m
    else st
  else st

def addExtmap (id : Int) (uri : Bytes) (m : SdpMedia) : SdpMedia :=
  if 1 ≤ id ∧ id ≤ 14 ∧ m.extmaps.length < sdpMaxExtmap then
    { m with extmaps := m.extmaps ++ [⟨id.toNat, uri⟩] }
  else m

def extmapFormat : List Directive :=
  lits "a=extmap:" ++ ([.int, .space, .word 95] : List Directive)

def extmapDirFormat : List Directive :=
  lits "a=extmap:" ++ ([.int, .lit 0x2F, .skipUpTo 0x20, .space, .word 95] : List Directive)

def parseExtmap (st : SdpState) (line : Bytes) : SdpState :=
  if sdpLineStarts line "a=extmap:" then
    let values := scan extmapFormat (cstr line)
    -- the second format is tried on a line that the first one does not fit
    let values := if values.length = 2 then values else scan extmapDirFormat (cstr line)
    if values.length = 2 then st.update (addExtmap (intAt values 0) (textAt values 1)) else st
  else st

/-! ## Candidates -/

def strstr (needle : Bytes) : Bytes → Option Bytes
  | [] => if needle = [] then some [] else none
  | b :: rest => if needle.isPrefixOf (b :: rest) then some (b :: rest) else strstr needle rest

def candidateFormat : List Directive :=
  ([.word 31, .space, .int, .space, .word 7, .space, .uint, .space, .word 63, .space, .uint, .space]
      : List Directive)
    ++ lits "typ" ++ ([.space, .word 7] : List Directive)

def candidateTypeOf (text : Bytes) : Option CandidateType :=
  if text = ascii "host" then some .host
  else if text = ascii "srflx" then some .srflx
  else if text = ascii "relay" then some .relay
  else none

def relatedFormat : List Directive :=
  .space :: lits "raddr" ++ ([.space, .word 63, .space] : List Directive) ++ lits "rport"
    ++ ([.space, .uint] : List Directive)

def parseRelated (inet : InetText) (p : Bytes) : Except RtcErr (Option RtcAddr) :=
  match strstr (ascii " raddr ") p with
  | none => .ok none
  | some related =>
    let values := scan relatedFormat related
    if values.length ≠ 2 then .ok none
    else if natAt values 1 = 0 ∨ 65535 < natAt values 1 then .error .sdp
    else do
      let addr ← rtcAddrFromString inet (textAt values 0) (natAt values 1)
      return some addr

def rtcSdpParseCandidateLine (inet : InetText) (line : Bytes) : Except RtcErr IceCandidate :=
  let p := if (ascii "a=").isPrefixOf line then line.drop 2 else line
  if !(ascii "candidate:").isPrefixOf p then .error .sdp
  else
    let p := p.drop 10
    let values := scan candidateFormat p
    if values.length < 7 then .error .sdp
    else if textAt values 2 ≠ ascii "udp" ∧ textAt values 2 ≠ ascii "UDP" then .error .sdp
    else if intAt values 1 ≤ 0 ∨ natAt values 5 = 0 ∨ 65535 < natAt values 5 then .error .sdp
    else
      match candidateTypeOf (textAt values 6) with
      | none => .error .sdp
      | some type => do
        let addr ← rtcAddrFromString inet (textAt values 4) (natAt values 5)
        let relatedAddr ← parseRelated inet p
        return {
          type := type
          addr := addr
          relatedAddr := relatedAddr
          priority := natAt values 3
          component := intAt values 1
          foundation := textAt values 0 }

def parseCandidate (inet : InetText) (alloc : Bool) (st : SdpState) (line : Bytes) : SdpState :=
  if sdpLineStarts line "a=candidate:" then
    match rtcSdpParseCandidateLine inet (cstr line) with
    | .ok c =>
      if alloc then { st with sdp := { st.sdp with candidates := st.sdp.candidates ++ [c] } }
      else st
    | .error _ => st
  else st

/-! ## Lines -/

def sdpParseLine (inet : InetText) (alloc : Bool) (st : SdpState) (line : Bytes) (lineLen : Nat) :
    SdpState :=
  let st := parseMedia st line
  let st := parseIceUfrag st line lineLen
  let st := parseIcePwd st line lineLen
  let st := parseFingerprint st line lineLen
  let st := parseSetup st line
  let st := parseIceOptions st line lineLen
  let st := parseMid st line
  let st := parseRtpmap st line
  let st := parseSsrc st line
  let st := parseExtmap st line
  parseCandidate inet alloc st line

def lineLength (text : Bytes) : Nat := (text.takeWhile fun b => b != 0x0A && b != 0x0D).length
def nextLine (text : Bytes) : Nat :=
  let n := (text.takeWhile (· != 0x0A)).length
  if n < text.length then n + 1 else n

def sdpParseLines (inet : InetText) (alloc : Bool) : (fuel : Nat) → (st : SdpState) →
    (text : Bytes) → (len : Nat) → SdpState
  | 0, st, _, _ => st
  | fuel + 1, st, text, len =>
    if len = 0 then st
    else
      -- the attributes see all of `text`; only the ends of lines are looked for in `len` bytes
      let st := sdpParseLine inet alloc st text (lineLength (text.take len))
      let next := nextLine (text.take len)
      sdpParseLines inet alloc fuel st (text.drop next) (len - next)

def rtcSdpParse (inet : InetText) (alloc : Bool) (sdp : Sdp) (text : Bytes) (len : Nat) : Sdp :=
  -- a longer text is cut, here and for the loop
  let len := min len (sdpMaxSize - 1)
  let sdp := { sdp with raw := text.take len, candidates := [], media := [] }
  (sdpParseLines inet alloc len { sdp := sdp } text len).sdp

end Mrtc
