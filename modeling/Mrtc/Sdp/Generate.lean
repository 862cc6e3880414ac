import Mrtc.Basic.Addr
import Mrtc.Signaling.Peer

/-! # Writing a description (`rtc_sdp.c`, `rtc_sdp_generate`)

The structures of a description and the text that is generated from them.
-/

namespace Mrtc

open Net CText

def sdpMaxSize : Nat := 8192
def sdpMaxMedia : Nat := 4
def sdpMaxExtmap : Nat := 6
def sdpExtmapUriLen : Nat := 96
def iceUfragLen : Nat := 8
def icePwdLen : Nat := 24
def sdpFingerprintLen : Nat := 96
def sdpCodecNameLen : Nat := 32

inductive MediaType where
  | audio
  | video
  | application
  deriving DecidableEq

structure SdpExtmap where
  id : Nat
  uri : Bytes
  deriving DecidableEq

structure SdpMedia where
  mediaType : MediaType
  payloadType : Int := 0
  clockrate : Int := 0
  channels : Int := 0
  codecName : Bytes := []
  midIndex : Int := 0
  ssrc : Nat := 0
  extmaps : List SdpExtmap := []
  deriving DecidableEq

inductive CandidateType where
  | host
  | srflx
  | relay
  deriving DecidableEq

structure IceCandidate where
  type : CandidateType
  addr : RtcAddr
  relatedAddr : Option RtcAddr := none
  priority : Nat
  component : Int
  foundation : Bytes
  deriving DecidableEq

structure Sdp where
  mediaType : MediaType := .audio
  payloadType : Int := 0
  clockrate : Int := 0
  channels : Int := 0
  codecName : Bytes := []
  media : List SdpMedia := []
  iceUfrag : Bytes := []
  icePwd : Bytes := []
  fingerprint : Bytes := []
  setup : SetupRole := .active
  iceOptionsTrickle : Bool := false
  candidates : List IceCandidate := []
  sessionId : Bytes := []
  raw : Bytes := []
  deriving DecidableEq

def crlf : Bytes := [0x0D, 0x0A]

def sdpWritef (out piece : Bytes) : Except RtcErr Bytes :=
  if sdpMaxSize ≤ out.length + piece.length then .error .sdp else .ok (out ++ piece)

def setupText : SetupRole → String
  | .active => "active"
  | .passive => "passive"
  | .actpass => "actpass"

def MediaType.isRtp : MediaType → Bool
  | .audio | .video => true
  | .application => false

def mediaLine (m : SdpMedia) : Bytes :=
  match m.mediaType with
  | .audio => ascii "m=audio 9 UDP/TLS/RTP/SAVPF " ++ decimalInt m.payloadType
  | .video => ascii "m=video 9 UDP/TLS/RTP/SAVPF " ++ decimalInt m.payloadType
  | .application => ascii "m=application 9 UDP/DTLS/SCTP webrtc-datachannel"

def rtpmapLines (m : SdpMedia) : List Bytes :=
  if m.mediaType.isRtp && m.codecName != [] then
    let codec :=
      ascii "a=rtpmap:" ++ decimalInt m.payloadType ++ ascii " " ++ m.codecName ++ ascii "/"
        ++ decimalInt m.clockrate
    if m.mediaType == .audio && 0 < m.channels then
      [codec ++ ascii "/" ++ decimalInt m.channels]
    else [codec]
  else []

def extmapLine (e : SdpExtmap) : Bytes :=
  ascii "a=extmap:" ++ decimal e.id ++ ascii " " ++ e.uri

def extmapLines (m : SdpMedia) : List Bytes :=
  if m.mediaType.isRtp then (m.extmaps.filter fun e => e.id != 0 && e.uri != []).map extmapLine
  else []

def ssrcLines (m : SdpMedia) : List Bytes :=
  if m.mediaType.isRtp && m.ssrc != 0 then
    [ascii "a=ssrc:" ++ decimal m.ssrc ++ ascii " cname:mrtc"]
  else []

def mediaSectionLines (m : SdpMedia) (sdp : Sdp) : List Bytes :=
  [mediaLine m, ascii "c=IN IP4 0.0.0.0", ascii "a=mid:" ++ decimalInt m.midIndex,
    ascii "a=ice-ufrag:" ++ sdp.iceUfrag, ascii "a=ice-pwd:" ++ sdp.icePwd,
    ascii "a=fingerprint:sha-256 " ++ sdp.fingerprint,
    ascii "a=setup:" ++ ascii (setupText sdp.setup)]
  ++ (if m.mediaType.isRtp then [ascii "a=sendrecv", ascii "a=rtcp-mux"] else [])
  ++ rtpmapLines m ++ extmapLines m
  ++ (if m.mediaType == .application then [ascii "a=sctp-port:5000"] else [])
  ++ ssrcLines m

def candidateTypeText : CandidateType → String
  | .host => "host"
  | .srflx => "srflx"
  | .relay => "relay"

def candidateText (c : IceCandidate) (ip : Bytes) (port : Nat) : Bytes :=
  ascii "candidate:" ++ (c.foundation ++ ascii " " ++ decimalInt c.component ++ ascii " udp "
    ++ decimal c.priority ++ ascii " " ++ ip ++ ascii " " ++ decimal port ++ ascii " typ "
    ++ ascii (candidateTypeText c.type))

def relatedText (ip : Bytes) (port : Nat) : Bytes :=
  ascii " raddr " ++ ip ++ ascii " rport " ++ decimal port

def rtcIceCandidateToString (inet : InetText) (c : IceCandidate) (len : Nat) :
    Except RtcErr Bytes := do
  let (ip, port) ← rtcAddrToString inet c.addr
  let text := candidateText c ip port
  if len ≤ text.length then .error .nomem
  else
    match c.relatedAddr with
    | none => .ok text
    | some addr => do
      let (relatedIp, relatedPort) ← rtcAddrToString inet addr
      let related := relatedText relatedIp relatedPort
      if len - text.length ≤ related.length then .error .nomem else .ok (text ++ related)

def candidateLines (inet : InetText) (cs : List IceCandidate) : List Bytes :=
  cs.filterMap fun c =>
    match rtcIceCandidateToString inet c 256 with
    | .ok text => some (ascii "a=" ++ text)
    | .error _ => none

def effectiveMedia (sdp : Sdp) : List SdpMedia :=
  if sdp.media = [] then
    [{ mediaType := sdp.mediaType
       payloadType := sdp.payloadType
       clockrate := sdp.clockrate
       channels := sdp.channels
       codecName := sdp.codecName }]
  else sdp.media

def withEnds (lines : List Bytes) : List Bytes := lines.map (· ++ crlf)

def sdpPieces (inet : InetText) (sdp : Sdp) : List Bytes :=
  withEnds
    [ascii "v=0", ascii "o=mrtc " ++ sdp.sessionId ++ ascii " 1 IN IP4 0.0.0.0", ascii "s=mrtc",
      ascii "t=0 0"]
  ++ ([ascii "a=group:BUNDLE"]
    ++ (effectiveMedia sdp).map (fun m => ascii " " ++ decimalInt m.midIndex) ++ [crlf])
  ++ withEnds [ascii "a=ice-options:trickle"]
  ++ (effectiveMedia sdp).flatMap (fun m => withEnds (mediaSectionLines m sdp))
  -- behind all sections: the candidates are those of the bundle
  ++ withEnds (candidateLines inet sdp.candidates)

def sdpSessionId (sdp : Sdp) (nowMs : Nat) : Bytes :=
  if sdp.sessionId = [] then decimal nowMs else sdp.sessionId

def rtcSdpGenerate (inet : InetText) (sdp : Sdp) (nowMs : Nat) : Except RtcErr Sdp := do
  let sdp := { sdp with sessionId := sdpSessionId sdp nowMs }
  let raw ← (sdpPieces inet sdp).foldlM sdpWritef []
  return { sdp with raw := raw, iceOptionsTrickle := true }

end Mrtc
