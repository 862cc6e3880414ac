import Mrtc.Ice.Checks
import Mrtc.Sdp.Candidates

/-! # Candidates and the start of a connection (`rtc_peer.c`, `rtc_transport.c`)

The description that completes the pair starts ICE, and the candidates of the other side come in
with its description or on their own, before or after that.
-/

namespace Mrtc

open Net CText IceTransport

/-! ## The source -/

def zeroAddr : RtcAddr := { family := .other, ip := [], port := 0 }

/-- `tx_add_candidate_impl` on the candidate that is held: the address is cleared before the text is
read, and stays valid if it was. -/
def txAddCandidateImpl (inet : InetText) (held : Option RtcAddr) (address : Bytes) (port : Nat) :
    Except RtcErr Unit × Option RtcAddr :=
  match rtcAddrFromString inet address port with
  | .ok addr => (.ok (), some addr)
  | .error e => (.error e, held.map fun _ => zeroAddr)

def rtcTransportAddRemoteCandidate (inet : InetText) (held : Option RtcAddr) (address : Bytes)
    (port : Nat) : Except RtcErr Unit × Option RtcAddr :=
  if address = [] ∨ port = 0 then (.error .invalid, held)
  else txAddCandidateImpl inet held address port

def rtcTransportCandidateFromIce (inet : InetText) (c : IceCandidate) :
    Except RtcErr (Bytes × Nat) :=
  match rtcAddrToString inet c.addr with
  | .error e => .error e
  | .ok text =>
    match c.relatedAddr with
    | none => .ok text
    | some related =>
      match rtcAddrToString inet related with
      | .error e => .error e
      | .ok _ => .ok text

def peerRuntimeAddRemoteCandidate (inet : InetText) (held : Option RtcAddr) (c : IceCandidate) :
    Except RtcErr Unit × Option RtcAddr :=
  match rtcTransportCandidateFromIce inet c with
  | .error e => (.error e, held)
  | .ok (address, port) => rtcTransportAddRemoteCandidate inet held address port

structure TricklePeer where
  sig : SignalingPeer
  transport : IceTransport
  deriving DecidableEq

open TricklePeer

inductive DescCall where
  | setLocal (desc : RtcDesc)
  | setRemote (type : SdpType) (sdp : Sdp)
  deriving DecidableEq

def DescCall.signal (sig : SignalingPeer) : DescCall → Except RtcErr Unit × SignalingPeer
  | .setLocal desc => rtcPeerConnectionSetLocalDesc sig desc
  | .setRemote type sdp => rtcPeerConnectionSetRemoteDesc sig ⟨type, sdp.setup⟩

def DescCall.candidates : DescCall → List IceCandidate
  | .setLocal _ => []
  | .setRemote _ sdp => sdp.candidates

def DescCall.held (inet : InetText) (call : DescCall) (held : Option RtcAddr) : Option RtcAddr :=
  call.candidates.foldl (fun held c => (peerRuntimeAddRemoteCandidate inet held c).2) held

def DescCall.tell (inet : InetText) (t : IceTransport) (call : DescCall) : IceTransport :=
  match call with
  | .setLocal _ => t
  | .setRemote _ sdp =>
    { t.step (.setRemoteIce 0 sdp.iceUfrag sdp.icePwd) with
      remoteCandidate := call.held inet t.remoteCandidate }

structure DescResult where
  rc : Except RtcErr Unit
  check : Option IceCheck
  peer : TricklePeer

def TricklePeer.describe (inet : InetText) (p : TricklePeer) (call : DescCall) (txn : Bytes)
    (fault : IceFault) : DescResult :=
  let r := call.signal p.sig
  if p.sig.connectStarted then ⟨r.1, none, p⟩
  else
    let t := call.tell inet p.transport
    if r.2.connectStarted then
      ⟨r.1, t.check 0 (.startIce 0 txn fault), ⟨r.2, t.step (.startIce 0 txn fault)⟩⟩
    else ⟨r.1, none, ⟨r.2, t⟩⟩

def TricklePeer.addIceCandidate (inet : InetText) (p : TricklePeer) (line : Bytes) :
    Except RtcErr Unit × TricklePeer :=
  if cstr line = [] then (.ok (), p)
  else
    match rtcSdpParseCandidateLine inet (cstr line) with
    | .error e => (.error e, p)
    | .ok c =>
      let r := peerRuntimeAddRemoteCandidate inet p.transport.remoteCandidate c
      (r.1, { p with transport := { p.transport with remoteCandidate := r.2 } })

/-! ## Both orders -/

structure IceTransport.Unstarted (t : IceTransport) : Prop where
  mode : t.mode = .full
  selected : t.selected = none
  closed : t.closed = false
  timer : t.timer = false
  checkCount : t.checkCount = 0

section Orders

variable {inet : InetText} {t : IceTransport}

theorem IceTransport.Unstarted.start (h : t.Unstarted) (hice : t.remoteIce ≠ none) (txn : Bytes)
    (fault : IceFault) :
    t.check 0 (.startIce 0 txn fault) = t.remoteCandidate.map (⟨0, ·, txn, fault⟩)
      ∧ (t.step (.startIce 0 txn fault)).timer
        = (t.remoteCandidate.isSome && fault.route && fault.send && fault.timer)
      ∧ (t.step (.startIce 0 txn fault)).selected = none
      ∧ (t.step (.startIce 0 txn fault)).closed = false
      ∧ (t.step (.startIce 0 txn fault)).checkCount < 120
      ∧ (t.step (.startIce 0 txn fault)).remoteIce ≠ none
      ∧ (t.step (.startIce 0 txn fault)).remoteCandidate = t.remoteCandidate := by
  have hguard : ¬(t.mode ≠ .full ∨ t.selected.isSome = true) := by simp [h.mode, h.selected]
  have hpresent : t.remoteIce.isNone = false := by
    rw [Bool.eq_false_iff, ne_eq, Option.isNone_iff_eq_none]
    exact hice
  rw [check, step, if_neg hguard, if_neg hguard, checkNow,
    if_neg (by simp [hpresent])]
  refine ⟨rfl, ?_⟩
  unfold sendCheck
  cases hcandidate : t.remoteCandidate with
  | none => simp [h.timer, h.selected, h.closed, h.checkCount, hice, hcandidate]
  | some target =>
    -- the timer is armed only after the check was sent
    obtain ⟨route, timer, send⟩ := fault
    cases route with
    | false => simp [hpresent, h.timer, h.selected, h.closed, h.checkCount, hice]
    | true =>
      cases send with
      | false => simp [hpresent, h.timer, h.selected, h.closed, h.checkCount, hice]
      | true =>
        simp [hpresent, transportArmIceTimer, h.timer, h.selected, h.closed, h.checkCount, hice]

def TricklePeer.hold (p : TricklePeer) (addr : RtcAddr) : TricklePeer :=
  { p with transport := { p.transport with remoteCandidate := some addr } }

end Orders

def hostLine : Bytes := ascii "candidate:1 1 udp 2130706431 192.168.0.7 50000 typ host"

def offerer : TricklePeer where
  sig := { signaling := .haveLocalOffer, localDesc := some offerDesc }
  transport := { mode := .full, ufrag := ascii "a1B2", pwd := ascii "q0123456789abcdefghijk" }

def answerer : TricklePeer where
  sig :=
    { localSdp := .answer
      signaling := .haveRemoteOffer
      remoteDesc := some offerDesc }
  transport :=
    { mode := .full
      ufrag := ascii "a1B2"
      pwd := ascii "q0123456789abcdefghijk"
      remoteIce := some (ascii "u7Kq", ascii "p0123456789abcdefghijk")
      remoteCandidate := some reflexiveCandidate.addr }

structure TransportCandidate where
  address : Bytes
  port : Nat
  protocol : Bytes := ascii "udp"
  deriving DecidableEq

def IceTransport.addRemoteCandidate (inet : InetText) (t : IceTransport) (c : TransportCandidate) :
    Except RtcErr Unit × IceTransport :=
  if c.address = [] ∨ c.port = 0 then (.error .invalid, t)
  else if c.protocol ≠ ascii "udp" then (.error .invalid, t)
  else
    let r := txAddCandidateImpl inet t.remoteCandidate c.address c.port
    (r.1, { t with remoteCandidate := r.2 })

/-- **A candidate that is refused is harmless just if it is refused before its address is read.** -/
theorem refused_candidate_kept_iff {inet : InetText} {t : IceTransport} {c : TransportCandidate}
    {e : RtcErr} (herr : (t.addRemoteCandidate inet c).1 = .error e) :
    (t.addRemoteCandidate inet c).2.remoteCandidate = t.remoteCandidate
      ↔ c.address = [] ∨ c.port = 0 ∨ c.protocol ≠ ascii "udp"
        ∨ t.remoteCandidate = none ∨ t.remoteCandidate = some zeroAddr := by
  unfold addRemoteCandidate at herr ⊢
  by_cases hempty : c.address = [] ∨ c.port = 0
  · rw [if_pos hempty]
    exact ⟨fun _ => or_assoc.mp (.inl hempty), fun _ => rfl⟩
  by_cases hprotocol : c.protocol ≠ ascii "udp"
  · grind
  rw [if_neg hempty, if_neg hprotocol] at herr ⊢
  have hheld : (txAddCandidateImpl inet t.remoteCandidate c.address c.port).2
      = t.remoteCandidate.map fun _ => zeroAddr := by grind [txAddCandidateImpl]
  rw [not_or] at hempty
  simp only [hheld, hempty.1, hempty.2, hprotocol, false_or]
  cases t.remoteCandidate with
  | none => simp
  | some addr => simp [eq_comm]

theorem tcpCandidate_harmless :
    ((answerer.transport.addRemoteCandidate dottedQuad
        { address := ascii "192.168.0.7", port := 50000, protocol := ascii "tcp" }).2).remoteCandidate
      = some reflexiveCandidate.addr :=
  (refused_candidate_kept_iff rfl).mpr (.inr (.inr (.inl (by decide))))

/-- A host that hides its address behind a name: the candidate is refused, and the checks go to no
address any more instead of to the one that was held. -/
theorem namedCandidate_clears_held :
    let r := answerer.transport.addRemoteCandidate dottedQuad
      { address := ascii "4f3a.local", port := 50000 }
    r.1 = .error .invalid ∧ answerer.transport.remoteCandidate = some reflexiveCandidate.addr
      ∧ r.2.remoteCandidate = some zeroAddr
      ∧ (r.2.check 0 (.startIce 0 (txnOf 0) {})).map IceCheck.target = some zeroAddr := by
  decide +kernel

end Mrtc
