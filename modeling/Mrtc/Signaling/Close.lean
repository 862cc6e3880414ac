import Mrtc.DataChannel.Peer
import Mrtc.Sdp.Parse

/-! # Calls after `rtc_peer_connection_close` (`rtc_peer.c`)

A peer connection holds a runtime and a transport.
-/

namespace Mrtc

open Net CText

structure PeerConnection where
  sig : SignalingPeer := {}
  data : DcPeer := {}
  connection : ConnectionState := .new
  runtime : Bool := true
  transport : Bool := true

structure PeerResult where
  rc : Except RtcErr Unit
  channel : Option Nat := none
  pc : PeerConnection

def peerCreate (pc : PeerConnection)
    (create : SignalingPeer → Except RtcErr RtcDesc × SignalingPeer) : Option PeerResult :=
  if pc.runtime then
    some { rc := (create pc.sig).1.map fun _ => (), pc := { pc with sig := (create pc.sig).2 } }
  else none

/-- The rest of `peer_try_connect`, which goes on if it has set `connect_started`: ICE is started,
and a timer is set on the worker of the runtime. -/
def peerStartConnect (pc : PeerConnection) (sig : SignalingPeer) (iceStarts : Bool) :
    Option PeerConnection :=
  if sig.connectStarted && !pc.sig.connectStarted then
    if !iceStarts then some { pc with sig := sig, connection := .failed }
    else if pc.runtime then some { pc with sig := sig, connection := .connecting }
    else none
  else some { pc with sig := sig }

def peerSetLocalDesc (pc : PeerConnection) (desc : RtcDesc) (iceStarts : Bool) :
    Option PeerResult :=
  let r := rtcPeerConnectionSetLocalDesc pc.sig desc
  if pc.sig.connectStarted then some { rc := r.1, pc := pc }
  else if !pc.runtime then none
  else (peerStartConnect pc r.2 iceStarts).map fun pc => { rc := r.1, pc := pc }

def peerSetRemoteDesc (pc : PeerConnection) (desc : RtcDesc) (iceStarts : Bool) :
    Option PeerResult :=
  let r := rtcPeerConnectionSetRemoteDesc pc.sig desc
  let role := if pc.transport then r.2.role else pc.sig.role
  (peerStartConnect pc { r.2 with role := role } iceStarts).map fun pc => { rc := r.1, pc := pc }

def rtcPeerConnectionAddIceCandidate (inet : InetText) (pc : PeerConnection) (cand : Bytes)
    (added : Except RtcErr Unit) : Except RtcErr Unit :=
  if cstr cand = [] then .ok ()
  else
    match rtcSdpParseCandidateLine inet (cstr cand) with
    | .error e => .error e
    | .ok _ => if !pc.transport then .error .invalid else added

def rtcPeerConnectionRestartIce (pc : PeerConnection) (restarted : Except RtcErr Unit) :
    Except RtcErr Unit :=
  if pc.sig.connectStarted then .error .invalid
  else if !pc.transport then .error .invalid
  else restarted

def peerCreateDataChannel (pc : PeerConnection) (alloc : DcAlloc) (label : Bytes)
    (id : Option Nat) : Option PeerResult :=
  (rtcDcManagerCreateChannel pc.data.manager (pc.transport && pc.data.runtimeConnected) alloc label
    id).map fun r =>
      { rc := .ok (), channel := r.1, pc := { pc with data := { pc.data with dc := r.2.1 } } }

def rtcDcManagerClose (mgr : DcManager) : Option DcManager :=
  (mgr.channels.iterate (mgr.channels.cap + 1) 0).map fun entries =>
    { entries.foldl (fun mgr entry => entry.2.elim mgr fun dc => mgr.setState dc .closed) mgr with
      channels := {}
      dtlsConnected := false }

def rtcPeerConnectionClose (pc : PeerConnection) : Option PeerConnection :=
  if pc.connection = .closed then some pc
  else
    (rtcDcManagerClose pc.data.dc).map fun dc =>
      { sig := { pc.sig with signaling := .closed }
        data := { pc.data with dc := dc }
        connection := .closed
        runtime := false
        transport := false }

inductive PeerOp where
  | createOffer (fits : Bool)
  | createAnswer (fits : Bool)
  | setLocal (desc : RtcDesc) (iceStarts : Bool)
  | setRemote (desc : RtcDesc) (iceStarts : Bool)
  | addIceCandidate (cand : Bytes) (added : Except RtcErr Unit)
  | createDataChannel (alloc : DcAlloc) (label : Bytes) (id : Option Nat)
  | restartIce (restarted : Except RtcErr Unit)
  | close

def peerStep (inet : InetText) (pc : PeerConnection) : PeerOp → Option PeerResult
  | .createOffer fits => peerCreate pc fun sig => rtcPeerConnectionCreateOffer sig fits
  | .createAnswer fits => peerCreate pc fun sig => rtcPeerConnectionCreateAnswer sig fits
  | .setLocal desc iceStarts => peerSetLocalDesc pc desc iceStarts
  | .setRemote desc iceStarts => peerSetRemoteDesc pc desc iceStarts
  | .addIceCandidate cand added =>
    some { rc := rtcPeerConnectionAddIceCandidate inet pc cand added, pc := pc }
  | .createDataChannel alloc label id => peerCreateDataChannel pc alloc label id
  | .restartIce restarted => some { rc := rtcPeerConnectionRestartIce pc restarted, pc := pc }
  | .close => (rtcPeerConnectionClose pc).map fun pc => { rc := .ok (), pc := pc }

def LeavesClosed (r : Option PeerResult) : Prop :=
  ∃ result, r = some result ∧ result.channel = none ∧ result.pc.sig.signaling = .closed
    ∧ result.pc.connection = .closed

def StaysClosed (inet : InetText) (pc : PeerConnection) : List PeerOp → Prop
  | [] => True
  | op :: ops => LeavesClosed (peerStep inet pc op)
      ∧ ∀ r, peerStep inet pc op = some r → StaysClosed inet r.pc ops

def PeerOp.Harmless (started : Bool) : PeerOp → Prop
  | .createOffer _ | .createAnswer _ => False
  | .setLocal _ _ => started = true
  | .setRemote desc _ => started = true ∨ desc.type ≠ .offer
  | .createDataChannel alloc _ _ => alloc.channel = false ∨ alloc.map = false
  | .addIceCandidate _ _ | .restartIce _ | .close => True

/-! ## Closed connections -/

structure PeerConnection.Closed (pc : PeerConnection) (started : Bool) : Prop where
  signaling : pc.sig.signaling = .closed
  connection : pc.connection = .closed
  runtime : pc.runtime = false
  transport : pc.transport = false
  started : pc.sig.connectStarted = started
  channels : pc.data.dc.channels = {}

theorem rtcDcManagerClose_channels (mgr : DcManager) :
    ∃ mgr', rtcDcManagerClose mgr = some mgr' ∧ mgr'.channels = {} := by
  rw [rtcDcManagerClose, HashTable.iterate_from _ _ 0 (by omega), Option.map_some]
  exact ⟨_, rfl, rfl⟩

theorem rtcPeerConnectionClose_closed {pc : PeerConnection} (hopen : pc.connection ≠ .closed) :
    ∃ pc', rtcPeerConnectionClose pc = some pc' ∧ pc'.Closed pc.sig.connectStarted := by
  obtain ⟨mgr, hclose, hchannels⟩ := rtcDcManagerClose_channels pc.data.dc
  rw [rtcPeerConnectionClose, if_neg hopen, hclose, Option.map_some]
  exact ⟨_, rfl, rfl, rfl, rfl, rfl, rfl, hchannels⟩

theorem dcRegister_freed (mgr : DcManager) (hfreed : mgr.channels = {}) (alloc : DcAlloc)
    (c : DataChannel) :
    ∃ dc mgr', dcRegister mgr alloc c = some (dc, mgr') ∧ (dc = none ↔ alloc.map = false)
      ∧ (dc = none → mgr'.channels = {}) := by
  cases halloc : alloc.map with
  | false =>
    refine ⟨none, { mgr with channels := {} }, ?_, by simp, fun _ => rfl⟩
    rw [dcRegister, hfreed, halloc]
    rfl
  | true =>
    have hsound : U32Map.Represents ({} : U32Map Nat) {} :=
      HashTable.sound_empty u32Hash u32MapEntrySize
    obtain ⟨rc, m, S, hset, hstep, -⟩ :=
      hsound.set (UInt32.ofNat c.id) (some mgr.objects.length) true
    rw [dcRegister, hfreed, halloc, hset]
    cases hstep with
    | set => exact ⟨_, _, rfl, by simp, fun hnone => absurd hnone (Option.some_ne_none _)⟩
    -- this takes an allocation that fails
    | refused _ _ _ hfails => simp at hfails

theorem rtcDcManagerCreateChannel_freed {mgr : DcManager} (hfreed : mgr.channels = {})
    (gate : Bool) (alloc : DcAlloc) (label : Bytes) (id : Option Nat) :
    ∃ dc mgr' out, rtcDcManagerCreateChannel mgr gate alloc label id = some (dc, mgr', out)
      ∧ (dc = none ↔ alloc.channel = false ∨ alloc.map = false)
      ∧ (dc = none → mgr'.channels = {}) := by
  have hlen : ¬dcMaxChannels ≤ rtcU32MapLen mgr.channels := by
    rw [hfreed]
    decide
  rw [rtcDcManagerCreateChannel, if_neg hlen]
  cases hchannel : alloc.channel with
  | false => exact ⟨none, mgr, [], rfl, by simp, fun _ => hfreed⟩
  | true =>
    obtain ⟨dc, mgr', hregister, hnone, hkept⟩ :=
      dcRegister_freed { mgr with nextId := (dcTakeId mgr id).2 } hfreed alloc
        ⟨label.take (dcMaxLabel - 1), (dcTakeId mgr id).1, .connecting, true⟩
    dsimp only
    rw [Bool.not_true, if_neg Bool.false_ne_true, hregister]
    cases dc with
    | none => exact ⟨none, mgr', [], rfl, by simpa using hnone, hkept⟩
    | some dc => exact ⟨some dc, mgr', _, rfl, by simpa using hnone, nofun⟩

theorem DcPeer.manager_channels {p : DcPeer} (hfreed : p.dc.channels = {}) :
    p.manager.channels = {} := by
  rw [DcPeer.manager]
  split
  · rfl
  · exact hfreed

theorem rtcPeerConnectionSetRemoteDesc_closed {sig : SignalingPeer}
    (hclosed : sig.signaling = .closed) (hstarted : sig.connectStarted = false) (desc : RtcDesc) :
    rtcPeerConnectionSetRemoteDesc sig desc
      = (.ok (), { sig with
        remoteDesc := some desc
        role := rtcTransportSetDtlsRole sig (peerRuntimeSetRemoteDesc sig.localSdp desc.setup)
        signaling := if desc.type = .offer then .haveRemoteOffer else .closed }) := by
  have hnext : nextSignaling .haveRemoteOffer .haveLocalOffer desc.type sig.signaling
      = if desc.type = .offer then .haveRemoteOffer else .closed := by
    rw [hclosed]
    cases desc.type <;> rfl
  rw [rtcPeerConnectionSetRemoteDesc, if_neg (by simp [hstarted]), hnext, peerTryConnect_stays]
  dsimp only
  split <;> nofun

namespace PeerConnection.Closed

variable {pc : PeerConnection} {started : Bool} (inet : InetText)

section

variable (h : pc.Closed started)
include h

theorem setRemoteDesc (desc : RtcDesc) (iceStarts : Bool) :
    ∃ rc sig, peerSetRemoteDesc pc desc iceStarts = some { rc := rc, pc := { pc with sig := sig } }
      ∧ sig.connectStarted = started
      ∧ (sig.signaling = .closed ↔ started = true ∨ desc.type ≠ .offer) := by
  have hstarted := h.started
  cases started with
  | true =>
    have hrefused : rtcPeerConnectionSetRemoteDesc pc.sig desc = (.error .invalid, pc.sig) := by
      rw [rtcPeerConnectionSetRemoteDesc, if_pos hstarted]
    refine ⟨.error .invalid, pc.sig, ?_, hstarted, iff_of_true h.signaling (.inl rfl)⟩
    rw [peerSetRemoteDesc, hrefused]
    dsimp only
    rw [ite_self, peerStartConnect, if_neg (by simp [hstarted]), Option.map_some]
  | false =>
    have hstep : peerSetRemoteDesc pc desc iceStarts = some
        { rc := .ok ()
          pc := { pc with sig := { pc.sig with
            remoteDesc := some desc
            signaling := if desc.type = .offer then .haveRemoteOffer else .closed } } } := by
      have hno : ¬pc.transport = true := by simp [h.transport]
      rw [peerSetRemoteDesc, rtcPeerConnectionSetRemoteDesc_closed h.signaling hstarted, if_neg hno]
      dsimp only
      rw [peerStartConnect, if_neg (by simp [hstarted]), Option.map_some]
    refine ⟨_, _, hstep, hstarted, ?_⟩
    dsimp only
    split <;> simp_all

theorem step {op : PeerOp} (hop : op.Harmless started) :
    ∃ r, peerStep inet pc op = some r ∧ r.channel = none ∧ r.pc.Closed started := by
  cases op with
  | createOffer fits => exact hop.elim
  | createAnswer fits => exact hop.elim
  | setLocal desc iceStarts =>
    have hstep : peerSetLocalDesc pc desc iceStarts
        = some { rc := (rtcPeerConnectionSetLocalDesc pc.sig desc).1, pc := pc } :=
      if_pos (h.started.trans hop)
    exact ⟨_, hstep, rfl, h⟩
  | setRemote desc iceStarts =>
    obtain ⟨rc, sig, hstep, hstarted, hclosed⟩ := h.setRemoteDesc desc iceStarts
    exact ⟨_, hstep, rfl, hclosed.mpr hop, h.connection, h.runtime, h.transport, hstarted,
      h.channels⟩
  | addIceCandidate cand added => exact ⟨_, rfl, rfl, h⟩
  | createDataChannel alloc label id =>
    obtain ⟨dc, mgr', out, hcreate, hnone, hkept⟩ := rtcDcManagerCreateChannel_freed
      (DcPeer.manager_channels h.channels) (pc.transport && pc.data.runtimeConnected) alloc label id
    have hdc : dc = none := hnone.mpr hop
    have hstep := congrArg (Option.map fun r : Option Nat × DcManager × List DcPacket =>
      ({ rc := .ok (), channel := r.1, pc := { pc with data := { pc.data with dc := r.2.1 } } }
        : PeerResult)) hcreate
    exact ⟨_, hstep, hdc, h.signaling, h.connection, h.runtime, h.transport, h.started, hkept hdc⟩
  | restartIce restarted => exact ⟨_, rfl, rfl, h⟩
  | close =>
    refine ⟨{ rc := .ok (), pc := pc }, ?_, rfl, h⟩
    rw [peerStep, rtcPeerConnectionClose, if_pos h.connection, Option.map_some]

theorem create_none (create : SignalingPeer → Except RtcErr RtcDesc × SignalingPeer) :
    peerCreate pc create = none :=
  if_neg (by simp [h.runtime])

theorem step_of_not_harmless {op : PeerOp} (hop : ¬op.Harmless started) :
    ¬LeavesClosed (peerStep inet pc op) := by
  rintro ⟨r, hstep, hchannel, hsignaling, -⟩
  cases op with
  | createOffer fits =>
    rw [peerStep, h.create_none] at hstep
    cases hstep
  | createAnswer fits =>
    rw [peerStep, h.create_none] at hstep
    cases hstep
  | setLocal desc iceStarts =>
    -- the candidates are repeated from the listener of a runtime that is `NULL`
    have hnot : ¬pc.sig.connectStarted = true := fun heq => hop (h.started.symm.trans heq)
    rw [peerStep, peerSetLocalDesc, if_neg hnot, if_pos (by simp [h.runtime])] at hstep
    cases hstep
  | setRemote desc iceStarts =>
    obtain ⟨rc, sig, hset, -, hclosed⟩ := h.setRemoteDesc desc iceStarts
    rw [peerStep, hset] at hstep
    obtain rfl := Option.some.inj hstep
    exact hop (hclosed.mp hsignaling)
  | addIceCandidate cand added => exact hop trivial
  | createDataChannel alloc label id =>
    obtain ⟨dc, mgr', out, hcreate, hnone, -⟩ := rtcDcManagerCreateChannel_freed
      (DcPeer.manager_channels h.channels) (pc.transport && pc.data.runtimeConnected) alloc label id
    rw [peerStep, peerCreateDataChannel, hcreate] at hstep
    obtain rfl := Option.some.inj hstep
    exact hop (hnone.mp hchannel)
  | restartIce restarted => exact hop trivial
  | close => exact hop trivial

theorem stays_iff (ops : List PeerOp) :
    StaysClosed inet pc ops ↔ ∀ op ∈ ops, op.Harmless started := by
  -- a harmless call leads to another closed connection; the first one that is not ends it
  induction ops generalizing pc with
  | nil => simp [StaysClosed]
  | cons op ops ih =>
    rw [StaysClosed, List.forall_mem_cons]
    by_cases hop : op.Harmless started
    · obtain ⟨r, hstep, hchannel, hclosed⟩ := h.step inet hop
      have hleaves : LeavesClosed (peerStep inet pc op) :=
        ⟨r, hstep, hchannel, hclosed.signaling, hclosed.connection⟩
      have hrest : (∀ r', peerStep inet pc op = some r' → StaysClosed inet r'.pc ops)
          ↔ StaysClosed inet r.pc ops := by grind
      rw [hrest, ih hclosed]
      exact and_congr (iff_of_true hleaves hop) Iff.rfl
    · exact iff_of_false (fun hall => h.step_of_not_harmless inet hop hall.1)
        fun hall => hop hall.1

end

end PeerConnection.Closed

/-- **After close.** -/
theorem closed_stays_iff (inet : InetText) (pc : PeerConnection) (hopen : pc.connection ≠ .closed)
    (ops : List PeerOp) :
    ∃ pc', rtcPeerConnectionClose pc = some pc'
      ∧ (StaysClosed inet pc' ops ↔ ∀ op ∈ ops, op.Harmless pc.sig.connectStarted) := by
  obtain ⟨pc', hclose, hclosed⟩ := rtcPeerConnectionClose_closed hopen
  exact ⟨pc', hclose, hclosed.stays_iff inet ops⟩

def noAddresses : InetText where
  ntop _ _ := []
  pton _ _ := none
  ntop_plain _ _ := by simp [CText.Plain]

theorem fresh_closed_stays :
    ∃ pc', rtcPeerConnectionClose {} = some pc'
      ∧ (StaysClosed noAddresses pc' [.setRemote answerDesc true, .restartIce (.ok ()), .close]
        ↔ ∀ op ∈ [PeerOp.setRemote answerDesc true, .restartIce (.ok ()), .close],
          op.Harmless false) :=
  closed_stays_iff noAddresses {} nofun _

/-- A connection is created and closed. -/
theorem fresh_closed_not_terminal :
    ∃ pc, rtcPeerConnectionClose {} = some pc ∧ pc.sig.signaling = .closed
      ∧ peerStep noAddresses pc (.createOffer true) = none
      ∧ peerStep noAddresses pc (.setLocal offerDesc true) = none
      ∧ (peerStep noAddresses pc (.setRemote offerDesc true)).map (fun r => r.pc.sig.signaling)
        = some .haveRemoteOffer
      ∧ (peerStep noAddresses pc (.createDataChannel {} [] none)).map (fun r => r.channel)
        = some (some 0) :=
  ⟨_, rfl, rfl, rfl, rfl, rfl, by decide⟩

end Mrtc
