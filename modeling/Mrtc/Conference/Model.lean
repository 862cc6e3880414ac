import Mrtc.Media.Pipeline

/-! # Conferences (`conference.c`)

A conference has up to eight peers, in an array with a count and in a map from their ids, and a peer
connection for each of them.
-/

namespace Mrtc

def confMaxPeers : Nat := 8
def confLabelSize : Nat := 64

structure ConfPeer where
  peerId : CString
  pc : Option Nat := none
  recvVideo : Option Nat := none
  recvAudio : Option Nat := none
  active : Bool := true
  deriving DecidableEq

structure ConfConnection where
  user : Nat
  closes : Nat := 0
  destroys : Nat := 0
  deriving DecidableEq

structure Conference where
  peers : List ConfPeer := []
  peerIndex : StrMap Nat := strMapInit false
  pipeline : MediaPipeline := {}
  connections : List ConfConnection := []

def findPeer (c : Conference) (peerId : CString) : Option (Option Nat) :=
  rtcStrMapGet c.peerIndex peerId

def allocPeer (c : Conference) (peerId : CString) (alloc : StrAlloc) :
    Option (Option Nat × Conference) :=
  match findPeer c peerId with
  | none => none
  | some (some i) => some (some i, c)
  | some none =>
    if confMaxPeers ≤ c.peers.length then some (none, c)
    else
      let p : ConfPeer := { peerId := peerId.take (confLabelSize - 1) }
      match rtcStrMapSet c.peerIndex p.peerId (some c.peers.length) alloc with
      | none => none
      | some (.error _, index) => some (none, { c with peerIndex := index })
      | some (.ok _, index) =>
        some (some c.peers.length, { c with peerIndex := index, peers := c.peers ++ [p] })

def releaseConnection (connections : List ConfConnection) : Option Nat → List ConfConnection
  | none => connections
  | some k =>
    connections.modify k fun pc =>
      { pc with closes := pc.closes + 1, destroys := pc.destroys + 1 }

def destroyPeer (c : Conference) (i : Nat) (alloc : StrAlloc) : Option Conference :=
  match c.peers[i]? with
  | none => some c
  | some p =>
    if !p.active then some c
    else
      (rtcStrMapRemove c.peerIndex p.peerId alloc).map fun r =>
        { peers := c.peers.set i { p with active := false }
          peerIndex := r.2
          pipeline :=
            mediaPipelineRemovePeer (mediaPipelineRemoveSendPeer c.pipeline p.peerId) p.peerId
          connections := releaseConnection c.connections p.pc }

def createPc (c : Conference) (i : Nat) (created : Bool) : Conference :=
  if !created then c
  else
    { c with
      connections := c.connections ++ [{ user := i }]
      peers := c.peers.modify i fun p => { p with pc := some c.connections.length } }

def offerToPeer (c : Conference) (i : Nat) (created : Bool) : Conference := createPc c i created

def handleOffer (c : Conference) (peerId : CString) (alloc : StrAlloc) (created : Bool) :
    Option Conference :=
  match findPeer c peerId with
  | none => none
  | some (some i) => some (createPc c i created)
  | some none =>
    match allocPeer c peerId alloc with
    | none => none
    | some (none, c) => some c
    | some (some i, c) => some (createPc c i created)

def handleAnswer (c : Conference) (peerId : CString) : Option (Option Nat) :=
  (findPeer c peerId).map fun found => (found.bind fun i => c.peers[i]?).bind ConfPeer.pc

def offerToListed (c : Conference) (peerId : CString) (alloc : StrAlloc) (created : Bool) :
    Option Conference :=
  match allocPeer c peerId alloc with
  | none => none
  | some (none, c) => some c
  | some (some i, c) => some (offerToPeer c i created)

def sigOnPeerLeft (c : Conference) (peerId : CString) (alloc : StrAlloc) : Option Conference :=
  match findPeer c peerId with
  | none => none
  | some none => some c
  | some (some i) => destroyPeer c i alloc

def onConnState (c : Conference) (i : Nat) : Conference :=
  match c.peers[i]? with
  | none => c
  | some p => { c with pipeline := (mediaPipelineAddSendPeer c.pipeline p.peerId).2 }

def cameraLabel : CString := ⟨CText.ascii "camera", by decide⟩
def micLabel : CString := ⟨CText.ascii "mic", by decide⟩

def onRecvRtp (c : Conference) (i : Nat) (isVideo : Bool) (ssrc : UInt32) (decoder : Bool) :
    Conference :=
  match c.peers[i]? with
  | none => c
  | some p =>
    if (if isVideo then p.recvVideo else p.recvAudio).isSome then c
    else
      let r := mediaPipelineAddRecvStream c.pipeline p.peerId
        (if isVideo then cameraLabel else micLabel) ssrc isVideo decoder
      { c with
        pipeline := r.2
        peers := c.peers.set i
          (if isVideo then { p with recvVideo := r.1 } else { p with recvAudio := r.1 }) }

def destroyPeers (c : Conference) (alloc : Nat → StrAlloc) : Option Conference :=
  (List.range c.peers.length).foldlM (fun c i => destroyPeer c i (alloc i)) c

def conferenceLeave (c : Conference) (alloc : Nat → StrAlloc) : Option Conference :=
  destroyPeers c alloc

def conferenceDestroy (c : Conference) (alloc : Nat → StrAlloc) : Option Conference :=
  destroyPeers c alloc

/-! ## Runs -/

inductive ConfEvent where
  | listed (peerId : CString) (alloc : StrAlloc) (created : Bool)
  | offer (peerId : CString) (alloc : StrAlloc) (created : Bool)
  | answer (peerId : CString)
  | peerLeft (peerId : CString) (alloc : StrAlloc)
  | leave (alloc : Nat → StrAlloc)
  | connected (k : Nat)
  | rtp (k : Nat) (isVideo : Bool) (ssrc : UInt32) (decoder : Bool)

def Conference.callback (c : Conference) (k : Nat) (f : Conference → Nat → Conference) :
    Conference :=
  match c.connections[k]? with
  | none => c
  | some pc => if pc.destroys = 0 then f c pc.user else c

def confStep (c : Conference) : ConfEvent → Option Conference
  | .listed peerId alloc created => offerToListed c peerId alloc created
  | .offer peerId alloc created => handleOffer c peerId alloc created
  | .answer peerId => (handleAnswer c peerId).map fun _ => c
  | .peerLeft peerId alloc => sigOnPeerLeft c peerId alloc
  | .leave alloc => conferenceLeave c alloc
  | .connected k => some (c.callback k onConnState)
  | .rtp k isVideo ssrc decoder =>
    some (c.callback k fun c i => onRecvRtp c i isVideo ssrc decoder)

end Mrtc
