import Mrtc.Signaling.Message

/-! # Meetings (`meeting.c`)

The signaling server keeps its meetings in an array, and a map from their names to their places in
it.
-/

namespace Mrtc

open Net CText

def meetingMaxPeers : Nat := 8
def meetingMaxName : Nat := 64
def meetingMaxRooms : Nat := 32
def meetingPeerIdLen : Nat := 16

abbrev PeerId : Type := { id : CString // id.val.length < meetingPeerIdLen }

theorem PeerId.take (id : PeerId) : id.val.take (sigMaxPeerId - 1) = id.val :=
  CString.take_of_le (Nat.le_pred_of_lt id.property)

structure MeetingPeer where
  id : PeerId
  meetingIdx : Option Nat := none
  freed : Bool := false
  deriving DecidableEq

structure Meeting where
  name : CString := CString.empty
  peers : List Nat := []
  active : Bool := false
  deriving DecidableEq

structure MeetingManager (σ : Type) where
  meetings : List Meeting := List.replicate meetingMaxRooms {}
  meetingCount : Int := 0
  nameIndex : StrMap Nat := strMapInit false
  peers : List MeetingPeer
  world : σ

section

variable {σ : Type} (send : Nat → Json → σ → σ)

def meetingManagerInit (ids : List PeerId) (world : σ) : MeetingManager σ :=
  { peers := ids.map fun id => { id := id }, world := world }

def broadcastToMeeting (peers : List Nat) (json : Json) (exclude : Option Nat) (world : σ) : σ :=
  peers.foldl (fun world p => if some p ≠ exclude then send p json world else world) world

def swapRemove (peers : List Nat) (p : Nat) : List Nat :=
  match peers.idxOf? p, peers.getLast? with
  | some i, some last => (peers.set i last).dropLast
  | _, _ => peers

def removePeerFromMeeting (mgr : MeetingManager σ) (idx : Nat) (m : Meeting) (p : Nat)
    (peer : MeetingPeer) : MeetingManager σ :=
  if p ∈ m.peers then
    { mgr with
      meetings := mgr.meetings.set idx { m with peers := swapRemove m.peers p }
      peers := mgr.peers.set p { peer with meetingIdx := none } }
  else mgr

def maybeDestroyMeeting (mgr : MeetingManager σ) (idx : Nat) (alloc : StrAlloc) :
    Option (MeetingManager σ) :=
  match mgr.meetings[idx]? with
  | none => none
  | some m =>
    if m.peers = [] then
      (rtcStrMapRemove mgr.nameIndex m.name alloc).map fun r =>
        { mgr with
          nameIndex := r.2
          meetings := mgr.meetings.set idx { m with active := false }
          meetingCount := mgr.meetingCount - 1 }
    else some mgr

def notifyLeft (mgr : MeetingManager σ) (idx : Nat) (peer : MeetingPeer) : MeetingManager σ :=
  match mgr.meetings[idx]? with
  | none => mgr
  | some m =>
    { mgr with
      world := broadcastToMeeting send m.peers (sigMsgBuildPeerLeft peer.id) none mgr.world }

def meetingLeave (mgr : MeetingManager σ) (p : Nat) (alloc : StrAlloc) :
    Option (MeetingManager σ) :=
  match mgr.peers[p]? with
  | none => none
  | some peer =>
    if peer.freed then none
    else
      match peer.meetingIdx with
      | none => some mgr
      | some idx =>
        match mgr.meetings[idx]? with
        | none => none
        | some m =>
          maybeDestroyMeeting
            (notifyLeft send (removePeerFromMeeting mgr idx m p peer) idx peer) idx alloc

def meetingPeerDestroy (mgr : MeetingManager σ) (p : Nat) (alloc : StrAlloc) :
    Option (MeetingManager σ) :=
  (meetingLeave send mgr p alloc).map fun mgr =>
    { mgr with peers := mgr.peers.modify p fun peer => { peer with freed := true } }

def findMeeting (mgr : MeetingManager σ) (name : CString) : Option (Option Nat) :=
  rtcStrMapGet mgr.nameIndex name

def createMeeting (mgr : MeetingManager σ) (name : CString) (alloc : StrAlloc) :
    Option (Option Nat × MeetingManager σ) :=
  match mgr.meetings.findIdx? fun m => !m.active with
  | none => some (none, mgr)
  | some i =>
    let m : Meeting := { name := name.take (meetingMaxName - 1), peers := [], active := true }
    match rtcStrMapSet mgr.nameIndex m.name (some i) alloc with
    | none => none
    | some (.error _, index) =>
      some (none, { mgr with
        nameIndex := index
        meetings := mgr.meetings.set i { m with active := false } })
    | some (.ok _, index) =>
      some (some i, { mgr with
        nameIndex := index
        meetings := mgr.meetings.set i m
        meetingCount := mgr.meetingCount + 1 })

def findOrCreateMeeting (mgr : MeetingManager σ) (name : CString) (alloc : StrAlloc) :
    Option (Option Nat × MeetingManager σ) :=
  match findMeeting mgr name with
  | none => none
  | some (some idx) => some (some idx, mgr)
  | some none => createMeeting mgr name alloc

def MeetingManager.ids (mgr : MeetingManager σ) (peers : List Nat) : List CString :=
  peers.filterMap fun p => mgr.peers[p]?.map fun peer => peer.id.val

def addPeer (mgr : MeetingManager σ) (idx : Nat) (m : Meeting) (p : Nat) (peer : MeetingPeer) :
    MeetingManager σ :=
  let told := send p (sigMsgBuildJoined peer.id (mgr.ids m.peers)) mgr.world
  { mgr with
    meetings := mgr.meetings.set idx { m with peers := m.peers ++ [p] }
    peers := mgr.peers.set p { peer with meetingIdx := some idx }
    world := broadcastToMeeting send (m.peers ++ [p]) (sigMsgBuildPeerJoined peer.id) (some p) told }

def meetingFull : CString := ⟨ascii "meeting full", by decide⟩

def meetingJoin (mgr : MeetingManager σ) (p : Nat) (name : CString) (allocs : StrAlloc × StrAlloc) :
    Option (Bool × MeetingManager σ) :=
  if name.val = [] then some (false, mgr)
  else
    match meetingLeave send mgr p allocs.1 with
    | none => none
    | some mgr =>
      match findOrCreateMeeting mgr name allocs.2 with
      | none => none
      | some (none, mgr) => some (false, mgr)
      | some (some idx, mgr) =>
        match mgr.meetings[idx]?, mgr.peers[p]? with
        | some m, some peer =>
          if meetingMaxPeers ≤ m.peers.length then
            some (false, { mgr with world := send p (sigMsgBuildError meetingFull) mgr.world })
          else some (true, addPeer send mgr idx m p peer)
        | _, _ => none

def meetingRouteMessage (mgr : MeetingManager σ) (p : Nat) (toId : CString) (json : Json) :
    Option (Bool × MeetingManager σ) :=
  match mgr.peers[p]? with
  | none => none
  | some peer =>
    if peer.freed then none
    else
      match peer.meetingIdx with
      | none => some (false, mgr)
      | some idx =>
        match mgr.meetings[idx]? with
        | none => none
        | some m =>
          match m.peers.find? fun q => mgr.peers[q]?.map (fun peer => peer.id.val) == some toId
          with
          | none => some (false, mgr)
          | some q => some (true, { mgr with world := send q json mgr.world })

/-! ## Runs -/

inductive MeetingOp where
  | join (p : Nat) (name : CString) (allocs : StrAlloc × StrAlloc)
  | leave (p : Nat) (alloc : StrAlloc)
  | destroy (p : Nat) (alloc : StrAlloc)

def MeetingOp.peer : MeetingOp → Nat
  | .join p _ _ | .leave p _ | .destroy p _ => p

def meetingStep (mgr : MeetingManager σ) : MeetingOp → Option (MeetingManager σ)
  | .join p name allocs => (meetingJoin send mgr p name allocs).map Prod.snd
  | .leave p alloc => meetingLeave send mgr p alloc
  | .destroy p alloc => meetingPeerDestroy send mgr p alloc

def meetingRun (mgr : MeetingManager σ) : List MeetingOp → Option (MeetingManager σ)
  | [] => some mgr
  | op :: ops => (meetingStep send mgr op).bind fun mgr => meetingRun mgr ops

def MeetingOp.left (alive : List Nat) : MeetingOp → List Nat
  | .destroy p _ => alive.filter (· ≠ p)
  | _ => alive

def MeetingOp.Fits : MeetingOp → Prop
  | .join _ name _ => name.val.length < meetingMaxName
  | _ => True

def UsesLive : (alive : List Nat) → List MeetingOp → Prop
  | _, [] => True
  | alive, op :: ops => op.peer ∈ alive ∧ UsesLive (op.left alive) ops

end

end Mrtc
