import Mathlib.Logic.Equiv.List
import Mathlib.Tactic.DeriveCountable
import Mrtc.Lib.CText
import Mrtc.Map.Str

/-! # Signaling messages (`signaling_msg.c`)

A message is a JSON object whose values are strings, except for the list of peers in `joined`.
-/

namespace Mrtc

open Net CText List

def sigMaxPeerId : Nat := 16
def sigMaxMeeting : Nat := 64
def sigMaxPeers : Nat := 8
def sigMaxSdp : Nat := 4096
def sigMaxCandidate : Nat := 256
def sigMaxErrorMsg : Nat := 128

/-! ## Strings -/

def CString.empty : CString := ⟨[], not_mem_nil⟩

open CString

def CString.take (s : CString) (n : Nat) : CString :=
  ⟨s.val.take n, fun h => s.property (mem_of_mem_take h)⟩

theorem CString.take_of_le {s : CString} {n : Nat} (h : s.val.length ≤ n) : s.take n = s :=
  Subtype.ext (take_of_length_le h)

instance uInt8Countable : Countable UInt8 :=
  Function.Injective.countable (f := UInt8.toFin) fun _ _ h => UInt8.toFin_inj.mp h

instance charCountable : Countable Char :=
  Function.Injective.countable (f := Char.toNat) fun _ _ h => Char.toNat_inj.mp h

instance stringCountable : Countable String :=
  Function.Injective.countable (f := String.toList) fun _ _ h => String.toList_inj.mp h

/-! ## JSON -/

inductive JsonItem where
  | string (s : CString)
  | other
  deriving DecidableEq, Countable

inductive JsonValue where
  | string (s : CString)
  | array (items : List JsonItem)
  | other
  deriving DecidableEq, Countable

abbrev Json : Type := List (String × JsonValue)

def Json.item (json : Json) (name : String) : Option JsonValue := json.lookup name

structure JsonCodec where
  print : Json → Bytes
  parse : Bytes → Option Json
  parse_print : ∀ json, parse (print json) = some json

theorem JsonCodec.nonempty : Nonempty JsonCodec := by
  obtain ⟨number, hnumber⟩ := exists_injective_nat Json
  have hprint : Function.Injective fun json => replicate (number json) (0 : UInt8) :=
    fun a b h => hnumber (replicate_left_injective 0 h)
  exact ⟨_, Function.partialInv _, fun json => Function.partialInv_left hprint json⟩

/-! ## Building -/

inductive SigMsgType where
  | join
  | leave
  | joined
  | peerJoined
  | peerLeft
  | offer
  | answer
  | candidate
  | error
  deriving DecidableEq

def SigMsgType.text : SigMsgType → CString
  | .join => ⟨ascii "join", by decide⟩
  | .leave => ⟨ascii "leave", by decide⟩
  | .joined => ⟨ascii "joined", by decide⟩
  | .peerJoined => ⟨ascii "peer_joined", by decide⟩
  | .peerLeft => ⟨ascii "peer_left", by decide⟩
  | .offer => ⟨ascii "offer", by decide⟩
  | .answer => ⟨ascii "answer", by decide⟩
  | .candidate => ⟨ascii "candidate", by decide⟩
  | .error => ⟨ascii "error", by decide⟩

def SigMsgType.all : List SigMsgType :=
  [.join, .leave, .joined, .peerJoined, .peerLeft, .offer, .answer, .candidate, .error]

def typeFromString (s : CString) : Option SigMsgType :=
  SigMsgType.all.find? fun type => s == type.text

def makeMessage (type : SigMsgType) (members : List (String × CString)) : Json :=
  ("type", .string type.text) :: members.map fun m => (m.1, .string m.2)

def sigMsgBuildOffer (toId sdp : CString) : Json :=
  makeMessage .offer [("to", toId), ("sdp", sdp)]

def sigMsgBuildAnswer (toId sdp : CString) : Json :=
  makeMessage .answer [("to", toId), ("sdp", sdp)]

def sigMsgBuildCandidate (toId candidate : CString) : Json :=
  makeMessage .candidate [("to", toId), ("candidate", candidate)]

def sigMsgBuildJoined (peerId : CString) (peers : List CString) : Json :=
  makeMessage .joined [("peer_id", peerId)] ++ [("peers", .array (peers.map JsonItem.string))]

def sigMsgBuildPeerJoined (peerId : CString) : Json := makeMessage .peerJoined [("peer_id", peerId)]

def sigMsgBuildPeerLeft (peerId : CString) : Json := makeMessage .peerLeft [("peer_id", peerId)]

def sigMsgBuildRelayOffer (fromId sdp : CString) : Json :=
  makeMessage .offer [("from", fromId), ("sdp", sdp)]

def sigMsgBuildRelayAnswer (fromId sdp : CString) : Json :=
  makeMessage .answer [("from", fromId), ("sdp", sdp)]

def sigMsgBuildRelayCandidate (fromId candidate : CString) : Json :=
  makeMessage .candidate [("from", fromId), ("candidate", candidate)]

def sigMsgBuildError (message : CString) : Json := makeMessage .error [("message", message)]

/-! ## Parsing -/

structure SigMsg where
  type : SigMsgType
  meeting : CString := empty
  peerId : CString := empty
  peers : List CString := []
  toId : CString := empty
  fromId : CString := empty
  sdp : CString := empty
  candidate : CString := empty
  errorMsg : CString := empty
  deriving DecidableEq

def safeCopy (dstSize : Nat) : Option JsonValue → CString
  | some (.string s) => s.take (dstSize - 1)
  | _ => empty

def safeCopyItem (dstSize : Nat) : JsonItem → CString
  | .string s => s.take (dstSize - 1)
  | .other => empty

def sigMsgFields (json : Json) (type : SigMsgType) : SigMsg :=
  match type with
  | .join => { type, meeting := safeCopy sigMaxMeeting (json.item "meeting") }
  | .leave => { type }
  | .joined =>
    { type
      peerId := safeCopy sigMaxPeerId (json.item "peer_id")
      peers := match json.item "peers" with
        | some (.array items) => (items.take sigMaxPeers).map (safeCopyItem sigMaxPeerId)
        | _ => [] }
  | .peerJoined | .peerLeft => { type, peerId := safeCopy sigMaxPeerId (json.item "peer_id") }
  | .offer | .answer =>
    { type
      toId := safeCopy sigMaxPeerId (json.item "to")
      fromId := safeCopy sigMaxPeerId (json.item "from")
      sdp := safeCopy sigMaxSdp (json.item "sdp") }
  | .candidate =>
    { type
      toId := safeCopy sigMaxPeerId (json.item "to")
      fromId := safeCopy sigMaxPeerId (json.item "from")
      candidate := safeCopy sigMaxCandidate (json.item "candidate") }
  | .error => { type, errorMsg := safeCopy sigMaxErrorMsg (json.item "message") }

def sigMsgParse (root : Option Json) : Option SigMsg :=
  root.bind fun json =>
    match json.item "type" with
    | some (.string s) => (typeFromString s).map (sigMsgFields json)
    | _ => none

@[simp] theorem typeFromString_text (type : SigMsgType) : typeFromString type.text = some type := by
  cases type <;> decide

/-! ## Reading what was built -/

theorem sigMsgParse_type (type : SigMsgType) (members : Json) :
    sigMsgParse (some (("type", .string type.text) :: members))
      = some (sigMsgFields (("type", .string type.text) :: members) type) := by
  have hitem : Json.item (("type", .string type.text) :: members) "type"
      = some (.string type.text) := by
    simp [Json.item]
  rw [sigMsgParse, Option.bind_some, hitem]
  dsimp only
  rw [typeFromString_text, Option.map_some]

theorem sigMsgParse_joined (peerId : CString) (peers : List CString) :
    sigMsgParse (some (sigMsgBuildJoined peerId peers))
      = some
        { type := .joined
          peerId := peerId.take (sigMaxPeerId - 1)
          peers := (peers.take sigMaxPeers).map fun id => id.take (sigMaxPeerId - 1) } := by
  rw [sigMsgBuildJoined, makeMessage, cons_append, sigMsgParse_type]
  simp [sigMsgFields, Json.item, lookup_cons, safeCopy, safeCopyItem, Function.comp_def]

theorem sigMsgParse_peerJoined (peerId : CString) :
    sigMsgParse (some (sigMsgBuildPeerJoined peerId))
      = some { type := .peerJoined, peerId := peerId.take (sigMaxPeerId - 1) } := by
  rw [sigMsgBuildPeerJoined, makeMessage, sigMsgParse_type]
  simp [sigMsgFields, Json.item, lookup_cons, safeCopy]

theorem sigMsgParse_peerLeft (peerId : CString) :
    sigMsgParse (some (sigMsgBuildPeerLeft peerId))
      = some { type := .peerLeft, peerId := peerId.take (sigMaxPeerId - 1) } := by
  rw [sigMsgBuildPeerLeft, makeMessage, sigMsgParse_type]
  simp [sigMsgFields, Json.item, lookup_cons, safeCopy]

theorem sigMsgParse_error (message : CString) :
    sigMsgParse (some (sigMsgBuildError message))
      = some { type := .error, errorMsg := message.take (sigMaxErrorMsg - 1) } := by
  rw [sigMsgBuildError, makeMessage, sigMsgParse_type]
  simp [sigMsgFields, Json.item, lookup_cons, safeCopy]

end Mrtc
