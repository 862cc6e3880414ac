import Mrtc.Lib.Bytes
import Mrtc.Map.U32

/-! # Data channels and their manager (`rtc_data_channel.c`)

A manager maps channel ids to channel objects, and runs the handshake: the creator of a channel
sends OPEN with the label, the peer answers ACK.
-/

namespace Mrtc

open Net List Function

inductive DcState where
  | connecting
  | opened
  | closing
  | closed
  deriving DecidableEq

structure DataChannel where
  label : Bytes
  id : Nat
  state : DcState
  locallyCreated : Bool
  deriving DecidableEq

structure DcPacket where
  origin : Nat
  bytes : Bytes
  deriving DecidableEq

inductive DcEvent where
  | onOpen (dc : Nat)
  | onClose (dc : Nat)
  | onMessage (dc : Nat) (payload : Bytes)
  | onChannel (dc : Nat)
  deriving DecidableEq

structure DcManager where
  channels : U32Map Nat := {}
  objects : List DataChannel := []
  nextId : Nat := 0
  sendFn : Bool := false
  onChannel : Bool := false
  dtlsConnected : Bool := false
  deriving DecidableEq

structure DcAlloc where
  channel : Bool := true
  map : Bool := true
  message : Bool := true
  deriving DecidableEq

structure DcResult where
  rc : Except RtcErr Unit
  mgr : DcManager
  out : List DcPacket := []
  events : List DcEvent := []

def dcMaxChannels : Nat := 16
def dcMaxLabel : Nat := 128
def dcMaxMsgSize : Nat := 65535
def dcHeaderSize : Nat := 6

def dcMsgOpen : UInt8 := 1
def dcMsgAck : UInt8 := 2
def dcMsgData : UInt8 := 3
def dcMsgClose : UInt8 := 4

def dcMessage (id : Nat) (msgType : UInt8) (payload : Bytes) : Bytes :=
  writeU16 id ++ [msgType, 0] ++ writeU16 payload.length ++ payload

def dcSendMessage (mgr : DcManager) (gate : Bool) (alloc : DcAlloc) (dc : Nat) (msgType : UInt8)
    (payload : Bytes) : Except RtcErr Unit × List DcPacket :=
  match mgr.objects[dc]? with
  | none => (.error .invalid, [])
  | some c =>
    if !mgr.sendFn then (.error .invalid, [])
    else if dcMaxMsgSize < payload.length then (.error .invalid, [])
    else if !alloc.message then (.error .nomem, [])
    else if !gate then (.error .invalid, [])
    else (.ok (), [⟨dc, dcMessage c.id msgType payload⟩])

def dcFindById (mgr : DcManager) (id : Nat) : Option (Option Nat) :=
  rtcU32MapGet mgr.channels (UInt32.ofNat id)

def DcManager.setState (mgr : DcManager) (dc : Nat) (state : DcState) : DcManager :=
  { mgr with objects := mgr.objects.modify dc fun c => { c with state := state } }

def DcManager.stateOf (mgr : DcManager) (dc : Nat) : Option DcState :=
  mgr.objects[dc]?.map DataChannel.state

def rtcDataChannelSend (mgr : DcManager) (gate : Bool) (alloc : DcAlloc) (dc : Nat)
    (data : Bytes) : DcResult :=
  if mgr.stateOf dc = some .opened then
    let r := dcSendMessage mgr gate alloc dc dcMsgData data
    { rc := r.1, mgr := mgr, out := r.2 }
  else { rc := .error .invalid, mgr := mgr }

def rtcDataChannelClose (mgr : DcManager) (gate : Bool) (alloc : DcAlloc) (dc : Nat) : DcResult :=
  match mgr.stateOf dc with
  | none => { rc := .ok (), mgr := mgr }
  | some .closed => { rc := .ok (), mgr := mgr }
  | some .opened =>
    { rc := .ok ()
      mgr := mgr.setState dc .closed
      out := (dcSendMessage mgr gate alloc dc dcMsgClose []).2
      events := [.onClose dc] }
  | some _ => { rc := .ok (), mgr := mgr.setState dc .closed, events := [.onClose dc] }

def rtcDcManagerInit (mgr : DcManager) : DcManager := { objects := mgr.objects, sendFn := true }

def dcRegister (mgr : DcManager) (alloc : DcAlloc) (c : DataChannel) :
    Option (Option Nat × DcManager) :=
  match rtcU32MapSet mgr.channels (UInt32.ofNat c.id) (some mgr.objects.length) alloc.map with
  | none => none
  | some (.error _, m) => some (none, { mgr with channels := m })
  | some (.ok _, m) =>
    some (some mgr.objects.length, { mgr with channels := m, objects := mgr.objects ++ [c] })

def dcTakeId (mgr : DcManager) : (id : Option Nat) → Nat × Nat
  | some i => (i % 2 ^ 16, mgr.nextId)
  | none => (mgr.nextId % 2 ^ 16, mgr.nextId + 2)

def rtcDcManagerCreateChannel (mgr : DcManager) (gate : Bool) (alloc : DcAlloc) (label : Bytes)
    (id : Option Nat) : Option (Option Nat × DcManager × List DcPacket) :=
  if dcMaxChannels ≤ rtcU32MapLen mgr.channels then some (none, mgr, [])
  else if !alloc.channel then some (none, mgr, [])
  else
    let ids := dcTakeId mgr id
    let c : DataChannel := ⟨label.take (dcMaxLabel - 1), ids.1, .connecting, true⟩
    match dcRegister { mgr with nextId := ids.2 } alloc c with
    | none => none
    | some (none, mgr) => some (none, mgr, [])
    | some (some dc, mgr) =>
      some (some dc, mgr,
        if mgr.dtlsConnected then (dcSendMessage mgr gate alloc dc dcMsgOpen c.label).2 else [])

def rtcDcManagerOnDtlsConnected (mgr : DcManager) (gate : Bool) (alloc : DcAlloc) :
    Option (DcManager × List DcPacket) :=
  match mgr.channels.iterate (mgr.channels.cap + 1) 0 with
  | none => none
  | some entries =>
    let mgr := { mgr with dtlsConnected := true }
    some (mgr, entries.flatMap fun entry =>
      match entry.2 with
      | none => []
      | some dc =>
        match mgr.objects[dc]? with
        | some ⟨label, _, .connecting, true⟩ =>
          (dcSendMessage mgr gate alloc dc dcMsgOpen label).2
        | _ => [])

def dcAccept (mgr : DcManager) (gate : Bool) (alloc : DcAlloc) (id : Nat) (payload : Bytes) :
    Option DcResult :=
  if dcMaxChannels ≤ rtcU32MapLen mgr.channels then some { rc := .error .nomem, mgr := mgr }
  else if !alloc.channel then some { rc := .error .nomem, mgr := mgr }
  else
    match dcRegister mgr alloc ⟨payload.take (dcMaxLabel - 1), id, .opened, false⟩ with
    | none => none
    | some (none, mgr) => some { rc := .error .nomem, mgr := mgr }
    | some (some dc, mgr) =>
      some
        { rc := .ok ()
          mgr := mgr
          out := (dcSendMessage mgr gate alloc dc dcMsgAck []).2
          events := if mgr.onChannel then [.onChannel dc] else [] }

def dcHandle (mgr : DcManager) (gate : Bool) (alloc : DcAlloc) (id : Nat) (msgType : UInt8)
    (payload : Bytes) : Option DcResult :=
  match dcFindById mgr id with
  | none => none
  | some none =>
    if msgType = dcMsgOpen then dcAccept mgr gate alloc id payload
    else some { rc := .ok (), mgr := mgr }
  | some (some dc) =>
    some <|
      if msgType = dcMsgOpen then
        { rc := .ok ()
          mgr := mgr.setState dc .opened
          out := (dcSendMessage mgr gate alloc dc dcMsgAck []).2
          events := [.onOpen dc] }
      else if msgType = dcMsgAck ∧ mgr.stateOf dc = some .connecting then
        { rc := .ok (), mgr := mgr.setState dc .opened, events := [.onOpen dc] }
      else if msgType = dcMsgData ∧ mgr.stateOf dc = some .opened then
        { rc := .ok (), mgr := mgr, events := [.onMessage dc payload] }
      else if msgType = dcMsgClose ∧ mgr.stateOf dc ≠ some .closed then
        { rc := .ok (), mgr := mgr.setState dc .closed, events := [.onClose dc] }
      else { rc := .ok (), mgr := mgr }

def rtcDcManagerRecv (mgr : DcManager) (gate : Bool) (alloc : DcAlloc) (data : Bytes) :
    Option DcResult :=
  if data.length < dcHeaderSize then some { rc := .error .invalid, mgr := mgr }
  else if data.length < dcHeaderSize + readU16 data 4 then
    some { rc := .error .invalid, mgr := mgr }
  else
    dcHandle mgr gate alloc (readU16 data 0) (data.getD 2 0)
      ((data.drop dcHeaderSize).take (readU16 data 4))

/-! ## Messages -/

theorem rtcDcManagerRecv_message (mgr : DcManager) (gate : Bool) (alloc : DcAlloc) {id : Nat}
    (hid : id < 2 ^ 16) (msgType : UInt8) {payload : Bytes} (hlen : payload.length ≤ dcMaxMsgSize) :
    rtcDcManagerRecv mgr gate alloc (dcMessage id msgType payload)
      = dcHandle mgr gate alloc id msgType payload := by
  have hlength : (dcMessage id msgType payload).length = dcHeaderSize + payload.length := by
    simp [dcMessage, dcHeaderSize]
    omega
  have hread : readU16 (dcMessage id msgType payload) 0 = id := by
    rw [dcMessage, append_assoc, append_assoc]
    exact readU16_writeU16 hid _
  have hpayload : readU16 (dcMessage id msgType payload) 4 = payload.length := by
    unfold dcMaxMsgSize at hlen
    rw [dcMessage, append_assoc, readU16_append_right (by simp)]
    exact readU16_writeU16 (by omega) _
  unfold rtcDcManagerRecv
  rw [if_neg (by omega), if_neg (by omega), hread, hpayload]
  congr 1
  show payload.take payload.length = payload
  exact take_length

variable {mgr : DcManager} {c : DataChannel} {M : Nat → Option Nat}

theorem dcSendMessage_ok {alloc : DcAlloc} {dc : Nat}
    (hc : mgr.objects[dc]? = some c) (hsend : mgr.sendFn = true) (halloc : alloc.message = true)
    (msgType : UInt8) {payload : Bytes} (hlen : payload.length ≤ dcMaxMsgSize) :
    dcSendMessage mgr true alloc dc msgType payload
      = (.ok (), [⟨dc, dcMessage c.id msgType payload⟩]) := by
  simp [dcSendMessage, hc, hsend, halloc, Nat.not_lt.mpr hlen]

theorem dcSendMessage_out (mgr : DcManager) (gate : Bool) (alloc : DcAlloc) (dc : Nat)
    (msgType : UInt8) (payload : Bytes) :
    (dcSendMessage mgr gate alloc dc msgType payload).2 = []
      ∨ ∃ c, mgr.objects[dc]? = some c ∧ payload.length ≤ dcMaxMsgSize
        ∧ (dcSendMessage mgr gate alloc dc msgType payload).2
          = [⟨dc, dcMessage c.id msgType payload⟩] := by
  unfold dcSendMessage
  cases hc : mgr.objects[dc]? with
  | none => exact Or.inl rfl
  | some c =>
    dsimp only
    split
    · exact Or.inl rfl
    · grind

/-! ## The map of ids -/

def DcManager.Maps (mgr : DcManager) (M : Nat → Option Nat) : Prop :=
  U32Map.Represents mgr.channels ⟨fun key => (M key.toNat).map some, mgr.objects.length⟩

theorem maps_empty (objects : List DataChannel) (nextId : Nat) (sendFn onChannel : Bool)
    (dtlsConnected : Bool) :
    DcManager.Maps ⟨{}, objects, nextId, sendFn, onChannel, dtlsConnected⟩ fun _ => none :=
  (HashTable.sound_empty u32Hash u32MapEntrySize).more (Nat.zero_le _)

theorem dcFindById_eq (h : mgr.Maps M) {id : Nat} (hid : id < 2 ^ 32) :
    dcFindById mgr id = some (M id) := by
  unfold dcFindById rtcU32MapGet
  rw [HashTable.Sound.lookup h, Option.map_some]
  dsimp only
  rw [UInt32.toNat_ofNat_of_lt' hid]
  cases M id with
  | none => rfl
  | some dc => rfl

theorem dcRegister_cases {mgr : DcManager} {M : Nat → Option Nat} (h : mgr.Maps M)
    (alloc : DcAlloc) {c : DataChannel} (hid : c.id < 2 ^ 32) :
    (dcRegister mgr alloc c = some (none, mgr) ∧ (alloc.map = false ∨ 2 ^ 58 ≤ mgr.objects.length))
      ∨ ∃ m, dcRegister mgr alloc c
          = some (some mgr.objects.length, { mgr with channels := m, objects := mgr.objects ++ [c] })
        ∧ DcManager.Maps { mgr with channels := m, objects := mgr.objects ++ [c] }
          (update M c.id (some mgr.objects.length)) := by
  rcases U32Map.Represents.set_cases h (UInt32.ofNat c.id) (some mgr.objects.length) alloc.map with
    ⟨hset, hwhy⟩ | ⟨m, hset, hm⟩
  · exact .inl ⟨by simp [dcRegister, hset], hwhy⟩
  · refine .inr ⟨m, by simp [dcRegister, hset], ?_⟩
    have hmap : update (fun key : UInt32 => (M key.toNat).map some)
        (UInt32.ofNat c.id) (some (some mgr.objects.length))
        = fun key => (update M c.id (some mgr.objects.length) key.toNat).map some := by
      funext key
      by_cases hkey : key = UInt32.ofNat c.id
      · rw [hkey, update_self, UInt32.toNat_ofNat_of_lt' hid, update_self]
        rfl
      · grind [UInt32.ofNat_toNat, update_of_ne]
    rw [hmap] at hm
    unfold DcManager.Maps
    rw [length_append]
    exact hm

theorem dcRegister_ok (h : mgr.Maps M) {alloc : DcAlloc} (halloc : alloc.map = true)
    (hid : c.id < 2 ^ 32) (hfew : mgr.objects.length < 2 ^ 58) :
    ∃ m, dcRegister mgr alloc c
        = some (some mgr.objects.length, { mgr with channels := m, objects := mgr.objects ++ [c] })
      ∧ DcManager.Maps { mgr with channels := m, objects := mgr.objects ++ [c] }
        (update M c.id (some mgr.objects.length)) := by
  rcases dcRegister_cases h alloc hid with ⟨-, hfail | hmany⟩ | hok
  · rw [halloc] at hfail
    cases hfail
  · exact absurd hfew (not_lt.mpr hmany)
  · exact hok

theorem DcManager.Maps.len (h : mgr.Maps M) {ids : List Nat} (hnodup : ids.Nodup)
    (hids : ∀ id, (M id).isSome ↔ id ∈ ids) (hlt : ∀ id ∈ ids, id < 2 ^ 32) :
    rtcU32MapLen mgr.channels = ids.length := by
  obtain ⟨l, _, honce, hall, hlen⟩ := HashTable.Sound.iterate h
  have hcard := MapState.ncard_keys
    (S := (⟨fun key => (M key.toNat).map some, mgr.objects.length⟩ : MapState UInt32 Nat))
    honce hall
  have hinj : (ids.map UInt32.ofNat).Nodup := by
    grind [UInt32.toNat_ofNat_of_lt', List.Nodup.map_on, UInt32.toNat]
  have hkeys : {key : UInt32 | ((M key.toNat).map some).isSome = true}
      = ((ids.map UInt32.ofNat).toFinset : Set UInt32) := by
    ext key
    rw [Set.mem_ofPred_eq, Option.isSome_map, hids, Finset.mem_coe, mem_toFinset, mem_map]
    constructor
    · exact fun hmem => ⟨key.toNat, hmem, UInt32.ofNat_toNat⟩
    · grind [UInt32.toNat_ofNat_of_lt']
  rw [hkeys, Set.ncard_coe_finset, toFinset_card_of_nodup hinj, length_map, hlen]
    at hcard
  exact hcard.symm

theorem DcManager.stateOf_eq_some {dc : Nat} {state : DcState} :
    mgr.stateOf dc = some state ↔ ∃ c, mgr.objects[dc]? = some c ∧ c.state = state :=
  Option.map_eq_some_iff

theorem DcManager.getElem?_setState (mgr : DcManager) (dc : Nat) (state : DcState) (dc' : Nat) :
    (mgr.setState dc state).objects[dc']?
      = mgr.objects[dc']?.map fun c => if dc = dc' then { c with state := state } else c := by
  unfold DcManager.setState
  rw [getElem?_modify]
  cases mgr.objects[dc']? with
  | none => rfl
  | some c =>
    by_cases hdc : dc = dc'
    · simp [hdc]
    · simp [hdc]

theorem DcManager.stateOf_setState (mgr : DcManager) (dc : Nat) (state : DcState) (dc' : Nat) :
    (mgr.setState dc state).stateOf dc'
      = (mgr.stateOf dc').map fun old => if dc = dc' then state else old := by
  unfold DcManager.stateOf
  rw [DcManager.getElem?_setState, Option.map_map, Option.map_map]
  congr 1
  funext c
  dsimp only [Function.comp]
  split <;> rfl

theorem DcManager.Maps.setState (h : mgr.Maps M) (dc : Nat) (state : DcState) :
    (mgr.setState dc state).Maps M := by
  unfold DcManager.Maps DcManager.setState
  rw [length_modify]
  exact h

end Mrtc
