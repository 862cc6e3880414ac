import Mrtc.DataChannel.Calls

/-! # Messages on the wire (`rtc_data_channel.c`)

What a channel sends is read by the manager of the other side as the same payload on the channel
with the same id, and whatever bytes a manager receives, it looks only at those and changes only the
channel whose id they begin with (`dataChannel_framed`).
-/

namespace Mrtc

open Net List

def dcHeaderId (data : Bytes) : Nat := readU16 data 0

def DcEvent.channel : DcEvent → Nat
  | .onOpen dc => dc
  | .onClose dc => dc
  | .onMessage dc _ => dc
  | .onChannel dc => dc

/-- What one side sends on an open channel arrives as it is. -/
def DcManager.Delivers (mgr peer : DcManager) : Prop :=
  ∀ (alloc : DcAlloc) (dc dc' : Nat) (c : DataChannel) (payload : Bytes), alloc.message = true →
    mgr.objects[dc]? = some c → c.state = .opened →
    dcFindById peer c.id = some (some dc') → peer.stateOf dc' = some .opened →
    payload.length ≤ 65535 →
      ∃ bytes,
        rtcDataChannelSend mgr true alloc dc payload
          = { rc := .ok (), mgr := mgr, out := [⟨dc, bytes⟩] }
        ∧ (∀ gate alloc', rtcDcManagerRecv peer gate alloc' bytes
          = some { rc := .ok (), mgr := peer, events := [.onMessage dc' payload] })
        ∧ ∃ c', peer.objects[dc']? = some c' ∧ c'.id = c.id

/-- The payload that the header of `data` announces, all of which lies inside `data`. -/
structure InMessage (data payload : Bytes) : Prop where
  announced : payload.length = readU16 data 4
  inside : dcHeaderSize + payload.length ≤ data.length
  bytes : payload = (data.drop dcHeaderSize).take payload.length

/-- What an incoming message may change and pass on. -/
structure DcFrame (mgr : DcManager) (data : Bytes) (r : DcResult) : Prop where
  payload : ∀ dc payload, .onMessage dc payload ∈ r.events → InMessage data payload
  /-- Only the channel under the id in the header changes, and it has this id. -/
  others : ∀ dc c, mgr.objects[dc]? = some c → dcFindById mgr (dcHeaderId data) ≠ some (some dc) →
    r.mgr.objects[dc]? = some c
  found : ∀ dc, dcFindById mgr (dcHeaderId data) = some (some dc) →
    ∃ c, mgr.objects[dc]? = some c ∧ c.id = dcHeaderId data
  /-- So has a new one. -/
  added : ∀ dc c, mgr.objects.length ≤ dc → r.mgr.objects[dc]? = some c →
    c.id = dcHeaderId data
      ∧ ∃ payload, InMessage data payload ∧ c.label = payload.take (dcMaxLabel - 1)
  called : ∀ e ∈ r.events, ∃ c, r.mgr.objects[e.channel]? = some c ∧ c.id = dcHeaderId data
  sent : ∀ p ∈ r.out, ∃ c, r.mgr.objects[p.origin]? = some c ∧ c.id = dcHeaderId data
  entries : ∀ id < 2 ^ 16, id ≠ dcHeaderId data → dcFindById r.mgr id = dcFindById mgr id

section Receive

variable {mgr : DcManager} {M : Nat → Option Nat} {data : Bytes}

theorem inMessage_take (h : dcHeaderSize + readU16 data 4 ≤ data.length) :
    InMessage data ((data.drop dcHeaderSize).take (readU16 data 4)) := by
  have hlength : ((data.drop dcHeaderSize).take (readU16 data 4)).length = readU16 data 4 := by
    rw [length_take, length_drop]
    omega
  exact ⟨hlength, by rwa [hlength], by rw [hlength]⟩

theorem dcSendMessage_origin {gate : Bool} {alloc : DcAlloc} {dc : Nat} {msgType : UInt8}
    {payload : Bytes} {p : DcPacket}
    (hp : p ∈ (dcSendMessage mgr gate alloc dc msgType payload).2) : p.origin = dc := by
  rcases dcSendMessage_out mgr gate alloc dc msgType payload with hnone | ⟨c, -, -, hone⟩
  · rw [hnone] at hp
    cases hp
  · rw [hone] at hp
    rw [mem_singleton.mp hp]

section

variable (h : mgr.Indexed M)
include h

theorem dcFindById_header (data : Bytes) :
    dcFindById mgr (dcHeaderId data) = some (M (dcHeaderId data)) := by
  have hid : dcHeaderId data < 2 ^ 16 := readU16_lt data 0
  exact dcFindById_eq h.maps (by omega)

theorem DcManager.Indexed.found_header (dc : Nat)
    (hdc : dcFindById mgr (dcHeaderId data) = some (some dc)) :
    ∃ c, mgr.objects[dc]? = some c ∧ c.id = dcHeaderId data := by
  rw [dcFindById_header h] at hdc
  exact h.found _ dc (Option.some.inj hdc)

theorem DcFrame.quiet (rc : Except RtcErr Unit) : DcFrame mgr data { rc := rc, mgr := mgr } where
  payload dc payload hmem := by cases hmem
  others dc c hc _ := hc
  found := h.found_header
  added dc c hdc hc := by
    rw [getElem?_eq_none hdc] at hc
    cases hc
  called e he := by cases he
  sent p hp := by cases hp
  entries id _ _ := rfl

theorem DcFrame.of_setState {dc : Nat} (hdc : dcFindById mgr (dcHeaderId data) = some (some dc))
    (state : DcState) {out : List DcPacket} {events : List DcEvent}
    (hout : ∀ p ∈ out, p.origin = dc) (hevents : ∀ e ∈ events, e = .onOpen dc ∨ e = .onClose dc) :
    DcFrame mgr data
      { rc := .ok (), mgr := mgr.setState dc state, out := out, events := events } := by
  obtain ⟨c, hc, hid⟩ := h.found_header dc hdc
  have hset : (mgr.setState dc state).objects[dc]? = some { c with state := state } := by
    rw [DcManager.getElem?_setState, hc, Option.map_some, if_pos rfl]
  refine ⟨fun dc' payload hmem => ?_, fun dc' c' hc' hne => ?_, h.found_header,
    fun dc' c' hlen hc' => ?_, fun e he => ?_, fun p hp => ?_, fun id hlt _ => ?_⟩
  · rcases hevents _ hmem with hopen | hclose
    · cases hopen
    · cases hclose
  · have hother : dc ≠ dc' := fun heq => hne (heq ▸ hdc)
    show (mgr.setState dc state).objects[dc']? = some c'
    rw [DcManager.getElem?_setState, hc', Option.map_some, if_neg hother]
  · dsimp only at hc'
    rw [DcManager.getElem?_setState, getElem?_eq_none hlen] at hc'
    cases hc'
  · rcases hevents e he with rfl | rfl
    · exact ⟨_, hset, hid⟩
    · exact ⟨_, hset, hid⟩
  · exact ⟨_, (congrArg _ (hout p hp)).trans hset, hid⟩
  · rfl

theorem dcAccept_frame (gate : Bool) (alloc : DcAlloc) {payload : Bytes}
    (hpayload : InMessage data payload) :
    ∃ r, dcAccept mgr gate alloc (dcHeaderId data) payload = some r ∧ DcFrame mgr data r := by
  have hid : dcHeaderId data < 2 ^ 16 := readU16_lt data 0
  unfold dcAccept
  split
  · exact ⟨_, rfl, .quiet h _⟩
  split
  · exact ⟨_, rfl, .quiet h _⟩
  rcases dcRegister_cases h.maps alloc
    (c := ⟨payload.take (dcMaxLabel - 1), dcHeaderId data, .opened, false⟩)
    (show dcHeaderId data < 2 ^ 32 by omega) with ⟨hreg, -⟩ | ⟨m, hreg, hmaps⟩
  · rw [hreg]
    exact ⟨_, rfl, .quiet h _⟩
  rw [hreg]
  refine ⟨_, rfl, ?_⟩
  have hlast : (mgr.objects ++ [(⟨payload.take (dcMaxLabel - 1), dcHeaderId data, .opened, false⟩ :
      DataChannel)])[ mgr.objects.length]? = some _ := getElem?_concat_length
  refine ⟨fun dc' payload hmem => ?_, fun dc' c' hc' _ => ?_, h.found_header,
    fun dc' c' hlen hc' => ?_, fun e he => ?_, fun p hp => ?_, fun id hlt hne => ?_⟩
  · dsimp only at hmem
    split at hmem
    · cases mem_singleton.mp hmem
    · cases hmem
  · grind
  · dsimp only at hc'
    rw [getElem?_append_right hlen] at hc'
    obtain rfl := mem_singleton.mp (mem_of_getElem? hc')
    exact ⟨rfl, _, hpayload, rfl⟩
  · dsimp only at he
    split at he
    · obtain rfl := mem_singleton.mp he
      exact ⟨_, hlast, rfl⟩
    · cases he
  · exact ⟨_, (congrArg _ (dcSendMessage_origin hp)).trans hlast, rfl⟩
  · rw [dcFindById_eq hmaps (by omega), dcFindById_eq h.maps (by omega), Function.update_of_ne hne]

/-- **Any bytes.** -/
theorem DcManager.Indexed.recv_frame (gate : Bool) (alloc : DcAlloc) (data : Bytes) :
    ∃ r, rtcDcManagerRecv mgr gate alloc data = some r ∧ DcFrame mgr data r := by
  unfold rtcDcManagerRecv
  split
  · exact ⟨_, rfl, .quiet h _⟩
  split
  · exact ⟨_, rfl, .quiet h _⟩
  rename_i hcut
  have hpayload := inMessage_take (Nat.not_lt.mp hcut)
  have hfind := dcFindById_header h data
  unfold dcHandle
  rw [show readU16 data 0 = dcHeaderId data from rfl, hfind]
  cases hM : M (dcHeaderId data) with
  | none =>
    dsimp only
    split
    · exact dcAccept_frame h gate alloc hpayload
    · exact ⟨_, rfl, .quiet h _⟩
  | some dc =>
    rw [hM] at hfind
    refine ⟨_, rfl, ?_⟩
    split_ifs
    · exact .of_setState h hfind _ (fun p hp => dcSendMessage_origin hp) (by simp)
    · exact .of_setState h hfind _ (by simp) (by simp)
    · -- data: the manager stays as it is
      have hquiet : DcFrame mgr data _ := .quiet h (.ok ())
      refine ⟨fun dc' payload hmem => ?_, hquiet.others, hquiet.found, hquiet.added,
        fun e he => ?_, hquiet.sent, hquiet.entries⟩
      · cases mem_singleton.mp hmem
        exact hpayload
      · obtain rfl := mem_singleton.mp he
        exact h.found_header dc hfind
    · exact .of_setState h hfind _ (by simp) (by simp)
    · exact .quiet h _

end

end Receive

/-! ## Delivery -/

section Deliver

variable {mgr : DcManager} {M : Nat → Option Nat} {alloc : DcAlloc}

theorem DcManager.Indexed.delivers (h : mgr.Indexed M) (hsend : mgr.sendFn = true)
    {peer : DcManager} {M' : Nat → Option Nat} (hpeer : peer.Indexed M') : mgr.Delivers peer := by
  intro alloc dc dc' c payload halloc hc hopen hfind hopen' hlen
  have hid : c.id < 2 ^ 16 := h.small c (mem_of_getElem? hc)
  refine ⟨dcMessage c.id dcMsgData payload, ?_, fun gate alloc' => ?_, ?_⟩
  · rw [rtcDataChannelSend, if_pos (DcManager.stateOf_eq_some.mpr ⟨c, hc, hopen⟩),
      dcSendMessage_ok hc hsend halloc dcMsgData hlen]
  · rw [rtcDcManagerRecv_message peer gate alloc' hid dcMsgData hlen, dcHandle, hfind]
    dsimp only
    rw [if_neg (by decide), if_neg (fun hack => absurd hack.1 (by decide)), if_pos ⟨rfl, hopen'⟩]
  · rw [dcFindById_eq hpeer.maps (by omega)] at hfind
    exact hpeer.found _ _ (Option.some.inj hfind)

theorem dcRegister_sendFn {c : DataChannel} {dc : Option Nat} {mgr' : DcManager}
    (h : dcRegister mgr alloc c = some (dc, mgr')) : mgr'.sendFn = mgr.sendFn := by
  unfold dcRegister at h
  split at h
  · cases h
  · cases h
    rfl
  · cases h
    rfl

theorem rtcDcManagerCreateChannel_sendFn {gate : Bool} {label : Bytes} {id : Option Nat}
    {r : Option Nat × DcManager × List DcPacket}
    (h : rtcDcManagerCreateChannel mgr gate alloc label id = some r) :
    r.2.1.sendFn = mgr.sendFn := by
  unfold rtcDcManagerCreateChannel at h
  split at h
  · cases h
    rfl
  split at h
  · cases h
    rfl
  dsimp only at h
  split at h
  · cases h
  · rename_i hreg
    cases h
    exact (dcRegister_sendFn hreg :)
  · rename_i hreg
    cases h
    exact (dcRegister_sendFn hreg :)

theorem rtcDcManagerRecv_sendFn {gate : Bool} {data : Bytes} {r : DcResult}
    (h : rtcDcManagerRecv mgr gate alloc data = some r) : r.mgr.sendFn = mgr.sendFn := by
  unfold rtcDcManagerRecv at h
  split at h
  · cases h
    rfl
  split at h
  · cases h
    rfl
  unfold dcHandle at h
  split at h
  · cases h
  · split at h
    · unfold dcAccept at h
      split at h
      · cases h
        rfl
      split at h
      · cases h
        rfl
      split at h
      · cases h
      · rename_i hreg
        cases h
        exact dcRegister_sendFn hreg
      · rename_i hreg
        cases h
        exact dcRegister_sendFn hreg
    · cases h
      rfl
  · cases h
    split_ifs <;> rfl

theorem dcCall_sendFn {call : DcCall} {r : DcManager × List DcEvent}
    (h : dcCall mgr call = some r) : r.1.sendFn = mgr.sendFn := by
  cases call with
  | create gate alloc label id =>
    obtain ⟨r', hcreate, rfl⟩ := Option.map_eq_some_iff.mp h
    exact rtcDcManagerCreateChannel_sendFn hcreate
  | send gate alloc dc data =>
    cases h
    unfold rtcDataChannelSend
    split <;> rfl
  | close gate alloc dc =>
    cases h
    unfold rtcDataChannelClose
    split <;> rfl
  | recv gate alloc data =>
    obtain ⟨r', hrecv, rfl⟩ := Option.map_eq_some_iff.mp h
    exact rtcDcManagerRecv_sendFn hrecv
  | connected gate alloc =>
    obtain ⟨r', hconnected, rfl⟩ := Option.map_eq_some_iff.mp h
    unfold rtcDcManagerOnDtlsConnected at hconnected
    split at hconnected
    · cases hconnected
    · cases hconnected
      rfl
  | onChannel fn =>
    cases h
    rfl

theorem dcRun_sendFn {h h' : DcHistory} {calls : List DcCall} (hrun : dcRun h calls = some h') :
    h'.mgr.sendFn = h.mgr.sendFn := by
  induction calls generalizing h with
  | nil =>
    cases hrun
    rfl
  | cons call calls ih =>
    obtain ⟨h₁, hstep, hrest⟩ := Option.bind_eq_some_iff.mp hrun
    obtain ⟨r, hcall, rfl⟩ := Option.map_eq_some_iff.mp hstep
    exact (ih hrest).trans (dcCall_sendFn hcall)

end Deliver

/-- **Data channels are framed.** -/
theorem dataChannel_framed (calls peerCalls : List DcCall) :
    ∃ h peer, dcRun .start calls = some h ∧ dcRun .start peerCalls = some peer
      ∧ h.mgr.Delivers peer.mgr
      ∧ ∀ gate alloc data,
          ∃ r, rtcDcManagerRecv peer.mgr gate alloc data = some r ∧ DcFrame peer.mgr data r := by
  obtain ⟨h, M, hrun, hindexed⟩ := dcRun_returns DcHistory.start_indexed calls
  obtain ⟨peer, M', hrun', hindexed'⟩ := dcRun_returns DcHistory.start_indexed peerCalls
  exact ⟨h, peer, hrun, hrun', hindexed.delivers (dcRun_sendFn hrun) hindexed',
    hindexed'.recv_frame⟩

/-- A channel that is open on both sides. -/
example :
    let ours := dcRun .start [.create true {} [] (some 1), .recv true {} [0, 1, 2, 0, 0, 0]]
    let theirs := dcRun .start [.recv true {} [0, 1, 1, 0, 0, 0]]
    ours.map (·.mgr.stateOf 0) = some (some .opened)
      ∧ theirs.map (fun h => (dcFindById h.mgr 1, h.mgr.stateOf 0))
        = some (some (some 0), some .opened) := by
  decide +kernel

end Mrtc
