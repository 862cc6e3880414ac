import Mrtc.DataChannel.Manager

/-! # Calls on one manager (`rtc_data_channel.c`)

The calls on a manager and its channels, in any order and with any messages from the other side.
-/

namespace Mrtc

open Net List Function

inductive DcCall where
  | create (gate : Bool) (alloc : DcAlloc) (label : Bytes) (id : Option Nat)
  | send (gate : Bool) (alloc : DcAlloc) (dc : Nat) (data : Bytes)
  | close (gate : Bool) (alloc : DcAlloc) (dc : Nat)
  | recv (gate : Bool) (alloc : DcAlloc) (data : Bytes)
  | connected (gate : Bool) (alloc : DcAlloc)
  | onChannel (fn : Bool)
  deriving DecidableEq

def dcCall (mgr : DcManager) : DcCall → Option (DcManager × List DcEvent)
  | .create gate alloc label id =>
    (rtcDcManagerCreateChannel mgr gate alloc label id).map fun r => (r.2.1, [])
  | .send gate alloc dc data =>
    let r := rtcDataChannelSend mgr gate alloc dc data
    some (r.mgr, r.events)
  | .close gate alloc dc =>
    let r := rtcDataChannelClose mgr gate alloc dc
    some (r.mgr, r.events)
  | .recv gate alloc data =>
    (rtcDcManagerRecv mgr gate alloc data).map fun r => (r.mgr, r.events)
  | .connected gate alloc =>
    (rtcDcManagerOnDtlsConnected mgr gate alloc).map fun r => (r.1, [])
  | .onChannel fn => some ({ mgr with onChannel := fn }, [])

structure DcHistory where
  mgr : DcManager
  events : List DcEvent
  deriving DecidableEq

def DcHistory.start : DcHistory := ⟨rtcDcManagerInit {}, []⟩

def dcStep (h : DcHistory) (call : DcCall) : Option DcHistory :=
  (dcCall h.mgr call).map fun r => ⟨r.1, h.events ++ r.2⟩

def dcRun (h : DcHistory) (calls : List DcCall) : Option DcHistory := calls.foldlM dcStep h

def DcCall.opens (mgr : DcManager) : DcCall → Option Nat
  | .recv _ _ data =>
    if data.length < dcHeaderSize ∨ data.length < dcHeaderSize + readU16 data 4 then none
    else if data.getD 2 0 = dcMsgOpen then (dcFindById mgr (readU16 data 0)).join
    else none
  | _ => none

def DcCall.replaces (mgr : DcManager) : DcCall → Option Nat
  | .create gate alloc label id =>
    match rtcDcManagerCreateChannel mgr gate alloc label id with
    | some (some _, _) => (dcFindById mgr (dcTakeId mgr id).1).join
    | _ => none
  | _ => none

/-! ## What a call can do -/

structure DcManager.Indexed (mgr : DcManager) (M : Nat → Option Nat) : Prop where
  maps : mgr.Maps M
  found : ∀ id dc, M id = some dc → ∃ c, mgr.objects[dc]? = some c ∧ c.id = id
  small : ∀ c ∈ mgr.objects, c.id < 2 ^ 16

def DcQuiet (events : List DcEvent) : Prop := ∀ dc, .onOpen dc ∉ events ∧ .onClose dc ∉ events

inductive DcEffect (mgr : DcManager) (M : Nat → Option Nat) (call : DcCall) :
    DcManager → List DcEvent → (Nat → Option Nat) → Prop where
  | kept {mgr' : DcManager} {events : List DcEvent} (hobjects : mgr'.objects = mgr.objects)
      (hchannels : mgr'.channels = mgr.channels) (hquiet : DcQuiet events)
      (hreplaces : call.replaces mgr = none) : DcEffect mgr M call mgr' events M
  | added {mgr' : DcManager} {events : List DcEvent} (c : DataChannel)
      (hstate : c.state ≠ .closing) (hid : c.id < 2 ^ 16)
      (hobjects : mgr'.objects = mgr.objects ++ [c])
      (hmaps : mgr'.Maps (update M c.id (some mgr.objects.length)))
      (hquiet : DcQuiet events) (hreplaces : call.replaces mgr = M c.id) :
      DcEffect mgr M call mgr' events (update M c.id (some mgr.objects.length))
  /-- The other side has the channel. -/
  | acked (dc : Nat) (hstate : mgr.stateOf dc = some .connecting)
      (hreplaces : call.replaces mgr = none) :
      DcEffect mgr M call (mgr.setState dc .opened) [.onOpen dc] M
  | opened (dc : Nat) {state : DcState} (hstate : mgr.stateOf dc = some state)
      (hopens : call.opens mgr = some dc) (hreplaces : call.replaces mgr = none) :
      DcEffect mgr M call (mgr.setState dc .opened) [.onOpen dc] M
  | closed (dc : Nat) {state : DcState} (hstate : mgr.stateOf dc = some state)
      (hopen : state ≠ .closed) (hreplaces : call.replaces mgr = none) :
      DcEffect mgr M call (mgr.setState dc .closed) [.onClose dc] M

section Effect

variable {mgr : DcManager} {M : Nat → Option Nat}

theorem dcQuiet_nil : DcQuiet [] := fun _ => ⟨not_mem_nil, not_mem_nil⟩

theorem DcManager.Indexed.setState (h : mgr.Indexed M) (dc : Nat) (state : DcState) :
    (mgr.setState dc state).Indexed M where
  maps := h.maps.setState dc state
  found id dc' hdc' := by
    obtain ⟨c, hc, hid⟩ := h.found id dc' hdc'
    rw [DcManager.getElem?_setState, hc]
    refine ⟨_, rfl, ?_⟩
    split
    · exact hid
    · exact hid
  small c hc := by
    obtain ⟨dc', hdc'⟩ := getElem?_of_mem hc
    rw [DcManager.getElem?_setState] at hdc'
    obtain ⟨c', hc', rfl⟩ := Option.map_eq_some_iff.mp hdc'
    have hid := h.small c' (mem_of_getElem? hc')
    split
    · exact hid
    · exact hid

theorem DcEffect.indexed (h : mgr.Indexed M) {call : DcCall} {mgr' : DcManager}
    {events : List DcEvent} {M' : Nat → Option Nat} (heffect : DcEffect mgr M call mgr' events M') :
    mgr'.Indexed M' := by
  cases heffect with
  | kept hobjects hchannels =>
    refine ⟨?_, ?_, ?_⟩
    · unfold DcManager.Maps
      rw [hobjects, hchannels]
      exact h.maps
    · rw [hobjects]
      exact h.found
    · rw [hobjects]
      exact h.small
  | added c hstate hsmall hobjects hmaps =>
    refine ⟨hmaps, fun id dc hdc => ?_, fun c' hc' => ?_⟩
    · rw [hobjects]
      by_cases hid : id = c.id
      · grind
      · rw [update_of_ne hid] at hdc
        obtain ⟨c', hc', hid'⟩ := h.found id dc hdc
        obtain ⟨hlt, -⟩ := List.getElem?_eq_some_iff.mp hc'
        exact ⟨c', (getElem?_append_left hlt).trans hc', hid'⟩
    · rw [hobjects] at hc'
      rcases mem_append.mp hc' with hold | hnew
      · exact h.small c' hold
      · rw [mem_singleton.mp hnew]
        exact hsmall
  | acked dc => exact h.setState dc .opened
  | opened dc => exact h.setState dc .opened
  | closed dc => exact h.setState dc .closed

def DcCall.Returns (mgr : DcManager) (M : Nat → Option Nat) (call : DcCall) : Prop :=
  ∃ mgr' events M', dcCall mgr call = some (mgr', events) ∧ DcEffect mgr M call mgr' events M'

theorem dcTakeId_lt (mgr : DcManager) (id : Option Nat) : (dcTakeId mgr id).1 < 2 ^ 16 := by
  cases id with
  | none => exact Nat.mod_lt _ (by norm_num)
  | some i => exact Nat.mod_lt _ (by norm_num)

theorem rtcDcManagerCreateChannel_cases (h : mgr.Maps M) (gate : Bool) (alloc : DcAlloc)
    (label : Bytes) (id : Option Nat) :
    (∃ mgr', rtcDcManagerCreateChannel mgr gate alloc label id = some (none, mgr', [])
        ∧ mgr'.objects = mgr.objects ∧ mgr'.channels = mgr.channels)
      ∨ ∃ c mgr' out,
        rtcDcManagerCreateChannel mgr gate alloc label id
          = some (some mgr.objects.length, mgr', out)
        ∧ c.id = (dcTakeId mgr id).1 ∧ c.state = .connecting ∧ mgr'.objects = mgr.objects ++ [c]
        ∧ mgr'.Maps (update M c.id (some mgr.objects.length)) := by
  have hid := dcTakeId_lt mgr id
  by_cases hfull : dcMaxChannels ≤ rtcU32MapLen mgr.channels
  · exact .inl ⟨mgr, by rw [rtcDcManagerCreateChannel, if_pos hfull], rfl, rfl⟩
  by_cases halloc : (!alloc.channel) = true
  · exact .inl ⟨mgr, by rw [rtcDcManagerCreateChannel, if_neg hfull, if_pos halloc], rfl, rfl⟩
  rw [rtcDcManagerCreateChannel, if_neg hfull, if_neg halloc]
  dsimp only
  rcases @dcRegister_cases { mgr with nextId := (dcTakeId mgr id).2 } M h alloc
    ⟨label.take (dcMaxLabel - 1), (dcTakeId mgr id).1, .connecting, true⟩
    (show (dcTakeId mgr id).1 < 2 ^ 32 by omega) with ⟨hreg, -⟩ | ⟨m, hreg, hmaps⟩
  · rw [hreg]
    exact .inl ⟨_, rfl, rfl, rfl⟩
  · rw [hreg]
    exact .inr ⟨_, _, _, rfl, rfl, rfl, rfl, hmaps⟩

theorem dcAccept_cases (h : mgr.Maps M) (gate : Bool) (alloc : DcAlloc) {id : Nat}
    (hid : id < 2 ^ 16) (payload : Bytes) :
    ∃ r, dcAccept mgr gate alloc id payload = some r ∧ DcQuiet r.events
      ∧ ((r.mgr.objects = mgr.objects ∧ r.mgr.channels = mgr.channels)
        ∨ ∃ c : DataChannel, c.id = id ∧ c.state = .opened ∧ r.mgr.objects = mgr.objects ++ [c]
          ∧ r.mgr.Maps (update M c.id (some mgr.objects.length))) := by
  unfold dcAccept
  split
  · exact ⟨_, rfl, dcQuiet_nil, .inl ⟨rfl, rfl⟩⟩
  split
  · exact ⟨_, rfl, dcQuiet_nil, .inl ⟨rfl, rfl⟩⟩
  rcases dcRegister_cases h alloc (c := ⟨payload.take (dcMaxLabel - 1), id, .opened, false⟩)
    (show id < 2 ^ 32 by omega) with ⟨hreg, -⟩ | ⟨m, hreg, hmaps⟩
  · rw [hreg]
    exact ⟨_, rfl, dcQuiet_nil, .inl ⟨rfl, rfl⟩⟩
  · rw [hreg]
    refine ⟨_, rfl, fun dc => ?_, .inr ⟨_, rfl, rfl, rfl, hmaps⟩⟩
    dsimp only
    split <;> simp

theorem create_returns (h : mgr.Indexed M) (gate : Bool) (alloc : DcAlloc) (label : Bytes)
    (id : Option Nat) : (DcCall.create gate alloc label id).Returns mgr M := by
  have hid := dcTakeId_lt mgr id
  rcases rtcDcManagerCreateChannel_cases h.maps gate alloc label id with
    ⟨mgr', hcreate, hobjects, hchannels⟩ | ⟨c, mgr', out, hcreate, hc, hstate, hobjects, hmaps⟩
  · refine ⟨mgr', [], M, by rw [dcCall, hcreate, Option.map_some], ?_⟩
    exact .kept hobjects hchannels dcQuiet_nil (by rw [DcCall.replaces, hcreate])
  · refine ⟨mgr', [], update M c.id (some mgr.objects.length),
      by rw [dcCall, hcreate, Option.map_some], ?_⟩
    refine .added c (by simp [hstate]) (hc ▸ hid) hobjects hmaps dcQuiet_nil ?_
    rw [DcCall.replaces, hcreate]
    dsimp only
    rw [dcFindById_eq h.maps (by omega), hc]
    rfl

theorem close_returns (gate : Bool) (alloc : DcAlloc) (dc : Nat) :
    (DcCall.close gate alloc dc).Returns mgr M := by
  refine ⟨_, _, M, rfl, ?_⟩
  unfold rtcDataChannelClose
  cases hstate : mgr.stateOf dc with
  | none => exact .kept rfl rfl dcQuiet_nil rfl
  | some state =>
    cases state with
    | closed => exact .kept rfl rfl dcQuiet_nil rfl
    | opened => exact .closed dc hstate (by decide) rfl
    | connecting => exact .closed dc hstate (by decide) rfl
    | closing => exact .closed dc hstate (by decide) rfl

theorem recv_returns (h : mgr.Indexed M) (gate : Bool) (alloc : DcAlloc) (data : Bytes) :
    (DcCall.recv gate alloc data).Returns mgr M := by
  dsimp only [DcCall.Returns, dcCall, rtcDcManagerRecv]
  by_cases hshort : data.length < dcHeaderSize
  · rw [if_pos hshort]
    exact ⟨_, _, M, rfl, .kept rfl rfl dcQuiet_nil rfl⟩
  by_cases hcut : data.length < dcHeaderSize + readU16 data 4
  · rw [if_neg hshort, if_pos hcut]
    exact ⟨_, _, M, rfl, .kept rfl rfl dcQuiet_nil rfl⟩
  rw [if_neg hshort, if_neg hcut]
  have hid := readU16_lt data 0
  have hfind : dcFindById mgr (readU16 data 0) = some (M (readU16 data 0)) :=
    dcFindById_eq h.maps (by omega)
  unfold dcHandle
  rw [hfind]
  -- a message for an id that is not in the map has an effect only if it is OPEN
  cases hM : M (readU16 data 0) with
  | none =>
    dsimp only
    split
    · obtain ⟨r, hr, hquiet, hsame | ⟨c, hc, hstate, hobjects, hmaps⟩⟩ := dcAccept_cases h.maps
        gate alloc hid ((data.drop dcHeaderSize).take (readU16 data 4))
      · rw [hr]
        exact ⟨_, _, M, rfl, .kept hsame.1 hsame.2 hquiet rfl⟩
      · rw [hr]
        refine ⟨_, _, _, rfl, .added c (by simp [hstate]) (hc ▸ hid) hobjects hmaps hquiet ?_⟩
        rw [hc, hM]
        rfl
    · exact ⟨_, _, M, rfl, .kept rfl rfl dcQuiet_nil rfl⟩
  | some dc =>
    obtain ⟨c, hc, -⟩ := h.found _ dc hM
    have hstate : mgr.stateOf dc = some c.state := by rw [DcManager.stateOf, hc, Option.map_some]
    refine ⟨_, _, M, rfl, ?_⟩
    split_ifs with hopen hack hdata hclose
    · refine .opened dc hstate ?_ rfl
      rw [DcCall.opens, if_neg (not_or.mpr ⟨hshort, hcut⟩), if_pos hopen, hfind, hM]
      rfl
    · exact .acked dc hack.2 rfl
    · exact .kept rfl rfl (fun dc => by simp) rfl
    · refine .closed dc hstate (fun hclosed => hclose.2 ?_) rfl
      rw [hstate, hclosed]
    · exact .kept rfl rfl dcQuiet_nil rfl

/-- **What a call can do.** -/
theorem DcManager.Indexed.returns (h : mgr.Indexed M) (call : DcCall) : call.Returns mgr M := by
  cases call with
  | create gate alloc label id => exact create_returns h gate alloc label id
  | send gate alloc dc data =>
    refine ⟨_, _, M, rfl, ?_⟩
    unfold rtcDataChannelSend
    split <;> exact .kept rfl rfl dcQuiet_nil rfl
  | close gate alloc dc => exact close_returns gate alloc dc
  | recv gate alloc data => exact recv_returns h gate alloc data
  | connected gate alloc =>
    obtain ⟨l, hiter, -⟩ := HashTable.Sound.iterate h.maps
    refine ⟨_, [], M, by rw [dcCall, rtcDcManagerOnDtlsConnected, hiter]; rfl, ?_⟩
    exact .kept rfl rfl dcQuiet_nil rfl
  | onChannel fn => exact ⟨_, [], M, rfl, .kept rfl rfl dcQuiet_nil rfl⟩

theorem dcCall_of_opens {call : DcCall} {dc : Nat} (hopens : call.opens mgr = some dc) :
    dcCall mgr call = some (mgr.setState dc .opened, [.onOpen dc]) := by
  cases call with
  | recv gate alloc data =>
    rw [DcCall.opens] at hopens
    split at hopens
    · cases hopens
    rename_i hfits
    rw [not_or] at hfits
    split at hopens
    · rename_i hopen
      have hfind : dcFindById mgr (readU16 data 0) = some (some dc) :=
        Option.join_eq_some_iff.mp hopens
      rw [dcCall, rtcDcManagerRecv, if_neg hfits.1, if_neg hfits.2, dcHandle, hfind]
      dsimp only
      rw [if_pos hopen]
      rfl
    · cases hopens
  | create | send | close | connected | onChannel => cases hopens

end Effect

/-! ## Runs -/

section Run

theorem dcRun_append (h : DcHistory) (before after : List DcCall) :
    dcRun h (before ++ after) = (dcRun h before).bind fun h => dcRun h after :=
  foldlM_append

variable {h : DcHistory}

theorem dcRun_concat {h h' : DcHistory} {calls : List DcCall} (hrun : dcRun h calls = some h')
    (call : DcCall) : dcRun h (calls ++ [call]) = dcStep h' call := by
  rw [dcRun_append, hrun]
  show (dcStep h' call).bind some = dcStep h' call
  cases dcStep h' call <;> rfl

theorem dcRun_events {h' : DcHistory} {calls : List DcCall} (hrun : dcRun h calls = some h') :
    h.events <+: h'.events := by
  induction calls generalizing h with
  | nil =>
    cases hrun
    exact prefix_rfl
  | cons call calls ih =>
    obtain ⟨h₁, hstep, hrest⟩ := Option.bind_eq_some_iff.mp hrun
    obtain ⟨r, -, rfl⟩ := Option.map_eq_some_iff.mp hstep
    exact (prefix_append _ _).trans (ih hrest)

theorem DcHistory.start_indexed : DcHistory.start.mgr.Indexed fun _ => none where
  maps := maps_empty [] 0 true false false
  found _ _ h := by cases h
  small _ h := by cases h

theorem DcManager.Indexed.dcStep {M : Nat → Option Nat} (hM : h.mgr.Indexed M) (call : DcCall) :
    ∃ mgr' events M', Mrtc.dcStep h call = some ⟨mgr', h.events ++ events⟩
      ∧ DcEffect h.mgr M call mgr' events M' ∧ mgr'.Indexed M' := by
  obtain ⟨mgr', events, M', hcall, heffect⟩ := hM.returns call
  exact ⟨mgr', events, M', by rw [Mrtc.dcStep, hcall, Option.map_some], heffect, heffect.indexed hM⟩

/-- **Every run returns.** -/
theorem dcRun_returns {M : Nat → Option Nat} (hM : h.mgr.Indexed M) (calls : List DcCall) :
    ∃ h' M', dcRun h calls = some h' ∧ h'.mgr.Indexed M' := by
  induction calls using List.reverseRecOn with
  | nil => exact ⟨h, M, rfl, hM⟩
  | append_singleton calls call ih =>
    obtain ⟨h', M', hrun, hM'⟩ := ih
    obtain ⟨mgr'', events, M'', hstep, -, hM''⟩ := hM'.dcStep call
    exact ⟨_, M'', (dcRun_concat hrun call).trans hstep, hM''⟩

end Run

end Mrtc
