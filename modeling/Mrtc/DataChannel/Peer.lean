import Mrtc.DataChannel.Crossing

/-! # Data channels of a peer connection (`rtc_peer.c`)

Two peers whose DTLS sessions are connected.
-/

namespace Mrtc

open Net List Function

structure DcPeer where
  dc : DcManager := {}
  runtimeConnected : Bool := false
  onDataChannel : Bool := true
  deriving DecidableEq

def DcPeer.manager (p : DcPeer) : DcManager :=
  if !p.dc.sendFn then rtcDcManagerInit p.dc else p.dc

def rtcPeerConnectionCreateDataChannel (p : DcPeer) (alloc : DcAlloc) (label : Bytes)
    (id : Option Nat) : Option (Option Nat × DcPeer × List DcPacket) :=
  match rtcDcManagerCreateChannel p.manager p.runtimeConnected alloc label id with
  | none => none
  | some (dc, mgr, out) => some (dc, { p with dc := mgr }, out)

def peerRuntimeCompleteConnection (p : DcPeer) (alloc : DcAlloc) :
    Option (DcPeer × List DcPacket) :=
  if p.runtimeConnected then some (p, [])
  else
    match rtcDcManagerOnDtlsConnected p.manager true alloc with
    | none => none
    | some (mgr, out) =>
      some
        ({ p with
            dc := if p.onDataChannel then { mgr with onChannel := true } else mgr
            runtimeConnected := true }, out)

def peerRuntimeOnData (p : DcPeer) (alloc : DcAlloc) (data : Bytes) : Option DcResult :=
  rtcDcManagerRecv p.dc p.runtimeConnected alloc data

/-! ## Sessions of two peers -/

structure DcSession where
  peer : Side → DcPeer
  queue : Side → List DcPacket
  events : Side → List DcEvent

structure DcCreate where
  label : Bytes
  id : Option Nat := none
  alloc : DcAlloc := {}
  deriving DecidableEq

def dcCreateAll (p : DcPeer) : List DcCreate → Option DcPeer
  | [] => some p
  | call :: calls =>
    match rtcPeerConnectionCreateDataChannel p call.alloc call.label call.id with
    | none => none
    | some (_, p, _) => dcCreateAll p calls

def dcSessionStart (calls : Side → List DcCreate) : Option DcSession :=
  match dcCreateAll {} (calls .a), dcCreateAll {} (calls .b) with
  | some p, some q =>
    some
      { peer := fun x => match x with
          | .a => p
          | .b => q
        queue := fun _ => []
        events := fun _ => [] }
  | _, _ => none

inductive SessionOp where
  | complete (x : Side) (alloc : DcAlloc)
  | deliver (x : Side) (alloc : DcAlloc)
  deriving DecidableEq

def DcSession.put (s : DcSession) (x : Side) (p : DcPeer) (rest out : List DcPacket)
    (events : List DcEvent) : DcSession where
  peer := update s.peer x p
  queue := update (update s.queue x rest) x.other (s.queue x.other ++ out)
  events := update s.events x (s.events x ++ events)

def dcSessionStep (s : DcSession) : SessionOp → Option DcSession
  | .complete x alloc =>
    match peerRuntimeCompleteConnection (s.peer x) alloc with
    | none => none
    | some (p, out) => some (s.put x p (s.queue x) out [])
  | .deliver x alloc =>
    match s.queue x with
    | [] => some s
    | packet :: rest =>
      match peerRuntimeOnData (s.peer x) alloc packet.bytes with
      | none => none
      | some r => some (s.put x { s.peer x with dc := r.mgr } rest r.out r.events)

def dcSessionRun (s : DcSession) : List SessionOp → Option DcSession
  | [] => some s
  | op :: ops => (dcSessionStep s op).bind fun s => dcSessionRun s ops

/-- Both sides are connected and nothing is on its way. -/
def DcSession.Quiet (s : DcSession) : Prop :=
  ∀ x, (s.peer x).runtimeConnected = true ∧ s.queue x = []

/-- Every channel of `x` in `start` is open, it is open with the same label at the other side, and
`on_data_channel` was called there for it exactly once. -/
def DcSession.AllOpen (start s : DcSession) (x : Side) : Prop :=
  ∀ (dc : Nat) (c : DataChannel), (start.peer x).dc.objects[dc]? = some c →
    (s.peer x).dc.stateOf dc = some .opened
      ∧ ∃ (q : Nat) (c' : DataChannel), dcFindById (s.peer x.other).dc c.id = some (some q)
        ∧ (s.peer x.other).dc.objects[q]? = some c' ∧ c'.label = c.label ∧ c'.state = .opened
        ∧ (s.events x.other).count (.onChannel q) = 1

def DcSession.apart (s : DcSession) : Bool :=
  let objects := (s.peer .a).dc.objects ++ (s.peer .b).dc.objects
  decide ((objects.map DataChannel.id).Nodup) && decide (objects.length ≤ dcMaxChannels)

def DcAlloc.succeeds (alloc : DcAlloc) : Bool := alloc.channel && alloc.map && alloc.message

def SessionOp.timely (s : DcSession) : SessionOp → Bool
  | .complete _ alloc => alloc.succeeds
  | .deliver x alloc => (s.peer x).runtimeConnected && alloc.succeeds

def timelyRun (s : DcSession) : List SessionOp → Bool
  | [] => true
  | op :: ops =>
    op.timely s &&
      match dcSessionStep s op with
      | none => true
      | some s => timelyRun s ops

/-! ## Channels created before connecting -/

theorem DcPeer.manager_objects (p : DcPeer) : p.manager.objects = p.dc.objects := by
  unfold DcPeer.manager
  split
  · rfl
  · rfl

theorem DcPeer.manager_sendFn (p : DcPeer) : p.manager.sendFn = true := by
  unfold DcPeer.manager
  split
  · rfl
  · rename_i hsend
    simpa using hsend

variable {p : DcPeer}

theorem DcPeer.manager_wellMapped (hwell : p.dc.WellMapped)
    (hunused : p.dc.sendFn = false → p.dc.objects = []) : p.manager.WellMapped := by
  unfold DcPeer.manager
  cases hsend : p.dc.sendFn with
  | false => grind [rtcDcManagerInit, Bool.not_false, wellMapped_empty]
  | true =>
    rw [Bool.not_true, if_neg Bool.false_ne_true]
    exact hwell

def DcPeer.Sane (p : DcPeer) : Prop := ∃ S, U32Map.Represents p.dc.channels S

structure DcPeer.Fresh (p : DcPeer) : Prop where
  wellMapped : p.dc.WellMapped
  unused : p.dc.sendFn = false → p.dc.objects = []
  waiting : ∀ c ∈ p.dc.objects, c.state = .connecting ∧ c.locallyCreated = true
    ∧ c.label.length < dcMaxLabel ∧ c.id < 2 ^ 16

theorem DcPeer.Sane.create (h : p.Sane) (alloc : DcAlloc) (label : Bytes) (id : Option Nat) :
    ∃ dc p' out, rtcPeerConnectionCreateDataChannel p alloc label id = some (dc, p', out)
      ∧ p'.Sane ∧ p.dc.objects <+: p'.dc.objects
      ∧ p'.runtimeConnected = p.runtimeConnected ∧ p'.onDataChannel = p.onDataChannel := by
  have hmanager : ∃ S, U32Map.Represents p.manager.channels S := by
    unfold DcPeer.manager
    split
    · exact ⟨⟨fun _ => none, 0⟩, HashTable.sound_empty u32Hash u32MapEntrySize⟩
    · exact h
  obtain ⟨S, hS⟩ := hmanager
  rw [← p.manager_objects]
  unfold rtcPeerConnectionCreateDataChannel rtcDcManagerCreateChannel
  split_ifs with hfull hchannel
  · exact ⟨_, _, _, rfl, ⟨S, hS⟩, prefix_rfl, rfl, rfl⟩
  · exact ⟨_, _, _, rfl, ⟨S, hS⟩, prefix_rfl, rfl, rfl⟩
  · obtain ⟨rc, m, S', hset, _, hS'⟩ := U32Map.Represents.set hS
      (UInt32.ofNat (dcTakeId p.manager id).1) (some p.manager.objects.length) alloc.map
    cases rc with
    | error e =>
      simp only [dcRegister, hset]
      exact ⟨_, _, _, rfl, ⟨S', hS'⟩, prefix_rfl, rfl, rfl⟩
    | ok u =>
      simp only [dcRegister, hset]
      exact ⟨_, _, _, rfl, ⟨S', hS'⟩, prefix_append _ _, rfl, rfl⟩

theorem DcPeer.Fresh.create {p' : DcPeer} (h : p.Fresh) {alloc : DcAlloc}
    (hchannel : alloc.channel = true) (hmap : alloc.map = true) {label : Bytes} {id dc : Option Nat}
    {out : List DcPacket}
    (hcreate : rtcPeerConnectionCreateDataChannel p alloc label id = some (dc, p', out))
    (hnodup : (p'.dc.objects.map DataChannel.id).Nodup) : p'.Fresh := by
  have hwell := DcPeer.manager_wellMapped h.wellMapped h.unused
  have hwaiting : ∀ c ∈ p.manager.objects, c.state = .connecting ∧ c.locallyCreated = true
      ∧ c.label.length < dcMaxLabel ∧ c.id < 2 ^ 16 := by
    rw [p.manager_objects]
    exact h.waiting
  unfold rtcPeerConnectionCreateDataChannel at hcreate
  rcases Nat.lt_or_ge p.manager.objects.length dcMaxChannels with hroom | hfull
  · by_cases hnew : ∀ c ∈ p.manager.objects, c.id ≠ (dcTakeId p.manager id).1
    · obtain ⟨mgr', hwell', hobjects, _, hsend, hmgr⟩ :=
        hwell.create p.runtimeConnected hchannel hmap label id hnew hroom
      rw [hmgr] at hcreate
      cases hcreate
      refine ⟨hwell', ?_, ?_⟩
      · intro hnot
        rw [hsend, p.manager_sendFn] at hnot
        cases hnot
      · intro c hc
        have hid := hwell'.small c hc
        rw [hobjects] at hc
        rcases mem_append.mp hc with hold | hlast
        · exact hwaiting c hold
        · rw [mem_singleton] at hlast
          subst hlast
          refine ⟨rfl, rfl, ?_, hid⟩
          rw [length_take]
          exact lt_of_le_of_lt (Nat.min_le_left _ _) (by decide)
    · -- the new channel would repeat an id
      push Not at hnew
      obtain ⟨c, hc, hid⟩ := hnew
      have hsmall := hwell.small c hc
      have hfew := hwell.few
      have hmaps : DcManager.Maps { p.manager with nextId := (dcTakeId p.manager id).2 }
          (idMap p.manager.objects) := hwell.maps
      obtain ⟨m, hreg, _⟩ := dcRegister_ok hmaps hmap
        (c := ⟨label.take (dcMaxLabel - 1), (dcTakeId p.manager id).1, .connecting, true⟩)
        (by dsimp only; omega) (by dsimp only; omega)
      unfold rtcDcManagerCreateChannel at hcreate
      rw [hwell.len, if_neg (Nat.not_le.mpr hroom), hchannel] at hcreate
      simp only [Bool.not_true, Bool.false_eq_true, if_false, hreg] at hcreate
      cases hcreate
      rw [map_append, nodup_append] at hnodup
      exact absurd hid (hnodup.2.2 _ (mem_map_of_mem hc) _ (mem_singleton_self _))
  · have hfull' : rtcDcManagerCreateChannel p.manager p.runtimeConnected alloc label id
        = some (none, p.manager, []) := by
      unfold rtcDcManagerCreateChannel
      rw [hwell.len, if_pos hfull]
    rw [hfull'] at hcreate
    cases hcreate
    refine ⟨hwell, ?_, hwaiting⟩
    intro hnot
    rw [p.manager_sendFn] at hnot
    cases hnot

theorem dcCreateAll_some (calls : List DcCreate) : ∀ {p : DcPeer}, p.Sane →
    ∃ p', dcCreateAll p calls = some p' ∧ p.dc.objects <+: p'.dc.objects
      ∧ p'.runtimeConnected = p.runtimeConnected ∧ p'.onDataChannel = p.onDataChannel := by
  induction calls with
  | nil =>
    intro p _
    exact ⟨p, rfl, prefix_rfl, rfl, rfl⟩
  | cons call calls ih =>
    intro p h
    obtain ⟨dc, p₁, out, hcreate, h₁, hextends, hconnected, hregistered⟩ :=
      h.create call.alloc call.label call.id
    obtain ⟨p', hp', hextends', hconnected', hregistered'⟩ := ih h₁
    refine ⟨p', ?_, hextends.trans hextends', hconnected'.trans hconnected,
      hregistered'.trans hregistered⟩
    simp only [dcCreateAll, hcreate, hp']

theorem dcCreateAll_fresh (calls : List DcCreate)
    (halloc : ∀ call ∈ calls, call.alloc.succeeds = true) : ∀ {p p' : DcPeer}, p.Fresh →
    dcCreateAll p calls = some p' → (p'.dc.objects.map DataChannel.id).Nodup → p'.Fresh := by
  induction calls with
  | nil =>
    intro p p' h hp' _
    cases hp'
    exact h
  | cons call calls ih =>
    intro p p' h hp' hnodup
    have hsane : p.Sane := ⟨_, h.wellMapped.maps⟩
    obtain ⟨dc, p₁, out, hcreate, h₁, _⟩ := hsane.create call.alloc call.label call.id
    simp only [dcCreateAll, hcreate] at hp'
    obtain ⟨p₂, hp₂, hextends, _⟩ := dcCreateAll_some calls h₁
    rw [hp'] at hp₂
    cases hp₂
    have hsucceeds := halloc call mem_cons_self
    simp only [DcAlloc.succeeds, Bool.and_eq_true] at hsucceeds
    -- ids that are distinct in the end are distinct now
    have hnodup₁ : (p₁.dc.objects.map DataChannel.id).Nodup :=
      hnodup.sublist (hextends.sublist.map _)
    have hfresh : p₁.Fresh := h.create hsucceeds.1.1 hsucceeds.1.2 hcreate hnodup₁
    exact ih (fun c hc => halloc c (mem_cons_of_mem _ hc)) hfresh hp' hnodup

end Mrtc
