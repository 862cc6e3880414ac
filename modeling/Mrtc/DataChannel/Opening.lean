import Mrtc.DataChannel.Peer

/-! # Opening channels while the peers connect

The channels that were created before connecting open on both sides if no message is delivered to
a peer before it has completed (`SessionOp.timely`).
-/

namespace Mrtc

open Net List Function Side

/-! ## The invariant -/

section Put

variable (s : DcSession) (x : Side) (p : DcPeer) (rest out : List DcPacket)
  (events : List DcEvent)

@[simp] theorem DcSession.put_peer_self : (s.put x p rest out events).peer x = p :=
  update_self _ _ _

@[simp] theorem DcSession.put_peer_other :
    (s.put x p rest out events).peer x.other = s.peer x.other :=
  update_of_ne x.other_ne _ _

@[simp] theorem DcSession.put_queue_self : (s.put x p rest out events).queue x = rest := by
  unfold DcSession.put
  dsimp only
  rw [update_of_ne x.ne_other, update_self]

@[simp] theorem DcSession.put_queue_other :
    (s.put x p rest out events).queue x.other = s.queue x.other ++ out :=
  update_self _ _ _

@[simp] theorem DcSession.put_events_self :
    (s.put x p rest out events).events x = s.events x ++ events :=
  update_self _ _ _

@[simp] theorem DcSession.put_events_other :
    (s.put x p rest out events).events x.other = s.events x.other :=
  update_of_ne x.other_ne _ _

end Put

structure Prepared (own : Side → List DataChannel) : Prop where
  nodup : ∀ x, ((own x ++ own x.other).map DataChannel.id).Nodup
  room : ∀ x, (own x).length + (own x.other).length ≤ dcMaxChannels
  waiting : ∀ x, ∀ c ∈ own x, c.state = .connecting ∧ c.locallyCreated = true
    ∧ c.label.length < dcMaxLabel ∧ c.id < 2 ^ 16

namespace Prepared

variable {own : Side → List DataChannel}

theorem ne (h : Prepared own) {x : Side} {c c' : DataChannel} (hc : c ∈ own x)
    (hc' : c' ∈ own x.other) : c.id ≠ c'.id := by
  have hnodup := h.nodup x
  rw [map_append, nodup_append] at hnodup
  exact hnodup.2.2 _ (mem_map_of_mem hc) _ (mem_map_of_mem hc')

theorem unique (h : Prepared own) {x : Side} {i j : Nat} {c c' : DataChannel}
    (hc : (own x)[i]? = some c) (hc' : (own x)[j]? = some c') (hid : c.id = c'.id) : i = j := by
  have hnodup : ((own x).map DataChannel.id).Nodup := by
    have hboth := h.nodup x
    rw [map_append, nodup_append] at hboth
    exact hboth.1
  have hi := (idMap_eq_some hnodup).mpr ⟨c, hc, rfl⟩
  have hj := (idMap_eq_some hnodup).mpr ⟨c', hc', hid.symm⟩
  rw [hi] at hj
  exact Option.some.inj hj

end Prepared

def openBytes (c : DataChannel) : Bytes := dcMessage c.id dcMsgOpen c.label
def ackBytes (c : DataChannel) : Bytes := dcMessage c.id dcMsgAck []

theorem dcMessage_inj {id id' : Nat} (hid : id < 2 ^ 16) (hid' : id' < 2 ^ 16)
    {msgType msgType' : UInt8} {payload payload' : Bytes}
    (h : dcMessage id msgType payload = dcMessage id' msgType' payload') :
    id = id' ∧ msgType = msgType' := by
  constructor
  · have hread := congrArg (readU16 · 0) h
    simp only [dcMessage, append_assoc] at hread
    rwa [readU16_writeU16 hid, readU16_writeU16 hid'] at hread
  · have htype := congrArg (·.getD 2 0) h
    simp only [dcMessage_type] at htype
    exact htype

namespace Prepared

variable {own : Side → List DataChannel} {x y : Side} {c c' : DataChannel}

theorem message_inj (h : Prepared own) (hc : c ∈ own x) (hc' : c' ∈ own y)
    {msgType msgType' : UInt8} {payload payload' : Bytes}
    (heq : dcMessage c.id msgType payload = dcMessage c'.id msgType' payload') :
    c.id = c'.id ∧ msgType = msgType' :=
  dcMessage_inj (h.waiting x c hc).2.2.2 (h.waiting y c' hc').2.2.2 heq

theorem open_ne_ack (h : Prepared own) (hc : c ∈ own x) (hc' : c' ∈ own y) :
    openBytes c ≠ ackBytes c' :=
  fun heq => absurd (h.message_inj hc hc' heq).2 (by decide)

end Prepared

structure DcSession.OpeningAt (own : Side → List DataChannel) (s : DcSession) (x : Side) : Prop where
  wellMapped : (s.peer x).dc.WellMapped
  registered : (s.peer x).onDataChannel = true
  before : (s.peer x).runtimeConnected = false →
    (s.peer x).dc.objects = own x ∧ ((s.peer x).dc.sendFn = false → own x = [])
  after : (s.peer x).runtimeConnected = true →
    (s.peer x).dc.sendFn = true ∧ (s.peer x).dc.onChannel = true
  stays : ∀ (i : Nat) (c : DataChannel), (own x)[i]? = some c →
    ∃ c', (s.peer x).dc.objects[i]? = some c' ∧ c'.id = c.id
      ∧ (c'.state = .connecting ∨ c'.state = .opened)
  ids : ∀ c' ∈ (s.peer x).dc.objects, ∃ c ∈ own x ++ own x.other, c.id = c'.id
  packets : ∀ packet ∈ s.queue x, (∃ c ∈ own x.other, packet.bytes = openBytes c)
    ∨ ∃ c ∈ own x, packet.bytes = ackBytes c
  opening : (s.peer x).runtimeConnected = true → ∀ c ∈ own x,
    (∃ packet ∈ s.queue x.other, packet.bytes = openBytes c)
      ∨ ∃ c' ∈ (s.peer x.other).dc.objects, c'.id = c.id
  made : ∀ (i : Nat) (c : DataChannel), (own x)[i]? = some c → ∀ (q : Nat) (c' : DataChannel),
    (s.peer x.other).dc.objects[q]? = some c' → c'.id = c.id →
      c'.label = c.label ∧ c'.state = .opened ∧ (s.events x.other).count (.onChannel q) = 1
        ∧ ((∃ packet ∈ s.queue x, packet.bytes = ackBytes c)
          ∨ (s.peer x).dc.stateOf i = some .opened)
  announced : ∀ q, .onChannel q ∈ s.events x → q < (s.peer x).dc.objects.length

def DcSession.Opening (own : Side → List DataChannel) (s : DcSession) : Prop :=
  ∀ x, s.OpeningAt own x

def DcManager.Advances (mgr mgr' : DcManager) : Prop :=
  ∀ (q : Nat) (c : DataChannel), mgr.objects[q]? = some c →
    ∃ c', mgr'.objects[q]? = some c' ∧ c'.fixed = c.fixed
      ∧ (c'.state = c.state ∨ c'.state = .opened)

namespace DcManager.Advances

variable {mgr mgr' : DcManager}

section

variable (h : mgr.Advances mgr')
include h

theorem length_le : mgr.objects.length ≤ mgr'.objects.length := by
  by_contra hlt
  have hlast := getElem?_eq_getElem (Nat.not_le.mp hlt)
  obtain ⟨c', hc', _⟩ := h _ _ hlast
  exact absurd (List.getElem?_eq_some_iff.mp hc').1 (lt_irrefl _)

theorem stateOf_opened {dc : Nat} (hopened : mgr.stateOf dc = some .opened) :
    mgr'.stateOf dc = some .opened := by
  obtain ⟨c, hc, hstate⟩ := Option.map_eq_some_iff.mp hopened
  obtain ⟨c', hc', _, hsame | hopen⟩ := h dc c hc
  · exact Option.map_eq_some_iff.mpr ⟨c', hc', hsame.trans hstate⟩
  · exact Option.map_eq_some_iff.mpr ⟨c', hc', hopen⟩

theorem mem_id {id : Nat} (hmem : ∃ c ∈ mgr.objects, c.id = id) :
    ∃ c ∈ mgr'.objects, c.id = id := by
  obtain ⟨c, hc, hid⟩ := hmem
  obtain ⟨q, hq⟩ := mem_iff_getElem?.mp hc
  obtain ⟨c', hc', hfixed, _⟩ := h q c hq
  exact ⟨c', mem_of_getElem? hc', (congrArg DcFixed.id hfixed).trans hid⟩

end

theorem refl (mgr : DcManager) : mgr.Advances mgr :=
  fun _ c hc => ⟨c, hc, rfl, Or.inl rfl⟩

theorem setState_opened (mgr : DcManager) (dc : Nat) : mgr.Advances (mgr.setState dc .opened) := by
  intro q c hc
  unfold DcManager.setState
  dsimp only
  rw [getElem?_modify, hc]
  by_cases hq : dc = q
  · simp only [if_pos hq]
    exact ⟨_, rfl, rfl, Or.inr rfl⟩
  · simp only [if_neg hq]
    exact ⟨c, rfl, rfl, Or.inl rfl⟩

end DcManager.Advances

namespace DcSession.Opening

variable {own : Side → List DataChannel} {s : DcSession} {x : Side} {packet : DcPacket}
  {rest : List DcPacket} {r : DcResult} {c : DataChannel} {alloc : DcAlloc}

structure Handled (own : Side → List DataChannel) (s : DcSession) (x : Side) (packet : DcPacket)
    (r : DcResult) : Prop where
  wellMapped : r.mgr.WellMapped
  sendFn : r.mgr.sendFn = true
  onChannel : r.mgr.onChannel = true
  advances : (s.peer x).dc.Advances r.mgr
  new : ∀ (q : Nat) (c' : DataChannel), r.mgr.objects[q]? = some c' →
    q < (s.peer x).dc.objects.length ∨ ((s.peer x).dc.objects.length ≤ q
      ∧ ∃ c ∈ own x.other, c'.id = c.id ∧ c'.label = c.label ∧ c'.state = .opened
        ∧ r.events.count (.onChannel q) = 1 ∧ ∃ packet ∈ r.out, packet.bytes = ackBytes c)
  events : ∀ q, .onChannel q ∈ r.events →
    (s.peer x).dc.objects.length ≤ q ∧ q < r.mgr.objects.length
  opens : ∀ c ∈ own x.other, packet.bytes = openBytes c → ∃ c' ∈ r.mgr.objects, c'.id = c.id
  acks : ∀ (i : Nat) (c : DataChannel), (own x)[i]? = some c → packet.bytes = ackBytes c →
    r.mgr.stateOf i = some .opened
  out : ∀ packet ∈ r.out, ∃ c ∈ own x.other, packet.bytes = ackBytes c

theorem head_or_rest (hqueue : s.queue x = packet :: rest) {P : DcPacket → Prop}
    (hP : ∃ packet' ∈ s.queue x, P packet') : P packet ∨ ∃ packet' ∈ rest, P packet' := by
  rw [hqueue] at hP
  simpa using hP

theorem deliver_self (h : s.Opening own) (hqueue : s.queue x = packet :: rest)
    (hconnected : (s.peer x).runtimeConnected = true) (hr : Handled own s x packet r) :
    (s.put x { s.peer x with dc := r.mgr } rest r.out r.events).OpeningAt own x := by
  constructor <;> simp only [put_peer_self, put_peer_other, put_queue_self, put_queue_other,
    put_events_self, put_events_other]
  case wellMapped => exact hr.wellMapped
  case registered => exact (h x).registered
  case before =>
    intro hnot
    rw [hconnected] at hnot
    cases hnot
  case after => exact fun _ => ⟨hr.sendFn, hr.onChannel⟩
  case stays =>
    intro i c hc
    obtain ⟨c', hc', hid, hstate⟩ := (h x).stays i c hc
    obtain ⟨c'', hc'', hfixed, hnext⟩ := hr.advances i c' hc'
    refine ⟨c'', hc'', (congrArg DcFixed.id hfixed).trans hid, ?_⟩
    rcases hnext with hsame | hopened
    · rw [hsame]
      exact hstate
    · exact Or.inr hopened
  case ids =>
    intro c' hc'
    obtain ⟨q, hq⟩ := mem_iff_getElem?.mp hc'
    rcases hr.new q c' hq with hold | ⟨_, c, hc, hid, _⟩
    · obtain ⟨c'', hc'', hfixed, _⟩ := hr.advances q _ (getElem?_eq_getElem hold)
      rw [hq] at hc''
      cases hc''
      obtain ⟨c, hc, hid⟩ := (h x).ids _ (getElem_mem hold)
      exact ⟨c, hc, hid.trans (congrArg DcFixed.id hfixed).symm⟩
    · exact ⟨c, mem_append_right _ hc, hid.symm⟩
  case packets =>
    intro packet' hpacket'
    apply (h x).packets
    rw [hqueue]
    exact mem_cons_of_mem _ hpacket'
  case opening =>
    intro _ c hc
    rcases (h x).opening hconnected c hc with ⟨packet', hmem, hbytes⟩ | hmade
    · exact Or.inl ⟨packet', mem_append_left _ hmem, hbytes⟩
    · exact Or.inr hmade
  case made =>
    intro i c hc q c' hc' hid
    obtain ⟨hlabel, hstate, hcount, hack⟩ := (h x).made i c hc q c' hc' hid
    refine ⟨hlabel, hstate, hcount, ?_⟩
    rcases hack with hwaits | hopened
    · rcases head_or_rest hqueue hwaits with hhere | hlater
      · exact Or.inr (hr.acks i c hc hhere)
      · exact Or.inl hlater
    · exact Or.inr (hr.advances.stateOf_opened hopened)
  case announced =>
    intro q hmem
    rcases mem_append.mp hmem with hold | hnew
    · exact lt_of_lt_of_le ((h x).announced q hold) hr.advances.length_le
    · exact (hr.events q hnew).2

theorem deliver_other (h : s.Opening own) (hown : Prepared own)
    (hqueue : s.queue x = packet :: rest) (hr : Handled own s x packet r) :
    (s.put x { s.peer x with dc := r.mgr } rest r.out r.events).OpeningAt own x.other := by
  have hx := h x.other
  constructor <;> simp only [put_peer_self, put_peer_other, put_queue_self, put_queue_other,
    put_events_self, put_events_other, other_other]
  case wellMapped => exact hx.wellMapped
  case registered => exact hx.registered
  case before => exact hx.before
  case after => exact hx.after
  case stays => exact hx.stays
  case ids => simpa only [other_other] using hx.ids
  case packets =>
    intro packet' hpacket'
    rcases mem_append.mp hpacket' with hold | hsent
    · simpa only [other_other] using hx.packets packet' hold
    · exact Or.inr (hr.out packet' hsent)
  case opening =>
    intro hconnected c hc
    have hopening := hx.opening hconnected c hc
    rw [other_other] at hopening
    rcases hopening with hwaits | hmade
    · rcases head_or_rest hqueue hwaits with hhere | hlater
      · exact Or.inr (hr.opens c hc hhere)
      · exact Or.inl hlater
    · exact Or.inr (hr.advances.mem_id hmade)
  case made =>
    intro i c hc q c' hc' hid
    rcases hr.new q c' hc' with hold | ⟨hge, c₁, hc₁, hid₁, hlabel, hstate, hcount, hack⟩
    · obtain ⟨c'', hc'', hfixed, hnext⟩ := hr.advances q _ (getElem?_eq_getElem hold)
      rw [hc'] at hc''
      cases hc''
      have hmade := hx.made i c hc
      rw [other_other] at hmade
      obtain ⟨hlabel, hstate, hcount, hack⟩ := hmade q _ (getElem?_eq_getElem hold)
        ((congrArg DcFixed.id hfixed).symm.trans hid)
      refine ⟨(congrArg DcFixed.label hfixed).trans hlabel, ?_, ?_, ?_⟩
      · grind
      · -- it is not announced again
        have hnone : r.events.count (.onChannel q) = 0 := by
          grind [count_eq_zero, Nat.not_lt, hr.events]
        rw [count_append, hcount, hnone]
      · grind
    · -- the ids of one side's channels are distinct, so it was made for this one
      obtain ⟨j, hj⟩ := mem_iff_getElem?.mp hc₁
      obtain rfl := hown.unique hj hc (hid₁.symm.trans hid)
      rw [hj] at hc
      cases hc
      have hnone : (s.events x).count (.onChannel q) = 0 := by
        rw [count_eq_zero]
        intro hmem
        exact absurd ((h x).announced q hmem) (Nat.not_lt.mpr hge)
      refine ⟨hlabel, hstate, ?_, Or.inl ?_⟩
      · rw [count_append, hcount, hnone]
      · grind
  case announced => exact hx.announced

theorem deliver (h : s.Opening own) (hown : Prepared own) (hqueue : s.queue x = packet :: rest)
    (hconnected : (s.peer x).runtimeConnected = true) (hr : Handled own s x packet r) :
    (s.put x { s.peer x with dc := r.mgr } rest r.out r.events).Opening own := by
  intro y
  rcases x.eq_or_other y with rfl | rfl
  · exact h.deliver_self hqueue hconnected hr
  · exact h.deliver_other hown hqueue hr

/-! ### Messages -/

theorem room (h : s.Opening own) (hown : Prepared own) (hc : c ∈ own x.other)
    (habsent : ∀ c' ∈ (s.peer x).dc.objects, c'.id ≠ c.id) :
    (s.peer x).dc.objects.length < dcMaxChannels := by
  calc (s.peer x).dc.objects.length
      < ((own x ++ own x.other).map DataChannel.id).length :=
        (h x).wellMapped.length_lt habsent (mem_map_of_mem (mem_append_right _ hc))
          fun c' hc' => mem_map.mpr ((h x).ids c' hc')
    _ = (own x).length + (own x.other).length := by rw [length_map, length_append]
    _ ≤ dcMaxChannels := hown.room x

section

variable (h : s.Opening own)
include h

theorem handled_accept (hown : Prepared own) (hconnected : (s.peer x).runtimeConnected = true)
    (halloc : alloc.succeeds = true) (hc : c ∈ own x.other) (hbytes : packet.bytes = openBytes c)
    (habsent : idMap (s.peer x).dc.objects c.id = none) :
    ∃ r, dcHandle (s.peer x).dc true alloc c.id dcMsgOpen c.label = some r
      ∧ Handled own s x packet r := by
  simp only [DcAlloc.succeeds, Bool.and_eq_true] at halloc
  obtain ⟨⟨hchannel, hmap⟩, hmessage⟩ := halloc
  obtain ⟨hsend, honChannel⟩ := (h x).after hconnected
  obtain ⟨_, _, hlabel, hid⟩ := hown.waiting x.other c hc
  have hnew := idMap_eq_none.mp habsent
  obtain ⟨mgr', hwell, hobjects, _, hsend', hon', haccept⟩ :=
    (h x).wellMapped.accept true hchannel hmap hid hnew (h.room hown hc hnew) hlabel
  have hlast : mgr'.objects[(s.peer x).dc.objects.length]?
      = some ⟨c.label, c.id, .opened, false⟩ := by
    rw [hobjects, getElem?_append_right (le_refl _), Nat.sub_self]
    rfl
  have hack : (dcSendMessage mgr' true alloc (s.peer x).dc.objects.length dcMsgAck []).2
      = [⟨(s.peer x).dc.objects.length, ackBytes c⟩] :=
    congrArg Prod.snd (dcSendMessage_ok hlast (hsend'.trans hsend) hmessage dcMsgAck
      (Nat.zero_le _))
  rw [dcHandle_absent (h x).wellMapped true alloc hid habsent, if_pos rfl, haccept]
  refine ⟨_, rfl, ?_⟩
  rw [hack, honChannel]
  constructor <;> dsimp only
  case wellMapped => exact hwell
  case sendFn => exact hsend'.trans hsend
  case onChannel => exact hon'.trans honChannel
  case advances =>
    intro q c' hc'
    refine ⟨c', ?_, rfl, Or.inl rfl⟩
    rw [hobjects, getElem?_append_left (List.getElem?_eq_some_iff.mp hc').1]
    exact hc'
  case new =>
    intro q c' hc'
    rcases Nat.lt_or_ge q (s.peer x).dc.objects.length with hlt | hge
    · exact Or.inl hlt
    · obtain ⟨hq, _⟩ := List.getElem?_eq_some_iff.mp hc'
      rw [hobjects, length_append, length_singleton] at hq
      obtain rfl : q = (s.peer x).dc.objects.length := by omega
      rw [hlast] at hc'
      cases hc'
      exact Or.inr ⟨hge, c, hc, rfl, rfl, rfl, by simp, _, mem_singleton_self _, rfl⟩
  case events =>
    intro q hmem
    rw [if_pos rfl, mem_singleton] at hmem
    cases hmem
    rw [hobjects, length_append, length_singleton]
    exact ⟨le_refl _, Nat.lt_succ_self _⟩
  case opens =>
    intro c₁ hc₁ hbytes₁
    have hsame := (hown.message_inj hc hc₁ (hbytes.symm.trans hbytes₁)).1
    exact ⟨_, mem_of_getElem? hlast, hsame⟩
  case acks =>
    intro i c₁ hc₁ hbytes₁
    exact absurd (hbytes.symm.trans hbytes₁)
      (hown.open_ne_ack hc (mem_of_getElem? hc₁))
  case out =>
    intro packet' hmem
    rw [mem_singleton] at hmem
    subst hmem
    exact ⟨c, hc, rfl⟩

theorem handled_state (hconnected : (s.peer x).runtimeConnected = true)
    (hmgr : r.mgr = (s.peer x).dc ∨ ∃ dc, r.mgr = (s.peer x).dc.setState dc .opened)
    (hevents : ∀ q, .onChannel q ∉ r.events)
    (hopens : ∀ c ∈ own x.other, packet.bytes = openBytes c →
      ∃ c' ∈ (s.peer x).dc.objects, c'.id = c.id)
    (hacks : ∀ (i : Nat) (c : DataChannel), (own x)[i]? = some c → packet.bytes = ackBytes c →
      r.mgr.stateOf i = some .opened)
    (hout : ∀ packet ∈ r.out, ∃ c ∈ own x.other, packet.bytes = ackBytes c) :
    Handled own s x packet r := by
  have hafter := (h x).after hconnected
  have hwell := (h x).wellMapped
  have hkept : r.mgr.WellMapped ∧ (s.peer x).dc.Advances r.mgr
      ∧ r.mgr.objects.length = (s.peer x).dc.objects.length
      ∧ r.mgr.sendFn = true ∧ r.mgr.onChannel = true := by
    rcases hmgr with hmgr | ⟨dc, hmgr⟩
    · rw [hmgr]
      exact ⟨hwell, DcManager.Advances.refl _, rfl, hafter⟩
    · rw [hmgr]
      exact ⟨hwell.setState dc _, DcManager.Advances.setState_opened _ dc,
        length_modify _ _ _, hafter⟩
  obtain ⟨hwell', hadvances, hlength, hsend, honChannel⟩ := hkept
  refine ⟨hwell', hsend, honChannel, hadvances, ?_, ?_, ?_, hacks, hout⟩
  · intro q c' hc'
    rw [← hlength]
    exact Or.inl (List.getElem?_eq_some_iff.mp hc').1
  · intro q hmem
    exact absurd hmem (hevents q)
  · intro c hc hbytes
    exact hadvances.mem_id (hopens c hc hbytes)

theorem handled_again (hown : Prepared own) (hconnected : (s.peer x).runtimeConnected = true)
    (halloc : alloc.succeeds = true) (hc : c ∈ own x.other) (hbytes : packet.bytes = openBytes c)
    {dc : Nat} (hfound : idMap (s.peer x).dc.objects c.id = some dc) :
    ∃ r, dcHandle (s.peer x).dc true alloc c.id dcMsgOpen c.label = some r
      ∧ Handled own s x packet r := by
  simp only [DcAlloc.succeeds, Bool.and_eq_true] at halloc
  obtain ⟨hsend, _⟩ := (h x).after hconnected
  obtain ⟨_, _, _, hid⟩ := hown.waiting x.other c hc
  obtain ⟨c', hc', hid'⟩ := (idMap_eq_some (h x).wellMapped.nodup).mp hfound
  have hack : (dcSendMessage (s.peer x).dc true alloc dc dcMsgAck []).2 = [⟨dc, ackBytes c⟩] := by
    rw [dcSendMessage_ok hc' hsend halloc.2 dcMsgAck (Nat.zero_le _), hid']
    rfl
  unfold dcHandle
  rw [(h x).wellMapped.find hid, hfound]
  refine ⟨_, rfl, ?_⟩
  rw [if_pos rfl, hack]
  apply h.handled_state hconnected
  · exact Or.inr ⟨dc, rfl⟩
  · simp
  · intro c₁ hc₁ hbytes₁
    have hsame := (hown.message_inj hc hc₁ (hbytes.symm.trans hbytes₁)).1
    exact ⟨c', mem_of_getElem? hc', hid'.trans hsame⟩
  · intro i c₁ hc₁ hbytes₁
    exact absurd (hbytes.symm.trans hbytes₁)
      (hown.open_ne_ack hc (mem_of_getElem? hc₁))
  · grind

theorem handled_ack (hown : Prepared own) (hconnected : (s.peer x).runtimeConnected = true)
    {i : Nat} (hc : (own x)[i]? = some c) (hbytes : packet.bytes = ackBytes c) :
    ∃ r, dcHandle (s.peer x).dc true alloc c.id dcMsgAck [] = some r
      ∧ Handled own s x packet r := by
  obtain ⟨_, _, _, hid⟩ := hown.waiting x c (mem_of_getElem? hc)
  obtain ⟨c', hc', hid', hstate⟩ := (h x).stays i c hc
  have hfound := (idMap_eq_some (h x).wellMapped.nodup).mpr ⟨c', hc', hid'⟩
  have hstateOf : (s.peer x).dc.stateOf i = some c'.state :=
    Option.map_eq_some_iff.mpr ⟨c', hc', rfl⟩
  have hopens : ∀ c₁ ∈ own x.other, packet.bytes = openBytes c₁ →
      ∃ c₂ ∈ (s.peer x).dc.objects, c₂.id = c₁.id := by
    intro c₁ hc₁ hbytes₁
    exact absurd (hbytes₁.symm.trans hbytes)
      (hown.open_ne_ack hc₁ (mem_of_getElem? hc))
  -- only this channel is acknowledged
  have hsame : ∀ (j : Nat) (c₁ : DataChannel), (own x)[j]? = some c₁ →
      packet.bytes = ackBytes c₁ → j = i := by
    intro j c₁ hc₁ hbytes₁
    exact hown.unique hc₁ hc (hown.message_inj (mem_of_getElem? hc₁)
      (mem_of_getElem? hc) (hbytes₁.symm.trans hbytes)).1
  unfold dcHandle
  rw [(h x).wellMapped.find hid, hfound]
  refine ⟨_, rfl, ?_⟩
  rw [if_neg (by decide), hstateOf]
  rcases hstate with hwaits | hopened
  · rw [if_pos ⟨rfl, by rw [hwaits]⟩]
    apply h.handled_state hconnected
    · exact Or.inr ⟨i, rfl⟩
    · simp
    · exact hopens
    · grind [DcManager.stateOf_setState]
    · simp
  · rw [hopened, if_neg (by simp), if_neg (by simp [dcMsgAck, dcMsgData]),
      if_neg (by simp [dcMsgAck, dcMsgClose])]
    apply h.handled_state hconnected
    · exact Or.inl rfl
    · simp
    · exact hopens
    · intro j c₁ hc₁ hbytes₁
      rw [hsame j c₁ hc₁ hbytes₁, hstateOf, hopened]
    · simp

theorem deliver_step (hown : Prepared own) (hconnected : (s.peer x).runtimeConnected = true)
    (halloc : alloc.succeeds = true) :
    ∃ s', dcSessionStep s (.deliver x alloc) = some s' ∧ s'.Opening own := by
  cases hqueue : s.queue x with
  | nil => exact ⟨s, by simp only [dcSessionStep, hqueue], h⟩
  | cons packet rest =>
    suffices hhandle : ∃ r, peerRuntimeOnData (s.peer x) alloc packet.bytes = some r
        ∧ Handled own s x packet r by grind [dcSessionStep, h.deliver]
    unfold peerRuntimeOnData
    rw [hconnected]
    rcases (h x).packets packet (hqueue ▸ mem_cons_self) with
      ⟨c, hc, hbytes⟩ | ⟨c, hc, hbytes⟩
    · obtain ⟨_, _, hlabel, hid⟩ := hown.waiting x.other c hc
      have hlen : c.label.length ≤ dcMaxMsgSize := hlabel.le.trans (by decide)
      rw [hbytes, openBytes, rtcDcManagerRecv_message _ _ _ hid _ hlen]
      cases hfound : idMap (s.peer x).dc.objects c.id with
      | none => exact h.handled_accept hown hconnected halloc hc hbytes hfound
      | some dc => exact h.handled_again hown hconnected halloc hc hbytes hfound
    · obtain ⟨_, _, _, hid⟩ := hown.waiting x c hc
      obtain ⟨i, hi⟩ := mem_iff_getElem?.mp hc
      rw [hbytes, ackBytes, rtcDcManagerRecv_message _ _ _ hid _ (Nat.zero_le _)]
      exact h.handled_ack hown hconnected hi hbytes

/-! ### Completing the connection -/

theorem complete {p : DcPeer} {out : List DcPacket} (hwell : p.dc.WellMapped)
    (hregistered : p.onDataChannel = true) (hconnected : p.runtimeConnected = true)
    (hsend : p.dc.sendFn = true) (honChannel : p.dc.onChannel = true)
    (hobjects : p.dc.objects = (s.peer x).dc.objects)
    (hall : ∀ c ∈ own x, ∃ packet ∈ out, packet.bytes = openBytes c)
    (honly : ∀ packet ∈ out, ∃ c ∈ own x, packet.bytes = openBytes c) :
    (s.put x p (s.queue x) out []).Opening own := by
  have hstate : ∀ i, p.dc.stateOf i = (s.peer x).dc.stateOf i := by
    intro i
    unfold DcManager.stateOf
    rw [hobjects]
  intro y
  rcases x.eq_or_other y with rfl | rfl
  · constructor <;> simp only [put_peer_self, put_peer_other, put_queue_self, put_queue_other,
      put_events_self, put_events_other, append_nil, hobjects, hstate]
    case wellMapped => exact hwell
    case registered => exact hregistered
    case before =>
      intro hnot
      rw [hconnected] at hnot
      cases hnot
    case after => exact fun _ => ⟨hsend, honChannel⟩
    case stays => exact (h y).stays
    case ids => exact (h y).ids
    case packets => exact (h y).packets
    case opening =>
      intro _ c hc
      obtain ⟨packet, hmem, hbytes⟩ := hall c hc
      exact Or.inl ⟨packet, mem_append_right _ hmem, hbytes⟩
    case made => exact (h y).made
    case announced => exact (h y).announced
  · have hx := h x.other
    constructor <;> simp only [put_peer_self, put_peer_other, put_queue_self, put_queue_other,
      put_events_self, put_events_other, append_nil, hobjects, other_other]
    case wellMapped => exact hx.wellMapped
    case registered => exact hx.registered
    case before => exact hx.before
    case after => exact hx.after
    case stays => exact hx.stays
    case ids => simpa only [other_other] using hx.ids
    case packets =>
      intro packet hmem
      rcases mem_append.mp hmem with hold | hnew
      · simpa only [other_other] using hx.packets packet hold
      · exact Or.inl (honly packet hnew)
    case opening => simpa only [other_other] using hx.opening
    case made =>
      intro i c hc q c' hc' hid
      have hmade := hx.made i c hc
      rw [other_other] at hmade
      obtain ⟨hlabel, hstate, hcount, hack⟩ := hmade q c' hc' hid
      refine ⟨hlabel, hstate, hcount, ?_⟩
      rcases hack with ⟨packet, hmem, hbytes⟩ | hopened
      · exact Or.inl ⟨packet, mem_append_left _ hmem, hbytes⟩
      · exact Or.inr hopened
    case announced => exact hx.announced

theorem complete_step (hown : Prepared own) (halloc : alloc.succeeds = true) :
    ∃ s', dcSessionStep s (.complete x alloc) = some s' ∧ s'.Opening own := by
  simp only [DcAlloc.succeeds, Bool.and_eq_true] at halloc
  cases hconnected : (s.peer x).runtimeConnected with
  | true =>
    have hsame : s.put x (s.peer x) (s.queue x) [] [] = s := by
      simp [DcSession.put, update_eq_self]
    refine ⟨s, ?_, h⟩
    simp only [dcSessionStep, peerRuntimeCompleteConnection, hconnected, if_true, hsame]
  | false =>
    obtain ⟨howned, hempty⟩ := (h x).before hconnected
    have hwell : (s.peer x).manager.WellMapped :=
      DcPeer.manager_wellMapped (h x).wellMapped fun hsend => howned.trans (hempty hsend)
    have hobjects : (s.peer x).manager.objects = own x := (s.peer x).manager_objects.trans howned
    have hlabel : ∀ c ∈ (s.peer x).manager.objects, c.label.length ≤ dcMaxMsgSize := by
      intro c hc
      rw [hobjects] at hc
      exact (hown.waiting x c hc).2.2.1.le.trans (by decide)
    obtain ⟨out, hdtls, hout⟩ := hwell.onDtlsConnected (s.peer x).manager_sendFn halloc.2 hlabel
    refine ⟨_, by simp only [dcSessionStep, peerRuntimeCompleteConnection, hconnected,
      Bool.false_eq_true, if_false, hdtls, (h x).registered, if_true]; rfl, ?_⟩
    apply h.complete
    · exact ⟨hwell.nodup, hwell.small, hwell.maps⟩
    · rfl
    · rfl
    · exact (s.peer x).manager_sendFn
    · rfl
    · exact (s.peer x).manager_objects
    · intro c hc
      obtain ⟨hstate, hlocal, _⟩ := hown.waiting x c hc
      rw [← hobjects] at hc
      obtain ⟨dc, hdc⟩ := mem_iff_getElem?.mp hc
      exact ⟨_, (hout _).mpr ⟨dc, c, hdc, hstate, hlocal, rfl⟩, rfl⟩
    · intro packet hmem
      obtain ⟨dc, c, hdc, _, _, rfl⟩ := (hout packet).mp hmem
      refine ⟨c, ?_, rfl⟩
      rw [← hobjects]
      exact mem_of_getElem? hdc

end

theorem run (hown : Prepared own) (ops : List SessionOp) : ∀ {s : DcSession}, s.Opening own →
    timelyRun s ops = true → ∃ s', dcSessionRun s ops = some s' ∧ s'.Opening own := by
  induction ops with
  | nil =>
    intro s h _
    exact ⟨s, rfl, h⟩
  | cons op ops ih =>
    intro s h hrun
    simp only [timelyRun, Bool.and_eq_true] at hrun
    obtain ⟨s', hstep, hs'⟩ : ∃ s', dcSessionStep s op = some s' ∧ s'.Opening own := by
      cases op with
      | complete x alloc => exact h.complete_step hown hrun.1
      | deliver x alloc =>
        obtain ⟨hconnected, halloc⟩ := Bool.and_eq_true_iff.mp hrun.1
        exact h.deliver_step hown hconnected halloc
    rw [hstep] at hrun
    obtain ⟨s'', hops, hs''⟩ := ih hs' hrun.2
    refine ⟨s'', ?_, hs''⟩
    rw [dcSessionRun, hstep]
    exact hops

end DcSession.Opening

/-! ## From the start to the end -/

theorem opening_of_fresh {s : DcSession} (hown : Prepared fun x => (s.peer x).dc.objects)
    (hfresh : ∀ x, (s.peer x).Fresh) (hconnected : ∀ x, (s.peer x).runtimeConnected = false)
    (hregistered : ∀ x, (s.peer x).onDataChannel = true) (hqueue : ∀ x, s.queue x = [])
    (hevents : ∀ x, s.events x = []) : s.Opening fun x => (s.peer x).dc.objects := by
  intro x
  constructor
  case wellMapped => exact (hfresh x).wellMapped
  case registered => exact hregistered x
  case before => exact fun _ => ⟨rfl, (hfresh x).unused⟩
  case after =>
    intro hnot
    rw [hconnected x] at hnot
    cases hnot
  case stays =>
    intro i c hc
    exact ⟨c, hc, rfl, Or.inl ((hfresh x).waiting c (mem_of_getElem? hc)).1⟩
  case ids =>
    intro c hc
    exact ⟨c, mem_append_left _ hc, rfl⟩
  case packets =>
    intro packet hmem
    rw [hqueue x] at hmem
    cases hmem
  case opening =>
    intro hnot
    rw [hconnected x] at hnot
    cases hnot
  case made =>
    intro i c hc q c' hc' hid
    exact absurd hid.symm
      (hown.ne (x := x) (mem_of_getElem? hc) (mem_of_getElem? hc'))
  case announced =>
    intro q hmem
    rw [hevents x] at hmem
    cases hmem

theorem dcSessionStart_some {calls : Side → List DcCreate} {p q : DcPeer}
    (hp : dcCreateAll {} (calls .a) = some p) (hq : dcCreateAll {} (calls .b) = some q) :
    ∃ start, dcSessionStart calls = some start ∧ start.peer .a = p ∧ start.peer .b = q
      ∧ (∀ x, start.queue x = []) ∧ ∀ x, start.events x = [] := by
  unfold dcSessionStart
  rw [hp, hq]
  exact ⟨_, rfl, rfl, rfl, fun _ => rfl, fun _ => rfl⟩

theorem dcSessionStart_opening {calls : Side → List DcCreate}
    (halloc : ∀ x, ∀ call ∈ calls x, call.alloc.succeeds = true) :
    ∃ start, dcSessionStart calls = some start ∧ (start.apart = true →
      Prepared (fun x => (start.peer x).dc.objects)
        ∧ start.Opening fun x => (start.peer x).dc.objects) := by
  have hsane : DcPeer.Sane {} :=
    ⟨⟨fun _ => none, 0⟩, HashTable.sound_empty u32Hash u32MapEntrySize⟩
  have hfresh : DcPeer.Fresh {} := ⟨wellMapped_empty 0 false false false, fun _ => rfl, by simp⟩
  obtain ⟨p, hp, _, hpc, hpr⟩ := dcCreateAll_some (calls .a) hsane
  obtain ⟨q, hq, _, hqc, hqr⟩ := dcCreateAll_some (calls .b) hsane
  obtain ⟨start, hstart, rfl, rfl, hqueue, hevents⟩ := dcSessionStart_some hp hq
  refine ⟨start, hstart, ?_⟩
  intro hapart
  simp only [DcSession.apart, Bool.and_eq_true, decide_eq_true_eq] at hapart
  obtain ⟨hnodup, hroom⟩ := hapart
  rw [map_append, nodup_append] at hnodup
  have hfreshp := dcCreateAll_fresh (calls .a) (halloc .a) hfresh hp hnodup.1
  have hfreshq := dcCreateAll_fresh (calls .b) (halloc .b) hfresh hq hnodup.2.1
  rw [length_append] at hroom
  have hown : Prepared fun x => (start.peer x).dc.objects := by
    constructor
    · intro x
      rw [map_append, nodup_append]
      cases x with
      | a => exact hnodup
      | b => exact ⟨hnodup.2.1, hnodup.1, fun i hi j hj => Ne.symm (hnodup.2.2 j hj i hi)⟩
    · intro x
      cases x with
      | a => exact hroom
      | b => exact (Nat.add_comm _ _).trans_le hroom
    · intro x
      cases x with
      | a => exact hfreshp.waiting
      | b => exact hfreshq.waiting
  refine ⟨hown, opening_of_fresh hown ?_ ?_ ?_ hqueue hevents⟩
  · intro x
    cases x with
    | a => exact hfreshp
    | b => exact hfreshq
  · intro x
    cases x with
    | a => exact hpc
    | b => exact hqc
  · intro x
    cases x with
    | a => exact hpr
    | b => exact hqr

theorem DcSession.Opening.allOpen {start s : DcSession}
    (h : s.Opening fun x => (start.peer x).dc.objects) (hquiet : s.Quiet) (x : Side) :
    start.AllOpen s x := by
  intro dc c hc
  -- no OPEN is in flight, so the other side has the channel
  have hmade : ∃ c' ∈ (s.peer x.other).dc.objects, c'.id = c.id := by
    rcases (h x).opening (hquiet x).1 c (mem_of_getElem? hc) with ⟨packet, hmem, _⟩ | hmade
    · rw [(hquiet x.other).2] at hmem
      cases hmem
    · exact hmade
  obtain ⟨c', hmem, hid⟩ := hmade
  obtain ⟨q, hq⟩ := mem_iff_getElem?.mp hmem
  obtain ⟨hlabel, hstate, hcount, hack⟩ := (h x).made dc c hc q c' hq hid
  refine ⟨?_, q, c', ?_, hq, hlabel, hstate, hcount⟩
  · rcases hack with ⟨packet, hmem, _⟩ | hopened
    · rw [(hquiet x).2] at hmem
      cases hmem
    · exact hopened
  · have hwell := (h x.other).wellMapped
    rw [← hid, hwell.find (hwell.small c' hmem), (idMap_eq_some hwell.nodup).mpr ⟨c', hq, rfl⟩]

/-- Channels with distinct ids that fit both managers, created before connecting, open in every
order of completions and deliveries in which no message reaches a peer that has not completed. -/
theorem dcSessionRun_allOpen (calls : Side → List DcCreate)
    (halloc : ∀ x, ∀ call ∈ calls x, call.alloc.succeeds = true) (ops : List SessionOp) :
    ∃ start, dcSessionStart calls = some start
      ∧ (start.apart = true → timelyRun start ops = true →
        ∃ s, dcSessionRun start ops = some s ∧ (s.Quiet → ∀ x, start.AllOpen s x)) := by
  obtain ⟨start, hstart, hopening⟩ := dcSessionStart_opening halloc
  refine ⟨start, hstart, ?_⟩
  intro hapart hrun
  obtain ⟨hown, hinit⟩ := hopening hapart
  obtain ⟨s, hs, hs'⟩ := hinit.run hown ops hrun
  exact ⟨s, hs, fun hquiet x => hs'.allOpen hquiet x⟩

def threeChannels : Side → List DcCreate
  | .a => [{ label := [0x61] }, { label := [0x62] }]
  | .b => [{ label := [0x63], id := some 7 }]

def lateDelivery : List SessionOp :=
  [.complete .a {}, .complete .b {}, .deliver .b {}, .deliver .a {}, .deliver .b {}, .deliver .a {},
    .deliver .a {}, .deliver .b {}]

theorem threeChannels_allOpen :
    ∃ start s, dcSessionStart threeChannels = some start ∧ dcSessionRun start lateDelivery = some s
      ∧ s.Quiet ∧ ∀ x, start.AllOpen s x := by
  obtain ⟨start, hstart, hopen⟩ := dcSessionRun_allOpen threeChannels
    (by intro x; cases x <;> decide) lateDelivery
  have hcheck : (dcSessionStart threeChannels).all (fun start => start.apart
      && timelyRun start lateDelivery) = true := by decide +kernel
  rw [hstart, Option.all_some, Bool.and_eq_true] at hcheck
  obtain ⟨s, hs, hall⟩ := hopen hcheck.1 hcheck.2
  have hend : ((dcSessionStart threeChannels).bind fun start => dcSessionRun start lateDelivery).all
      (fun s => [a, b].all fun x => (s.peer x).runtimeConnected
        && (s.queue x).isEmpty) = true := by decide +kernel
  have hquiet : s.Quiet := by
    rw [hstart, Option.bind_some, hs, Option.all_some, all_eq_true] at hend
    intro x
    have hx := hend x (by cases x <;> decide)
    rw [Bool.and_eq_true, List.isEmpty_iff] at hx
    exact hx
  exact ⟨start, s, hstart, hs, hquiet, hall hquiet⟩

def oneChannel : Side → List DcCreate
  | .a => [{ label := [0x61] }]
  | .b => []

def earlyDelivery : List SessionOp := [.complete .a {}, .deliver .b {}, .complete .b {}]

/-- The OPEN is answered by nobody and announced to nobody, and completing the connection forgets
the channel it made: nothing is in flight, and the channel waits for good. -/
theorem earlyDelivery_not_allOpen :
    ∃ start s, dcSessionStart oneChannel = some start ∧ start.apart = true
      ∧ dcSessionRun start earlyDelivery = some s ∧ s.Quiet ∧ ¬ start.AllOpen s .a := by
  have hrun : (dcSessionStart oneChannel).any (fun start => start.apart
      && decide ((start.peer .a).dc.objects = [⟨[0x61], 0, .connecting, true⟩])
      && (dcSessionRun start earlyDelivery).any fun s =>
        decide ((s.peer .a).dc.stateOf 0 = some .connecting)
          && [a, b].all fun x => (s.peer x).runtimeConnected && (s.queue x).isEmpty)
      = true := by decide +kernel
  simp only [Option.any_eq_true, Bool.and_eq_true, decide_eq_true_eq, all_eq_true,
    List.isEmpty_iff] at hrun
  obtain ⟨start, hstart, ⟨hapart, hobjects⟩, s, hs, hstate, hquiet⟩ := hrun
  refine ⟨start, s, hstart, hapart, hs, fun x => hquiet x (by cases x <;> decide), ?_⟩
  · intro hall
    have hopened := (hall 0 ⟨[0x61], 0, .connecting, true⟩ (by rw [hobjects]; rfl)).1
    rw [hstate] at hopened
    cases hopened

end Mrtc
