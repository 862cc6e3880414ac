import Mrtc.Basic.Side
import Mrtc.DataChannel.Registry

/-! # Two connected managers

Two data-channel managers whose DTLS sessions are connected, joined by a reliable in-order queue in
each direction.
-/

namespace Mrtc

open Net List Function DcManager Side

structure DcDelivery where
  side : Side
  packet : DcPacket
  events : List DcEvent
  deriving DecidableEq

structure DcLink where
  mgr : Side → DcManager
  queue : Side → List DcPacket
  log : List DcDelivery

open DcLink

def DcLink.connected : DcLink where
  mgr := fun _ => { sendFn := true, onChannel := true, dtlsConnected := true }
  queue := fun _ => []
  log := []

inductive LinkOp where
  | create (x : Side) (label : Bytes) (alloc : DcAlloc)
  | send (x : Side) (dc : Nat) (data : Bytes) (alloc : DcAlloc)
  | close (x : Side) (dc : Nat) (alloc : DcAlloc)
  | deliver (x : Side) (alloc : DcAlloc)
  deriving DecidableEq

def DcLink.put (l : DcLink) (x : Side) (mgr : DcManager) (out : List DcPacket) : DcLink :=
  { l with
    mgr := update l.mgr x mgr
    queue := update l.queue x.other (l.queue x.other ++ out) }

def DcLink.deliver (l : DcLink) (x : Side) (packet : DcPacket) (rest : List DcPacket)
    (r : DcResult) : DcLink :=
  put
    { l with
      queue := update l.queue x rest
      log := l.log ++ [⟨x, packet, r.events⟩] }
    x r.mgr r.out

def dcLinkStep (l : DcLink) : LinkOp → Option DcLink
  | .create x label alloc =>
    match rtcDcManagerCreateChannel (l.mgr x) true alloc label none with
    | none => none
    | some (_, mgr, out) => some (l.put x mgr out)
  | .send x dc data alloc =>
    let r := rtcDataChannelSend (l.mgr x) true alloc dc data
    some (l.put x r.mgr r.out)
  | .close x dc alloc =>
    let r := rtcDataChannelClose (l.mgr x) true alloc dc
    some (l.put x r.mgr r.out)
  | .deliver x alloc =>
    match l.queue x with
    | [] => some l
    | packet :: rest =>
      match rtcDcManagerRecv (l.mgr x) true alloc packet.bytes with
      | none => none
      | some r => some (l.deliver x packet rest r)

def dcLinkRun (l : DcLink) : List LinkOp → Option DcLink
  | [] => some l
  | op :: ops => (dcLinkStep l op).bind fun l => dcLinkRun l ops

/-! ## Channels that do not cross -/

def DcLink.Opened (l : DcLink) (x : Side) (dc : Nat) : Prop :=
  ∃ d ∈ l.log, d.side = x.other ∧ d.packet.origin = dc ∧ d.packet.bytes.getD 2 0 = dcMsgOpen

structure DcLink.Paired (l : DcLink) (peer : Side → Nat → Nat) : Prop where
  made : ∀ x dc, l.Opened x dc → ∃ c c', (l.mgr x).objects[dc]? = some c
    ∧ (l.mgr x.other).objects[peer x dc]? = some c' ∧ c'.label = c.label
    ∧ c.locallyCreated = true ∧ c'.locallyCreated = false
  distinct : ∀ x dc dc', l.Opened x dc → l.Opened x dc' → peer x dc = peer x dc' → dc = dc'
  data : ∀ d ∈ l.log, ∀ dc payload, .onMessage dc payload ∈ d.events →
    (l.Opened d.side.other d.packet.origin ∧ dc = peer d.side.other d.packet.origin)
      ∨ (l.Opened d.side dc ∧ d.packet.origin = peer d.side dc)

/-- Messages go between channels that belong together. -/
def DcLink.NeverCross (l : DcLink) : Prop := ∃ peer, l.Paired peer

def LinkOp.oneSided (l : DcLink) : LinkOp → Bool
  | .create x _ alloc => (l.mgr x.other).nextId == 0 && alloc.channel && alloc.map
  | .deliver _ alloc => alloc.channel && alloc.map
  | _ => true

def oneSidedRun (l : DcLink) : List LinkOp → Bool
  | [] => true
  | op :: ops =>
    op.oneSided l &&
      match dcLinkStep l op with
      | none => true
      | some l => oneSidedRun l ops

/-! ## One side creates -/

section

variable (l : DcLink)
include l

section

variable (x : Side)
include x

@[simp] theorem DcLink.put_log (mgr : DcManager) (out : List DcPacket) :
    (l.put x mgr out).log = l.log := rfl

@[simp] theorem DcLink.put_mgr_self (mgr : DcManager) (out : List DcPacket) :
    (l.put x mgr out).mgr x = mgr :=
  update_self _ _ _

@[simp] theorem DcLink.put_mgr_other (mgr : DcManager) (out : List DcPacket) :
    (l.put x mgr out).mgr x.other = l.mgr x.other :=
  update_of_ne x.other_ne _ _

@[simp] theorem DcLink.put_mgr_of_other (mgr : DcManager) (out : List DcPacket) :
    (l.put x.other mgr out).mgr x = l.mgr x :=
  update_of_ne x.ne_other _ _

@[simp] theorem DcLink.put_queue_self (mgr : DcManager) (out : List DcPacket) :
    (l.put x mgr out).queue x = l.queue x :=
  update_of_ne x.ne_other _ _

@[simp] theorem DcLink.put_queue_other (mgr : DcManager) (out : List DcPacket) :
    (l.put x mgr out).queue x.other = l.queue x.other ++ out :=
  update_self _ _ _

@[simp] theorem DcLink.put_queue_of_other (mgr : DcManager) (out : List DcPacket) :
    (l.put x.other mgr out).queue x = l.queue x ++ out := by
  have h := l.put_queue_other x.other mgr out
  rwa [other_other] at h

end

end

section Deliver

variable (l : DcLink) (x : Side) (packet : DcPacket) (rest : List DcPacket) (r : DcResult)

@[simp] theorem DcLink.deliver_log :
    (l.deliver x packet rest r).log = l.log ++ [⟨x, packet, r.events⟩] := rfl

@[simp] theorem DcLink.deliver_mgr_self : (l.deliver x packet rest r).mgr x = r.mgr :=
  put_mgr_self _ _ _ _

@[simp] theorem DcLink.deliver_mgr_other :
    (l.deliver x packet rest r).mgr x.other = l.mgr x.other :=
  put_mgr_other _ _ _ _

@[simp] theorem DcLink.deliver_mgr_of_other : (l.deliver x.other packet rest r).mgr x = l.mgr x :=
  put_mgr_of_other _ _ _ _

@[simp] theorem DcLink.deliver_queue_self : (l.deliver x packet rest r).queue x = rest := by
  unfold deliver
  rw [put_queue_self]
  exact update_self _ _ _

@[simp] theorem DcLink.deliver_queue_other :
    (l.deliver x packet rest r).queue x.other = l.queue x.other ++ r.out := by
  unfold deliver
  rw [put_queue_other]
  dsimp only
  rw [update_of_ne x.other_ne]

@[simp] theorem DcLink.deliver_queue_of_other :
    (l.deliver x.other packet rest r).queue x = l.queue x ++ r.out := by
  have h := l.deliver_queue_other x.other packet rest r
  rwa [other_other] at h

theorem DcLink.Opened.deliver {l : DcLink} {y : Side} {dc : Nat} (h : l.Opened y dc) :
    (l.deliver x packet rest r).Opened y dc := by
  obtain ⟨d, hd, hopened⟩ := h
  exact ⟨d, mem_append_left _ hd, hopened⟩

end Deliver

theorem dcMessage_type (id : Nat) (msgType : UInt8) (payload : Bytes) :
    (dcMessage id msgType payload).getD 2 0 = msgType := by
  simp [dcMessage, writeU16]

structure DcLink.CreatedBy (l : DcLink) (c : Side) : Prop where
  creator : (l.mgr c).WellMapped
  other : (l.mgr c.other).WellMapped
  nextId : (l.mgr c).nextId = 2 * (l.mgr c).shape.length
  atMost : (l.mgr c).shape.length ≤ dcMaxChannels
  otherNextId : (l.mgr c.other).nextId = 0
  created : ∀ (dc : Nat) (f : DcFixed), (l.mgr c).shape[dc]? = some f →
    f.id = 2 * dc ∧ f.locallyCreated = true ∧ f.label.length < dcMaxLabel
  accepted : ∀ (dc : Nat) (f : DcFixed), (l.mgr c.other).shape[dc]? = some f →
    ∃ p, (l.mgr c).shape[p]? = some ⟨f.label, f.id, true⟩ ∧ f.locallyCreated = false ∧ l.Opened c p
  outgoing : ∀ packet ∈ l.queue c.other, ∃ f, (l.mgr c).shape[packet.origin]? = some f
    ∧ ∃ msgType payload, packet.Carries f msgType payload
  incoming : ∀ packet ∈ l.queue c, ∃ f, (l.mgr c.other).shape[packet.origin]? = some f
    ∧ ∃ msgType payload, packet.Carries f msgType payload ∧ msgType ≠ dcMsgOpen
  opened : ∀ d ∈ l.log, d.packet.bytes.getD 2 0 = dcMsgOpen →
    d.side = c.other
      ∧ ∃ (dc : Nat) (f : DcFixed), (l.mgr c.other).shape[dc]? = some f
        ∧ f.id = 2 * d.packet.origin
  message : ∀ d ∈ l.log, ∀ dc payload, .onMessage dc payload ∈ d.events →
    (d.side = c.other ∧ ∃ f, (l.mgr c.other).shape[dc]? = some f ∧ f.id = 2 * d.packet.origin)
      ∨ (d.side = c ∧ ∃ f, (l.mgr c.other).shape[d.packet.origin]? = some f ∧ f.id = 2 * dc)

theorem connected_createdBy (c : Side) : connected.CreatedBy c where
  creator := wellMapped_empty 0 true true true
  other := wellMapped_empty 0 true true true
  nextId := rfl
  atMost := Nat.zero_le _
  otherNextId := rfl
  created := by intro dc f h; cases h
  accepted := by intro dc f h; cases h
  outgoing := by intro packet h; cases h
  incoming := by intro packet h; cases h
  opened := by intro d h; cases h
  message := by intro d h; cases h

namespace DcLink.CreatedBy

variable {l : DcLink} {c : Side} {mgr : DcManager} {out : List DcPacket} {f : DcFixed} {dc : Nat}

theorem swap (h : l.CreatedBy c) (hnone : (l.mgr c).nextId = 0) : l.CreatedBy c.other := by
  have hempty : (l.mgr c).shape = [] := by
    have hnext := h.nextId
    rw [hnone] at hnext
    exact eq_nil_of_length_eq_zero (by omega)
  have hother : (l.mgr c.other).shape = [] := by
    apply eq_nil_iff_forall_not_mem.mpr
    intro f hf
    obtain ⟨dc, hdc⟩ := mem_iff_getElem?.mp hf
    obtain ⟨p, hp, _⟩ := h.accepted dc f hdc
    rw [hempty] at hp
    cases hp
  have hqueue : ∀ packet ∈ l.queue c.other, False := by grind [h.outgoing]
  have hback : ∀ packet ∈ l.queue c, False := by grind [h.incoming]
  constructor
  · exact h.other
  · rw [other_other]
    exact h.creator
  · rw [hother, h.otherNextId]
    rfl
  · rw [hother]
    exact Nat.zero_le _
  · rw [other_other]
    exact hnone
  · intro dc f hf
    rw [hother] at hf
    cases hf
  · intro dc f hf
    rw [other_other, hempty] at hf
    cases hf
  · grind [other_other]
  · intro packet hpacket
    exact (hqueue packet hpacket).elim
  · grind [h.opened]
  · grind [h.message]

section

variable (h : l.CreatedBy c)
include h

theorem creatorSends (hkeeps : (l.mgr c).Keeps mgr) {msgType : UInt8}
    (hout : (l.mgr c).Sends msgType out) : (l.put c mgr out).CreatedBy c := by
  constructor <;> simp only [put_mgr_self, put_mgr_other, put_queue_self, put_queue_other, put_log,
    hkeeps.shape]
  · exact hkeeps.wellMapped
  · exact h.other
  · rw [hkeeps.nextId]
    exact h.nextId
  · exact h.atMost
  · exact h.otherNextId
  · exact h.created
  · exact h.accepted
  · intro packet hpacket
    rcases mem_append.mp hpacket with hold | hnew
    · exact h.outgoing packet hold
    · obtain ⟨f, hf, payload, hcarries⟩ := hout packet hnew
      exact ⟨f, hf, msgType, payload, hcarries⟩
  · exact h.incoming
  · exact h.opened
  · exact h.message

theorem otherSends (hkeeps : (l.mgr c.other).Keeps mgr) {msgType : UInt8}
    (hne : msgType ≠ dcMsgOpen) (hout : (l.mgr c.other).Sends msgType out) :
    (l.put c.other mgr out).CreatedBy c := by
  constructor <;> simp only [put_mgr_self, put_mgr_of_other, put_queue_self, put_queue_of_other,
    put_log, hkeeps.shape]
  · exact h.creator
  · exact hkeeps.wellMapped
  · exact h.nextId
  · exact h.atMost
  · rw [hkeeps.nextId]
    exact h.otherNextId
  · exact h.created
  · exact h.accepted
  · exact h.outgoing
  · intro packet hpacket
    rcases mem_append.mp hpacket with hold | hnew
    · exact h.incoming packet hold
    · obtain ⟨f, hf, payload, hcarries⟩ := hout packet hnew
      exact ⟨f, hf, msgType, payload, hcarries, hne⟩
  · exact h.opened
  · exact h.message

theorem creates (hwell : mgr.WellMapped) (label : Bytes) (hlabel : label.length < dcMaxLabel)
    (hshape : mgr.shape = (l.mgr c).shape ++ [⟨label, (l.mgr c).nextId, true⟩])
    (hnext : mgr.nextId = (l.mgr c).nextId + 2) (hroom : (l.mgr c).shape.length < dcMaxChannels)
    (hout : mgr.Sends dcMsgOpen out) : (l.put c mgr out).CreatedBy c := by
  have hgrow : ∀ (dc : Nat) (f : DcFixed), (l.mgr c).shape[dc]? = some f →
      mgr.shape[dc]? = some f := by grind
  have hlen : mgr.shape.length = (l.mgr c).shape.length + 1 := by
    rw [hshape, length_append]
    rfl
  constructor <;> simp only [put_mgr_self, put_mgr_other, put_queue_self, put_queue_other, put_log]
  · exact hwell
  · exact h.other
  · rw [hnext, hlen, h.nextId]
    omega
  · rw [hlen]
    exact hroom
  · exact h.otherNextId
  · intro dc f hf
    rw [hshape] at hf
    rcases Nat.lt_or_ge dc (l.mgr c).shape.length with hlt | hge
    · rw [getElem?_append_left hlt] at hf
      exact h.created dc f hf
    · obtain ⟨hdc, _⟩ := List.getElem?_eq_some_iff.mp hf
      rw [length_append, length_singleton] at hdc
      obtain rfl : dc = (l.mgr c).shape.length := by omega
      rw [getElem?_append_right (le_refl _), Nat.sub_self] at hf
      cases hf
      exact ⟨h.nextId, rfl, hlabel⟩
  · intro dc f hf
    obtain ⟨p, hp, hremote, hopened⟩ := h.accepted dc f hf
    exact ⟨p, hgrow p _ hp, hremote, hopened⟩
  · intro packet hpacket
    rcases mem_append.mp hpacket with hold | hnew
    · grind [h.outgoing]
    · obtain ⟨f, hf, payload, hcarries⟩ := hout packet hnew
      exact ⟨f, hf, dcMsgOpen, payload, hcarries⟩
  · exact h.incoming
  · exact h.opened
  · exact h.message

theorem deliverOther {packet : DcPacket} {rest : List DcPacket}
    (hqueue : l.queue c.other = packet :: rest) {r : DcResult} (hwell : r.mgr.WellMapped)
    (hnext : r.mgr.nextId = 0)
    (hgrow : ∀ (dc : Nat) (f : DcFixed), (l.mgr c.other).shape[dc]? = some f →
      r.mgr.shape[dc]? = some f)
    (hnew : ∀ (dc : Nat) (f : DcFixed), r.mgr.shape[dc]? = some f → (l.mgr c.other).shape[dc]? =
      some f ∨ (packet.bytes.getD 2 0 = dcMsgOpen ∧ f.locallyCreated = false ∧ (l.mgr
      c).shape[packet.origin]? = some ⟨f.label, f.id, true⟩))
    (hopen : packet.bytes.getD 2 0 = dcMsgOpen →
      ∃ (dc : Nat) (f : DcFixed), r.mgr.shape[dc]? = some f ∧ f.id = 2 * packet.origin)
    (hmessage : ∀ dc payload, .onMessage dc payload ∈ r.events →
      ∃ f : DcFixed, r.mgr.shape[dc]? = some f ∧ f.id = 2 * packet.origin)
    (hout : r.mgr.Sends dcMsgAck r.out) : (l.deliver c.other packet rest r).CreatedBy c := by
  constructor <;> simp only [deliver_mgr_self, deliver_mgr_of_other, deliver_queue_self,
    deliver_queue_of_other, deliver_log]
  · exact h.creator
  · exact hwell
  · exact h.nextId
  · exact h.atMost
  · exact hnext
  · exact h.created
  · intro dc f hf
    rcases hnew dc f hf with hold | ⟨hisOpen, hremote, hlabel⟩
    · obtain ⟨p, hp, hremote, hopened⟩ := h.accepted dc f hold
      exact ⟨p, hp, hremote, hopened.deliver _ _ _ _⟩
    · refine ⟨packet.origin, hlabel, hremote, ⟨c.other, packet, r.events⟩, ?_, rfl, rfl, hisOpen⟩
      rw [deliver_log]
      exact mem_append_right _ (mem_singleton_self _)
  · grind [mem_cons_of_mem, h.outgoing]
  · intro packet' hpacket'
    rcases mem_append.mp hpacket' with hold | hsent
    · grind [h.incoming]
    · obtain ⟨f, hf, payload, hcarries⟩ := hout packet' hsent
      exact ⟨f, hf, dcMsgAck, payload, hcarries, by decide⟩
  · grind [mem_singleton, h.opened]
  · intro d hd dc payload hmem
    rcases mem_append.mp hd with hold | hlast
    · rcases h.message d hold dc payload hmem with ⟨hside, f, hf, hid⟩ | ⟨hside, f, hf, hid⟩
      · exact Or.inl ⟨hside, f, hgrow dc f hf, hid⟩
      · exact Or.inr ⟨hside, f, hgrow _ f hf, hid⟩
    · grind

theorem deliverCreator {packet : DcPacket} {rest : List DcPacket}
    (hqueue : l.queue c = packet :: rest) {r : DcResult} (hkeeps : (l.mgr c).Keeps r.mgr)
    (hclosed : packet.bytes.getD 2 0 ≠ dcMsgOpen)
    (hmessage : ∀ dc payload, .onMessage dc payload ∈ r.events →
      ∃ f : DcFixed, (l.mgr c.other).shape[packet.origin]? = some f ∧ f.id = 2 * dc)
    (hout : (l.mgr c).Sends dcMsgAck r.out) : (l.deliver c packet rest r).CreatedBy c := by
  constructor <;> simp only [deliver_mgr_self, deliver_mgr_other, deliver_queue_self,
    deliver_queue_other, deliver_log, hkeeps.shape]
  · exact hkeeps.wellMapped
  · exact h.other
  · rw [hkeeps.nextId]
    exact h.nextId
  · exact h.atMost
  · exact h.otherNextId
  · exact h.created
  · intro dc f hf
    obtain ⟨p, hp, hremote, hopened⟩ := h.accepted dc f hf
    exact ⟨p, hp, hremote, hopened.deliver _ _ _ _⟩
  · intro packet' hpacket'
    rcases mem_append.mp hpacket' with hold | hsent
    · exact h.outgoing packet' hold
    · obtain ⟨f, hf, payload, hcarries⟩ := hout packet' hsent
      exact ⟨f, hf, dcMsgAck, payload, hcarries⟩
  · grind [mem_cons_of_mem, h.incoming]
  · grind [mem_singleton, h.opened]
  · intro d hd dc payload hmem
    rcases mem_append.mp hd with hold | hlast
    · exact h.message d hold dc payload hmem
    · grind

end

/-! ### Steps -/

section

variable (h : l.CreatedBy c)
include h

theorem id_small (hf : (l.mgr c).shape[dc]? = some f) : f.id < 2 ^ 16 := by
  obtain ⟨hlt, _⟩ := List.getElem?_eq_some_iff.mp hf
  have hmost := h.atMost
  have hid := (h.created dc f hf).1
  unfold dcMaxChannels at hmost
  omega

theorem room (hf : (l.mgr c).shape[dc]? = some f)
    (habsent : ∀ c' ∈ (l.mgr c.other).objects, c'.id ≠ f.id) :
    (l.mgr c.other).objects.length < dcMaxChannels := by
  -- all ids of the other side are among those the creator has given out
  have hids : ∀ c' ∈ (l.mgr c.other).objects, c'.id ∈ (l.mgr c).shape.map DcFixed.id := by
    intro c' hc'
    have hid := mem_map_of_mem (f := DataChannel.id) hc'
    rw [← shape_ids] at hid
    obtain ⟨g, hg, heq⟩ := mem_map.mp hid
    obtain ⟨q, hq⟩ := mem_iff_getElem?.mp hg
    obtain ⟨p, hp, _⟩ := h.accepted q g hq
    exact mem_map.mpr ⟨_, mem_of_getElem? hp, heq⟩
  calc (l.mgr c.other).objects.length
      < ((l.mgr c).shape.map DcFixed.id).length :=
        h.other.length_lt habsent (mem_map_of_mem (mem_of_getElem? hf)) hids
    _ = (l.mgr c).shape.length := length_map _
    _ ≤ dcMaxChannels := h.atMost

theorem create_step (label : Bytes) {alloc : DcAlloc} (hchannel : alloc.channel = true)
    (hmap : alloc.map = true) :
    ∃ l', dcLinkStep l (.create c label alloc) = some l' ∧ l'.CreatedBy c := by
  have hlen : (l.mgr c).shape.length = (l.mgr c).objects.length := length_map _
  rcases Nat.lt_or_ge (l.mgr c).objects.length dcMaxChannels with hroom | hfull
  · have htake : dcTakeId (l.mgr c) none = ((l.mgr c).nextId, (l.mgr c).nextId + 2) := by
      have hnext := h.nextId
      unfold dcMaxChannels at hroom
      unfold dcTakeId
      rw [Nat.mod_eq_of_lt (by omega)]
    have hnew : ∀ c' ∈ (l.mgr c).objects, c'.id ≠ (dcTakeId (l.mgr c) none).1 := by
      intro c' hc'
      obtain ⟨dc, hdc⟩ := mem_iff_getElem?.mp hc'
      obtain ⟨hlt, _⟩ := List.getElem?_eq_some_iff.mp hdc
      have hid := (h.created dc c'.fixed (getElem?_shape.mpr ⟨c', hdc, rfl⟩)).1
      have hid' : c'.id = 2 * dc := hid
      rw [htake, h.nextId, hid', hlen]
      dsimp only
      omega
    obtain ⟨mgr', hwell, hobjects, hnext, _, hcreate⟩ :=
      h.creator.create true hchannel hmap label none hnew hroom
    rw [htake] at hobjects hnext
    refine ⟨_, by simp only [dcLinkStep, hcreate]; rfl, ?_⟩
    apply h.creates hwell (label.take (dcMaxLabel - 1))
    · rw [length_take]
      exact lt_of_le_of_lt (Nat.min_le_left _ _) (by decide)
    · unfold shape
      rw [hobjects, map_append]
      rfl
    · exact hnext
    · rw [hlen]
      exact hroom
    · split
      · apply dcSendMessage_sends
        intro _ c' hc'
        rw [hobjects, getElem?_append_right (le_refl _), Nat.sub_self] at hc'
        cases hc'
        rfl
      · exact mgr'.sends_nil _
  · have hcreate : rtcDcManagerCreateChannel (l.mgr c) true alloc label none
        = some (none, l.mgr c, []) := by
      unfold rtcDcManagerCreateChannel
      rw [h.creator.len, if_pos hfull]
    refine ⟨_, by simp only [dcLinkStep, hcreate]; rfl, ?_⟩
    exact h.creatorSends h.creator.keeps ((l.mgr c).sends_nil dcMsgOpen)

theorem deliver_other_step {alloc : DcAlloc} (hchannel : alloc.channel = true)
    (hmap : alloc.map = true) :
    ∃ l', dcLinkStep l (.deliver c.other alloc) = some l' ∧ l'.CreatedBy c := by
  cases hqueue : l.queue c.other with
  | nil => exact ⟨l, by simp only [dcLinkStep, hqueue], h⟩
  | cons packet rest =>
    obtain ⟨f, hf, msgType, payload, hcarries⟩ :=
      h.outgoing packet (hqueue ▸ mem_cons_self)
    have hid := h.id_small hf
    obtain ⟨hnumber, hlocal, hlabel⟩ := h.created _ f hf
    have htype : packet.bytes.getD 2 0 = msgType := by
      rw [hcarries.bytes]
      exact dcMessage_type _ _ _
    -- it is enough to say what the manager makes of the message
    suffices hhandle : ∃ r, dcHandle (l.mgr c.other) true alloc f.id msgType payload = some r
        ∧ (l.deliver c.other packet rest r).CreatedBy c by
      obtain ⟨r, hr, hl⟩ := hhandle
      have hrecv : rtcDcManagerRecv (l.mgr c.other) true alloc packet.bytes = some r := by
        rw [hcarries.bytes, rtcDcManagerRecv_message _ _ _ hid _ hcarries.length]
        exact hr
      exact ⟨_, by simp only [dcLinkStep, hqueue, hrecv], hl⟩
    cases hfound : idMap (l.mgr c.other).objects f.id with
    | some dc =>
      obtain ⟨r, hr, hkeeps, hout, hmessage⟩ :=
        dcHandle_found h.other true alloc hid hfound msgType payload
      have hdc := h.other.idMap_eq.mp hfound
      rw [hnumber] at hdc
      refine ⟨r, hr, h.deliverOther hqueue hkeeps.wellMapped
        (hkeeps.nextId.trans h.otherNextId) ?_ ?_ ?_ ?_ ?_⟩
      · rw [hkeeps.shape]
        exact fun _ _ hf => hf
      · rw [hkeeps.shape]
        exact fun _ _ hf => Or.inl hf
      · rw [hkeeps.shape]
        exact fun _ => ⟨dc, hdc⟩
      · intro dc' data hmem
        rw [hmessage dc' data hmem, hkeeps.shape]
        exact hdc
      · unfold DcManager.Sends
        rw [hkeeps.shape]
        exact hout
    | none =>
      have hnew := idMap_eq_none.mp hfound
      rw [dcHandle_absent h.other true alloc hid hfound]
      by_cases hopen : msgType = dcMsgOpen
      · rw [if_pos hopen]
        obtain rfl := hcarries.label hopen
        obtain ⟨mgr', hwell, hobjects, hnext, _, _, haccept⟩ :=
          h.other.accept true hchannel hmap hid hnew (h.room hf hnew) hlabel
        have hshape : mgr'.shape = (l.mgr c.other).shape ++ [⟨f.label, f.id, false⟩] := by
          unfold shape
          rw [hobjects, map_append]
          rfl
        have hlast : mgr'.shape[(l.mgr c.other).shape.length]?
            = some ⟨f.label, f.id, false⟩ := by
          rw [hshape, getElem?_append_right (le_refl _), Nat.sub_self]
          rfl
        refine ⟨_, haccept, h.deliverOther hqueue hwell (hnext.trans h.otherNextId)
          ?_ ?_ ?_ ?_ ?_⟩ <;> dsimp only
        · grind
        · intro dc g hg
          rcases Nat.lt_or_ge dc (l.mgr c.other).shape.length with hlt | hge
          · rw [hshape, getElem?_append_left hlt] at hg
            exact Or.inl hg
          · obtain ⟨hdc, _⟩ := List.getElem?_eq_some_iff.mp hg
            rw [hshape, length_append, length_singleton] at hdc
            obtain rfl : dc = (l.mgr c.other).shape.length := by omega
            rw [hlast] at hg
            cases hg
            refine Or.inr ⟨htype.trans hopen, rfl, ?_⟩
            rw [hf, ← hlocal]
        · exact fun _ => ⟨_, _, hlast, hnumber⟩
        · intro dc data hmem
          split at hmem <;> simp at hmem
        · exact dcSendMessage_sends_of_ne mgr' true alloc _ [] (by decide)
      · rw [if_neg hopen]
        refine ⟨_, rfl, h.deliverOther hqueue h.other h.otherNextId ?_ ?_ ?_ ?_ ?_⟩
        · exact fun _ _ hf => hf
        · exact fun _ _ hf => Or.inl hf
        · intro hisOpen
          exact absurd (htype.symm.trans hisOpen) hopen
        · intro dc data hmem
          cases hmem
        · exact sends_nil _ _

theorem deliver_creator_step (alloc : DcAlloc) :
    ∃ l', dcLinkStep l (.deliver c alloc) = some l' ∧ l'.CreatedBy c := by
  cases hqueue : l.queue c with
  | nil => exact ⟨l, by simp only [dcLinkStep, hqueue], h⟩
  | cons packet rest =>
    obtain ⟨f, hf, msgType, payload, hcarries, hne⟩ :=
      h.incoming packet (hqueue ▸ mem_cons_self)
    -- the sender was made for the channel `p`, so the message finds that one
    obtain ⟨p, hp, _, _⟩ := h.accepted _ f hf
    have hid : f.id < 2 ^ 16 := h.id_small (f := ⟨f.label, f.id, true⟩) hp
    have hnumber : f.id = 2 * p := (h.created p _ hp).1
    have hfound : idMap (l.mgr c).objects f.id = some p :=
      h.creator.idMap_eq.mpr ⟨_, hp, rfl⟩
    obtain ⟨r, hr, hkeeps, hout, hmessage⟩ :=
      dcHandle_found h.creator true alloc hid hfound msgType payload
    have hrecv : rtcDcManagerRecv (l.mgr c) true alloc packet.bytes = some r := by
      rw [hcarries.bytes, rtcDcManagerRecv_message _ _ _ hid _ hcarries.length]
      exact hr
    refine ⟨_, by simp only [dcLinkStep, hqueue, hrecv], h.deliverCreator hqueue hkeeps ?_ ?_
      hout⟩
    · rw [hcarries.bytes, dcMessage_type]
      exact hne
    · intro dc data hmem
      rw [hmessage dc data hmem]
      exact ⟨f, hf, hnumber⟩

theorem step (op : LinkOp) (hop : op.oneSided l = true) :
    ∃ l' c', dcLinkStep l op = some l' ∧ l'.CreatedBy c' := by
  cases op with
  | create x label alloc =>
    simp only [LinkOp.oneSided, Bool.and_eq_true, beq_iff_eq] at hop
    obtain ⟨⟨hnone, hchannel⟩, hmap⟩ := hop
    have hx : l.CreatedBy x := by
      rcases c.eq_or_other x with rfl | rfl
      · exact h
      · rw [other_other] at hnone
        exact h.swap hnone
    obtain ⟨l', hstep, hl'⟩ := hx.create_step label hchannel hmap
    exact ⟨l', x, hstep, hl'⟩
  | send x dc data alloc =>
    refine ⟨_, c, rfl, ?_⟩
    rcases c.eq_or_other x with rfl | rfl
    · grind [rtcDataChannelSend_spec, h.creator, h.creatorSends]
    · obtain ⟨hkeeps, hout⟩ := rtcDataChannelSend_spec h.other true alloc dc data
      exact h.otherSends hkeeps (by decide) hout
  | close x dc alloc =>
    refine ⟨_, c, rfl, ?_⟩
    rcases c.eq_or_other x with rfl | rfl
    · obtain ⟨hkeeps, hout⟩ := rtcDataChannelClose_spec h.creator true alloc dc
      exact h.creatorSends hkeeps hout
    · obtain ⟨hkeeps, hout⟩ := rtcDataChannelClose_spec h.other true alloc dc
      exact h.otherSends hkeeps (by decide) hout
  | deliver x alloc =>
    simp only [LinkOp.oneSided, Bool.and_eq_true] at hop
    rcases c.eq_or_other x with rfl | rfl
    · obtain ⟨l', hstep, hl'⟩ := h.deliver_creator_step alloc
      exact ⟨l', _, hstep, hl'⟩
    · grind [h.deliver_other_step]

/-! ### Pairing -/

theorem partner {x : Side} (hopened : l.Opened x dc) :
    x = c ∧ ∃ q, idMap (l.mgr c.other).objects (2 * dc) = some q := by
  obtain ⟨d, hd, hside, rfl, hisOpen⟩ := hopened
  obtain ⟨hto, q, f, hf, hid⟩ := h.opened d hd hisOpen
  have hx : x = c := by grind [other_other, other]
  exact ⟨hx, q, h.other.idMap_eq.mpr ⟨f, hf, hid⟩⟩

theorem accepted_opened {q : Nat} (hf : (l.mgr c.other).shape[q]? = some f) (hid : f.id = 2 * dc) :
    (l.mgr c).shape[dc]? = some ⟨f.label, f.id, true⟩ ∧ f.locallyCreated = false
      ∧ l.Opened c dc := by
  obtain ⟨p, hp, hremote, hopened⟩ := h.accepted q f hf
  have hnumber : f.id = 2 * p := (h.created p _ hp).1
  obtain rfl : p = dc := by omega
  exact ⟨hp, hremote, hopened⟩

end

def partnerOf (l : DcLink) (c : Side) (dc : Nat) : Nat :=
  (idMap (l.mgr c.other).objects (2 * dc)).getD 0

theorem partnerOf_eq (h : l.CreatedBy c) {q : Nat} (hf : (l.mgr c.other).shape[q]? = some f)
    (hid : f.id = 2 * dc) : partnerOf l c dc = q := by
  unfold partnerOf
  rw [h.other.idMap_eq.mpr ⟨f, hf, hid⟩]
  rfl

theorem paired (h : l.CreatedBy c) : l.Paired fun _ => partnerOf l c where
  made := by
    intro x dc hopened
    obtain ⟨rfl, q, hq⟩ := h.partner hopened
    obtain ⟨f, hf, hid⟩ := h.other.idMap_eq.mp hq
    obtain ⟨hcreated, hremote, _⟩ := h.accepted_opened hf hid
    obtain ⟨ch, hch, hfixed⟩ := getElem?_shape.mp hcreated
    obtain ⟨ch', hch', rfl⟩ := getElem?_shape.mp hf
    refine ⟨ch, ch', hch, ?_, (congrArg DcFixed.label hfixed).symm,
      congrArg DcFixed.locallyCreated hfixed, hremote⟩
    rw [h.partnerOf_eq hf hid]
    exact hch'
  distinct := by
    intro x dc dc' hopened hopened' heq
    obtain ⟨rfl, q, hq⟩ := h.partner hopened
    obtain ⟨_, q', hq'⟩ := h.partner hopened'
    obtain ⟨f, hf, hid⟩ := h.other.idMap_eq.mp hq
    obtain ⟨f', hf', hid'⟩ := h.other.idMap_eq.mp hq'
    rw [h.partnerOf_eq hf hid, h.partnerOf_eq hf' hid'] at heq
    rw [heq, hf'] at hf
    cases hf
    omega
  data := by
    intro d hd dc payload hmem
    rcases h.message d hd dc payload hmem with ⟨hside, f, hf, hid⟩ | ⟨hside, f, hf, hid⟩
    · refine Or.inl ⟨?_, (h.partnerOf_eq hf hid).symm⟩
      rw [hside, other_other]
      exact (h.accepted_opened hf hid).2.2
    · refine Or.inr ⟨?_, (h.partnerOf_eq hf hid).symm⟩
      rw [hside]
      exact (h.accepted_opened hf hid).2.2

theorem run (ops : List LinkOp) : ∀ {l : DcLink} {c : Side}, l.CreatedBy c →
    oneSidedRun l ops = true → ∃ l' c', dcLinkRun l ops = some l' ∧ l'.CreatedBy c' := by
  induction ops with
  | nil =>
    intro l c h _
    exact ⟨l, c, rfl, h⟩
  | cons op ops ih =>
    intro l c h hrun
    simp only [oneSidedRun, Bool.and_eq_true] at hrun
    obtain ⟨l', c', hstep, hl'⟩ := h.step op hrun.1
    rw [hstep] at hrun
    obtain ⟨l'', c'', hops, hl''⟩ := ih hl' hrun.2
    refine ⟨l'', c'', ?_, hl''⟩
    rw [dcLinkRun, hstep]
    exact hops

end DcLink.CreatedBy

/-- As long as one side alone creates channels, every call returns and no two channels cross. -/
theorem dcLinkRun_neverCross (ops : List LinkOp)
    (hrun : oneSidedRun connected ops = true) :
    ∃ l, dcLinkRun connected ops = some l ∧ l.NeverCross := by
  obtain ⟨l, c, hl, hcreated⟩ := (connected_createdBy .a).run ops hrun
  exact ⟨l, hl, _, hcreated.paired⟩

def twoChannels : List LinkOp :=
  [.create .b [0x61] {}, .create .b [0x62] {}, .deliver .a {}, .deliver .b {}, .send .b 0 [1, 2] {},
    .deliver .a {}, .deliver .a {}, .send .a 1 [3] {}, .deliver .b {}, .deliver .b {}]

theorem twoChannels_neverCross :
    oneSidedRun connected twoChannels = true
      ∧ ∃ l, dcLinkRun connected twoChannels = some l ∧ l.NeverCross :=
  have hrun : oneSidedRun connected twoChannels = true := by decide +kernel
  ⟨hrun, dcLinkRun_neverCross twoChannels hrun⟩

def bothCreate : List LinkOp :=
  [.create .a [0x61] {}, .create .b [0x62] {}, .deliver .b {}]

/-- Both channels have id 0, so the OPEN of one opens the other side's own channel, of another
label, and no channel is made for it. -/
theorem bothCreate_cross :
    ∃ l, dcLinkRun connected bothCreate = some l ∧ ¬ l.NeverCross := by
  have hrun : (dcLinkRun connected bothCreate).map
      (fun l => ((l.mgr .b).objects, l.log.map fun d => (d.side, d.packet)))
      = some ([⟨[0x62], 0, .opened, true⟩], [(.b, ⟨0, dcMessage 0 dcMsgOpen [0x61]⟩)]) := by
    decide +kernel
  obtain ⟨l, hl, hstate⟩ := Option.map_eq_some_iff.mp hrun
  rw [Prod.mk.injEq] at hstate
  refine ⟨l, hl, ?_⟩
  rintro ⟨peer, hpaired⟩
  have hopened : l.Opened .a 0 := by
    have hmem : (b, (⟨0, dcMessage 0 dcMsgOpen [0x61]⟩ : DcPacket))
        ∈ l.log.map fun d => (d.side, d.packet) := by
      rw [hstate.2]
      exact mem_singleton_self _
    obtain ⟨d, hd, heq⟩ := mem_map.mp hmem
    rw [Prod.mk.injEq] at heq
    refine ⟨d, hd, heq.1, ?_, ?_⟩
    · rw [heq.2]
    · rw [heq.2]
      exact dcMessage_type _ _ _
  obtain ⟨ch, ch', _, hch', _, _, hremote⟩ := hpaired.made .a 0 hopened
  -- the only channel of the other side is its own
  have hmem : ch' ∈ (l.mgr .b).objects := mem_of_getElem? hch'
  rw [hstate.1, mem_singleton] at hmem
  rw [hmem] at hremote
  cases hremote

end Mrtc
