import Mrtc.DataChannel.Manager

/-! # A manager whose map lists its channels

As long as no id is used twice, the map of a manager holds exactly its channel objects
(`WellMapped`): every id leads to the object that carries it.
-/

namespace Mrtc

open Net List

def idMap (objects : List DataChannel) (id : Nat) : Option Nat :=
  objects.findIdx? fun c => c.id == id

variable {objects : List DataChannel} {id dc : Nat} {mgr : DcManager}

theorem idMap_eq_none : idMap objects id = none ↔ ∀ c ∈ objects, c.id ≠ id := by
  simp [idMap, findIdx?_eq_none_iff]

theorem idMap_eq_some (hnodup : (objects.map DataChannel.id).Nodup) :
    idMap objects id = some dc ↔ ∃ c, objects[dc]? = some c ∧ c.id = id := by
  unfold idMap
  rw [findIdx?_eq_some_iff_getElem]
  constructor
  · grind
  · rintro ⟨c, hc, hid⟩
    obtain ⟨hlt, rfl⟩ := List.getElem?_eq_some_iff.mp hc
    refine ⟨hlt, by simpa using hid, ?_⟩
    -- an earlier object with the same id would repeat it
    intro j hj heq
    have hsame : (objects.map DataChannel.id)[j]? = (objects.map DataChannel.id)[dc]? := by grind
    have hji := (getElem?_inj (by simpa using hj.trans hlt) hnodup).mp hsame
    omega

theorem idMap_append_new {c : DataChannel} (hnew : ∀ c' ∈ objects, c'.id ≠ c.id) :
    idMap (objects ++ [c]) = Function.update (idMap objects) c.id (some objects.length) := by
  funext id
  by_cases hid : id = c.id
  · grind [idMap]
  · grind [idMap]

structure DcFixed where
  label : Bytes
  id : Nat
  locallyCreated : Bool

def DataChannel.fixed (c : DataChannel) : DcFixed := ⟨c.label, c.id, c.locallyCreated⟩

def DcManager.shape (mgr : DcManager) : List DcFixed :=
  mgr.objects.map DataChannel.fixed

theorem DcManager.shape_setState (mgr : DcManager) (dc : Nat) (state : DcState) :
    (mgr.setState dc state).shape = mgr.shape := by
  unfold DcManager.shape DcManager.setState
  apply ext_getElem?
  intro i
  rw [getElem?_map, getElem?_map, getElem?_modify]
  by_cases hi : dc = i
  · simp only [hi, if_true]
    cases mgr.objects[i]? with
    | none => rfl
    | some c => rfl
  · simp [hi]

theorem DcManager.getElem?_shape {f : DcFixed} :
    mgr.shape[dc]? = some f ↔ ∃ c, mgr.objects[dc]? = some c ∧ c.fixed = f := by
  unfold DcManager.shape
  rw [getElem?_map, Option.map_eq_some_iff]

theorem DcManager.shape_ids (mgr : DcManager) :
    mgr.shape.map DcFixed.id = mgr.objects.map DataChannel.id := by
  unfold DcManager.shape
  rw [map_map]
  rfl

structure DcManager.WellMapped (mgr : DcManager) : Prop where
  nodup : (mgr.objects.map DataChannel.id).Nodup
  small : ∀ c ∈ mgr.objects, c.id < 2 ^ 16
  maps : mgr.Maps (idMap mgr.objects)

open DcManager

theorem wellMapped_empty (nextId : Nat) (sendFn onChannel dtlsConnected : Bool) :
    DcManager.WellMapped ⟨{}, [], nextId, sendFn, onChannel, dtlsConnected⟩ where
  nodup := nodup_nil
  small := by simp
  maps := maps_empty [] nextId sendFn onChannel dtlsConnected

namespace DcManager.WellMapped

variable {id : Nat} {mgr : DcManager} {alloc : DcAlloc}

theorem length_lt {mgr : DcManager} (h : mgr.WellMapped) {ids : List Nat}
    (habsent : ∀ c ∈ mgr.objects, c.id ≠ id) (hid : id ∈ ids)
    (hids : ∀ c ∈ mgr.objects, c.id ∈ ids) : mgr.objects.length < ids.length := by
  have hnodup : (id :: mgr.objects.map DataChannel.id).Nodup := by
    grind [nodup_cons, h.nodup]
  have hsub : id :: mgr.objects.map DataChannel.id ⊆ ids := by grind
  have hle := (hnodup.subperm hsub).length_le
  rw [length_cons, length_map] at hle
  exact hle

section

variable (h : mgr.WellMapped)
include h

theorem find (hid : id < 2 ^ 16) : dcFindById mgr id = some (idMap mgr.objects id) :=
  dcFindById_eq h.maps (by omega)

theorem setState (dc : Nat) (state : DcState) : (mgr.setState dc state).WellMapped := by
  have hids : (mgr.setState dc state).objects.map DataChannel.id
      = mgr.objects.map DataChannel.id := by
    rw [← shape_ids, ← shape_ids, shape_setState]
  have hmap : idMap (mgr.setState dc state).objects = idMap mgr.objects := by
    have hvia : ∀ objects : List DataChannel, idMap objects
        = fun id => (objects.map DataChannel.id).findIdx? (· == id) := by
      intro objects
      funext id
      rw [findIdx?_map]
      rfl
    rw [hvia, hvia, hids]
  refine ⟨by rw [hids]; exact h.nodup, ?_, ?_⟩
  · intro c hc
    have hmem : c.id ∈ mgr.objects.map DataChannel.id := hids ▸ mem_map_of_mem hc
    obtain ⟨c', hc', hid⟩ := mem_map.mp hmem
    rw [← hid]
    exact h.small c' hc'
  · rw [hmap]
    exact h.maps.setState dc state

theorem len : rtcU32MapLen mgr.channels = mgr.objects.length := by
  rw [h.maps.len h.nodup ?_ ?_, length_map]
  · intro id
    rw [← Option.ne_none_iff_isSome, ne_eq, idMap_eq_none, mem_map]
    push Not
    rfl
  · intro id hid
    obtain ⟨c, hc, rfl⟩ := mem_map.mp hid
    have := h.small c hc
    omega

theorem few : mgr.objects.length ≤ 2 ^ 16 := by
  have hsub : mgr.objects.map DataChannel.id ⊆ range (2 ^ 16) := by
    grind [h.small]
  have hle := (h.nodup.subperm hsub).length_le
  rwa [length_map, length_range] at hle

end

theorem register (h : mgr.WellMapped) (halloc : alloc.map = true)
    {c : DataChannel} (hid : c.id < 2 ^ 16) (hnew : ∀ c' ∈ mgr.objects, c'.id ≠ c.id) :
    ∃ m, dcRegister mgr alloc c
        = some (some mgr.objects.length, { mgr with channels := m, objects := mgr.objects ++ [c] })
      ∧ DcManager.WellMapped { mgr with channels := m, objects := mgr.objects ++ [c] } := by
  have hfew := h.few
  obtain ⟨m, hreg, hmaps⟩ := dcRegister_ok h.maps halloc (c := c) (by omega) (by omega)
  refine ⟨m, hreg, ⟨?_, ?_, ?_⟩⟩
  · rw [map_append, nodup_append]
    refine ⟨h.nodup, nodup_singleton _, ?_⟩
    intro id hmem id' hmem' heq
    obtain ⟨c', hc', rfl⟩ := mem_map.mp hmem
    rw [map_singleton, mem_singleton] at hmem'
    exact hnew c' hc' (heq.trans hmem')
  · intro c' hc'
    rcases mem_append.mp hc' with hold | hnew
    · exact h.small c' hold
    · rw [mem_singleton.mp hnew]
      exact hid
  · rw [idMap_append_new hnew]
    exact hmaps

theorem create (h : mgr.WellMapped) (gate : Bool)
    (hchannel : alloc.channel = true) (hmap : alloc.map = true) (label : Bytes) (id : Option Nat)
    (hnew : ∀ c ∈ mgr.objects, c.id ≠ (dcTakeId mgr id).1)
    (hfull : mgr.objects.length < dcMaxChannels) :
    ∃ mgr', mgr'.WellMapped
      ∧ mgr'.objects
        = mgr.objects ++ [⟨label.take (dcMaxLabel - 1), (dcTakeId mgr id).1, .connecting, true⟩]
      ∧ mgr'.nextId = (dcTakeId mgr id).2 ∧ mgr'.sendFn = mgr.sendFn
      ∧ rtcDcManagerCreateChannel mgr gate alloc label id
        = some (some mgr.objects.length, mgr',
            if mgr.dtlsConnected then
              (dcSendMessage mgr' gate alloc mgr.objects.length dcMsgOpen
                (label.take (dcMaxLabel - 1))).2
            else []) := by
  have hid : (dcTakeId mgr id).1 < 2 ^ 16 := by
    cases id with
    | none => exact Nat.mod_lt _ (by norm_num)
    | some i => exact Nat.mod_lt _ (by norm_num)
  -- `next_id` is not part of the map
  have hnext : DcManager.WellMapped { mgr with nextId := (dcTakeId mgr id).2 } :=
    ⟨h.nodup, h.small, h.maps⟩
  obtain ⟨m, hreg, hwell⟩ := hnext.register hmap
    (c := ⟨label.take (dcMaxLabel - 1), (dcTakeId mgr id).1, .connecting, true⟩) hid hnew
  refine ⟨_, hwell, rfl, rfl, rfl, ?_⟩
  unfold rtcDcManagerCreateChannel
  rw [h.len, if_neg (by omega), hchannel]
  simp only [Bool.not_true, Bool.false_eq_true, if_false, hreg]

theorem accept (h : mgr.WellMapped) (gate : Bool)
    (hchannel : alloc.channel = true) (hmap : alloc.map = true) (hid : id < 2 ^ 16)
    (hnew : ∀ c ∈ mgr.objects, c.id ≠ id) (hfull : mgr.objects.length < dcMaxChannels)
    {label : Bytes} (hlabel : label.length < dcMaxLabel) :
    ∃ mgr', mgr'.WellMapped ∧ mgr'.objects = mgr.objects ++ [⟨label, id, .opened, false⟩]
      ∧ mgr'.nextId = mgr.nextId ∧ mgr'.sendFn = mgr.sendFn ∧ mgr'.onChannel = mgr.onChannel
      ∧ dcAccept mgr gate alloc id label
        = some
          { rc := .ok ()
            mgr := mgr'
            out := (dcSendMessage mgr' gate alloc mgr.objects.length dcMsgAck []).2
            events := if mgr.onChannel then [.onChannel mgr.objects.length] else [] } := by
  obtain ⟨m, hreg, hwell⟩ :=
    h.register hmap (c := ⟨label, id, .opened, false⟩) hid hnew
  refine ⟨_, hwell, rfl, rfl, rfl, rfl, ?_⟩
  have htake : label.take (dcMaxLabel - 1) = label := take_of_length_le (by omega)
  unfold dcAccept
  rw [h.len, if_neg (by omega), hchannel, htake, hreg]
  rfl

end DcManager.WellMapped

theorem DcManager.WellMapped.idMap_eq (h : mgr.WellMapped) :
    idMap mgr.objects id = some dc ↔ ∃ f : DcFixed, mgr.shape[dc]? = some f ∧ f.id = id := by
  rw [idMap_eq_some h.nodup]
  constructor
  · rintro ⟨c, hc, hid⟩
    exact ⟨c.fixed, getElem?_shape.mpr ⟨c, hc, rfl⟩, hid⟩
  · rintro ⟨f, hf, hid⟩
    obtain ⟨c, hc, rfl⟩ := getElem?_shape.mp hf
    exact ⟨c, hc, hid⟩

structure DcManager.Keeps (mgr mgr' : DcManager) : Prop where
  wellMapped : mgr'.WellMapped
  shape : mgr'.shape = mgr.shape
  nextId : mgr'.nextId = mgr.nextId

theorem DcManager.WellMapped.keeps (h : mgr.WellMapped) : mgr.Keeps mgr :=
  ⟨h, rfl, rfl⟩

theorem DcManager.WellMapped.keeps_setState (h : mgr.WellMapped) (dc : Nat) (state : DcState) :
    mgr.Keeps (mgr.setState dc state) :=
  ⟨h.setState dc state, mgr.shape_setState dc state, rfl⟩

structure DcPacket.Carries (packet : DcPacket) (f : DcFixed) (msgType : UInt8)
    (payload : Bytes) : Prop where
  bytes : packet.bytes = dcMessage f.id msgType payload
  length : payload.length ≤ dcMaxMsgSize
  label : msgType = dcMsgOpen → payload = f.label

def DcManager.Sends (mgr : DcManager) (msgType : UInt8) (out : List DcPacket) : Prop :=
  ∀ packet ∈ out, ∃ f, mgr.shape[packet.origin]? = some f
    ∧ ∃ payload, packet.Carries f msgType payload

theorem DcManager.sends_nil (mgr : DcManager) (msgType : UInt8) : mgr.Sends msgType [] := by
  intro packet h
  cases h

theorem dcSendMessage_sends (mgr : DcManager) (gate : Bool) (alloc : DcAlloc) (dc : Nat)
    (msgType : UInt8) (payload : Bytes)
    (hopen : msgType = dcMsgOpen → ∀ c, mgr.objects[dc]? = some c → payload = c.label) :
    mgr.Sends msgType (dcSendMessage mgr gate alloc dc msgType payload).2 := by
  intro packet hpacket
  rcases dcSendMessage_out mgr gate alloc dc msgType payload with hnil | ⟨c, hc, hlen, hout⟩
  · rw [hnil] at hpacket
    cases hpacket
  · rw [hout, mem_singleton] at hpacket
    subst hpacket
    refine ⟨c.fixed, getElem?_shape.mpr ⟨c, hc, rfl⟩, payload, rfl, hlen, ?_⟩
    intro htype
    exact hopen htype c hc

theorem dcSendMessage_sends_of_ne (mgr : DcManager) (gate : Bool) (alloc : DcAlloc) (dc : Nat)
    {msgType : UInt8} (payload : Bytes) (hne : msgType ≠ dcMsgOpen) :
    mgr.Sends msgType (dcSendMessage mgr gate alloc dc msgType payload).2 := by
  apply dcSendMessage_sends
  intro htype
  exact absurd htype hne

section

variable (h : mgr.WellMapped)
include h

theorem rtcDataChannelSend_spec (gate : Bool) (alloc : DcAlloc) (dc : Nat) (data : Bytes) :
    mgr.Keeps (rtcDataChannelSend mgr gate alloc dc data).mgr
      ∧ mgr.Sends dcMsgData (rtcDataChannelSend mgr gate alloc dc data).out := by
  unfold rtcDataChannelSend
  split
  · exact ⟨h.keeps, dcSendMessage_sends_of_ne mgr gate alloc dc data (by decide)⟩
  · exact ⟨h.keeps, mgr.sends_nil _⟩

theorem rtcDataChannelClose_spec (gate : Bool) (alloc : DcAlloc) (dc : Nat) :
    mgr.Keeps (rtcDataChannelClose mgr gate alloc dc).mgr
      ∧ mgr.Sends dcMsgClose (rtcDataChannelClose mgr gate alloc dc).out := by
  unfold rtcDataChannelClose
  split
  · exact ⟨h.keeps, mgr.sends_nil _⟩
  · exact ⟨h.keeps, mgr.sends_nil _⟩
  · exact ⟨h.keeps_setState dc _, dcSendMessage_sends_of_ne mgr gate alloc dc [] (by decide)⟩
  · exact ⟨h.keeps_setState dc _, mgr.sends_nil _⟩

theorem DcManager.WellMapped.onDtlsConnected (hsend : mgr.sendFn = true) {alloc : DcAlloc}
    (halloc : alloc.message = true) (hlabel : ∀ c ∈ mgr.objects, c.label.length ≤ dcMaxMsgSize) :
    ∃ out, rtcDcManagerOnDtlsConnected mgr true alloc = some ({ mgr with dtlsConnected := true }, out)
      ∧ ∀ packet, packet ∈ out ↔ ∃ (dc : Nat) (c : DataChannel), mgr.objects[dc]? = some c
        ∧ c.state = .connecting ∧ c.locallyCreated = true
        ∧ packet = ⟨dc, dcMessage c.id dcMsgOpen c.label⟩ := by
  obtain ⟨l, hiter, _, hall, _⟩ := HashTable.Sound.iterate h.maps
  refine ⟨_, by simp only [rtcDcManagerOnDtlsConnected, hiter]; rfl, ?_⟩
  have hout : ∀ (dc : Nat) (c : DataChannel), mgr.objects[dc]? = some c →
      (dcSendMessage { mgr with dtlsConnected := true } true alloc dc dcMsgOpen c.label).2
        = [⟨dc, dcMessage c.id dcMsgOpen c.label⟩] := by
    grind [dcSendMessage_ok, mem_of_getElem?]
  intro packet
  rw [mem_flatMap]
  constructor
  · rintro ⟨⟨key, value⟩, -, hpacket⟩
    cases value with
    | none => cases hpacket
    | some dc => grind
  · rintro ⟨dc, c, hc, hstate, hlocal, rfl⟩
    have hsmall := h.small c (mem_of_getElem? hc)
    have hkey : (UInt32.ofNat c.id).toNat = c.id :=
      UInt32.toNat_ofNat_of_lt' (lt_of_lt_of_le hsmall (by decide))
    refine ⟨(UInt32.ofNat c.id, some dc), ?_, ?_⟩
    · grind [idMap_eq_some, h.nodup]
    · obtain ⟨label, id, state, locallyCreated⟩ := c
      obtain rfl : state = .connecting := hstate
      obtain rfl : locallyCreated = true := hlocal
      simp only [hc]
      rw [hout dc _ hc]
      exact mem_singleton_self _

theorem dcHandle_absent (gate : Bool) (alloc : DcAlloc) (hid : id < 2 ^ 16)
    (habsent : idMap mgr.objects id = none) (msgType : UInt8) (payload : Bytes) :
    dcHandle mgr gate alloc id msgType payload
      = if msgType = dcMsgOpen then dcAccept mgr gate alloc id payload
        else some { rc := .ok (), mgr := mgr } := by
  unfold dcHandle
  rw [h.find hid, habsent]

theorem dcHandle_found (gate : Bool) (alloc : DcAlloc) (hid : id < 2 ^ 16)
    (hfound : idMap mgr.objects id = some dc) (msgType : UInt8) (payload : Bytes) :
    ∃ r, dcHandle mgr gate alloc id msgType payload = some r ∧ mgr.Keeps r.mgr
      ∧ mgr.Sends dcMsgAck r.out ∧ ∀ dc' data, .onMessage dc' data ∈ r.events → dc' = dc := by
  unfold dcHandle
  rw [h.find hid, hfound]
  refine ⟨_, rfl, ?_⟩
  split_ifs with hopen hack hdata hclose
  · refine ⟨h.keeps_setState dc _, dcSendMessage_sends_of_ne mgr gate alloc dc [] (by decide), ?_⟩
    simp
  · refine ⟨h.keeps_setState dc _, mgr.sends_nil _, ?_⟩
    simp
  · refine ⟨h.keeps, mgr.sends_nil _, ?_⟩
    simp
  · refine ⟨h.keeps_setState dc _, mgr.sends_nil _, ?_⟩
    simp
  · refine ⟨h.keeps, mgr.sends_nil _, ?_⟩
    simp

end

end Mrtc
