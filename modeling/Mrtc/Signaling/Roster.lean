import Mrtc.Lib.Views
import Mrtc.Signaling.Registry

/-! # What the clients know of a meeting

A client keeps the members of its meeting by the messages it gets: `joined` has the list of those
who are there, `peer_joined` and `peer_left` are changes to it.
-/

namespace Mrtc

open MeetingManager List

abbrev Sent : Type := List (Nat × Json)

def record (p : Nat) (json : Json) (sent : Sent) : Sent := sent ++ [(p, json)]

def applyMessage (roster : List CString) (json : Json) : List CString :=
  match sigMsgParse (some json) with
  | none => roster
  | some msg =>
    match msg.type with
    | .joined => msg.peers
    | .peerJoined => msg.peerId :: roster
    | .peerLeft => roster.filter (· ≠ msg.peerId)
    | _ => roster

def rosterOf (sent : Sent) (p : Nat) : List CString :=
  sent.foldl (fun roster message =>
    if message.1 = p then applyMessage roster message.2 else roster) []

/-! ## Messages -/

section

variable (roster : List CString)
include roster

theorem applyMessage_peerJoined (id : PeerId) :
    applyMessage roster (sigMsgBuildPeerJoined id) = id.val :: roster := by
  rw [applyMessage, sigMsgParse_peerJoined, id.take]

theorem applyMessage_peerLeft (id : PeerId) :
    applyMessage roster (sigMsgBuildPeerLeft id) = roster.filter (· ≠ id.val) := by
  rw [applyMessage, sigMsgParse_peerLeft, id.take]

theorem applyMessage_error (message : CString) :
    applyMessage roster (sigMsgBuildError message) = roster := by
  rw [applyMessage, sigMsgParse_error]

theorem applyMessage_joined (peerId : CString) {peers : List CString}
    (hlen : peers.length ≤ sigMaxPeers) (hids : ∀ id ∈ peers, id.val.length < meetingPeerIdLen) :
    applyMessage roster (sigMsgBuildJoined peerId peers) = peers := by
  have htake : peers.map (fun id => id.take (sigMaxPeerId - 1)) = peers.map id :=
    map_congr_left fun id hmem => PeerId.take ⟨id, hids id hmem⟩
  rw [applyMessage, sigMsgParse_joined]
  dsimp only
  rw [take_of_length_le hlen, htake, map_id]

end

theorem rosterOf_record (sent : Sent) (p q : Nat) (json : Json) :
    rosterOf (record q json sent) p
      = if q = p then applyMessage (rosterOf sent p) json else rosterOf sent p := by
  rw [rosterOf, record, foldl_append]
  rfl

theorem rosterOf_broadcast {peers : List Nat} (hnodup : peers.Nodup) (json : Json)
    (exclude : Option Nat) (sent : Sent) (p : Nat) :
    rosterOf (broadcastToMeeting record peers json exclude sent) p
      = if p ∈ peers ∧ some p ≠ exclude then applyMessage (rosterOf sent p) json
        else rosterOf sent p := by
  induction peers generalizing sent with
  | nil => simp [broadcastToMeeting]
  | cons q peers ih =>
    obtain ⟨hq, hnodup'⟩ := nodup_cons.mp hnodup
    rw [broadcastToMeeting, foldl_cons, ← broadcastToMeeting, ih hnodup']
    by_cases hqp : q = p
    · -- it is this one's turn, and it is not on the list again
      subst hqp
      rw [if_neg fun h => hq h.1]
      by_cases hex : some q ≠ exclude
      · rw [if_pos hex, rosterOf_record, if_pos rfl, if_pos ⟨mem_cons_self, hex⟩]
      · rw [if_neg hex, if_neg fun h => hex h.2]
    · have hsame : rosterOf (if some q ≠ exclude then record q json sent else sent) p
          = rosterOf sent p := by
        split
        · rw [rosterOf_record, if_neg hqp]
        · rfl
      rw [hsame]
      simp [Ne.symm hqp]

/-! ## Members and names -/

def nameOf (peers : List MeetingPeer) (p : Nat) : Option CString :=
  peers[p]?.map fun peer => peer.id.val

def DistinctIds (peers : List MeetingPeer) : Prop :=
  ∀ p q x, nameOf peers p = some x → nameOf peers q = some x → p = q

theorem nameOf_set {peers : List MeetingPeer} {p : Nat} {peer : MeetingPeer}
    (hp : peers[p]? = some peer) (idx : Option Nat) (freed : Bool) :
    nameOf (peers.set p { peer with meetingIdx := idx, freed := freed }) = nameOf peers := by
  obtain ⟨hlt, hget⟩ := List.getElem?_eq_some_iff.mp hp
  funext q
  by_cases hq : q = p
  · subst hq
    simp [nameOf, hlt, hget]
  · simp [nameOf, getElem?_set_ne (Ne.symm hq)]

theorem DistinctIds.congr {peers peers' : List MeetingPeer} (h : DistinctIds peers)
    (hname : nameOf peers' = nameOf peers) : DistinctIds peers' := by
  rw [DistinctIds, hname]
  exact h

variable {σ : Type}

theorem mem_ids (mgr : MeetingManager σ) (members : List Nat) (x : CString) :
    x ∈ mgr.ids members ↔ ∃ q ∈ members, nameOf mgr.peers q = some x :=
  mem_filterMap

theorem length_ids_le (mgr : MeetingManager σ) (members : List Nat) :
    (mgr.ids members).length ≤ members.length :=
  length_filterMap_le ..

theorem length_of_mem_ids {mgr : MeetingManager σ} {members : List Nat} {x : CString}
    (hx : x ∈ mgr.ids members) : x.val.length < meetingPeerIdLen := by
  obtain ⟨q, -, hq⟩ := (mem_ids mgr members x).mp hx
  obtain ⟨peer, -, rfl⟩ := Option.map_eq_some_iff.mp hq
  exact peer.id.property

/-! ## Calls -/

def MeetingManager.view (mgr : MeetingManager Sent) (p : Nat) : Set CString :=
  {x | x ∈ rosterOf mgr.world p}

theorem MeetingManager.mem_view {mgr : MeetingManager Sent} {p : Nat} {x : CString} :
    x ∈ mgr.view p ↔ x ∈ rosterOf mgr.world p := Iff.rfl

structure MeetingManager.Told (mgr : MeetingManager Sent) : Prop where
  distinct : DistinctIds mgr.peers
  agree : ViewsAgree (nameOf mgr.peers) mgr.owner mgr.view

section

variable {mgr : MeetingManager Sent} {p : Nat} {peer : MeetingPeer} {mgr' : MeetingManager Sent}

theorem MeetingManager.Told.congr (h : mgr.Told)
    (hname : nameOf mgr'.peers = nameOf mgr.peers) (howner : mgr'.owner = mgr.owner)
    (hroster : ∀ q, rosterOf mgr'.world q = rosterOf mgr.world q) : mgr'.Told where
  distinct := h.distinct.congr hname
  agree := by
    have hview : mgr'.view = mgr.view := by
      funext q
      rw [view, hroster, view]
    rw [hname, howner, hview]
    exact h.agree

theorem MeetingManager.Told.leave (h : mgr.Told) (hreg : Registered False mgr none)
    (hp : mgr.peers[p]? = some peer) (hlive : peer.freed = false) (alloc : StrAlloc) :
    ∃ mgr', meetingLeave record mgr p alloc = some mgr' ∧ mgr'.Told
      ∧ mgr'.peers = mgr.peers.set p { peer with meetingIdx := none } := by
  obtain ⟨mgr', others, hleave, -, hpeers, hnodup, hothers, hworld⟩ :=
    hreg.leave record hp hlive alloc
  have hname : nameOf mgr'.peers = nameOf mgr.peers := by rw [hpeers, nameOf_set hp]
  have howner : mgr'.owner = Function.update mgr.owner p none := by
    rw [owner, hpeers, ownerOf_set (List.getElem?_eq_some_iff.mp hp).1, owner]
  have hroster := rosterOf_broadcast hnodup (sigMsgBuildPeerLeft peer.id) none mgr.world
  refine ⟨mgr', hleave, ⟨h.distinct.congr hname, ?_⟩, hpeers⟩
  rw [hname, howner]
  refine h.agree.leave h.distinct (x := peer.id.val) (by rw [nameOf, hp, Option.map_some])
    (fun q hne g hpg hqg => ?_) (fun q hne g hpg hqg => ?_)
  · -- the others of the meeting get `peer_left`
    ext y
    rw [mem_view, hworld, hroster, if_pos ⟨(hothers q).mpr ⟨hne, g, hpg, hqg⟩, Option.some_ne_none q⟩,
      applyMessage_peerLeft, mem_filter, Set.mem_sdiff, mem_view]
    simp
  · -- a peer of another meeting gets nothing
    ext y
    rw [mem_view, hworld, hroster, if_neg, mem_view]
    rintro ⟨hmem, -⟩
    obtain ⟨-, g', hpg', hqg'⟩ := (hothers q).mp hmem
    exact hpg (Option.some.inj (hqg'.symm.trans hqg) ▸ hpg')

theorem MeetingManager.Told.add {left : MeetingManager Sent} (h : left.Told)
    (hp : left.peers[p]? = some peer) (hidx : peer.meetingIdx = none) {idx : Nat}
    {members : List Nat} (hnodup : members.Nodup)
    (hmembers : ∀ q, q ∈ members ↔ left.owner q = some idx)
    (hlen : members.length < meetingMaxPeers)
    (hpeers : mgr'.peers = left.peers.set p { peer with meetingIdx := some idx })
    (hworld : mgr'.world = broadcastToMeeting record (members ++ [p])
      (sigMsgBuildPeerJoined peer.id) (some p)
      (record p (sigMsgBuildJoined peer.id (left.ids members)) left.world)) : mgr'.Told := by
  have hfree : left.owner p = none := (ownerOf_eq hp).trans hidx
  have hnot : p ∉ members := by
    intro hmem
    rw [hmembers, hfree] at hmem
    cases hmem
  have hname : nameOf mgr'.peers = nameOf left.peers := by rw [hpeers, nameOf_set hp]
  have howner : mgr'.owner = Function.update left.owner p (some idx) := by
    rw [owner, hpeers, ownerOf_set (List.getElem?_eq_some_iff.mp hp).1, owner]
  have hall : (members ++ [p]).Nodup :=
    nodup_append.mpr ⟨hnodup, nodup_singleton p, by
      rintro q hq r hr rfl
      exact hnot (mem_singleton.mp hr ▸ hq)⟩
  have hroster := rosterOf_broadcast hall (sigMsgBuildPeerJoined peer.id) (some p)
    (record p (sigMsgBuildJoined peer.id (left.ids members)) left.world)
  refine ⟨h.distinct.congr hname, ?_⟩
  rw [hname, howner]
  refine h.agree.join (x := peer.id.val) (by rw [nameOf, hp, Option.map_some]) hfree ?_
    (fun q hq => ?_) (fun q hne hq => ?_)
  · -- the new peer gets the list, and is left out of the broadcast
    have hfits : (left.ids members).length ≤ sigMaxPeers :=
      (length_ids_le left members).trans (Nat.le_of_lt hlen)
    ext y
    rw [mem_view, hworld, hroster, if_neg fun h => h.2 rfl, rosterOf_record, if_pos rfl,
      applyMessage_joined _ _ hfits fun id hid => length_of_mem_ids hid, mem_ids]
    simp only [hmembers]
    rfl
  · -- those who were there get `peer_joined`
    have hqp : q ≠ p := fun heq => hnot (heq ▸ (hmembers q).mpr hq)
    have hmem : q ∈ members ++ [p] := mem_append_left _ ((hmembers q).mpr hq)
    ext y
    rw [mem_view, hworld, hroster, if_pos ⟨hmem, by simpa using hqp⟩, applyMessage_peerJoined,
      rosterOf_record, if_neg (Ne.symm hqp), mem_cons, Set.mem_insert_iff, mem_view]
  · have hmem : q ∉ members ++ [p] := by simp [hne, hmembers, hq]
    ext y
    rw [mem_view, hworld, hroster, if_neg fun h => hmem h.1, rosterOf_record, if_neg (Ne.symm hne),
      mem_view]

theorem meetingStep_told {op : MeetingOp} (hreg : Registered False mgr none)
    (hp : mgr.peers[op.peer]? = some peer) (hlive : peer.freed = false) (h : mgr.Told)
    (hstep : meetingStep record mgr op = some mgr') : mgr'.Told := by
  have hlt := (List.getElem?_eq_some_iff.mp hp).1
  cases op with
  | join p name allocs =>
    rw [MeetingOp.peer] at hp hlt
    by_cases hname : name.val = []
    · -- refused, and nothing is sent
      rw [meetingStep, meetingJoin, if_pos hname] at hstep
      exact Option.some.inj hstep ▸ h
    obtain ⟨left, ok, after, hleave, hjoin, -, hcase⟩ :=
      hreg.join record hp hlive hname (fun hfalse => hfalse.elim) allocs
    obtain ⟨left', hleave', htold, hleft⟩ := h.leave hreg hp hlive allocs.1
    obtain rfl := Option.some.inj (hleave.symm.trans hleave')
    obtain rfl : after = mgr' := Option.some.inj
      ((congrArg (Option.map Prod.snd) hjoin).symm.trans hstep)
    obtain ⟨hpeers, hworld⟩ | ⟨idx, members, hnodup, hmembers, hlen, hpeers, hworld⟩ := hcase
    · refine htold.congr (by rw [hpeers]) (by rw [owner, owner, hpeers]) fun q => ?_
      obtain hworld | hworld := hworld
      · rw [hworld]
      · -- an error does not change the list
        rw [hworld, rosterOf_record, applyMessage_error, ite_self]
    · have hp' : left.peers[p]? = some { peer with meetingIdx := none } := by
        rw [hleft, getElem?_set_self hlt]
      exact htold.add hp' rfl hnodup hmembers hlen (by rw [hpeers, hleft, set_set]) hworld
  | leave p alloc =>
    obtain ⟨left, hleave, htold, -⟩ := h.leave hreg hp hlive alloc
    exact Option.some.inj (hleave.symm.trans hstep) ▸ htold
  | destroy p alloc =>
    obtain ⟨left, after, hleave, hdestroy, -, hpeers, hworld⟩ := hreg.destroy record hp hlive alloc
    obtain ⟨left', hleave', htold, hleft⟩ := h.leave hreg hp hlive alloc
    obtain rfl := Option.some.inj (hleave.symm.trans hleave')
    obtain rfl := Option.some.inj (hdestroy.symm.trans hstep)
    refine htold.congr ?_ ?_ fun q => by rw [hworld]
    · rw [hpeers, hleft, nameOf_set hp, nameOf_set hp]
    · rw [owner, owner, hpeers, hleft, ownerOf_set hlt, ownerOf_set hlt]

theorem meetingManagerInit_told {ids : List PeerId} (hids : ids.Nodup) :
    (meetingManagerInit ids ([] : Sent)).Told where
  distinct p q x hp hq := by
    simp only [nameOf, meetingManagerInit, getElem?_map, Option.map_map,
      Option.map_eq_some_iff] at hp hq
    obtain ⟨id, hid, rfl⟩ := hp
    obtain ⟨id', hid', heq⟩ := hq
    obtain rfl : id' = id := Subtype.ext heq
    exact (getElem?_inj (List.getElem?_eq_some_iff.mp hid).1 hids).mp (hid.trans hid'.symm)
  agree p g hp := by
    simp [owner, ownerOf, meetingManagerInit, Option.bind_map] at hp

end

/-- **Rosters.** -/
theorem meetingRun_rosters {ids : List PeerId} (hids : ids.Nodup) (ops : List MeetingOp)
    (hops : UsesLive (range ids.length) ops) :
    ∃ mgr, meetingRun record (meetingManagerInit ids []) ops = some mgr
      ∧ ∀ m ∈ mgr.meetings, ∀ p ∈ m.peers, ∀ x,
        x ∈ rosterOf mgr.world p ↔ ∃ q ∈ m.peers, q ≠ p ∧ nameOf mgr.peers q = some x := by
  obtain ⟨mgr, hrun, hreg, htold⟩ := meetingRun_invariant record (P := Told)
    (fun _ _ _ _ hreg hp hlive htold hstep => meetingStep_told hreg hp hlive htold hstep)
    (.init ids []) (meetingManagerInit_live ids []) (meetingManagerInit_told hids) hops
    fun hfalse => hfalse.elim
  refine ⟨mgr, hrun, fun m hmem p hp x => ?_⟩
  obtain ⟨i, hm⟩ := mem_iff_getElem?.mp hmem
  have hview := htold.agree p i ((hreg.mem_peers hm p).mp hp)
  rw [← mem_view, hview]
  simp only [hreg.mem_peers hm]
  exact exists_congr fun q => and_left_comm

theorem alice_meets_bob_rosters :
    ∃ mgr, meetingRun record (meetingManagerInit [alice, bob] []) (meetAndPart.take 2) = some mgr
      ∧ ∀ m ∈ mgr.meetings, ∀ p ∈ m.peers, ∀ x,
        x ∈ rosterOf mgr.world p ↔ ∃ q ∈ m.peers, q ≠ p ∧ nameOf mgr.peers q = some x :=
  meetingRun_rosters (by decide) _ (by
    simp [meetAndPart, UsesLive, MeetingOp.peer, MeetingOp.left, range_succ])

example :
    (meetingRun record (meetingManagerInit [alice, bob] []) (meetAndPart.take 2)).map
        (fun mgr => (rosterOf mgr.world 0, rosterOf mgr.world 1))
      = some ([bob.val], [alice.val]) := by
  decide +kernel

end Mrtc
