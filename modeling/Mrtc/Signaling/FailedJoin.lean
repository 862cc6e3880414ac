import Mrtc.Signaling.Registry

/-! # Joining that fails (`meeting.c`)

`meeting_join` takes the peer out of its meeting before it looks for room in the other one.
-/

namespace Mrtc

open MeetingManager List

def noteMessage (p : Nat) (json : Json) (notes : List (Nat × Json)) : List (Nat × Json) :=
  notes ++ [(p, json)]

/-- Nothing that a join is about is different: where the peers are, who is in the meetings and which
meetings the names lead to. -/
structure MeetingManager.Unchanged (mgr mgr' : MeetingManager (List (Nat × Json))) : Prop where
  membership : mgr'.peers = mgr.peers
  members : mgr'.meetings.map Meeting.peers = mgr.meetings.map Meeting.peers
  names : ∀ name, findMeeting mgr' name = findMeeting mgr name
  sent : ∃ notes, mgr'.world = mgr.world ++ notes
    ∧ ∀ q id, (q, sigMsgBuildPeerLeft id) ∉ notes

section

variable {σ : Type} {send : Nat → Json → σ → σ} {fits : Prop} {mgr mgr' : MeetingManager σ}
  {name : CString} {p : Nat} {alloc : StrAlloc}

theorem meetingJoin_failed (hname : name.val ≠ []) {allocs : StrAlloc × StrAlloc}
    (h : meetingJoin send mgr p name allocs = some (false, mgr')) :
    ∃ left, meetingLeave send mgr p allocs.1 = some left
      ∧ (findOrCreateMeeting left name allocs.2 = some (none, mgr')
        ∨ ∃ idx found m, findOrCreateMeeting left name allocs.2 = some (some idx, found)
          ∧ found.meetings[idx]? = some m ∧ meetingMaxPeers ≤ m.peers.length
          ∧ mgr' = { found with
              world := send p (sigMsgBuildError meetingFull) found.world }) := by
  rw [meetingJoin, if_neg hname] at h
  cases hleave : meetingLeave send mgr p allocs.1 with
  | none =>
    rw [hleave] at h
    cases h
  | some left =>
    refine ⟨left, rfl, ?_⟩
    rw [hleave] at h
    dsimp only at h
    split at h
    · cases h
    · rename_i hfind
      cases h
      exact .inl hfind
    · rename_i idx found hfind
      split at h
      · grind
      · cases h

theorem createMeeting_cases (h : Registered fits mgr none)
    {r : Option Nat} (hcreate : createMeeting mgr name alloc = some (r, mgr')) :
    (∃ i m, r = some i ∧ mgr'.meetings[i]? = some m ∧ m.peers = [])
      ∨ (r = none ∧ mgr'.peers = mgr.peers ∧ mgr'.vectors = mgr.vectors
        ∧ (∀ key, findMeeting mgr' key = findMeeting mgr key) ∧ mgr'.world = mgr.world) := by
  rw [createMeeting] at hcreate
  cases hfind : mgr.meetings.findIdx? fun m => !m.active with
  | none =>
    rw [hfind] at hcreate
    cases hcreate
    exact .inr ⟨rfl, rfl, rfl, fun _ => rfl, rfl⟩
  | some i =>
    obtain ⟨hi, hinactive, -⟩ := findIdx?_eq_some_iff_getElem.mp hfind
    have hm : mgr.meetings[i]? = some mgr.meetings[i] := getElem?_eq_getElem hi
    generalize mgr.meetings[i] = m at hinactive hm
    rw [hfind] at hcreate
    dsimp only at hcreate
    obtain ⟨S, hrep, -⟩ := h.indexed
    rcases hrep.set_cases (name.take (meetingMaxName - 1)) (some i) alloc with
      ⟨index', hset, hrep', -⟩ | ⟨index', hset, -⟩
    · rw [hset] at hcreate
      cases hcreate
      -- the place is cleared, but nobody was there, and the map has not changed
      have hempty : m.peers = [] := by
        by_contra hne
        exact absurd ((h.active i m hm).mpr (.inl hne)) (by simpa using hinactive)
      refine .inr ⟨rfl, rfl, ?_, fun key => ?_, rfl⟩
      · show (mgr.meetings.set i _).map Meeting.peers = mgr.meetings.map Meeting.peers
        exact List.map_set_of_eq hm hempty.symm
      · show rtcStrMapGet index' key = rtcStrMapGet mgr.nameIndex key
        rw [hrep.get, hrep'.get]
    · grind

theorem findOrCreateMeeting_cases (h : Registered fits mgr none) {r : Option Nat}
    (hfind : findOrCreateMeeting mgr name alloc = some (r, mgr')) :
    (∃ i m, r = some i ∧ mgr'.meetings[i]? = some m ∧ m.peers = [])
      ∨ mgr'.peers = mgr.peers ∧ mgr'.vectors = mgr.vectors
        ∧ (∀ key, findMeeting mgr' key = findMeeting mgr key) ∧ mgr'.world = mgr.world := by
  rw [findOrCreateMeeting] at hfind
  split at hfind
  · cases hfind
  · cases hfind
    exact .inr ⟨rfl, rfl, fun _ => rfl, rfl⟩
  · exact (createMeeting_cases h hfind).imp_right fun hnone => hnone.2

theorem meetingLeave_of_owner (howner : mgr.owner p = none)
    (hleave : meetingLeave send mgr p alloc = some mgr') : mgr' = mgr := by
  rw [meetingLeave] at hleave
  split at hleave
  · cases hleave
  · rename_i peer hp
    split at hleave
    · cases hleave
    · have hidx : peer.meetingIdx = none := (ownerOf_eq hp).symm.trans howner
      rw [hidx] at hleave
      exact (Option.some.inj hleave).symm

theorem exists_of_meetingLeave (hleave : meetingLeave send mgr p alloc = some mgr') :
    ∃ peer, mgr.peers[p]? = some peer ∧ peer.freed = false := by
  rw [meetingLeave] at hleave
  split at hleave
  · cases hleave
  · grind

end

section

variable {mgr mgr' : MeetingManager (List (Nat × Json))} {p : Nat} {name : CString}
  {allocs : StrAlloc × StrAlloc}

theorem unchanged_refl (mgr : MeetingManager (List (Nat × Json))) : mgr.Unchanged mgr :=
  ⟨rfl, rfl, fun _ => rfl, [], (append_nil _).symm, fun _ _ => not_mem_nil⟩

theorem buildError_ne_buildPeerLeft (id : CString) :
    sigMsgBuildError meetingFull ≠ sigMsgBuildPeerLeft id := by
  intro heq
  have htype : some ("type", JsonValue.string SigMsgType.error.text)
      = some ("type", JsonValue.string SigMsgType.peerLeft.text) := congrArg List.head? heq
  exact absurd htype (by decide)

/-- **One failed join.** -/
theorem MeetingManager.Registered.failedJoin_iff (h : Registered False mgr none)
    (hjoin : meetingJoin noteMessage mgr p name allocs = some (false, mgr')) :
    mgr.Unchanged mgr' ↔ name.val = [] ∨ mgr.owner p = none := by
  by_cases hname : name.val = []
  · refine iff_of_true ?_ (.inl hname)
    rw [meetingJoin, if_pos hname] at hjoin
    cases hjoin
    exact unchanged_refl mgr
  obtain ⟨left, hleave, hfailed⟩ := meetingJoin_failed hname hjoin
  obtain ⟨peer, hp, hlive⟩ := exists_of_meetingLeave hleave
  obtain ⟨left', -, hleave', hleft, hpeers, -⟩ := h.leave noteMessage hp hlive allocs.1
  obtain rfl := Option.some.inj (hleave.symm.trans hleave')
  constructor
  · intro hsame
    refine .inr ?_
    -- whatever follows, the peer is in no meeting any more
    have hgone : mgr'.peers = left.peers := by
      rcases hfailed with hnone | ⟨idx, found, m, hfind, hm, hfull, rfl⟩
      · grind [findOrCreateMeeting_cases]
      · rcases findOrCreateMeeting_cases hleft hfind with ⟨i, m', hi, hm', hempty⟩ | ⟨hpeers', -⟩
        · cases hi
          rw [Option.some.inj (hm.symm.trans hm'), hempty] at hfull
          cases hfull
        · exact hpeers'
    rw [hsame.membership, hpeers] at hgone
    have hlt : p < mgr.peers.length := (List.getElem?_eq_some_iff.mp hp).1
    rw [MeetingManager.owner, hgone, ownerOf_set hlt, Function.update_self]
  · rintro (hempty | howner)
    · exact absurd hempty hname
    obtain rfl := meetingLeave_of_owner howner hleave
    rcases hfailed with hnone | ⟨idx, found, m, hfind, hm, hfull, rfl⟩
    · rcases findOrCreateMeeting_cases hleft hnone with ⟨i, m, hi, -⟩ | ⟨hp', hm', hn', hw'⟩
      · cases hi
      · exact ⟨hp', hm', hn', [], hw'.trans (append_nil _).symm, fun _ _ => not_mem_nil⟩
    · rcases findOrCreateMeeting_cases hleft hfind with ⟨i, m', hi, hm', hempty⟩ | ⟨hp', hm', hn', hw'⟩
      · cases hi
        rw [Option.some.inj (hm.symm.trans hm'), hempty] at hfull
        cases hfull
      · refine ⟨hp', hm', hn', [(p, sigMsgBuildError meetingFull)], ?_, fun q id hmem => ?_⟩
        · show noteMessage p _ found.world = _
          rw [hw', noteMessage]
        · obtain ⟨-, heq⟩ := Prod.mk.inj (mem_singleton.mp hmem)
          exact buildError_ne_buildPeerLeft id heq.symm

end

/-- **Exactly when a failed join changes nothing.** -/
theorem failedJoin_unchanged_iff (ids : List PeerId) (ops : List MeetingOp)
    (hops : UsesLive (range ids.length) ops) :
    ∃ mgr, meetingRun noteMessage (meetingManagerInit ids []) ops = some mgr
      ∧ ∀ p name allocs mgr', meetingJoin noteMessage mgr p name allocs = some (false, mgr') →
        (mgr.Unchanged mgr' ↔ name.val = [] ∨ mgr.owner p = none) := by
  obtain ⟨mgr, hrun, hreg, -⟩ := meetingRun_invariant noteMessage
    (P := fun _ => True) (fun _ _ _ _ _ _ _ _ _ => trivial) (.init ids [])
    (meetingManagerInit_live ids []) trivial hops False.elim
  exact ⟨mgr, hrun, fun p name allocs mgr' hjoin => hreg.failedJoin_iff hjoin⟩

def fullMeeting : List MeetingOp := (range 8).map fun p => .join p standup ({}, {})

/-- A ninth one, which is in none, is refused and nothing has changed. -/
theorem ninthPeer_unchanged :
    ∃ mgr mgr', meetingRun noteMessage (meetingManagerInit (replicate 9 alice) []) fullMeeting
        = some mgr
      ∧ meetingJoin noteMessage mgr 8 standup ({}, {}) = some (false, mgr')
      ∧ mgr.Unchanged mgr' := by
  have hops : UsesLive (range (replicate 9 alice).length) fullMeeting := by
    simp [fullMeeting, UsesLive, MeetingOp.peer, MeetingOp.left, range_succ]
  obtain ⟨mgr, hrun, hiff⟩ := failedJoin_unchanged_iff _ _ hops
  have hjoin : ((meetingRun noteMessage (meetingManagerInit (replicate 9 alice) [])
      fullMeeting).bind fun mgr =>
        (meetingJoin noteMessage mgr 8 standup ({}, {})).map fun r => (r.1, mgr.owner 8))
      = some (false, none) := by
    decide +kernel
  rw [hrun, Option.bind_some] at hjoin
  obtain ⟨⟨ok, mgr'⟩, hjoin', heq⟩ := Option.map_eq_some_iff.mp hjoin
  obtain ⟨rfl, howner⟩ := Prod.mk.inj heq
  exact ⟨mgr, mgr', hrun, hjoin', (hiff 8 standup _ mgr' hjoin').mpr (.inr howner)⟩

/-- If the ninth peer is in another meeting with a tenth, it is in none after it was refused, and
the tenth has been told that it left. -/
theorem ninthPeer_thrown_out :
    let refused :=
      (meetingRun noteMessage (meetingManagerInit (replicate 10 alice) [])
        ([.join 9 review ({}, {}), .join 8 review ({}, {})] ++ fullMeeting)).bind fun mgr =>
          (meetingJoin noteMessage mgr 8 standup ({}, {})).map fun r => (mgr, r)
    refused.map (fun x => (x.2.1, x.1.owner 8, x.2.2.owner 8)) = some (false, some 0, none)
      ∧ refused.map (fun x => x.2.2.world.drop x.1.world.length)
        = some [(9, sigMsgBuildPeerLeft alice.val), (8, sigMsgBuildError meetingFull)] := by
  decide +kernel

end Mrtc
