import Mrtc.Conference.Peers

/-! # Room for more (`media_pipeline.c`, `conference.c`)

The tables of a conference and of its media pipeline have a count that is never lowered.
-/

namespace Mrtc

/-- With fewer active peers than slots a peer can be added. -/
def Conference.PeersReusable (c : Conference) : Prop :=
  c.peers.countP ConfPeer.active < confMaxPeers →
    ∀ peerId alloc, alloc.table = true → ∃ i c', allocPeer c peerId alloc = some (some i, c')

section

variable {c c' : Conference}

theorem createPc_grows (i : Nat) (created : Bool) :
    Cursor.Grows ConfPeer.active c.peers (createPc c i created).peers := by
  unfold createPc
  split
  · exact .refl _
  · exact .modify (by simp) _ _

theorem ConfEffect.grows {e : ConfEvent} (h : ConfEffect c e c') :
    Cursor.Grows ConfPeer.active c.peers c'.peers := by
  have hchain : ∀ {c₁}, Relation.ReflTransGen QuietChange c c₁ →
      Cursor.Grows ConfPeer.active c.peers c₁.peers := by
    intro c₁ hquiet
    induction hquiet with
    | refl => exact .refl _
    | tail _ hlast ih => exact ih.trans hlast.grows
  cases h with
  | quiet hquiet => exact hchain hquiet
  | connected c₁ i p hquiet hp hactive hfree hsound hc' =>
    rw [hc']
    exact (hchain hquiet).trans (createPc_grows i true)

def longId : CString := ⟨List.replicate 64 0x61, by decide⟩

theorem Conference.Sound.peersReusable_iff (h : c.Sound) :
    c.PeersReusable ↔ Cursor.Reusable ConfPeer.active confMaxPeers c.peers := by
  constructor
  · intro hreusable hcount
    obtain ⟨i, c', hadd⟩ := hreusable hcount longId {} rfl
    obtain ⟨r, c'', halloc, -, heffect⟩ := h.allocPeer longId {}
    cases halloc.symm.trans hadd
    cases heffect with
    | found i p hfind => cases (h.find_long (by decide)).symm.trans hfind
    | added index hfind hroom => exact hroom
  · intro hroom hcount peerId alloc htable
    obtain ⟨r, c', halloc, -, heffect⟩ := h.allocPeer peerId alloc
    cases heffect with
    | found i p => exact ⟨i, _, halloc⟩
    | refused index hfind hwhy =>
      rcases hwhy with hfull | hfail
      · exact absurd (hroom hcount) (Nat.not_lt.mpr hfull)
      · rw [htable] at hfail
        cases hfail
    | added => exact ⟨_, _, halloc⟩

theorem peers_capacity (events : List ConfEvent) :
    ∃ c, Trace.run confStep {} events = some c
      ∧ (Trace.EveryPoint confStep Conference.PeersReusable {} events
        ↔ c.peers.length < confMaxPeers ∨ ∀ p ∈ c.peers, p.active = true) := by
  obtain ⟨c, hrun, hsound, hiff, -⟩ := Trace.everyPoint_iff_last confStep
    Conference.Sound Conference.PeersReusable
    (fun c e hsound => by
      obtain ⟨c', hstep, hsound', heffect⟩ := hsound.confStep e
      refine ⟨c', hstep, hsound', fun hlater => ?_⟩
      rw [hsound'.peersReusable_iff] at hlater
      rw [hsound.peersReusable_iff]
      exact .of_grows heffect.grows hsound'.few hlater)
    conference_sound events
  refine ⟨c, hrun, ?_⟩
  rw [hiff, hsound.peersReusable_iff, Cursor.reusable_iff hsound.few]

end

/-- **Exactly when capacity can be used again.** -/
theorem capacity_reusable_iff (ops : List PipelineOp) (events : List ConfEvent) :
    ∃ p c, Trace.run pipelineStep {} ops = some p ∧ Trace.run confStep {} events = some c
      ∧ (Trace.EveryPoint pipelineStep MediaPipeline.SendPeersReusable {} ops
        ↔ p.sendPeers.length < 8 ∨ ∀ sp ∈ p.sendPeers, sp.active = true)
      ∧ (Trace.EveryPoint pipelineStep MediaPipeline.RecvStreamsReusable {} ops
        ↔ p.recv.length < 16 ∨ ∀ s ∈ p.recv, s.active = true)
      ∧ (Trace.EveryPoint confStep Conference.PeersReusable {} events
        ↔ c.peers.length < 8 ∨ ∀ p ∈ c.peers, p.active = true) := by
  obtain ⟨p, hrun, hsend⟩ := sendPeers_capacity ops
  obtain ⟨p', hrun', hrecv⟩ := recvStreams_capacity ops
  cases hrun.symm.trans hrun'
  obtain ⟨c, hconf, hpeers⟩ := peers_capacity events
  exact ⟨p, c, hrun, hconf, hsend, hrecv, hpeers⟩

def letterId (n : Fin 26) : CString := ⟨[0x61 + UInt8.ofNat n.val], by revert n; decide⟩

/-- Eight peers, or sixteen streams, come and go. -/
theorem comeAndGo_full :
    let ids := ((List.finRange 26).take 8).map letterId
    let sent := Trace.run pipelineStep {} (ids.map .addSendPeer ++ ids.map .removeSendPeer)
    let received := Trace.run pipelineStep {} ((List.range 16).flatMap fun n =>
      [.addRecvStream (letterId 0) cameraLabel (UInt32.ofNat n) true true,
        .removeRecvStream (UInt32.ofNat n)])
    let conference := Trace.run confStep {}
      (ids.map (fun id => .offer id {} true) ++ ids.map fun id => .peerLeft id {})
    sent.map (fun p => (p.sendPeers.countP MpSendPeer.active,
        (mediaPipelineAddSendPeer p (letterId 20)).1.isOk)) = some (0, false)
      ∧ received.map (fun p => (p.recv.countP MediaRecvStream.active,
        (mediaPipelineAddRecvStream p (letterId 0) cameraLabel 20 true true).1)) = some (0, none)
      ∧ conference.map (fun c => (c.peers.countP ConfPeer.active,
        (allocPeer c (letterId 20) {}).map Prod.fst)) = some (0, some none) := by
  decide +kernel

end Mrtc
