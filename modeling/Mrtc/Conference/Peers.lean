import Mrtc.Conference.Model
import Mrtc.Lib.Linked

/-! # The peers of a conference (`conference.c`)

What the array of peers, the map of their ids and the connections keep, whatever happens
(`Conference.Sound`), and what an event can do to them (`ConfEffect`): peers come and go, and at
most one connection is created.
-/

namespace Mrtc

open List

structure Conference.Sound (c : Conference) : Prop where
  few : c.peers.length ≤ confMaxPeers
  short : ∀ p ∈ c.peers, p.peerId.val.length < confLabelSize
  /-- The map leads from ids to active peers that have them. -/
  indexed : ∃ S, c.peerIndex.Represents false S ∧ S.sets ≤ c.peers.length
    ∧ ∀ peerId v, S.entries peerId = some v →
      ∃ i p, v = some i ∧ c.peers[i]? = some p ∧ p.active = true ∧ p.peerId = peerId
  /-- The connection of an active peer was created for it and is not released. -/
  owned : ∀ (i : Nat) (p : ConfPeer) (k : Nat), c.peers[i]? = some p → p.active = true →
    p.pc = some k → c.connections[k]? = some { user := i }
  counted : ∀ pc ∈ c.connections, pc.closes = pc.destroys ∧ pc.destroys ≤ 1
  user : ∀ pc ∈ c.connections, pc.user < c.peers.length

theorem conference_sound : Conference.Sound {} where
  few := Nat.zero_le _
  short _ hp := by cases hp
  indexed := ⟨{}, StrMap.represents_init false, Nat.le_refl _, fun _ _ h => by cases h⟩
  owned _ _ _ hp := by cases hp
  counted _ hpc := by cases hpc
  user _ hpc := by cases hpc

section Calls

variable {c : Conference} {i : Nat}

theorem Conference.Sound.find (h : c.Sound) (peerId : CString) :
    ∃ found, findPeer c peerId = some found
      ∧ ∀ i, found = some i → ∃ p, c.peers[i]? = some p ∧ p.active = true ∧ p.peerId = peerId := by
  obtain ⟨S, hrep, -, hactive⟩ := h.indexed
  refine ⟨_, hrep.get peerId, fun i hi => ?_⟩
  cases hentry : S.entries peerId with
  | none =>
    rw [hentry] at hi
    cases hi
  | some v => grind

theorem Conference.Sound.find_long (h : c.Sound) {peerId : CString}
    (hlong : confLabelSize ≤ peerId.val.length) : findPeer c peerId = some none := by
  obtain ⟨found, hfind, hactive⟩ := h.find peerId
  cases found with
  | none => exact hfind
  | some i =>
    obtain ⟨p, hp, -, rfl⟩ := hactive i rfl
    exact absurd (h.short p (mem_of_getElem? hp)) (Nat.not_lt.mpr hlong)

theorem Conference.Sound.of_peers (h : c.Sound) {peers : List ConfPeer}
    {pipeline : MediaPipeline} {connections : List ConfConnection}
    (hlength : peers.length = c.peers.length)
    (hsame : ∀ (i : Nat) (p' : ConfPeer), peers[i]? = some p' →
      ∃ p, c.peers[i]? = some p ∧ p'.peerId = p.peerId ∧ p'.active = p.active)
    (howned : ∀ (i : Nat) (p' : ConfPeer) (k : Nat), peers[i]? = some p' → p'.active = true →
      p'.pc = some k → connections[k]? = some { user := i })
    (hcounted : ∀ pc ∈ connections, pc.closes = pc.destroys ∧ pc.destroys ≤ 1)
    (huser : ∀ pc ∈ connections, pc.user < c.peers.length) :
    Conference.Sound
      { c with peers := peers, pipeline := pipeline, connections := connections } where
  few := hlength ▸ h.few
  short p' hp' := by
    obtain ⟨i, hi⟩ := getElem?_of_mem hp'
    obtain ⟨p, hp, hid, -⟩ := hsame i p' hi
    rw [hid]
    exact h.short p (mem_of_getElem? hp)
  indexed := by grind [List.getElem?_eq_some_iff, getElem?_eq_getElem, h.indexed]
  owned := howned
  counted := hcounted
  user := hlength ▸ huser

inductive AllocEffect (c : Conference) (peerId : CString) (alloc : StrAlloc) :
    Option Nat → Conference → Prop where
  | found (i : Nat) (p : ConfPeer) (hfind : findPeer c peerId = some (some i))
      (hp : c.peers[i]? = some p) (hactive : p.active = true) :
      AllocEffect c peerId alloc (some i) c
  | refused (index : StrMap Nat) (hfind : findPeer c peerId = some none)
      (hwhy : confMaxPeers ≤ c.peers.length ∨ alloc.table = false) :
      AllocEffect c peerId alloc none { c with peerIndex := index }
  | added (index : StrMap Nat) (hfind : findPeer c peerId = some none)
      (hroom : c.peers.length < confMaxPeers) :
      AllocEffect c peerId alloc (some c.peers.length)
        { c with
          peerIndex := index
          peers := c.peers ++ [{ peerId := peerId.take (confLabelSize - 1) }] }

theorem CString.length_take_lt (s : CString) {n : Nat} (hn : 0 < n) :
    (s.take (n - 1)).val.length < n := by
  have hle : (s.take (n - 1)).val.length ≤ n - 1 := length_take_le _ _
  omega

theorem Conference.Sound.allocPeer (h : c.Sound) (peerId : CString) (alloc : StrAlloc) :
    ∃ r c', Mrtc.allocPeer c peerId alloc = some (r, c') ∧ c'.Sound
      ∧ AllocEffect c peerId alloc r c' := by
  obtain ⟨found, hfind, hactive⟩ := h.find peerId
  rw [Mrtc.allocPeer, hfind]
  cases found with
  | some i =>
    obtain ⟨p, hp, hpactive, -⟩ := hactive i rfl
    exact ⟨_, c, rfl, h, .found i p hfind hp hpactive⟩
  | none =>
    dsimp only
    by_cases hfull : confMaxPeers ≤ c.peers.length
    · rw [if_pos hfull]
      exact ⟨_, c, rfl, h, .refused c.peerIndex hfind (.inl hfull)⟩
    rw [if_neg hfull]
    obtain ⟨S, hrep, hsets, hentries⟩ := h.indexed
    rcases hrep.set_cases (peerId.take (confLabelSize - 1)) (some c.peers.length) alloc with
      ⟨index, hset, hindex, hwhy⟩ | ⟨index, hset, hindex⟩
    · rw [hset]
      have hfail : alloc.table = false := by
        rcases hwhy with (htable | ⟨hno, -⟩) | hmany
        · exact htable
        · cases hno
        · have hfew := h.few
          unfold confMaxPeers at hfew
          omega
      exact ⟨_, _, rfl, ⟨h.few, h.short, ⟨S, hindex, hsets, hentries⟩, h.owned, h.counted, h.user⟩,
        .refused index hfind (.inr hfail)⟩
    · rw [hset]
      refine ⟨_, _, rfl, ⟨?_, ?_, ⟨_, hindex, ?_, ?_⟩, ?_, h.counted, ?_⟩,
        .added index hfind (Nat.lt_of_not_le hfull)⟩
      · rw [length_append]
        exact Nat.lt_of_not_le hfull
      · intro p hp
        rcases mem_append.mp hp with hold | hnew
        · exact h.short p hold
        · rw [mem_singleton.mp hnew]
          exact CString.length_take_lt peerId (by decide)
      · rw [length_append]
        exact Nat.succ_le_succ hsets
      · intro key v hentry
        dsimp only at hentry
        by_cases hkey : key = peerId.take (confLabelSize - 1)
        · grind [Function.update_self, getElem?_concat_length]
        · grind
      · grind [List.getElem?_concat_eq_some, h.owned]
      · intro pc hpc
        rw [length_append]
        exact Nat.lt_succ_of_lt (h.user pc hpc)

theorem getElem?_createPc {peers : List ConfPeer} {k j : Nat} {q' : ConfPeer}
    (hq' : (peers.modify i fun p => { p with pc := some k })[j]? = some q') :
    ∃ q, peers[j]? = some q ∧ q'.peerId = q.peerId ∧ q'.active = q.active
      ∧ q'.pc = if i = j then some k else q.pc := by
  rw [getElem?_modify, Option.map_eq_map, Option.map_eq_some_iff] at hq'
  obtain ⟨q, hq, rfl⟩ := hq'
  refine ⟨q, hq, ?_⟩
  by_cases hij : i = j
  · simp [hij]
  · simp [hij]

theorem Conference.Sound.createPc (h : c.Sound) {p : ConfPeer} (hp : c.peers[i]? = some p)
    (created : Bool) : (Mrtc.createPc c i created).Sound := by
  unfold Mrtc.createPc
  split
  · exact h
  refine h.of_peers (length_modify _ _ _) (fun j q' hq' => ?_) (fun j q' k hq' hactive hpc => ?_)
    (fun pc hpc => ?_) (fun pc hpc => ?_)
  · grind
  · obtain ⟨q, hq, -, hactive', hpc'⟩ := getElem?_createPc hq'
    by_cases hij : i = j
    · grind
    · rw [hpc', if_neg hij] at hpc
      have hold := h.owned j q k hq (hactive'.symm.trans hactive) hpc
      exact (getElem?_append_left (List.getElem?_eq_some_iff.mp hold).1).trans hold
  · rcases mem_append.mp hpc with hold | hnew
    · exact h.counted pc hold
    · rw [mem_singleton.mp hnew]
      exact ⟨rfl, Nat.zero_le _⟩
  · rcases mem_append.mp hpc with hold | hnew
    · exact h.user pc hold
    · rw [mem_singleton.mp hnew]
      exact (List.getElem?_eq_some_iff.mp hp).1

theorem getElem?_releaseConnection (connections : List ConfConnection) (pc : Option Nat) (k : Nat) :
    (releaseConnection connections pc)[k]?
      = connections[k]?.map fun x =>
        if pc = some k then { x with closes := x.closes + 1, destroys := x.destroys + 1 } else x := by
  cases pc with
  | none => simp [releaseConnection]
  | some k' =>
    rw [releaseConnection, getElem?_modify]
    by_cases hk : k' = k
    · simp [hk]
    · simp [hk]

theorem Conference.Sound.destroyPeer (h : c.Sound) {p : ConfPeer}
    (hp : c.peers[i]? = some p) (hactive : p.active = true) (alloc : StrAlloc) :
    ∃ c', Mrtc.destroyPeer c i alloc = some c' ∧ c'.Sound
      ∧ c'.peers = c.peers.set i { p with active := false }
      ∧ c'.connections = releaseConnection c.connections p.pc := by
  obtain ⟨S, hrep, hsets, hentries⟩ := h.indexed
  obtain ⟨index, hremove, hindex⟩ := hrep.remove p.peerId alloc
  have hlt : i < c.peers.length := (List.getElem?_eq_some_iff.mp hp).1
  rw [Mrtc.destroyPeer, hp]
  dsimp only
  rw [if_neg (by simp [hactive]), hremove, Option.map_some]
  refine ⟨_, rfl, ⟨?_, ?_, ⟨_, hindex, ?_, ?_⟩, ?_, ?_, ?_⟩, rfl, rfl⟩
  · rw [length_set]
    exact h.few
  · intro q hq
    rcases mem_or_eq_of_mem_set hq with hold | rfl
    · exact h.short q hold
    · exact h.short p (mem_of_getElem? hp)
  · rw [length_set]
    exact hsets
  · -- the id of this peer is taken out, and any other id leads to another peer
    intro key v hentry
    dsimp only at hentry
    by_cases hkey : key = p.peerId
    · rw [hkey, Function.update_self] at hentry
      cases hentry
    · grind
  · intro j q k hq hqactive hpc
    rcases (List.getElem?_set_eq_some hlt).mp hq with ⟨-, rfl⟩ | ⟨hne, hold⟩
    · cases hqactive
    · have hconn := h.owned j q k hold hqactive hpc
      have hother : p.pc ≠ some k := by
        intro hsame
        cases (h.owned i p k hp hactive hsame).symm.trans hconn
        exact hne rfl
      rw [getElem?_releaseConnection, hconn, Option.map_some, if_neg hother]
  · intro pc hpc
    obtain ⟨k, hk⟩ := getElem?_of_mem hpc
    dsimp only at hk
    rw [getElem?_releaseConnection] at hk
    obtain ⟨pc₀, hpc₀, rfl⟩ := Option.map_eq_some_iff.mp hk
    split
    · rename_i hsame
      cases (h.owned i p k hp hactive hsame).symm.trans hpc₀
      exact ⟨rfl, Nat.le_refl _⟩
    · exact h.counted pc₀ (mem_of_getElem? hpc₀)
  · intro pc hpc
    obtain ⟨k, hk⟩ := getElem?_of_mem hpc
    dsimp only at hk
    rw [getElem?_releaseConnection] at hk
    obtain ⟨pc₀, hpc₀, rfl⟩ := Option.map_eq_some_iff.mp hk
    rw [length_set]
    have huser := h.user pc₀ (mem_of_getElem? hpc₀)
    split
    · exact huser
    · exact huser

end Calls

/-! ## What an event can do -/

inductive QuietChange (c c' : Conference) : Prop where
  | kept (hsound : c'.Sound) (hlength : c'.peers.length = c.peers.length)
      (hsame : ∀ (i : Nat) (p' : ConfPeer), c'.peers[i]? = some p' →
        ∃ p, c.peers[i]? = some p ∧ p'.active = p.active ∧ p'.pc = p.pc)
      (hconnections : c'.connections = c.connections)
  | added (hsound : c'.Sound) (p : ConfPeer) (hpc : p.pc = none)
      (hpeers : c'.peers = c.peers ++ [p]) (hconnections : c'.connections = c.connections)
  | left (hsound : c'.Sound) (i : Nat) (p : ConfPeer) (hp : c.peers[i]? = some p)
      (hactive : p.active = true) (hpeers : c'.peers = c.peers.set i { p with active := false })
      (hconnections : c'.connections = releaseConnection c.connections p.pc)

def ConfEvent.ConnectsFree (c : Conference) : ConfEvent → Prop
  | .listed peerId _ true | .offer peerId _ true =>
    ∀ (i : Nat) (p : ConfPeer), findPeer c peerId = some (some i) → c.peers[i]? = some p →
      p.pc = none
  | _ => True

inductive ConfEffect (c : Conference) (e : ConfEvent) (c' : Conference) : Prop where
  | quiet (hquiet : Relation.ReflTransGen QuietChange c c') (hfree : e.ConnectsFree c)
  | connected (c₁ : Conference) (i : Nat) (p : ConfPeer)
      (hquiet : Relation.ReflTransGen QuietChange c c₁) (hp : c₁.peers[i]? = some p)
      (hactive : p.active = true) (hfree : e.ConnectsFree c ↔ p.pc = none) (hsound : c₁.Sound)
      (hc' : c' = createPc c₁ i true)

section Effect

variable {c c' : Conference}

theorem QuietChange.sound (h : QuietChange c c') : c'.Sound := by
  cases h with
  | kept hsound => exact hsound
  | added hsound => exact hsound
  | left hsound => exact hsound

theorem QuietChange.refl (h : c.Sound) : QuietChange c c :=
  .kept h rfl (fun _ p hp => ⟨p, hp, rfl, rfl⟩) rfl

theorem Conference.Sound.destroyPeer_quiet (h : c.Sound) (i : Nat) (alloc : StrAlloc) :
    ∃ c', Mrtc.destroyPeer c i alloc = some c' ∧ QuietChange c c'
      ∧ c'.peers.length = c.peers.length
      ∧ ∀ p', c'.peers[i]? = some p' → p'.active = false := by
  cases hp : c.peers[i]? with
  | none =>
    refine ⟨c, by rw [Mrtc.destroyPeer, hp], .refl h, rfl, fun p' hp' => ?_⟩
    cases hp.symm.trans hp'
  | some p =>
    cases hactive : p.active with
    | false =>
      refine ⟨c, by simp [Mrtc.destroyPeer, hp, hactive], .refl h, rfl, fun p' hp' => ?_⟩
      cases hp.symm.trans hp'
      exact hactive
    | true =>
      obtain ⟨c', hdestroy, hsound, hpeers, hconnections⟩ := h.destroyPeer hp hactive alloc
      refine ⟨c', hdestroy, .left hsound i p hp hactive hpeers hconnections, ?_, fun p' hp' => ?_⟩
      · rw [hpeers, length_set]
      · grind

theorem QuietChange.grows (h : QuietChange c c') :
    Cursor.Grows ConfPeer.active c.peers c'.peers := by
  cases h with
  | kept _ hlength hsame =>
    intro i p hp
    have hlt : i < c'.peers.length := hlength ▸ (List.getElem?_eq_some_iff.mp hp).1
    obtain ⟨p₀, hp₀, hactive, -⟩ := hsame i _ (getElem?_eq_getElem hlt)
    cases hp.symm.trans hp₀
    exact ⟨_, getElem?_eq_getElem hlt, fun h => hactive ▸ h⟩
  | added _ p _ hpeers =>
    rw [hpeers]
    exact .append _ _
  | left _ i p hp hactive hpeers =>
    rw [hpeers]
    intro j q hq
    by_cases hij : i = j
    · grind
    · exact ⟨q, (getElem?_set_ne hij).trans hq, id⟩

theorem foldlM_destroyPeer (h : c.Sound) (alloc : Nat → StrAlloc) (is : List Nat) :
    ∃ c', is.foldlM (fun c i => destroyPeer c i (alloc i)) c = some c' ∧ c'.Sound
      ∧ Relation.ReflTransGen QuietChange c c' ∧ c'.peers.length = c.peers.length
      ∧ ∀ i ∈ is, ∀ p', c'.peers[i]? = some p' → p'.active = false := by
  induction is generalizing c with
  | nil => exact ⟨c, rfl, h, .refl, rfl, fun _ hi => by cases hi⟩
  | cons i is ih =>
    obtain ⟨c₁, hdestroy, hchange, hlength, hgone⟩ := h.destroyPeer_quiet i (alloc i)
    obtain ⟨c', hrest, hsound, hquiet, hlength', hgone'⟩ := ih hchange.sound
    refine ⟨c', ?_, hsound, .head hchange hquiet, hlength'.trans hlength, fun j hj p' hp' => ?_⟩
    · rw [foldlM_cons, hdestroy]
      exact hrest
    · rcases mem_cons.mp hj with rfl | hmem
      · -- this place was cleared first, and nothing after that makes it active
        have hgrows : Cursor.Grows ConfPeer.active c₁.peers c'.peers := by
          clear hrest hsound hlength' hgone' hp'
          induction hquiet with
          | refl => exact .refl _
          | tail _ hlast ih' => exact ih'.trans hlast.grows
        have hlt : j < c₁.peers.length := by
          rw [← hlength']
          exact (List.getElem?_eq_some_iff.mp hp').1
        obtain ⟨p'', hp'', hactive⟩ := hgrows j _ (getElem?_eq_getElem hlt)
        cases hp'.symm.trans hp''
        by_contra htrue
        have hone := hactive (Bool.eq_true_of_not_eq_false htrue)
        rw [hgone _ (getElem?_eq_getElem hlt)] at hone
        cases hone
      · exact hgone' j hmem p' hp'

theorem Conference.Sound.destroyPeers (h : c.Sound) (alloc : Nat → StrAlloc) :
    ∃ c', Mrtc.destroyPeers c alloc = some c' ∧ c'.Sound
      ∧ Relation.ReflTransGen QuietChange c c' ∧ ∀ p ∈ c'.peers, p.active = false := by
  obtain ⟨c', hrun, hsound, hquiet, hlength, hgone⟩ :=
    foldlM_destroyPeer h alloc (range c.peers.length)
  refine ⟨c', hrun, hsound, hquiet, fun p hp => ?_⟩
  obtain ⟨i, hi⟩ := getElem?_of_mem hp
  refine hgone i (mem_range.mpr ?_) p hi
  rw [← hlength]
  exact (List.getElem?_eq_some_iff.mp hi).1

theorem Conference.Sound.connect (h : c.Sound) {e : ConfEvent} {peerId : CString} {alloc : StrAlloc}
    {created : Bool} (he : e = .listed peerId alloc created ∨ e = .offer peerId alloc created) :
    ∃ c', offerToListed c peerId alloc created = some c' ∧ c'.Sound ∧ ConfEffect c e c' := by
  have hfree : created = false → e.ConnectsFree c := by
    rintro rfl
    rcases he with rfl | rfl
    · trivial
    · trivial
  have hfree' : created = true → (e.ConnectsFree c
      ↔ ∀ (i : Nat) (p : ConfPeer), findPeer c peerId = some (some i) → c.peers[i]? = some p →
        p.pc = none) := by
    rintro rfl
    rcases he with rfl | rfl
    · rfl
    · rfl
  obtain ⟨r, c₁, halloc, hsound, heffect⟩ := h.allocPeer peerId alloc
  rw [offerToListed, halloc]
  cases heffect with
  | found i p hfind hp hactive =>
    refine ⟨_, rfl, h.createPc hp created, ?_⟩
    cases created with
    | false => exact .quiet (.refl) (hfree rfl)
    | true =>
      refine .connected c i p .refl hp hactive ?_ h rfl
      rw [hfree' rfl]
      constructor
      · exact fun hnone => hnone i p hfind hp
      · grind
  | refused index hfind hwhy =>
    refine ⟨_, rfl, hsound, .quiet (.single ?_) ?_⟩
    · exact .kept hsound rfl (fun _ p hp => ⟨p, hp, rfl, rfl⟩) rfl
    · grind
  | added index hfind hroom =>
    have hp : (c.peers ++ [{ peerId := peerId.take (confLabelSize - 1) }])[c.peers.length]?
        = some { peerId := peerId.take (confLabelSize - 1) } := getElem?_concat_length
    have hadded : QuietChange c { c with
        peerIndex := index
        peers := c.peers ++ [{ peerId := peerId.take (confLabelSize - 1) }] } :=
      .added hsound _ rfl rfl rfl
    refine ⟨_, rfl, hsound.createPc hp created, ?_⟩
    cases created with
    | false => exact .quiet (.single hadded) (hfree rfl)
    | true =>
      refine .connected _ c.peers.length _ (.single hadded) hp rfl ?_ hsound rfl
      rw [hfree' rfl]
      refine iff_of_true (fun i p hfind' _ => ?_) rfl
      cases hfind.symm.trans hfind'

theorem handleOffer_eq (c : Conference) (peerId : CString) (alloc : StrAlloc) (created : Bool) :
    handleOffer c peerId alloc created = offerToListed c peerId alloc created := by
  rw [handleOffer, offerToListed]
  cases hfind : findPeer c peerId with
  | none => rw [allocPeer, hfind]
  | some found =>
    cases found with
    | none => rfl
    | some i => rw [allocPeer, hfind]; rfl

theorem Conference.Sound.onRecvRtp (h : c.Sound) (i : Nat) (isVideo : Bool) (ssrc : UInt32)
    (decoder : Bool) : QuietChange c (Mrtc.onRecvRtp c i isVideo ssrc decoder) := by
  unfold Mrtc.onRecvRtp
  split
  · exact .refl h
  rename_i p hp
  by_cases hknown : (if isVideo then p.recvVideo else p.recvAudio).isSome = true
  · rw [if_pos hknown]
    exact .refl h
  rw [if_neg hknown]
  -- the peer remembers its stream
  have hsame : ∀ (r : Option Nat) (j : Nat) (q' : ConfPeer), (c.peers.set i
      (if isVideo then { p with recvVideo := r } else { p with recvAudio := r }))[j]? = some q' →
      ∃ q, c.peers[j]? = some q ∧ q'.peerId = q.peerId ∧ q'.active = q.active ∧ q'.pc = q.pc := by
    grind
  refine .kept (h.of_peers length_set (fun j q' hq' => ?_) (fun j q' k hq' hactive hpc => ?_)
    h.counted h.user) length_set (fun j q' hq' => ?_) rfl
  · obtain ⟨q, hq, hid, hactive, -⟩ := hsame _ j q' hq'
    exact ⟨q, hq, hid, hactive⟩
  · grind [h.owned]
  · obtain ⟨q, hq, -, hactive, hpc⟩ := hsame _ j q' hq'
    exact ⟨q, hq, hactive, hpc⟩

theorem Conference.Sound.onConnState (h : c.Sound) (i : Nat) :
    QuietChange c (Mrtc.onConnState c i) := by
  unfold Mrtc.onConnState
  split
  · exact .refl h
  · exact .kept ⟨h.few, h.short, h.indexed, h.owned, h.counted, h.user⟩ rfl
      (fun _ p hp => ⟨p, hp, rfl, rfl⟩) rfl

theorem Conference.Sound.callback (h : c.Sound) (k : Nat) {f : Conference → Nat → Conference}
    (hf : ∀ i, QuietChange c (f c i)) : QuietChange c (c.callback k f) := by
  unfold Conference.callback
  split
  · exact .refl h
  · split
    · exact hf _
    · exact .refl h

/-- **What an event can do.** -/
theorem Conference.Sound.confStep (h : c.Sound) (e : ConfEvent) :
    ∃ c', Mrtc.confStep c e = some c' ∧ c'.Sound ∧ ConfEffect c e c' := by
  cases e with
  | listed peerId alloc created => exact h.connect (.inl rfl)
  | offer peerId alloc created =>
    obtain ⟨c', hstep, hc'⟩ := h.connect (e := .offer peerId alloc created) (.inr rfl)
    exact ⟨c', (handleOffer_eq c peerId alloc created).trans hstep, hc'⟩
  | answer peerId =>
    obtain ⟨found, hfind, -⟩ := h.find peerId
    exact ⟨c, by rw [Mrtc.confStep, handleAnswer, hfind]; rfl, h, .quiet .refl trivial⟩
  | peerLeft peerId alloc =>
    obtain ⟨found, hfind, -⟩ := h.find peerId
    rw [Mrtc.confStep, sigOnPeerLeft, hfind]
    cases found with
    | none => exact ⟨c, rfl, h, .quiet .refl trivial⟩
    | some i =>
      obtain ⟨c', hdestroy, hchange, -⟩ := h.destroyPeer_quiet i alloc
      exact ⟨c', hdestroy, hchange.sound, .quiet (.single hchange) trivial⟩
  | leave alloc =>
    obtain ⟨c', hleave, hsound, hquiet, -⟩ := h.destroyPeers alloc
    exact ⟨c', hleave, hsound, .quiet hquiet trivial⟩
  | connected k =>
    have hchange := h.callback k (f := Mrtc.onConnState) h.onConnState
    exact ⟨_, rfl, hchange.sound, .quiet (.single hchange) trivial⟩
  | rtp k isVideo ssrc decoder =>
    have hchange := h.callback k (f := fun c i => Mrtc.onRecvRtp c i isVideo ssrc decoder)
      fun i => h.onRecvRtp i isVideo ssrc decoder
    exact ⟨_, rfl, hchange.sound, .quiet (.single hchange) trivial⟩

end Effect

end Mrtc
