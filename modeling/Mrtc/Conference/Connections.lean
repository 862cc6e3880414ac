import Mrtc.Conference.Peers

/-! # The connections of a conference (`conference.c`)

A peer has one pointer for its connection, and `create_pc` writes it without looking.
`connections_released_iff` says when each connection is still destroyed once.
-/

set_option autoImplicit false

namespace Mrtc

open List

/-- An active peer owns the one connection made for it that is not destroyed. -/
def Conference.OneConnectionEach (c : Conference) : Prop :=
  ∀ (i : Nat) (p : ConfPeer), c.peers[i]? = some p → p.active = true →
    ∀ k, p.pc = some k ↔ ∃ pc, c.connections[k]? = some pc ∧ pc.user = i ∧ pc.destroys = 0

/-- A connection that is not destroyed is in the pointer of its peer. -/
def Conference.NoneLost (c : Conference) : Prop :=
  ∀ (k : Nat) (pc : ConfConnection), c.connections[k]? = some pc → pc.destroys = 0 →
    ∃ p, c.peers[pc.user]? = some p ∧ p.active = true ∧ p.pc = some k

section

variable {c c' : Conference}

theorem Conference.Sound.oneConnectionEach_iff (h : c.Sound) :
    c.OneConnectionEach ↔ ∀ (i : Nat) (p : ConfPeer) (k : Nat) (pc : ConfConnection),
      c.peers[i]? = some p → p.active = true → c.connections[k]? = some pc → pc.user = i →
      pc.destroys = 0 → p.pc = some k := by
  constructor
  · intro hone i p k pc hp hactive hpc huser hlive
    exact (hone i p hp hactive k).mpr ⟨pc, hpc, huser, hlive⟩
  · intro hone i p hp hactive k
    constructor
    · exact fun hpc => ⟨_, h.owned i p k hp hactive hpc, rfl, rfl⟩
    · rintro ⟨pc, hpc, huser, hlive⟩
      exact hone i p k pc hp hactive hpc huser hlive

theorem Conference.NoneLost.oneConnectionEach (hnone : c.NoneLost) (h : c.Sound) :
    c.OneConnectionEach := by
  rw [h.oneConnectionEach_iff]
  intro i p k pc hp _ hpc huser hlive
  obtain ⟨p', hp', -, hk⟩ := hnone k pc hpc hlive
  rw [huser] at hp'
  cases hp.symm.trans hp'
  exact hk

/-! ## Quiet changes -/

theorem live_of_releaseConnection {connections : List ConfConnection} {released : Option Nat}
    {k : Nat} {pc : ConfConnection} (hpc : (releaseConnection connections released)[k]? = some pc)
    (hlive : pc.destroys = 0) : connections[k]? = some pc ∧ released ≠ some k := by
  rw [getElem?_releaseConnection] at hpc
  obtain ⟨pc₀, hpc₀, rfl⟩ := Option.map_eq_some_iff.mp hpc
  by_cases hsame : released = some k
  · rw [if_pos hsame] at hlive
    cases hlive
  · rw [if_neg hsame]
    exact ⟨hpc₀, hsame⟩

theorem QuietChange.oneConnectionEach (hchange : QuietChange c c') (h : c.Sound)
    (hone : c.OneConnectionEach) : c'.OneConnectionEach := by
  rw [hchange.sound.oneConnectionEach_iff]
  rw [h.oneConnectionEach_iff] at hone
  intro i p' k pc hp' hactive' hpc huser hlive
  cases hchange with
  | kept _ hlength hsame hconnections => grind
  | added _ p hnone hpeers hconnections =>
    rw [hconnections] at hpc
    rw [hpeers] at hp'
    rcases List.getElem?_concat_eq_some.mp hp' with hold | ⟨rfl, -⟩
    · exact hone i p' k pc hold hactive' hpc huser hlive
    · -- no connection was created for the new place
      exact absurd (h.user pc (mem_of_getElem? hpc)) (by omega)
  | left _ j p hp hactive hpeers hconnections =>
    grind [live_of_releaseConnection, List.getElem?_set_eq_some, List.getElem?_eq_some_iff]

theorem QuietChange.noneLost (hchange : QuietChange c c') (hnone : c.NoneLost) : c'.NoneLost := by
  intro k pc hpc hlive
  cases hchange with
  | kept _ hlength hsame hconnections =>
    rw [hconnections] at hpc
    obtain ⟨p, hp, hactive, hk⟩ := hnone k pc hpc hlive
    have hlt : pc.user < c'.peers.length := hlength ▸ (List.getElem?_eq_some_iff.mp hp).1
    obtain ⟨p₀, hp₀, hactive', hpcs⟩ := hsame _ _ (getElem?_eq_getElem hlt)
    cases hp.symm.trans hp₀
    exact ⟨_, getElem?_eq_getElem hlt, hactive'.trans hactive, hpcs.trans hk⟩
  | added _ p _ hpeers hconnections =>
    rw [hconnections] at hpc
    obtain ⟨p', hp', hrest⟩ := hnone k pc hpc hlive
    rw [hpeers]
    exact ⟨p', (getElem?_append_left (List.getElem?_eq_some_iff.mp hp').1).trans hp', hrest⟩
  | left _ j p hp hactive hpeers hconnections =>
    rw [hconnections] at hpc
    obtain ⟨hold, hother⟩ := live_of_releaseConnection hpc hlive
    obtain ⟨p', hp', hactive', hk⟩ := hnone k pc hold hlive
    have hne : j ≠ pc.user := by
      rintro rfl
      cases hp.symm.trans hp'
      exact hother hk
    rw [hpeers]
    exact ⟨p', (getElem?_set_ne hne).trans hp', hactive', hk⟩

theorem quietChanges_keep (hquiet : Relation.ReflTransGen QuietChange c c') (h : c.Sound) :
    c'.Sound ∧ (c.OneConnectionEach → c'.OneConnectionEach) ∧ (c.NoneLost → c'.NoneLost) := by
  induction hquiet with
  | refl => exact ⟨h, id, id⟩
  | tail _ hlast ih => grind [hlast.sound, hlast.oneConnectionEach, hlast.noneLost]

/-! ## New connections -/

theorem createPc_oneConnectionEach_iff (h : c.Sound) (hone : c.OneConnectionEach) {i : Nat}
    {p : ConfPeer} (hp : c.peers[i]? = some p) (hactive : p.active = true) :
    (createPc c i true).OneConnectionEach ↔ p.pc = none := by
  have hsound := h.createPc hp true
  rw [hsound.oneConnectionEach_iff]
  constructor
  · intro hone'
    -- an older connection is still there, but the pointer is the new one
    cases hpc : p.pc with
    | none => rfl
    | some k =>
      have hold := h.owned i p k hp hactive hpc
      have hlt : k < c.connections.length := (List.getElem?_eq_some_iff.mp hold).1
      have hp' : (createPc c i true).peers[i]?
          = some { p with pc := some c.connections.length } := by
        show (c.peers.modify i _)[i]? = _
        rw [getElem?_modify_eq, hp]
        rfl
      have hk := hone' i _ k _ hp' hactive ((getElem?_append_left hlt).trans hold) rfl rfl
      rw [Option.some.injEq] at hk
      omega
  · intro hnone j q' k pc hq' hactive' hpc huser hlive
    obtain ⟨q, hq, -, hactive'', hpcs⟩ := getElem?_createPc hq'
    rw [hpcs]
    rcases List.getElem?_concat_eq_some.mp hpc with hold | ⟨rfl, rfl⟩
    · have hk := (h.oneConnectionEach_iff.mp hone) j q k pc hq (hactive'' ▸ hactive') hold huser hlive
      by_cases hij : i = j
      · subst hij
        cases hp.symm.trans hq
        rw [hnone] at hk
        cases hk
      · rw [if_neg hij]
        exact hk
    · rw [if_pos huser]

theorem createPc_noneLost (hnone : c.NoneLost) {i : Nat} {p : ConfPeer} (hp : c.peers[i]? = some p)
    (hactive : p.active = true) (hpc : p.pc = none) : (createPc c i true).NoneLost := by
  intro k pc hk hlive
  have hpeers : ∀ j, (createPc c i true).peers[j]?
      = c.peers[j]?.map fun q => if i = j then { q with pc := some c.connections.length } else q := by
    intro j
    show (c.peers.modify i _)[j]? = _
    rw [getElem?_modify]
    by_cases hij : i = j
    · simp [hij]
    · simp [hij]
  rcases List.getElem?_concat_eq_some.mp hk with hold | ⟨rfl, rfl⟩
  · obtain ⟨q, hq, hqactive, hqpc⟩ := hnone k pc hold hlive
    have hne : i ≠ pc.user := by
      rintro rfl
      cases hp.symm.trans hq
      rw [hpc] at hqpc
      cases hqpc
    refine ⟨q, ?_, hqactive, hqpc⟩
    rw [hpeers, hq, Option.map_some, if_neg hne]
  · grind

/-! ## Events -/

theorem ConfEffect.oneConnectionEach_iff {e : ConfEvent} (heffect : ConfEffect c e c')
    (h : c.Sound) (hone : c.OneConnectionEach) : c'.OneConnectionEach ↔ e.ConnectsFree c := by
  cases heffect with
  | quiet hquiet hfree => exact iff_of_true ((quietChanges_keep hquiet h).2.1 hone) hfree
  | connected c₁ i p hquiet hp hactive hfree hsound hc' =>
    rw [hc', hfree]
    exact createPc_oneConnectionEach_iff hsound ((quietChanges_keep hquiet h).2.1 hone) hp hactive

theorem ConfEffect.noneLost {e : ConfEvent} (heffect : ConfEffect c e c') (h : c.Sound)
    (hnone : c.NoneLost) (hfree : e.ConnectsFree c) : c'.NoneLost := by
  cases heffect with
  | quiet hquiet => exact (quietChanges_keep hquiet h).2.2 hnone
  | connected c₁ i p hquiet hp hactive hfree' hsound hc' =>
    rw [hc']
    exact createPc_noneLost ((quietChanges_keep hquiet h).2.2 hnone) hp hactive (hfree'.mp hfree)

theorem Conference.NoneLost.released (hnone : c.NoneLost) (h : c.Sound)
    (hgone : ∀ p ∈ c.peers, p.active = false) :
    ∀ pc ∈ c.connections, pc.closes = 1 ∧ pc.destroys = 1 := by
  intro pc hpc
  obtain ⟨hcloses, hone⟩ := h.counted pc hpc
  have hdestroys : pc.destroys ≠ 0 := by
    intro hlive
    obtain ⟨k, hk⟩ := getElem?_of_mem hpc
    obtain ⟨p, hp, hactive, -⟩ := hnone k pc hk hlive
    rw [hgone p (mem_of_getElem? hp)] at hactive
    cases hactive
  omega

end

/-- **Exactly when connections are released.** -/
theorem connections_released_iff (events : List ConfEvent) (alloc : Nat → StrAlloc) :
    ∃ c c', Trace.run confStep {} events = some c ∧ conferenceDestroy c alloc = some c'
      ∧ ((Trace.EveryPoint confStep Conference.OneConnectionEach {} events
          ∧ ∀ pc ∈ c'.connections, pc.closes = 1 ∧ pc.destroys = 1)
        ↔ Trace.EveryStep confStep (fun c e => e.ConnectsFree c) {} events) := by
  have hempty : Conference.NoneLost {} := fun _ _ hpc => by cases hpc
  obtain ⟨⟨c, hrun, hsound⟩, hone⟩ := Trace.everyPoint_iff confStep
    Conference.Sound Conference.OneConnectionEach
    (fun c e => e.ConnectsFree c)
    (fun c e hsound => by
      obtain ⟨c', hstep, hsound', heffect⟩ := hsound.confStep e
      exact ⟨c', hstep, hsound', heffect.oneConnectionEach_iff hsound⟩)
    conference_sound (hempty.oneConnectionEach conference_sound) events
  have hnone := (Trace.everyPoint_iff confStep
    Conference.Sound Conference.NoneLost (fun c e => e.ConnectsFree c)
    (fun c e hsound => by
      obtain ⟨c', hstep, hsound', heffect⟩ := hsound.confStep e
      refine ⟨c', hstep, hsound', fun hnone => ⟨fun hnone' => ?_, heffect.noneLost hsound hnone⟩⟩
      exact (heffect.oneConnectionEach_iff hsound (hnone.oneConnectionEach hsound)).mp
        (hnone'.oneConnectionEach hsound'))
    conference_sound hempty events).2
  obtain ⟨c', hdestroy, hsound', hquiet, hgone⟩ := hsound.destroyPeers alloc
  refine ⟨c, c', hrun, hdestroy, ?_⟩
  rw [← hone]
  refine ⟨And.left, fun hpoints => ⟨hpoints, ?_⟩⟩
  have hlast : c.NoneLost := hnone.mpr (hone.mp hpoints) events c prefix_rfl hrun
  exact ((quietChanges_keep hquiet hsound).2.2 hlast).released hsound' hgone

/-- Two offers from one peer. -/
theorem secondOffer_loses_connection :
    let id : CString := ⟨CText.ascii "alice", by decide⟩
    ((Trace.run confStep {} [.offer id {} true, .offer id {} true]).bind fun c =>
        conferenceDestroy c fun _ => {}).map Conference.connections
      = some [⟨0, 0, 0⟩, ⟨0, 1, 1⟩] := by
  decide +kernel

end Mrtc
