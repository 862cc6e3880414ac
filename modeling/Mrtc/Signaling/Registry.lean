import Mrtc.Lib.Assigned
import Mrtc.Signaling.Meeting

/-! # What the meetings keep

Every peer is in at most one meeting, once, and knows which; a meeting is active while somebody is
in it, and the map has the active meetings by their names.
-/

namespace Mrtc

open List Function

/-! ## The map of names -/

structure Indexes (fits : Prop) (S : MapState CString Nat) (labels : List (CString × Bool)) :
    Prop where
  sound : ∀ name v, S.entries name = some v → ∃ i, v = some i ∧ labels[i]? = some (name, true)
  complete : fits → ∀ (i : Nat) name, labels[i]? = some (name, true) →
    S.entries name = some (some i)

def IndexedBy (fits : Prop) (index : StrMap Nat) (labels : List (CString × Bool)) : Prop :=
  ∃ S, index.Represents false S ∧ Indexes fits S labels

namespace IndexedBy

variable {fits : Prop} {index : StrMap Nat} {labels : List (CString × Bool)} {name : CString}
  {i j : Nat}

theorem init (fits : Prop) (n : Nat) (name : CString) :
    IndexedBy fits (strMapInit false) (replicate n (name, false)) := by
  refine ⟨{}, StrMap.represents_init false, ⟨nofun, fun _ i name' hi => ?_⟩⟩
  have := eq_of_mem_replicate (mem_of_getElem? hi)
  simp at this

section

variable (h : IndexedBy fits index labels)
include h

theorem unique (hfits : fits) (hi : labels[i]? = some (name, true))
    (hj : labels[j]? = some (name, true)) : i = j := by
  obtain ⟨S, -, hS⟩ := h
  have h1 := hS.complete hfits i name hi
  have h2 := hS.complete hfits j name hj
  rw [h1] at h2
  simpa using h2

theorem get (name : CString) :
    ∃ v, rtcStrMapGet index name = some v
      ∧ (∀ i, v = some i → labels[i]? = some (name, true))
      ∧ (fits → ∀ i, labels[i]? = some (name, true) → v = some i) := by
  obtain ⟨S, hrep, hS⟩ := h
  refine ⟨(S.entries name).getD none, hrep.get name, fun i hi => ?_, fun hfits i hi => ?_⟩
  · cases hentry : S.entries name with
    | none =>
      rw [hentry] at hi
      cases hi
    | some v =>
      rw [hentry, Option.getD_some] at hi
      obtain ⟨k, hk, hlabel⟩ := hS.sound name v hentry
      rw [← Option.some.inj (hk.symm.trans hi)]
      exact hlabel
  · rw [hS.complete hfits i name hi, Option.getD_some]

theorem set {old : CString} (hi : labels[i]? = some (old, false))
    (hfree : fits → ∀ j : Nat, labels[j]? ≠ some (name, true)) (alloc : StrAlloc) :
    ∃ rc index', rtcStrMapSet index name (some i) alloc = some (rc, index')
      ∧ ((rc = .ok () ∧ IndexedBy fits index' (labels.set i (name, true)))
        ∨ (∃ e, rc = .error e) ∧ IndexedBy fits index' (labels.set i (name, false))) := by
  have hlt : i < labels.length := (List.getElem?_eq_some_iff.mp hi).1
  obtain ⟨S, hrep, hS⟩ := h
  obtain ⟨rc, index', S', hset, hstep, hrep'⟩ := hrep.set name (some i) alloc
  refine ⟨rc, index', hset, ?_⟩
  cases hstep with
  | set =>
    refine .inl ⟨rfl, _, hrep', ⟨fun name' v hentry => ?_, fun hfits k name' hk => ?_⟩⟩
    · -- any other key has the place it had, and that is not the free one
      dsimp only at hentry
      by_cases hname : name' = name
      · grind
      · rw [update_of_ne hname] at hentry
        obtain ⟨k, rfl, hk⟩ := hS.sound name' v hentry
        refine ⟨k, rfl, (List.getElem?_set_iff_of_ne hi (by simp) ?_).mpr hk⟩
        simp [Ne.symm hname]
    · dsimp only
      rcases (List.getElem?_set_eq_some hlt).mp hk with ⟨rfl, heq⟩ | ⟨-, hold⟩
      · rw [(Prod.mk.inj heq).1, update_self]
      · have hname : name' ≠ name := fun heq => hfree hfits k (heq ▸ hold)
        rw [update_of_ne hname, hS.complete hfits k name' hold]
  | refused =>
    have hsame : ∀ (k : Nat) name', (labels.set i (name, false))[k]? = some (name', true)
        ↔ labels[k]? = some (name', true) :=
      fun k name' => List.getElem?_set_iff_of_ne hi (by simp) (by simp)
    refine .inr ⟨⟨_, rfl⟩, _, hrep', ⟨fun name' v hentry => ?_, fun hfits k name' hk => ?_⟩⟩
    · grind [hS.sound]
    · exact hS.complete hfits k name' ((hsame k name').mp hk)

theorem remove (hi : labels[i]? = some (name, true)) (alloc : StrAlloc) :
    ∃ r, rtcStrMapRemove index name alloc = some r
      ∧ IndexedBy fits r.2 (labels.set i (name, false)) := by
  have hlt : i < labels.length := (List.getElem?_eq_some_iff.mp hi).1
  have hunique := fun hfits j (hj : labels[j]? = some (name, true)) => h.unique hfits hj hi
  obtain ⟨S, hrep, hS⟩ := h
  obtain ⟨index', hremove, hrep'⟩ := hrep.remove name alloc
  refine ⟨_, hremove, _, hrep', ⟨fun name' v hentry => ?_, fun hfits k name' hk => ?_⟩⟩
  · dsimp only at hentry
    by_cases hname : name' = name
    · rw [hname, update_self] at hentry
      cases hentry
    · rw [update_of_ne hname] at hentry
      obtain ⟨k, hv, hk⟩ := hS.sound name' v hentry
      refine ⟨k, hv, (List.getElem?_set_iff_of_ne hi ?_ (by simp)).mpr hk⟩
      simp [Ne.symm hname]
  · -- no second meeting loses its key: if names fit, this one was the only one of its name
    dsimp only
    rcases (List.getElem?_set_eq_some hlt).mp hk with ⟨-, heq⟩ | ⟨hne, hold⟩
    · simp at heq
    · have hname : name' ≠ name := fun heq => hne (hunique hfits k (heq ▸ hold))
      rw [update_of_ne hname, hS.complete hfits k name' hold]

end

end IndexedBy

/-! ## The meetings -/

def Meeting.label (m : Meeting) : CString × Bool := (m.name, m.active)

section

variable {σ : Type} {mgr : MeetingManager σ} {i : Nat} {peers : List MeetingPeer} {p : Nat}

def MeetingManager.vectors (mgr : MeetingManager σ) : List (List Nat) :=
  mgr.meetings.map Meeting.peers

def MeetingManager.labels (mgr : MeetingManager σ) : List (CString × Bool) :=
  mgr.meetings.map Meeting.label

def ownerOf (peers : List MeetingPeer) (p : Nat) : Option Nat :=
  peers[p]?.bind MeetingPeer.meetingIdx

def MeetingManager.owner (mgr : MeetingManager σ) : Nat → Option Nat := ownerOf mgr.peers

structure MeetingManager.Registered (fits : Prop) (mgr : MeetingManager σ) (pending : Option Nat) :
    Prop where
  assigned : Assigned mgr.vectors mgr.owner
  indexed : IndexedBy fits mgr.nameIndex mgr.labels
  count : mgr.meetingCount = (mgr.labels.countP Prod.snd : Nat)
  active : ∀ (i : Nat) (m : Meeting), mgr.meetings[i]? = some m →
    (m.active = true ↔ m.peers ≠ [] ∨ pending = some i)
  gone : ∀ (p : Nat) (peer : MeetingPeer), mgr.peers[p]? = some peer → peer.freed = true →
    peer.meetingIdx = none

theorem MeetingManager.vectors_getElem? {m : Meeting} (hm : mgr.meetings[i]? = some m) :
    mgr.vectors[i]? = some m.peers := by
  simp [vectors, hm]

theorem MeetingManager.labels_getElem? {m : Meeting} (hm : mgr.meetings[i]? = some m) :
    mgr.labels[i]? = some m.label := by
  simp [labels, hm]

theorem MeetingManager.labels_getElem?_iff {name : CString} :
    mgr.labels[i]? = some (name, true)
      ↔ ∃ m, mgr.meetings[i]? = some m ∧ m.active = true ∧ m.name = name := by
  simp only [labels, getElem?_map, Option.map_eq_some_iff, Meeting.label, Prod.mk.injEq]
  exact exists_congr fun m => and_congr_right fun _ => and_comm

theorem ownerOf_eq {peer : MeetingPeer} (hp : peers[p]? = some peer) :
    ownerOf peers p = peer.meetingIdx := by
  simp [ownerOf, hp]

theorem ownerOf_set (hp : p < peers.length) (peer : MeetingPeer) :
    ownerOf (peers.set p peer) = update (ownerOf peers) p peer.meetingIdx := by
  funext q
  by_cases hq : q = p
  · subst hq
    simp [ownerOf, hp]
  · simp [ownerOf, hq, getElem?_set_ne (Ne.symm hq)]

theorem countP_set_int {α : Type} {f : α → Bool} {l : List α} {a b : α} (ha : l[i]? = some a) :
    ((l.set i b).countP f : Int)
      = l.countP f - (if f a then 1 else 0) + (if f b then 1 else 0) := by
  obtain ⟨hi, rfl⟩ := List.getElem?_eq_some_iff.mp ha
  have hle := boole_getElem_le_countP (p := f) hi
  rw [countP_set hi]
  split <;> split <;> simp_all

theorem gone_set (hp : p < peers.length)
    {peer : MeetingPeer} (hpeer : peer.freed = true → peer.meetingIdx = none)
    (hgone : ∀ (q : Nat) (other : MeetingPeer), peers[q]? = some other → other.freed = true →
      other.meetingIdx = none) :
    ∀ (q : Nat) (other : MeetingPeer), (peers.set p peer)[q]? = some other → other.freed = true →
      other.meetingIdx = none := by
  intro q other hq
  rcases (List.getElem?_set_eq_some hp).mp hq with ⟨-, rfl⟩ | ⟨-, hold⟩
  · exact hpeer
  · exact hgone q other hold

theorem swapRemove_perm (peers : List Nat) (p : Nat) :
    (swapRemove peers p).Perm (peers.erase p) := by
  rw [swapRemove, erase_eq_eraseIdx]
  cases hidx : peers.idxOf? p with
  | none => exact List.Perm.refl _
  | some i =>
    have hi : i < peers.length := (findIdx?_eq_some_iff_getElem.mp hidx).1
    cases hlast : peers.getLast? with
    | none => grind
    | some last => exact List.dropLast_set_perm hi hlast

namespace MeetingManager.Registered

variable {fits : Prop} {mgr : MeetingManager σ} {pending : Option Nat} {m : Meeting} {p idx : Nat}

theorem init (ids : List PeerId) (world : σ) :
    Registered fits (meetingManagerInit ids world) none where
  assigned := by
    have howner : (meetingManagerInit ids world).owner = fun _ => none := by
      funext p
      simp [MeetingManager.owner, ownerOf, meetingManagerInit, Option.bind_map]
    rw [howner]
    simpa [MeetingManager.vectors, meetingManagerInit] using Assigned.replicate_nil meetingMaxRooms
  indexed := by
    simpa [MeetingManager.labels, meetingManagerInit, Meeting.label] using
      IndexedBy.init fits meetingMaxRooms CString.empty
  count := by simp [MeetingManager.labels, meetingManagerInit, Meeting.label, countP_replicate]
  active i m hm := by
    obtain rfl := eq_of_mem_replicate (mem_of_getElem? hm)
    simp
  gone p peer hp _ := by
    simp only [meetingManagerInit, getElem?_map, Option.map_eq_some_iff] at hp
    obtain ⟨id, -, rfl⟩ := hp
    rfl

theorem send (h : Registered fits mgr pending) (world : σ) :
    Registered fits { mgr with world := world } pending :=
  ⟨h.assigned, h.indexed, h.count, h.active, h.gone⟩

theorem mem_peers (h : Registered fits mgr pending) {i : Nat} (hm : mgr.meetings[i]? = some m)
    (p : Nat) : p ∈ m.peers ↔ mgr.owner p = some i :=
  h.assigned.mem_iff i _ p (vectors_getElem? hm)

theorem exists_meeting (h : Registered fits mgr pending) {i : Nat} (hp : mgr.owner p = some i) :
    ∃ m, mgr.meetings[i]? = some m ∧ p ∈ m.peers := by
  obtain ⟨v, hv, hmem⟩ := h.assigned.exists_vector hp
  rw [vectors, getElem?_map, Option.map_eq_some_iff] at hv
  obtain ⟨m, hm, rfl⟩ := hv
  exact ⟨m, hm, hmem⟩

theorem pending_iff (hm : mgr.meetings[idx]? = some m) (hne : m.peers ≠ []) :
    Registered fits mgr (some idx) ↔ Registered fits mgr none := by
  have hsame : ∀ (i : Nat) (n : Meeting), mgr.meetings[i]? = some n →
      (n.peers ≠ [] ∨ some idx = some i ↔ n.peers ≠ [] ∨ (none : Option Nat) = some i) := by grind
  constructor
  · exact fun h => ⟨h.assigned, h.indexed, h.count,
      fun i n hn => (h.active i n hn).trans (hsame i n hn), h.gone⟩
  · exact fun h => ⟨h.assigned, h.indexed, h.count,
      fun i n hn => (h.active i n hn).trans (hsame i n hn).symm, h.gone⟩

theorem write (h : Registered fits mgr pending) {m m' : Meeting}
    (hm : mgr.meetings[idx]? = some m) {count' : Int} {index' : StrMap Nat}
    {peers' : List MeetingPeer} {pending' : Option Nat}
    (hassigned : Assigned (mgr.vectors.set idx m'.peers) (ownerOf peers'))
    (hindexed : IndexedBy fits index' (mgr.labels.set idx m'.label))
    (hcount : count'
      = mgr.meetingCount - (if m.active then 1 else 0) + (if m'.active then 1 else 0))
    (hactive : m'.active = true ↔ m'.peers ≠ [] ∨ pending' = some idx)
    (hpending : ∀ j ≠ idx, pending = some j ↔ pending' = some j)
    (hgone : ∀ (q : Nat) (other : MeetingPeer), peers'[q]? = some other → other.freed = true →
      other.meetingIdx = none) :
    Registered fits
      { mgr with meetings := mgr.meetings.set idx m', meetingCount := count', nameIndex := index',
                 peers := peers' } pending' where
  assigned := by rwa [vectors, ← map_set] at hassigned
  indexed := by rwa [labels, ← map_set] at hindexed
  count := by
    -- one label is written, and the number changes by what it counts for
    have hset := countP_set_int (f := Prod.snd) (b := m'.label) (labels_getElem? hm)
    rw [labels, ← map_set, ← labels, ← h.count] at hset
    rw [hcount]
    exact hset.symm
  active i n hn := by grind [h.active, List.getElem?_set_eq_some, List.getElem?_eq_some_iff]
  gone := hgone

theorem labels_set_self (hm : mgr.meetings[idx]? = some m) :
    mgr.labels.set idx m.label = mgr.labels := by
  rw [labels, ← map_set, List.map_set_of_eq hm rfl]

theorem vectors_set_self (hm : mgr.meetings[idx]? = some m) :
    mgr.vectors.set idx m.peers = mgr.vectors := by
  rw [vectors, ← map_set, List.map_set_of_eq hm rfl]

theorem removePeer (h : Registered fits mgr none) {idx : Nat} {peer : MeetingPeer}
    (hp : mgr.peers[p]? = some peer) (hidx : peer.meetingIdx = some idx)
    (hm : mgr.meetings[idx]? = some m) :
    p ∈ m.peers ∧ Registered fits (removePeerFromMeeting mgr idx m p peer) (some idx) := by
  have howner : mgr.owner p = some idx := (ownerOf_eq hp).trans hidx
  have hmem : p ∈ m.peers := (h.mem_peers hm p).mpr howner
  have hnodup : m.peers.Nodup := h.assigned.nodup idx _ (vectors_getElem? hm)
  have hperm := swapRemove_perm m.peers p
  have hlt : p < mgr.peers.length := (List.getElem?_eq_some_iff.mp hp).1
  have hactive : m.active = true := (h.active idx m hm).mpr (.inl (ne_nil_of_mem hmem))
  refine ⟨hmem, ?_⟩
  rw [removePeerFromMeeting, if_pos hmem]
  refine h.write hm ?_ ?_ (by simp) (iff_of_true hactive (.inr rfl)) (fun j hne => ?_)
    (gone_set hlt (fun _ => rfl) h.gone)
  · rw [ownerOf_set hlt]
    refine h.assigned.detach howner (hperm.nodup_iff.mpr (hnodup.erase p)) fun x => ?_
    rw [hperm.mem_iff, hnodup.mem_erase_iff, h.mem_peers hm]
  · exact (labels_set_self hm).symm ▸ h.indexed
  · simp [Ne.symm hne]

theorem maybeDestroy (h : Registered fits mgr (some idx))
    (hm : mgr.meetings[idx]? = some m) (alloc : StrAlloc) :
    ∃ mgr', maybeDestroyMeeting mgr idx alloc = some mgr' ∧ Registered fits mgr' none
      ∧ mgr'.peers = mgr.peers ∧ mgr'.world = mgr.world := by
  have hactive : m.active = true := (h.active idx m hm).mpr (.inr rfl)
  rw [maybeDestroyMeeting, hm]
  dsimp only
  by_cases hempty : m.peers = []
  · have hlabel : mgr.labels[idx]? = some (m.name, true) := by
      rw [labels_getElem? hm, Meeting.label, hactive]
    obtain ⟨r, hremove, hindexed⟩ := h.indexed.remove hlabel alloc
    rw [if_pos hempty, hremove, Option.map_some]
    refine ⟨_, rfl, h.write hm ?_ hindexed (by simp [hactive]) ?_ (fun j hne => ?_) h.gone, rfl,
      rfl⟩
    · exact (vectors_set_self hm).symm ▸ h.assigned
    · simp [hempty]
    · simp [Ne.symm hne]
  · rw [if_neg hempty]
    exact ⟨mgr, rfl, (pending_iff hm hempty).mp h, rfl, rfl⟩

theorem create (h : Registered fits mgr none) {name : CString}
    (hlen : fits → name.val.length < meetingMaxName)
    (hfree : fits → ∀ j : Nat, mgr.labels[j]? ≠ some (name, true)) (alloc : StrAlloc) :
    ∃ r mgr', createMeeting mgr name alloc = some (r, mgr') ∧ mgr'.peers = mgr.peers
      ∧ mgr'.world = mgr.world
      ∧ ((r = none ∧ Registered fits mgr' none)
        ∨ ∃ i m, r = some i ∧ Registered fits mgr' (some i) ∧ mgr'.meetings[i]? = some m) := by
  have hcut : fits → ∀ j : Nat, mgr.labels[j]? ≠ some (name.take (meetingMaxName - 1), true) := by
    grind [CString.take_of_le]
  rw [createMeeting]
  cases hfind : mgr.meetings.findIdx? fun m => !m.active with
  | none => exact ⟨none, mgr, rfl, rfl, rfl, .inl ⟨rfl, h⟩⟩
  | some i =>
    obtain ⟨hi, hinactive, -⟩ := findIdx?_eq_some_iff_getElem.mp hfind
    have hm : mgr.meetings[i]? = some mgr.meetings[i] := getElem?_eq_getElem hi
    generalize mgr.meetings[i] = m at hinactive hm
    have hactive : m.active = false := by simpa using hinactive
    -- nobody is in the meeting whose place is cleared
    have hempty : m.peers = [] := by
      by_contra hne
      exact absurd ((h.active i m hm).mpr (.inl hne)) (by simp [hactive])
    have hlabel : mgr.labels[i]? = some (m.name, false) := by
      rw [labels_getElem? hm, Meeting.label, hactive]
    have hvectors : Assigned (mgr.vectors.set i []) (ownerOf mgr.peers) := by
      have hself := vectors_set_self hm
      rw [hempty] at hself
      exact hself.symm ▸ h.assigned
    obtain ⟨rc, index', hset, hcase⟩ := h.indexed.set hlabel hcut alloc
    dsimp only
    rw [hset]
    obtain ⟨rfl, hindexed⟩ | ⟨⟨e, rfl⟩, hindexed⟩ := hcase
    · refine ⟨some i, _, rfl, rfl, rfl, .inr ⟨i, _, rfl, ?_, getElem?_set_self hi⟩⟩
      refine h.write hm hvectors hindexed (by simp [hactive]) (by simp) (fun j hne => ?_) h.gone
      simp [Ne.symm hne]
    · refine ⟨none, _, rfl, rfl, rfl, .inl ⟨rfl, ?_⟩⟩
      exact h.write hm hvectors hindexed (by simp [hactive]) (by simp) (fun j _ => Iff.rfl) h.gone

theorem findOrCreate (h : Registered fits mgr none) {name : CString}
    (hlen : fits → name.val.length < meetingMaxName) (alloc : StrAlloc) :
    ∃ r mgr', findOrCreateMeeting mgr name alloc = some (r, mgr') ∧ mgr'.peers = mgr.peers
      ∧ mgr'.world = mgr.world
      ∧ ((r = none ∧ Registered fits mgr' none)
        ∨ ∃ i m, r = some i ∧ Registered fits mgr' (some i) ∧ mgr'.meetings[i]? = some m) := by
  obtain ⟨v, hget, hsound, hcomplete⟩ := h.indexed.get name
  rw [findOrCreateMeeting, findMeeting, hget]
  cases v with
  | none => exact h.create hlen (fun hfits j hj => by cases hcomplete hfits j hj) alloc
  | some i =>
    have hlabel := hsound i rfl
    rw [labels, getElem?_map, Option.map_eq_some_iff] at hlabel
    obtain ⟨m, hm, heq⟩ := hlabel
    have hactive : m.active = true := (Prod.mk.inj heq).2
    have hne : m.peers ≠ [] := ((h.active i m hm).mp hactive).resolve_right nofun
    exact ⟨some i, mgr, rfl, rfl, rfl, .inr ⟨i, m, rfl, (pending_iff hm hne).mpr h, hm⟩⟩

theorem add (h : Registered fits mgr (some idx)) (tell : Nat → Json → σ → σ)
    (hm : mgr.meetings[idx]? = some m) {peer : MeetingPeer} (hp : mgr.peers[p]? = some peer)
    (hlive : peer.freed = false) (hidx : peer.meetingIdx = none) :
    Registered fits (addPeer tell mgr idx m p peer) none := by
  have howner : mgr.owner p = none := (ownerOf_eq hp).trans hidx
  have hlt : p < mgr.peers.length := (List.getElem?_eq_some_iff.mp hp).1
  have hactive : m.active = true := (h.active idx m hm).mpr (.inr rfl)
  have hadded : Registered fits { mgr with
      meetings := mgr.meetings.set idx { m with peers := m.peers ++ [p] }
      peers := mgr.peers.set p { peer with meetingIdx := some idx } } none := by
    refine h.write hm ?_ ?_ (by simp) (iff_of_true hactive (.inl (by simp))) (fun j hne => ?_)
      (gone_set hlt (by simp [hlive]) h.gone)
    · rw [ownerOf_set hlt]
      exact h.assigned.attach (vectors_getElem? hm) howner
    · exact (labels_set_self hm).symm ▸ h.indexed
    · simp [Ne.symm hne]
  exact hadded.send _

end MeetingManager.Registered

/-! ## The calls -/

section

variable (send : Nat → Json → σ → σ) {fits : Prop} {mgr : MeetingManager σ}

open MeetingManager

variable {peer : MeetingPeer} {p : Nat} {alive : List Nat}

section

variable (h : Registered fits mgr none)
include h

theorem MeetingManager.Registered.leave
    (hp : mgr.peers[p]? = some peer) (hlive : peer.freed = false) (alloc : StrAlloc) :
    ∃ mgr' others, meetingLeave send mgr p alloc = some mgr' ∧ Registered fits mgr' none
      ∧ mgr'.peers = mgr.peers.set p { peer with meetingIdx := none } ∧ others.Nodup
      ∧ (∀ q, q ∈ others ↔ q ≠ p ∧ ∃ idx, mgr.owner p = some idx ∧ mgr.owner q = some idx)
      ∧ mgr'.world = broadcastToMeeting send others (sigMsgBuildPeerLeft peer.id) none mgr.world := by
  have howner : mgr.owner p = peer.meetingIdx := ownerOf_eq hp
  rw [meetingLeave, hp]
  dsimp only
  rw [if_neg (by rw [hlive]; exact Bool.false_ne_true), howner]
  cases hidx : peer.meetingIdx with
  | none =>
    -- in no meeting: nothing changes, and nobody has to be told
    have hsame : { peer with meetingIdx := none } = peer := by rw [← hidx]
    obtain ⟨hlt, hget⟩ := List.getElem?_eq_some_iff.mp hp
    refine ⟨mgr, [], rfl, h, ?_, nodup_nil, by simp, rfl⟩
    rw [hsame, ← hget, set_getElem_self]
  | some idx =>
    rw [hidx] at howner
    obtain ⟨m, hm, hmem⟩ := h.exists_meeting howner
    obtain ⟨-, hremoved⟩ := h.removePeer hp hidx hm
    have hnodup : m.peers.Nodup := h.assigned.nodup idx _ (vectors_getElem? hm)
    have hperm := swapRemove_perm m.peers p
    dsimp only
    rw [hm]
    dsimp only
    rw [removePeerFromMeeting, if_pos hmem] at hremoved ⊢
    have hm' : (mgr.meetings.set idx { m with peers := swapRemove m.peers p })[idx]?
        = some { m with peers := swapRemove m.peers p } :=
      getElem?_set_self (List.getElem?_eq_some_iff.mp hm).1
    obtain ⟨mgr', hdestroy, hreg, hpeers, hworld⟩ := (hremoved.send (broadcastToMeeting send
      (swapRemove m.peers p) (sigMsgBuildPeerLeft peer.id) none mgr.world)).maybeDestroy hm' alloc
    refine ⟨mgr', swapRemove m.peers p, ?_, hreg, hpeers,
      hperm.nodup_iff.mpr (hnodup.erase p), fun q => ?_, hworld⟩
    · rw [notifyLeft, hm']
      exact hdestroy
    · rw [hperm.mem_iff, hnodup.mem_erase_iff, h.mem_peers hm]
      simp

theorem MeetingManager.Registered.join (hp : mgr.peers[p]? = some peer) (hlive : peer.freed = false)
    {name : CString} (hname : name.val ≠ []) (hlen : fits → name.val.length < meetingMaxName)
    (allocs : StrAlloc × StrAlloc) :
    ∃ left ok mgr', meetingLeave send mgr p allocs.1 = some left
      ∧ meetingJoin send mgr p name allocs = some (ok, mgr') ∧ Registered fits mgr' none
      ∧ ((mgr'.peers = left.peers
          ∧ (mgr'.world = left.world ∨ mgr'.world = send p (sigMsgBuildError meetingFull) left.world))
        ∨ ∃ idx members, members.Nodup ∧ (∀ q, q ∈ members ↔ left.owner q = some idx)
          ∧ members.length < meetingMaxPeers
          ∧ mgr'.peers = mgr.peers.set p { peer with meetingIdx := some idx }
          ∧ mgr'.world = broadcastToMeeting send (members ++ [p]) (sigMsgBuildPeerJoined peer.id)
              (some p) (send p (sigMsgBuildJoined peer.id (left.ids members)) left.world)) := by
  obtain ⟨left, -, hleave, hleft, hpeers, -, -, -⟩ := h.leave send hp hlive allocs.1
  have hlt : p < mgr.peers.length := (List.getElem?_eq_some_iff.mp hp).1
  obtain ⟨r, found, hfind, hsame, hworld, hcase⟩ := hleft.findOrCreate hlen allocs.2
  have hp' : found.peers[p]? = some { peer with meetingIdx := none } := by
    rw [hsame, hpeers, getElem?_set_self hlt]
  rw [meetingJoin, if_neg hname, hleave]
  dsimp only
  rw [hfind]
  obtain ⟨rfl, hfound⟩ | ⟨idx, m, rfl, hfound, hm⟩ := hcase
  · exact ⟨left, false, found, rfl, rfl, hfound, .inl ⟨hsame, .inl hworld⟩⟩
  · dsimp only
    rw [hm, hp']
    dsimp only
    by_cases hfull : meetingMaxPeers ≤ m.peers.length
    · -- a full meeting is not the one that was just created, so none is left behind empty
      rw [if_pos hfull]
      have hne : m.peers ≠ [] := by
        rintro heq
        rw [heq] at hfull
        exact absurd hfull (by decide)
      exact ⟨left, false, _, rfl, rfl, ((pending_iff hm hne).mp hfound).send _,
        .inl ⟨hsame, .inr (by rw [hworld])⟩⟩
    · rw [if_neg hfull]
      have howner : found.owner = left.owner := by rw [owner, owner, hsame]
      have hids : found.ids m.peers = left.ids m.peers := by rw [ids, ids, hsame]
      refine ⟨left, true, _, rfl, rfl, hfound.add send hm hp' hlive rfl,
        .inr ⟨idx, m.peers, hfound.assigned.nodup idx _ (vectors_getElem? hm), fun q => ?_,
          by omega, ?_, ?_⟩⟩
      · rw [hfound.mem_peers hm, howner]
      · rw [addPeer, hsame, hpeers, set_set]
      · rw [addPeer, hids, hworld]

theorem MeetingManager.Registered.destroy
    (hp : mgr.peers[p]? = some peer) (hlive : peer.freed = false) (alloc : StrAlloc) :
    ∃ left mgr', meetingLeave send mgr p alloc = some left
      ∧ meetingPeerDestroy send mgr p alloc = some mgr' ∧ Registered fits mgr' none
      ∧ mgr'.peers = mgr.peers.set p { peer with meetingIdx := none, freed := true }
      ∧ mgr'.world = left.world := by
  have hlt : p < mgr.peers.length := (List.getElem?_eq_some_iff.mp hp).1
  obtain ⟨left, -, hleave, hleft, hpeers, -, -, -⟩ := h.leave send hp hlive alloc
  have hfreed : (left.peers.modify p fun peer => { peer with freed := true })
      = mgr.peers.set p { peer with meetingIdx := none, freed := true } := by
    rw [hpeers, modify_eq_set_getElem?, getElem?_set_self hlt, Option.map_eq_map,
      Option.map_some, Option.getD_some, set_set]
  have howner : ownerOf (mgr.peers.set p { peer with meetingIdx := none, freed := true })
      = left.owner := by
    rw [owner, hpeers, ownerOf_set hlt, ownerOf_set hlt]
  -- the mark is all that differs from the peers after leaving, and no vector depends on it
  have hreg : Registered fits { left with
      peers := mgr.peers.set p { peer with meetingIdx := none, freed := true } } none := by
    refine ⟨?_, hleft.indexed, hleft.count, hleft.active, gone_set hlt (fun _ => rfl) h.gone⟩
    show Assigned left.vectors (ownerOf _)
    rw [howner]
    exact hleft.assigned
  exact ⟨left, _, hleave, by rw [meetingPeerDestroy, hleave, Option.map_some, hfreed], hreg, rfl,
    rfl⟩

end

/-! ## Runs -/

def MeetingManager.Live (mgr : MeetingManager σ) (alive : List Nat) : Prop :=
  ∀ p ∈ alive, ∃ peer, mgr.peers[p]? = some peer ∧ peer.freed = false

theorem MeetingManager.Live.set {alive' : List Nat} (hlive : mgr.Live alive)
    {mgr' : MeetingManager σ} (hp : p < mgr.peers.length)
    (hpeers : mgr'.peers = mgr.peers.set p peer)
    (halive : ∀ q ∈ alive', q ∈ alive ∧ (q = p → peer.freed = false)) : mgr'.Live alive' := by
  intro q hq
  obtain ⟨hmem, hfreed⟩ := halive q hq
  rw [hpeers]
  by_cases hqp : q = p
  · subst hqp
    exact ⟨peer, getElem?_set_self hp, hfreed rfl⟩
  · rw [getElem?_set_ne (Ne.symm hqp)]
    exact hlive q hmem

theorem meetingStep_registered (h : Registered fits mgr none)
    (hlive : mgr.Live alive) (op : MeetingOp) (hop : op.peer ∈ alive) (hfits : fits → op.Fits) :
    ∃ mgr', meetingStep send mgr op = some mgr' ∧ Registered fits mgr' none
      ∧ mgr'.Live (op.left alive) := by
  obtain ⟨peer, hp, hfreed⟩ := hlive _ hop
  have hlt := (List.getElem?_eq_some_iff.mp hp).1
  cases op with
  | join p name allocs =>
    by_cases hname : name.val = []
    · -- refused before the peer leaves its meeting
      exact ⟨mgr, by rw [meetingStep, meetingJoin, if_pos hname, Option.map_some], h, hlive⟩
    obtain ⟨left, ok, mgr', hleave, hjoin, hreg, hcase⟩ :=
      h.join send hp hfreed hname hfits allocs
    refine ⟨mgr', congrArg (Option.map Prod.snd) hjoin, hreg, ?_⟩
    obtain ⟨hpeers, -⟩ | ⟨idx, -, -, -, -, hpeers, -⟩ := hcase
    · obtain ⟨left', -, hleave', -, hleft, -, -, -⟩ := h.leave send hp hfreed allocs.1
      obtain rfl := Option.some.inj (hleave.symm.trans hleave')
      exact hlive.set hlt (hpeers.trans hleft) fun q hq => ⟨hq, fun _ => hfreed⟩
    · exact hlive.set hlt hpeers fun q hq => ⟨hq, fun _ => hfreed⟩
  | leave p alloc =>
    obtain ⟨mgr', -, hleave, hreg, hpeers, -, -, -⟩ := h.leave send hp hfreed alloc
    exact ⟨mgr', hleave, hreg, hlive.set hlt hpeers fun q hq => ⟨hq, fun _ => hfreed⟩⟩
  | destroy p alloc =>
    obtain ⟨-, mgr', -, hdestroy, hreg, hpeers, -⟩ := h.destroy send hp hfreed alloc
    refine ⟨mgr', hdestroy, hreg, hlive.set hlt hpeers fun q hq => ?_⟩
    obtain ⟨hmem, hne⟩ := mem_filter.mp hq
    exact ⟨hmem, fun heq => absurd heq (of_decide_eq_true hne)⟩

theorem meetingRun_invariant {P : MeetingManager σ → Prop}
    (hpres : ∀ mgr mgr' op peer, Registered fits mgr none → mgr.peers[op.peer]? = some peer →
      peer.freed = false → P mgr → meetingStep send mgr op = some mgr' → P mgr')
    (h : Registered fits mgr none) (hlive : mgr.Live alive) (hP : P mgr)
    {ops : List MeetingOp} (hops : UsesLive alive ops) (hfits : fits → ∀ op ∈ ops, op.Fits) :
    ∃ mgr', meetingRun send mgr ops = some mgr' ∧ Registered fits mgr' none ∧ P mgr' := by
  induction ops generalizing mgr alive with
  | nil => exact ⟨mgr, rfl, h, hP⟩
  | cons op ops ih =>
    obtain ⟨peer, hp, hfreed⟩ := hlive _ hops.1
    obtain ⟨mgr₁, hstep, hreg, hlive'⟩ := meetingStep_registered send h hlive op hops.1
      fun hf => hfits hf op mem_cons_self
    obtain ⟨mgr', hrun, hreg', hP'⟩ := ih hreg hlive' (hpres mgr mgr₁ op peer h hp hfreed hP hstep)
      hops.2 fun hf op' hmem => hfits hf op' (mem_cons_of_mem op hmem)
    exact ⟨mgr', by rw [meetingRun, hstep, Option.bind_some, hrun], hreg', hP'⟩

theorem meetingManagerInit_live (ids : List PeerId) (world : σ) :
    (meetingManagerInit ids world).Live (range ids.length) := by
  intro p hp
  have hlt := mem_range.mp hp
  exact ⟨{ id := ids[p] }, by simp [meetingManagerInit, hlt], rfl⟩

structure MeetingManager.Consistent (mgr : MeetingManager σ) : Prop where
  /-- A peer is in one meeting's list at most. -/
  one : ∀ (i j : Nat) (m n : Meeting) (p : Nat), mgr.meetings[i]? = some m →
    mgr.meetings[j]? = some n → p ∈ m.peers → p ∈ n.peers → i = j
  /-- It is there once. -/
  once : ∀ m ∈ mgr.meetings, m.peers.Nodup
  /-- It knows where. -/
  idx : ∀ (p : Nat) (peer : MeetingPeer) (i : Nat), mgr.peers[p]? = some peer →
    (peer.meetingIdx = some i ↔ ∃ m, mgr.meetings[i]? = some m ∧ p ∈ m.peers)
  active : ∀ m ∈ mgr.meetings, (m.active = true ↔ m.peers ≠ [])
  /-- The map finds the active meeting of a name, and nothing else. -/
  index : ∀ name : CString, ∃ found, findMeeting mgr name = some found
    ∧ ∀ i, found = some i ↔ ∃ m, mgr.meetings[i]? = some m ∧ m.active = true ∧ m.name = name
  names : ∀ (i j : Nat) (m n : Meeting), mgr.meetings[i]? = some m → mgr.meetings[j]? = some n →
    m.active = true → n.active = true → m.name = n.name → i = j
  count : mgr.meetingCount = ((mgr.meetings.filter Meeting.active).length : Nat)

theorem MeetingManager.Registered.consistent (h : Registered True mgr none) : mgr.Consistent where
  one i j m n p hm hn hpm hpn := by
    rw [h.mem_peers hm] at hpm
    rw [h.mem_peers hn, hpm] at hpn
    exact Option.some.inj hpn
  once m hmem := by
    obtain ⟨i, hm⟩ := mem_iff_getElem?.mp hmem
    exact h.assigned.nodup i _ (vectors_getElem? hm)
  idx p peer i hp := by
    rw [← ownerOf_eq hp]
    refine ⟨h.exists_meeting, ?_⟩
    rintro ⟨m, hm, hmem⟩
    exact (h.mem_peers hm p).mp hmem
  active m hmem := by
    obtain ⟨i, hm⟩ := mem_iff_getElem?.mp hmem
    simpa using h.active i m hm
  index name := by
    obtain ⟨found, hget, hsound, hcomplete⟩ := h.indexed.get name
    refine ⟨found, hget, fun i => ?_⟩
    rw [← labels_getElem?_iff]
    exact ⟨hsound i, hcomplete trivial i⟩
  names i j m n hm hn hmactive hnactive hname := by
    refine h.indexed.unique trivial (labels_getElem?_iff.mpr ⟨m, hm, hmactive, rfl⟩)
      (labels_getElem?_iff.mpr ⟨n, hn, hnactive, hname.symm⟩)
  count := by
    rw [h.count, labels, countP_map, ← countP_eq_length_filter]
    rfl

/-- **The registry of the meetings.** -/
theorem meetingRun_consistent (ids : List PeerId) (world : σ) (ops : List MeetingOp)
    (hops : UsesLive (range ids.length) ops) (hfits : ∀ op ∈ ops, op.Fits) :
    ∃ mgr, meetingRun send (meetingManagerInit ids world) ops = some mgr ∧ mgr.Consistent := by
  obtain ⟨mgr, hrun, hreg, -⟩ := meetingRun_invariant send (P := fun _ => True)
    (fun _ _ _ _ _ _ _ _ _ => trivial) (.init ids world) (meetingManagerInit_live ids world)
    trivial hops fun _ => hfits
  exact ⟨mgr, hrun, hreg.consistent⟩

end

end

def alice : PeerId := ⟨⟨CText.ascii "alice", by decide⟩, by decide⟩
def bob : PeerId := ⟨⟨CText.ascii "bob", by decide⟩, by decide⟩
def standup : CString := ⟨CText.ascii "standup", by decide⟩
def review : CString := ⟨CText.ascii "review", by decide⟩

def meetAndPart : List MeetingOp :=
  [.join 0 standup ({}, {}), .join 1 standup ({}, {}), .join 0 review ({}, {}), .destroy 1 {},
    .leave 0 {}, .destroy 0 {}]

theorem meetAndPart_usesLive : UsesLive (range 2) meetAndPart := by
  simp [meetAndPart, UsesLive, MeetingOp.peer, MeetingOp.left, range_succ]

theorem meetAndPart_consistent :
    ∃ mgr, meetingRun (fun _ _ world => world) (meetingManagerInit [alice, bob] ()) meetAndPart
      = some mgr ∧ mgr.Consistent := by
  refine meetingRun_consistent _ [alice, bob] () _ meetAndPart_usesLive ?_
  have hstandup : standup.val.length < meetingMaxName := by decide
  have hreview : review.val.length < meetingMaxName := by decide
  simp [meetAndPart, MeetingOp.Fits, hstandup, hreview]

end Mrtc
