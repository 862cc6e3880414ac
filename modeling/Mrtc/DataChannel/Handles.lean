import Mrtc.DataChannel.Calls

/-! # Channel handles (`rtc_data_channel.c`)

The application holds pointers to channels, and the manager finds them again by their ids: for a
message, and to free them when it is closed.
-/

namespace Mrtc

open Net List

def dcFreed (mgr : DcManager) : Option (List Nat) :=
  (mgr.channels.iterate (mgr.channels.cap + 1) 0).map fun entries => entries.filterMap Prod.snd

/-- Each channel is found under its id, and freed once. -/
structure DcManager.HandlesValid (mgr : DcManager) : Prop where
  found : ∀ dc c, mgr.objects[dc]? = some c → dcFindById mgr c.id = some (some dc)
  distinct : (mgr.objects.map DataChannel.id).Nodup
  freed : ∃ freed, dcFreed mgr = some freed
    ∧ ∀ dc, freed.count dc = if dc < mgr.objects.length then 1 else 0

/-- No channel is created under an id that is in use. -/
def NoneReplaced (calls : List DcCall) : Prop :=
  ∀ before call h, before ++ [call] <+: calls → dcRun .start before = some h →
    call.replaces h.mgr = none

/-! ## The map holds every channel -/

def DcManager.Held (mgr : DcManager) (M : Nat → Option Nat) : Prop :=
  ∀ dc c, mgr.objects[dc]? = some c → M c.id = some dc

section Held

variable {mgr : DcManager} {M : Nat → Option Nat}

theorem dcFreed_eq (h : mgr.Indexed M) :
    ∃ freed, dcFreed mgr = some freed ∧ freed.Nodup
      ∧ ∀ dc, dc ∈ freed ↔ ∃ id, M id = some dc := by
  obtain ⟨entries, hiter, honce, hall, -⟩ := HashTable.Sound.iterate h.maps
  have hentry : ∀ key dc, (key, some dc) ∈ entries ↔ M key.toNat = some dc := by
    intro key dc
    rw [hall]
    dsimp only
    cases M key.toNat <;> simp
  refine ⟨_, by rw [dcFreed, hiter, Option.map_some], ?_, fun dc => ?_⟩
  · -- a channel has one id, so it is not listed under two keys
    unfold List.Nodup at honce ⊢
    rw [pairwise_map] at honce
    rw [pairwise_filterMap]
    refine List.Pairwise.imp_of_mem ?_ honce
    rintro ⟨key, value⟩ ⟨key', value'⟩ hmem hmem' hne dc rfl dc' rfl rfl
    obtain ⟨c, hc, hid⟩ := h.found _ dc ((hentry key dc).mp hmem)
    obtain ⟨c', hc', hid'⟩ := h.found _ dc ((hentry key' dc).mp hmem')
    cases hc.symm.trans hc'
    exact hne (UInt32.toNat_inj.mp (hid.symm.trans hid'))
  · rw [mem_filterMap]
    constructor
    · grind
    · rintro ⟨id, hid⟩
      obtain ⟨c, hc, rfl⟩ := h.found id dc hid
      have hsmall := h.small c (mem_of_getElem? hc)
      refine ⟨(UInt32.ofNat c.id, some dc), (hentry _ dc).mpr ?_, rfl⟩
      rw [UInt32.toNat_ofNat_of_lt' (lt_of_lt_of_le hsmall (by decide))]
      exact hid

theorem DcManager.Indexed.handlesValid_iff (h : mgr.Indexed M) : mgr.HandlesValid ↔ mgr.Held M := by
  have hfind : ∀ c ∈ mgr.objects, dcFindById mgr c.id = some (M c.id) := by
    intro c hc
    have hsmall := h.small c hc
    exact dcFindById_eq h.maps (by omega)
  constructor
  · intro hvalid dc c hc
    have hfound := hvalid.found dc c hc
    rw [hfind c (mem_of_getElem? hc)] at hfound
    exact Option.some.inj hfound
  · intro hheld
    refine ⟨fun dc c hc => ?_, ?_, ?_⟩
    · rw [hfind c (mem_of_getElem? hc), hheld dc c hc]
    · rw [nodup_iff_getElem?_ne_getElem?]
      intro i j hij hj heq
      rw [length_map] at hj
      rw [getElem?_map, getElem?_map, getElem?_eq_getElem (hij.trans hj),
        getElem?_eq_getElem hj] at heq
      have hid := Option.some.inj heq
      have hi := hheld i _ (getElem?_eq_getElem (hij.trans hj))
      have hj := hheld j _ (getElem?_eq_getElem hj)
      rw [hid] at hi
      cases hi.symm.trans hj
      omega
    · obtain ⟨freed, hfreed, hnodup, hmem⟩ := dcFreed_eq h
      refine ⟨freed, hfreed, fun dc => ?_⟩
      split
      · rename_i hlt
        refine count_eq_one_of_mem hnodup ((hmem dc).mpr ?_)
        exact ⟨_, hheld dc _ (getElem?_eq_getElem hlt)⟩
      · grind [count_eq_zero_of_not_mem, List.getElem?_eq_some_iff, h.found]

theorem DcManager.held_setState {dc : Nat} {state : DcState} :
    (mgr.setState dc state).Held M ↔ mgr.Held M := by
  unfold DcManager.Held
  refine forall_congr' fun dc' => ?_
  rw [DcManager.getElem?_setState]
  cases mgr.objects[dc']? with
  | none => simp
  | some c => by_cases hdc : dc = dc' <;> simp [hdc]

theorem DcManager.Indexed.held_concat_iff (h : mgr.Indexed M) {mgr' : DcManager} {c : DataChannel}
    (hobjects : mgr'.objects = mgr.objects ++ [c]) :
    mgr'.Held (Function.update M c.id (some mgr.objects.length)) ↔ mgr.Held M ∧ M c.id = none := by
  unfold DcManager.Held
  rw [hobjects]
  constructor
  · intro hheld
    -- under the id of the new channel the map has only the new channel
    have hnew : ∀ dc c', mgr.objects[dc]? = some c' → c'.id ≠ c.id ∧ M c'.id = some dc := by
      intro dc c' hc'
      obtain ⟨hlt, -⟩ := List.getElem?_eq_some_iff.mp hc'
      have hfound := hheld dc c' ((getElem?_append_left hlt).trans hc')
      by_cases hid : c'.id = c.id
      · grind
      · rw [Function.update_of_ne hid] at hfound
        exact ⟨hid, hfound⟩
    refine ⟨fun dc c' hc' => (hnew dc c' hc').2, ?_⟩
    cases hM : M c.id with
    | none => rfl
    | some dc =>
      obtain ⟨c', hc', hid⟩ := h.found _ dc hM
      exact absurd hid (hnew dc c' hc').1
  · rintro ⟨hheld, hfree⟩ dc c' hc'
    rw [getElem?_append] at hc'
    split at hc'
    · grind
    · grind

/-- **A call leaves every channel in the map just if it replaces none.** -/
theorem DcEffect.held_iff (h : mgr.Indexed M) {call : DcCall} {mgr' : DcManager}
    {events : List DcEvent} {M' : Nat → Option Nat} (heffect : DcEffect mgr M call mgr' events M') :
    mgr'.Held M' ↔ mgr.Held M ∧ call.replaces mgr = none := by
  cases heffect with
  | kept hobjects hchannels hquiet hreplaces =>
    unfold DcManager.Held
    rw [hobjects]
    exact (and_iff_left hreplaces).symm
  | added c hstate hsmall hobjects hmaps hquiet hreplaces =>
    rw [hreplaces]
    exact h.held_concat_iff hobjects
  | acked dc hstate hreplaces =>
    rw [DcManager.held_setState]
    exact (and_iff_left hreplaces).symm
  | opened dc hstate hopens hreplaces =>
    rw [DcManager.held_setState]
    exact (and_iff_left hreplaces).symm
  | closed dc hstate hopen hreplaces =>
    rw [DcManager.held_setState]
    exact (and_iff_left hreplaces).symm

end Held

/-! ## Runs -/

theorem noneReplaced_concat {calls : List DcCall} {h : DcHistory}
    (hrun : dcRun .start calls = some h) (call : DcCall) :
    NoneReplaced (calls ++ [call]) ↔ NoneReplaced calls ∧ call.replaces h.mgr = none := by
  constructor
  · intro hnone
    refine ⟨fun before call' h' hpre => ?_, hnone calls call h prefix_rfl hrun⟩
    exact hnone before call' h' (hpre.trans (prefix_append calls [call]))
  · rintro ⟨hnone, hlast⟩ before call' h' hpre hbefore
    rcases prefix_concat_iff.mp hpre with heq | hpre
    · grind [append_inj']
    · exact hnone before call' h' hpre hbefore

/-- **The handles of a manager stay valid just if no channel is created under the id of another
one.** -/
theorem handles_valid_iff (calls : List DcCall) :
    ∃ h, dcRun .start calls = some h ∧ (h.mgr.HandlesValid ↔ NoneReplaced calls) := by
  suffices hheld : ∃ h M, dcRun .start calls = some h ∧ h.mgr.Indexed M
      ∧ (h.mgr.Held M ↔ NoneReplaced calls) by
    obtain ⟨h, M, hrun, hM, hiff⟩ := hheld
    exact ⟨h, hrun, hM.handlesValid_iff.trans hiff⟩
  induction calls using List.reverseRecOn with
  | nil =>
    refine ⟨.start, _, rfl, DcHistory.start_indexed, fun _ before call h hpre => ?_, fun _ => ?_⟩
    · simp at hpre
    · intro dc c hc
      cases hc
  | append_singleton calls call ih =>
    obtain ⟨h, M, hrun, hM, hiff⟩ := ih
    obtain ⟨mgr', events, M', hstep, heffect, hM'⟩ := hM.dcStep call
    refine ⟨_, M', (dcRun_concat hrun call).trans hstep, hM', ?_⟩
    rw [noneReplaced_concat hrun, ← hiff]
    exact heffect.held_iff hM

/-- Two channels with the same id: the first one is found under no id, and is not freed. -/
theorem sameId_loses_channel :
    (dcRun .start [.create true {} [0x61] (some 0), .create true {} [0x62] none]).map
        (fun h => (h.mgr.objects.map DataChannel.id, dcFindById h.mgr 0, dcFreed h.mgr))
      = some ([0, 0], some (some 1), some [1]) := by
  decide +kernel

end Mrtc
