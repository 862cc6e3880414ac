import Mrtc.Basic.Err
import Mrtc.Lib.Window

/-! # The SRTP replay window (`rtc_srtp.c`, `srtp_replay_check`)

The window keeps the highest accepted index and a 128-bit bitmap in two 64-bit words: bit `k`
stands for the index `highest_index - k`.
-/

namespace Mrtc

def srtpReplayWindowSize : Nat := 128

structure Replay where
  highestIndex : Nat := 0
  window0 : BitVec 64 := 0#64
  window1 : BitVec 64 := 0#64
  initialized : Bool := false
  deriving DecidableEq

open Replay Window

def Replay.bit (r : Replay) (k : Nat) : Bool :=
  if k < 64 then r.window0.getLsbD k else r.window1.getLsbD (k - 64)

def srtpReplayCheck (r : Replay) (index : Nat) : Except RtcErr Replay :=
  if !r.initialized then
    .ok { highestIndex := index, window0 := 1#64, window1 := 0#64, initialized := true }
  else if r.highestIndex < index then
    -- new highest: shift the window by `delta`, set the new bit 0
    let delta := index - r.highestIndex
    if srtpReplayWindowSize ≤ delta then
      .ok { r with window0 := 1#64, window1 := 0#64, highestIndex := index }
    else if 64 ≤ delta then
      .ok { r with window1 := r.window0 <<< (delta - 64), window0 := 0#64 ||| 1#64,
                   highestIndex := index }
    else
      .ok { r with
            window1 := (r.window1 <<< delta) |||
              (if delta = 0 then 0#64 else r.window0 >>> (64 - delta)),
            window0 := (r.window0 <<< delta) ||| 1#64, highestIndex := index }
  else
    let delta := r.highestIndex - index
    if srtpReplayWindowSize ≤ delta then .error .srtp
    else
      let mask := 1#64 <<< (delta % 64)
      if delta / 64 = 0 then
        if r.window0 &&& mask ≠ 0#64 then .error .srtp
        else .ok { r with window0 := r.window0 ||| mask }
      else
        if r.window1 &&& mask ≠ 0#64 then .error .srtp
        else .ok { r with window1 := r.window1 ||| mask }

/-! ## The bitmap as a set of indices -/

/-- The window `r` is the state after accepting exactly the indices of `A` (of which only the
last 128 below the highest are still recorded). -/
structure Replay.Tracks (r : Replay) (A : Finset Nat) : Prop where
  initialized : r.initialized = true ↔ A.Nonempty
  highest : r.initialized = true → Window.IsHighest A r.highestIndex
  bits : r.initialized = true → ∀ k, k < srtpReplayWindowSize →
    (r.bit k = true ↔ k ≤ r.highestIndex ∧ r.highestIndex - k ∈ A)

theorem Replay.tracks_empty : Replay.Tracks {} ∅ where
  initialized := by simp
  highest := by simp
  bits := by simp

variable {k index : Nat}

theorem and_mask_eq_zero_iff (w : BitVec 64) (hk : k < 64) :
    w &&& (1#64 <<< k) = 0#64 ↔ w.getLsbD k = false := by
  constructor
  · intro h
    have := congrArg (fun v => BitVec.getLsbD v k) h
    simpa [hk] using this
  · intro h
    apply BitVec.eq_of_getLsbD_eq
    intro i hi
    by_cases hik : i = k
    · subst hik; simp [h]
    · grind

theorem bit_advance (r : Replay) (hinit : r.initialized = true) (hlt : r.highestIndex < index)
    (hk : k < srtpReplayWindowSize) {r' : Replay} (hr : srtpReplayCheck r index = .ok r') :
    r'.bit k = true ↔
      k = 0 ∨ (index - r.highestIndex ≤ k ∧ r.bit (k - (index - r.highestIndex)) = true) := by
  set delta := index - r.highestIndex with hdelta
  have hd0 : 0 < delta := by omega
  unfold srtpReplayWindowSize at hk
  simp only [srtpReplayCheck, hinit, Bool.not_true, Bool.false_eq_true, if_false, if_pos hlt,
    ← hdelta] at hr
  by_cases h1 : srtpReplayWindowSize ≤ delta
  · rw [if_pos h1] at hr
    unfold srtpReplayWindowSize at h1
    cases hr
    by_cases hk64 : k < 64
    · simp [bit, hk64]; omega
    · simp [bit, hk64]; omega
  · rw [if_neg h1] at hr
    unfold srtpReplayWindowSize at h1
    by_cases h2 : 64 ≤ delta
    · rw [if_pos h2] at hr
      cases hr
      by_cases hk64 : k < 64
      · simp [bit, hk64]; omega
      · have h3 : k - delta < 64 := by omega
        simp only [bit, hk64, if_false, BitVec.getLsbD_shiftLeft, if_pos h3]
        by_cases h4 : delta ≤ k
        · have h5 : ¬ k - 64 < delta - 64 := by omega
          have h6 : k - 64 - (delta - 64) = k - delta := by omega
          have h7 : k ≠ 0 := by omega
          have h8 : k - 64 < 64 := by omega
          simp [h4, h5, h6, h7, h8]
        · have h5 : k - 64 < delta - 64 := by omega
          simp [h4, h5]; omega
    · rw [if_neg h2, if_neg (by omega)] at hr
      cases hr
      by_cases hk64 : k < 64
      · have h3 : k - delta < 64 := by omega
        simp only [bit, if_pos hk64, if_pos h3, BitVec.getLsbD_or,
          BitVec.getLsbD_shiftLeft, BitVec.getLsbD_one]
        by_cases h4 : delta ≤ k
        · have h5 : k ≠ 0 := by omega
          simp [hk64, h4, h5]
        · simp [h4]
      · have h4 : delta ≤ k := by omega
        simp only [bit, if_neg hk64, BitVec.getLsbD_or, BitVec.getLsbD_shiftLeft,
          BitVec.getLsbD_ushiftRight]
        -- the top `delta` bits of word 0 are the bottom `delta` bits of word 1
        by_cases h5 : k - 64 < delta
        · grind
        · grind

theorem bit_record (r : Replay) (hinit : r.initialized = true) (hle : index ≤ r.highestIndex)
    (hk : k < srtpReplayWindowSize) {r' : Replay} (hr : srtpReplayCheck r index = .ok r') :
    r'.highestIndex = r.highestIndex ∧ r'.initialized = true ∧
      (r'.bit k = true ↔ k = r.highestIndex - index ∨ r.bit k = true) := by
  set delta := r.highestIndex - index with hdelta
  unfold srtpReplayWindowSize at hk
  simp only [srtpReplayCheck, hinit, Bool.not_true, Bool.false_eq_true, if_false,
    if_neg (Nat.not_lt.mpr hle), ← hdelta] at hr
  by_cases h1 : srtpReplayWindowSize ≤ delta
  · rw [if_pos h1] at hr; cases hr
  · rw [if_neg h1] at hr
    unfold srtpReplayWindowSize at h1
    by_cases h2 : delta / 64 = 0
    · rw [if_pos h2] at hr
      split at hr
      · cases hr
      · cases hr
        refine ⟨rfl, rfl, ?_⟩
        by_cases hk64 : k < 64
        · simp only [bit, hk64, if_true, BitVec.getLsbD_or, BitVec.getLsbD_shiftLeft,
            BitVec.getLsbD_one]
          rw [Nat.mod_eq_of_lt (by omega)]
          by_cases h3 : k = delta
          · simp [h3]
          · grind
        · have h3 : k ≠ delta := by omega
          simp [bit, hk64, h3]
    · rw [if_neg h2] at hr
      split at hr
      · cases hr
      · cases hr
        refine ⟨rfl, rfl, ?_⟩
        by_cases hk64 : k < 64
        · have h3 : k ≠ delta := by omega
          simp [bit, hk64, h3]
        · simp only [bit, hk64, if_false, BitVec.getLsbD_or, BitVec.getLsbD_shiftLeft,
            BitVec.getLsbD_one]
          rw [show delta % 64 = delta - 64 by omega]
          by_cases h3 : k = delta
          · have h4 : delta - 64 < 64 := by omega
            simp [h3, h4]
          · grind

theorem srtpReplayCheck_late (r : Replay) (hinit : r.initialized = true)
    (hle : index ≤ r.highestIndex) :
    (∃ r', srtpReplayCheck r index = .ok r') ↔
      r.highestIndex - index < srtpReplayWindowSize ∧
        r.bit (r.highestIndex - index) = false := by
  set delta := r.highestIndex - index with hdelta
  simp only [srtpReplayCheck, hinit, Bool.not_true, Bool.false_eq_true, if_false,
    if_neg (Nat.not_lt.mpr hle), ← hdelta]
  by_cases h1 : srtpReplayWindowSize ≤ delta
  · rw [if_pos h1]
    simp; omega
  · rw [if_neg h1]
    unfold srtpReplayWindowSize at *
    by_cases h2 : delta / 64 = 0
    · have h3 : delta < 64 := by omega
      rw [if_pos h2, Nat.mod_eq_of_lt h3]
      have h4 := and_mask_eq_zero_iff r.window0 h3
      have h6 : r.bit delta = r.window0.getLsbD delta := if_pos h3
      rw [h6]
      by_cases h5 : r.window0 &&& 1#64 <<< delta = 0#64
      · rw [if_neg (not_not.mpr h5)]
        exact iff_of_true ⟨_, rfl⟩ ⟨by omega, h4.mp h5⟩
      · rw [if_pos h5]
        exact iff_of_false (by simp) fun hb => h5 (h4.mpr hb.2)
    · have h3 : ¬ delta < 64 := by omega
      have h3' : delta - 64 < 64 := by omega
      rw [if_neg h2, show delta % 64 = delta - 64 by omega]
      have h4 := and_mask_eq_zero_iff r.window1 h3'
      have h6 : r.bit delta = r.window1.getLsbD (delta - 64) := if_neg h3
      rw [h6]
      by_cases h5 : r.window1 &&& 1#64 <<< (delta - 64) = 0#64
      · rw [if_neg (not_not.mpr h5)]
        exact iff_of_true ⟨_, rfl⟩ ⟨by omega, h4.mp h5⟩
      · rw [if_pos h5]
        exact iff_of_false (by simp) fun hb => h5 (h4.mpr hb.2)

/-! ## The check is the sliding window -/

theorem srtpReplayCheck_ahead (r : Replay) (hinit : r.initialized = true)
    (hlt : r.highestIndex < index) :
    ∃ r', srtpReplayCheck r index = .ok r' ∧ r'.highestIndex = index ∧ r'.initialized = true := by
  simp only [srtpReplayCheck, hinit, Bool.not_true, Bool.false_eq_true, if_false, if_pos hlt]
  split
  · exact ⟨_, rfl, rfl, rfl⟩
  · split
    · exact ⟨_, rfl, rfl, rfl⟩
    · exact ⟨_, rfl, rfl, rfl⟩

theorem Replay.tracks_first {r : Replay} (hinit : r.initialized = false) (index : Nat) :
    ∃ r', srtpReplayCheck r index = .ok r' ∧ r'.Tracks {index} := by
  refine ⟨⟨index, 1#64, 0#64, true⟩, by simp [srtpReplayCheck, hinit], ?_⟩
  refine ⟨by simp, fun _ => isHighest_singleton index, fun _ k hk => ?_⟩
  simp only [srtpReplayWindowSize] at hk
  by_cases hk64 : k < 64
  · simp [bit, hk64]; omega
  · simp [bit, hk64]; omega

/-- **What one check does.** -/
theorem srtpReplayCheck_spec {r : Replay} {A : Finset Nat} (h : r.Tracks A) (index : Nat) :
    (Window.Fresh srtpReplayWindowSize A index ↔ ∃ r', srtpReplayCheck r index = .ok r') ∧
    ∀ r', srtpReplayCheck r index = .ok r' → r'.Tracks (insert index A) := by
  by_cases hinit : r.initialized = true
  · have hH := h.highest hinit
    by_cases hlt : r.highestIndex < index
    · obtain ⟨r', hr', hh', hi'⟩ := srtpReplayCheck_ahead r hinit hlt
      refine ⟨⟨fun _ => ⟨r', hr'⟩, fun _ => ?_⟩, fun r'' hr'' => ?_⟩
      · exact fresh_of_above (by decide) fun a ha => lt_of_le_of_lt (hH.2 a ha) hlt
      · obtain rfl : r' = r'' := by rw [hr'] at hr''; cases hr''; rfl
        refine ⟨by simp [hi'], fun _ => ?_, fun _ k hk => ?_⟩
        · rw [hh']; exact isHighest_insert_above hH hlt
        · rw [bit_advance r hinit hlt hk hr', hh']
          -- the shifted bit stands for the same index as before the shift
          constructor
          · rintro (rfl | ⟨hd, hb⟩)
            · exact ⟨Nat.zero_le _, by simp⟩
            · obtain ⟨h1, h2⟩ := (h.bits hinit _ (by omega)).mp hb
              refine ⟨by omega, Finset.mem_insert_of_mem ?_⟩
              rwa [show index - k = r.highestIndex - (k - (index - r.highestIndex)) by omega]
          · rintro ⟨hk', hmem⟩
            rcases Finset.mem_insert.mp hmem with heq | hmem
            · left; omega
            · right
              have := hH.2 _ hmem
              refine ⟨by omega, (h.bits hinit _ (by omega)).mpr ⟨by omega, ?_⟩⟩
              rwa [show r.highestIndex - (k - (index - r.highestIndex)) = index - k by omega]
    · have hle : index ≤ r.highestIndex := Nat.le_of_not_lt hlt
      refine ⟨?_, fun r' hr' => ?_⟩
      · rw [srtpReplayCheck_late r hinit hle, fresh_iff hH]
        constructor
        · rintro ⟨hn, hw⟩
          refine ⟨by omega, ?_⟩
          rw [Bool.eq_false_iff]
          intro hb
          obtain ⟨-, hm⟩ := (h.bits hinit _ (by omega)).mp hb
          exact hn (by rwa [show r.highestIndex - (r.highestIndex - index) = index by omega] at hm)
        · rintro ⟨hw, hb⟩
          refine ⟨fun hm => ?_, by omega⟩
          have := (h.bits hinit _ hw).mpr ⟨by omega, by
            rwa [show r.highestIndex - (r.highestIndex - index) = index by omega]⟩
          rw [hb] at this; cases this
      · have hrec := fun k hk => bit_record r (k := k) hinit hle hk hr'
        obtain ⟨hh', hi', -⟩ := hrec 0 (by decide)
        refine ⟨by simp [hi'], fun _ => ?_, fun _ k hk => ?_⟩
        · rw [hh']; exact isHighest_insert_below hH hle
        · obtain ⟨-, -, hb⟩ := hrec k hk
          rw [hb, hh', h.bits hinit k hk, Finset.mem_insert]
          constructor
          · grind
          · grind
  · have hinit' : r.initialized = false := by simpa using hinit
    have hA : A = ∅ := by
      rw [← Finset.not_nonempty_iff_eq_empty, ← h.initialized]; exact hinit
    subst hA
    obtain ⟨r', hr', ht⟩ := tracks_first hinit' index
    refine ⟨⟨fun _ => ⟨r', hr'⟩, fun _ => fresh_empty _ _⟩, fun r'' hr'' => ?_⟩
    obtain rfl : r' = r'' := by rw [hr'] at hr''; cases hr''; rfl
    simpa using ht

/-! ## A run of checks -/

def replayChecks (r : Replay) (accepted : List Nat) : List Nat → Replay × List Nat
  | [] => (r, accepted)
  | index :: rest =>
    match srtpReplayCheck r index with
    | .ok r' => replayChecks r' (accepted ++ [index]) rest
    | .error _ => replayChecks r accepted rest

theorem Replay.Tracks.replayChecks (indices : List Nat) :
    ∀ {r : Replay} {accepted : List Nat}, r.Tracks accepted.toFinset →
      (replayChecks r accepted indices).1.Tracks (replayChecks r accepted indices).2.toFinset := by
  induction indices with
  | nil => exact fun h => h
  | cons index rest ih =>
    intro r accepted h
    unfold Mrtc.replayChecks
    split
    · rename_i r' hcheck
      apply ih
      rw [List.toFinset_append, Finset.union_comm]
      exact (srtpReplayCheck_spec h index).2 r' hcheck
    · exact ih h

/-- **The window is exact.** -/
theorem srtpReplayCheck_exact (before : List Nat) (index : Nat) :
    (∃ r, srtpReplayCheck (replayChecks {} [] before).1 index = .ok r)
      ↔ index ∉ (replayChecks {} [] before).2
        ∧ ∀ highest ∈ (replayChecks {} [] before).2,
          (∀ a ∈ (replayChecks {} [] before).2, a ≤ highest) →
            (highest : Int) - srtpReplayWindowSize < index := by
  have h : (replayChecks {} [] before).1.Tracks (replayChecks {} [] before).2.toFinset :=
    Replay.Tracks.replayChecks before tracks_empty
  rw [← (srtpReplayCheck_spec h index).1]
  generalize (replayChecks {} [] before).2 = accepted
  by_cases hne : accepted.toFinset.Nonempty
  · have htop : Window.IsHighest accepted.toFinset (accepted.toFinset.max' hne) :=
      ⟨Finset.max'_mem _ _, fun a ha => Finset.le_max' _ a ha⟩
    generalize accepted.toFinset.max' hne = top at htop
    rw [fresh_iff htop]
    simp only [Window.IsHighest, List.mem_toFinset] at htop ⊢
    constructor
    · rintro ⟨hnew, hwin⟩
      refine ⟨hnew, fun highest hmem hall => ?_⟩
      have := htop.2 highest hmem
      omega
    · rintro ⟨hnew, hwin⟩
      have := hwin top htop.1 htop.2
      exact ⟨hnew, by omega⟩
  · have hnil : accepted = [] := by simpa using hne
    subst hnil
    exact iff_of_true (fresh_empty _ _) (by simp)

end Mrtc
