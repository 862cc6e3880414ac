import Mrtc.Lib.Arrivals
import Mrtc.Lib.SerialNumber
import Mrtc.Media.VideoReceive

/-! # What the receive statistics say (`media_pipeline.c`, `video_stats.h`)

A packet is compared with the one that came before it. `receiveStats_accurate_iff` says when the
counters of missing and repeated packets are right.
-/

set_option autoImplicit false

namespace Mrtc

open Net List Arrivals Serial

structure VideoArrival where
  index : Nat
  payload : Bytes
  timestamp : UInt32
  marker : Bool

open VideoArrival

def VideoArrival.seq (a : VideoArrival) : UInt16 := UInt16.ofNat a.index

def VideoArrival.Near (a b : VideoArrival) : Prop := a.index < b.index + 1000 ∧ b.index < a.index + 1000

section

variable {δ : Type} (decode : δ → Bytes → δ × Bool) (rendering : Bool) (decoder : δ)

def statsAfter (arrivals : List VideoArrival) : VideoRecvStats :=
  (arrivals.foldl
    (fun s a => (recvVideoOnStream decode rendering s a.payload a.seq a.timestamp a.marker).1)
    { decoder := decoder }).stats

/-- A packet that repeats the one before is a duplicate and nothing else. -/
def RepeatsCounted (arrivals : List VideoArrival) : Prop :=
  ∀ before a b, before ++ [a, b] <+: arrivals → b.seq = a.seq →
    (statsAfter decode rendering decoder (before ++ [a, b])).packetsDuplicate
        = (statsAfter decode rendering decoder (before ++ [a])).packetsDuplicate + 1
      ∧ (statsAfter decode rendering decoder (before ++ [a, b])).packetsMissing
        = (statsAfter decode rendering decoder (before ++ [a])).packetsMissing
      ∧ (statsAfter decode rendering decoder (before ++ [a, b])).packetsReordered
        = (statsAfter decode rendering decoder (before ++ [a])).packetsReordered

end

/-! ## One packet -/

def VideoRecvStats.bySeq (stats : VideoRecvStats) : Option UInt16 × Nat × Nat × Nat :=
  (stats.rtpLastSeq, stats.packetsMissing, stats.packetsReordered, stats.packetsDuplicate)

open VideoRecvStats

theorem trackSeq_bySeq {stats stats' : VideoRecvStats} (h : stats.bySeq = stats'.bySeq)
    (seq : UInt16) : (trackSeq stats seq).bySeq = (trackSeq stats' seq).bySeq := by
  simp only [bySeq, Prod.mk.injEq] at h
  obtain ⟨hlast, hmissing, hreordered, hduplicate⟩ := h
  unfold trackSeq
  rw [hlast]
  cases stats'.rtpLastSeq with
  | none => simp only [bySeq, hmissing, hreordered, hduplicate]
  | some last =>
    dsimp only
    split_ifs <;> simp only [bySeq, hmissing, hreordered, hduplicate]

section

variable {δ : Type} (decode : δ → Bytes → δ × Bool) (rendering : Bool) (decoder : δ)

theorem takeFrame_bySeq (s : VideoRecvStream δ) (wasCollecting : Bool)
    (frame : Except RtcErr (Bytes × Bool)) :
    (takeFrame decode rendering s wasCollecting frame).1.stats.bySeq = s.stats.bySeq := by
  have hdropped : ∀ (s : VideoRecvStream δ) (b : Bool),
      (countDropped s b).stats.bySeq = s.stats.bySeq := by
    intro s b
    unfold countDropped
    split <;> rfl
  have hdecoded : ∀ (s : VideoRecvStream δ) (frame : Bytes) (isKey : Bool),
      (decodeVideo decode rendering s frame isKey).stats.bySeq = s.stats.bySeq := by
    intro s frame isKey
    unfold decodeVideo
    dsimp only
    split <;> rfl
  cases frame with
  | error e => exact hdropped s _
  | ok r =>
    dsimp only [takeFrame]
    split
    · rw [hdecoded, hdropped]
    · rw [hdropped]

theorem recvVideoOnStream_bySeq (s : VideoRecvStream δ) (data : Bytes) (seq : UInt16)
    (timestamp : UInt32) (marker : Bool) :
    (recvVideoOnStream decode rendering s data seq timestamp marker).1.stats.bySeq
      = (trackSeq s.stats seq).bySeq := by
  unfold recvVideoOnStream
  rw [takeFrame_bySeq]
  refine trackSeq_bySeq ?_ seq
  rfl

theorem statsAfter_concat (arrivals : List VideoArrival) (a : VideoArrival) :
    (statsAfter decode rendering decoder (arrivals ++ [a])).bySeq
      = (trackSeq (statsAfter decode rendering decoder arrivals) a.seq).bySeq := by
  unfold statsAfter
  rw [foldl_append]
  exact recvVideoOnStream_bySeq decode rendering _ _ _ _ _

variable {a b : VideoArrival}

theorem seq_diff (hnear : a.Near b) :
    (b.seq - (a.seq + 1)).toBitVec.toInt = b.index - a.index - 1 := by
  have hwrap : ∀ n : Nat, (UInt16.ofNat n).toBitVec = wrap 15 n := by
    intro n
    rw [wrap, BitVec.ofInt_natCast]
    rfl
  have hdiff : (b.seq - (a.seq + 1)).toBitVec.toInt
      = diff (wrap 15 b.index) (wrap 15 (a.index + 1)) := by
    rw [← wrap_add_one, ← hwrap, ← hwrap]
    rfl
  obtain ⟨hlow, hhigh⟩ := hnear
  rw [hdiff, diff_wrap (by omega) (by omega)]
  omega

theorem seq_eq_iff (hnear : a.Near b) : b.seq = a.seq ↔ b.index = a.index := by
  constructor
  · intro heq
    have hdiff := seq_diff hnear
    have hone : (a.seq - (a.seq + 1)).toBitVec.toInt = -1 := by
      rw [seq_diff (a := a) (b := a) ⟨by omega, by omega⟩]
      omega
    rw [heq, hone] at hdiff
    omega
  · intro heq
    rw [seq, seq, heq]

/-- **What one packet adds to the counters.** -/
theorem trackSeq_near {stats : VideoRecvStats} (hnear : a.Near b)
    (hlast : stats.rtpLastSeq = some a.seq) :
    (trackSeq stats b.seq).packetsMissing = stats.packetsMissing + (b.index - a.index - 1)
      ∧ (b.index = a.index → (trackSeq stats b.seq).packetsReordered = stats.packetsReordered + 1) := by
  have hdiff := seq_diff hnear
  obtain ⟨hlow, hhigh⟩ := hnear
  unfold trackSeq
  rw [hlast]
  dsimp only
  rw [hdiff]
  split_ifs with hgap hlate hsame
  · grind
  · exact ⟨by show stats.packetsMissing = _; omega, fun _ => rfl⟩
  · exact ⟨by show stats.packetsMissing = _; omega, fun heq => by omega⟩
  · exact ⟨by show stats.packetsMissing = _; omega, fun heq => by omega⟩

theorem trackSeq_last (stats : VideoRecvStats) (seq : UInt16) :
    (trackSeq stats seq).rtpLastSeq = some seq := by
  unfold trackSeq
  split
  · rfl
  · dsimp only
    split_ifs <;> rfl

/-! ## Runs -/

theorem statsAfter_last (arrivals : List VideoArrival) (a : VideoArrival) :
    (statsAfter decode rendering decoder (arrivals ++ [a])).rtpLastSeq = some a.seq := by
  have hstats := congrArg Prod.fst (statsAfter_concat decode rendering decoder arrivals a)
  exact hstats.trans (trackSeq_last _ _)

theorem statsAfter_near (before : List VideoArrival) (hnear : a.Near b) :
    (statsAfter decode rendering decoder (before ++ [a] ++ [b])).packetsMissing
        = (statsAfter decode rendering decoder (before ++ [a])).packetsMissing
          + (b.index - a.index - 1)
      ∧ (b.index = a.index →
        (statsAfter decode rendering decoder (before ++ [a] ++ [b])).packetsReordered
          = (statsAfter decode rendering decoder (before ++ [a])).packetsReordered + 1) := by
  have hstats := statsAfter_concat decode rendering decoder
    (before ++ [a]) b
  simp only [bySeq, Prod.mk.injEq] at hstats
  obtain ⟨-, hmissing, hreordered, -⟩ := hstats
  rw [hmissing, hreordered]
  exact trackSeq_near hnear (statsAfter_last decode rendering decoder before a)

theorem packetsMissing_eq {start : Nat} (first : VideoArrival) (arrivals : List VideoArrival)
    (hstart : start ≤ first.index) (hchain : (first :: arrivals).IsChain VideoArrival.Near) :
    (statsAfter decode rendering decoder (first :: arrivals)).packetsMissing
        + (first.index - start)
      = overcounted first.index first.index (arrivals.map index)
        + (missed start ((first :: arrivals).map index)).ncard := by
  induction arrivals using List.reverseRecOn with
  | nil =>
    rw [map_nil, map_singleton, ncard_missed_singleton]
    have hnone := statsAfter_concat decode rendering decoder [] first
    simp only [bySeq, Prod.mk.injEq] at hnone
    rw [nil_append] at hnone
    rw [hnone.2.1]
    rfl
  | append_singleton arrivals b ih =>
    rw [← cons_append] at hchain
    have hold := ih (List.IsChain.left_of_append hchain)
    -- the packet before the last one
    obtain ⟨before, a, hsplit, hindex⟩ : ∃ before a, first :: arrivals = before ++ [a]
        ∧ a.index = (arrivals.map index).getLastD first.index := by
      refine ⟨(first :: arrivals).dropLast, (first :: arrivals).getLast (cons_ne_nil _ _),
        (dropLast_append_getLast _).symm, ?_⟩
      rw [← getLast_eq_getLastD]
      exact (getLast_map (f := index) (l := first :: arrivals)
        (cons_ne_nil _ _)).symm
    have hnear : a.Near b := by
      rw [hsplit, append_assoc] at hchain
      exact (isChain_append_cons_cons.mp hchain).2.1
    have hmissing := (statsAfter_near decode rendering decoder before hnear).1
    rw [← hsplit] at hmissing
    have hlast := getLastD_le_highest first.index (arrivals.map index)
    rw [← cons_append, hmissing, cons_append, map_cons, map_append,
      map_singleton, overcounted_concat, ncard_missed_concat hstart,
      ← hindex]
    rw [← hindex] at hlast
    rw [map_cons] at hold
    omega

end

/-! ## Accuracy -/

theorem overcounted_prefix {xs ys : List Nat} (h : xs <+: ys) (high last : Nat) :
    overcounted high last xs ≤ overcounted high last ys := by
  obtain ⟨zs, rfl⟩ := h
  induction zs using List.reverseRecOn with
  | nil => rw [append_nil]
  | append_singleton zs z ih =>
    rw [← append_assoc, overcounted_concat]
    exact ih.trans (Nat.le_add_right _ _)

section

variable {δ : Type} (decode : δ → Bytes → δ × Bool) (rendering : Bool) (decoder : δ)

theorem repeatsCounted_iff {arrivals : List VideoArrival} (hchain : arrivals.IsChain VideoArrival.Near) :
    RepeatsCounted decode rendering decoder arrivals
      ↔ arrivals.IsChain fun a b => b.index ≠ a.index := by
  rw [isChain_iff_forall_rel_of_append_cons_cons] at hchain ⊢
  constructor
  · intro hcounted a b before after hsplit heq
    have hprefix : before ++ [a, b] <+: arrivals := ⟨after, by simp [hsplit]⟩
    have hseq : b.seq = a.seq := by rw [seq, seq, heq]
    obtain ⟨-, -, hreordered⟩ := hcounted before a b hprefix hseq
    have hone := (statsAfter_near decode rendering decoder before (hchain hsplit)).2 heq
    rw [append_assoc] at hone
    exact absurd (hreordered.symm.trans hone) (by omega)
  · intro hdistinct before a b hprefix hseq
    obtain ⟨after, hsplit⟩ := hprefix
    have hsplit' : arrivals = before ++ a :: b :: after := by simp [← hsplit]
    exact absurd ((seq_eq_iff (hchain hsplit')).mp hseq) (hdistinct hsplit')

end

/-- **Exactly when the receive statistics are right.** -/
theorem receiveStats_accurate_iff {δ : Type} (decode : δ → Bytes → δ × Bool) (rendering : Bool)
    (decoder : δ) (start : Nat) (first : VideoArrival) (arrivals : List VideoArrival)
    (hstart : start ≤ first.index) (hchain : (first :: arrivals).IsChain VideoArrival.Near) :
    ((∀ before, before <+: first :: arrivals →
        (statsAfter decode rendering decoder before).packetsMissing
          ≤ (missed start (before.map index)).ncard)
      ∧ RepeatsCounted decode rendering decoder (first :: arrivals))
    ↔ overcounted first.index first.index (arrivals.map index)
        ≤ first.index - start
      ∧ (first :: arrivals).IsChain fun a b => b.index ≠ a.index := by
  rw [repeatsCounted_iff decode rendering decoder hchain]
  refine and_congr_left fun _ => ?_
  constructor
  · grind [packetsMissing_eq]
  · intro hfew before hbefore
    cases before with
    | nil => exact Nat.zero_le _
    | cons a before =>
      obtain ⟨rfl, hrest⟩ := cons_prefix_cons.mp hbefore
      have hpre := hchain.prefix hbefore
      have heq := packetsMissing_eq decode rendering decoder a before hstart hpre
      have hmono := overcounted_prefix (hrest.map index) a.index a.index
      omega

def bareArrival (index : Nat) : VideoArrival := ⟨index, [], 0, false⟩

/-- Packets with two losses, in order. -/
theorem inOrder_accurate :
    let arrivals := [0, 1, 4, 5].map bareArrival
    (∀ before, before <+: arrivals →
        (statsAfter (fun _ _ => ((), true)) true () before).packetsMissing
          ≤ (missed 0 (before.map index)).ncard)
      ∧ RepeatsCounted (fun _ _ => ((), true)) true () arrivals := by
  refine (receiveStats_accurate_iff _ true () 0 (bareArrival 0) ([1, 4, 5].map bareArrival)
    (Nat.le_refl 0) ?_).mpr ⟨by decide, ?_⟩
  · simp [bareArrival, VideoArrival.Near]
  · simp [bareArrival]

/-- Of the packets 0, 1, 4, 2 and 5, only 2 and 3 had not arrived before a higher one, but four are
counted as missing. -/
theorem latePacket_miscounted :
    let stats := fun indices => statsAfter (fun _ _ => ((), true)) true () (indices.map bareArrival)
    (stats [0, 1, 4, 2, 5]).packetsMissing = 4
      ∧ (missed 0 [0, 1, 4, 2, 5]).ncard = 2
      ∧ (stats [0, 1, 1]).packetsReordered = 1 ∧ (stats [0, 1, 1]).packetsDuplicate = 0 := by
  refine ⟨by decide +kernel, ?_, by decide +kernel, by decide +kernel⟩
  have hconcat := ncard_missed_concat (Nat.le_refl 0)
  have h₁ := hconcat [] 1
  have h₂ := hconcat [1] 4
  have h₃ := hconcat [1, 4] 2
  have h₄ := hconcat [1, 4, 2] 5
  have h₀ := ncard_missed_singleton 0 0
  simp only [nil_append, cons_append] at h₁ h₂ h₃ h₄
  rw [h₄, h₃, h₂, h₁, h₀]
  decide

end Mrtc
