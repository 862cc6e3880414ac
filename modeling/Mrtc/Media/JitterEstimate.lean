import Mrtc.Lib.Samples
import Mrtc.Lib.Trace
import Mrtc.Media.JitterOrder

/-! # The delay estimate (`jitter_buffer.c`, `jitter_buffer_push`)

Every packet that is accepted adds a sample to a moving average: how far the time since the last one
is from the difference of their timestamps.
-/

namespace Mrtc

open Net Samples

structure JbArrival where
  now : UInt64
  timestamp : UInt32
  deriving DecidableEq

open JbArrival

def JbArrival.timestampDiff (a b : JbArrival) : Int := (b.timestamp - a.timestamp).toBitVec.toInt

def JbArrival.jitter (a b : JbArrival) : Int :=
  |(b.now.toNat : Int) - a.now.toNat - (a.timestampDiff b).tdiv 90|

/-- The clock went on by less than 2^27 milliseconds, which keeps the sums of the source in the
range of `int`, and the timestamp did not go back. -/
def JbArrival.Forward (a b : JbArrival) : Prop :=
  a.now ≤ b.now ∧ b.now.toNat < a.now.toNat + 2 ^ 27 ∧ 0 ≤ a.timestampDiff b

def jbAccepts (jb : JitterBuffer) : JbOp → List JbArrival
  | .push index _ timestamp _ now _ =>
    match jbAdmit jb (seqOf index) timestamp now with
    | none => []
    | some jb =>
      if rtcU32MapGet jb.bySeq (jbKey (seqOf index)) = some none then [⟨now, timestamp⟩] else []
  | .pop _ _ => []

def jbCall (jb : JitterBuffer) : JbOp → Option JitterBuffer
  | .push index data timestamp marker now alloc =>
    jitterBufferPush jb index data (seqOf index) timestamp marker now alloc
  | .pop now alloc => (jitterBufferPop jb now alloc).map Prod.snd

structure JitterRun where
  jb : JitterBuffer
  accepted : List JbArrival := []
  deriving DecidableEq

def JitterRun.step (r : JitterRun) (op : JbOp) : Option JitterRun :=
  (jbCall r.jb op).map fun jb => ⟨jb, r.accepted ++ jbAccepts r.jb op⟩

def JitterRun.observed (r : JitterRun) : Int :=
  largest (between jitter r.accepted)

/-! ## What a call does -/

def JitterBuffer.last (jb : JitterBuffer) : JbArrival := ⟨jb.lastArrivalMs, jb.lastTimestamp⟩

structure JitterBuffer.Admits (jb : JitterBuffer) (a : JbArrival) (jb₁ : JitterBuffer) : Prop where
  started : jb₁.started = true
  minDelay : jb₁.minDelayMs = jb.minDelayMs
  maxDelay : jb₁.maxDelayMs = jb.maxDelayMs
  est : jb₁.estJitterMs = jb.estJitterMs
  last : jb.started = false ∧ jb₁.last = a ∨ jb.started = true ∧ jb₁.last = jb.last

inductive JbEffect (jb : JitterBuffer) : JitterBuffer → List JbArrival → Prop where
  | quiet (m : U32Map JbSlot) (next : UInt16) :
      JbEffect jb { jb with bySeq := m, nextSeq := next } []
  | accepted {jb₁ : JitterBuffer} {a : JbArrival} (hadmits : jb.Admits a jb₁) (m : U32Map JbSlot) :
      JbEffect jb { jbEstimate jb₁ a.timestamp a.now with bySeq := m } [a]

section

variable {jb : JitterBuffer}

theorem jbAdmit_cases (jb : JitterBuffer) (seq : UInt16) (timestamp : UInt32) (now : UInt64) :
    jbAdmit jb seq timestamp now = none
      ∨ ∃ jb₁, jbAdmit jb seq timestamp now = some jb₁ ∧ jb.Admits ⟨now, timestamp⟩ jb₁
        ∧ jb₁.bySeq = jb.bySeq
        ∧ (jb.started = true → ∃ next, jb₁ = { jb with nextSeq := next }) := by
  unfold jbAdmit
  by_cases hstarted : jb.started = true
  · have hadmits : ∀ next : UInt16, jb.Admits ⟨now, timestamp⟩ { jb with nextSeq := next } :=
      fun next => ⟨hstarted, rfl, rfl, rfl, .inr ⟨hstarted, rfl⟩⟩
    rw [if_neg (by simp [hstarted])]
    dsimp only
    split_ifs
    · exact .inr ⟨_, rfl, hadmits seq, rfl, fun _ => ⟨seq, rfl⟩⟩
    · exact .inl rfl
    · exact .inr ⟨jb, rfl, hadmits jb.nextSeq, rfl, fun _ => ⟨jb.nextSeq, rfl⟩⟩
  · have hnot := Bool.eq_false_iff.mpr hstarted
    rw [if_pos (by simp [hnot])]
    exact .inr ⟨_, rfl, ⟨rfl, rfl, rfl, rfl, .inl ⟨hnot, rfl⟩⟩, rfl, fun h => absurd h hstarted⟩

def JitterBuffer.Kept (jb : JitterBuffer) : Prop := Slots jb.bySeq fun _ => jb.started = true

section Push

variable (index : Int) (data : Bytes) (timestamp : UInt32) (marker : Bool) (now : UInt64)
  (alloc : JbAlloc)

theorem jbCall_admitted {jb₁ : JitterBuffer}
    (hadm : jbAdmit jb (seqOf index) timestamp now = some jb₁) (hstarted : jb₁.started = true)
    {P : Int → Prop} (h : Slots jb₁.bySeq P) :
    ∃ jb', jbCall jb (.push index data timestamp marker now alloc) = some jb' ∧ jb'.Kept
      ∧ ((∃ i, P i) ∧ jb' = jb₁
          ∧ jbAccepts jb (.push index data timestamp marker now alloc) = []
        ∨ (∃ m, jb' = { jbEstimate jb₁ timestamp now with bySeq := m })
          ∧ jbAccepts jb (.push index data timestamp marker now alloc) = [⟨now, timestamp⟩]) := by
  dsimp only [jbCall, jbAccepts, jitterBufferPush]
  rw [hadm]
  obtain ⟨jb', hinsert, ⟨⟨old, hold⟩, rfl⟩ | ⟨hnone, m, rfl⟩, hslots⟩ := jbInsert_slots h
    ⟨index, data.take 2048, seqOf index, timestamp, marker, now⟩ rfl now alloc
  · refine ⟨_, hinsert, hslots.mono fun _ _ => hstarted,
      .inl ⟨⟨old.index, (h.index_of_get hold).2⟩, rfl, ?_⟩⟩
    dsimp only at hold ⊢
    rw [if_neg (by rw [hold]; simp)]
  · refine ⟨_, hinsert, hslots.mono fun _ _ => hstarted, .inr ⟨⟨m, rfl⟩, ?_⟩⟩
    dsimp only at hnone ⊢
    rw [if_pos hnone]

theorem JitterBuffer.Kept.push (h : jb.Kept) :
    ∃ jb', jbCall jb (.push index data timestamp marker now alloc) = some jb' ∧ jb'.Kept
      ∧ JbEffect jb jb' (jbAccepts jb (.push index data timestamp marker now alloc)) := by
  rcases jbAdmit_cases jb (seqOf index) timestamp now with
    hadm | ⟨jb₁, hadm, hadmits, hslots, hlater⟩
  · -- too old
    refine ⟨jb, ?_, h, ?_⟩
    · rw [jbCall, jitterBufferPush, hadm]
    · rw [jbAccepts, hadm]
      exact .quiet jb.bySeq jb.nextSeq
  · have hkept : Slots jb₁.bySeq fun _ => jb.started = true := by
      rw [hslots]
      exact h
    obtain ⟨jb', hcall, hkept', ⟨⟨_, hstarted⟩, rfl, haccepts⟩ | ⟨⟨m, rfl⟩, haccepts⟩⟩ :=
      jbCall_admitted index data timestamp marker now alloc hadm hadmits.started hkept
    · -- a duplicate
      obtain ⟨next, rfl⟩ := hlater hstarted
      refine ⟨_, hcall, hkept', ?_⟩
      rw [haccepts]
      exact .quiet jb.bySeq next
    · refine ⟨_, hcall, hkept', ?_⟩
      rw [haccepts]
      exact .accepted hadmits m

end Push

theorem JitterBuffer.Kept.pop (h : jb.Kept) (now : UInt64) (alloc : Bool) :
    ∃ jb', jbCall jb (.pop now alloc) = some jb' ∧ jb'.Kept ∧ JbEffect jb jb' [] := by
  obtain ⟨res, hpop, heffect⟩ := jitterBufferPop_effect now alloc h
  refine ⟨res.2, by rw [jbCall, hpop, Option.map_some], ?_⟩
  cases heffect with
  | nothing => exact ⟨h, .quiet jb.bySeq jb.nextSeq⟩
  | @skipped slot _ => exact ⟨h, .quiet jb.bySeq slot.seq⟩
  | @popped _ next _ m _ _ hremove =>
    obtain ⟨_, _, hremove', hslots⟩ := Slots.remove h next alloc
    cases hremove.symm.trans hremove'
    exact ⟨hslots.mono fun _ hi => hi.1, .quiet m (next + 1)⟩

theorem JitterBuffer.Kept.call (h : jb.Kept) (op : JbOp) :
    ∃ jb', jbCall jb op = some jb' ∧ jb'.Kept ∧ JbEffect jb jb' (jbAccepts jb op) := by
  cases op with
  | push index data timestamp marker now alloc =>
    exact h.push index data timestamp marker now alloc
  | pop now alloc => exact h.pop now alloc

/-! ## The estimate -/

theorem JbArrival.forward_refl (a : JbArrival) : a.Forward a := by
  refine ⟨UInt64.le_refl _, by omega, ?_⟩
  simp [timestampDiff]

theorem JbArrival.jitter_self (a : JbArrival) : a.jitter a = 0 := by
  simp [jitter, timestampDiff]

theorem JbArrival.Forward.sample {a b : JbArrival} (h : a.Forward b) :
    |toInt32 (b.now - a.now) - (((b.timestamp - a.timestamp) / 90).toNat : Int)| = a.jitter b := by
  obtain ⟨hle, hlt, hforward⟩ := h
  have harrival : toInt32 (b.now - a.now) = (b.now.toNat : Int) - a.now.toNat := by
    have hsub : (b.now - a.now).toNat = b.now.toNat - a.now.toNat := UInt64.toNat_sub_of_le _ _ hle
    have hle' : a.now.toNat ≤ b.now.toNat := UInt64.le_iff_toNat_le.mp hle
    have hwidth : ((b.now - a.now).toBitVec.setWidth 32).toNat = b.now.toNat - a.now.toNat := by
      rw [BitVec.toNat_setWidth, UInt64.toNat_toBitVec, hsub, Nat.mod_eq_of_lt (by omega)]
    rw [toInt32, BitVec.toInt_eq_toNat_of_lt (by omega), hwidth]
    omega
  have htimestamp : (((b.timestamp - a.timestamp) / 90).toNat : Int)
      = (a.timestampDiff b).tdiv 90 := by
    have hdiff : a.timestampDiff b = ((b.timestamp - a.timestamp).toNat : Int) := by
      rw [timestampDiff, BitVec.toInt_eq_toNat_cond] at hforward ⊢
      rw [UInt32.toNat_toBitVec] at hforward ⊢
      have hlt := (b.timestamp - a.timestamp).toNat_lt
      split_ifs at hforward ⊢ with hsmall
      · rfl
      · omega
    rw [hdiff, UInt32.toNat_div, Int.tdiv_eq_ediv_of_nonneg (by omega)]
    rfl
  rw [harrival, htimestamp, jitter]

theorem jbEstimate_est {a : JbArrival} (h : jb.last.Forward a) :
    (jbEstimate jb a.timestamp a.now).estJitterMs = jb.estJitterMs
      ∨ (jbEstimate jb a.timestamp a.now).estJitterMs
        = average 15 jb.estJitterMs (jb.last.jitter a) := by
  dsimp only [jbEstimate]
  split_ifs
  · refine .inr ?_
    rw [← h.sample]
    rfl
  · exact .inl rfl

theorem jbEstimate_nonneg (h : 0 ≤ jb.estJitterMs) (timestamp : UInt32) (now : UInt64) :
    0 ≤ (jbEstimate jb timestamp now).estJitterMs := by
  dsimp only [jbEstimate]
  split_ifs
  · exact average_nonneg h (abs_nonneg _)
  · exact h

theorem jbEstimate_target (hmin : 0 < jb.minDelayMs) (hmax : jb.minDelayMs ≤ jb.maxDelayMs)
    (timestamp : UInt32) (now : UInt64) :
    jb.minDelayMs ≤ (jbEstimate jb timestamp now).targetDelayMs
      ∧ (jbEstimate jb timestamp now).targetDelayMs ≤ jb.maxDelayMs := by
  dsimp only [jbEstimate]
  rw [if_pos hmin]
  exact ⟨le_min (le_max_right _ _) hmax, min_le_right _ _⟩

end

/-! ## Runs -/

structure JitterRun.Sound (jb₀ : JitterBuffer) (r : JitterRun) : Prop where
  kept : r.jb.Kept
  minDelay : r.jb.minDelayMs = jb₀.minDelayMs
  maxDelay : r.jb.maxDelayMs = jb₀.maxDelayMs
  target : 0 < jb₀.minDelayMs → jb₀.minDelayMs ≤ jb₀.maxDelayMs →
    jb₀.minDelayMs ≤ r.jb.targetDelayMs ∧ r.jb.targetDelayMs ≤ jb₀.maxDelayMs
  nonneg : 0 ≤ r.jb.estJitterMs
  unstarted : r.jb.started = false → r.accepted = [] ∧ r.jb.estJitterMs = 0
  started : r.jb.started = true → ∃ before, r.accepted = before ++ [r.jb.last]
  bounded : r.accepted.IsChain JbArrival.Forward → r.jb.estJitterMs ≤ r.observed

theorem JitterRun.sound_create (cfg : Option (Int × Int)) :
    JitterRun.Sound (jitterBufferCreate cfg) ⟨jitterBufferCreate cfg, []⟩ where
  kept := slots_empty _
  minDelay := rfl
  maxDelay := rfl
  target hmin hmax := by
    dsimp only [jitterBufferCreate] at hmin hmax ⊢
    rw [if_neg (by omega)]
    exact ⟨le_rfl, hmax⟩
  nonneg := le_rfl
  unstarted _ := ⟨rfl, rfl⟩
  started h := by cases h
  bounded _ := le_rfl

theorem JitterRun.Sound.estimate {jb₀ jb₁ : JitterBuffer} {r : JitterRun} (h : r.Sound jb₀)
    {a : JbArrival} (hadmits : r.jb.Admits a jb₁)
    (hchain : (r.accepted ++ [a]).IsChain JbArrival.Forward) :
    (jbEstimate jb₁ a.timestamp a.now).estJitterMs
      ≤ largest (between jitter (r.accepted ++ [a])) := by
  obtain ⟨hstarted, hfirst⟩ | ⟨hstarted, hlast⟩ := hadmits.last
  · -- the first one is compared with itself
    obtain ⟨hnone, hzero⟩ := h.unstarted hstarted
    rw [hnone]
    change _ ≤ 0
    have hforward : jb₁.last.Forward a := by
      rw [hfirst]
      exact a.forward_refl
    rcases jbEstimate_est hforward with hsame | haverage
    · rw [hsame, hadmits.est, hzero]
    · rw [haverage, hadmits.est, hzero, hfirst, a.jitter_self]
      rfl
  · obtain ⟨before, haccepted⟩ := h.started hstarted
    have hold : r.jb.estJitterMs ≤ r.observed := h.bounded hchain.left_of_append
    have hforward : jb₁.last.Forward a := by
      grind [List.append_assoc, List.isChain_append_cons_cons]
    have hsamples : between jitter (r.accepted ++ [a])
        = between jitter r.accepted ++ [r.jb.last.jitter a] := by
      rw [haccepted, between_concat]
    rw [hsamples]
    rcases jbEstimate_est hforward with hsame | haverage
    · rw [hsame, hadmits.est, largest_concat]
      exact hold.trans (le_max_left _ _)
    · rw [haverage, hadmits.est, hlast]
      exact average_le_largest h.nonneg (abs_nonneg _) hold

theorem JitterRun.Sound.step {jb₀ : JitterBuffer} {r : JitterRun} (h : r.Sound jb₀) (op : JbOp) :
    ∃ r', r.step op = some r' ∧ r'.Sound jb₀ := by
  obtain ⟨jb', hcall, hkept, heffect⟩ := h.kept.call op
  refine ⟨⟨jb', r.accepted ++ jbAccepts r.jb op⟩, by rw [JitterRun.step, hcall, Option.map_some], ?_⟩
  generalize jbAccepts r.jb op = accepted at heffect
  cases heffect with
  | quiet m next =>
    rw [List.append_nil]
    exact ⟨hkept, h.minDelay, h.maxDelay, h.target, h.nonneg, h.unstarted, h.started, h.bounded⟩
  | @accepted jb₁ a hadmits m =>
    have hmin := hadmits.minDelay.trans h.minDelay
    have hmax := hadmits.maxDelay.trans h.maxDelay
    refine ⟨hkept, hmin, hmax, fun hpos hle => ?_, jbEstimate_nonneg (hadmits.est ▸ h.nonneg) _ _,
      fun hfalse => ?_, fun _ => ⟨r.accepted, rfl⟩, h.estimate hadmits⟩
    · rw [← hmin, ← hmax] at hle ⊢
      exact jbEstimate_target (hmin ▸ hpos) hle a.timestamp a.now
    · cases hadmits.started.symm.trans hfalse

/-- **The jitter estimate.** -/
theorem jitterEstimate_bounded (cfg : Option (Int × Int)) (ops : List JbOp) :
    ∃ r, Trace.run JitterRun.step ⟨jitterBufferCreate cfg, []⟩ ops = some r
      ∧ (0 < (jitterBufferCreate cfg).minDelayMs →
        (jitterBufferCreate cfg).minDelayMs ≤ (jitterBufferCreate cfg).maxDelayMs →
        (jitterBufferCreate cfg).minDelayMs ≤ r.jb.targetDelayMs
          ∧ r.jb.targetDelayMs ≤ (jitterBufferCreate cfg).maxDelayMs)
      ∧ (r.accepted.IsChain JbArrival.Forward → r.jb.estJitterMs ≤ r.observed) := by
  obtain ⟨r, hrun, hsound, -⟩ := Trace.everyPoint_iff_last JitterRun.step
    (JitterRun.Sound (jitterBufferCreate cfg)) (fun _ => True)
    (fun r op hsound => by
      obtain ⟨r', hstep, hsound'⟩ := hsound.step op
      exact ⟨r', hstep, hsound', fun _ => trivial⟩)
    (JitterRun.sound_create cfg) ops
  exact ⟨r, hrun, hsound.target, hsound.bounded⟩

def pushTimed (index : Int) (timestamp : UInt32) (now : UInt64) : JbOp :=
  .push index [] timestamp false now {}

/-- Two packets in order, 33 ms apart by their timestamps. -/
theorem inOrder_estimate_bounded :
    ∃ r, Trace.run JitterRun.step ⟨jitterBufferCreate none, []⟩
        [pushTimed 7 3000 1000, pushTimed 8 6000 1040] = some r
      ∧ r.accepted = [⟨1000, 3000⟩, ⟨1040, 6000⟩] ∧ r.jb.estJitterMs ≤ r.observed := by
  obtain ⟨r, hrun, -, hbounded⟩ := jitterEstimate_bounded none
    [pushTimed 7 3000 1000, pushTimed 8 6000 1040]
  have haccepted : (Trace.run JitterRun.step ⟨jitterBufferCreate none, []⟩
      [pushTimed 7 3000 1000, pushTimed 8 6000 1040]).map JitterRun.accepted
        = some [⟨1000, 3000⟩, ⟨1040, 6000⟩] := by decide +kernel
  rw [hrun, Option.map_some, Option.some.injEq] at haccepted
  refine ⟨r, hrun, haccepted, hbounded ?_⟩
  rw [haccepted, List.isChain_pair]
  exact ⟨by decide, by decide, by decide⟩

/-- The same packets in the wrong order: the jitter between them is 73 ms, and the estimate is 49
minutes. -/
theorem latePacket_overestimated :
    (Trace.run JitterRun.step ⟨jitterBufferCreate none, []⟩
        [pushTimed 8 6000 1000, pushTimed 7 3000 1040]).map
      (fun r => (r.jb.estJitterMs, r.observed)) = some (2982611, 73) := by
  decide +kernel

end Mrtc
