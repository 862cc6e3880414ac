import Mrtc.Lib.Progress
import Mrtc.Rate.Aimd

/-! # Recovery from loss (`rtc_rate_control.c`, `rtc_bwe.c`)

Reports of little loss raise the bitrate of a sender by a twentieth, and so they do with the
estimate of `rtc_bwe`.
-/

namespace Mrtc

open List

/-! ## The loss estimate -/

structure BweConfig where
  initialBps : Nat
  minBps : Nat
  maxBps : Nat
  deriving DecidableEq

structure Bwe where
  cfg : BweConfig
  delayEstimateBps : Nat
  lossEstimateBps : Nat
  currentTargetBps : Nat
  deriving DecidableEq

def rtcBweCreate (cfg : BweConfig) : Option Bwe :=
  if cfg.minBps = 0 ∨ cfg.maxBps < cfg.minBps then none
  else
    some
      { cfg := cfg
        delayEstimateBps := cfg.initialBps
        lossEstimateBps := cfg.maxBps
        currentTargetBps := cfg.initialBps }

def clampBps (b : Bwe) (v : Nat) : Nat :=
  let v := if v < b.cfg.minBps then b.cfg.minBps else v
  if b.cfg.maxBps < v then b.cfg.maxBps else v

def finalizeTarget (b : Bwe) : Bwe :=
  let t :=
    if b.lossEstimateBps < b.delayEstimateBps then b.lossEstimateBps else b.delayEstimateBps
  { b with currentTargetBps := clampBps b t }

def rtcBweOnLoss (b : Bwe) (fractionLostQ8 : UInt8) : Bwe :=
  let q := fractionLostQ8.toNat
  let prev := b.lossEstimateBps
  finalizeTarget
    (if q * 100 < 2 * 256 then
      { b with lossEstimateBps := clampBps b (prev * 105 / 100 % 2 ^ 32) }
    else if 10 * 256 < q * 100 then
      { b with lossEstimateBps := clampBps b (prev * (512 - q) / 512 % 2 ^ 32) }
    else b)

inductive BweReport where
  | loss (fractionLostQ8 : UInt8)
  | feedback (delayEstimateBps : Nat)
  deriving DecidableEq

def Bwe.report (b : Bwe) : BweReport → Bwe
  | .loss q => rtcBweOnLoss b q
  | .feedback delay => finalizeTarget { b with delayEstimateBps := delay }

def Bwe.run (b : Bwe) (reports : List BweReport) : Bwe := reports.foldl Bwe.report b

def CalmLoss (fractionLostQ8 : UInt8) : Prop := fractionLostQ8.toNat * 100 < 2 * 256

def RrReport.Calm (r : RrReport) : Prop := r.fractionLost * 100 < 2 * 256 ∧ r.rttMs ≤ 300

/-! ## Senders -/

/-- Some number of calm reports leads back to the maximum. -/
def RateControlConfig.Recovers (cfg : RateControlConfig) : Prop :=
  ∃ n : Nat, ∀ reports calm : List RrReport, calm.length = n → (∀ r ∈ calm, r.Calm) →
    (((rtcRateControlCreate cfg).run reports).run calm).currentBitrateKbps = cfg.maxBitrateKbps

section Sender

variable {min max : Int} {rc : RateController}

structure RateController.Within (min max : Int) (rc : RateController) : Prop where
  limited : rc.Limited min max
  low : min ≤ rc.currentBitrateKbps
  high : rc.currentBitrateKbps ≤ max

theorem RateController.Within.report (hmin : 0 < min) (hle : min ≤ max) (hmax : max ≤ 2 ^ 30)
    (h : rc.Within min max) (r : RrReport) : (rc.report r).Within min max := by
  obtain ⟨hlimited, hlow, hhigh⟩ := h.limited.report hmin hle hmax r
  exact ⟨hlimited, hlow, hhigh⟩

theorem RateController.Within.run (hmin : 0 < min) (hle : min ≤ max) (hmax : max ≤ 2 ^ 30)
    (h : rc.Within min max) (reports : List RrReport) : (rc.run reports).Within min max := by
  obtain ⟨hlimited, hlow, hhigh⟩ := h.limited.run hmin hle hmax h.low h.high reports
  exact ⟨hlimited, hlow, hhigh⟩

theorem rtcRateControlCreate_within {cfg : RateControlConfig} (hmin : 0 < cfg.minBitrateKbps)
    (hle : cfg.minBitrateKbps ≤ cfg.maxBitrateKbps) (hmax : cfg.maxBitrateKbps ≤ 2 ^ 30) :
    (rtcRateControlCreate cfg).Within cfg.minBitrateKbps cfg.maxBitrateKbps := by
  obtain ⟨hlimited, hcurrent⟩ := rtcRateControlCreate_limited hmin hle hmax
  obtain ⟨hlow, hhigh⟩ := clampKbps_mem hle cfg.targetBitrateKbps
  exact ⟨hlimited, hcurrent ▸ hlow, hcurrent ▸ hhigh⟩

theorem RateController.Within.calm (h : rc.Within min max) {r : RrReport} (hr : r.Calm) :
    (rc.report r).currentBitrateKbps
      = clampKbps min max (rc.currentBitrateKbps + rc.currentBitrateKbps / 20) := by
  have hpct : lossPct r.fractionLost < 2 := by
    rw [lossPct_eq]
    have hcalm := hr.1
    omega
  dsimp only [RateController.report, rtcRateControlOnRtcpRr]
  rw [h.limited.min_eq, h.limited.max_eq, adaptToLoss_eq h.limited.nonneg h.limited.small,
    if_pos hpct, adaptToRtt, if_neg (by have hcalm := hr.2; omega)]

def allLost : RrReport := ⟨255, 0, by decide, by decide⟩

theorem RateController.Within.lost (h : rc.Within min max) :
    (rc.report allLost).currentBitrateKbps
      = clampKbps min max (rc.currentBitrateKbps - rc.currentBitrateKbps / 5) := by
  have hpct : lossPct allLost.fractionLost = 99 := by decide
  dsimp only [RateController.report, rtcRateControlOnRtcpRr]
  rw [h.limited.min_eq, h.limited.max_eq, hpct, adaptToLoss_eq h.limited.nonneg h.limited.small,
    if_neg (by decide), if_pos (by decide), adaptToRtt, if_neg (by decide)]

section

variable (hmin : 0 < min)
include hmin

theorem RateController.Within.climbs (hle : min ≤ max) (hmax : max ≤ 2 ^ 30) (htwenty : 20 ≤ min)
    (h : rc.Within min max) {calm : List RrReport} (hcalm : ∀ r ∈ calm, r.Calm)
    (hlength : (max - min).toNat ≤ calm.length) : (rc.run calm).currentBitrateKbps = max := by
  -- what is missing to the upper limit
  have hzero := Progress.foldl_measure_eq_zero
    (fun rc : RateController => (max - rc.currentBitrateKbps).toNat)
    (fun rc r (hrc : rc.Within min max) (_ : r.Calm) => hrc.report hmin hle hmax r)
    (fun rc r hrc hr => by
      have hlow := hrc.low
      have hhigh := hrc.high
      rw [hrc.calm hr]
      unfold clampKbps
      dsimp only
      split_ifs <;> omega)
    hcalm h (by have hlow := h.low; omega)
  have hhigh := (h.run hmin hle hmax calm).high
  change (max - (rc.run calm).currentBitrateKbps).toNat = 0 at hzero
  omega

theorem RateController.Within.stuck (hle : min ≤ max) (hmax : max ≤ 2 ^ 30) (h : rc.Within min max)
    (htwenty : rc.currentBitrateKbps < 20) {calm : List RrReport} (hcalm : ∀ r ∈ calm, r.Calm) :
    (rc.run calm).currentBitrateKbps = rc.currentBitrateKbps := by
  induction calm generalizing rc with
  | nil => rfl
  | cons r calm ih =>
    have hlow := h.low
    have hhigh := h.high
    have hsame : (rc.report r).currentBitrateKbps = rc.currentBitrateKbps := by
      rw [h.calm (hcalm r mem_cons_self), clampKbps_eq (by omega) (by omega)]
      omega
    exact (ih (h.report hmin hle hmax r) (hsame ▸ htwenty)
      fun r' hr' => hcalm r' (mem_cons_of_mem r hr')).trans hsame

theorem RateController.Within.falls (hle : min ≤ max) (hmax : max ≤ 2 ^ 30)
    (h : rc.Within min max) :
    ∃ reports, (rc.run reports).currentBitrateKbps ≤ 4
      ∨ (rc.run reports).currentBitrateKbps = min := by
  refine ⟨replicate rc.currentBitrateKbps.toNat allLost, ?_⟩
  have hzero := Progress.foldl_measure_eq_zero (P := fun r => r = allLost)
    (fun rc : RateController =>
      if rc.currentBitrateKbps ≤ 4 then 0 else (rc.currentBitrateKbps - min).toNat)
    (fun rc r (hrc : rc.Within min max) _ => hrc.report hmin hle hmax r)
    (fun rc r hrc hr => by
      have hlow := hrc.low
      have hhigh := hrc.high
      subst hr
      rw [hrc.lost]
      unfold clampKbps
      dsimp only
      split_ifs <;> omega)
    (fun r (hr : r ∈ replicate rc.currentBitrateKbps.toNat allLost) =>
      eq_of_mem_replicate hr) h
    (by
      rw [length_replicate]
      split_ifs <;> omega)
  have hlow := (h.run hmin hle hmax (replicate rc.currentBitrateKbps.toNat allLost)).low
  change (if (rc.run (replicate _ allLost)).currentBitrateKbps ≤ 4 then 0
    else ((rc.run (replicate _ allLost)).currentBitrateKbps - min).toNat) = 0 at hzero
  split_ifs at hzero with hfour
  · exact .inl hfour
  · exact .inr (by omega)

theorem RateController.Within.top_stays (hle : min ≤ max) (hmax : max ≤ 2 ^ 30) (hfour : max ≤ 4)
    (h : rc.Within min max) (htop : rc.currentBitrateKbps = max) (reports : List RrReport) :
    (rc.run reports).currentBitrateKbps = max := by
  induction reports generalizing rc with
  | nil => exact htop
  | cons r reports ih =>
    refine ih (h.report hmin hle hmax r) ?_
    have hloss : adaptToLoss (lossPct r.fractionLost) rc.currentBitrateKbps = max := by
      rw [adaptToLoss_eq h.limited.nonneg h.limited.small, htop]
      split_ifs <;> omega
    dsimp only [RateController.report, rtcRateControlOnRtcpRr]
    rw [h.limited.min_eq, h.limited.max_eq, hloss, adaptToRtt_eq (by omega),
      clampKbps_eq (by split_ifs <;> omega) (by split_ifs <;> omega)]
    split_ifs <;> omega

end

end Sender

theorem RateControlConfig.recovers_iff {cfg : RateControlConfig} (hmin : 0 < cfg.minBitrateKbps)
    (hle : cfg.minBitrateKbps ≤ cfg.maxBitrateKbps) (hmax : cfg.maxBitrateKbps ≤ 2 ^ 30) :
    cfg.Recovers ↔ 20 ≤ cfg.minBitrateKbps ∨ cfg.minBitrateKbps = cfg.maxBitrateKbps
      ∨ cfg.maxBitrateKbps ≤ 4 ∧ cfg.maxBitrateKbps ≤ cfg.targetBitrateKbps := by
  have hcreate := rtcRateControlCreate_within hmin hle hmax
  obtain ⟨-, hcurrent⟩ := rtcRateControlCreate_limited hmin hle hmax
  constructor
  · rintro ⟨n, hn⟩
    by_contra hno
    simp only [not_or, not_and_or, not_le] at hno
    obtain ⟨htwenty, hne, htop⟩ := hno
    -- a bitrate below 20 and below the upper limit can be reached
    obtain ⟨reports, hlow, hbelow⟩ : ∃ reports,
        ((rtcRateControlCreate cfg).run reports).currentBitrateKbps < 20
        ∧ ((rtcRateControlCreate cfg).run reports).currentBitrateKbps < cfg.maxBitrateKbps := by
      rcases htop with htop | htop
      · obtain ⟨reports, hreports⟩ := hcreate.falls hmin hle hmax
        exact ⟨reports, by omega, by omega⟩
      · by_cases hfour : cfg.maxBitrateKbps ≤ 4
        · refine ⟨[], ?_⟩
          change (rtcRateControlCreate cfg).currentBitrateKbps < 20
            ∧ (rtcRateControlCreate cfg).currentBitrateKbps < cfg.maxBitrateKbps
          rw [hcurrent, clampKbps]
          split_ifs <;> omega
        · obtain ⟨reports, hreports⟩ := hcreate.falls hmin hle hmax
          exact ⟨reports, by omega, by omega⟩
    let calm : RrReport := ⟨0, 0, by decide, by decide⟩
    have hcalm : ∀ r ∈ replicate n calm, r.Calm := by
      intro r hr
      rw [eq_of_mem_replicate hr]
      exact ⟨by decide, by decide⟩
    have hreached := hn reports (replicate n calm) length_replicate hcalm
    rw [(hcreate.run hmin hle hmax reports).stuck hmin hle hmax hlow hcalm] at hreached
    omega
  · rintro (htwenty | heq | ⟨hfour, htarget⟩)
    · refine ⟨(cfg.maxBitrateKbps - cfg.minBitrateKbps).toNat, fun reports calm hlength hcalm => ?_⟩
      exact (hcreate.run hmin hle hmax reports).climbs hmin hle hmax htwenty hcalm hlength.ge
    · refine ⟨0, fun reports calm _ _ => ?_⟩
      have hwithin := (hcreate.run hmin hle hmax reports).run hmin hle hmax calm
      exact le_antisymm hwithin.high (heq ▸ hwithin.low)
    · refine ⟨0, fun reports calm hlength _ => ?_⟩
      obtain rfl := length_eq_zero_iff.mp hlength
      refine hcreate.top_stays hmin hle hmax hfour ?_ reports
      rw [hcurrent, clampKbps]
      split_ifs <;> omega

/-! ## The estimate of the loss -/

/-- Some number of calm reports leads back to the maximum. -/
def BweConfig.Recovers (cfg : BweConfig) : Prop :=
  ∃ n : Nat, ∀ b, rtcBweCreate cfg = some b → ∀ (reports : List BweReport) (calm : List UInt8),
    calm.length = n → (∀ q ∈ calm, CalmLoss q) →
      ((b.run reports).run (calm.map .loss)).lossEstimateBps = cfg.maxBps

section Estimate

variable {cfg : BweConfig} {b : Bwe}

structure Bwe.Within (cfg : BweConfig) (b : Bwe) : Prop where
  cfg_eq : b.cfg = cfg
  low : cfg.minBps ≤ b.lossEstimateBps
  high : b.lossEstimateBps ≤ cfg.maxBps

theorem clampBps_mem (hle : b.cfg.minBps ≤ b.cfg.maxBps) (v : Nat) :
    b.cfg.minBps ≤ clampBps b v ∧ clampBps b v ≤ b.cfg.maxBps := by
  unfold clampBps
  dsimp only
  split_ifs <;> omega

theorem Bwe.Within.report (hle : cfg.minBps ≤ cfg.maxBps) (h : b.Within cfg) (r : BweReport) :
    (b.report r).Within cfg := by
  obtain ⟨rfl, hlow, hhigh⟩ := h
  cases r with
  | feedback delay => exact ⟨rfl, hlow, hhigh⟩
  | loss q =>
    dsimp only [Bwe.report, rtcBweOnLoss]
    split_ifs
    · exact ⟨rfl, (clampBps_mem hle _).1, (clampBps_mem hle _).2⟩
    · exact ⟨rfl, (clampBps_mem hle _).1, (clampBps_mem hle _).2⟩
    · exact ⟨rfl, hlow, hhigh⟩

theorem Bwe.Within.run (hle : cfg.minBps ≤ cfg.maxBps) (h : b.Within cfg)
    (reports : List BweReport) : (b.run reports).Within cfg :=
  Progress.foldl_inv (P := fun _ => True) (fun _ r hb _ => hb.report hle r) (fun _ _ => trivial) h

theorem Bwe.Within.calm (hmax : cfg.maxBps ≤ 2 ^ 30) (h : b.Within cfg) {q : UInt8}
    (hq : CalmLoss q) :
    (b.report (.loss q)).lossEstimateBps
      = clampBps b (b.lossEstimateBps + b.lossEstimateBps / 20) := by
  have hhigh := h.high
  dsimp only [Bwe.report, rtcBweOnLoss]
  rw [if_pos (show q.toNat * 100 < 2 * 256 from hq)]
  show clampBps b (b.lossEstimateBps * 105 / 100 % 2 ^ 32) = _
  have htwentieth : b.lossEstimateBps * 105 / 100 = b.lossEstimateBps + b.lossEstimateBps / 20 := by
    omega
  rw [htwentieth, Nat.mod_eq_of_lt (by omega)]

theorem Bwe.Within.lost (hmax : cfg.maxBps ≤ 2 ^ 30) (h : b.Within cfg) :
    (b.report (.loss 255)).lossEstimateBps = clampBps b (b.lossEstimateBps * 257 / 512) := by
  have hhigh := h.high
  show clampBps b (b.lossEstimateBps * 257 / 512 % 2 ^ 32) = _
  congr 1
  omega

section

variable (hle : cfg.minBps ≤ cfg.maxBps)
include hle

theorem Bwe.Within.climbs (hmax : cfg.maxBps ≤ 2 ^ 30) (htwenty : 20 ≤ cfg.minBps)
    (h : b.Within cfg) {calm : List UInt8} (hcalm : ∀ q ∈ calm, CalmLoss q)
    (hlength : cfg.maxBps - cfg.minBps ≤ calm.length) :
    (b.run (calm.map .loss)).lossEstimateBps = cfg.maxBps := by
  have hzero := Progress.foldl_measure_eq_zero
    (fun b : Bwe => cfg.maxBps - b.lossEstimateBps)
    (fun b q (hb : b.Within cfg) (_ : CalmLoss q) => hb.report hle (.loss q))
    (fun b q hb hq => by
      have hlow := hb.low
      have hhigh := hb.high
      rw [hb.calm hmax hq, clampBps, hb.cfg_eq]
      split_ifs <;> omega)
    hcalm h (by have hlow := h.low; omega)
  rw [← foldl_map] at hzero
  have hhigh := (h.run hle (calm.map .loss)).high
  change cfg.maxBps - (b.run _).lossEstimateBps = 0 at hzero
  omega

theorem Bwe.Within.stuck (hmax : cfg.maxBps ≤ 2 ^ 30) (h : b.Within cfg)
    (htwenty : b.lossEstimateBps < 20) {calm : List UInt8} (hcalm : ∀ q ∈ calm, CalmLoss q) :
    (b.run (calm.map .loss)).lossEstimateBps = b.lossEstimateBps := by
  induction calm generalizing b with
  | nil => rfl
  | cons q calm ih =>
    have hlow := h.low
    have hhigh := h.high
    have hsame : (b.report (.loss q)).lossEstimateBps = b.lossEstimateBps := by
      rw [h.calm hmax (hcalm q mem_cons_self), clampBps, h.cfg_eq]
      split_ifs <;> omega
    exact (ih (h.report hle (.loss q)) (hsame ▸ htwenty)
      fun q' hq' => hcalm q' (mem_cons_of_mem q hq')).trans hsame

theorem Bwe.Within.falls (hmax : cfg.maxBps ≤ 2 ^ 30) (hmin : 0 < cfg.minBps) (h : b.Within cfg) :
    ∃ reports, (b.run reports).lossEstimateBps = cfg.minBps := by
  refine ⟨replicate b.lossEstimateBps (.loss 255), ?_⟩
  have hzero := Progress.foldl_measure_eq_zero (P := fun r => r = .loss 255)
    (fun b : Bwe => b.lossEstimateBps - cfg.minBps)
    (fun b r (hb : b.Within cfg) _ => hb.report hle r)
    (fun b r hb hr => by
      have hlow := hb.low
      subst hr
      rw [hb.lost hmax, clampBps, hb.cfg_eq]
      split_ifs <;> omega)
    (fun r (hr : r ∈ replicate b.lossEstimateBps (.loss 255)) =>
      eq_of_mem_replicate hr) h
    (by rw [length_replicate]; exact Nat.sub_le _ _)
  have hlow := (h.run hle (replicate b.lossEstimateBps (.loss 255))).low
  change (b.run _).lossEstimateBps - cfg.minBps = 0 at hzero
  omega

end

end Estimate

theorem BweConfig.recovers_iff {cfg : BweConfig} (hmin : 0 < cfg.minBps)
    (hle : cfg.minBps ≤ cfg.maxBps) (hmax : cfg.maxBps ≤ 2 ^ 30) :
    cfg.Recovers ↔ 20 ≤ cfg.minBps ∨ cfg.minBps = cfg.maxBps := by
  obtain ⟨b, hcreate, hb⟩ : ∃ b, rtcBweCreate cfg = some b ∧ b.Within cfg := by
    rw [rtcBweCreate, if_neg (by omega)]
    exact ⟨_, rfl, rfl, hle, Nat.le_refl _⟩
  constructor
  · rintro ⟨n, hn⟩
    by_contra hno
    rw [not_or, not_le] at hno
    obtain ⟨reports, hreports⟩ := hb.falls hle hmax hmin
    have hcalm : ∀ q ∈ replicate n (0 : UInt8), CalmLoss q := by
      intro q hq
      rw [eq_of_mem_replicate hq]
      exact Nat.le_of_ble_eq_true rfl
    have hreached := hn b hcreate reports (replicate n 0) length_replicate hcalm
    rw [(hb.run hle reports).stuck hle hmax (by omega) hcalm, hreports] at hreached
    exact hno.2 hreached
  · intro hcase
    refine ⟨cfg.maxBps - cfg.minBps, fun b' hb' reports calm hlength hcalm => ?_⟩
    obtain rfl := Option.some.inj (hcreate.symm.trans hb')
    rcases hcase with htwenty | heq
    · exact (hb.run hle reports).climbs hle hmax htwenty hcalm hlength.ge
    · have hwithin := (hb.run hle reports).run hle (calm.map .loss)
      exact le_antisymm hwithin.high (heq ▸ hwithin.low)

/-- **Exactly when bitrates recover.** -/
theorem bitrate_recovers_iff (cfg : RateControlConfig) (hmin : 0 < cfg.minBitrateKbps)
    (hle : cfg.minBitrateKbps ≤ cfg.maxBitrateKbps) (hmax : cfg.maxBitrateKbps ≤ 2 ^ 30)
    (bwe : BweConfig) (hminBps : 0 < bwe.minBps) (hleBps : bwe.minBps ≤ bwe.maxBps)
    (hmaxBps : bwe.maxBps ≤ 2 ^ 30) :
    (cfg.Recovers ↔ 20 ≤ cfg.minBitrateKbps ∨ cfg.minBitrateKbps = cfg.maxBitrateKbps
      ∨ cfg.maxBitrateKbps ≤ 4 ∧ cfg.maxBitrateKbps ≤ cfg.targetBitrateKbps)
    ∧ (bwe.Recovers ↔ 20 ≤ bwe.minBps ∨ bwe.minBps = bwe.maxBps) :=
  ⟨RateControlConfig.recovers_iff hmin hle hmax, BweConfig.recovers_iff hminBps hleBps hmaxBps⟩

/-- The default limits of a sender, and those of a transport. -/
theorem defaultLimits_recover :
    (⟨1000, 100, 2500⟩ : RateControlConfig).Recovers
      ∧ (⟨500000, 100000, 2500000⟩ : BweConfig).Recovers := by
  obtain ⟨hsender, hestimate⟩ := bitrate_recovers_iff ⟨1000, 100, 2500⟩ (by decide) (by decide)
    (by decide) ⟨500000, 100000, 2500000⟩ (by decide) (by decide) (by decide)
  exact ⟨hsender.mpr (.inl (by decide)), hestimate.mpr (.inl (by decide))⟩

/-- With a lower limit of 10 kbps, eight reports of heavy loss bring the bitrate from 100 to 19
kbps, where calm reports leave it. -/
theorem lowLimit_stuck :
    let rc := (rtcRateControlCreate ⟨100, 10, 2500⟩).run (replicate 8 allLost)
    rc.currentBitrateKbps = 19
      ∧ (rc.run (replicate 100 ⟨0, 0, by decide, by decide⟩)).currentBitrateKbps = 19
      ∧ ¬ (⟨100, 10, 2500⟩ : RateControlConfig).Recovers := by
  refine ⟨by decide +kernel, by decide +kernel, ?_⟩
  rw [RateControlConfig.recovers_iff (by decide) (by decide) (by decide)]
  decide

end Mrtc
