import Mathlib.Data.List.Forall2
import Mathlib.Tactic.Linarith

/-! # The bitrate that receiver reports ask for (`rtc_rate_control.c`)

A report of little loss raises the bitrate by a twentieth, one of much loss lowers it by a fifth,
and a long round trip by a tenth; then it is clamped to the limits of the configuration.
-/

namespace Mrtc

def cInt (x : Int) : Int := x.bmod (2 ^ 32)

theorem cInt_eq {x : Int} (hlow : -2 ^ 31 ≤ x) (hhigh : x < 2 ^ 31) : cInt x = x :=
  Int.bmod_eq_of_le (by omega) (by omega)

structure RateControlConfig where
  targetBitrateKbps : Int
  minBitrateKbps : Int
  maxBitrateKbps : Int
  deriving DecidableEq

structure RateController where
  currentBitrateKbps : Int
  minBitrateKbps : Int
  maxBitrateKbps : Int
  keyframeRequested : Bool := false
  deriving DecidableEq

def clampKbps (min max bitrate : Int) : Int :=
  let bitrate := if bitrate < min then min else bitrate
  if max < bitrate then max else bitrate

def rtcRateControlCreate (cfg : RateControlConfig) : RateController :=
  let min := if 0 < cfg.minBitrateKbps then cfg.minBitrateKbps else 100
  let max := if 0 < cfg.maxBitrateKbps then cfg.maxBitrateKbps else 2500
  { currentBitrateKbps := clampKbps min max cfg.targetBitrateKbps
    minBitrateKbps := min
    maxBitrateKbps := max }

def lossPct (fractionLost : Int) : Int := (cInt (fractionLost * 100)).tdiv 256

def adaptToLoss (pct bitrate : Int) : Int :=
  if pct < 2 then cInt (bitrate + bitrate.tdiv 20)
  else if 5 < pct then bitrate - bitrate.tdiv 5
  else bitrate

def adaptToRtt (rttMs bitrate : Int) : Int :=
  if 300 < rttMs then bitrate - bitrate.tdiv 10 else bitrate

def rtcRateControlOnRtcpRr (rc : RateController) (fractionLost rttMs : Int) : RateController :=
  let pct := lossPct fractionLost
  let bitrate := adaptToRtt rttMs (adaptToLoss pct rc.currentBitrateKbps)
  { rc with
    currentBitrateKbps := clampKbps rc.minBitrateKbps rc.maxBitrateKbps bitrate
    keyframeRequested := rc.keyframeRequested || decide (10 < pct) }

/-! ## Reports -/

structure RrReport where
  fractionLost : Int
  rttMs : Int
  lost_nonneg : 0 ≤ fractionLost
  lost_lt : fractionLost < 256

def RrReport.NoWorse (r r' : RrReport) : Prop :=
  r.fractionLost ≤ r'.fractionLost ∧ r.rttMs ≤ r'.rttMs

def RateController.report (rc : RateController) (r : RrReport) : RateController :=
  rtcRateControlOnRtcpRr rc r.fractionLost r.rttMs

def RateController.run (rc : RateController) (reports : List RrReport) : RateController :=
  reports.foldl RateController.report rc

structure RateController.Limited (min max : Int) (rc : RateController) : Prop where
  min_eq : rc.minBitrateKbps = min
  max_eq : rc.maxBitrateKbps = max
  nonneg : 0 ≤ rc.currentBitrateKbps
  small : rc.currentBitrateKbps ≤ 2 ^ 30

section Stages

variable {min max a b : Int}

theorem clampKbps_mem (h : min ≤ max) (b : Int) :
    min ≤ clampKbps min max b ∧ clampKbps min max b ≤ max := by
  unfold clampKbps
  dsimp only
  split_ifs <;> omega

theorem clampKbps_mono (h : min ≤ max) (hab : a ≤ b) :
    clampKbps min max a ≤ clampKbps min max b := by
  unfold clampKbps
  dsimp only
  split_ifs <;> omega

theorem clampKbps_eq (hmin : min ≤ b) (hmax : b ≤ max) : clampKbps min max b = b := by
  unfold clampKbps
  dsimp only
  rw [if_neg (by omega), if_neg (by omega)]

theorem lossPct_eq (r : RrReport) : lossPct r.fractionLost = r.fractionLost * 100 / 256 := by
  have hnonneg := r.lost_nonneg
  have hlt := r.lost_lt
  rw [lossPct, cInt_eq (by omega) (by omega), Int.tdiv_eq_ediv_of_nonneg (by omega)]

theorem adaptToLoss_eq (hnonneg : 0 ≤ b) (hsmall : b ≤ 2 ^ 30) (pct : Int) :
    adaptToLoss pct b = if pct < 2 then b + b / 20 else if 5 < pct then b - b / 5 else b := by
  rw [adaptToLoss, Int.tdiv_eq_ediv_of_nonneg hnonneg, Int.tdiv_eq_ediv_of_nonneg hnonneg,
    cInt_eq (by omega) (by omega)]

theorem adaptToRtt_eq (hnonneg : 0 ≤ b) (rttMs : Int) :
    adaptToRtt rttMs b = if 300 < rttMs then b - b / 10 else b := by
  rw [adaptToRtt, Int.tdiv_eq_ediv_of_nonneg hnonneg]

theorem adaptToLoss_mono {pct pct' : Int} (hpct : pct' ≤ pct) (ha : 0 ≤ a) (hb : b ≤ 2 ^ 30)
    (hab : a ≤ b) : 0 ≤ adaptToLoss pct a ∧ adaptToLoss pct a ≤ adaptToLoss pct' b := by
  rw [adaptToLoss_eq ha (by omega), adaptToLoss_eq (by omega) hb]
  -- rounding the smaller of two numbers down never makes up for their difference
  constructor
  · split_ifs <;> omega
  · split_ifs <;> omega

theorem adaptToRtt_mono {rtt rtt' : Int} (hrtt : rtt' ≤ rtt) (ha : 0 ≤ a) (hab : a ≤ b) :
    adaptToRtt rtt a ≤ adaptToRtt rtt' b := by
  rw [adaptToRtt_eq ha, adaptToRtt_eq (by omega)]
  split_ifs <;> omega

end Stages

/-! ## Runs -/

section Run

variable {min max : Int} {rc rc' : RateController}

theorem RateController.Limited.report (hmin : 0 < min) (hle : min ≤ max) (hmax : max ≤ 2 ^ 30)
    (h : rc.Limited min max) (r : RrReport) :
    (rc.report r).Limited min max
      ∧ min ≤ (rc.report r).currentBitrateKbps ∧ (rc.report r).currentBitrateKbps ≤ max := by
  obtain ⟨rfl, rfl, -, -⟩ := h
  obtain ⟨hlow, hhigh⟩ := clampKbps_mem hle
    (adaptToRtt r.rttMs (adaptToLoss (lossPct r.fractionLost) rc.currentBitrateKbps))
  exact ⟨⟨rfl, rfl, hmin.le.trans hlow, hhigh.trans hmax⟩, hlow, hhigh⟩

/-- **One report to each of two senders.** -/
theorem RateController.report_mono (hle : min ≤ max) (h : rc.Limited min max)
    (h' : rc'.Limited min max) (hrc : rc'.currentBitrateKbps ≤ rc.currentBitrateKbps)
    {r r' : RrReport} (hr : r.NoWorse r') :
    (rc'.report r').currentBitrateKbps ≤ (rc.report r).currentBitrateKbps := by
  have hpct : lossPct r.fractionLost ≤ lossPct r'.fractionLost := by
    rw [lossPct_eq, lossPct_eq]
    have hfraction := hr.1
    omega
  obtain ⟨hnonneg, hloss⟩ := adaptToLoss_mono hpct h'.nonneg h.small hrc
  have hrtt := adaptToRtt_mono hr.2 hnonneg hloss
  dsimp only [RateController.report, rtcRateControlOnRtcpRr]
  rw [h.min_eq, h.max_eq, h'.min_eq, h'.max_eq]
  exact clampKbps_mono hle hrtt

theorem RateController.Limited.run (hmin : 0 < min) (hle : min ≤ max) (hmax : max ≤ 2 ^ 30)
    (h : rc.Limited min max) (hlow : min ≤ rc.currentBitrateKbps)
    (hhigh : rc.currentBitrateKbps ≤ max) (reports : List RrReport) :
    (rc.run reports).Limited min max
      ∧ min ≤ (rc.run reports).currentBitrateKbps ∧ (rc.run reports).currentBitrateKbps ≤ max := by
  induction reports generalizing rc with
  | nil => exact ⟨h, hlow, hhigh⟩
  | cons r reports ih =>
    obtain ⟨hnext, hlow', hhigh'⟩ := h.report hmin hle hmax r
    exact ih hnext hlow' hhigh'

theorem RateController.run_mono (hmin : 0 < min) (hle : min ≤ max) (hmax : max ≤ 2 ^ 30)
    (h : rc.Limited min max) (h' : rc'.Limited min max)
    (hrc : rc'.currentBitrateKbps ≤ rc.currentBitrateKbps) {reports reports' : List RrReport}
    (hreports : List.Forall₂ RrReport.NoWorse reports reports') :
    (rc'.run reports').currentBitrateKbps ≤ (rc.run reports).currentBitrateKbps := by
  induction hreports generalizing rc rc' with
  | nil => exact hrc
  | cons hr _ ih =>
    obtain ⟨hnext, -⟩ := h.report hmin hle hmax _
    obtain ⟨hnext', -⟩ := h'.report hmin hle hmax _
    exact ih hnext hnext' (RateController.report_mono hle h h' hrc hr)

end Run

theorem rtcRateControlCreate_limited {cfg : RateControlConfig} (hmin : 0 < cfg.minBitrateKbps)
    (hle : cfg.minBitrateKbps ≤ cfg.maxBitrateKbps) (hmax : cfg.maxBitrateKbps ≤ 2 ^ 30) :
    (rtcRateControlCreate cfg).Limited cfg.minBitrateKbps cfg.maxBitrateKbps
      ∧ (rtcRateControlCreate cfg).currentBitrateKbps
        = clampKbps cfg.minBitrateKbps cfg.maxBitrateKbps cfg.targetBitrateKbps := by
  obtain ⟨hlow, hhigh⟩ := clampKbps_mem hle cfg.targetBitrateKbps
  have hcreate : rtcRateControlCreate cfg
      = { currentBitrateKbps :=
            clampKbps cfg.minBitrateKbps cfg.maxBitrateKbps cfg.targetBitrateKbps
          minBitrateKbps := cfg.minBitrateKbps
          maxBitrateKbps := cfg.maxBitrateKbps } := by
    rw [rtcRateControlCreate, if_pos hmin, if_pos (by omega)]
  rw [hcreate]
  exact ⟨⟨rfl, rfl, by dsimp only; omega, by dsimp only; omega⟩, rfl⟩

/-- **The bitrate keeps its limits, and the order of two senders.** -/
theorem bitrate_bounded_mono (cfg : RateControlConfig) (hmin : 0 < cfg.minBitrateKbps)
    (hle : cfg.minBitrateKbps ≤ cfg.maxBitrateKbps) (hmax : cfg.maxBitrateKbps ≤ 2 ^ 30) :
    (∀ reports : List RrReport,
      cfg.minBitrateKbps ≤ ((rtcRateControlCreate cfg).run reports).currentBitrateKbps
        ∧ ((rtcRateControlCreate cfg).run reports).currentBitrateKbps ≤ cfg.maxBitrateKbps)
    ∧ ∀ b₁ b₂ : Int, 0 ≤ b₂ → b₂ ≤ b₁ → b₁ ≤ 2 ^ 30 →
      ∀ reports₁ reports₂ : List RrReport, List.Forall₂ RrReport.NoWorse reports₁ reports₂ →
        ∀ n : Nat,
          (({ rtcRateControlCreate cfg with currentBitrateKbps := b₂ } : RateController).run
              (reports₂.take n)).currentBitrateKbps
            ≤ (({ rtcRateControlCreate cfg with currentBitrateKbps := b₁ } : RateController).run
              (reports₁.take n)).currentBitrateKbps := by
  obtain ⟨hlimited, hcurrent⟩ := rtcRateControlCreate_limited hmin hle hmax
  constructor
  · intro reports
    obtain ⟨hlow, hhigh⟩ := clampKbps_mem hle cfg.targetBitrateKbps
    rw [← hcurrent] at hlow hhigh
    exact (hlimited.run hmin hle hmax hlow hhigh reports).2
  · intro b₁ b₂ hnonneg hb hsmall reports₁ reports₂ hreports n
    refine RateController.run_mono hmin hle hmax ?_ ?_ hb (List.forall₂_take n hreports)
    · exact ⟨hlimited.min_eq, hlimited.max_eq, by dsimp only; omega, hsmall⟩
    · exact ⟨hlimited.min_eq, hlimited.max_eq, hnonneg, by dsimp only; omega⟩

/-- The reports of the default limits: a sender that is told of 1 percent of loss, and one that is
told of 25. -/
theorem defaultLimits_bounded_mono :
    let cfg : RateControlConfig := ⟨1000, 100, 2500⟩
    let calm : RrReport := ⟨3, 40, by decide, by decide⟩
    let lossy : RrReport := ⟨64, 40, by decide, by decide⟩
    (rtcRateControlCreate cfg).currentBitrateKbps = 1000
      ∧ (({ rtcRateControlCreate cfg with currentBitrateKbps := 900 } : RateController).run
          ([lossy].take 1)).currentBitrateKbps
        ≤ (({ rtcRateControlCreate cfg with currentBitrateKbps := 1000 } : RateController).run
          ([calm].take 1)).currentBitrateKbps := by
  intro cfg calm lossy
  have hreports : List.Forall₂ RrReport.NoWorse [calm] [lossy] :=
    .cons ⟨by decide, by decide⟩ .nil
  exact ⟨by decide, (bitrate_bounded_mono cfg (by decide) (by decide) (by decide)).2 1000 900
    (by decide) (by decide) (by decide) _ _ hreports 1⟩

end Mrtc
