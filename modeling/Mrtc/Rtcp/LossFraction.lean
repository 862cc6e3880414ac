import Mrtc.Rtcp.Report

/-! # The fraction of packets lost

`fraction_lost` of a report block is documented as the part lost since the last report, and the rate
control takes it for the present loss. The builders compute it from the counters since the first
packet; `fractionLost_interval_iff` says for which numbers of packets before and since the last
report the two are the same.
-/

namespace Mrtc

/-! ## Runs -/

def emitRtcpReport (stats : RtcpStats) (sent : Bool) (nowMs : UInt64) : RtcpStats :=
  if sent then { stats with lastReportTime := nowMs } else stats

inductive StatsEvent where
  | recv (a : RtpArrival)
  | report (sent : Bool) (nowMs : UInt64)
  deriving DecidableEq

structure EmittedReport where
  prior : RtcpStats
  stats : RtcpStats
  nowMs : UInt64
  deriving DecidableEq

def emittedReports (prior : RtcpStats) : RtcpStats → List StatsEvent → List EmittedReport
  | _, [] => []
  | stats, .recv a :: events => emittedReports prior (rtcRtcpStatsOnRtpRecv stats a) events
  | stats, .report true nowMs :: events =>
    ⟨prior, stats, nowMs⟩ :: emittedReports stats (emitRtcpReport stats true nowMs) events
  | stats, .report false nowMs :: events =>
    emittedReports prior (emitRtcpReport stats false nowMs) events

/-! ## The two fractions -/

/-- How many packets of a part of a run were expected and how many came. -/
structure PacketCount where
  expected : Nat
  received : Nat

open PacketCount

def PacketCount.lost (c : PacketCount) : Nat := c.expected - c.received

def RtcpStats.before (prior : RtcpStats) : PacketCount :=
  ⟨prior.packetsExpected.toNat, prior.packetsReceived.toNat⟩

/-- The difference of two counters of 32 bits, as RFC 3550 has it. -/
def RtcpStats.since (stats prior : RtcpStats) : PacketCount :=
  ⟨(stats.packetsExpected - prior.packetsExpected).toNat,
    (stats.packetsReceived - prior.packetsReceived).toNat⟩

def PacketCount.add (c d : PacketCount) : PacketCount :=
  ⟨(c.expected + d.expected) % 2 ^ 32, (c.received + d.received) % 2 ^ 32⟩

/-- The documented fraction of an interval, 0 if nothing is lost or expected. -/
def PacketCount.fraction (c : PacketCount) : Nat := 256 * c.lost / c.expected

/-- The fraction with the product in 32 bits. -/
def PacketCount.fraction32 (c : PacketCount) : Nat := 256 * c.lost % 2 ^ 32 / c.expected

/-! ## What is reported -/

structure RtcpStats.Counted (n : Nat) (stats : RtcpStats) : Prop where
  received_le : stats.packetsReceived.toNat ≤ n
  received_pos : stats.firstPacket = false → 0 < stats.packetsReceived.toNat
  lost_first : stats.firstPacket = true → stats.packetsLost = 0
  lost_eq : stats.packetsLost
    = if stats.packetsExpected > stats.packetsReceived then
        stats.packetsExpected - stats.packetsReceived
      else 0

namespace RtcpStats.Counted

variable {n : Nat} {stats : RtcpStats}

section

variable (h : stats.Counted n)
include h

theorem mono {n' : Nat} (hle : n ≤ n') : stats.Counted n' :=
  { h with received_le := h.received_le.trans hle }

theorem smooth (a : RtpArrival) : (stats.smooth a).Counted n := by
  unfold RtcpStats.smooth
  split
  · exact ⟨h.received_le, h.received_pos, h.lost_first, h.lost_eq⟩
  · exact h

theorem start (hfirst : stats.firstPacket = true) (a : RtpArrival) :
    (stats.start a).Counted (n + 1) :=
  ⟨Nat.succ_pos n, fun _ => Nat.one_pos, fun h => Bool.noConfusion h, h.lost_first hfirst⟩

theorem count (hn : n + 1 < 2 ^ 32) (hfirst : stats.firstPacket = false) (seq : UInt16) :
    (stats.count seq).Counted (n + 1) := by
  have hle := h.received_le
  have hreceived : (stats.packetsReceived + 1).toNat = stats.packetsReceived.toNat + 1 := by
    grind [UInt32.toNat_add, Nat.mod_eq_of_lt]
  refine ⟨?_, fun _ => ?_, fun hnot => ?_, ?_⟩
  · show (stats.packetsReceived + 1).toNat ≤ n + 1
    omega
  · show 0 < (stats.packetsReceived + 1).toNat
    omega
  · exact absurd (hfirst.symm.trans hnot) Bool.false_ne_true
  · rfl

theorem recv (hn : n + 1 < 2 ^ 32) (a : RtpArrival) :
    (rtcRtcpStatsOnRtpRecv stats a).Counted (n + 1) := by
  unfold rtcRtcpStatsOnRtpRecv
  by_cases hfirst : stats.firstPacket = true
  · rw [if_pos hfirst]
    exact h.start hfirst a
  · rw [if_neg hfirst]
    split
    · exact h.mono (Nat.le_succ n)
    · exact (h.count hn (Bool.eq_false_of_not_eq_true hfirst) a.seq).smooth a

theorem emit (sent : Bool) (nowMs : UInt64) : (emitRtcpReport stats sent nowMs).Counted n := by
  unfold emitRtcpReport
  split
  · exact ⟨h.received_le, h.received_pos, h.lost_first, h.lost_eq⟩
  · exact h

theorem lost_lt :
    stats.packetsLost = 0 ∨ stats.packetsLost.toNat < stats.packetsExpected.toNat := by
  cases hfirst : stats.firstPacket with
  | true => exact .inl (h.lost_first hfirst)
  | false =>
    have hpos := h.received_pos hfirst
    rw [h.lost_eq]
    split
    · grind [UInt32.toNat_sub_of_le, UInt32.le_of_lt, UInt32.lt_iff_toNat_lt]
    · exact .inl rfl

theorem packetsLost_toNat : stats.packetsLost.toNat = stats.before.lost := by
  rw [h.lost_eq, lost, RtcpStats.before]
  split
  · grind [UInt32.toNat_sub_of_le, UInt32.le_of_lt, UInt32.lt_iff_toNat_lt]
  · next hmore =>
    have hmore' := mt UInt32.lt_iff_toNat_lt.mpr hmore
    exact (Nat.sub_eq_zero_of_le (Nat.not_lt.mp hmore')).symm

end

end RtcpStats.Counted

theorem emittedReports_counted {n : Nat} {prior stats : RtcpStats} {events : List StatsEvent}
    (h : stats.Counted n) (hn : n + events.length < 2 ^ 32) {r : EmittedReport}
    (hr : r ∈ emittedReports prior stats events) : ∃ m, r.stats.Counted m := by
  induction events generalizing prior stats n with
  | nil => cases hr
  | cons event events ih =>
    rw [List.length_cons] at hn
    cases event with
    | recv a => exact ih (h.recv (by omega) a) (by omega) hr
    | report sent nowMs =>
      cases sent with
      | false => exact ih (h.emit false nowMs) (by omega) hr
      | true =>
        rcases List.mem_cons.mp hr with rfl | hr
        · exact ⟨n, h⟩
        · exact ih (h.emit true nowMs) (by omega) hr

theorem RtcpStats.Counted.fraction_eq {n : Nat} {stats : RtcpStats} (h : stats.Counted n)
    (nowMs : UInt64) : (stats.block nowMs).fractionLost.toNat = stats.before.fraction32 := by
  have hproduct : (stats.packetsLost * 256).toNat = 256 * stats.before.lost % 2 ^ 32 := by
    rw [UInt32.toNat_mul, ← h.packetsLost_toNat, Nat.mul_comm]
    rfl
  unfold RtcpStats.block fraction32
  dsimp only
  split
  · rename_i hpos
    have hpos' : 0 < stats.packetsExpected.toNat := UInt32.lt_iff_toNat_lt.mp hpos
    -- fewer are lost than expected, so the quotient fits a byte
    have hbyte : 256 * stats.before.lost % 2 ^ 32 / stats.packetsExpected.toNat < 256 := by
      rw [Nat.div_lt_iff_lt_mul hpos']
      refine lt_of_le_of_lt (Nat.mod_le _ _) ?_
      rw [← h.packetsLost_toNat]
      rcases h.lost_lt with hzero | hlt
      · rw [hzero]
        exact Nat.mul_pos (by decide) hpos'
      · exact Nat.mul_lt_mul_of_pos_left hlt (by decide)
    rw [UInt32.toNat_toUInt8, UInt32.toNat_div, hproduct]
    exact Nat.mod_eq_of_lt hbyte
  · rename_i hzero
    have hzero' : ¬0 < stats.packetsExpected.toNat := fun hpos =>
      hzero (UInt32.lt_iff_toNat_lt.mpr hpos)
    rw [RtcpStats.before, Nat.eq_zero_of_not_pos hzero', Nat.div_zero]
    rfl

theorem RtcpStats.before_eq_add (stats prior : RtcpStats) :
    stats.before = prior.before.add (stats.since prior) := by
  have hsum : ∀ a b : UInt32, a.toNat = (b.toNat + (a - b).toNat) % 2 ^ 32 := fun a b => by
    rw [← UInt32.toNat_add, UInt32.add_comm, UInt32.sub_add_cancel]
  exact congrArg₂ PacketCount.mk (hsum _ _) (hsum _ _)

/-- **A report is right about the interval if and only if** the packets lost before and since the
last report, of those expected before and since, are the same fraction as those since alone, where
the product is cut to 32 bits. The first report is, with fewer than 2 ^ 24 packets lost. -/
theorem fractionLost_interval_iff (ssrc : UInt32) (startMs : UInt64) (events : List StatsEvent)
    (hevents : events.length < 2 ^ 32) (r : EmittedReport)
    (hr : r ∈ emittedReports (rtcRtcpStatsInit ssrc startMs) (rtcRtcpStatsInit ssrc startMs) events)
    (rr : RtcpRrBlock) (hrr : rr ∈ r.stats.blocks r.nowMs) :
    (rr.fractionLost.toNat = (r.stats.since r.prior).fraction
        ↔ (r.prior.before.add (r.stats.since r.prior)).fraction32
          = (r.stats.since r.prior).fraction)
      ∧ (r.prior = rtcRtcpStatsInit ssrc startMs → (r.stats.since r.prior).lost < 2 ^ 24 →
        rr.fractionLost.toNat = (r.stats.since r.prior).fraction) := by
  have hinit : (rtcRtcpStatsInit ssrc startMs).Counted 0 :=
    ⟨le_rfl, fun h => Bool.noConfusion h, fun _ => rfl, rfl⟩
  obtain ⟨n, hcounted⟩ := emittedReports_counted hinit (by rwa [Nat.zero_add]) hr
  have hblock : rr = r.stats.block r.nowMs := by grind [RtcpStats.blocks]
  rw [hblock, hcounted.fraction_eq, ← RtcpStats.before_eq_add]
  refine ⟨Iff.rfl, fun hfirst hlost => ?_⟩
  have hsince : r.stats.since r.prior = r.stats.before := by
    rw [hfirst, RtcpStats.before_eq_add r.stats (rtcRtcpStatsInit ssrc startMs)]
    simp [add, RtcpStats.before, RtcpStats.since, rtcRtcpStatsInit,
      Nat.mod_eq_of_lt (UInt32.toNat_lt _)]
  rw [hsince] at hlost ⊢
  rw [fraction32, fraction, Nat.mod_eq_of_lt (by omega)]

def packetOf (seq : UInt16) : StatsEvent :=
  .recv { seq := seq, timestamp := 0, ssrc := 9, clockRate := 0, nowMs := 0 }

def steadyLoss : List StatsEvent :=
  [packetOf 0, packetOf 2, .report true 1000, packetOf 3, packetOf 5, .report true 2000]

/-- The second report is right: as many are lost since the first one as before it. -/
theorem steadyLoss_reported :
    ∃ r ∈ emittedReports (rtcRtcpStatsInit 7 0) (rtcRtcpStatsInit 7 0) steadyLoss,
      r.nowMs = 2000 ∧ ∃ rr ∈ r.stats.blocks r.nowMs,
        rr.fractionLost.toNat = (r.stats.since r.prior).fraction := by
  obtain ⟨r, hr, hnow, hsame, rr, hrr⟩ :
      ∃ r ∈ emittedReports (rtcRtcpStatsInit 7 0) (rtcRtcpStatsInit 7 0) steadyLoss,
        r.nowMs = 2000 ∧ (r.prior.before.add (r.stats.since r.prior)).fraction32
            = (r.stats.since r.prior).fraction
          ∧ ∃ rr ∈ r.stats.blocks r.nowMs, rr.fractionLost = 85 := by decide
  have hiff := fractionLost_interval_iff 7 0 steadyLoss (by decide) r hr rr hrr.1
  exact ⟨r, hr, hnow, rr, hrr.1, hiff.1.mpr hsame⟩

/-- One packet of three is lost, and then none: the second report still says 51 of 256. -/
theorem earlierLoss_reported :
    let reports := emittedReports (rtcRtcpStatsInit 7 0) (rtcRtcpStatsInit 7 0)
      [packetOf 0, packetOf 2, .report true 1000, packetOf 3, packetOf 4, .report true 2000]
    reports.map (fun r => (r.stats.blocks r.nowMs).map RtcpRrBlock.fractionLost) = [[85], [51]]
      ∧ reports.map (fun r => (r.stats.since r.prior).fraction) = [85, 0]
      ∧ ((statsOfLost 0x1000000).block 0).fractionLost = 0
      ∧ (statsOfLost 0x1000000).before.fraction = 255 := by
  decide

end Mrtc
