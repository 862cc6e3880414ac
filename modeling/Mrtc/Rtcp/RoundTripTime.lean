import Mrtc.Rtcp.Report

/-! # Round-trip time (`rtc_rtcp.c`)

The sender of a report finds the time of the round trip from the block that answers it: now, less
the time of the report, less the time the receiver had it.
-/

namespace Mrtc

open HalfWord

/-! ## The source -/

def rtcRtcpRttFromRr (rr : RtcpRrBlock) (nowMs : UInt64) : Int32 :=
  if rr.lastSr = 0 then 0
  else
    let nowSec := (nowMs / 1000).toUInt32 + 2208988800
    let nowFrac := ((nowMs % 1000) * 4294967).toUInt32
    let nowCompact := compactNtp nowSec nowFrac
    let rttNtp := nowCompact - rr.lastSr - rr.delaySinceSr
    let rttMs := ((rttNtp.toUInt64 * 1000) >>> 16).toUInt32.toInt32
    if rttMs < 0 then 0 else rttMs

/-! ## Units of 1/65536 s -/

def ntpUnits (ms : Nat) : Nat := ms / 1000 * 2 ^ 16 + ms % 1000 * 4294967 / 2 ^ 16

def delayUnits (ms : Nat) : Nat := ms * 65536 / 1000

theorem ntpUnits_bounds (ms : Nat) :
    1000 * ntpUnits ms ≤ 65536 * ms ∧ 65536 * ms < 1000 * ntpUnits ms + 1005 := by
  unfold ntpUnits
  omega

theorem delayUnits_bounds (ms : Nat) :
    1000 * delayUnits ms ≤ 65536 * ms ∧ 65536 * ms < 1000 * delayUnits ms + 1000 := by
  unfold delayUnits
  omega

theorem compactNtp_toNat (ms : UInt64) :
    (compactNtp (getNtpTime ms).1 (getNtpTime ms).2).toNat
      = (ntpUnits ms.toNat + 2208988800 * 2 ^ 16) % 2 ^ 32 := by
  have hsec : (getNtpTime ms).1.toNat = (ms.toNat / 1000 + 2208988800) % 2 ^ 32 := by
    simp [getNtpTime]
  have hfrac : (getNtpTime ms).2.toNat = ms.toNat % 1000 * 4294967 := by
    simp [getNtpTime]
    omega
  rw [compactNtp, toNat_join, hsec, hfrac, ntpUnits]
  omega

theorem toInt_rttMs (rttNtp : UInt32) :
    ((rttNtp.toUInt64 * 1000) >>> 16).toUInt32.toInt32.toInt
      = ((rttNtp.toNat * 1000 / 2 ^ 16 : Nat) : Int) := by
  have hlt := rttNtp.toNat_lt
  have hnat : ((rttNtp.toUInt64 * 1000) >>> 16).toUInt32.toNat = rttNtp.toNat * 1000 / 2 ^ 16 := by
    rw [UInt64.toNat_toUInt32, UInt64.toNat_shiftRight, UInt64.toNat_mul, UInt32.toNat_toUInt64,
      Nat.shiftRight_eq_div_pow]
    show rttNtp.toNat * 1000 % 2 ^ 64 / 2 ^ 16 % 2 ^ 32 = _
    rw [Nat.mod_eq_of_lt (show rttNtp.toNat * 1000 < 2 ^ 64 by omega), Nat.mod_eq_of_lt (by omega)]
  have hint := BitVec.toInt_eq_toNat_cond
    ((rttNtp.toUInt64 * 1000) >>> 16).toUInt32.toInt32.toBitVec
  change _ = if 2 * ((rttNtp.toUInt64 * 1000) >>> 16).toUInt32.toNat < 2 ^ 32 then
    (((rttNtp.toUInt64 * 1000) >>> 16).toUInt32.toNat : Int) else _ at hint
  rw [hnat, if_pos (by omega)] at hint
  exact hint

def rttNtp (rr : RtcpRrBlock) (nowMs : UInt64) : UInt32 :=
  compactNtp (getNtpTime nowMs).1 (getNtpTime nowMs).2 - rr.lastSr - rr.delaySinceSr

theorem rtcRtcpRttFromRr_toInt {rr : RtcpRrBlock} (hlast : rr.lastSr ≠ 0) (nowMs : UInt64) :
    (rtcRtcpRttFromRr rr nowMs).toInt = (((rttNtp rr nowMs).toNat * 1000 / 2 ^ 16 : Nat) : Int) := by
  have hfrac : ((nowMs % 1000) * 4294967).toUInt32 = (getNtpTime nowMs).2 := by
    rw [← UInt32.toNat_inj]
    simp [getNtpTime]
  have hms := toInt_rttMs (rttNtp rr nowMs)
  have hnonneg : ¬((((rttNtp rr nowMs).toUInt64 * 1000) >>> 16).toUInt32.toInt32 < 0) := by
    rw [Int32.lt_iff_toInt_lt, hms]
    exact not_lt.mpr (Int.natCast_nonneg _)
  rw [rtcRtcpRttFromRr, if_neg hlast, hfrac]
  change Int32.toInt (if (((rttNtp rr nowMs).toUInt64 * 1000) >>> 16).toUInt32.toInt32 < 0 then 0
    else (((rttNtp rr nowMs).toUInt64 * 1000) >>> 16).toUInt32.toInt32) = _
  rw [if_neg hnonneg, hms]

theorem delaySince_toNat {d : Nat} (hd : d < 2 ^ 15 * 1000) :
    (delaySince (UInt64.ofNat d)).toNat = delayUnits d := by
  have hdelay : (UInt64.ofNat d).toNat = d :=
    UInt64.toNat_ofNat_of_lt' (show d < 2 ^ 64 by omega)
  rw [delaySince, UInt64.toNat_toUInt32, UInt64.toNat_div, UInt64.toNat_mul, hdelay, delayUnits]
  show d * 65536 % 2 ^ 64 / 1000 % 2 ^ 32 = _
  rw [Nat.mod_eq_of_lt (show d * 65536 < 2 ^ 64 by omega), Nat.mod_eq_of_lt (by omega)]

theorem rtcRtcpParse_block (stats : RtcpStats) (hsource : stats.remoteSsrc ≠ 0)
    (hstarted : stats.firstPacket = false) (hrecv : stats.lastSrRecvTime > 0) (nowMs : UInt64) :
    ∃ answer rr, rtcRtcpParse (rtcRtcpBuildRr stats nowMs) = .ok answer ∧ answer.reports = [rr]
      ∧ rr.ssrc = stats.remoteSsrc ∧ rr.lastSr = stats.lastSrNtp
      ∧ rr.delaySinceSr = delaySince (nowMs - stats.lastSrRecvTime) := by
  have hblocks : stats.blocks nowMs = [stats.block nowMs] := if_pos ⟨hsource, hstarted⟩
  have hreports : (stats.blocks nowMs).map RtcpRrBlock.sent = [(stats.block nowMs).sent] := by
    rw [hblocks, List.map_singleton]
  refine ⟨_, _, rtcRtcpParse_buildRr stats nowMs, hreports, ?_, ?_, ?_⟩
  · simp only [RtcpRrBlock.sent, RtcpStats.block]
  · simp only [RtcpRrBlock.sent, RtcpStats.block]
  · simp only [RtcpRrBlock.sent, RtcpStats.block, if_pos hrecv]

section

variable (receiver : RtcpStats) (sr : RtcpSr) (recvMs : UInt64)

@[simp] theorem rtcRtcpStatsOnSrRecv_remoteSsrc :
    (rtcRtcpStatsOnSrRecv receiver sr recvMs).remoteSsrc = receiver.remoteSsrc := rfl

@[simp] theorem rtcRtcpStatsOnSrRecv_firstPacket :
    (rtcRtcpStatsOnSrRecv receiver sr recvMs).firstPacket = receiver.firstPacket := rfl

@[simp] theorem rtcRtcpStatsOnSrRecv_lastSrRecvTime :
    (rtcRtcpStatsOnSrRecv receiver sr recvMs).lastSrRecvTime = recvMs := rfl

@[simp] theorem rtcRtcpStatsOnSrRecv_lastSrNtp :
    (rtcRtcpStatsOnSrRecv receiver sr recvMs).lastSrNtp = compactNtp sr.ntpSec sr.ntpFrac := rfl

end

/-- **The answer to a report carries its time and the delay.** -/
theorem answer_block (sender receiver : RtcpStats) (hsource : receiver.remoteSsrc ≠ 0)
    (hstarted : receiver.firstPacket = false) (unixMs nowMs recvMs delayMs : UInt64)
    (hrecv : recvMs > 0) :
    ∃ report answer rr, rtcRtcpParse (rtcRtcpBuildSr sender unixMs nowMs) = .ok report
      ∧ rtcRtcpParse (rtcRtcpBuildRr (rtcRtcpStatsOnSrRecv receiver report.sr recvMs)
          (recvMs + delayMs)) = .ok answer
      ∧ answer.reports = [rr] ∧ rr.ssrc = receiver.remoteSsrc
      ∧ rr.lastSr = compactNtp (getNtpTime unixMs).1 (getNtpTime unixMs).2
      ∧ rr.delaySinceSr = delaySince delayMs := by
  have hdelay : recvMs + delayMs - recvMs = delayMs := by
    rw [UInt64.add_comm, UInt64.add_sub_cancel]
  obtain ⟨report, hreport, hsec, hfrac⟩ :
      ∃ report, rtcRtcpParse (rtcRtcpBuildSr sender unixMs nowMs) = .ok report
        ∧ report.sr.ntpSec = (getNtpTime unixMs).1 ∧ report.sr.ntpFrac = (getNtpTime unixMs).2 :=
    ⟨_, rtcRtcpParse_buildSr sender unixMs nowMs, rfl, rfl⟩
  obtain ⟨answer, rr, hanswer, hreports, hssrc, hlast, hsince⟩ := rtcRtcpParse_block
    (rtcRtcpStatsOnSrRecv receiver report.sr recvMs) (by simpa using hsource)
    (by simpa using hstarted) (by simpa using hrecv) (recvMs + delayMs)
  rw [rtcRtcpStatsOnSrRecv_lastSrRecvTime, hdelay] at hsince
  rw [rtcRtcpStatsOnSrRecv_lastSrNtp, hsec, hfrac] at hlast
  rw [rtcRtcpStatsOnSrRecv_remoteSsrc] at hssrc
  exact ⟨report, answer, rr, hreport, hanswer, hreports, hssrc, hlast, hsince⟩

/-! ## The result -/

theorem rttNtp_toNat {rr : RtcpRrBlock} {t0 d r : Nat}
    (hlast : rr.lastSr
      = compactNtp (getNtpTime (UInt64.ofNat t0)).1 (getNtpTime (UInt64.ofNat t0)).2)
    (hdelay : rr.delaySinceSr = delaySince (UInt64.ofNat d))
    (hrange : d + r < 2 ^ 15 * 1000) (hclock : t0 + d + r < 2 ^ 64) :
    (rttNtp rr (UInt64.ofNat (t0 + d + r))).toNat
      = (ntpUnits (t0 + d + r) + 2 ^ 32 - ntpUnits t0 - delayUnits d) % 2 ^ 32 := by
  have hstart : (UInt64.ofNat t0).toNat = t0 :=
    UInt64.toNat_ofNat_of_lt' (show t0 < 2 ^ 64 by omega)
  have hnow : (UInt64.ofNat (t0 + d + r)).toNat = t0 + d + r := UInt64.toNat_ofNat_of_lt' hclock
  have hcompact := compactNtp_toNat (UInt64.ofNat (t0 + d + r))
  have hcompact0 := compactNtp_toNat (UInt64.ofNat t0)
  rw [hnow] at hcompact
  rw [hstart] at hcompact0
  obtain ⟨hle0, hlt0⟩ := ntpUnits_bounds t0
  obtain ⟨hle1, hlt1⟩ := ntpUnits_bounds (t0 + d + r)
  obtain ⟨hled, hltd⟩ := delayUnits_bounds d
  rw [rttNtp, UInt32.toNat_sub, UInt32.toNat_sub, hlast, hdelay, hcompact, hcompact0,
    delaySince_toNat (by omega)]
  omega

/-- **A round trip over the wire**: `d` ms after a report came in, the receiver answers it; whatever
its clock shows, the sender finds the `r` ms both packets were on the way. -/
theorem answered_report_rtt (sender receiver : RtcpStats) (hsource : receiver.remoteSsrc ≠ 0)
    (hstarted : receiver.firstPacket = false) (nowMs recvMs : UInt64) (hrecv : recvMs > 0)
    (t0 d r : Nat) (hr : 0 < r) (hrange : d + r < 2 ^ 15 * 1000) (hclock : t0 + d + r < 2 ^ 64) :
    ∃ report answer rr, rtcRtcpParse (rtcRtcpBuildSr sender (UInt64.ofNat t0) nowMs) = .ok report
      ∧ rtcRtcpParse (rtcRtcpBuildRr (rtcRtcpStatsOnSrRecv receiver report.sr recvMs)
          (recvMs + UInt64.ofNat d)) = .ok answer
      ∧ answer.reports = [rr]
      ∧ (rr.lastSr ≠ 0 → |(rtcRtcpRttFromRr rr (UInt64.ofNat (t0 + d + r))).toInt - r| ≤ 2) := by
  obtain ⟨report, answer, rr, hreport, hanswer, hreports, -, hlast, hdelay⟩ :=
    answer_block sender receiver hsource hstarted (UInt64.ofNat t0) nowMs recvMs (UInt64.ofNat d)
      hrecv
  refine ⟨report, answer, rr, hreport, hanswer, hreports, fun hne => ?_⟩
  obtain ⟨hle0, hlt0⟩ := ntpUnits_bounds t0
  obtain ⟨hle1, hlt1⟩ := ntpUnits_bounds (t0 + d + r)
  obtain ⟨hled, hltd⟩ := delayUnits_bounds d
  have hdiff : (ntpUnits (t0 + d + r) + 2 ^ 32 - ntpUnits t0 - delayUnits d) % 2 ^ 32
      = ntpUnits (t0 + d + r) - (ntpUnits t0 + delayUnits d) := by
    omega
  rw [rtcRtcpRttFromRr_toInt hne, rttNtp_toNat hlast hdelay hrange hclock, hdiff, abs_le]
  omega

/-- 40 ms on the way, and the receiver's clock at 5 ms. -/
theorem answered_after_125 : ∃ report answer rr,
    rtcRtcpParse (rtcRtcpBuildSr (rtcRtcpStatsInit 1 0) 1000000 0) = .ok report
      ∧ rtcRtcpParse (rtcRtcpBuildRr (rtcRtcpStatsOnSrRecv
          { rtcRtcpStatsInit 2 0 with remoteSsrc := 1, firstPacket := false } report.sr 5) 130)
        = .ok answer
      ∧ answer.reports = [rr]
      ∧ (rr.lastSr ≠ 0 → |(rtcRtcpRttFromRr rr 1000165).toInt - 40| ≤ 2) :=
  answered_report_rtt _ _ (by decide) rfl 0 5 (by decide) 1000000 125 40 (by decide) (by decide)
    (by decide)

/-- **The round-trip time is within 2 ms, unless none was on the way and rounding passes below
zero.** -/
theorem rttFromRr_accurate_iff (rr : RtcpRrBlock) (t0 d r : Nat)
    (hlast : rr.lastSr
      = compactNtp (getNtpTime (UInt64.ofNat t0)).1 (getNtpTime (UInt64.ofNat t0)).2)
    (hne : rr.lastSr ≠ 0) (hdelay : rr.delaySinceSr = delaySince (UInt64.ofNat d))
    (hrange : d + r < 2 ^ 15 * 1000) (hclock : t0 + d + r < 2 ^ 64) :
    |(rtcRtcpRttFromRr rr (UInt64.ofNat (t0 + d + r))).toInt - r| ≤ 2
      ↔ r ≠ 0 ∨ ntpUnits t0 + delayUnits d ≤ ntpUnits (t0 + d) := by
  obtain ⟨hle0, hlt0⟩ := ntpUnits_bounds t0
  obtain ⟨hle1, hlt1⟩ := ntpUnits_bounds (t0 + d + r)
  obtain ⟨hled, hltd⟩ := delayUnits_bounds d
  rw [rtcRtcpRttFromRr_toInt hne, rttNtp_toNat hlast hdelay hrange hclock, abs_le]
  by_cases hpass : ntpUnits t0 + delayUnits d ≤ ntpUnits (t0 + d + r)
  · -- the difference is that of the numbers, `r` ms up to the three roundings
    have hdiff : (ntpUnits (t0 + d + r) + 2 ^ 32 - ntpUnits t0 - delayUnits d) % 2 ^ 32
        = ntpUnits (t0 + d + r) - (ntpUnits t0 + delayUnits d) := by
      omega
    rw [hdiff]
    refine iff_of_true (by omega) ?_
    rcases Nat.eq_zero_or_pos r with rfl | hr
    · exact .inr hpass
    · exact .inl (by omega)
  · -- it is one unit below zero, and then `r` is 0
    have hr : r = 0 := by omega
    subst hr
    have hunit : ntpUnits t0 + delayUnits d = ntpUnits (t0 + d + 0) + 1 := by omega
    have hdiff : (ntpUnits (t0 + d + 0) + 2 ^ 32 - ntpUnits t0 - delayUnits d) % 2 ^ 32
        = 2 ^ 32 - 1 := by
      rw [Nat.sub_sub, hunit]
      omega
    rw [hdiff]
    exact iff_of_false (by omega) (by rw [Nat.add_zero] at hpass; omega)

def answered : RtcpRrBlock :=
  { ssrc := 7, fractionLost := 0, cumulativeLost := 0, highestSeq := 0, jitter := 0,
    lastSr := compactNtp (getNtpTime 1000000).1 (getNtpTime 1000000).2,
    delaySinceSr := delaySince 125 }

/-- With 40 ms on the way the result is 39 or 40. -/
theorem answered_rtt : |(rtcRtcpRttFromRr answered 1000165).toInt - 40| ≤ 2 :=
  (rttFromRr_accurate_iff answered 1000000 125 40 rfl (by decide) rfl (by decide) (by decide)).mpr
    (.inl (by decide))

/-- With nothing on the way it is 65535999 ms. -/
theorem answered_at_once_rtt :
    answered.lastSr ≠ 0 ∧ (rtcRtcpRttFromRr answered 1000125).toInt = 65535999 := by
  decide

end Mrtc
