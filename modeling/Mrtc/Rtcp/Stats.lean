import Mrtc.Lib.HalfWord
import Mrtc.Lib.Rollover

/-! # Statistics of a source (`rtc_rtcp.c`)

What a stream counts about the packets it receives: the highest sequence number, extended to
32 bits, the packets lost, and the interarrival jitter.
-/

namespace Mrtc

open List

/-! ## The source -/

structure RtcpStats where
  ssrc : UInt32
  packetsSent : UInt32
  octetsSent : UInt32
  rtpTimestamp : UInt32
  remoteSsrc : UInt32
  packetsReceived : UInt32
  packetsExpected : UInt32
  packetsLost : UInt32
  highestSeq : UInt32
  baseSeq : UInt32
  jitter : UInt32
  lastTransit : UInt32
  lastSrNtp : UInt32
  lastSrRecvTime : UInt64
  lastReportTime : UInt64
  firstPacket : Bool
  deriving DecidableEq

def rtcRtcpStatsInit (ssrc : UInt32) (nowMs : UInt64) : RtcpStats :=
  { ssrc := ssrc, packetsSent := 0, octetsSent := 0, rtpTimestamp := 0, remoteSsrc := 0,
    packetsReceived := 0, packetsExpected := 0, packetsLost := 0, highestSeq := 0, baseSeq := 0,
    jitter := 0, lastTransit := 0, lastSrNtp := 0, lastSrRecvTime := 0, lastReportTime := nowMs,
    firstPacket := true }

structure RtpArrival where
  seq : UInt16
  timestamp : UInt32
  ssrc : UInt32
  clockRate : UInt32
  nowMs : UInt64
  deriving DecidableEq

def RtcpStats.start (stats : RtcpStats) (a : RtpArrival) : RtcpStats :=
  { stats with
    remoteSsrc := a.ssrc
    highestSeq := a.seq.toUInt32
    baseSeq := a.seq.toUInt32
    firstPacket := false
    packetsReceived := 1
    packetsExpected := 1 }

def extendSeq (highest : UInt32) (seq : UInt16) : UInt32 :=
  let seq32 := (highest &&& 0xFFFF0000) ||| seq.toUInt32
  if seq.toUInt32 < (highest &&& 0xFFFF) then
    if (highest &&& 0xFFFF) - seq.toUInt32 > 0x8000 then seq32 + 0x10000 else seq32
  else seq32

def RtcpStats.count (stats : RtcpStats) (seq : UInt16) : RtcpStats :=
  let received := stats.packetsReceived + 1
  let seq32 := extendSeq stats.highestSeq seq
  let highest := if seq32 > stats.highestSeq then seq32 else stats.highestSeq
  let expected := highest - stats.baseSeq + 1
  { stats with
    packetsReceived := received
    highestSeq := highest
    packetsExpected := expected
    packetsLost := if expected > received then expected - received else 0 }

def RtpArrival.transit (a : RtpArrival) : UInt32 :=
  ((a.nowMs * a.clockRate.toUInt64) / 1000).toUInt32 - a.timestamp

def transitDifference (transit lastTransit : UInt32) : Int32 := (transit - lastTransit).toInt32

def smoothed (jitter : UInt32) (d : Int32) : UInt32 :=
  jitter + (((if d < 0 then -d else d).toUInt32 - jitter + 8) >>> 4)

def RtcpStats.smooth (stats : RtcpStats) (a : RtpArrival) : RtcpStats :=
  if a.clockRate > 0 then
    { stats with
      jitter :=
        if stats.lastTransit ≠ 0 then
          smoothed stats.jitter (transitDifference a.transit stats.lastTransit)
        else stats.jitter
      lastTransit := a.transit }
  else stats

def rtcRtcpStatsOnRtpRecv (stats : RtcpStats) (a : RtpArrival) : RtcpStats :=
  if stats.firstPacket then stats.start a
  else if a.ssrc ≠ stats.remoteSsrc then stats
  else (stats.count a.seq).smooth a

def rtcRtcpStatsOnRtpSend (stats : RtcpStats) (timestamp : UInt32) (payloadLen : Nat) :
    RtcpStats :=
  { stats with
    packetsSent := stats.packetsSent + 1
    octetsSent := stats.octetsSent + UInt32.ofNat payloadLen
    rtpTimestamp := timestamp }

/-! ## The highest sequence number -/

open Rollover HalfWord

theorem extendSeq_toNat (highest : UInt32) (seq : UInt16) :
    (extendSeq highest seq).toNat
      = (guess (2 ^ 15) (highest.toNat / 2 ^ 16) (highest.toNat % 2 ^ 16) seq.toNat * 2 ^ 16
          + seq.toNat) % 2 ^ 32 := by
  have hseq := seq.toNat_lt
  have hhighest := highest.toNat_lt
  have hsame := toNat_replaceLow highest seq
  simp only [extendSeq, guess, rolledOver_iff]
  by_cases hlt : seq.toNat < highest.toNat % 2 ^ 16
  · have hlt' : seq.toUInt32 < highest &&& 0xFFFF := by
      rwa [UInt32.lt_iff_toNat_lt, toNat_low, UInt16.toNat_toUInt32]
    have hdrop : ((highest &&& 0xFFFF) - seq.toUInt32).toNat
        = highest.toNat % 2 ^ 16 - seq.toNat := by
      rw [UInt32.toNat_sub_of_le _ _ (UInt32.le_of_lt hlt'), toNat_low, UInt16.toNat_toUInt32]
    rw [if_pos hlt']
    by_cases hfar : 2 ^ 15 < highest.toNat % 2 ^ 16 - seq.toNat
    · rw [if_pos (by rw [gt_iff_lt, UInt32.lt_iff_toNat_lt, hdrop]; exact hfar),
        if_pos ⟨hlt, hfar⟩, UInt32.toNat_add, hsame]
      have hcycle : (0x10000 : UInt32).toNat = 2 ^ 16 := by decide
      rw [hcycle, Nat.add_one_mul]
      omega
    · grind [UInt32.lt_iff_toNat_lt, gt_iff_lt]
  · rw [if_neg (by rwa [UInt32.lt_iff_toNat_lt, toNat_low, UInt16.toNat_toUInt32]),
      if_neg (fun h => hlt h.1), hsame]
    omega

/-- The packet with index `x` can be told from its low 16 bits when `highest` is the largest index
seen: it is less than half a cycle ahead, or behind within half a cycle and in the same cycle. -/
def InCycle (highest x : Nat) : Prop :=
  x < highest + 2 ^ 15 ∧ highest ≤ x + 2 ^ 15 ∧ highest / 2 ^ 16 ≤ x / 2 ^ 16 ∧ x < 2 ^ 32

theorem extendSeq_of_inCycle {highest : UInt32} {x : Nat} (h : InCycle highest.toNat x) :
    (extendSeq highest (UInt16.ofNat x)).toNat = x := by
  obtain ⟨hahead, hbehind, hcycle, hx⟩ := h
  have hdigits := Nat.div_add_mod x (2 ^ 16)
  have hguess : guess (2 ^ 15) (highest.toNat / 2 ^ 16) (highest.toNat % 2 ^ 16) (x % 2 ^ 16)
      = x / 2 ^ 16 := by
    rcases Nat.le_total highest.toNat x with hle | hle
    · have := div_of_ahead (n := highest.toNat) (show x - highest.toNat < 2 ^ 15 by omega)
      rwa [Nat.add_sub_cancel' hle] at this
    · have hblock : (highest.toNat - (highest.toNat - x)) / (2 * 2 ^ 15)
          = highest.toNat / (2 * 2 ^ 15) := by omega
      have hnot := not_rolledOver_of_same_block (show highest.toNat - x ≤ 2 ^ 15 by omega)
        (Nat.sub_le _ _) hblock
      rw [Nat.sub_sub_self hle, show 2 * 2 ^ 15 = 2 ^ 16 from rfl] at hnot hblock
      rw [guess, hnot, if_neg Bool.false_ne_true, hblock]
  rw [extendSeq_toNat, UInt16.toNat_ofNat', hguess]
  omega

structure SourcePacket where
  index : Nat
  timestamp : UInt32
  clockRate : UInt32
  nowMs : UInt64

def SourcePacket.arrival (source : UInt32) (p : SourcePacket) : RtpArrival :=
  { seq := UInt16.ofNat p.index, timestamp := p.timestamp, ssrc := source,
    clockRate := p.clockRate, nowMs := p.nowMs }

def AlongLargest (R : Nat → Nat → Prop) : (largest : Nat) → List SourcePacket → Prop
  | _, [] => True
  | largest, p :: packets => R largest p.index ∧ AlongLargest R (max largest p.index) packets

def largestIndex (largest : Nat) (packets : List SourcePacket) : Nat :=
  packets.foldl (fun largest p => max largest p.index) largest

theorem RtcpStats.smooth_eq (stats : RtcpStats) (a : RtpArrival) :
    ∃ jitter transit,
      stats.smooth a = { stats with jitter := jitter, lastTransit := transit } := by
  unfold RtcpStats.smooth
  split
  · exact ⟨_, _, rfl⟩
  · exact ⟨stats.jitter, stats.lastTransit, rfl⟩

/-- The counters of a stream that runs from `first` to `largest`. -/
structure RtcpStats.Follows (stats : RtcpStats) (source : UInt32) (first largest : Nat) : Prop where
  started : stats.firstPacket = false
  remote : stats.remoteSsrc = source
  base : stats.baseSeq.toNat = first
  highest : stats.highestSeq.toNat = largest
  expected : stats.packetsExpected.toNat = (largest - first + 1) % 2 ^ 32
  first_le : first ≤ largest

theorem RtcpStats.follows_start (stats : RtcpStats) (source : UInt32) {p : SourcePacket}
    (hfirst : p.index < 2 ^ 16) :
    (stats.start (p.arrival source)).Follows source p.index p.index := by
  have hseq : (UInt16.ofNat p.index).toUInt32.toNat = p.index := by
    rw [UInt16.toNat_toUInt32, UInt16.toNat_ofNat', Nat.mod_eq_of_lt hfirst]
  exact ⟨rfl, rfl, hseq, hseq, by simp [RtcpStats.start], le_rfl⟩

variable {stats : RtcpStats}

theorem RtcpStats.Follows.recv {source : UInt32} {first largest : Nat}
    (h : stats.Follows source first largest) {p : SourcePacket} (hp : InCycle largest p.index) :
    (rtcRtcpStatsOnRtpRecv stats (p.arrival source)).Follows source first
      (max largest p.index) := by
  rw [← h.highest] at hp
  have hseq := extendSeq_of_inCycle hp
  rw [h.highest] at hp
  have hhighest : (stats.count (UInt16.ofNat p.index)).highestSeq.toNat
      = max largest p.index := by
    simp only [RtcpStats.count, gt_iff_lt, UInt32.lt_iff_toNat_lt]
    split
    · rename_i hlt
      rw [hseq, h.highest] at hlt
      rw [hseq, max_eq_right hlt.le]
    · rename_i hge
      rw [hseq, h.highest, not_lt] at hge
      rw [h.highest, max_eq_left hge]
  rw [rtcRtcpStatsOnRtpRecv, h.started, if_neg Bool.false_ne_true,
    if_neg (show ¬(p.arrival source).ssrc ≠ stats.remoteSsrc from not_not.mpr h.remote.symm)]
  have hle : first ≤ max largest p.index := h.first_le.trans (le_max_left _ _)
  have hbase : stats.baseSeq ≤ (stats.count (UInt16.ofNat p.index)).highestSeq := by
    rw [UInt32.le_iff_toNat_le, hhighest, h.base]
    exact hle
  obtain ⟨jitter, transit, hsmooth⟩ :=
    (stats.count (p.arrival source).seq).smooth_eq (p.arrival source)
  rw [hsmooth]
  refine ⟨h.started, h.remote, h.base, hhighest, ?_, hle⟩
  show ((stats.count (UInt16.ofNat p.index)).highestSeq - stats.baseSeq + 1).toNat = _
  rw [UInt32.toNat_add, UInt32.toNat_sub_of_le _ _ hbase, hhighest, h.base]
  rfl

theorem RtcpStats.Follows.recvAll {source : UInt32} {first largest : Nat}
    (h : stats.Follows source first largest) {packets : List SourcePacket}
    (hpackets : AlongLargest InCycle largest packets) :
    ((packets.map (SourcePacket.arrival source)).foldl rtcRtcpStatsOnRtpRecv stats).Follows source
      first (largestIndex largest packets) := by
  induction packets generalizing stats largest with
  | nil => exact h
  | cons p packets ih => exact ih (h.recv hpackets.1) hpackets.2

/-- **The extended highest sequence number is the largest index**, after any packets of a source in
any order, if every index is in the cycle of the largest one before it, or ahead of that by less
than half a cycle. -/
theorem highestSeq_eq_largest (ssrc source : UInt32) (startMs : UInt64) (p : SourcePacket)
    (hfirst : p.index < 2 ^ 16) (packets : List SourcePacket)
    (hpackets : AlongLargest InCycle p.index packets) :
    let stats := ((p :: packets).map (SourcePacket.arrival source)).foldl rtcRtcpStatsOnRtpRecv
      (rtcRtcpStatsInit ssrc startMs)
    stats.highestSeq.toNat = largestIndex p.index packets
      ∧ stats.packetsExpected.toNat = (largestIndex p.index packets - p.index + 1) % 2 ^ 32 := by
  have hstart := (rtcRtcpStatsInit ssrc startMs).follows_start source hfirst
  have hrun := hstart.recvAll hpackets
  exact ⟨hrun.highest, hrun.expected⟩

def packetAt (index : Nat) : SourcePacket :=
  { index := index, timestamp := 0, clockRate := 0, nowMs := 0 }

theorem wrap_in_order_highestSeq :
    AlongLargest InCycle 65533 [packetAt 65535, packetAt 65534, packetAt 65537, packetAt 65536]
      ∧ (([packetAt 65533, packetAt 65535, packetAt 65534, packetAt 65537, packetAt 65536].map
          (SourcePacket.arrival 9)).foldl rtcRtcpStatsOnRtpRecv
          (rtcRtcpStatsInit 7 0)).highestSeq.toNat = 65537 :=
  have hpackets : AlongLargest InCycle 65533
      [packetAt 65535, packetAt 65534, packetAt 65537, packetAt 65536] := by
    simp [AlongLargest, packetAt, InCycle]
  ⟨hpackets, (highestSeq_eq_largest 7 9 0 (packetAt 65533) (by decide) _ hpackets).1⟩

def NearLargest (first largest x : Nat) : Prop :=
  first ≤ x ∧ x ≤ largest + 2 ^ 15 ∧ largest ≤ x + 2 ^ 15

/-- Packet 65535 comes in behind 65537: the highest number becomes 131071, and 65538 packets are
expected where four were sent. -/
theorem late_before_wrap_highestSeq :
    AlongLargest (NearLargest 65534) 65534 [packetAt 65537, packetAt 65535]
      ∧ largestIndex 65534 [packetAt 65537, packetAt 65535] = 65537
      ∧ let stats := ([packetAt 65534, packetAt 65537, packetAt 65535].map
          (SourcePacket.arrival 9)).foldl rtcRtcpStatsOnRtpRecv (rtcRtcpStatsInit 7 0)
        stats.highestSeq = 131071 ∧ stats.packetsExpected = 65538 := by
  refine ⟨?_, by decide, by decide⟩
  simp [AlongLargest, packetAt, NearLargest]

/-! ## The jitter -/

theorem toNat_abs {d : Int32} (h : d.toInt.natAbs < 2 ^ 31) :
    (if d < 0 then -d else d).toUInt32.toNat = d.toInt.natAbs := by
  have hlt := d.toUInt32.toNat_lt
  have hint : d.toInt = if 2 * d.toUInt32.toNat < 2 ^ 32 then (d.toUInt32.toNat : Int)
      else d.toUInt32.toNat - 2 ^ 32 := BitVec.toInt_eq_toNat_cond d.toBitVec
  split
  · rename_i hneg
    have hneg' : d.toInt < 0 := Int32.lt_iff_toInt_lt.mp hneg
    have hflip : (-d).toUInt32.toNat = (2 ^ 32 - d.toUInt32.toNat) % 2 ^ 32 :=
      UInt32.toNat_neg d.toUInt32
    rw [hflip]
    -- `hint` has one case for each sign, and the sign of `d` is known
    split at hint <;> omega
  · grind [Int32.lt_iff_toInt_lt]

theorem smoothed_le {jitter : UInt32} {d : Int32} (hd : d.toInt.natAbs < 2 ^ 31)
    (hnear : jitter.toNat ≤ d.toInt.natAbs + 8) :
    (smoothed jitter d).toNat ≤ max jitter.toNat d.toInt.natAbs := by
  have hjitter := jitter.toNat_lt
  have habs := toNat_abs hd
  rw [smoothed, ← habs]
  rw [← habs] at hd hnear
  generalize (if d < 0 then -d else d).toUInt32 = sample at hd hnear ⊢
  -- the difference does not pass below zero
  have hstep : (sample - jitter + 8).toNat = sample.toNat + 8 - jitter.toNat := by
    rw [UInt32.toNat_add, UInt32.toNat_sub]
    show (_ + 8) % _ = _
    omega
  have hshift : ((sample - jitter + 8) >>> 4).toNat = (sample.toNat + 8 - jitter.toNat) / 16 := by
    rw [UInt32.toNat_shiftRight, hstep, Nat.shiftRight_eq_div_pow]
    rfl
  rw [UInt32.toNat_add, hshift]
  refine (Nat.mod_le _ _).trans ?_
  rcases Nat.le_total jitter.toNat sample.toNat with hle | hle
  · rw [max_eq_right hle]
    omega
  · rw [max_eq_left hle]
    omega

def RtcpStats.sample (stats : RtcpStats) (a : RtpArrival) : Option Int :=
  if stats.firstPacket = false ∧ a.ssrc = stats.remoteSsrc ∧ a.clockRate > 0
      ∧ stats.lastTransit ≠ 0 then
    some (transitDifference a.transit stats.lastTransit).toInt
  else none

def RtcpStats.samples : RtcpStats → List RtpArrival → List Int
  | _, [] => []
  | stats, a :: arrivals =>
    (stats.sample a).toList ++ (rtcRtcpStatsOnRtpRecv stats a).samples arrivals

def largestSample (samples : List Int) : Nat := (samples.map Int.natAbs).foldr max 0

def RtcpStats.Steady : RtcpStats → List RtpArrival → Prop
  | _, [] => True
  | stats, a :: arrivals =>
    (∀ d ∈ stats.sample a, stats.jitter.toNat ≤ d.natAbs + 8)
      ∧ (rtcRtcpStatsOnRtpRecv stats a).Steady arrivals

theorem rtcRtcpStatsOnRtpRecv_jitter (stats : RtcpStats) (a : RtpArrival) :
    (stats.sample a = none ∧ (rtcRtcpStatsOnRtpRecv stats a).jitter = stats.jitter)
    ∨ ∃ d : Int32, stats.sample a = some d.toInt
        ∧ (rtcRtcpStatsOnRtpRecv stats a).jitter = smoothed stats.jitter d := by
  simp only [rtcRtcpStatsOnRtpRecv, RtcpStats.sample, RtcpStats.smooth]
  by_cases hfirst : stats.firstPacket = true
  · exact .inl (by simp [hfirst, RtcpStats.start])
  rw [if_neg hfirst]
  by_cases hssrc : a.ssrc = stats.remoteSsrc
  · rw [if_neg (not_not.mpr hssrc)]
    by_cases hrate : a.clockRate > 0
    · rw [if_pos hrate]
      by_cases htransit : stats.lastTransit = 0
      · -- the first transit time is only kept; so is any after one that is 0
        exact .inl (by simp [htransit, RtcpStats.count])
      · grind [RtcpStats.count]
    · exact .inl (by simp [hrate, RtcpStats.count])
  · exact .inl (by simp [hssrc])

theorem RtcpStats.jitter_le_bound {bound : Nat} {arrivals : List RtpArrival}
    (hbound : ∀ d ∈ stats.samples arrivals, d.natAbs ≤ bound)
    (hrange : ∀ d ∈ stats.samples arrivals, d.natAbs < 2 ^ 31) (hsteady : stats.Steady arrivals)
    (hjitter : stats.jitter.toNat ≤ bound) :
    (arrivals.foldl rtcRtcpStatsOnRtpRecv stats).jitter.toNat ≤ bound := by
  induction arrivals generalizing stats with
  | nil => exact hjitter
  | cons a arrivals ih =>
    rw [RtcpStats.samples] at hbound hrange
    refine ih (fun d hd => hbound d (mem_append_right _ hd))
      (fun d hd => hrange d (mem_append_right _ hd)) hsteady.2 ?_
    obtain ⟨-, heq⟩ | ⟨d, hsample, heq⟩ := rtcRtcpStatsOnRtpRecv_jitter stats a
    · rwa [heq]
    · have hmem : d.toInt ∈ (stats.sample a).toList := by simp [hsample]
      rw [heq]
      exact (smoothed_le (hrange _ (mem_append_left _ hmem)) (hsteady.1 _ hsample)).trans
        (max_le hjitter (hbound _ (mem_append_left _ hmem)))

theorem natAbs_le_largestSample {samples : List Int} {d : Int} (hd : d ∈ samples) :
    d.natAbs ≤ largestSample samples := by
  induction samples with
  | nil => cases hd
  | cons e samples ih =>
    rcases mem_cons.mp hd with rfl | hd
    · exact le_max_left _ _
    · exact (ih hd).trans (le_max_right _ _)

/-- **The jitter is at most the largest sample** of a run, if no sample of it is more than 8 below
the jitter it is added to. -/
theorem jitter_le_largest (ssrc : UInt32) (startMs : UInt64) (arrivals : List RtpArrival)
    (hrange : ∀ d ∈ (rtcRtcpStatsInit ssrc startMs).samples arrivals, d.natAbs < 2 ^ 31)
    (hsteady : (rtcRtcpStatsInit ssrc startMs).Steady arrivals) :
    (arrivals.foldl rtcRtcpStatsOnRtpRecv (rtcRtcpStatsInit ssrc startMs)).jitter.toNat
      ≤ largestSample ((rtcRtcpStatsInit ssrc startMs).samples arrivals) :=
  RtcpStats.jitter_le_bound (fun _ hd => natAbs_le_largestSample hd) hrange hsteady
    (Nat.zero_le _)

def onItsWay (transit : UInt64) : RtpArrival :=
  { seq := 0, timestamp := 0, ssrc := 9, clockRate := 1000, nowMs := transit }

theorem slower_jitter_le :
    ([onItsWay 1000, onItsWay 1000, onItsWay 1100, onItsWay 1300].foldl rtcRtcpStatsOnRtpRecv
      (rtcRtcpStatsInit 7 0)).jitter.toNat ≤ 200 :=
  jitter_le_largest 7 0 [onItsWay 1000, onItsWay 1000, onItsWay 1100, onItsWay 1300]
    (by decide) (by simp only [RtcpStats.Steady]; decide)

/-- Behind a delay of two seconds a packet that is not delayed any further makes the jitter
268435573, where the largest sample is 2000. -/
theorem undelayed_jitter_gt :
    let arrivals := [onItsWay 1000, onItsWay 1000, onItsWay 3000, onItsWay 3000]
    (rtcRtcpStatsInit 7 0).samples arrivals = [2000, 0]
      ∧ (arrivals.foldl rtcRtcpStatsOnRtpRecv (rtcRtcpStatsInit 7 0)).jitter = 268435573 := by
  decide

end Mrtc
