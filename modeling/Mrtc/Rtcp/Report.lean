import Mrtc.Basic.Err
import Mrtc.Lib.Bytes
import Mrtc.Rtcp.Stats

/-! # Sender and receiver reports (`rtc_rtcp.c`)

The reports a stream sends about itself and about the source it receives, as they are built, and
as they are read from a packet.
-/

namespace Mrtc

open Net List

def rtcpPtSr : Nat := 200
def rtcpPtRr : Nat := 201
def rtcpSrSize : Nat := 20
def rtcpRrBlockSize : Nat := 24

/-! ## The source -/

structure RtcpRrBlock where
  ssrc : UInt32
  fractionLost : UInt8
  cumulativeLost : Int
  highestSeq : UInt32
  jitter : UInt32
  lastSr : UInt32
  delaySinceSr : UInt32
  deriving DecidableEq

open RtcpRrBlock

structure RtcpSr where
  ssrc : UInt32
  ntpSec : UInt32
  ntpFrac : UInt32
  rtpTimestamp : UInt32
  senderPktCount : UInt32
  senderOctCount : UInt32
  deriving DecidableEq

def RtcpSr.zero : RtcpSr := ⟨0, 0, 0, 0, 0, 0⟩

structure RtcpReport where
  padding : Bool
  count : Nat
  packetType : Nat
  length : Nat
  senderSsrc : UInt32
  sr : RtcpSr
  reports : List RtcpRrBlock
  deriving DecidableEq

def getNtpTime (ms : UInt64) : UInt32 × UInt32 :=
  let msFrac := (ms % 1000).toUInt32
  ((ms / 1000).toUInt32 + 2208988800, (msFrac.toUInt64 * 4294967).toUInt32)

def compactNtp (sec frac : UInt32) : UInt32 := (sec &&& 0xFFFF) <<< 16 ||| (frac >>> 16)

def rtcRtcpStatsOnSrRecv (stats : RtcpStats) (sr : RtcpSr) (nowMs : UInt64) : RtcpStats :=
  { stats with lastSrNtp := compactNtp sr.ntpSec sr.ntpFrac, lastSrRecvTime := nowMs }

def delaySince (delayMs : UInt64) : UInt32 := ((delayMs * 65536) / 1000).toUInt32

def RtcpStats.block (stats : RtcpStats) (nowMs : UInt64) : RtcpRrBlock :=
  { ssrc := stats.remoteSsrc
    fractionLost :=
      if stats.packetsExpected > 0 then
        ((stats.packetsLost * 256) / stats.packetsExpected).toUInt8
      else 0
    cumulativeLost := stats.packetsLost.toInt32.toInt
    highestSeq := stats.highestSeq
    jitter := stats.jitter
    lastSr := stats.lastSrNtp
    delaySinceSr :=
      if stats.lastSrRecvTime > 0 then delaySince (nowMs - stats.lastSrRecvTime) else 0 }

def RtcpStats.blocks (stats : RtcpStats) (nowMs : UInt64) : List RtcpRrBlock :=
  if stats.remoteSsrc ≠ 0 ∧ stats.firstPacket = false then [stats.block nowMs] else []

def RtcpRrBlock.lostField (rr : RtcpRrBlock) : Nat :=
  rr.fractionLost.toNat * 2 ^ 24 + (rr.cumulativeLost % 2 ^ 24).toNat

def RtcpRrBlock.bytes (rr : RtcpRrBlock) : Bytes :=
  writeU32 rr.ssrc.toNat ++ writeU32 rr.lostField ++ writeU32 rr.highestSeq.toNat
    ++ writeU32 rr.jitter.toNat ++ writeU32 rr.lastSr.toNat ++ writeU32 rr.delaySinceSr.toNat

def reportBytes (pt : Nat) (ssrc : UInt32) (body : Bytes) (reports : List RtcpRrBlock) : Bytes :=
  let rest := writeU32 ssrc.toNat ++ body ++ reports.flatMap bytes
  [UInt8.ofNat (2 * 2 ^ 6 + reports.length % 2 ^ 5), UInt8.ofNat pt]
    ++ writeU16 ((4 + rest.length) / 4 - 1) ++ rest

def RtcpSr.bytes (sr : RtcpSr) : Bytes :=
  writeU32 sr.ntpSec.toNat ++ writeU32 sr.ntpFrac.toNat ++ writeU32 sr.rtpTimestamp.toNat
    ++ writeU32 sr.senderPktCount.toNat ++ writeU32 sr.senderOctCount.toNat

def RtcpStats.senderInfo (stats : RtcpStats) (unixMs : UInt64) : RtcpSr :=
  { ssrc := stats.ssrc
    ntpSec := (getNtpTime unixMs).1
    ntpFrac := (getNtpTime unixMs).2
    rtpTimestamp := stats.rtpTimestamp
    senderPktCount := stats.packetsSent
    senderOctCount := stats.octetsSent }

def rtcRtcpBuildSr (stats : RtcpStats) (unixMs nowMs : UInt64) : Bytes :=
  reportBytes rtcpPtSr stats.ssrc (stats.senderInfo unixMs).bytes (stats.blocks nowMs)

def rtcRtcpBuildRr (stats : RtcpStats) (nowMs : UInt64) : Bytes :=
  reportBytes rtcpPtRr stats.ssrc [] (stats.blocks nowMs)

def word (data : Bytes) (offset : Nat) : UInt32 := UInt32.ofNat (readU32 data offset)

def readBlock (data : Bytes) (offset : Nat) : RtcpRrBlock :=
  let lostField := (word data (offset + 4)).toNat
  let lost : Int := lostField % 2 ^ 24
  { ssrc := word data offset
    fractionLost := UInt8.ofNat (lostField / 2 ^ 24)
    -- the sign of the 24 bits is extended
    cumulativeLost := if 2 ^ 23 ≤ lost then lost - 2 ^ 24 else lost
    highestSeq := word data (offset + 8)
    jitter := word data (offset + 12)
    lastSr := word data (offset + 16)
    delaySinceSr := word data (offset + 20) }

def readBlocks (data : Bytes) : (count : Nat) → (offset : Nat) → List RtcpRrBlock
  | 0, _ => []
  | count + 1, offset =>
    if data.length < offset + rtcpRrBlockSize then []
    else readBlock data offset :: readBlocks data count (offset + rtcpRrBlockSize)

def readSr (data : Bytes) : RtcpSr :=
  { ssrc := word data 4
    ntpSec := word data 8
    ntpFrac := word data 12
    rtpTimestamp := word data 16
    senderPktCount := word data 20
    senderOctCount := word data 24 }

def rtcRtcpParse (data : Bytes) : Except RtcErr RtcpReport :=
  if data.length < 8 then .error .invalid
  else if byteAt data 0 / 2 ^ 6 ≠ 2 then .error .invalid
  else if data.length < (readU16 data 2 + 1) * 4 then .error .invalid
  else if byteAt data 1 = rtcpPtSr ∧ data.length < 8 + rtcpSrSize then .error .invalid
  else
    let count := byteAt data 0 % 2 ^ 5
    .ok
      { padding := byteAt data 0 / 2 ^ 5 % 2 = 1
        count := count
        packetType := byteAt data 1
        length := readU16 data 2
        senderSsrc := word data 4
        sr := if byteAt data 1 = rtcpPtSr then readSr data else RtcpSr.zero
        reports := readBlocks data (min count 31)
          (if byteAt data 1 = rtcpPtSr then 8 + rtcpSrSize else 8) }

/-! ## Reading what was written -/

def words (ws : List UInt32) : Bytes := ws.flatMap fun w => writeU32 w.toNat

@[simp] theorem words_length (ws : List UInt32) : (words ws).length = 4 * ws.length := by
  induction ws with
  | nil => rfl
  | cons w ws ih =>
    rw [words, flatMap_cons, length_append, writeU32_length, length_cons]
    change 4 + (words ws).length = _
    omega

theorem word_words (front : Bytes) {ws : List UInt32} (rest : Bytes) {i : Nat} {w : UInt32}
    (hi : ws[i]? = some w) : word (front ++ (words ws ++ rest)) (front.length + 4 * i) = w := by
  induction ws generalizing front i with
  | nil => cases hi
  | cons v ws ih =>
    have hcons : words (v :: ws) = writeU32 v.toNat ++ words ws := rfl
    rw [hcons, append_assoc]
    cases i with
    | zero =>
      obtain rfl : v = w := Option.some.inj hi
      rw [Nat.mul_zero, Nat.add_zero, word, readU32_append_right le_rfl, Nat.sub_self,
        readU32_writeU32 v.toNat_lt, UInt32.ofNat_toNat]
    | succ i =>
      -- the first number goes over to what stands before the others
      have hrest := ih (front ++ writeU32 v.toNat) hi
      rwa [append_assoc, length_append, writeU32_length, Nat.add_assoc,
        Nat.add_comm 4, ← Nat.mul_succ] at hrest

theorem RtcpRrBlock.lostField_lt (rr : RtcpRrBlock) : rr.lostField < 2 ^ 32 := by
  have hfraction := rr.fractionLost.toNat_lt
  have hlost := Int.emod_lt_of_pos rr.cumulativeLost (show (0 : Int) < 2 ^ 24 by decide)
  unfold lostField
  omega

theorem RtcpRrBlock.bytes_eq (rr : RtcpRrBlock) :
    rr.bytes = words [rr.ssrc, UInt32.ofNat rr.lostField, rr.highestSeq, rr.jitter, rr.lastSr,
      rr.delaySinceSr] := by
  have hlost : (UInt32.ofNat rr.lostField).toNat = rr.lostField := by
    rw [UInt32.toNat_ofNat', Nat.mod_eq_of_lt rr.lostField_lt]
  simp only [bytes, words, flatMap_cons, flatMap_nil, append_nil, hlost,
    append_assoc]

theorem RtcpSr.bytes_eq (sr : RtcpSr) :
    sr.bytes = words [sr.ntpSec, sr.ntpFrac, sr.rtpTimestamp, sr.senderPktCount,
      sr.senderOctCount] := by
  simp only [RtcpSr.bytes, words, flatMap_cons, flatMap_nil, append_nil,
    append_assoc]

def RtcpRrBlock.sent (rr : RtcpRrBlock) : RtcpRrBlock :=
  { rr with cumulativeLost := rr.cumulativeLost.bmod (2 ^ 24) }

theorem RtcpRrBlock.lostField_parts (rr : RtcpRrBlock) :
    rr.lostField / 2 ^ 24 = rr.fractionLost.toNat
      ∧ (rr.lostField : Int) % 2 ^ 24 = rr.cumulativeLost % 2 ^ 24 := by
  have hnonneg := Int.emod_nonneg rr.cumulativeLost (show (2 ^ 24 : Int) ≠ 0 by decide)
  have hlost := Int.emod_lt_of_pos rr.cumulativeLost (show (0 : Int) < 2 ^ 24 by decide)
  unfold lostField
  omega

theorem readBlock_bytes (front : Bytes) (rr : RtcpRrBlock) (rest : Bytes) :
    readBlock (front ++ (rr.bytes ++ rest)) front.length = rr.sent := by
  have hat : ∀ (i : Nat) {w : UInt32},
      [rr.ssrc, UInt32.ofNat rr.lostField, rr.highestSeq, rr.jitter, rr.lastSr,
        rr.delaySinceSr][i]? = some w →
      word (front ++ (rr.bytes ++ rest)) (front.length + 4 * i) = w := by
    intro i w hi
    rw [rr.bytes_eq]
    exact word_words front rest hi
  have hlost : (UInt32.ofNat rr.lostField).toNat = rr.lostField := by
    rw [UInt32.toNat_ofNat', Nat.mod_eq_of_lt rr.lostField_lt]
  obtain ⟨hfraction, hcumulative⟩ := rr.lostField_parts
  -- the parser extends the sign of the 24 bits by hand
  have hsign : (if (2 ^ 23 : Int) ≤ rr.cumulativeLost % 2 ^ 24 then
      rr.cumulativeLost % 2 ^ 24 - 2 ^ 24 else rr.cumulativeLost % 2 ^ 24)
      = rr.cumulativeLost.bmod (2 ^ 24) := by
    rw [Int.bmod_def]
    norm_num
    split <;> split <;> omega
  have hssrc := hat 0 rfl
  rw [Nat.mul_zero, Nat.add_zero] at hssrc
  rw [readBlock, hssrc, hat 1 rfl, hat 2 rfl, hat 3 rfl, hat 4 rfl, hat 5 rfl, hlost, hfraction,
    hcumulative, hsign, UInt8.ofNat_toNat, sent]

theorem readBlocks_bytes (front : Bytes) (reports : List RtcpRrBlock) :
    readBlocks (front ++ reports.flatMap bytes) reports.length front.length
      = reports.map sent := by
  induction reports generalizing front with
  | nil => rfl
  | cons rr reports ih =>
    have hlen : rr.bytes.length = rtcpRrBlockSize := by rw [rr.bytes_eq, words_length]; rfl
    -- the block just read is part of what stands before the rest
    have hrest := ih (front ++ rr.bytes)
    rw [append_assoc, length_append, hlen] at hrest
    rw [flatMap_cons, length_cons, readBlocks, readBlock_bytes, hrest,
      if_neg (by simp only [length_append]; omega), map_cons]

section

variable {pt : Nat} (ssrc : UInt32) (ws : List UInt32) {reports : List RtcpRrBlock}

theorem flatMap_bytes_length (reports : List RtcpRrBlock) :
    (reports.flatMap bytes).length = 24 * reports.length := by
  induction reports with
  | nil => rfl
  | cons rr reports ih =>
    rw [flatMap_cons, length_append, ih, rr.bytes_eq, words_length, length_cons]
    simp only [length_cons, length_nil]
    omega

def reportFront (pt count : Nat) (ssrc : UInt32) (ws : List UInt32) : Bytes :=
  [UInt8.ofNat (2 * 2 ^ 6 + count % 2 ^ 5), UInt8.ofNat pt]
    ++ writeU16 (1 + ws.length + 6 * count) ++ words (ssrc :: ws)

theorem reportBytes_eq (pt : Nat) (reports : List RtcpRrBlock) :
    reportBytes pt ssrc (words ws) reports
      = reportFront pt reports.length ssrc ws ++ reports.flatMap bytes := by
  have hlen : (4 + (writeU32 ssrc.toNat ++ words ws ++ reports.flatMap bytes).length) / 4
      - 1 = 1 + ws.length + 6 * reports.length := by
    rw [length_append, length_append, writeU32_length, words_length, flatMap_bytes_length]
    omega
  have hwords : writeU32 ssrc.toNat ++ words ws = words (ssrc :: ws) := rfl
  rw [reportBytes, hlen, hwords, reportFront, append_assoc, append_assoc, append_assoc]

theorem reportFront_length (pt count : Nat) :
    (reportFront pt count ssrc ws).length = 8 + 4 * ws.length := by
  rw [reportFront, length_append, length_append, words_length, writeU16_length,
    length_cons]
  simp only [length_cons, length_nil]
  omega

theorem report_fields (hpt : pt < 2 ^ 8) (hws : ws.length ≤ 5) (hcount : reports.length ≤ 31) :
    let data := reportFront pt reports.length ssrc ws ++ reports.flatMap bytes
    byteAt data 0 = 2 * 2 ^ 6 + reports.length ∧ byteAt data 1 = pt
      ∧ readU16 data 2 = 1 + ws.length + 6 * reports.length
      ∧ data.length = 8 + 4 * ws.length + 24 * reports.length
      ∧ ∀ (i : Nat) {w : UInt32}, (ssrc :: ws)[i]? = some w → word data (4 + 4 * i) = w := by
  set head : Bytes := [UInt8.ofNat (2 * 2 ^ 6 + reports.length % 2 ^ 5), UInt8.ofNat pt] with hhead
  set rest : Bytes := words (ssrc :: ws) ++ reports.flatMap bytes with hrest
  have hdata : reportFront pt reports.length ssrc ws ++ reports.flatMap bytes
      = head ++ (writeU16 (1 + ws.length + 6 * reports.length) ++ rest) := by
    rw [reportFront, ← hhead, hrest]
    simp only [append_assoc]
  have hlength : (reportFront pt reports.length ssrc ws
      ++ reports.flatMap bytes).length = 8 + 4 * ws.length + 24 * reports.length := by
    rw [length_append, reportFront_length, flatMap_bytes_length]
  dsimp only
  refine ⟨?_, ?_, ?_, hlength, ?_⟩
  · rw [hdata, byteAt_append_left (by simp [hhead])]
    simp [byteAt, hhead]
    omega
  · rw [hdata, byteAt_append_left (by simp [hhead])]
    simp [byteAt, hhead]
    omega
  · rw [hdata, readU16_append_right (by simp [hhead])]
    simp only [hhead, length_cons, length_nil, Nat.zero_add, Nat.reduceAdd, Nat.sub_self]
    exact readU16_writeU16 (by omega) rest
  · intro i w hi
    rw [hdata, hrest, ← append_assoc]
    exact word_words (head ++ writeU16 _) _ hi

theorem rtcRtcpParse_report (hpt : pt < 2 ^ 8) (hcount : reports.length ≤ 31)
    (hws : ws.length = if pt = rtcpPtSr then 5 else 0) :
    let data := reportBytes pt ssrc (words ws) reports
    rtcRtcpParse data
      = .ok
        { padding := false
          count := reports.length
          packetType := pt
          length := 1 + ws.length + 6 * reports.length
          senderSsrc := ssrc
          sr := if pt = rtcpPtSr then readSr data else RtcpSr.zero
          reports := reports.map sent } := by
  have hfive : ws.length ≤ 5 := by rw [hws]; split <;> omega
  have hoffset : (if pt = rtcpPtSr then 8 + rtcpSrSize else 8)
      = (reportFront pt reports.length ssrc ws).length := by
    rw [reportFront_length, hws]
    split <;> rfl
  obtain ⟨hzero, hone, hlen, hlength, hword⟩ := report_fields ssrc ws hpt hfive hcount
  have hblocks := readBlocks_bytes (reportFront pt reports.length ssrc ws) reports
  dsimp only
  rw [reportBytes_eq, rtcRtcpParse, hzero, hone, hlen, hlength, if_neg (by omega),
    if_neg (by omega), if_neg (by omega), if_neg, hoffset]
  · rw [show (2 * 2 ^ 6 + reports.length) % 2 ^ 5 = reports.length by omega,
      show (2 * 2 ^ 6 + reports.length) / 2 ^ 5 % 2 = 0 by omega]
    dsimp only
    rw [Nat.min_eq_left hcount, hblocks, hword 0 rfl]
    rfl
  · -- a sender report has its five words before the blocks
    rintro ⟨hsr, hshort⟩
    rw [if_pos hsr] at hws
    unfold rtcpSrSize at hshort
    omega

end

theorem RtcpStats.blocks_length_le (stats : RtcpStats) (nowMs : UInt64) :
    (stats.blocks nowMs).length ≤ 31 := by
  unfold RtcpStats.blocks
  split <;> simp

/-- **A receiver report is read as it was built.** -/
theorem rtcRtcpParse_buildRr (stats : RtcpStats) (nowMs : UInt64) :
    rtcRtcpParse (rtcRtcpBuildRr stats nowMs)
      = .ok
        { padding := false
          count := (stats.blocks nowMs).length
          packetType := rtcpPtRr
          length := 1 + 6 * (stats.blocks nowMs).length
          senderSsrc := stats.ssrc
          sr := RtcpSr.zero
          reports := (stats.blocks nowMs).map sent } :=
  rtcRtcpParse_report stats.ssrc [] (by decide) (stats.blocks_length_le nowMs) rfl

/-- **A sender report is read as it was built.** -/
theorem rtcRtcpParse_buildSr (stats : RtcpStats) (unixMs nowMs : UInt64) :
    rtcRtcpParse (rtcRtcpBuildSr stats unixMs nowMs)
      = .ok
        { padding := false
          count := (stats.blocks nowMs).length
          packetType := rtcpPtSr
          length := 6 + 6 * (stats.blocks nowMs).length
          senderSsrc := stats.ssrc
          sr := stats.senderInfo unixMs
          reports := (stats.blocks nowMs).map sent } := by
  have hcount := stats.blocks_length_le nowMs
  set sr := stats.senderInfo unixMs with hsr
  have hread : readSr (rtcRtcpBuildSr stats unixMs nowMs) = sr := by
    obtain ⟨-, -, -, -, hword⟩ := report_fields stats.ssrc [sr.ntpSec, sr.ntpFrac, sr.rtpTimestamp,
      sr.senderPktCount, sr.senderOctCount] (show rtcpPtSr < 2 ^ 8 by decide) le_rfl hcount
    rw [rtcRtcpBuildSr, ← hsr, sr.bytes_eq, reportBytes_eq, readSr, hword 0 rfl, hword 1 rfl,
      hword 2 rfl, hword 3 rfl, hword 4 rfl, hword 5 rfl]
    rfl
  have hparse := rtcRtcpParse_report stats.ssrc [sr.ntpSec, sr.ntpFrac, sr.rtpTimestamp,
      sr.senderPktCount, sr.senderOctCount] (show rtcpPtSr < 2 ^ 8 by decide) hcount rfl
  dsimp only at hparse
  rw [← sr.bytes_eq, if_pos rfl] at hparse
  rw [← hread]
  exact hparse

/-! ## The packets lost -/

def RtcpStats.saturatedBlocks (stats : RtcpStats) (nowMs : UInt64) : List RtcpRrBlock :=
  (stats.blocks nowMs).map fun rr =>
    { rr with cumulativeLost := min (stats.packetsLost.toNat : Int) (2 ^ 23 - 1) }

theorem bmod_eq_saturated_iff (lost : UInt32) :
    lost.toInt32.toInt.bmod (2 ^ 24) = min (lost.toNat : Int) (2 ^ 23 - 1)
      ↔ lost.toNat < 2 ^ 23 ∨ lost.toNat % 2 ^ 24 = 2 ^ 23 - 1 := by
  have hlt := lost.toNat_lt
  have hint : lost.toInt32.toInt = if 2 * lost.toNat < 2 ^ 32 then (lost.toNat : Int)
      else lost.toNat - 2 ^ 32 := BitVec.toInt_eq_toNat_cond lost.toBitVec
  have hmod : lost.toInt32.toInt % 2 ^ 24 = (lost.toNat : Int) % 2 ^ 24 := by
    rw [hint]
    split <;> omega
  have hbmod : lost.toInt32.toInt.bmod (2 ^ 24)
      = if (lost.toNat : Int) % 2 ^ 24 < 2 ^ 23 then (lost.toNat : Int) % 2 ^ 24
        else (lost.toNat : Int) % 2 ^ 24 - 2 ^ 24 := by
    rw [Int.bmod_def]
    norm_num at hmod ⊢
    rw [hmod]
  rw [hbmod]
  split <;> omega

/-- **Both reports are read as they were built, but the packets lost are not saturated.** -/
theorem reports_saturated_iff (stats : RtcpStats) (unixMs nowMs : UInt64) :
    ∃ sr rr, rtcRtcpParse (rtcRtcpBuildSr stats unixMs nowMs) = .ok sr
      ∧ rtcRtcpParse (rtcRtcpBuildRr stats nowMs) = .ok rr
      ∧ sr.senderSsrc = stats.ssrc ∧ rr.senderSsrc = stats.ssrc
      ∧ sr.sr = stats.senderInfo unixMs
      ∧ sr.reports = (stats.blocks nowMs).map sent ∧ rr.reports = sr.reports
      ∧ (sr.reports = stats.saturatedBlocks nowMs ↔
        stats.blocks nowMs = [] ∨ stats.packetsLost.toNat < 2 ^ 23
          ∨ stats.packetsLost.toNat % 2 ^ 24 = 2 ^ 23 - 1) := by
  refine ⟨_, _, rtcRtcpParse_buildSr stats unixMs nowMs, rtcRtcpParse_buildRr stats nowMs, rfl, rfl,
    rfl, rfl, rfl, ?_⟩
  rw [RtcpStats.saturatedBlocks]
  dsimp only
  by_cases hsource : stats.remoteSsrc ≠ 0 ∧ stats.firstPacket = false
  · have hblocks : stats.blocks nowMs = [stats.block nowMs] := if_pos hsource
    have hlost : (stats.block nowMs).cumulativeLost = stats.packetsLost.toInt32.toInt := rfl
    rw [hblocks, map_singleton, map_singleton, ← bmod_eq_saturated_iff, ← hlost]
    simp [sent]
  · have hblocks : stats.blocks nowMs = [] := if_neg hsource
    simp [hblocks]

def statsOfLost (lost : UInt32) : RtcpStats :=
  { rtcRtcpStatsInit 7 0 with
    remoteSsrc := 9, firstPacket := false, packetsReceived := 1, packetsExpected := lost + 1,
    packetsLost := lost, highestSeq := lost }

/-- The first number that does not fit is read as the smallest there is. -/
theorem lost_overflows :
    ∃ report, rtcRtcpParse (rtcRtcpBuildRr (statsOfLost 0x800000) 1000) = .ok report
      ∧ report.reports.map cumulativeLost = [-2 ^ 23]
      ∧ ((statsOfLost 0x800000).saturatedBlocks 1000).map cumulativeLost
        = [2 ^ 23 - 1] :=
  ⟨_, rtcRtcpParse_buildRr _ _, by decide, by decide⟩

end Mrtc
