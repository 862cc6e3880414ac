import Mrtc.Map.U32
import Mrtc.Rtcp.Compound
import Mrtc.Rtcp.RoundTripTime

/-! # Where feedback goes (`rtc_media_session.c`)

A media session has three interceptors of its own: one for sender and receiver reports, one for
NACKs and one for requests of a keyframe.
-/

namespace Mrtc

open Net List

def rtcpPtPsfb : Nat := 206
def rtcpFmtNack : Nat := 1
def rtcpFmtPli : Nat := 1
def rtcpFmtFir : Nat := 4
def rtcpNackMaxFcis : Nat := 64
def rtcpNackMaxSeqs : Nat := rtcpNackMaxFcis * 17

/-! ## Streams by SSRC -/

structure StreamMap where
  map : U32Map Nat
  represents : ∃ S, U32Map.Represents map S

def StreamMap.empty : StreamMap := ⟨{}, {}, HashTable.sound_empty u32Hash u32MapEntrySize⟩

def StreamMap.get (streams : StreamMap) (ssrc : UInt32) : Option Nat :=
  (rtcU32MapGet streams.map ssrc).join

def rtcMediaSessionAddSender (streams : StreamMap) (ssrc : UInt32) (stream : Nat) (alloc : Bool) :
    Option (Except RtcErr Unit × StreamMap) :=
  match h : rtcU32MapSet streams.map ssrc (some stream) alloc with
  | none => none
  | some (rc, map) =>
    some (rc, ⟨map, by
      obtain ⟨S, hrep⟩ := streams.represents
      obtain ⟨rc', map', S', hset, -, hrep'⟩ := hrep.set ssrc (some stream) alloc
      rw [h, Option.some.injEq, Prod.mk.injEq] at hset
      exact ⟨S', hset.2 ▸ hrep'⟩⟩)

/-! ## The source -/

inductive SessionCall where
  /-- `rtc_rtp_recv_stream_on_sr` -/
  | recvStreamOnSr (stream : Nat) (sr : RtcpSr)
  /-- `rtc_transport_report_rtcp_loss` -/
  | reportRtcpLoss (fractionLost : UInt8)
  /-- `rtc_rtp_send_stream_on_rr` -/
  | sendStreamOnRr (stream : Nat) (rr : RtcpRrBlock) (rttMs : Int32)
  /-- `rtc_rtp_send_stream_handle_nack` -/
  | sendStreamHandleNack (stream : Nat) (lostSeqs : List UInt16)
  /-- `rtc_rtp_send_stream_handle_pli` -/
  | sendStreamHandlePli (stream : Nat)
  deriving DecidableEq

/-- What the interceptors of a session work on: the streams that send, those bound to an SSRC in
the transport, and the calls made so far. -/
structure SessionState where
  sendStreams : StreamMap
  bound : StreamMap
  unixMs : Nat → UInt64
  calls : List SessionCall := []

open SessionState

def SessionState.call (s : SessionState) (call : SessionCall) : SessionState :=
  { s with calls := s.calls ++ [call] }

def sessionHandleSr (s : SessionState) (buf : Bytes) : SessionState :=
  match rtcRtcpParse buf with
  | .error _ => s
  | .ok rtcp =>
    match s.bound.get rtcp.senderSsrc with
    | none => s
    | some rs => s.call (.recvStreamOnSr rs rtcp.sr)

def worstLoss (reports : List RtcpRrBlock) : UInt8 :=
  reports.foldl (fun worst rr => if rr.fractionLost > worst then rr.fractionLost else worst) 0

def SessionState.deliver (s : SessionState) (rr : RtcpRrBlock) : SessionState :=
  match s.sendStreams.get rr.ssrc with
  | none => s
  | some ss => s.call (.sendStreamOnRr ss rr (rtcRtcpRttFromRr rr (s.unixMs s.calls.length)))

def sessionHandleRr (s : SessionState) (buf : Bytes) : SessionState :=
  match rtcRtcpParse buf with
  | .error _ => s
  | .ok rtcp =>
    let s := if 0 < rtcp.reports.length then s.call (.reportRtcpLoss (worstLoss rtcp.reports)) else s
    rtcp.reports.foldl deliver s

def pushLost (pid : UInt16) (blp : Nat) (lost : List UInt16) : List UInt16 :=
  (range 16).foldl (fun lost bit =>
    if lost.length < rtcpNackMaxSeqs ∧ blp.testBit bit then lost ++ [pid + UInt16.ofNat (bit + 1)]
    else lost) (lost ++ [pid])

def parseNackLoop (data : Bytes) : (fuel : Nat) → (offset : Nat) → List UInt16 → List UInt16
  | 0, _, lost => lost
  | fuel + 1, offset, lost =>
    if offset + 4 ≤ data.length ∧ lost.length < rtcpNackMaxSeqs then
      parseNackLoop data fuel (offset + 4)
        (pushLost (UInt16.ofNat (readU16 data offset)) (readU16 data (offset + 2)) lost)
    else lost

def rtcRtcpParseNack (data : Bytes) : Except RtcErr (UInt32 × List UInt16) :=
  if data.length < 12 then .error .invalid
  else if byteAt data 0 / 2 ^ 6 ≠ 2 then .error .invalid
  else .ok (word data 8, parseNackLoop data data.length 12 [])

def sessionHandleNack (s : SessionState) (buf : Bytes) : SessionState :=
  match rtcRtcpParseNack buf with
  | .error _ => s
  | .ok (mediaSsrc, lostSeqs) =>
    match s.sendStreams.get mediaSsrc with
    | none => s
    | some ss => s.call (.sendStreamHandleNack ss lostSeqs)

def parseKeyframeRequest (size place : Nat) (data : Bytes) : Except RtcErr UInt32 :=
  if data.length < size then .error .invalid
  else if byteAt data 0 / 2 ^ 6 ≠ 2 then .error .invalid
  else .ok (word data place)

def rtcRtcpParsePli (data : Bytes) : Except RtcErr UInt32 := parseKeyframeRequest 12 8 data

def rtcRtcpParseFir (data : Bytes) : Except RtcErr UInt32 := parseKeyframeRequest 20 12 data

def sessionHandlePsfb (s : SessionState) (fmt : Nat) (buf : Bytes) : SessionState :=
  let mediaSsrc :=
    if fmt = rtcpFmtPli then rtcRtcpParsePli buf
    else if fmt = rtcpFmtFir then rtcRtcpParseFir buf
    else .error .invalid
  match mediaSsrc with
  | .error _ => s
  | .ok mediaSsrc =>
    match s.sendStreams.get mediaSsrc with
    | none => s
    | some ss => s.call (.sendStreamHandlePli ss)

def reportInterceptRtcp (pt _fmt : Nat) (buf : Bytes) (s : SessionState) : SessionState :=
  if pt = rtcpPtSr then sessionHandleSr s buf
  else if pt = rtcpPtRr then sessionHandleRr s buf
  else s

def nackInterceptRtcp (pt fmt : Nat) (buf : Bytes) (s : SessionState) : SessionState :=
  if pt = rtcpPtRtpfb ∧ fmt = rtcpFmtNack then sessionHandleNack s buf else s

def pliInterceptRtcp (pt fmt : Nat) (buf : Bytes) (s : SessionState) : SessionState :=
  if pt = rtcpPtPsfb then sessionHandlePsfb s fmt buf else s

section

variable {τ : Type}

def builtin (onRtcp : Nat → Nat → Bytes → SessionState → SessionState) :
    Interceptor (SessionState × τ) :=
  ⟨some fun pt fmt buf s => (onRtcp pt fmt buf s.1, s.2)⟩

def custom (it : Interceptor τ) : Interceptor (SessionState × τ) :=
  ⟨it.onRtcp.map fun onRtcp pt fmt buf s => (s.1, onRtcp pt fmt buf s.2)⟩

def sessionChain (customs : List (Interceptor τ)) : List (Interceptor (SessionState × τ)) :=
  [builtin reportInterceptRtcp, builtin nackInterceptRtcp, builtin pliInterceptRtcp]
    ++ customs.map custom

def readySession (customs : List (Interceptor τ)) (s : SessionState) (own : τ) :
    MediaSession (SessionState × τ) :=
  { ready := true, chain := sessionChain customs, state := (s, own) }

end

/-! ## The blocks of a packet -/

def RtcpPacket.blocksAt (packet : RtcpPacket) : Option Nat :=
  if packet.pt = rtcpPtSr then some (8 + rtcpSrSize)
  else if packet.pt = rtcpPtRr then some 8
  else none

open RtcpPacket

/-- All blocks that the header counts are in the packet. -/
def RtcpPacket.BlocksFit (packet : RtcpPacket) : Prop :=
  ∀ start ∈ packet.blocksAt, start + rtcpRrBlockSize * packet.fmt ≤ packet.bytes.length

instance RtcpPacket.BlocksFit.decidable (packet : RtcpPacket) : Decidable packet.BlocksFit :=
  inferInstanceAs (Decidable (∀ start ∈ packet.blocksAt, _))

def RtcpPacket.blocks (packet : RtcpPacket) : List RtcpRrBlock :=
  match packet.blocksAt with
  | none => []
  | some start =>
    (range packet.fmt).map fun i => readBlock packet.bytes (start + rtcpRrBlockSize * i)

def StreamMap.addressed (streams : StreamMap) (blocks : List RtcpRrBlock) :
    List (Nat × RtcpRrBlock) :=
  blocks.filterMap fun rr => (streams.get rr.ssrc).map fun stream => (stream, rr)

def SessionState.rrCalls (s : SessionState) : List (Nat × RtcpRrBlock) :=
  s.calls.filterMap fun
    | .sendStreamOnRr stream rr _ => some (stream, rr)
    | _ => none

theorem readBlocks_eq {data : Bytes} {count offset : Nat}
    (hroom : offset + rtcpRrBlockSize * count ≤ data.length) :
    readBlocks data count offset
      = (range count).map fun i => readBlock data (offset + rtcpRrBlockSize * i) := by
  induction count generalizing offset with
  | zero => rfl
  | succ count ih =>
    rw [Nat.mul_succ] at hroom
    rw [readBlocks, if_neg (by omega), ih (by omega), range_succ_eq_map, map_cons,
      map_map, Nat.mul_zero, Nat.add_zero]
    refine congrArg (List.cons _) (map_congr_left fun i _ => ?_)
    rw [Function.comp_apply, Nat.mul_succ, Nat.add_comm (rtcpRrBlockSize * i), Nat.add_assoc]

variable {packet : RtcpPacket}

theorem RtcpPacket.parse_rr (hpt : packet.pt = rtcpPtRr) (hfit : packet.BlocksFit) :
    ∃ rtcp, rtcRtcpParse packet.bytes = .ok rtcp ∧ rtcp.reports = packet.blocks := by
  have hne : packet.pt ≠ rtcpPtSr := by rw [hpt]; decide
  have hat : packet.blocksAt = some 8 := by rw [blocksAt, if_neg hne, if_pos hpt]
  have hroom := hfit 8 hat
  have hcount : min (byteAt packet.bytes 0 % 2 ^ 5) 31 = packet.fmt := by
    rw [fmt]
    omega
  have hlen := packet.length
  refine ⟨_, (if_neg (by omega)).trans ((if_neg (not_not.mpr packet.version)).trans
    ((if_neg (by omega)).trans (if_neg fun h => hne h.1))), ?_⟩
  show readBlocks packet.bytes (min (byteAt packet.bytes 0 % 2 ^ 5) 31)
    (if packet.pt = rtcpPtSr then 8 + rtcpSrSize else 8) = _
  rw [hcount, if_neg hne, readBlocks_eq hroom, blocks, hat]

/-! ## The calls about receiver reports -/

/-- Only these blocks were handed on. -/
def SessionState.Delivers (s s' : SessionState) (delivered : List (Nat × RtcpRrBlock)) : Prop :=
  s'.sendStreams = s.sendStreams ∧ s'.rrCalls = s.rrCalls ++ delivered

namespace SessionState.Delivers

variable {s s' s'' : SessionState} {front back : List (Nat × RtcpRrBlock)}

theorem refl (s : SessionState) : s.Delivers s [] := ⟨rfl, (append_nil _).symm⟩

theorem trans (h : s.Delivers s' front) (h' : s'.Delivers s'' back) :
    s.Delivers s'' (front ++ back) :=
  ⟨h'.1.trans h.1, by rw [h'.2, h.2, append_assoc]⟩

theorem other {call : SessionCall} (hcall : ∀ stream rr rttMs,
    call ≠ .sendStreamOnRr stream rr rttMs) : s.Delivers (s.call call) [] := by
  refine ⟨rfl, ?_⟩
  cases call with
  | sendStreamOnRr stream rr rttMs => exact absurd rfl (hcall stream rr rttMs)
  | _ => simp [rrCalls, call]

end SessionState.Delivers

section

variable (s : SessionState)
include s

theorem SessionState.deliver_delivers (rr : RtcpRrBlock) :
    s.Delivers (s.deliver rr) (s.sendStreams.addressed [rr]) := by
  unfold deliver
  split
  · rename_i hnone
    simpa [StreamMap.addressed, hnone] using SessionState.Delivers.refl s
  · rename_i stream hstream
    exact ⟨rfl, by simp [rrCalls, call, StreamMap.addressed, hstream]⟩

theorem SessionState.deliverAll_delivers (reports : List RtcpRrBlock) :
    s.Delivers (reports.foldl deliver s) (s.sendStreams.addressed reports) := by
  induction reports generalizing s with
  | nil => exact SessionState.Delivers.refl s
  | cons rr reports ih =>
    have hfirst := s.deliver_delivers rr
    have hrest := ih (s.deliver rr)
    -- the streams are looked up in the state each block finds, and none changes them
    rw [hfirst.1] at hrest
    have hboth := hfirst.trans hrest
    rwa [StreamMap.addressed, StreamMap.addressed, ← filterMap_append,
      singleton_append] at hboth

theorem sessionHandleSr_delivers (buf : Bytes) : s.Delivers (sessionHandleSr s buf) [] := by
  unfold sessionHandleSr
  split
  · exact .refl s
  · split
    · exact .refl s
    · exact .other (by simp)

theorem sessionHandleRr_delivers (hpt : packet.pt = rtcpPtRr) (hfit : packet.BlocksFit) :
    s.Delivers (sessionHandleRr s packet.bytes) (s.sendStreams.addressed packet.blocks) := by
  obtain ⟨rtcp, hparse, hreports⟩ := packet.parse_rr hpt hfit
  rw [sessionHandleRr, hparse]
  dsimp only
  rw [← hreports]
  split
  · -- the largest loss goes to the rate control before any block is handed over
    have hloss : s.Delivers (s.call (.reportRtcpLoss (worstLoss rtcp.reports))) [] :=
      .other (by simp)
    exact hloss.trans (deliverAll_delivers _ rtcp.reports)
  · exact deliverAll_delivers s rtcp.reports

end

theorem nackInterceptRtcp_delivers (pt fmt : Nat) (buf : Bytes) (s : SessionState) :
    s.Delivers (nackInterceptRtcp pt fmt buf s) [] := by
  unfold nackInterceptRtcp sessionHandleNack
  split
  · split
    · exact .refl s
    · split
      · exact .refl s
      · exact .other (by simp)
  · exact .refl s

theorem pliInterceptRtcp_delivers (pt fmt : Nat) (buf : Bytes) (s : SessionState) :
    s.Delivers (pliInterceptRtcp pt fmt buf s) [] := by
  unfold pliInterceptRtcp sessionHandlePsfb
  split
  · dsimp only
    split
    · exact .refl s
    · split
      · exact .refl s
      · exact .other (by simp)
  · exact .refl s

def RtcpPacket.rrBlocks (packet : RtcpPacket) : List RtcpRrBlock :=
  if packet.pt = rtcpPtRr then packet.blocks else []

theorem reportInterceptRtcp_delivers (s : SessionState) (hfit : packet.BlocksFit) :
    s.Delivers (reportInterceptRtcp packet.pt packet.fmt packet.bytes s)
      (s.sendStreams.addressed packet.rrBlocks) := by
  unfold reportInterceptRtcp rrBlocks
  by_cases hrr : packet.pt = rtcpPtRr
  · rw [if_neg (by rw [hrr]; decide), if_pos hrr, if_pos hrr]
    exact sessionHandleRr_delivers s hrr hfit
  · rw [if_neg hrr, if_neg hrr]
    split
    · exact sessionHandleSr_delivers s packet.bytes
    · exact .refl s

section

variable {τ : Type}

section

variable (customs : List (Interceptor τ))
include customs

theorem customs_fst (pt fmt : Nat) (buf : Bytes) (s : SessionState × τ) :
    (rtcInterceptorChainOnRtcp (customs.map custom) pt fmt buf s).1 = s.1 := by
  induction customs generalizing s with
  | nil => rfl
  | cons it customs ih =>
    rw [map_cons, rtcInterceptorChainOnRtcp, foldl_cons]
    refine (ih _).trans ?_
    unfold custom
    cases it.onRtcp <;> rfl

theorem sessionChain_delivers {packet : RtcpPacket}
    (hfit : packet.BlocksFit) (s : SessionState × τ) :
    s.1.Delivers (rtcInterceptorChainOnRtcp (sessionChain customs) packet.pt packet.fmt packet.bytes
      s).1 (s.1.sendStreams.addressed packet.rrBlocks) := by
  have hfst : (rtcInterceptorChainOnRtcp (sessionChain customs) packet.pt packet.fmt packet.bytes
      s).1 = pliInterceptRtcp packet.pt packet.fmt packet.bytes
        (nackInterceptRtcp packet.pt packet.fmt packet.bytes
          (reportInterceptRtcp packet.pt packet.fmt packet.bytes s.1)) := by
    rw [rtcInterceptorChainOnRtcp, sessionChain, foldl_append]
    exact customs_fst customs _ _ _ _
  rw [hfst]
  -- of the three, the one for the reports alone hands blocks over
  have hreport := reportInterceptRtcp_delivers s.1 hfit
  have hnack := hreport.trans (nackInterceptRtcp_delivers packet.pt packet.fmt packet.bytes _)
  have hpli := hnack.trans (pliInterceptRtcp_delivers packet.pt packet.fmt packet.bytes _)
  rwa [append_nil, append_nil] at hpli

theorem sessionRow_delivers {packets : List RtcpPacket}
    (hfit : ∀ packet ∈ packets, packet.BlocksFit) (s : SessionState × τ) :
    s.1.Delivers (packets.foldl (fun s packet => rtcInterceptorChainOnRtcp (sessionChain customs)
      packet.pt packet.fmt packet.bytes s) s).1
      (s.1.sendStreams.addressed (packets.flatMap rrBlocks)) := by
  induction packets generalizing s with
  | nil => exact .refl s.1
  | cons packet packets ih =>
    have hfirst := sessionChain_delivers customs (hfit packet mem_cons_self) s
    have hrest := ih (fun p hp => hfit p (mem_cons_of_mem _ hp))
      (rtcInterceptorChainOnRtcp (sessionChain customs) packet.pt packet.fmt packet.bytes s)
    rw [hfirst.1] at hrest
    have hboth := hfirst.trans hrest
    rwa [StreamMap.addressed, StreamMap.addressed, ← filterMap_append,
      ← flatMap_cons] at hboth

theorem handleRtcp_delivers (s : SessionState) (own : τ)
    (packets : List RtcpPacket) (hfit : ∀ packet ∈ packets, packet.BlocksFit) :
    ∃ after visited,
      rtcMediaSessionHandleRtcp (readySession customs s own) (compound packets)
          = some (after, visited)
        ∧ s.Delivers after.1 (s.sendStreams.addressed (packets.flatMap rrBlocks)) := by
  have hfuel : packets.length < (compound packets).length + 1 :=
    Nat.lt_succ_of_le (length_le_compound packets)
  obtain ⟨-, hfold⟩ := rtcpBoundaries_compound
    (rtcInterceptorChainOnRtcp (sessionChain customs)) [] packets hfuel (s, own)
  rw [nil_append, length_nil] at hfold
  refine ⟨_, _, handleRtcpLoop_eq (sessionChain customs) (compound packets) (by omega) (by omega)
    (s, own), ?_⟩
  rw [hfold]
  exact sessionRow_delivers customs hfit (s, own)

end

/-- **Every block of a receiver report goes to its stream.** -/
theorem rrCalls_handleRtcp (customs : List (Interceptor τ)) (s : SessionState) (own : τ)
    (packets : List RtcpPacket) (hfit : ∀ packet ∈ packets, packet.BlocksFit) :
    ∃ after visited,
      rtcMediaSessionHandleRtcp (readySession customs s own) (compound packets)
          = some (after, visited)
        ∧ after.1.rrCalls
          = s.rrCalls ++ s.sendStreams.addressed (packets.flatMap rrBlocks) := by
  obtain ⟨after, visited, hrun, hdelivers⟩ := handleRtcp_delivers customs s own packets hfit
  exact ⟨after, visited, hrun, hdelivers.2⟩

end

def lossBlock : RtcpRrBlock :=
  { ssrc := 7, fractionLost := 3, cumulativeLost := 1, highestSeq := 100, jitter := 5, lastSr := 0,
    delaySinceSr := 0 }

def lossInRr : RtcpPacket :=
  ⟨reportBytes rtcpPtRr 9 [] [lossBlock], by decide, by decide⟩

def lossInSr : RtcpPacket :=
  ⟨reportBytes rtcpPtSr 9 (RtcpSr.zero).bytes [lossBlock], by decide, by decide⟩

def sessionOfSeven : SessionState :=
  { sendStreams := match rtcMediaSessionAddSender StreamMap.empty 7 0 true with
      | none => StreamMap.empty
      | some r => r.2
    bound := StreamMap.empty
    unixMs := fun _ => 0 }

theorem lossInRr_delivered :
    ∃ after visited,
      rtcMediaSessionHandleRtcp (readySession [] sessionOfSeven ()) (compound [emptyReport, lossInRr])
          = some (after, visited)
        ∧ after.1.rrCalls = [(0, lossBlock)] :=
  rrCalls_handleRtcp [] sessionOfSeven () [emptyReport, lossInRr] (by decide)

/-- The same block in a sender report is well-formed and about a registered SSRC, and no stream is
called. -/
theorem senderReport_block_dropped :
    lossInSr.BlocksFit ∧ sessionOfSeven.sendStreams.addressed lossInSr.blocks = [(0, lossBlock)]
      ∧ ∃ after visited,
        rtcMediaSessionHandleRtcp (readySession [] sessionOfSeven ()) (compound [lossInSr])
            = some (after, visited)
          ∧ after.1.rrCalls = [] := by
  have hfit : lossInSr.BlocksFit := by decide
  obtain ⟨after, visited, hrun, hdelivers⟩ := handleRtcp_delivers [] sessionOfSeven ()
    [lossInSr] (by simpa using hfit)
  exact ⟨hfit, by decide +kernel, after, visited, hrun, hdelivers.2⟩

end Mrtc
