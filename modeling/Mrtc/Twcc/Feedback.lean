import Mrtc.Twcc.Receiver

/-! # Building transport-cc feedback (`rtc_twcc_receiver.c`)

`rtc_twcc_receiver_build_feedback` in its three loops: the statuses and deltas against the
running clock (`twccMarks`), the status chunks (`twccChunks`), and the deltas on the wire.
-/

namespace Mrtc

open Net

def twccTickUs : Int := 250

inductive TwccStatus where
  | notRecv
  | smallDelta
  | largeDelta
  | reserved
  deriving DecidableEq

def TwccStatus.code : TwccStatus → Nat
  | .notRecv => 0
  | .smallDelta => 1
  | .largeDelta => 2
  | .reserved => 3

/-! ## Statuses and deltas -/

def asInt64 (n : Nat) : Int := if n < 2 ^ 63 then n else n - 2 ^ 64

def advanceUs (us : Nat) (delta : Int) : Nat := (((us : Int) + delta * twccTickUs) % 2 ^ 64).toNat

structure TwccMark where
  status : TwccStatus
  delta : Int
  deriving DecidableEq

def twccTicks (prevUs recvTimeUs : Nat) : Int :=
  (asInt64 recvTimeUs - asInt64 prevUs).tdiv twccTickUs

def twccMark (prevUs : Nat) (e : TwccRecvEntry) : TwccMark :=
  if !e.received then ⟨.notRecv, 0⟩
  else
    let ticks := twccTicks prevUs e.recvTimeUs
    if -128 ≤ ticks ∧ ticks ≤ 127 then ⟨.smallDelta, ticks⟩
    else if -2 ^ 15 ≤ ticks ∧ ticks ≤ 2 ^ 15 - 1 then ⟨.largeDelta, ticks⟩
    else ⟨.notRecv, 0⟩

def TwccMark.clock (m : TwccMark) (prevUs : Nat) : Nat :=
  if m.status = .notRecv then prevUs else advanceUs prevUs m.delta

def twccMarks : (prevUs : Nat) → List TwccRecvEntry → List TwccMark
  | _, [] => []
  | prevUs, e :: es => twccMark prevUs e :: twccMarks ((twccMark prevUs e).clock prevUs) es

/-! ## Status chunks -/

inductive TwccChunk where
  | runLength (status : TwccStatus) (run : Nat)
  | statusVector (statuses : List TwccStatus)
  deriving DecidableEq

def twccRun (s : TwccStatus) (ss : List TwccStatus) : Nat :=
  min (1 + (ss.takeWhile (· = s)).length) 0x1FFF

def twccChunks : (fuel : Nat) → List TwccStatus → List TwccChunk
  | 0, _ => []
  | _, [] => []
  | fuel + 1, s :: ss =>
    let run := twccRun s ss
    if 3 ≤ run ∨ s = .largeDelta then
      .runLength s run :: twccChunks fuel ((s :: ss).drop run)
    else
      .statusVector ((s :: ss).take 14) :: twccChunks fuel ((s :: ss).drop 14)

def vectorSymbols : (k : Nat) → List TwccStatus → Nat
  | 0, _ => 0
  | _, [] => 0
  | k + 1, s :: ss => (if s = .smallDelta then 2 ^ k else 0) + vectorSymbols k ss

def TwccChunk.word : TwccChunk → Nat
  | .runLength s run => s.code * 2 ^ 13 + run
  | .statusVector ss => 2 ^ 15 + vectorSymbols 14 ss

/-! ## The packet -/

def TwccMark.bytes (m : TwccMark) : Bytes :=
  match m.status with
  | .smallDelta => [UInt8.ofNat (m.delta % 2 ^ 8).toNat]
  | .largeDelta => writeU16 (m.delta % 2 ^ 16).toNat
  | _ => []

def twccChunkBytes (statuses : List TwccStatus) : Bytes :=
  (twccChunks statuses.length statuses).flatMap fun c => writeU16 c.word

def twccDeltaBytes (marks : List TwccMark) : Bytes := marks.flatMap TwccMark.bytes

def twccBody (r : TwccReceiver) (senderSsrc mediaSsrc : UInt32) (refTime : Nat)
    (marks : List TwccMark) : Bytes :=
  writeU32 senderSsrc.toNat ++ writeU32 mediaSsrc.toNat ++ writeU16 r.baseSeq.toNat
    ++ writeU16 r.count ++ writeU24 refTime ++ [r.fbPktCount]
    ++ twccChunkBytes (marks.map TwccMark.status) ++ twccDeltaBytes marks

def twccPacket (body : Bytes) : Bytes :=
  let padded := body ++ List.replicate ((4 - body.length % 4) % 4) 0
  [0x8F, 205] ++ writeU16 (padded.length / 4) ++ padded

def twccRefTime (first : TwccRecvEntry) : Nat := first.recvTimeUs / 64000 % 2 ^ 24

def twccFeedback (r : TwccReceiver) (senderSsrc mediaSsrc : UInt32) (first : TwccRecvEntry) :
    Bytes :=
  twccPacket (twccBody r senderSsrc mediaSsrc (twccRefTime first)
    (twccMarks (twccRefTime first * 64000) r.entries))

def rtcTwccReceiverBuildFeedback (r : TwccReceiver) (senderSsrc mediaSsrc : UInt32) (cap : Nat) :
    Except RtcErr Bytes × TwccReceiver :=
  if !r.haveBase || r.count == 0 then (.error .invalid, r)
  else if cap < 32 then (.error .invalid, r)
  else
    match r.entries.find? (·.received) with
    | none => (.error .invalid, TwccReceiver.reset 0)
    | some first =>
      let out := twccFeedback r senderSsrc mediaSsrc first
      if cap < out.length then (.error .invalid, { r with fbPktCount := r.fbPktCount + 1 })
      else (.ok out, TwccReceiver.reset (r.fbPktCount + 1))

end Mrtc
