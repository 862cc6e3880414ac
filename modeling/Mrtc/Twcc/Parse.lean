import Mrtc.Twcc.Feedback

/-! # Parsing transport-cc feedback (`rtc_rtcp.c`)

`rtc_rtcp_parse_twcc` in its two loops: the walk over the status chunks (`readTwccChunks`) and
the one over the receive deltas (`readTwccDeltas`).
-/

namespace Mrtc

open Net

def twccParseMax : Nat := 256

def TwccStatus.ofCode : Nat → TwccStatus
  | 0 => .notRecv
  | 1 => .smallDelta
  | 2 => .largeDelta
  | _ => .reserved

def twccChunkStatuses (chunk : Nat) : List TwccStatus :=
  if !chunk.testBit 15 then
    List.replicate (chunk % 2 ^ 13) (TwccStatus.ofCode (chunk / 2 ^ 13 % 4))
  else if !chunk.testBit 14 then
    (List.range 14).map fun k => if chunk.testBit (13 - k) then .smallDelta else .notRecv
  else
    (List.range 7).map fun k => TwccStatus.ofCode (chunk / 2 ^ (12 - 2 * k) % 4)

def readTwccChunks : Bytes → (need : Nat) → Except RtcErr (List TwccStatus × Bytes)
  | data, 0 => .ok ([], data)
  | hi :: lo :: data, need + 1 =>
    let statuses := (twccChunkStatuses (hi.toNat * 2 ^ 8 + lo.toNat)).take (need + 1)
    match readTwccChunks data (need + 1 - statuses.length) with
    | .error e => .error e
    | .ok (more, rest) => .ok (statuses ++ more, rest)
  | _, _ + 1 => .error .invalid

def int8Of (b : UInt8) : Int := if b.toNat < 2 ^ 7 then b.toNat else b.toNat - 2 ^ 8

def int16Of (hi lo : UInt8) : Int :=
  let v : Nat := hi.toNat * 2 ^ 8 + lo.toNat
  if v < 2 ^ 15 then v else v - 2 ^ 16

def readTwccDeltas : (curUs : Nat) → List TwccStatus → Bytes →
    Except RtcErr (List (Option Nat))
  | _, [], _ => .ok []
  | curUs, .notRecv :: ss, data => (readTwccDeltas curUs ss data).map (none :: ·)
  | curUs, .smallDelta :: ss, b :: data =>
    let curUs := advanceUs curUs (int8Of b)
    (readTwccDeltas curUs ss data).map (some curUs :: ·)
  | curUs, .largeDelta :: ss, hi :: lo :: data =>
    let curUs := advanceUs curUs (int16Of hi lo)
    (readTwccDeltas curUs ss data).map (some curUs :: ·)
  | _, _ :: _, _ => .error .invalid

structure TwccItem where
  seq : UInt16
  received : Bool
  recvTimeUs : Nat
  deriving DecidableEq

structure TwccReport where
  senderSsrc : Nat
  mediaSsrc : Nat
  baseSeq : UInt16
  fbPktCount : Nat
  referenceTimeUs : Nat
  items : List TwccItem
  deriving DecidableEq

def twccItem (baseSeq : UInt16) (i : Nat) (time : Option Nat) : TwccItem :=
  ⟨baseSeq + UInt16.ofNat i, time.isSome, time.getD 0⟩

def rtcRtcpParseTwcc (data : Bytes) : Except RtcErr TwccReport :=
  if data.length < 20 then .error .invalid
  else if byteAt data 0 / 2 ^ 6 % 4 ≠ 2 then .error .invalid
  else
    let baseSeq := UInt16.ofNat (readU16 data 12)
    let statusCount := readU16 data 14
    let referenceTimeUs := readU24 data 16 * 64000
    if statusCount = 0 ∨ twccParseMax < statusCount then .error .invalid
    else
      match readTwccChunks (data.drop 20) statusCount with
      | .error e => .error e
      | .ok (statuses, deltas) =>
        match readTwccDeltas referenceTimeUs statuses deltas with
        | .error e => .error e
        | .ok times =>
          .ok { senderSsrc := readU32 data 4
                mediaSsrc := readU32 data 8
                baseSeq := baseSeq
                fbPktCount := byteAt data 19
                referenceTimeUs := referenceTimeUs
                items := times.mapIdx (twccItem baseSeq) }

end Mrtc
