import Mrtc.Lib.Bytes
import Mrtc.Lib.SerialNumber
import Mrtc.Map.U32

/-! # The jitter buffer (`jitter_buffer.c`)

Packets are kept in a map by their sequence number and popped in the order of `next_seq`, which
skips what is missing for too long.
-/

namespace Mrtc

open Net

def jbMaxPackets : Nat := 256

structure JbSlot where
  index : Int
  data : Bytes
  seq : UInt16
  timestamp : UInt32
  marker : Bool
  arrivalMs : UInt64
  deriving DecidableEq

structure JitterBuffer where
  bySeq : U32Map JbSlot := {}
  nextSeq : UInt16 := 0
  started : Bool := false
  targetDelayMs : Int
  minDelayMs : Int
  maxDelayMs : Int
  estJitterMs : Int := 0
  lastArrivalMs : UInt64 := 0
  lastTimestamp : UInt32 := 0
  deriving DecidableEq

def jitterBufferCreate (cfg : Option (Int × Int)) : JitterBuffer :=
  let target := (cfg.map Prod.fst).getD 80
  let max := (cfg.map Prod.snd).getD 500
  { targetDelayMs := if target < 0 then 80 else target
    minDelayMs := target
    maxDelayMs := if max ≤ 0 then 500 else max }

def seqCompare (a b : UInt16) : Int := Serial.diff a.toBitVec b.toBitVec

def toInt32 (t : UInt64) : Int := (t.toBitVec.setWidth 32).toInt

def jbKey (seq : UInt16) : UInt32 := seq.toUInt32

def findOldest (m : U32Map JbSlot) : Option (Option JbSlot) :=
  (m.iterate (m.cap + 1) 0).map fun items =>
    Serial.earliest (fun s oldest => seqCompare s.seq oldest.seq < 0) (items.filterMap Prod.snd)

/-! ## Push -/

/-- Which allocations of a call of `jitter_buffer_push` succeed: the slot, and in the map those of
an insertion and of a removal. -/
structure JbAlloc where
  slot : Bool := true
  set : Bool := true
  remove : Bool := true
  deriving DecidableEq

def jbAdmit (jb : JitterBuffer) (seq : UInt16) (timestamp : UInt32) (now : UInt64) :
    Option JitterBuffer :=
  if !jb.started then
    some { jb with
      nextSeq := seq
      started := true
      lastArrivalMs := now
      lastTimestamp := timestamp }
  else if seqCompare seq jb.nextSeq < 0 then
    let gap := seqCompare jb.nextSeq seq
    if 0 < gap ∧ gap < jbMaxPackets / 2 then some { jb with nextSeq := seq } else none
  else some jb

def jbEstimate (jb : JitterBuffer) (timestamp : UInt32) (now : UInt64) : JitterBuffer :=
  let est :=
    if 0 < jb.lastArrivalMs then
      let arrivalDiff := toInt32 (now - jb.lastArrivalMs)
      let tsDiff : Int := ((timestamp - jb.lastTimestamp) / 90).toNat
      (jb.estJitterMs * 15 + |arrivalDiff - tsDiff|).tdiv 16
    else jb.estJitterMs
  { jb with
    estJitterMs := est
    lastArrivalMs := now
    lastTimestamp := timestamp
    targetDelayMs :=
      if 0 < jb.minDelayMs then min (max (est * 2) jb.minDelayMs) jb.maxDelayMs
      else jb.targetDelayMs }

def jbEvict (m : U32Map JbSlot) (alloc : Bool) : Option (U32Map JbSlot) :=
  if jbMaxPackets ≤ rtcU32MapLen m then
    match findOldest m with
    | none => none
    | some none => some m
    | some (some old) => (rtcU32MapRemove m (jbKey old.seq) alloc).map Prod.snd
  else some m

def jbStore (m : U32Map JbSlot) (slot : JbSlot) (alloc : JbAlloc) : Option (U32Map JbSlot) :=
  if alloc.slot then (rtcU32MapSet m (jbKey slot.seq) (some slot) alloc.set).map Prod.snd
  else some m

def jbInsert (jb : JitterBuffer) (slot : JbSlot) (now : UInt64) (alloc : JbAlloc) :
    Option JitterBuffer :=
  match rtcU32MapGet jb.bySeq (jbKey slot.seq) with
  | none => none
  | some (some _) => some jb
  | some none =>
    let jb := jbEstimate jb slot.timestamp now
    match jbEvict jb.bySeq alloc.remove with
    | none => none
    | some m => (jbStore m slot alloc).map fun m => { jb with bySeq := m }

def jitterBufferPush (jb : JitterBuffer) (index : Int) (data : Bytes) (seq : UInt16)
    (timestamp : UInt32) (marker : Bool) (now : UInt64) (alloc : JbAlloc) : Option JitterBuffer :=
  match jbAdmit jb seq timestamp now with
  | none => some jb
  | some jb =>
    jbInsert jb
      { index := index
        data := data.take 2048
        seq := seq
        timestamp := timestamp
        marker := marker
        arrivalMs := now } now alloc

/-! ## Pop -/

def jbPopLoop (now : UInt64) (alloc : Bool) :
    (fuel : Nat) → JitterBuffer → Option (Option JbSlot × JitterBuffer)
  | 0, _ => none
  | fuel + 1, jb =>
    match rtcU32MapGet jb.bySeq (jbKey jb.nextSeq) with
    | none => none
    | some (some slot) =>
      if toInt32 (now - slot.arrivalMs) < jb.targetDelayMs then some (none, jb)
      else
        (rtcU32MapRemove jb.bySeq (jbKey jb.nextSeq) alloc).map fun r =>
          (some slot, { jb with bySeq := r.2, nextSeq := jb.nextSeq + 1 })
    | some none =>
      match findOldest jb.bySeq with
      | none => none
      | some none => some (none, jb)
      | some (some earliest) =>
        if toInt32 (now - earliest.arrivalMs) ≤ jb.maxDelayMs then some (none, jb)
        else jbPopLoop now alloc fuel { jb with nextSeq := earliest.seq }

def jitterBufferPop (jb : JitterBuffer) (now : UInt64) (alloc : Bool) :
    Option (Option JbSlot × JitterBuffer) :=
  if rtcU32MapLen jb.bySeq = 0 then some (none, jb) else jbPopLoop now alloc 2 jb

end Mrtc
