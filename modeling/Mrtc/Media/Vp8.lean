import Mrtc.Basic.Err
import Mrtc.Lib.Bytes

/-! # VP8 payloads (`vp8_packetizer.c`)

Cutting a frame into payloads and putting it together again.
-/

namespace Mrtc

open Net List

def vp8MaxFragSize : Nat := 1399
def vp8MaxFrameSize : Nat := 256 * 1024

/-! ## Packetizing -/

structure Vp8Payload where
  data : Bytes
  marker : Bool
  deriving DecidableEq

def vp8Descriptor (first isKeyframe : Bool) : UInt8 :=
  (if first then 0x10 else 0) + (if isKeyframe then 0 else 0x20)

def vp8Fragments (isKeyframe : Bool) : (free : Nat) → (rest : Bytes) → (first : Bool) →
    Except RtcErr (List Vp8Payload)
  | _, [], _ => .ok []
  | 0, _ :: _, _ => .error .nomem
  | free + 1, b :: bs, first =>
    let frag := (b :: bs).take vp8MaxFragSize
    let rest := (b :: bs).drop vp8MaxFragSize
    (vp8Fragments isKeyframe free rest false).map
      (⟨vp8Descriptor first isKeyframe :: frag, rest.isEmpty⟩ :: ·)

def rtcVp8Packetize (frame : Bytes) (isKeyframe : Bool) (maxPayloads : Nat) :
    Except RtcErr (List Vp8Payload) :=
  if frame.length = 0 then .error .invalid else vp8Fragments isKeyframe maxPayloads frame true

/-! ## Depacketizing -/

structure Vp8Depacketizer where
  frame : Bytes := []
  frameTimestamp : UInt32 := 0
  collecting : Bool := false
  gotStart : Bool := false
  deriving DecidableEq

def vp8PictureIdEnd (payload : Bytes) (ext : Nat) : Except RtcErr Nat :=
  if ext.testBit 7 then
    if payload.length ≤ 2 then .error .invalid
    else .ok (if (byteAt payload 2).testBit 7 then 4 else 3)
  else .ok 2

def vp8DescriptorLen (payload : Bytes) : Except RtcErr Nat :=
  if (byteAt payload 0).testBit 7 then
    if payload.length < 2 then .error .invalid
    else
      let ext := byteAt payload 1
      match vp8PictureIdEnd payload ext with
      | .error e => .error e
      | .ok len =>
        let len := if ext.testBit 6 then len + 1 else len
        let len := if ext.testBit 5 || ext.testBit 4 then len + 1 else len
        if payload.length < len then .error .invalid else .ok len
  else .ok 1

def vp8Append (d : Vp8Depacketizer) (data : Bytes) (marker isKeyframe : Bool) :
    Except RtcErr (Bytes × Bool) × Vp8Depacketizer :=
  if !d.collecting || !d.gotStart then (.error .generic, d)
  else if vp8MaxFrameSize < d.frame.length + data.length then
    (.error .nomem, { d with collecting := false, frame := [] })
  else if marker then
    (.ok (d.frame ++ data, isKeyframe), { d with collecting := false, frame := [] })
  else (.error .generic, { d with frame := d.frame ++ data })

def rtcVp8Depacketize (d : Vp8Depacketizer) (payload : Bytes) (timestamp : UInt32)
    (marker : Bool) : Except RtcErr (Bytes × Bool) × Vp8Depacketizer :=
  if payload.length < 1 then (.error .invalid, d)
  else
    let sBit := (byteAt payload 0).testBit 4
    let nBit := (byteAt payload 0).testBit 5
    match vp8DescriptorLen payload with
    | .error e => (.error e, d)
    | .ok pdLen =>
      let data := payload.drop pdLen
      if sBit then
        vp8Append { frame := [], frameTimestamp := timestamp, collecting := true,
                    gotStart := true } data marker (!nBit)
      else if d.collecting && timestamp != d.frameTimestamp then
        -- the timestamp changed without an S bit
        (.error .generic, { d with collecting := false, frame := [] })
      else if !d.collecting then (.error .generic, d)
      else vp8Append d data marker (!nBit)

structure MediaPacket where
  payload : Bytes
  timestamp : UInt32
  marker : Bool
  deriving DecidableEq

def vp8Results : Vp8Depacketizer → List MediaPacket → List (Except RtcErr (Bytes × Bool))
  | _, [] => []
  | d, p :: ps =>
    let r := rtcVp8Depacketize d p.payload p.timestamp p.marker
    r.1 :: vp8Results r.2 ps

/-! ## The fragments of a frame -/

variable {rest : Bytes} {key : Bool} {free : Nat} {first : Bool} {ps : List Vp8Payload}
  {d : Vp8Depacketizer} {ts : UInt32}

theorem vp8Fragments_succ (key : Bool) (free : Nat) (hne : rest ≠ []) (first : Bool) :
    vp8Fragments key (free + 1) rest first
      = (vp8Fragments key free (rest.drop vp8MaxFragSize) false).map
        (⟨vp8Descriptor first key :: rest.take vp8MaxFragSize,
          (rest.drop vp8MaxFragSize).isEmpty⟩ :: ·) := by
  obtain ⟨b, bs, rfl⟩ := exists_cons_of_ne_nil hne
  rfl

theorem vp8Fragments_cons (hne : rest ≠ []) (h : vp8Fragments key free rest first = .ok ps) :
    ∃ free' tail, free = free' + 1
      ∧ vp8Fragments key free' (rest.drop vp8MaxFragSize) false = .ok tail
      ∧ ps = ⟨vp8Descriptor first key :: rest.take vp8MaxFragSize,
          (rest.drop vp8MaxFragSize).isEmpty⟩ :: tail := by
  cases free with
  | zero =>
    obtain ⟨b, bs, rfl⟩ := exists_cons_of_ne_nil hne
    cases h
  | succ free' =>
    rw [vp8Fragments_succ key free' hne first] at h
    cases hrec : vp8Fragments key free' (rest.drop vp8MaxFragSize) false with
    | error e =>
      rw [hrec] at h
      cases h
    | ok tail =>
      rw [hrec] at h
      cases h
      exact ⟨free', tail, rfl, hrec, rfl⟩

theorem vp8Fragments_nil (key : Bool) (free : Nat) (first : Bool) :
    vp8Fragments key free [] first = .ok [] := by
  cases free <;> rfl

theorem vp8Fragments_ok (key : Bool) (free : Nat) {rest : Bytes} (first : Bool)
    (hlen : rest.length ≤ free * vp8MaxFragSize) :
    ∃ ps, vp8Fragments key free rest first = .ok ps := by
  induction free generalizing rest first with
  | zero =>
    have hnil : rest = [] := length_eq_zero_iff.mp (by omega)
    exact ⟨[], by rw [hnil]; rfl⟩
  | succ free ih =>
    by_cases hne : rest = []
    · exact ⟨[], by rw [hne]; rfl⟩
    · have hdrop : (rest.drop vp8MaxFragSize).length ≤ free * vp8MaxFragSize := by
        rw [length_drop]
        rw [Nat.succ_mul] at hlen
        omega
      obtain ⟨tail, htail⟩ := ih false hdrop
      exact ⟨_, by rw [vp8Fragments_succ key free hne first, htail]; rfl⟩

theorem vp8Fragments_data_length (h : vp8Fragments key free rest first = .ok ps) :
    ∀ p ∈ ps, p.data.length ≤ vp8MaxFragSize + 1 := by
  induction free generalizing rest first ps with
  | zero =>
    by_cases hne : rest = []
    · rw [hne, vp8Fragments_nil] at h
      cases h
      intro p hp
      cases hp
    · obtain ⟨free', _, hfree, _⟩ := vp8Fragments_cons hne h
      omega
  | succ free ih =>
    by_cases hne : rest = []
    · rw [hne, vp8Fragments_nil] at h
      cases h
      intro p hp
      cases hp
    · obtain ⟨free', tail, hfree, htail, rfl⟩ := vp8Fragments_cons hne h
      obtain rfl : free = free' := by omega
      intro p hp
      rcases mem_cons.mp hp with rfl | hp
      · rw [length_cons, length_take]
        omega
      · exact ih htail p hp

/-! ## Reassembly -/

theorem vp8Descriptor_bits (first key : Bool) :
    (vp8Descriptor first key).toNat.testBit 4 = first
      ∧ (vp8Descriptor first key).toNat.testBit 5 = !key
      ∧ (vp8Descriptor first key).toNat.testBit 7 = false := by
  cases first <;> cases key <;> decide

theorem rtcVp8Depacketize_fragment (d : Vp8Depacketizer) (first key : Bool) (data : Bytes)
    (ts : UInt32) (marker : Bool) :
    rtcVp8Depacketize d (vp8Descriptor first key :: data) ts marker
      = if first then
          vp8Append { frame := [], frameTimestamp := ts, collecting := true, gotStart := true }
            data marker key
        else if d.collecting && ts != d.frameTimestamp then
          (.error .generic, { d with collecting := false, frame := [] })
        else if !d.collecting then (.error .generic, d)
        else vp8Append d data marker key := by
  obtain ⟨hs, hn, hx⟩ := vp8Descriptor_bits first key
  have hbyte : byteAt (vp8Descriptor first key :: data) 0 = (vp8Descriptor first key).toNat := rfl
  have hdesc : vp8DescriptorLen (vp8Descriptor first key :: data) = .ok 1 := by
    unfold vp8DescriptorLen
    rw [hbyte, hx]
    rfl
  unfold rtcVp8Depacketize
  rw [if_neg (by simp), hdesc, hbyte, hs, hn]
  simp only [drop_succ_cons, drop_zero, Bool.not_not]

def Vp8Depacketizer.Continues (d : Vp8Depacketizer) (ts : UInt32) : Prop :=
  d.collecting = true ∧ d.gotStart = true ∧ d.frameTimestamp = ts

theorem rtcVp8Depacketize_continues
    (hd : first = false → d.Continues ts) (key : Bool) (data : Bytes) (marker : Bool) :
    ∃ d' : Vp8Depacketizer, d'.Continues ts ∧ d'.frame = (if first then [] else d.frame)
      ∧ rtcVp8Depacketize d (vp8Descriptor first key :: data) ts marker
        = vp8Append d' data marker key := by
  rw [rtcVp8Depacketize_fragment]
  cases first with
  | true =>
    refine ⟨{ frame := [], frameTimestamp := ts, collecting := true, gotStart := true },
      ⟨rfl, rfl, rfl⟩, rfl, ?_⟩
    rw [if_pos rfl]
  | false =>
    have hc := hd rfl
    refine ⟨d, hc, rfl, ?_⟩
    rw [if_neg Bool.false_ne_true, hc.1, hc.2.2]
    simp

theorem vp8Append_continues (hd : d.Continues ts)
    {data : Bytes} (hlen : d.frame.length + data.length ≤ vp8MaxFrameSize) (marker key : Bool) :
    vp8Append d data marker key
      = if marker then
          (.ok (d.frame ++ data, key), { d with collecting := false, frame := [] })
        else (.error .generic, { d with frame := d.frame ++ data }) := by
  unfold vp8Append
  rw [hd.1, hd.2.1, if_neg (by simp), if_neg (by omega)]

theorem vp8Results_fragments (hne : rest ≠ []) (h : vp8Fragments key free rest first = .ok ps)
    (hd : first = false → d.Continues ts)
    (hlen : (if first then [] else d.frame).length + rest.length ≤ vp8MaxFrameSize) :
    vp8Results d (ps.map fun p => ⟨p.data, ts, p.marker⟩)
      = replicate (ps.length - 1) (.error .generic)
        ++ [.ok ((if first then [] else d.frame) ++ rest, key)] := by
  induction free generalizing rest first ps d with
  | zero =>
    obtain ⟨free', _, hfree, _⟩ := vp8Fragments_cons hne h
    omega
  | succ free ih =>
    obtain ⟨free', tail, hfree, htail, rfl⟩ := vp8Fragments_cons hne h
    obtain rfl : free = free' := by omega
    obtain ⟨d', hd', hframe, hstep⟩ := rtcVp8Depacketize_continues hd key
      (rest.take vp8MaxFragSize) (rest.drop vp8MaxFragSize).isEmpty
    rw [← hframe] at hlen ⊢
    have hsplit := take_append_drop vp8MaxFragSize rest
    have hlens : (rest.take vp8MaxFragSize).length + (rest.drop vp8MaxFragSize).length
        = rest.length := by
      rw [← length_append, hsplit]
    rw [vp8Append_continues hd' (by omega)] at hstep
    rw [map_cons, vp8Results, hstep]
    by_cases hlast : rest.drop vp8MaxFragSize = []
    · -- the fragment with the marker
      rw [hlast, vp8Fragments_nil] at htail
      cases htail
      rw [hlast, append_nil] at hsplit
      simp [hlast, hsplit, vp8Results]
    · rw [if_neg (by simpa using hlast)]
      have hrest := ih hlast htail (d := { d' with frame := d'.frame ++ _ })
        (fun _ => ⟨hd'.1, hd'.2.1, hd'.2.2⟩)
        (by
          show (d'.frame ++ rest.take vp8MaxFragSize).length + _ ≤ _
          rw [length_append]
          omega)
      obtain ⟨-, last, -, -, rfl⟩ := vp8Fragments_cons hlast htail
      rw [hrest]
      show _ :: (_ ++ [Except.ok ((d'.frame ++ rest.take vp8MaxFragSize)
        ++ rest.drop vp8MaxFragSize, key)]) = _
      rw [append_assoc, hsplit]
      rfl

theorem vp8Results_of_packetize {frame : Bytes} {maxPayloads : Nat}
    (h : rtcVp8Packetize frame key maxPayloads = .ok ps)
    (hlen : frame.length ≤ vp8MaxFrameSize) (d : Vp8Depacketizer) (ts : UInt32) :
    vp8Results d (ps.map fun p => ⟨p.data, ts, p.marker⟩)
      = replicate (ps.length - 1) (.error .generic) ++ [.ok (frame, key)] := by
  unfold rtcVp8Packetize at h
  by_cases hnil : frame.length = 0
  · rw [if_pos hnil] at h
    cases h
  · rw [if_neg hnil] at h
    have hne : frame ≠ [] := fun hf => hnil (by rw [hf]; rfl)
    exact vp8Results_fragments hne h (fun hf => by cases hf) (by simpa using hlen)

/-- **Round trip**: the payloads of a frame, fed with one timestamp to a depacketizer in any
state, give the frame back on the last one. -/
theorem vp8Depacketize_packetize {frame : Bytes} {maxPayloads : Nat}
    (h : rtcVp8Packetize frame key maxPayloads = .ok ps) (hlen : frame.length ≤ vp8MaxFrameSize)
    (d : Vp8Depacketizer) (ts : UInt32) :
    (vp8Results d (ps.map fun p => ⟨p.data, ts, p.marker⟩)).getLast? = some (.ok (frame, key)) := by
  rw [vp8Results_of_packetize h hlen, getLast?_append]
  rfl

def vp8State : Vp8Depacketizer → List MediaPacket → Vp8Depacketizer
  | d, [] => d
  | d, p :: ps => vp8State (rtcVp8Depacketize d p.payload p.timestamp p.marker).2 ps

theorem vp8Results_append (d : Vp8Depacketizer) (ps qs : List MediaPacket) :
    vp8Results d (ps ++ qs) = vp8Results d ps ++ vp8Results (vp8State d ps) qs := by
  induction ps generalizing d with
  | nil => rfl
  | cons p ps ih =>
    rw [cons_append, vp8Results, ih]
    rfl

/-- Behind any packets, the payloads of a frame under one timestamp give it back on the last call,
and nothing before. -/
theorem vp8Results_earlier_packetize (earlier : List MediaPacket) (frame : Bytes) (key : Bool)
    (maxPayloads : Nat) (ts : UInt32) (ps : List Vp8Payload)
    (hlen : frame.length ≤ vp8MaxFrameSize) (h : rtcVp8Packetize frame key maxPayloads = .ok ps) :
    vp8Results {} (earlier ++ ps.map fun p => ⟨p.data, ts, p.marker⟩) =
      vp8Results {} earlier
        ++ (replicate (ps.length - 1) (.error .generic) ++ [.ok (frame, key)]) := by
  rw [vp8Results_append, vp8Results_of_packetize h hlen]

def twoPayloadFrame : Bytes := replicate 1400 7

theorem twoPayloadFrame_packetize :
    rtcVp8Packetize twoPayloadFrame true 64 =
      .ok [⟨0x10 :: twoPayloadFrame.take 1399, false⟩, ⟨[0, 7], true⟩] := by
  decide +kernel

theorem twoPayloadFrame_behind_orphan :
    rtcVp8Packetize twoPayloadFrame true 64 =
        .ok [⟨0x10 :: twoPayloadFrame.take 1399, false⟩, ⟨[0, 7], true⟩] ∧
      vp8Results {} [⟨[0x10, 1, 2], 5, false⟩, ⟨0x10 :: twoPayloadFrame.take 1399, 9, false⟩,
          ⟨[0, 7], 9, true⟩] =
        [.error .generic, .error .generic, .ok (twoPayloadFrame, true)] := by
  have hlen : twoPayloadFrame.length ≤ vp8MaxFrameSize := by decide +kernel
  exact ⟨twoPayloadFrame_packetize,
    vp8Results_earlier_packetize [⟨[0x10, 1, 2], 5, false⟩] twoPayloadFrame true 64 9 _ hlen
      twoPayloadFrame_packetize⟩

end Mrtc
