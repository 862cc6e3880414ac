import Mrtc.Twcc.Parse

/-! # Compound RTCP datagrams (`rtc_media_session.c`, `rtc_transport.c`)

An RTCP datagram is a row of packets, each with its length in its header.
-/

namespace Mrtc

open Net List

def rtcpPtRtpfb : Nat := 205
def rtcpFmtTwcc : Nat := 15
def twccSenderRing : Nat := 1024

/-! ## The source -/

def readAt (buf : Bytes) (i : Nat) : Option Nat := buf[i]?.map UInt8.toNat

def rtcpSubLen (buf : Bytes) (offset : Nat) : Option Nat :=
  (readAt buf (offset + 2)).bind fun hi =>
    (readAt buf (offset + 3)).map fun lo => (hi * 2 ^ 8 + lo + 1) * 4

def slice (buf : Bytes) (offset len : Nat) : Bytes := (buf.drop offset).take len

def rtcRtcpGetPtFmt (data : Bytes) : Option (Option (Nat × Nat)) :=
  if data.length < 4 then some none
  else
    (readAt data 0).bind fun b0 =>
      if b0 / 2 ^ 6 % 4 ≠ 2 then some none
      else (readAt data 1).map fun pt => some (pt, b0 % 2 ^ 5)

section

variable {σ β : Type} {buf : Bytes} {fuel offset : Nat}

structure Interceptor (σ : Type) where
  onRtcp : Option (Nat → Nat → Bytes → σ → σ)

def rtcInterceptorChainOnRtcp (chain : List (Interceptor σ)) (pt fmt : Nat) (buf : Bytes) (s : σ) :
    σ :=
  chain.foldl (fun s it => match it.onRtcp with
    | none => s
    | some onRtcp => onRtcp pt fmt buf s) s

structure MediaSession (σ : Type) where
  ready : Bool
  chain : List (Interceptor σ)
  state : σ

def handleRtcpLoop (chain : List (Interceptor σ)) (buf : Bytes) :
    (fuel : Nat) → (offset : Nat) → σ → Option (σ × List (Nat × Nat))
  | 0, _, _ => none
  | fuel + 1, offset, s =>
    if offset + 4 ≤ buf.length then
      (readAt buf offset).bind fun b0 =>
        if b0 / 2 ^ 6 % 4 ≠ 2 then some (s, [])
        else
          (rtcpSubLen buf offset).bind fun subLen =>
            if buf.length < offset + subLen then some (s, [])
            else
              (rtcRtcpGetPtFmt (slice buf offset subLen)).bind fun found =>
                let s' := match found with
                  | none => s
                  | some (pt, fmt) =>
                    rtcInterceptorChainOnRtcp chain pt fmt (slice buf offset subLen) s
                (handleRtcpLoop chain buf fuel (offset + subLen) s').map fun r =>
                  (r.1, (offset, subLen) :: r.2)
    else some (s, [])

def rtcMediaSessionHandleRtcp (session : MediaSession σ) (buf : Bytes) :
    Option (σ × List (Nat × Nat)) :=
  if !session.ready then some (session.state, [])
  else handleRtcpLoop session.chain buf (buf.length + 1) 0 session.state

structure TwccSentPkt where
  seq : UInt16
  size : Nat
  sendTimeUs : Nat
  used : Bool
  deriving DecidableEq

def rtcTwccSenderLookup (ring : List TwccSentPkt) (seq : UInt16) : Option TwccSentPkt :=
  (ring[seq.toNat % twccSenderRing]?).bind fun e =>
    if !e.used || e.seq != seq then none else some e

/-- The part of the transport the scan reads; `bwe` is the bandwidth estimator, if it has one, and
`onPacketFeedback` is `rtc_bwe_on_packet_feedback`. -/
structure TwccScanner (β : Type) where
  twccEnabled : Bool
  sender : List TwccSentPkt
  bwe : Option β
  onPacketFeedback : (sendTimeUs recvTimeUs size : Nat) → β → β

def feedItems (t : TwccScanner β) (items : List TwccItem) (b : β) : β :=
  items.foldl (fun b item => match rtcTwccSenderLookup t.sender item.seq with
    | none => b
    | some sent =>
      t.onPacketFeedback sent.sendTimeUs (if item.received then item.recvTimeUs else 0) sent.size
        b) b

def feedPacket (t : TwccScanner β) (pt fmt : Nat) (data : Bytes) (b : β) : β :=
  if pt = rtcpPtRtpfb ∧ fmt = rtcpFmtTwcc then
    match rtcRtcpParseTwcc data with
    | .error _ => b
    | .ok report => feedItems t report.items b
  else b

def consumeTwccLoop (t : TwccScanner β) (buf : Bytes) :
    (fuel : Nat) → (offset : Nat) → β → Option (β × List (Nat × Nat))
  | 0, _, _ => none
  | fuel + 1, offset, b =>
    if offset + 4 ≤ buf.length then
      (readAt buf offset).bind fun b0 =>
        if b0 / 2 ^ 6 % 4 ≠ 2 then some (b, [])
        else
          (rtcpSubLen buf offset).bind fun subLen =>
            if buf.length < offset + subLen then some (b, [])
            else
              (rtcRtcpGetPtFmt (slice buf offset subLen)).bind fun found =>
                let b' := match found with
                  | none => b
                  | some (pt, fmt) => feedPacket t pt fmt (slice buf offset subLen) b
                (consumeTwccLoop t buf fuel (offset + subLen) b').map fun r =>
                  (r.1, (offset, subLen) :: r.2)
    else some (b, [])

def transportConsumeTwccFeedback (t : TwccScanner β) (buf : Bytes) :
    Option (Option β × List (Nat × Nat)) :=
  match t.bwe with
  | none => some (none, [])
  | some b =>
    if !t.twccEnabled then some (some b, [])
    else (consumeTwccLoop t buf (buf.length + 1) 0 b).map fun r => (some r.1, r.2)

/-! ## The packets of a datagram -/

def rtcpLenAt (buf : Bytes) (offset : Nat) : Nat := (readU16 buf (offset + 2) + 1) * 4

def WholeAt (buf : Bytes) (offset : Nat) : Prop :=
  offset + 4 ≤ buf.length ∧ byteAt buf offset / 2 ^ 6 = 2
    ∧ offset + rtcpLenAt buf offset ≤ buf.length

instance WholeAt.decidable (buf : Bytes) (offset : Nat) : Decidable (WholeAt buf offset) :=
  inferInstanceAs (Decidable (_ ∧ _ ∧ _))

def rtcpBoundaries (buf : Bytes) : (fuel : Nat) → (offset : Nat) → List (Nat × Nat)
  | 0, _ => []
  | fuel + 1, offset =>
    if WholeAt buf offset then
      (offset, rtcpLenAt buf offset) :: rtcpBoundaries buf fuel (offset + rtcpLenAt buf offset)
    else []

def visitAt (visit : Nat → Nat → Bytes → σ → σ) (buf : Bytes) (s : σ) (v : Nat × Nat) : σ :=
  visit (byteAt buf (v.1 + 1)) (byteAt buf v.1 % 2 ^ 5) (slice buf v.1 v.2) s

/-! ## Reading -/

theorem readAt_of_lt {i : Nat} (h : i < buf.length) : readAt buf i = some (byteAt buf i) := by
  simp [readAt, byteAt, List.getD, h]

theorem rtcpSubLen_of_le {offset : Nat} (h : offset + 4 ≤ buf.length) :
    rtcpSubLen buf offset = some (rtcpLenAt buf offset) := by
  rw [rtcpSubLen, readAt_of_lt (by omega), readAt_of_lt (by omega)]
  rfl

theorem slice_length {offset len : Nat} (h : offset + len ≤ buf.length) :
    (slice buf offset len).length = len := by
  simp only [slice, length_take, length_drop]
  omega

theorem byteAt_slice {offset len i : Nat} (h : i < len) :
    byteAt (slice buf offset len) i = byteAt buf (offset + i) := by
  rw [slice, byteAt_take h]
  simp [byteAt, List.getD]

theorem four_le_rtcpLenAt (buf : Bytes) (offset : Nat) : 4 ≤ rtcpLenAt buf offset := by
  unfold rtcpLenAt
  omega

theorem rtcRtcpGetPtFmt_slice {offset : Nat} (h : WholeAt buf offset) :
    rtcRtcpGetPtFmt (slice buf offset (rtcpLenAt buf offset))
      = some (some (byteAt buf (offset + 1), byteAt buf offset % 2 ^ 5)) := by
  obtain ⟨-, hversion, hlen⟩ := h
  have hfour := four_le_rtcpLenAt buf offset
  have hslice := slice_length hlen
  rw [rtcRtcpGetPtFmt, if_neg (by omega), readAt_of_lt (by omega), readAt_of_lt (by omega),
    byteAt_slice (by omega), byteAt_slice (by omega), Nat.add_zero, Option.bind_some,
    if_neg (by omega), Option.map_some]

/-! ## The loops -/

theorem rtcpRound_eq {α : Type} (buf : Bytes) (offset : Nat) (stop : Option α)
    (next : Nat → Option (Nat × Nat) → Option α) :
    (if offset + 4 ≤ buf.length then
        (readAt buf offset).bind fun b0 =>
          if b0 / 2 ^ 6 % 4 ≠ 2 then stop
          else
            (rtcpSubLen buf offset).bind fun subLen =>
              if buf.length < offset + subLen then stop
              else (rtcRtcpGetPtFmt (slice buf offset subLen)).bind fun found => next subLen found
      else stop)
      = if WholeAt buf offset then
          next (rtcpLenAt buf offset)
            (some (byteAt buf (offset + 1), byteAt buf offset % 2 ^ 5))
        else stop := by
  by_cases hroom : offset + 4 ≤ buf.length
  · have hbyte := byteAt_lt buf offset
    rw [if_pos hroom, readAt_of_lt (by omega), Option.bind_some, rtcpSubLen_of_le hroom,
      Option.bind_some]
    by_cases hversion : byteAt buf offset / 2 ^ 6 = 2
    · rw [if_neg (by omega)]
      by_cases hlen : offset + rtcpLenAt buf offset ≤ buf.length
      · have hwhole : WholeAt buf offset := ⟨hroom, hversion, hlen⟩
        rw [if_neg (by omega), rtcRtcpGetPtFmt_slice hwhole, Option.bind_some, if_pos hwhole]
      · rw [if_pos (by omega), if_neg fun hwhole => hlen hwhole.2.2]
    · rw [if_pos (by omega), if_neg fun hwhole => hversion hwhole.2.1]
  · rw [if_neg hroom, if_neg fun hwhole => hroom hwhole.1]

theorem rtcpLoop_eq {α : Type} {loop : Nat → Nat → α → Option (α × List (Nat × Nat))}
    {visit : Nat → Nat → Bytes → α → α}
    (hround : ∀ fuel offset s, loop (fuel + 1) offset s
      = if WholeAt buf offset then
          (loop fuel (offset + rtcpLenAt buf offset)
            (visitAt visit buf s (offset, rtcpLenAt buf offset))).map fun r =>
              (r.1, (offset, rtcpLenAt buf offset) :: r.2)
        else some (s, []))
    (hfuel : buf.length < fuel + offset) (hoffset : offset ≤ buf.length) (s : α) :
    loop fuel offset s
      = some ((rtcpBoundaries buf fuel offset).foldl (visitAt visit buf) s,
          rtcpBoundaries buf fuel offset) := by
  induction fuel generalizing offset s with
  | zero => omega
  | succ fuel ih =>
    rw [hround, rtcpBoundaries]
    by_cases hwhole : WholeAt buf offset
    · have hfour := four_le_rtcpLenAt buf offset
      rw [if_pos hwhole, if_pos hwhole, ih (by omega) hwhole.2.2, Option.map_some, foldl_cons]
    · rw [if_neg hwhole, if_neg hwhole]
      rfl

theorem handleRtcpLoop_eq (chain : List (Interceptor σ)) (buf : Bytes)
    (hfuel : buf.length < fuel + offset) (hoffset : offset ≤ buf.length) (s : σ) :
    handleRtcpLoop chain buf fuel offset s
      = some ((rtcpBoundaries buf fuel offset).foldl
          (visitAt (rtcInterceptorChainOnRtcp chain) buf) s, rtcpBoundaries buf fuel offset) := by
  refine rtcpLoop_eq (fun fuel offset s => ?_) hfuel hoffset s
  rw [handleRtcpLoop, rtcpRound_eq]
  rfl

theorem consumeTwccLoop_eq (t : TwccScanner β) (buf : Bytes)
    (hfuel : buf.length < fuel + offset) (hoffset : offset ≤ buf.length) (b : β) :
    consumeTwccLoop t buf fuel offset b
      = some ((rtcpBoundaries buf fuel offset).foldl (visitAt (feedPacket t) buf) b,
          rtcpBoundaries buf fuel offset) := by
  refine rtcpLoop_eq (fun fuel offset b => ?_) hfuel hoffset b
  rw [consumeTwccLoop, rtcpRound_eq]
  rfl

/-! ## Rows of packets -/

structure RtcpPacket where
  bytes : Bytes
  version : byteAt bytes 0 / 2 ^ 6 = 2
  length : bytes.length = (readU16 bytes 2 + 1) * 4

def RtcpPacket.pt (packet : RtcpPacket) : Nat := byteAt packet.bytes 1

def RtcpPacket.fmt (packet : RtcpPacket) : Nat := byteAt packet.bytes 0 % 2 ^ 5

def compound (packets : List RtcpPacket) : Bytes := packets.flatMap RtcpPacket.bytes

def Adjacent : (offset : Nat) → List (Nat × Nat) → Prop
  | _, [] => True
  | offset, (place, len) :: rest => place = offset ∧ Adjacent (offset + len) rest

theorem rtcpBoundaries_adjacent (buf : Bytes) (fuel offset : Nat) :
    Adjacent offset (rtcpBoundaries buf fuel offset) := by
  induction fuel generalizing offset with
  | zero => trivial
  | succ fuel ih =>
    rw [rtcpBoundaries]
    split
    · exact ⟨rfl, ih _⟩
    · trivial

theorem rtcpBoundaries_inside (buf : Bytes) (fuel offset : Nat) :
    ∀ v ∈ rtcpBoundaries buf fuel offset, 4 ≤ v.2 ∧ v.1 + v.2 ≤ buf.length := by
  induction fuel generalizing offset with
  | zero => simp [rtcpBoundaries]
  | succ fuel ih =>
    rw [rtcpBoundaries]
    split
    · rename_i hwhole
      intro v hv
      rcases mem_cons.mp hv with rfl | hv
      · exact ⟨four_le_rtcpLenAt buf offset, hwhole.2.2⟩
      · exact ih _ v hv
    · simp

theorem RtcpPacket.four_le (packet : RtcpPacket) : 4 ≤ packet.bytes.length := by
  have := packet.length
  omega

theorem length_le_compound (packets : List RtcpPacket) :
    packets.length ≤ (compound packets).length := by
  induction packets with
  | nil => simp
  | cons packet packets ih =>
    have := packet.four_le
    simp only [compound, flatMap_cons, length_append, length_cons] at ih ⊢
    omega

section

variable (front : Bytes) (packet : RtcpPacket) (rest : Bytes)

theorem byteAt_compound {i : Nat} (h : i < 4) :
    byteAt (front ++ (packet.bytes ++ rest)) (front.length + i) = byteAt packet.bytes i := by
  have := packet.four_le
  rw [byteAt_append_right (by omega), Nat.add_sub_cancel_left, byteAt_append_left (by omega)]

theorem rtcpLenAt_compound :
    rtcpLenAt (front ++ (packet.bytes ++ rest)) front.length = packet.bytes.length := by
  have h2 := byteAt_compound front packet rest (show 2 < 4 by decide)
  have h3 := byteAt_compound front packet rest (show 2 + 1 < 4 by decide)
  rw [← Nat.add_assoc] at h3
  rw [rtcpLenAt, readU16, h2, h3, packet.length, readU16]

theorem wholeAt_compound : WholeAt (front ++ (packet.bytes ++ rest)) front.length := by
  have hfour := packet.four_le
  refine ⟨?_, ?_, ?_⟩
  · simp only [length_append]
    omega
  · have := byteAt_compound front packet rest (show 0 < 4 by decide)
    rw [Nat.add_zero] at this
    rw [this, packet.version]
  · rw [rtcpLenAt_compound]
    simp only [length_append]
    omega

theorem slice_compound :
    slice (front ++ (packet.bytes ++ rest)) front.length packet.bytes.length = packet.bytes := by
  rw [slice, drop_left, take_left]

end

theorem rtcpBoundaries_compound (visit : Nat → Nat → Bytes → σ → σ) (front : Bytes)
    (packets : List RtcpPacket) {fuel : Nat} (hfuel : packets.length < fuel) (s : σ) :
    let buf := front ++ compound packets
    (rtcpBoundaries buf fuel front.length).map (fun v => slice buf v.1 v.2)
        = packets.map RtcpPacket.bytes
      ∧ (rtcpBoundaries buf fuel front.length).foldl (visitAt visit buf) s
        = packets.foldl (fun s packet => visit packet.pt packet.fmt packet.bytes s) s := by
  induction packets generalizing front fuel s with
  | nil =>
    obtain ⟨fuel, rfl⟩ := Nat.exists_eq_succ_of_ne_zero (Nat.ne_of_gt hfuel)
    have hend : ¬WholeAt (front ++ compound []) front.length := by
      intro hwhole
      have := hwhole.1
      simp only [compound, flatMap_nil, append_nil] at this
      omega
    simp [rtcpBoundaries, hend]
  | cons packet packets ih =>
    obtain ⟨fuel, rfl⟩ := Nat.exists_eq_succ_of_ne_zero (Nat.ne_of_gt (Nat.zero_lt_of_lt hfuel))
    rw [length_cons, Nat.succ_lt_succ_iff] at hfuel
    have hbuf : front ++ compound (packet :: packets)
        = front ++ (packet.bytes ++ compound packets) := rfl
    -- the packets behind have one more in front of them
    have hnext := ih (front ++ packet.bytes) hfuel
      (visit packet.pt packet.fmt packet.bytes s)
    rw [length_append, append_assoc] at hnext
    dsimp only at hnext ⊢
    rw [hbuf, rtcpBoundaries, if_pos (wholeAt_compound front packet _), rtcpLenAt_compound]
    refine ⟨?_, ?_⟩
    · rw [map_cons, slice_compound, hnext.1, map_cons]
    · have hvisit : visitAt visit (front ++ (packet.bytes ++ compound packets)) s
          (front.length, packet.bytes.length) = visit packet.pt packet.fmt packet.bytes s := by
        have h0 := byteAt_compound front packet (compound packets) (show 0 < 4 by decide)
        have h1 := byteAt_compound front packet (compound packets) (show 1 < 4 by decide)
        rw [Nat.add_zero] at h0
        rw [visitAt, slice_compound, h0, h1]
        rfl
      rw [foldl_cons, hvisit, hnext.2, foldl_cons]

/-- **The walk over a compound datagram.** -/
theorem compoundRtcp_walk (session : MediaSession σ) (hready : session.ready = true)
    (t : TwccScanner β) (henabled : t.twccEnabled = true) {b : β} (hbwe : t.bwe = some b) :
    (∀ packets : List RtcpPacket, ∃ visited,
      rtcMediaSessionHandleRtcp session (compound packets)
          = some (packets.foldl (fun s packet => rtcInterceptorChainOnRtcp session.chain packet.pt
            packet.fmt packet.bytes s) session.state, visited)
        ∧ visited.map (fun v => slice (compound packets) v.1 v.2) = packets.map RtcpPacket.bytes)
    ∧ ∀ buf : Bytes, ∃ visited,
      rtcMediaSessionHandleRtcp session buf
          = some (visited.foldl (visitAt (rtcInterceptorChainOnRtcp session.chain) buf)
            session.state, visited)
        ∧ Adjacent 0 visited ∧ (∀ v ∈ visited, 4 ≤ v.2 ∧ v.1 + v.2 ≤ buf.length)
        ∧ transportConsumeTwccFeedback t buf
          = some (some (visited.foldl (visitAt (feedPacket t) buf) b), visited) := by
  have hhandle : ∀ buf : Bytes, rtcMediaSessionHandleRtcp session buf
      = some ((rtcpBoundaries buf (buf.length + 1) 0).foldl
          (visitAt (rtcInterceptorChainOnRtcp session.chain) buf) session.state,
        rtcpBoundaries buf (buf.length + 1) 0) := by
    grind [rtcMediaSessionHandleRtcp, handleRtcpLoop_eq]
  constructor
  · intro packets
    have hfuel : packets.length < (compound packets).length + 1 :=
      Nat.lt_succ_of_le (length_le_compound packets)
    obtain ⟨hslices, hfold⟩ := rtcpBoundaries_compound (rtcInterceptorChainOnRtcp session.chain) []
      packets hfuel session.state
    rw [nil_append, length_nil] at hslices hfold
    exact ⟨_, by rw [hhandle, hfold], hslices⟩
  · intro buf
    refine ⟨_, hhandle buf, rtcpBoundaries_adjacent buf _ 0, rtcpBoundaries_inside buf _ 0, ?_⟩
    rw [transportConsumeTwccFeedback, hbwe]
    dsimp only
    rw [henabled, Bool.not_true, if_neg Bool.false_ne_true,
      consumeTwccLoop_eq t buf (by omega) (by omega), Option.map_some]

end

def emptyReport : RtcpPacket := ⟨[0x80, 201, 0, 1, 0, 0, 0, 7], by decide, by decide⟩

def pictureLoss : RtcpPacket :=
  ⟨[0x81, 206, 0, 2, 0, 0, 0, 7, 0, 0, 0, 9], by decide, by decide⟩

def notingSession : MediaSession (List (Nat × Nat × Bytes)) :=
  { ready := true
    chain := [⟨some fun pt fmt data s => s ++ [(pt, fmt, data)]⟩, ⟨none⟩]
    state := [] }

def countingScanner : TwccScanner Nat :=
  { twccEnabled := true, sender := [], bwe := some 0, onPacketFeedback := fun _ _ _ n => n + 1 }

theorem reportAndLoss_noted :
    ∃ visited, rtcMediaSessionHandleRtcp notingSession (compound [emptyReport, pictureLoss])
        = some ([(201, 0, emptyReport.bytes), (206, 1, pictureLoss.bytes)], visited)
      ∧ visited.map (fun v => slice (compound [emptyReport, pictureLoss]) v.1 v.2)
        = [emptyReport.bytes, pictureLoss.bytes] :=
  (compoundRtcp_walk notingSession rfl countingScanner rfl rfl).1 [emptyReport, pictureLoss]

end Mrtc
