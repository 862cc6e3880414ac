import Mrtc.Rtp.Sender

/-! # Packets that are sent again leave the bandwidth estimation

A packet that is sent again still carries its transport-wide number, so the answer to it would be
paired with the time it was first sent.
-/

namespace Mrtc

open Net List NackOp

/-! ## The ring of sent packets -/

theorem rtcTwccSenderLookup_invalidate (ring : List TwccSentPkt) (seq t : UInt16) :
    rtcTwccSenderLookup (rtcTwccSenderInvalidate ring seq) t
      = if seq = t then none else rtcTwccSenderLookup ring t := by
  unfold rtcTwccSenderLookup rtcTwccSenderInvalidate
  rw [getElem?_modify]
  cases ring[t.toNat % twccSenderRing]? with
  | none => simp
  | some e =>
    by_cases hseq : seq = t
    · subst hseq
      by_cases he : e.seq = seq <;> simp [he]
    · -- another number may still fall on the same place
      by_cases hplace : seq.toNat % twccSenderRing = t.toNat % twccSenderRing
      · grind
      · simp [hplace, hseq]

variable {t : UInt16} {cr : Crypto} {ev : EvpFault} {buf out : Bytes} {cap : Nat}

theorem rtcTwccSenderLookup_set {ring : List TwccSentPkt} {e : TwccSentPkt}
    (h : rtcTwccSenderLookup ring t = none) (hne : e.seq ≠ t) (i : Nat) :
    rtcTwccSenderLookup (ring.set i e) t = none := by
  unfold rtcTwccSenderLookup at h ⊢
  rw [getElem?_set]
  split
  · split
    · simp [hne]
    · rfl
  · exact h

/-! ## A request -/

theorem resendLost_lookup (twcc : Bool) (buf : NackBuf) (ring : List TwccSentPkt)
    (lost : List UInt16) (t : UInt16) :
    rtcTwccSenderLookup (resendLost twcc buf ring lost).2.2 t = none
      ↔ (twcc = true ∧ t ≠ 0 ∧ ∃ r ∈ (resendLost twcc buf ring lost).1, r.twccSeq = t)
        ∨ rtcTwccSenderLookup ring t = none := by
  induction lost generalizing buf ring with
  | nil => simp [resendLost]
  | cons seq lost ih =>
    rw [resendLost]
    rcases rtcNackBufRetransmit buf seq with ⟨_ | ⟨pkt, twccSeq⟩, buf'⟩
    · exact ih buf' ring
    · dsimp only
      rw [ih]
      by_cases hdrops : twccSeq ≠ 0 ∧ twcc = true
      · rw [if_pos hdrops, rtcTwccSenderLookup_invalidate]
        by_cases hseq : twccSeq = t
        · subst hseq
          simp [hdrops]
        · simp [hseq]
      · -- the number is 0, or there is no ring to drop it from
        rw [if_neg hdrops]
        refine or_congr_left (and_congr_right fun htwcc => and_congr_right fun ht => ?_)
        have hne : twccSeq ≠ t := by
          rintro rfl
          exact hdrops ⟨ht, htwcc⟩
        simp [hne]

theorem resendLost_buf (twcc : Bool) (buf : NackBuf) (ring : List TwccSentPkt)
    (lost : List UInt16) :
    (resendLost twcc buf ring lost).2.1 = (lost.map retransmit).foldl nackStep buf := by
  induction lost generalizing buf ring with
  | nil => rfl
  | cons seq lost ih =>
    unfold resendLost
    have hstep : nackStep buf (.retransmit seq) = (rtcNackBufRetransmit buf seq).2 := rfl
    rw [map_cons, foldl_cons, hstep]
    rcases rtcNackBufRetransmit buf seq with ⟨_ | ⟨pkt, twccSeq⟩, buf'⟩
    · exact ih buf' ring
    · exact ih buf' _

/-! ## The packets that were sent -/

def sentBy (cr : Crypto) (s : RtpSender) : SenderOp → Option NackStore
  | .send c => (rtcRtpSendStreamSendOut cr s c).handed
  | _ => none

def sentPackets (cr : Crypto) : RtpSender → List SenderOp → List NackStore
  | _, [] => []
  | s, op :: ops => (sentBy cr s op).toList ++ sentPackets cr (senderStep cr s op) ops

def lastSent (seq : UInt16) (packets : List NackStore) : Option NackStore :=
  packets.reverse.find? fun p => p.seq == seq

def nackOpsBy (cr : Crypto) (s : RtpSender) : SenderOp → List NackOp
  | .send c => (rtcRtpSendStreamSendOut cr s c).handed.toList.map .store
  | .nack lost => if s.stream.transport then lost.map .retransmit else []
  | .transport _ => []

def nackTrace (cr : Crypto) : RtpSender → List SenderOp → List NackOp
  | _, [] => []
  | s, op :: ops => nackOpsBy cr s op ++ nackTrace cr (senderStep cr s op) ops

def NackOp.stored : NackOp → Option NackStore
  | .store p => some p
  | .retransmit _ => none

theorem map_retransmit_stored (lost : List UInt16) :
    (lost.map retransmit).filterMap stored = [] := by
  simp [filterMap_eq_nil_iff, stored]

theorem nackOpsBy_stored (cr : Crypto) (s : RtpSender) (op : SenderOp) :
    (nackOpsBy cr s op).filterMap stored = (sentBy cr s op).toList := by
  cases op with
  | send c =>
    rw [nackOpsBy, filterMap_map]
    exact filterMap_some
  | nack lost =>
    rw [nackOpsBy]
    split
    · exact map_retransmit_stored lost
    · rfl
  | transport t => rfl

theorem nackTrace_stored (cr : Crypto) (s : RtpSender) (ops : List SenderOp) :
    (nackTrace cr s ops).filterMap stored = sentPackets cr s ops := by
  induction ops generalizing s with
  | nil => rfl
  | cons op ops ih => rw [nackTrace, sentPackets, filterMap_append, ih, nackOpsBy_stored]

theorem senderStep_nackBuf (cr : Crypto) (s : RtpSender) (op : SenderOp) :
    (senderStep cr s op).nackBuf = s.nackBuf.map ((nackOpsBy cr s op).foldl nackStep) := by
  cases op with
  | send c =>
    rw [senderStep, nackOpsBy]
    obtain ⟨stream, -, ⟨-, hnone, hsender⟩ | ⟨-, hnone, timestamp, transport, hsender⟩
      | ⟨-, -, -, timestamp, transport, -, p, -, -, hsome, hsender⟩⟩ :=
      rtcRtpSendStreamSendOut_cases cr s c
    · rw [hsender, hnone]
      exact Option.map_id'.symm
    · rw [hsender, hnone]
      exact Option.map_id'.symm
    · rw [hsender, hsome]
      rfl
  | nack lost =>
    rw [senderStep, nackOpsBy, rtcRtpSendStreamHandleNack]
    cases hbuf : s.nackBuf with
    | none => simpa using hbuf
    | some buf =>
      dsimp only
      split
      · exact congrArg some (resendLost_buf _ buf s.ring lost)
      · exact hbuf
  | transport t => exact Option.map_id'.symm

theorem senderRun_nackBuf (cr : Crypto) (s : RtpSender) (ops : List SenderOp) :
    (senderRun cr s ops).nackBuf = s.nackBuf.map ((nackTrace cr s ops).foldl nackStep) := by
  induction ops generalizing s with
  | nil => exact Option.map_id'.symm
  | cons op ops ih =>
    rw [senderRun_cons, ih, senderStep_nackBuf, Option.map_map]
    congr 1
    funext buf
    exact (foldl_append ..).symm

/-! ## Their lengths -/

theorem length_take_append_drop (buf cipher : Bytes) (n : Nat)
    (h : cipher.length = (buf.drop n).length) : (buf.take n ++ cipher).length = buf.length := by
  rw [length_append, h, ← length_append, take_append_drop]

section

variable (hcr : cr.Lawful)
include hcr

theorem srtpProtectGcm_length_le {ctx ctx' : SrtpCtx}
    (h : srtpProtectGcm cr ev ctx buf cap = (.ok out, ctx')) : out.length ≤ cap := by
  unfold srtpProtectGcm at h
  split at h
  · cases h
  · rename_i hroom
    dsimp only at h
    split at h
    · cases h
    · unfold srtpAesGcmEncrypt at h
      cases hfault : ev.cipher with
      | some e =>
        rw [hfault] at h
        cases h
      | none =>
        rw [hfault] at h
        cases h
        rw [length_append, length_take_append_drop _ _ _ (hcr.gcm_length ..),
          hcr.gcm_tag_length]
        omega

theorem rtcSrtpProtect_length_le {ctx ctx' : SrtpCtx}
    (h : rtcSrtpProtect cr ev ctx buf cap = (.ok out, ctx')) : out.length ≤ cap := by
  unfold rtcSrtpProtect at h
  split at h
  · cases h
  · split at h
    · cases h
    · split at h
      · exact srtpProtectGcm_length_le hcr h
      · split at h
        · cases h
        · -- AES-CM: the room for the tag was checked before
          rename_i hroom
          dsimp only at h
          split at h
          · cases h
          · unfold srtpAesCm aesCmWith srtpHmacSha1 at h
            rcases ev with ⟨_ | e, _ | e'⟩
            · cases h
              rw [length_append, length_take_append_drop _ _ _ (hcr.ctr_length ..),
                length_take]
              omega
            all_goals cases h

theorem rtcTransportSendRtp_length {t t' : SendTransport} {io : Option RtcErr}
    (h : rtcTransportSendRtp cr t ev io buf cap = (.ok out, t')) :
    1 ≤ out.length ∧ out.length ≤ cap := by
  unfold rtcTransportSendRtp at h
  split at h
  · cases h
  · split at h
    · cases h
    · rename_i hprotect
      split at h
      · cases h
      · rename_i hraw
        cases h
        refine ⟨?_, rtcSrtpProtect_length_le hcr hprotect⟩
        -- the socket takes no empty packet
        by_contra hshort
        unfold rtcTransportSendRaw at hraw
        rw [if_pos (by omega)] at hraw
        cases hraw

theorem nackOpsBy_fits (s : RtpSender) (op : SenderOp) : ∀ nop ∈ nackOpsBy cr s op, nop.Fits := by
  intro nop hnop
  cases op with
  | send c =>
    rw [nackOpsBy, mem_map] at hnop
    obtain ⟨p, hp, rfl⟩ := hnop
    rw [Option.mem_toList] at hp
    obtain ⟨-, -, ⟨-, hnone, -⟩ | ⟨-, hnone, -⟩
      | ⟨-, pkt, out, -, transport, hsent, q, hdata, -, hsome, -⟩⟩ :=
      rtcRtpSendStreamSendOut_cases cr s c
    · cases hnone.symm.trans hp
    · cases hnone.symm.trans hp
    · cases hsome.symm.trans hp
      obtain ⟨hpos, hle⟩ := rtcTransportSendRtp_length hcr hsent
      show 1 ≤ p.data.length ∧ p.data.length ≤ nackBufMaxPktSize
      rw [hdata]
      exact ⟨hpos, hle.trans (by decide)⟩
  | nack lost =>
    rw [nackOpsBy] at hnop
    split at hnop
    · obtain ⟨seq, -, rfl⟩ := mem_map.mp hnop
      trivial
    · cases hnop
  | transport t => cases hnop

theorem nackTrace_fits (s : RtpSender) (ops : List SenderOp) :
    ∀ nop ∈ nackTrace cr s ops, nop.Fits := by
  induction ops generalizing s with
  | nil => simp [nackTrace]
  | cons op ops ih =>
    intro nop hnop
    rcases mem_append.mp hnop with hnop | hnop
    · exact nackOpsBy_fits hcr s op nop hnop
    · exact ih _ nop hnop

end

/-! ## The packet that is sent again -/

theorem lastStored_lastSent {capacity asked : Nat} {seq : UInt16} {trace : List NackOp}
    {p : NackStore} (h : lastStored capacity seq trace = some (p, asked)) (hseq : p.seq = seq) :
    lastSent seq (trace.filterMap stored) = some p := by
  obtain ⟨before, after, rfl, -, hnone, -⟩ := lastStored_split h
  have hafter : (after.filterMap stored).reverse.find? (fun q => q.seq == seq) = none := by
    rw [find?_eq_none]
    intro q hq
    rw [mem_reverse, mem_filterMap] at hq
    obtain ⟨op, hop, hstored⟩ := hq
    cases op with
    | store q' =>
      cases hstored
      rw [beq_iff_eq]
      rintro rfl
      exact hnone q hop rfl
    | retransmit _ => cases hstored
  rw [lastSent, filterMap_append, filterMap_cons]
  simp only [stored, reverse_append, reverse_cons, append_assoc,
    find?_append]
  rw [hafter]
  simp [hseq]

theorem resendLost_resent {buf : NackBuf} (hnew : buf.New) {trace : List NackOp}
    (hfit : ∀ op ∈ trace, op.Fits) (twcc : Bool) (ring : List TwccSentPkt) (lost : List UInt16)
    {r : Resent} (hr : r ∈ (resendLost twcc (trace.foldl nackStep buf) ring lost).1) :
    ∃ p, lastSent r.seq (trace.filterMap stored) = some p ∧ r.data = p.data
      ∧ r.twccSeq = if p.hasTwcc then p.twccSeq else 0 := by
  induction lost generalizing trace ring with
  | nil => cases hr
  | cons seq lost ih =>
    -- the requests so far are part of the history, and add no packet to it
    have hnext : ∀ op ∈ trace ++ [retransmit seq], op.Fits := by
      intro op hop
      rcases mem_append.mp hop with hop | hop
      · exact hfit op hop
      · rw [mem_singleton.mp hop]
        trivial
    have hstored : (trace ++ [retransmit seq]).filterMap stored
        = trace.filterMap stored := by
      rw [filterMap_append]
      exact append_nil _
    have hbuf : (trace ++ [retransmit seq]).foldl nackStep buf
        = (rtcNackBufRetransmit (trace.foldl nackStep buf) seq).2 := foldl_append ..
    have hrest : ∀ ring', r ∈ (resendLost twcc
        (rtcNackBufRetransmit (trace.foldl nackStep buf) seq).2 ring' lost).1 →
        ∃ p, lastSent r.seq (trace.filterMap stored) = some p ∧ r.data = p.data
          ∧ r.twccSeq = if p.hasTwcc then p.twccSeq else 0 := by grind
    have hfound := nackRun_retransmit hnew hfit seq
    rw [resendLost] at hr
    rcases hcase : rtcNackBufRetransmit (trace.foldl nackStep buf) seq with
      ⟨_ | ⟨pkt, twccSeq⟩, buf'⟩
    · rw [hcase] at hr hrest
      exact hrest ring hr
    · rw [hcase] at hr hrest hfound
      rcases mem_cons.mp hr with rfl | hr
      · obtain ⟨⟨p, asked⟩, hheld, heq⟩ := Option.map_eq_some_iff.mp hfound.symm
        obtain ⟨hheld, hmatch⟩ := Option.filter_eq_some_iff.mp hheld
        rw [decide_eq_true_eq] at hmatch
        cases heq
        exact ⟨p, lastStored_lastSent hheld hmatch.1, rfl, rfl⟩
      · exact hrest _ hr

/-! ## Until the number is used again -/

theorem senderStep_lookup {s : RtpSender} {op : SenderOp} (h : rtcTwccSenderLookup s.ring t = none)
    (hunused : ∀ p ∈ sentBy cr s op, p.hasTwcc = true → p.twccSeq ≠ t) :
    rtcTwccSenderLookup (senderStep cr s op).ring t = none := by
  cases op with
  | send c =>
    rw [senderStep]
    obtain ⟨stream, -, ⟨-, -, hsender⟩ | ⟨-, -, timestamp, transport, hsender⟩
      | ⟨-, -, -, timestamp, transport, -, p, -, -, hsome, hsender⟩⟩ :=
      rtcRtpSendStreamSendOut_cases cr s c
    · rwa [hsender]
    · rwa [hsender]
    · rw [hsender]
      unfold RtpSender.keep RtpSender.counted
      dsimp only
      split
      · rename_i htagged
        exact rtcTwccSenderLookup_set h (hunused p hsome htagged) _
      · exact h
  | nack lost => grind [senderStep, rtcRtpSendStreamHandleNack_cases, resendLost_lookup]
  | transport t => exact h

theorem senderRun_lookup {s : RtpSender} {ops : List SenderOp}
    (h : rtcTwccSenderLookup s.ring t = none)
    (hunused : ∀ p ∈ sentPackets cr s ops, p.hasTwcc = true → p.twccSeq ≠ t) :
    rtcTwccSenderLookup (senderRun cr s ops).ring t = none := by
  induction ops generalizing s with
  | nil => exact h
  | cons op ops ih =>
    refine ih (senderStep_lookup h fun p hp => hunused p ?_) fun p hp => hunused p ?_
    · exact mem_append_left _ (Option.mem_toList.mpr hp)
    · exact mem_append_right _ hp

theorem rtcRtpSendStreamSend_twcc (s : RtpSendStream) (payload : Bytes) (samples : UInt32)
    (marker : Bool) :
    (rtcRtpSendStreamSend s payload samples marker).stream.twccNextSeq.isSome
      = s.twccNextSeq.isSome := by
  have hstamped : ∀ (s : RtpSendStream) r, (sendStamped s r).stream.twccNextSeq = s.twccNextSeq := by
    rintro s ⟨_ | _, _⟩ <;> rfl
  unfold rtcRtpSendStreamSend
  split
  · rfl
  · split
    · rfl
    · split
      · rfl
      · unfold RtpSendStream.tag
        split
        · grind
        · rw [hstamped]

theorem senderStep_twcc (cr : Crypto) (s : RtpSender) (op : SenderOp) :
    (senderStep cr s op).stream.twccNextSeq.isSome = s.stream.twccNextSeq.isSome := by
  cases op with
  | send c =>
    have hkept := rtcRtpSendStreamSend_twcc s.stream c.payload c.samples c.marker
    rw [senderStep]
    obtain ⟨stream, rfl, ⟨-, -, hsender⟩ | ⟨-, -, timestamp, transport, hsender⟩
      | ⟨-, -, -, timestamp, transport, -, p, -, -, -, hsender⟩⟩ :=
      rtcRtpSendStreamSendOut_cases cr s c
    all_goals
      rw [hsender]
      exact hkept
  | nack lost =>
    rw [senderStep]
    rcases rtcRtpSendStreamHandleNack_cases s lost with h | ⟨buf, r, -, -, h⟩ <;> rw [h]
  | transport t => rfl

theorem senderRun_twcc (cr : Crypto) (s : RtpSender) (ops : List SenderOp) :
    (senderRun cr s ops).stream.twccNextSeq.isSome = s.stream.twccNextSeq.isSome := by
  induction ops generalizing s with
  | nil => rfl
  | cons op ops ih => rw [senderRun_cons, ih, senderStep_twcc]

/-- **A packet that is sent again leaves the bandwidth estimation, unless its number is 0.** -/
theorem resentPacket_lookup_iff {cr : Crypto} (hcr : cr.Lawful) {s : RtpSender} {requested : Nat}
    (hpos : 1 ≤ requested) (hlt : requested ≤ 2 ^ 16)
    (hbuf : s.nackBuf = rtcNackBufCreate requested true)
    (htwcc : s.stream.twccNextSeq.isSome = true) (ops : List SenderOp) (lost : List UInt16)
    {r : Resent} (hr : r ∈ (rtcRtpSendStreamHandleNack (senderRun cr s ops) lost).1) :
    ∃ p, lastSent r.seq (sentPackets cr s ops) = some p ∧ r.data = p.data
      ∧ (p.hasTwcc = true →
        (rtcTwccSenderLookup (rtcRtpSendStreamHandleNack (senderRun cr s ops) lost).2.ring
              p.twccSeq = none
            ↔ p.twccSeq ≠ 0 ∨ rtcTwccSenderLookup (senderRun cr s ops).ring p.twccSeq = none)
          ∧ (p.twccSeq ≠ 0 → ∀ later,
            (∀ q ∈ sentPackets cr (rtcRtpSendStreamHandleNack (senderRun cr s ops) lost).2 later,
              q.hasTwcc = true → q.twccSeq ≠ p.twccSeq) →
            rtcTwccSenderLookup
              (senderRun cr (rtcRtpSendStreamHandleNack (senderRun cr s ops) lost).2 later).ring
              p.twccSeq = none)) := by
  obtain ⟨buf, hcreate, hnew, -⟩ := rtcNackBufCreate_spec hpos (hlt.trans (by decide))
  have hnow : (senderRun cr s ops).nackBuf = some ((nackTrace cr s ops).foldl nackStep buf) := by
    rw [senderRun_nackBuf, hbuf, hcreate]
    rfl
  have htwcc' : (senderRun cr s ops).stream.twccNextSeq.isSome = true :=
    (senderRun_twcc cr s ops).trans htwcc
  rcases rtcRtpSendStreamHandleNack_cases (senderRun cr s ops) lost with
    hstays | ⟨buf', res, hbuf', hres, hhandle⟩
  · rw [hstays] at hr
    cases hr
  · cases hnow.symm.trans hbuf'
    rw [htwcc'] at hres
    subst hres
    rw [hhandle] at hr ⊢
    obtain ⟨p, hlast, hdata, hnumber⟩ := resendLost_resent hnew (nackTrace_fits hcr s ops)
      true _ lost hr
    rw [nackTrace_stored] at hlast
    refine ⟨p, hlast, hdata, fun htagged => ?_⟩
    -- the buffer gave the number that the packet was sent with
    rw [if_pos htagged] at hnumber
    have hafter := resendLost_lookup true ((nackTrace cr s ops).foldl nackStep buf)
      (senderRun cr s ops).ring lost p.twccSeq
    have hiff : rtcTwccSenderLookup (resendLost true ((nackTrace cr s ops).foldl nackStep buf)
        (senderRun cr s ops).ring lost).2.2 p.twccSeq = none
          ↔ p.twccSeq ≠ 0 ∨ rtcTwccSenderLookup (senderRun cr s ops).ring p.twccSeq = none := by
      grind
    exact ⟨hiff, fun hne later hunused => senderRun_lookup (hiff.mpr (.inl hne)) hunused⟩

def twoPackets : List SenderOp := [.send { payload := [1] }, .send { payload := [2] }]

/-- The second of two packets is asked for: its number was found, and is not afterwards. -/
theorem secondPacket_lookup :
    (rtcRtpSendStreamHandleNack (senderRun toyCrypto (taggingSender true) twoPackets) [1]).1.map
        Resent.seq = [1]
      ∧ (rtcTwccSenderLookup (senderRun toyCrypto (taggingSender true) twoPackets).ring 1).isSome
        = true
      ∧ rtcTwccSenderLookup (rtcRtpSendStreamHandleNack
          (senderRun toyCrypto (taggingSender true) twoPackets) [1]).2.ring 1 = none := by
  have hseqs : (rtcRtpSendStreamHandleNack (senderRun toyCrypto (taggingSender true) twoPackets)
      [1]).1.map Resent.seq = [1] := by decide +kernel
  have htag : (lastSent 1 (sentPackets toyCrypto (taggingSender true) twoPackets)).map
      (fun p => (p.hasTwcc, p.twccSeq)) = some (true, 1) := by decide +kernel
  obtain ⟨r, hr, hseq⟩ := mem_map.mp (hseqs ▸ mem_singleton_self (1 : UInt16))
  obtain ⟨p, hp, -, hlookup⟩ := resentPacket_lookup_iff toyCrypto_lawful
    (by decide : 1 ≤ nackBufDefaultSize) (by decide) rfl rfl twoPackets [1] hr
  rw [hseq] at hp
  rw [hp, Option.map_some, Option.some.injEq, Prod.mk.injEq] at htag
  obtain ⟨hiff, -⟩ := hlookup htag.1
  rw [htag.2] at hiff
  exact ⟨hseqs, by decide +kernel, hiff.mpr (.inl (by decide))⟩

/-- The first packet of a transport has the number 0. -/
theorem firstPacket_lookup :
    (rtcRtpSendStreamHandleNack (senderRun toyCrypto (taggingSender true)
        [.send { payload := [1] }]) [0]).1.map Resent.seq = [0]
      ∧ (lastSent 0 (sentPackets toyCrypto (taggingSender true) [.send { payload := [1] }])).map
          (fun p => (p.hasTwcc, p.twccSeq)) = some (true, 0)
      ∧ (rtcTwccSenderLookup (rtcRtpSendStreamHandleNack (senderRun toyCrypto (taggingSender true)
          [.send { payload := [1] }]) [0]).2.ring 0).isSome = true := by
  decide +kernel

end Mrtc
