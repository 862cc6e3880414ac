import Mrtc.Srtp.Receive
import Mrtc.Srtp.Send

/-! # Unprotecting what was protected

A packet protected under some rollover counter or SRTCP index verifies under the same one and
decrypts to the original bytes, in both cipher layouts (`rtcSrtpUnprotect_sealed`,
`rtcSrtpUnprotectRtcp_sealed`).
-/

namespace Mrtc

open Net List

/-! ## The header -/

theorem srtpRtpHeaderLen_bounds {p : Bytes} {len hdrLen : Nat}
    (h : srtpRtpHeaderLen p len = .ok hdrLen) : 12 ≤ hdrLen ∧ hdrLen ≤ len := by
  unfold srtpRtpHeaderLen at h
  dsimp only at h
  split_ifs at h with hx h1 h2 h3
  · obtain rfl := Except.ok.inj h
    omega
  · obtain rfl := Except.ok.inj h
    omega

variable {p q : Bytes} {n : Nat}

theorem srtpRtpHeaderLen_congr {len hdrLen : Nat} (h : srtpRtpHeaderLen p len = .ok hdrLen)
    (hpq : q.take hdrLen = p.take hdrLen) : srtpRtpHeaderLen q len = .ok hdrLen := by
  have hb := srtpRtpHeaderLen_bounds h
  have h0 : byteAt q 0 = byteAt p 0 := by
    rw [← byteAt_take (show 0 < hdrLen by omega), hpq, byteAt_take (by omega)]
  unfold srtpRtpHeaderLen at h ⊢
  rw [h0]
  dsimp only at h ⊢
  by_cases hx : (byteAt p 0).testBit 4 = true
  · rw [if_pos hx] at h ⊢
    by_cases h1 : len < 12 + byteAt p 0 % 16 * 4 + 4
    · rw [if_pos h1] at h
      cases h
    · rw [if_neg h1] at h ⊢
      split_ifs at h with h2
      have hlen := Except.ok.inj h
      have hr : readU16 q (12 + byteAt p 0 % 16 * 4 + 2)
          = readU16 p (12 + byteAt p 0 % 16 * 4 + 2) := by
        rw [← readU16_take (show 12 + byteAt p 0 % 16 * 4 + 2 + 1 < hdrLen by omega), hpq,
          readU16_take (by omega)]
      rw [hr, if_neg h2, hlen]
  · rw [if_neg hx] at h ⊢
    exact h

theorem rtpSeq_congr (hn : 12 ≤ n) (hpq : q.take n = p.take n) : rtpSeq q = rtpSeq p := by
  unfold rtpSeq
  rw [← readU16_take (show 2 + 1 < n by omega), hpq, readU16_take (by omega)]

theorem rtpSsrc_congr (hn : 12 ≤ n) (hpq : q.take n = p.take n) : rtpSsrc q = rtpSsrc p := by
  unfold rtpSsrc
  rw [← readU32_take (show 8 + 3 < n by omega), hpq, readU32_take (by omega)]

/-! ## RTP -/

theorem split_tag {body tag buf : Bytes} (h : buf = body ++ tag) (hn : tag.length = n) :
    buf.length - n = body.length ∧ buf.take (buf.length - n) = body ∧
      buf.drop (buf.length - n) = tag := by
  subst h
  have hlen : (body ++ tag).length - n = body.length := by
    rw [length_append]
    omega
  rw [hlen]
  exact ⟨rfl, take_left' rfl, drop_left' rfl⟩

theorem sealRtp_layout {cr : Crypto} (hcr : cr.Lawful) (k : SrtpKeys) (n : Nonce) (hdrLen : Nat)
    (p : Bytes) : ∃ cipher tag, sealRtp cr k n hdrLen p = (p.take hdrLen ++ cipher) ++ tag ∧
      cipher.length = (p.drop hdrLen).length ∧ tag.length = rtpTagLen k := by
  unfold sealRtp rtpTagLen
  by_cases hgcm : srtpIsGcm k.profile = true
  · rw [if_pos hgcm, if_pos hgcm]
    exact ⟨_, _, rfl, hcr.gcm_length .., hcr.gcm_tag_length ..⟩
  · rw [if_neg hgcm, if_neg hgcm]
    refine ⟨_, _, rfl, hcr.ctr_length .., ?_⟩
    rw [length_take, hcr.hmac_length]
    decide

/-- `buf` is the packet `p` as it is protected under this counter. -/
def SealedAs (cr : Crypto) (k : SrtpKeys) (roc : Nat) (p buf : Bytes) : Prop :=
  ∃ hdrLen, srtpRtpHeaderLen p p.length = .ok hdrLen ∧
    buf = sealRtp cr k ⟨rtpSsrc p, roc, rtpSeq p⟩ hdrLen p

section RtpPacket

variable {cr : Crypto} (hcr : cr.Lawful) {k : SrtpKeys} {roc : Nat} {p buf : Bytes}

include hcr

section

variable (h : SealedAs cr k roc p buf)
include h

theorem SealedAs.header :
    rtpSeq buf = rtpSeq p ∧ rtpSsrc buf = rtpSsrc p ∧ buf.length = p.length + rtpTagLen k := by
  obtain ⟨hdrLen, hhdr, hbuf⟩ := h
  obtain ⟨h12, hle⟩ := srtpRtpHeaderLen_bounds hhdr
  obtain ⟨cipher, tag, hlay, hc, ht⟩ := sealRtp_layout hcr k ⟨rtpSsrc p, roc, rtpSeq p⟩ hdrLen p
  have htake : buf.take hdrLen = p.take hdrLen := by
    rw [hbuf, hlay, append_assoc, take_left' (length_take_of_le hle)]
  refine ⟨rtpSeq_congr h12 htake, rtpSsrc_congr h12 htake, ?_⟩
  rw [hbuf, hlay, length_append, length_append, hc, ht, ← length_append,
    take_append_drop]

theorem SealedAs.openGcm (hgcm : srtpIsGcm k.profile = true) :
    srtpOpenGcm cr {} k roc buf = .ok p := by
  obtain ⟨hseq, hssrc, hlen⟩ := h.header hcr
  obtain ⟨hdrLen, hhdr, hbuf⟩ := h
  obtain ⟨h12, hle⟩ := srtpRtpHeaderLen_bounds hhdr
  have htag : rtpTagLen k = srtpGcmTagLen := if_pos hgcm
  rw [sealRtp, if_pos hgcm] at hbuf
  dsimp only at hbuf
  set sealed := cr.gcmEncrypt (srtpGcmCipher k) k.sessionKey
    (srtpGcmRtpIv k.sessionSalt ⟨rtpSsrc p, roc, rtpSeq p⟩) (p.take hdrLen) (p.drop hdrLen)
    with hsealed
  have htl : (p.take hdrLen).length = hdrLen := length_take_of_le hle
  have htake : buf.take hdrLen = p.take hdrLen := by
    rw [hbuf, append_assoc, take_left' htl]
  obtain ⟨-, hbody, hend⟩ := split_tag hbuf (n := srtpGcmTagLen) (hcr.gcm_tag_length ..)
  unfold srtpOpenGcm
  rw [if_neg (by omega), show buf.length - srtpGcmTagLen = p.length by omega,
    srtpRtpHeaderLen_congr hhdr htake]
  rw [show buf.length - srtpGcmTagLen = p.length by omega] at hbody hend
  dsimp only
  rw [hbody, hend, htake, drop_left' htl, hseq, hssrc]
  unfold srtpAesGcmDecrypt
  dsimp only
  rw [hsealed, hcr.gcm_inverse]
  exact congrArg Except.ok (take_append_drop hdrLen p)

theorem SealedAs.checkAndDecryptCm (hgcm : ¬ srtpIsGcm k.profile = true) :
    srtpCheckTagCm cr {} k roc buf = .ok () ∧ srtpDecryptCm cr {} k roc buf = .ok p := by
  obtain ⟨hseq, hssrc, hlen⟩ := h.header hcr
  obtain ⟨hdrLen, hhdr, hbuf⟩ := h
  obtain ⟨h12, hle⟩ := srtpRtpHeaderLen_bounds hhdr
  have htag : rtpTagLen k = srtpAuthTagLen := if_neg hgcm
  rw [sealRtp, if_neg hgcm] at hbuf
  dsimp only at hbuf
  set cipher := cr.aesCtr k.sessionKey
    (srtpAesCmIv k.sessionSalt ⟨rtpSsrc p, roc, rtpSeq p⟩) (p.drop hdrLen) with hcipher
  have htl : (p.take hdrLen).length = hdrLen := length_take_of_le hle
  have htake : buf.take hdrLen = p.take hdrLen := by
    rw [hbuf, append_assoc, take_left' htl]
  have htaglen : ((cr.hmacSha1 k.sessionAuthKey
      ((p.take hdrLen ++ cipher) ++ writeU32 roc)).take srtpAuthTagLen).length
        = srtpAuthTagLen := by
    rw [length_take, hcr.hmac_length]
    decide
  obtain ⟨-, hbody, hend⟩ := split_tag hbuf htaglen
  constructor
  · unfold srtpCheckTagCm srtpHmacSha1
    rw [if_neg (by omega), hbody, hend]
    dsimp only
    rw [if_neg (not_not.mpr rfl)]
  · unfold srtpDecryptCm srtpAesCm aesCmWith
    rw [hbody, show buf.length - srtpAuthTagLen = p.length by omega,
      srtpRtpHeaderLen_congr hhdr htake]
    dsimp only
    rw [htake, drop_left' htl, hseq, hssrc, hcipher, hcr.ctr_inverse]
    exact congrArg Except.ok (take_append_drop hdrLen p)

theorem SealedAs.verifies : rtpTagOk cr k roc buf = true := by
  unfold rtpTagOk
  by_cases hgcm : srtpIsGcm k.profile = true
  · rw [if_pos hgcm, h.openGcm hcr hgcm]
    rfl
  · rw [if_neg hgcm, (h.checkAndDecryptCm hcr hgcm).1]
    rfl

end

/-- **Receiving a protected packet under the right counter**: all that is left is the replay
check. -/
theorem rtcSrtpUnprotect_sealed {ctx : SrtpCtx} (hinit : ctx.initialized = true)
    (h : SealedAs cr ctx.keys (estimatedRoc ctx buf) p buf) :
    (∀ e, srtpReplayCheck (recvSlot ctx buf).entry.replay (recvIndex ctx buf) = .error e →
      rtcSrtpUnprotect cr {} ctx buf
        = (.error e, ctx.withRtpReplay (recvSlot ctx buf).table (recvSlot ctx buf).tick)) ∧
    (∀ r, srtpReplayCheck (recvSlot ctx buf).entry.replay (recvIndex ctx buf) = .ok r →
      rtcSrtpUnprotect cr {} ctx buf
        = (.ok p, ctx.withRtpReplay ((recvSlot ctx buf).put
            ({ (recvSlot ctx buf).entry with replay := r }.rollForward
              (estimatedRoc ctx buf) (rtpSeq buf))) (recvSlot ctx buf).tick)) := by
  unfold rtcSrtpUnprotect
  rw [if_neg (by simp [hinit])]
  by_cases hgcm : srtpIsGcm ctx.keys.profile = true
  · rw [if_pos hgcm]
    unfold srtpUnprotectGcm
    rw [h.openGcm hcr hgcm]
    dsimp only
    constructor
    · intro e he
      rw [he]
    · intro r hr
      rw [hr]
  · grind [h.checkAndDecryptCm]

end RtpPacket

/-! ## SRTCP -/

theorem srtcpEIndex_lt (index : Nat) : srtcpEIndex index < 2 ^ 32 := by
  unfold srtcpEIndex srtcpWireIndex
  omega

theorem srtcpEIndex_testBit (index : Nat) : (srtcpEIndex index).testBit 31 = true := by
  have hlt : srtcpWireIndex index < 2 ^ 31 := Nat.mod_lt _ (Nat.two_pow_pos 31)
  rw [srtcpEIndex, Nat.add_comm, Nat.testBit_two_pow_add_eq, Nat.testBit_lt_two_pow hlt]
  rfl

theorem srtcpWireIndex_srtcpEIndex (index : Nat) :
    srtcpWireIndex (srtcpEIndex index) = srtcpWireIndex index := by
  unfold srtcpEIndex srtcpWireIndex
  omega

def sealRtcp (cr : Crypto) (k : SrtpKeys) (index : Nat) (buf : Bytes) : Bytes :=
  if srtpIsGcm k.profile then
    let sealed := cr.gcmEncrypt (srtpGcmCipher k) k.rtcpSessionKey
      (srtpGcmRtcpIv k.rtcpSessionSalt (rtcpSsrc buf) (srtcpWireIndex index))
      (buf.take 8 ++ writeU32 (srtcpEIndex index)) (buf.drop 8)
    buf.take 8 ++ sealed.1 ++ sealed.2 ++ writeU32 (srtcpEIndex index)
  else
    let cipher := if 8 < buf.length then
      cr.aesCtr k.rtcpSessionKey
        (srtcpAesCmIv k.rtcpSessionSalt (rtcpSsrc buf) (srtcpWireIndex index)) (buf.drop 8)
      else []
    let body := buf.take 8 ++ cipher ++ writeU32 (srtcpEIndex index)
    body ++ (cr.hmacSha1 k.rtcpSessionAuthKey (body ++ [])).take srtpAuthTagLen

theorem rtcSrtpProtectRtcp_sealed (cr : Crypto) {ctx : SrtpCtx} {buf : Bytes} {cap : Nat}
    (hinit : ctx.initialized = true) (hlen : 8 ≤ buf.length)
    (hroom : buf.length + rtpTagLen ctx.keys + 4 ≤ cap) :
    rtcSrtpProtectRtcp cr {} ctx buf cap = (.ok (sealRtcp cr ctx.keys ctx.srtcpIndex buf),
      { ctx with srtcpIndex := (ctx.srtcpIndex + 1) % 2 ^ 32 }) := by
  unfold rtcSrtpProtectRtcp sealRtcp
  rw [if_neg (by simp [hinit]), if_neg (by omega)]
  by_cases hgcm : srtpIsGcm ctx.keys.profile = true
  · have htag : rtpTagLen ctx.keys = srtpGcmTagLen := if_pos hgcm
    unfold srtpProtectRtcpGcm
    rw [if_pos hgcm, if_pos hgcm, if_neg (by omega)]
    rfl
  · have htag : rtpTagLen ctx.keys = srtpAuthTagLen := if_neg hgcm
    rw [if_neg hgcm, if_neg hgcm, if_neg (by omega)]
    by_cases h8 : 8 < buf.length
    · simp only [if_pos h8]
      rfl
    · simp only [if_neg h8]
      rfl

theorem rtcpSsrc_congr (hpq : q.take 8 = p.take 8) : rtcpSsrc q = rtcpSsrc p := by
  unfold rtcpSsrc
  rw [← readU32_take (show 4 + 3 < 8 by omega), hpq, readU32_take (by omega)]

section RtcpPacket

variable {cr : Crypto} (hcr : cr.Lawful) {k : SrtpKeys} {index : Nat} {p : Bytes}
  (hp : 8 ≤ p.length)

include hcr hp

theorem sealRtcp_gcm (hgcm : srtpIsGcm k.profile = true) :
    rtcpSsrc (sealRtcp cr k index p) = rtcpSsrc p ∧
    rtcpEIndex k (sealRtcp cr k index p) = srtcpEIndex index ∧
    srtcpOpenGcm cr {} k (sealRtcp cr k index p) = .ok p := by
  obtain ⟨buf, hbuf⟩ : ∃ buf, buf = sealRtcp cr k index p := ⟨_, rfl⟩
  rw [← hbuf]
  rw [sealRtcp, if_pos hgcm] at hbuf
  dsimp only at hbuf
  set sealed := cr.gcmEncrypt (srtpGcmCipher k) k.rtcpSessionKey
    (srtpGcmRtcpIv k.rtcpSessionSalt (rtcpSsrc p) (srtcpWireIndex index))
    (p.take 8 ++ writeU32 (srtcpEIndex index)) (p.drop 8) with hsealed
  have h8 : (p.take 8).length = 8 := length_take_of_le hp
  have hct : (p.take 8 ++ sealed.1).length = p.length := by
    rw [length_append, hcr.gcm_length, ← length_append, take_append_drop]
  have htag : sealed.2.length = srtpGcmTagLen := hcr.gcm_tag_length ..
  have htake : buf.take 8 = p.take 8 := by
    rw [hbuf, append_assoc, append_assoc, take_left' h8]
  have hssrc : rtcpSsrc buf = rtcpSsrc p := rtcpSsrc_congr htake
  obtain ⟨hidx, hupto, htrail⟩ := split_tag hbuf (writeU32_length _)
  rw [length_append, hct, htag] at hidx
  have heidx : rtcpEIndex k buf = srtcpEIndex index := by
    rw [rtcpEIndex, if_pos hgcm, hidx, hbuf,
      readU32_append_right (by rw [length_append, hct, htag]), length_append, hct, htag,
      Nat.sub_self, ← append_nil (writeU32 _), readU32_writeU32 (srtcpEIndex_lt index)]
  refine ⟨hssrc, heidx, ?_⟩
  have hbody : buf.take p.length = p.take 8 ++ sealed.1 := by
    rw [hbuf, append_assoc, take_left' hct]
  have henc : rtcpEncrypted k buf = true := by
    rw [rtcpEncrypted, heidx, srtcpEIndex_testBit]
  have hlen : buf.length - 4 - srtpGcmTagLen = p.length := by omega
  have hmid : (buf.take (buf.length - 4)).drop p.length = sealed.2 := by
    rw [hupto, drop_left' hct]
  unfold srtcpOpenGcm
  rw [if_neg (by omega)]
  simp only [if_pos henc]
  rw [hlen, hmid, hbody, htrail, htake, drop_left' h8, hssrc, rtcpIndex, heidx,
    srtcpWireIndex_srtcpEIndex]
  unfold srtpAesGcmDecrypt
  dsimp only
  rw [hsealed, hcr.gcm_inverse]
  exact congrArg Except.ok (take_append_drop 8 p)

theorem sealRtcp_cm (hgcm : ¬ srtpIsGcm k.profile = true) :
    rtcpSsrc (sealRtcp cr k index p) = rtcpSsrc p ∧
    rtcpEIndex k (sealRtcp cr k index p) = srtcpEIndex index ∧
    srtcpCheckTagCm cr {} k (sealRtcp cr k index p) = .ok () ∧
    srtcpDecryptCm cr {} k (sealRtcp cr k index p) = .ok p := by
  obtain ⟨buf, hbuf⟩ : ∃ buf, buf = sealRtcp cr k index p := ⟨_, rfl⟩
  rw [← hbuf]
  rw [sealRtcp, if_neg hgcm] at hbuf
  dsimp only at hbuf
  set cipher := (if 8 < p.length then
      cr.aesCtr k.rtcpSessionKey
        (srtcpAesCmIv k.rtcpSessionSalt (rtcpSsrc p) (srtcpWireIndex index)) (p.drop 8)
      else []) with hcipher
  have h8 : (p.take 8).length = 8 := length_take_of_le hp
  have hct : (p.take 8 ++ cipher).length = p.length := by
    rw [length_append, h8, hcipher]
    split_ifs with h
    · rw [hcr.ctr_length, length_drop]
      omega
    · rw [length_nil]
      omega
  have htl : ((cr.hmacSha1 k.rtcpSessionAuthKey
      (p.take 8 ++ cipher ++ writeU32 (srtcpEIndex index) ++ [])).take srtpAuthTagLen).length
        = srtpAuthTagLen := by
    rw [length_take, hcr.hmac_length]
    decide
  have htake : buf.take 8 = p.take 8 := by
    rw [hbuf, append_assoc, append_assoc, append_assoc, take_left' h8]
  have hssrc : rtcpSsrc buf = rtcpSsrc p := rtcpSsrc_congr htake
  obtain ⟨hidx, hupto, htag⟩ := split_tag hbuf htl
  rw [length_append, hct, writeU32_length] at hidx
  have heidx : rtcpEIndex k buf = srtcpEIndex index := by
    rw [rtcpEIndex, if_neg hgcm, hidx, Nat.add_sub_cancel, hbuf,
      readU32_append_left (by rw [length_append, hct, writeU32_length]; omega),
      readU32_append_right (by rw [hct]), hct, Nat.sub_self, ← append_nil (writeU32 _),
      readU32_writeU32 (srtcpEIndex_lt index)]
  have hbody : buf.take p.length = p.take 8 ++ cipher := by
    rw [hbuf, append_assoc, take_left' hct]
  refine ⟨hssrc, heidx, ?_, ?_⟩
  · unfold srtcpCheckTagCm srtpHmacSha1
    rw [if_neg (by omega), hupto, htag]
    dsimp only
    rw [if_neg (not_not.mpr rfl)]
  · have henc : rtcpEncrypted k buf = true := by
      rw [rtcpEncrypted, heidx, srtcpEIndex_testBit]
    have hlen : buf.length - srtpAuthTagLen - 4 = p.length := by omega
    unfold srtcpDecryptCm
    simp only [hlen, henc, Bool.true_and, hbody]
    by_cases h : 8 < p.length
    · rw [if_pos h] at hcipher
      rw [decide_eq_true h, if_pos rfl, htake, drop_left' h8, hssrc, rtcpIndex, heidx,
        srtcpWireIndex_srtcpEIndex, hcipher]
      unfold srtcpAesCm aesCmWith
      dsimp only
      rw [hcr.ctr_inverse]
      exact congrArg Except.ok (take_append_drop 8 p)
    · -- an 8-byte packet went out as it is
      rw [if_neg h] at hcipher
      rw [decide_eq_false h, if_neg Bool.false_ne_true, hcipher, append_nil,
        take_of_length_le (by omega)]

/-- **Receiving a protected RTCP packet**: all that is left is the replay check on its own
index. -/
theorem rtcSrtpUnprotectRtcp_sealed {ctx : SrtpCtx} (hinit : ctx.initialized = true)
    (hk : ctx.keys = k) {buf : Bytes} (hbuf : buf = sealRtcp cr k index p) :
    rtcpSsrc buf = rtcpSsrc p ∧ rtcpIndex ctx.keys buf = srtcpWireIndex index ∧
    ∀ r, srtpReplayCheck (rtcpSlot ctx buf).entry.replay (rtcpIndex ctx.keys buf) = .ok r →
      rtcSrtpUnprotectRtcp cr {} ctx buf
        = (.ok p, ctx.withRtcpReplay ((rtcpSlot ctx buf).put
            { (rtcpSlot ctx buf).entry with replay := r }) (rtcpSlot ctx buf).tick) := by
  subst hk
  unfold rtcSrtpUnprotectRtcp
  by_cases hgcm : srtpIsGcm ctx.keys.profile = true
  · obtain ⟨h1, h2, h3⟩ := @sealRtcp_gcm cr hcr ctx.keys index p hp hgcm
    rw [← hbuf] at h1 h2 h3
    refine ⟨h1, by rw [rtcpIndex, h2, srtcpWireIndex_srtcpEIndex], fun r hr => ?_⟩
    unfold srtpUnprotectRtcpGcm
    rw [if_neg (by simp [hinit]), if_pos hgcm, h3]
    dsimp only
    rw [hr]
  · grind [rtcpIndex, srtcpWireIndex_srtcpEIndex, sealRtcp_cm]

end RtcpPacket

end Mrtc
