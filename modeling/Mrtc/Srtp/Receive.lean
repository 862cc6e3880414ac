import Mrtc.Srtp.Context

/-! # What a receiving call can do

`rtcSrtpUnprotect_cases` and `rtcSrtpUnprotectRtcp_cases` list, for both cipher profiles at
once, the four ways a call can end: nothing authenticated and nothing changed, a replay, an
authentic packet lost after its index was recorded (AES-CM only), or an accepted packet.
-/

namespace Mrtc

open Net

/-! ## Authentication -/

def rtpTagOk (cr : Crypto) (k : SrtpKeys) (roc : Nat) (buf : Bytes) : Bool :=
  if srtpIsGcm k.profile then (srtpOpenGcm cr {} k roc buf).isOk
  else (srtpCheckTagCm cr {} k roc buf).isOk

def rtpVerifies (cr : Crypto) (ctx : SrtpCtx) (buf : Bytes) : Bool :=
  rtpTagOk cr ctx.keys (estimatedRoc ctx buf) buf

def rtcpTagOk (cr : Crypto) (k : SrtpKeys) (buf : Bytes) : Bool :=
  if srtpIsGcm k.profile then (srtcpOpenGcm cr {} k buf).isOk
  else (srtcpCheckTagCm cr {} k buf).isOk

/-! A verification that succeeds in spite of possible OpenSSL failures succeeds without. -/

variable {cr : Crypto} {ev : EvpFault} {k : SrtpKeys} {buf : Bytes}

theorem srtpAesGcmDecrypt_ok {big : Bool} {key iv aad data tag plain : Bytes}
    (h : srtpAesGcmDecrypt cr ev big key iv aad data tag = .ok plain) :
    srtpAesGcmDecrypt cr {} big key iv aad data tag = .ok plain := by
  unfold srtpAesGcmDecrypt at h ⊢
  cases hc : ev.cipher with
  | some e => rw [hc] at h; cases h
  | none => rw [hc] at h; exact h

theorem map_ok_imp {α β : Type} {x y : Except RtcErr α} {f : α → β} {b : β}
    (hxy : ∀ a, x = .ok a → y = .ok a) (h : x.map f = .ok b) : y.map f = .ok b := by
  cases hx : x with
  | error e => rw [hx] at h; cases h
  | ok a => rw [hxy a hx, ← hx]; exact h

theorem srtpOpenGcm_ok {roc : Nat} {packet : Bytes} (h : srtpOpenGcm cr ev k roc buf = .ok packet) :
    srtpOpenGcm cr {} k roc buf = .ok packet := by
  unfold srtpOpenGcm at h ⊢
  by_cases hlen : buf.length < 12 + srtpGcmTagLen
  · rw [if_pos hlen] at h; cases h
  · grind [map_ok_imp, srtpAesGcmDecrypt_ok]

theorem srtpHmacSha1_ok {key d1 d2 hmac : Bytes} (h : srtpHmacSha1 cr ev key d1 d2 = .ok hmac) :
    srtpHmacSha1 cr {} key d1 d2 = .ok hmac := by
  unfold srtpHmacSha1 at h ⊢
  cases hm : ev.mac with
  | some e => rw [hm] at h; cases h
  | none => rw [hm] at h; exact h

theorem srtpCheckTagCm_ok {roc : Nat} (h : srtpCheckTagCm cr ev k roc buf = .ok ()) :
    srtpCheckTagCm cr {} k roc buf = .ok () := by
  unfold srtpCheckTagCm at h ⊢
  by_cases hlen : buf.length < 12 + srtpAuthTagLen
  · rw [if_pos hlen] at h; cases h
  · grind [srtpHmacSha1_ok]

theorem srtcpOpenGcm_ok {packet : Bytes} (h : srtcpOpenGcm cr ev k buf = .ok packet) :
    srtcpOpenGcm cr {} k buf = .ok packet := by
  unfold srtcpOpenGcm at h ⊢
  by_cases hlen : buf.length < 8 + srtpGcmTagLen + 4
  · rw [if_pos hlen] at h; cases h
  · rw [if_neg hlen] at h ⊢
    by_cases he : rtcpEncrypted k buf = true
    · rw [if_pos he] at h ⊢
      exact map_ok_imp (fun _ => srtpAesGcmDecrypt_ok) h
    · rw [if_neg he] at h ⊢
      exact map_ok_imp (fun _ => srtpAesGcmDecrypt_ok) h

theorem srtcpCheckTagCm_ok (h : srtcpCheckTagCm cr ev k buf = .ok ()) :
    srtcpCheckTagCm cr {} k buf = .ok () := by
  unfold srtcpCheckTagCm at h ⊢
  by_cases hlen : buf.length < 8 + 4 + srtpAuthTagLen
  · rw [if_pos hlen] at h; cases h
  · grind [srtpHmacSha1_ok]

/-! ## The outcomes of `rtc_srtp_unprotect` -/

/-- **The outcomes of one `rtc_srtp_unprotect`.** -/
theorem rtcSrtpUnprotect_cases (cr : Crypto) (ev : EvpFault) (ctx : SrtpCtx) (buf : Bytes) :
    (∃ e, rtcSrtpUnprotect cr ev ctx buf = (.error e, ctx)) ∨
    (rtpVerifies cr ctx buf = true ∧
      ((∃ e, srtpReplayCheck (recvSlot ctx buf).entry.replay (recvIndex ctx buf) = .error e ∧
          rtcSrtpUnprotect cr ev ctx buf
            = (.error e, ctx.withRtpReplay (recvSlot ctx buf).table (recvSlot ctx buf).tick)) ∨
       (∃ r e, srtpReplayCheck (recvSlot ctx buf).entry.replay (recvIndex ctx buf) = .ok r ∧
          (srtpIsGcm ctx.keys.profile = false ∧
            srtpDecryptCm cr ev ctx.keys (estimatedRoc ctx buf) buf = .error e) ∧
          rtcSrtpUnprotect cr ev ctx buf
            = (.error e, ctx.withRtpReplay ((recvSlot ctx buf).put
                { (recvSlot ctx buf).entry with replay := r }) (recvSlot ctx buf).tick)) ∨
       (∃ r packet,
          srtpReplayCheck (recvSlot ctx buf).entry.replay (recvIndex ctx buf) = .ok r ∧
          rtcSrtpUnprotect cr ev ctx buf
            = (.ok packet, ctx.withRtpReplay ((recvSlot ctx buf).put
                ({ (recvSlot ctx buf).entry with replay := r }.rollForward
                  (estimatedRoc ctx buf) (rtpSeq buf))) (recvSlot ctx buf).tick)))) := by
  unfold rtcSrtpUnprotect
  by_cases hinit : ctx.initialized = true
  · rw [if_neg (by simp [hinit])]
    by_cases hgcm : srtpIsGcm ctx.keys.profile = true
    · rw [if_pos hgcm]
      unfold srtpUnprotectGcm
      cases ho : srtpOpenGcm cr ev ctx.keys (estimatedRoc ctx buf) buf with
      | error e => exact Or.inl ⟨e, rfl⟩
      | ok packet =>
        have hv : rtpVerifies cr ctx buf = true := by
          rw [rtpVerifies, rtpTagOk, if_pos hgcm, srtpOpenGcm_ok ho]; rfl
        refine Or.inr ⟨hv, ?_⟩
        dsimp only
        cases srtpReplayCheck (recvSlot ctx buf).entry.replay (recvIndex ctx buf) with
        | error e => exact Or.inl ⟨e, rfl, rfl⟩
        | ok r => exact Or.inr (Or.inr ⟨r, packet, rfl, rfl⟩)
    · rw [if_neg hgcm]
      cases ht : srtpCheckTagCm cr ev ctx.keys (estimatedRoc ctx buf) buf with
      | error e => exact Or.inl ⟨e, rfl⟩
      | ok u =>
        have hv : rtpVerifies cr ctx buf = true := by
          rw [rtpVerifies, rtpTagOk, if_neg hgcm, srtpCheckTagCm_ok ht]; rfl
        refine Or.inr ⟨hv, ?_⟩
        dsimp only
        cases srtpReplayCheck (recvSlot ctx buf).entry.replay (recvIndex ctx buf) with
        | error e => exact Or.inl ⟨e, rfl, rfl⟩
        | ok r =>
          refine Or.inr ?_
          cases srtpDecryptCm cr ev ctx.keys (estimatedRoc ctx buf) buf with
          | error e => exact Or.inl ⟨r, e, rfl, ⟨Bool.eq_false_iff.mpr hgcm, rfl⟩, rfl⟩
          | ok packet => exact Or.inr ⟨r, packet, rfl, rfl⟩
  · rw [if_pos (by simpa using hinit)]
    exact Or.inl ⟨_, rfl⟩

/-- **The outcomes of one `rtc_srtp_unprotect_rtcp`**, as for RTP but without a rollover
counter: the index travels in the packet. -/
theorem rtcSrtpUnprotectRtcp_cases (cr : Crypto) (ev : EvpFault) (ctx : SrtpCtx) (buf : Bytes) :
    (∃ e, rtcSrtpUnprotectRtcp cr ev ctx buf = (.error e, ctx)) ∨
    (rtcpTagOk cr ctx.keys buf = true ∧
      ((∃ e, srtpReplayCheck (rtcpSlot ctx buf).entry.replay (rtcpIndex ctx.keys buf) = .error e ∧
          rtcSrtpUnprotectRtcp cr ev ctx buf
            = (.error e, ctx.withRtcpReplay (rtcpSlot ctx buf).table (rtcpSlot ctx buf).tick)) ∨
       (∃ r res, srtpReplayCheck (rtcpSlot ctx buf).entry.replay (rtcpIndex ctx.keys buf) = .ok r ∧
          ((∃ packet, res = .ok packet) ∨
            (srtpIsGcm ctx.keys.profile = false ∧ res = srtcpDecryptCm cr ev ctx.keys buf)) ∧
          rtcSrtpUnprotectRtcp cr ev ctx buf
            = (res, ctx.withRtcpReplay ((rtcpSlot ctx buf).put
                { (rtcpSlot ctx buf).entry with replay := r }) (rtcpSlot ctx buf).tick)))) := by
  unfold rtcSrtpUnprotectRtcp
  by_cases hinit : ctx.initialized = true
  · rw [if_neg (by simp [hinit])]
    by_cases hgcm : srtpIsGcm ctx.keys.profile = true
    · rw [if_pos hgcm]
      unfold srtpUnprotectRtcpGcm
      cases ho : srtcpOpenGcm cr ev ctx.keys buf with
      | error e => exact Or.inl ⟨e, rfl⟩
      | ok packet =>
        have hv : rtcpTagOk cr ctx.keys buf = true := by
          rw [rtcpTagOk, if_pos hgcm, srtcpOpenGcm_ok ho]; rfl
        refine Or.inr ⟨hv, ?_⟩
        dsimp only
        cases srtpReplayCheck (rtcpSlot ctx buf).entry.replay (rtcpIndex ctx.keys buf) with
        | error e => exact Or.inl ⟨e, rfl, rfl⟩
        | ok r => exact Or.inr ⟨r, _, rfl, Or.inl ⟨packet, rfl⟩, rfl⟩
    · rw [if_neg hgcm]
      cases ht : srtcpCheckTagCm cr ev ctx.keys buf with
      | error e => exact Or.inl ⟨e, rfl⟩
      | ok u =>
        have hv : rtcpTagOk cr ctx.keys buf = true := by
          rw [rtcpTagOk, if_neg hgcm, srtcpCheckTagCm_ok ht]; rfl
        refine Or.inr ⟨hv, ?_⟩
        dsimp only
        cases srtpReplayCheck (rtcpSlot ctx buf).entry.replay (rtcpIndex ctx.keys buf) with
        | error e => exact Or.inl ⟨e, rfl, rfl⟩
        | ok r => exact Or.inr ⟨r, _, rfl, Or.inr ⟨Bool.eq_false_iff.mpr hgcm, rfl⟩, rfl⟩
  · rw [if_pos (by simpa using hinit)]
    exact Or.inl ⟨_, rfl⟩

end Mrtc
