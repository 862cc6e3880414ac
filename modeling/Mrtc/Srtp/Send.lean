import Mrtc.Srtp.Context

/-! # Runs of `rtc_srtp_protect` and the nonces they use

A call either is refused before it looks at the rollover state (no room for the tag, too
short, context not initialised) and then changes nothing, or it takes the slot of its SSRC
and updates the rollover counter, whatever happens afterwards: `rtcSrtpProtect_cases`.
-/

namespace Mrtc

open Net List

def rtpTagLen (k : SrtpKeys) : Nat := if srtpIsGcm k.profile then srtpGcmTagLen else srtpAuthTagLen

structure ProtectCall where
  ev : EvpFault := {}
  buf : Bytes
  cap : Nat
  deriving DecidableEq

open ProtectCall

def ProtectCall.hasRoom (k : SrtpKeys) (c : ProtectCall) : Bool :=
  decide (c.buf.length + rtpTagLen k ≤ c.cap)

def ProtectCall.onSsrc (ssrc : Nat) (c : ProtectCall) : Bool :=
  decide (12 ≤ c.buf.length) && rtpSsrc c.buf == ssrc

def ProtectCall.reaches (ctx : SrtpCtx) (c : ProtectCall) : Bool :=
  ctx.initialized && decide (12 ≤ c.buf.length) && c.hasRoom ctx.keys

def sendNonce (ctx : SrtpCtx) (buf : Bytes) : Nonce :=
  (sendRollover ctx (rtpSsrc buf) (rtpSeq buf)).1

def ProtectCall.run (cr : Crypto) (ctx : SrtpCtx) (c : ProtectCall) :
    Except RtcErr Bytes × SrtpCtx :=
  rtcSrtpProtect cr c.ev ctx c.buf c.cap

def protectRun (cr : Crypto) : SrtpCtx → List ProtectCall → List Nonce × SrtpCtx
  | ctx, [] => ([], ctx)
  | ctx, c :: cs =>
    ((if (c.run cr ctx).1.isOk then [sendNonce ctx c.buf] else [])
        ++ (protectRun cr (c.run cr ctx).2 cs).1,
      (protectRun cr (c.run cr ctx).2 cs).2)

/-! ## One call -/

theorem srtpProtectGcm_cases (cr : Crypto) (ev : EvpFault) (ctx : SrtpCtx) (buf : Bytes)
    (cap : Nat) :
    (¬buf.length + srtpGcmTagLen ≤ cap ∧ srtpProtectGcm cr ev ctx buf cap = (.error .nomem, ctx))
      ∨ (buf.length + srtpGcmTagLen ≤ cap
        ∧ (srtpProtectGcm cr ev ctx buf cap).2 = (sendRollover ctx (rtpSsrc buf) (rtpSeq buf)).2) := by
  unfold srtpProtectGcm
  by_cases hcap : cap < buf.length ∨ cap - buf.length < srtpGcmTagLen
  · exact Or.inl ⟨by omega, if_pos hcap⟩
  · refine Or.inr ⟨by omega, ?_⟩
    rw [if_neg hcap]
    cases sendRollover ctx (rtpSsrc buf) (rtpSeq buf) with
    | mk nonce ctx' => grind

variable {ctx : SrtpCtx}

theorem rtcSrtpProtect_cm_cases (cr : Crypto) (ev : EvpFault) {buf : Bytes}
    (cap : Nat) (hinit : ctx.initialized = true) (hlen : 12 ≤ buf.length)
    (hcm : ¬srtpIsGcm ctx.keys.profile = true) :
    (¬buf.length + srtpAuthTagLen ≤ cap ∧ rtcSrtpProtect cr ev ctx buf cap = (.error .nomem, ctx))
      ∨ (buf.length + srtpAuthTagLen ≤ cap
        ∧ (rtcSrtpProtect cr ev ctx buf cap).2 = (sendRollover ctx (rtpSsrc buf) (rtpSeq buf)).2) := by
  unfold rtcSrtpProtect
  rw [if_neg (by simp [hinit]), if_neg (by omega), if_neg hcm]
  by_cases hcap : cap < buf.length ∨ cap - buf.length < srtpAuthTagLen
  · exact Or.inl ⟨by omega, if_pos hcap⟩
  · refine Or.inr ⟨by omega, ?_⟩
    rw [if_neg hcap]
    cases sendRollover ctx (rtpSsrc buf) (rtpSeq buf) with
    | mk nonce ctx' =>
      dsimp only
      cases srtpRtpHeaderLen buf buf.length with
      | error e => rfl
      | ok hdrLen => grind

/-- **What one call does to the context.** -/
theorem rtcSrtpProtect_cases (cr : Crypto) (ctx : SrtpCtx) (c : ProtectCall) :
    (c.reaches ctx = false ∧ ∃ e, c.run cr ctx = (.error e, ctx)) ∨
    (c.reaches ctx = true ∧
      (c.run cr ctx).2 = (sendRollover ctx (rtpSsrc c.buf) (rtpSeq c.buf)).2) := by
  unfold ProtectCall.run reaches hasRoom
  by_cases hinit : ctx.initialized = true
  · by_cases hlen : 12 ≤ c.buf.length
    · by_cases hgcm : srtpIsGcm ctx.keys.profile = true
      · have htag : rtpTagLen ctx.keys = srtpGcmTagLen := if_pos hgcm
        have hgcmPath : rtcSrtpProtect cr c.ev ctx c.buf c.cap
            = srtpProtectGcm cr c.ev ctx c.buf c.cap := by
          rw [rtcSrtpProtect, if_neg (by simp [hinit]), if_neg (by omega), if_pos hgcm]
        rw [htag, hgcmPath]
        rcases srtpProtectGcm_cases cr c.ev ctx c.buf c.cap with ⟨hcap, h⟩ | ⟨hcap, h⟩
        · exact Or.inl ⟨by simp [hcap], _, h⟩
        · exact Or.inr ⟨by simp [hinit, hlen, hcap], h⟩
      · have htag : rtpTagLen ctx.keys = srtpAuthTagLen := if_neg hgcm
        rw [htag]
        rcases rtcSrtpProtect_cm_cases cr c.ev c.cap hinit hlen hgcm with ⟨hcap, h⟩ | ⟨hcap, h⟩
        · exact Or.inl ⟨by simp [hcap], _, h⟩
        · exact Or.inr ⟨by simp [hinit, hlen, hcap], h⟩
    · refine Or.inl ⟨by simp [hlen], .invalid, ?_⟩
      rw [rtcSrtpProtect, if_neg (by simp [hinit]), if_pos (by omega)]
  · refine Or.inl ⟨by simp [hinit], .srtp, ?_⟩
    rw [rtcSrtpProtect, if_pos (by simpa using hinit)]

theorem ProtectCall.run_frame (cr : Crypto) (ctx : SrtpCtx) (c : ProtectCall) :
    (c.run cr ctx).2.keys = ctx.keys ∧ (c.run cr ctx).2.initialized = ctx.initialized := by
  rcases rtcSrtpProtect_cases cr ctx c with ⟨-, e, h⟩ | ⟨-, h⟩
  · rw [h]; exact ⟨rfl, rfl⟩
  · rw [h]; exact ⟨rfl, rfl⟩

theorem protectRun_append (cr : Crypto) (ctx : SrtpCtx) (a b : List ProtectCall) :
    protectRun cr ctx (a ++ b)
      = ((protectRun cr ctx a).1 ++ (protectRun cr (protectRun cr ctx a).2 b).1,
          (protectRun cr (protectRun cr ctx a).2 b).2) := by
  induction a generalizing ctx with
  | nil => rfl
  | cons c cs ih =>
    rw [cons_append, protectRun, protectRun, ih]
    simp only [append_assoc]

/-! ## The bytes of a protected packet -/

def sealRtp (cr : Crypto) (k : SrtpKeys) (n : Nonce) (hdrLen : Nat) (buf : Bytes) : Bytes :=
  if srtpIsGcm k.profile then
    let sealed := cr.gcmEncrypt (srtpGcmCipher k) k.sessionKey (srtpGcmRtpIv k.sessionSalt n)
      (buf.take hdrLen) (buf.drop hdrLen)
    buf.take hdrLen ++ sealed.1 ++ sealed.2
  else
    let body := buf.take hdrLen
      ++ cr.aesCtr k.sessionKey (srtpAesCmIv k.sessionSalt n) (buf.drop hdrLen)
    body ++ (cr.hmacSha1 k.sessionAuthKey (body ++ writeU32 n.roc)).take srtpAuthTagLen

theorem rtcSrtpProtect_sealed (cr : Crypto) {c : ProtectCall} {hdrLen : Nat}
    (hreach : c.reaches ctx = true) (hev : c.ev = {})
    (hhdr : srtpRtpHeaderLen c.buf c.buf.length = .ok hdrLen) :
    c.run cr ctx = (.ok (sealRtp cr ctx.keys (sendNonce ctx c.buf) hdrLen c.buf),
      (sendRollover ctx (rtpSsrc c.buf) (rtpSeq c.buf)).2) := by
  simp only [reaches, hasRoom, Bool.and_eq_true, decide_eq_true_eq]
    at hreach
  obtain ⟨⟨hinit, hlen⟩, hroom⟩ := hreach
  unfold ProtectCall.run rtcSrtpProtect sealRtp sendNonce
  rw [if_neg (by simp [hinit]), if_neg (by omega), hhdr, hev]
  by_cases hgcm : srtpIsGcm ctx.keys.profile = true
  · have htag : rtpTagLen ctx.keys = srtpGcmTagLen := if_pos hgcm
    unfold srtpProtectGcm
    rw [if_pos hgcm, if_pos hgcm, if_neg (by omega), hhdr]
    rfl
  · have htag : rtpTagLen ctx.keys = srtpAuthTagLen := if_neg hgcm
    rw [if_neg hgcm, if_neg hgcm, if_neg (by omega)]
    rfl

/-! ## Consecutive packets -/

/-- **The next packet in order**: the entry at true index `i` moves on to `i + 1`. -/
theorem StreamEntry.advance_succ {st : StreamEntry} {i : Nat} (hinit : st.rocInit = true)
    (hlast : st.lastSeq = i % 2 ^ 16) (hroc : st.roc = i / 2 ^ 16) (hi : i + 1 < 2 ^ 48) :
    st.advance ((i + 1) % 2 ^ 16)
      = { st with roc := (i + 1) / 2 ^ 16, lastSeq := (i + 1) % 2 ^ 16 } := by
  have hguess := Rollover.div_of_ahead (H := 2 ^ 15) (n := i) (g := 1) (by norm_num)
  rw [show 2 * 2 ^ 15 = 2 ^ 16 by norm_num, ← hlast, ← hroc] at hguess
  unfold Rollover.guess at hguess
  unfold StreamEntry.advance
  simp only [hinit, Bool.not_true, Bool.false_eq_true, if_false]
  by_cases hw : Rollover.rolledOver (2 ^ 15) st.lastSeq ((i + 1) % 2 ^ 16) = true
  · rw [if_pos hw] at hguess
    rw [seqHalf, if_pos hw, hguess, Nat.mod_eq_of_lt (by omega)]
  · rw [if_neg hw] at hguess
    rw [seqHalf, if_neg hw, ← hguess]

/-! ## Bare packets -/

def toyCtx : SrtpCtx :=
  { keys := deriveKeys toyCrypto .aes128CmSha1_80 (replicate 16 0) (replicate 14 0)
    initialized := true }

theorem toyCtx_init : rtcSrtpInitProfile toyCrypto none .aes128CmSha1_80 (replicate 16 0)
    (replicate 14 0) = .ok toyCtx := rfl

def barePacket (ssrc n : Nat) : Bytes :=
  [0x80, 0] ++ writeU16 (n % 2 ^ 16) ++ [0, 0, 0, 0] ++ writeU32 ssrc

def bareCall (ssrc n : Nat) : ProtectCall := { buf := barePacket ssrc n, cap := 64 }

@[simp] theorem barePacket_length (ssrc n : Nat) : (barePacket ssrc n).length = 12 := rfl

@[simp] theorem rtpSeq_barePacket (ssrc n : Nat) : rtpSeq (barePacket ssrc n) = n % 2 ^ 16 := by
  have h : n % 2 ^ 16 < 2 ^ 16 := Nat.mod_lt _ (by norm_num)
  unfold rtpSeq barePacket
  rw [append_assoc, append_assoc, readU16_append_right (by simp)]
  exact readU16_writeU16 h _

theorem rtpSsrc_barePacket {ssrc : Nat} (h : ssrc < 2 ^ 32) (n : Nat) :
    rtpSsrc (barePacket ssrc n) = ssrc := by
  unfold rtpSsrc barePacket
  rw [readU32_append_right (by simp), ← append_nil (writeU32 ssrc)]
  exact readU32_writeU32 h _

theorem srtpRtpHeaderLen_barePacket (ssrc n : Nat) :
    srtpRtpHeaderLen (barePacket ssrc n) (barePacket ssrc n).length = .ok 12 := by
  have h0 : byteAt (barePacket ssrc n) 0 = 128 := rfl
  simp [srtpRtpHeaderLen, h0, Nat.testBit]

theorem bareCall_onSsrc {ssrc : Nat} (h : ssrc < 2 ^ 32) (n other : Nat) :
    (bareCall ssrc n).onSsrc other = (ssrc == other) := by
  simp [onSsrc, bareCall, rtpSsrc_barePacket h]

theorem bareCall_hasRoom (k : SrtpKeys) (ssrc n : Nat) : (bareCall ssrc n).hasRoom k = true := by
  have htag : rtpTagLen k ≤ 16 := by
    unfold rtpTagLen
    split_ifs <;> decide
  exact decide_eq_true (show 12 + rtpTagLen k ≤ 64 by omega)

theorem bareCall_run (cr : Crypto) {ctx : SrtpCtx} (hinit : ctx.initialized = true)
    (ssrc n : Nat) : ∃ out, (bareCall ssrc n).run cr ctx
      = (.ok out, (sendRollover ctx (rtpSsrc (barePacket ssrc n)) (n % 2 ^ 16)).2) := by
  have hreach : (bareCall ssrc n).reaches ctx = true := by
    rw [reaches, hinit, bareCall_hasRoom]
    rfl
  rw [rtcSrtpProtect_sealed cr hreach rfl (srtpRtpHeaderLen_barePacket ssrc n),
    ← rtpSeq_barePacket ssrc n]
  exact ⟨_, rfl⟩

end Mrtc
