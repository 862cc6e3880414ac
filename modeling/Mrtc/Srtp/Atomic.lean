import Mrtc.Srtp.Forgery

/-! # What a call that fails leaves behind

A call that returns an error should leave the indices as they are: the rollover counters, the last
sequence numbers, the windows and the set of streams. `srtpCall_atomic_iff` says when it does: the
call fails before it changes the entry of the packet's stream.
-/

namespace Mrtc

open Net

def StreamEntry.kept (e : StreamEntry) : StreamEntry := { e with lruTick := 0 }

def StreamTable.kept (t : StreamTable) : List StreamEntry := t.entries.map StreamEntry.kept

/-- The same indices and streams, whatever the ticks. -/
structure SrtpCtx.SameState (ctx ctx' : SrtpCtx) : Prop where
  rtpSend : ctx'.rtpSend.kept = ctx.rtpSend.kept
  rtpReplay : ctx'.rtpReplay.kept = ctx.rtpReplay.kept
  rtcpReplay : ctx'.rtcpReplay.kept = ctx.rtcpReplay.kept
  srtcpIndex : ctx'.srtcpIndex = ctx.srtcpIndex

theorem SrtpCtx.SameState.refl (ctx : SrtpCtx) : ctx.SameState ctx := ⟨rfl, rfl, rfl, rfl⟩

/-- Nothing is changed in the entry of the packet's stream. The sender comes to it behind the checks
of the lengths, and leaves it as it is for the stream's last sequence number. The AES-CM receiver
comes to it with a tag that verifies and an index that its window takes. -/
def SrtpCall.Untouched (cr : Crypto) (ctx : SrtpCtx) : SrtpCall → Prop
  | .protect ev buf cap =>
    ProtectCall.reaches ctx ⟨ev, buf, cap⟩ = false
      ∨ ∃ st, srtpFindSsrc ctx.rtpSend (rtpSsrc buf) = some st
        ∧ st.rocInit = true ∧ st.lastSeq = rtpSeq buf
  | .unprotect ev buf =>
    ctx.initialized = false ∨ srtpIsGcm ctx.keys.profile = true
      ∨ (srtpCheckTagCm cr ev ctx.keys (estimatedRoc ctx buf) buf).isOk = false
      ∨ (srtpReplayCheck (recvSlot ctx buf).entry.replay (recvIndex ctx buf)).isOk = false
  | .protectRtcp _ _ _ => True
  | .unprotectRtcp ev buf =>
    ctx.initialized = false ∨ srtpIsGcm ctx.keys.profile = true
      ∨ (srtcpCheckTagCm cr ev ctx.keys buf).isOk = false
      ∨ (srtpReplayCheck (rtcpSlot ctx buf).entry.replay (rtcpIndex ctx.keys buf)).isOk = false

/-! ## One call -/

variable {e : RtcErr} {ev : EvpFault} {buf : Bytes} {ctx : SrtpCtx} {cr : Crypto}

theorem srtpEntryForSsrc_kept {t : StreamTable} {lruTick ssrc index : Nat}
    (h : srtpReplayCheck (srtpEntryForSsrc t lruTick ssrc).entry.replay index = .error e) :
    (srtpEntryForSsrc t lruTick ssrc).table.kept = t.kept := by
  obtain ⟨pre, x, post, hsplit, -, htable, -, ⟨-, -, hentry⟩ | ⟨-, -, hentry⟩⟩ :=
    srtpEntryForSsrc_split t lruTick ssrc
  · rw [StreamTable.kept, StreamTable.kept, htable, hsplit, hentry]
    simp [StreamEntry.kept]
  · -- a fresh window takes every index
    rw [hentry] at h
    cases h

theorem put_kept_iff (t : StreamTable) (lruTick : Nat) {ssrc : Nat} {st : StreamEntry}
    (hst : st.hits ssrc = true) :
    ((srtpEntryForSsrc t lruTick ssrc).put st).kept = t.kept
      ↔ ∃ x, srtpFindSsrc t ssrc = some x ∧ st.kept = x.kept := by
  obtain ⟨pre, x, post, hsplit, hidx, htable, -, hx⟩ := srtpEntryForSsrc_split t lruTick ssrc
  rw [StreamTable.kept, Slot.put_entries htable hidx, StreamTable.kept, hsplit]
  simp only [List.map_append, List.map_cons, List.append_cancel_left_eq, List.cons.injEq, and_true]
  rcases hx with ⟨hfind, -, -⟩ | ⟨hfind, -, -⟩
  · simp [hfind]
  · -- the entry that is given up belongs to another stream, or to none
    simp only [hfind, reduceCtorEq, false_and, exists_false, iff_false]
    intro hkept
    have hmiss := List.find?_eq_none.mp hfind x (by simp [hsplit])
    rw [StreamEntry.hits_iff] at hst
    apply hmiss
    rw [StreamEntry.hits_iff]
    exact ⟨(congrArg StreamEntry.inUse hkept).symm.trans hst.1,
      (congrArg StreamEntry.ssrc hkept).symm.trans hst.2⟩

theorem advance_kept_iff (x : StreamEntry) (tick seq : Nat) :
    (({ x with lruTick := tick } : StreamEntry).advance seq).kept = x.kept
      ↔ x.rocInit = true ∧ x.lastSeq = seq := by
  have hsame : Rollover.rolledOver seqHalf x.lastSeq x.lastSeq = false := by
    rw [Bool.eq_false_iff, Ne, Rollover.rolledOver_iff]
    omega
  obtain ⟨ssrc, inUse, lruTick, roc, lastSeq, rocInit, replay⟩ := x
  cases rocInit with
  | false => simp [StreamEntry.advance, StreamEntry.kept]
  | true =>
    simp only [StreamEntry.advance, StreamEntry.kept, Bool.not_true, Bool.false_eq_true, if_false,
      true_and]
    split_ifs with hrolled
    · -- a counter that moves on is another one
      simp only [StreamEntry.mk.injEq, true_and, and_true]
      constructor
      · rintro ⟨hroc, -⟩
        omega
      · rintro rfl
        rw [hsame] at hrolled
        cases hrolled
    · simp [eq_comm]

theorem advance_hits (st : StreamEntry) (seq ssrc : Nat) :
    (st.advance seq).hits ssrc = st.hits ssrc := by
  unfold StreamEntry.advance
  split_ifs <;> rfl

theorem rtcSrtpProtect_atomic_iff {c : ProtectCall} :
    ctx.SameState (c.run cr ctx).2
      ↔ (SrtpCall.protect c.ev c.buf c.cap).Untouched cr ctx := by
  simp only [SrtpCall.Untouched]
  rcases rtcSrtpProtect_cases cr ctx c with ⟨hreach, e', hrun⟩ | ⟨hreach, hrun⟩
  · exact iff_of_true (by rw [hrun]; exact .refl ctx) (.inl hreach)
  rw [hrun, or_iff_right (by rw [hreach]; decide)]
  have hslot := srtpEntryForSsrc_hits ctx.rtpSend ctx.sendLruTick (rtpSsrc c.buf)
  have hput := put_kept_iff ctx.rtpSend ctx.sendLruTick
    ((advance_hits _ (rtpSeq c.buf) _).trans hslot)
  have hsame : ctx.SameState (sendRollover ctx (rtpSsrc c.buf) (rtpSeq c.buf)).2
      ↔ ((srtpEntryForSsrc ctx.rtpSend ctx.sendLruTick (rtpSsrc c.buf)).put _).kept = _ :=
    ⟨fun h => h.rtpSend, fun h => ⟨h, rfl, rfl, rfl⟩⟩
  rw [hsame, hput]
  refine exists_congr fun x => and_congr_right fun hfind => ?_
  obtain ⟨_, y, _, -, -, -, -, ⟨hfound, -, hentry⟩ | ⟨hfound, -⟩⟩ :=
    srtpEntryForSsrc_split ctx.rtpSend ctx.sendLruTick (rtpSsrc c.buf)
  · rw [hfind] at hfound
    obtain rfl := Option.some.inj hfound
    rw [hentry]
    exact advance_kept_iff x _ _
  · rw [hfind] at hfound
    cases hfound

theorem srtpReplayCheck_ne {r r' : Replay} {index : Nat}
    (h : srtpReplayCheck r index = .ok r') : r' ≠ r := by
  have hbit : ∀ (w : BitVec 64) (k : Nat), k < 64 → w &&& (1#64 <<< k) = 0#64 →
      w ||| (1#64 <<< k) ≠ w := by
    intro w k hk hclear heq
    rw [and_mask_eq_zero_iff w hk, ← heq] at hclear
    simp [hk] at hclear
  rintro rfl
  unfold srtpReplayCheck at h
  dsimp only at h
  have hindex : ∀ {w₀ w₁ : BitVec 64} {init : Bool}, r'.highestIndex < index →
      ({ highestIndex := index, window0 := w₀, window1 := w₁, initialized := init } : Replay) ≠ r' :=
    fun hlt heq => absurd (congrArg Replay.highestIndex heq) (by dsimp only; omega)
  split_ifs at h with hinit hlt <;> injection h with h
  · rw [← h] at hinit
    cases hinit
  · exact hindex hlt h
  · exact hindex hlt h
  · exact hindex hlt h
  · exact hindex hlt h
  · rename_i hmask
    exact hbit _ _ (Nat.mod_lt _ (by decide)) (not_not.mp hmask) (congrArg Replay.window0 h)
  · rename_i hmask
    exact hbit _ _ (Nat.mod_lt _ (by decide)) (not_not.mp hmask) (congrArg Replay.window1 h)

/-- An index that is recorded changes the table: the window, or the set of streams. -/
theorem put_replay_kept_ne {t : StreamTable} {lruTick ssrc index : Nat} {r : Replay}
    (h : srtpReplayCheck (srtpEntryForSsrc t lruTick ssrc).entry.replay index = .ok r) :
    ((srtpEntryForSsrc t lruTick ssrc).put
      { (srtpEntryForSsrc t lruTick ssrc).entry with replay := r }).kept ≠ t.kept := by
  intro hsame
  have hhits : StreamEntry.hits ssrc
      { (srtpEntryForSsrc t lruTick ssrc).entry with replay := r } = true :=
    srtpEntryForSsrc_hits t lruTick ssrc
  obtain ⟨x, hfind, hkept⟩ := (put_kept_iff t lruTick hhits).mp hsame
  obtain ⟨_, y, _, -, -, -, -, ⟨hfound, -, hentry⟩ | ⟨hfound, -⟩⟩ :=
    srtpEntryForSsrc_split t lruTick ssrc
  · rw [hfind] at hfound
    obtain rfl := Option.some.inj hfound
    rw [hentry] at h
    exact srtpReplayCheck_ne h (congrArg StreamEntry.replay hkept)
  · rw [hfind] at hfound
    cases hfound

theorem rtcSrtpUnprotect_atomic_iff (herr : (rtcSrtpUnprotect cr ev ctx buf).1 = .error e) :
    ctx.SameState (rtcSrtpUnprotect cr ev ctx buf).2
      ↔ (SrtpCall.unprotect ev buf).Untouched cr ctx := by
  unfold SrtpCall.Untouched
  unfold rtcSrtpUnprotect srtpUnprotectGcm at herr ⊢
  cases hinit : ctx.initialized with
  | false => exact iff_of_true (.refl ctx) (.inl rfl)
  | true =>
  cases hgcm : srtpIsGcm ctx.keys.profile with
  | true =>
    refine iff_of_true ?_ (.inr (.inl rfl))
    simp only [hinit, hgcm, Bool.not_true, Bool.false_eq_true, if_false, if_true] at herr ⊢
    cases hopen : srtpOpenGcm cr ev ctx.keys (estimatedRoc ctx buf) buf with
    | error e' => exact .refl ctx
    | ok packet =>
      rw [hopen] at herr
      dsimp only at herr ⊢
      split at herr
      · next hreplay =>
        exact ⟨rfl, srtpEntryForSsrc_kept hreplay, rfl, rfl⟩
      · cases herr
  | false =>
    simp only [hinit, hgcm, Bool.not_true, Bool.false_eq_true, if_false] at herr ⊢
    cases htag : srtpCheckTagCm cr ev ctx.keys (estimatedRoc ctx buf) buf with
    | error e' => exact iff_of_true (.refl ctx) (by simp [Except.isOk, Except.toBool])
    | ok u =>
      rw [htag] at herr
      dsimp only at herr ⊢
      cases hreplay : srtpReplayCheck (recvSlot ctx buf).entry.replay (recvIndex ctx buf) with
      | error e' =>
        exact iff_of_true ⟨rfl, srtpEntryForSsrc_kept hreplay, rfl, rfl⟩
          (by simp [Except.isOk, Except.toBool])
      | ok r =>
        rw [hreplay] at herr
        dsimp only at herr ⊢
        split at herr
        · exact iff_of_false (fun h => put_replay_kept_ne hreplay h.rtpReplay)
            (by simp [Except.isOk, Except.toBool])
        · cases herr

theorem rtcSrtpProtectRtcp_cases (cr : Crypto) (ev : EvpFault) (ctx : SrtpCtx) (buf : Bytes)
    (cap : Nat) :
    (∃ e, rtcSrtpProtectRtcp cr ev ctx buf cap = (.error e, ctx)) ∨
    (∃ packet, rtcSrtpProtectRtcp cr ev ctx buf cap
      = (.ok packet, { ctx with srtcpIndex := (ctx.srtcpIndex + 1) % 2 ^ 32 })) := by
  unfold rtcSrtpProtectRtcp
  split
  · exact .inl ⟨_, rfl⟩
  split
  · exact .inl ⟨_, rfl⟩
  split
  · unfold srtpProtectRtcpGcm
    split
    · exact .inl ⟨_, rfl⟩
    · dsimp only
      cases srtpAesGcmEncrypt cr ev (srtpGcmCipher ctx.keys) ctx.keys.rtcpSessionKey
          (srtpGcmRtcpIv ctx.keys.rtcpSessionSalt (rtcpSsrc buf) (srtcpWireIndex ctx.srtcpIndex))
          (buf.take 8 ++ writeU32 (srtcpEIndex ctx.srtcpIndex)) (buf.drop 8) with
      | error e => exact .inl ⟨e, rfl⟩
      | ok sealed => exact .inr ⟨_, rfl⟩
  split
  · exact .inl ⟨_, rfl⟩
  dsimp only
  -- how the body came out does not matter, only whether it did
  generalize (if 8 < buf.length then _ else _ : Except RtcErr Bytes) = encrypted
  cases encrypted with
  | error e => exact .inl ⟨e, rfl⟩
  | ok cipher =>
    dsimp only
    cases srtpHmacSha1 cr ev ctx.keys.rtcpSessionAuthKey
        (buf.take 8 ++ cipher ++ writeU32 (srtcpEIndex ctx.srtcpIndex)) [] with
    | error e => exact .inl ⟨e, rfl⟩
    | ok hmac => exact .inr ⟨_, rfl⟩

theorem rtcSrtpUnprotectRtcp_atomic_iff (herr : (rtcSrtpUnprotectRtcp cr ev ctx buf).1 = .error e) :
    ctx.SameState (rtcSrtpUnprotectRtcp cr ev ctx buf).2
      ↔ (SrtpCall.unprotectRtcp ev buf).Untouched cr ctx := by
  unfold SrtpCall.Untouched
  unfold rtcSrtpUnprotectRtcp srtpUnprotectRtcpGcm at herr ⊢
  cases hinit : ctx.initialized with
  | false => exact iff_of_true (.refl ctx) (.inl rfl)
  | true =>
  cases hgcm : srtpIsGcm ctx.keys.profile with
  | true =>
    refine iff_of_true ?_ (.inr (.inl rfl))
    simp only [hinit, hgcm, Bool.not_true, Bool.false_eq_true, if_false, if_true] at herr ⊢
    cases hopen : srtcpOpenGcm cr ev ctx.keys buf with
    | error e' => exact .refl ctx
    | ok packet =>
      rw [hopen] at herr
      dsimp only at herr ⊢
      split at herr
      · next hreplay =>
        exact ⟨rfl, rfl, srtpEntryForSsrc_kept hreplay, rfl⟩
      · cases herr
  | false =>
    simp only [hinit, hgcm, Bool.not_true, Bool.false_eq_true, if_false] at herr ⊢
    cases htag : srtcpCheckTagCm cr ev ctx.keys buf with
    | error e' => exact iff_of_true (.refl ctx) (by simp [Except.isOk, Except.toBool])
    | ok u =>
      dsimp only
      cases hreplay : srtpReplayCheck (rtcpSlot ctx buf).entry.replay (rtcpIndex ctx.keys buf) with
      | error e' =>
        exact iff_of_true ⟨rfl, rfl, srtpEntryForSsrc_kept hreplay, rfl⟩
          (by simp [Except.isOk, Except.toBool])
      | ok r =>
        exact iff_of_false (fun h => put_replay_kept_ne hreplay h.rtcpReplay)
          (by simp [Except.isOk, Except.toBool])

/-- **A call that fails changes no index and no stream if and only if** it fails before the entry of
the packet's stream is changed. -/
theorem srtpCall_atomic_iff {cr : Crypto} {ctx : SrtpCtx} {call : SrtpCall} {e : RtcErr}
    (herr : (call.run cr ctx).1 = .error e) :
    ctx.SameState (call.run cr ctx).2 ↔ call.Untouched cr ctx := by
  cases call with
  | protect ev buf cap => exact rtcSrtpProtect_atomic_iff (c := ⟨ev, buf, cap⟩)
  | unprotect ev buf => exact rtcSrtpUnprotect_atomic_iff herr
  | protectRtcp ev buf cap =>
    refine iff_of_true ?_ trivial
    rcases rtcSrtpProtectRtcp_cases cr ev ctx buf cap with ⟨e', hrun⟩ | ⟨packet, hrun⟩
    · rw [SrtpCall.run, hrun]
      exact .refl ctx
    · rw [SrtpCall.run, hrun] at herr
      cases herr
  | unprotectRtcp ev buf => exact rtcSrtpUnprotectRtcp_atomic_iff herr

def SrtpCall.after (call : SrtpCall) (ctx : SrtpCtx) : SrtpCtx := (call.run toyCrypto ctx).2

def tagged (body : Bytes) : Bytes :=
  body ++ (toyCrypto.hmacSha1 toyCtx.keys.sessionAuthKey (body ++ writeU32 0)).take srtpAuthTagLen

def receiveBare : SrtpCall := .unprotect {} (tagged (barePacket 7 3))

theorem replayed_bare_atomic :
    (receiveBare.run toyCrypto (receiveBare.after toyCtx)).1 = .error .srtp
      ∧ (receiveBare.after toyCtx).SameState (receiveBare.after (receiveBare.after toyCtx)) :=
  have herr : (receiveBare.run toyCrypto (receiveBare.after toyCtx)).1 = .error .srtp := by decide
  ⟨herr, (srtpCall_atomic_iff herr).mpr (.inr (.inr (.inr (by decide))))⟩

def truncatedHeader (seq : Nat) : Bytes := (barePacket 7 seq).set 0 0x90

/-- Sending a packet with such a header fails, but the rollover counter has moved on: the packet
65535, sent again, gets another nonce. -/
theorem truncatedHeader_not_atomic :
    let sent := SrtpCall.after (.protect {} (barePacket 7 65535) 64) toyCtx
    let send : SrtpCall := .protect {} (truncatedHeader 0) 64
    let receive : SrtpCall := .unprotect {} (tagged (truncatedHeader 3))
    ((send.run toyCrypto sent).1 = .error .invalid ∧ ¬sent.SameState (send.after sent)
      ∧ sendNonce sent (barePacket 7 65535) = ⟨7, 0, 65535⟩
      ∧ sendNonce (send.after sent) (barePacket 7 65535) = ⟨7, 1, 65535⟩)
    ∧ (receive.run toyCrypto toyCtx).1 = .error .invalid
      ∧ ¬toyCtx.SameState (receive.after toyCtx) := by
  refine ⟨⟨by decide, ?_, by decide, by decide⟩, by decide, ?_⟩
  · intro hsame
    exact absurd hsame.rtpSend (by decide)
  · intro hsame
    exact absurd hsame.rtpReplay (by decide)

end Mrtc
