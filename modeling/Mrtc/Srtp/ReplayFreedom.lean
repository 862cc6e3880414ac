import Mrtc.Srtp.Receive
import Mrtc.Srtp.Send

/-! # No packet is accepted twice

Runs of `rtc_srtp_unprotect` and `rtc_srtp_unprotect_rtcp` on one context.
-/

namespace Mrtc

open Net List Function StreamEntry

/-! ## Tables and recorded indices -/

def replayOf (t : StreamTable) (ssrc : Nat) : Replay :=
  ((srtpFindSsrc t ssrc).map (·.replay)).getD {}

theorem replayOf_slot (t : StreamTable) (lruTick ssrc : Nat) :
    (srtpEntryForSsrc t lruTick ssrc).entry.replay = replayOf t ssrc := by
  rw [srtpEntryForSsrc_entry, replayOf]
  cases srtpFindSsrc t ssrc <;> rfl

structure TableTracks (t : StreamTable) (acc : Nat → Finset Nat) : Prop where
  windows : ∀ ssrc, (replayOf t ssrc).Tracks (acc ssrc)
  rocs : ∀ ssrc e, srtpFindSsrc t ssrc = some e → e.roc < 2 ^ 32

theorem TableTracks.empty : TableTracks StreamTable.empty fun _ => ∅ where
  windows ssrc := by
    rw [replayOf, srtpFindSsrc_empty]
    exact Replay.tracks_empty
  rocs ssrc e he := by
    rw [srtpFindSsrc_empty] at he
    cases he

variable {acc : Nat → Finset Nat} {t : StreamTable} {ctx : SrtpCtx}

theorem TableTracks.put (h : TableTracks t acc)
    (lruTick : Nat) {ssrc : Nat} (hadm : t.Admits ssrc) {e : StreamEntry}
    (he : e.hits ssrc = true) (hroc : e.roc < 2 ^ 32) {A : Finset Nat} (hA : e.replay.Tracks A) :
    TableTracks ((srtpEntryForSsrc t lruTick ssrc).put e) (update acc ssrc A) where
  windows other := by
    unfold replayOf
    by_cases hs : other = ssrc
    · rw [hs, find_put_self _ _ he, update_self]
      exact hA
    · rw [find_put_other _ _ hadm he hs, update_of_ne hs]
      exact h.windows other
  rocs other e' he' := by
    by_cases hs : other = ssrc
    · rw [hs, find_put_self _ _ he] at he'
      cases he'
      exact hroc
    · rw [find_put_other _ _ hadm he hs] at he'
      exact h.rocs other e' he'

theorem TableTracks.slot_roc_lt (h : TableTracks t acc) (lruTick ssrc : Nat) :
    (srtpEntryForSsrc t lruTick ssrc).entry.roc < 2 ^ 32 := by
  rw [srtpEntryForSsrc_entry]
  cases hf : srtpFindSsrc t ssrc with
  | none => exact Nat.two_pow_pos 32
  | some e => exact h.rocs ssrc e hf

theorem srtpEstimateRoc_lt {known : Option StreamEntry} (h : ∀ e, known = some e → e.roc < 2 ^ 32)
    (seq : Nat) : srtpEstimateRoc known seq < 2 ^ 32 := by
  cases known with
  | none => exact Nat.two_pow_pos 32
  | some e => grind [srtpEstimateRoc]

theorem StreamEntry.rollForward_hits (st : StreamEntry) (roc seq ssrc : Nat) :
    (st.rollForward roc seq).hits ssrc = st.hits ssrc := by
  unfold rollForward
  split_ifs <;> rfl

theorem StreamEntry.rollForward_replay (st : StreamEntry) (roc seq : Nat) :
    (st.rollForward roc seq).replay = st.replay := by
  unfold rollForward
  split_ifs <;> rfl

theorem StreamEntry.rollForward_roc_lt {st : StreamEntry} {roc : Nat} (h : st.roc < 2 ^ 32)
    (hroc : roc < 2 ^ 32) (seq : Nat) : (st.rollForward roc seq).roc < 2 ^ 32 := by
  unfold rollForward
  split_ifs
  · exact hroc
  · exact h

/-! ## One call -/

/-- What an authentic packet of `ssrc` with index `i` does to its table: only the slot is
taken (a replay), or the index is recorded in the slot. -/
inductive TableStep (t : StreamTable) (lruTick ssrc i : Nat) : StreamTable → Bool → Prop
  | replayed : TableStep t lruTick ssrc i (srtpEntryForSsrc t lruTick ssrc).table false
  | recorded (e : StreamEntry) (ok : Bool) (he : e.hits ssrc = true) (hroc : e.roc < 2 ^ 32)
      (hr : srtpReplayCheck (srtpEntryForSsrc t lruTick ssrc).entry.replay i = .ok e.replay) :
      TableStep t lruTick ssrc i ((srtpEntryForSsrc t lruTick ssrc).put e) ok

theorem rtcSrtpUnprotect_step (cr : Crypto) (ev : EvpFault) (buf : Bytes)
    (h : TableTracks ctx.rtpReplay acc) :
    (∃ e, rtcSrtpUnprotect cr ev ctx buf = (.error e, ctx)) ∨
    (rtpVerifies cr ctx buf = true ∧ ∃ t,
      TableStep ctx.rtpReplay ctx.replayLruTick (rtpSsrc buf) (recvIndex ctx buf) t
        (rtcSrtpUnprotect cr ev ctx buf).1.isOk ∧
      (rtcSrtpUnprotect cr ev ctx buf).2 = ctx.withRtpReplay t (recvSlot ctx buf).tick) := by
  have hhits := srtpEntryForSsrc_hits ctx.rtpReplay ctx.replayLruTick (rtpSsrc buf)
  have hroc := h.slot_roc_lt ctx.replayLruTick (rtpSsrc buf)
  have hest : estimatedRoc ctx buf < 2 ^ 32 := srtpEstimateRoc_lt (h.rocs _) _
  rcases rtcSrtpUnprotect_cases cr ev ctx buf with
    hno | ⟨hv, ⟨e, -, hrun⟩ | ⟨r, e, hr, -, hrun⟩ | ⟨r, packet, hr, hrun⟩⟩
  · exact Or.inl hno
  · refine Or.inr ⟨hv, _, ?_, by rw [hrun]⟩
    rw [hrun]
    exact TableStep.replayed
  · refine Or.inr ⟨hv, _, ?_, by rw [hrun]⟩
    rw [hrun]
    exact TableStep.recorded _ _ hhits hroc hr
  · refine Or.inr ⟨hv, _, ?_, by rw [hrun]⟩
    rw [hrun]
    refine TableStep.recorded _ _ ?_ (rollForward_roc_lt ?_ hest _) ?_
    · rw [rollForward_hits]
      exact hhits
    · exact hroc
    · rw [rollForward_replay]
      exact hr

theorem rtcSrtpUnprotectRtcp_step (cr : Crypto) (ev : EvpFault) (buf : Bytes)
    (h : TableTracks ctx.rtcpReplay acc) :
    (∃ e, rtcSrtpUnprotectRtcp cr ev ctx buf = (.error e, ctx)) ∨
    (rtcpTagOk cr ctx.keys buf = true ∧ ∃ t,
      TableStep ctx.rtcpReplay ctx.replayLruTick (rtcpSsrc buf) (rtcpIndex ctx.keys buf) t
        (rtcSrtpUnprotectRtcp cr ev ctx buf).1.isOk ∧
      (rtcSrtpUnprotectRtcp cr ev ctx buf).2
        = ctx.withRtcpReplay t (rtcpSlot ctx buf).tick) := by
  have hhits := srtpEntryForSsrc_hits ctx.rtcpReplay ctx.replayLruTick (rtcpSsrc buf)
  have hroc := h.slot_roc_lt ctx.replayLruTick (rtcpSsrc buf)
  rcases rtcSrtpUnprotectRtcp_cases cr ev ctx buf with
    hno | ⟨hv, ⟨e, -, hrun⟩ | ⟨r, res, hr, -, hrun⟩⟩
  · exact Or.inl hno
  · refine Or.inr ⟨hv, _, ?_, by rw [hrun]⟩
    rw [hrun]
    exact TableStep.replayed
  · refine Or.inr ⟨hv, _, ?_, by rw [hrun]⟩
    rw [hrun]
    exact TableStep.recorded _ _ hhits hroc hr

/-- **One step of a table without eviction**: recorded indices stay recorded, and an accepted
packet has an index that was not recorded before and is now. -/
theorem TableTracks.step {t' : StreamTable} (h : TableTracks t acc) {lruTick ssrc i : Nat}
    {ok : Bool} (hstep : TableStep t lruTick ssrc i t' ok) (hadm : t.Admits ssrc) :
    ∃ acc', TableTracks t' acc' ∧ (∀ other, acc other ⊆ acc' other) ∧
      (ok = true → i ∉ acc ssrc ∧ i ∈ acc' ssrc) := by
  have hslot : (srtpEntryForSsrc t lruTick ssrc).entry.replay.Tracks (acc ssrc) := by
    rw [replayOf_slot]
    exact h.windows _
  cases hstep with
  | replayed =>
    have hput := h.put lruTick hadm (srtpEntryForSsrc_hits t lruTick ssrc)
      (h.slot_roc_lt lruTick ssrc) hslot
    rw [srtpEntryForSsrc_put_entry, update_eq_self] at hput
    exact ⟨acc, hput, fun _ => Finset.Subset.refl _, fun hok => by cases hok⟩
  | recorded e ok he hroc hr =>
    obtain ⟨hfresh, htrack⟩ := srtpReplayCheck_spec hslot i
    refine ⟨_, h.put lruTick hadm he hroc (htrack _ hr), fun other => ?_, fun _ => ⟨?_, ?_⟩⟩
    · grind
    · exact (hfresh.mpr ⟨_, hr⟩).1
    · rw [update_self]
      exact Finset.mem_insert_self _ _

/-! ## Whole runs -/

inductive RecvCall where
  | rtp (ev : EvpFault) (buf : Bytes)
  | rtcp (ev : EvpFault) (buf : Bytes)
  deriving DecidableEq

def RecvCall.run (cr : Crypto) (ctx : SrtpCtx) : RecvCall → Except RtcErr Bytes × SrtpCtx
  | .rtp ev buf => rtcSrtpUnprotect cr ev ctx buf
  | .rtcp ev buf => rtcSrtpUnprotectRtcp cr ev ctx buf

def recvRun (cr : Crypto) : SrtpCtx → List RecvCall → List RecvCall × SrtpCtx
  | ctx, [] => ([], ctx)
  | ctx, c :: cs =>
    ((if (c.run cr ctx).1.isOk then [c] else []) ++ (recvRun cr (c.run cr ctx).2 cs).1,
      (recvRun cr (c.run cr ctx).2 cs).2)

inductive PacketId where
  | rtp (ssrc index : Nat)
  | rtcp (ssrc index : Nat)
  deriving DecidableEq

def RecvCall.packetId (trueIndex : Bytes → Nat) (k : SrtpKeys) : RecvCall → PacketId
  | .rtp _ buf => .rtp (rtpSsrc buf) (trueIndex buf)
  | .rtcp _ buf => .rtcp (rtcpSsrc buf) (rtcpIndex k buf)

def RecvCall.Genuine (cr : Crypto) (k : SrtpKeys) (trueIndex : Bytes → Nat) : RecvCall → Prop
  | .rtp _ buf => ∀ roc, roc < 2 ^ 32 → rtpTagOk cr k roc buf = true →
      trueIndex buf = pktIndex roc (rtpSeq buf)
  | .rtcp _ _ => True

def RecvCall.Admitted (cr : Crypto) (ctx : SrtpCtx) : RecvCall → Prop
  | .rtp _ buf => rtpVerifies cr ctx buf = true → ctx.rtpReplay.Admits (rtpSsrc buf)
  | .rtcp _ buf => rtcpTagOk cr ctx.keys buf = true → ctx.rtcpReplay.Admits (rtcpSsrc buf)

def NoRecvEviction (cr : Crypto) : SrtpCtx → List RecvCall → Prop
  | _, [] => True
  | ctx, c :: cs => c.Admitted cr ctx ∧ NoRecvEviction cr (c.run cr ctx).2 cs

def PacketId.SeenIn (accR accC : Nat → Finset Nat) : PacketId → Prop
  | .rtp ssrc i => i ∈ accR ssrc
  | .rtcp ssrc i => i ∈ accC ssrc

/-- **One call**: what was recorded stays recorded, and an accepted packet was not recorded
before and is now. -/
theorem RecvCall.run_tracks (cr : Crypto) {accR accC : Nat → Finset Nat} {trueIndex : Bytes → Nat}
    {c : RecvCall} (hR : TableTracks ctx.rtpReplay accR) (hC : TableTracks ctx.rtcpReplay accC)
    (hgen : c.Genuine cr ctx.keys trueIndex) (hadm : c.Admitted cr ctx) :
    ∃ accR' accC', TableTracks (c.run cr ctx).2.rtpReplay accR' ∧
      TableTracks (c.run cr ctx).2.rtcpReplay accC' ∧ (c.run cr ctx).2.keys = ctx.keys ∧
      (∀ p : PacketId, p.SeenIn accR accC → p.SeenIn accR' accC') ∧
      ((c.run cr ctx).1.isOk = true → ¬ (c.packetId trueIndex ctx.keys).SeenIn accR accC ∧
        (c.packetId trueIndex ctx.keys).SeenIn accR' accC') := by
  cases c with
  | rtp ev buf =>
    rcases rtcSrtpUnprotect_step cr ev buf hR with ⟨e, hrun⟩ | ⟨hv, t, hstep, hctx⟩
    · simp only [RecvCall.run, hrun]
      exact ⟨accR, accC, hR, hC, trivial, fun _ => id, fun hok => by cases hok⟩
    · obtain ⟨accR', hR', hsub, hok⟩ := hR.step hstep (hadm hv)
      have hidx : trueIndex buf = recvIndex ctx buf :=
        hgen _ (srtpEstimateRoc_lt (hR.rocs _) _) hv
      simp only [RecvCall.run, RecvCall.packetId, hctx, hidx]
      refine ⟨accR', accC, hR', hC, rfl, ?_, hok⟩
      rintro (⟨ssrc, i⟩ | ⟨ssrc, i⟩) hp
      · exact hsub ssrc hp
      · exact hp
  | rtcp ev buf =>
    rcases rtcSrtpUnprotectRtcp_step cr ev buf hC with ⟨e, hrun⟩ | ⟨hv, t, hstep, hctx⟩
    · simp only [RecvCall.run, hrun]
      exact ⟨accR, accC, hR, hC, trivial, fun _ => id, fun hok => by cases hok⟩
    · obtain ⟨accC', hC', hsub, hok⟩ := hC.step hstep (hadm hv)
      simp only [RecvCall.run, RecvCall.packetId, hctx]
      refine ⟨accR, accC', hR, hC', rfl, ?_, hok⟩
      rintro (⟨ssrc, i⟩ | ⟨ssrc, i⟩) hp
      · exact hp
      · exact hsub ssrc hp

theorem recvRun_unseen (cr : Crypto) {trueIndex : Bytes → Nat} {k : SrtpKeys}
    (calls : List RecvCall) {accR accC : Nat → Finset Nat} (hk : ctx.keys = k)
    (hR : TableTracks ctx.rtpReplay accR) (hC : TableTracks ctx.rtcpReplay accC)
    (hgen : ∀ c ∈ calls, c.Genuine cr k trueIndex) (hev : NoRecvEviction cr ctx calls) :
    ((recvRun cr ctx calls).1.map (·.packetId trueIndex k)).Nodup ∧
    ∀ p ∈ (recvRun cr ctx calls).1.map (·.packetId trueIndex k), ¬ p.SeenIn accR accC := by
  -- forward over the calls: later packets avoid what is recorded after the first call
  induction calls generalizing ctx accR accC with
  | nil => exact ⟨nodup_nil, fun p hp => by cases hp⟩
  | cons c cs ih =>
    subst hk
    obtain ⟨accR', accC', hR', hC', hk', hsub, hok⟩ :=
      c.run_tracks cr hR hC (hgen c mem_cons_self) hev.1
    obtain ⟨hnd, hun⟩ := ih hk' hR' hC' (fun d hd => hgen d (mem_cons_of_mem _ hd)) hev.2
    rw [recvRun]
    by_cases hacc : (c.run cr ctx).1.isOk = true
    · grind
    · rw [if_neg hacc, nil_append]
      exact ⟨hnd, fun p hp hs => hun p hp (hsub p hs)⟩

/-- **No packet is accepted twice.** -/
theorem recvRun_packets_nodup (cr : Crypto) (profile : SrtpProfile) (key salt : Bytes)
    (ctx : SrtpCtx) (hctx : rtcSrtpInitProfile cr none profile key salt = .ok ctx)
    (trueIndex : Bytes → Nat) (calls : List RecvCall)
    (hgen : ∀ c ∈ calls, c.Genuine cr ctx.keys trueIndex) (hev : NoRecvEviction cr ctx calls) :
    ((recvRun cr ctx calls).1.map (·.packetId trueIndex ctx.keys)).Nodup := by
  obtain rfl := Except.ok.inj hctx
  exact (recvRun_unseen cr calls rfl TableTracks.empty TableTracks.empty hgen hev).1

/-! ## Eviction loses the window

With the toy cipher the sender's rollover counter can be read off the tag. -/

def toyIndex (buf : Bytes) : Nat :=
  pktIndex (readU32 ((buf.drop (buf.length - srtpAuthTagLen)).take 4).reverse 0) (rtpSeq buf)

theorem toyIndex_genuine (ev : EvpFault) (buf : Bytes) :
    (RecvCall.rtp ev buf).Genuine toyCrypto toyCtx.keys toyIndex := by
  intro roc hroc hok
  have hcm : rtpTagOk toyCrypto toyCtx.keys roc buf
      = (srtpCheckTagCm toyCrypto {} toyCtx.keys roc buf).isOk := rfl
  rw [hcm] at hok
  unfold srtpCheckTagCm srtpHmacSha1 at hok
  by_cases hlen : buf.length < 12 + srtpAuthTagLen
  · rw [if_pos hlen] at hok
    cases hok
  · rw [if_neg hlen] at hok
    dsimp only at hok
    split_ifs at hok with htag
    · cases hok
    · rw [not_not] at htag
      rw [toyIndex, ← htag]
      have htake : ((toyCrypto.hmacSha1 toyCtx.keys.sessionAuthKey
          (buf.take (buf.length - srtpAuthTagLen) ++ writeU32 roc)).take srtpAuthTagLen).take 4
          = (writeU32 roc).reverse := by
        rw [take_take]
        simp only [toyCrypto, reverse_append, take_take, append_assoc]
        exact take_left' rfl
      rw [htake, reverse_reverse, ← append_nil (writeU32 roc), readU32_writeU32 hroc]

def toySealed (ssrc roc n : Nat) : Bytes :=
  sealRtp toyCrypto toyCtx.keys ⟨ssrc, roc, n % 2 ^ 16⟩ 12 (barePacket ssrc n)

def replayRun (m : Nat) : List RecvCall :=
  (range m).map (fun i => .rtp {} (toySealed (i + 1) 0 0)) ++ [.rtp {} (toySealed 1 0 0)]

instance RecvCall.decideAdmitted (cr : Crypto) (ctx : SrtpCtx) :
    ∀ c : RecvCall, Decidable (c.Admitted cr ctx)
  | .rtp _ _ => inferInstanceAs (Decidable (_ → _))
  | .rtcp _ _ => inferInstanceAs (Decidable (_ → _))

instance NoRecvEviction.decide (cr : Crypto) :
    ∀ (ctx : SrtpCtx) (calls : List RecvCall), Decidable (NoRecvEviction cr ctx calls)
  | _, [] => isTrue trivial
  | ctx, c :: cs =>
    @instDecidableAnd _ _ inferInstance (NoRecvEviction.decide cr (c.run cr ctx).2 cs)

theorem replayRun_genuine (m : Nat) :
    ∀ c ∈ replayRun m, c.Genuine toyCrypto toyCtx.keys toyIndex := by
  intro c hc
  simp only [replayRun, mem_append, mem_map, mem_singleton] at hc
  rcases hc with ⟨i, -, rfl⟩ | rfl <;> exact toyIndex_genuine _ _

/-- Eight streams fit: the repeated packet is not accepted again. -/
theorem eight_streams_packets_nodup :
    NoRecvEviction toyCrypto toyCtx (replayRun 8) ∧
    ((recvRun toyCrypto toyCtx (replayRun 8)).1.map (·.packetId toyIndex toyCtx.keys)).Nodup := by
  have hev : NoRecvEviction toyCrypto toyCtx (replayRun 8) := by decide +kernel
  exact ⟨hev, recvRun_packets_nodup toyCrypto .aes128CmSha1_80 _ _ toyCtx rfl toyIndex _
    (replayRun_genuine 8) hev⟩

/-- **A packet of an evicted stream is accepted again**: nine streams send one authentic packet
each, then the very first packet is replayed. -/
theorem evicted_stream_accepts_replay :
    rtcSrtpInitProfile toyCrypto none .aes128CmSha1_80 (replicate 16 0)
      (replicate 14 0) = .ok toyCtx ∧
    (∀ c ∈ replayRun 9, c.Genuine toyCrypto toyCtx.keys toyIndex) ∧
    ¬ ((recvRun toyCrypto toyCtx (replayRun 9)).1.map
        (·.packetId toyIndex toyCtx.keys)).Nodup :=
  ⟨rfl, replayRun_genuine 9, by decide +kernel⟩

end Mrtc
