import Mrtc.Srtp.ReplayFreedom
import Mrtc.Srtp.Sealed

/-! # Which late packets are still accepted

The receiver guesses the rollover counter of a packet from the last sequence number it moved
forward to.
-/

namespace Mrtc

open Net List Rollover StreamEntry Window

/-! ## Runs with the accepted indices of the live streams -/

def liveStep (trueIndex : Bytes → Nat) (c : RecvCall) (res : Except RtcErr Bytes × SrtpCtx)
    (acc : Nat → Finset Nat) (ssrc : Nat) : Finset Nat :=
  if (srtpFindSsrc res.2.rtpReplay ssrc).isNone then ∅
  else
    match c with
    | .rtp _ buf =>
      if res.1.isOk ∧ rtpSsrc buf = ssrc then insert (trueIndex buf) (acc ssrc) else acc ssrc
    | .rtcp _ _ => acc ssrc

def liveRun (cr : Crypto) (trueIndex : Bytes → Nat) :
    SrtpCtx → (Nat → Finset Nat) → List RecvCall → SrtpCtx × (Nat → Finset Nat)
  | ctx, acc, [] => (ctx, acc)
  | ctx, acc, c :: cs =>
    liveRun cr trueIndex (c.run cr ctx).2 (liveStep trueIndex c (c.run cr ctx) acc) cs

def RecvCall.faultFree : RecvCall → Prop
  | .rtp ev _ => ev = {}
  | .rtcp ev _ => ev = {}

/-- The MAC accepts `buf` only under a counter that the sender protected it with, and that
counter is the one of its true index. -/
def MacSound (cr : Crypto) (k : SrtpKeys) (trueIndex : Bytes → Nat) (buf : Bytes) : Prop :=
  ∀ roc, roc < 2 ^ 32 → rtpTagOk cr k roc buf = true →
    (∃ p, SealedAs cr k roc p buf) ∧ trueIndex buf = pktIndex roc (rtpSeq buf)

def RecvCall.MacSound (cr : Crypto) (k : SrtpKeys) (trueIndex : Bytes → Nat) : RecvCall → Prop
  | .rtp _ buf => Mrtc.MacSound cr k trueIndex buf
  | .rtcp _ _ => True

/-! ## The state of a stream -/

/-- The entry of a stream that has accepted `A`: its window tracks `A`, and its counter and
last sequence number are the highest accepted index. -/
def StreamTracks (A : Finset Nat) : Option StreamEntry → Prop
  | none => A = ∅
  | some e => e.replay.Tracks A ∧ e.rocInit = true ∧
      Window.IsHighest A (pktIndex e.roc e.lastSeq) ∧ e.roc < 2 ^ 32 ∧ e.lastSeq < 2 ^ 16

variable {roc seq : Nat} {st : StreamEntry} {A : Finset Nat} {found : Option StreamEntry}
  {ssrc : Nat} {acc : Nat → Finset Nat} {ctx : SrtpCtx} {cr : Crypto}

theorem pktIndex_div (h : seq < 2 ^ 16) : pktIndex roc seq / 2 ^ 16 = roc := by
  unfold pktIndex
  omega

theorem pktIndex_mod (h : seq < 2 ^ 16) : pktIndex roc seq % 2 ^ 16 = seq := by
  unfold pktIndex
  omega

theorem rtpSeq_lt (buf : Bytes) : rtpSeq buf < 2 ^ 16 := readU16_lt _ _

theorem StreamEntry.rollForward_of_ahead (roc : Nat)
    (h : st.rocInit = false ∨ st.lastSeq < seq ∨ 2 ^ 15 < st.lastSeq - seq) :
    st.rollForward roc seq = { st with lastSeq := seq, roc := roc, rocInit := true } := by
  unfold rollForward seqHalf
  rw [if_pos]
  rcases h with h | h | h
  · simp [h]
  · simp [h]
  · rw [decide_eq_true h, Bool.or_true]

theorem StreamEntry.rollForward_of_behind (roc : Nat) (hinit : st.rocInit = true)
    (h1 : ¬ st.lastSeq < seq) (h2 : ¬ 2 ^ 15 < st.lastSeq - seq) : st.rollForward roc seq = st := by
  unfold rollForward seqHalf
  rw [if_neg]
  rw [hinit, decide_eq_false h1, decide_eq_false h2]
  decide

/-- **Accepting a packet** with the guessed counter keeps the entry right. -/
theorem StreamTracks.accept
    (h : StreamTracks A found) {tick : Nat} (hseq : seq < 2 ^ 16)
    (hst : st = { found.getD { ssrc := ssrc, inUse := true } with lruTick := tick })
    {r : Replay}
    (hr : srtpReplayCheck st.replay (pktIndex (srtpEstimateRoc found seq) seq) = .ok r) :
    StreamTracks (insert (pktIndex (srtpEstimateRoc found seq) seq) A)
      (some ({ st with replay := r }.rollForward (srtpEstimateRoc found seq) seq)) := by
  cases found with
  | none =>
    obtain rfl : A = ∅ := h
    have htrack := (srtpReplayCheck_spec Replay.tracks_empty _).2 r (by rw [hst] at hr; exact hr)
    rw [hst]
    exact ⟨htrack, rfl, isHighest_singleton _, Nat.two_pow_pos 32, hseq⟩
  | some e =>
    obtain ⟨htr, hinit, hhigh, hroc, hlast⟩ := h
    obtain ⟨hfresh, htrack⟩ := srtpReplayCheck_spec htr (pktIndex (srtpEstimateRoc (some e) seq) seq)
    have hst1 : st.lastSeq = e.lastSeq := by rw [hst]; rfl
    have hst2 : st.roc = e.roc := by rw [hst]; rfl
    have hst3 : st.rocInit = true := by rw [hst]; exact hinit
    have hst4 : st.replay = e.replay := by rw [hst]; rfl
    rw [hst4] at hr
    have hwin := ((fresh_iff hhigh).mp (hfresh.mpr ⟨r, hr⟩)).2
    have hnew := htrack r hr
    unfold srtpEstimateRoc at hwin hnew ⊢
    simp only [hinit, Bool.true_and] at hwin hnew ⊢
    by_cases hw : rolledOver seqHalf e.lastSeq seq = true
    · -- a wrap: the counter cannot overflow, since index zero would be out of the window
      rw [if_pos hw] at hwin hnew ⊢
      have hw' := (rolledOver_iff ..).mp hw
      unfold seqHalf at hw'
      have hlt : e.roc + 1 < 2 ^ 32 := by
        unfold pktIndex srtpReplayWindowSize at hwin
        omega
      rw [Nat.mod_eq_of_lt hlt] at hnew ⊢
      rw [rollForward_of_ahead _ (Or.inr (Or.inr (hst1 ▸ hw'.2)))]
      refine ⟨hnew, rfl, isHighest_insert_above hhigh ?_, hlt, hseq⟩
      show pktIndex e.roc e.lastSeq < pktIndex (e.roc + 1) seq
      unfold pktIndex
      omega
    · rw [if_neg hw] at hnew ⊢
      rw [rolledOver_iff, seqHalf] at hw
      by_cases hup : e.lastSeq < seq
      · rw [rollForward_of_ahead _ (Or.inr (Or.inl (hst1 ▸ hup)))]
        refine ⟨hnew, rfl, isHighest_insert_above hhigh ?_, hroc, hseq⟩
        show pktIndex e.roc e.lastSeq < pktIndex e.roc seq
        unfold pktIndex
        omega
      · have hnear : ¬ 2 ^ 15 < e.lastSeq - seq := by omega
        have hroll : ({ st with replay := r } : StreamEntry).rollForward e.roc seq
            = { st with replay := r } :=
          rollForward_of_behind _ hst3 (hst1 ▸ hup) (hst1 ▸ hnear)
        rw [hroll]
        refine ⟨hnew, hst3, ?_, hst2 ▸ hroc, hst1 ▸ hlast⟩
        show Window.IsHighest _ (pktIndex st.roc st.lastSeq)
        rw [hst1, hst2]
        refine isHighest_insert_below hhigh ?_
        unfold pktIndex
        omega

/-! ## Reachable states -/

structure RecvState (acc : Nat → Finset Nat) (ctx : SrtpCtx) : Prop where
  initialized : ctx.initialized = true
  distinct : ctx.rtpReplay.Distinct
  streams : ∀ ssrc, StreamTracks (acc ssrc) (srtpFindSsrc ctx.rtpReplay ssrc)

theorem RecvState.put (h : RecvState acc ctx)
    {e : StreamEntry} (he : e.hits ssrc = true)
    (hA : StreamTracks A (some e)) (acc' : Nat → Finset Nat) (hself : acc' ssrc = A)
    (hother : ∀ other, other ≠ ssrc → acc' other
      = if (srtpFindSsrc ((srtpEntryForSsrc ctx.rtpReplay ctx.replayLruTick ssrc).put e)
          other).isNone then ∅ else acc other) (tick : Nat) :
    RecvState acc' (ctx.withRtpReplay
      ((srtpEntryForSsrc ctx.rtpReplay ctx.replayLruTick ssrc).put e) tick) where
  initialized := h.initialized
  distinct := h.distinct.put _ he
  streams other := by
    show StreamTracks (acc' other) (srtpFindSsrc
      ((srtpEntryForSsrc ctx.rtpReplay ctx.replayLruTick ssrc).put e) other)
    by_cases hs : other = ssrc
    · rw [hs, find_put_self _ _ he, hself]
      exact hA
    · rw [hother other hs]
      rcases find_put_other_or_none h.distinct ctx.replayLruTick he hs with hf | hf
      · rw [hf]
        have hst := h.streams other
        cases hfound : srtpFindSsrc ctx.rtpReplay other with
        | none => exact rfl
        | some e' =>
          rw [hfound] at hst
          exact hst
      · rw [hf]
        exact rfl

theorem StreamTracks.roc_lt (h : StreamTracks A found) : ∀ e, found = some e → e.roc < 2 ^ 32 := by
  rintro e rfl
  exact h.2.2.2.1

theorem RecvState.same {acc acc' : Nat → Finset Nat} {ctx ctx' : SrtpCtx} (h : RecvState acc ctx)
    (hinit : ctx'.initialized = ctx.initialized) (htab : ctx'.rtpReplay = ctx.rtpReplay)
    (hacc : ∀ ssrc, acc' ssrc = if (srtpFindSsrc ctx.rtpReplay ssrc).isNone then ∅ else acc ssrc) :
    RecvState acc' ctx' where
  initialized := hinit.trans h.initialized
  distinct := htab ▸ h.distinct
  streams ssrc := by
    have hst := h.streams ssrc
    rw [htab, hacc]
    cases hfound : srtpFindSsrc ctx.rtpReplay ssrc with
    | none => exact rfl
    | some e =>
      rw [hfound] at hst
      exact hst

/-- **One receiving call** keeps the streams right. -/
theorem RecvState.step (hcr : cr.Lawful) {trueIndex : Bytes → Nat} {c : RecvCall}
    (h : RecvState acc ctx) (hev : c.faultFree) (hmac : c.MacSound cr ctx.keys trueIndex) :
    RecvState (liveStep trueIndex c (c.run cr ctx) acc) (c.run cr ctx).2 ∧
      (c.run cr ctx).2.keys = ctx.keys := by
  cases c with
  | rtcp ev buf =>
    have hframe : (RecvCall.run cr ctx (.rtcp ev buf)).2.initialized = ctx.initialized ∧
        (RecvCall.run cr ctx (.rtcp ev buf)).2.rtpReplay = ctx.rtpReplay ∧
        (RecvCall.run cr ctx (.rtcp ev buf)).2.keys = ctx.keys := by
      rcases rtcSrtpUnprotectRtcp_cases cr ev ctx buf with
        ⟨e, hrun⟩ | ⟨-, ⟨e, -, hrun⟩ | ⟨r, res, -, -, hrun⟩⟩ <;>
      · rw [RecvCall.run, hrun]
        exact ⟨rfl, rfl, rfl⟩
    refine ⟨h.same hframe.1 hframe.2.1 fun ssrc => ?_, hframe.2.2⟩
    rw [liveStep, hframe.2.1]
  | rtp ev buf =>
    obtain rfl : ev = {} := hev
    have hst := h.streams (rtpSsrc buf)
    have hest : estimatedRoc ctx buf < 2 ^ 32 := srtpEstimateRoc_lt hst.roc_lt _
    rcases rtcSrtpUnprotect_cases cr {} ctx buf with ⟨e, hrun⟩ | ⟨hv, -⟩
    · rw [RecvCall.run, hrun]
      refine ⟨h.same rfl rfl fun ssrc => ?_, rfl⟩
      simp [liveStep, Except.isOk, Except.toBool]
    · obtain ⟨⟨p, hp⟩, hidx⟩ := hmac _ hest hv
      obtain ⟨herr, hok⟩ := rtcSrtpUnprotect_sealed hcr h.initialized hp
      have hentry := srtpEntryForSsrc_entry ctx.rtpReplay ctx.replayLruTick (rtpSsrc buf)
      have hhits := srtpEntryForSsrc_hits ctx.rtpReplay ctx.replayLruTick (rtpSsrc buf)
      cases hr : srtpReplayCheck (recvSlot ctx buf).entry.replay (recvIndex ctx buf) with
      | error e =>
        rw [RecvCall.run, herr e hr, recvSlot, ← srtpEntryForSsrc_put_entry]
        -- a new entry has an empty window, which accepts any index
        have hold : StreamTracks (acc (rtpSsrc buf))
            (some (srtpEntryForSsrc ctx.rtpReplay ctx.replayLruTick (rtpSsrc buf)).entry) := by
          rw [recvSlot, hentry] at hr
          rw [hentry]
          cases hfound : srtpFindSsrc ctx.rtpReplay (rtpSsrc buf) with
          | none =>
            rw [hfound] at hr
            obtain ⟨r', hr'⟩ := (srtpReplayCheck_spec Replay.tracks_empty
              (recvIndex ctx buf)).1.mp (fresh_empty _ _)
            exact absurd (hr.symm.trans hr') (by simp)
          | some e =>
            rw [hfound] at hst
            exact hst
        refine ⟨h.put hhits hold _ ?_ (fun other ho => ?_) _, rfl⟩
        · simp [liveStep, SrtpCtx.withRtpReplay, find_put_self _ _ hhits, Except.isOk,
            Except.toBool]
        · simp [liveStep, SrtpCtx.withRtpReplay, Except.isOk, Except.toBool]
      | ok r =>
        have hnew := hst.accept (rtpSeq_lt buf) hentry hr
        rw [RecvCall.run, hok r hr]
        have hhits' : ({ (srtpEntryForSsrc ctx.rtpReplay ctx.replayLruTick
            (rtpSsrc buf)).entry with replay := r }.rollForward (estimatedRoc ctx buf)
            (rtpSeq buf)).hits (rtpSsrc buf) = true := by
          rw [rollForward_hits]
          exact hhits
        refine ⟨h.put hhits' hnew _ ?_ (fun other ho => ?_) _, rfl⟩
        · simp only [liveStep, SrtpCtx.withRtpReplay, recvSlot, find_put_self _ _ hhits',
            Option.isNone_some, Except.isOk, Except.toBool, hidx]
          rfl
        · simp [liveStep, SrtpCtx.withRtpReplay, recvSlot, Ne.symm ho]

theorem RecvState.run (hcr : cr.Lawful) {trueIndex : Bytes → Nat} {k : SrtpKeys}
    (calls : List RecvCall) (h : RecvState acc ctx) (hk : ctx.keys = k)
    (hev : ∀ c ∈ calls, c.faultFree) (hmac : ∀ c ∈ calls, c.MacSound cr k trueIndex) :
    RecvState (liveRun cr trueIndex ctx acc calls).2 (liveRun cr trueIndex ctx acc calls).1 ∧
      (liveRun cr trueIndex ctx acc calls).1.keys = k := by
  induction calls generalizing acc ctx with
  | nil => exact ⟨h, hk⟩
  | cons c cs ih =>
    subst hk
    obtain ⟨hnext, hkeys⟩ :=
      h.step hcr (hev c mem_cons_self) (hmac c mem_cons_self)
    exact ih hnext hkeys (fun d hd => hev d (mem_cons_of_mem _ hd))
      (fun d hd => hmac d (mem_cons_of_mem _ hd))

theorem RecvState.fresh {profile : SrtpProfile} {key salt : Bytes}
    (hctx : rtcSrtpInitProfile cr none profile key salt = .ok ctx) :
    RecvState (fun _ => ∅) ctx := by
  obtain rfl := Except.ok.inj hctx
  refine ⟨rfl, StreamTable.empty_distinct, fun ssrc => ?_⟩
  show StreamTracks ∅ (srtpFindSsrc StreamTable.empty ssrc)
  rw [srtpFindSsrc_empty]
  exact rfl

/-! ## The guess -/

theorem StreamTracks.estimate (hst : StreamTracks A found) {h i : Nat} (hh : Window.IsHighest A h)
    (hi : i < 2 ^ 48) (hlo : h < i + srtpReplayWindowSize) (hhi : i < h + 2 ^ 15) :
    srtpEstimateRoc found (i % 2 ^ 16) = max (i / 2 ^ 16) (h / 2 ^ 16) := by
  cases found with
  | none =>
    obtain rfl : A = ∅ := hst
    exact absurd hh.1 (by simp)
  | some e =>
    obtain ⟨-, hinit, hhigh, hroc, hlast⟩ := hst
    have heq := hhigh.unique hh
    have h1 : e.roc = h / 2 ^ 16 := by rw [← heq, pktIndex_div hlast]
    have h2 : e.lastSeq = h % 2 ^ 16 := by rw [← heq, pktIndex_mod hlast]
    unfold srtpEstimateRoc
    simp only [hinit, Bool.true_and, h1, h2]
    unfold srtpReplayWindowSize at hlo
    have h16 : 2 * 2 ^ 15 = 2 ^ 16 := by norm_num
    by_cases hle : h ≤ i
    · have hguess := div_of_ahead (H := 2 ^ 15) (n := h) (g := i - h) (by omega)
      rw [h16, show h + (i - h) = i by omega] at hguess
      have hmax : max (i / 2 ^ 16) (h / 2 ^ 16) = i / 2 ^ 16 :=
        max_eq_left (Nat.div_le_div_right hle)
      unfold guess at hguess
      by_cases hw : rolledOver (2 ^ 15) (h % 2 ^ 16) (i % 2 ^ 16) = true
      · grind [seqHalf, Nat.mod_eq_of_lt]
      · rw [if_neg hw] at hguess
        rw [seqHalf, if_neg hw, hmax, hguess]
    · have hmax : max (i / 2 ^ 16) (h / 2 ^ 16) = h / 2 ^ 16 :=
        max_eq_right (Nat.div_le_div_right (by omega))
      have hno : rolledOver (2 ^ 15) (h % 2 ^ 16) (i % 2 ^ 16) = false := by
        have hback : h - (h - i) = i := by omega
        rcases Nat.lt_or_ge (i / 2 ^ 16) (h / 2 ^ 16) with hlt | hge
        · have := not_rolledOver_of_earlier_block (H := 2 ^ 15) (n := h) (d := h - i)
            (by omega) (by omega) (by rw [h16, hback]; exact hlt)
          rwa [h16, hback] at this
        · have := not_rolledOver_of_same_block (H := 2 ^ 15) (n := h) (d := h - i)
            (by omega) (by omega) (by rw [h16, hback]; omega)
          rwa [h16, hback] at this
      rw [seqHalf, hno, hmax]
      rfl

/-- **Reordered packets.** -/
theorem unprotect_reordered (cr : Crypto) (hcr : cr.Lawful) (profile : SrtpProfile)
    (key salt : Bytes) (ctx : SrtpCtx)
    (hctx : rtcSrtpInitProfile cr none profile key salt = .ok ctx) (trueIndex : Bytes → Nat)
    (calls : List RecvCall) (hev : ∀ c ∈ calls, c.faultFree)
    (hmac : ∀ c ∈ calls, c.MacSound cr ctx.keys trueIndex) (p buf : Bytes)
    (hbuf : MacSound cr ctx.keys trueIndex buf) (hi : trueIndex buf < 2 ^ 48)
    (hsent : SealedAs cr ctx.keys (trueIndex buf / 2 ^ 16) p buf) (h : Nat)
    (hh : Window.IsHighest
      ((liveRun cr trueIndex ctx (fun _ => ∅) calls).2 (rtpSsrc buf)) h)
    (hnew : trueIndex buf ∉ (liveRun cr trueIndex ctx (fun _ => ∅) calls).2 (rtpSsrc buf))
    (hlo : h < trueIndex buf + srtpReplayWindowSize) (hhi : trueIndex buf < h + 2 ^ 15) :
    (h / 2 ^ 16 ≤ trueIndex buf / 2 ^ 16 →
      estimatedRoc (liveRun cr trueIndex ctx (fun _ => ∅) calls).1 buf = trueIndex buf / 2 ^ 16 ∧
      (rtcSrtpUnprotect cr {} (liveRun cr trueIndex ctx (fun _ => ∅) calls).1 buf).1 = .ok p) ∧
    (trueIndex buf / 2 ^ 16 < h / 2 ^ 16 →
      estimatedRoc (liveRun cr trueIndex ctx (fun _ => ∅) calls).1 buf = h / 2 ^ 16 ∧
      (rtcSrtpUnprotect cr {} (liveRun cr trueIndex ctx (fun _ => ∅) calls).1 buf).1.isOk
        = false) := by
  obtain ⟨hstate, hkeys⟩ := (RecvState.fresh hctx).run hcr calls rfl hev hmac
  set ctx' := (liveRun cr trueIndex ctx (fun _ => ∅) calls).1 with hctx'
  set acc := (liveRun cr trueIndex ctx (fun _ => ∅) calls).2 with hacc
  rw [← hkeys] at hbuf hsent
  have hst := hstate.streams (rtpSsrc buf)
  have hidx := (hbuf _ (by omega) (hsent.verifies hcr)).2
  have hseq : rtpSeq buf = trueIndex buf % 2 ^ 16 := by
    rw [hidx, pktIndex_mod (rtpSeq_lt buf)]
  have hest : estimatedRoc ctx' buf = max (trueIndex buf / 2 ^ 16) (h / 2 ^ 16) := by
    rw [estimatedRoc, hseq]
    exact hst.estimate hh hi hlo hhi
  constructor
  · intro hle
    rw [max_eq_left hle] at hest
    refine ⟨hest, ?_⟩
    rw [← hest] at hsent
    obtain ⟨-, hok⟩ := rtcSrtpUnprotect_sealed hcr hstate.initialized hsent
    have hrecv : recvIndex ctx' buf = trueIndex buf := by rw [recvIndex, hest, ← hidx]
    have htracks : (recvSlot ctx' buf).entry.replay.Tracks (acc (rtpSsrc buf)) := by
      rw [recvSlot, replayOf_slot, replayOf]
      cases hfound : srtpFindSsrc ctx'.rtpReplay (rtpSsrc buf) with
      | none =>
        rw [hfound] at hst
        rw [show acc (rtpSsrc buf) = ∅ from hst]
        exact Replay.tracks_empty
      | some e =>
        rw [hfound] at hst
        exact hst.1
    obtain ⟨r, hr⟩ := (srtpReplayCheck_spec htracks (recvIndex ctx' buf)).1.mp
      ((fresh_iff hh).mpr ⟨by rw [hrecv]; exact hnew, by rw [hrecv]; exact hlo⟩)
    rw [hok r hr]
  · intro hlt
    rw [max_eq_right hlt.le] at hest
    refine ⟨hest, ?_⟩
    rcases rtcSrtpUnprotect_cases cr {} ctx' buf with ⟨e, hrun⟩ | ⟨hv, -⟩
    · rw [hrun]
      rfl
    · have hroc : h / 2 ^ 16 < 2 ^ 32 := by rw [← hest]; exact srtpEstimateRoc_lt hst.roc_lt _
      rw [rtpVerifies, hest] at hv
      have := (hbuf _ hroc hv).2
      rw [this, pktIndex_div (rtpSeq_lt buf)] at hlt
      exact absurd hlt (lt_irrefl _)

/-! ## A stream around its first wrap -/

theorem toySealed_sealedAs (h : ssrc < 2 ^ 32) (roc n : Nat) :
    SealedAs toyCrypto toyCtx.keys roc (barePacket ssrc n) (toySealed ssrc roc n) := by
  refine ⟨12, srtpRtpHeaderLen_barePacket ssrc n, ?_⟩
  rw [rtpSsrc_barePacket h, rtpSeq_barePacket]
  rfl

theorem toySealed_macSound (h : ssrc < 2 ^ 32) (hroc : roc < 2 ^ 32) (n : Nat) :
    MacSound toyCrypto toyCtx.keys toyIndex (toySealed ssrc roc n) := by
  intro roc' hroc' hv
  have hsent := toySealed_sealedAs h roc n
  have h1 := toyIndex_genuine {} _ roc' hroc' hv
  have h2 := toyIndex_genuine {} _ roc hroc (hsent.verifies toyCrypto_lawful)
  have heq : roc' = roc := by grind [pktIndex_div, rtpSeq_lt]
  subst heq
  exact ⟨⟨_, hsent⟩, h1⟩

def wrapRun : List RecvCall := [.rtp {} (toySealed 1 0 65533), .rtp {} (toySealed 1 1 5)]

theorem wrapRun_faultFree : ∀ c ∈ wrapRun, c.faultFree := by
  intro c hc
  simp only [wrapRun, mem_cons, not_mem_nil, or_false] at hc
  rcases hc with rfl | rfl <;> rfl

theorem wrapRun_macSound : ∀ c ∈ wrapRun, c.MacSound toyCrypto toyCtx.keys toyIndex := by
  intro c hc
  simp only [wrapRun, mem_cons, not_mem_nil, or_false] at hc
  rcases hc with rfl | rfl <;> exact toySealed_macSound (by norm_num) (by norm_num) _

theorem wrapRun_live : (liveRun toyCrypto toyIndex toyCtx (fun _ => ∅) wrapRun).2 1
    = {65533, 2 ^ 16 + 5} := by
  decide +kernel

/-- A late packet of the cycle after the wrap is accepted. -/
theorem late_after_wrap_accepted :
    (rtcSrtpUnprotect toyCrypto {} (liveRun toyCrypto toyIndex toyCtx (fun _ => ∅) wrapRun).1
      (toySealed 1 1 3)).1 = .ok (barePacket 1 3) := by
  have hidx : toyIndex (toySealed 1 1 3) = 2 ^ 16 + 3 := by decide +kernel
  have hssrc : rtpSsrc (toySealed 1 1 3) = 1 := by decide +kernel
  have hlive := wrapRun_live
  rw [← hssrc] at hlive
  refine ((unprotect_reordered toyCrypto toyCrypto_lawful .aes128CmSha1_80 _ _ toyCtx rfl toyIndex
    wrapRun wrapRun_faultFree wrapRun_macSound (barePacket 1 3) (toySealed 1 1 3)
    (toySealed_macSound (by norm_num) (by norm_num) 3) ?_ ?_ (2 ^ 16 + 5) ?_ ?_ ?_ ?_).1 ?_).2
  · rw [hidx]; norm_num
  · rw [hidx]; exact toySealed_sealedAs (by norm_num) 1 3
  · rw [hlive]; simp [Window.IsHighest]
  · rw [hlive, hidx]; simp
  · rw [hidx]; decide
  · rw [hidx]; norm_num
  · rw [hidx]; norm_num

/-- **A late packet from before the wrap is rejected**, although it is authentic, new and only
six behind the highest accepted index. -/
theorem late_before_wrap_rejected :
    rtcSrtpInitProfile toyCrypto none .aes128CmSha1_80 (replicate 16 0)
      (replicate 14 0) = .ok toyCtx ∧
    (∀ c ∈ wrapRun, c.faultFree ∧ c.MacSound toyCrypto toyCtx.keys toyIndex) ∧
    MacSound toyCrypto toyCtx.keys toyIndex (toySealed 1 0 65535) ∧
    SealedAs toyCrypto toyCtx.keys (65535 / 2 ^ 16) (barePacket 1 65535) (toySealed 1 0 65535) ∧
    rtpSsrc (toySealed 1 0 65535) = 1 ∧ toyIndex (toySealed 1 0 65535) = 65535 ∧
    Window.IsHighest ((liveRun toyCrypto toyIndex toyCtx (fun _ => ∅) wrapRun).2 1)
      (2 ^ 16 + 5) ∧
    65535 ∉ (liveRun toyCrypto toyIndex toyCtx (fun _ => ∅) wrapRun).2 1 ∧
    2 ^ 16 + 5 < 65535 + srtpReplayWindowSize ∧ 65535 < 2 ^ 16 + 5 + 2 ^ 15 ∧
    (rtcSrtpUnprotect toyCrypto {} (liveRun toyCrypto toyIndex toyCtx (fun _ => ∅) wrapRun).1
      (toySealed 1 0 65535)).1 = .error .srtp := by
  refine ⟨rfl, fun c hc => ⟨wrapRun_faultFree c hc, wrapRun_macSound c hc⟩,
    toySealed_macSound (by norm_num) (by norm_num) _, toySealed_sealedAs (by norm_num) 0 65535,
    by decide +kernel, by decide +kernel, ?_, ?_, by decide, by norm_num, by decide +kernel⟩
  · rw [wrapRun_live]
    simp [Window.IsHighest]
  · rw [wrapRun_live]
    simp

end Mrtc
