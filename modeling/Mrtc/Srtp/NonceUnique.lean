import Mrtc.Srtp.Send

/-! # No nonce is used twice

The main result, `protectRun_nonces_nodup`, is about whole runs over any number of
interleaved SSRCs: as long as no call evicts a stream and no stream has a long series of
refused packets, no two successful calls encrypt under the same SSRC, rollover counter and
sequence number.
-/

namespace Mrtc

open Net List StreamTable

/-! ## Conditions on a run -/

def streamOf (ssrc : Nat) (calls : List ProtectCall) : List ProtectCall :=
  calls.filter (·.onSsrc ssrc)

/-- Each stream numbers its packets one after the other. -/
def ConsecutiveSeqs (calls : List ProtectCall) : Prop :=
  ∀ ssrc, ∃ s0, ∀ (k : Nat) c, (streamOf ssrc calls)[k]? = some c →
    rtpSeq c.buf = (s0 + k) % 2 ^ 16

/-- Not 2^15 packets of a stream in a row are refused for their room. -/
def FewRefusals (k : SrtpKeys) (calls : List ProtectCall) : Prop :=
  ∀ ssrc i, i + (2 ^ 15 - 1) ≤ (streamOf ssrc calls).length →
    ∃ j c, i ≤ j ∧ j < i + (2 ^ 15 - 1) ∧ (streamOf ssrc calls)[j]? = some c ∧
      c.hasRoom k = true

def NoEviction (cr : Crypto) : SrtpCtx → List ProtectCall → Prop
  | _, [] => True
  | ctx, c :: cs =>
    (c.reaches ctx = true → ctx.rtpSend.Admits (rtpSsrc c.buf)) ∧
      NoEviction cr (c.run cr ctx).2 cs

instance NoEviction.decide (cr : Crypto) :
    ∀ (ctx : SrtpCtx) (calls : List ProtectCall), Decidable (NoEviction cr ctx calls)
  | _, [] => isTrue trivial
  | ctx, c :: cs => @instDecidableAnd _ _ inferInstance (NoEviction.decide cr (c.run cr ctx).2 cs)

variable {ctx : SrtpCtx} {cr : Crypto} {k : SrtpKeys} {s0 ssrc : Nat} {F : List ProtectCall}
  {used : List Nonce} {m : Nat}

theorem NoEviction.append {a b : List ProtectCall} (h : NoEviction cr ctx (a ++ b)) :
    NoEviction cr ctx a ∧ NoEviction cr (protectRun cr ctx a).2 b := by
  induction a generalizing ctx with
  | nil => exact ⟨trivial, h⟩
  | cons c cs ih =>
    obtain ⟨h1, h2⟩ := h
    obtain ⟨h3, h4⟩ := ih h2
    exact ⟨⟨h1, h3⟩, h4⟩

theorem FewRefusals.left {a b : List ProtectCall} (h : FewRefusals k (a ++ b)) :
    FewRefusals k a := by
  intro ssrc i hi
  have hsplit : streamOf ssrc (a ++ b) = streamOf ssrc a ++ streamOf ssrc b :=
    filter_append ..
  obtain ⟨j, c, h1, h2, h3, h4⟩ := h ssrc i (by rw [hsplit, length_append]; omega)
  refine ⟨j, c, h1, h2, ?_, h4⟩
  rwa [hsplit, getElem?_append_left (by omega)] at h3

theorem fewRefusals_of_hasRoom {calls : List ProtectCall} (h : ∀ c ∈ calls, c.hasRoom k = true) :
    FewRefusals k calls := by
  intro ssrc i hi
  have hlt : i < (streamOf ssrc calls).length := by omega
  refine ⟨i, (streamOf ssrc calls)[i], le_rfl, by omega, getElem?_eq_getElem hlt, ?_⟩
  exact h _ (mem_of_mem_filter (getElem_mem hlt))

/-! ## The rollover counter follows the packet count

For one SSRC let `s0` be its first sequence number, so that its `j`-th packet has the true
index `s0 + j`. The counter of the code starts at zero with the first packet that has room,
so it counts the wraps since then: `q0` is the number of wraps it has missed. -/

def nonceAt (s0 q0 ssrc j : Nat) : Nonce :=
  ⟨ssrc, ((s0 + j) / 2 ^ 16 - q0) % 2 ^ 32, (s0 + j) % 2 ^ 16⟩

theorem nonceAt_ne {s0 q0 ssrc j j' : Nat} (hlt : j < j') (hbound : j' < j + 2 ^ 48)
    (hq : q0 ≤ (s0 + j) / 2 ^ 16) : nonceAt s0 q0 ssrc j ≠ nonceAt s0 q0 ssrc j' := by
  intro h
  simp only [nonceAt, Nonce.mk.injEq] at h
  obtain ⟨-, h1, h2⟩ := h
  omega

/-- The entry of an SSRC after the packets `F`, with the nonces `used` so far: `p` is the
position of the last packet that had room. -/
def SendTracks (k : SrtpKeys) (s0 ssrc : Nat) (F : List ProtectCall) (used : List Nonce) :
    Option StreamEntry → Prop
  | none => ∀ n ∈ used, n.ssrc ≠ ssrc
  | some e => ∃ q0 p, q0 ≤ (s0 + p) / 2 ^ 16 ∧ p < F.length ∧
      (∀ j c, p < j → F[j]? = some c → c.hasRoom k = false) ∧
      e.rocInit = true ∧ e.lastSeq = (s0 + p) % 2 ^ 16 ∧
      e.roc = ((s0 + p) / 2 ^ 16 - q0) % 2 ^ 32 ∧
      ∀ n ∈ used, n.ssrc = ssrc → ∃ j, j ≤ p ∧ q0 ≤ (s0 + j) / 2 ^ 16 ∧ n = nonceAt s0 q0 ssrc j

theorem SendTracks.skip {G : List ProtectCall} {more : List Nonce} {e : Option StreamEntry}
    (h : SendTracks k s0 ssrc F used e) (hG : ∀ c ∈ G, c.hasRoom k = false)
    (hmore : ∀ n ∈ more, n.ssrc ≠ ssrc) : SendTracks k s0 ssrc (F ++ G) (used ++ more) e := by
  cases e with
  | none =>
    intro n hn
    rcases mem_append.mp hn with hn | hn
    · exact h n hn
    · exact hmore n hn
  | some e =>
    obtain ⟨q0, p, hq, hp, hroom, hi, hl, hr, hn⟩ := h
    refine ⟨q0, p, hq, by rw [length_append]; omega, ?_, hi, hl, hr, ?_⟩
    · grind
    · grind

theorem SendTracks.advance
    {found : Option StreamEntry} {c : ProtectCall} {tick : Nat}
    (h : SendTracks k s0 ssrc F used found)
    (hseq : rtpSeq c.buf = (s0 + F.length) % 2 ^ 16)
    (hgap : ∀ i, i + (2 ^ 15 - 1) ≤ F.length →
      ∃ j d, i ≤ j ∧ j < i + (2 ^ 15 - 1) ∧ F[j]? = some d ∧ d.hasRoom k = true)
    (hcount : F.length + 1 < 2 ^ 48) (st : StreamEntry)
    (hst : st = ({ found.getD { ssrc := ssrc, inUse := true } with lruTick := tick }
      : StreamEntry).advance (rtpSeq c.buf)) :
    (⟨ssrc, st.roc, rtpSeq c.buf⟩ : Nonce) ∉ used ∧
      SendTracks k s0 ssrc (F ++ [c]) (used ++ [⟨ssrc, st.roc, rtpSeq c.buf⟩]) (some st) := by
  have hlast : ∀ j d, F.length < j → (F ++ [c])[j]? = some d → d.hasRoom k = false := by
    intro j d hj hd
    rw [getElem?_eq_none (by simp; omega)] at hd
    cases hd
  cases found with
  | none =>
    have hroc : st.roc = 0 := by rw [hst]; rfl
    have hls : st.lastSeq = rtpSeq c.buf := by rw [hst]; rfl
    have hin : st.rocInit = true := by rw [hst]; rfl
    refine ⟨fun hm => h _ hm rfl, (s0 + F.length) / 2 ^ 16, F.length, le_rfl, by simp, hlast,
      hin, by rw [hls, hseq], by rw [hroc, Nat.sub_self, Nat.zero_mod], ?_⟩
    intro n hn hs
    rcases mem_append.mp hn with hn | hn
    · exact absurd hs (h n hn)
    · obtain rfl := mem_singleton.mp hn
      refine ⟨F.length, le_rfl, le_rfl, ?_⟩
      rw [hroc, nonceAt, hseq, Nat.sub_self, Nat.zero_mod]
  | some e =>
    obtain ⟨q0, p, hq, hp, hroom, hi, hl, hr, hn⟩ := h
    -- the packets after position `p` were refused, so there are fewer than `2 ^ 15 - 1`
    have hfew : F.length - p < 2 ^ 15 := by
      by_contra hcon
      obtain ⟨j, d, h1, -, h3, h4⟩ := hgap (p + 1) (by omega)
      rw [hroom j d (by omega) h3] at h4
      cases h4
    have hguess := Rollover.div_of_ahead (H := 2 ^ 15) (n := s0 + p) hfew
    rw [show 2 * 2 ^ 15 = 2 ^ 16 by norm_num, show s0 + p + (F.length - p) = s0 + F.length by omega,
      ← hseq, ← hl] at hguess
    have hroc : st.roc = ((s0 + F.length) / 2 ^ 16 - q0) % 2 ^ 32 ∧
        st.lastSeq = rtpSeq c.buf ∧ st.rocInit = true := by
      rw [hst, ← hguess]
      unfold StreamEntry.advance Rollover.guess
      simp only [Option.getD_some, hi, Bool.not_true, Bool.false_eq_true, if_false]
      by_cases hw : Rollover.rolledOver seqHalf e.lastSeq (rtpSeq c.buf) = true
      · have hw' : Rollover.rolledOver (2 ^ 15) e.lastSeq (rtpSeq c.buf) = true := hw
        rw [if_pos hw, if_pos hw']
        refine ⟨?_, rfl, rfl⟩
        simp only [hr]
        omega
      · have hw' : ¬ Rollover.rolledOver (2 ^ 15) e.lastSeq (rtpSeq c.buf) = true := hw
        rw [if_neg hw, if_neg hw']
        exact ⟨hr, rfl, rfl⟩
    obtain ⟨hroc, hls, hin⟩ := hroc
    have hq' : q0 ≤ (s0 + F.length) / 2 ^ 16 :=
      le_trans hq (Nat.div_le_div_right (by omega))
    have hnonce : (⟨ssrc, st.roc, rtpSeq c.buf⟩ : Nonce) = nonceAt s0 q0 ssrc F.length := by
      rw [nonceAt, hroc, hseq]
    refine ⟨fun hm => ?_, q0, F.length, hq', by simp, hlast, hin, by rw [hls, hseq], hroc, ?_⟩
    · grind [nonceAt_ne]
    · grind

theorem SendTracks.mono {used' : List Nonce} {e : Option StreamEntry}
    (h : SendTracks k s0 ssrc F used e) (hsub : used' ⊆ used) : SendTracks k s0 ssrc F used' e := by
  cases e with
  | none => exact fun n hn => h n (hsub hn)
  | some e =>
    obtain ⟨q0, p, hq, hp, hroom, hi, hl, hr, hn⟩ := h
    exact ⟨q0, p, hq, hp, hroom, hi, hl, hr, fun n hmem => hn n (hsub hmem)⟩

/-! ## Whole runs -/

/-- What a run over `calls` from a fresh context has reached: every SSRC's entry is right and
the nonces so far are distinct. -/
structure SendInvariant (k : SrtpKeys) (s0 : Nat → Nat) (calls : List ProtectCall)
    (used : List Nonce) (ctx : SrtpCtx) : Prop where
  keys : ctx.keys = k
  initialized : ctx.initialized = true
  tracks : ∀ ssrc, SendTracks k (s0 ssrc) ssrc (streamOf ssrc calls) used
    (srtpFindSsrc ctx.rtpSend ssrc)
  nodup : used.Nodup

theorem streamOf_snoc (ssrc : Nat) (calls : List ProtectCall) (c : ProtectCall) :
    streamOf ssrc (calls ++ [c])
      = streamOf ssrc calls ++ if c.onSsrc ssrc then [c] else [] := by
  rw [streamOf, filter_append, filter_singleton, cond_eq_ite]
  rfl

/-- **One more call keeps the invariant.** -/
theorem SendInvariant.step {s0 : Nat → Nat}
    {calls : List ProtectCall} {c : ProtectCall}
    (h : SendInvariant k s0 calls used ctx)
    (hadm : c.reaches ctx = true → ctx.rtpSend.Admits (rtpSsrc c.buf))
    (hseq : c.onSsrc (rtpSsrc c.buf) = true →
      rtpSeq c.buf = (s0 (rtpSsrc c.buf) + (streamOf (rtpSsrc c.buf) calls).length) % 2 ^ 16 ∧
        (streamOf (rtpSsrc c.buf) calls).length + 1 < 2 ^ 48)
    (hfew : FewRefusals k calls) :
    SendInvariant k s0 (calls ++ [c])
      (used ++ if (c.run cr ctx).1.isOk then [sendNonce ctx c.buf] else []) (c.run cr ctx).2 := by
  obtain ⟨hkeys, hinit⟩ := c.run_frame cr ctx
  rcases rtcSrtpProtect_cases cr ctx c with ⟨hno, e, hrun⟩ | ⟨hyes, hrun⟩
  · rw [hrun]
    simp only [Except.isOk, Except.toBool, Bool.false_eq_true, if_false]
    refine ⟨h.keys, h.initialized, fun ssrc => ?_, by simpa using h.nodup⟩
    rw [streamOf_snoc]
    refine (h.tracks ssrc).skip ?_ (by simp)
    intro d hd
    split_ifs at hd with hon
    · obtain rfl := mem_singleton.mp hd
      simp only [ProtectCall.onSsrc, Bool.and_eq_true] at hon
      simpa [ProtectCall.reaches, h.initialized, h.keys, hon.1] using hno
    · cases hd
  · have hlen : decide (12 ≤ c.buf.length) = true := by
      simp only [ProtectCall.reaches, Bool.and_eq_true] at hyes
      exact hyes.1.2
    have hon : ∀ ssrc, c.onSsrc ssrc = true ↔ ssrc = rtpSsrc c.buf := by
      intro ssrc
      simp only [ProtectCall.onSsrc, hlen, Bool.true_and, beq_iff_eq]
      exact eq_comm
    set slot := srtpEntryForSsrc ctx.rtpSend ctx.sendLruTick (rtpSsrc c.buf) with hslot
    set st := slot.entry.advance (rtpSeq c.buf) with hst
    have hhits : st.hits (rtpSsrc c.buf) = true := by
      have := srtpEntryForSsrc_hits ctx.rtpSend ctx.sendLruTick (rtpSsrc c.buf)
      rw [hst, StreamEntry.advance]
      split_ifs <;> exact this
    have htab : (c.run cr ctx).2.rtpSend = slot.put st := by rw [hrun]; rfl
    have hnonce : sendNonce ctx c.buf = ⟨rtpSsrc c.buf, st.roc, rtpSeq c.buf⟩ := rfl
    obtain ⟨hseq, hcount⟩ := hseq ((hon _).mpr rfl)
    obtain ⟨hfresh, hself⟩ := (h.tracks (rtpSsrc c.buf)).advance hseq
      (hfew (rtpSsrc c.buf)) hcount st (by rw [hst, srtpEntryForSsrc_entry])
    rw [← hnonce] at hfresh hself
    set more := (if (c.run cr ctx).1.isOk then [sendNonce ctx c.buf] else []) with hmore
    have hsub : more ⊆ [sendNonce ctx c.buf] := by
      rw [hmore]
      split_ifs <;> simp
    refine ⟨hkeys.trans h.keys, hinit.trans h.initialized, fun ssrc => ?_, ?_⟩
    · rw [streamOf_snoc, htab]
      by_cases hs : ssrc = rtpSsrc c.buf
      · rw [if_pos ((hon ssrc).mpr hs), hs, find_put_self _ _ hhits]
        exact hself.mono (append_subset.mpr
          ⟨subset_append_left _ _, List.Subset.trans hsub (subset_append_right _ _)⟩)
      · rw [if_neg (fun hc => hs ((hon ssrc).mp hc)), find_put_other _ _ (hadm hyes) hhits hs]
        refine (h.tracks ssrc).skip (by simp) ?_
        intro n hn
        rw [mem_singleton.mp (hsub hn), hnonce]
        exact Ne.symm hs
    · refine nodup_append.mpr ⟨h.nodup, by rw [hmore]; split_ifs <;> simp, ?_⟩
      rintro a ha b hb rfl
      rw [mem_singleton.mp (hsub hb)] at ha
      exact hfresh ha

theorem SendInvariant.run {s0 : Nat → Nat}
    (hinit : ctx.initialized = true) (hnew : ctx.rtpSend = empty)
    (calls : List ProtectCall)
    (hseq : ∀ ssrc (k : Nat) c, (streamOf ssrc calls)[k]? = some c →
      rtpSeq c.buf = (s0 ssrc + k) % 2 ^ 16)
    (hcount : ∀ ssrc, (streamOf ssrc calls).length < 2 ^ 48)
    (hfew : FewRefusals ctx.keys calls) (hev : NoEviction cr ctx calls) :
    SendInvariant ctx.keys s0 calls (protectRun cr ctx calls).1 (protectRun cr ctx calls).2 := by
  induction calls using List.reverseRecOn with
  | nil =>
    refine ⟨rfl, hinit, fun ssrc => ?_, nodup_nil⟩
    rw [protectRun, hnew, srtpFindSsrc_empty]
    intro n hn
    cases hn
  | append_singleton calls c ih =>
    have hsplit : ∀ ssrc, ∃ t, streamOf ssrc (calls ++ [c]) = streamOf ssrc calls ++ t :=
      fun ssrc => ⟨_, streamOf_snoc ssrc calls c⟩
    obtain ⟨hev1, hev2⟩ := hev.append
    have hbefore : SendInvariant ctx.keys s0 calls (protectRun cr ctx calls).1
        (protectRun cr ctx calls).2 := by
      refine ih (fun ssrc k d hd => hseq ssrc k d ?_) (fun ssrc => ?_) hfew.left hev1
      · obtain ⟨t, ht⟩ := hsplit ssrc
        rw [ht, getElem?_append_left (List.getElem?_eq_some_iff.mp hd).1]
        exact hd
      · obtain ⟨t, ht⟩ := hsplit ssrc
        have := hcount ssrc
        rw [ht, length_append] at this
        omega
    rw [protectRun_append]
    simp only [protectRun, append_nil]
    refine hbefore.step hev2.1 (fun hon => ?_) hfew.left
    have hstream : streamOf (rtpSsrc c.buf) (calls ++ [c])
        = streamOf (rtpSsrc c.buf) calls ++ [c] := by rw [streamOf_snoc, if_pos hon]
    refine ⟨hseq _ _ c ?_, ?_⟩
    · rw [hstream, getElem?_append_right le_rfl]
      simp
    · grind

/-- **No nonce is used twice.** -/
theorem protectRun_nonces_nodup (cr : Crypto) (profile : SrtpProfile) (key salt : Bytes)
    (ctx : SrtpCtx) (hctx : rtcSrtpInitProfile cr none profile key salt = .ok ctx)
    (calls : List ProtectCall) (hseq : ConsecutiveSeqs calls)
    (hcount : ∀ ssrc, (streamOf ssrc calls).length < 2 ^ 48)
    (hfew : FewRefusals ctx.keys calls) (hev : NoEviction cr ctx calls) :
    (protectRun cr ctx calls).1.Nodup := by
  choose s0 hs0 using hseq
  obtain rfl := Except.ok.inj hctx
  exact (SendInvariant.run rfl rfl calls hs0 hcount hfew hev).nodup

/-! ## Eviction loses the rollover counter

One stream sends `2 ^ 16 + 1` packets, so its counter is at one. Eight other streams send one
packet each; the eighth takes the slot of the first stream. The next packet of the first
stream then gets a new entry, with the counter at zero. -/

section OneStream

variable (cr : Crypto) (ctx : SrtpCtx)

def entryAfter (ssrc n : Nat) : StreamEntry :=
  { ssrc := ssrc, inUse := true, lruTick := n + 1, roc := n / 2 ^ 16, lastSeq := n % 2 ^ 16
    rocInit := true }

def ctxAfter (ssrc n : Nat) : SrtpCtx :=
  { ctx with rtpSend := empty.set 0 (entryAfter ssrc n), sendLruTick := n + 1 }

theorem srtpEntryForSsrc_first {e : StreamEntry} {ssrc : Nat} (h : e.hits ssrc = true)
    (tick : Nat) : srtpEntryForSsrc (empty.set 0 e) tick ssrc
      = ⟨0, empty.set 0 { e with lruTick := (tick + 1) % 2 ^ 64 },
          (tick + 1) % 2 ^ 64⟩ := by
  simp [srtpEntryForSsrc, scanEntries, StreamTable.set, empty,
    srtpReplayMaxStreams, replicate, h]

theorem entryAfter_advance (ssrc n : Nat) (hn : n + 1 < 2 ^ 48) :
    ({ entryAfter ssrc n with lruTick := n + 2 } : StreamEntry).advance ((n + 1) % 2 ^ 16)
      = entryAfter ssrc (n + 1) := by
  rw [StreamEntry.advance_succ rfl rfl rfl hn]
  rfl

theorem sendRollover_fresh (hnew : ctx.rtpSend = empty) (htick : ctx.sendLruTick = 0)
    (ssrc : Nat) : sendRollover ctx ssrc 0 = (nonceAt 0 0 ssrc 0, ctxAfter ctx ssrc 0) := by
  have hslot : srtpEntryForSsrc empty 0 ssrc
      = ⟨0, empty.set 0 { ssrc := ssrc, inUse := true, lruTick := 1 }, 1⟩ := by
    simp [srtpEntryForSsrc, scanEntries, empty, srtpReplayMaxStreams,
      replicate, StreamEntry.hits]
  unfold sendRollover
  rw [hnew, htick, hslot]
  simp [nonceAt, ctxAfter, entryAfter, Slot.entry, Slot.put, StreamTable.set, empty,
    srtpReplayMaxStreams, StreamEntry.advance]

theorem sendRollover_ctxAfter (ssrc n : Nat) (hn : n + 1 < 2 ^ 48) :
    sendRollover (ctxAfter ctx ssrc n) ssrc ((n + 1) % 2 ^ 16)
      = (nonceAt 0 0 ssrc (n + 1), ctxAfter ctx ssrc (n + 1)) := by
  have hhits : (entryAfter ssrc n).hits ssrc = true := by simp [entryAfter, StreamEntry.hits]
  have hslot := srtpEntryForSsrc_first hhits (n + 1)
  rw [Nat.mod_eq_of_lt (show n + 1 + 1 < 2 ^ 64 by omega)] at hslot
  have hroc : (0 + (n + 1)) / 2 ^ 16 < 2 ^ 32 := by omega
  unfold sendRollover ctxAfter
  simp only [hslot]
  have hentry : (⟨0, empty.set 0 { entryAfter ssrc n with lruTick := n + 1 + 1 },
      n + 1 + 1⟩ : Slot).entry = { entryAfter ssrc n with lruTick := n + 2 } := by
    simp [Slot.entry, StreamTable.set, empty, srtpReplayMaxStreams]
  rw [hentry, entryAfter_advance ssrc n hn, nonceAt, Nat.sub_zero, Nat.mod_eq_of_lt hroc,
    Nat.zero_add]
  simp [entryAfter, Slot.put, StreamTable.set, empty, srtpReplayMaxStreams]

theorem protectRun_one_stream {ssrc : Nat} (hssrc : ssrc < 2 ^ 32)
    (hinit : ctx.initialized = true) (hnew : ctx.rtpSend = empty)
    (htick : ctx.sendLruTick = 0) (n : Nat) (hn : n < 2 ^ 48) :
    protectRun cr ctx ((range (n + 1)).map (bareCall ssrc))
      = ((range (n + 1)).map (nonceAt 0 0 ssrc), ctxAfter ctx ssrc n) := by
  induction n with
  | zero =>
    obtain ⟨out, hout⟩ := bareCall_run cr hinit ssrc 0
    rw [rtpSsrc_barePacket hssrc, Nat.zero_mod, sendRollover_fresh ctx hnew htick ssrc] at hout
    have hnonce : sendNonce ctx (bareCall ssrc 0).buf = nonceAt 0 0 ssrc 0 := by
      rw [sendNonce, show (bareCall ssrc 0).buf = barePacket ssrc 0 from rfl,
        rtpSsrc_barePacket hssrc, rtpSeq_barePacket, Nat.zero_mod,
        sendRollover_fresh ctx hnew htick ssrc]
    rw [show range (0 + 1) = [0] from rfl]
    simp only [map_singleton, protectRun, hout, hnonce, append_nil]
    rfl
  | succ n ih =>
    obtain ⟨out, hout⟩ := @bareCall_run cr (ctxAfter ctx ssrc n) hinit ssrc (n + 1)
    rw [rtpSsrc_barePacket hssrc, sendRollover_ctxAfter ctx ssrc n hn] at hout
    have hnonce : sendNonce (ctxAfter ctx ssrc n) (bareCall ssrc (n + 1)).buf
        = nonceAt 0 0 ssrc (n + 1) := by
      rw [sendNonce, show (bareCall ssrc (n + 1)).buf = barePacket ssrc (n + 1) from rfl,
        rtpSsrc_barePacket hssrc, rtpSeq_barePacket, sendRollover_ctxAfter ctx ssrc n hn]
    rw [range_succ, map_append, protectRun_append, ih (by omega), map_append]
    simp only [map_singleton, protectRun, hout, hnonce, append_nil]
    rfl

end OneStream

def otherStreams (m : Nat) : List ProtectCall := (range m).map fun i => bareCall (2 + i) 0

def returningRun (m n : Nat) : List ProtectCall :=
  (range n).map (bareCall 1) ++ (otherStreams m ++ [bareCall 1 n])

theorem streamOf_map_bareCall {ssrc : Nat} (h : ssrc < 2 ^ 32) (other : Nat) (l : List Nat) :
    streamOf other (l.map (bareCall ssrc))
      = if ssrc = other then l.map (bareCall ssrc) else [] := by
  have hon : ∀ c ∈ l.map (bareCall ssrc), c.onSsrc other = (ssrc == other) := by
    intro c hc
    obtain ⟨m, -, rfl⟩ := mem_map.mp hc
    exact bareCall_onSsrc h m other
  unfold streamOf
  by_cases hs : ssrc = other
  · rw [if_pos hs, filter_eq_self]
    intro c hc
    rw [hon c hc, beq_iff_eq]
    exact hs
  · rw [if_neg hs, filter_eq_nil_iff]
    intro c hc
    rw [hon c hc, beq_iff_eq]
    exact hs

theorem streamOf_otherStreams (hm : m ≤ 8) (ssrc : Nat) :
    (streamOf ssrc (otherStreams m)).map (rtpSeq ·.buf)
      = if 2 ≤ ssrc ∧ ssrc < 2 + m then [0] else [] := by
  by_cases hs : ssrc < 10
  · revert ssrc m
    decide +kernel
  · rw [if_neg (by omega), map_eq_nil_iff]
    refine filter_eq_nil_iff.mpr fun c hc => ?_
    obtain ⟨i, hi, rfl⟩ := mem_map.mp hc
    rw [mem_range] at hi
    rw [bareCall_onSsrc (by omega), beq_iff_eq]
    omega

theorem returningRun_seqs (hm : m ≤ 8) (n ssrc : Nat) :
    (streamOf ssrc (returningRun m n)).map (rtpSeq ·.buf)
      = if ssrc = 1 then (range (n + 1)).map (· % 2 ^ 16)
        else if 2 ≤ ssrc ∧ ssrc < 2 + m then [0] else [] := by
  have hsplit : streamOf ssrc (returningRun m n)
      = streamOf ssrc ((range n).map (bareCall 1))
        ++ (streamOf ssrc (otherStreams m) ++ streamOf ssrc ([n].map (bareCall 1))) := by
    simp only [streamOf, returningRun, filter_append, map_singleton]
  rw [hsplit, map_append, map_append, streamOf_otherStreams hm,
    streamOf_map_bareCall (by norm_num), streamOf_map_bareCall (by norm_num)]
  by_cases h1 : ssrc = 1
  · rw [if_pos h1.symm, if_pos h1.symm, if_pos h1, if_neg (by omega), nil_append,
      ← map_append, ← map_append, ← range_succ, map_map]
    exact map_congr_left fun m _ => rtpSeq_barePacket 1 m
  · grind

theorem returningRun_consecutive (hm : m ≤ 8) (n : Nat) : ConsecutiveSeqs (returningRun m n) := by
  refine fun ssrc => ⟨0, fun k c hc => ?_⟩
  have hk := congrArg (·[k]?) (returningRun_seqs hm n ssrc)
  simp only [getElem?_map, hc, Option.map_some] at hk
  obtain ⟨hlt, hval⟩ := List.getElem?_eq_some_iff.mp hk.symm
  rw [← hval, Nat.zero_add]
  split_ifs at hlt ⊢ with h1 h2
  · simp
  · obtain rfl : k = 0 := by simpa using hlt
    rfl
  · simp at hlt

theorem returningRun_count (hm : m ≤ 8) {n : Nat} (hn : n + 1 < 2 ^ 48) (ssrc : Nat) :
    (streamOf ssrc (returningRun m n)).length < 2 ^ 48 := by
  have hlen := congrArg List.length (returningRun_seqs hm n ssrc)
  rw [length_map] at hlen
  rw [hlen]
  split_ifs
  · rw [length_map, length_range]
    exact hn
  · simp
  · simp

theorem returningRun_fewRefusals (k : SrtpKeys) (m n : Nat) : FewRefusals k (returningRun m n) := by
  refine fewRefusals_of_hasRoom fun c hc => ?_
  simp only [returningRun, otherStreams, mem_append, mem_map, mem_singleton] at hc
  rcases hc with ⟨i, -, rfl⟩ | ⟨i, -, rfl⟩ | rfl <;> exact bareCall_hasRoom ..

/-- Eight streams fit: no nonce is reused. -/
theorem eight_streams_nonces_nodup :
    NoEviction toyCrypto toyCtx (returningRun 7 3) ∧
    (protectRun toyCrypto toyCtx (returningRun 7 3)).1.Nodup := by
  have hev : NoEviction toyCrypto toyCtx (returningRun 7 3) := by decide +kernel
  exact ⟨hev, protectRun_nonces_nodup toyCrypto .aes128CmSha1_80 _ _ toyCtx rfl _
    (returningRun_consecutive (by norm_num) 3) (returningRun_count (by norm_num) (by norm_num))
    (returningRun_fewRefusals _ 7 3) hev⟩

/-- **A stream that comes back after its eviction reuses a nonce**, with consecutive sequence
numbers on every SSRC, nine SSRCs in all and every buffer large enough. -/
theorem evicted_stream_reuses_nonce :
    rtcSrtpInitProfile toyCrypto none .aes128CmSha1_80 (replicate 16 0)
      (replicate 14 0) = .ok toyCtx ∧
    ConsecutiveSeqs (returningRun 8 (2 ^ 16 + 1)) ∧
    (∀ ssrc, (streamOf ssrc (returningRun 8 (2 ^ 16 + 1))).length < 2 ^ 48) ∧
    FewRefusals toyCtx.keys (returningRun 8 (2 ^ 16 + 1)) ∧
    ¬ (protectRun toyCrypto toyCtx (returningRun 8 (2 ^ 16 + 1))).1.Nodup := by
  refine ⟨rfl, returningRun_consecutive le_rfl _, returningRun_count le_rfl (by norm_num),
    returningRun_fewRefusals _ 8 _, ?_⟩
  have hrun := protectRun_one_stream toyCrypto toyCtx (show 1 < 2 ^ 32 by norm_num) rfl rfl rfl
    (2 ^ 16) (by norm_num)
  have hlast : (⟨1, 0, 1⟩ : Nonce) ∈ (protectRun toyCrypto (ctxAfter toyCtx 1 (2 ^ 16))
      (otherStreams 8 ++ [bareCall 1 (2 ^ 16 + 1)])).1 := by decide +kernel
  have hfirst : (⟨1, 0, 1⟩ : Nonce) ∈ (range (2 ^ 16 + 1)).map (nonceAt 0 0 1) :=
    mem_map.mpr ⟨1, mem_range.mpr (by norm_num), by simp [nonceAt]⟩
  rw [returningRun, protectRun_append, hrun]
  generalize (range (2 ^ 16 + 1)).map (nonceAt 0 0 1) = nonces at hfirst
  exact fun hnd => disjoint_of_nodup_append hnd hfirst hlast

end Mrtc
