import Mrtc.Srtp.Reordering

/-! # End to end: what is received is what was sent

A sending and a receiving context with the same keys, and a list of packets that the sender
protects one after another; some of them are lost, the others arrive in order.
-/

namespace Mrtc

open Net List Function StreamTable StreamEntry

/-! ## The link -/

inductive LinkEvent where
  | rtp (packet : Bytes) (cap : Nat) (delivered : Bool)
  | rtcp (packet : Bytes) (cap : Nat) (delivered : Bool)
  deriving DecidableEq

/-- What the receiver gets for the delivered packets. A packet that cannot be protected counts
as an error. -/
def linkRun (cr : Crypto) : SrtpCtx → SrtpCtx → List LinkEvent → List (Except RtcErr Bytes)
  | _, _, [] => []
  | s, r, .rtp packet cap delivered :: es =>
    match rtcSrtpProtect cr {} s packet cap with
    | (.error e, s') => .error e :: linkRun cr s' r es
    | (.ok buf, s') =>
      if delivered then
        (rtcSrtpUnprotect cr {} r buf).1
          :: linkRun cr s' (rtcSrtpUnprotect cr {} r buf).2 es
      else linkRun cr s' r es
  | s, r, .rtcp packet cap delivered :: es =>
    match rtcSrtpProtectRtcp cr {} s packet cap with
    | (.error e, s') => .error e :: linkRun cr s' r es
    | (.ok buf, s') =>
      if delivered then
        (rtcSrtpUnprotectRtcp cr {} r buf).1
          :: linkRun cr s' (rtcSrtpUnprotectRtcp cr {} r buf).2 es
      else linkRun cr s' r es

def deliveredPackets : List LinkEvent → List Bytes
  | [] => []
  | .rtp packet _ delivered :: es =>
    if delivered then packet :: deliveredPackets es else deliveredPackets es
  | .rtcp packet _ delivered :: es =>
    if delivered then packet :: deliveredPackets es else deliveredPackets es

/-- The history of the link: for every SSRC the true index of the last packet sent and of the
last one delivered, and the number of RTCP packets. -/
structure LinkState where
  sent : Nat → Option Nat := fun _ => none
  got : Nat → Option Nat := fun _ => none
  rtcps : Nat := 0

def LinkState.next (g : LinkState) (packet : Bytes) : Nat :=
  match g.sent (rtpSsrc packet) with
  | none => rtpSeq packet
  | some i => i + 1

def LinkState.after (g : LinkState) : LinkEvent → LinkState
  | .rtp packet _ delivered =>
    { g with
      sent := update g.sent (rtpSsrc packet) (some (g.next packet))
      got := if delivered then update g.got (rtpSsrc packet) (some (g.next packet))
        else g.got }
  | .rtcp _ _ _ => { g with rtcps := g.rtcps + 1 }

/-- A delivered packet with true index `i` is in reach of the receiver: the first one of its
SSRC has counter zero, a later one is less than `2 ^ 15` above the one before. -/
def InReach (i : Nat) : Option Nat → Prop
  | none => i < 2 ^ 16
  | some j => i < j + 2 ^ 15

/-- What the packets of the link have to satisfy: SSRCs from `S`, a well-formed header, room
for the tag, consecutive sequence numbers on every SSRC, no long gaps, and fewer than `2 ^ 31`
RTCP packets. -/
def LinkEvent.Allowed (k : SrtpKeys) (S : Finset Nat) (indexOk : Nat → Prop) (g : LinkState) :
    LinkEvent → Prop
  | .rtp packet cap delivered =>
    rtpSsrc packet ∈ S ∧ (∃ n, srtpRtpHeaderLen packet packet.length = .ok n) ∧
    packet.length + rtpTagLen k ≤ cap ∧ rtpSeq packet = g.next packet % 2 ^ 16 ∧
    indexOk (g.next packet) ∧
    (delivered = true → InReach (g.next packet) (g.got (rtpSsrc packet)))
  | .rtcp packet cap _ =>
    8 ≤ packet.length ∧ packet.length + rtpTagLen k + 4 ≤ cap ∧ g.rtcps + 1 < 2 ^ 31

def LinkOk (k : SrtpKeys) (S : Finset Nat) (indexOk : Nat → Prop) :
    LinkState → List LinkEvent → Prop
  | _, [] => True
  | g, e :: es => e.Allowed k S indexOk g ∧ LinkOk k S indexOk (g.after e) es

/-! ## The sender's and the receiver's entries -/

def SentAt : Option Nat → Option StreamEntry → Prop
  | none, none => True
  | some i, some e =>
    e.rocInit = true ∧ e.lastSeq = i % 2 ^ 16 ∧ e.roc = i / 2 ^ 16 ∧ i < 2 ^ 48
  | _, _ => False

def GotAt (got : Option Nat) (found : Option StreamEntry) : Prop :=
  ∃ A, StreamTracks A found ∧
    match got with
    | none => A = ∅
    | some j => Window.IsHighest A j

variable {st : StreamEntry} {i : Nat} {cr : Crypto} {k : SrtpKeys} {S : Finset Nat} {g : LinkState}
  {s r : SrtpCtx} {packet : Bytes}

/-- **The sender's counter** for the next packet is that of its true index. -/
theorem SentAt.next {sent : Option Nat} {found : Option StreamEntry} (h : SentAt sent found)
    {seq ssrc tick : Nat} (hi : i < 2 ^ 48) (hseq : seq = i % 2 ^ 16)
    (hnext : match sent with | none => i = seq | some j => i = j + 1)
    (hst : st = { found.getD { ssrc := ssrc, inUse := true } with lruTick := tick }) :
    (st.advance seq).roc = i / 2 ^ 16 ∧ SentAt (some i) (some (st.advance seq)) := by
  cases sent with
  | none =>
    cases found with
    | some e => exact h.elim
    | none =>
      have hroc : (st.advance seq).roc = 0 := by rw [hst]; rfl
      have hls : (st.advance seq).lastSeq = seq := by rw [hst]; rfl
      have hin : (st.advance seq).rocInit = true := by rw [hst]; rfl
      dsimp only at hnext
      have hzero : i / 2 ^ 16 = 0 := by omega
      exact ⟨by rw [hroc, hzero], hin, by rw [hls, hseq], by rw [hroc, hzero], hi⟩
  | some j =>
    cases found with
    | none => exact h.elim
    | some e =>
      obtain ⟨hinit, hlast, hroc, -⟩ := h
      dsimp only at hnext
      subst hnext
      have hadv : st.advance seq = { st with roc := (j + 1) / 2 ^ 16
                                             lastSeq := (j + 1) % 2 ^ 16 } := by
        grind [advance_succ]
      rw [hadv]
      exact ⟨rfl, by rw [hst]; exact hinit, rfl, rfl, hi⟩

theorem pktIndex_div_mod (i : Nat) : pktIndex (i / 2 ^ 16) (i % 2 ^ 16) = i := by
  unfold pktIndex
  omega

/-- **The receiver's counter** for the next delivered packet is that of its true index, and
the packet passes the replay check. -/
theorem GotAt.next {got : Option Nat} {found : Option StreamEntry} (h : GotAt got found)
    {ssrc tick : Nat} (hi : i < 2 ^ 48) (hreach : InReach i got) (hord : ∀ j, got = some j → j < i)
    (hst : st = { found.getD { ssrc := ssrc, inUse := true } with lruTick := tick }) :
    srtpEstimateRoc found (i % 2 ^ 16) = i / 2 ^ 16 ∧
    ∃ r, srtpReplayCheck st.replay i = .ok r ∧
      GotAt (some i)
        (some ({ st with replay := r }.rollForward (i / 2 ^ 16) (i % 2 ^ 16))) := by
  obtain ⟨A, htr, hA⟩ := h
  have hbelow : ∀ a ∈ A, a < i := by
    cases got with
    | none =>
      obtain rfl : A = ∅ := hA
      simp
    | some j => exact fun a ha => lt_of_le_of_lt (hA.2 a ha) (hord j rfl)
  have hest : srtpEstimateRoc found (i % 2 ^ 16) = i / 2 ^ 16 := by
    cases got with
    | none =>
      obtain rfl : A = ∅ := hA
      have hzero : i / 2 ^ 16 = 0 := Nat.div_eq_of_lt hreach
      cases found with
      | none => rw [hzero]; rfl
      | some e => exact absurd htr.2.2.1.1 (by simp)
    | some j =>
      have hji := hord j rfl
      rw [htr.estimate hA hi (by omega) hreach]
      exact max_eq_left (Nat.div_le_div_right hji.le)
  have htracks : st.replay.Tracks A := by
    rw [hst]
    cases found with
    | none =>
      rw [show A = ∅ from htr]
      exact Replay.tracks_empty
    | some e => exact htr.1
  obtain ⟨r, hr⟩ := (srtpReplayCheck_spec htracks i).1.mp
    (Window.fresh_of_above (by decide) hbelow)
  have hacc := htr.accept (show i % 2 ^ 16 < 2 ^ 16 from Nat.mod_lt _ (by norm_num)) hst
    (by rw [hest, pktIndex_div_mod]; exact hr)
  rw [hest, pktIndex_div_mod] at hacc
  refine ⟨hest, r, hr, insert i A, hacc, Finset.mem_insert_self _ _, fun a ha => ?_⟩
  rcases Finset.mem_insert.mp ha with rfl | ha
  · exact le_rfl
  · exact (hbelow a ha).le

/-! ## One packet -/

structure Linked (k : SrtpKeys) (S : Finset Nat) (g : LinkState) (s r : SrtpCtx) : Prop where
  keys : s.keys = k ∧ r.keys = k
  initialized : s.initialized = true ∧ r.initialized = true
  sendTable : s.rtpSend.Distinct ∧ s.rtpSend.Within S
  recvTable : r.rtpReplay.Distinct ∧ r.rtpReplay.Within S
  sent : ∀ ssrc, SentAt (g.sent ssrc) (srtpFindSsrc s.rtpSend ssrc)
  got : ∀ ssrc, GotAt (g.got ssrc) (srtpFindSsrc r.rtpReplay ssrc)
  order : ∀ ssrc j, g.got ssrc = some j → ∃ i, g.sent ssrc = some i ∧ j ≤ i
  index : s.srtcpIndex = g.rtcps
  rtcpTable : r.rtcpReplay.Distinct
  rtcp : ∀ ssrc e, srtpFindSsrc r.rtcpReplay ssrc = some e →
    ∃ A, e.replay.Tracks A ∧ ∀ a ∈ A, a < g.rtcps

theorem Linked.fresh {profile : SrtpProfile} {key salt : Bytes} {ctx : SrtpCtx}
    (hctx : rtcSrtpInitProfile cr none profile key salt = .ok ctx) (S : Finset Nat) :
    Linked ctx.keys S {} ctx ctx := by
  obtain rfl := Except.ok.inj hctx
  refine ⟨⟨rfl, rfl⟩, ⟨rfl, rfl⟩, ⟨empty_distinct, empty_within S⟩,
    ⟨empty_distinct, empty_within S⟩, fun ssrc => ?_, fun ssrc => ?_,
    fun ssrc j hj => (by cases hj), rfl, empty_distinct, fun ssrc e he => ?_⟩
  · rw [srtpFindSsrc_empty]
    trivial
  · rw [srtpFindSsrc_empty]
    exact ⟨∅, rfl, rfl⟩
  · rw [srtpFindSsrc_empty] at he
    cases he

/-- **Sending one RTP packet**: it is protected under the counter of its true index. -/
theorem Linked.send (h : Linked k S g s r) (hS : S.card ≤ srtpReplayMaxStreams) {cap : Nat}
    (hmem : rtpSsrc packet ∈ S) (hhdr : ∃ n, srtpRtpHeaderLen packet packet.length = .ok n)
    (hroom : packet.length + rtpTagLen k ≤ cap) (hseq : rtpSeq packet = g.next packet % 2 ^ 16)
    (hi : g.next packet < 2 ^ 48) :
    ∃ buf s', rtcSrtpProtect cr {} s packet cap = (.ok buf, s') ∧
      SealedAs cr k (g.next packet / 2 ^ 16) packet buf ∧
      Linked k S { g with sent := update g.sent (rtpSsrc packet) (some (g.next packet)) }
        s' r := by
  obtain ⟨n, hn⟩ := hhdr
  obtain ⟨h12, hle⟩ := srtpRtpHeaderLen_bounds hn
  have hreach : (⟨{}, packet, cap⟩ : ProtectCall).reaches s = true := by
    simp only [ProtectCall.reaches, ProtectCall.hasRoom, h.initialized.1, h.keys.1, Bool.true_and,
      Bool.and_eq_true, decide_eq_true_eq]
    exact ⟨by omega, hroom⟩
  have hrun := rtcSrtpProtect_sealed cr hreach rfl hn
  have hadm := admits_of_card h.sendTable.1 hS h.sendTable.2 hmem
  set st := (srtpEntryForSsrc s.rtpSend s.sendLruTick (rtpSsrc packet)).entry with hst
  have hhits : (st.advance (rtpSeq packet)).hits (rtpSsrc packet) = true := by
    have := srtpEntryForSsrc_hits s.rtpSend s.sendLruTick (rtpSsrc packet)
    rw [advance]
    split_ifs <;> exact this
  obtain ⟨hroc, hsent⟩ := (h.sent (rtpSsrc packet)).next hi hseq
    (by unfold LinkState.next; cases g.sent (rtpSsrc packet) <;> rfl)
    (srtpEntryForSsrc_entry s.rtpSend s.sendLruTick (rtpSsrc packet))
  refine ⟨_, _, hrun, ⟨n, hn, ?_⟩, ?_⟩
  · show sealRtp cr s.keys ⟨rtpSsrc packet, (st.advance (rtpSeq packet)).roc, rtpSeq packet⟩ n
      packet = _
    rw [hroc, h.keys.1]
  · refine { h with keys := h.keys, initialized := h.initialized, sendTable := ?_, sent := ?_, order := ?_ }
    · exact ⟨h.sendTable.1.put _ hhits, h.sendTable.2.put _ hmem hhits⟩
    · intro ssrc
      show SentAt (update g.sent (rtpSsrc packet) (some (g.next packet)) ssrc)
        (srtpFindSsrc ((srtpEntryForSsrc s.rtpSend s.sendLruTick (rtpSsrc packet)).put
          (st.advance (rtpSeq packet))) ssrc)
      by_cases hs : ssrc = rtpSsrc packet
      · rw [hs, update_self, find_put_self _ _ hhits]
        exact hsent
      · rw [update_of_ne hs, find_put_other _ _ hadm hhits hs]
        exact h.sent ssrc
    · intro ssrc j hj
      obtain ⟨i, hi', hji⟩ := h.order ssrc j hj
      by_cases hs : ssrc = rtpSsrc packet
      · grind [LinkState.next]
      · exact ⟨i, by rw [← hi']; exact update_of_ne hs .., hji⟩

/-- **Receiving the packet just sent.** -/
theorem Linked.receive (hcr : cr.Lawful) (h : Linked k S g s r) (hS : S.card ≤ srtpReplayMaxStreams)
    {buf : Bytes} (hlast : g.sent (rtpSsrc packet) = some i) (hmem : rtpSsrc packet ∈ S)
    (hi : i < 2 ^ 48) (hseq : rtpSeq packet = i % 2 ^ 16)
    (hbuf : SealedAs cr k (i / 2 ^ 16) packet buf) (hreach : InReach i (g.got (rtpSsrc packet)))
    (hord : ∀ j, g.got (rtpSsrc packet) = some j → j < i) :
    ∃ r', rtcSrtpUnprotect cr {} r buf = (.ok packet, r') ∧
      Linked k S { g with got := update g.got (rtpSsrc packet) (some i) } s r' := by
  obtain ⟨hq, hssrc, -⟩ := hbuf.header hcr
  have hadm := admits_of_card h.recvTable.1 hS h.recvTable.2 hmem
  have hhits := srtpEntryForSsrc_hits r.rtpReplay r.replayLruTick (rtpSsrc packet)
  obtain ⟨hest, rep, hrep, hgot⟩ := (h.got (rtpSsrc packet)).next hi hreach hord
    (srtpEntryForSsrc_entry r.rtpReplay r.replayLruTick (rtpSsrc packet))
  have hroc : estimatedRoc r buf = i / 2 ^ 16 := by
    rw [estimatedRoc, hq, hssrc, hseq]
    exact hest
  have hidx : recvIndex r buf = i := by
    rw [recvIndex, hroc, hq, hseq, pktIndex_div_mod]
  rw [← h.keys.2, ← hroc] at hbuf
  obtain ⟨-, hok⟩ := rtcSrtpUnprotect_sealed hcr h.initialized.2 hbuf
  have hslot : recvSlot r buf
      = srtpEntryForSsrc r.rtpReplay r.replayLruTick (rtpSsrc packet) := by
    rw [recvSlot, hssrc]
  have hrun := hok rep (by rw [hslot, hidx]; exact hrep)
  rw [hroc, hq, hseq, hslot] at hrun
  set e := ({ (srtpEntryForSsrc r.rtpReplay r.replayLruTick (rtpSsrc packet)).entry with
    replay := rep } : StreamEntry).rollForward (i / 2 ^ 16) (i % 2 ^ 16) with he
  have hehits : e.hits (rtpSsrc packet) = true := by
    rw [he, rollForward_hits]
    exact hhits
  refine ⟨_, hrun, { h with keys := h.keys, initialized := h.initialized, recvTable := ?_, got := ?_, order := ?_ }⟩
  · exact ⟨h.recvTable.1.put _ hehits, h.recvTable.2.put _ hmem hehits⟩
  · intro ssrc
    show GotAt (update g.got (rtpSsrc packet) (some i) ssrc) (srtpFindSsrc
      ((srtpEntryForSsrc r.rtpReplay r.replayLruTick (rtpSsrc packet)).put e) ssrc)
    by_cases hs : ssrc = rtpSsrc packet
    · rw [hs, update_self, find_put_self _ _ hehits]
      exact hgot
    · rw [update_of_ne hs, find_put_other _ _ hadm hehits hs]
      exact h.got ssrc
  · intro ssrc j hj
    by_cases hs : ssrc = rtpSsrc packet
    · grind
    · exact h.order ssrc j (by rw [← hj]; exact (update_of_ne hs ..).symm)

theorem rtcp_windows_put {t : StreamTable} (hd : t.Distinct) {n : Nat}
    (h : ∀ ssrc e, srtpFindSsrc t ssrc = some e → ∃ A, e.replay.Tracks A ∧ ∀ a ∈ A, a < n)
    (lruTick ssrc : Nat) :
    ∃ rep, srtpReplayCheck (srtpEntryForSsrc t lruTick ssrc).entry.replay n = .ok rep ∧
      ∀ other e, srtpFindSsrc ((srtpEntryForSsrc t lruTick ssrc).put
          { (srtpEntryForSsrc t lruTick ssrc).entry with replay := rep }) other = some e →
        ∃ A, e.replay.Tracks A ∧ ∀ a ∈ A, a < n + 1 := by
  obtain ⟨A, hA, hbelow⟩ : ∃ A, (srtpEntryForSsrc t lruTick ssrc).entry.replay.Tracks A ∧
      ∀ a ∈ A, a < n := by
    rw [srtpEntryForSsrc_entry]
    cases hf : srtpFindSsrc t ssrc with
    | none => exact ⟨∅, Replay.tracks_empty, by simp⟩
    | some e => exact h ssrc e hf
  obtain ⟨hfresh, htrack⟩ := srtpReplayCheck_spec hA n
  obtain ⟨rep, hrep⟩ := hfresh.mp (Window.fresh_of_above (by decide) hbelow)
  have hhits : ({ (srtpEntryForSsrc t lruTick ssrc).entry with replay := rep }
      : StreamEntry).hits ssrc = true := srtpEntryForSsrc_hits t lruTick ssrc
  refine ⟨rep, hrep, fun other e he => ?_⟩
  by_cases hs : other = ssrc
  · rw [hs, find_put_self _ _ hhits] at he
    obtain rfl := Option.some.inj he
    refine ⟨insert n A, htrack rep hrep, fun a ha => ?_⟩
    rcases Finset.mem_insert.mp ha with rfl | ha
    · exact Nat.lt_succ_self _
    · exact Nat.lt_succ_of_lt (hbelow a ha)
  · grind [find_put_other_or_none, Nat.lt_succ_of_lt]

/-- **One RTCP packet**: it is protected under the next index; if it arrives, it is above
everything the receiver has seen and is recovered. -/
theorem Linked.rtcp_step (hcr : cr.Lawful) (h : Linked k S g s r) {cap : Nat}
    (hlen : 8 ≤ packet.length) (hroom : packet.length + rtpTagLen k + 4 ≤ cap)
    (hcount : g.rtcps + 1 < 2 ^ 31) :
    ∃ buf s', rtcSrtpProtectRtcp cr {} s packet cap = (.ok buf, s') ∧
      Linked k S { g with rtcps := g.rtcps + 1 } s' r ∧
      ∃ r', rtcSrtpUnprotectRtcp cr {} r buf = (.ok packet, r') ∧
        Linked k S { g with rtcps := g.rtcps + 1 } s' r' := by
  have hrun : rtcSrtpProtectRtcp cr {} s packet cap = _ :=
    rtcSrtpProtectRtcp_sealed cr h.initialized.1 hlen (by rw [h.keys.1]; exact hroom)
  have hnext : (s.srtcpIndex + 1) % 2 ^ 32 = g.rtcps + 1 := by
    rw [h.index]
    exact Nat.mod_eq_of_lt (by omega)
  have hsent : Linked k S { g with rtcps := g.rtcps + 1 }
      { s with srtcpIndex := (s.srtcpIndex + 1) % 2 ^ 32 } r := by
    refine { h with keys := h.keys, initialized := h.initialized, index := hnext, rtcp := ?_ }
    intro ssrc e he
    obtain ⟨A, hA, hb⟩ := h.rtcp ssrc e he
    exact ⟨A, hA, fun a ha => Nat.lt_succ_of_lt (hb a ha)⟩
  refine ⟨_, _, hrun, hsent, ?_⟩
  obtain ⟨hssrc, hidx, hok⟩ := rtcSrtpUnprotectRtcp_sealed hcr hlen h.initialized.2 h.keys.2
    (show sealRtcp cr s.keys s.srtcpIndex packet = sealRtcp cr k s.srtcpIndex packet by
      rw [h.keys.1])
  have hwire : srtcpWireIndex s.srtcpIndex = g.rtcps := by
    rw [h.index]
    exact Nat.mod_eq_of_lt (by omega)
  obtain ⟨rep, hrep, hwin⟩ := rtcp_windows_put h.rtcpTable h.rtcp r.replayLruTick
    (rtcpSsrc (sealRtcp cr s.keys s.srtcpIndex packet))
  refine ⟨_, hok rep (by rw [hidx, hwire]; exact hrep),
    { hsent with
      keys := hsent.keys
      initialized := hsent.initialized
      rtcpTable := ?_
      rtcp := hwin }⟩
  exact h.rtcpTable.put _ (srtpEntryForSsrc_hits r.rtcpReplay r.replayLruTick _)

/-! ## Whole runs -/

theorem deliveredPackets_append (a b : List LinkEvent) :
    deliveredPackets (a ++ b) = deliveredPackets a ++ deliveredPackets b := by
  induction a with
  | nil => rfl
  | cons e es ih =>
    cases e with
    | rtp packet cap delivered =>
      cases delivered
      · exact ih
      · exact congrArg (packet :: ·) ih
    | rtcp packet cap delivered =>
      cases delivered
      · exact ih
      · exact congrArg (packet :: ·) ih

/-- **One packet of the link**, with whatever follows it: if it is delivered, it comes out as it
went in, and the two contexts stay linked. -/
theorem Linked.step (hcr : cr.Lawful) (hS : S.card ≤ srtpReplayMaxStreams) {e : LinkEvent}
    (h : Linked k S g s r) (hall : e.Allowed k S (· < 2 ^ 48) g) :
    ∃ s' r', Linked k S (g.after e) s' r' ∧
      ∀ es, linkRun cr s r (e :: es) = (deliveredPackets [e]).map .ok ++ linkRun cr s' r' es := by
  cases e with
  | rtp packet cap delivered =>
    obtain ⟨hmem, hhdr, hroom, hseq, hi, hreach⟩ := hall
    obtain ⟨buf, s1, hsend, hbuf, h1⟩ := h.send hS hmem hhdr hroom hseq hi
    cases delivered with
    | false =>
      refine ⟨s1, r, h1, fun es => ?_⟩
      rw [linkRun, hsend]
      rfl
    | true =>
      have hord : ∀ j, g.got (rtpSsrc packet) = some j → j < g.next packet := by
        grind [LinkState.next, Nat.lt_succ_of_le, h.order]
      obtain ⟨r1, hrecv, h2⟩ := h1.receive hcr hS (update_self ..) hmem hi hseq
        hbuf (hreach rfl) hord
      refine ⟨s1, r1, h2, fun es => ?_⟩
      rw [linkRun, hsend]
      dsimp only
      rw [if_pos rfl, hrecv]
      rfl
  | rtcp packet cap delivered =>
    obtain ⟨hlen, hroom, hcount⟩ := hall
    obtain ⟨buf, s1, hsend, h1, r1, hrecv, h2⟩ := h.rtcp_step hcr hlen hroom hcount
    cases delivered with
    | false =>
      refine ⟨s1, r, h1, fun es => ?_⟩
      rw [linkRun, hsend]
      rfl
    | true =>
      refine ⟨s1, r1, h2, fun es => ?_⟩
      rw [linkRun, hsend]
      dsimp only
      rw [if_pos rfl, hrecv]
      rfl

/-- **A run of the link**, with whatever follows it: the delivered packets come out as they
went in, and the two contexts stay linked. -/
theorem Linked.run (hcr : cr.Lawful) (hS : S.card ≤ srtpReplayMaxStreams) (events : List LinkEvent)
    (h : Linked k S g s r) (hok : LinkOk k S (· < 2 ^ 48) g events) :
    ∃ s' r', Linked k S (events.foldl LinkState.after g) s' r' ∧
      ∀ rest, linkRun cr s r (events ++ rest)
        = (deliveredPackets events).map .ok ++ linkRun cr s' r' rest := by
  induction events generalizing g s r with
  | nil => exact ⟨s, r, h, fun rest => rfl⟩
  | cons e es ih =>
    obtain ⟨hall, hrest⟩ := hok
    obtain ⟨s1, r1, h1, hstep⟩ := h.step hcr hS hall
    obtain ⟨s', r', hlink, hrun⟩ := ih h1 hrest
    refine ⟨s', r', hlink, fun rest => ?_⟩
    calc linkRun cr s r (e :: es ++ rest)
        = (deliveredPackets [e]).map Except.ok ++ linkRun cr s1 r1 (es ++ rest) := hstep (es ++ rest)
      _ = (deliveredPackets [e]).map Except.ok
            ++ ((deliveredPackets es).map Except.ok ++ linkRun cr s' r' rest) := by rw [hrun rest]
      _ = (deliveredPackets (e :: es)).map Except.ok ++ linkRun cr s' r' rest := by
          rw [← append_assoc, ← map_append, ← deliveredPackets_append,
            singleton_append]

/-- **End-to-end identity.** -/
theorem linkRun_identity (cr : Crypto) (hcr : cr.Lawful) (profile : SrtpProfile)
    (key salt : Bytes) (ctx : SrtpCtx)
    (hctx : rtcSrtpInitProfile cr none profile key salt = .ok ctx) (S : Finset Nat)
    (hS : S.card ≤ srtpReplayMaxStreams) (events : List LinkEvent)
    (hok : LinkOk ctx.keys S (· < 2 ^ 48) {} events) :
    linkRun cr ctx ctx events = (deliveredPackets events).map .ok := by
  obtain ⟨s', r', -, hrun⟩ := (Linked.fresh hctx S).run hcr hS events hok
  have := hrun []
  rwa [append_nil, linkRun, append_nil] at this

/-! ## The counter overflows -/

def inOrder (n : Nat) : List LinkEvent :=
  (range n).map fun m => .rtp (barePacket 1 m) 64 true

theorem inOrder_succ (n : Nat) :
    inOrder (n + 1) = inOrder n ++ [.rtp (barePacket 1 n) 64 true] := by
  simp [inOrder, range_succ]

theorem LinkOk.append {indexOk : Nat → Prop} {a b : List LinkEvent} (ha : LinkOk k S indexOk g a)
    (hb : LinkOk k S indexOk (a.foldl LinkState.after g) b) : LinkOk k S indexOk g (a ++ b) := by
  induction a generalizing g with
  | nil => exact hb
  | cons e es ih => exact ⟨ha.1, ih ha.2 hb⟩

theorem rtpSsrc_barePacket_one (n : Nat) : rtpSsrc (barePacket 1 n) = 1 :=
  rtpSsrc_barePacket (by norm_num) n

theorem inOrder_state (n : Nat) :
    ((inOrder (n + 1)).foldl LinkState.after {}).sent 1 = some n ∧
    ((inOrder (n + 1)).foldl LinkState.after {}).got 1 = some n := by
  induction n with
  | zero =>
    simp [inOrder, LinkState.after, LinkState.next, rtpSsrc_barePacket_one]
  | succ n ih =>
    rw [inOrder_succ, foldl_append]
    simp [LinkState.after, LinkState.next, rtpSsrc_barePacket_one, ih.1]

theorem inOrder_next (n : Nat) :
    ((inOrder n).foldl LinkState.after {}).next (barePacket 1 n) = n ∧
    InReach n (((inOrder n).foldl LinkState.after {}).got 1) := by
  cases n with
  | zero => exact ⟨rtpSeq_barePacket 1 0, Nat.two_pow_pos 16⟩
  | succ n =>
    obtain ⟨hsent, hgot⟩ := inOrder_state n
    rw [LinkState.next, rtpSsrc_barePacket_one, hsent, hgot]
    refine ⟨rfl, ?_⟩
    unfold InReach
    omega

theorem inOrder_linkOk (k : SrtpKeys) {indexOk : Nat → Prop} (n : Nat)
    (hidx : ∀ m, m < n → indexOk m) : LinkOk k {1} indexOk {} (inOrder n) := by
  induction n with
  | zero => trivial
  | succ n ih =>
    obtain ⟨hnext, hreach⟩ := inOrder_next n
    rw [inOrder_succ]
    refine (ih fun m hm => hidx m (by omega)).append ⟨?_, trivial⟩
    rw [LinkEvent.Allowed, hnext, rtpSsrc_barePacket_one]
    exact ⟨Finset.mem_singleton_self 1, ⟨12, srtpRtpHeaderLen_barePacket 1 n⟩,
      of_decide_eq_true (bareCall_hasRoom k 1 n), rtpSeq_barePacket 1 n, hidx n (by omega),
      fun _ => hreach⟩

/-- Ten packets in order go through. -/
theorem ten_packets_identity :
    linkRun toyCrypto toyCtx toyCtx (inOrder 10) = (deliveredPackets (inOrder 10)).map .ok :=
  linkRun_identity toyCrypto toyCrypto_lawful .aes128CmSha1_80 _ _ toyCtx rfl {1} (by decide) _
    (inOrder_linkOk _ 10 fun m hm => by omega)

theorem srtpEstimateRoc_overflow {e : StreamEntry} (hinit : e.rocInit = true)
    (hlast : e.lastSeq = 2 ^ 16 - 1) (hroc : e.roc = 2 ^ 32 - 1) :
    srtpEstimateRoc (some e) 0 = 0 := by
  have hw : Rollover.rolledOver seqHalf e.lastSeq 0 = true := by
    rw [Rollover.rolledOver_iff, hlast, seqHalf]
    norm_num
  unfold srtpEstimateRoc
  simp only [hinit, hw, Bool.true_and, if_true, hroc]
  norm_num

theorem StreamEntry.advance_overflow (hinit : st.rocInit = true) (hlast : st.lastSeq = 2 ^ 16 - 1)
    (hroc : st.roc = 2 ^ 32 - 1) : (st.advance 0).roc = 0 := by
  have hw : Rollover.rolledOver seqHalf st.lastSeq 0 = true := by
    rw [Rollover.rolledOver_iff, hlast, seqHalf]
    norm_num
  unfold advance
  simp only [hinit, hw, Bool.not_true, Bool.false_eq_true, if_false, if_true, hroc]
  norm_num

theorem Linked.overflow (hcr : cr.Lawful) (h : Linked k S g s r)
    (hsent : g.sent 1 = some (2 ^ 48 - 1)) (hgot : g.got 1 = some (2 ^ 48 - 1)) {n : Nat}
    (hn : n % 2 ^ 16 = 0) : ∃ e, linkRun cr s r [.rtp (barePacket 1 n) 64 true] = [.error e] := by
  have hssrc := rtpSsrc_barePacket_one n
  have hseq : rtpSeq (barePacket 1 n) = 0 := (rtpSeq_barePacket 1 n).trans hn
  -- the sender's entry for the last packet gives counter zero
  have hsend : ∃ buf s', rtcSrtpProtect cr {} s (barePacket 1 n) 64 = (.ok buf, s') ∧
      SealedAs cr r.keys 0 (barePacket 1 n) buf := by
    have hs := h.sent 1
    have hentry := srtpEntryForSsrc_entry s.rtpSend s.sendLruTick 1
    rw [hsent] at hs
    cases hf : srtpFindSsrc s.rtpSend 1 with
    | none => rw [hf] at hs; exact hs.elim
    | some e =>
      rw [hf] at hs hentry
      obtain ⟨hinit, hlast, hroc, -⟩ := hs
      have hzero : ((srtpEntryForSsrc s.rtpSend s.sendLruTick 1).entry.advance 0).roc = 0 := by
        grind [advance_overflow]
      have hreach : (bareCall 1 n).reaches s = true := by
        rw [ProtectCall.reaches, h.initialized.1, bareCall_hasRoom]
        rfl
      have hnonce : sendNonce s (bareCall 1 n).buf = ⟨1, 0, 0⟩ := by
        show (sendRollover s (rtpSsrc (barePacket 1 n)) (rtpSeq (barePacket 1 n))).1 = _
        rw [hssrc, hseq, sendRollover, hzero]
      refine ⟨_, _, rtcSrtpProtect_sealed cr hreach rfl (srtpRtpHeaderLen_barePacket 1 n),
        12, srtpRtpHeaderLen_barePacket 1 n, ?_⟩
      rw [hnonce, hssrc, hseq, h.keys.1, h.keys.2]
      rfl
  obtain ⟨buf, s', hrun, hbuf⟩ := hsend
  obtain ⟨hq, hss, -⟩ := hbuf.header hcr
  rw [hseq] at hq
  rw [hssrc] at hss
  -- the receiver guesses zero too, and finds the index far behind its window
  obtain ⟨A, hA, hhigh⟩ := h.got 1
  rw [hgot] at hhigh
  have hrecv : estimatedRoc r buf = 0 ∧ (recvSlot r buf).entry.replay.Tracks A := by
    rw [estimatedRoc, recvSlot, replayOf_slot, replayOf, hq, hss]
    cases hf : srtpFindSsrc r.rtpReplay 1 with
    | none =>
      rw [hf] at hA
      rw [show A = ∅ from hA] at hhigh
      exact absurd hhigh.1 (by simp)
    | some e =>
      rw [hf] at hA
      obtain ⟨htr, hinit, hhigh', hroc, hlast⟩ := hA
      have heq := hhigh'.unique hhigh
      unfold pktIndex at heq
      exact ⟨srtpEstimateRoc_overflow hinit (by omega) (by omega), htr⟩
  obtain ⟨hest, htr⟩ := hrecv
  have hidx : recvIndex r buf = 0 := by
    rw [recvIndex, hest, hq]
    rfl
  rw [← hest] at hbuf
  obtain ⟨herr, -⟩ := rtcSrtpUnprotect_sealed hcr h.initialized.2 hbuf
  cases hr : srtpReplayCheck (recvSlot r buf).entry.replay (recvIndex r buf) with
  | error e => grind [linkRun]
  | ok r' =>
    have hfresh := (srtpReplayCheck_spec htr (recvIndex r buf)).1.mpr ⟨r', hr⟩
    have hwin := ((Window.fresh_iff hhigh).mp hfresh).2
    rw [hidx] at hwin
    unfold srtpReplayWindowSize at hwin
    omega

/-- **The first packet after `2 ^ 32` wraps is refused**, although all packets are consecutive,
on one SSRC, and none is lost. -/
theorem counter_overflow_rejected :
    toyCrypto.Lawful ∧
    rtcSrtpInitProfile toyCrypto none .aes128CmSha1_80 (replicate 16 0)
      (replicate 14 0) = .ok toyCtx ∧
    LinkOk toyCtx.keys {1} (fun _ => True) {} (inOrder (2 ^ 48 + 1)) ∧
    linkRun toyCrypto toyCtx toyCtx (inOrder (2 ^ 48 + 1))
      ≠ (deliveredPackets (inOrder (2 ^ 48 + 1))).map .ok := by
  obtain ⟨n, hn⟩ : ∃ n, n + 1 = 2 ^ 48 := ⟨2 ^ 48 - 1, by norm_num⟩
  rw [← hn]
  refine ⟨toyCrypto_lawful, rfl, inOrder_linkOk _ _ fun _ _ => trivial, ?_⟩
  obtain ⟨hsent, hgot⟩ := inOrder_state n
  have hlinkOk : LinkOk toyCtx.keys {1} (· < 2 ^ 48) {} (inOrder (n + 1)) :=
    inOrder_linkOk _ _ fun m hm => by omega
  obtain ⟨s', r', hlink, hrun⟩ := (Linked.fresh toyCtx_init {1}).run toyCrypto_lawful (by decide)
    (inOrder (n + 1)) hlinkOk
  have hlast : n = 2 ^ 48 - 1 := by omega
  obtain ⟨e, he⟩ := hlink.overflow toyCrypto_lawful (by rw [hsent, hlast]) (by rw [hgot, hlast])
    (show (n + 1) % 2 ^ 16 = 0 by rw [hn]; norm_num)
  rw [inOrder_succ, hrun, he, deliveredPackets_append, map_append]
  intro hcon
  have := append_cancel_left hcon
  simp [deliveredPackets] at this

end Mrtc
