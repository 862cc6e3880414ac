import Mrtc.Twcc.Wire

/-! # Transport-cc feedback round trip

What the sender of the media packets learns from `rtc_rtcp_parse_twcc` when it is given the
bytes of `rtc_twcc_receiver_build_feedback`.
-/

namespace Mrtc

open Net List TwccReceiver TwccMark TwccChunk TwccRecvEntry

/-! ## The running clock -/

def twccClockRange : Nat := 2 ^ 24 * 64000

theorem tdiv_tick_bounds (x : Int) :
    (0 ≤ x → 0 ≤ x.tdiv twccTickUs ∧ 250 * x.tdiv twccTickUs ≤ x
      ∧ x < 250 * x.tdiv twccTickUs + 250)
    ∧ (x < 0 → x.tdiv twccTickUs ≤ 0 ∧ x ≤ 250 * x.tdiv twccTickUs
      ∧ 250 * x.tdiv twccTickUs - 250 < x) := by
  unfold twccTickUs
  constructor
  · intro hx
    rw [Int.tdiv_eq_ediv_of_nonneg hx]
    omega
  · grind

theorem asInt64_eq {n : Nat} (h : n < twccClockRange) : asInt64 n = n :=
  if_pos (h.trans (by decide))

theorem twccTicks_spec {prevUs t : Nat} (hp : prevUs < twccClockRange) (ht : t < twccClockRange) :
    advanceUs prevUs (twccTicks prevUs t) < twccClockRange
      ∧ |((advanceUs prevUs (twccTicks prevUs t) : Nat) : Int) - t| < 250 := by
  obtain ⟨hnonneg, hneg⟩ := tdiv_tick_bounds ((t : Int) - prevUs)
  have hticks : twccTicks prevUs t = ((t : Int) - prevUs).tdiv twccTickUs := by
    unfold twccTicks
    rw [asInt64_eq hp, asInt64_eq ht]
  rw [hticks]
  set q := ((t : Int) - prevUs).tdiv twccTickUs with hq
  have hrange : (twccClockRange : Int) < 2 ^ 64 := by decide
  have hbetween : 0 ≤ (prevUs : Int) + q * 250 ∧ (prevUs : Int) + q * 250 < twccClockRange
      ∧ |(prevUs : Int) + q * 250 - t| < 250 := by grind
  have hadv : ((advanceUs prevUs q : Nat) : Int) = (prevUs : Int) + q * 250 := by
    grind [advanceUs, twccTickUs]
  rw [hadv]
  exact ⟨by omega, hbetween.2.2⟩

variable {prevUs : Nat} {e : TwccRecvEntry} {es : List TwccRecvEntry} {r : TwccReceiver}
  {first : TwccRecvEntry}

theorem twccMark_received (he : e.received = true) :
    twccMark prevUs e = ⟨.notRecv, 0⟩
        ∧ ¬(-2 ^ 15 ≤ twccTicks prevUs e.recvTimeUs ∧ twccTicks prevUs e.recvTimeUs ≤ 2 ^ 15 - 1)
      ∨ (twccMark prevUs e).status ≠ .notRecv ∧ (twccMark prevUs e).Fits
        ∧ (twccMark prevUs e).delta = twccTicks prevUs e.recvTimeUs
        ∧ -2 ^ 15 ≤ twccTicks prevUs e.recvTimeUs ∧ twccTicks prevUs e.recvTimeUs ≤ 2 ^ 15 - 1 := by
  unfold twccMark
  rw [if_neg (by rw [he]; decide)]
  generalize twccTicks prevUs e.recvTimeUs = ticks
  by_cases hsmall : -128 ≤ ticks ∧ ticks ≤ 127
  · right
    rw [if_pos hsmall]
    exact ⟨by simp, by show -2 ^ 7 ≤ ticks ∧ ticks < 2 ^ 7; omega, rfl, by omega, by omega⟩
  · by_cases hlarge : -2 ^ 15 ≤ ticks ∧ ticks ≤ 2 ^ 15 - 1
    · right
      rw [if_neg hsmall, if_pos hlarge]
      exact ⟨by simp, by show -2 ^ 15 ≤ ticks ∧ ticks < 2 ^ 15; omega, rfl, hlarge⟩
    · left
      rw [if_neg hsmall, if_neg hlarge]
      exact ⟨rfl, hlarge⟩

theorem twccMark_missing (he : e.received = false) : twccMark prevUs e = ⟨.notRecv, 0⟩ := by
  unfold twccMark
  rw [if_pos (by rw [he]; decide)]

theorem twccMark_fits (prevUs : Nat) (e : TwccRecvEntry) : (twccMark prevUs e).Fits := by
  cases he : e.received with
  | false =>
    rw [twccMark_missing he]
    trivial
  | true =>
    rcases twccMark_received he with ⟨hmark, _⟩ | ⟨_, hfits, _⟩
    · rw [hmark]
      trivial
    · exact hfits

theorem twccMarks_fits (prevUs : Nat) (es : List TwccRecvEntry) :
    ∀ m ∈ twccMarks prevUs es, m.Fits := by
  induction es generalizing prevUs with
  | nil =>
    intro m hm
    cases hm
  | cons e es ih =>
    intro m hm
    rcases mem_cons.mp hm with rfl | hm
    · exact twccMark_fits prevUs e
    · exact ih _ m hm

theorem twccMarks_length (prevUs : Nat) (es : List TwccRecvEntry) :
    (twccMarks prevUs es).length = es.length := by
  induction es generalizing prevUs with
  | nil => rfl
  | cons e es ih => rw [twccMarks, length_cons, length_cons, ih]

/-! ## Which arrivals are reported -/

def twccAllReported : (prevUs : Nat) → List TwccRecvEntry → Prop
  | _, [] => True
  | prevUs, e :: es =>
    (e.received = true → (twccMark prevUs e).status ≠ .notRecv)
      ∧ twccAllReported ((twccMark prevUs e).clock prevUs) es

def recordedTimes (es : List TwccRecvEntry) : List Nat :=
  (es.filter (·.received)).map recvTimeUs

/-- Neighbouring times are no further apart than this. -/
def GapsAtMost (gap : Nat) (times : List Nat) : Prop :=
  times.IsChain fun s t => s ≤ t + gap ∧ t ≤ s + gap

instance (gap : Nat) (times : List Nat) : Decidable (GapsAtMost gap times) :=
  inferInstanceAs (Decidable (List.IsChain _ times))

theorem recordedTimes_received (he : e.received = true) (es : List TwccRecvEntry) :
    recordedTimes (e :: es) = e.recvTimeUs :: recordedTimes es := by
  unfold recordedTimes
  rw [filter_cons_of_pos he, map_cons]

theorem recordedTimes_missing (he : e.received = false) (es : List TwccRecvEntry) :
    recordedTimes (e :: es) = recordedTimes es := by
  unfold recordedTimes
  rw [filter_cons_of_neg (by rw [he]; decide)]

theorem clock_received (hp : prevUs < twccClockRange) (he : e.received = true)
    (ht : e.recvTimeUs < twccClockRange) (hs : (twccMark prevUs e).status ≠ .notRecv) :
    (twccMark prevUs e).clock prevUs < twccClockRange
      ∧ |(((twccMark prevUs e).clock prevUs : Nat) : Int) - e.recvTimeUs| < 250 := by
  rcases twccMark_received he with ⟨hmark, _⟩ | ⟨_, _, hdelta, _⟩
  · rw [hmark] at hs
    exact absurd rfl hs
  · unfold clock
    rw [if_neg hs, hdelta]
    exact twccTicks_spec hp ht

theorem reported_of_close (hp : prevUs < twccClockRange) (he : e.received = true)
    (ht : e.recvTimeUs < twccClockRange) (hclose : |(e.recvTimeUs : Int) - prevUs| < 2 ^ 15 * 250) :
    (twccMark prevUs e).status ≠ .notRecv := by
  rcases twccMark_received he with ⟨_, hout⟩ | ⟨hs, _⟩
  · exfalso
    obtain ⟨hnonneg, hneg⟩ := tdiv_tick_bounds ((e.recvTimeUs : Int) - prevUs)
    have hticks : twccTicks prevUs e.recvTimeUs
        = ((e.recvTimeUs : Int) - prevUs).tdiv twccTickUs := by
      unfold twccTicks
      rw [asInt64_eq hp, asInt64_eq ht]
    rw [hticks] at hout
    rw [abs_lt] at hclose
    rcases Int.lt_or_le ((e.recvTimeUs : Int) - prevUs) 0 with hlt | hge
    · have := hneg hlt
      omega
    · have := hnonneg hge
      omega
  · exact hs

theorem twccAllReported_of_gaps {prevUs last : Nat} (hp : prevUs < twccClockRange)
    (hlast : |(prevUs : Int) - last| < 250)
    (ht : ∀ e ∈ es, e.received = true → e.recvTimeUs < twccClockRange)
    (hgaps : GapsAtMost ((2 ^ 15 - 1) * 250) (last :: recordedTimes es)) :
    twccAllReported prevUs es := by
  induction es generalizing prevUs last with
  | nil => trivial
  | cons e es ih =>
    have ht' : ∀ x ∈ es, x.received = true → x.recvTimeUs < twccClockRange :=
      fun x hx => ht x (mem_cons_of_mem _ hx)
    cases he : e.received with
    | false =>
      rw [recordedTimes_missing he] at hgaps
      refine ⟨fun h => absurd (he.symm.trans h) (by decide), ?_⟩
      rw [twccMark_missing he]
      exact ih hp hlast ht' hgaps
    | true =>
      rw [recordedTimes_received he] at hgaps
      obtain ⟨hstep, hrest⟩ := isChain_cons_cons.mp hgaps
      have hte := ht e mem_cons_self he
      have hs : (twccMark prevUs e).status ≠ .notRecv := by
        apply reported_of_close hp he hte
        rw [abs_lt] at hlast ⊢
        omega
      obtain ⟨hclock, hnear⟩ := clock_received hp he hte hs
      exact ⟨fun _ => hs, ih hclock hnear ht' hrest⟩

def ReadBack (e : TwccRecvEntry) (time : Option Nat) : Prop :=
  time.isSome = e.received
    ∧ (e.received = true → |((time.getD 0 : Nat) : Int) - e.recvTimeUs| < 250)

theorem readBack_of_reported (hp : prevUs < twccClockRange)
    (ht : ∀ e ∈ es, e.received = true → e.recvTimeUs < twccClockRange)
    (hall : twccAllReported prevUs es) :
    List.Forall₂ ReadBack es (twccTimes prevUs (twccMarks prevUs es)) := by
  induction es generalizing prevUs with
  | nil => exact .nil
  | cons e es ih =>
    obtain ⟨hhead, hrest⟩ := hall
    have ht' : ∀ x ∈ es, x.received = true → x.recvTimeUs < twccClockRange :=
      fun x hx => ht x (mem_cons_of_mem _ hx)
    rw [twccMarks, twccTimes]
    cases he : e.received with
    | false =>
      rw [twccMark_missing he] at hrest ⊢
      refine .cons ⟨?_, fun h => absurd (he.symm.trans h) (by decide)⟩ (ih hp ht' hrest)
      rw [he]
      rfl
    | true =>
      have hs := hhead he
      obtain ⟨hclock, hnear⟩ := clock_received hp he (ht e mem_cons_self he) hs
      rw [if_neg hs]
      exact .cons ⟨he.symm, fun _ => hnear⟩ (ih hclock ht' hrest)

/-! ## The packet -/

theorem twccChunks_length_le (fuel : Nat) (ss : List TwccStatus) :
    (twccChunks fuel ss).length ≤ fuel := by
  induction fuel generalizing ss with
  | zero => exact Nat.zero_le _
  | succ fuel ih =>
    cases ss with
    | nil => exact Nat.zero_le _
    | cons s ss =>
      obtain ⟨c, n, hc, _⟩ := twccChunks_cons fuel s ss
      rw [hc, length_cons]
      exact Nat.succ_le_succ (ih _)

theorem twccChunkBytes_length_le (ss : List TwccStatus) :
    (twccChunkBytes ss).length ≤ 2 * ss.length := by
  unfold twccChunkBytes
  have hle := twccChunks_length_le ss.length ss
  have hlen : ∀ cs : List TwccChunk,
      (cs.flatMap fun c => writeU16 c.word).length = 2 * cs.length := by
    intro cs
    induction cs with
    | nil => rfl
    | cons c cs ih =>
      rw [flatMap_cons, length_append, ih, writeU16_length, length_cons]
      omega
  rw [hlen]
  omega

theorem twccDeltaBytes_length_le (marks : List TwccMark) :
    (twccDeltaBytes marks).length ≤ 2 * marks.length := by
  unfold twccDeltaBytes
  induction marks with
  | nil => exact Nat.le_refl 0
  | cons m ms ih =>
    have hm : m.bytes.length ≤ 2 := by
      unfold bytes
      split <;> simp
    rw [flatMap_cons, length_append, length_cons]
    omega

theorem twccFeedback_length_le (hwf : r.WellFormed) (s m : UInt32) (first : TwccRecvEntry) :
    (twccFeedback r s m first).length ≤ 1200 := by
  set marks := twccMarks (twccRefTime first * 64000) r.entries with hmarks
  have hentries : r.entries.length ≤ 256 := by
    unfold entries
    rw [length_take, hwf.length]
    exact Nat.min_le_right _ _
  have hlen : marks.length ≤ 256 := by rw [hmarks, twccMarks_length]; exact hentries
  have hchunks := twccChunkBytes_length_le (marks.map status)
  have hdeltas := twccDeltaBytes_length_le marks
  rw [length_map] at hchunks
  unfold twccFeedback twccPacket twccBody
  rw [← hmarks]
  simp only [length_append, length_cons, length_nil, length_replicate,
    writeU16_length, writeU24_length, writeU32_length]
  omega

theorem twccPacket_fields (s m : UInt32) {ref : Nat} {marks : List TwccMark}
    (hcount : r.count < 2 ^ 16) (href : ref < 2 ^ 24) (hlen : marks.length = r.count)
    {out : Bytes} (hout : out = twccPacket (twccBody r s m ref marks)) :
    20 ≤ out.length ∧ byteAt out 0 / 2 ^ 6 % 4 = 2 ∧ readU16 out 12 = r.baseSeq.toNat
      ∧ readU16 out 14 = r.count ∧ readU24 out 16 = ref
      ∧ ∃ pad, readTwccChunks (out.drop 20) r.count
        = .ok ((twccChunks marks.length (marks.map status)).flatMap seen,
          twccDeltaBytes marks ++ pad) := by
  subst hout
  refine ⟨?_, ?_, ?_, ?_, ?_, ?_⟩
  · unfold twccPacket twccBody
    simp only [length_append, length_cons, length_nil, writeU16_length,
      writeU24_length, writeU32_length]
    omega
  · show (0x8F : UInt8).toNat / 2 ^ 6 % 4 = 2
    decide
  · exact readU16_writeU16 (UInt16.toNat_lt r.baseSeq) []
  · exact readU16_writeU16 hcount []
  · exact readU24_writeU24 href []
  · obtain ⟨pad, hdrop⟩ : ∃ pad, (twccPacket (twccBody r s m ref marks)).drop 20
        = twccChunkBytes (marks.map status) ++ twccDeltaBytes marks ++ pad := ⟨_, rfl⟩
    have hstatuses : (marks.map status).length = marks.length := length_map _
    refine ⟨pad, ?_⟩
    rw [hdrop, append_assoc, ← hlen, ← hstatuses]
    exact readTwccChunks_chunks (Nat.le_refl _) _

theorem rtcRtcpParseTwcc_feedback (hpos : 1 ≤ r.count) (hcount : r.entries.length = r.count)
    (hle : r.count ≤ twccParseMax) (s m : UInt32) (first : TwccRecvEntry) {marks : List TwccMark}
    (hmarks : marks = twccMarks (twccRefTime first * 64000) r.entries) :
    ∃ pad report, (∀ times, (report times).baseSeq = r.baseSeq
        ∧ (report times).items = times.mapIdx (twccItem r.baseSeq))
      ∧ rtcRtcpParseTwcc (twccFeedback r s m first)
        = (readTwccDeltas (twccRefTime first * 64000)
            ((twccChunks marks.length (marks.map status)).flatMap seen)
            (twccDeltaBytes marks ++ pad)).map report := by
  have href : twccRefTime first < 2 ^ 24 := Nat.mod_lt _ (by decide)
  have hmax : twccParseMax < 2 ^ 16 := by decide
  have hlen : marks.length = r.count := by rw [hmarks, twccMarks_length, hcount]
  generalize hout : twccFeedback r s m first = out
  have hbody : out = twccPacket (twccBody r s m (twccRefTime first) marks) := by
    rw [← hout, hmarks]
    rfl
  obtain ⟨h20, hversion, hbase, hc, hr, pad, hchunks⟩ :=
    twccPacket_fields s m (by omega) href hlen hbody
  refine ⟨pad, fun times =>
    { senderSsrc := readU32 out 4
      mediaSsrc := readU32 out 8
      baseSeq := r.baseSeq
      fbPktCount := byteAt out 19
      referenceTimeUs := twccRefTime first * 64000
      items := times.mapIdx (twccItem r.baseSeq) }, fun times => ⟨rfl, rfl⟩, ?_⟩
  unfold rtcRtcpParseTwcc
  rw [if_neg (by omega), if_neg (by rw [hversion]; decide)]
  simp only [hbase, hc, hr, UInt16.ofNat_toNat]
  rw [if_neg (by omega), hchunks]
  simp only
  split
  · rename_i e he
    rw [he]
    rfl
  · rename_i times hok
    rw [hok]
    rfl

/-! ## The round trip -/

/-- What the report says of an entry: whether it was received, and if so its sequence number
and its arrival time to within a tick. -/
def Reported (e : TwccRecvEntry) (item : TwccItem) : Prop :=
  item.received = e.received
    ∧ (e.received = true → item.seq = e.seq ∧ |(item.recvTimeUs : Int) - e.recvTimeUs| < 250)

/-- The report that is parsed has every status and time that was recorded. -/
def RoundTrips (r : TwccReceiver) (out : Bytes) : Prop :=
  ∃ rep, rtcRtcpParseTwcc out = .ok rep ∧ rep.baseSeq = r.baseSeq
    ∧ rep.items.length = r.count ∧ List.Forall₂ Reported r.entries rep.items

def TwccReceiver.statuses (r : TwccReceiver) : List TwccStatus :=
  match r.entries.find? (·.received) with
  | none => []
  | some first => (twccMarks (twccRefTime first * 64000) r.entries).map status

/-- No vector chunk holds a large delta. -/
def TwccReceiver.VectorsFaithful (r : TwccReceiver) : Prop :=
  ∀ c ∈ twccChunks r.statuses.length r.statuses, c.Faithful

instance (r : TwccReceiver) : Decidable r.VectorsFaithful := inferInstanceAs (Decidable (∀ _ ∈ _, _))

theorem TwccReceiver.WellFormed.entries_length (h : r.WellFormed) : r.entries.length = r.count := by
  unfold entries
  rw [length_take, h.length]
  exact Nat.min_eq_left h.count_le

theorem TwccReceiver.WellFormed.entries_eq_cons (h : r.WellFormed) (hbase : r.haveBase = true) :
    ∃ first rest, r.entries = first :: rest ∧ first.received = true
      ∧ r.entries.find? (·.received) = some first := by
  obtain ⟨first, hhead, hrecv⟩ := h.base hbase
  cases hentries : r.entries with
  | nil =>
    rw [hentries] at hhead
    cases hhead
  | cons e rest => grind

theorem rtcTwccReceiverBuildFeedback_ok (h : r.WellFormed)
    (hbase : r.haveBase = true) (s m : UInt32) {cap : Nat} (hcap : 1200 ≤ cap)
    (hfirst : r.entries.find? (·.received) = some first) :
    rtcTwccReceiverBuildFeedback r s m cap
      = (.ok (twccFeedback r s m first), reset (r.fbPktCount + 1)) := by
  have hcount : r.count ≠ 0 := by grind [h.entries_eq_cons, h.entries_length]
  have hle := twccFeedback_length_le h s m first
  unfold rtcTwccReceiverBuildFeedback
  rw [if_neg (by simp [hbase, hcount]), if_neg (by omega), hfirst]
  simp only
  rw [if_neg (by omega)]

theorem reported_of_readBack (h : r.WellFormed) {times : List (Option Nat)}
    (hread : List.Forall₂ ReadBack r.entries times) :
    List.Forall₂ Reported r.entries (times.mapIdx (twccItem r.baseSeq)) := by
  rw [forall₂_iff_get] at hread ⊢
  obtain ⟨hlen, hread⟩ := hread
  refine ⟨by rw [length_mapIdx, hlen], fun i h₁ h₂ => ?_⟩
  have hi : i < times.length := by rw [← hlen]; exact h₁
  obtain ⟨hsome, htime⟩ := hread i h₁ hi
  have hget : r.window[i]? = some (r.entries.get ⟨i, h₁⟩) := by
    have hlt : i < r.count := by rw [← h.entries_length]; exact h₁
    have htake : r.entries[i]? = r.window[i]? := getElem?_take_of_lt hlt
    rw [← htake, get_eq_getElem]
    exact getElem?_eq_getElem h₁
  simp only [get_eq_getElem, getElem_mapIdx] at *
  refine ⟨hsome, fun he => ⟨?_, htime he⟩⟩
  exact (h.seq i _ hget he).2.symm

/-! ## Which windows round trip -/

def TwccStatus.isRecv (s : TwccStatus) : Bool := s != .notRecv

open TwccStatus

theorem readTwccDeltas_isSome {ss : List TwccStatus} {curUs : Nat} {data : Bytes}
    {times : List (Option Nat)} (h : readTwccDeltas curUs ss data = .ok times) :
    times.map Option.isSome = ss.map isRecv := by
  induction ss generalizing curUs data times with
  | nil =>
    cases h
    rfl
  | cons s ss ih =>
    -- each branch either fails or conses one time to those of the rest
    have hcons : ∀ {us : Nat} {bs : Bytes} {t : Option Nat}, t.isSome = s.isRecv →
        (readTwccDeltas us ss bs).map (t :: ·) = .ok times →
        times.map Option.isSome = (s :: ss).map isRecv := by
      intro us bs t ht hmap
      cases hrec : readTwccDeltas us ss bs with
      | error e =>
        rw [hrec] at hmap
        cases hmap
      | ok more =>
        rw [hrec] at hmap
        cases hmap
        rw [map_cons, map_cons, ht, ih hrec]
    cases s with
    | notRecv => exact hcons rfl h
    | smallDelta =>
      cases data with
      | nil => cases h
      | cons b data => exact hcons rfl h
    | largeDelta =>
      cases data with
      | nil => cases h
      | cons hi data =>
        cases data with
        | nil => cases h
        | cons lo data => exact hcons rfl h
    | reserved => cases h

theorem flatMap_seen_shows (cs : List TwccChunk) :
    List.Forall₂ (fun a b => a = b ∨ a = b.oneBit) (cs.flatMap seen)
      (cs.flatMap covered) := by
  induction cs with
  | nil => exact .nil
  | cons c cs ih =>
    rw [flatMap_cons, flatMap_cons]
    refine rel_append ?_ ih
    cases c with
    | runLength s run => exact forall₂_same.mpr fun _ _ => .inl rfl
    | statusVector ss =>
      show List.Forall₂ _ (ss.map oneBit) ss
      rw [forall₂_map_left_iff]
      exact forall₂_same.mpr fun _ _ => .inr rfl

theorem eq_of_shows {shown ss : List TwccStatus} {received : List Bool}
    (h : List.Forall₂ (fun a b => a = b ∨ a = b.oneBit) shown ss)
    (hres : .reserved ∉ ss) (hshown : shown.map isRecv = received)
    (hss : List.Forall₂ (fun b r => b.isRecv = true → r = true) ss received) : shown = ss := by
  subst hshown
  induction h with
  | nil => rfl
  | cons hab hrest ih =>
    rename_i a b shown ss
    rw [map_cons] at hss
    obtain ⟨hhead, htail⟩ := forall₂_cons.mp hss
    rw [mem_cons, not_or] at hres
    rw [ih hres.2 htail]
    congr 1
    rcases hab with rfl | rfl
    · rfl
    · cases b with
      | notRecv => rfl
      | smallDelta => rfl
      | largeDelta => exact absurd (hhead rfl) (by decide)
      | reserved => exact absurd rfl hres.1

theorem twccMarks_isRecv (prevUs : Nat) (es : List TwccRecvEntry) :
    List.Forall₂ (fun s r => s.isRecv = true → r = true)
      ((twccMarks prevUs es).map status) (es.map received) := by
  induction es generalizing prevUs with
  | nil => exact .nil
  | cons e es ih =>
    refine .cons ?_ (ih _)
    intro hs
    cases he : e.received with
    | true => rfl
    | false =>
      rw [twccMark_missing he] at hs
      cases hs

theorem twccAllReported_of_isRecv
    (h : ((twccMarks prevUs es).map status).map isRecv
      = es.map received) : twccAllReported prevUs es := by
  induction es generalizing prevUs with
  | nil => trivial
  | cons e es ih =>
    rw [twccMarks, map_cons, map_cons, map_cons, List.cons.injEq] at h
    refine ⟨fun he hs => ?_, ih h.2⟩
    rw [hs, he] at h
    exact absurd h.1 (by decide)

theorem twccMarks_not_reserved (prevUs : Nat) (es : List TwccRecvEntry) :
    reserved ∉ (twccMarks prevUs es).map status := by
  intro hmem
  obtain ⟨m, hm, hs⟩ := mem_map.mp hmem
  have hfit := twccMarks_fits prevUs es m hm
  unfold TwccMark.Fits at hfit
  rw [hs] at hfit
  exact hfit

theorem received_of_reported {items : List TwccItem} (h : List.Forall₂ Reported es items) :
    items.map TwccItem.received = es.map received := by
  induction h with
  | nil => rfl
  | cons hhead _ ih => rw [map_cons, map_cons, ih, hhead.1]

theorem mapIdx_twccItem_received (base : UInt16) (times : List (Option Nat)) :
    (times.mapIdx (twccItem base)).map TwccItem.received = times.map Option.isSome := by
  apply ext_getElem
  · rw [length_map, length_map, length_mapIdx]
  · intro i h₁ h₂
    rw [getElem_map, getElem_map, getElem_mapIdx]
    rfl

/-- **Which windows round trip**: those of which every received entry is reported and no status
vector holds a large delta. -/
theorem roundTrips_iff (h : r.WellFormed)
    (ht : ∀ e ∈ r.entries, e.received = true → e.recvTimeUs < twccClockRange) (s m : UInt32)
    (hfirst : r.entries.find? (·.received) = some first) :
    RoundTrips r (twccFeedback r s m first)
      ↔ twccAllReported (twccRefTime first * 64000) r.entries ∧ r.VectorsFaithful := by
  set prevUs := twccRefTime first * 64000 with hprev
  set marks := twccMarks prevUs r.entries with hmarks
  have hnores := twccMarks_not_reserved prevUs r.entries
  rw [← hmarks] at hnores
  have hlen : (marks.map status).length = marks.length := length_map _
  have hcov := flatMap_covered hlen.le
  have hfaithful : r.VectorsFaithful
      ↔ (twccChunks marks.length (marks.map status)).flatMap seen
        = marks.map status := by
    have hiff := @flatMap_seen_eq_iff (twccChunks marks.length (marks.map status))
      (by rw [hcov]; exact hnores)
    rw [hcov] at hiff
    have hstatuses : r.statuses = marks.map status := by
      unfold statuses
      rw [hfirst]
    unfold TwccReceiver.VectorsFaithful
    rw [hstatuses, hlen, hiff]
  have hcount : 1 ≤ r.count := by grind [h.entries_length, length_cons, h.entries_eq_cons]
  obtain ⟨pad, report, hreport, hparse⟩ := rtcRtcpParseTwcc_feedback hcount h.entries_length
    h.count_le s m first hmarks
  constructor
  · rintro ⟨rep, hok, _, _, hitems⟩
    rw [hparse] at hok
    cases hread : readTwccDeltas (twccRefTime first * 64000)
        ((twccChunks marks.length (marks.map status)).flatMap seen)
        (twccDeltaBytes marks ++ pad) with
    | error e =>
      rw [hread] at hok
      cases hok
    | ok times =>
      rw [hread] at hok
      cases hok
      rw [(hreport times).2] at hitems
      have hreceived := received_of_reported hitems
      rw [mapIdx_twccItem_received] at hreceived
      have hshown := (readTwccDeltas_isSome hread).symm.trans hreceived
      have hshows := flatMap_seen_shows
        (twccChunks marks.length (marks.map status))
      rw [hcov] at hshows
      have heq := eq_of_shows hshows hnores hshown (twccMarks_isRecv prevUs r.entries)
      refine ⟨twccAllReported_of_isRecv ?_, hfaithful.mpr heq⟩
      rw [← hmarks, ← heq]
      exact hshown
  · rintro ⟨hall, hvec⟩
    have href : prevUs < twccClockRange := by
      have : twccRefTime first < 2 ^ 24 := Nat.mod_lt _ (by decide)
      unfold twccClockRange
      omega
    rw [hfaithful.mp hvec, readTwccDeltas_marks (twccMarks_fits prevUs r.entries)] at hparse
    obtain ⟨hb, hitems⟩ := hreport (twccTimes prevUs marks)
    have hreported := reported_of_readBack h (readBack_of_reported href ht hall)
    rw [← hitems] at hreported
    exact ⟨_, hparse, hb, by rw [← hreported.length_eq, h.entries_length], hreported⟩

/-! ## Runs of arrivals -/

theorem rtcTwccReceiverOnPacket_haveBase (r : TwccReceiver) (seq : UInt16) (t : Nat) :
    (rtcTwccReceiverOnPacket r seq t).haveBase = true := by
  rcases rtcTwccReceiverOnPacket_cases r seq t with
    ⟨_, heq⟩ | ⟨hbase, heq⟩ | ⟨hbase, delta, _, _, heq⟩
  · rw [heq]
  · rw [heq]
    exact hbase
  · rw [heq]
    exact hbase

theorem twccRecord_haveBase (hr : r.haveBase = true) (arrivals : List Arrival) :
    (twccRecord r arrivals).haveBase = true := by
  induction arrivals generalizing r with
  | nil => exact hr
  | cons a as ih => exact ih (rtcTwccReceiverOnPacket_haveBase r a.seq a.timeUs)

theorem twccRefTime_close (h : first.recvTimeUs < twccClockRange) :
    |(first.recvTimeUs : Int) - (twccRefTime first * 64000 : Nat)| < 64000 := by
  unfold twccClockRange at h
  have hmod : twccRefTime first = first.recvTimeUs / 64000 := Nat.mod_eq_of_lt (by omega)
  rw [hmod, abs_lt]
  omega

theorem TwccReceiver.WellFormed.allReported (h : r.WellFormed) (hbase : r.haveBase = true)
    (ht : ∀ e ∈ r.entries, e.received = true → e.recvTimeUs < twccClockRange)
    (hgaps : GapsAtMost ((2 ^ 15 - 1) * 250) (recordedTimes r.entries))
    (hfirst : r.entries.find? (·.received) = some first) :
    twccAllReported (twccRefTime first * 64000) r.entries := by
  obtain ⟨e, rest, hcons, he, hfind⟩ := h.entries_eq_cons hbase
  obtain rfl : e = first := Option.some.inj (hfind.symm.trans hfirst)
  rw [hcons] at ht hgaps ⊢
  rw [recordedTimes_received he] at hgaps
  have hte := ht e mem_cons_self he
  have href : twccRefTime e * 64000 < twccClockRange := by
    have : twccRefTime e < 2 ^ 24 := Nat.mod_lt _ (by decide)
    unfold twccClockRange
    omega
  have hs : (twccMark (twccRefTime e * 64000) e).status ≠ .notRecv := by
    apply reported_of_close href he hte
    have hclose := twccRefTime_close hte
    rw [abs_lt] at hclose ⊢
    omega
  obtain ⟨hclock, hnear⟩ := clock_received href he hte hs
  exact ⟨fun _ => hs, twccAllReported_of_gaps hclock hnear
    (fun x hx => ht x (mem_cons_of_mem _ hx)) hgaps⟩

/-- **Transport-cc feedback round trip.** -/
theorem twcc_feedback_round_trips (c : UInt8) (arrivals : List Arrival)
    (hclock : ∀ a ∈ arrivals, a.timeUs < twccClockRange) {r : TwccReceiver}
    (hr : r = twccRecord (reset c) arrivals)
    (hgaps : GapsAtMost ((2 ^ 15 - 1) * 250) (recordedTimes r.entries))
    (hvec : r.VectorsFaithful) (senderSsrc mediaSsrc : UInt32) {cap : Nat} (hcap : 1200 ≤ cap) :
    match (rtcTwccReceiverBuildFeedback r senderSsrc mediaSsrc cap).1 with
    | .ok out => RoundTrips r out
    | .error e => e = .invalid ∧ arrivals = [] := by
  cases arrivals with
  | nil =>
    rw [hr]
    exact ⟨rfl, rfl⟩
  | cons a as =>
    have hwf : r.WellFormed := by
      rw [hr]
      exact twccRecord_wellFormed (reset_wellFormed c) (a :: as)
    have hbase : r.haveBase = true := by
      rw [hr]
      exact twccRecord_haveBase (rtcTwccReceiverOnPacket_haveBase _ a.seq a.timeUs) as
    have ht : ∀ e ∈ r.entries, e.received = true → e.recvTimeUs < twccClockRange := by
      intro e he
      have hmem : e ∈ r.window := mem_of_mem_take he
      rw [hr] at hmem
      refine twccRecord_received (P := fun e => e.recvTimeUs < twccClockRange) ?_ hclock e hmem
      intro x hx hrecv
      rw [eq_of_mem_replicate hx] at hrecv
      cases hrecv
    obtain ⟨first, _, _, _, hfirst⟩ := hwf.entries_eq_cons hbase
    rw [rtcTwccReceiverBuildFeedback_ok hwf hbase senderSsrc mediaSsrc hcap hfirst]
    exact (roundTrips_iff hwf ht senderSsrc mediaSsrc hfirst).mpr
      ⟨hwf.allReported hbase ht hgaps hfirst, hvec⟩

def lossyArrivals : List Arrival :=
  [⟨65534, 1000000⟩, ⟨65535, 3000000⟩, ⟨0, 9000000⟩, ⟨2, 9000400⟩, ⟨5, 8999900⟩, ⟨4, 8999000⟩,
    ⟨9, 9031000⟩]

theorem lossy_window_round_trips :
    match (rtcTwccReceiverBuildFeedback (twccRecord (reset 7) lossyArrivals)
      0xAAAA1111 0xBBBB2222 1400).1 with
    | .ok out => RoundTrips (twccRecord (reset 7) lossyArrivals) out
    | .error e => e = .invalid ∧ lossyArrivals = [] :=
  have hcap : 1200 ≤ 1400 := by decide
  twcc_feedback_round_trips 7 lossyArrivals (by decide) rfl (by decide +kernel)
    (by decide +kernel) 0xAAAA1111 0xBBBB2222 hcap

/-- Two arrivals less than `2^15` ticks apart, the first 249 microseconds after a tick: the
remainder carries the second to 32768 ticks from the clock. -/
def edgeArrivals : List Arrival := [⟨10, 64249⟩, ⟨11, 64249 + (2 ^ 15 * 250 - 1)⟩]

/-- The second arrival is then reported as not received. -/
theorem edge_arrival_not_reported :
    (∀ a ∈ edgeArrivals, a.timeUs < twccClockRange)
    ∧ GapsAtMost (2 ^ 15 * 250 - 1)
      (recordedTimes (twccRecord (reset 0) edgeArrivals).entries)
    ∧ ¬match (rtcTwccReceiverBuildFeedback (twccRecord (reset 0) edgeArrivals)
          1 2 1400).1 with
      | .ok out => RoundTrips (twccRecord (reset 0) edgeArrivals) out
      | .error _ => edgeArrivals = [] := by
  have hparsed : ((rtcTwccReceiverBuildFeedback
      (twccRecord (reset 0) edgeArrivals) 1 2 1400).1.bind rtcRtcpParseTwcc).map
        (fun rep => rep.items.map TwccItem.received) = .ok [true, false] := by
    decide +kernel
  refine ⟨by decide, by decide +kernel, ?_⟩
  cases hbuild : (rtcTwccReceiverBuildFeedback
      (twccRecord (reset 0) edgeArrivals) 1 2 1400).1 with
  | error e =>
    rw [hbuild] at hparsed
    cases hparsed
  | ok out =>
    rintro ⟨rep, hparse, _, _, hitems⟩
    have hout : (rtcRtcpParseTwcc out).map (fun rep => rep.items.map TwccItem.received)
        = .ok [true, false] := by
      rw [hbuild] at hparsed
      exact hparsed
    rw [hparse] at hout
    have hmap : rep.items.map TwccItem.received = [true, false] := Except.ok.inj hout
    rw [received_of_reported hitems] at hmap
    exact absurd hmap (by decide +kernel)

/-! ## Arrivals and feedback in any order -/

inductive TwccCall where
  | onPacket (twccSeq : UInt16) (recvTimeUs : Nat)
  | buildFeedback (senderSsrc mediaSsrc : UInt32) (cap : Nat)
  deriving DecidableEq

def twccCall (r : TwccReceiver) : TwccCall → TwccReceiver
  | .onPacket twccSeq recvTimeUs => rtcTwccReceiverOnPacket r twccSeq recvTimeUs
  | .buildFeedback senderSsrc mediaSsrc cap =>
    (rtcTwccReceiverBuildFeedback r senderSsrc mediaSsrc cap).2

def twccCalls (r : TwccReceiver) (calls : List TwccCall) : TwccReceiver := calls.foldl twccCall r

theorem twccCall_wellFormed (h : r.WellFormed) (call : TwccCall) :
    (twccCall r call).WellFormed := by
  cases call with
  | onPacket twccSeq recvTimeUs => exact rtcTwccReceiverOnPacket_wellFormed h twccSeq recvTimeUs
  | buildFeedback senderSsrc mediaSsrc cap =>
    show (rtcTwccReceiverBuildFeedback r senderSsrc mediaSsrc cap).2.WellFormed
    unfold rtcTwccReceiverBuildFeedback
    split
    · exact h
    · split
      · exact h
      · split
        · exact reset_wellFormed 0
        · dsimp only
          split
          -- the packet does not fit: only the counter has moved
          · exact ⟨h.length, h.count_le, h.seq, h.base, h.empty⟩
          · exact reset_wellFormed _

theorem twccCalls_wellFormed (h : r.WellFormed) (calls : List TwccCall) :
    (twccCalls r calls).WellFormed := by
  induction calls generalizing r with
  | nil => exact h
  | cons call calls ih => exact ih (twccCall_wellFormed h call)

theorem twccPacket_length (body : Bytes) (hbody : body.length < 2 ^ 16) :
    4 ∣ (twccPacket body).length
      ∧ (readU16 (twccPacket body) 2 + 1) * 4 = (twccPacket body).length := by
  have hlen : (twccPacket body).length
      = (body ++ replicate ((4 - body.length % 4) % 4) 0).length + 4 := by
    simp only [twccPacket, length_append, length_cons, length_nil, writeU16_length]
    omega
  have hpadded : (body ++ replicate ((4 - body.length % 4) % 4) (0 : UInt8)).length
      = body.length + (4 - body.length % 4) % 4 := by
    rw [length_append, length_replicate]
  have hfield : readU16 (twccPacket body) 2
      = (body ++ replicate ((4 - body.length % 4) % 4) 0).length / 4 :=
    readU16_writeU16 (by omega) []
  rw [hfield, hlen, hpadded]
  omega

/-- **The window and its feedback.** -/
theorem twccReceiver_interleaved (calls : List TwccCall) (senderSsrc mediaSsrc : UInt32)
    {r : TwccReceiver} (hr : r = twccCalls (reset 0) calls) :
    r.count ≤ 256
      ∧ (∀ i (e : TwccRecvEntry), r.window[i]? = some e → e.received = true →
        i < r.count ∧ e.seq = r.baseSeq + UInt16.ofNat i)
      ∧ (r.haveBase = true → ∃ e, r.window[0]? = some e ∧ e.received = true)
      ∧ (r.count ≠ 0 → ∃ out,
        rtcTwccReceiverBuildFeedback r senderSsrc mediaSsrc 1400
            = (.ok out, reset (r.fbPktCount + 1))
          ∧ out.length ≤ 1400 ∧ 4 ∣ out.length ∧ (readU16 out 2 + 1) * 4 = out.length) := by
  have h : r.WellFormed := by
    rw [hr]
    exact twccCalls_wellFormed (reset_wellFormed 0) calls
  refine ⟨h.count_le, h.seq, fun hbase => ?_, fun hcount => ?_⟩
  · obtain ⟨e, hhead, he⟩ := h.base hbase
    have hpos : 0 < r.count := by
      have hlen := h.entries_length
      cases hentries : r.entries with
      | nil => simp [hentries] at hhead
      | cons x xs => simp [hentries] at hlen; omega
    rw [entries_head? r hpos] at hhead
    exact ⟨e, hhead, he⟩
  · have hbase : r.haveBase = true := by
      cases hb : r.haveBase with
      | false => exact absurd (h.empty hb) hcount
      | true => rfl
    obtain ⟨first, -, -, -, hfirst⟩ := h.entries_eq_cons hbase
    have hle := twccFeedback_length_le h senderSsrc mediaSsrc first
    refine ⟨_, rtcTwccReceiverBuildFeedback_ok h hbase senderSsrc mediaSsrc (by decide) hfirst,
      by omega, ?_⟩
    apply twccPacket_length
    have hbody : ∀ body : Bytes, body.length ≤ (twccPacket body).length := fun body => by
      simp only [twccPacket, length_append]
      omega
    exact lt_of_le_of_lt ((hbody _).trans hle) (by decide)

def interleavedCalls : List TwccCall :=
  [.onPacket 65535 1000000, .onPacket 65535 1000500, .buildFeedback 1 2 33, .onPacket 3 1004000,
    .onPacket 65530 1005000, .onPacket 300 1006000]

theorem interleavedCalls_window :
    let r := twccCalls (reset 0) interleavedCalls
    r.count ≠ 0 ∧ ∃ out, rtcTwccReceiverBuildFeedback r 1 2 1400
        = (.ok out, reset (r.fbPktCount + 1))
      ∧ out.length ≤ 1400 ∧ 4 ∣ out.length ∧ (readU16 out 2 + 1) * 4 = out.length :=
  have hcount : (twccCalls (reset 0) interleavedCalls).count ≠ 0 := by decide +kernel
  ⟨hcount, (twccReceiver_interleaved interleavedCalls 1 2 rfl).2.2.2 hcount⟩

end Mrtc
