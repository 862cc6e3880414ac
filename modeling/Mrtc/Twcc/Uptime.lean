import Mrtc.Twcc.RoundTrip

/-! # Transport-cc feedback and the uptime of the clock

The reference time on the wire is the arrival clock modulo `2^24 * 64` ms, but the builder also
starts its running clock from the reduced value, and takes the deltas of the unreduced arrival
times against it.
-/

namespace Mrtc

open Net List TwccReceiver TwccMark

/-! ## Adding to every arrival time -/

def Arrival.later (a : Arrival) (k : Nat) : Arrival := { a with timeUs := a.timeUs + k }

def TwccRecvEntry.later (k : Nat) (e : TwccRecvEntry) : TwccRecvEntry :=
  if e.received then { e with recvTimeUs := e.recvTimeUs + k } else e

def TwccReceiver.later (r : TwccReceiver) (k : Nat) : TwccReceiver :=
  { r with window := r.window.map (TwccRecvEntry.later k) }

@[simp] theorem TwccRecvEntry.later_received (k : Nat) (e : TwccRecvEntry) :
    (e.later k).received = e.received := by
  unfold TwccRecvEntry.later
  split <;> rfl

variable {e : TwccRecvEntry} {r : TwccReceiver} {cap : Nat}

theorem TwccRecvEntry.later_of_received (he : e.received = true) (k : Nat) :
    (e.later k).recvTimeUs = e.recvTimeUs + k := by
  unfold TwccRecvEntry.later
  rw [if_pos he]

theorem TwccReceiver.later_record (r : TwccReceiver) (k delta : Nat) (seq : UInt16) (t : Nat) :
    (r.later k).record delta seq (t + k) = (r.record delta seq t).later k := by
  have hget : ((r.window.map (TwccRecvEntry.later k)).getD delta {}).received
      = (r.window.getD delta {}).received := by
    grind [TwccRecvEntry.later_received]
  unfold record later
  simp only [hget]
  congr 1
  split
  · rfl
  · rw [map_set]
    rfl

theorem rtcTwccReceiverOnPacket_later (r : TwccReceiver) (k : Nat) (seq : UInt16) (t : Nat) :
    rtcTwccReceiverOnPacket (r.later k) seq (t + k)
      = (rtcTwccReceiverOnPacket r seq t).later k := by
  have hbase : (r.later k).haveBase = r.haveBase := rfl
  have hseq : (r.later k).baseSeq = r.baseSeq := rfl
  unfold rtcTwccReceiverOnPacket
  simp only [hbase, hseq]
  by_cases hb : (!r.haveBase) = true
  · rw [if_pos hb, if_pos hb]
    unfold later
    simp only [map_set]
    rfl
  · rw [if_neg hb, if_neg hb]
    by_cases hneg : seqAfter r.baseSeq seq < 0
    · rw [if_pos hneg, if_pos hneg]
    · rw [if_neg hneg, if_neg hneg]
      by_cases hover : (twccRecvWindow : Int) ≤ seqAfter r.baseSeq seq
      · rw [if_pos hover, if_pos hover]
      · rw [if_neg hover, if_neg hover]
        exact r.later_record k _ seq t

theorem twccRecord_later (r : TwccReceiver) (k : Nat) (arrivals : List Arrival) :
    twccRecord (r.later k) (arrivals.map (·.later k)) = (twccRecord r arrivals).later k := by
  induction arrivals generalizing r with
  | nil => rfl
  | cons a as ih =>
    show twccRecord (rtcTwccReceiverOnPacket (r.later k) a.seq (a.timeUs + k)) _ = _
    rw [rtcTwccReceiverOnPacket_later, ih]
    rfl

theorem TwccReceiver.reset_later (c : UInt8) (k : Nat) :
    (reset c).later k = reset c := by
  unfold later reset
  rw [map_replicate]
  rfl

theorem TwccReceiver.later_entries (r : TwccReceiver) (k : Nat) :
    (r.later k).entries = r.entries.map (TwccRecvEntry.later k) := map_take.symm

theorem twccRefTime_later (he : e.received = true) (n : Nat) :
    twccRefTime (e.later (n * twccClockRange)) = twccRefTime e := by
  unfold twccRefTime
  rw [TwccRecvEntry.later_of_received he]
  unfold twccClockRange
  omega

/-! ## What the builder reports -/

/-- A 16-bit delta cannot express the time. -/
def OutOfReach (prevUs t : Nat) : Prop :=
  ¬(-2 ^ 15 ≤ twccTicks prevUs t ∧ twccTicks prevUs t ≤ 2 ^ 15 - 1)

theorem twccMarks_outOfReach {prevUs : Nat} {es : List TwccRecvEntry}
    (h : ∀ e ∈ es, e.received = true → OutOfReach prevUs e.recvTimeUs) :
    twccMarks prevUs es = es.map fun _ => ⟨.notRecv, 0⟩ := by
  induction es with
  | nil => rfl
  | cons e es ih =>
    have hmark : twccMark prevUs e = ⟨.notRecv, 0⟩ := by
      cases he : e.received with
      | false => exact twccMark_missing he
      | true =>
        rcases twccMark_received he with ⟨hmark, _⟩ | ⟨_, _, _, hin⟩
        · exact hmark
        · exact absurd hin (h e mem_cons_self he)
    rw [twccMarks, hmark, map_cons]
    congr 1
    exact ih fun x hx => h x (mem_cons_of_mem _ hx)

theorem outOfReach_of_late {prevUs t : Nat} (hp : prevUs < 2 ^ 63) (ht : t < 2 ^ 63)
    (h : prevUs + 2 ^ 15 * 250 ≤ t) : OutOfReach prevUs t := by
  unfold OutOfReach twccTicks
  rw [show asInt64 prevUs = prevUs from if_pos hp, show asInt64 t = t from if_pos ht]
  have hticks := (tdiv_tick_bounds ((t : Int) - prevUs)).1 (by omega)
  omega

theorem flatMap_seen_head {fuel : Nat} {s : TwccStatus} (hs : s ≠ .reserved)
    (ss : List TwccStatus) :
    ((twccChunks (fuel + 1) (s :: ss)).flatMap TwccChunk.seen).head? = some s := by
  rw [twccChunks]
  by_cases hrun : 3 ≤ twccRun s ss ∨ s = .largeDelta
  · simp only [if_pos hrun, flatMap_cons, TwccChunk.seen]
    obtain ⟨n, hn⟩ := Nat.exists_eq_add_of_le (twccRun_pos s ss)
    rw [hn, Nat.add_comm 1 n, replicate_succ]
    rfl
  · simp only [if_neg hrun, flatMap_cons, TwccChunk.seen]
    rw [not_or] at hrun
    have hbit : s.oneBit = s := (TwccStatus.oneBit_eq_iff hs).mpr hrun.2
    show some s.oneBit = some s
    rw [hbit]

theorem head_status_of_packet_eq {r : TwccReceiver} (s m : UInt32) {ref : Nat}
    {marks marks' : List TwccMark} (hcount : r.count < 2 ^ 16) (hpos : 1 ≤ r.count)
    (href : ref < 2 ^ 24) (hlen : marks.length = r.count) (hlen' : marks'.length = r.count)
    (hres : .reserved ∉ marks.map status) (hres' : .reserved ∉ marks'.map status)
    (heq : twccPacket (twccBody r s m ref marks) = twccPacket (twccBody r s m ref marks')) :
    (marks.map status).head? = (marks'.map status).head? := by
  obtain ⟨_, _, _, _, _, pad, hread⟩ := twccPacket_fields s m hcount href hlen rfl
  obtain ⟨_, _, _, _, _, pad', hread'⟩ := twccPacket_fields s m hcount href hlen' rfl
  rw [heq] at hread
  have hseen := congrArg Prod.fst (Except.ok.inj (hread.symm.trans hread'))
  have hhead : ∀ {ms : List TwccMark}, ms.length = r.count →
      .reserved ∉ ms.map status →
      ((twccChunks ms.length (ms.map status)).flatMap TwccChunk.seen).head?
        = (ms.map status).head? := by
    intro ms hms hresm
    cases ms with
    | nil =>
      rw [← hms] at hpos
      exact absurd hpos (by decide)
    | cons mk ms => grind [flatMap_seen_head]
  rw [← hhead hlen hres, ← hhead hlen' hres']
  exact congrArg List.head? hseen

theorem twccFeedback_later (s m : UInt32) {first : TwccRecvEntry}
    (hfirst : first.received = true) (n : Nat) :
    twccFeedback (r.later (n * twccClockRange)) s m (first.later (n * twccClockRange))
      = twccPacket (twccBody r s m (twccRefTime first) (twccMarks (twccRefTime first * 64000)
          (r.entries.map (TwccRecvEntry.later (n * twccClockRange))))) := by
  unfold twccFeedback
  rw [twccRefTime_later hfirst, later_entries]
  rfl

/-! ## Runs of arrivals -/

theorem twccRecord_head (hbase : r.haveBase = true) (h : r.window[0]? = some e)
    (he : e.received = true) (arrivals : List Arrival) :
    (twccRecord r arrivals).window[0]? = some e := by
  induction arrivals generalizing r with
  | nil => exact h
  | cons a as ih =>
    refine ih (rtcTwccReceiverOnPacket_haveBase r a.seq a.timeUs) ?_
    show (rtcTwccReceiverOnPacket r a.seq a.timeUs).window[0]? = some e
    rcases rtcTwccReceiverOnPacket_cases r a.seq a.timeUs with
      ⟨hno, _⟩ | ⟨_, heq⟩ | ⟨_, delta, _, _, heq⟩
    · exact absurd (hbase.symm.trans hno) (by decide)
    · rw [heq]
      exact h
    · rw [heq]
      exact record_head h he delta a.seq a.timeUs

theorem twccRecord_find (c : UInt8) (a : Arrival) (as : List Arrival) :
    (twccRecord (reset c) (a :: as)).entries.find? (·.received)
      = some ⟨a.seq, a.timeUs, true⟩ := by
  have hstart : rtcTwccReceiverOnPacket (reset c) a.seq a.timeUs
      = { reset c with
          baseSeq := a.seq, count := 1, haveBase := true
          window := (reset c).window.set 0 ⟨a.seq, a.timeUs, true⟩ } := rfl
  set r := twccRecord (reset c) (a :: as) with hr
  have hwf : r.WellFormed := twccRecord_wellFormed (reset_wellFormed c) (a :: as)
  have hbase : r.haveBase = true :=
    twccRecord_haveBase (rtcTwccReceiverOnPacket_haveBase _ a.seq a.timeUs) as
  have h0 : r.window[0]? = some ⟨a.seq, a.timeUs, true⟩ := by
    refine twccRecord_head (rtcTwccReceiverOnPacket_haveBase _ a.seq a.timeUs) ?_ rfl as
    rw [hstart]
    exact getElem?_set_self
      (by rw [(reset_wellFormed c).length]; decide)
  obtain ⟨first, rest, hcons, _, hfind⟩ := hwf.entries_eq_cons hbase
  have hpos : 0 < r.count := by
    rw [← hwf.entries_length, hcons]
    exact Nat.succ_pos _
  have hhead := r.entries_head? hpos
  rw [hcons, h0] at hhead
  cases hhead
  exact hfind

theorem find_later {es : List TwccRecvEntry} {first : TwccRecvEntry}
    (h : es.find? (·.received) = some first) (k : Nat) :
    (es.map (TwccRecvEntry.later k)).find? (·.received) = some (first.later k) := by
  rw [find?_map]
  have hcomp : ((fun e : TwccRecvEntry => e.received) ∘ TwccRecvEntry.later k)
      = fun e => e.received := by
    funext e
    exact TwccRecvEntry.later_received k e
  rw [hcomp, h]
  rfl

theorem feedback_of_runs (c : UInt8) (a : Arrival) (as : List Arrival) (k : Nat) (s m : UInt32)
    (hcap : 1200 ≤ cap) (hr : r = twccRecord (reset c) (a :: as)) :
    (rtcTwccReceiverBuildFeedback r s m cap).1
        = .ok (twccFeedback r s m ⟨a.seq, a.timeUs, true⟩)
      ∧ (rtcTwccReceiverBuildFeedback
          (twccRecord (reset c) ((a :: as).map (·.later k))) s m cap).1
        = .ok (twccFeedback (r.later k) s m (TwccRecvEntry.later k ⟨a.seq, a.timeUs, true⟩)) := by
  have hwf : ∀ xs, (twccRecord (reset c) xs).WellFormed := fun xs =>
    twccRecord_wellFormed (reset_wellFormed c) xs
  have hbase : ∀ x xs, (twccRecord (reset c) (x :: xs)).haveBase = true :=
    fun x xs => twccRecord_haveBase (rtcTwccReceiverOnPacket_haveBase _ x.seq x.timeUs) xs
  have hlater : twccRecord (reset c) ((a :: as).map (·.later k)) = r.later k := by
    have hcomm := twccRecord_later (reset c) k (a :: as)
    rw [reset_later, ← hr] at hcomm
    exact hcomm
  have hfind := twccRecord_find c a as
  rw [← hr] at hfind
  have hfind' : (r.later k).entries.find? (·.received)
      = some (TwccRecvEntry.later k ⟨a.seq, a.timeUs, true⟩) := by
    rw [later_entries]
    exact find_later hfind k
  constructor
  · rw [rtcTwccReceiverBuildFeedback_ok (hr ▸ hwf _) (hr ▸ hbase a as) s m hcap hfind]
  · have hwf' := hwf ((a :: as).map (·.later k))
    have hbase' : (twccRecord (reset c)
        ((a :: as).map (·.later k))).haveBase = true :=
      hbase (a.later k) (as.map fun x : Arrival => x.later k)
    rw [hlater] at hwf' hbase' ⊢
    rw [rtcTwccReceiverBuildFeedback_ok hwf' hbase' s m hcap hfind']

/-- Where the builder starts its clock for a list of arrivals: the first of them, rounded down
to 64 ms and reduced modulo the period. -/
def clockBase : List Arrival → Nat
  | [] => 0
  | a :: _ => a.timeUs / 64000 % 2 ^ 24 * 64000

theorem clockBase_lt (arrivals : List Arrival) : clockBase arrivals < twccClockRange := by
  unfold twccClockRange
  cases arrivals with
  | nil => decide
  | cons a as =>
    show a.timeUs / 64000 % 2 ^ 24 * 64000 < 2 ^ 24 * 64000
    omega

/-- Recording the same arrivals `k` microseconds later gives the same result of
`rtc_twcc_receiver_build_feedback`, byte for byte. -/
def SameFeedback (c : UInt8) (arrivals : List Arrival) (k : Nat) (s m : UInt32) (cap : Nat) :
    Prop :=
  (rtcTwccReceiverBuildFeedback
      (twccRecord (reset c) (arrivals.map (·.later k))) s m cap).1
    = (rtcTwccReceiverBuildFeedback (twccRecord (reset c) arrivals) s m cap).1

theorem feedback_eq_of_outOfReach (c : UInt8) {arrivals : List Arrival} {n k : Nat}
    (hk : k = n * twccClockRange) (s m : UInt32) (hcap : 1200 ≤ cap)
    (h : ∀ a ∈ arrivals, OutOfReach (clockBase arrivals) a.timeUs
      ∧ OutOfReach (clockBase arrivals) (a.timeUs + k)) : SameFeedback c arrivals k s m cap := by
  unfold SameFeedback
  cases arrivals with
  | nil => rfl
  | cons a as =>
    obtain ⟨hnow, hlater⟩ := feedback_of_runs c a as k s m hcap rfl
    rw [hnow, hlater, hk, twccFeedback_later s m rfl n]
    set r := twccRecord (reset c) (a :: as) with hr
    have hwindow : ∀ e ∈ r.window, e.received = true →
        OutOfReach (clockBase (a :: as)) e.recvTimeUs
          ∧ OutOfReach (clockBase (a :: as)) (e.recvTimeUs + k) := by
      refine twccRecord_received (P := fun e => OutOfReach (clockBase (a :: as)) e.recvTimeUs
          ∧ OutOfReach (clockBase (a :: as)) (e.recvTimeUs + k)) ?_ h
      intro e he hrecv
      rw [eq_of_mem_replicate he] at hrecv
      cases hrecv
    have hmem : ∀ e ∈ r.entries, e ∈ r.window := fun e he => mem_of_mem_take he
    have hmarks : twccMarks (clockBase (a :: as)) r.entries
        = r.entries.map fun _ => ⟨.notRecv, 0⟩ :=
      twccMarks_outOfReach fun e he hrecv => (hwindow e (hmem e he) hrecv).1
    have hmarks' : twccMarks (clockBase (a :: as)) (r.entries.map (TwccRecvEntry.later k))
        = (r.entries.map (TwccRecvEntry.later k)).map fun _ => ⟨.notRecv, 0⟩ := by
      apply twccMarks_outOfReach
      intro e he hrecv
      obtain ⟨e', he', rfl⟩ := mem_map.mp he
      rw [TwccRecvEntry.later_received] at hrecv
      rw [TwccRecvEntry.later_of_received hrecv]
      exact (hwindow e' (hmem e' he') hrecv).2
    rw [map_map] at hmarks'
    rw [← hk]
    exact congrArg (fun ms => Except.ok (twccPacket (twccBody r s m _ ms)))
      (hmarks'.trans hmarks.symm)

theorem refBase_le (t : Nat) : t / 64000 % 2 ^ 24 * 64000 ≤ t := by
  omega

theorem refBase_period {t : Nat} (h : twccClockRange ≤ t) :
    t / 64000 % 2 ^ 24 * 64000 + 2 ^ 15 * 250 ≤ t := by
  have hunits : 2 ^ 24 ≤ t / 64000 := (Nat.le_div_iff_mul_le (by decide)).mpr h
  have hfloor : t / 64000 * 64000 ≤ t := Nat.div_mul_le_self _ _
  generalize t / 64000 = q at hunits hfloor ⊢
  have hmod : q % 2 ^ 24 + 2 ^ 24 ≤ q := by omega
  calc q % 2 ^ 24 * 64000 + 2 ^ 15 * 250
      ≤ (q % 2 ^ 24 + 2 ^ 24) * 64000 := by
        rw [Nat.add_mul]
        exact Nat.add_le_add_left (by norm_num) _
    _ ≤ q * 64000 := Nat.mul_le_mul_right _ hmod
    _ ≤ t := hfloor

theorem reach_lt_period : 2 ^ 15 * 250 < twccClockRange := by
  norm_num [twccClockRange]

theorem feedback_ne_of_first (c : UInt8) {a : Arrival} (as : List Arrival) {n k : Nat}
    (hk : k = n * twccClockRange) (hn : 1 ≤ n) (hclock : a.timeUs + k < 2 ^ 63)
    (ha : a.timeUs < twccClockRange) (s m : UInt32) (hcap : 1200 ≤ cap) :
    ¬SameFeedback c (a :: as) k s m cap := by
  unfold SameFeedback
  set first : TwccRecvEntry := ⟨a.seq, a.timeUs, true⟩ with hfirst
  obtain ⟨hnow, hlater⟩ := feedback_of_runs c a as k s m hcap rfl
  have hfind := twccRecord_find c a as
  have hwf := twccRecord_wellFormed (reset_wellFormed c) (a :: as)
  have hbase := twccRecord_haveBase
    (rtcTwccReceiverOnPacket_haveBase (reset c) a.seq a.timeUs) as
  rw [hnow, hlater, hk, twccFeedback_later s m rfl n, ← hk]
  change (twccRecord (reset c) (a :: as)).haveBase = true at hbase
  generalize twccRecord (reset c) (a :: as) = r at hfind hwf hbase
  obtain ⟨e, rest, hcons, _, hfind'⟩ := hwf.entries_eq_cons hbase
  obtain rfl : e = first := Option.some.inj (hfind'.symm.trans hfind)
  have href : twccRefTime first * 64000 < twccClockRange := clockBase_lt (a :: as)
  have hperiod : twccClockRange ≤ k := by
    rw [hk]
    exact Nat.le_mul_of_pos_left _ hn
  -- the same first entry: reported now, out of reach later
  have hnowStatus : (twccMark (twccRefTime first * 64000) first).status ≠ .notRecv := by
    have ha' : first.recvTimeUs < twccClockRange := ha
    have hclose := twccRefTime_close ha'
    apply reported_of_close href rfl ha'
    rw [abs_lt] at hclose ⊢
    omega
  have hlaterMark : twccMark (twccRefTime first * 64000) (first.later k) = ⟨.notRecv, 0⟩ := by
    have hout : OutOfReach (twccRefTime first * 64000) (a.timeUs + k) := by
      have hle : twccRefTime first * 64000 ≤ a.timeUs := refBase_le a.timeUs
      have hfar := Nat.add_le_add hle (reach_lt_period.le.trans hperiod)
      exact outOfReach_of_late ((hle.trans (Nat.le_add_right _ _)).trans_lt hclock) hclock hfar
    have hrecv : (first.later k).received = true := rfl
    rcases twccMark_received hrecv with ⟨hmark, _⟩ | ⟨_, _, _, hin⟩
    · exact hmark
    · exact absurd hin hout
  intro heq
  have hlen := hwf.entries_length
  have hhead := @head_status_of_packet_eq r s m (twccRefTime first)
    (twccMarks (twccRefTime first * 64000) (r.entries.map (TwccRecvEntry.later k)))
    (twccMarks (twccRefTime first * 64000) r.entries)
    (hwf.count_le.trans_lt (by decide)) (by rw [← hlen, hcons]; exact Nat.succ_pos _)
    (Nat.mod_lt _ (by decide)) (by rw [twccMarks_length, length_map, hlen])
    (by rw [twccMarks_length, hlen]) (twccMarks_not_reserved _ _) (twccMarks_not_reserved _ _)
    (Except.ok.inj heq)
  rw [hcons, map_cons, twccMarks, twccMarks, hlaterMark] at hhead
  exact hnowStatus (Option.some.inj hhead).symm

/-- **Feedback and uptime.** -/
theorem twcc_feedback_uptime (c : UInt8) (arrivals : List Arrival) (n : Nat)
    (hclock : ∀ a ∈ arrivals, a.timeUs + n * twccClockRange < 2 ^ 63)
    (senderSsrc mediaSsrc : UInt32) {cap : Nat} (hcap : 1200 ≤ cap) :
    ((∀ a ∈ arrivals, OutOfReach (clockBase arrivals) a.timeUs
        ∧ OutOfReach (clockBase arrivals) (a.timeUs + n * twccClockRange)) →
      SameFeedback c arrivals (n * twccClockRange) senderSsrc mediaSsrc cap)
    ∧ (arrivals.Pairwise (fun a b => a.timeUs ≤ b.timeUs) →
      (SameFeedback c arrivals (n * twccClockRange) senderSsrc mediaSsrc cap
        ↔ n = 0 ∨ ∀ a ∈ arrivals.head?, twccClockRange ≤ a.timeUs)) := by
  refine ⟨feedback_eq_of_outOfReach c rfl senderSsrc mediaSsrc hcap, fun horder => ?_⟩
  cases arrivals with
  | nil => exact ⟨fun _ => .inr fun a ha => absurd ha (by simp), fun _ => rfl⟩
  | cons a as =>
    constructor
    · intro hsame
      by_contra hcond
      rw [not_or] at hcond
      obtain ⟨hn, hfirst⟩ := hcond
      have ha : a.timeUs < twccClockRange := by grind
      exact feedback_ne_of_first c as rfl (Nat.pos_of_ne_zero hn)
        (hclock a mem_cons_self) ha senderSsrc mediaSsrc hcap hsame
    · rintro (rfl | hfirst)
      · unfold SameFeedback
        have hid : (fun x : Arrival => x.later (0 * twccClockRange)) = id := by
          rw [Nat.zero_mul]
          rfl
        rw [hid, map_id]
      · -- every arrival is more than the reach of a delta after the base
        apply feedback_eq_of_outOfReach c rfl senderSsrc mediaSsrc hcap
        intro b hb
        have hab : a.timeUs ≤ b.timeUs := by grind [pairwise_cons]
        have hbase : clockBase (a :: as) + 2 ^ 15 * 250 ≤ a.timeUs :=
          refBase_period (hfirst a rfl)
        have hbk := hclock b hb
        have hlater := Nat.le_add_right b.timeUs (n * twccClockRange)
        have hlt : clockBase (a :: as) < 2 ^ 63 :=
          ((Nat.le_add_right _ _).trans (hbase.trans (hab.trans hlater))).trans_lt hbk
        exact ⟨outOfReach_of_late hlt (hlater.trans_lt hbk) (hbase.trans hab),
          outOfReach_of_late hlt hbk (hbase.trans (hab.trans hlater))⟩

def earlyArrivals : List Arrival := [⟨10, 500000⟩, ⟨11, 520000⟩, ⟨13, 560000⟩]

/-- A period later they give the same feedback as two periods after that. -/
theorem early_feedback_uptime :
    SameFeedback 0 (earlyArrivals.map (·.later twccClockRange)) (2 * twccClockRange) 1 2 1400 := by
  have hclock : ∀ a ∈ earlyArrivals.map (·.later twccClockRange),
      a.timeUs + 2 * twccClockRange < 2 ^ 63 := by decide +kernel
  have horder : (earlyArrivals.map (·.later twccClockRange)).Pairwise
      (fun a b => a.timeUs ≤ b.timeUs) := by decide +kernel
  have hfirst : ∀ a ∈ (earlyArrivals.map (·.later twccClockRange)).head?,
      twccClockRange ≤ a.timeUs := by
    rintro a ⟨⟩
    exact Nat.le_add_left _ _
  have hcap : 1200 ≤ 1400 := by decide
  exact ((twcc_feedback_uptime 0 _ 2 hclock 1 2 hcap).2 horder).mpr (.inr hfirst)

/-- One arrival after one second of uptime: the packet a period later is another one. -/
theorem later_arrival_not_reported :
    ¬SameFeedback 0 [⟨1, 1000000⟩] (1 * twccClockRange) 1 2 1400 := by
  unfold SameFeedback
  decide +kernel

end Mrtc
