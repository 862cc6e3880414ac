import Mrtc.Basic.Err
import Mrtc.Lib.Bytes

/-! # The transport-cc receiver window (`rtc_twcc_receiver.c`)

`rtc_twcc_receiver_on_packet` records arrivals in a window of 256 entries that starts at the
first sequence number after a reset.
-/

namespace Mrtc

open Net List

def twccRecvWindow : Nat := 256

structure TwccRecvEntry where
  seq : UInt16 := 0
  recvTimeUs : Nat := 0
  received : Bool := false
  deriving DecidableEq, Inhabited

structure TwccReceiver where
  window : List TwccRecvEntry
  baseSeq : UInt16
  count : Nat
  haveBase : Bool
  fbPktCount : UInt8
  deriving DecidableEq

def TwccReceiver.reset (fbPktCount : UInt8) : TwccReceiver where
  window := replicate twccRecvWindow {}
  baseSeq := 0
  count := 0
  haveBase := false
  fbPktCount := fbPktCount

def seqAfter (a b : UInt16) : Int :=
  if (b - a).toNat < 2 ^ 15 then (b - a).toNat else (b - a).toNat - 2 ^ 16

def TwccReceiver.record (r : TwccReceiver) (delta : Nat) (seq : UInt16) (recvTimeUs : Nat) :
    TwccReceiver :=
  { r with
    count := if r.count < delta + 1 then delta + 1 else r.count
    window := if (r.window.getD delta {}).received then r.window
      else r.window.set delta ⟨seq, recvTimeUs, true⟩ }

def rtcTwccReceiverOnPacket (r : TwccReceiver) (twccSeq : UInt16) (recvTimeUs : Nat) :
    TwccReceiver :=
  if !r.haveBase then
    { r with
      baseSeq := twccSeq
      count := 1
      window := r.window.set 0 ⟨twccSeq, recvTimeUs, true⟩
      haveBase := true }
  else
    let delta := seqAfter r.baseSeq twccSeq
    if delta < 0 then r
    else if (twccRecvWindow : Int) ≤ delta then r
    else r.record delta.toNat twccSeq recvTimeUs

structure Arrival where
  seq : UInt16
  timeUs : Nat
  deriving DecidableEq

def twccRecord (r : TwccReceiver) (arrivals : List Arrival) : TwccReceiver :=
  arrivals.foldl (fun r a => rtcTwccReceiverOnPacket r a.seq a.timeUs) r

def TwccReceiver.entries (r : TwccReceiver) : List TwccRecvEntry := r.window.take r.count

/-! ## The window's invariant -/

/-- Offsets below `count` belong to the sequence numbers from the base on; the others are empty;
a window with a base has received it. -/
structure TwccReceiver.WellFormed (r : TwccReceiver) : Prop where
  length : r.window.length = twccRecvWindow
  count_le : r.count ≤ twccRecvWindow
  seq : ∀ i (e : TwccRecvEntry), r.window[i]? = some e → e.received = true →
    i < r.count ∧ e.seq = r.baseSeq + UInt16.ofNat i
  base : r.haveBase = true → ∃ e, r.entries.head? = some e ∧ e.received = true
  empty : r.haveBase = false → r.count = 0

theorem TwccReceiver.reset_wellFormed (c : UInt8) : (TwccReceiver.reset c).WellFormed where
  length := length_replicate
  count_le := Nat.zero_le _
  seq i e hi he := by
    have hmem := mem_of_getElem? hi
    rw [eq_of_mem_replicate hmem] at he
    cases he
  base h := by cases h
  empty _ := rfl

theorem seqAfter_eq {a b : UInt16} (h : 0 ≤ seqAfter a b) :
    b = a + UInt16.ofNat (seqAfter a b).toNat ∧ (seqAfter a b).toNat < 2 ^ 15 := by
  unfold seqAfter at h ⊢
  have hlt := UInt16.toNat_lt (b - a)
  by_cases hd : (b - a).toNat < 2 ^ 15
  · rw [if_pos hd, Int.toNat_natCast, UInt16.ofNat_toNat]
    exact ⟨by rw [UInt16.add_comm, UInt16.sub_add_cancel], hd⟩
  · rw [if_neg hd] at h
    omega

theorem TwccReceiver.entries_head? (r : TwccReceiver) (h : 0 < r.count) :
    r.entries.head? = r.window[0]? := by
  unfold TwccReceiver.entries
  rw [head?_take, if_neg (by omega), head?_eq_getElem?]

variable {r : TwccReceiver}

theorem TwccReceiver.WellFormed.start (h : r.WellFormed)
    (hbase : r.haveBase = false) (seq : UInt16) (t : Nat) :
    TwccReceiver.WellFormed { r with baseSeq := seq, count := 1,
                                     window := r.window.set 0 ⟨seq, t, true⟩,
                                     haveBase := true } := by
  have hlen := h.length
  refine ⟨?_, ?_, ?_, ?_, ?_⟩
  · rw [length_set, hlen]
  · show 1 ≤ twccRecvWindow
    decide
  · intro i e hi he
    by_cases hi0 : i = 0
    · subst hi0
      have hset : (r.window.set 0 ⟨seq, t, true⟩)[0]? = some ⟨seq, t, true⟩ :=
        getElem?_set_self (by rw [hlen]; decide)
      rw [hset] at hi
      cases hi
      exact ⟨Nat.one_pos, by simp⟩
    · rw [getElem?_set_ne (by omega)] at hi
      have hcount := (h.seq i e hi he).1
      rw [h.empty hbase] at hcount
      omega
  · intro _
    refine ⟨⟨seq, t, true⟩, ?_, rfl⟩
    rw [TwccReceiver.entries_head? _ Nat.one_pos]
    exact getElem?_set_self (by rw [hlen]; decide)
  · intro hb
    cases hb

theorem TwccReceiver.record_getElem? {delta : Nat} {seq : UInt16} {t i : Nat} {e : TwccRecvEntry}
    (h : (r.record delta seq t).window[i]? = some e) :
    r.window[i]? = some e ∨ (i = delta ∧ e = ⟨seq, t, true⟩) := by
  unfold TwccReceiver.record at h
  split at h
  · exact .inl h
  · by_cases hi : i = delta
    · grind
    · rw [getElem?_set_ne (Ne.symm hi)] at h
      exact .inl h

theorem TwccReceiver.record_head {e : TwccRecvEntry} (h : r.window[0]? = some e)
    (he : e.received = true) (delta : Nat) (seq : UInt16) (t : Nat) :
    (r.record delta seq t).window[0]? = some e := by
  unfold TwccReceiver.record
  split
  · exact h
  · grind

theorem TwccReceiver.WellFormed.record (h : r.WellFormed) (hbase : r.haveBase = true) {delta : Nat}
    (hdelta : delta < twccRecvWindow) {seq : UInt16} (hseq : seq = r.baseSeq + UInt16.ofNat delta)
    (t : Nat) : (r.record delta seq t).WellFormed := by
  have hcount : (r.record delta seq t).count = max r.count (delta + 1) := by
    show (if r.count < delta + 1 then delta + 1 else r.count) = _
    split <;> omega
  obtain ⟨e₀, he₀, hrecv⟩ := h.base hbase
  have hpos : 0 < r.count := by grind [TwccReceiver.entries]
  refine ⟨?_, ?_, ?_, ?_, ?_⟩
  · unfold TwccReceiver.record
    split
    · exact h.length
    · rw [length_set, h.length]
  · rw [hcount]
    have := h.count_le
    omega
  · intro i e hi he
    rw [hcount]
    rcases TwccReceiver.record_getElem? hi with hold | ⟨rfl, rfl⟩
    · obtain ⟨hlt, hs⟩ := h.seq i e hold he
      exact ⟨by omega, hs⟩
    · exact ⟨by omega, hseq⟩
  · grind [TwccReceiver.entries_head?, TwccReceiver.record_head]
  · intro hno
    exact absurd (hbase.symm.trans hno) (by decide)

theorem rtcTwccReceiverOnPacket_cases (r : TwccReceiver) (seq : UInt16) (t : Nat) :
    (r.haveBase = false ∧ rtcTwccReceiverOnPacket r seq t
      = { r with baseSeq := seq, count := 1, window := r.window.set 0 ⟨seq, t, true⟩,
                 haveBase := true })
    ∨ (r.haveBase = true ∧ rtcTwccReceiverOnPacket r seq t = r)
    ∨ (r.haveBase = true ∧ ∃ delta, delta < twccRecvWindow
      ∧ seq = r.baseSeq + UInt16.ofNat delta
      ∧ rtcTwccReceiverOnPacket r seq t = r.record delta seq t) := by
  unfold rtcTwccReceiverOnPacket
  cases hbase : r.haveBase with
  | false => exact .inl ⟨rfl, by simp⟩
  | true =>
    right
    rw [if_neg (by decide)]
    by_cases hneg : seqAfter r.baseSeq seq < 0
    · exact .inl ⟨rfl, if_pos hneg⟩
    · by_cases hover : (twccRecvWindow : Int) ≤ seqAfter r.baseSeq seq
      · exact .inl ⟨rfl, by simp only [if_neg hneg, if_pos hover]⟩
      · grind [seqAfter_eq]

theorem rtcTwccReceiverOnPacket_wellFormed (h : r.WellFormed) (seq : UInt16) (t : Nat) :
    (rtcTwccReceiverOnPacket r seq t).WellFormed := by
  rcases rtcTwccReceiverOnPacket_cases r seq t with
    ⟨hbase, heq⟩ | ⟨_, heq⟩ | ⟨hbase, delta, hd, hs, heq⟩
  · rw [heq]
    exact h.start hbase seq t
  · rw [heq]
    exact h
  · rw [heq]
    exact h.record hbase hd hs t

/-- **The window is well formed after any arrivals.** -/
theorem twccRecord_wellFormed (h : r.WellFormed) (arrivals : List Arrival) :
    (twccRecord r arrivals).WellFormed := by
  induction arrivals generalizing r with
  | nil => exact h
  | cons a as ih => exact ih (rtcTwccReceiverOnPacket_wellFormed h a.seq a.timeUs)

theorem twccRecord_received {P : TwccRecvEntry → Prop} (h : ∀ e ∈ r.window, e.received = true → P e)
    {arrivals : List Arrival} (ha : ∀ a ∈ arrivals, P ⟨a.seq, a.timeUs, true⟩) :
    ∀ e ∈ (twccRecord r arrivals).window, e.received = true → P e := by
  induction arrivals generalizing r with
  | nil => exact h
  | cons a as ih =>
    refine ih ?_ fun b hb => ha b (mem_cons_of_mem _ hb)
    have hnew := ha a mem_cons_self
    intro e he hrecv
    change e ∈ (rtcTwccReceiverOnPacket r a.seq a.timeUs).window at he
    rcases rtcTwccReceiverOnPacket_cases r a.seq a.timeUs with
      ⟨_, heq⟩ | ⟨_, heq⟩ | ⟨_, delta, _, _, heq⟩
    · grind
    · rw [heq] at he
      exact h e he hrecv
    · rw [heq] at he
      obtain ⟨i, hi⟩ := mem_iff_getElem?.mp he
      rcases TwccReceiver.record_getElem? hi with hold | ⟨_, rfl⟩
      · exact h e (mem_of_getElem? hold) hrecv
      · exact hnew

end Mrtc
