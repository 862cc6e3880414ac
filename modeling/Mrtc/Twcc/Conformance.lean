import Mrtc.Lib.Digits
import Mrtc.Twcc.Wire

/-! # Feedback of other implementations

A transport-cc feedback packet as the draft defines it: the statuses of the packets, spread over
chunks of any of the three forms, and a receive delta for every packet that was received, unsigned
in one byte or signed in two, from a signed reference time on. `parseTwcc_conforms_iff` says for
which of these packets `rtc_rtcp_parse_twcc` finds the arrival times of the draft.
-/

namespace Mrtc

open Net List TwccStatus Digits

/-! ## The draft -/

inductive DraftChunk where
  | runLength (symbol : TwccStatus) (run : Fin (2 ^ 13))
  | oneBit (received : { bits : List Bool // bits.length = 14 })
  | twoBit (symbols : { symbols : List TwccStatus // symbols.length = 7 })

def DraftChunk.symbols : DraftChunk → List TwccStatus
  | .runLength symbol run => replicate run symbol
  | .oneBit received => received.val.map fun r => if r then .smallDelta else .notRecv
  | .twoBit symbols => symbols.val

def DraftChunk.word : DraftChunk → Nat
  | .runLength symbol run => symbol.code * 2 ^ 13 + run
  | .oneBit received => value 2 0b10 (received.val.map Bool.toNat)
  | .twoBit symbols => value 4 0b11 (symbols.val.map code)

inductive DraftStatus where
  | notReceived
  | small (ticks : UInt8)
  | large (ticks : Int16)
  deriving DecidableEq

open DraftStatus

def DraftStatus.symbol : DraftStatus → TwccStatus
  | .notReceived => .notRecv
  | .small _ => .smallDelta
  | .large _ => .largeDelta

def DraftStatus.bytes : DraftStatus → Bytes
  | .notReceived => []
  | .small ticks => [ticks]
  | .large ticks => writeU16 ticks.toUInt16.toNat

structure DraftFeedback where
  senderSsrc : UInt32
  mediaSsrc : UInt32
  baseSeq : UInt16
  referenceTime : Fin (2 ^ 24)
  fbPktCount : UInt8
  statuses : List DraftStatus
  chunks : List DraftChunk
  padded : Bool
  padding : Bytes
  count : statuses.length < 2 ^ 16
  covered : (chunks.flatMap DraftChunk.symbols).take statuses.length
    = statuses.map symbol
  needed : (chunks.dropLast.flatMap DraftChunk.symbols).length < statuses.length

def DraftFeedback.payload (f : DraftFeedback) : Bytes :=
  f.chunks.flatMap (fun c => writeU16 c.word)
    ++ (f.statuses.flatMap bytes ++ f.padding)

def DraftFeedback.bytes (f : DraftFeedback) : Bytes :=
  [if f.padded then 0xAF else 0x8F, 205] ++ writeU16 ((20 + f.payload.length) / 4 - 1)
    ++ writeU32 f.senderSsrc.toNat ++ writeU32 f.mediaSsrc.toNat ++ writeU16 f.baseSeq.toNat
    ++ writeU16 f.statuses.length ++ writeU24 f.referenceTime ++ [f.fbPktCount] ++ f.payload

def arrivalTimes (small : UInt8 → Int) : Int → List DraftStatus → List (Option Nat)
  | _, [] => []
  | us, .notReceived :: ss => none :: arrivalTimes small us ss
  | us, .small ticks :: ss =>
    let us := us + small ticks * twccTickUs
    some (us % 2 ^ 64).toNat :: arrivalTimes small us ss
  | us, .large ticks :: ss =>
    let us := us + ticks.toInt * twccTickUs
    some (us % 2 ^ 64).toNat :: arrivalTimes small us ss

def DraftFeedback.report (f : DraftFeedback) (small : UInt8 → Int) (reference : Int) :
    TwccReport :=
  { senderSsrc := f.senderSsrc.toNat
    mediaSsrc := f.mediaSsrc.toNat
    baseSeq := f.baseSeq
    fbPktCount := f.fbPktCount.toNat
    referenceTimeUs := (reference % 2 ^ 64).toNat
    items := (arrivalTimes small reference f.statuses).mapIdx (twccItem f.baseSeq) }

/-- The reference time of the draft is a signed number of 24 bits, in units of 64 ms. -/
def DraftFeedback.referenceUs (f : DraftFeedback) : Int :=
  (if f.referenceTime.val < 2 ^ 23 then f.referenceTime else f.referenceTime - 2 ^ 24 : Int) * 64000

/-- The reference decoding: small deltas are unsigned. -/
def DraftFeedback.decoded (f : DraftFeedback) : TwccReport :=
  f.report (fun ticks => ticks.toNat) f.referenceUs

/-! ## Chunks -/

theorem toNat_lt_two (bits : List Bool) : ∀ d ∈ bits.map Bool.toNat, d < 2 := by
  intro d hd
  obtain ⟨b, -, rfl⟩ := mem_map.mp hd
  exact b.toNat_lt

theorem oneBit_statuses {bits : List Bool} (hlen : bits.length = 14) :
    twccChunkStatuses (value 2 0b10 (bits.map Bool.toNat))
      = bits.map fun r => if r then .smallDelta else .notRecv := by
  have htop := value_div_pow 0b10 (toNat_lt_two bits)
  have hread := map_range_digit 0b10
    (fun d => if d = 1 then smallDelta else .notRecv) (toNat_lt_two bits)
  rw [length_map, hlen] at htop hread
  rw [map_map] at hread
  -- the two leading bits tell the form, and the rest are the symbols
  generalize value 2 0b10 (bits.map Bool.toNat) = word at htop hread ⊢
  have h15 : word.testBit 15 = true := by
    rw [Nat.testBit_eq_decide_div_mod_eq, decide_eq_true_iff]
    omega
  have h14 : word.testBit 14 = false := by
    rw [Nat.testBit_eq_decide_div_mod_eq, decide_eq_false_iff_not]
    omega
  rw [twccChunkStatuses, h15, h14, if_neg (by decide), if_pos (by decide)]
  refine Eq.trans (map_congr_left fun i _ => ?_)
    (hread.trans (map_congr_left fun r _ => ?_))
  · rw [Nat.testBit_eq_decide_div_mod_eq]
    simp
  · cases r <;> rfl

theorem twoBit_statuses {symbols : List TwccStatus} (hlen : symbols.length = 7) :
    twccChunkStatuses (value 4 0b11 (symbols.map code)) = symbols := by
  have hdigits : ∀ d ∈ symbols.map code, d < 4 := by simp [code_lt]
  have htop := value_div_pow 0b11 hdigits
  have hread := map_range_digit 0b11 ofCode hdigits
  have hcodes : (symbols.map code).map ofCode = symbols := by
    rw [map_map]
    exact (map_congr_left fun s _ => s.ofCode_code).trans (map_id _)
  rw [length_map, hlen] at htop hread
  rw [hcodes] at hread
  generalize value 4 0b11 (symbols.map code) = word at htop hread ⊢
  have h15 : word.testBit 15 = true := by
    rw [Nat.testBit_eq_decide_div_mod_eq, decide_eq_true_iff]
    omega
  have h14 : word.testBit 14 = true := by
    rw [Nat.testBit_eq_decide_div_mod_eq, decide_eq_true_iff]
    omega
  rw [twccChunkStatuses, h15, h14, if_neg (by decide), if_neg (by decide)]
  refine Eq.trans (map_congr_left fun i hi => ?_) hread
  have hi' := mem_range.mp hi
  rw [show 12 - 2 * i = 2 * (7 - 1 - i) by omega, Nat.pow_mul]

theorem DraftChunk.statuses_word (c : DraftChunk) : twccChunkStatuses c.word = c.symbols := by
  cases c with
  | runLength symbol run => exact runLength_statuses symbol run.isLt
  | oneBit received => exact oneBit_statuses received.property
  | twoBit symbols => exact twoBit_statuses symbols.property

theorem DraftChunk.word_lt (c : DraftChunk) : c.word < 2 ^ 16 := by
  cases c with
  | runLength symbol run => exact TwccChunk.word_lt (c := .runLength symbol run) run.isLt
  | oneBit received =>
    have hlt := value_lt 0b10 (toNat_lt_two received.val)
    rw [length_map, received.property] at hlt
    exact hlt.trans (by decide)
  | twoBit symbols =>
    have hcodes : ∀ d ∈ symbols.val.map code, d < 4 := by simp [code_lt]
    have hlt := value_lt 0b11 hcodes
    rw [length_map, symbols.property] at hlt
    exact hlt

theorem readTwccChunks_draft {chunks : List DraftChunk} {need : Nat}
    (hneeded : (chunks.dropLast.flatMap DraftChunk.symbols).length < need)
    (henough : need ≤ (chunks.flatMap DraftChunk.symbols).length) (tail : Bytes) :
    readTwccChunks (chunks.flatMap (fun c => writeU16 c.word) ++ tail) need
      = .ok ((chunks.flatMap DraftChunk.symbols).take need, tail) := by
  induction chunks generalizing need with
  | nil =>
    rw [flatMap_nil, length_nil] at henough
    omega
  | cons c chunks ih =>
    obtain ⟨need, rfl⟩ : ∃ k, need = k + 1 := ⟨need - 1, by omega⟩
    rw [flatMap_cons, append_assoc, readTwccChunks_word c.word_lt, c.statuses_word,
      flatMap_cons]
    rw [flatMap_cons, length_append] at henough
    cases chunks with
    | nil =>
      -- the last chunk may have symbols to spare
      have hlast : need + 1 ≤ c.symbols.length := henough
      rw [length_take, Nat.min_eq_left hlast, Nat.sub_self]
      simp [readTwccChunks]
    | cons c' chunks =>
      rw [dropLast_cons_cons, flatMap_cons, length_append] at hneeded
      have hall : c.symbols.take (need + 1) = c.symbols :=
        take_of_length_le (by omega)
      rw [hall, ih (by omega) (by omega), take_append,
        take_of_length_le (show c.symbols.length ≤ need + 1 by omega)]

/-! ## Deltas -/

theorem int16Of_write (ticks : Int16) :
    int16Of (UInt8.ofNat (ticks.toUInt16.toNat / 2 ^ 8)) (UInt8.ofNat ticks.toUInt16.toNat)
      = ticks.toInt := by
  have hlt := ticks.toUInt16.toNat_lt
  have hint : ticks.toInt = if 2 * ticks.toUInt16.toNat < 2 ^ 16 then (ticks.toUInt16.toNat : Int)
      else ticks.toUInt16.toNat - 2 ^ 16 := BitVec.toInt_eq_toNat_cond ticks.toBitVec
  rw [int16Of, hint, UInt8.toNat_ofNat', UInt8.toNat_ofNat']
  split <;> split <;> omega

theorem advanceUs_emod {us : Nat} {t : Int} (h : (us : Int) = t % 2 ^ 64) (ticks : Int) :
    (advanceUs us ticks : Int) = (t + ticks * twccTickUs) % 2 ^ 64 := by
  rw [advanceUs, h, Int.emod_add_emod, Int.toNat_of_nonneg (Int.emod_nonneg _ (by decide))]

theorem readTwccDeltas_draft {us : Nat} {t : Int} (h : (us : Int) = t % 2 ^ 64)
    (ss : List DraftStatus) (tail : Bytes) :
    readTwccDeltas us (ss.map symbol) (ss.flatMap bytes ++ tail)
      = .ok (arrivalTimes int8Of t ss) := by
  induction ss generalizing us t with
  | nil => rfl
  | cons s ss ih =>
    rw [map_cons, flatMap_cons, append_assoc]
    cases s with
    | notReceived =>
      show (readTwccDeltas us (ss.map symbol) _).map _ = _
      rw [bytes, nil_append, ih h]
      rfl
    | small ticks =>
      have hnext := advanceUs_emod h (int8Of ticks)
      rw [bytes, singleton_append, symbol, readTwccDeltas, ih hnext,
        arrivalTimes, ← hnext]
      rfl
    | large ticks =>
      have hnext := advanceUs_emod h ticks.toInt
      rw [bytes, writeU16, cons_append, singleton_append,
        symbol, readTwccDeltas, int16Of_write, ih hnext, arrivalTimes, ← hnext]
      rfl

/-! ## The packet -/

theorem DraftFeedback.fields (f : DraftFeedback) :
    20 ≤ f.bytes.length ∧ byteAt f.bytes 0 / 2 ^ 6 % 4 = 2
      ∧ readU32 f.bytes 4 = f.senderSsrc.toNat ∧ readU32 f.bytes 8 = f.mediaSsrc.toNat
      ∧ readU16 f.bytes 12 = f.baseSeq.toNat ∧ readU16 f.bytes 14 = f.statuses.length
      ∧ readU24 f.bytes 16 = f.referenceTime ∧ byteAt f.bytes 19 = f.fbPktCount.toNat
      ∧ f.bytes.drop 20 = f.payload := by
  have hsender := readU32_writeU32 f.senderSsrc.toNat_lt []
  have hmedia := readU32_writeU32 f.mediaSsrc.toNat_lt []
  have hbase := readU16_writeU16 f.baseSeq.toNat_lt []
  have hcount := readU16_writeU16 f.count []
  have htime := readU24_writeU24 f.referenceTime.isLt []
  refine ⟨?_, ?_, hsender, hmedia, hbase, hcount, htime, rfl, rfl⟩
  · simp [DraftFeedback.bytes]
    omega
  · show (if f.padded then (0xAF : UInt8) else 0x8F).toNat / 2 ^ 6 % 4 = 2
    split <;> decide

theorem rtcRtcpParseTwcc_draft (f : DraftFeedback) (hcount : f.statuses.length ≤ twccParseMax) :
    rtcRtcpParseTwcc f.bytes = .ok (f.report int8Of (f.referenceTime * 64000 : Nat)) := by
  obtain ⟨hlen, hversion, hsender, hmedia, hbase, hstatuses, htime, hfb, hdrop⟩ := f.fields
  have henough := congrArg List.length f.covered
  rw [length_take, length_map] at henough
  have hpos := f.needed
  have hclock : ((f.referenceTime * 64000 : Nat) : Int) = ((f.referenceTime * 64000 : Nat) : Int)
      % 2 ^ 64 := by
    have := f.referenceTime.isLt
    omega
  rw [rtcRtcpParseTwcc, if_neg (by omega), if_neg (by omega), hstatuses, if_neg (by omega), hdrop,
    DraftFeedback.payload, readTwccChunks_draft f.needed (by omega), f.covered, htime]
  dsimp only
  rw [readTwccDeltas_draft hclock, hsender, hmedia, hbase, hfb, UInt16.ofNat_toNat,
    DraftFeedback.report, ← hclock, Int.toNat_natCast]

/-! ## Where the two readings agree -/

theorem int8Of_eq_iff (ticks : UInt8) : int8Of ticks = ticks.toNat ↔ ticks.toNat < 2 ^ 7 := by
  unfold int8Of
  split <;> omega

theorem arrivalTimes_eq_iff (us : Int) (ss : List DraftStatus) :
    arrivalTimes int8Of us ss = arrivalTimes (fun ticks => ticks.toNat) us ss
      ↔ ∀ ticks, small ticks ∈ ss → ticks.toNat < 2 ^ 7 := by
  induction ss generalizing us with
  | nil => simp [arrivalTimes]
  | cons s ss ih =>
    cases s with
    | notReceived => simp [arrivalTimes, ih]
    | large ticks => simp [arrivalTimes, ih]
    | small ticks =>
      rw [arrivalTimes, arrivalTimes, List.cons.injEq, Option.some.injEq]
      constructor
      · rintro ⟨htime, hrest⟩
        -- a negative reading is 64 ms early, and no later delta makes up for it
        have hticks : ticks.toNat < 2 ^ 7 := by grind [int8Of, twccTickUs]
        rw [(int8Of_eq_iff ticks).mpr hticks, ih] at hrest
        intro t ht
        rcases mem_cons.mp ht with heq | ht
        · rwa [small.inj heq]
        · exact hrest t ht
      · intro hall
        rw [(int8Of_eq_iff ticks).mpr (hall ticks mem_cons_self)]
        exact ⟨rfl, (ih _).mpr fun t ht => hall t (mem_cons_of_mem _ ht)⟩

/-- A negative reference time is read 2 ^ 24 units too late, for which no misread delta makes up. -/
theorem arrivalTimes_late_eq_iff (us : Int) (ss : List DraftStatus) :
    arrivalTimes int8Of (us + 2 ^ 24 * 64000) ss = arrivalTimes (fun ticks => ticks.toNat) us ss
      ↔ ∀ s ∈ ss, s = .notReceived := by
  induction ss with
  | nil => simp [arrivalTimes]
  | cons s ss ih =>
    cases s with
    | notReceived => simpa [arrivalTimes] using ih
    | large ticks =>
      simp only [arrivalTimes, List.cons.injEq, Option.some.injEq, forall_mem_cons, reduceCtorEq,
        false_and, iff_false, not_and]
      grind [twccTickUs]
    | small ticks =>
      have := ticks.toNat_lt
      simp only [arrivalTimes, List.cons.injEq, Option.some.injEq, forall_mem_cons, reduceCtorEq,
        false_and, iff_false, not_and]
      grind [int8Of, twccTickUs]

theorem DraftFeedback.times_eq_iff (f : DraftFeedback) :
    arrivalTimes int8Of (f.referenceTime * 64000 : Nat) f.statuses
        = arrivalTimes (fun ticks => ticks.toNat) f.referenceUs f.statuses
      ↔ (∀ ticks, small ticks ∈ f.statuses → ticks.toNat < 2 ^ 7)
        ∧ (f.referenceTime.val < 2 ^ 23 ∨ ∀ s ∈ f.statuses, s = .notReceived) := by
  unfold DraftFeedback.referenceUs
  split
  · next hlow =>
    have hsame : ((f.referenceTime * 64000 : Nat) : Int) = (f.referenceTime : Nat) * 64000 := by
      push_cast
      rfl
    rw [hsame, arrivalTimes_eq_iff]
    exact (and_iff_left (.inl hlow)).symm
  · next hlow =>
    have hlate : ((f.referenceTime * 64000 : Nat) : Int)
        = ((f.referenceTime : Nat) - 2 ^ 24) * 64000 + 2 ^ 24 * 64000 := by
      push_cast
      ring
    rw [hlate, arrivalTimes_late_eq_iff, or_iff_right hlow]
    refine ⟨fun hnone => ⟨fun ticks hticks => ?_, hnone⟩, And.right⟩
    cases hnone _ hticks

def TwccItem.time (item : TwccItem) : Option Nat :=
  if item.received then some item.recvTimeUs else none

open TwccItem

theorem map_items {α : Type} (baseSeq : UInt16) {f : TwccItem → α} {g : Option Nat → α}
    (h : ∀ i time, f (twccItem baseSeq i time) = g time) (times : List (Option Nat)) :
    (times.mapIdx (twccItem baseSeq)).map f = times.map g :=
  ext_getElem (by simp) (by simp [h])

theorem map_time_items (baseSeq : UInt16) (times : List (Option Nat)) :
    (times.mapIdx (twccItem baseSeq)).map time = times := by
  have htime : ∀ i (time : Option Nat), (twccItem baseSeq i time).time = id time := by
    intro i time
    cases time <;> rfl
  rw [map_items baseSeq htime, map_id]

theorem arrivalTimes_isSome (small small' : UInt8 → Int) (us us' : Int) (ss : List DraftStatus) :
    (arrivalTimes small us ss).map Option.isSome = (arrivalTimes small' us' ss).map Option.isSome := by
  induction ss generalizing us us' with
  | nil => rfl
  | cons s ss ih =>
    cases s with
    | notReceived => simp [arrivalTimes, ih us us']
    | small ticks => simp [arrivalTimes, ih _ (us' + small' ticks * twccTickUs)]
    | large ticks => simp [arrivalTimes, ih _ (us' + ticks.toInt * twccTickUs)]

/-- **The parser accepts every packet of the draft** of at most 256 statuses, and it reads the right
packets as received. The arrival times are those of the draft if and only if every small delta is
below 128 ticks, and the reference time is not negative unless nothing was received. -/
theorem parseTwcc_conforms_iff (f : DraftFeedback) (hcount : f.statuses.length ≤ twccParseMax) :
    ∃ report, rtcRtcpParseTwcc f.bytes = .ok report
      ∧ report = { f.decoded with
          referenceTimeUs := f.referenceTime * 64000, items := report.items }
      ∧ report.items.map received = f.decoded.items.map received
      ∧ (report.items = f.decoded.items
        ↔ (∀ ticks, small ticks ∈ f.statuses → ticks.toNat < 2 ^ 7)
          ∧ (f.referenceTime.val < 2 ^ 23 ∨ ∀ s ∈ f.statuses, s = .notReceived)) := by
  refine ⟨_, rtcRtcpParseTwcc_draft f hcount, ?_, ?_, ?_⟩
  · have hclock : ((f.referenceTime * 64000 : Nat) : Int) % 2 ^ 64
        = (f.referenceTime * 64000 : Nat) := by
      have := f.referenceTime.isLt
      omega
    rw [DraftFeedback.report, hclock, Int.toNat_natCast]
    rfl
  · have hreceived := map_items f.baseSeq (f := received) (g := Option.isSome)
      fun _ _ => rfl
    exact (hreceived _).trans ((arrivalTimes_isSome _ _ _ _ _).trans (hreceived _).symm)
  · rw [← f.times_eq_iff]
    constructor
    · intro heq
      have hitems := congrArg (fun items => items.map time) heq
      rwa [DraftFeedback.decoded, DraftFeedback.report, DraftFeedback.report, map_time_items,
        map_time_items] at hitems
    · intro htimes
      rw [DraftFeedback.decoded, DraftFeedback.report, htimes, DraftFeedback.report]

/-- Three packets of the draft in a vector of two-bit symbols: one that was received so many ticks
after the reference time, one that was not, and one with a negative delta. -/
def threeStatuses (ticks : UInt8) : DraftFeedback where
  senderSsrc := 1
  mediaSsrc := 2
  baseSeq := 65535
  referenceTime := 10
  fbPktCount := 0
  statuses := [.small ticks, .notReceived, .large (-3)]
  chunks := [.twoBit ⟨[.smallDelta, .notRecv, .largeDelta, .notRecv, .notRecv, .notRecv, .reserved],
    rfl⟩]
  padded := false
  padding := [0, 0, 0]
  count := by simp
  covered := rfl
  needed := by simp

theorem shortDelta_conforms :
    rtcRtcpParseTwcc (threeStatuses 127).bytes = .ok (threeStatuses 127).decoded := by
  obtain ⟨report, hparse, hrest, -, hiff⟩ := parseTwcc_conforms_iff (threeStatuses 127) (by decide)
  rw [hparse, hrest, hiff.mpr]
  · rfl
  · refine ⟨fun ticks hticks => ?_, .inl (by decide)⟩
    simp [threeStatuses] at hticks
    rw [hticks]
    decide

/-- A delta of 128 ticks, 32 ms, is read as one of -128: the packet seems to have come in 64 ms
earlier. -/
theorem longDelta_misread :
    (rtcRtcpParseTwcc (threeStatuses 128).bytes).toOption.map
        (fun report => report.items.map time) = some [some 608000, none, some 607250]
      ∧ (threeStatuses 128).decoded.items.map time
        = [some 672000, none, some 671250] := by
  decide

end Mrtc
