import Mathlib.Data.List.TakeWhile
import Mrtc.Twcc.Parse

/-! # Status chunks and deltas on the wire

What the parser's two walks read from the bytes that the builder's loops write.
-/

namespace Mrtc

open Net List TwccChunk TwccStatus

/-! ## One chunk -/

def TwccStatus.oneBit (s : TwccStatus) : TwccStatus :=
  if s = .smallDelta then .smallDelta else .notRecv

def TwccChunk.covered : TwccChunk → List TwccStatus
  | .runLength s run => replicate run s
  | .statusVector ss => ss

def TwccChunk.seen : TwccChunk → List TwccStatus
  | .runLength s run => replicate run s
  | .statusVector ss => ss.map oneBit

theorem TwccChunk.seen_length (c : TwccChunk) : c.seen.length = c.covered.length := by
  cases c with
  | runLength s run => rfl
  | statusVector ss => exact length_map _

theorem TwccStatus.ofCode_code (s : TwccStatus) : ofCode s.code = s := by
  cases s <;> rfl

theorem TwccStatus.code_lt (s : TwccStatus) : s.code < 4 := by
  cases s <;> decide

theorem vectorSymbols_lt (k : Nat) (ss : List TwccStatus) : vectorSymbols k ss < 2 ^ k := by
  induction k generalizing ss with
  | zero => exact Nat.one_pos
  | succ k ih =>
    cases ss with
    | nil => exact Nat.two_pow_pos _
    | cons s ss =>
      have hrec := ih ss
      rw [vectorSymbols, Nat.pow_succ]
      split <;> omega

variable {ss : List TwccStatus}

theorem vectorSymbols_testBit {k : Nat} {i : Nat} (hi : i < ss.length) (hk : i < k) :
    (vectorSymbols k ss).testBit (k - 1 - i) = decide (ss[i] = smallDelta) := by
  induction k generalizing ss i with
  | zero => omega
  | succ k ih =>
    cases ss with
    | nil => exact absurd hi (Nat.not_lt_zero _)
    | cons s ss =>
      have hlt := vectorSymbols_lt k ss
      have hsplit : vectorSymbols (k + 1) (s :: ss)
          = 2 ^ k * (if s = .smallDelta then 1 else 0) + vectorSymbols k ss := by
        rw [vectorSymbols]
        split <;> omega
      rw [hsplit, Nat.testBit_two_pow_mul_add _ hlt]
      cases i with
      | zero => grind
      | succ i => grind

theorem runLength_statuses (s : TwccStatus) {run : Nat} (hrun : run < 2 ^ 13) :
    twccChunkStatuses (runLength s run).word = replicate run s := by
  have hcode := s.code_lt
  have hword : (runLength s run).word < 2 ^ 15 := by
    show s.code * 2 ^ 13 + run < 2 ^ 15
    omega
  unfold twccChunkStatuses
  rw [Nat.testBit_lt_two_pow hword, if_pos (by decide)]
  have hmod : (runLength s run).word % 2 ^ 13 = run := by
    show (s.code * 2 ^ 13 + run) % 2 ^ 13 = run
    omega
  have hdiv : (runLength s run).word / 2 ^ 13 % 4 = s.code := by
    show (s.code * 2 ^ 13 + run) / 2 ^ 13 % 4 = s.code
    omega
  rw [hmod, hdiv, s.ofCode_code]

theorem statusVector_statuses (hlen : ss.length ≤ 14) :
    (twccChunkStatuses (statusVector ss).word).length = 14
      ∧ (twccChunkStatuses (statusVector ss).word).take ss.length
        = ss.map oneBit := by
  have hlt := vectorSymbols_lt 14 ss
  have hword : (statusVector ss).word = 2 ^ 15 * 1 + vectorSymbols 14 ss := rfl
  have hbit : ∀ j < 15, (statusVector ss).word.testBit j
      = (vectorSymbols 14 ss).testBit j := by
    intro j hj
    rw [hword, Nat.testBit_two_pow_mul_add _ (by omega), if_pos hj]
  have h15 : (statusVector ss).word.testBit 15 = true := by
    rw [hword, Nat.testBit_two_pow_mul_add _ (by omega), if_neg (Nat.lt_irrefl 15)]
    decide
  have h14 : (statusVector ss).word.testBit 14 = false := by
    rw [hbit 14 (by decide)]
    exact Nat.testBit_lt_two_pow hlt
  unfold twccChunkStatuses
  rw [h15, h14, if_neg (by decide), if_pos (by decide)]
  refine ⟨by simp, ?_⟩
  apply ext_getElem
  · simp only [length_take, length_map, length_range]
    omega
  · intro i h₁ h₂
    have hi : i < ss.length := by simpa using h₂
    rw [getElem_take, getElem_map, getElem_range, getElem_map,
      hbit (13 - i) (by omega), vectorSymbols_testBit hi (show i < 14 by omega)]
    unfold oneBit
    by_cases hs : ss[i] = .smallDelta
    · rw [if_pos (decide_eq_true hs), if_pos hs]
    · rw [if_neg (by simpa using hs), if_neg hs]

/-! ## The chunk walk -/

def TwccChunk.Encodable : TwccChunk → Prop
  | .runLength _ run => run < 2 ^ 13
  | .statusVector ss => ss.length ≤ 14

theorem TwccChunk.word_lt {c : TwccChunk} (hc : c.Encodable) : c.word < 2 ^ 16 := by
  cases c with
  | runLength s run =>
    have hrun : run < 2 ^ 13 := hc
    have hcode := s.code_lt
    show s.code * 2 ^ 13 + run < 2 ^ 16
    omega
  | statusVector ss =>
    have hlt := vectorSymbols_lt 14 ss
    show 2 ^ 15 + vectorSymbols 14 ss < 2 ^ 16
    omega

theorem twccRun_pos (s : TwccStatus) (ss : List TwccStatus) : 1 ≤ twccRun s ss := by
  unfold twccRun
  omega

theorem twccRun_lt (s : TwccStatus) (ss : List TwccStatus) : twccRun s ss < 2 ^ 13 := by
  unfold twccRun
  omega

theorem take_twccRun (s : TwccStatus) (ss : List TwccStatus) :
    (s :: ss).take (twccRun s ss) = replicate (twccRun s ss) s
      ∧ twccRun s ss ≤ (s :: ss).length := by
  have hle : (ss.takeWhile (· = s)).length ≤ ss.length := ( takeWhile_prefix _).length_le
  have hlen : twccRun s ss ≤ (s :: ss).length := by
    rw [length_cons]
    unfold twccRun
    omega
  refine ⟨?_, hlen⟩
  rw [eq_replicate_iff]
  refine ⟨by rw [length_take, Nat.min_eq_left hlen], fun x hx => ?_⟩
  -- the taken elements are among the head and the matching ones after it
  have hsub : (s :: ss).take (twccRun s ss) <+: s :: ss.takeWhile (· = s) := by
    apply prefix_of_prefix_length_le ( take_prefix _ _)
    · exact cons_prefix_cons.mpr ⟨rfl, takeWhile_prefix _⟩
    · rw [length_take, length_cons, length_cons]
      unfold twccRun
      omega
  rcases mem_cons.mp (hsub.subset hx) with rfl | hmem
  · rfl
  · simpa using mem_takeWhile_imp hmem

theorem twccChunks_cons (fuel : Nat) (s : TwccStatus) (ss : List TwccStatus) :
    ∃ c n, twccChunks (fuel + 1) (s :: ss) = c :: twccChunks fuel ((s :: ss).drop n)
      ∧ c.Encodable ∧ 1 ≤ n ∧ c.covered = (s :: ss).take n
      ∧ (twccChunkStatuses c.word).take (s :: ss).length = c.seen := by
  by_cases hrun : 3 ≤ twccRun s ss ∨ s = .largeDelta
  · obtain ⟨htake, hle⟩ := take_twccRun s ss
    refine ⟨.runLength s (twccRun s ss), twccRun s ss, ?_, twccRun_lt s ss, twccRun_pos s ss,
      htake.symm, ?_⟩
    · rw [twccChunks]
      exact if_pos hrun
    · rw [runLength_statuses s (twccRun_lt s ss), take_of_length_le]
      · rfl
      · rw [length_replicate]
        exact hle
  · have hlen : ((s :: ss).take 14).length ≤ 14 := by
      rw [length_take]
      omega
    obtain ⟨h14, htake⟩ := statusVector_statuses hlen
    refine ⟨.statusVector ((s :: ss).take 14), 14, ?_, hlen, by decide, rfl, ?_⟩
    · rw [twccChunks]
      exact if_neg hrun
    · show _ = ((s :: ss).take 14).map oneBit
      rw [← htake]
      -- the chunk has fourteen symbols: taking more of them changes nothing
      rcases Nat.le_total 14 (s :: ss).length with hge | hle
      · grind
      · grind

theorem readTwccChunks_word {w : Nat} (hw : w < 2 ^ 16) (data : Bytes) (need : Nat) :
    readTwccChunks (writeU16 w ++ data) (need + 1)
      = match readTwccChunks data
            (need + 1 - ((twccChunkStatuses w).take (need + 1)).length) with
        | .error e => .error e
        | .ok (more, rest) => .ok ((twccChunkStatuses w).take (need + 1) ++ more, rest) := by
  have hval : (UInt8.ofNat (w / 2 ^ 8)).toNat * 2 ^ 8 + (UInt8.ofNat w).toNat = w := by
    rw [UInt8.toNat_ofNat', UInt8.toNat_ofNat']
    omega
  show readTwccChunks (UInt8.ofNat (w / 2 ^ 8) :: UInt8.ofNat w :: data) (need + 1) = _
  cases hrest : readTwccChunks data
      (need + 1 - ((twccChunkStatuses w).take (need + 1)).length) with
  | error e => simp only [readTwccChunks, hval, hrest]
  | ok p => simp only [readTwccChunks, hval, hrest]

/-- **The parser's chunk walk reads, for every list of statuses, what the chunks show of it.** -/
theorem readTwccChunks_chunks {fuel : Nat} (hfuel : ss.length ≤ fuel) (tail : Bytes) :
    readTwccChunks ((twccChunks fuel ss).flatMap (fun c => writeU16 c.word) ++ tail) ss.length
      = .ok ((twccChunks fuel ss).flatMap seen, tail) := by
  induction fuel generalizing ss with
  | zero =>
    have hnil : ss = [] := length_eq_zero_iff.mp (by omega)
    subst hnil
    simp [twccChunks, readTwccChunks]
  | succ fuel ih =>
    cases ss with
    | nil => simp [twccChunks, readTwccChunks]
    | cons s ss =>
      obtain ⟨c, n, hc, henc, hn, hcov, hread⟩ := twccChunks_cons fuel s ss
      have hseen : c.seen.length = min n (s :: ss).length := by
        rw [c.seen_length, hcov, length_take]
      have hneed : (s :: ss).length - c.seen.length = ((s :: ss).drop n).length := by
        rw [hseen, length_drop]
        omega
      rw [hc, flatMap_cons, flatMap_cons, append_assoc]
      have hstep := readTwccChunks_word (word_lt henc)
        ((twccChunks fuel ((s :: ss).drop n)).flatMap (fun c => writeU16 c.word) ++ tail)
        ss.length
      rw [length_cons] at hread hneed
      rw [hread, hneed, ih (by rw [length_drop]; omega)] at hstep
      rw [length_cons, hstep]

/-! ## When the chunks show everything -/

def TwccChunk.Faithful : TwccChunk → Prop
  | .runLength _ _ => True
  | .statusVector ss => .largeDelta ∉ ss

instance (c : TwccChunk) : Decidable c.Faithful :=
  match c with
  | .runLength _ _ => inferInstanceAs (Decidable True)
  | .statusVector ss => inferInstanceAs (Decidable (largeDelta ∉ ss))

theorem flatMap_covered {fuel : Nat} (hfuel : ss.length ≤ fuel) :
    (twccChunks fuel ss).flatMap covered = ss := by
  induction fuel generalizing ss with
  | zero =>
    have hnil : ss = [] := length_eq_zero_iff.mp (by omega)
    subst hnil
    rfl
  | succ fuel ih =>
    cases ss with
    | nil => rfl
    | cons s ss =>
      obtain ⟨c, n, hc, _, hn, hcov, _⟩ := twccChunks_cons fuel s ss
      have hdrop : ((s :: ss).drop n).length ≤ fuel := by
        rw [length_drop]
        omega
      rw [hc, flatMap_cons, hcov, ih hdrop, take_append_drop]

theorem TwccStatus.oneBit_eq_iff {s : TwccStatus} (hs : s ≠ .reserved) :
    s.oneBit = s ↔ s ≠ .largeDelta := by
  cases s with
  | notRecv => decide
  | smallDelta => decide
  | largeDelta => decide
  | reserved => exact absurd rfl hs

theorem TwccChunk.seen_eq_covered_iff {c : TwccChunk} (hc : .reserved ∉ c.covered) :
    c.seen = c.covered ↔ c.Faithful := by
  cases c with
  | runLength s run => exact ⟨fun _ => trivial, fun _ => rfl⟩
  | statusVector ss =>
    show ss.map oneBit = ss ↔ largeDelta ∉ ss
    have hid : ss.map oneBit = ss ↔ ∀ s ∈ ss, s.oneBit = s := by
      conv_lhs => rhs; rw [← map_id ss]
      exact map_inj_left
    rw [hid]
    constructor
    · intro h hlarge
      exact (oneBit_eq_iff (by decide)).mp (h _ hlarge) rfl
    · intro h s hs
      exact (oneBit_eq_iff fun hr => hc (hr ▸ hs)).mpr fun hl => h (hl ▸ hs)

theorem flatMap_seen_eq_iff {cs : List TwccChunk} (hcs : .reserved ∉ cs.flatMap covered) :
    cs.flatMap seen = cs.flatMap covered ↔ ∀ c ∈ cs, c.Faithful := by
  induction cs with
  | nil => simp
  | cons c cs ih =>
    rw [flatMap_cons, mem_append, not_or] at hcs
    rw [flatMap_cons, flatMap_cons, forall_mem_cons, ← ih hcs.2,
      ← seen_eq_covered_iff hcs.1]
    constructor
    · intro h
      exact append_inj h c.seen_length
    · rintro ⟨hc, hrest⟩
      rw [hc, hrest]

/-! ## The delta walk -/

def TwccMark.Fits (m : TwccMark) : Prop :=
  match m.status with
  | .notRecv => True
  | .smallDelta => -2 ^ 7 ≤ m.delta ∧ m.delta < 2 ^ 7
  | .largeDelta => -2 ^ 15 ≤ m.delta ∧ m.delta < 2 ^ 15
  | .reserved => False

def twccTimes : (prevUs : Nat) → List TwccMark → List (Option Nat)
  | _, [] => []
  | prevUs, m :: ms =>
    (if m.status = .notRecv then none else some (m.clock prevUs))
      :: twccTimes (m.clock prevUs) ms

theorem int8Of_byte {d : Int} (h₁ : -2 ^ 7 ≤ d) (h₂ : d < 2 ^ 7) :
    int8Of (UInt8.ofNat (d % 2 ^ 8).toNat) = d := by
  unfold int8Of
  rw [UInt8.toNat_ofNat']
  split <;> omega

theorem int16Of_bytes {d : Int} (h₁ : -2 ^ 15 ≤ d) (h₂ : d < 2 ^ 15) :
    int16Of (UInt8.ofNat ((d % 2 ^ 16).toNat / 2 ^ 8)) (UInt8.ofNat (d % 2 ^ 16).toNat) = d := by
  have hval : (UInt8.ofNat ((d % 2 ^ 16).toNat / 2 ^ 8)).toNat * 2 ^ 8
      + (UInt8.ofNat (d % 2 ^ 16).toNat).toNat = (d % 2 ^ 16).toNat := by
    rw [UInt8.toNat_ofNat', UInt8.toNat_ofNat']
    omega
  unfold int16Of
  rw [hval]
  show (if (d % 2 ^ 16).toNat < 2 ^ 15 then ((d % 2 ^ 16).toNat : Int)
    else (d % 2 ^ 16).toNat - 2 ^ 16) = d
  split <;> omega

/-- **The parser's delta walk follows the builder's clock.** -/
theorem readTwccDeltas_marks {marks : List TwccMark} (hm : ∀ m ∈ marks, m.Fits) (prevUs : Nat)
    (tail : Bytes) :
    readTwccDeltas prevUs (marks.map TwccMark.status) (twccDeltaBytes marks ++ tail)
      = .ok (twccTimes prevUs marks) := by
  induction marks generalizing prevUs with
  | nil => rfl
  | cons m ms ih =>
    have hfits := hm m mem_cons_self
    have hrest := fun us => ih (fun x hx => hm x (mem_cons_of_mem _ hx)) us
    obtain ⟨status, d⟩ := m
    rw [map_cons, twccTimes]
    cases status with
    | notRecv =>
      show (readTwccDeltas prevUs (ms.map TwccMark.status) (twccDeltaBytes ms ++ tail)).map _ = _
      rw [hrest]
      rfl
    | smallDelta =>
      show (readTwccDeltas (advanceUs prevUs (int8Of _)) (ms.map TwccMark.status)
        (twccDeltaBytes ms ++ tail)).map _ = _
      rw [int8Of_byte hfits.1 hfits.2, hrest]
      rfl
    | largeDelta =>
      show (readTwccDeltas (advanceUs prevUs (int16Of _ _)) (ms.map TwccMark.status)
        (twccDeltaBytes ms ++ tail)).map _ = _
      rw [int16Of_bytes hfits.1 hfits.2, hrest]
      rfl
    | reserved => exact hfits.elim

end Mrtc
