import Mrtc.Sdp.Lines

/-! # The loop over the lines of a text

One round of the loop of `rtc_sdp_parse` takes the bytes up to the next line feed
(`parsedLines_line`).
-/

namespace Mrtc

open Net CText List

def parsedLines : (fuel : Nat) → (text : Bytes) → (len : Nat) → List (Bytes × Nat)
  | 0, _, _ => []
  | fuel + 1, text, len =>
    if len = 0 then []
    else
      let line := text.take len
      (text, lineLength line)
        :: parsedLines fuel (text.drop (nextLine line)) (len - nextLine line)

theorem sdpParseLines_eq_foldl (inet : InetText) (alloc : Bool) (fuel : Nat) (st : SdpState)
    (text : Bytes) (len : Nat) :
    sdpParseLines inet alloc fuel st text len
      = (parsedLines fuel text len).foldl (fun st l => sdpParseLine inet alloc st l.1 l.2) st := by
  induction fuel generalizing st text len with
  | zero => rfl
  | succ fuel ih =>
    rw [sdpParseLines, parsedLines]
    split
    · rfl
    · exact ih _ _ _

theorem nextLine_pos {text : Bytes} (hne : text ≠ []) : 0 < nextLine text := by
  have hpos : 0 < text.length := length_pos_of_ne_nil hne
  unfold nextLine
  dsimp only
  split <;> omega

theorem parsedLines_enough {fuel fuel' len : Nat} {text : Bytes} (htext : len ≤ text.length)
    (hfuel : len ≤ fuel) (hfuel' : len ≤ fuel') :
    parsedLines fuel text len = parsedLines fuel' text len := by
  induction fuel generalizing fuel' text len with
  | zero =>
    obtain rfl := Nat.le_zero.mp hfuel
    cases fuel' <;> rfl
  | succ fuel ih =>
    cases fuel' with
    | zero =>
      obtain rfl := Nat.le_zero.mp hfuel'
      rfl
    | succ fuel' =>
      rw [parsedLines, parsedLines]
      split
      · rfl
      · next hlen =>
        have hne : text.take len ≠ [] := by grind [length_take, length_nil, List.length]
        have hpos := nextLine_pos hne
        dsimp only
        rw [@ih fuel' _ _ (by rw [length_drop]; omega) (by omega) (by omega)]

section Line

variable {l : Bytes} (hl : 0x0A ∉ l) (t : Bytes)

include hl

theorem lineLength_eq : lineLength l = (l.takeWhile (· != 0x0D)).length := by
  unfold lineLength
  induction l with
  | nil => rfl
  | cons b l ih =>
    have hb : (b != 0x0A) = true := bne_iff_ne.mpr fun heq => hl (heq ▸ mem_cons_self)
    have hrest : 0x0A ∉ l := fun hmem => hl (mem_cons_of_mem b hmem)
    -- the line feed is no byte of the line, so only the carriage return counts
    simp only [takeWhile_cons, hb, Bool.true_and]
    cases b != 0x0D with
    | false => rfl
    | true => exact congrArg Nat.succ (ih hrest)

theorem lineLength_lf : lineLength (l ++ 0x0A :: t) = (l.takeWhile (· != 0x0D)).length := by
  have hlf : ((0x0A : UInt8) != 0x0A && (0x0A : UInt8) != 0x0D) = false := by decide
  rw [← lineLength_eq hl, lineLength,
    takeWhile_stop (p := fun b => b != 0x0A && b != 0x0D) hlf]
  rfl

theorem nextLine_lf : nextLine (l ++ 0x0A :: t) = l.length + 1 := by
  have hmem : ∀ b ∈ l, (b != 0x0A) = true := fun b hb =>
    bne_iff_ne.mpr fun heq => hl (heq ▸ hb)
  have htake : (l ++ 0x0A :: t).takeWhile (· != 0x0A) = l :=
    takeWhile_append_of_stops hmem (stops_cons rfl t)
  have hlt : l.length < (l ++ 0x0A :: t).length := by
    rw [length_append, length_cons]
    omega
  rw [nextLine, htake, if_pos hlt]

theorem parsedLines_line (fuel : Nat) (rest : Bytes) :
    parsedLines (fuel + 1) (l ++ 0x0A :: t ++ rest) (l ++ 0x0A :: t).length
      = (l ++ 0x0A :: (t ++ rest), (l.takeWhile (· != 0x0D)).length)
          :: parsedLines fuel (t ++ rest) t.length := by
  have hlength : (l ++ 0x0A :: t).length = l.length + 1 + t.length := by
    rw [length_append, length_cons]
    omega
  have hdrop : (l ++ 0x0A :: t ++ rest).drop (l.length + 1) = t ++ rest := by
    rw [append_assoc, ← drop_drop, drop_left]
    rfl
  have hleft : (l ++ 0x0A :: t).length - (l.length + 1) = t.length := by
    omega
  rw [parsedLines, if_neg (by omega)]
  dsimp only
  rw [take_left, lineLength_lf hl, nextLine_lf hl, hdrop, hleft, append_assoc]
  rfl

theorem sdpParseLines_line (inet : InetText) (alloc : Bool) (fuel : Nat) (st : SdpState)
    (rest : Bytes) :
    sdpParseLines inet alloc (fuel + 1) st (l ++ 0x0A :: t ++ rest) (l ++ 0x0A :: t).length
      = sdpParseLines inet alloc fuel
          (sdpParseLine inet alloc st (l ++ 0x0A :: (t ++ rest))
            (l.takeWhile (· != 0x0D)).length)
          (t ++ rest) t.length := by
  rw [sdpParseLines_eq_foldl, parsedLines_line hl, foldl_cons, ← sdpParseLines_eq_foldl]

end Line

/-! ## Lines with their ends -/

def lfLines (ls : List Bytes) : Bytes := ls.flatMap (· ++ [0x0A])

theorem lfLines_cons (l : Bytes) (ls : List Bytes) :
    lfLines (l :: ls) = l ++ 0x0A :: lfLines ls := by
  rw [lfLines, flatMap_cons, append_assoc]
  rfl

def linesBefore (rest : Bytes) : List Bytes → List (Bytes × Nat)
  | [] => []
  | l :: ls =>
    (l ++ 0x0A :: (lfLines ls ++ rest), (l.takeWhile (· != 0x0D)).length) :: linesBefore rest ls

theorem parsedLines_lfLines {ls : List Bytes} (hls : ∀ l ∈ ls, 0x0A ∉ l) (tail rest : Bytes)
    {fuel : Nat} (hfuel : (lfLines ls ++ tail).length ≤ fuel) :
    parsedLines fuel (lfLines ls ++ tail ++ rest) (lfLines ls ++ tail).length
      = linesBefore (tail ++ rest) ls ++ parsedLines tail.length (tail ++ rest) tail.length := by
  induction ls generalizing fuel with
  | nil =>
    have htail : tail.length ≤ (tail ++ rest).length := length_append ▸ Nat.le_add_right _ _
    exact parsedLines_enough htail hfuel (Nat.le_refl _)
  | cons l ls ih =>
    have htext : lfLines (l :: ls) ++ tail = l ++ 0x0A :: (lfLines ls ++ tail) := by
      rw [lfLines_cons, append_assoc, cons_append]
    rw [htext] at hfuel ⊢
    rw [length_append, length_cons] at hfuel
    cases fuel with
    | zero => omega
    | succ fuel =>
      rw [parsedLines_line (hls l mem_cons_self),
        ih (fun m hm => hls m (mem_cons_of_mem l hm)) (by omega), append_assoc]
      rfl

theorem lfLines_append (ls ms : List Bytes) : lfLines (ls ++ ms) = lfLines ls ++ lfLines ms :=
  flatMap_append

/-- Every text with a line feed at its end consists of lines. -/
theorem exists_lfLines (text : Bytes) :
    ∃ l ls, (∀ m ∈ l :: ls, 0x0A ∉ m) ∧ text ++ [0x0A] = lfLines (l :: ls) := by
  induction text with
  | nil => exact ⟨[], [], by simp, rfl⟩
  | cons b text ih =>
    obtain ⟨l, ls, hls, htext⟩ := ih
    by_cases hb : b = 0x0A
    · subst hb
      refine ⟨[], l :: ls, ?_, by rw [lfLines_cons, ← htext]; rfl⟩
      rintro m (_ | ⟨_, hm⟩)
      · simp
      · exact hls m hm
    · refine ⟨b :: l, ls, ?_, by rw [cons_append, htext, lfLines_cons, lfLines_cons]; rfl⟩
      rintro m (_ | ⟨_, hm⟩)
      · simpa [Ne.symm hb] using hls l mem_cons_self
      · exact hls m (mem_cons_of_mem l hm)

def crlfLines (ls : List Bytes) : Bytes := ls.flatMap (· ++ crlf)

@[simp] theorem crlfLines_nil : crlfLines [] = [] := rfl

theorem crlfLines_cons (l : Bytes) (ls : List Bytes) :
    crlfLines (l :: ls) = l ++ (crlf ++ crlfLines ls) := by
  rw [crlfLines, flatMap_cons, append_assoc]
  rfl

theorem crlfLines_append (ls ms : List Bytes) :
    crlfLines (ls ++ ms) = crlfLines ls ++ crlfLines ms :=
  flatMap_append

theorem length_crlfLines_cons (l : Bytes) (ls : List Bytes) :
    (crlfLines (l :: ls)).length = l.length + 2 + (crlfLines ls).length := by
  rw [crlfLines_cons, length_append, length_append]
  exact (Nat.add_assoc _ _ _).symm

theorem crlfLines_eq_lfLines (ls : List Bytes) :
    crlfLines ls = lfLines (ls.map (· ++ [0x0D])) := by
  rw [lfLines, flatMap_map, crlfLines]
  simp [crlf]

/-- The lines of a text may be more than those it was written from. -/
theorem exists_lfLines_crlfLines (ls : List Bytes) :
    ∃ ms, (∀ m ∈ ms, 0x0A ∉ m) ∧ crlfLines ls = lfLines ms := by
  induction ls with
  | nil => exact ⟨[], by simp, rfl⟩
  | cons l ls ih =>
    obtain ⟨ms, hms, htext⟩ := ih
    obtain ⟨k, ks, hks, hfirst⟩ := exists_lfLines (l ++ [0x0D])
    refine ⟨k :: ks ++ ms, fun m hm => (mem_append.mp hm).elim (hks m) (hms m), ?_⟩
    rw [lfLines_append, ← hfirst, ← htext, crlfLines_cons]
    simp [crlf]

theorem withEnds_flatten (ls : List Bytes) : (withEnds ls).flatten = crlfLines ls :=
  rfl

theorem sdpParseLines_crlf (inet : InetText) (alloc : Bool) (rest : Bytes) (fuel : Nat)
    (st : SdpState) {l : Bytes} (hl : OneLine l) (ls : List Bytes) :
    sdpParseLines inet alloc (fuel + 1) st (crlfLines (l :: ls) ++ rest)
        (crlfLines (l :: ls)).length
      = sdpParseLines inet alloc fuel
          (sdpParseLine inet alloc st (l ++ (crlf ++ (crlfLines ls ++ rest))) l.length)
          (crlfLines ls ++ rest) (crlfLines ls).length := by
  have hlf : 0x0A ∉ l ++ [0x0D] := by
    intro hmem
    rcases mem_append.mp hmem with hmem | hmem
    · exact (hl _ hmem).2.1 rfl
    · exact absurd hmem (by decide)
  have hcr : (l ++ [0x0D]).takeWhile (· != 0x0D) = l :=
    takeWhile_append_of_stops (fun b hb => bne_iff_ne.mpr (hl b hb).2.2) (stops_cons rfl [])
  -- the carriage return belongs to the bytes in front of the line feed
  have htext : ∀ t : Bytes, l ++ [0x0D] ++ 0x0A :: t = l ++ (crlf ++ t) := by
    intro t
    rw [append_assoc]
    rfl
  have hround := sdpParseLines_line hlf (crlfLines ls) inet alloc fuel st rest
  rw [htext, htext, hcr, ← crlfLines_cons] at hround
  exact hround

/-! ## The whole text -/

def sdpParseStart (old : Sdp) (text : Bytes) : SdpState :=
  { sdp := { old with raw := text, candidates := [], media := [] } }

theorem rtcSdpParse_eq (inet : InetText) (alloc : Bool) (old : Sdp) {text : Bytes}
    (hlength : text.length < sdpMaxSize) (rest : Bytes) :
    rtcSdpParse inet alloc old (text ++ rest) text.length
      = (sdpParseLines inet alloc text.length (sdpParseStart old text) (text ++ rest)
          text.length).sdp := by
  have hmin : min text.length (sdpMaxSize - 1) = text.length := Nat.min_eq_left (by omega)
  simp only [rtcSdpParse, hmin, take_left]
  rfl

end Mrtc
