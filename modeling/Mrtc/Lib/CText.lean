import Mathlib.Data.List.TakeWhile
import Mathlib.Data.Nat.Digits.Defs
import Mathlib.Data.Nat.Digits.Lemmas
import Mathlib.Tactic
import Mrtc.Lib.Bytes

/-! # Formatted text in C

Strings as bytes, numbers in decimal notation, and the part of `sscanf` that reads numbers, words
and literal text.
-/

namespace CText

open Net List

def ascii (s : String) : Bytes := s.toList.map fun c => UInt8.ofNat c.toNat

def isDigit (b : UInt8) : Bool := 0x30 ≤ b && b ≤ 0x39

def isSpace (b : UInt8) : Bool := b == 0x20 || (0x09 ≤ b && b ≤ 0x0D)

def cstr (s : Bytes) : Bytes := s.takeWhile (· != 0)

/-! ## Decimal notation -/

def digit (d : Nat) : UInt8 := UInt8.ofNat (0x30 + d)

def decimal (n : Nat) : Bytes :=
  if n = 0 then [digit 0] else (Nat.digits 10 n).reverse.map digit

def decimalInt : Int → Bytes
  | .ofNat n => decimal n
  | .negSucc n => 0x2D :: decimal (n + 1)

def digitsValue (s : Bytes) : Nat := s.foldl (fun acc b => acc * 10 + (b.toNat - 0x30)) 0

theorem digit_toNat {d : Nat} (h : d < 10) : (digit d).toNat = 0x30 + d := by
  unfold digit
  rw [UInt8.toNat_ofNat_of_lt']
  rw [UInt8.size]
  omega

theorem isDigit_digit {d : Nat} (h : d < 10) : isDigit (digit d) = true := by
  have hnat := digit_toNat h
  simp only [isDigit, Bool.and_eq_true, decide_eq_true_eq, UInt8.le_iff_toNat_le, hnat]
  constructor
  · exact Nat.le_add_right _ _
  · show 0x30 + d ≤ 0x39
    omega

variable {n : Nat} {p : UInt8 → Bool} {s rest : Bytes} {width : Nat}

theorem isDigit_of_mem_decimal : ∀ b ∈ decimal n, isDigit b = true := by
  intro b hb
  unfold decimal at hb
  split at hb
  · rw [mem_singleton.mp hb]
    exact isDigit_digit (by omega)
  · simp only [mem_map, mem_reverse] at hb
    obtain ⟨d, hd, rfl⟩ := hb
    exact isDigit_digit (Nat.digits_lt_base (by omega) hd)

theorem decimal_ne_nil (n : Nat) : decimal n ≠ [] := by
  unfold decimal
  split
  · exact nofun
  · next hn =>
    simpa using Nat.digits_ne_nil_iff_ne_zero.mpr hn

theorem length_decimal_le {k : Nat} (hk : 0 < k) (hn : n < 10 ^ k) : (decimal n).length ≤ k := by
  unfold decimal
  split
  · exact hk
  · rw [length_map, length_reverse]
    exact (Nat.digits_length_le_iff (by omega) n).mpr hn

theorem digitsValue_map_digit {ds : List Nat} (hds : ∀ d ∈ ds, d < 10) :
    digitsValue (ds.reverse.map digit) = Nat.ofDigits 10 ds := by
  unfold digitsValue
  rw [foldl_map, foldl_reverse, Nat.ofDigits_eq_foldr]
  induction ds with
  | nil => rfl
  | cons d ds ih =>
    have hd : (digit d).toNat - 0x30 = d := by
      rw [digit_toNat (hds d mem_cons_self)]
      omega
    rw [foldr_cons, foldr_cons, ih fun e he => hds e (mem_cons_of_mem d he), hd]
    simp only [Nat.cast_id]
    ring

theorem digitsValue_decimal (n : Nat) : digitsValue (decimal n) = n := by
  unfold decimal
  split
  · next hn =>
    rw [hn]
    rfl
  · calc digitsValue ((Nat.digits 10 n).reverse.map digit)
        = Nat.ofDigits 10 (Nat.digits 10 n) :=
          digitsValue_map_digit fun d hd => Nat.digits_lt_base (by omega) hd
      _ = n := Nat.ofDigits_digits 10 n

/-! ## Where a class of characters ends -/

def Stops (p : UInt8 → Bool) (rest : Bytes) : Prop := ∀ b, rest.head? = some b → p b = false

theorem takeWhile_stop {b : UInt8} (hp : p b = false) (s t : Bytes) :
    (s ++ b :: t).takeWhile p = s.takeWhile p := by
  induction s with
  | nil => simp [hp]
  | cons c s ih => rw [cons_append, takeWhile_cons, takeWhile_cons, ih]

theorem stops_nil (p : UInt8 → Bool) : Stops p [] := by
  intro b hb
  cases hb

theorem stops_cons {b : UInt8} (hb : p b = false) (rest : Bytes) : Stops p (b :: rest) := by
  intro c hc
  rw [← Option.some.inj hc]
  exact hb

theorem takeWhile_append_of_stops (hs : ∀ b ∈ s, p b = true) (hstop : Stops p rest) :
    (s ++ rest).takeWhile p = s := by
  rw [takeWhile_append_of_pos hs]
  cases rest with
  | nil => simp
  | cons b rest => simp [hstop b rfl]

theorem dropWhile_append_of_stops (hs : ∀ b ∈ s, p b = true) (hstop : Stops p rest) :
    (s ++ rest).dropWhile p = rest := by
  rw [dropWhile_append_of_pos hs]
  cases rest with
  | nil => rfl
  | cons b rest => simp [hstop b rfl]

theorem cstr_append (hs : ∀ b ∈ s, b ≠ 0) : cstr (s ++ rest) = s ++ cstr rest := by
  unfold cstr
  rw [takeWhile_append_of_pos]
  intro b hb
  exact bne_iff_ne.mpr (hs b hb)

theorem cstr_eq_self (hs : ∀ b ∈ s, b ≠ 0) : cstr s = s :=
  takeWhile_eq_self_iff.mpr fun b hb => bne_iff_ne.mpr (hs b hb)

/-! ## Scanning -/

def skipSpace (s : Bytes) : Bytes := s.dropWhile isSpace

def scanDigits (s : Bytes) : Option (Nat × Bytes) :=
  if s.takeWhile isDigit = [] then none
  else some (digitsValue (s.takeWhile isDigit), s.dropWhile isDigit)

def scanNumber (s : Bytes) : Option (Int × Bytes) :=
  match skipSpace s with
  | [] => none
  | b :: rest =>
    if b = 0x2D then (scanDigits rest).map fun r => (-(r.1 : Int), r.2)
    else if b = 0x2B then (scanDigits rest).map fun r => ((r.1 : Int), r.2)
    else (scanDigits (b :: rest)).map fun r => ((r.1 : Int), r.2)

def toInt (v : Int) : Int := Int.bmod (max (-2 ^ 63) (min v (2 ^ 63 - 1))) (2 ^ 32)

def toULong (v : Int) : Nat := if 2 ^ 64 ≤ v.natAbs then 2 ^ 64 - 1 else (v % 2 ^ 64).toNat

inductive Directive where
  | space
  | lit (b : UInt8)
  | int
  | skipInt
  | uint
  | ulong
  | word (width : Nat)
  | skipWord
  | upTo (width : Nat) (stop : UInt8)
  | skipUpTo (stop : UInt8)
  deriving DecidableEq

open Directive

inductive Scanned where
  | int (v : Int)
  | nat (v : Nat)
  | text (s : Bytes)
  deriving DecidableEq

def scanClass (p : UInt8 → Bool) (width : Nat) (s : Bytes) : Option (Bytes × Bytes) :=
  let found := (s.takeWhile p).take width
  if found = [] then none else some (found, s.drop found.length)

/-- What one conversion of `sscanf` stores and what it leaves, or `none` where it fails. -/
def Directive.step : Directive → Bytes → Option (List Scanned × Bytes)
  | .space, s => some ([], skipSpace s)
  | .lit _, [] => none
  | .lit b, c :: rest => if c = b then some ([], rest) else none
  | .int, s => (scanNumber s).map fun r => ([.int (toInt r.1)], r.2)
  | .skipInt, s => (scanNumber s).map fun r => ([], r.2)
  | .uint, s => (scanNumber s).map fun r => ([.nat (toULong r.1 % 2 ^ 32)], r.2)
  | .ulong, s => (scanNumber s).map fun r => ([.nat (toULong r.1)], r.2)
  | .word width, s =>
    (scanClass (fun b => !isSpace b) width (skipSpace s)).map fun r => ([.text r.1], r.2)
  | .skipWord, s =>
    (scanClass (fun b => !isSpace b) s.length (skipSpace s)).map fun r => ([], r.2)
  | .upTo width stop, s => (scanClass (· != stop) width s).map fun r => ([.text r.1], r.2)
  | .skipUpTo stop, s => (scanClass (· != stop) s.length s).map fun r => ([], r.2)

def scan : List Directive → Bytes → List Scanned
  | [], _ => []
  | d :: ds, s => (d.step s).elim [] fun r => r.1 ++ scan ds r.2

theorem scan_cons_of_step {d : Directive} {values : List Scanned} (ds : List Directive)
    (h : d.step s = some (values, rest)) : scan (d :: ds) s = values ++ scan ds rest := by
  rw [scan, h]
  rfl

def intAt (values : List Scanned) (i : Nat) : Int :=
  match values[i]? with
  | some (.int v) => v
  | _ => 0

def natAt (values : List Scanned) (i : Nat) : Nat :=
  match values[i]? with
  | some (.nat v) => v
  | _ => 0

def textAt (values : List Scanned) (i : Nat) : Bytes :=
  match values[i]? with
  | some (.text s) => s
  | _ => []

def lits (s : String) : List Directive := (ascii s).map .lit

/-! ## Reading back what was printed -/

theorem skipSpace_of_stops (hstop : Stops isSpace s) : skipSpace s = s :=
  dropWhile_append_of_stops (s := []) (fun _ hb => absurd hb not_mem_nil) hstop

theorem isSpace_of_isDigit {b : UInt8} (hb : isDigit b = true) : isSpace b = false := by
  simp only [isDigit, Bool.and_eq_true, decide_eq_true_eq, UInt8.le_iff_toNat_le] at hb
  have hlow : 0x30 ≤ b.toNat := hb.1
  simp only [isSpace, Bool.or_eq_false_iff, beq_eq_false_iff_ne, Bool.and_eq_false_iff,
    decide_eq_false_iff_not, UInt8.le_iff_toNat_le]
  refine ⟨?_, Or.inr ?_⟩
  · rintro rfl
    exact absurd hlow (by decide)
  · show ¬ b.toNat ≤ 0x0D
    omega

theorem scanDigits_decimal (n : Nat) (hstop : Stops isDigit rest) :
    scanDigits (decimal n ++ rest) = some (n, rest) := by
  unfold scanDigits
  rw [takeWhile_append_of_stops isDigit_of_mem_decimal hstop, dropWhile_append_of_stops
    isDigit_of_mem_decimal hstop, if_neg (decimal_ne_nil n), digitsValue_decimal]

theorem exists_decimal_cons (n : Nat) : ∃ b s, decimal n = b :: s ∧ isDigit b = true := by
  cases hs : decimal n with
  | nil => exact absurd hs (decimal_ne_nil n)
  | cons b s => exact ⟨b, s, rfl, isDigit_of_mem_decimal b (hs ▸ mem_cons_self)⟩

theorem scanNumber_decimal (n : Nat) (hstop : Stops isDigit rest) :
    scanNumber (decimal n ++ rest) = some ((n : Int), rest) := by
  obtain ⟨b, s, hs, hb⟩ := exists_decimal_cons n
  have hdigits := scanDigits_decimal n hstop
  rw [hs, cons_append] at hdigits ⊢
  unfold scanNumber
  rw [skipSpace_of_stops (stops_cons (isSpace_of_isDigit hb) _)]
  have hminus : b ≠ 0x2D := by
    rintro rfl
    exact absurd hb (by decide)
  have hplus : b ≠ 0x2B := by
    rintro rfl
    exact absurd hb (by decide)
  simp only [if_neg hminus, if_neg hplus, hdigits, Option.map_some]

theorem scanNumber_decimalInt (v : Int) (hstop : Stops isDigit rest) :
    scanNumber (decimalInt v ++ rest) = some (v, rest) := by
  cases v with
  | ofNat n => exact scanNumber_decimal n hstop
  | negSucc n =>
    have hspace : isSpace 0x2D = false := by decide
    show scanNumber (0x2D :: (decimal (n + 1) ++ rest)) = _
    unfold scanNumber
    rw [skipSpace_of_stops (stops_cons hspace _)]
    simp only [if_true, scanDigits_decimal (n + 1) hstop, Option.map_some]
    rfl

theorem toInt_eq {v : Int} (hlow : -2 ^ 31 ≤ v) (hhigh : v < 2 ^ 31) : toInt v = v := by
  unfold toInt
  rw [min_eq_left (by omega), max_eq_right (by omega)]
  exact Int.bmod_eq_of_le (by omega) (by omega)

theorem toULong_eq (h : n < 2 ^ 64) : toULong (n : Int) = n := by
  unfold toULong
  rw [if_neg (by simpa using h)]
  omega

theorem scan_space (ds : List Directive) (hstop : Stops isSpace s) :
    scan (.space :: ds) (0x20 :: s) = scan ds s := by
  have hskip : skipSpace (0x20 :: s) = s := by
    show (0x20 :: s).dropWhile isSpace = s
    rw [dropWhile_cons_of_pos (by decide)]
    exact skipSpace_of_stops hstop
  have hstep : space.step (0x20 :: s) = some ([], s) := by
    show some ([], skipSpace (0x20 :: s)) = _
    rw [hskip]
  exact scan_cons_of_step ds hstep

theorem scan_lits (s rest : Bytes) (ds : List Directive) :
    scan (s.map lit ++ ds) (s ++ rest) = scan ds rest := by
  induction s with
  | nil => rfl
  | cons b s ih =>
    have hstep : (lit b).step (b :: (s ++ rest)) = some ([], s ++ rest) := if_pos rfl
    exact (scan_cons_of_step _ hstep).trans ih

theorem scan_int {v : Int} (ds : List Directive) (hlow : -2 ^ 31 ≤ v) (hhigh : v < 2 ^ 31)
    (hstop : Stops isDigit rest) :
    scan (.int :: ds) (decimalInt v ++ rest) = .int v :: scan ds rest := by
  have hstep : int.step (decimalInt v ++ rest) = some ([.int v], rest) := by
    show (scanNumber (decimalInt v ++ rest)).map _ = _
    rw [scanNumber_decimalInt v hstop, Option.map_some, toInt_eq hlow hhigh]
  exact scan_cons_of_step ds hstep

theorem scan_skipInt (n : Nat) (ds : List Directive) (hstop : Stops isDigit rest) :
    scan (.skipInt :: ds) (decimal n ++ rest) = scan ds rest := by
  have hstep : skipInt.step (decimal n ++ rest) = some ([], rest) := by
    show (scanNumber (decimal n ++ rest)).map _ = _
    rw [scanNumber_decimal n hstop, Option.map_some]
  exact scan_cons_of_step ds hstep

theorem scan_ulong (ds : List Directive) (hn : n < 2 ^ 64) (hstop : Stops isDigit rest) :
    scan (.ulong :: ds) (decimal n ++ rest) = .nat n :: scan ds rest := by
  have hstep : ulong.step (decimal n ++ rest) = some ([.nat n], rest) := by
    show (scanNumber (decimal n ++ rest)).map _ = _
    rw [scanNumber_decimal n hstop, Option.map_some, toULong_eq hn]
  exact scan_cons_of_step ds hstep

theorem scan_uint (ds : List Directive) (hn : n < 2 ^ 32) (hstop : Stops isDigit rest) :
    scan (.uint :: ds) (decimal n ++ rest) = .nat n :: scan ds rest := by
  have hlong : n < 2 ^ 64 := by omega
  have hstep : uint.step (decimal n ++ rest) = some ([.nat n], rest) := by
    show (scanNumber (decimal n ++ rest)).map _ = _
    rw [scanNumber_decimal n hstop, Option.map_some, toULong_eq hlong, Nat.mod_eq_of_lt hn]
  exact scan_cons_of_step ds hstep

theorem scanClass_append (hne : s ≠ []) (hwidth : s.length ≤ width) (hs : ∀ b ∈ s, p b = true)
    (hstop : Stops p rest) : scanClass p width (s ++ rest) = some (s, rest) := by
  unfold scanClass
  simp only [takeWhile_append_of_stops hs hstop, take_of_length_le hwidth, if_neg hne,
    drop_left]

theorem stops_word (hne : s ≠ []) (hs : ∀ b ∈ s, isSpace b = false) (rest : Bytes) :
    Stops isSpace (s ++ rest) := by
  intro b hb
  cases s with
  | nil => exact absurd rfl hne
  | cons c s =>
    rw [← Option.some.inj hb]
    exact hs c mem_cons_self

theorem scan_word (ds : List Directive) (hne : s ≠ []) (hwidth : s.length ≤ width)
    (hs : ∀ b ∈ s, isSpace b = false) (hstop : Stops (fun b => !isSpace b) rest) :
    scan (.word width :: ds) (s ++ rest) = .text s :: scan ds rest := by
  have hclass : scanClass (fun b => !isSpace b) width (s ++ rest) = some (s, rest) :=
    scanClass_append hne hwidth (fun b hb => by rw [hs b hb]; rfl) hstop
  have hstep : (word width).step (s ++ rest) = some ([.text s], rest) := by
    show (scanClass _ width (skipSpace (s ++ rest))).map _ = _
    rw [skipSpace_of_stops (stops_word hne hs rest), hclass, Option.map_some]
  exact scan_cons_of_step ds hstep

theorem scan_upTo {stop : UInt8} (ds : List Directive) (hne : s ≠ []) (hwidth : s.length ≤ width)
    (hs : stop ∉ s) :
    scan (.upTo width stop :: ds) (s ++ stop :: rest) = .text s :: scan ds (stop :: rest) := by
  have hclass : scanClass (· != stop) width (s ++ stop :: rest) = some (s, stop :: rest) := by
    apply scanClass_append hne hwidth
    · intro b hb
      exact bne_iff_ne.mpr fun heq => hs (heq ▸ hb)
    · exact stops_cons (p := fun b => b != stop) (bne_self_eq_false stop) rest
  have hstep : (upTo width stop).step (s ++ stop :: rest)
      = some ([.text s], stop :: rest) := by
    show (scanClass _ width (s ++ stop :: rest)).map _ = _
    rw [hclass, Option.map_some]
  exact scan_cons_of_step ds hstep

theorem scan_skipWord (ds : List Directive) (hne : s ≠ []) (hs : ∀ b ∈ s, isSpace b = false)
    (hstop : Stops (fun b => !isSpace b) rest) :
    scan (.skipWord :: ds) (s ++ rest) = scan ds rest := by
  have hclass : scanClass (fun b => !isSpace b) (s ++ rest).length (s ++ rest) = some (s, rest) := by
    apply scanClass_append hne _ (fun b hb => by rw [hs b hb]; rfl) hstop
    rw [length_append]
    exact Nat.le_add_right _ _
  have hstep : skipWord.step (s ++ rest) = some ([], rest) := by
    show (scanClass _ (s ++ rest).length (skipSpace (s ++ rest))).map _ = _
    rw [skipSpace_of_stops (stops_word hne hs rest), hclass, Option.map_some]
  exact scan_cons_of_step ds hstep

/-! ## Plain text -/

def isPlain (b : UInt8) : Bool := !isSpace b && b != 0

def Plain (s : Bytes) : Prop := ∀ b ∈ s, isPlain b = true

instance : DecidablePred Plain := fun s => List.decidableBAll (fun b => isPlain b = true) s

theorem Plain.not_space (h : Plain s) : ∀ b ∈ s, isSpace b = false := by
  intro b hb
  have hplain := h b hb
  simp only [isPlain, Bool.and_eq_true, Bool.not_eq_true'] at hplain
  exact hplain.1

theorem Plain.ne_zero (h : Plain s) : ∀ b ∈ s, b ≠ 0 := by
  intro b hb
  have hplain := h b hb
  simp only [isPlain, Bool.and_eq_true, bne_iff_ne] at hplain
  exact hplain.2

theorem plain_decimal (n : Nat) : Plain (decimal n) := by
  intro b hb
  have hdigit := isDigit_of_mem_decimal b hb
  have hzero : b ≠ 0 := by
    rintro rfl
    exact absurd hdigit (by decide)
  rw [isPlain, isSpace_of_isDigit hdigit, bne_iff_ne.mpr hzero]
  rfl

theorem plain_decimalInt (v : Int) : Plain (decimalInt v) := by
  cases v with
  | ofNat n => exact plain_decimal n
  | negSucc n =>
    intro b hb
    rcases mem_cons.mp hb with rfl | hb
    · decide
    · exact plain_decimal (n + 1) b hb

theorem decimalInt_ne_nil (v : Int) : decimalInt v ≠ [] := by
  cases v with
  | ofNat n => exact decimal_ne_nil n
  | negSucc n => exact nofun

/-! ## Telling strings apart -/

def differs : Bytes → Bytes → Bool
  | a :: s, b :: t => a != b || differs s t
  | _, _ => false

theorem isPrefixOf_append_of_differs {s head : Bytes} (h : differs s head = true) (rest : Bytes) :
    s.isPrefixOf (head ++ rest) = false := by
  induction s generalizing head with
  | nil => exact absurd h nofun
  | cons a s ih =>
    cases head with
    | nil => exact absurd h nofun
    | cons b head =>
      rw [cons_append, isPrefixOf_cons_cons]
      simp only [differs, Bool.or_eq_true, bne_iff_ne] at h
      rcases h with hne | h
      · rw [beq_eq_false_iff_ne.mpr hne, Bool.false_and]
      · rw [ih h, Bool.and_false]

theorem isPrefixOf_of_differs {s head rest : Bytes} (h : differs s head = true) :
    s.isPrefixOf (cstr (head ++ rest)) = false := by
  rw [Bool.eq_false_iff]
  intro hstarts
  -- what is a start of the string is a start of all that follows in memory
  have hwhole : s <+: head ++ rest :=
    ( isPrefixOf_iff_prefix.mp hstarts).trans ( takeWhile_prefix _)
  have hnot := isPrefixOf_append_of_differs h rest
  rw [ isPrefixOf_iff_prefix.mpr hwhole] at hnot
  cases hnot

theorem isPrefixOf_append_self (s rest : Bytes) : s.isPrefixOf (s ++ rest) = true :=
  isPrefixOf_iff_prefix.mpr (prefix_append s rest)

end CText
