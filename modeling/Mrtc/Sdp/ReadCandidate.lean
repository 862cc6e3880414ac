import Mrtc.Sdp.Written

/-! # Reading a candidate back

A well-formed candidate (`IceCandidate.WellFormed`) is written in full, and its line is read back if
the text after it has no ` raddr ` that could be taken for the candidate's
(`rtcSdpParseCandidateLine_own`).
-/

namespace Mrtc

open Net CText List

/-! ## Looking for a word -/

section Strstr

variable {needle : Bytes}

theorem strstr_cons {b : UInt8} {t : Bytes} (h : needle.isPrefixOf (b :: t) = false) :
    strstr needle (b :: t) = strstr needle t := by
  rw [strstr, if_neg (Bool.eq_false_iff.mp h)]

theorem strstr_word {w : Bytes} (hw : 0x20 ∉ w) (t : Bytes) :
    strstr (0x20 :: needle) (w ++ t) = strstr (0x20 :: needle) t := by
  induction w with
  | nil => rfl
  | cons b w ih =>
    have hb : (0x20 == b) = false := by
      rw [beq_eq_false_iff_ne]
      rintro rfl
      exact hw mem_cons_self
    rw [cons_append, strstr_cons, ih fun hmem => hw (mem_cons_of_mem b hmem)]
    rw [isPrefixOf_cons_cons, hb, Bool.false_and]

theorem strstr_next_word {w : Bytes} (hw : 0x20 ∉ w) (hne : differs needle w = true) (t : Bytes) :
    strstr (0x20 :: needle) (0x20 :: (w ++ t)) = strstr (0x20 :: needle) t := by
  rw [strstr_cons, strstr_word hw]
  rw [isPrefixOf_cons_cons, isPrefixOf_append_of_differs hne, Bool.and_false]

theorem strstr_here (t : Bytes) : strstr (0x20 :: needle) (0x20 :: (needle ++ t))
    = some (0x20 :: (needle ++ t)) := by
  rw [strstr, if_pos]
  exact isPrefixOf_append_self (0x20 :: needle) t

end Strstr

theorem not_mem_space {w : Bytes} (hw : Plain w) : (0x20 : UInt8) ∉ w := by
  intro hmem
  exact absurd (hw.not_space _ hmem) (by decide)

/-! ## Well-formed candidates -/

def isAddrChar (b : UInt8) : Bool :=
  isDigit b || (0x61 ≤ b && b ≤ 0x66) || (0x41 ≤ b && b ≤ 0x46) || b == 0x2E || b == 0x3A

@[mk_iff]
structure RtcAddr.Readable (inet : InetText) (addr : RtcAddr) : Prop where
  text : Word (inet.ntop addr.family addr.ip) 64
  chars : (inet.ntop addr.family addr.ip).all isAddrChar = true
  port_pos : 1 ≤ addr.port
  port_le : addr.port ≤ 65535
  readBack : rtcAddrFromString inet (inet.ntop addr.family addr.ip) addr.port = .ok addr

instance (inet : InetText) (addr : RtcAddr) : Decidable (addr.Readable inet) :=
  decidable_of_iff' _ (RtcAddr.readable_iff inet addr)

/-- The candidate can be written and read by itself. -/
structure IceCandidate.WellFormed (inet : InetText) (c : IceCandidate) : Prop where
  foundation : Word c.foundation 32
  component_pos : 1 ≤ c.component
  component_int : IsInt c.component
  priority : c.priority < 2 ^ 32
  addr : c.addr.Readable inet
  related : ∀ addr, c.relatedAddr = some addr → addr.Readable inet

def relatedPart (inet : InetText) : Option RtcAddr → Bytes
  | none => []
  | some addr => relatedText (inet.ntop addr.family addr.ip) addr.port

def wholeCandidate (inet : InetText) (c : IceCandidate) : Bytes :=
  candidateText c (inet.ntop c.addr.family c.addr.ip) c.addr.port ++ relatedPart inet c.relatedAddr

theorem rtcAddrToString_of_readBack {inet : InetText} {addr : RtcAddr} {text : Bytes} {port : Nat}
    (hread : rtcAddrFromString inet text port = .ok addr) :
    rtcAddrToString inet addr = .ok (inet.ntop addr.family addr.ip, addr.port) := by
  obtain ⟨family, ip, port', scope⟩ := addr
  cases family with
  | inet => rfl
  | inet6 => rfl
  | other =>
    -- the reader gives an address of one of the two families only
    unfold rtcAddrFromString at hread
    split at hread
    · cases hread
    · split at hread
      · cases hread
      · cases hread

theorem RtcAddr.Readable.toString {inet : InetText} {addr : RtcAddr} (h : addr.Readable inet) :
    rtcAddrToString inet addr = .ok (inet.ntop addr.family addr.ip, addr.port) :=
  rtcAddrToString_of_readBack h.readBack

/-! ## Writing a candidate -/

section Written

variable {inet : InetText} {c : IceCandidate}

theorem decimalInt_of_pos {v : Int} (h : 1 ≤ v) : decimalInt v = decimal v.toNat := by
  cases v with
  | ofNat n => rfl
  | negSucc n => omega

theorem length_candidateType (type : CandidateType) :
    (ascii (candidateTypeText type)).length ≤ 5 := by
  cases type <;> decide

theorem length_candidateText (h : c.WellFormed inet) :
    (candidateText c (inet.ntop c.addr.family c.addr.ip) c.addr.port).length ≤ 147 := by
  have hcomponent : (decimalInt c.component).length ≤ 10 := by
    rw [decimalInt_of_pos h.component_pos]
    have hint := h.component_int.2
    exact length_decimal_le (by omega) (by omega)
  have hpriority : (decimal c.priority).length ≤ 10 :=
    length_decimal_le (by omega) (Nat.lt_trans h.priority (by decide))
  have hport : (decimal c.addr.port).length ≤ 5 := by
    have hle := h.addr.port_le
    exact length_decimal_le (by omega) (by omega)
  have hfoundation := h.foundation.fits
  have hip := h.addr.text.fits
  have htype := length_candidateType c.type
  have hlits : (ascii "candidate:").length = 10 ∧ (ascii " ").length = 1
      ∧ (ascii " udp ").length = 5 ∧ (ascii " typ ").length = 5 := by decide
  simp only [candidateText, length_append]
  omega

theorem length_relatedText {addr : RtcAddr} (h : addr.Readable inet) :
    (relatedText (inet.ntop addr.family addr.ip) addr.port).length ≤ 82 := by
  have hport : (decimal addr.port).length ≤ 5 := by
    have hle := h.port_le
    exact length_decimal_le (by omega) (by omega)
  have hip := h.text.fits
  have hlits : (ascii " raddr ").length = 7 ∧ (ascii " rport ").length = 7 := by decide
  simp only [relatedText, length_append]
  omega

theorem rtcIceCandidateToString_wellFormed (h : c.WellFormed inet) :
    rtcIceCandidateToString inet c 256 = .ok (wholeCandidate inet c) := by
  have hfirst := length_candidateText h
  unfold rtcIceCandidateToString wholeCandidate
  simp only [h.addr.toString, bind, Except.bind]
  rw [if_neg (by omega)]
  cases hrelated : c.relatedAddr with
  | none =>
    simp only [relatedPart, append_nil]
  | some addr =>
    have haddr := h.related addr hrelated
    have hsecond := length_relatedText haddr
    simp only [haddr.toString, relatedPart]
    rw [if_neg (by omega)]

theorem candidateLines_wellFormed {cs : List IceCandidate} (hcs : ∀ c ∈ cs, c.WellFormed inet) :
    candidateLines inet cs = cs.map fun c => ascii "a=" ++ wholeCandidate inet c := by
  rw [candidateLines, ← filterMap_eq_map]
  apply filterMap_congr
  intro c hc
  rw [rtcIceCandidateToString_wellFormed (hcs c hc)]
  rfl

end Written

/-! ## Reading a candidate -/

def candidateWords (c : IceCandidate) (ip : Bytes) (port : Nat) (t : Bytes) : Bytes :=
  c.foundation ++ 0x20 :: (decimalInt c.component ++ 0x20 :: (ascii "udp"
    ++ 0x20 :: (decimal c.priority ++ 0x20 :: (ip ++ 0x20 :: (decimal port ++ 0x20 :: (ascii "typ"
      ++ 0x20 :: (ascii (candidateTypeText c.type) ++ t)))))))

theorem candidateText_append (c : IceCandidate) (ip : Bytes) (port : Nat) (t : Bytes) :
    candidateText c ip port ++ t = ascii "candidate:" ++ candidateWords c ip port t := by
  have hspace : ascii " " = [0x20] := by decide
  have hudp : ascii " udp " = 0x20 :: (ascii "udp" ++ [0x20]) := by decide
  have htyp : ascii " typ " = 0x20 :: (ascii "typ" ++ [0x20]) := by decide
  simp only [candidateText, candidateWords, hspace, hudp, htyp, append_assoc,
    cons_append, nil_append]

section Read

variable {inet : InetText} {c : IceCandidate} {t : Bytes}

section

variable (type : CandidateType)
include type

theorem plain_candidateType : Plain (ascii (candidateTypeText type)) := by
  cases type <;> decide

theorem candidateType_ne_nil : ascii (candidateTypeText type) ≠ [] := by
  cases type <;> decide

theorem candidateTypeOf_text : candidateTypeOf (ascii (candidateTypeText type)) = some type := by
  cases type <;> decide

end

theorem scan_candidateFormat (h : c.WellFormed inet) (ht : Stops (fun b => !isSpace b) t) :
    scan candidateFormat
        (candidateWords c (inet.ntop c.addr.family c.addr.ip) c.addr.port t)
      = [.text c.foundation, .int c.component, .text (ascii "udp"), .nat c.priority,
          .text (inet.ntop c.addr.family c.addr.ip), .nat c.addr.port,
          .text (ascii (candidateTypeText c.type))] := by
  have hudp : Plain (ascii "udp") := by decide
  have htyp : Plain (ascii "typ") := by decide
  have hport : c.addr.port < 2 ^ 32 := Nat.lt_of_le_of_lt h.addr.port_le (by decide)
  have hfoundation : c.foundation.length ≤ 31 := Nat.le_of_lt_succ h.foundation.fits
  have hip : (inet.ntop c.addr.family c.addr.ip).length ≤ 63 :=
    Nat.le_of_lt_succ h.addr.text.fits
  have htype : (ascii (candidateTypeText c.type)).length ≤ 7 :=
    Nat.le_trans (length_candidateType c.type) (by decide)
  have hspace : ∀ s : Bytes, Stops (fun b => !isSpace b) (0x20 :: s) := stops_cons (by decide)
  have hdigit : ∀ s : Bytes, Stops isDigit (0x20 :: s) := stops_cons (by decide)
  -- the words of the line, from left to right
  simp only [candidateFormat, candidateWords, cons_append, nil_append]
  rw [scan_word _ h.foundation.ne_nil hfoundation h.foundation.plain.not_space (hspace _),
    scan_space _ (stops_word (decimalInt_ne_nil _) (plain_decimalInt _).not_space _),
    scan_int _ h.component_int.1 h.component_int.2 (hdigit _),
    scan_space _ (stops_word (by decide) hudp.not_space _),
    scan_word _ (by decide) (by decide) hudp.not_space (hspace _),
    scan_space _ (stops_word (decimal_ne_nil _) (plain_decimal _).not_space _),
    scan_uint _ h.priority (hdigit _),
    scan_space _ (stops_word h.addr.text.ne_nil h.addr.text.plain.not_space _),
    scan_word _ h.addr.text.ne_nil hip h.addr.text.plain.not_space (hspace _),
    scan_space _ (stops_word (decimal_ne_nil _) (plain_decimal _).not_space _),
    scan_uint _ hport (hdigit _),
    scan_space _ (stops_word (by decide) htyp.not_space _),
    lits, scan_lits,
    scan_space _ (stops_word (candidateType_ne_nil _) (plain_candidateType _).not_space _),
    scan_word _ (candidateType_ne_nil _) htype (plain_candidateType _).not_space ht]
  rfl

theorem scan_relatedFormat {addr : RtcAddr} (htext : Word (inet.ntop addr.family addr.ip) 64)
    (hle : addr.port ≤ 65535) (ht : Stops isDigit t) :
    scan relatedFormat (relatedText (inet.ntop addr.family addr.ip) addr.port ++ t)
      = [.text (inet.ntop addr.family addr.ip), .nat addr.port] := by
  have hport : addr.port < 2 ^ 32 := Nat.lt_of_le_of_lt hle (by decide)
  have hip : (inet.ntop addr.family addr.ip).length ≤ 63 := Nat.le_of_lt_succ htext.fits
  have hraddr : ascii " raddr " = 0x20 :: (ascii "raddr" ++ [0x20]) := by decide
  have hrport : ascii " rport " = 0x20 :: (ascii "rport" ++ [0x20]) := by decide
  have hraddrPlain : Plain (ascii "raddr") := by decide
  have hrportPlain : Plain (ascii "rport") := by decide
  simp only [relatedFormat, relatedText, hraddr, hrport, append_assoc, cons_append,
    nil_append]
  rw [scan_space _ (stops_word (by decide) hraddrPlain.not_space _), lits, scan_lits,
    scan_space _ (stops_word htext.ne_nil htext.plain.not_space _),
    scan_word _ htext.ne_nil hip htext.plain.not_space (stops_cons (by decide) _),
    scan_space _ (stops_word (by decide) hrportPlain.not_space _), lits, scan_lits,
    scan_space _ (stops_word (decimal_ne_nil _) (plain_decimal _).not_space _),
    scan_uint _ hport ht]
  rfl

theorem differs_raddr {p : UInt8 → Bool} (hr : p 0x72 = false) {w : Bytes} (hne : w ≠ [])
    (hw : ∀ b ∈ w, p b = true) : differs (ascii "raddr ") w = true := by
  cases w with
  | nil => exact absurd rfl hne
  | cons b w =>
    have hb : (0x72 != b) = true := by
      rw [bne_iff_ne]
      rintro rfl
      rw [hw _ mem_cons_self] at hr
      cases hr
    show (0x72 != b || differs (ascii "addr ") w) = true
    rw [hb, Bool.true_or]

theorem differs_raddr_decimal (n : Nat) : differs (ascii "raddr ") (decimal n) = true :=
  differs_raddr (p := isDigit) (by decide) (decimal_ne_nil n) isDigit_of_mem_decimal

theorem differs_raddr_type (type : CandidateType) :
    differs (ascii "raddr ") (ascii (candidateTypeText type)) = true := by
  cases type <;> decide

theorem strstr_candidateWords (h : c.WellFormed inet) (t : Bytes) :
    strstr (0x20 :: ascii "raddr ")
        (candidateWords c (inet.ntop c.addr.family c.addr.ip) c.addr.port t)
      = strstr (0x20 :: ascii "raddr ") t := by
  have hip : differs (ascii "raddr ") (inet.ntop c.addr.family c.addr.ip) = true :=
    differs_raddr (p := isAddrChar) (by decide) h.addr.text.ne_nil
      (all_eq_true.mp h.addr.chars)
  have hudp : Plain (ascii "udp") := by decide
  have htyp : Plain (ascii "typ") := by decide
  rw [candidateWords, strstr_word (not_mem_space h.foundation.plain),
    decimalInt_of_pos h.component_pos,
    strstr_next_word (not_mem_space (plain_decimal _)) (differs_raddr_decimal _),
    strstr_next_word (not_mem_space hudp) (by decide),
    strstr_next_word (not_mem_space (plain_decimal _)) (differs_raddr_decimal _),
    strstr_next_word (not_mem_space h.addr.text.plain) hip,
    strstr_next_word (not_mem_space (plain_decimal _)) (differs_raddr_decimal _),
    strstr_next_word (not_mem_space htyp) (by decide),
    strstr_next_word (not_mem_space (plain_candidateType _)) (differs_raddr_type _)]

theorem raddr_eq : ascii " raddr " = 0x20 :: ascii "raddr " := by decide

theorem parseRelated_written (h : c.WellFormed inet) {addr : RtcAddr}
    (hword : Word (inet.ntop addr.family addr.ip) 64) (hle : addr.port ≤ 65535)
    (ht : Stops isDigit t) :
    parseRelated inet (candidateWords c (inet.ntop c.addr.family c.addr.ip) c.addr.port
        (relatedText (inet.ntop addr.family addr.ip) addr.port ++ t))
      = if addr.port = 0 then .error .sdp
        else (rtcAddrFromString inet (inet.ntop addr.family addr.ip) addr.port).map some := by
  have htext : relatedText (inet.ntop addr.family addr.ip) addr.port ++ t
      = 0x20 :: (ascii "raddr " ++ (inet.ntop addr.family addr.ip
          ++ (ascii " rport " ++ (decimal addr.port ++ t)))) := by
    rw [relatedText, raddr_eq]
    simp only [append_assoc, cons_append]
  let values : List Scanned := [.text (inet.ntop addr.family addr.ip), .nat addr.port]
  have hport : (natAt values 1 = 0 ∨ 65535 < natAt values 1) ↔ addr.port = 0 := by
    show addr.port = 0 ∨ 65535 < addr.port ↔ _
    omega
  rw [parseRelated, raddr_eq, strstr_candidateWords h, htext, strstr_here, ← htext]
  simp only [scan_relatedFormat hword hle ht]
  rw [if_neg (by simp), ite_cond_congr (propext hport)]
  split
  · rfl
  · show (do let r ← rtcAddrFromString inet (inet.ntop addr.family addr.ip) addr.port; _) = _
    cases rtcAddrFromString inet (inet.ntop addr.family addr.ip) addr.port <;> rfl

theorem parseRelated_none (h : c.WellFormed inet) {t : Bytes}
    (ht : strstr (ascii " raddr ") t = none) :
    parseRelated inet (candidateWords c (inet.ntop c.addr.family c.addr.ip) c.addr.port t)
      = .ok none := by
  rw [raddr_eq] at ht
  rw [parseRelated, raddr_eq, strstr_candidateWords h, ht]

theorem parseRelated_part (h : c.WellFormed inet) (hdigit : Stops isDigit t)
    {next : Option RtcAddr} (hnext : parseRelated inet t = .ok next) :
    parseRelated inet (candidateWords c (inet.ntop c.addr.family c.addr.ip) c.addr.port
        (relatedPart inet c.relatedAddr ++ t)) = .ok (c.relatedAddr.or next) := by
  cases hrelated : c.relatedAddr with
  | none =>
    rw [parseRelated, raddr_eq] at hnext
    rw [parseRelated, raddr_eq, strstr_candidateWords h]
    exact hnext
  | some addr =>
    have haddr := h.related addr hrelated
    have hpos := haddr.port_pos
    rw [relatedPart, parseRelated_written h haddr.text haddr.port_le hdigit, if_neg (by omega),
      haddr.readBack]
    rfl

theorem isPrefixOf_attribute (p : Bytes) :
    (ascii "a=").isPrefixOf (ascii "candidate:" ++ p) = false :=
  isPrefixOf_append_of_differs (by decide) p

theorem rtcSdpParseCandidateLine_words (h : c.WellFormed inet)
    (ht : Stops (fun b => !isSpace b) t) :
    rtcSdpParseCandidateLine inet (candidateText c (inet.ntop c.addr.family c.addr.ip) c.addr.port
        ++ t)
      = (parseRelated inet (candidateWords c (inet.ntop c.addr.family c.addr.ip) c.addr.port t)).map
          fun related => { c with relatedAddr := related } := by
  let ip := inet.ntop c.addr.family c.addr.ip
  let words := candidateWords c ip c.addr.port t
  let values : List Scanned :=
    [.text c.foundation, .int c.component, .text (ascii "udp"), .nat c.priority, .text ip,
      .nat c.addr.port, .text (ascii (candidateTypeText c.type))]
  have hscan : scan candidateFormat words = values := scan_candidateFormat h ht
  have hrange : ¬ (intAt values 1 ≤ 0 ∨ natAt values 5 = 0 ∨ 65535 < natAt values 5) := by
    have hcomponent := h.component_pos
    have hpos := h.addr.port_pos
    have hle := h.addr.port_le
    show ¬ (c.component ≤ 0 ∨ c.addr.port = 0 ∨ 65535 < c.addr.port)
    omega
  have hcount : ¬ values.length < 7 := Nat.lt_irrefl 7
  have hudp : ¬ (textAt values 2 ≠ ascii "udp" ∧ textAt values 2 ≠ ascii "UDP") :=
    fun hne => hne.1 rfl
  have htype : candidateTypeOf (textAt values 6) = some c.type := candidateTypeOf_text c.type
  have haddr : rtcAddrFromString inet (textAt values 4) (natAt values 5) = .ok c.addr :=
    h.addr.readBack
  have hstart : (!(ascii "candidate:").isPrefixOf (ascii "candidate:" ++ words)) = false := by
    rw [isPrefixOf_append_self, Bool.not_true]
  have hdrop : (ascii "candidate:" ++ words).drop 10 = words := rfl
  rw [candidateText_append, rtcSdpParseCandidateLine, isPrefixOf_attribute,
    if_neg Bool.false_ne_true]
  dsimp only
  rw [hstart, if_neg Bool.false_ne_true, hdrop, hscan, if_neg hcount, if_neg hudp, if_neg hrange]
  simp only [htype, haddr]
  show (do let related ← parseRelated inet words; _) = _
  cases parseRelated inet words <;> rfl

theorem rtcSdpParseCandidateLine_attribute (p : Bytes) :
    rtcSdpParseCandidateLine inet (ascii "a=" ++ (ascii "candidate:" ++ p))
      = rtcSdpParseCandidateLine inet (ascii "candidate:" ++ p) := by
  have hskip : (ascii "a=" ++ (ascii "candidate:" ++ p)).drop 2 = ascii "candidate:" ++ p := rfl
  unfold rtcSdpParseCandidateLine
  rw [isPrefixOf_append_self, if_pos rfl, hskip, isPrefixOf_attribute, if_neg Bool.false_ne_true]

/-- A candidate without a related address takes what stands behind it for one. -/
theorem rtcSdpParseCandidateLine_own (h : c.WellFormed inet) (hword : Stops (fun b => !isSpace b) t)
    (hdigit : Stops isDigit t) {next : Option RtcAddr} (hnext : parseRelated inet t = .ok next) :
    rtcSdpParseCandidateLine inet (ascii "a=" ++ (wholeCandidate inet c ++ t))
      = .ok { c with relatedAddr := c.relatedAddr.or next } := by
  have htail : Stops (fun b => !isSpace b) (relatedPart inet c.relatedAddr ++ t) := by
    cases c.relatedAddr with
    | none => exact hword
    | some addr => exact stops_cons (by decide) _
  rw [wholeCandidate, append_assoc, candidateText_append, rtcSdpParseCandidateLine_attribute,
    ← candidateText_append, rtcSdpParseCandidateLine_words h htail, parseRelated_part h hdigit hnext]
  rfl

end Read

end Mrtc
