import Mrtc.Sdp.Candidates

/-! # Candidates on their own (`rtc_sdp.c`)

A candidate is also sent without a description around it, as `rtc_ice_candidate_to_string` writes it
and `rtc_sdp_parse_candidate_line` reads it.
-/

namespace Mrtc

open Net CText

@[mk_iff]
structure RtcAddr.Textual (inet : InetText) (addr : RtcAddr) : Prop where
  text : Word (inet.ntop addr.family addr.ip) 64
  chars : (inet.ntop addr.family addr.ip).all isAddrChar = true
  readBack : rtcAddrFromString inet (inet.ntop addr.family addr.ip) addr.port = .ok addr

instance (inet : InetText) (addr : RtcAddr) : Decidable (addr.Textual inet) :=
  decidable_of_iff' _ (RtcAddr.textual_iff inet addr)

structure IceCandidate.Printable (inet : InetText) (c : IceCandidate) : Prop where
  foundation : Word c.foundation 32
  component_pos : 1 ≤ c.component
  component_int : IsInt c.component
  priority : c.priority < 2 ^ 32
  addr : c.addr.Textual inet
  port_pos : 1 ≤ c.addr.port
  port_le : c.addr.port ≤ 65535
  related : ∀ addr, c.relatedAddr = some addr → addr.Textual inet ∧ addr.port ≤ 65535

section Line

variable {inet : InetText} {c : IceCandidate}

section

variable (h : c.Printable inet)
include h

theorem IceCandidate.Printable.alone :
    IceCandidate.WellFormed inet { c with relatedAddr := none } where
  foundation := h.foundation
  component_pos := h.component_pos
  component_int := h.component_int
  priority := h.priority
  addr := ⟨h.addr.text, h.addr.chars, h.port_pos, h.port_le, h.addr.readBack⟩
  related _ hrelated := by cases hrelated

theorem rtcIceCandidateToString_printable {len : Nat} {text : Bytes}
    (htext : rtcIceCandidateToString inet c len = .ok text) : text = wholeCandidate inet c := by
  unfold rtcIceCandidateToString at htext
  simp only [rtcAddrToString_of_readBack h.addr.readBack, bind, Except.bind] at htext
  split at htext
  · cases htext
  unfold wholeCandidate
  cases hrelated : c.relatedAddr with
  | none =>
    rw [hrelated] at htext
    cases htext
    rw [relatedPart, List.append_nil]
  | some addr =>
    rw [hrelated] at htext
    simp only [rtcAddrToString_of_readBack (h.related addr hrelated).1.readBack] at htext
    split at htext
    · cases htext
    · cases htext
      rfl

theorem parseRelated_printable :
    parseRelated inet (candidateWords c (inet.ntop c.addr.family c.addr.ip) c.addr.port
        (relatedPart inet c.relatedAddr))
      = if ∃ addr, c.relatedAddr = some addr ∧ addr.port = 0 then .error .sdp
        else .ok c.relatedAddr := by
  cases hrelated : c.relatedAddr with
  | none =>
    rw [if_neg (by simp)]
    exact parseRelated_none h.alone rfl
  | some addr =>
    obtain ⟨haddr, hle⟩ := h.related addr hrelated
    have hread := parseRelated_written h.alone haddr.text hle (t := []) (stops_nil _)
    rw [List.append_nil, haddr.readBack] at hread
    refine hread.trans ?_
    simp only [Option.some.injEq, exists_eq_left']
    rfl

end

/-- **A candidate's line is read back just if the related address has a port.** -/
theorem candidate_line_iff (h : c.Printable inet) {len : Nat} {text : Bytes}
    (htext : rtcIceCandidateToString inet c len = .ok text) :
    rtcSdpParseCandidateLine inet text = .ok c
      ↔ ∀ addr, c.relatedAddr = some addr → addr.port ≠ 0 := by
  have htail : Stops (fun b => !isSpace b) (relatedPart inet c.relatedAddr) := by
    cases c.relatedAddr with
    | none => exact stops_nil _
    | some addr => exact stops_cons (by decide) _
  rw [rtcIceCandidateToString_printable h htext, wholeCandidate]
  have hread := rtcSdpParseCandidateLine_words h.alone htail
  have hrelated := parseRelated_printable h
  refine (Iff.of_eq (congrArg (· = Except.ok c) (hread.trans (congrArg _ hrelated)))).trans ?_
  by_cases hzero : ∃ addr, c.relatedAddr = some addr ∧ addr.port = 0
  · rw [if_pos hzero]
    obtain ⟨addr, haddr, hport⟩ := hzero
    refine ⟨fun hok => ?_, fun hports => absurd hport (hports addr haddr)⟩
    cases hok
  · rw [if_neg hzero]
    refine ⟨fun _ addr haddr hport => hzero ⟨addr, haddr, hport⟩, fun _ => rfl⟩

end Line

def hiddenHostCandidate : IceCandidate :=
  { reflexiveCandidate with relatedAddr := some { family := .inet, ip := [0, 0, 0, 0], port := 0 } }

theorem reflexiveCandidate_printable : reflexiveCandidate.Printable dottedQuad where
  foundation := by decide
  component_pos := by decide
  component_int := by decide
  priority := by decide
  addr := by decide +kernel
  port_pos := by decide
  port_le := by decide
  related _ hrelated := by
    cases hrelated
    decide +kernel

theorem reflexiveLine_readBack :
    ∃ text, rtcIceCandidateToString dottedQuad reflexiveCandidate 256 = .ok text
      ∧ rtcSdpParseCandidateLine dottedQuad text = .ok reflexiveCandidate := by
  have hwritten : (rtcIceCandidateToString dottedQuad reflexiveCandidate 256).isOk = true := by
    decide +kernel
  cases htext : rtcIceCandidateToString dottedQuad reflexiveCandidate 256 with
  | error e =>
    rw [htext] at hwritten
    cases hwritten
  | ok text =>
    refine ⟨text, rfl, (candidate_line_iff reflexiveCandidate_printable htext).mpr ?_⟩
    intro addr haddr
    cases haddr
    decide

/-- `raddr 0.0.0.0 rport 0` is written, and then refused. -/
theorem hiddenHostLine_refused :
    hiddenHostCandidate.Printable dottedQuad
      ∧ rtcIceCandidateToString dottedQuad hiddenHostCandidate 256
        = .ok (ascii "candidate:2 1 udp 1694498815 203.0.113.9 61000 typ srflx raddr 0.0.0.0 rport 0")
      ∧ rtcSdpParseCandidateLine dottedQuad
          (ascii "candidate:2 1 udp 1694498815 203.0.113.9 61000 typ srflx raddr 0.0.0.0 rport 0")
        = .error .sdp := by
  refine ⟨{ reflexiveCandidate_printable with related := ?_ }, by decide +kernel, by decide +kernel⟩
  intro addr haddr
  cases haddr
  decide +kernel

end Mrtc
