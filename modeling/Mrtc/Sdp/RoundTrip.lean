import Mrtc.Sdp.Written

/-! # A generated description is read back

`rtcSdpParse_generate`: the parser finds in the text of a description the transport parameters and
the media sections it was generated from.
-/

namespace Mrtc

open Net CText List SdpLine

/-! ## The loop over the lines -/

theorem sdpParseLines_view (inet : InetText) (alloc : Bool) (rest : Bytes) {ls : List SdpLine}
    (hls : ∀ l ∈ ls, l.Ok) {fuel : Nat} (hfuel : (linesText ls).length ≤ fuel) (st : SdpState) :
    (sdpParseLines inet alloc fuel st (linesText ls ++ rest) (linesText ls).length).view
      = ls.foldl apply st.view := by
  rw [linesText_eq] at hfuel ⊢
  induction ls generalizing fuel st with
  | nil =>
    cases fuel with
    | zero => rfl
    | succ fuel => rfl
  | cons l ls ih =>
    have hl := hls l mem_cons_self
    rw [map_cons] at hfuel ⊢
    have hlength := length_crlfLines_cons l.text (ls.map text)
    cases fuel with
    | zero => omega
    | succ fuel =>
      have htail : ∀ m ∈ ls, m.Ok := fun m hm => hls m (mem_cons_of_mem l hm)
      rw [sdpParseLines_crlf inet alloc rest fuel st (oneLine_text hl),
        ih htail (by omega), sdpParseLine_view inet alloc st _ hl, foldl_cons]

/-! ## What the lines mean together -/

def SdpMedia.described (m : SdpMedia) : SdpMedia :=
  if m.mediaType.isRtp then m else { mediaType := m.mediaType, midIndex := m.midIndex }

open SdpMedia

def SdpView.reading (v : SdpView) (ms : List SdpMedia) (m : SdpMedia) : SdpView :=
  { v with media := ms ++ [m], current := some ms.length }

theorem SdpView.reading_update (v : SdpView) (ms : List SdpMedia) (m : SdpMedia)
    (f : SdpMedia → SdpMedia) : (v.reading ms m).update f = v.reading ms (f m) := by
  have hmodify : (ms ++ [m]).modify ms.length f = ms ++ [f m] := by
    induction ms with
    | nil => rfl
    | cons n ms ih =>
      rw [cons_append, length_cons, modify_succ_cons, ih]
      rfl
  simp only [update, reading, hmodify]

theorem foldl_extmaps (v : SdpView) (ms : List SdpMedia) (m : SdpMedia) {es : List SdpExtmap}
    (hes : ∀ e ∈ es, 1 ≤ e.id ∧ e.id ≤ 14) (hcount : m.extmaps.length + es.length ≤ sdpMaxExtmap) :
    (es.map extmap).foldl apply (v.reading ms m)
      = v.reading ms { m with extmaps := m.extmaps ++ es } := by
  induction es generalizing m with
  | nil =>
    rw [append_nil]
    rfl
  | cons e es ih =>
    obtain ⟨hlow, hhigh⟩ := hes e mem_cons_self
    rw [length_cons] at hcount
    have hadd : addExtmap e.id e.uri m = { m with extmaps := m.extmaps ++ [e] } := by
      rw [addExtmap, if_pos ⟨by omega, by omega, by omega⟩]
      rfl
    have hnext : (m.extmaps ++ [e]).length + es.length ≤ sdpMaxExtmap := by
      rw [length_append, length_singleton]
      omega
    rw [map_cons, foldl_cons, apply, SdpView.reading_update, hadd,
      ih { m with extmaps := m.extmaps ++ [e] } (fun d hd => hes d (mem_cons_of_mem e hd))
        hnext]
    simp only [append_assoc, singleton_append]

def SdpMedia.opened (m : SdpMedia) : SdpMedia :=
  { mediaType := m.mediaType, payloadType := m.payloadType, midIndex := m.midIndex }

theorem foldl_rtpLines (v : SdpView) (ms : List SdpMedia) {m : SdpMedia} (h : m.RtpOk)
    (hrtp : m.mediaType.isRtp = true) :
    (rtpLines m).foldl apply (v.reading ms m.opened) = v.reading ms m := by
  -- a number of channels that is not written is zero
  have hchannels : (if m.mediaType == .audio && 0 < m.channels then some m.channels
      else none).getD 0 = m.channels := by
    cases hm : m.mediaType with
    | audio =>
      have hnonneg := h.audio hm
      by_cases hpos : 0 < m.channels
      · simp [hpos]
      · simp [hpos]
        omega
    | video => simp [h.video hm]
    | application =>
      rw [hm] at hrtp
      cases hrtp
  have hids : ∀ e ∈ m.extmaps, 1 ≤ e.id ∧ e.id ≤ 14 := fun e he =>
    ⟨(h.extmaps e he).1, (h.extmaps e he).2.1⟩
  have hcount : ([] : List SdpExtmap).length + m.extmaps.length ≤ sdpMaxExtmap := by
    rw [length_nil, Nat.zero_add]
    exact h.extmap_count
  -- the codec first, then the extensions one by one, then the SSRC, which was zero so far
  simp only [rtpLines, foldl_append, foldl_cons, foldl_nil, apply,
    rtpmapLine, SdpView.reading_update, opened, hchannels]
  rw [foldl_extmaps v ms _ hids hcount]
  by_cases hssrc : m.ssrc = 0
  · rw [if_pos hssrc, foldl_nil, nil_append, ← hssrc]
  · rw [if_neg hssrc, foldl_cons, foldl_nil, apply, SdpView.reading_update,
      if_pos rfl, nil_append]

structure SdpView.Reads (v : SdpView) (sdp : Sdp) (ms : List SdpMedia) : Prop where
  iceUfrag : v.iceUfrag = sdp.iceUfrag
  icePwd : v.icePwd = sdp.icePwd
  fingerprint : v.fingerprint = sdp.fingerprint
  setup : v.setup = sdp.setup
  media : v.media = ms

theorem foldl_sectionLines (sdp : Sdp) (v : SdpView) {m : SdpMedia} (h : m.Ok)
    (hroom : v.media.length < sdpMaxMedia) :
    ((sectionLines sdp m).foldl apply v).Reads sdp (v.media ++ [m.described]) := by
  let w : SdpView :=
    { v with
      iceUfrag := sdp.iceUfrag
      icePwd := sdp.icePwd
      fingerprint := sdp.fingerprint
      setup := sdp.setup }
  have hopen : (sectionLines sdp m).foldl apply v
      = (if m.mediaType.isRtp then rtpLines m else [inert .sctpPort]).foldl apply
          (w.reading v.media
            { mediaType := m.mediaType
              payloadType := if m.mediaType.isRtp then m.payloadType else 0
              midIndex := m.midIndex }) := by
    rw [sectionLines, foldl_append]
    congr 1
    simp only [foldl_cons, foldl_nil, apply, if_pos hroom]
    exact congrArg (fun u : SdpView =>
      { u with
        iceUfrag := sdp.iceUfrag
        icePwd := sdp.icePwd
        fingerprint := sdp.fingerprint
        setup := sdp.setup }) (SdpView.reading_update v v.media _ _)
  rw [hopen, described]
  by_cases hrtp : m.mediaType.isRtp = true
  · have hlines := foldl_rtpLines w v.media (h.rtp hrtp) hrtp
    rw [opened] at hlines
    simp only [hrtp, if_true]
    rw [hlines]
    exact ⟨rfl, rfl, rfl, rfl, rfl⟩
  · simp only [hrtp, Bool.false_eq_true, if_false]
    exact ⟨rfl, rfl, rfl, rfl, rfl⟩

theorem foldl_sections (sdp : Sdp) {ms : List SdpMedia} (hms : ∀ m ∈ ms, m.Ok) {v : SdpView}
    {done : List SdpMedia} (hv : v.Reads sdp done) (hroom : done.length + ms.length ≤ sdpMaxMedia) :
    ((ms.flatMap (sectionLines sdp)).foldl apply v).Reads sdp
      (done ++ ms.map described) := by
  induction ms generalizing v done with
  | nil =>
    rw [map_nil, append_nil]
    exact hv
  | cons m ms ih =>
    rw [length_cons] at hroom
    have hfirst := foldl_sectionLines sdp v (hms m mem_cons_self)
    rw [hv.media] at hfirst
    have hrest : (done ++ [m.described]).length + ms.length ≤ sdpMaxMedia := by
      rw [length_append, length_singleton]
      omega
    have htail := ih (fun n hn => hms n (mem_cons_of_mem m hn)) (hfirst (by omega)) hrest
    rw [flatMap_cons, foldl_append, map_cons]
    rwa [append_assoc] at htail

theorem foldl_candidates (v : SdpView) (values : List Bytes) :
    (values.map candidate).foldl apply v = v := by
  induction values with
  | nil => rfl
  | cons value values ih => exact ih

theorem foldl_sdpLines (inet : InetText) {sdp : Sdp} (h : sdp.Ok) {v : SdpView}
    (hv : v.media = []) :
    ((sdpLines inet sdp).foldl apply v).Reads sdp (sdp.media.map described) := by
  have hheader : (headerLines sdp).foldl apply v = v := rfl
  rw [sdpLines, foldl_append, foldl_append, hheader, foldl_candidates]
  cases hmedia : sdp.media with
  | nil =>
    have hpos := h.media_pos
    rw [hmedia] at hpos
    cases hpos
  | cons m ms =>
    have hall := h.media
    have hcount := h.media_count
    rw [hmedia] at hall hcount
    -- the first section sets the transport parameters, whatever they were
    have hfirst := foldl_sectionLines sdp v (hall m mem_cons_self) (by rw [hv]; decide)
    rw [hv] at hfirst
    rw [length_cons] at hcount
    have hrest : ([] ++ [m.described]).length + ms.length ≤ sdpMaxMedia := by
      rw [nil_append, length_singleton]
      omega
    rw [flatMap_cons, foldl_append, map_cons]
    exact foldl_sections sdp (fun n hn => hall n (mem_cons_of_mem m hn)) hfirst hrest

/-! ## Round trip -/

/-- A description is written to `raw`, and its text and the terminating zero, in front of anything,
are parsed into any structure: the ICE credentials, the fingerprint, the setup role and the list of
media sections are read back. -/
theorem rtcSdpParse_generate {inet : InetText} {sdp written : Sdp} {nowMs : Nat} (h : sdp.Ok)
    (hgen : rtcSdpGenerate inet sdp nowMs = .ok written) (alloc : Bool) (old : Sdp)
    (rest : Bytes) :
    let parsed := rtcSdpParse inet alloc old (written.raw ++ 0 :: rest) written.raw.length
    parsed.iceUfrag = sdp.iceUfrag
      ∧ parsed.icePwd = sdp.icePwd
      ∧ parsed.fingerprint = sdp.fingerprint
      ∧ parsed.setup = sdp.setup
      ∧ parsed.media = sdp.media.map described := by
  intro parsed
  obtain ⟨hraw, hlength⟩ := rtcSdpGenerate_raw h hgen
  have hok := h.withSessionId nowMs
  have hparsed : parsed = _ := rtcSdpParse_eq inet alloc old hlength (0 :: rest)
  -- the loop does what the lines mean, and they mean the description
  have hview := sdpParseLines_view inet alloc (0 :: rest) (sdpLines_ok inet hok) (Nat.le_refl _)
    (sdpParseStart old written.raw)
  rw [← hraw] at hview
  have hreads := foldl_sdpLines inet hok (v := (sdpParseStart old written.raw).view) rfl
  rw [← hview] at hreads
  rw [hparsed]
  exact ⟨hreads.iceUfrag, hreads.icePwd, hreads.fingerprint, hreads.setup, hreads.media⟩

def oneAddress : InetText where
  ntop _ _ := ascii "10.0.0.1"
  pton _ _ := some [10, 0, 0, 1]
  ntop_plain _ _ := by decide

def threeSections : Sdp where
  iceUfrag := ascii "u7Kq"
  icePwd := ascii "p0123456789abcdefghijk"
  fingerprint := ascii "AB:CD"
  setup := .actpass
  media :=
    [{ mediaType := .audio
       payloadType := 111
       clockrate := 48000
       channels := 2
       codecName := ascii "opus"
       ssrc := 4294967295
       extmaps := [⟨3, ascii "urn:twcc"⟩] },
      { mediaType := .video
        payloadType := 96
        clockrate := 90000
        codecName := ascii "VP8"
        midIndex := 1 },
      { mediaType := .application, midIndex := -2 }]
  candidates :=
    [{ type := .host
       addr := { family := .inet, ip := [10, 0, 0, 1], port := 5000 }
       priority := 1
       component := 1
       foundation := ascii "1" }]

theorem threeSections_readBack :
    ∃ written, rtcSdpGenerate oneAddress threeSections 7 = .ok written
      ∧ (rtcSdpParse oneAddress true {} (written.raw ++ [0]) written.raw.length).media
        = threeSections.media.map described := by
  have hok : threeSections.Ok := by decide +kernel
  have hwritten : (rtcSdpGenerate oneAddress threeSections 7).isOk = true := by decide +kernel
  cases hgen : rtcSdpGenerate oneAddress threeSections 7 with
  | error e =>
    rw [hgen] at hwritten
    cases hwritten
  | ok written =>
    obtain ⟨-, -, -, -, hmedia⟩ := rtcSdpParse_generate hok hgen true {} []
    exact ⟨written, rfl, hmedia⟩

end Mrtc
