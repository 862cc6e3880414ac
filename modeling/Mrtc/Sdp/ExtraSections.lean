import Mrtc.Sdp.AnyLine
import Mrtc.Sdp.Candidates

/-! # Sections beyond the fourth

`rtc_sdp_parse` stores four media sections. The lines of a further one are read into the fourth:
`extra_sections_ignored_iff` says which lines leave it as it is.
-/

namespace Mrtc

open Net CText List

/-! ## The sections alone -/

def SdpLine.onSection (m : SdpMedia) : SdpLine → SdpMedia
  | .mid midIndex => { m with midIndex := midIndex }
  | .rtpmap payloadType codec clockrate channels =>
    { m with
      payloadType := payloadType
      clockrate := clockrate
      channels := channels.getD 0
      codecName := codec }
  | .extmap e => addExtmap e.id e.uri m
  | .ssrc value => if m.ssrc = 0 then { m with ssrc := value } else m
  | _ => m

def SdpLine.opens : SdpLine → Bool
  | .media .. => true
  | _ => false

def SdpLine.onSections (ms : List SdpMedia) (l : SdpLine) : List SdpMedia :=
  match l with
  | .media mediaType payloadType =>
    if ms.length < sdpMaxMedia then
      ms ++ [{ mediaType := mediaType, payloadType := payloadType, midIndex := ms.length }]
    else ms
  | l => ms.modify (ms.length - 1) fun m => l.onSection m

def SdpView.AtLast (v : SdpView) : Prop :=
  v.media = [] ∧ v.current = none ∨ v.current = some (v.media.length - 1)

section Sections

variable {v : SdpView} (h : v.AtLast)

include h

theorem SdpView.AtLast.update_media (f : SdpMedia → SdpMedia) :
    (v.update f).media = v.media.modify (v.media.length - 1) f := by
  unfold SdpView.update
  rcases h with ⟨hmedia, hcurrent⟩ | hcurrent
  · rw [hcurrent, hmedia]
    rfl
  · rw [hcurrent]

theorem SdpView.AtLast.update (f : SdpMedia → SdpMedia) : (v.update f).AtLast := by
  unfold SdpView.update
  rcases h with ⟨hmedia, hcurrent⟩ | hcurrent
  · rw [hcurrent]
    exact .inl ⟨hmedia, hcurrent⟩
  · refine .inr ?_
    rw [hcurrent]
    dsimp only
    rw [length_modify]

theorem SdpView.AtLast.apply (l : SdpLine) :
    (l.apply v).AtLast ∧ (l.apply v).media = l.onSections v.media := by
  cases l with
  | media mediaType payloadType =>
    dsimp only [SdpLine.apply, SdpLine.onSections]
    split
    · exact ⟨.inr (by rw [length_append]; rfl), rfl⟩
    · exact ⟨h, rfl⟩
  | mid | rtpmap | extmap | ssrc => exact ⟨h.update _, h.update_media _⟩
  | inert | iceOptions | candidate | iceUfrag | icePwd | fingerprint | setup =>
    exact ⟨h, (List.modify_id _ _).symm⟩

theorem SdpView.AtLast.foldl_media (ls : List SdpLine) :
    (ls.foldl SdpLine.apply v).media = ls.foldl SdpLine.onSections v.media := by
  induction ls generalizing v with
  | nil => rfl
  | cons l ls ih => grind [h.apply]

end Sections

def sectionsOf (lines : List (Bytes × Nat)) : List SdpMedia :=
  (textEffects lines).foldl SdpLine.onSections []

theorem sdpParseLines_sections (inet : InetText) (alloc : Bool) (fuel : Nat) (old : Sdp)
    (raw text : Bytes) (len : Nat) :
    (sdpParseLines inet alloc fuel (sdpParseStart old raw) text len).sdp.media
      = sectionsOf (parsedLines fuel text len) := by
  have hlast : (sdpParseStart old raw).view.AtLast := .inl ⟨rfl, rfl⟩
  have hview := sdpParseLines_any inet alloc fuel (sdpParseStart old raw) text len
  exact (congrArg SdpView.media hview).trans (hlast.foldl_media _)

/-! ## How many there are -/

variable {ms : List SdpMedia}

theorem SdpLine.length_onSections (hms : ms.length ≤ sdpMaxMedia) (l : SdpLine) :
    (l.onSections ms).length = min sdpMaxMedia (ms.length + if l.opens then 1 else 0) := by
  cases l with
  | media mediaType payloadType =>
    rw [SdpLine.onSections, SdpLine.opens, if_pos rfl]
    split
    · rw [length_append, length_singleton]
      omega
    · omega
  | _ => exact (length_modify ..).trans (Nat.min_eq_right hms).symm

theorem length_foldl_onSections (ls : List SdpLine) (hms : ms.length ≤ sdpMaxMedia) :
    (ls.foldl SdpLine.onSections ms).length
      = min sdpMaxMedia (ms.length + ls.countP SdpLine.opens) := by
  induction ls generalizing ms with
  | nil => exact (Nat.min_eq_right hms).symm
  | cons l ls ih =>
    have hlength := l.length_onSections hms
    rw [foldl_cons, ih (hlength ▸ Nat.min_le_left _ _), hlength, countP_cons]
    omega

theorem length_sectionsOf (lines : List (Bytes × Nat)) :
    (sectionsOf lines).length = min sdpMaxMedia ((textEffects lines).countP SdpLine.opens) := by
  rw [sectionsOf, length_foldl_onSections _ (Nat.zero_le _), length_nil, Nat.zero_add]

theorem foldl_onSections_full (ls : List SdpLine) (hfull : ms.length = sdpMaxMedia) :
    ls.foldl SdpLine.onSections ms
      = ms.modify (sdpMaxMedia - 1) fun m => ls.foldl SdpLine.onSection m := by
  induction ls generalizing ms with
  | nil => exact (List.modify_id _ _).symm
  | cons l ls ih =>
    have hstep : l.onSections ms = ms.modify (sdpMaxMedia - 1) fun m => l.onSection m := by
      cases l with
      | media mediaType payloadType =>
        rw [SdpLine.onSections, if_neg (by omega)]
        exact (List.modify_id _ _).symm
      | _ => rw [← hfull]; rfl
    rw [foldl_cons, hstep, ih (by rw [length_modify, hfull]), modify_modify_eq]
    rfl

/-! ## The text cut in front of a line -/

/-- What the lines of the tail do. -/
def tailLines (tail rest : Bytes) : List SdpLine :=
  textEffects (parsedLines tail.length (tail ++ rest) tail.length)

theorem rtcSdpParse_sections (inet : InetText) (alloc : Bool) (old : Sdp) {ls : List Bytes}
    (hls : ∀ l ∈ ls, 0x0A ∉ l) (tail rest : Bytes) {len : Nat}
    (hlen : min len (sdpMaxSize - 1) = (lfLines ls ++ tail).length) :
    (rtcSdpParse inet alloc old (lfLines ls ++ tail ++ rest) len).media
      = (tailLines tail rest).foldl SdpLine.onSections
          (sectionsOf (linesBefore (tail ++ rest) ls)) := by
  have hparse := sdpParseLines_sections inet alloc (lfLines ls ++ tail).length old
    (lfLines ls ++ tail) (lfLines ls ++ tail ++ rest) (lfLines ls ++ tail).length
  rw [parsedLines_lfLines hls tail rest (Nat.le_refl _), sectionsOf, textEffects_append,
    foldl_append] at hparse
  simp only [rtcSdpParse, hlen, take_left]
  exact hparse

/-! ## Sections for which there is no room -/

theorem modify_last_eq_iff {α : Type} {n : Nat} {a b : List α} (ha : a.length = n + 1)
    (hb : b.length ≤ n + 1) (f : α → α) :
    a.modify n f = b ↔ a.take n = b.take n ∧ a[n]?.map f = b[n]? := by
  constructor
  · rintro rfl
    refine ⟨?_, by rw [getElem?_modify_eq]; rfl⟩
    rw [take_modify]
    exact (modify_eq_self (by rw [length_take]; omega)).symm
  · rintro ⟨htake, hlast⟩
    apply ext_getElem?
    intro i
    rcases Nat.lt_trichotomy i n with hi | rfl | hi
    · have hget := congrArg (fun s => s[i]?) htake
      simp only [getElem?_take_of_lt hi] at hget
      rw [getElem?_modify_ne _ _ (by omega), hget]
    · rw [getElem?_modify_eq]
      exact hlast
    · grind

/-- What an `a=rtpmap` line says of its section. -/
structure Rtpmap where
  payloadType : Int
  clockrate : Int
  channels : Int
  codecName : Bytes
  deriving DecidableEq

def SdpMedia.rtpmap (m : SdpMedia) : Rtpmap :=
  ⟨m.payloadType, m.clockrate, m.channels, m.codecName⟩

def SdpLine.mid? : SdpLine → Option Int
  | .mid midIndex => some midIndex
  | _ => none

def SdpLine.rtpmap? : SdpLine → Option Rtpmap
  | .rtpmap payloadType codec clockrate channels =>
    some ⟨payloadType, clockrate, channels.getD 0, codec⟩
  | _ => none

def SdpLine.ssrc? : SdpLine → Option Nat
  | .ssrc value => if value = 0 then none else some value
  | _ => none

/-- An `a=extmap` line is valid with a one-byte id. -/
def SdpLine.extmap? : SdpLine → Option SdpExtmap
  | .extmap e => if 1 ≤ e.id ∧ e.id ≤ 14 then some e else none
  | _ => none

/-- A section into which more lines are read: the last `a=mid` and `a=rtpmap` hold, the first
`a=ssrc`, and the `a=extmap` lines as long as there is room. -/
def SdpMedia.readOver (m : SdpMedia) (ls : List SdpLine) : SdpMedia :=
  let rtpmap := (ls.filterMap SdpLine.rtpmap?).getLastD m.rtpmap
  { m with
    midIndex := (ls.filterMap SdpLine.mid?).getLastD m.midIndex
    payloadType := rtpmap.payloadType
    clockrate := rtpmap.clockrate
    channels := rtpmap.channels
    codecName := rtpmap.codecName
    ssrc := if m.ssrc = 0 then (ls.filterMap SdpLine.ssrc?).headD 0 else m.ssrc
    extmaps := m.extmaps
      ++ (ls.filterMap SdpLine.extmap?).take (sdpMaxExtmap - m.extmaps.length) }

/-- None of the lines changes the section. -/
@[mk_iff]
structure SdpMedia.KeptBy (m : SdpMedia) (ls : List SdpLine) : Prop where
  mid : ∀ midIndex ∈ (ls.filterMap SdpLine.mid?).getLast?, midIndex = m.midIndex
  rtpmap : ∀ r ∈ (ls.filterMap SdpLine.rtpmap?).getLast?, r = m.rtpmap
  ssrc : m.ssrc ≠ 0 ∨ ls.filterMap SdpLine.ssrc? = []
  extmaps : ls.filterMap SdpLine.extmap? = [] ∨ sdpMaxExtmap ≤ m.extmaps.length

instance (m : SdpMedia) (ls : List SdpLine) : Decidable (m.KeptBy ls) :=
  decidable_of_iff' _ (SdpMedia.keptBy_iff m ls)

attribute [ext] SdpMedia

section Fields

variable (ls : List SdpLine) (m : SdpMedia)

theorem foldl_getLastD {α β γ : Type} (step : α → β → α) (field : α → γ) (value : β → Option γ)
    (h : ∀ a b, field (step a b) = (value b).getD (field a)) (bs : List β) (a : α) :
    field (bs.foldl step a) = (bs.filterMap value).getLastD (field a) := by
  induction bs generalizing a with
  | nil => rfl
  | cons b bs ih =>
    rw [foldl_cons, ih, h, filterMap_cons]
    cases value b with
    | none => rfl
    | some c => exact (getLastD_cons ..).symm

theorem foldl_onSection_mediaType : (ls.foldl SdpLine.onSection m).mediaType = m.mediaType := by
  induction ls generalizing m with
  | nil => rfl
  | cons l ls ih =>
    rw [foldl_cons, ih]
    cases l <;> simp only [SdpLine.onSection, addExtmap] <;> split <;> rfl

theorem foldl_onSection_ssrc : (ls.foldl SdpLine.onSection m).ssrc
    = if m.ssrc = 0 then (ls.filterMap SdpLine.ssrc?).headD 0 else m.ssrc := by
  induction ls generalizing m with
  | nil => simp +contextual
  | cons l ls ih =>
    rw [foldl_cons, ih, filterMap_cons]
    cases l with
    | ssrc value => grind [SdpLine.onSection, SdpLine.ssrc?]
    | extmap e => grind [SdpLine.onSection, SdpLine.ssrc?, addExtmap]
    | _ => rfl

theorem foldl_onSection_extmaps : (ls.foldl SdpLine.onSection m).extmaps = m.extmaps
    ++ (ls.filterMap SdpLine.extmap?).take (sdpMaxExtmap - m.extmaps.length) := by
  induction ls generalizing m with
  | nil => simp
  | cons l ls ih =>
    rw [foldl_cons, ih, filterMap_cons]
    cases l with
    | ssrc value => grind [SdpLine.onSection, SdpLine.extmap?]
    | extmap e =>
      by_cases hid : 1 ≤ e.id ∧ e.id ≤ 14
      · by_cases hroom : m.extmaps.length < sdpMaxExtmap
        · obtain ⟨room, hroom'⟩ : ∃ room, sdpMaxExtmap - m.extmaps.length = room + 1 :=
            ⟨sdpMaxExtmap - m.extmaps.length - 1, by omega⟩
          have hleft : sdpMaxExtmap - (m.extmaps.length + 1) = room := by omega
          simp [SdpLine.onSection, addExtmap, SdpLine.extmap?, hid, hroom, hroom', hleft]
        · have hfull : sdpMaxExtmap - m.extmaps.length = 0 := by omega
          simp [SdpLine.onSection, addExtmap, SdpLine.extmap?, hid, hroom, hfull]
      · have hid' : ¬ (1 ≤ (e.id : Int) ∧ (e.id : Int) ≤ 14 ∧ m.extmaps.length < sdpMaxExtmap) := by
          omega
        rw [SdpLine.onSection, addExtmap, if_neg hid', SdpLine.extmap?, if_neg hid]
    | _ => rfl

theorem foldl_onSection : ls.foldl SdpLine.onSection m = m.readOver ls := by
  have hmid := foldl_getLastD SdpLine.onSection SdpMedia.midIndex SdpLine.mid? (fun m l => by
    cases l <;> simp only [SdpLine.onSection, addExtmap] <;> (try split) <;> rfl) ls m
  have hrtpmap := foldl_getLastD SdpLine.onSection SdpMedia.rtpmap SdpLine.rtpmap? (fun m l => by
    cases l <;> simp only [SdpLine.onSection, addExtmap] <;> (try split) <;> rfl) ls m
  ext1
  · exact foldl_onSection_mediaType ls m
  · exact congrArg Rtpmap.payloadType hrtpmap
  · exact congrArg Rtpmap.clockrate hrtpmap
  · exact congrArg Rtpmap.channels hrtpmap
  · exact congrArg Rtpmap.codecName hrtpmap
  · exact hmid
  · exact foldl_onSection_ssrc ls m
  · exact foldl_onSection_extmaps ls m

theorem getLastD_eq_iff {α : Type} (l : List α) (a : α) :
    l.getLastD a = a ↔ ∀ b ∈ l.getLast?, b = a := by
  rw [getLastD_eq_getLast?]
  cases l.getLast? <;> simp

theorem headD_ssrcs : (ls.filterMap SdpLine.ssrc?).headD 0 = 0
    ↔ ls.filterMap SdpLine.ssrc? = [] := by
  cases hssrcs : ls.filterMap SdpLine.ssrc? with
  | nil => simp
  | cons value values =>
    -- an `a=ssrc:0` line is no such line
    obtain ⟨l, -, hl⟩ := mem_filterMap.mp (hssrcs ▸ mem_cons_self : value ∈ _)
    have hvalue : value ≠ 0 := by
      rintro rfl
      cases l <;> simp [SdpLine.ssrc?] at hl
    simp [hvalue]

theorem SdpMedia.readOver_eq_iff : m.readOver ls = m ↔ m.KeptBy ls := by
  have hssrc : (if m.ssrc = 0 then (ls.filterMap SdpLine.ssrc?).headD 0 else m.ssrc) = m.ssrc
      ↔ m.ssrc ≠ 0 ∨ ls.filterMap SdpLine.ssrc? = [] := by
    by_cases hzero : m.ssrc = 0
    · rw [if_pos hzero, hzero, headD_ssrcs, or_iff_right (not_not_intro rfl)]
    · simp [hzero]
  have hextmaps : m.extmaps
        ++ (ls.filterMap SdpLine.extmap?).take (sdpMaxExtmap - m.extmaps.length) = m.extmaps
      ↔ ls.filterMap SdpLine.extmap? = [] ∨ sdpMaxExtmap ≤ m.extmaps.length := by
    rw [append_right_eq_self, take_eq_nil_iff, Nat.sub_eq_zero_iff_le, or_comm]
  have hrtpmap : ∀ r : Rtpmap, r = m.rtpmap ↔ r.payloadType = m.payloadType
      ∧ r.clockrate = m.clockrate ∧ r.channels = m.channels ∧ r.codecName = m.codecName :=
    fun r => Rtpmap.mk.injEq .. ▸ Iff.rfl
  rw [SdpMedia.keptBy_iff, ← getLastD_eq_iff, ← getLastD_eq_iff, hrtpmap, ← hssrc, ← hextmaps,
    SdpMedia.ext_iff]
  simp only [SdpMedia.readOver]
  tauto

end Fields

/-- **Exactly when the sections beyond the fourth are ignored.** The lines in front of the cut are
read in front of the tail and in front of what follows the cut text; where this makes no difference
it is a matter of the lines of the tail alone. -/
theorem extra_sections_ignored_iff (inet : InetText) (alloc : Bool) (old : Sdp) {ls : List Bytes}
    (hls : ∀ l ∈ ls, 0x0A ∉ l) (tail rest follow : Bytes) {len : Nat}
    (hlen : min len (sdpMaxSize - 1) = (lfLines ls ++ tail).length)
    (hfour : (textEffects (linesBefore (tail ++ rest) ls)).countP SdpLine.opens = sdpMaxMedia) :
    ((rtcSdpParse inet alloc old (lfLines ls ++ tail ++ rest) len).media
        = (rtcSdpParse inet alloc old (lfLines ls ++ follow) (lfLines ls).length).media
      ↔ (sectionsOf (linesBefore (tail ++ rest) ls)).take 3
            = (sectionsOf (linesBefore follow ls)).take 3
          ∧ (sectionsOf (linesBefore (tail ++ rest) ls))[3]?.map (·.readOver (tailLines tail rest))
            = (sectionsOf (linesBefore follow ls))[3]?)
    ∧ (sectionsOf (linesBefore (tail ++ rest) ls) = sectionsOf (linesBefore follow ls) →
      ((rtcSdpParse inet alloc old (lfLines ls ++ tail ++ rest) len).media
          = (rtcSdpParse inet alloc old (lfLines ls ++ follow) (lfLines ls).length).media
        ↔ ∀ m ∈ (sectionsOf (linesBefore follow ls))[3]?, m.KeptBy (tailLines tail rest))) := by
  have hfull : (sectionsOf (linesBefore (tail ++ rest) ls)).length = sdpMaxMedia := by
    rw [length_sectionsOf, hfour, Nat.min_self]
  have hcut : (sectionsOf (linesBefore follow ls)).length ≤ sdpMaxMedia := by
    rw [length_sectionsOf]
    exact Nat.min_le_left _ _
  have hcutLen : min (lfLines ls).length (sdpMaxSize - 1) = (lfLines ls ++ []).length := by
    rw [length_append] at hlen
    rw [append_nil]
    omega
  have hwhole := rtcSdpParse_sections inet alloc old hls tail rest hlen
  have hhead := rtcSdpParse_sections inet alloc old hls [] follow hcutLen
  rw [append_nil] at hhead
  simp only [foldl_onSections_full _ hfull, foldl_onSection] at hwhole
  have hiff := modify_last_eq_iff hfull hcut (·.readOver (tailLines tail rest))
  rw [hwhole, hhead]
  refine ⟨hiff, fun hsame => hiff.trans ?_⟩
  rw [hsame] at hfull ⊢
  obtain ⟨m, hm⟩ : ∃ m, (sectionsOf (linesBefore follow ls))[3]? = some m :=
    ⟨_, getElem?_eq_getElem (hfull ▸ by decide)⟩
  simp [hm, SdpMedia.readOver_eq_iff]

def fourSections : List Bytes :=
  ["m=audio 9 UDP/TLS/RTP/SAVPF 111", "a=mid:0", "m=video 9 UDP/TLS/RTP/SAVPF 96", "a=mid:1",
    "m=application 9 UDP/DTLS/SCTP webrtc-datachannel", "a=mid:2",
    "m=audio 9 UDP/TLS/RTP/SAVPF 112", "a=mid:3"].map fun l => ascii l ++ [0x0D]

def fifthSection : Bytes := ascii "m=video 9 UDP/TLS/RTP/SAVPF 97" ++ crlf

def fifthAttributes : Bytes := ascii "a=mid:4" ++ crlf ++ ascii "a=rtpmap:97 VP8/90000" ++ crlf

/-- A fifth `m=` line alone does nothing. -/
theorem fifthSection_ignored :
    (rtcSdpParse dottedQuad true {} (lfLines fourSections ++ fifthSection ++ [0]) 216).media
      = (rtcSdpParse dottedQuad true {} (lfLines fourSections ++ [0])
          (lfLines fourSections).length).media :=
  ((extra_sections_ignored_iff dottedQuad true {} (by decide +kernel) fifthSection [0] [0]
    (by decide +kernel) (by decide +kernel)).2 (by decide +kernel)).mpr (by decide +kernel)

/-- Its attributes are taken for those of the fourth section. -/
theorem fifthAttributes_misread :
    (rtcSdpParse dottedQuad true {} (lfLines fourSections ++ [0])
          (lfLines fourSections).length).media[3]?
        = some { mediaType := .audio, payloadType := 112, midIndex := 3 }
      ∧ (rtcSdpParse dottedQuad true {}
          (lfLines fourSections ++ (fifthSection ++ fifthAttributes) ++ [0]) 248).media[3]?
        = some { mediaType := .audio, payloadType := 97, midIndex := 4, clockrate := 90000,
                 codecName := ascii "VP8" } := by
  decide +kernel

end Mrtc
