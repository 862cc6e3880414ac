import Mrtc.Sdp.Loop
import Mrtc.Sdp.ReadLine

/-! # What any line does

The lines that are written (`SdpLine`) are read as what they say.
-/

namespace Mrtc

open Net CText

/-! ## One line -/

def mediaEffect (line : Bytes) : Option SdpLine :=
  if sdpLineStarts line "m=audio" then
    some (.media .audio (intAt (scan (lits "m=audio" ++ mediaFormat) (cstr line)) 0))
  else if sdpLineStarts line "m=video" then
    some (.media .video (intAt (scan (lits "m=video" ++ mediaFormat) (cstr line)) 0))
  else if sdpLineStarts line "m=application" then some (.media .application 0)
  else none

def valueEffect (line : Bytes) (lineLen : Nat) (start : String) (cap : Nat)
    (effect : Bytes → SdpLine) : Option SdpLine :=
  if sdpLineStartsN line lineLen start then some (effect (lineValue line lineLen start cap))
  else none

def setupEffect (line : Bytes) : Option SdpLine :=
  if sdpLineStarts line "a=setup:" then
    let value := (cstr line).drop (ascii "a=setup:").length
    some (.setup
      (if (ascii "active").isPrefixOf value then SetupRole.active
      else if (ascii "passive").isPrefixOf value then .passive
      else .actpass))
  else none

def midEffect (line : Bytes) : Option SdpLine :=
  if sdpLineStarts line "a=mid:" then
    let values := scan (lits "a=mid:" ++ [Directive.int]) (cstr line)
    if values.length = 1 then some (.mid (intAt values 0)) else none
  else none

def rtpmapEffect (line : Bytes) : Option SdpLine :=
  if sdpLineStarts line "a=rtpmap:" then
    let values := scan rtpmapFormat (cstr line)
    if 3 ≤ values.length then
      some (.rtpmap (intAt values 0) (textAt values 1) (intAt values 2) (some (intAt values 3)))
    else none
  else none

def ssrcEffect (line : Bytes) : Option SdpLine :=
  if sdpLineStarts line "a=ssrc:" then
    let values := scan (lits "a=ssrc:" ++ [Directive.ulong]) (cstr line)
    if values.length = 1 then some (.ssrc (natAt values 0 % 2 ^ 32)) else none
  else none

def extmapEffect (line : Bytes) : Option SdpLine :=
  if sdpLineStarts line "a=extmap:" then
    let values := scan extmapFormat (cstr line)
    let values := if values.length = 2 then values else scan extmapDirFormat (cstr line)
    if values.length = 2 then some (.extmap ⟨(intAt values 0).toNat, textAt values 1⟩) else none
  else none

def lineEffects (line : Bytes) (lineLen : Nat) : List SdpLine :=
  [mediaEffect line, valueEffect line lineLen "a=ice-ufrag:" iceUfragLen .iceUfrag,
    valueEffect line lineLen "a=ice-pwd:" icePwdLen .icePwd,
    valueEffect line lineLen "a=fingerprint:sha-256 " sdpFingerprintLen .fingerprint,
    setupEffect line, midEffect line, rtpmapEffect line, ssrcEffect line,
    extmapEffect line].reduceOption

def SdpView.applyOption (v : SdpView) (effect : Option SdpLine) : SdpView :=
  effect.elim v fun l => l.apply v

section Line

variable (st : SdpState) (line : Bytes) (lineLen : Nat)

theorem openRtpSection_any (mediaType : MediaType) (format : List Directive) :
    (openRtpSection st mediaType format line).view
      = (SdpLine.media mediaType (intAt (scan format (cstr line)) 0)).apply st.view := by
  unfold openRtpSection
  dsimp only
  rw [openSection_view]
  congr 1
  split <;> rfl

theorem parseMedia_any : (parseMedia st line).view = st.view.applyOption (mediaEffect line) := by
  unfold parseMedia mediaEffect
  split
  · exact openRtpSection_any st line .audio _
  split
  · exact openRtpSection_any st line .video _
  split
  · exact openSection_view _ _ _
  · rfl

theorem parseIceUfrag_any :
    (parseIceUfrag st line lineLen).view
      = st.view.applyOption (valueEffect line lineLen "a=ice-ufrag:" iceUfragLen .iceUfrag) := by
  unfold parseIceUfrag valueEffect
  split <;> rfl

theorem parseIcePwd_any :
    (parseIcePwd st line lineLen).view
      = st.view.applyOption (valueEffect line lineLen "a=ice-pwd:" icePwdLen .icePwd) := by
  unfold parseIcePwd valueEffect
  split <;> rfl

theorem parseFingerprint_any :
    (parseFingerprint st line lineLen).view
      = st.view.applyOption
          (valueEffect line lineLen "a=fingerprint:sha-256 " sdpFingerprintLen .fingerprint) := by
  unfold parseFingerprint valueEffect
  split <;> rfl

theorem parseSetup_any : (parseSetup st line).view = st.view.applyOption (setupEffect line) := by
  unfold parseSetup setupEffect
  split <;> rfl

theorem parseMid_any : (parseMid st line).view = st.view.applyOption (midEffect line) := by
  unfold parseMid midEffect
  split
  · dsimp only
    split
    · exact st.view_update _
    · rfl
  · rfl

theorem parseRtpmap_any : (parseRtpmap st line).view = st.view.applyOption (rtpmapEffect line) := by
  unfold parseRtpmap rtpmapEffect
  split
  · dsimp only
    split
    · exact SdpState.view_update _ _
    · rfl
  · rfl

theorem parseSsrc_any : (parseSsrc st line).view = st.view.applyOption (ssrcEffect line) := by
  unfold parseSsrc ssrcEffect
  split
  · dsimp only
    split
    · exact st.view_update _
    · rfl
  · rfl

theorem addExtmap_toNat (id : Int) (uri : Bytes) : addExtmap id uri = addExtmap id.toNat uri := by
  funext m
  unfold addExtmap
  by_cases hid : 0 ≤ id
  · rw [Int.toNat_of_nonneg hid]
  · rw [if_neg (by omega), if_neg (by omega)]

theorem parseExtmap_any : (parseExtmap st line).view = st.view.applyOption (extmapEffect line) := by
  unfold parseExtmap extmapEffect
  split
  · dsimp only
    generalize (if (scan extmapFormat (cstr line)).length = 2 then scan extmapFormat (cstr line)
      else scan extmapDirFormat (cstr line)) = values
    split
    · rw [addExtmap_toNat]
      exact st.view_update _
    · rfl
  · rfl

theorem foldl_apply_reduceOption (v : SdpView) (effects : List (Option SdpLine)) :
    effects.reduceOption.foldl SdpLine.apply v = effects.foldl SdpView.applyOption v := by
  induction effects generalizing v with
  | nil => rfl
  | cons effect effects ih =>
    cases effect with
    | none => exact ih v
    | some l => exact ih (l.apply v)

/-- **What any line does.** -/
theorem sdpParseLine_any (inet : InetText) (alloc : Bool) :
    (sdpParseLine inet alloc st line lineLen).view
      = (lineEffects line lineLen).foldl SdpLine.apply st.view := by
  unfold sdpParseLine lineEffects
  dsimp only
  rw [foldl_apply_reduceOption, parseCandidate_view, parseExtmap_any, parseSsrc_any,
    parseRtpmap_any, parseMid_any, parseIceOptions_view, parseSetup_any, parseFingerprint_any,
    parseIcePwd_any, parseIceUfrag_any, parseMedia_any]
  rfl

end Line

/-! ## All lines -/

def textEffects (lines : List (Bytes × Nat)) : List SdpLine :=
  lines.flatMap fun l => lineEffects l.1 l.2

theorem textEffects_append (lines more : List (Bytes × Nat)) :
    textEffects (lines ++ more) = textEffects lines ++ textEffects more :=
  List.flatMap_append

theorem foldl_sdpParseLine_view (inet : InetText) (alloc : Bool) (lines : List (Bytes × Nat))
    (st : SdpState) :
    (lines.foldl (fun st l => sdpParseLine inet alloc st l.1 l.2) st).view
      = (textEffects lines).foldl SdpLine.apply st.view := by
  induction lines generalizing st with
  | nil => rfl
  | cons l lines ih =>
    rw [List.foldl_cons, ih, sdpParseLine_any, textEffects, textEffects, List.flatMap_cons,
      List.foldl_append]

/-- **What any text does.** -/
theorem sdpParseLines_any (inet : InetText) (alloc : Bool) (fuel : Nat) (st : SdpState)
    (text : Bytes) (len : Nat) :
    (sdpParseLines inet alloc fuel st text len).view
      = (textEffects (parsedLines fuel text len)).foldl SdpLine.apply st.view := by
  rw [sdpParseLines_eq_foldl, foldl_sdpParseLine_view]

end Mrtc
