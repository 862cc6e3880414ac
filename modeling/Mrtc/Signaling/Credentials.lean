import Mrtc.Ice.StunRoundTrip
import Mrtc.Sdp.AnyLine
import Mrtc.Signaling.Trickle

/-! # The credentials of the other side (`rtc_sdp.c`, `rtc_peer.c`, `rtc_transport.c`)

The ICE user name fragment and password of a remote description are copied into the parsed
description, from there to the transport, and from there into each connectivity check.
-/

namespace Mrtc

open Net CText List IceTransport

/-! ## What the parser stores -/

theorem foldl_lastWrite {σ α β : Type} {f : σ → α → σ} {field : σ → β} {writes : α → Option β}
    (h : ∀ s a, field (f s a) = (writes a).getD (field s)) (s : σ) (as : List α) :
    field (as.foldl f s) = (as.filterMap writes).getLast?.getD (field s) := by
  induction as generalizing s with
  | nil => rfl
  | cons a as ih => grind

def SdpLine.ufragValue : SdpLine → Option Bytes
  | .iceUfrag value => some value
  | _ => none

def SdpLine.pwdValue : SdpLine → Option Bytes
  | .icePwd value => some value
  | _ => none

theorem SdpView.update_iceUfrag (v : SdpView) (f : SdpMedia → SdpMedia) :
    (v.update f).iceUfrag = v.iceUfrag := by
  unfold SdpView.update
  split <;> rfl

theorem SdpView.update_icePwd (v : SdpView) (f : SdpMedia → SdpMedia) :
    (v.update f).icePwd = v.icePwd := by
  unfold SdpView.update
  split <;> rfl

theorem SdpLine.apply_iceUfrag (v : SdpView) (l : SdpLine) :
    (l.apply v).iceUfrag = l.ufragValue.getD v.iceUfrag := by
  cases l with
  | media mediaType payloadType =>
    rw [SdpLine.apply]
    split <;> rfl
  | mid | rtpmap | extmap | ssrc => exact v.update_iceUfrag _
  | _ => rfl

theorem SdpLine.apply_icePwd (v : SdpView) (l : SdpLine) :
    (l.apply v).icePwd = l.pwdValue.getD v.icePwd := by
  cases l with
  | media mediaType payloadType =>
    rw [SdpLine.apply]
    split <;> rfl
  | mid | rtpmap | extmap | ssrc => exact v.update_icePwd _
  | _ => rfl

def attributeValue (start : String) (l : Bytes × Nat) : Option Bytes :=
  if sdpLineStartsN l.1 l.2 start then
    some ((l.1.drop (ascii start).length).take (l.2 - (ascii start).length))
  else none

def storedValue (cap : Nat) (value : Bytes) : Bytes := cstr (value.take (cap - 1))

theorem valueEffect_eq (l : Bytes × Nat) (start : String) (cap : Nat) (effect : Bytes → SdpLine) :
    valueEffect l.1 l.2 start cap effect
      = (attributeValue start l).map fun value => effect (storedValue cap value) := by
  unfold valueEffect attributeValue
  split
  · rw [Option.map_some, storedValue, take_take, lineValue, Nat.min_comm]
  · rfl

theorem filterMap_lineEffects {pick : SdpLine → Option Bytes}
    (hpick : ∀ l, (∀ v, l ≠ .iceUfrag v) → (∀ v, l ≠ .icePwd v) → pick l = none) (l : Bytes × Nat) :
    (lineEffects l.1 l.2).filterMap pick
      = [(valueEffect l.1 l.2 "a=ice-ufrag:" iceUfragLen .iceUfrag).bind pick,
          (valueEffect l.1 l.2 "a=ice-pwd:" icePwdLen .icePwd).bind pick].reduceOption := by
  have hmedia : (mediaEffect l.1).bind pick = none := by
    unfold mediaEffect
    split_ifs <;> first | exact hpick _ (by simp) (by simp) | rfl
  have hfingerprint : (valueEffect l.1 l.2 "a=fingerprint:sha-256 " sdpFingerprintLen
      .fingerprint).bind pick = none := by
    unfold valueEffect
    split_ifs <;> first | exact hpick _ (by simp) (by simp) | rfl
  have hsetup : (setupEffect l.1).bind pick = none := by grind [setupEffect]
  have hmid : (midEffect l.1).bind pick = none := by grind [midEffect]
  have hrtpmap : (rtpmapEffect l.1).bind pick = none := by grind [rtpmapEffect]
  have hssrc : (ssrcEffect l.1).bind pick = none := by grind [ssrcEffect]
  have hextmap : (extmapEffect l.1).bind pick = none := by grind [extmapEffect]
  show (List.filterMap id _).filterMap pick = _
  rw [filterMap_filterMap]
  simp only [filterMap_cons, filterMap_nil, id, hmedia, hfingerprint, hsetup, hmid,
    hrtpmap, hssrc, hextmap]
  rfl

theorem filterMap_textEffects {pick : SdpLine → Option Bytes} {start : String} {cap : Nat}
    (hline : ∀ l : Bytes × Nat, (lineEffects l.1 l.2).filterMap pick
      = ((attributeValue start l).map (storedValue cap)).toList)
    (lines : List (Bytes × Nat)) :
    (textEffects lines).filterMap pick
      = (lines.filterMap (attributeValue start)).map (storedValue cap) := by
  induction lines with
  | nil => rfl
  | cons l lines ih =>
    rw [textEffects, flatMap_cons, filterMap_append, hline, filterMap_cons]
    rw [textEffects] at ih
    rw [ih]
    cases attributeValue start l <;> rfl

theorem lineEffects_ufragValue (l : Bytes × Nat) :
    (lineEffects l.1 l.2).filterMap SdpLine.ufragValue
      = ((attributeValue "a=ice-ufrag:" l).map (storedValue iceUfragLen)).toList := by
  have hpick : ∀ l : SdpLine, (∀ v, l ≠ .iceUfrag v) → (∀ v, l ≠ .icePwd v) →
      l.ufragValue = none := by
    intro l hufrag _
    cases l with
    | iceUfrag value => exact absurd rfl (hufrag value)
    | _ => rfl
  rw [filterMap_lineEffects hpick, valueEffect_eq, valueEffect_eq]
  cases attributeValue "a=ice-ufrag:" l <;> cases attributeValue "a=ice-pwd:" l <;> rfl

theorem lineEffects_pwdValue (l : Bytes × Nat) :
    (lineEffects l.1 l.2).filterMap SdpLine.pwdValue
      = ((attributeValue "a=ice-pwd:" l).map (storedValue icePwdLen)).toList := by
  have hpick : ∀ l : SdpLine, (∀ v, l ≠ .iceUfrag v) → (∀ v, l ≠ .icePwd v) →
      l.pwdValue = none := by
    intro l _ hpwd
    cases l with
    | icePwd value => exact absurd rfl (hpwd value)
    | _ => rfl
  rw [filterMap_lineEffects hpick, valueEffect_eq, valueEffect_eq]
  cases attributeValue "a=ice-ufrag:" l <;> cases attributeValue "a=ice-pwd:" l <;> rfl

def descLines (text : Bytes) (len : Nat) : List (Bytes × Nat) :=
  parsedLines (min len (sdpMaxSize - 1)) text (min len (sdpMaxSize - 1))

def descValues (start : String) (text : Bytes) (len : Nat) : List Bytes :=
  (descLines text len).filterMap (attributeValue start)

section Stored

variable (inet : InetText) (alloc : Bool) (old : Sdp) {text : Bytes} {len : Nat} {value : Bytes}

theorem rtcSdpParse_iceUfrag (h : (descValues "a=ice-ufrag:" text len).getLast? = some value) :
    (rtcSdpParse inet alloc old text len).iceUfrag = storedValue iceUfragLen value := by
  have hview := congrArg SdpView.iceUfrag (sdpParseLines_any inet alloc (min len (sdpMaxSize - 1))
    (sdpParseStart old (text.take (min len (sdpMaxSize - 1)))) text (min len (sdpMaxSize - 1)))
  have hlast := foldl_lastWrite SdpLine.apply_iceUfrag
    (sdpParseStart old (text.take (min len (sdpMaxSize - 1)))).view
    (textEffects (descLines text len))
  rw [filterMap_textEffects lineEffects_ufragValue, getLast?_map, ← descValues, h] at hlast
  exact hview.trans hlast

theorem rtcSdpParse_icePwd (h : (descValues "a=ice-pwd:" text len).getLast? = some value) :
    (rtcSdpParse inet alloc old text len).icePwd = storedValue icePwdLen value := by
  have hview := congrArg SdpView.icePwd (sdpParseLines_any inet alloc (min len (sdpMaxSize - 1))
    (sdpParseStart old (text.take (min len (sdpMaxSize - 1)))) text (min len (sdpMaxSize - 1)))
  have hlast := foldl_lastWrite SdpLine.apply_icePwd
    (sdpParseStart old (text.take (min len (sdpMaxSize - 1)))).view
    (textEffects (descLines text len))
  rw [filterMap_textEffects lineEffects_pwdValue, getLast?_map, ← descValues, h] at hlast
  exact hview.trans hlast

end Stored

/-! ## What a check is built with -/

def rtcIceUfragMax : Nat := 8

def IceTransport.checkArguments (t : IceTransport) : Option (Bytes × Bytes) :=
  t.remoteIce.map fun remote =>
    ((remote.1 ++ ascii ":" ++ t.ufrag).take (rtcIceUfragMax * 2 + 2 - 1), remote.2)

def IceOp.KeepsRemote : IceOp → Prop
  | .setRemoteIce .. => False
  | .restartIce _ (some own) _ => own.1.length < iceUfragLen
  | _ => True

section Keep

variable {t : IceTransport}

theorem IceTransport.sendCheck_remoteIce (t : IceTransport) (txn : Bytes) (fault : IceFault) :
    (t.sendCheck txn fault).remoteIce = t.remoteIce
      ∧ (t.sendCheck txn fault).ufrag = t.ufrag := by
  unfold sendCheck transportArmIceTimer
  split_ifs <;> exact ⟨rfl, rfl⟩

theorem IceTransport.receive_remoteIce (t : IceTransport) (msg : StunMsg) (source : RtcAddr) :
    (t.receive msg source).remoteIce = t.remoteIce ∧ (t.receive msg source).ufrag = t.ufrag := by
  unfold receive
  split_ifs <;> exact ⟨rfl, rfl⟩

theorem IceTransport.step_keepsRemote (hfits : t.ufrag.length < iceUfragLen) {op : IceOp}
    (hop : op.KeepsRemote) :
    (t.step op).remoteIce = t.remoteIce ∧ (t.step op).ufrag.length < iceUfragLen := by
  cases op with
  | create | addCandidate | close => exact ⟨rfl, hfits⟩
  | setRemoteIce => exact hop.elim
  | startIce i txn fault =>
    obtain ⟨hremote, hufrag⟩ := t.sendCheck_remoteIce txn fault
    rw [step]
    split
    · exact ⟨rfl, hfits⟩
    · exact ⟨hremote, hufrag ▸ hfits⟩
  | iceTimer i txn fault => grind [step, sendCheck_remoteIce, List.length]
  | restartIce i random alloc =>
    cases random with
    | none =>
      dsimp only [step]
      split <;> exact ⟨rfl, hfits⟩
    | some own =>
      dsimp only [step]
      split
      · exact ⟨rfl, hfits⟩
      · exact ⟨rfl, hop⟩
  | packet data source alloc =>
    rw [step]
    split
    · exact ⟨rfl, hfits⟩
    · cases rtcStunParse data with
      | error e => exact ⟨rfl, hfits⟩
      | ok msg =>
        obtain ⟨hremote, hufrag⟩ := t.receive_remoteIce msg source
        exact ⟨hremote, hufrag ▸ hfits⟩
  | teardown i =>
    rw [step]
    split <;> exact ⟨rfl, hfits⟩

theorem IceTransport.foldl_keepsRemote (hfits : t.ufrag.length < iceUfragLen) {ops : List IceOp}
    (hops : ∀ op ∈ ops, op.KeepsRemote) :
    (ops.foldl step t).remoteIce = t.remoteIce
      ∧ (ops.foldl step t).ufrag.length < iceUfragLen := by
  induction ops generalizing t with
  | nil => exact ⟨rfl, hfits⟩
  | cons op ops ih =>
    obtain ⟨hremote, hfits'⟩ := t.step_keepsRemote hfits (hops op mem_cons_self)
    obtain ⟨hrest, hlast⟩ := ih hfits' fun op hop => hops op (mem_cons_of_mem _ hop)
    exact ⟨hrest.trans hremote, hlast⟩

end Keep

/-! ## Descriptions with credentials -/

def iceChar (b : UInt8) : Bool :=
  (0x41 ≤ b && b ≤ 0x5A) || (0x61 ≤ b && b ≤ 0x7A) || (0x30 ≤ b && b ≤ 0x39)
    || b == 0x2B || b == 0x2F

@[mk_iff]
structure IceToken (least : Nat) (value : Bytes) : Prop where
  least_le : least ≤ value.length
  le_most : value.length ≤ 256
  chars : ∀ b ∈ value, iceChar b = true

instance (least : Nat) (value : Bytes) : Decidable (IceToken least value) :=
  have : Decidable (∀ b ∈ value, iceChar b = true) := List.decidableBAll _ value
  decidable_of_iff' _ (iceToken_iff least value)

theorem IceToken.storedValue_eq {least : Nat} {value : Bytes} (h : IceToken least value)
    (cap : Nat) : storedValue cap value = value.take (cap - 1) := by
  apply cstr_eq_self
  intro b hb hzero
  have hchar := h.chars b (mem_of_mem_take hb)
  rw [hzero] at hchar
  exact absurd hchar (by decide)

theorem IceToken.take_ne_nil {least : Nat} {value : Bytes} (h : IceToken least value)
    (hleast : 0 < least) (n : Nat) : value.take (n + 1) ≠ [] := by
  intro hnil
  have hlength := congrArg List.length hnil
  have hle := h.least_le
  rw [length_take, length_nil] at hlength
  omega

/-- Checks are made with these credentials of the remote. -/
def IceTransport.ChecksWith (t : IceTransport) (ufrag pwd : Bytes) : Prop :=
  t.checkArguments = some (ufrag ++ ascii ":" ++ t.ufrag, pwd)

theorem IceTransport.checksWith_iff {t : IceTransport} (hfits : t.ufrag.length < iceUfragLen)
    {ufrag pwd : Bytes}
    (hremote : t.remoteIce = some (ufrag.take (iceUfragLen - 1), pwd.take (icePwdLen - 1))) :
    t.ChecksWith ufrag pwd ↔ ufrag.length < iceUfragLen ∧ pwd.length < icePwdLen := by
  -- the third array, that of the user name, is large enough for what comes out of the others
  have hroom : (ufrag.take (iceUfragLen - 1) ++ ascii ":" ++ t.ufrag).length
      ≤ rtcIceUfragMax * 2 + 2 - 1 := by
    have hcolon : (ascii ":").length = 1 := by decide
    simp only [length_append, length_take, hcolon, iceUfragLen, rtcIceUfragMax] at hfits ⊢
    omega
  have htake : ∀ (cap : Nat) (value : Bytes),
      value.take (cap - 1) = value ↔ value.length ≤ cap - 1 :=
    fun cap value => take_eq_self_iff value
  rw [IceTransport.ChecksWith, checkArguments, hremote, Option.map_some,
    take_of_length_le hroom, Option.some.injEq, Prod.mk.injEq, append_left_inj,
    append_left_inj, htake, htake, iceUfragLen, icePwdLen]
  omega

section Describe

variable (inet : InetText)

theorem TricklePeer.describe_transport {p : TricklePeer} (hstarted : p.sig.connectStarted = false)
    (call : DescCall) (txn : Bytes) (fault : IceFault) :
    ∃ first : List IceOp, (∀ op ∈ first, op.KeepsRemote)
      ∧ (p.describe inet call txn fault).peer.transport
        = first.foldl step (call.tell inet p.transport) := by
  rw [TricklePeer.describe, if_neg (by simp [hstarted])]
  dsimp only
  split
  · refine ⟨[.startIce 0 txn fault], ?_, rfl⟩
    intro op hop
    rw [mem_singleton.mp hop]
    trivial
  · exact ⟨[], by simp, rfl⟩

theorem DescCall.tell_credentials (alloc : Bool) (t : IceTransport) {text : Bytes} {len : Nat}
    {ufrag pwd : Bytes} (hufrag : (descValues "a=ice-ufrag:" text len).getLast? = some ufrag)
    (hpwd : (descValues "a=ice-pwd:" text len).getLast? = some pwd)
    (hufragToken : IceToken 4 ufrag) (hpwdToken : IceToken 22 pwd) (type : SdpType) :
    let call := DescCall.setRemote type (rtcSdpParse inet alloc {} text len)
    call.tell inet t
      = { t with
          remoteIce := some (ufrag.take (iceUfragLen - 1), pwd.take (icePwdLen - 1))
          remoteCandidate := call.held inet t.remoteCandidate } := by
  have hu : (rtcSdpParse inet alloc {} text len).iceUfrag = ufrag.take (iceUfragLen - 1) := by
    rw [rtcSdpParse_iceUfrag inet alloc {} hufrag, hufragToken.storedValue_eq]
  have hp : (rtcSdpParse inet alloc {} text len).icePwd = pwd.take (icePwdLen - 1) := by
    rw [rtcSdpParse_icePwd inet alloc {} hpwd, hpwdToken.storedValue_eq]
  -- `tx_set_remote_ice_impl` refuses empty ones
  have hset : ¬(ufrag.take (iceUfragLen - 1) = [] ∨ pwd.take (icePwdLen - 1) = []) :=
    not_or.mpr ⟨hufragToken.take_ne_nil (by decide) 6, hpwdToken.take_ne_nil (by decide) 22⟩
  intro call
  show DescCall.tell inet t (.setRemote type _) = _
  rw [DescCall.tell, step, hu, hp, if_neg hset]

end Describe

/-- **Exactly when the credentials of a description are used as they are.** -/
theorem credentials_exact_iff (inet : InetText) (alloc : Bool) {p : TricklePeer}
    (hfits : p.transport.ufrag.length < iceUfragLen) {text : Bytes} {len : Nat} {ufrag pwd : Bytes}
    (hufrag : (descValues "a=ice-ufrag:" text len).getLast? = some ufrag)
    (hpwd : (descValues "a=ice-pwd:" text len).getLast? = some pwd)
    (hufragToken : IceToken 4 ufrag) (hpwdToken : IceToken 22 pwd) (type : SdpType) (txn : Bytes)
    (fault : IceFault) :
    let call := DescCall.setRemote type (rtcSdpParse inet alloc {} text len)
    let r := p.describe inet call txn fault
    (∃ e, r.rc = .error e)
      ∨ ((call.tell inet p.transport).ChecksWith ufrag pwd
          ↔ ufrag.length < iceUfragLen ∧ pwd.length < icePwdLen)
        ∧ ∀ ops : List IceOp, (∀ op ∈ ops, op.KeepsRemote) →
          ((ops.foldl step r.peer.transport).ChecksWith ufrag pwd
            ↔ ufrag.length < iceUfragLen ∧ pwd.length < icePwdLen) := by
  intro call r
  cases hstarted : p.sig.connectStarted with
  | true =>
    left
    refine ⟨.invalid, ?_⟩
    show (p.describe inet call txn fault).rc = _
    rw [TricklePeer.describe, if_pos hstarted]
    show (rtcPeerConnectionSetRemoteDesc p.sig _).1 = _
    rw [rtcPeerConnectionSetRemoteDesc, if_pos hstarted]
  | false =>
    right
    have htell : call.tell inet p.transport = _ :=
      DescCall.tell_credentials inet alloc p.transport hufrag hpwd hufragToken hpwdToken type
    have htold := congrArg remoteIce htell
    have htoldFits : (call.tell inet p.transport).ufrag.length < iceUfragLen := htell ▸ hfits
    refine ⟨checksWith_iff htoldFits htold, fun ops hops => ?_⟩
    obtain ⟨first, hfirst, hpeer⟩ := TricklePeer.describe_transport inet hstarted call txn fault
    have hall : ∀ op ∈ first ++ ops, op.KeepsRemote := by grind
    obtain ⟨hremote, hlast⟩ := foldl_keepsRemote htoldFits hall
    show (ops.foldl step (p.describe inet call txn fault).peer.transport).ChecksWith
      ufrag pwd ↔ _
    rw [hpeer, ← foldl_append]
    exact checksWith_iff hlast (hremote.trans htold)

def answerWith (ufrag pwd : String) : Bytes :=
  ascii "v=0" ++ crlf ++ (ascii "a=ice-ufrag:" ++ ascii ufrag) ++ crlf
    ++ (ascii "a=ice-pwd:" ++ ascii pwd) ++ crlf ++ ascii "a=" ++ hostLine ++ crlf

def setAnswer (ufrag pwd : String) : DescResult :=
  offerer.describe dottedQuad
    (.setRemote .answer
      (rtcSdpParse dottedQuad true {} (answerWith ufrag pwd ++ [0]) (answerWith ufrag pwd).length))
    (txnOf 0) {}

theorem shortCredentials_exact :
    (∃ e, (setAnswer "u7Kq" "p0123456789abcdefghijk").rc = .error e)
      ∨ (setAnswer "u7Kq" "p0123456789abcdefghijk").peer.transport.ChecksWith (ascii "u7Kq")
        (ascii "p0123456789abcdefghijk") := by
  refine (credentials_exact_iff dottedQuad true ?_ ?_ ?_ ?_ ?_ .answer (txnOf 0) {}).imp id
    fun h => (h.2 [] (by simp)).mpr (by decide)
  all_goals decide +kernel

/-- A password of 24 characters, as browsers have: the description is accepted, and the check goes
out with a key of 23. -/
theorem browserPassword_cut :
    let r := setAnswer "u7Kq" "p0123456789abcdefghijklm"
    r.rc = .ok () ∧ r.check.map IceCheck.sent = some true
      ∧ r.peer.transport.checkArguments
        = some (ascii "u7Kq:a1B2", ascii "p0123456789abcdefghijkl") := by
  decide +kernel

end Mrtc
