import Mrtc.Ice.StunSealed

/-! # What is built is what is read (`rtc_stun.c`)

A binding request, and a request to a TURN server that is put together attribute by attribute,
is the sealed message with its attributes, unless there is no room for one of them.
-/

namespace Mrtc

open Net List

/-! ## Appending -/

/-- An addition with the result `r` leaves `buf`, or fails because there is no room for it. -/
def Appended (r : Except StunFault Bytes) (buf : Bytes) : Prop :=
  r = .error (.err .nomem) ∧ stunMaxMsgSize < buf.length
    ∨ r = .ok buf ∧ buf.length ≤ stunMaxMsgSize

variable {buf value : Bytes} {as : List StunAttr} {txnId : Bytes} {username : Option Bytes}
  {hmac : Bytes → Bytes → Bytes}

theorem Appended.pure (h : buf.length ≤ stunMaxMsgSize) : Appended (.ok buf) buf :=
  .inr ⟨rfl, h⟩

theorem appended_appendAttr (buf : Bytes) (type : Nat) {vlen : Nat}
    (hvlen : value.length = vlen) (hlt : vlen < 65533) :
    Appended (appendAttr buf stunMaxMsgSize type value vlen)
      (buf ++ StunAttr.bytes { type := type, value := value }) := by
  subst hvlen
  have hlength := @StunAttr.length_bytes { type := type, value := value } hlt
  simp only at hlength
  unfold appendAttr
  by_cases hroom : stunMaxMsgSize < buf.length + 4 + stunPadded value.length
  · rw [if_pos hroom]
    refine .inl ⟨rfl, ?_⟩
    rw [length_append, hlength]
    omega
  · rw [if_neg hroom, if_neg (by have := le_stunPadded hlt; omega), take_length]
    refine .inr ⟨by simp [StunAttr.bytes], ?_⟩
    rw [length_append, hlength]
    omega

theorem appended_appendValue (buf : Bytes) (type : Nat) (hlt : value.length < 65533) :
    Appended (appendValue buf type value)
      (buf ++ StunAttr.bytes { type := type, value := value }) := by
  have hmod : value.length = value.length % 2 ^ 16 := by omega
  exact appended_appendAttr buf type hmod (by omega)

theorem appended_appendIf {front : Bytes}
    (hbuf : (front ++ stunAttrBytes as).length ≤ stunMaxMsgSize) (p : Bool) (type : Nat)
    (hlt : value.length < 65533) :
    Appended (appendIf p (front ++ stunAttrBytes as) type value)
      (front ++ stunAttrBytes
        (as ++ if p then [{ type := type, value := value }] else [])) := by
  cases p with
  | false => simpa [appendIf] using Appended.pure hbuf
  | true =>
    simpa [appendIf, stunAttrBytes_concat] using
      appended_appendValue (front ++ stunAttrBytes as) type hlt

/-! ## Sealing -/

/-- A builder with the result `r` gives the message with the attributes `as`, or fails because the
message has no room for them. -/
def Built (r : Except StunFault StunMsg) (type : Nat) (txnId : Bytes) (as : List StunAttr) : Prop :=
  r = .error (.err .nomem) ∧ stunMaxMsgSize < 20 + (stunAttrBytes as).length
    ∨ r = .ok (stunMsg type txnId as) ∧ 20 + (stunAttrBytes as).length ≤ stunMaxMsgSize

theorem Appended.bind {r : Except StunFault Bytes} {f : Bytes → Except StunFault StunMsg}
    {type : Nat} (h : Appended r buf) (hgrows : buf.length ≤ 20 + (stunAttrBytes as).length)
    (hgo : buf.length ≤ stunMaxMsgSize → Built (f buf) type txnId as) :
    Built (r >>= f) type txnId as := by
  obtain ⟨rfl, hlong⟩ | ⟨rfl, hlen⟩ := h
  · exact .inl ⟨rfl, hlong.trans_le hgrows⟩
  · exact hgo hlen

theorem length_front_le {front : Bytes} (hfront : front.length = 20) {bs : List StunAttr}
    (h : (stunAttrBytes as).length ≤ (stunAttrBytes bs).length) :
    (front ++ stunAttrBytes as).length ≤ 20 + (stunAttrBytes bs).length := by
  rw [length_append, hfront]
  omega

theorem length_stunAttrBytes_le_append (as bs : List StunAttr) :
    (stunAttrBytes as).length ≤ (stunAttrBytes (as ++ bs)).length := by
  rw [stunAttrBytes_append, length_append]
  exact Nat.le_add_right _ _

section Seal

variable {type : Nat} {txnId : Bytes} {as : List StunAttr}

theorem writeStunHeader_append {front : Bytes} (h : front.length = 20) (rest : Bytes)
    (length : Nat) :
    writeStunHeader (front ++ rest) type length txnId =
      stunHeaderBytes type length txnId ++ rest := by
  rw [writeStunHeader, stunHeaderSize, ← h, drop_left]

theorem length_behind_header {front : Bytes} (h : front.length = 20) (rest : Bytes) :
    (front ++ rest).length - stunHeaderSize = rest.length := by
  rw [length_append, h, stunHeaderSize, Nat.add_sub_cancel_left]

theorem appended_integrity {hmac : Bytes → Bytes → Bytes}
    (hhmac : ∀ key data, (hmac key data).length = 20) (key : Bytes) :
    let buf := stunHeaderBytes type ((stunAttrBytes as).length + 24) txnId ++ stunAttrBytes as
    Appended (appendIntegrity hmac key buf)
      (stunHeaderBytes type ((stunAttrBytes as).length + 24) txnId
        ++ stunAttrBytes (as ++ [integrityAttr hmac key type txnId as])) := by
  intro buf
  have h := appended_appendAttr buf stunAttrMessageIntegrity (hhmac key buf) (by decide)
  rw [stunAttrBytes_concat, ← append_assoc]
  exact h

theorem appended_fingerprint :
    let buf := stunHeaderBytes type ((stunAttrBytes as).length + 8) txnId ++ stunAttrBytes as
    Appended (appendFingerprint buf)
      (stunHeaderBytes type ((stunAttrBytes as).length + 8) txnId
        ++ stunAttrBytes (as ++ [fingerprintAttr type txnId as])) := by
  intro buf
  have hlength : (stunFingerprint buf).length < 65533 := by simp [stunFingerprint]
  have h := appended_appendValue buf stunAttrFingerprint hlength
  rw [stunAttrBytes_concat, ← append_assoc]
  exact h

end Seal

/-! ## Binding requests -/

def stunAttrRole (controlling : Bool) : Nat :=
  if controlling then stunAttrIceControlling else stunAttrIceControlled

def requestAttrs (username : Option Bytes) (priority : Nat) (useCandidate : Bool)
    (tieBreaker : Nat) (controlling : Bool) : List StunAttr :=
  username.toList.map (StunAttr.mk stunAttrUsername)
    ++ (if decide (0 < priority) then
        [{ type := stunAttrPriority, value := writeU32 priority }]
      else [])
    ++ (if useCandidate then [{ type := stunAttrUseCandidate, value := [] }] else [])
    ++ (if decide (0 < tieBreaker) then
        [{ type := stunAttrRole controlling, value := writeU64 tieBreaker }]
      else [])

theorem appended_appendUsername (hbuf : buf.length ≤ stunMaxMsgSize)
    (hshort : ∀ name ∈ username, name.length < 65533) :
    Appended (appendUsername buf username)
      (buf ++ stunAttrBytes (username.toList.map (StunAttr.mk stunAttrUsername))) := by
  cases username with
  | none => simpa [appendUsername] using Appended.pure hbuf
  | some name => grind [appendUsername, stunAttrBytes, appended_appendValue]

theorem rtcStunBuildBindingRequest_appended {hmac : Bytes → Bytes → Bytes}
    {username : Option Bytes} (hshort : ∀ name ∈ username, name.length < 65533)
    (password : Option Bytes) (priority : Nat) (useCandidate : Bool) (tieBreaker : Nat)
    (controlling : Bool) {txnId : Bytes} (htxn : txnId.length = 12) {front : Bytes}
    (hfront : front.length = 20) {bs : List StunAttr}
    (hgrows : (stunAttrBytes (requestAttrs username priority useCandidate tieBreaker
      controlling)).length ≤ (stunAttrBytes bs).length)
    (hpassword : ∀ buf, buf = replicate stunHeaderSize 0 ++ stunAttrBytes (requestAttrs
        username priority useCandidate tieBreaker controlling) → buf.length ≤ stunMaxMsgSize →
        Appended (appendPassword hmac buf txnId password) (front ++ stunAttrBytes bs)) :
    Built
      (rtcStunBuildBindingRequest hmac username password priority useCandidate tieBreaker
        controlling txnId)
      stunBindingRequest txnId (bs ++ [fingerprintAttr stunBindingRequest txnId bs]) := by
  have hzeros : (replicate stunHeaderSize (0 : UInt8)).length = 20 := rfl
  have hheader := fun length => @length_stunHeaderBytes stunBindingRequest txnId htxn length
  -- every attribute that is added is part of the final message
  have hlast := length_stunAttrBytes_le_append bs [fingerprintAttr stunBindingRequest txnId bs]
  have h₃ := hgrows.trans hlast
  have h₂ := (length_stunAttrBytes_le_append _ _).trans h₃
  have h₁ := (length_stunAttrBytes_le_append _ _).trans h₂
  have h₀ := (length_stunAttrBytes_le_append _ _).trans h₁
  unfold rtcStunBuildBindingRequest
  refine (appended_appendUsername (by rw [hzeros]; decide) hshort).bind
    (length_front_le hzeros h₀) fun hroom => ?_
  refine (appended_appendIf hroom _ _ (by simp)).bind (length_front_le hzeros h₁) fun hroom => ?_
  refine (appended_appendIf hroom _ _ (by simp)).bind (length_front_le hzeros h₂) fun hroom => ?_
  refine (appended_appendIf hroom _ _ (by simp [writeU64])).bind (length_front_le hzeros h₃)
    fun hroom => ?_
  refine (hpassword _ rfl hroom).bind (length_front_le hfront hlast) fun _ => ?_
  rw [writeStunHeader_append hfront, length_behind_header hfront]
  refine appended_fingerprint.bind (length_front_le (hheader _) le_rfl) fun hroom => ?_
  rw [length_append, hheader] at hroom
  dsimp only
  rw [writeStunHeader_append (hheader _), length_behind_header (hheader _),
    Nat.mod_eq_of_lt (by unfold stunMaxMsgSize at hroom; omega)]
  exact .inr ⟨rfl, hroom⟩

theorem rtcStunBuildBindingRequest_built (hhmac : ∀ key data, (hmac key data).length = 20)
    (hshort : ∀ name ∈ username, name.length < 65533) (password : Bytes) (priority : Nat)
    (useCandidate : Bool) (tieBreaker : Nat) (controlling : Bool) (htxn : txnId.length = 12) :
    Built
      (rtcStunBuildBindingRequest hmac username (some password) priority useCandidate tieBreaker
        controlling txnId)
      stunBindingRequest txnId
      (sealedAttrs hmac password stunBindingRequest txnId
        (requestAttrs username priority useCandidate tieBreaker controlling)) := by
  apply rtcStunBuildBindingRequest_appended hshort (some password) priority useCandidate tieBreaker
    controlling htxn (@length_stunHeaderBytes stunBindingRequest txnId htxn _)
    (length_stunAttrBytes_le_append _ _)
  rintro _ rfl -
  have hzeros : (replicate stunHeaderSize (0 : UInt8)).length = 20 := rfl
  rw [appendPassword, writeStunHeader_append hzeros, length_behind_header hzeros]
  exact appended_integrity hhmac password

/-! ## Requests to a TURN server -/

/-- A string as far as a length field of 16 bits counts it. -/
def stunCut (value : Bytes) : Bytes := value.take (value.length % 2 ^ 16)

theorem length_stunCut (value : Bytes) : (stunCut value).length = value.length % 2 ^ 16 := by
  rw [stunCut, length_take]
  exact Nat.min_eq_left (Nat.mod_le _ _)

theorem appendValue_stunCut (buf : Bytes) (type : Nat) (value : Bytes) :
    appendValue buf type value = appendValue buf type (stunCut value) := by
  unfold appendValue appendAttr
  rw [length_stunCut, Nat.mod_mod, stunCut, take_take, Nat.min_self]

theorem stunAddAttr_stunCut (msg : StunMsg) (type : Nat) (value : Bytes) :
    stunAddAttr msg type value = stunAddAttr msg type (stunCut value) := by
  unfold stunAddAttr
  rw [appendValue_stunCut]

/-- A string that `append_attr` does not write over the end of the message: its padded length, in
16 bits, is not less than its length. -/
def StunAdd.Short : StunAdd → Prop
  | .username value | .realm value | .nonce value => value.length % 2 ^ 16 < 65533
  | _ => True

/-- The attributes in front of the fingerprint; without a key none is added. -/
def keyedAttrs (hmac : Bytes → Bytes → Bytes) (key : Bytes) (type : Nat) (txnId : Bytes)
    (as : List StunAttr) : List StunAttr :=
  if key = [] then as else as ++ [integrityAttr hmac key type txnId as]

section Turn

variable {type : Nat} {txnId : Bytes} (htxn : txnId.length = 12) {as : List StunAttr}

include htxn

theorem stunAddAttr_built (attrType : Nat) {value : Bytes} (hlt : value.length < 65533) :
    Built (stunAddAttr (stunMsg type txnId as) attrType value) type txnId
      (as ++ [{ type := attrType, value := value }]) := by
  have hheader := fun length => @length_stunHeaderBytes type txnId htxn length
  have happended := appended_appendValue (stunMsg type txnId as).buf attrType hlt
  rw [stunMsg, append_assoc, ← stunAttrBytes_concat] at happended
  unfold stunAddAttr
  refine happended.bind (length_front_le (hheader _) le_rfl) fun hroom => ?_
  rw [length_append, hheader] at hroom
  dsimp only [stunMsg]
  rw [writeStunLength_header, length_behind_header (hheader _),
    Nat.mod_eq_of_lt (by unfold stunMaxMsgSize at hroom; omega)]
  exact .inr ⟨rfl, hroom⟩

omit htxn in
theorem rtcStunBuildRequest_eq (method : Nat) (txnId : Bytes) :
    rtcStunBuildRequest method txnId = stunMsg method txnId [] := by
  simp [rtcStunBuildRequest, stunMsg]

theorem appended_appendKey {hmac : Bytes → Bytes → Bytes}
    (hhmac : ∀ key data, (hmac key data).length = 20) (key : Bytes)
    (hroom : 20 + (stunAttrBytes as).length ≤ stunMaxMsgSize) :
    ∃ length, Appended (appendKey hmac (stunMsg type txnId as).buf key)
      (stunHeaderBytes type length txnId ++ stunAttrBytes (keyedAttrs hmac key type txnId as)) := by
  have hheader := fun length => @length_stunHeaderBytes type txnId htxn length
  unfold appendKey keyedAttrs
  split_ifs
  · exact ⟨_, .pure (by rw [length_stunMsg htxn]; exact hroom)⟩
  · refine ⟨(stunAttrBytes as).length + 24, ?_⟩
    rw [stunMsg, writeStunLength_header, length_behind_header (hheader _)]
    exact appended_integrity hhmac key

theorem rtcStunFinalizeKey_built {hmac : Bytes → Bytes → Bytes}
    (hhmac : ∀ key data, (hmac key data).length = 20) (key : Bytes)
    (hroom : 20 + (stunAttrBytes as).length ≤ stunMaxMsgSize) :
    Built (rtcStunFinalizeKey hmac (stunMsg type txnId as) key) type txnId
      (keyedAttrs hmac key type txnId as
        ++ [fingerprintAttr type txnId (keyedAttrs hmac key type txnId as)]) := by
  have hheader := fun length => @length_stunHeaderBytes type txnId htxn length
  obtain ⟨length, hkeyed⟩ := @appended_appendKey type txnId htxn as hmac hhmac key hroom
  unfold rtcStunFinalizeKey
  refine hkeyed.bind (length_front_le (hheader _) (length_stunAttrBytes_le_append _ _)) fun _ => ?_
  rw [writeStunLength_header, length_behind_header (hheader _)]
  refine appended_fingerprint.bind (length_front_le (hheader _) le_rfl) fun hroom => ?_
  rw [length_append, hheader] at hroom
  dsimp only
  rw [length_behind_header (hheader _), Nat.mod_eq_of_lt (by unfold stunMaxMsgSize at hroom; omega)]
  exact .inr ⟨rfl, hroom⟩

/-- What an addition can do: fail, add an attribute, or, with a string that is not short, write
over the end of the message. -/
def Adds (type : Nat) (txnId : Bytes) (short : Prop) (r : Except StunFault StunMsg) : Prop :=
  (∃ code, r = .error (.err code))
    ∨ (∃ bs, Unsealed bs ∧ 20 + (stunAttrBytes bs).length ≤ stunMaxMsgSize
      ∧ r = .ok (stunMsg type txnId bs))
    ∨ r = .error .overrun ∧ ¬ short

theorem stunAddAttr_adds (has : Unsealed as) {attrType : Nat}
    (htype : attrType < 2 ^ 16 ∧ attrType ≠ stunAttrMessageIntegrity ∧
      attrType ≠ stunAttrFingerprint) {short : Prop} {value : Bytes}
    (hshort : short → value.length % 2 ^ 16 < 65533) :
    Adds type txnId short (stunAddAttr (stunMsg type txnId as) attrType value) := by
  have hcut := length_stunCut value
  rw [stunAddAttr_stunCut]
  by_cases hlt : (stunCut value).length < 65533
  · have hbuilt : Built (stunAddAttr (stunMsg type txnId as) attrType (stunCut value)) _ _ _ :=
      stunAddAttr_built htxn attrType hlt
    obtain ⟨hstop, -⟩ | ⟨hok, hroom⟩ := hbuilt
    · exact .inl ⟨_, hstop⟩
    · exact .inr (.inl ⟨_, has.append (.single htype hlt), hroom, hok⟩)
  · -- the padded length is 0, so that the check for room passes
    unfold stunAddAttr appendValue appendAttr
    split_ifs with hroom hover
    · exact .inl ⟨_, rfl⟩
    · exact .inr (.inr ⟨rfl, fun h => hlt (hcut ▸ hshort h)⟩)
    · unfold stunPadded at hover
      omega

theorem StunAdd.call_adds (has : Unsealed as) (add : StunAdd) :
    Adds type txnId add.Short (add.call (stunMsg type txnId as)) := by
  cases add with
  | requestedTransport protocol => exact stunAddAttr_adds htxn has (by decide) (by simp)
  | lifetime seconds => exact stunAddAttr_adds htxn has (by decide) (by simp)
  | xorPeerAddress peer =>
    obtain ⟨family, ip, port, scope⟩ := peer
    cases family with
    | inet => exact stunAddAttr_adds htxn has (by decide) (by simp)
    | inet6 => exact .inl ⟨_, rfl⟩
    | other => exact .inl ⟨_, rfl⟩
  | channelNumber channel => exact stunAddAttr_adds htxn has (by decide) (by simp)
  | username value => exact stunAddAttr_adds htxn has (by decide) id
  | realm value => exact stunAddAttr_adds htxn has (by decide) id
  | nonce value => exact stunAddAttr_adds htxn has (by decide) id

theorem stunAssemble_unsealed (adds : List StunAdd) (has : Unsealed as)
    (hroom : 20 + (stunAttrBytes as).length ≤ stunMaxMsgSize) :
    (stunAssemble (stunMsg type txnId as) adds = .error .overrun ∧ ∃ add ∈ adds, ¬ add.Short)
      ∨ ∃ bs, Unsealed bs ∧ 20 + (stunAttrBytes bs).length ≤ stunMaxMsgSize
        ∧ stunAssemble (stunMsg type txnId as) adds = .ok (stunMsg type txnId bs) := by
  induction adds generalizing as with
  | nil => exact .inr ⟨as, has, hroom, rfl⟩
  | cons add adds ih =>
    have hstep : Adds type txnId add.Short (add.call (stunMsg type txnId as)) :=
      StunAdd.call_adds htxn has add
    have hmore : ∀ {p : Prop}, (p ∧ ∃ b ∈ adds, ¬ b.Short) → p ∧ ∃ b ∈ add :: adds, ¬ b.Short :=
      fun h => ⟨h.1, h.2.imp fun b hb => ⟨mem_cons_of_mem _ hb.1, hb.2⟩⟩
    unfold stunAssemble
    obtain ⟨code, hcall⟩ | ⟨bs, hbs, hbsRoom, hcall⟩ | ⟨hcall, hlong⟩ := hstep
    · rw [hcall]
      exact (ih has hroom).imp_left hmore
    · rw [hcall]
      exact (ih hbs hbsRoom).imp_left hmore
    · rw [hcall]
      exact .inl ⟨rfl, add, mem_cons_self, hlong⟩

end Turn

/-! ## Reading back -/

/-- The message is parsed as it is, and carries its checksum as its last attribute. -/
structure StunMsg.Sealed (type : Nat) (txnId : Bytes) (msg : StunMsg) : Prop where
  parses : rtcStunParse msg.buf = .ok msg
  type_eq : msg.type = type
  txnId_eq : msg.txnId = txnId
  fingerprinted : msg.Fingerprinted

theorem Built.sealed {r : Except StunFault StunMsg}
    (hhmac : ∀ key data, (hmac key data).length = 20) {key : Bytes} {type : Nat}
    (htype : type < 2 ^ 16) (htxn : txnId.length = 12)
    (has : Unsealed as) (h : Built r type txnId (sealedAttrs hmac key type txnId as)) :
    (∃ code, r = .error (.err code)) ∨
      ∃ msg, r = .ok msg ∧ msg.Sealed type txnId ∧ stunVerifies hmac msg.buf key = true ∧
        ∀ attrType, attrType ≠ stunAttrMessageIntegrity → attrType ≠ stunAttrFingerprint →
          rtcStunFindAttr msg attrType =
            (as.find? fun a => a.type = attrType).map StunAttr.value := by
  obtain ⟨hstop, -⟩ | ⟨hok, hroom⟩ := h
  · exact .inl ⟨_, hstop⟩
  · obtain ⟨hparse, hverify, hfingerprint⟩ := sealed_stunMsg htype htxn hhmac key has hroom
    refine .inr ⟨_, hok, ⟨hparse, rfl, rfl, hfingerprint⟩, hverify, ?_⟩
    intro attrType hmi hfp
    -- the two attributes behind the list have other types
    rw [rtcStunFindAttr_stunMsg htxn (sealedAttrs_fits hhmac key has)]
    simp [sealedAttrs, integrityAttr, fingerprintAttr, find?_append, hmi.symm, hfp.symm]

/-- Every key, and none. -/
theorem rtcStunFinalizeKey_sealed (hhmac : ∀ key data, (hmac key data).length = 20) (key : Bytes)
    {type : Nat} (htype : type < 2 ^ 16) (htxn : txnId.length = 12) (has : Unsealed as)
    (hroom : 20 + (stunAttrBytes as).length ≤ stunMaxMsgSize) :
    (∃ code, rtcStunFinalizeKey hmac (stunMsg type txnId as) key = .error (.err code)) ∨
      ∃ msg, rtcStunFinalizeKey hmac (stunMsg type txnId as) key = .ok msg
        ∧ msg.Sealed type txnId ∧ (key ≠ [] → stunVerifies hmac msg.buf key = true) := by
  have hbuilt : Built (rtcStunFinalizeKey hmac (stunMsg type txnId as) key) _ _ _ :=
    rtcStunFinalizeKey_built htxn hhmac key hroom
  unfold keyedAttrs at hbuilt
  by_cases hkey : key = []
  · rw [if_pos hkey] at hbuilt
    obtain ⟨hstop, -⟩ | ⟨hok, hfits⟩ := hbuilt
    · exact .inl ⟨_, hstop⟩
    · exact .inr ⟨_, hok, ⟨rtcStunParse_stunMsg htype htxn hfits, rfl, rfl,
        fingerprinted_stunMsg htxn has.fits has.no_fingerprint⟩, absurd hkey⟩
  · rw [if_neg hkey] at hbuilt
    obtain hstop | ⟨msg, hok, hsealed, hverify, -⟩ := hbuilt.sealed hhmac htype htxn has
    · exact .inl hstop
    · exact .inr ⟨msg, hok, hsealed, fun _ => hverify⟩

theorem stunAttrRole_plain (controlling : Bool) :
    stunAttrRole controlling < 2 ^ 16 ∧ stunAttrRole controlling ≠ stunAttrMessageIntegrity ∧
      stunAttrRole controlling ≠ stunAttrFingerprint := by
  cases controlling <;> decide

theorem requestAttrs_unsealed (hshort : ∀ name ∈ username, name.length < 65533) (priority : Nat)
    (useCandidate : Bool) (tieBreaker : Nat) (controlling : Bool) :
    Unsealed (requestAttrs username priority useCandidate tieBreaker controlling) := by
  have hname : Unsealed (username.toList.map (StunAttr.mk stunAttrUsername)) := by
    cases username with
    | none => exact .nil
    | some name => exact .single (by decide) (hshort name rfl)
  exact ((hname.append (.ite _ (by decide) (by simp))).append (.ite _ (by decide) (by simp))).append
    (.ite _ (stunAttrRole_plain controlling) (by simp [writeU64]))

theorem find_ite_singleton (p : Bool) (a : StunAttr) (attrType : Nat) :
    (if p then [a] else []).find? (fun b => b.type = attrType) =
      if a.type = attrType then if p then some a else none else none := by
  cases p <;> simp [find?_singleton]

theorem find_requestAttrs (username : Option Bytes) (priority : Nat) (useCandidate : Bool)
    (tieBreaker : Nat) (controlling : Bool) (attrType : Nat) :
    ((requestAttrs username priority useCandidate tieBreaker controlling).find?
        fun a => a.type = attrType).map StunAttr.value =
      if attrType = stunAttrUsername then username
      else if attrType = stunAttrPriority then
        if priority = 0 then none else some (writeU32 priority)
      else if attrType = stunAttrUseCandidate then if useCandidate then some [] else none
      else if attrType = stunAttrRole controlling then
        if tieBreaker = 0 then none else some (writeU64 tieBreaker)
      else none := by
  have hpriority : decide (0 < priority) = !decide (priority = 0) := by
    rw [← decide_not, decide_eq_decide]
    omega
  have htieBreaker : decide (0 < tieBreaker) = !decide (tieBreaker = 0) := by
    rw [← decide_not, decide_eq_decide]
    omega
  have hname : (username.toList.map (StunAttr.mk stunAttrUsername)).find?
        (fun a => a.type = attrType) =
      if stunAttrUsername = attrType then username.map (StunAttr.mk stunAttrUsername) else none := by
    cases username <;> simp [find?_singleton]
  rw [requestAttrs, find?_append, find?_append, find?_append, hname]
  simp only [find_ite_singleton, hpriority, htieBreaker]
  have hrole : stunAttrRole controlling ≠ stunAttrUsername ∧
      stunAttrRole controlling ≠ stunAttrPriority ∧
      stunAttrRole controlling ≠ stunAttrUseCandidate := by
    cases controlling <;> decide
  by_cases hu : attrType = stunAttrUsername
  · subst hu
    cases username <;>
      simp [hrole.1, show stunAttrPriority ≠ stunAttrUsername by decide,
        show stunAttrUseCandidate ≠ stunAttrUsername by decide]
  by_cases hp : attrType = stunAttrPriority
  · subst hp
    by_cases hzero : priority = 0 <;>
      simp [hzero, hrole.2.1, show stunAttrUsername ≠ stunAttrPriority by decide,
        show stunAttrPriority ≠ stunAttrUsername by decide,
        show stunAttrUseCandidate ≠ stunAttrPriority by decide]
  by_cases hc : attrType = stunAttrUseCandidate
  · subst hc
    cases useCandidate <;>
      simp [hrole.2.2, Ne.symm hu, Ne.symm hp, hu, hp]
  by_cases hr : attrType = stunAttrRole controlling
  · grind
  · simp [hu, hp, hc, hr, Ne.symm hu, Ne.symm hp, Ne.symm hc, Ne.symm hr]

/-- **Every request is read back as it was built**, and so is every request to a TURN server for
which no string was written over the end of the message. -/
theorem stunRequests_readBack (hmac : Bytes → Bytes → Bytes)
    (hhmac : ∀ key data, (hmac key data).length = 20) (txnId : Bytes)
    (htxn : txnId.length = stunTxnIdSize) :
    (∀ (username : Option Bytes) (password : Bytes) (priority : Nat) (useCandidate : Bool)
        (tieBreaker : Nat) (controlling : Bool),
      (∀ name ∈ username, name.length < 65533) →
      let r := rtcStunBuildBindingRequest hmac username (some password) priority useCandidate
        tieBreaker controlling txnId
      (∃ code, r = .error (.err code)) ∨
        ∃ msg, r = .ok msg ∧ msg.Sealed stunBindingRequest txnId ∧
          stunVerifies hmac msg.buf password = true ∧
          rtcStunFindAttr msg stunAttrUsername = username ∧
          rtcStunFindAttr msg stunAttrPriority =
            (if priority = 0 then none else some (writeU32 priority)) ∧
          rtcStunFindAttr msg stunAttrUseCandidate = (if useCandidate then some [] else none) ∧
          rtcStunFindAttr msg (stunAttrRole controlling) =
            (if tieBreaker = 0 then none else some (writeU64 tieBreaker)) ∧
          rtcStunFindAttr msg (stunAttrRole !controlling) = none) ∧
    (∀ (method : Nat) (adds : List StunAdd) (key : Bytes), method < 2 ^ 16 →
      (stunAssemble (rtcStunBuildRequest method txnId) adds = .error .overrun
          ∧ ∃ add ∈ adds, ¬ add.Short) ∨
        ∃ request, stunAssemble (rtcStunBuildRequest method txnId) adds = .ok request ∧
          let r := rtcStunFinalizeKey hmac request key
          ((∃ code, r = .error (.err code)) ∨
            ∃ msg, r = .ok msg ∧ msg.Sealed method txnId ∧
              (key ≠ [] → stunVerifies hmac msg.buf key = true))) := by
  constructor
  · intro username password priority useCandidate tieBreaker controlling hshort
    have hbuilt := rtcStunBuildBindingRequest_built hhmac hshort password priority useCandidate
      tieBreaker controlling htxn
    obtain hstop | ⟨msg, hok, hsealed, hverify, hfind⟩ := hbuilt.sealed hhmac (by decide) htxn
      (requestAttrs_unsealed hshort priority useCandidate tieBreaker controlling)
    · exact .inl hstop
    · simp only [find_requestAttrs] at hfind
      refine .inr ⟨msg, hok, hsealed, hverify, ?_, ?_, ?_, ?_, ?_⟩
      · exact hfind stunAttrUsername (by decide) (by decide)
      · exact hfind stunAttrPriority (by decide) (by decide)
      · exact hfind stunAttrUseCandidate (by decide) (by decide)
      · have hown := hfind (stunAttrRole controlling) (stunAttrRole_plain _).2.1
          (stunAttrRole_plain _).2.2
        cases controlling <;> exact hown
      · have hother := hfind (stunAttrRole !controlling) (stunAttrRole_plain _).2.1
          (stunAttrRole_plain _).2.2
        cases controlling <;> exact hother
  · intro method adds key hmethod
    rw [rtcStunBuildRequest_eq]
    obtain hover | ⟨bs, hbs, hroom, hassemble⟩ :=
      @stunAssemble_unsealed method txnId htxn [] adds .nil (by decide)
    · exact .inl hover
    · exact .inr ⟨_, hassemble, rtcStunFinalizeKey_sealed hhmac key hmethod htxn hbs hroom⟩

def keyedPad (key data : Bytes) : Bytes := (key ++ data ++ replicate 20 0).take 20

theorem length_keyedPad (key data : Bytes) : (keyedPad key data).length = 20 := by
  simp [keyedPad]
  omega

theorem bindingAndRefresh_readBack :
    (∃ msg, rtcStunBuildBindingRequest keyedPad (some [0x61, 0x3A, 0x62]) (some [0x70, 0x77]) 5 true
        9 true (replicate 12 7) = .ok msg ∧
      msg.Sealed stunBindingRequest (replicate 12 7) ∧
      stunVerifies keyedPad msg.buf [0x70, 0x77] = true ∧
      rtcStunFindAttr msg stunAttrUsername = some [0x61, 0x3A, 0x62] ∧
      rtcStunFindAttr msg stunAttrPriority = some [0, 0, 0, 5]) ∧
    ∃ request, stunAssemble (rtcStunBuildRequest 4 (replicate 12 7))
        [.username [0x61], .realm [0x62], .lifetime 0] = .ok request ∧
      ∃ msg, rtcStunFinalizeKey keyedPad request [1, 0, 2] = .ok msg ∧
        msg.Sealed 4 (replicate 12 7) ∧ stunVerifies keyedPad msg.buf [1, 0, 2] = true := by
  obtain ⟨hbinding, hturn⟩ :=
    stunRequests_readBack keyedPad length_keyedPad (replicate 12 7) rfl
  constructor
  · have hok : (rtcStunBuildBindingRequest keyedPad (some [0x61, 0x3A, 0x62]) (some [0x70, 0x77]) 5
        true 9 true (replicate 12 7)).isOk = true := by decide +kernel
    obtain ⟨code, hstop⟩ | ⟨msg, hmsg, hsealed, hverify, hname, hpriority, -⟩ :=
      hbinding (some [0x61, 0x3A, 0x62]) [0x70, 0x77] 5 true 9 true (by simp)
    · rw [hstop] at hok
      cases hok
    · exact ⟨msg, hmsg, hsealed, hverify, hname, hpriority⟩
  · have hok : (do
          let request ← stunAssemble (rtcStunBuildRequest 4 (replicate 12 7))
            [.username [0x61], .realm [0x62], .lifetime 0]
          rtcStunFinalizeKey keyedPad request [1, 0, 2]).isOk = true := by decide +kernel
    obtain ⟨hover, -⟩ | ⟨request, hrequest, ⟨code, hstop⟩ | ⟨msg, hmsg, hsealed, hverify⟩⟩ :=
      hturn 4 [.username [0x61], .realm [0x62], .lifetime 0] [1, 0, 2] (by decide)
    · rw [hover] at hok
      cases hok
    · rw [hrequest] at hok
      change (rtcStunFinalizeKey keyedPad request [1, 0, 2]).isOk = true at hok
      rw [hstop] at hok
      cases hok
    · exact ⟨request, hrequest, msg, hmsg, hsealed, hverify (by simp)⟩

/-- Of a priority of zero nothing is found, and without a key a request does not verify. -/
theorem zeroPriority_emptyKey_absent :
    (rtcStunBuildBindingRequest keyedPad (some [0x61, 0x3A, 0x62]) (some [0x70, 0x77]) 0 true 9 true
        (replicate 12 7)).map (fun msg => rtcStunFindAttr msg stunAttrPriority) = .ok none ∧
    (do
      let request ← stunAssemble (rtcStunBuildRequest 4 (replicate 12 7)) [.lifetime 0]
      let msg ← rtcStunFinalizeKey keyedPad request []
      return stunVerifies keyedPad msg.buf []) = .ok false := by
  decide +kernel

end Mrtc
