import Mrtc.Ice.StunBuild

/-! # A STUN message as a list of attributes

The bytes of a list of attributes behind a header, and what the readers of `rtc_stun.c` find in
them: the walks over the buffer are walks over the list.
-/

namespace Mrtc

open Net List

structure StunAttr where
  type : Nat
  value : Bytes
  deriving DecidableEq

open StunAttr

structure StunAttr.Fits (a : StunAttr) : Prop where
  type_lt : a.type < 2 ^ 16
  length_lt : a.value.length < 65533

def StunAttr.bytes (a : StunAttr) : Bytes :=
  writeU16 a.type ++ (writeU16 a.value.length
    ++ (a.value ++ replicate (stunPadded a.value.length - a.value.length) 0))

def stunAttrBytes (as : List StunAttr) : Bytes := as.flatMap bytes

@[simp] theorem stunAttrBytes_nil : stunAttrBytes [] = [] := rfl

theorem stunAttrBytes_cons (a : StunAttr) (as : List StunAttr) :
    stunAttrBytes (a :: as) = a.bytes ++ stunAttrBytes as := rfl

theorem stunAttrBytes_append (as bs : List StunAttr) :
    stunAttrBytes (as ++ bs) = stunAttrBytes as ++ stunAttrBytes bs := flatMap_append

theorem stunAttrBytes_concat (as : List StunAttr) (a : StunAttr) :
    stunAttrBytes (as ++ [a]) = stunAttrBytes as ++ a.bytes := by
  simp [stunAttrBytes_append, stunAttrBytes_cons]

theorem le_stunPadded {n : Nat} (h : n < 65533) : n ≤ stunPadded n := by
  unfold stunPadded
  omega

theorem StunAttr.length_bytes {a : StunAttr} (h : a.value.length < 65533) :
    a.bytes.length = 4 + stunPadded a.value.length := by
  have hpad := le_stunPadded h
  simp only [bytes, length_append, writeU16_length, length_replicate]
  omega

theorem length_le_stunAttrBytes (as : List StunAttr) : as.length ≤ (stunAttrBytes as).length := by
  induction as with
  | nil => simp
  | cons a as ih =>
    rw [stunAttrBytes_cons, length_append, length_cons]
    have hpos : 2 ≤ a.bytes.length := by simp [bytes]
    omega

/-! ## One attribute in a buffer -/

section Read

variable (front : Bytes) {a : StunAttr} (ha : a.Fits) (rest : Bytes)

include ha

theorem readU16_attr_type : readU16 (front ++ (a.bytes ++ rest)) front.length = a.type := by
  rw [readU16_append_right le_rfl, Nat.sub_self, bytes, append_assoc,
    readU16_writeU16 ha.type_lt]

theorem readU16_attr_length :
    readU16 (front ++ (a.bytes ++ rest)) (front.length + 2) = a.value.length := by
  have hlen : a.value.length < 2 ^ 16 := by have := ha.length_lt; omega
  rw [readU16_append_right (by omega), Nat.add_sub_cancel_left, bytes,
    append_assoc, readU16_append_right (by simp)]
  simp only [writeU16_length, Nat.sub_self, append_assoc]
  exact readU16_writeU16 hlen _

omit ha in
theorem attr_value :
    ((front ++ (a.bytes ++ rest)).drop (front.length + 4)).take a.value.length = a.value := by
  rw [← drop_drop, drop_left]
  simp [bytes, writeU16]

theorem length_attr_in_buffer :
    front.length + 4 + a.value.length ≤ (front ++ (a.bytes ++ rest)).length := by
  have hpad := le_stunPadded ha.length_lt
  simp only [length_append, length_bytes ha.length_lt]
  omega

theorem length_behind_attr :
    front.length + 4 + stunPadded a.value.length = (front ++ a.bytes).length := by
  rw [length_append, length_bytes ha.length_lt, Nat.add_assoc]

theorem stunFindAttrFrom_attr (type fuel : Nat) :
    stunFindAttrFrom (front ++ (a.bytes ++ rest)) type (fuel + 1) front.length =
      if a.type = type then some a.value
      else stunFindAttrFrom ((front ++ a.bytes) ++ rest) type fuel (front ++ a.bytes).length := by
  have hroom := length_attr_in_buffer front ha rest
  rw [stunFindAttrFrom, readU16_attr_type front ha rest, readU16_attr_length front ha rest,
    if_neg (by omega), if_neg (by omega), attr_value, length_behind_attr front ha,
    append_assoc]

theorem stunVerifyFrom_attr (hmac : Bytes → Bytes → Bytes) (key : Bytes) {limit : Nat} (fuel : Nat)
    (hlimit : front.length + 4 ≤ limit) (htype : a.type ≠ stunAttrMessageIntegrity) :
    stunVerifyFrom hmac (front ++ (a.bytes ++ rest)) key limit (fuel + 1) front.length =
      stunVerifyFrom hmac ((front ++ a.bytes) ++ rest) key limit fuel (front ++ a.bytes).length := by
  rw [stunVerifyFrom, readU16_attr_type front ha rest, readU16_attr_length front ha rest,
    if_neg (by omega), if_neg htype, length_behind_attr front ha, append_assoc]

theorem stunVerifyFrom_integrity (hmac : Bytes → Bytes → Bytes) (key : Bytes) {limit : Nat}
    (fuel : Nat) (hlimit : front.length + 4 ≤ limit) (htype : a.type = stunAttrMessageIntegrity)
    (hvalue : a.value.length = 20) (htwo : 2 ≤ front.length)
    (hroom : front.length ≤ stunMaxMsgSize) :
    stunVerifyFrom hmac (front ++ (a.bytes ++ rest)) key limit (fuel + 1) front.length =
      if hmac key (writeStunLength front (front.length - stunHeaderSize + 24)) = a.value then .ok ()
      else .error .invalid := by
  have hstart : (front ++ (a.bytes ++ rest)).take 2 = front.take 2 :=
    take_append_of_le_length htwo
  rw [stunVerifyFrom, readU16_attr_type front ha rest, readU16_attr_length front ha rest,
    if_neg (by omega), if_pos htype, if_neg (by simp [hvalue]), if_neg (by omega), hstart,
    take_left, ← hvalue, attr_value]
  rfl

end Read

/-! ## The walks over a list -/

theorem stunFindAttrFrom_attrs (type : Nat) (as : List StunAttr) (front : Bytes) (fuel : Nat)
    (has : ∀ a ∈ as, a.Fits) (hfuel : as.length < fuel) :
    stunFindAttrFrom (front ++ stunAttrBytes as) type fuel front.length =
      (as.find? fun a => a.type = type).map value := by
  induction as generalizing front fuel with
  | nil =>
    obtain ⟨fuel, rfl⟩ : ∃ n, fuel = n + 1 := ⟨fuel - 1, by simp at hfuel; omega⟩
    rw [stunFindAttrFrom, stunAttrBytes_nil, append_nil, if_pos (by omega)]
    rfl
  | cons a as ih =>
    obtain ⟨fuel, rfl⟩ : ∃ n, fuel = n + 1 := ⟨fuel - 1, by simp at hfuel; omega⟩
    have hhead := has a mem_cons_self
    have htail : ∀ b ∈ as, b.Fits := fun b hb => has b (mem_cons_of_mem _ hb)
    rw [stunAttrBytes_cons, stunFindAttrFrom_attr front hhead,
      ih (front ++ a.bytes) fuel htail (by simpa using hfuel)]
    by_cases heq : a.type = type
    · simp [heq]
    · simp [heq]

theorem stunVerifyFrom_attrs (hmac : Bytes → Bytes → Bytes) (key : Bytes) (as : List StunAttr)
    (front rest : Bytes) (limit fuel : Nat) (has : ∀ a ∈ as, a.Fits)
    (hother : ∀ a ∈ as, a.type ≠ stunAttrMessageIntegrity)
    (hlimit : (front ++ stunAttrBytes as).length ≤ limit) :
    stunVerifyFrom hmac (front ++ (stunAttrBytes as ++ rest)) key limit (as.length + fuel)
        front.length =
      stunVerifyFrom hmac ((front ++ stunAttrBytes as) ++ rest) key limit fuel
        (front ++ stunAttrBytes as).length := by
  induction as generalizing front with
  | nil => simp
  | cons a as ih =>
    have hhead := has a mem_cons_self
    have hroom : front.length + 4 ≤ limit := by
      rw [stunAttrBytes_cons, length_append, length_append,
        length_bytes hhead.length_lt] at hlimit
      omega
    have htail := ih (front ++ a.bytes)
      (fun b hb => has b (mem_cons_of_mem _ hb))
      (fun b hb => hother b (mem_cons_of_mem _ hb))
      (by rw [stunAttrBytes_cons] at hlimit; simpa using hlimit)
    rw [stunAttrBytes_cons, length_cons, append_assoc,
      show as.length + 1 + fuel = (as.length + fuel) + 1 by omega,
      stunVerifyFrom_attr front hhead _ hmac key _ hroom (hother a mem_cons_self), htail]
    simp only [append_assoc]

/-! ## Messages -/

def stunMsg (type : Nat) (txnId : Bytes) (as : List StunAttr) : StunMsg :=
  { type := type
    length := (stunAttrBytes as).length
    txnId := txnId
    buf := stunHeaderBytes type (stunAttrBytes as).length txnId ++ stunAttrBytes as }

def integrityAttr (hmac : Bytes → Bytes → Bytes) (key : Bytes) (type : Nat) (txnId : Bytes)
    (as : List StunAttr) : StunAttr :=
  { type := stunAttrMessageIntegrity
    value := hmac key
      (stunHeaderBytes type ((stunAttrBytes as).length + 24) txnId ++ stunAttrBytes as) }

def fingerprintAttr (type : Nat) (txnId : Bytes) (as : List StunAttr) : StunAttr :=
  { type := stunAttrFingerprint
    value := stunFingerprint
      (stunHeaderBytes type ((stunAttrBytes as).length + 8) txnId ++ stunAttrBytes as) }

def sealedAttrs (hmac : Bytes → Bytes → Bytes) (key : Bytes) (type : Nat) (txnId : Bytes)
    (as : List StunAttr) : List StunAttr :=
  let withIntegrity := as ++ [integrityAttr hmac key type txnId as]
  withIntegrity ++ [fingerprintAttr type txnId withIntegrity]

/-- The message ends with a FINGERPRINT attribute, which is the CRC-32 of what comes before it,
masked, and is the one that is found. -/
def StunMsg.Fingerprinted (msg : StunMsg) : Prop :=
  ∃ front : Bytes,
    let value := writeU32 (Crc.crc32 front ^^^ 0x5354554E).toNat
    msg.buf = front ++ (writeU16 stunAttrFingerprint ++ (writeU16 4 ++ value)) ∧
      rtcStunFindAttr msg stunAttrFingerprint = some value

structure Unsealed (as : List StunAttr) : Prop where
  fits : ∀ a ∈ as, a.Fits
  no_integrity : ∀ a ∈ as, a.type ≠ stunAttrMessageIntegrity
  no_fingerprint : ∀ a ∈ as, a.type ≠ stunAttrFingerprint

theorem Unsealed.nil : Unsealed [] := ⟨by simp, by simp, by simp⟩

theorem Unsealed.append {as bs : List StunAttr} (has : Unsealed as) (hbs : Unsealed bs) :
    Unsealed (as ++ bs) := by
  constructor
  · simpa [or_imp, forall_and] using ⟨has.fits, hbs.fits⟩
  · simpa [or_imp, forall_and] using ⟨has.no_integrity, hbs.no_integrity⟩
  · simpa [or_imp, forall_and] using ⟨has.no_fingerprint, hbs.no_fingerprint⟩

theorem Unsealed.single {type : Nat} {value : Bytes}
    (htype : type < 2 ^ 16 ∧ type ≠ stunAttrMessageIntegrity ∧ type ≠ stunAttrFingerprint)
    (hlt : value.length < 65533) : Unsealed [{ type := type, value := value }] :=
  ⟨by simpa using ⟨htype.1, hlt⟩, by simpa using htype.2.1, by simpa using htype.2.2⟩

theorem Unsealed.ite {type : Nat} {value : Bytes} (p : Bool)
    (htype : type < 2 ^ 16 ∧ type ≠ stunAttrMessageIntegrity ∧ type ≠ stunAttrFingerprint)
    (hlt : value.length < 65533) :
    Unsealed (if p then [{ type := type, value := value }] else []) := by
  cases p with
  | false => exact .nil
  | true => exact .single htype hlt

section Message

variable {type : Nat} {txnId : Bytes} (htype : type < 2 ^ 16) (htxn : txnId.length = 12)

include htxn in
theorem length_stunHeaderBytes (length : Nat) : (stunHeaderBytes type length txnId).length = 20 := by
  simp [stunHeaderBytes, htxn]

include htype in
theorem readU16_header_type (length : Nat) (rest : Bytes) :
    readU16 (stunHeaderBytes type length txnId ++ rest) 0 = type := by
  simp only [stunHeaderBytes, append_assoc]
  exact readU16_writeU16 htype _

theorem readU16_header_length {length : Nat} (h : length < 2 ^ 16) (rest : Bytes) :
    readU16 (stunHeaderBytes type length txnId ++ rest) 2 = length := by
  simp only [stunHeaderBytes, append_assoc]
  rw [readU16_append_right (by simp)]
  exact readU16_writeU16 h _

theorem readU32_header_cookie (length : Nat) (rest : Bytes) :
    readU32 (stunHeaderBytes type length txnId ++ rest) 4 = stunMagicCookie := by
  simp only [stunHeaderBytes, append_assoc]
  rw [readU32_append_right (by simp), readU32_append_right (by simp)]
  exact readU32_writeU32 (by decide) _

include htxn in
theorem header_txnId (length : Nat) (rest : Bytes) :
    ((stunHeaderBytes type length txnId ++ rest).drop 8).take stunTxnIdSize = txnId := by
  have htake : (txnId ++ rest).take 12 = txnId := by rw [← htxn, take_left]
  simpa [stunHeaderBytes, writeU16, writeU32, stunTxnIdSize] using htake

variable {as : List StunAttr}

include htxn in
theorem length_stunMsg : (stunMsg type txnId as).buf.length = 20 + (stunAttrBytes as).length := by
  rw [stunMsg, length_append, length_stunHeaderBytes htxn]

include htype htxn in
theorem rtcStunParse_stunMsg (hroom : 20 + (stunAttrBytes as).length ≤ stunMaxMsgSize) :
    rtcStunParse (stunMsg type txnId as).buf = .ok (stunMsg type txnId as) := by
  have hlength : (stunAttrBytes as).length < 2 ^ 16 := by
    unfold stunMaxMsgSize at hroom
    omega
  have hbuf : (stunMsg type txnId as).buf.length = 20 + (stunAttrBytes as).length :=
    length_stunMsg htxn
  have hfield : readU16 (stunMsg type txnId as).buf 2 = (stunAttrBytes as).length :=
    readU16_header_length hlength _
  have hcookie : readU32 (stunMsg type txnId as).buf 4 = stunMagicCookie :=
    readU32_header_cookie _ _
  have htypeField : readU16 (stunMsg type txnId as).buf 0 = type :=
    readU16_header_type htype _ _
  have htxnField : ((stunMsg type txnId as).buf.drop 8).take stunTxnIdSize = txnId :=
    header_txnId htxn _ _
  have htake : (stunMsg type txnId as).buf.take (20 + (stunAttrBytes as).length) =
      (stunMsg type txnId as).buf := take_of_length_le (by omega)
  rw [rtcStunParse, hfield, hcookie, if_neg (by rw [hbuf, stunHeaderSize]; omega),
    if_neg (by simp), if_neg (by rw [hbuf, stunHeaderSize]; omega),
    show stunHeaderSize = 20 from rfl, min_eq_left hroom, htake,
    htypeField, htxnField]
  rfl

include htxn in
theorem rtcStunFindAttr_stunMsg (has : ∀ a ∈ as, a.Fits) (attrType : Nat) :
    rtcStunFindAttr (stunMsg type txnId as) attrType =
      (as.find? fun a => a.type = attrType).map value := by
  have hheader : (stunHeaderBytes type (stunAttrBytes as).length txnId).length = 20 :=
    length_stunHeaderBytes htxn _
  have hfuel : as.length < (stunMsg type txnId as).buf.length := by
    have hle := length_le_stunAttrBytes as
    rw [length_stunMsg htxn]
    omega
  have hwalk := stunFindAttrFrom_attrs attrType as
    (stunHeaderBytes type (stunAttrBytes as).length txnId) _ has hfuel
  rw [hheader] at hwalk
  exact hwalk

/-! ## Sealed messages -/

theorem writeStunLength_header (length length' : Nat) (rest : Bytes) :
    writeStunLength (stunHeaderBytes type length txnId ++ rest) length' =
      stunHeaderBytes type length' txnId ++ rest := by
  simp [writeStunLength, stunHeaderBytes, writeU16]

theorem integrityAttr_fits {hmac : Bytes → Bytes → Bytes}
    (hhmac : ∀ key data, (hmac key data).length = 20) (key : Bytes) :
    (integrityAttr hmac key type txnId as).Fits :=
  ⟨by simp [integrityAttr, stunAttrMessageIntegrity], by simp [integrityAttr, hhmac]⟩

theorem fingerprintAttr_fits : (fingerprintAttr type txnId as).Fits :=
  ⟨by simp [fingerprintAttr, stunAttrFingerprint], by simp [fingerprintAttr, stunFingerprint]⟩

include htxn in
theorem stunVerifies_integrityAttr {hmac : Bytes → Bytes → Bytes}
    (hhmac : ∀ key data, (hmac key data).length = 20) (key : Bytes) (has : ∀ a ∈ as, a.Fits)
    (hother : ∀ a ∈ as, a.type ≠ stunAttrMessageIntegrity) (rest : List StunAttr)
    (hroom : 20 + (stunAttrBytes (as ++ integrityAttr hmac key type txnId as :: rest)).length
      ≤ stunMaxMsgSize) :
    stunVerifies hmac
      (stunMsg type txnId (as ++ integrityAttr hmac key type txnId as :: rest)).buf key = true := by
  set mi := integrityAttr hmac key type txnId as with hmi
  set length := (stunAttrBytes (as ++ mi :: rest)).length with hlength
  have hfits : mi.Fits := integrityAttr_fits hhmac key
  have hvalue : mi.value.length = 20 := hhmac _ _
  have hsum : length = (stunAttrBytes as).length + (24 + (stunAttrBytes rest).length) := by
    rw [hlength, stunAttrBytes_append, stunAttrBytes_cons, length_append, length_append,
      length_bytes hfits.length_lt, hvalue]
    rfl
  have hcount := length_le_stunAttrBytes as
  have hheader : (stunHeaderBytes type length txnId).length = 20 := length_stunHeaderBytes htxn _
  have hfront : (stunHeaderBytes type length txnId ++ stunAttrBytes as).length =
      20 + (stunAttrBytes as).length := by
    rw [length_append, hheader]
  have hbuf : (stunMsg type txnId (as ++ mi :: rest)).buf =
      stunHeaderBytes type length txnId ++ (stunAttrBytes as ++ (mi.bytes ++ stunAttrBytes rest)) := by
    rw [stunMsg, ← hlength, stunAttrBytes_append, stunAttrBytes_cons]
  have hdata : (stunMsg type txnId (as ++ mi :: rest)).buf.length = 20 + length := length_stunMsg htxn
  have hfield : readU16 (stunMsg type txnId (as ++ mi :: rest)).buf 2 = length :=
    readU16_header_length (by unfold stunMaxMsgSize at hroom; omega) _
  -- the walk comes to the attribute with fuel left
  have hwalk := stunVerifyFrom_attrs hmac key as (stunHeaderBytes type length txnId)
    (mi.bytes ++ stunAttrBytes rest) (20 + length) (19 + length - as.length + 1) has hother
    (by omega)
  rw [hheader, ← hbuf, show as.length + (19 + length - as.length + 1) = 20 + length by omega,
    stunVerifyFrom_integrity _ hfits _ hmac key _ (by omega) rfl hvalue (by omega) (by omega),
    writeStunLength_header, hfront, stunHeaderSize, Nat.add_sub_cancel_left,
    if_pos (show hmac key _ = mi.value from rfl)] at hwalk
  rw [stunVerifies, rtcStunVerifyIntegrityKey, hfield, hdata,
    if_neg (by rw [stunHeaderSize]; omega), stunHeaderSize, min_self, hwalk]
  rfl

theorem fingerprintAttr_bytes :
    (fingerprintAttr type txnId as).bytes =
      writeU16 stunAttrFingerprint
        ++ (writeU16 4 ++ (fingerprintAttr type txnId as).value) := by
  have hpad : stunPadded 4 - 4 = 0 := by decide
  have hlength : (fingerprintAttr type txnId as).value.length = 4 := rfl
  rw [bytes, hlength, hpad, replicate_zero, append_nil]
  rfl

theorem length_stunAttrBytes_fingerprint :
    (stunAttrBytes (as ++ [fingerprintAttr type txnId as])).length =
      (stunAttrBytes as).length + 8 := by
  rw [stunAttrBytes_concat, length_append, fingerprintAttr_bytes]
  rfl

include htxn in
theorem fingerprinted_stunMsg (has : ∀ a ∈ as, a.Fits)
    (hother : ∀ a ∈ as, a.type ≠ stunAttrFingerprint) :
    (stunMsg type txnId (as ++ [fingerprintAttr type txnId as])).Fingerprinted := by
  have hvalue : (fingerprintAttr type txnId as).value =
      writeU32 (Crc.crc32 (stunHeaderBytes type ((stunAttrBytes as).length + 8) txnId
        ++ stunAttrBytes as) ^^^ 0x5354554E).toNat := by
    rw [← crc32Calc_eq]
    rfl
  have hall : ∀ a ∈ as ++ [fingerprintAttr type txnId as], a.Fits := by
    simpa [or_imp, forall_and] using ⟨has, fingerprintAttr_fits⟩
  refine ⟨stunHeaderBytes type ((stunAttrBytes as).length + 8) txnId ++ stunAttrBytes as, ?_, ?_⟩
  · rw [← hvalue, stunMsg, length_stunAttrBytes_fingerprint, stunAttrBytes_concat,
      fingerprintAttr_bytes, append_assoc]
  · have hnone : as.find? (fun a => a.type = stunAttrFingerprint) = none := by
      simpa [find?_eq_none] using hother
    rw [rtcStunFindAttr_stunMsg htxn hall, find?_append, hnone, ← hvalue]
    rfl

variable {hmac : Bytes → Bytes → Bytes} (hhmac : ∀ key data, (hmac key data).length = 20)
  (key : Bytes) (has : Unsealed as)

include hhmac has

theorem sealedAttrs_fits : ∀ a ∈ sealedAttrs hmac key type txnId as, a.Fits := by
  simpa [sealedAttrs, or_imp, forall_and] using
    ⟨has.fits, integrityAttr_fits hhmac key, fingerprintAttr_fits⟩

include htype htxn in
theorem sealed_stunMsg
    (hroom : 20 + (stunAttrBytes (sealedAttrs hmac key type txnId as)).length ≤ stunMaxMsgSize) :
    rtcStunParse (stunMsg type txnId (sealedAttrs hmac key type txnId as)).buf =
        .ok (stunMsg type txnId (sealedAttrs hmac key type txnId as)) ∧
      stunVerifies hmac (stunMsg type txnId (sealedAttrs hmac key type txnId as)).buf key = true ∧
      (stunMsg type txnId (sealedAttrs hmac key type txnId as)).Fingerprinted := by
  refine ⟨rtcStunParse_stunMsg htype htxn hroom, ?_, ?_⟩
  · have hsplit : sealedAttrs hmac key type txnId as =
        as ++ integrityAttr hmac key type txnId as ::
          [fingerprintAttr type txnId (as ++ [integrityAttr hmac key type txnId as])] := by
      simp [sealedAttrs]
    rw [hsplit] at hroom ⊢
    exact stunVerifies_integrityAttr htxn hhmac key has.fits has.no_integrity _ hroom
  · apply fingerprinted_stunMsg htxn
    · simpa [or_imp, forall_and] using ⟨has.fits, integrityAttr_fits hhmac key⟩
    · simpa [or_imp, forall_and, integrityAttr, stunAttrMessageIntegrity, stunAttrFingerprint]
        using has.no_fingerprint

end Message

end Mrtc
