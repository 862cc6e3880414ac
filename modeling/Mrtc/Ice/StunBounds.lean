import Mrtc.Ice.StunRoundTrip

/-! # What the STUN code reads and the lengths it writes (`rtc_stun.c`)

The walks over a message again, with each read checked: the result is `none` if a byte behind the
message is read, or if the walk does not end.
-/

namespace Mrtc

open Net List

/-! ## Checked reads -/

def checkedU8 (buf : Bytes) (pos : Nat) : Option Nat :=
  if pos < buf.length then some (byteAt buf pos) else none

def checkedU16 (buf : Bytes) (pos : Nat) : Option Nat :=
  if pos + 2 ≤ buf.length then some (readU16 buf pos) else none

def checkedBytes (buf : Bytes) (pos n : Nat) : Option Bytes :=
  if pos + n ≤ buf.length then some ((buf.drop pos).take n) else none

/-! ## MESSAGE-INTEGRITY -/

def stunVerifyChecked (hmac : Bytes → Bytes → Bytes) (data key : Bytes) (limit : Nat) :
    (fuel pos : Nat) → Option (Except RtcErr Unit)
  | 0, _ => none
  | fuel + 1, pos =>
    if limit < pos + 4 then some (.error .invalid)
    else do
      let atype ← checkedU16 data pos
      let alen ← checkedU16 data (pos + 2)
      if atype = stunAttrMessageIntegrity then
        if alen ≠ 20 then some (.error .invalid)
        else if stunMaxMsgSize < pos then some (.error .invalid)
        else do
          let front ← checkedBytes data 0 pos
          let value ← checkedBytes data (pos + 4) 20
          some (if hmac key (writeStunLength front (pos - stunHeaderSize + 24)) = value then .ok ()
            else .error .invalid)
      else stunVerifyChecked hmac data key limit fuel (pos + 4 + stunPadded alen)

def rtcStunVerifyChecked (hmac : Bytes → Bytes → Bytes) (data key : Bytes) :
    Option (Except RtcErr Unit) :=
  if data.length < stunHeaderSize + 24 then some (.error .invalid)
  else
    stunVerifyChecked hmac data key (min (stunHeaderSize + readU16 data 2) data.length) data.length
      stunHeaderSize

def stunIntegrityFrom (data : Bytes) (limit : Nat) : (fuel pos : Nat) → Option Nat
  | 0, _ => none
  | fuel + 1, pos =>
    if limit < pos + 4 then none
    else if readU16 data pos = stunAttrMessageIntegrity then
      if readU16 data (pos + 2) ≠ 20 then none
      else if stunMaxMsgSize < pos then none
      else some pos
    else stunIntegrityFrom data limit fuel (pos + 4 + stunPadded (readU16 data (pos + 2)))

def stunIntegrityAt (data : Bytes) : Option Nat :=
  if data.length < stunHeaderSize + 24 then none
  else
    stunIntegrityFrom data (min (stunHeaderSize + readU16 data 2) data.length) data.length
      stunHeaderSize

def integrityInput (data : Bytes) (pos : Nat) : Bytes :=
  writeStunLength (data.take pos) (pos - stunHeaderSize + 24)

def compareIntegrity (hmac : Bytes → Bytes → Bytes) (data key : Bytes) :
    Option Nat → Except RtcErr Unit
  | none => .error .invalid
  | some pos =>
    if hmac key (integrityInput data pos) = (data.drop (pos + 4)).take 20 then .ok ()
    else .error .invalid

variable {pos : Nat} {buf txnId : Bytes} {attrType : Nat} {value : Bytes}

theorem integrityInput_eq (data : Bytes) (hpos : 2 ≤ pos) :
    integrityInput data pos
      = data.take 2 ++ writeU16 (pos - stunHeaderSize + 24) ++ (data.take pos).drop 4 := by
  rw [integrityInput, writeStunLength, take_take, Nat.min_eq_left hpos]

section

variable (hmac : Bytes → Bytes → Bytes)
include hmac

theorem stunVerifyFrom_eq (data key : Bytes) (limit fuel : Nat) :
    ∀ {pos : Nat}, 2 ≤ pos →
      stunVerifyFrom hmac data key limit fuel pos
        = compareIntegrity hmac data key (stunIntegrityFrom data limit fuel pos) := by
  induction fuel with
  | zero => exact fun _ => rfl
  | succ fuel ih =>
    intro pos hpos
    unfold stunVerifyFrom stunIntegrityFrom
    split_ifs with h1 h2 h3 h4 h5
    · rfl
    · rfl
    · rfl
    · rw [compareIntegrity, integrityInput_eq data hpos, if_pos h5]
    · rw [compareIntegrity, integrityInput_eq data hpos, if_neg h5]
    · exact ih (by omega)

theorem stunVerifyChecked_eq (data key : Bytes) {limit : Nat}
    (hlimit : limit ≤ data.length) (fuel : Nat) :
    ∀ {pos : Nat}, 0 < fuel → limit < pos + fuel →
      stunVerifyChecked hmac data key limit fuel pos
        = if ∀ at' ∈ stunIntegrityFrom data limit fuel pos, at' + 24 ≤ data.length then
            some (compareIntegrity hmac data key (stunIntegrityFrom data limit fuel pos))
          else none := by
  induction fuel with
  | zero => exact fun h => absurd h (Nat.lt_irrefl 0)
  | succ fuel ih =>
    intro pos _ hfuel
    unfold stunVerifyChecked stunIntegrityFrom
    by_cases h1 : limit < pos + 4
    · simp [h1, compareIntegrity]
    · have htype : checkedU16 data pos = some (readU16 data pos) := if_pos (by omega)
      have hlen : checkedU16 data (pos + 2) = some (readU16 data (pos + 2)) := if_pos (by omega)
      have hfront : checkedBytes data 0 pos = some (data.take pos) := if_pos (by omega)
      simp only [if_neg h1, htype, hlen, Option.bind_eq_bind, Option.bind_some]
      by_cases h2 : readU16 data pos = stunAttrMessageIntegrity
      · by_cases h3 : readU16 data (pos + 2) ≠ 20
        · simp [h2, h3, compareIntegrity]
        · by_cases h4 : stunMaxMsgSize < pos
          · simp [h2, h3, h4, compareIntegrity]
          · simp only [if_pos h2, if_neg h3, if_neg h4, Option.mem_some_iff, forall_eq', hfront,
              Option.bind_some]
            simp only [checkedBytes, compareIntegrity, integrityInput, Nat.add_assoc]
            split_ifs <;> rfl
      · simp only [if_neg h2]
        exact ih (by omega) (by omega)

theorem rtcStunVerifyIntegrityKey_eq (data key : Bytes) :
    rtcStunVerifyIntegrityKey hmac data key
      = compareIntegrity hmac data key (stunIntegrityAt data) := by
  unfold rtcStunVerifyIntegrityKey stunIntegrityAt
  split_ifs
  · rfl
  · exact stunVerifyFrom_eq hmac data key _ _ (by decide)

theorem rtcStunVerifyChecked_eq (data key : Bytes) :
    rtcStunVerifyChecked hmac data key
      = if ∀ pos ∈ stunIntegrityAt data, pos + 24 ≤ data.length then
          some (rtcStunVerifyIntegrityKey hmac data key)
        else none := by
  rw [rtcStunVerifyIntegrityKey_eq]
  unfold rtcStunVerifyChecked stunIntegrityAt
  by_cases hshort : data.length < stunHeaderSize + 24
  · simp [hshort, compareIntegrity]
  · simp only [if_neg hshort]
    exact stunVerifyChecked_eq hmac data key (Nat.min_le_right _ _) _ (by omega)
      (by unfold stunHeaderSize at *; omega)

end

/-- **The check stays in the message, and accepts only a value inside it, if and only if** the
MESSAGE-INTEGRITY attribute that is compared is complete in the datagram and in the length that its
header declares. -/
theorem stunVerify_inside_iff (data : Bytes) :
    (∀ hmac key, rtcStunVerifyChecked hmac data key = some (rtcStunVerifyIntegrityKey hmac data key)
      ∧ (rtcStunVerifyIntegrityKey hmac data key = .ok () →
        ∃ pos ∈ stunIntegrityAt data, pos + 24 ≤ data.length
          ∧ pos + 24 ≤ stunHeaderSize + readU16 data 2
          ∧ hmac key (integrityInput data pos) = (data.drop (pos + 4)).take 20))
      ↔ ∀ pos ∈ stunIntegrityAt data,
        pos + 24 ≤ min data.length (stunHeaderSize + readU16 data 2) := by
  constructor
  · intro h pos hpos
    -- with the value itself as the HMAC, the comparison succeeds
    obtain ⟨hread, hok⟩ := h (fun _ _ => (data.drop (pos + 4)).take 20) []
    rw [rtcStunVerifyChecked_eq] at hread
    rw [rtcStunVerifyIntegrityKey_eq, Option.mem_def.mp hpos] at hok
    obtain ⟨pos', hpos', hdata, hdeclared, -⟩ := hok (if_pos rfl)
    obtain rfl : pos = pos' := Option.some.inj hpos'
    omega
  · intro h hmac key
    constructor
    · rw [rtcStunVerifyChecked_eq, if_pos fun pos hpos => (h pos hpos).trans (Nat.min_le_left _ _)]
    · rw [rtcStunVerifyIntegrityKey_eq]
      cases hat : stunIntegrityAt data with
      | none => exact fun hok => by cases hok
      | some pos =>
        intro hok
        have hle := h pos hat
        refine ⟨pos, rfl, by omega, by omega, ?_⟩
        by_contra hne
        rw [compareIntegrity, if_neg hne] at hok
        cases hok

def cutIntegrity : Bytes :=
  stunHeaderBytes stunBindingRequest 24 (replicate 12 0)
    ++ (writeU16 0x8022 ++ writeU16 16 ++ replicate 16 0)
    ++ (writeU16 stunAttrMessageIntegrity ++ writeU16 20)

/-- It is read up to the 64th byte. -/
theorem cutIntegrity_overread :
    stunIntegrityAt cutIntegrity = some 40 ∧ cutIntegrity.length = 44
      ∧ ∀ hmac key, rtcStunVerifyChecked hmac cutIntegrity key = none := by
  have hat : stunIntegrityAt cutIntegrity = some 40 := by decide +kernel
  have hlen : cutIntegrity.length = 44 := by decide +kernel
  refine ⟨hat, hlen, fun hmac key => ?_⟩
  rw [rtcStunVerifyChecked_eq, hat, hlen]
  exact if_neg (by simp)

/-! ## Attributes -/

def stunAttrMappedAddress : Nat := 0x0001
def stunAttrXorMappedAddress : Nat := 0x0020

def stunFindAttrChecked (buf : Bytes) (attrType : Nat) : (fuel pos : Nat) → Option (Option Bytes)
  | 0, _ => none
  | fuel + 1, pos =>
    if buf.length < pos + 4 then some none
    else do
      let atype ← checkedU16 buf pos
      let alen ← checkedU16 buf (pos + 2)
      if buf.length < pos + 4 + alen then some none
      else if atype = attrType then (checkedBytes buf (pos + 4) alen).map some
      else stunFindAttrChecked buf attrType fuel (pos + 4 + stunPadded alen)

def stunReadAddress (msg : StunMsg) (xored : Bool) (alen pos : Nat) :
    Option (Except RtcErr RtcAddr) :=
  if alen < 8 then some (.error .invalid)
  else do
    let family ← checkedU8 msg.buf (pos + 1)
    let port ← checkedU16 msg.buf (pos + 2)
    let port := if xored then port ^^^ 0x2112 else port
    if family = 1 then do
      let ip ← checkedBytes msg.buf (pos + 4) 4
      some (.ok {
        family := .inet
        ip := if xored then writeU32 (readU32 ip 0 ^^^ stunMagicCookie) else ip
        port := port })
    else if family = 2 then
      if alen < 20 then some (.error .invalid)
      else do
        let ip ← checkedBytes msg.buf (pos + 4) 16
        some (.ok {
          family := .inet6
          ip := if xored then List.zipWith (· ^^^ ·) ip (writeU32 stunMagicCookie ++ msg.txnId)
            else ip
          port := port })
    else some (.error .invalid)

def stunMappedFrom (msg : StunMsg) : (fuel pos : Nat) → Option (Except RtcErr RtcAddr)
  | 0, _ => none
  | fuel + 1, pos =>
    if msg.buf.length < pos + 4 then some (.error .invalid)
    else do
      let atype ← checkedU16 msg.buf pos
      let alen ← checkedU16 msg.buf (pos + 2)
      if msg.buf.length < pos + 4 + alen then some (.error .invalid)
      else if atype = stunAttrXorMappedAddress ∨ atype = stunAttrMappedAddress then
        stunReadAddress msg (atype = stunAttrXorMappedAddress) alen (pos + 4)
      else stunMappedFrom msg fuel (pos + 4 + stunPadded alen)

def rtcStunGetMappedAddress (msg : StunMsg) : Option (Except RtcErr RtcAddr) :=
  stunMappedFrom msg msg.buf.length stunHeaderSize

/-- The attributes from `pos` on: each begins where the one before it, padded to four bytes, ends,
and the first that is not complete ends the sequence. -/
def stunAttrsFrom (buf : Bytes) (pos : Nat) : List StunAttr :=
  if _h : pos + 4 + readU16 buf (pos + 2) ≤ buf.length then
    { type := readU16 buf pos, value := (buf.drop (pos + 4)).take (readU16 buf (pos + 2)) }
      :: stunAttrsFrom buf (pos + 4 + (readU16 buf (pos + 2) + 3) / 4 * 4)
  else []
termination_by buf.length - pos
decreasing_by omega

theorem checkedU16_header (h : ¬ buf.length < pos + 4) :
    checkedU16 buf pos = some (readU16 buf pos)
      ∧ checkedU16 buf (pos + 2) = some (readU16 buf (pos + 2)) :=
  ⟨if_pos (by omega), if_pos (by omega)⟩

theorem stunFindAttrChecked_eq (hbuf : buf.length ≤ stunMaxMsgSize) (attrType : Nat) (fuel : Nat) :
    ∀ {pos : Nat}, 0 < fuel → buf.length < pos + fuel →
      stunFindAttrChecked buf attrType fuel pos = some (stunFindAttrFrom buf attrType fuel pos)
        ∧ stunFindAttrFrom buf attrType fuel pos
          = ((stunAttrsFrom buf pos).find? fun a => a.type = attrType).map StunAttr.value := by
  induction fuel with
  | zero => exact fun h => absurd h (Nat.lt_irrefl 0)
  | succ fuel ih =>
    intro pos _ hfuel
    unfold stunFindAttrChecked stunFindAttrFrom
    rw [stunAttrsFrom]
    by_cases h1 : buf.length < pos + 4
    · rw [dif_neg (by omega)]
      simp [h1]
    · obtain ⟨htype, hlen⟩ := checkedU16_header h1
      simp only [if_neg h1, htype, hlen, Option.bind_eq_bind, Option.bind_some]
      by_cases h2 : buf.length < pos + 4 + readU16 buf (pos + 2)
      · rw [dif_neg (by omega)]
        simp [h2]
      · rw [dif_pos (by omega)]
        by_cases h3 : readU16 buf pos = attrType
        · have hvalue : checkedBytes buf (pos + 4) (readU16 buf (pos + 2))
              = some ((buf.drop (pos + 4)).take (readU16 buf (pos + 2))) := if_pos (by omega)
          simp [h2, h3, hvalue]
        · -- a complete attribute of a stored message is too short for the padding to wrap
          have hpad : stunPadded (readU16 buf (pos + 2)) = (readU16 buf (pos + 2) + 3) / 4 * 4 := by
            unfold stunPadded stunMaxMsgSize at *
            omega
          simp only [if_neg h2, if_neg h3, find?_cons, decide_eq_false h3, hpad]
          exact ih (by omega) (by omega)

theorem stunReadAddress_isSome {msg : StunMsg} (xored : Bool) {alen : Nat}
    (h : pos + alen ≤ msg.buf.length) : (stunReadAddress msg xored alen pos).isSome = true := by
  unfold stunReadAddress
  by_cases h8 : alen < 8
  · simp [h8]
  · have hfamily : checkedU8 msg.buf (pos + 1) = some (byteAt msg.buf (pos + 1)) :=
      if_pos (by omega)
    have hport : checkedU16 msg.buf (pos + 2) = some (readU16 msg.buf (pos + 2)) :=
      if_pos (by omega)
    have hip : ∀ n ≤ alen - 4, checkedBytes msg.buf (pos + 4) n
        = some ((msg.buf.drop (pos + 4)).take n) := fun n hn => if_pos (by omega)
    simp only [if_neg h8, hfamily, hport, hip 4 (by omega), Option.bind_eq_bind, Option.bind_some]
    by_cases h1 : byteAt msg.buf (pos + 1) = 1
    · simp only [if_pos h1, Option.isSome_some]
    · by_cases h2 : byteAt msg.buf (pos + 1) = 2
      · by_cases h20 : alen < 20
        · simp only [if_neg h1, if_pos h2, if_pos h20, Option.isSome_some]
        · simp only [if_neg h1, if_pos h2, if_neg h20, hip 16 (by omega), Option.bind_some,
            Option.isSome_some]
      · simp only [if_neg h1, if_neg h2, Option.isSome_some]

theorem stunMappedFrom_isSome (msg : StunMsg) (fuel : Nat) :
    ∀ {pos : Nat}, 0 < fuel → msg.buf.length < pos + fuel →
      (stunMappedFrom msg fuel pos).isSome = true := by
  induction fuel with
  | zero => exact fun h => absurd h (Nat.lt_irrefl 0)
  | succ fuel ih =>
    intro pos _ hfuel
    unfold stunMappedFrom
    by_cases h1 : msg.buf.length < pos + 4
    · simp [h1]
    · obtain ⟨htype, hlen⟩ := checkedU16_header h1
      simp only [if_neg h1, htype, hlen, Option.bind_eq_bind, Option.bind_some]
      split_ifs with h2 h3
      · rfl
      · exact stunReadAddress_isSome _ (by omega)
      · exact ih (by omega) (by omega)

/-! ## The mapped address of a response -/

def rtcStunBuildBindingResponse (request : Bytes) (mappedAddr : RtcAddr) (outCap : Nat) :
    Except StunFault Bytes :=
  if request.length < stunHeaderSize then .error (.err .invalid)
  else if outCap < 128 then .error (.err .nomem)
  else
    match mappedAddr.family with
    | .inet => do
      let out ←
        appendAttr (replicate stunHeaderSize 0) outCap stunAttrXorMappedAddress
          ([0, 1] ++ writeU16 (mappedAddr.port ^^^ 0x2112)
            ++ writeU32 (readU32 mappedAddr.ip 0 ^^^ stunMagicCookie)) 8
      return writeStunHeader out stunBindingResponse (out.length - stunHeaderSize)
        ((request.drop 8).take stunTxnIdSize)
    | _ => .error (.err .invalid)

def xorMappedAttr (ip : Bytes) (port : Nat) : StunAttr :=
  { type := stunAttrXorMappedAddress
    value := [0, 1] ++ writeU16 (port ^^^ 0x2112) ++ writeU32 (readU32 ip 0 ^^^ stunMagicCookie) }

theorem xorMappedAttr_fits (ip : Bytes) (port : Nat) : (xorMappedAttr ip port).Fits :=
  ⟨show stunAttrXorMappedAddress < 2 ^ 16 by decide, by simp [xorMappedAttr]⟩

theorem stunAttrBytes_xorMappedAttr (ip : Bytes) (port : Nat) :
    stunAttrBytes [xorMappedAttr ip port]
      = writeU16 stunAttrXorMappedAddress ++ (writeU16 8 ++ (xorMappedAttr ip port).value) := by
  have hlen : (xorMappedAttr ip port).value.length = 8 := by simp [xorMappedAttr]
  rw [stunAttrBytes_cons, StunAttr.bytes, hlen]
  simp [stunPadded, xorMappedAttr]

theorem length_xorMappedAttr (ip : Bytes) (port : Nat) :
    (stunAttrBytes [xorMappedAttr ip port]).length = 12 := by
  rw [stunAttrBytes_xorMappedAttr]
  simp [xorMappedAttr]

theorem rtcStunBuildBindingResponse_eq {request : Bytes} (hrequest : stunHeaderSize ≤ request.length)
    (ip : Bytes) (port : Nat) {outCap : Nat} (hcap : 128 ≤ outCap) :
    rtcStunBuildBindingResponse request { family := .inet, ip := ip, port := port } outCap
      = .ok (stunMsg stunBindingResponse ((request.drop 8).take stunTxnIdSize)
          [xorMappedAttr ip port]).buf := by
  have hpad : stunPadded 8 = 8 := by decide
  have hroom : ¬ outCap < (replicate stunHeaderSize (0 : UInt8)).length + 4 + stunPadded 8 := by
    rw [length_replicate, hpad]
    unfold stunHeaderSize
    omega
  unfold rtcStunBuildBindingResponse appendAttr
  rw [if_neg (by omega), if_neg (by omega)]
  dsimp only
  rw [if_neg hroom, if_neg (by decide), hpad]
  have hvalue : ([0, 1] ++ writeU16 (port ^^^ 0x2112)
      ++ writeU32 (readU32 ip 0 ^^^ stunMagicCookie)).take 8 = (xorMappedAttr ip port).value :=
    take_of_length_le (by simp)
  simp only [hvalue, Nat.sub_self, replicate_zero, append_nil, bind, Except.bind, pure,
    Except.pure]
  rw [stunMsg, stunAttrBytes_xorMappedAttr, append_assoc, append_assoc,
    writeStunHeader_append (by rfl), length_behind_header (by rfl)]

theorem stunReadAddress_xorMappedAttr (htxn : txnId.length = 12) {ip : Bytes}
    (hip : ip.length = 4) {port : Nat} (hport : port < 2 ^ 16) :
    stunReadAddress (stunMsg stunBindingResponse txnId [xorMappedAttr ip port]) true 8 24
      = some (.ok { family := .inet, ip := ip, port := port }) := by
  obtain ⟨front, hfront, hbuf⟩ : ∃ front : Bytes, front.length = 24
      ∧ (stunMsg stunBindingResponse txnId [xorMappedAttr ip port]).buf
        = front ++ (xorMappedAttr ip port).value := by
    refine ⟨stunHeaderBytes stunBindingResponse 12 txnId
      ++ (writeU16 stunAttrXorMappedAddress ++ writeU16 8), ?_, ?_⟩
    · rw [length_append, @length_stunHeaderBytes stunBindingResponse txnId htxn]
      rfl
    · rw [stunMsg, length_xorMappedAttr, stunAttrBytes_xorMappedAttr]
      simp only [append_assoc]
  have hlen : (front ++ (xorMappedAttr ip port).value).length = 32 := by
    rw [length_append, hfront]
    rfl
  have hportx : port ^^^ 0x2112 < 2 ^ 16 := Nat.xor_lt_two_pow hport (by decide)
  have hipx : readU32 ip 0 ^^^ stunMagicCookie < 2 ^ 32 :=
    Nat.xor_lt_two_pow (readU32_lt ip 0) (by decide)
  have hunmask : ∀ a b : Nat, a ^^^ b ^^^ b = a := fun a b => by
    rw [Nat.xor_assoc, Nat.xor_self, Nat.xor_zero]
  have hfamily : byteAt (front ++ (xorMappedAttr ip port).value) (24 + 1) = 1 := by
    rw [byteAt_append_right (by omega), hfront]
    rfl
  have hreadPort : readU16 (front ++ (xorMappedAttr ip port).value) (24 + 2) = port ^^^ 0x2112 := by
    rw [readU16_append_right (by omega), hfront]
    exact readU16_writeU16 hportx []
  have hreadIp : ((front ++ (xorMappedAttr ip port).value).drop (24 + 4)).take 4
      = writeU32 (readU32 ip 0 ^^^ stunMagicCookie) := by
    rw [drop_append, hfront, drop_of_length_le (by omega)]
    rfl
  have hmask : readU32 (writeU32 (readU32 ip 0 ^^^ stunMagicCookie)) 0 ^^^ stunMagicCookie
      = readU32 ip 0 := by
    have hback := readU32_writeU32 hipx []
    rw [append_nil] at hback
    rw [hback, hunmask]
  unfold stunReadAddress checkedU8 checkedU16 checkedBytes
  rw [hbuf, hlen]
  simp only [hfamily, hreadPort, hreadIp]
  show some (Except.ok (RtcAddr.mk .inet (writeU32 _) (port ^^^ 0x2112 ^^^ 0x2112) 0)) = _
  rw [hmask, hunmask, writeU32_readU32 hip]

theorem rtcStunGetMappedAddress_response (htxn : txnId.length = 12) {ip : Bytes}
    (hip : ip.length = 4) {port : Nat} (hport : port < 2 ^ 16) :
    rtcStunGetMappedAddress (stunMsg stunBindingResponse txnId [xorMappedAttr ip port])
      = some (.ok { family := .inet, ip := ip, port := port }) := by
  have hread := stunReadAddress_xorMappedAttr htxn hip hport
  set msg := stunMsg stunBindingResponse txnId [xorMappedAttr ip port] with hmsg
  have hheader := @length_stunHeaderBytes stunBindingResponse txnId htxn
    (stunAttrBytes [xorMappedAttr ip port]).length
  have hbuf : msg.buf = stunHeaderBytes stunBindingResponse
      (stunAttrBytes [xorMappedAttr ip port]).length txnId
        ++ ((xorMappedAttr ip port).bytes ++ []) := rfl
  have hlen : msg.buf.length = 31 + 1 := by
    rw [hmsg, length_stunMsg htxn, length_xorMappedAttr]
  have hfits := xorMappedAttr_fits ip port
  have htype : readU16 msg.buf 20 = stunAttrXorMappedAddress := by
    have h := readU16_attr_type (stunHeaderBytes stunBindingResponse
      (stunAttrBytes [xorMappedAttr ip port]).length txnId) hfits []
    rwa [hheader, ← hbuf] at h
  have hvalue : readU16 msg.buf 22 = 8 := by
    have h := readU16_attr_length (stunHeaderBytes stunBindingResponse
      (stunAttrBytes [xorMappedAttr ip port]).length txnId) hfits []
    rw [hheader, ← hbuf] at h
    exact h
  have hroom : ¬ msg.buf.length < 20 + 4 := by omega
  obtain ⟨hchecked, hcheckedLen⟩ := checkedU16_header hroom
  unfold rtcStunGetMappedAddress stunHeaderSize
  rw [hlen, stunMappedFrom, if_neg (by omega), hchecked, hcheckedLen, htype, hvalue]
  simp only [Option.bind_eq_bind, Option.bind_some, true_or, if_true, decide_true]
  rw [if_neg (by omega)]
  exact hread

/-- **Access to attributes is safe and exact.** -/
theorem stunAccess_safe_exact :
    (∀ data msg, rtcStunParse data = .ok msg →
      (∀ attrType,
        stunFindAttrChecked msg.buf attrType msg.buf.length stunHeaderSize
            = some (rtcStunFindAttr msg attrType)
          ∧ rtcStunFindAttr msg attrType
            = ((stunAttrsFrom msg.buf stunHeaderSize).find? fun a => a.type = attrType).map
                StunAttr.value)
        ∧ (rtcStunGetMappedAddress msg).isSome = true)
      ∧ ∀ (request ip : Bytes) (port outCap : Nat), stunHeaderSize ≤ request.length →
        ip.length = 4 → port < 2 ^ 16 → 128 ≤ outCap →
        ∃ out msg,
          rtcStunBuildBindingResponse request { family := .inet, ip := ip, port := port } outCap
              = .ok out
            ∧ rtcStunParse out = .ok msg
            ∧ rtcStunGetMappedAddress msg
              = some (.ok { family := .inet, ip := ip, port := port }) := by
  constructor
  · intro data msg hparse
    have hlen : stunHeaderSize ≤ msg.buf.length ∧ msg.buf.length ≤ stunMaxMsgSize := by
      unfold rtcStunParse at hparse
      split_ifs at hparse
      cases hparse
      simp only [length_take]
      unfold stunHeaderSize stunMaxMsgSize at *
      omega
    obtain ⟨hge, hle⟩ := hlen
    unfold stunHeaderSize at *
    refine ⟨fun attrType => stunFindAttrChecked_eq hle attrType _ (by omega) (by omega), ?_⟩
    exact stunMappedFrom_isSome msg _ (by omega) (by unfold stunHeaderSize; omega)
  · intro request ip port outCap hrequest hip hport hcap
    have htxn : ((request.drop 8).take stunTxnIdSize).length = 12 := by
      rw [length_take, length_drop]
      unfold stunHeaderSize stunTxnIdSize at *
      omega
    refine ⟨_, _, rtcStunBuildBindingResponse_eq hrequest ip port hcap,
      rtcStunParse_stunMsg (by decide) htxn ?_, rtcStunGetMappedAddress_response htxn hip hport⟩
    rw [length_xorMappedAttr]
    decide

/-! ## Lengths -/

def turnChannelDataHeader : Nat := 4
def turnChannelMin : Nat := 0x4000
def turnChannelMax : Nat := 0x7FFF

def rtcTurnBuildChannelData (buflen channel : Nat) (data : Bytes) : Except StunFault Bytes :=
  let padded := (data.length + 3) % 2 ^ 64 / 4 * 4
  if buflen < (turnChannelDataHeader + padded) % 2 ^ 64 then .error (.err .nomem)
  else if channel < turnChannelMin ∨ turnChannelMax < channel then .error (.err .invalid)
  else if buflen < turnChannelDataHeader + data.length then .error .overrun
  else
    .ok (writeU16 channel ++ (writeU16 data.length
      ++ (data ++ replicate (padded - data.length) 0)))

def rtcTurnParseChannelData (buf : Bytes) : Except RtcErr (Nat × Bytes) :=
  if buf.length < turnChannelDataHeader then .error .invalid
  else if readU16 buf 0 < turnChannelMin ∨ turnChannelMax < readU16 buf 0 then .error .invalid
  else if buf.length < turnChannelDataHeader + readU16 buf 2 then .error .invalid
  else .ok (readU16 buf 0, (buf.drop turnChannelDataHeader).take (readU16 buf 2))

/-- The builder reports an error, or what it built is read back. -/
def ErrorOr {β : Type} (r : Except StunFault β) (readBack : β → Prop) : Prop :=
  match r with
  | .error (.err _) => True
  | .error .overrun => False
  | .ok built => readBack built

def StunMsg.Holds (attrType : Nat) (value : Bytes) (msg : StunMsg) : Prop :=
  msg.buf.length ≤ stunMaxMsgSize ∧ rtcStunFindAttr msg attrType = some value

theorem stunFindAttrFrom_length (fuel : Nat) :
    ∀ {pos : Nat}, stunFindAttrFrom buf attrType fuel pos = some value →
      value.length ≤ buf.length := by
  induction fuel with
  | zero => exact fun h => by cases h
  | succ fuel ih =>
    intro pos h
    unfold stunFindAttrFrom at h
    split_ifs at h
    · cases h
      rw [length_take, length_drop]
      omega
    · exact ih h

theorem StunMsg.Holds.short {msg : StunMsg} (h : msg.Holds attrType value) :
    value.length < 65533 := by
  have hle := stunFindAttrFrom_length _ h.2
  have hbuf := h.1
  unfold stunMaxMsgSize at hbuf
  omega

theorem Built.errorOr {r : Except StunFault StunMsg} {type : Nat} (htxn : txnId.length = 12)
    {as : List StunAttr} (h : Built r type txnId as) (has : ∀ a ∈ as, a.Fits)
    (hfind : (as.find? fun a => a.type = attrType).map StunAttr.value = some value) :
    ErrorOr r (StunMsg.Holds attrType value) := by
  rcases h with ⟨rfl, -⟩ | ⟨rfl, hroom⟩
  · trivial
  · refine ⟨?_, ?_⟩
    · rw [length_stunMsg htxn]
      exact hroom
    · rw [rtcStunFindAttr_stunMsg htxn has, hfind]

/-- A value that is too long for its length field is never found again, so that only an error is
left, which is returned if there is no room. -/
theorem errorOr_iff {r : Except StunFault StunMsg} {full : Prop}
    (h : value.length < 65533 → ErrorOr r (StunMsg.Holds attrType value))
    (herror : 65533 ≤ value.length → ((∃ code, r = .error (.err code)) ↔ full)) :
    ErrorOr r (StunMsg.Holds attrType value) ↔ value.length < 65533 ∨ full := by
  by_cases hshort : value.length < 65533
  · exact ⟨fun _ => .inl hshort, fun _ => h hshort⟩
  rw [or_iff_right hshort, ← herror (Nat.not_lt.mp hshort)]
  constructor
  · intro hr
    match r, hr with
    | .error (.err code), _ => exact ⟨code, rfl⟩
    | .ok msg, hr => exact absurd (StunMsg.Holds.short hr) hshort
  · rintro ⟨code, rfl⟩
    trivial

theorem stunAddAttr_error_iff (msg : StunMsg) (attrType : Nat) (value : Bytes) :
    (∃ code, stunAddAttr msg attrType value = .error (.err code))
      ↔ stunMaxMsgSize < msg.buf.length + 4 + stunPadded (value.length % 2 ^ 16) := by
  unfold stunAddAttr appendValue appendAttr
  split_ifs with hroom hover
  · exact iff_of_true ⟨_, rfl⟩ hroom
  · exact iff_of_false (fun ⟨_, h⟩ => by cases h) hroom
  · exact iff_of_false (fun ⟨_, h⟩ => by cases h) hroom

theorem stunAddAttr_errorOr_iff {type : Nat} (htxn : txnId.length = 12)
    {as : List StunAttr} (htype : attrType < 2 ^ 16) (has : ∀ a ∈ as, a.Fits ∧ a.type ≠ attrType) :
    ErrorOr (stunAddAttr (stunMsg type txnId as) attrType value) (StunMsg.Holds attrType value)
      ↔ value.length < 65533
        ∨ stunMaxMsgSize
          < (stunMsg type txnId as).buf.length + 4 + stunPadded (value.length % 2 ^ 16) := by
  refine errorOr_iff (fun hshort => ?_) fun _ => stunAddAttr_error_iff ..
  refine (stunAddAttr_built htxn attrType hshort).errorOr htxn ?_ ?_
  · simpa [or_imp, forall_and] using ⟨fun a ha => (has a ha).1, ⟨htype, hshort⟩⟩
  · have hnone : as.find? (fun a => decide (a.type = attrType)) = none := by
      simpa [find?_eq_none] using fun a ha => (has a ha).2
    simp [find?_append, hnone]

theorem rtcTurnParseChannelData_build {buflen channel : Nat} {data : Bytes}
    (hshort : data.length < 2 ^ 16) :
    ErrorOr (rtcTurnBuildChannelData buflen channel data) fun out =>
      out.length ≤ buflen ∧ rtcTurnParseChannelData out = .ok (channel, data) := by
  unfold rtcTurnBuildChannelData turnChannelDataHeader turnChannelMin turnChannelMax
  dsimp only
  split_ifs with h1 h2 h3
  · trivial
  · trivial
  · omega
  · generalize hpad : (data.length + 3) % 2 ^ 64 / 4 * 4 - data.length = pad
    have hchannel : readU16 (writeU16 channel ++ (writeU16 data.length
        ++ (data ++ replicate pad 0))) 0 = channel := readU16_writeU16 (by omega) _
    have hlength : readU16 (writeU16 channel ++ (writeU16 data.length
        ++ (data ++ replicate pad 0))) 2 = data.length := by
      rw [readU16_append_right (by simp)]
      exact readU16_writeU16 hshort _
    constructor
    · simp only [length_append, writeU16_length, length_replicate]
      omega
    · unfold rtcTurnParseChannelData turnChannelDataHeader turnChannelMin turnChannelMax
      rw [hchannel, hlength, if_neg (by simp; omega), if_neg h2, if_neg (by simp; omega)]
      have hdrop : (writeU16 channel ++ (writeU16 data.length
          ++ (data ++ replicate pad 0))).drop 4 = data ++ replicate pad 0 := rfl
      rw [hdrop, take_left]

/-- The bytes of a binding request, where the length of the username is counted in 16 bits. -/
def bindingRequestSize (username : Bytes) (password : Option Bytes) (priority : Nat)
    (useCandidate : Bool) (tieBreaker : Nat) : Nat :=
  stunHeaderSize + (4 + stunPadded (username.length % 2 ^ 16)) + (if 0 < priority then 8 else 0)
    + (if useCandidate then 4 else 0) + (if 0 < tieBreaker then 12 else 0)
    + (if password.isSome then 24 else 0) + 8

/-- The attributes of a binding request up to the fingerprint. -/
def passwordAttrs (hmac : Bytes → Bytes → Bytes) (txnId : Bytes) (password : Option Bytes)
    (as : List StunAttr) : List StunAttr :=
  as ++ password.toList.map fun key => integrityAttr hmac key stunBindingRequest txnId as

theorem length_requestAttrs {username : Bytes} (hshort : username.length < 65533) (priority : Nat)
    (useCandidate : Bool) (tieBreaker : Nat) (controlling : Bool) :
    (stunAttrBytes
        (requestAttrs (some username) priority useCandidate tieBreaker controlling)).length
      = 4 + stunPadded username.length + (if 0 < priority then 8 else 0)
        + (if useCandidate then 4 else 0) + (if 0 < tieBreaker then 12 else 0) := by
  have hname := @StunAttr.length_bytes ⟨stunAttrUsername, username⟩ hshort
  simp only [requestAttrs, stunAttrBytes_append, length_append]
  congr 1
  · congr 1
    · congr 1
      · simpa [stunAttrBytes] using hname
      · by_cases hp : 0 < priority <;> simp [hp, stunAttrBytes, StunAttr.bytes, stunPadded]
    · cases useCandidate <;> simp [stunAttrBytes, StunAttr.bytes, stunPadded]
  · by_cases ht : 0 < tieBreaker <;> simp [ht, stunAttrBytes, StunAttr.bytes, stunPadded, writeU64]

section BindingRequest

variable {hmac : Bytes → Bytes → Bytes} (hhmac : ∀ key data, (hmac key data).length = 20)
  (htxn : txnId.length = 12) {username : Bytes} (hshort : username.length < 65533)
  (password : Option Bytes) (priority : Nat) (useCandidate : Bool) (tieBreaker : Nat)
  (controlling : Bool)

include hhmac htxn hshort

theorem rtcStunBuildBindingRequest_exact :
    let bs := passwordAttrs hmac txnId password
      (requestAttrs (some username) priority useCandidate tieBreaker controlling)
    Built
      (rtcStunBuildBindingRequest hmac (some username) password priority useCandidate tieBreaker
        controlling txnId)
      stunBindingRequest txnId (bs ++ [fingerprintAttr stunBindingRequest txnId bs])
    ∧ (∀ a ∈ bs, a.Fits)
    ∧ 20 + (stunAttrBytes (bs ++ [fingerprintAttr stunBindingRequest txnId bs])).length
      = bindingRequestSize username password priority useCandidate tieBreaker := by
  intro bs
  have hname : ∀ name ∈ some username, name.length < 65533 := by simpa using hshort
  have hunsealed := requestAttrs_unsealed hname priority useCandidate tieBreaker controlling
  have hlength := length_requestAttrs hshort priority useCandidate tieBreaker controlling
  unfold bindingRequestSize
  rw [length_stunAttrBytes_fingerprint, Nat.mod_eq_of_lt (by omega)]
  cases password with
  | none =>
    have hbs : bs = requestAttrs (some username) priority useCandidate tieBreaker controlling :=
      append_nil _
    rw [hbs, hlength]
    refine ⟨?_, hunsealed.fits, by simp only [stunHeaderSize, Option.isSome_none]; simp; omega⟩
    exact rtcStunBuildBindingRequest_appended hname none priority useCandidate tieBreaker
      controlling htxn length_replicate le_rfl fun buf hbuf hroom => by
        rw [appendPassword, hbuf]
        exact .pure (hbuf ▸ hroom)
  | some password =>
    refine ⟨rtcStunBuildBindingRequest_built hhmac hname password priority useCandidate tieBreaker
      controlling htxn, ?_, ?_⟩
    · simpa [bs, passwordAttrs, or_imp, forall_and] using
        ⟨hunsealed.fits, integrityAttr_fits hhmac password⟩
    · have hintegrity := @StunAttr.length_bytes
        (integrityAttr hmac password stunBindingRequest txnId
          (requestAttrs (some username) priority useCandidate tieBreaker controlling))
        (integrityAttr_fits hhmac password).length_lt
      have hvalue : (integrityAttr hmac password stunBindingRequest txnId
          (requestAttrs (some username) priority useCandidate tieBreaker controlling)).value.length
          = 20 := hhmac _ _
      rw [hvalue] at hintegrity
      have hbs : (stunAttrBytes bs).length = _ + (4 + stunPadded 20) :=
        (congrArg List.length (stunAttrBytes_concat _ _)).trans
          (by rw [length_append, hlength, hintegrity])
      rw [hbs]
      simp only [stunHeaderSize, Option.isSome_some, if_true, show stunPadded 20 = 20 from rfl]
      omega

end BindingRequest

theorem rtcStunBuildBindingRequest_errorOr_iff {hmac : Bytes → Bytes → Bytes}
    (hhmac : ∀ key data, (hmac key data).length = 20) (htxn : txnId.length = 12)
    (username : Bytes) (password : Option Bytes) (priority : Nat) (useCandidate : Bool)
    (tieBreaker : Nat) (controlling : Bool) :
    ErrorOr
      (rtcStunBuildBindingRequest hmac (some username) password priority useCandidate tieBreaker
        controlling txnId)
      (StunMsg.Holds stunAttrUsername username)
      ↔ username.length < 65533
        ∨ stunMaxMsgSize
          < bindingRequestSize username password priority useCandidate tieBreaker := by
  refine errorOr_iff (fun hshort => ?_) fun hlong => ?_
  · obtain ⟨hbuilt, hfits, -⟩ := rtcStunBuildBindingRequest_exact hhmac htxn hshort password
      priority useCandidate tieBreaker controlling
    refine hbuilt.errorOr htxn ?_ rfl
    simpa [or_imp, forall_and] using ⟨hfits, fingerprintAttr_fits⟩
  · have hcut : rtcStunBuildBindingRequest hmac (some username) password priority useCandidate
        tieBreaker controlling txnId = rtcStunBuildBindingRequest hmac (some (stunCut username))
        password priority useCandidate tieBreaker controlling txnId := by
      unfold rtcStunBuildBindingRequest
      rw [appendUsername, appendValue_stunCut]
      rfl
    have hlength := length_stunCut username
    by_cases hshort : (stunCut username).length < 65533
    · obtain ⟨hbuilt, -, hsize⟩ := rtcStunBuildBindingRequest_exact hhmac htxn hshort password
        priority useCandidate tieBreaker controlling
      rw [bindingRequestSize, hlength, Nat.mod_mod, ← bindingRequestSize] at hsize
      rw [hcut]
      obtain ⟨hstop, hfull⟩ | ⟨hok, hroom⟩ := hbuilt
      · exact iff_of_true ⟨_, hstop⟩ (hsize ▸ hfull)
      · refine iff_of_false ?_ (by rw [← hsize]; omega)
        rintro ⟨_, h⟩
        rw [hok] at h
        cases h
    · -- the padded length is 0, so that the name is written over the end of the buffer
      have hpadded : stunPadded (username.length % 2 ^ 16) = 0 := by
        unfold stunPadded
        omega
      refine iff_of_false ?_ ?_
      · rintro ⟨code, h⟩
        have hover : appendUsername (replicate stunHeaderSize 0) (some username)
            = .error .overrun := by
          rw [appendUsername, appendValue, appendAttr, hpadded, if_neg (by decide),
            if_pos (by omega)]
        rw [rtcStunBuildBindingRequest, hover] at h
        cases h
      · unfold bindingRequestSize stunHeaderSize stunMaxMsgSize
        rw [hpadded]
        split_ifs <;> omega

/-- What `rtc_turn_build_channel_data` refuses: a buffer that is too small for the padded data, or a
number that is none of a channel. -/
def ChannelRefused (buflen channel : Nat) (data : Bytes) : Prop :=
  buflen < (turnChannelDataHeader + (data.length + 3) % 2 ^ 64 / 4 * 4) % 2 ^ 64
    ∨ channel < turnChannelMin ∨ turnChannelMax < channel

theorem rtcTurnBuildChannelData_error_iff (buflen channel : Nat) (data : Bytes) :
    (∃ code, rtcTurnBuildChannelData buflen channel data = .error (.err code))
      ↔ ChannelRefused buflen channel data := by
  unfold rtcTurnBuildChannelData ChannelRefused
  dsimp only
  split_ifs with hroom hchannel hover
  · exact iff_of_true ⟨_, rfl⟩ (.inl hroom)
  · exact iff_of_true ⟨_, rfl⟩ (.inr hchannel)
  · exact iff_of_false (fun ⟨_, h⟩ => by cases h) (by tauto)
  · exact iff_of_false (fun ⟨_, h⟩ => by cases h) (by tauto)

def stunTextBuilders : List ((StunMsg → Bytes → Except StunFault StunMsg) × Nat) :=
  [(rtcStunAddUsername, stunAttrUsername), (rtcStunAddRealm, stunAttrRealm),
    (rtcStunAddNonce, stunAttrNonce)]

/-- **The length fields are right if and only if** the string has less than 65533 bytes or there is
no room for what its length is cut to, and the channel data has less than 65536 bytes or is refused
for the buffer's size or the channel. -/
theorem lengthFields_exact_iff {hmac : Bytes → Bytes → Bytes}
    (hhmac : ∀ key data, (hmac key data).length = 20) {txnId : Bytes}
    (htxn : txnId.length = stunTxnIdSize) :
    (∀ builder ∈ stunTextBuilders, ∀ (type : Nat) (as : List StunAttr) (value : Bytes),
      (∀ a ∈ as, a.Fits ∧ a.type ≠ builder.2) →
      (ErrorOr (builder.1 (stunMsg type txnId as) value) (StunMsg.Holds builder.2 value)
        ↔ value.length < 65533
          ∨ stunMaxMsgSize
            < (stunMsg type txnId as).buf.length + 4 + stunPadded (value.length % 2 ^ 16)))
    ∧ (∀ (username : Bytes) (password : Option Bytes) (priority : Nat) (useCandidate : Bool)
        (tieBreaker : Nat) (controlling : Bool),
      ErrorOr (rtcStunBuildBindingRequest hmac (some username) password priority useCandidate
          tieBreaker controlling txnId) (StunMsg.Holds stunAttrUsername username)
        ↔ username.length < 65533
          ∨ stunMaxMsgSize
            < bindingRequestSize username password priority useCandidate tieBreaker)
    ∧ ∀ (buflen channel : Nat) (data : Bytes),
      (ErrorOr (rtcTurnBuildChannelData buflen channel data)
          (fun out => out.length ≤ buflen ∧ rtcTurnParseChannelData out = .ok (channel, data))
        ↔ data.length < 2 ^ 16 ∨ ChannelRefused buflen channel data) := by
  refine ⟨fun builder hbuilder type as value has => ?_,
    rtcStunBuildBindingRequest_errorOr_iff hhmac htxn, fun buflen channel data => ?_⟩
  · simp only [stunTextBuilders, mem_cons, not_mem_nil, or_false] at hbuilder
    rcases hbuilder with rfl | rfl | rfl
    · exact stunAddAttr_errorOr_iff htxn (by decide) has
    · exact stunAddAttr_errorOr_iff htxn (by decide) has
    · exact stunAddAttr_errorOr_iff htxn (by decide) has
  · rw [← rtcTurnBuildChannelData_error_iff]
    constructor
    · intro h
      match hbuild : rtcTurnBuildChannelData buflen channel data, h with
      | .error (.err code), _ => exact .inr ⟨code, rfl⟩
      | .ok out, ⟨_, hparse⟩ =>
        left
        unfold rtcTurnParseChannelData at hparse
        split_ifs at hparse
        cases hparse
        have hlt := readU16_lt out 2
        rw [length_take]
        omega
    · rintro (hshort | ⟨code, hbuild⟩)
      · exact rtcTurnParseChannelData_build hshort
      · rw [hbuild]
        trivial

theorem shortName_exact :
    ErrorOr (rtcStunBuildBindingRequest keyedPad (some [0x61]) none 0 false 0 false
      (replicate 12 7)) (StunMsg.Holds stunAttrUsername [0x61]) :=
  have htxn : (replicate 12 (7 : UInt8)).length = stunTxnIdSize := by decide
  ((lengthFields_exact_iff length_keyedPad htxn).2.1 [0x61] none 0 false 0 false).mpr
    (.inl (by decide))

/-- Of 65539 bytes three are written, 65533 bytes are written over the buffer's end, and of 65536
bytes of channel data none is read back. -/
theorem longLengths_wrap :
    (∃ msg, rtcStunAddUsername (rtcStunBuildRequest 3 (replicate 12 7))
        (replicate 65539 0x61) = .ok msg
      ∧ rtcStunFindAttr msg stunAttrUsername = some [0x61, 0x61, 0x61])
    ∧ rtcStunAddRealm (rtcStunBuildRequest 3 (replicate 12 7)) (replicate 65533 0x61)
      = .error .overrun
    ∧ ∃ out, rtcTurnBuildChannelData 70000 0x4000 (replicate 65536 0) = .ok out
      ∧ rtcTurnParseChannelData out = .ok (0x4000, []) := by
  refine ⟨?_, ?_, ?_⟩
  · have hcut : rtcStunAddUsername (rtcStunBuildRequest 3 (replicate 12 7))
        (replicate 65539 0x61)
        = rtcStunAddUsername (rtcStunBuildRequest 3 (replicate 12 7))
          (replicate 3 0x61) := by
      simp only [rtcStunAddUsername, stunAddAttr, appendValue, appendAttr, length_replicate,
        take_replicate]
      rfl
    rw [hcut]
    exact ⟨_, rfl, by decide +kernel⟩
  · have hlen : (replicate 65533 (0x61 : UInt8)).length % 2 ^ 16 = 65533 := by
      rw [length_replicate]
      rfl
    have hover : appendValue (rtcStunBuildRequest 3 (replicate 12 7)).buf stunAttrRealm
        (replicate 65533 0x61) = .error .overrun := by
      rw [appendValue, appendAttr, hlen, if_neg (by decide), if_pos (by decide)]
    rw [rtcStunAddRealm, stunAddAttr, hover]
    rfl
  · generalize hdata : replicate 65536 (0 : UInt8) = data
    have hlen : data.length = 65536 := by rw [← hdata, length_replicate]
    refine ⟨writeU16 0x4000 ++ (writeU16 data.length ++ (data ++ [])), ?_, ?_⟩
    · unfold rtcTurnBuildChannelData
      rw [hlen]
      rfl
    · have hchannel : readU16 (writeU16 0x4000 ++ (writeU16 data.length ++ (data ++ []))) 0
          = 0x4000 := readU16_writeU16 (by decide) _
      have hfield : readU16 (writeU16 0x4000 ++ (writeU16 data.length ++ (data ++ []))) 2 = 0 := by
        rw [hlen]
        simp [readU16, writeU16, byteAt]
      unfold rtcTurnParseChannelData turnChannelDataHeader
      rw [hchannel, hfield, if_neg (by simp; omega), if_neg (by decide), if_neg (by simp; omega),
        take_zero]

end Mrtc
