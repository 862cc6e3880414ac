import Mrtc.Basic.Err
import Mrtc.Lib.Bytes

/-! # Ciphers, initialisation vectors and session keys (`rtc_srtp.c`)

OpenSSL is a parameter: `Crypto` holds the functions the code calls, `EvpFault` says which of
the OpenSSL calls made during one packet fail, and with what code.
-/

namespace Mrtc

open Net List

inductive SrtpProfile where
  | aes128CmSha1_80
  | aeadAes128Gcm
  | aeadAes256Gcm
  deriving DecidableEq

def srtpAuthTagLen : Nat := 10
def srtpGcmTagLen : Nat := 16
def srtpMaxKeyLen : Nat := 32
def srtpMaxSaltLen : Nat := 14

def srtpIsGcm : SrtpProfile → Bool
  | .aes128CmSha1_80 => false
  | .aeadAes128Gcm => true
  | .aeadAes256Gcm => true

structure Crypto where
  aesEcb : (aes256 : Bool) → (key block : Bytes) → Bytes
  hmacSha1 : (key data : Bytes) → Bytes
  aesCtr : (key iv data : Bytes) → Bytes
  gcmEncrypt : (aes256 : Bool) → (key iv aad data : Bytes) → Bytes × Bytes
  gcmDecrypt : (aes256 : Bool) → (key iv aad data tag : Bytes) → Option Bytes

structure Crypto.Lawful (cr : Crypto) : Prop where
  hmac_length : ∀ key data, (cr.hmacSha1 key data).length = 20
  ctr_length : ∀ key iv data, (cr.aesCtr key iv data).length = data.length
  ctr_inverse : ∀ key iv data, cr.aesCtr key iv (cr.aesCtr key iv data) = data
  gcm_length : ∀ big key iv aad data, (cr.gcmEncrypt big key iv aad data).1.length = data.length
  gcm_tag_length : ∀ big key iv aad data,
    (cr.gcmEncrypt big key iv aad data).2.length = srtpGcmTagLen
  gcm_inverse : ∀ big key iv aad data,
    cr.gcmDecrypt big key iv aad (cr.gcmEncrypt big key iv aad data).1
      (cr.gcmEncrypt big key iv aad data).2 = some data

def toyCrypto : Crypto where
  aesEcb _ _ block := block
  hmacSha1 _ data := (data.reverse ++ replicate 20 0).take 20
  aesCtr _ _ data := data.map (· ^^^ 0x5A)
  gcmEncrypt _ _ iv _ data :=
    (data.map (· ^^^ 0x5A), (iv ++ replicate srtpGcmTagLen 0).take srtpGcmTagLen)
  gcmDecrypt _ _ iv _ data tag :=
    if tag = (iv ++ replicate srtpGcmTagLen 0).take srtpGcmTagLen then
      some (data.map (· ^^^ 0x5A))
    else none

theorem map_xor_map_xor (k : UInt8) (data : Bytes) : (data.map (· ^^^ k)).map (· ^^^ k) = data := by
  rw [map_map]
  have h : ((· ^^^ k) ∘ (· ^^^ k) : UInt8 → UInt8) = id := by
    funext b
    show b ^^^ k ^^^ k = b
    rw [UInt8.xor_assoc, UInt8.xor_self, UInt8.xor_zero]
  rw [h, map_id]

theorem toyCrypto_lawful : toyCrypto.Lawful where
  hmac_length key data := by simp [toyCrypto]
  ctr_length key iv data := by simp [toyCrypto]
  ctr_inverse key iv data := map_xor_map_xor 0x5A data
  gcm_length big key iv aad data := by simp [toyCrypto]
  gcm_tag_length big key iv aad data := by simp [toyCrypto, srtpGcmTagLen]
  gcm_inverse big key iv aad data :=
    (if_pos rfl).trans (congrArg some (map_xor_map_xor 0x5A data))

structure EvpFault where
  cipher : Option RtcErr := none
  mac : Option RtcErr := none
  deriving DecidableEq

def srtpHmacSha1 (cr : Crypto) (ev : EvpFault) (key data1 data2 : Bytes) : Except RtcErr Bytes :=
  match ev.mac with
  | some e => .error e
  | none => .ok (cr.hmacSha1 key (data1 ++ data2))

/-! ## Initialisation vectors -/

structure Nonce where
  ssrc : Nat
  roc : Nat
  seq : Nat
  deriving DecidableEq

def xorSalt (n : Nat) (salt x : Bytes) : Bytes :=
  x.mapIdx fun i b => if i < n then b ^^^ salt.getD i 0 else b

def srtpAesCmIv (salt : Bytes) (n : Nonce) : Bytes :=
  xorSalt 14 salt
    ([0, 0, 0, 0] ++ writeU32 n.ssrc ++ writeU32 n.roc ++ writeU16 n.seq ++ [0, 0])

def srtcpAesCmIv (salt : Bytes) (ssrc index : Nat) : Bytes :=
  xorSalt 14 salt ([0, 0, 0, 0] ++ writeU32 ssrc ++ writeU32 index ++ [0, 0, 0, 0])

def srtpGcmRtpIv (salt : Bytes) (n : Nonce) : Bytes :=
  xorSalt 12 salt ([0, 0] ++ writeU32 n.ssrc ++ writeU32 n.roc ++ writeU16 n.seq)

def srtpGcmRtcpIv (salt : Bytes) (ssrc index : Nat) : Bytes :=
  xorSalt 12 salt ([0, 0] ++ writeU32 ssrc ++ [0, 0] ++ writeU32 index)

/-! ## The cipher wrappers -/

def aesCmWith (cr : Crypto) (ev : EvpFault) (key iv data : Bytes) : Except RtcErr Bytes :=
  match ev.cipher with
  | some e => .error e
  | none => .ok (cr.aesCtr key iv data)

def srtpAesCm (cr : Crypto) (ev : EvpFault) (key salt : Bytes) (n : Nonce) (data : Bytes) :
    Except RtcErr Bytes :=
  aesCmWith cr ev key (srtpAesCmIv salt n) data

def srtcpAesCm (cr : Crypto) (ev : EvpFault) (key salt : Bytes) (ssrc index : Nat)
    (data : Bytes) : Except RtcErr Bytes :=
  aesCmWith cr ev key (srtcpAesCmIv salt ssrc index) data

def srtpAesGcmEncrypt (cr : Crypto) (ev : EvpFault) (aes256 : Bool) (key iv aad data : Bytes) :
    Except RtcErr (Bytes × Bytes) :=
  match ev.cipher with
  | some e => .error e
  | none => .ok (cr.gcmEncrypt aes256 key iv aad data)

def srtpAesGcmDecrypt (cr : Crypto) (ev : EvpFault) (aes256 : Bool)
    (key iv aad data tag : Bytes) : Except RtcErr Bytes :=
  match ev.cipher with
  | some e => .error e
  | none =>
    match cr.gcmDecrypt aes256 key iv aad data tag with
    | none => .error .srtp
    | some plain => .ok plain

/-! ## Key derivation -/

def srtpKdf (cr : Crypto) (masterKey masterSalt : Bytes) (label : UInt8) (outLen : Nat) : Bytes :=
  let padded := masterSalt.take 14 ++ replicate (14 - masterSalt.length) 0
  let x := padded.set 7 (padded.getD 7 0 ^^^ label)
  ((range ((outLen + 15) / 16)).flatMap fun block =>
    cr.aesEcb (decide (32 ≤ masterKey.length)) masterKey (x ++ writeU16 block)).take outLen

structure SrtpKeys where
  profile : SrtpProfile
  keyLen : Nat
  sessionKey : Bytes
  sessionSalt : Bytes
  sessionAuthKey : Bytes
  rtcpSessionKey : Bytes
  rtcpSessionSalt : Bytes
  rtcpSessionAuthKey : Bytes
  deriving DecidableEq

def deriveKeys (cr : Crypto) (profile : SrtpProfile) (masterKey masterSalt : Bytes) : SrtpKeys :=
  let key := masterKey.take srtpMaxKeyLen
  let salt := masterSalt.take srtpMaxSaltLen
  let authKey := fun label =>
    if profile = .aes128CmSha1_80 then srtpKdf cr key salt label 20 else replicate 20 0
  { profile := profile
    keyLen := key.length
    sessionKey := srtpKdf cr key salt 0x00 key.length
    sessionSalt := srtpKdf cr key salt 0x02 salt.length
    sessionAuthKey := authKey 0x01
    rtcpSessionKey := srtpKdf cr key salt 0x03 key.length
    rtcpSessionSalt := srtpKdf cr key salt 0x05 salt.length
    rtcpSessionAuthKey := authKey 0x04 }

def srtpGcmCipher (k : SrtpKeys) : Bool := decide (32 ≤ k.keyLen)

end Mrtc
