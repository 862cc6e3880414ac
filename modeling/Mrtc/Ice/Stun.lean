import Mrtc.Basic.Err
import Mrtc.Lib.Bytes

/-! # STUN messages (`rtc_stun.c`)

What the listener and the transports read of a STUN message: its header, the value of an attribute,
the user fragment in front of the colon of USERNAME, and whether its MESSAGE-INTEGRITY verifies
under a key.
-/

namespace Mrtc

open Net

def stunBindingRequest : Nat := 0x0001
def stunBindingResponse : Nat := 0x0101
def stunAttrUsername : Nat := 0x0006
def stunAttrMessageIntegrity : Nat := 0x0008
def stunMagicCookie : Nat := 0x2112A442
def stunHeaderSize : Nat := 20
def stunTxnIdSize : Nat := 12
def stunMaxMsgSize : Nat := 1500

structure StunMsg where
  type : Nat
  length : Nat
  txnId : Bytes
  buf : Bytes
  deriving DecidableEq

def rtcStunParse (data : Bytes) : Except RtcErr StunMsg :=
  if data.length < stunHeaderSize then .error .invalid
  else if readU32 data 4 ≠ stunMagicCookie then .error .invalid
  else if data.length < stunHeaderSize + readU16 data 2 then .error .invalid
  else
    .ok
      { type := readU16 data 0
        length := readU16 data 2
        txnId := (data.drop 8).take stunTxnIdSize
        buf := data.take (min (stunHeaderSize + readU16 data 2) stunMaxMsgSize) }

def stunPadded (alen : Nat) : Nat := (alen + 3) / 4 * 4 % 2 ^ 16

def stunFindAttrFrom (buf : Bytes) (attrType : Nat) : (fuel pos : Nat) → Option Bytes
  | 0, _ => none
  | fuel + 1, pos =>
    if buf.length < pos + 4 then none
    else if buf.length < pos + 4 + readU16 buf (pos + 2) then none
    else if readU16 buf pos = attrType then some ((buf.drop (pos + 4)).take (readU16 buf (pos + 2)))
    else stunFindAttrFrom buf attrType fuel (pos + 4 + stunPadded (readU16 buf (pos + 2)))

def rtcStunFindAttr (msg : StunMsg) (attrType : Nat) : Option Bytes :=
  stunFindAttrFrom msg.buf attrType msg.buf.length stunHeaderSize

def usernameLocalUfrag (msg : StunMsg) : Except RtcErr Bytes :=
  match rtcStunFindAttr msg stunAttrUsername with
  | none => .error .invalid
  | some attr =>
    let front := attr.takeWhile (· != 0x3A)
    if front.length = 0 then .error .invalid else .ok ((front.take 127).takeWhile (· != 0))

def stunVerifyFrom (hmac : Bytes → Bytes → Bytes) (data key : Bytes) (limit : Nat) :
    (fuel pos : Nat) → Except RtcErr Unit
  | 0, _ => .error .invalid
  | fuel + 1, pos =>
    if limit < pos + 4 then .error .invalid
    else if readU16 data pos = stunAttrMessageIntegrity then
      if readU16 data (pos + 2) ≠ 20 then .error .invalid
      else if stunMaxMsgSize < pos then .error .invalid
      else if hmac key (data.take 2 ++ writeU16 (pos - stunHeaderSize + 24) ++ (data.take pos).drop 4)
          = (data.drop (pos + 4)).take 20 then .ok ()
      else .error .invalid
    else stunVerifyFrom hmac data key limit fuel (pos + 4 + stunPadded (readU16 data (pos + 2)))

def rtcStunVerifyIntegrityKey (hmac : Bytes → Bytes → Bytes) (data key : Bytes) :
    Except RtcErr Unit :=
  if data.length < stunHeaderSize + 24 then .error .invalid
  else
    stunVerifyFrom hmac data key (min (stunHeaderSize + readU16 data 2) data.length) data.length
      stunHeaderSize

def stunVerifies (hmac : Bytes → Bytes → Bytes) (data password : Bytes) : Bool :=
  (rtcStunVerifyIntegrityKey hmac data password).isOk

end Mrtc
