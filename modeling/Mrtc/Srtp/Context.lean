import Mrtc.Lib.Rollover
import Mrtc.Srtp.Crypto
import Mrtc.Srtp.Table

/-! # SRTP contexts: protect and unprotect (`rtc_srtp.c`)

The four entry points of the source as functions of the context and the packet.
-/

namespace Mrtc

open Net

structure SrtpCtx where
  keys : SrtpKeys
  srtcpIndex : Nat := 0
  rtpSend : StreamTable := .empty
  rtpReplay : StreamTable := .empty
  rtcpReplay : StreamTable := .empty
  sendLruTick : Nat := 0
  replayLruTick : Nat := 0
  initialized : Bool := false

def rtcSrtpInitProfile (cr : Crypto) (fault : Option RtcErr) (profile : SrtpProfile)
    (masterKey masterSalt : Bytes) : Except RtcErr SrtpCtx :=
  match fault with
  | some e => .error e
  | none => .ok { keys := deriveKeys cr profile masterKey masterSalt, initialized := true }

def srtpRtpHeaderLen (buf : Bytes) (len : Nat) : Except RtcErr Nat :=
  let hdrLen := 12 + byteAt buf 0 % 16 * 4
  if (byteAt buf 0).testBit 4 then
    if len < hdrLen + 4 then .error .invalid
    else
      let hdrLen := hdrLen + (4 + readU16 buf (hdrLen + 2) * 4)
      if len < hdrLen then .error .invalid else .ok hdrLen
  else if len < hdrLen then .error .invalid
  else .ok hdrLen

def rtpSeq (buf : Bytes) : Nat := readU16 buf 2
def rtpSsrc (buf : Bytes) : Nat := readU32 buf 8
def rtcpSsrc (buf : Bytes) : Nat := readU32 buf 4

def seqHalf : Nat := 2 ^ 15

/-! ## Sending RTP -/

/-- The update of an entry by a packet being sent: nothing but the flag for the first packet,
the counter advances when the sequence number wrapped. -/
def StreamEntry.advance (st : StreamEntry) (seq : Nat) : StreamEntry :=
  if !st.rocInit then { st with rocInit := true, lastSeq := seq }
  else if Rollover.rolledOver seqHalf st.lastSeq seq then
    { st with roc := (st.roc + 1) % 2 ^ 32, lastSeq := seq }
  else { st with lastSeq := seq }

def sendRollover (ctx : SrtpCtx) (ssrc seq : Nat) : Nonce × SrtpCtx :=
  let slot := srtpEntryForSsrc ctx.rtpSend ctx.sendLruTick ssrc
  let st := slot.entry.advance seq
  (⟨ssrc, st.roc, seq⟩, { ctx with rtpSend := slot.put st, sendLruTick := slot.tick })

def srtpProtectGcm (cr : Crypto) (ev : EvpFault) (ctx : SrtpCtx) (buf : Bytes) (bufCap : Nat) :
    Except RtcErr Bytes × SrtpCtx :=
  if bufCap < buf.length ∨ bufCap - buf.length < srtpGcmTagLen then (.error .nomem, ctx)
  else
    let (nonce, ctx) := sendRollover ctx (rtpSsrc buf) (rtpSeq buf)
    match srtpRtpHeaderLen buf buf.length with
    | .error _ => (.error .invalid, ctx)
    | .ok hdrLen =>
      let iv := srtpGcmRtpIv ctx.keys.sessionSalt nonce
      match srtpAesGcmEncrypt cr ev (srtpGcmCipher ctx.keys) ctx.keys.sessionKey iv
          (buf.take hdrLen) (buf.drop hdrLen) with
      | .error e => (.error e, ctx)
      | .ok (cipher, tag) => (.ok (buf.take hdrLen ++ cipher ++ tag), ctx)

def rtcSrtpProtect (cr : Crypto) (ev : EvpFault) (ctx : SrtpCtx) (buf : Bytes) (bufCap : Nat) :
    Except RtcErr Bytes × SrtpCtx :=
  if !ctx.initialized then (.error .srtp, ctx)
  else if buf.length < 12 then (.error .invalid, ctx)
  else if srtpIsGcm ctx.keys.profile then srtpProtectGcm cr ev ctx buf bufCap
  else if bufCap < buf.length ∨ bufCap - buf.length < srtpAuthTagLen then (.error .nomem, ctx)
  else
    let (nonce, ctx) := sendRollover ctx (rtpSsrc buf) (rtpSeq buf)
    match srtpRtpHeaderLen buf buf.length with
    | .error _ => (.error .invalid, ctx)
    | .ok hdrLen =>
      match srtpAesCm cr ev ctx.keys.sessionKey ctx.keys.sessionSalt nonce (buf.drop hdrLen) with
      | .error e => (.error e, ctx)
      | .ok cipher =>
        let body := buf.take hdrLen ++ cipher
        match srtpHmacSha1 cr ev ctx.keys.sessionAuthKey body (writeU32 nonce.roc) with
        | .error e => (.error e, ctx)
        | .ok hmac => (.ok (body ++ hmac.take srtpAuthTagLen), ctx)

/-! ## Receiving RTP -/

def srtpEstimateRoc (known : Option StreamEntry) (seq : Nat) : Nat :=
  match known with
  | none => 0
  | some st =>
    if st.rocInit && Rollover.rolledOver seqHalf st.lastSeq seq then (st.roc + 1) % 2 ^ 32
    else st.roc

def StreamEntry.rollForward (st : StreamEntry) (roc seq : Nat) : StreamEntry :=
  if !st.rocInit || decide (st.lastSeq < seq) || decide (seqHalf < st.lastSeq - seq) then
    { st with lastSeq := seq, roc := roc, rocInit := true }
  else st

def pktIndex (roc seq : Nat) : Nat := roc * 2 ^ 16 + seq

def estimatedRoc (ctx : SrtpCtx) (buf : Bytes) : Nat :=
  srtpEstimateRoc (srtpFindSsrc ctx.rtpReplay (rtpSsrc buf)) (rtpSeq buf)

def recvIndex (ctx : SrtpCtx) (buf : Bytes) : Nat :=
  pktIndex (estimatedRoc ctx buf) (rtpSeq buf)

def recvSlot (ctx : SrtpCtx) (buf : Bytes) : Slot :=
  srtpEntryForSsrc ctx.rtpReplay ctx.replayLruTick (rtpSsrc buf)

def SrtpCtx.withRtpReplay (ctx : SrtpCtx) (t : StreamTable) (tick : Nat) : SrtpCtx :=
  { ctx with rtpReplay := t, replayLruTick := tick }

def srtpOpenGcm (cr : Crypto) (ev : EvpFault) (k : SrtpKeys) (roc : Nat) (buf : Bytes) :
    Except RtcErr Bytes :=
  if buf.length < 12 + srtpGcmTagLen then .error .invalid
  else
    match srtpRtpHeaderLen buf (buf.length - srtpGcmTagLen) with
    | .error _ => .error .invalid
    | .ok hdrLen =>
      (srtpAesGcmDecrypt cr ev (srtpGcmCipher k) k.sessionKey
        (srtpGcmRtpIv k.sessionSalt ⟨rtpSsrc buf, roc, rtpSeq buf⟩) (buf.take hdrLen)
        ((buf.take (buf.length - srtpGcmTagLen)).drop hdrLen)
        (buf.drop (buf.length - srtpGcmTagLen))).map (buf.take hdrLen ++ ·)

def srtpUnprotectGcm (cr : Crypto) (ev : EvpFault) (ctx : SrtpCtx) (buf : Bytes) :
    Except RtcErr Bytes × SrtpCtx :=
  match srtpOpenGcm cr ev ctx.keys (estimatedRoc ctx buf) buf with
  | .error e => (.error e, ctx)
  | .ok packet =>
    let slot := recvSlot ctx buf
    match srtpReplayCheck slot.entry.replay (recvIndex ctx buf) with
    | .error e => (.error e, ctx.withRtpReplay slot.table slot.tick)
    | .ok replay =>
      let st := { slot.entry with replay := replay }
      (.ok packet,
        ctx.withRtpReplay (slot.put (st.rollForward (estimatedRoc ctx buf) (rtpSeq buf)))
          slot.tick)

def srtpCheckTagCm (cr : Crypto) (ev : EvpFault) (k : SrtpKeys) (roc : Nat) (buf : Bytes) :
    Except RtcErr Unit :=
  if buf.length < 12 + srtpAuthTagLen then .error .invalid
  else
    match srtpHmacSha1 cr ev k.sessionAuthKey (buf.take (buf.length - srtpAuthTagLen))
        (writeU32 roc) with
    | .error e => .error e
    | .ok hmac =>
      if hmac.take srtpAuthTagLen ≠ buf.drop (buf.length - srtpAuthTagLen) then .error .srtp
      else .ok ()

def srtpDecryptCm (cr : Crypto) (ev : EvpFault) (k : SrtpKeys) (roc : Nat) (buf : Bytes) :
    Except RtcErr Bytes :=
  match srtpRtpHeaderLen buf (buf.length - srtpAuthTagLen) with
  | .error _ => .error .invalid
  | .ok hdrLen =>
    (srtpAesCm cr ev k.sessionKey k.sessionSalt ⟨rtpSsrc buf, roc, rtpSeq buf⟩
      ((buf.take (buf.length - srtpAuthTagLen)).drop hdrLen)).map (buf.take hdrLen ++ ·)

def rtcSrtpUnprotect (cr : Crypto) (ev : EvpFault) (ctx : SrtpCtx) (buf : Bytes) :
    Except RtcErr Bytes × SrtpCtx :=
  if !ctx.initialized then (.error .srtp, ctx)
  else if srtpIsGcm ctx.keys.profile then srtpUnprotectGcm cr ev ctx buf
  else
    match srtpCheckTagCm cr ev ctx.keys (estimatedRoc ctx buf) buf with
    | .error e => (.error e, ctx)
    | .ok () =>
      let slot := recvSlot ctx buf
      match srtpReplayCheck slot.entry.replay (recvIndex ctx buf) with
      | .error e => (.error e, ctx.withRtpReplay slot.table slot.tick)
      | .ok replay =>
        let st := { slot.entry with replay := replay }
        -- the window is already updated when the header or the cipher fails
        match srtpDecryptCm cr ev ctx.keys (estimatedRoc ctx buf) buf with
        | .error e => (.error e, ctx.withRtpReplay (slot.put st) slot.tick)
        | .ok packet =>
          (.ok packet,
            ctx.withRtpReplay
              (slot.put (st.rollForward (estimatedRoc ctx buf) (rtpSeq buf))) slot.tick)

/-! ## SRTCP -/

def srtcpWireIndex (index : Nat) : Nat := index % 2 ^ 31

def srtcpEIndex (index : Nat) : Nat := srtcpWireIndex index + 2 ^ 31

def srtpProtectRtcpGcm (cr : Crypto) (ev : EvpFault) (ctx : SrtpCtx) (buf : Bytes)
    (bufCap : Nat) : Except RtcErr Bytes × SrtpCtx :=
  if bufCap < buf.length ∨ bufCap - buf.length < srtpGcmTagLen + 4 then (.error .nomem, ctx)
  else
    let index := srtcpWireIndex ctx.srtcpIndex
    let trailer := writeU32 (srtcpEIndex ctx.srtcpIndex)
    let iv := srtpGcmRtcpIv ctx.keys.rtcpSessionSalt (rtcpSsrc buf) index
    match srtpAesGcmEncrypt cr ev (srtpGcmCipher ctx.keys) ctx.keys.rtcpSessionKey iv
        (buf.take 8 ++ trailer) (buf.drop 8) with
    | .error e => (.error e, ctx)
    | .ok (cipher, tag) =>
      (.ok (buf.take 8 ++ cipher ++ tag ++ trailer),
        { ctx with srtcpIndex := (ctx.srtcpIndex + 1) % 2 ^ 32 })

def rtcSrtpProtectRtcp (cr : Crypto) (ev : EvpFault) (ctx : SrtpCtx) (buf : Bytes)
    (bufCap : Nat) : Except RtcErr Bytes × SrtpCtx :=
  if !ctx.initialized then (.error .srtp, ctx)
  else if buf.length < 8 then (.error .invalid, ctx)
  else if srtpIsGcm ctx.keys.profile then srtpProtectRtcpGcm cr ev ctx buf bufCap
  else if bufCap < buf.length ∨ bufCap - buf.length < 4 + srtpAuthTagLen then
    (.error .nomem, ctx)
  else
    let index := srtcpWireIndex ctx.srtcpIndex
    -- an 8-byte packet has nothing to encrypt and skips the cipher
    match (if 8 < buf.length then
        srtcpAesCm cr ev ctx.keys.rtcpSessionKey ctx.keys.rtcpSessionSalt (rtcpSsrc buf) index
          (buf.drop 8)
      else .ok []) with
    | .error e => (.error e, ctx)
    | .ok cipher =>
      let body := buf.take 8 ++ cipher ++ writeU32 (srtcpEIndex ctx.srtcpIndex)
      match srtpHmacSha1 cr ev ctx.keys.rtcpSessionAuthKey body [] with
      | .error e => (.error e, ctx)
      | .ok hmac =>
        (.ok (body ++ hmac.take srtpAuthTagLen),
          { ctx with srtcpIndex := (ctx.srtcpIndex + 1) % 2 ^ 32 })

def rtcpEIndex (k : SrtpKeys) (buf : Bytes) : Nat :=
  if srtpIsGcm k.profile then readU32 buf (buf.length - 4)
  else readU32 buf (buf.length - srtpAuthTagLen - 4)

def rtcpEncrypted (k : SrtpKeys) (buf : Bytes) : Bool := (rtcpEIndex k buf).testBit 31

def rtcpIndex (k : SrtpKeys) (buf : Bytes) : Nat := srtcpWireIndex (rtcpEIndex k buf)

def rtcpSlot (ctx : SrtpCtx) (buf : Bytes) : Slot :=
  srtpEntryForSsrc ctx.rtcpReplay ctx.replayLruTick (rtcpSsrc buf)

def SrtpCtx.withRtcpReplay (ctx : SrtpCtx) (t : StreamTable) (tick : Nat) : SrtpCtx :=
  { ctx with rtcpReplay := t, replayLruTick := tick }

def srtcpOpenGcm (cr : Crypto) (ev : EvpFault) (k : SrtpKeys) (buf : Bytes) :
    Except RtcErr Bytes :=
  if buf.length < 8 + srtpGcmTagLen + 4 then .error .invalid
  else
    let idxOff := buf.length - 4
    let tagOff := idxOff - srtpGcmTagLen
    let iv := srtpGcmRtcpIv k.rtcpSessionSalt (rtcpSsrc buf) (rtcpIndex k buf)
    if rtcpEncrypted k buf then
      (srtpAesGcmDecrypt cr ev (srtpGcmCipher k) k.rtcpSessionKey iv
        (buf.take 8 ++ buf.drop idxOff) ((buf.take tagOff).drop 8)
        ((buf.take idxOff).drop tagOff)).map (buf.take 8 ++ ·)
    else
      (srtpAesGcmDecrypt cr ev (srtpGcmCipher k) k.rtcpSessionKey iv
        (buf.take tagOff ++ buf.drop idxOff) []
        ((buf.take idxOff).drop tagOff)).map fun _ => buf.take tagOff

def srtpUnprotectRtcpGcm (cr : Crypto) (ev : EvpFault) (ctx : SrtpCtx) (buf : Bytes) :
    Except RtcErr Bytes × SrtpCtx :=
  match srtcpOpenGcm cr ev ctx.keys buf with
  | .error e => (.error e, ctx)
  | .ok packet =>
    let slot := rtcpSlot ctx buf
    match srtpReplayCheck slot.entry.replay (rtcpIndex ctx.keys buf) with
    | .error e => (.error e, ctx.withRtcpReplay slot.table slot.tick)
    | .ok replay =>
      (.ok packet,
        ctx.withRtcpReplay (slot.put { slot.entry with replay := replay }) slot.tick)

def srtcpCheckTagCm (cr : Crypto) (ev : EvpFault) (k : SrtpKeys) (buf : Bytes) :
    Except RtcErr Unit :=
  if buf.length < 8 + 4 + srtpAuthTagLen then .error .invalid
  else
    match srtpHmacSha1 cr ev k.rtcpSessionAuthKey (buf.take (buf.length - srtpAuthTagLen)) [] with
    | .error e => .error e
    | .ok hmac =>
      if hmac.take srtpAuthTagLen ≠ buf.drop (buf.length - srtpAuthTagLen) then .error .srtp
      else .ok ()

def srtcpDecryptCm (cr : Crypto) (ev : EvpFault) (k : SrtpKeys) (buf : Bytes) :
    Except RtcErr Bytes :=
  let rtcpLen := buf.length - srtpAuthTagLen - 4
  if rtcpEncrypted k buf && decide (8 < rtcpLen) then
    (srtcpAesCm cr ev k.rtcpSessionKey k.rtcpSessionSalt (rtcpSsrc buf) (rtcpIndex k buf)
      ((buf.take rtcpLen).drop 8)).map (buf.take 8 ++ ·)
  else .ok (buf.take rtcpLen)

def rtcSrtpUnprotectRtcp (cr : Crypto) (ev : EvpFault) (ctx : SrtpCtx) (buf : Bytes) :
    Except RtcErr Bytes × SrtpCtx :=
  if !ctx.initialized then (.error .srtp, ctx)
  else if srtpIsGcm ctx.keys.profile then srtpUnprotectRtcpGcm cr ev ctx buf
  else
    match srtcpCheckTagCm cr ev ctx.keys buf with
    | .error e => (.error e, ctx)
    | .ok () =>
      let slot := rtcpSlot ctx buf
      match srtpReplayCheck slot.entry.replay (rtcpIndex ctx.keys buf) with
      | .error e => (.error e, ctx.withRtcpReplay slot.table slot.tick)
      | .ok replay =>
        (srtcpDecryptCm cr ev ctx.keys buf,
          ctx.withRtcpReplay (slot.put { slot.entry with replay := replay }) slot.tick)

end Mrtc
