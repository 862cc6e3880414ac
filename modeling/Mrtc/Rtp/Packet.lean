import Mrtc.Basic.Err
import Mrtc.Lib.Bytes

/-! # RTP packets (`rtc_rtp.c`, `rtc_rtp_ext.c`)

Building and parsing a packet, with the one-byte-form extension block.
-/

namespace Mrtc

open Net List

def rtpHeaderSize : Nat := 12
def rtpMaxPacket : Nat := 1400
def rtpMaxExtLen : Nat := 64
def rtpBufSize : Nat := rtpMaxPacket + rtpHeaderSize + rtpMaxExtLen + 16

/-! ## Header extensions -/

structure RtpExt where
  id : Nat
  data : Bytes
  deriving DecidableEq

def rtpExtMaxData : Nat := 16

def rtcRtpExtMakeTransportCc (id : Nat) (seq : UInt16) : RtpExt := ⟨id, writeU16 seq.toNat⟩

def rtpExtBody (cap : Nat) : List RtpExt → Bytes → Except RtcErr Bytes
  | [], body => .ok body
  | e :: es, body =>
    if e.id < 1 ∨ 14 < e.id then .error .invalid
    else if e.data.length < 1 ∨ rtpExtMaxData < e.data.length then .error .invalid
    else if cap < 4 + body.length + 1 + e.data.length then .error .invalid
    else
      rtpExtBody cap es
        (body ++ [UInt8.ofNat (e.id * 16 + (e.data.length - 1))] ++ e.data)

def rtcRtpExtWriteBlock (cap : Nat) (exts : List RtpExt) : Except RtcErr Bytes :=
  if cap < 4 then .error .invalid
  else
    match rtpExtBody cap exts [] with
    | .error e => .error e
    | .ok body =>
      let pad := (4 - body.length % 4) % 4
      if cap < 4 + body.length + pad then .error .invalid
      else
        .ok ([0xBE, 0xDE] ++ writeU16 ((body.length + pad) / 4) ++ body
          ++ replicate pad 0)

/-! ## Packets -/

structure RtpHeader where
  version : Nat
  padding : Bool
  extension : Bool
  csrcCount : Nat
  marker : Bool
  payloadType : Nat
  seq : UInt16
  timestamp : UInt32
  ssrc : UInt32
  deriving DecidableEq

structure RtpPacket where
  header : RtpHeader
  payload : Bytes
  extData : Option Bytes
  extLen : Nat
  buf : Option Bytes
  deriving DecidableEq

def rtpHeaderBytes (pt : Nat) (seq : UInt16) (ts ssrc : UInt32) (marker ext : Bool) : Bytes :=
  [if ext then 0x90 else 0x80, UInt8.ofNat (pt % 128 + if marker then 128 else 0)]
    ++ writeU16 seq.toNat ++ writeU32 ts.toNat ++ writeU32 ssrc.toNat

def rtcRtpBuildWithExt (pt : Nat) (seq : UInt16) (ts ssrc : UInt32) (marker : Bool)
    (exts : List RtpExt) (payload : Bytes) : Except RtcErr RtpPacket :=
  if rtpMaxPacket < payload.length then .error .invalid
  else
    let header : RtpHeader :=
      { version := 2, padding := false, extension := !exts.isEmpty, csrcCount := 0,
        marker := marker, payloadType := pt, seq := seq, timestamp := ts, ssrc := ssrc }
    let fixed := rtpHeaderBytes pt seq ts ssrc marker (!exts.isEmpty)
    if exts.isEmpty then .ok ⟨header, payload, none, 0, some (fixed ++ payload)⟩
    else
      match rtcRtpExtWriteBlock rtpMaxExtLen exts with
      | .error e => .error e
      | .ok block =>
        .ok ⟨header, payload, some (block.drop 4), block.length - 4,
          some (fixed ++ block ++ payload)⟩

def rtcRtpBuild (pt : Nat) (seq : UInt16) (ts ssrc : UInt32) (marker : Bool) (payload : Bytes) :
    Except RtcErr RtpPacket :=
  rtcRtpBuildWithExt pt seq ts ssrc marker [] payload

def readRtpHeader (data : Bytes) : RtpHeader :=
  { version := byteAt data 0 / 64
    padding := (byteAt data 0).testBit 5
    extension := (byteAt data 0).testBit 4
    csrcCount := byteAt data 0 % 16
    marker := (byteAt data 1).testBit 7
    payloadType := byteAt data 1 % 128
    seq := UInt16.ofNat (readU16 data 2)
    timestamp := UInt32.ofNat (readU32 data 4)
    ssrc := UInt32.ofNat (readU32 data 8) }

def rtpParseLengths (h : RtpHeader) (data : Bytes) : Except RtcErr (Nat × Nat) :=
  let hdrLen := rtpHeaderSize + h.csrcCount * 4
  if h.extension then
    if data.length < hdrLen + 4 then .error .invalid
    else
      let extBytes := readU16 data (hdrLen + 2) * 4
      if data.length < hdrLen + 4 + extBytes then .error .invalid
      else .ok (hdrLen + 4 + extBytes, extBytes)
  else if data.length < hdrLen then .error .invalid
  else .ok (hdrLen, 0)

def rtcRtpParse (data : Bytes) : Except RtcErr RtpPacket :=
  if data.length < rtpHeaderSize then .error .invalid
  else
    let h := readRtpHeader data
    if h.version ≠ 2 then .error .invalid
    else
      match rtpParseLengths h data with
      | .error e => .error e
      | .ok (hdrLen, extLen) =>
        let copied := decide (data.length ≤ rtpBufSize)
        let extOffset := rtpHeaderSize + h.csrcCount * 4 + 4
        .ok { header := h
              payload := data.drop hdrLen
              extData := if copied && h.extension && decide (0 < extLen) then
                some ((data.drop extOffset).take extLen) else none
              extLen := extLen
              buf := if copied then some data else none }

/-! ## Round trip -/

theorem rtpExtBody_length {cap : Nat} {es : List RtpExt} {body out : Bytes}
    (h : rtpExtBody cap es body = .ok out) : body.length + 2 * es.length ≤ out.length := by
  induction es generalizing body with
  | nil =>
    obtain rfl := Except.ok.inj h
    simp
  | cons e es ih =>
    rw [rtpExtBody] at h
    split_ifs at h with h1 h2 h3
    have := ih h
    simp only [length_append, length_cons, length_nil] at this ⊢
    omega

theorem rtcRtpExtWriteBlock_length {exts : List RtpExt} {block : Bytes} (hne : exts ≠ [])
    (h : rtcRtpExtWriteBlock rtpMaxExtLen exts = .ok block) :
    4 < block.length ∧ block.length ≤ rtpMaxExtLen ∧
      readU16 block 2 * 4 = block.length - 4 := by
  unfold rtcRtpExtWriteBlock at h
  rw [if_neg (by decide)] at h
  cases hb : rtpExtBody rtpMaxExtLen exts [] with
  | error e => rw [hb] at h; cases h
  | ok body =>
    rw [hb] at h
    dsimp only at h
    have hlen := rtpExtBody_length hb
    have hpos : 0 < exts.length := length_pos_of_ne_nil hne
    rw [length_nil] at hlen
    split_ifs at h with hcap
    obtain rfl := Except.ok.inj h
    have hread : readU16 ([0xBE, 0xDE] ++ writeU16 ((body.length + (4 - body.length % 4) % 4) / 4)
        ++ body ++ replicate ((4 - body.length % 4) % 4) 0) 2
        = (body.length + (4 - body.length % 4) % 4) / 4 := by
      rw [append_assoc, append_assoc, readU16_append_right (by simp)]
      refine readU16_writeU16 ?_ _
      unfold rtpMaxExtLen at hcap
      omega
    rw [hread]
    simp only [length_append, length_cons, length_nil, writeU16_length,
      length_replicate]
    omega

@[simp] theorem rtpHeaderBytes_length (pt : Nat) (seq : UInt16) (ts ssrc : UInt32)
    (marker ext : Bool) : (rtpHeaderBytes pt seq ts ssrc marker ext).length = 12 := rfl

theorem readRtpHeader_append (pt : Nat) (seq : UInt16) (ts ssrc : UInt32)
    (marker ext : Bool) (rest : Bytes) :
    readRtpHeader (rtpHeaderBytes pt seq ts ssrc marker ext ++ rest)
      = { version := 2, padding := false, extension := ext, csrcCount := 0, marker := marker,
          payloadType := pt % 128, seq := seq, timestamp := ts, ssrc := ssrc } := by
  have h0 : byteAt (rtpHeaderBytes pt seq ts ssrc marker ext ++ rest) 0
      = if ext then 144 else 128 := by cases ext <;> rfl
  have h1 : byteAt (rtpHeaderBytes pt seq ts ssrc marker ext ++ rest) 1
      = pt % 128 + if marker then 128 else 0 := by
    show (UInt8.ofNat (pt % 128 + if marker then 128 else 0)).toNat = _
    rw [UInt8.toNat_ofNat']
    cases marker
    · simp
      omega
    · simp
      omega
  have h2 : readU16 (rtpHeaderBytes pt seq ts ssrc marker ext ++ rest) 2 = seq.toNat := by
    rw [readU16_append_left (by simp)]
    unfold rtpHeaderBytes
    rw [append_assoc, append_assoc, readU16_append_right (by simp)]
    exact readU16_writeU16 seq.toNat_lt _
  have h4 : readU32 (rtpHeaderBytes pt seq ts ssrc marker ext ++ rest) 4 = ts.toNat := by
    rw [readU32_append_left (by simp)]
    unfold rtpHeaderBytes
    rw [append_assoc, readU32_append_right (by simp)]
    exact readU32_writeU32 ts.toNat_lt _
  have h8 : readU32 (rtpHeaderBytes pt seq ts ssrc marker ext ++ rest) 8 = ssrc.toNat := by
    rw [readU32_append_left (by simp)]
    unfold rtpHeaderBytes
    rw [readU32_append_right (by simp), ← append_nil (writeU32 ssrc.toNat)]
    exact readU32_writeU32 ssrc.toNat_lt _
  unfold readRtpHeader
  rw [h0, h1, h2, h4, h8]
  cases ext <;> cases marker <;> simp [Nat.testBit] <;> omega

theorem rtcRtpParse_eq {data : Bytes} {h : RtpHeader} {hdrLen extLen : Nat}
    (hlen : rtpHeaderSize ≤ data.length) (hh : readRtpHeader data = h) (hv : h.version = 2)
    (hl : rtpParseLengths h data = .ok (hdrLen, extLen)) (hcopied : data.length ≤ rtpBufSize) :
    rtcRtpParse data = .ok
      { header := h
        payload := data.drop hdrLen
        extData := if h.extension && decide (0 < extLen) then
          some ((data.drop (rtpHeaderSize + h.csrcCount * 4 + 4)).take extLen) else none
        extLen := extLen
        buf := some data } := by
  unfold rtcRtpParse
  rw [if_neg (by omega)]
  simp only [hh, hl]
  rw [if_neg (by simp [hv])]
  simp only [decide_eq_true hcopied, Bool.true_and, if_true]

/-- **Round trip**: parsing the serialised packet gives the packet back. -/
theorem rtcRtpParse_build {pt : Nat} {seq : UInt16} {ts ssrc : UInt32}
    {marker : Bool} {exts : List RtpExt} {payload : Bytes} {pkt : RtpPacket}
    (h : rtcRtpBuildWithExt pt seq ts ssrc marker exts payload = .ok pkt) :
    ∃ bytes, pkt.buf = some bytes ∧ rtcRtpParse bytes
      = .ok { pkt with header := { pkt.header with payloadType := pt % 128 } } := by
  unfold rtcRtpBuildWithExt at h
  split_ifs at h with hlen hempty
  · -- no extension: the payload follows the fixed header
    obtain rfl := Except.ok.inj h
    refine ⟨_, rfl, ?_⟩
    have hfalse : (!exts.isEmpty) = false := by rw [hempty]; rfl
    rw [hfalse]
    set fixed := rtpHeaderBytes pt seq ts ssrc marker false with hfixed
    have hfl : fixed.length = 12 := rfl
    have hdata : (fixed ++ payload).length = 12 + payload.length := by
      rw [length_append, hfl]
    have hh := readRtpHeader_append pt seq ts ssrc marker false payload
    rw [← hfixed] at hh
    have hlens : rtpParseLengths
        { version := 2, padding := false, extension := false, csrcCount := 0, marker := marker,
          payloadType := pt % 128, seq := seq, timestamp := ts, ssrc := ssrc }
        (fixed ++ payload) = .ok (12, 0) := by
      simp [rtpParseLengths, rtpHeaderSize, hdata]
    rw [rtcRtpParse_eq (by unfold rtpHeaderSize; omega) hh rfl hlens
      (by unfold rtpBufSize rtpHeaderSize; omega), drop_left' hfl]
    rfl
  · have hne : exts ≠ [] := by
      rintro rfl
      exact hempty rfl
    have htrue : (!exts.isEmpty) = true := by simpa using hempty
    cases hblock : rtcRtpExtWriteBlock rtpMaxExtLen exts with
    | error e => rw [hblock] at h; cases h
    | ok block =>
      rw [hblock] at h
      obtain rfl := Except.ok.inj h
      obtain ⟨hmin, hmax, hwords⟩ := rtcRtpExtWriteBlock_length hne hblock
      refine ⟨_, rfl, ?_⟩
      rw [htrue, append_assoc]
      set fixed := rtpHeaderBytes pt seq ts ssrc marker true with hfixed
      have hfl : fixed.length = 12 := rfl
      have hdata : (fixed ++ (block ++ payload)).length
          = 12 + block.length + payload.length := by
        rw [length_append, length_append, hfl, Nat.add_assoc]
      have hext : readU16 (fixed ++ (block ++ payload)) 14 * 4 = block.length - 4 := by
        rw [readU16_append_right (by omega), hfl, readU16_append_left (by omega)]
        exact hwords
      have hlens : rtpParseLengths
          { version := 2, padding := false, extension := true, csrcCount := 0, marker := marker,
            payloadType := pt % 128, seq := seq, timestamp := ts, ssrc := ssrc }
          (fixed ++ (block ++ payload)) = .ok (12 + block.length, block.length - 4) := by
        simp only [rtpParseLengths, rtpHeaderSize, if_true, Nat.zero_mul, Nat.add_zero, hdata, hext]
        rw [if_neg (by omega), if_neg (by omega),
          show 12 + 4 + (block.length - 4) = 12 + block.length by omega]
      have hpayload : (fixed ++ (block ++ payload)).drop (12 + block.length) = payload := by
        rw [← append_assoc]
        exact drop_left' (by rw [length_append, hfl])
      have hview : ((fixed ++ (block ++ payload)).drop (rtpHeaderSize + 0 * 4 + 4)).take
          (block.length - 4) = block.drop 4 := by
        rw [show rtpHeaderSize + 0 * 4 + 4 = 12 + 4 from rfl, ← drop_drop,
          drop_left' hfl, drop_append_of_le_length (by omega),
          take_left' (by rw [length_drop])]
      have hh := readRtpHeader_append pt seq ts ssrc marker true (block ++ payload)
      rw [← hfixed] at hh
      rw [rtcRtpParse_eq (by unfold rtpHeaderSize; omega) hh rfl hlens
        (by unfold rtpBufSize rtpHeaderSize; omega), hpayload]
      dsimp only
      rw [hview, Bool.true_and, decide_eq_true (show 0 < block.length - 4 by omega), if_pos rfl]

end Mrtc
