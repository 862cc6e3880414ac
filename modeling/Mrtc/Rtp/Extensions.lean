import Mrtc.Rtp.Packet

/-! # Header extensions are read back (`rtc_rtp_ext.c`)

`rtc_rtp_ext_parse_body` reads the elements of an extension block.
-/

namespace Mrtc

open Net List

/-! ## Reading the elements of a block -/

def rtpExtElements (cap : Nat) : (fuel : Nat) → Bytes → List RtpExt → Except RtcErr (List RtpExt)
  | 0, _, out => .ok out
  | _ + 1, [], out => .ok out
  | fuel + 1, b :: rest, out =>
    -- padding
    if b = 0 then rtpExtElements cap fuel rest out
    else
      let id := b.toNat / 16
      let len := b.toNat % 16 + 1
      -- the id that says stop
      if id = 15 then .ok out
      else if rest.length < len then .error .invalid
      else
        rtpExtElements cap fuel (rest.drop len)
          (if out.length < cap ∧ 1 ≤ id ∧ id ≤ 14 ∧ len ≤ rtpExtMaxData then
            out ++ [⟨id, rest.take len⟩]
          else out)

def rtcRtpExtParseBody (cap : Nat) (extData : Bytes) : Except RtcErr (List RtpExt) :=
  rtpExtElements cap extData.length extData []

def rtpExtMaxEntries : Nat := 8

def rtcRtpExtFind (exts : List RtpExt) (id : Nat) : Option RtpExt := exts.find? fun e => e.id = id

def rtcRtpExtReadTransportCc (e : RtpExt) : UInt16 :=
  if e.data.length < 2 then 0 else UInt16.ofNat (readU16 e.data 0)

/-! ## Writing them -/

@[mk_iff]
structure RtpExt.Ok (e : RtpExt) : Prop where
  id_pos : 1 ≤ e.id
  id_le : e.id ≤ 14
  len_pos : 1 ≤ e.data.length
  len_le : e.data.length ≤ rtpExtMaxData

instance RtpExt.decidableOk (e : RtpExt) : Decidable e.Ok := decidable_of_iff' _ (RtpExt.ok_iff e)

def RtpExt.bytes (e : RtpExt) : Bytes := UInt8.ofNat (e.id * 16 + (e.data.length - 1)) :: e.data

def rtpExtBytes (exts : List RtpExt) : Bytes := exts.flatMap RtpExt.bytes

def rtpExtPad (n : Nat) : Nat := (4 - n % 4) % 4

def rtpExtBlockLength (exts : List RtpExt) : Nat :=
  4 + (rtpExtBytes exts).length + rtpExtPad (rtpExtBytes exts).length

theorem rtpExtBytes_cons (e : RtpExt) (es : List RtpExt) :
    rtpExtBytes (e :: es) = e.bytes ++ rtpExtBytes es :=
  flatMap_cons

theorem RtpExt.bytes_length (e : RtpExt) : e.bytes.length = 1 + e.data.length := by
  rw [RtpExt.bytes, length_cons, Nat.add_comm]

variable {cap : Nat}

theorem rtpExtBody_eq {es : List RtpExt} (hes : ∀ e ∈ es, e.Ok) {body : Bytes}
    (hbody : 4 + body.length ≤ cap) :
    rtpExtBody cap es body
      = if 4 + body.length + (rtpExtBytes es).length ≤ cap then .ok (body ++ rtpExtBytes es)
        else .error .invalid := by
  induction es generalizing body with
  | nil =>
    rw [show rtpExtBytes [] = [] from rfl, append_nil, length_nil, Nat.add_zero,
      if_pos hbody, rtpExtBody]
  | cons e es ih =>
    have he := hes e mem_cons_self
    have hid : ¬ (e.id < 1 ∨ 14 < e.id) := by
      have h1 := he.id_pos
      have h2 := he.id_le
      omega
    have hlen : ¬ (e.data.length < 1 ∨ rtpExtMaxData < e.data.length) := by
      have h1 := he.len_pos
      have h2 := he.len_le
      omega
    have hbytes : body ++ [UInt8.ofNat (e.id * 16 + (e.data.length - 1))] ++ e.data
        = body ++ e.bytes := by
      rw [append_assoc]
      rfl
    have htotal : (rtpExtBytes (e :: es)).length = 1 + e.data.length + (rtpExtBytes es).length := by
      rw [rtpExtBytes_cons, length_append, e.bytes_length]
    rw [rtpExtBody, if_neg hid, if_neg hlen, hbytes, htotal]
    by_cases hroom : cap < 4 + body.length + 1 + e.data.length
    · -- the first element that does not fit ends the loop, and the sum does not fit either
      rw [if_pos hroom, if_neg (by omega)]
    · have hnext : (body ++ e.bytes).length = body.length + (1 + e.data.length) := by
        rw [length_append, e.bytes_length]
      rw [if_neg hroom, ih (fun d hd => hes d (mem_cons_of_mem e hd)) (by omega), hnext,
        rtpExtBytes_cons, append_assoc]
      congr 1
      simp only [Nat.add_assoc]

theorem rtcRtpExtWriteBlock_eq {exts : List RtpExt} (hexts : ∀ e ∈ exts, e.Ok) :
    rtcRtpExtWriteBlock rtpMaxExtLen exts
      = if rtpExtBlockLength exts ≤ rtpMaxExtLen then
          .ok ([0xBE, 0xDE] ++ writeU16 ((rtpExtBlockLength exts - 4) / 4)
            ++ (rtpExtBytes exts ++ replicate (rtpExtPad (rtpExtBytes exts).length) 0))
        else .error .invalid := by
  have hstart : 4 + ([] : Bytes).length ≤ rtpMaxExtLen := by decide
  have hbody := rtpExtBody_eq hexts hstart
  rw [nil_append, length_nil, Nat.add_zero] at hbody
  rw [rtcRtpExtWriteBlock, if_neg (by decide), hbody]
  unfold rtpExtBlockLength rtpExtPad rtpMaxExtLen
  by_cases hfits : 4 + (rtpExtBytes exts).length ≤ 64
  · grind
  · rw [if_neg hfits, if_neg (by omega)]

/-! ## Reading back -/

theorem rtpExtElements_padding (cap n : Nat) (out : List RtpExt) {fuel : Nat} (hfuel : n ≤ fuel) :
    rtpExtElements cap fuel (replicate n 0) out = .ok out := by
  induction n generalizing fuel with
  | zero => cases fuel <;> rfl
  | succ n ih =>
    cases fuel with
    | zero => omega
    | succ fuel =>
      rw [replicate_succ, rtpExtElements, if_pos rfl]
      exact ih (by omega)

theorem rtpExtElements_element {e : RtpExt} (he : e.Ok) {out : List RtpExt}
    (hroom : out.length < cap) (fuel : Nat) (rest : Bytes) :
    rtpExtElements cap (fuel + 1) (e.bytes ++ rest) out
      = rtpExtElements cap fuel rest (out ++ [e]) := by
  obtain ⟨hid1, hid2, hlen1, hlen2⟩ := he
  unfold rtpExtMaxData at hlen2
  -- the id and the length are the halves of the first byte
  have hbyte : (UInt8.ofNat (e.id * 16 + (e.data.length - 1))).toNat
      = e.id * 16 + (e.data.length - 1) := by
    rw [UInt8.toNat_ofNat']
    omega
  have hid : (e.id * 16 + (e.data.length - 1)) / 16 = e.id := by omega
  have hlen : (e.id * 16 + (e.data.length - 1)) % 16 + 1 = e.data.length := by omega
  have hne : UInt8.ofNat (e.id * 16 + (e.data.length - 1)) ≠ 0 := by
    intro hzero
    have hnat := congrArg UInt8.toNat hzero
    rw [hbyte] at hnat
    simp only [UInt8.toNat_zero] at hnat
    omega
  have hstored : out.length < cap ∧ 1 ≤ e.id ∧ e.id ≤ 14 ∧ e.data.length ≤ rtpExtMaxData :=
    ⟨hroom, hid1, hid2, hlen2⟩
  rw [RtpExt.bytes, cons_append, rtpExtElements, if_neg hne]
  simp only [hbyte, hid, hlen]
  rw [if_neg (by omega), if_neg (by rw [length_append]; omega), if_pos hstored,
    take_left, drop_left]

theorem rtpExtElements_bytes {es : List RtpExt} (hes : ∀ e ∈ es, e.Ok) {out : List RtpExt}
    (hcap : out.length + es.length ≤ cap) (n : Nat) {fuel : Nat}
    (hfuel : (rtpExtBytes es).length + n ≤ fuel) :
    rtpExtElements cap fuel (rtpExtBytes es ++ replicate n 0) out = .ok (out ++ es) := by
  induction es generalizing out fuel with
  | nil =>
    rw [append_nil]
    exact rtpExtElements_padding cap n out (by simpa [rtpExtBytes] using hfuel)
  | cons e es ih =>
    rw [length_cons] at hcap
    rw [rtpExtBytes_cons, length_append, e.bytes_length] at hfuel
    have hnext : (out ++ [e]).length + es.length ≤ cap := by
      rw [length_append, length_singleton]
      omega
    cases fuel with
    | zero => omega
    | succ fuel =>
      rw [rtpExtBytes_cons, append_assoc,
        rtpExtElements_element (hes e mem_cons_self) (by omega),
        ih (fun d hd => hes d (mem_cons_of_mem e hd)) hnext (by omega),
        append_assoc, singleton_append]

theorem rtcRtpExtParseBody_bytes {exts : List RtpExt} (hexts : ∀ e ∈ exts, e.Ok)
    (hcap : exts.length ≤ cap) (n : Nat) :
    rtcRtpExtParseBody cap (rtpExtBytes exts ++ replicate n 0) = .ok exts := by
  have hout : ([] : List RtpExt).length + exts.length ≤ cap := by
    rw [length_nil]
    omega
  have hread := rtpExtElements_bytes hexts hout n (Nat.le_refl _)
  rw [nil_append] at hread
  rw [rtcRtpExtParseBody, length_append, length_replicate]
  exact hread

/-! ## Packets with extensions -/

def builtHeader (pt : Nat) (seq : UInt16) (ts ssrc : UInt32) (marker ext : Bool) : RtpHeader :=
  { version := 2, padding := false, extension := ext, csrcCount := 0, marker := marker,
    payloadType := pt, seq := seq, timestamp := ts, ssrc := ssrc }

def RtpPacket.extBody (pkt : RtpPacket) : Bytes := (pkt.extData.getD []).take pkt.extLen

section Packet

variable {pt : Nat} {seq : UInt16} {ts ssrc : UInt32} {marker : Bool} {exts : List RtpExt}
  {payload : Bytes}

theorem rtcRtpBuildWithExt_cases (hexts : ∀ e ∈ exts, e.Ok)
    (hpayload : payload.length ≤ rtpMaxPacket) :
    (rtpMaxExtLen < rtpExtBlockLength exts
        ∧ rtcRtpBuildWithExt pt seq ts ssrc marker exts payload = .error .invalid)
      ∨ rtpExtBlockLength exts ≤ rtpMaxExtLen
        ∧ ∃ pkt n, rtcRtpBuildWithExt pt seq ts ssrc marker exts payload = .ok pkt
          ∧ pkt.header = builtHeader pt seq ts ssrc marker (!exts.isEmpty)
          ∧ pkt.payload = payload
          ∧ pkt.extBody = rtpExtBytes exts ++ replicate n 0 := by
  rw [rtcRtpBuildWithExt, if_neg (by omega)]
  dsimp only
  cases exts with
  | nil => exact .inr ⟨by decide, _, 0, rfl, rfl, rfl, rfl⟩
  | cons e es =>
    rw [if_neg (show ¬ (e :: es).isEmpty = true from Bool.false_ne_true),
      rtcRtpExtWriteBlock_eq hexts]
    by_cases hfits : rtpExtBlockLength (e :: es) ≤ rtpMaxExtLen
    · rw [if_pos hfits]
      refine .inr ⟨hfits, _, rtpExtPad (rtpExtBytes (e :: es)).length, rfl, rfl, rfl, ?_⟩
      -- the four bytes of the block's header are left out
      apply take_of_length_le
      simp only [length_append, length_cons, length_nil, writeU16_length,
        Option.getD_some, length_drop]
      omega
    · rw [if_neg hfits]
      exact .inl ⟨by omega, rfl⟩

/-- With elements of the one-byte form and a payload that fits, a packet is refused exactly if the
padded block of the elements is too long; otherwise everything is read back from its bytes. -/
theorem rtcRtpBuildWithExt_readBack (hpt : pt < 128) (hexts : ∀ e ∈ exts, e.Ok)
    (hcount : exts.length ≤ rtpExtMaxEntries) (hpayload : payload.length ≤ rtpMaxPacket) :
    (rtpMaxExtLen < rtpExtBlockLength exts
        ∧ rtcRtpBuildWithExt pt seq ts ssrc marker exts payload = .error .invalid)
      ∨ rtpExtBlockLength exts ≤ rtpMaxExtLen
        ∧ ∃ pkt bytes parsed, rtcRtpBuildWithExt pt seq ts ssrc marker exts payload = .ok pkt
          ∧ pkt.buf = some bytes
          ∧ rtcRtpParse bytes = .ok parsed
          ∧ parsed.header = builtHeader pt seq ts ssrc marker (!exts.isEmpty)
          ∧ parsed.payload = payload
          ∧ rtcRtpExtParseBody rtpExtMaxEntries parsed.extBody = .ok exts := by
  have hcases := @rtcRtpBuildWithExt_cases pt seq ts ssrc marker exts payload hexts hpayload
  rcases hcases with hrefused | ⟨hfits, pkt, n, hbuild, hheader, hbytes, hbody⟩
  · exact .inl hrefused
  · obtain ⟨bytes, hbuf, hparse⟩ := rtcRtpParse_build hbuild
    have hheader' : { pkt.header with payloadType := pt % 128 }
        = builtHeader pt seq ts ssrc marker (!exts.isEmpty) := by
      rw [Nat.mod_eq_of_lt hpt, hheader]
      rfl
    refine .inr ⟨hfits, pkt, bytes, _, hbuild, hbuf, hparse, hheader', hbytes, ?_⟩
    exact (congrArg _ hbody).trans (rtcRtpExtParseBody_bytes hexts hcount n)

def twoExtensions : List RtpExt := [⟨5, [1, 2]⟩, ⟨14, [65, 66, 67]⟩]

theorem twoExtensions_readBack :
    ∃ pkt bytes parsed, rtcRtpBuildWithExt 96 65535 90000 7 true twoExtensions [9, 8, 7] = .ok pkt
      ∧ pkt.buf = some bytes
      ∧ rtcRtpParse bytes = .ok parsed
      ∧ parsed.header = builtHeader 96 65535 90000 7 true true
      ∧ parsed.payload = [9, 8, 7]
      ∧ rtcRtpExtParseBody rtpExtMaxEntries parsed.extBody = .ok twoExtensions := by
  have hread := @rtcRtpBuildWithExt_readBack 96 65535 90000 7 true twoExtensions [9, 8, 7]
    (by decide) (by decide) (by decide) (by decide)
  rcases hread with ⟨hlong, -⟩ | ⟨-, hread⟩
  · exact absurd hlong (by decide)
  · exact hread

end Packet

end Mrtc
