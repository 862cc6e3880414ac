import Mrtc.Media.Vp8

/-! # The video receive path (`media_pipeline.c`, `recv_video_on_stream`)

A received packet is counted, given to the depacketizer, and a frame that comes out goes to the
decoder, which is a parameter.
-/

namespace Mrtc

open Net List

structure VideoRecvStats where
  rtpLastSeq : Option UInt16 := none
  packetsReceived : Nat := 0
  bytesReceived : Nat := 0
  rtpSeqGaps : Nat := 0
  packetsMissing : Nat := 0
  packetsReordered : Nat := 0
  packetsDuplicate : Nat := 0
  depackFramesDropped : Nat := 0
  framesAssembled : Nat := 0
  bytesDecoded : Nat := 0
  framesDecoded : Nat := 0
  keyframesDecoded : Nat := 0
  framesRendered : Nat := 0
  framesDecodeFailed : Nat := 0
  deriving DecidableEq

def trackSeq (stats : VideoRecvStats) (seq : UInt16) : VideoRecvStats :=
  match stats.rtpLastSeq with
  | none => { stats with rtpLastSeq := some seq }
  | some last =>
    let diff := (seq - (last + 1)).toBitVec.toInt
    let stats := { stats with rtpLastSeq := some seq }
    if 0 < diff ∧ diff < 1000 then
      { stats with
        rtpSeqGaps := stats.rtpSeqGaps + 1
        packetsMissing := stats.packetsMissing + diff.toNat }
    else if diff < 0 ∧ -1000 < diff then
      { stats with packetsReordered := stats.packetsReordered + 1 }
    else if seq = last then { stats with packetsDuplicate := stats.packetsDuplicate + 1 }
    else stats

structure VideoRecvStream (δ : Type) where
  stats : VideoRecvStats := {}
  depack : Vp8Depacketizer := {}
  decoder : δ

section

variable {δ : Type} (decode : δ → Bytes → δ × Bool) (rendering : Bool)

def decodeVideo (s : VideoRecvStream δ) (frame : Bytes) (isKey : Bool) : VideoRecvStream δ :=
  let r := decode s.decoder frame
  let stats :=
    { s.stats with
      framesAssembled := s.stats.framesAssembled + 1
      bytesDecoded := s.stats.bytesDecoded + frame.length }
  let stats :=
    if r.2 then
      { stats with
        framesDecoded := stats.framesDecoded + 1
        keyframesDecoded := stats.keyframesDecoded + if isKey then 1 else 0
        framesRendered := stats.framesRendered + if rendering then 1 else 0 }
    else { stats with framesDecodeFailed := stats.framesDecodeFailed + 1 }
  { s with stats := stats, decoder := r.1 }

def countDropped (s : VideoRecvStream δ) (wasCollecting : Bool) : VideoRecvStream δ :=
  if wasCollecting && !s.depack.collecting then
    { s with stats.depackFramesDropped := s.stats.depackFramesDropped + 1 }
  else s

def takeFrame (s : VideoRecvStream δ) (wasCollecting : Bool) :
    Except RtcErr (Bytes × Bool) → VideoRecvStream δ × Option Bytes
  | .ok (frame, isKey) =>
    let s := countDropped s (wasCollecting && frame.length == 0)
    if 0 < frame.length then (decodeVideo decode rendering s frame isKey, some frame)
    else (s, none)
  | .error _ => (countDropped s wasCollecting, none)

def recvVideoOnStream (s : VideoRecvStream δ) (data : Bytes) (seq : UInt16) (timestamp : UInt32)
    (marker : Bool) : VideoRecvStream δ × Option Bytes :=
  let stats :=
    { s.stats with
      packetsReceived := s.stats.packetsReceived + 1
      bytesReceived := s.stats.bytesReceived + data.length }
  let r := rtcVp8Depacketize s.depack data timestamp marker
  takeFrame decode rendering { s with stats := trackSeq stats seq, depack := r.2 }
    s.depack.collecting r.1

end

/-! ## Fragments of sent frames -/

theorem vp8Fragments_get {key : Bool} {free : Nat} {rest : Bytes} {first : Bool}
    {ps : List Vp8Payload} (h : vp8Fragments key free rest first = .ok ps) {i : Nat}
    (hi : i < ps.length) :
    ps[i] = ⟨vp8Descriptor (first && i == 0) key
        :: (rest.drop (i * vp8MaxFragSize)).take vp8MaxFragSize,
      (rest.drop ((i + 1) * vp8MaxFragSize)).isEmpty⟩ := by
  induction i generalizing free rest first ps with
  | zero =>
    have hne : rest ≠ [] := by
      rintro rfl
      rw [vp8Fragments_nil] at h
      cases h
      simp at hi
    obtain ⟨-, tail, -, -, rfl⟩ := vp8Fragments_cons hne h
    simp
  | succ i ih =>
    have hne : rest ≠ [] := by
      rintro rfl
      rw [vp8Fragments_nil] at h
      cases h
      simp at hi
    obtain ⟨_, tail, -, htail, rfl⟩ := vp8Fragments_cons hne h
    have hdrop : ∀ n, (rest.drop vp8MaxFragSize).drop (n * vp8MaxFragSize) =
        rest.drop ((n + 1) * vp8MaxFragSize) := by
      intro n
      rw [drop_drop, Nat.succ_mul, Nat.add_comm]
    have hrest := ih htail (by simpa using hi)
    simpa [hdrop] using hrest

theorem vp8Fragments_last {key : Bool} {free : Nat} {rest : Bytes} {first : Bool}
    {ps : List Vp8Payload} (h : vp8Fragments key free rest first = .ok ps) :
    rest.drop (ps.length * vp8MaxFragSize) = [] := by
  induction ps generalizing free rest first with
  | nil =>
    by_cases hne : rest = []
    · simp [hne]
    · obtain ⟨-, tail, -, -, hps⟩ := vp8Fragments_cons hne h
      cases hps
  | cons p ps ih =>
    by_cases hne : rest = []
    · simp [hne]
    · obtain ⟨_, tail, -, htail, hps⟩ := vp8Fragments_cons hne h
      cases hps
      have hrest := ih htail
      rw [drop_drop] at hrest
      rw [length_cons, Nat.succ_mul, Nat.add_comm]
      exact hrest

structure SentFrame where
  data : Bytes
  isKeyframe : Bool
  maxPayloads : Nat
  timestamp : UInt32
  payloads : List Vp8Payload
  packetized : rtcVp8Packetize data isKeyframe maxPayloads = .ok payloads

theorem SentFrame.fragments (f : SentFrame) :
    vp8Fragments f.isKeyframe f.maxPayloads f.data true = .ok f.payloads := by
  have h := f.packetized
  unfold rtcVp8Packetize at h
  split at h
  · cases h
  · exact h

structure Fragment where
  frame : SentFrame
  index : Fin frame.payloads.length
  seq : UInt16

def Fragment.payload (p : Fragment) : Vp8Payload := p.frame.payloads.get p.index

def Fragment.piece (p : Fragment) : Bytes :=
  (p.frame.data.drop (p.index * vp8MaxFragSize)).take vp8MaxFragSize

def Fragment.isLast (p : Fragment) : Bool :=
  (p.frame.data.drop ((p.index + 1) * vp8MaxFragSize)).isEmpty

theorem Fragment.payload_eq (p : Fragment) :
    p.payload = ⟨vp8Descriptor (p.index.val == 0) p.frame.isKeyframe :: p.piece, p.isLast⟩ := by
  have h := vp8Fragments_get p.frame.fragments p.index.isLt
  rw [Bool.true_and] at h
  exact h

/-- A packet that arrives right after another one of its frame is the next one, unless a new
attempt starts or the frame was complete. -/
def Fragment.Follows (a b : Fragment) : Prop :=
  a.frame.timestamp = b.frame.timestamp →
    b.index.val = 0 ∨ b.index.val = a.index + 1 ∨ a.index + 1 = a.frame.payloads.length

/-! ## One packet -/

def Vp8Depacketizer.Holds (d : Vp8Depacketizer) (p : Fragment) : Prop :=
  d.collecting = true →
    d.Continues p.frame.timestamp ∧ p.isLast = false ∧
      d.frame = p.frame.data.take ((p.index + 1) * vp8MaxFragSize)

theorem take_append_piece (p : Fragment) :
    p.frame.data.take (p.index * vp8MaxFragSize) ++ p.piece =
      p.frame.data.take ((p.index + 1) * vp8MaxFragSize) := by
  rw [Fragment.piece, Nat.succ_mul, take_add]

variable {p : Fragment}

theorem vp8Append_piece {d : Vp8Depacketizer} (hd : d.Continues p.frame.timestamp)
    (hframe : d.frame = p.frame.data.take (p.index * vp8MaxFragSize)) (key : Bool) :
    (vp8Append d p.piece p.isLast key).2.Holds p ∧
      ∀ frame isKey, (vp8Append d p.piece p.isLast key).1 = .ok (frame, isKey) →
        frame = p.frame.data := by
  by_cases hlong : vp8MaxFrameSize < d.frame.length + p.piece.length
  · have hstop : vp8Append d p.piece p.isLast key =
        (.error .nomem, { d with collecting := false, frame := [] }) := by
      unfold vp8Append
      rw [hd.1, hd.2.1, if_neg (by simp), if_pos hlong]
    rw [hstop]
    refine ⟨fun h => absurd h Bool.false_ne_true, ?_⟩
    intro frame isKey h
    cases h
  · rw [vp8Append_continues hd (by omega), hframe, take_append_piece]
    cases hlast : p.isLast with
    | true =>
      refine ⟨fun h => absurd h Bool.false_ne_true, ?_⟩
      intro frame isKey h
      cases h
      exact take_of_length_le (drop_eq_nil_iff.1 (List.isEmpty_iff.1 hlast))
    | false =>
      refine ⟨fun _ => ⟨⟨hd.1, hd.2.1, hd.2.2⟩, hlast, rfl⟩, ?_⟩
      intro frame isKey h
      cases h

theorem Fragment.isLast_of_length (h : p.index + 1 = p.frame.payloads.length) :
    p.isLast = true := by
  rw [Fragment.isLast, h, vp8Fragments_last p.frame.fragments]
  rfl

theorem rtcVp8Depacketize_holds {d : Vp8Depacketizer} {p : Fragment}
    (hd : d.collecting = true → ∃ a : Fragment, d.Holds a ∧ a.Follows p ∧
      (a.frame.timestamp = p.frame.timestamp → a.frame.data = p.frame.data)) :
    let r := rtcVp8Depacketize d p.payload.data p.frame.timestamp p.payload.marker
    r.2.Holds p ∧ ∀ frame isKey, r.1 = .ok (frame, isKey) → frame = p.frame.data := by
  intro r
  have hr : r = rtcVp8Depacketize d (vp8Descriptor (p.index.val == 0) p.frame.isKeyframe :: p.piece)
      p.frame.timestamp p.isLast := by grind [p.payload_eq]
  rw [rtcVp8Depacketize_fragment] at hr
  by_cases hfirst : p.index.val = 0
  · -- a new attempt, whatever is held
    rw [hfirst, if_pos (by rfl)] at hr
    rw [hr]
    exact vp8Append_piece ⟨rfl, rfl, rfl⟩ (by simp [hfirst]) _
  rw [if_neg (by simpa using hfirst)] at hr
  cases hcollecting : d.collecting with
  | false =>
    rw [hcollecting, if_neg (by simp), if_pos (by simp)] at hr
    rw [hr]
    refine ⟨fun h => absurd (hcollecting.symm.trans h) Bool.false_ne_true, ?_⟩
    intro frame isKey h
    cases h
  | true =>
    obtain ⟨a, hholds, hfollows, hsame⟩ := hd hcollecting
    obtain ⟨hcontinues, hmore, hframe⟩ := hholds hcollecting
    by_cases hts : p.frame.timestamp = d.frameTimestamp
    · -- the next piece of the frame that is held
      have hts' : a.frame.timestamp = p.frame.timestamp := by rw [hts, hcontinues.2.2]
      have hnext : p.index.val = a.index + 1 := by
        rcases hfollows hts' with h | h | h
        · exact absurd h hfirst
        · exact h
        · rw [Fragment.isLast_of_length h] at hmore
          cases hmore
      rw [hcollecting, if_neg (by simp [hts]), if_neg (by simp)] at hr
      rw [hr]
      rw [hts'] at hcontinues
      exact vp8Append_piece hcontinues (by rw [hframe, hsame hts', hnext]) _
    · rw [hcollecting, if_pos (by simp [hts])] at hr
      rw [hr]
      refine ⟨fun h => absurd h Bool.false_ne_true, ?_⟩
      intro frame isKey h
      cases h

/-! ## Runs -/

section

variable {δ : Type} (decode : δ → Bytes → δ × Bool) (rendering : Bool)

theorem countDropped_depack (s : VideoRecvStream δ) (wasCollecting : Bool) :
    (countDropped s wasCollecting).depack = s.depack := by
  unfold countDropped
  split <;> rfl

theorem recvVideoOnStream_depack (s : VideoRecvStream δ) (data : Bytes) (seq : UInt16)
    (timestamp : UInt32) (marker : Bool) :
    (recvVideoOnStream decode rendering s data seq timestamp marker).1.depack =
      (rtcVp8Depacketize s.depack data timestamp marker).2 := by
  have htake : ∀ (t : VideoRecvStream δ) was r,
      (takeFrame decode rendering t was r).1.depack = t.depack := by
    intro t was r
    cases r with
    | error e => exact countDropped_depack t was
    | ok got =>
      by_cases hlen : 0 < got.1.length
      · rw [takeFrame, if_pos hlen]
        exact countDropped_depack t _
      · rw [takeFrame, if_neg hlen]
        exact countDropped_depack t _
  exact htake _ _ _

theorem recvVideoOnStream_frame {s : VideoRecvStream δ} {data : Bytes} {seq : UInt16}
    {timestamp : UInt32} {marker : Bool} {frame : Bytes}
    (h : (recvVideoOnStream decode rendering s data seq timestamp marker).2 = some frame) :
    ∃ isKey, (rtcVp8Depacketize s.depack data timestamp marker).1 = .ok (frame, isKey) := by
  have htake : ∀ (t : VideoRecvStream δ) was r,
      (takeFrame decode rendering t was r).2 = some frame → ∃ isKey, r = .ok (frame, isKey) := by
    intro t was r hr
    cases r with
    | error e => cases hr
    | ok got =>
      by_cases hlen : 0 < got.1.length
      · rw [takeFrame, if_pos hlen] at hr
        cases hr
        exact ⟨got.2, rfl⟩
      · rw [takeFrame, if_neg hlen] at hr
        cases hr
  exact htake _ _ _ h

def recvFragments (s : VideoRecvStream δ) : List Fragment → VideoRecvStream δ × List Bytes
  | [] => (s, [])
  | p :: ps =>
    let r := recvVideoOnStream decode rendering s p.payload.data p.seq p.frame.timestamp
      p.payload.marker
    let rest := recvFragments r.1 ps
    (rest.1, r.2.toList ++ rest.2)

theorem recvFragments_genuine (delivered : List Fragment) (s : VideoRecvStream δ)
    (hstart : s.depack.collecting = true → ∃ a : Fragment, s.depack.Holds a ∧ ∀ p ∈ delivered.head?,
      a.Follows p ∧ (a.frame.timestamp = p.frame.timestamp → a.frame.data = p.frame.data))
    (hsame : ∀ a ∈ delivered, ∀ b ∈ delivered,
      a.frame.timestamp = b.frame.timestamp → a.frame.data = b.frame.data)
    (hchain : List.IsChain Fragment.Follows delivered) :
    ∀ frame ∈ (recvFragments decode rendering s delivered).2,
      ∃ p ∈ delivered, frame = p.frame.data := by
  induction delivered generalizing s with
  | nil =>
    intro frame h
    cases h
  | cons p ps ih =>
    obtain ⟨hholds, hframe⟩ := @rtcVp8Depacketize_holds s.depack p fun h => by
      obtain ⟨a, ha, hnext⟩ := hstart h
      exact ⟨a, ha, hnext p rfl⟩
    have hrest := ih
      (recvVideoOnStream decode rendering s p.payload.data p.seq p.frame.timestamp
        p.payload.marker).1
      (by
        rw [recvVideoOnStream_depack]
        intro _
        refine ⟨p, hholds, fun q hq => ⟨hchain.rel_head? hq, ?_⟩⟩
        exact hsame p mem_cons_self q
          (mem_cons_of_mem _ (mem_of_mem_head? hq)))
      (fun a ha b hb => hsame a (mem_cons_of_mem _ ha) b (mem_cons_of_mem _ hb))
      hchain.tail
    intro frame hmem
    rcases mem_append.1 hmem with h | h
    · grind [recvVideoOnStream_frame]
    · obtain ⟨q, hq, heq⟩ := hrest frame h
      exact ⟨q, mem_cons_of_mem _ hq, heq⟩

/-- Frames with a timestamp each, and packets of them that arrive in any order, some of them lost
or repeated: as long as a packet that arrives right after another one of its frame follows it, each
frame that is handed to the decoder was sent. -/
theorem recvFragments_sent (decoder : δ) (frames : List SentFrame)
    (hts : (frames.map SentFrame.timestamp).Nodup) (delivered : List Fragment)
    (hsent : ∀ p ∈ delivered, p.frame ∈ frames)
    (hfollows : List.IsChain Fragment.Follows delivered) :
    ∀ frame ∈ (recvFragments decode rendering { decoder := decoder } delivered).2,
      ∃ f ∈ frames, frame = f.data := by
  have hsame : ∀ a ∈ delivered, ∀ b ∈ delivered,
      a.frame.timestamp = b.frame.timestamp → a.frame.data = b.frame.data := by
    intro a ha b hb heq
    rw [inj_on_of_nodup_map hts (hsent a ha) (hsent b hb) heq]
  intro frame hframe
  obtain ⟨p, hp, heq⟩ := recvFragments_genuine decode rendering delivered { decoder := decoder }
    (fun h => absurd h Bool.false_ne_true) hsame hfollows frame hframe
  exact ⟨p.frame, hsent p hp, heq⟩

end

def longSentFrame : SentFrame where
  data := twoPayloadFrame
  isKeyframe := true
  maxPayloads := 64
  timestamp := 3000
  payloads := [⟨0x10 :: twoPayloadFrame.take 1399, false⟩, ⟨[0, 7], true⟩]
  packetized := twoPayloadFrame_packetize

def shortSentFrame : SentFrame where
  data := [1, 2, 3]
  isKeyframe := false
  maxPayloads := 64
  timestamp := 6000
  payloads := [⟨[0x30, 1, 2, 3], true⟩]
  packetized := by decide +kernel

def repeatedDelivery : List Fragment :=
  [⟨longSentFrame, ⟨0, by decide⟩, 10⟩, ⟨longSentFrame, ⟨1, by decide⟩, 11⟩,
    ⟨longSentFrame, ⟨1, by decide⟩, 11⟩, ⟨shortSentFrame, ⟨0, by decide⟩, 12⟩,
    ⟨longSentFrame, ⟨0, by decide⟩, 10⟩]

theorem repeatedDelivery_sent :
    (recvFragments (fun n _ => (n + 1, true)) true { decoder := 0 } repeatedDelivery).2.length = 2 ∧
      ∀ frame ∈
          (recvFragments (fun n _ => (n + 1, true)) true { decoder := 0 } repeatedDelivery).2,
        ∃ f ∈ [longSentFrame, shortSentFrame], frame = f.data := by
  refine ⟨by decide +kernel, ?_⟩
  apply recvFragments_sent _ _ _ [longSentFrame, shortSentFrame] (by decide)
  · simp [repeatedDelivery]
  · simp [repeatedDelivery, Fragment.Follows, longSentFrame, shortSentFrame]

def threePayloadFrame : SentFrame where
  data := replicate 2799 7
  isKeyframe := true
  maxPayloads := 64
  timestamp := 3000
  payloads := [⟨0x10 :: replicate 1399 7, false⟩, ⟨0 :: replicate 1399 7, false⟩,
    ⟨[0, 7], true⟩]
  packetized := by decide +kernel

/-- The second of three packets is lost: the decoder gets the rest as a frame. -/
theorem middlePacket_lost :
    (recvFragments (fun n _ => (n + 1, true)) true { decoder := 0 }
        [⟨threePayloadFrame, ⟨0, by decide⟩, 10⟩, ⟨threePayloadFrame, ⟨2, by decide⟩, 12⟩]).2 =
      [replicate 1400 7] ∧ threePayloadFrame.data ≠ replicate 1400 7 := by
  decide +kernel

end Mrtc
