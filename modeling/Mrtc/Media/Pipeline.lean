import Mrtc.Lib.Cursor
import Mrtc.Lib.Trace
import Mrtc.Signaling.Message

/-! # The tables of the media pipeline (`media_pipeline.c`)

The peers that the encoded media go to, and the streams that come in.
-/

namespace Mrtc

open List

def mpMaxSendPeers : Nat := 8
def mpMaxRecvStreams : Nat := 16
def mpLabelSize : Nat := 64

structure MpSendPeer where
  peerId : CString
  active : Bool := true
  deriving DecidableEq

structure MediaRecvStream where
  label : CString
  peerId : CString
  ssrc : UInt32
  isVideo : Bool
  active : Bool := true
  deriving DecidableEq

structure MediaPipeline where
  sendPeers : List MpSendPeer := []
  recv : List MediaRecvStream := []
  deriving DecidableEq

def mediaPipelineAddSendPeer (p : MediaPipeline) (peerId : CString) :
    Except RtcErr Unit × MediaPipeline :=
  if mpMaxSendPeers ≤ p.sendPeers.length then (.error .nomem, p)
  else if p.sendPeers.any fun sp => sp.active && decide (sp.peerId = peerId) then (.ok (), p)
  else
    (.ok (), { p with
      sendPeers := p.sendPeers ++ [{ peerId := peerId.take (mpLabelSize - 1) }] })

def mediaPipelineRemoveSendPeer (p : MediaPipeline) (peerId : CString) : MediaPipeline :=
  match p.sendPeers.findIdx? fun sp => sp.active && decide (sp.peerId = peerId) with
  | none => p
  | some i =>
    { p with sendPeers := p.sendPeers.modify i fun sp => { sp with active := false } }

def findRecvBySsrc (p : MediaPipeline) (ssrc : UInt32) : Option Nat :=
  p.recv.findIdx? fun s => s.active && decide (s.ssrc = ssrc)

def mediaPipelineAddRecvStream (p : MediaPipeline) (peerId label : CString) (ssrc : UInt32)
    (isVideo decoder : Bool) : Option Nat × MediaPipeline :=
  if mpMaxRecvStreams ≤ p.recv.length then (none, p)
  else
    match findRecvBySsrc p ssrc with
    | some i => (some i, p)
    | none =>
      if !decoder then (none, p)
      else
        (some p.recv.length, { p with
          recv := p.recv ++
            [{ label := label.take (mpLabelSize - 1)
               peerId := peerId.take (mpLabelSize - 1)
               ssrc := ssrc
               isVideo := isVideo }] })

def recvStreamDestroy (s : MediaRecvStream) : MediaRecvStream := { s with active := false }

def mediaPipelineRemoveRecvStream (p : MediaPipeline) (ssrc : UInt32) : MediaPipeline :=
  match findRecvBySsrc p ssrc with
  | none => p
  | some i => { p with recv := p.recv.modify i recvStreamDestroy }

def mediaPipelineRemovePeer (p : MediaPipeline) (peerId : CString) : MediaPipeline :=
  { p with
    recv := p.recv.map fun s =>
      if s.active && decide (s.peerId = peerId) then recvStreamDestroy s else s }

/-! ## Runs -/

inductive PipelineOp where
  | addSendPeer (peerId : CString)
  | removeSendPeer (peerId : CString)
  | addRecvStream (peerId label : CString) (ssrc : UInt32) (isVideo decoder : Bool)
  | removeRecvStream (ssrc : UInt32)
  | removePeer (peerId : CString)

def pipelineStep (p : MediaPipeline) : PipelineOp → Option MediaPipeline
  | .addSendPeer peerId => some (mediaPipelineAddSendPeer p peerId).2
  | .removeSendPeer peerId => some (mediaPipelineRemoveSendPeer p peerId)
  | .addRecvStream peerId label ssrc isVideo decoder =>
    some (mediaPipelineAddRecvStream p peerId label ssrc isVideo decoder).2
  | .removeRecvStream ssrc => some (mediaPipelineRemoveRecvStream p ssrc)
  | .removePeer peerId => some (mediaPipelineRemovePeer p peerId)

structure PipelineEffect (p p' : MediaPipeline) : Prop where
  sendPeers : Cursor.Grows MpSendPeer.active p.sendPeers p'.sendPeers
  recv : Cursor.Grows MediaRecvStream.active p.recv p'.recv
  fewPeers : p.sendPeers.length ≤ mpMaxSendPeers → p'.sendPeers.length ≤ mpMaxSendPeers
  fewStreams : p.recv.length ≤ mpMaxRecvStreams → p'.recv.length ≤ mpMaxRecvStreams

section Effect

variable (p : MediaPipeline)

theorem PipelineEffect.refl : PipelineEffect p p := ⟨.refl _, .refl _, id, id⟩

theorem mediaPipelineAddSendPeer_effect (peerId : CString) :
    PipelineEffect p (mediaPipelineAddSendPeer p peerId).2 := by
  unfold mediaPipelineAddSendPeer
  split_ifs with hfull
  · exact .refl p
  · exact .refl p
  · refine ⟨.append _ _, .refl _, fun _ => ?_, id⟩
    rw [length_append]
    exact Nat.lt_of_not_le hfull

theorem mediaPipelineRemoveSendPeer_effect (peerId : CString) :
    PipelineEffect p (mediaPipelineRemoveSendPeer p peerId) := by
  unfold mediaPipelineRemoveSendPeer
  split
  · exact .refl p
  · refine ⟨.modify (by simp) _ _, .refl _, fun hfew => ?_, id⟩
    rwa [length_modify]

theorem mediaPipelineAddRecvStream_effect (peerId label : CString) (ssrc : UInt32)
    (isVideo decoder : Bool) :
    PipelineEffect p (mediaPipelineAddRecvStream p peerId label ssrc isVideo decoder).2 := by
  unfold mediaPipelineAddRecvStream
  by_cases hfull : mpMaxRecvStreams ≤ p.recv.length
  · rw [if_pos hfull]
    exact .refl p
  rw [if_neg hfull]
  split
  · exact .refl p
  · split
    · exact .refl p
    · refine ⟨.refl _, .append _ _, id, fun _ => ?_⟩
      rw [length_append]
      exact Nat.lt_of_not_le hfull

theorem mediaPipelineRemoveRecvStream_effect (ssrc : UInt32) :
    PipelineEffect p (mediaPipelineRemoveRecvStream p ssrc) := by
  unfold mediaPipelineRemoveRecvStream
  split
  · exact .refl p
  · refine ⟨.refl _, .modify (by simp [recvStreamDestroy]) _ _, id, fun hfew => ?_⟩
    rwa [length_modify]

theorem mediaPipelineRemovePeer_effect (peerId : CString) :
    PipelineEffect p (mediaPipelineRemovePeer p peerId) := by
  refine ⟨.refl _, .map (fun s => ?_) _, id, fun hfew => ?_⟩
  · grind
  · unfold mediaPipelineRemovePeer
    rwa [length_map]

theorem pipelineStep_effect (op : PipelineOp) :
    ∃ p', pipelineStep p op = some p' ∧ PipelineEffect p p' := by
  cases op with
  | addSendPeer peerId => exact ⟨_, rfl, mediaPipelineAddSendPeer_effect p peerId⟩
  | removeSendPeer peerId => exact ⟨_, rfl, mediaPipelineRemoveSendPeer_effect p peerId⟩
  | addRecvStream peerId label ssrc isVideo decoder =>
    exact ⟨_, rfl, mediaPipelineAddRecvStream_effect p peerId label ssrc isVideo decoder⟩
  | removeRecvStream ssrc => exact ⟨_, rfl, mediaPipelineRemoveRecvStream_effect p ssrc⟩
  | removePeer peerId => exact ⟨_, rfl, mediaPipelineRemovePeer_effect p peerId⟩

end Effect

/-! ## Capacity -/

def MediaPipeline.SendPeersReusable (p : MediaPipeline) : Prop :=
  p.sendPeers.countP MpSendPeer.active < mpMaxSendPeers →
    ∀ peerId, (mediaPipelineAddSendPeer p peerId).1 = .ok ()

/-- With fewer active streams than slots one can be added. -/
def MediaPipeline.RecvStreamsReusable (p : MediaPipeline) : Prop :=
  p.recv.countP MediaRecvStream.active < mpMaxRecvStreams →
    ∀ peerId label ssrc isVideo,
      (mediaPipelineAddRecvStream p peerId label ssrc isVideo true).1.isSome = true

section Capacity

variable {p : MediaPipeline}

theorem MediaPipeline.sendPeersReusable_iff :
    p.SendPeersReusable ↔ Cursor.Reusable MpSendPeer.active mpMaxSendPeers p.sendPeers := by
  constructor
  · intro h hcount
    have hadd := h hcount CString.empty
    rw [mediaPipelineAddSendPeer] at hadd
    by_contra hfull
    rw [if_pos (Nat.le_of_not_lt hfull)] at hadd
    cases hadd
  · intro h hcount peerId
    rw [mediaPipelineAddSendPeer, if_neg (Nat.not_le.mpr (h hcount))]
    split_ifs <;> rfl

theorem MediaPipeline.recvStreamsReusable_iff :
    p.RecvStreamsReusable ↔ Cursor.Reusable MediaRecvStream.active mpMaxRecvStreams p.recv := by
  constructor
  · intro h hcount
    have hadd := h hcount CString.empty CString.empty 0 true
    rw [mediaPipelineAddRecvStream] at hadd
    by_contra hfull
    rw [if_pos (Nat.le_of_not_lt hfull)] at hadd
    cases hadd
  · intro h hcount peerId label ssrc isVideo
    rw [mediaPipelineAddRecvStream, if_neg (Nat.not_le.mpr (h hcount))]
    split <;> rfl

theorem sendPeers_capacity (ops : List PipelineOp) :
    ∃ p, Trace.run pipelineStep {} ops = some p
      ∧ (Trace.EveryPoint pipelineStep MediaPipeline.SendPeersReusable {} ops
        ↔ p.sendPeers.length < mpMaxSendPeers ∨ ∀ sp ∈ p.sendPeers, sp.active = true) := by
  obtain ⟨p, hrun, hfew, hiff, -⟩ := Trace.everyPoint_iff_last pipelineStep
    (fun p => p.sendPeers.length ≤ mpMaxSendPeers) MediaPipeline.SendPeersReusable
    (fun p op hfew => by
      obtain ⟨p', hstep, heffect⟩ := pipelineStep_effect p op
      refine ⟨p', hstep, heffect.fewPeers hfew, fun hlater => ?_⟩
      rw [MediaPipeline.sendPeersReusable_iff] at hlater ⊢
      exact .of_grows heffect.sendPeers (heffect.fewPeers hfew) hlater)
    (s := {}) (Nat.zero_le _) ops
  refine ⟨p, hrun, ?_⟩
  rw [hiff, MediaPipeline.sendPeersReusable_iff, Cursor.reusable_iff hfew]

theorem recvStreams_capacity (ops : List PipelineOp) :
    ∃ p, Trace.run pipelineStep {} ops = some p
      ∧ (Trace.EveryPoint pipelineStep MediaPipeline.RecvStreamsReusable {} ops
        ↔ p.recv.length < mpMaxRecvStreams ∨ ∀ s ∈ p.recv, s.active = true) := by
  obtain ⟨p, hrun, hfew, hiff, -⟩ := Trace.everyPoint_iff_last pipelineStep
    (fun p => p.recv.length ≤ mpMaxRecvStreams) MediaPipeline.RecvStreamsReusable
    (fun p op hfew => by
      obtain ⟨p', hstep, heffect⟩ := pipelineStep_effect p op
      refine ⟨p', hstep, heffect.fewStreams hfew, fun hlater => ?_⟩
      rw [MediaPipeline.recvStreamsReusable_iff] at hlater ⊢
      exact .of_grows heffect.recv (heffect.fewStreams hfew) hlater)
    (s := {}) (Nat.zero_le _) ops
  refine ⟨p, hrun, ?_⟩
  rw [hiff, MediaPipeline.recvStreamsReusable_iff, Cursor.reusable_iff hfew]

end Capacity

end Mrtc
