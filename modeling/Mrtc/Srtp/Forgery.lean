import Mrtc.Srtp.Receive
import Mrtc.Srtp.Send

/-! # Forged packets have no effect

Runs over all four entry points of a context.
-/

namespace Mrtc

open Net

inductive SrtpCall where
  | protect (ev : EvpFault) (buf : Bytes) (cap : Nat)
  | unprotect (ev : EvpFault) (buf : Bytes)
  | protectRtcp (ev : EvpFault) (buf : Bytes) (cap : Nat)
  | unprotectRtcp (ev : EvpFault) (buf : Bytes)
  deriving DecidableEq

def SrtpCall.run (cr : Crypto) (ctx : SrtpCtx) : SrtpCall → Except RtcErr Bytes × SrtpCtx
  | .protect ev buf cap => rtcSrtpProtect cr ev ctx buf cap
  | .unprotect ev buf => rtcSrtpUnprotect cr ev ctx buf
  | .protectRtcp ev buf cap => rtcSrtpProtectRtcp cr ev ctx buf cap
  | .unprotectRtcp ev buf => rtcSrtpUnprotectRtcp cr ev ctx buf

def srtpRun (cr : Crypto) : SrtpCtx → List SrtpCall → List (Except RtcErr Bytes) × SrtpCtx
  | ctx, [] => ([], ctx)
  | ctx, c :: cs =>
    ((c.run cr ctx).1 :: (srtpRun cr (c.run cr ctx).2 cs).1, (srtpRun cr (c.run cr ctx).2 cs).2)

theorem srtpRun_append (cr : Crypto) (ctx : SrtpCtx) (a b : List SrtpCall) :
    srtpRun cr ctx (a ++ b)
      = ((srtpRun cr ctx a).1 ++ (srtpRun cr (srtpRun cr ctx a).2 b).1,
          (srtpRun cr (srtpRun cr ctx a).2 b).2) := by
  induction a generalizing ctx with
  | nil => rfl
  | cons c cs ih =>
    rw [List.cons_append, srtpRun, srtpRun, ih]
    rfl

def SrtpCall.Forged (cr : Crypto) (ctx : SrtpCtx) : SrtpCall → Prop
  | .unprotect _ buf => rtpVerifies cr ctx buf = false
  | .unprotectRtcp _ buf => rtcpTagOk cr ctx.keys buf = false
  | .protect .. => False
  | .protectRtcp .. => False

theorem SrtpCall.Forged.run {cr : Crypto} {ctx : SrtpCtx} {c : SrtpCall} (h : c.Forged cr ctx) :
    ∃ e, c.run cr ctx = (.error e, ctx) := by
  cases c with
  | unprotect ev buf =>
    rcases rtcSrtpUnprotect_cases cr ev ctx buf with hno | ⟨hv, -⟩
    · exact hno
    · exact absurd (hv.symm.trans h) Bool.noConfusion
  | unprotectRtcp ev buf =>
    rcases rtcSrtpUnprotectRtcp_cases cr ev ctx buf with hno | ⟨hv, -⟩
    · exact hno
    · exact absurd (hv.symm.trans h) Bool.noConfusion
  | protect ev buf cap => exact h.elim
  | protectRtcp ev buf cap => exact h.elim

/-- **A forged packet has no effect.** -/
theorem forged_packet_no_effect (cr : Crypto) (ctx : SrtpCtx) (before : List SrtpCall)
    (forged : SrtpCall) (hforged : forged.Forged cr (srtpRun cr ctx before).2) :
    ∃ e, forged.run cr (srtpRun cr ctx before).2 = (.error e, (srtpRun cr ctx before).2) ∧
      ∀ after : List SrtpCall, ∃ results,
        (srtpRun cr ctx (before ++ after)).1 = (srtpRun cr ctx before).1 ++ results ∧
        (srtpRun cr ctx (before ++ forged :: after)).1
          = (srtpRun cr ctx before).1 ++ .error e :: results ∧
        (srtpRun cr ctx (before ++ forged :: after)).2 = (srtpRun cr ctx (before ++ after)).2 := by
  obtain ⟨e, hrun⟩ := hforged.run
  refine ⟨e, hrun, fun after => ⟨(srtpRun cr (srtpRun cr ctx before).2 after).1, ?_, ?_, ?_⟩⟩
  · rw [srtpRun_append]
  · rw [srtpRun_append, srtpRun, hrun]
  · rw [srtpRun_append, srtpRun_append, srtpRun, hrun]

/-- A packet with a made-up tag, on a stream that has one genuine packet. -/
theorem made_up_tag_no_effect :
    ∃ e, (SrtpCall.unprotect {} (barePacket 1 1 ++ List.replicate 10 7)).run toyCrypto
        (srtpRun toyCrypto toyCtx
          [.unprotect {} (sealRtp toyCrypto toyCtx.keys ⟨1, 0, 0⟩ 12 (barePacket 1 0))]).2
      = (.error e, (srtpRun toyCrypto toyCtx
          [.unprotect {} (sealRtp toyCrypto toyCtx.keys ⟨1, 0, 0⟩ 12 (barePacket 1 0))]).2) := by
  obtain ⟨e, he, -⟩ := forged_packet_no_effect toyCrypto toyCtx
    [.unprotect {} (sealRtp toyCrypto toyCtx.keys ⟨1, 0, 0⟩ 12 (barePacket 1 0))]
    (.unprotect {} (barePacket 1 1 ++ List.replicate 10 7))
    (show rtpVerifies _ _ _ = false by decide +kernel)
  exact ⟨e, he⟩

end Mrtc
