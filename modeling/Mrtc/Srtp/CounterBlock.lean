import Mrtc.Lib.BigEndian
import Mrtc.Srtp.Crypto
import Mathlib.Data.LawfulXor.Basic

/-! # The counter blocks as numbers (`srtp_aes_cm`, `srtcp_aes_cm`)

Section 4.1.1 of the SRTP standard gives the initial counter block as a number: the salt and the
packet index 16 bits up, the SSRC 64 bits up, joined by XOR.
-/

namespace Mrtc

open Net List

def counterBlock (salt ssrc index : Nat) : Nat :=
  salt * 2 ^ 16 ^^^ ssrc * 2 ^ 64 ^^^ index * 2 ^ 16

variable {salt : Bytes}

theorem xorSalt_eq_zipWith {x : Bytes} (h : salt.length ≤ x.length) :
    xorSalt salt.length salt x
      = List.zipWith (· ^^^ ·) (salt ++ replicate (x.length - salt.length) 0) x := by
  apply ext_getElem
  · simp [xorSalt]
    omega
  · intro i hi hi'
    have hx : i < x.length := by simpa [xorSalt] using hi
    by_cases hsalt : i < salt.length
    · simp [xorSalt, hsalt, getElem_append_left, UInt8.xor_comm]
    · rw [getElem_zipWith, getElem_append_right (Nat.le_of_not_lt hsalt),
        getElem_replicate]
      simp [xorSalt, hsalt]

theorem bigEndian_xorSalt {x : Bytes} (hsalt : salt.length = 14) (hx : x.length = 16) :
    bigEndian (xorSalt 14 salt x) = bigEndian salt * 2 ^ 16 ^^^ bigEndian x := by
  have hle : salt.length ≤ x.length := by omega
  have hloop := xorSalt_eq_zipWith hle
  rw [hsalt, hx] at hloop
  rw [hloop, bigEndian_zipWith_xor (by simp [hsalt, hx]), bigEndian_append_zeros]

theorem bigEndian_ssrcBlock {ssrc : Nat} (hssrc : ssrc < 2 ^ 32) {low : Bytes}
    (hlow : low.length = 8) :
    bigEndian ([0, 0, 0, 0] ++ writeU32 ssrc ++ low) = ssrc * 2 ^ 64 ^^^ bigEndian low := by
  have hlt := bigEndian_lt low
  rw [hlow] at hlt
  rw [bigEndian_append, bigEndian_append, bigEndian_writeU32 hssrc, hlow, mul_two_pow_xor ssrc hlt]
  simp [bigEndian]

theorem bigEndian_srtpAesCmIv (hsalt : salt.length = 14) (ssrc roc : UInt32) (seq : UInt16) :
    bigEndian (srtpAesCmIv salt ⟨ssrc.toNat, roc.toNat, seq.toNat⟩)
      = counterBlock (bigEndian salt) ssrc.toNat (roc.toNat * 2 ^ 16 + seq.toNat) := by
  have hlow : bigEndian (writeU32 roc.toNat ++ (writeU16 seq.toNat ++ [0, 0]))
      = (roc.toNat * 2 ^ 16 + seq.toNat) * 2 ^ 16 := by
    rw [bigEndian_append, bigEndian_append, bigEndian_writeU32 roc.toNat_lt,
      bigEndian_writeU16 seq.toNat_lt]
    show roc.toNat * 2 ^ 32 + (seq.toNat * 2 ^ 16 + 0) = _
    ring
  unfold srtpAesCmIv counterBlock
  rw [bigEndian_xorSalt hsalt rfl, append_assoc ([0, 0, 0, 0] ++ writeU32 ssrc.toNat),
    append_assoc ([0, 0, 0, 0] ++ writeU32 ssrc.toNat), bigEndian_ssrcBlock ssrc.toNat_lt rfl,
    append_assoc, hlow, Nat.xor_assoc]

theorem bigEndian_srtcpAesCmIv (hsalt : salt.length = 14) (ssrc : UInt32)
    {index : Nat} (hindex : index < 2 ^ 31) :
    bigEndian (srtcpAesCmIv salt ssrc.toNat index)
      = bigEndian salt * 2 ^ 16 ^^^ ssrc.toNat * 2 ^ 64 ^^^ index * 2 ^ 32 := by
  have hlow : bigEndian (writeU32 index ++ [0, 0, 0, 0]) = index * 2 ^ 32 := by
    have hzeros := bigEndian_append_zeros (writeU32 index) 4
    rw [bigEndian_writeU32 (by omega)] at hzeros
    exact hzeros
  unfold srtcpAesCmIv
  rw [bigEndian_xorSalt hsalt rfl, append_assoc ([0, 0, 0, 0] ++ writeU32 ssrc.toNat),
    bigEndian_ssrcBlock ssrc.toNat_lt rfl, hlow, Nat.xor_assoc]

/-- **The counter blocks against the standard.** -/
theorem counterBlock_of_standard {salt : Bytes} (hsalt : salt.length = 14) (ssrc : UInt32) :
    (∀ (roc : UInt32) (seq : UInt16),
      bigEndian (srtpAesCmIv salt ⟨ssrc.toNat, roc.toNat, seq.toNat⟩)
        = counterBlock (bigEndian salt) ssrc.toNat (roc.toNat * 2 ^ 16 + seq.toNat))
    ∧ ∀ index < 2 ^ 31, bigEndian (srtcpAesCmIv salt ssrc.toNat index)
        = counterBlock (bigEndian salt) ssrc.toNat index ↔ index = 0 := by
  refine ⟨bigEndian_srtpAesCmIv hsalt ssrc, fun index hindex => ?_⟩
  rw [bigEndian_srtcpAesCmIv hsalt ssrc hindex, counterBlock,
    (xor_right_involutive _).injective.eq_iff]
  omega

def exampleSalt : Bytes :=
  [0xF0, 0xF1, 0xF2, 0xF3, 0xF4, 0xF5, 0xF6, 0xF7, 0xF8, 0xF9, 0xFA, 0xFB, 0xFC, 0xFD]

theorem exampleSalt_counterBlock :
    bigEndian (srtpAesCmIv exampleSalt ⟨0xDEADBEEF, 7, 0x1234⟩)
        = counterBlock (bigEndian exampleSalt) 0xDEADBEEF (7 * 2 ^ 16 + 0x1234)
      ∧ bigEndian (srtcpAesCmIv exampleSalt 0xDEADBEEF 0)
        = counterBlock (bigEndian exampleSalt) 0xDEADBEEF 0 :=
  have h := counterBlock_of_standard (show exampleSalt.length = 14 from rfl) 0xDEADBEEF
  ⟨h.1 7 0x1234, (h.2 0 (by decide)).mpr rfl⟩

/-- The second packet of SRTCP already has another counter block. -/
theorem srtcp_counterBlock_misplaced :
    bigEndian (srtcpAesCmIv exampleSalt 0xDEADBEEF 1)
      ≠ counterBlock (bigEndian exampleSalt) 0xDEADBEEF 1 := by
  decide

end Mrtc
