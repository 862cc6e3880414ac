import Mathlib.Logic.Function.Iterate
import Mathlib.Tactic
import Mrtc.Lib.Bytes

/-! # CRC-32

The reflected CRC-32 of IEEE 802.3, defined bit by bit (`crc32`), and the computation byte by byte
with a table of the 256 possible effects of a byte (`crc32Tabled`), which gives the same
(`crc32Tabled_eq`): a bit step is linear, and the bits above the lowest byte are only shifted.
-/

namespace Crc

open Net

def poly : BitVec 32 := 0xEDB88320

def bitStep (x : BitVec 32) : BitVec 32 := (x >>> 1) ^^^ (if x.getLsbD 0 then poly else 0)

def byteStep (crc : BitVec 32) (b : UInt8) : BitVec 32 :=
  bitStep^[8] (crc ^^^ b.toBitVec.setWidth 32)

def crc32 (data : Bytes) : BitVec 32 := data.foldl byteStep 0xFFFFFFFF ^^^ 0xFFFFFFFF

def tableStep (table : Nat → BitVec 32) (crc : BitVec 32) (b : UInt8) : BitVec 32 :=
  table ((crc ^^^ b.toBitVec.setWidth 32).toNat % 256) ^^^ (crc >>> 8)

def crc32Tabled (table : Nat → BitVec 32) (data : Bytes) : BitVec 32 :=
  data.foldl (tableStep table) 0xFFFFFFFF ^^^ 0xFFFFFFFF

/-! ## Linearity -/

theorem bitStep_xor (x y : BitVec 32) : bitStep (x ^^^ y) = bitStep x ^^^ bitStep y := by
  have hbit : (x ^^^ y).getLsbD 0 = (x.getLsbD 0 ^^ y.getLsbD 0) := BitVec.getLsbD_xor
  have hshift : (x ^^^ y) >>> 1 = (x >>> 1) ^^^ (y >>> 1) := BitVec.ushiftRight_xor_distrib x y 1
  unfold bitStep
  rw [hbit, hshift]
  -- the polynomial is added for each of the two lowest bits, and twice is not at all
  have htwice : ∀ u v : BitVec 32, (u ^^^ poly) ^^^ (v ^^^ poly) = u ^^^ v := by
    intro u v
    rw [BitVec.xor_comm v poly, ← BitVec.xor_assoc, BitVec.xor_assoc u, BitVec.xor_self,
      BitVec.xor_zero]
  cases x.getLsbD 0 with
  | false =>
    cases y.getLsbD 0 with
    | false => simp
    | true => simp [BitVec.xor_assoc]
  | true =>
    cases y.getLsbD 0 with
    | false =>
      simp
      ac_rfl
    | true => simp [htwice]

theorem iterate_bitStep_xor (n : Nat) (x y : BitVec 32) :
    bitStep^[n] (x ^^^ y) = bitStep^[n] x ^^^ bitStep^[n] y := by
  induction n generalizing x y with
  | zero => rfl
  | succ n ih => grind [Function.iterate_succ_apply, bitStep_xor]

theorem iterate_bitStep_of_zeros {n : Nat} {x : BitVec 32} (h : ∀ i < n, x.getLsbD i = false) :
    bitStep^[n] x = x >>> n := by
  induction n generalizing x with
  | zero => simp
  | succ n ih =>
    have hstep : bitStep x = x >>> 1 := by
      rw [bitStep, h 0 (by omega), if_neg Bool.false_ne_true]
      exact BitVec.xor_zero
    have hrest : ∀ i < n, (x >>> 1).getLsbD i = false := by
      intro i hi
      rw [BitVec.getLsbD_ushiftRight]
      exact h (1 + i) (by omega)
    rw [Function.iterate_succ_apply, hstep, ih hrest, ← BitVec.shiftRight_add, Nat.add_comm]

theorem eq_low_xor_high (x : BitVec 32) : x = (x.setWidth 8).setWidth 32 ^^^ ((x >>> 8) <<< 8) := by
  apply BitVec.eq_of_getLsbD_eq
  intro i hi
  rw [BitVec.getLsbD_xor, BitVec.getLsbD_setWidth, BitVec.getLsbD_setWidth,
    BitVec.getLsbD_shiftLeft, BitVec.getLsbD_ushiftRight]
  by_cases hlow : i < 8
  · simp [hi, hlow]
  · simp [hi, hlow, show 8 + (i - 8) = i by omega]

theorem tableStep_eq {table : Nat → BitVec 32}
    (htable : ∀ i < 256, table i = bitStep^[8] (BitVec.ofNat 32 i)) (crc : BitVec 32) (b : UInt8) :
    tableStep table crc b = byteStep crc b := by
  let x := crc ^^^ b.toBitVec.setWidth 32
  have hlow : BitVec.ofNat 32 (x.toNat % 256) = (x.setWidth 8).setWidth 32 := by
    apply BitVec.eq_of_toNat_eq
    simp
  have hhigh : bitStep^[8] ((x >>> 8) <<< 8) = x >>> 8 := by
    rw [iterate_bitStep_of_zeros]
    · grind
    · intro i hi
      simp [hi]
  -- the byte has no bits above the lowest eight
  have hshift : x >>> 8 = crc >>> 8 := by grind
  calc tableStep table crc b = table (x.toNat % 256) ^^^ (crc >>> 8) := rfl
    _ = bitStep^[8] ((x.setWidth 8).setWidth 32) ^^^ (crc >>> 8) := by
        rw [htable _ (Nat.mod_lt _ (by decide)), hlow]
    _ = bitStep^[8] ((x.setWidth 8).setWidth 32) ^^^ bitStep^[8] ((x >>> 8) <<< 8) := by
        rw [hhigh, hshift]
    _ = bitStep^[8] x := by
        rw [← iterate_bitStep_xor, ← eq_low_xor_high]
    _ = byteStep crc b := rfl

theorem crc32Tabled_eq {table : Nat → BitVec 32}
    (htable : ∀ i < 256, table i = bitStep^[8] (BitVec.ofNat 32 i)) (data : Bytes) :
    crc32Tabled table data = crc32 data := by
  have hstep : tableStep table = byteStep := by
    funext crc b
    exact tableStep_eq htable crc b
  rw [crc32Tabled, crc32, hstep]

end Crc
