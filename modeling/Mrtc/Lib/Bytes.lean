import Mathlib.Data.List.GetD
import Mathlib.Tactic

/-! # Byte strings and network byte order

A packet is a `List UInt8`.
-/

namespace Net

abbrev Bytes := List UInt8

def byteAt (b : Bytes) (i : Nat) : Nat := (b.getD i 0).toNat

def readU16 (b : Bytes) (i : Nat) : Nat := byteAt b i * 2 ^ 8 + byteAt b (i + 1)

def readU24 (b : Bytes) (i : Nat) : Nat :=
  byteAt b i * 2 ^ 16 + byteAt b (i + 1) * 2 ^ 8 + byteAt b (i + 2)

def readU32 (b : Bytes) (i : Nat) : Nat :=
  byteAt b i * 2 ^ 24 + byteAt b (i + 1) * 2 ^ 16 + byteAt b (i + 2) * 2 ^ 8 + byteAt b (i + 3)

def writeU16 (v : Nat) : Bytes := [UInt8.ofNat (v / 2 ^ 8), UInt8.ofNat v]

def writeU24 (v : Nat) : Bytes :=
  [UInt8.ofNat (v / 2 ^ 16), UInt8.ofNat (v / 2 ^ 8), UInt8.ofNat v]

def writeU32 (v : Nat) : Bytes :=
  [UInt8.ofNat (v / 2 ^ 24), UInt8.ofNat (v / 2 ^ 16), UInt8.ofNat (v / 2 ^ 8), UInt8.ofNat v]

/-! ## Bounds -/

theorem byteAt_lt (b : Bytes) (i : Nat) : byteAt b i < 2 ^ 8 := UInt8.toNat_lt _

theorem readU16_lt (b : Bytes) (i : Nat) : readU16 b i < 2 ^ 16 := by
  have h0 := byteAt_lt b i
  have h1 := byteAt_lt b (i + 1)
  unfold readU16
  omega

@[simp] theorem writeU16_length (v : Nat) : (writeU16 v).length = 2 := rfl

@[simp] theorem writeU24_length (v : Nat) : (writeU24 v).length = 3 := rfl

@[simp] theorem writeU32_length (v : Nat) : (writeU32 v).length = 4 := rfl

/-! ## Reading inside a concatenation -/

theorem readU32_lt (b : Bytes) (i : Nat) : readU32 b i < 2 ^ 32 := by
  have h0 := byteAt_lt b i
  have h1 := byteAt_lt b (i + 1)
  have h2 := byteAt_lt b (i + 2)
  have h3 := byteAt_lt b (i + 3)
  unfold readU32
  omega

variable {a b : Bytes} {i n v : Nat}

theorem byteAt_append_left (h : i < a.length) : byteAt (a ++ b) i = byteAt a i := by
  unfold byteAt
  rw [List.getD_append _ _ _ _ h]

theorem byteAt_append_right (h : a.length ≤ i) : byteAt (a ++ b) i = byteAt b (i - a.length) := by
  unfold byteAt
  rw [List.getD_append_right _ _ _ _ h]

theorem readU16_append_left (h : i + 1 < a.length) : readU16 (a ++ b) i = readU16 a i := by
  unfold readU16
  rw [byteAt_append_left (by omega), byteAt_append_left h]

theorem readU32_append_left (h : i + 3 < a.length) : readU32 (a ++ b) i = readU32 a i := by
  unfold readU32
  rw [byteAt_append_left (by omega), byteAt_append_left (by omega),
    byteAt_append_left (by omega), byteAt_append_left h]

theorem readU16_append_right (h : a.length ≤ i) :
    readU16 (a ++ b) i = readU16 b (i - a.length) := by
  unfold readU16
  rw [byteAt_append_right h, byteAt_append_right (by omega),
    show i + 1 - a.length = i - a.length + 1 by omega]

theorem readU32_append_right (h : a.length ≤ i) :
    readU32 (a ++ b) i = readU32 b (i - a.length) := by
  unfold readU32
  rw [byteAt_append_right h, byteAt_append_right (by omega), byteAt_append_right (by omega),
    byteAt_append_right (by omega), show i + 1 - a.length = i - a.length + 1 by omega,
    show i + 2 - a.length = i - a.length + 2 by omega,
    show i + 3 - a.length = i - a.length + 3 by omega]

theorem byteAt_take (h : i < n) : byteAt (b.take n) i = byteAt b i := by
  simp [byteAt, List.getD, h]

theorem readU16_take (h : i + 1 < n) : readU16 (b.take n) i = readU16 b i := by
  unfold readU16
  rw [byteAt_take (by omega), byteAt_take h]

theorem readU32_take (h : i + 3 < n) : readU32 (b.take n) i = readU32 b i := by
  unfold readU32
  rw [byteAt_take (by omega), byteAt_take (by omega), byteAt_take (by omega), byteAt_take h]

/-! ## Reading what was written -/

theorem readU16_writeU16 (h : v < 2 ^ 16) (rest : Bytes) : readU16 (writeU16 v ++ rest) 0 = v := by
  simp [readU16, writeU16, byteAt]
  omega

theorem readU24_writeU24 (h : v < 2 ^ 24) (rest : Bytes) : readU24 (writeU24 v ++ rest) 0 = v := by
  simp [readU24, writeU24, byteAt]
  omega

theorem readU32_writeU32 (h : v < 2 ^ 32) (rest : Bytes) : readU32 (writeU32 v ++ rest) 0 = v := by
  simp [readU32, writeU32, byteAt]
  omega

theorem writeU32_readU32 {ip : Bytes} (h : ip.length = 4) : writeU32 (readU32 ip 0) = ip := by
  match ip, h with
  | [a, b, c, d], _ =>
    have ha := a.toNat_lt
    have hb := b.toNat_lt
    have hc := c.toNat_lt
    have hd := d.toNat_lt
    simp only [writeU32, readU32, byteAt, List.cons.injEq, ← UInt8.toNat_inj, UInt8.toNat_ofNat']
    simp
    omega

end Net
