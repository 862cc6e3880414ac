import Mrtc.Lib.Bytes
import Mrtc.Lib.PowerOfTwo
import Mrtc.Lib.SlotTable

/-! # Packets kept for retransmission (`rtc_nack_buf.c`)

A sender keeps the packets it sent in a ring of slots, by the low bits of their sequence numbers.
-/

namespace Mrtc

open Net List

def nackBufDefaultSize : Nat := 512
def nackBufMaxPktSize : Nat := 1500
def rtcNackMaxRetransmits : Nat := 10

/-! ## The source -/

def nextPow2 (v : Nat) : Nat :=
  let v := v - 1
  -- the bits below the highest one become ones
  let v := v ||| v >>> 1
  let v := v ||| v >>> 2
  let v := v ||| v >>> 4
  let v := v ||| v >>> 8
  let v := v ||| v >>> 16
  let v := v + 1
  if v < 2 then 2 else v

structure NackSlot where
  data : Bytes := []
  seq : UInt16 := 0
  twccSeq : UInt16 := 0
  retransmitCount : Nat := 0
  hasTwcc : Bool := false
  used : Bool := false
  deriving DecidableEq

structure NackBuf where
  slots : List NackSlot
  capacity : Nat
  mask : Nat
  deriving DecidableEq

def rtcNackBufCreate (maxPackets : Int) (alloc : Bool) : Option NackBuf :=
  let maxPackets := if maxPackets ≤ 0 then nackBufDefaultSize else maxPackets.toNat
  let capacity := nextPow2 maxPackets
  if alloc then
    some { slots := replicate capacity {}, capacity := capacity, mask := capacity - 1 }
  else none

structure NackStore where
  data : Bytes
  seq : UInt16
  hasTwcc : Bool
  twccSeq : UInt16
  deriving DecidableEq

def NackBuf.index (buf : NackBuf) (seq : UInt16) : Nat := seq.toNat &&& buf.mask

def NackStore.slot (p : NackStore) : NackSlot :=
  { data := p.data, seq := p.seq, twccSeq := p.twccSeq, retransmitCount := 0, hasTwcc := p.hasTwcc,
    used := true }

def rtcNackBufStore (buf : NackBuf) (p : NackStore) : NackBuf :=
  if p.data.length = 0 ∨ nackBufMaxPktSize < p.data.length then buf
  else { buf with slots := buf.slots.modify (buf.index p.seq) fun _ => p.slot }

def rtcNackBufGet (buf : NackBuf) (seq : UInt16) : Option Bytes :=
  (buf.slots[buf.index seq]?).bind fun slot =>
    if !slot.used || slot.seq != seq then none else some slot.data

def NackSlot.retransmits (slot : NackSlot) (seq : UInt16) : Bool :=
  slot.used && slot.seq == seq && decide (slot.retransmitCount < rtcNackMaxRetransmits)

def NackSlot.retransmitted (slot : NackSlot) (seq : UInt16) : NackSlot :=
  if slot.retransmits seq then { slot with retransmitCount := slot.retransmitCount + 1 } else slot

def rtcNackBufRetransmit (buf : NackBuf) (seq : UInt16) : Option (Bytes × UInt16) × NackBuf :=
  ((buf.slots[buf.index seq]?).bind fun slot =>
      if slot.retransmits seq then some (slot.data, if slot.hasTwcc then slot.twccSeq else 0)
      else none,
    { buf with slots := buf.slots.modify (buf.index seq) (·.retransmitted seq) })

/-! ## Runs -/

inductive NackOp where
  | store (p : NackStore)
  | retransmit (seq : UInt16)
  deriving DecidableEq

def nackStep (buf : NackBuf) : NackOp → NackBuf
  | .store p => rtcNackBufStore buf p
  | .retransmit seq => (rtcNackBufRetransmit buf seq).2

def NackOp.seq : NackOp → UInt16
  | .store p => p.seq
  | .retransmit seq => seq

def lastStoredStep (capacity place : Nat) (op : NackOp) (held : Option (NackStore × Nat)) :
    Option (NackStore × Nat) :=
  if op.seq.toNat % capacity ≠ place then held
  else
    match op with
    | .store p => some (p, 0)
    | .retransmit seq => held.map fun h => (h.1, if h.1.seq = seq then h.2 + 1 else h.2)

/-- Of the packets that were stored with the same number modulo the capacity, the last one, and how
often it was asked for since. -/
def lastStored (capacity : Nat) (seq : UInt16) (ops : List NackOp) : Option (NackStore × Nat) :=
  ops.foldl (fun held op => lastStoredStep capacity (seq.toNat % capacity) op held) none

theorem lastStored_append_singleton (capacity : Nat) (seq : UInt16) (ops : List NackOp)
    (op : NackOp) :
    lastStored capacity seq (ops ++ [op])
      = lastStoredStep capacity (seq.toNat % capacity) op (lastStored capacity seq ops) :=
  foldl_append ..

variable {ops : List NackOp} {buf : NackBuf}

theorem lastStored_split {capacity asked : Nat} {seq : UInt16} {p : NackStore}
    (h : lastStored capacity seq ops = some (p, asked)) :
    ∃ before after, ops = before ++ .store p :: after
      ∧ p.seq.toNat % capacity = seq.toNat % capacity
      ∧ (∀ q, .store q ∈ after → q.seq.toNat % capacity ≠ seq.toNat % capacity)
      ∧ asked = after.count (.retransmit p.seq) := by
  -- the account is kept from the left, so the last operation is the one to split off
  induction ops using List.reverseRecOn generalizing asked with
  | nil => cases h
  | append_singleton ops op ih =>
    rw [lastStored_append_singleton] at h
    unfold lastStoredStep at h
    split at h
    · -- the operation is on another slot
      rename_i hother
      obtain ⟨before, after, rfl, hplace, hnone, hasked⟩ := ih h
      refine ⟨before, after ++ [op], by simp, hplace, fun q hq => ?_, ?_⟩
      · rcases mem_append.mp hq with hq | hq
        · exact hnone q hq
        · cases mem_singleton.mp hq
          exact hother
      · have hne : op ≠ .retransmit p.seq := by
          rintro rfl
          exact hother hplace
        rw [count_append, count_singleton, if_neg (by simpa using hne), hasked]
        rfl
    · rename_i hsame
      cases op with
      | store q =>
        cases h
        exact ⟨ops, [], rfl, not_not.mp hsame, by simp, rfl⟩
      | retransmit seq' =>
        cases hheld : lastStored capacity seq ops with
        | none =>
          rw [hheld] at h
          cases h
        | some held =>
          obtain ⟨p', asked'⟩ := held
          rw [hheld] at h
          simp only [Option.map_some, Option.some.injEq, Prod.mk.injEq] at h
          obtain ⟨rfl, hasked⟩ := h
          obtain ⟨before, after, rfl, hplace, hnone, rfl⟩ := ih hheld
          refine ⟨before, after ++ [.retransmit seq'], by simp, hplace, fun q hq => ?_, ?_⟩
          · grind
          · grind

/-! ## The capacity -/

open PowerOfTwo

theorem nextPow2_spec {v : Nat} (hpos : 1 ≤ v) (hlt : v ≤ 2 ^ 32) :
    ∃ k, nextPow2 v = 2 ^ k ∧ v ≤ 2 ^ k ∧ (2 ^ k = 2 ∨ 2 ^ k < 2 * v) := by
  unfold nextPow2
  dsimp only
  by_cases hone : v - 1 = 0
  · rw [hone]
    exact ⟨1, by decide, by omega, .inl rfl⟩
  · have hsize : Nat.log2 (v - 1) + 1 ≤ 32 := (Nat.log2_lt hone).mpr (by omega)
    -- five doublings fill up to 32 bits
    have hfull := ((((Filled.of_pos hone).double.double).double).double).double.eq_of_size_le hsize
    have hlow := Nat.log2_self_le hone
    have hhigh := Nat.lt_log2_self (n := v - 1)
    have hpow : 2 ^ (Nat.log2 (v - 1) + 1) = 2 * 2 ^ Nat.log2 (v - 1) := by
      rw [Nat.pow_succ, Nat.mul_comm]
    have htwo := Nat.two_pow_pos (Nat.log2 (v - 1))
    rw [hfull, Nat.sub_add_cancel (by omega), if_neg (by omega)]
    exact ⟨_, rfl, by omega, .inr (by omega)⟩

structure NackBuf.New (buf : NackBuf) : Prop where
  slots : buf.slots = replicate buf.capacity {}
  capacity_pos : 0 < buf.capacity
  index : ∀ seq, buf.index seq = seq.toNat % buf.capacity

theorem rtcNackBufCreate_spec {requested : Nat} (hpos : 1 ≤ requested) (hlt : requested ≤ 2 ^ 32) :
    ∃ buf, rtcNackBufCreate requested true = some buf ∧ buf.New
      ∧ (∃ k, buf.capacity = 2 ^ k) ∧ requested ≤ buf.capacity
      ∧ (buf.capacity = 2 ∨ buf.capacity < 2 * requested) := by
  obtain ⟨k, heq, hle, hleast⟩ := nextPow2_spec hpos hlt
  have hrequest : (if (requested : Int) ≤ 0 then nackBufDefaultSize else (requested : Int).toNat)
      = requested := by
    rw [if_neg (by omega), Int.toNat_natCast]
  have hcreate : rtcNackBufCreate requested true
      = some { slots := replicate (2 ^ k) {}, capacity := 2 ^ k, mask := 2 ^ k - 1 } := by
    rw [rtcNackBufCreate, hrequest, heq]
    rfl
  refine ⟨_, hcreate, ⟨rfl, Nat.two_pow_pos k, fun seq => ?_⟩, ⟨k, rfl⟩, hle, hleast⟩
  exact Nat.and_two_pow_sub_one_eq_mod _ _

/-! ## The refinement -/

def NackSlot.Represents (slot : NackSlot) : Option (NackStore × Nat) → Prop
  | none => slot.used = false
  | some (p, asked) =>
    slot = { p.slot with retransmitCount := min asked rtcNackMaxRetransmits }

theorem NackSlot.Represents.retransmits_iff {slot : NackSlot} {p : NackStore} {asked : Nat}
    (h : slot.Represents (some (p, asked))) (seq : UInt16) :
    slot.retransmits seq = true ↔ p.seq = seq ∧ asked < rtcNackMaxRetransmits := by
  have hslot : slot = _ := h
  rw [hslot]
  simp [NackSlot.retransmits, NackStore.slot]

def nackAct : NackOp → NackSlot → NackSlot
  | .store p, _ => p.slot
  | .retransmit seq, slot => slot.retransmitted seq

theorem nackAct_represents {capacity place : Nat} (op : NackOp) (slot : NackSlot)
    (held : Option (NackStore × Nat)) (hplace : op.seq.toNat % capacity = place)
    (h : slot.Represents held) :
    (nackAct op slot).Represents (lastStoredStep capacity place op held) := by
  unfold lastStoredStep
  rw [if_neg (not_not.mpr hplace)]
  cases op with
  | store p => rfl
  | retransmit seq =>
    show (slot.retransmitted seq).Represents _
    cases held with
    | none =>
      have hunused : slot.used = false := h
      have hstays : slot.retransmitted seq = slot := by
        simp [NackSlot.retransmitted, NackSlot.retransmits, hunused]
      rwa [hstays]
    | some held =>
      obtain ⟨p, asked⟩ := held
      have hslot : slot = _ := h
      have hiff := h.retransmits_iff seq
      dsimp only [Option.map_some]
      unfold NackSlot.retransmitted
      -- both counters grow, until the slot's stops at ten
      by_cases hsends : slot.retransmits seq = true
      · obtain ⟨hseq, hfew⟩ := hiff.mp hsends
        rw [if_pos hsends, if_pos hseq]
        show _ = _
        rw [hslot, Nat.min_eq_left (by omega), Nat.min_eq_left (by omega)]
      · rw [if_neg hsends]
        show slot = _
        rw [hslot]
        split
        · -- it has been sent ten times already
          rename_i hseq
          have hmany : rtcNackMaxRetransmits ≤ asked := by
            by_contra hfew
            exact hsends (hiff.mpr ⟨hseq, by omega⟩)
          rw [Nat.min_eq_right hmany, Nat.min_eq_right (by omega)]
        · rfl

def NackOp.Fits : NackOp → Prop
  | .store p => 1 ≤ p.data.length ∧ p.data.length ≤ nackBufMaxPktSize
  | .retransmit _ => True

theorem nackRun_eq (hfit : ∀ op ∈ ops, op.Fits) :
    ops.foldl nackStep buf
      = { buf with
          slots := SlotTable.run (fun op => buf.index op.seq) nackAct buf.slots ops } := by
  induction ops generalizing buf with
  | nil => rfl
  | cons op ops ih =>
    have hstep : nackStep buf op
        = { buf with slots := buf.slots.modify (buf.index op.seq) (nackAct op) } := by
      cases op with
      | store p =>
        have hp : NackOp.Fits (.store p) := hfit _ mem_cons_self
        exact if_neg (by have := hp.1; have := hp.2; omega)
      | retransmit seq => rfl
    rw [foldl_cons, hstep, ih fun op hop => hfit op (mem_cons_of_mem _ hop)]
    rfl

theorem nackRun_represents (hnew : buf.New) (hfit : ∀ op ∈ ops, op.Fits) (seq : UInt16) :
    ∃ slot, (ops.foldl nackStep buf).slots[(ops.foldl nackStep buf).index seq]? = some slot
      ∧ slot.Represents (lastStored buf.capacity seq ops) := by
  have hempty : buf.slots[buf.index seq]? = some {} := by
    rw [hnew.slots, getElem?_replicate, hnew.index, if_pos (Nat.mod_lt _ hnew.capacity_pos)]
  have hfresh : NackSlot.Represents {} none := rfl
  rw [nackRun_eq hfit]
  refine SlotTable.run_rel (fun op held hother => ?_) (fun op slot held hsame hrep => ?_) hempty
    hfresh ops
  · exact if_pos fun hsame => hother (by rwa [hnew.index, hnew.index])
  · rw [hnew.index, hnew.index] at hsame
    exact nackAct_represents op slot held hsame hrep

namespace NackSlot.Represents

variable {slot : NackSlot} {held : Option (NackStore × Nat)}

theorem get_eq (h : slot.Represents held) (seq : UInt16) :
    (if !slot.used || slot.seq != seq then none else some slot.data)
      = (held.filter fun h => h.1.seq = seq).map fun h => h.1.data := by
  cases held with
  | none =>
    have hunused : slot.used = false := h
    simp [hunused]
  | some held =>
    obtain ⟨p, asked⟩ := held
    have hslot : slot = _ := h
    rw [hslot]
    by_cases hseq : p.seq = seq <;> simp [NackStore.slot, hseq]

theorem retransmit_eq (h : slot.Represents held) (seq : UInt16) :
    (if slot.retransmits seq then some (slot.data, if slot.hasTwcc then slot.twccSeq else 0)
      else none)
      = (held.filter fun h => h.1.seq = seq ∧ h.2 < rtcNackMaxRetransmits).map fun h =>
          (h.1.data, if h.1.hasTwcc then h.1.twccSeq else 0) := by
  cases held with
  | none =>
    have hunused : slot.used = false := h
    simp [hunused, NackSlot.retransmits]
  | some held =>
    obtain ⟨p, asked⟩ := held
    have hslot : slot = _ := h
    have hiff := h.retransmits_iff seq
    by_cases hsends : slot.retransmits seq = true
    · rw [if_pos hsends, hslot]
      simp [NackStore.slot, hiff.mp hsends]
    · grind

end NackSlot.Represents

theorem nackRun_retransmit (hnew : buf.New) (hfit : ∀ op ∈ ops, op.Fits) (seq : UInt16) :
    (rtcNackBufRetransmit (ops.foldl nackStep buf) seq).1
      = ((lastStored buf.capacity seq ops).filter fun h =>
          h.1.seq = seq ∧ h.2 < rtcNackMaxRetransmits).map fun h =>
            (h.1.data, if h.1.hasTwcc then h.1.twccSeq else 0) := by
  obtain ⟨slot, hslot, hrep⟩ := nackRun_represents hnew hfit seq
  rw [rtcNackBufRetransmit, hslot]
  exact hrep.retransmit_eq seq

/-- **The ring answers by the packet stored last.** -/
theorem nackBuf_refines {requested : Nat} (hpos : 1 ≤ requested) (hlt : requested ≤ 2 ^ 16)
    {ops : List NackOp} (hfit : ∀ op ∈ ops, op.Fits) (seq : UInt16) :
    ∃ buf, rtcNackBufCreate requested true = some buf
      ∧ ((∃ k, buf.capacity = 2 ^ k) ∧ requested ≤ buf.capacity
        ∧ (buf.capacity = 2 ∨ buf.capacity < 2 * requested))
      ∧ rtcNackBufGet (ops.foldl nackStep buf) seq
        = ((lastStored buf.capacity seq ops).filter fun h => h.1.seq = seq).map (fun h => h.1.data)
      ∧ (rtcNackBufRetransmit (ops.foldl nackStep buf) seq).1
        = ((lastStored buf.capacity seq ops).filter fun h =>
            h.1.seq = seq ∧ h.2 < rtcNackMaxRetransmits).map fun h =>
              (h.1.data, if h.1.hasTwcc then h.1.twccSeq else 0) := by
  obtain ⟨buf, hcreate, hnew, hcapacity⟩ := rtcNackBufCreate_spec hpos (hlt.trans (by decide))
  obtain ⟨slot, hslot, hrep⟩ := nackRun_represents hnew hfit seq
  refine ⟨buf, hcreate, hcapacity, ?_, nackRun_retransmit hnew hfit seq⟩
  rw [rtcNackBufGet, hslot]
  exact hrep.get_eq seq

def nackStoreOf (byte : UInt8) (seq twccSeq : UInt16) : NackStore :=
  { data := [byte], seq := seq, hasTwcc := true, twccSeq := twccSeq }

def nineRequests : List NackOp :=
  [.store (nackStoreOf 7 1 40), .store (nackStoreOf 8 5 41)] ++ replicate 9 (.retransmit 5)

theorem nineRequests_refines :
    (∀ op ∈ nineRequests, op.Fits)
      ∧ ∃ buf, rtcNackBufCreate 3 true = some buf ∧ buf.capacity = 4
        ∧ rtcNackBufGet (nineRequests.foldl nackStep buf) 1 = none
        ∧ (rtcNackBufRetransmit (nineRequests.foldl nackStep buf) 5).1 = some ([8], 41)
        ∧ (rtcNackBufRetransmit ((nineRequests ++ [NackOp.retransmit 5]).foldl nackStep buf) 5).1
          = none := by
  have hstores : ∀ op ∈ nineRequests ++ [.retransmit 5], op.Fits := by
    intro op hop
    simp only [nineRequests, cons_append, nil_append, mem_cons, mem_append,
      mem_replicate, not_mem_nil, or_false] at hop
    rcases hop with rfl | rfl | (⟨-, rfl⟩ | rfl)
    · exact ⟨by decide, by decide⟩
    · exact ⟨by decide, by decide⟩
    · trivial
    · trivial
  have hfit : ∀ op ∈ nineRequests, op.Fits := fun op hop => hstores op (mem_append_left _ hop)
  have hbuf : rtcNackBufCreate 3 true
      = some { slots := replicate 4 {}, capacity := 4, mask := 3 } := by decide
  obtain ⟨buf, hcreate, -, hone, -⟩ := nackBuf_refines (by decide : 1 ≤ 3) (by decide) hfit 1
  obtain ⟨_, hcreate', -, -, hnine⟩ := nackBuf_refines (by decide : 1 ≤ 3) (by decide) hfit 5
  obtain ⟨_, hcreate'', -, -, hten⟩ := nackBuf_refines (by decide : 1 ≤ 3) (by decide) hstores 5
  cases hbuf.symm.trans hcreate
  cases hbuf.symm.trans hcreate'
  cases hbuf.symm.trans hcreate''
  exact ⟨hfit, _, hbuf, rfl, hone.trans (by decide), hnine.trans (by decide),
    hten.trans (by decide)⟩

end Mrtc
