import Mathlib.Data.List.Sort
import Mrtc.Rtcp.Session

/-! # Lost packets, asked for again (`rtc_rtcp.c`)

`rtc_rtcp_build_nack` sorts the numbers of the lost packets and packs them into entries of a number
and a mask for the 16 numbers behind it, as many as fit the array of entries. `nack_roundTrip` says
which of them the parser finds in the packet.
-/

namespace Mrtc

open Net List

/-! ## The source -/

structure NackFci where
  pid : UInt16
  blp : Nat
  deriving DecidableEq

def nackMask (pid : UInt16) (blp : Nat) : List UInt16 → Nat × List UInt16
  | [] => (blp, [])
  | seq :: seqs =>
    let diff : Int := seq.toNat - pid.toNat
    if 1 ≤ diff ∧ diff ≤ 16 then nackMask pid (blp ||| 1 <<< (diff - 1).toNat) seqs
    else (blp, seq :: seqs)

def nackPack : (room : Nat) → List UInt16 → List NackFci × List UInt16
  | 0, seqs => ([], seqs)
  | _ + 1, [] => ([], [])
  | room + 1, pid :: seqs =>
    let mask := nackMask pid 0 seqs
    let packed := nackPack room mask.2
    (⟨pid, mask.1⟩ :: packed.1, packed.2)

def NackFci.bytes (fci : NackFci) : Bytes := writeU16 fci.pid.toNat ++ writeU16 fci.blp

def nackEntries (lost : List UInt16) : List NackFci × List UInt16 :=
  nackPack rtcpNackMaxFcis ((lost.take rtcpNackMaxSeqs).insertionSort (· ≤ ·))

def rtcRtcpBuildNack (bufCap : Nat) (senderSsrc mediaSsrc : UInt32) (lost : List UInt16) :
    Except RtcErr Bytes :=
  if lost.length = 0 then .error .invalid
  else
    let fcis := (nackEntries lost).1
    let pktLen := 12 + fcis.length * 4
    if bufCap < pktLen then .error .invalid
    else
      .ok ([UInt8.ofNat (2 * 2 ^ 6 + rtcpFmtNack), UInt8.ofNat rtcpPtRtpfb]
        ++ writeU16 (pktLen / 4 - 1) ++ writeU32 senderSsrc.toNat ++ writeU32 mediaSsrc.toNat
        ++ fcis.flatMap NackFci.bytes)

/-! ## One entry -/

def NackFci.seqs (fci : NackFci) : List UInt16 :=
  fci.pid :: ((range 16).filter fci.blp.testBit).map fun bit => fci.pid + UInt16.ofNat (bit + 1)

/-- The mask of an entry that starts with `pid` has a bit for `seq`. -/
def InWindow (pid seq : UInt16) : Prop := pid.toNat < seq.toNat ∧ seq.toNat ≤ pid.toNat + 16

instance (pid seq : UInt16) : Decidable (InWindow pid seq) := inferInstanceAs (Decidable (_ ∧ _))

structure MaskOf (pid : UInt16) (before : Nat) (taken : List UInt16) (blp : Nat) : Prop where
  bit : ∀ b, blp.testBit b = true ↔
    before.testBit b = true ∨ ∃ seq ∈ taken, seq.toNat = pid.toNat + b + 1
  close : ∀ seq ∈ taken, InWindow pid seq

theorem nackMask_spec (pid : UInt16) (blp : Nat) (seqs : List UInt16) :
    ∃ taken, seqs = taken ++ (nackMask pid blp seqs).2
      ∧ MaskOf pid blp taken (nackMask pid blp seqs).1
      ∧ ∀ seq ∈ (nackMask pid blp seqs).2.head?, ¬ InWindow pid seq := by
  induction seqs generalizing blp with
  | nil => exact ⟨[], rfl, ⟨fun b => by simp [nackMask], by simp⟩, by simp [nackMask]⟩
  | cons seq seqs ih =>
    rw [nackMask]
    split
    · rename_i hnear
      obtain ⟨taken, hsplit, hmask, hhead⟩ := ih (blp ||| 1 <<< ((seq.toNat : Int) - pid.toNat - 1).toNat)
      refine ⟨seq :: taken, by rw [cons_append, ← hsplit], ⟨fun b => ?_, ?_⟩, hhead⟩
      · have hone : (1 <<< ((seq.toNat : Int) - pid.toNat - 1).toNat).testBit b = true
            ↔ seq.toNat = pid.toNat + b + 1 := by
          rw [Nat.testBit_shiftLeft, Bool.and_eq_true, decide_eq_true_iff,
            Nat.testBit_one_eq_true_iff_self_eq_zero]
          omega
        rw [hmask.bit, Nat.testBit_or, Bool.or_eq_true, hone, exists_mem_cons_iff, or_assoc]
      · intro s hs
        rcases mem_cons.mp hs with rfl | hs
        · unfold InWindow
          omega
        · exact hmask.close s hs
    · rename_i hfar
      refine ⟨[], rfl, ⟨fun b => by simp, by simp⟩, fun seq' hseq' => ?_⟩
      obtain rfl := Option.some.inj hseq'
      unfold InWindow
      omega

variable {pid : UInt16} {taken : List UInt16} {blp : Nat} {lost : List UInt16}

theorem toNat_add_offset {seq : UInt16} {b : Nat} (h : seq.toNat = pid.toNat + b + 1) :
    pid + UInt16.ofNat (b + 1) = seq := by
  have hlt := seq.toNat_lt
  rw [← UInt16.toNat_inj, UInt16.toNat_add, UInt16.toNat_ofNat', h]
  omega

theorem MaskOf.mem_seqs (h : MaskOf pid 0 taken blp) (seq : UInt16) :
    seq ∈ NackFci.seqs ⟨pid, blp⟩ ↔ seq ∈ pid :: taken := by
  rw [NackFci.seqs, mem_cons, mem_cons, mem_map]
  refine or_congr_right ⟨?_, fun hmem => ?_⟩
  · rintro ⟨b, hb, rfl⟩
    obtain ⟨-, hbit⟩ := mem_filter.mp hb
    rcases (h.bit b).mp hbit with hzero | ⟨s, hs, heq⟩
    · rw [Nat.zero_testBit] at hzero
      cases hzero
    · rwa [toNat_add_offset heq]
  · -- the bit of a number taken is the distance from `pid`
    obtain ⟨hafter, hnear⟩ := h.close seq hmem
    have heq : seq.toNat = pid.toNat + (seq.toNat - pid.toNat - 1) + 1 := by omega
    refine ⟨seq.toNat - pid.toNat - 1, mem_filter.mpr ⟨mem_range.mpr (by omega), ?_⟩,
      toNat_add_offset heq⟩
    exact (h.bit _).mpr (.inr ⟨seq, hmem, heq⟩)

theorem NackFci.seqs_nodup (fci : NackFci) : fci.seqs.Nodup := by
  have hoffset : ∀ b < 16, (fci.pid + UInt16.ofNat (b + 1)).toNat
      = (fci.pid.toNat + b + 1) % 2 ^ 16 := by
    intro b hb
    rw [UInt16.toNat_add, UInt16.toNat_ofNat']
    omega
  have hpid := fci.pid.toNat_lt
  refine nodup_cons.mpr ⟨fun hmem => ?_, ?_⟩
  · grind
  · refine List.Nodup.map_on (fun a ha b hb heq => ?_) (nodup_range.filter _)
    have ha' := mem_range.mp (mem_filter.mp ha).1
    have hb' := mem_range.mp (mem_filter.mp hb).1
    have hsame := hoffset a ha'
    rw [heq, hoffset b hb'] at hsame
    omega

theorem MaskOf.seqs_length_le (h : MaskOf pid 0 taken blp) :
    (NackFci.seqs ⟨pid, blp⟩).length ≤ (pid :: taken).length :=
  ((NackFci.seqs_nodup _).subperm fun s hs => (h.mem_seqs s).mp hs).length_le

theorem MaskOf.blp_lt (h : MaskOf pid 0 taken blp) : blp < 2 ^ 16 := by
  refine Nat.lt_pow_two_of_testBit blp fun b hb => Bool.eq_false_of_not_eq_true fun hbit => ?_
  rcases (h.bit b).mp hbit with hzero | ⟨s, hs, heq⟩
  · rw [Nat.zero_testBit] at hzero
    cases hzero
  · have := (h.close s hs).2
    omega

/-! ## All entries -/

theorem nackPack_spec (room : Nat) (seqs : List UInt16) :
    ∃ packed, seqs = packed ++ (nackPack room seqs).2
      ∧ (∀ s, s ∈ (nackPack room seqs).1.flatMap NackFci.seqs ↔ s ∈ packed)
      ∧ ((nackPack room seqs).1.flatMap NackFci.seqs).length ≤ packed.length
      ∧ ∀ fci ∈ (nackPack room seqs).1, fci.blp < 2 ^ 16 := by
  induction room generalizing seqs with
  | zero => exact ⟨[], rfl, by simp [nackPack], by simp [nackPack], by simp [nackPack]⟩
  | succ room ih =>
    cases seqs with
    | nil => exact ⟨[], rfl, by simp [nackPack], by simp [nackPack], by simp [nackPack]⟩
    | cons pid seqs =>
      obtain ⟨taken, htaken, hmask, -⟩ := nackMask_spec pid 0 seqs
      obtain ⟨packed, hpacked, hmem, hlen, hblp⟩ := ih (nackMask pid 0 seqs).2
      rw [nackPack]
      dsimp only
      refine ⟨pid :: taken ++ packed, ?_, fun s => ?_, ?_, fun fci hfci => ?_⟩
      · rw [append_assoc, ← hpacked, cons_append, ← htaken]
      · rw [flatMap_cons, mem_append, mem_append, hmask.mem_seqs, hmem]
      · have hfirst := hmask.seqs_length_le
        rw [flatMap_cons, length_append, length_append]
        omega
      · grind [hmask.blp_lt]

/-- How many entries the numbers need, one after the other: a number outside the window of the last
entry, as is a copy of the number that entry starts with, starts another one. -/
def entriesNeeded : Option UInt16 → List UInt16 → Nat
  | _, [] => 0
  | some pid, seq :: seqs =>
    if InWindow pid seq then entriesNeeded (some pid) seqs else 1 + entriesNeeded (some seq) seqs
  | none, seq :: seqs => 1 + entriesNeeded (some seq) seqs

/-- The entries for a number and all smaller ones, with their copies. -/
def entriesUpTo (lost : List UInt16) (seq : UInt16) : Nat :=
  entriesNeeded none ((lost.insertionSort (· ≤ ·)).filter (· < seq) ++ [seq])

theorem entriesNeeded_append (htaken : ∀ seq ∈ taken, InWindow pid seq) (seqs : List UInt16) :
    entriesNeeded (some pid) (taken ++ seqs) = entriesNeeded (some pid) seqs := by
  induction taken with
  | nil => rfl
  | cons seq taken ih =>
    rw [cons_append, entriesNeeded, if_pos (htaken seq mem_cons_self),
      ih fun s hs => htaken s (mem_cons_of_mem _ hs)]

/-- The number at a place is packed if the entries for the numbers up to it fit. -/
theorem nackPack_place_iff (room : Nat) (seqs : List UInt16) {i : Nat} (hi : i < seqs.length) :
    i + (nackPack room seqs).2.length < seqs.length
      ↔ entriesNeeded none (seqs.take (i + 1)) ≤ room := by
  induction room generalizing seqs i with
  | zero =>
    cases seqs with
    | nil => cases hi
    | cons pid seqs =>
      simp only [nackPack, take_succ_cons, entriesNeeded]
      omega
  | succ room ih =>
    cases seqs with
    | nil => cases hi
    | cons pid seqs =>
      obtain ⟨taken, htaken, hmask, hhead⟩ := nackMask_spec pid 0 seqs
      rw [take_succ_cons, entriesNeeded, nackPack]
      dsimp only
      generalize (nackMask pid 0 seqs).2 = rest at htaken hhead ⊢
      subst htaken
      rw [length_cons, length_append] at hi ⊢
      by_cases htake : i ≤ taken.length
      · -- the number is in the first entry
        have hnone : entriesNeeded (some pid) ((taken ++ rest).take i) = 0 := by
          rw [take_append_of_le_length htake, ← append_nil (taken.take i),
            entriesNeeded_append fun s hs => hmask.close s (mem_of_mem_take hs)]
          rfl
        have hleft : (nackPack room rest).2.length ≤ rest.length := by
          obtain ⟨packed, hpacked, -⟩ := nackPack_spec room rest
          have := congrArg List.length hpacked
          rw [length_append] at this
          omega
        exact iff_of_true (by omega) (by omega)
      · obtain ⟨j, rfl⟩ : ∃ j, i = taken.length + (j + 1) := ⟨i - taken.length - 1, by omega⟩
        cases rest with
        | nil =>
          rw [length_nil] at hi
          omega
        | cons seq rest =>
          have hnext := ih (seq :: rest) (i := j) (by omega)
          rw [take_succ_cons, entriesNeeded] at hnext
          rw [take_length_add_append, entriesNeeded_append hmask.close, take_succ_cons,
            entriesNeeded, if_neg (hhead seq rfl)]
          omega

theorem nackEntries_spec (lost : List UInt16) :
    ∃ packed, packed ++ (nackEntries lost).2 = (lost.take rtcpNackMaxSeqs).insertionSort (· ≤ ·)
      ∧ (∀ s, s ∈ (nackEntries lost).1.flatMap NackFci.seqs ↔ s ∈ packed)
      ∧ ((nackEntries lost).1.flatMap NackFci.seqs).length ≤ rtcpNackMaxSeqs
      ∧ ∀ fci ∈ (nackEntries lost).1, fci.blp < 2 ^ 16 := by
  obtain ⟨packed, hpacked, hmem, hlen, hblp⟩ := nackPack_spec rtcpNackMaxFcis
    ((lost.take rtcpNackMaxSeqs).insertionSort (· ≤ ·))
  refine ⟨packed, hpacked.symm, hmem, hlen.trans ?_, hblp⟩
  calc packed.length ≤ (packed ++ (nackEntries lost).2).length := by simp
    _ = (lost.take rtcpNackMaxSeqs).length := by
      rw [show packed ++ (nackEntries lost).2 = _ from hpacked.symm, length_insertionSort]
    _ ≤ rtcpNackMaxSeqs := length_take_le _ _

/-- Which numbers are packed. -/
theorem mem_packed_iff (hcount : lost.length ≤ rtcpNackMaxSeqs) {packed : List UInt16}
    (hpacked : packed ++ (nackEntries lost).2
      = (lost.take rtcpNackMaxSeqs).insertionSort (· ≤ ·)) (s : UInt16) :
    s ∈ packed ↔ s ∈ lost ∧ entriesUpTo lost s ≤ rtcpNackMaxFcis := by
  rw [take_of_length_le hcount] at hpacked
  have hmem : s ∈ lost.insertionSort (· ≤ ·) ↔ s ∈ lost := mem_insertionSort _
  rw [← hmem]
  by_cases hs : s ∈ lost.insertionSort (· ≤ ·)
  swap
  · exact iff_of_false (fun h => hs (hpacked ▸ mem_append_left _ h)) fun h => hs h.1
  rw [and_iff_right hs]
  have hsorted := pairwise_insertionSort (· ≤ ·) lost
  obtain ⟨smaller, rest, hsplit, hfirst⟩ := eq_append_cons_of_mem hs
  rw [hsplit, pairwise_append, pairwise_cons] at hsorted
  -- what stands before the first copy of `s` are the smaller numbers
  have hfilter : (lost.insertionSort (· ≤ ·)).filter (· < s) = smaller := by
    have hbelow : smaller.filter (· < s) = smaller := filter_eq_self.mpr fun a ha => by
      have hne : a ≠ s := fun h => hfirst (h ▸ ha)
      exact decide_eq_true (UInt16.lt_of_le_of_ne (hsorted.2.2 a ha s mem_cons_self) hne)
    have habove : (s :: rest).filter (· < s) = [] := filter_eq_nil_iff.mpr fun a ha => by
      rcases mem_cons.mp ha with rfl | ha
      · simp
      · simpa using hsorted.2.1.1 a ha
    rw [hsplit, filter_append, hbelow, habove, append_nil]
  have hplace : smaller.length < (lost.insertionSort (· ≤ ·)).length := by
    rw [hsplit, length_append, length_cons]
    omega
  have hiff := nackPack_place_iff rtcpNackMaxFcis (lost.insertionSort (· ≤ ·)) hplace
  have hleft : (nackPack rtcpNackMaxFcis (lost.insertionSort (· ≤ ·))).2 = (nackEntries lost).2 := by
    rw [nackEntries, take_of_length_le hcount]
  have htake : (lost.insertionSort (· ≤ ·)).take (smaller.length + 1) = smaller ++ [s] := by
    rw [hsplit, take_length_add_append]
    rfl
  rw [entriesUpTo, hfilter, ← htake, ← hiff, hleft, ← hpacked, length_append,
    Nat.add_lt_add_iff_right]
  rw [hsplit] at hpacked
  constructor
  · intro hin
    by_contra hshort
    have hwithin := prefix_of_prefix_length_le ⟨_, hpacked⟩ (prefix_append smaller (s :: rest))
      (Nat.not_lt.mp hshort)
    exact hfirst (hwithin.subset hin)
  · intro hlong
    have hget : (packed ++ (nackEntries lost).2)[smaller.length]? = some s := by
      rw [hpacked]
      simp
    rw [getElem?_append_left hlong] at hget
    exact mem_of_getElem? hget

/-! ## The parser -/

theorem foldl_push {p : Nat → Bool} {f : Nat → UInt16} {bits : List Nat}
    (hroom : lost.length + (bits.filter p).length ≤ rtcpNackMaxSeqs) :
    bits.foldl (fun lost bit => if lost.length < rtcpNackMaxSeqs ∧ p bit then lost ++ [f bit]
      else lost) lost = lost ++ (bits.filter p).map f := by
  induction bits generalizing lost with
  | nil => simp
  | cons bit bits ih =>
    rw [foldl_cons]
    cases hbit : p bit with
    | false => grind
    | true => grind

theorem pushLost_seqs {fci : NackFci} (hroom : lost.length + fci.seqs.length ≤ rtcpNackMaxSeqs) :
    pushLost fci.pid fci.blp lost = lost ++ fci.seqs := by
  rw [NackFci.seqs, length_cons, length_map] at hroom
  rw [pushLost, foldl_push (by rw [length_append, length_singleton]; omega),
    append_assoc, singleton_append, NackFci.seqs]

theorem parseNackLoop_bytes {fcis : List NackFci} (front : Bytes) (fuel : Nat) (lost : List UInt16)
    (hfuel : fcis.length ≤ fuel) (hblp : ∀ fci ∈ fcis, fci.blp < 2 ^ 16)
    (hroom : lost.length + (fcis.flatMap NackFci.seqs).length ≤ rtcpNackMaxSeqs) :
    parseNackLoop (front ++ fcis.flatMap NackFci.bytes) fuel front.length lost
      = lost ++ fcis.flatMap NackFci.seqs := by
  induction fcis generalizing front fuel lost with
  | nil =>
    cases fuel with
    | zero => simp [parseNackLoop]
    | succ fuel => simp [parseNackLoop]
  | cons fci fcis ih =>
    obtain ⟨fuel, rfl⟩ : ∃ k, fuel = k + 1 :=
      ⟨fuel - 1, by rw [length_cons] at hfuel; omega⟩
    rw [length_cons] at hfuel
    rw [flatMap_cons, length_append] at hroom
    have hpos : 0 < fci.seqs.length := Nat.succ_pos _
    have hbytes : front ++ (fci :: fcis).flatMap NackFci.bytes
        = front ++ (writeU16 fci.pid.toNat
          ++ (writeU16 fci.blp ++ fcis.flatMap NackFci.bytes)) := by
      rw [flatMap_cons, NackFci.bytes, append_assoc]
    have hpid : readU16 (front ++ (fci :: fcis).flatMap NackFci.bytes) front.length
        = fci.pid.toNat := by
      rw [hbytes, readU16_append_right le_rfl, Nat.sub_self, readU16_writeU16 fci.pid.toNat_lt]
    have hmask : readU16 (front ++ (fci :: fcis).flatMap NackFci.bytes) (front.length + 2)
        = fci.blp := by
      rw [hbytes, readU16_append_right (Nat.le_add_right _ _), Nat.add_sub_cancel_left,
        readU16_append_right (by simp), writeU16_length, Nat.sub_self,
        readU16_writeU16 (hblp fci mem_cons_self)]
    have hlen : front.length + 4 ≤ (front ++ (fci :: fcis).flatMap NackFci.bytes).length := by
      rw [hbytes]
      simp only [length_append, writeU16_length]
      omega
    -- the entry just read is part of what stands before the rest
    have hrest := ih (front ++ fci.bytes) fuel (lost ++ fci.seqs)
      (Nat.le_of_succ_le_succ hfuel) (fun f hf => hblp f (mem_cons_of_mem _ hf))
      (by rw [length_append]; omega)
    have hfour : (front ++ fci.bytes).length = front.length + 4 := by
      rw [length_append, NackFci.bytes, length_append, writeU16_length, writeU16_length]
    rw [parseNackLoop, if_pos ⟨hlen, by omega⟩, hpid, hmask, UInt16.ofNat_toNat,
      pushLost_seqs (by omega), ← hfour, flatMap_cons, flatMap_cons,
      ← append_assoc, hrest, append_assoc]

theorem rtcRtcpParseNack_build {bufCap : Nat} {senderSsrc mediaSsrc : UInt32} {data : Bytes}
    (hbuild : rtcRtcpBuildNack bufCap senderSsrc mediaSsrc lost = .ok data) :
    rtcRtcpParseNack data = .ok (mediaSsrc, (nackEntries lost).1.flatMap NackFci.seqs) := by
  unfold rtcRtcpBuildNack at hbuild
  split at hbuild
  · cases hbuild
  dsimp only at hbuild
  split at hbuild
  · cases hbuild
  obtain rfl := Except.ok.inj hbuild
  obtain ⟨packed, -, -, hlen, hblp⟩ := nackEntries_spec lost
  generalize (nackEntries lost).1 = fcis at hlen hblp ⊢
  set head : Bytes := [UInt8.ofNat (2 * 2 ^ 6 + rtcpFmtNack), UInt8.ofNat rtcpPtRtpfb]
    ++ writeU16 ((12 + fcis.length * 4) / 4 - 1) ++ writeU32 senderSsrc.toNat with hhead
  have height : head.length = 8 := rfl
  have htwelve : (head ++ writeU32 mediaSsrc.toNat).length = 12 := rfl
  have hversion : byteAt (head ++ writeU32 mediaSsrc.toNat ++ fcis.flatMap NackFci.bytes) 0
      = 2 * 2 ^ 6 + rtcpFmtNack := by
    rw [byteAt_append_left (by omega)]
    rfl
  have hmedia : word (head ++ writeU32 mediaSsrc.toNat ++ fcis.flatMap NackFci.bytes) 8
      = mediaSsrc := by
    rw [append_assoc, word, readU32_append_right (by omega), height, Nat.sub_self,
      readU32_writeU32 mediaSsrc.toNat_lt, UInt32.ofNat_toNat]
  have hbytes : (fcis.flatMap NackFci.bytes).length = 4 * fcis.length := by
    simp [length_flatMap, NackFci.bytes, Nat.mul_comm]
  have hloop := parseNackLoop_bytes (head ++ writeU32 mediaSsrc.toNat)
    (head ++ writeU32 mediaSsrc.toNat ++ fcis.flatMap NackFci.bytes).length []
    (by rw [length_append]; omega) hblp (by rwa [length_nil, Nat.zero_add])
  rw [htwelve, nil_append] at hloop
  rw [rtcRtcpParseNack, if_neg (by rw [length_append]; omega),
    if_neg (by rw [hversion]; decide), hmedia, hloop]

/-- **Which lost packets come out again**: those for which, with all smaller ones, there are
entries. All of them do if and only if this holds of each. -/
theorem nack_roundTrip {bufCap : Nat} {senderSsrc mediaSsrc : UInt32} {lost : List UInt16}
    {data : Bytes} (hcount : lost.length ≤ rtcpNackMaxSeqs)
    (hbuild : rtcRtcpBuildNack bufCap senderSsrc mediaSsrc lost = .ok data) :
    ∃ seqs, rtcRtcpParseNack data = .ok (mediaSsrc, seqs)
      ∧ (∀ s, s ∈ seqs ↔ s ∈ lost ∧ entriesUpTo lost s ≤ rtcpNackMaxFcis)
      ∧ ((∀ s, s ∈ seqs ↔ s ∈ lost) ↔ ∀ s ∈ lost, entriesUpTo lost s ≤ rtcpNackMaxFcis) := by
  obtain ⟨packed, hpacked, hmem, -, -⟩ := nackEntries_spec lost
  have hiff : ∀ s, s ∈ (nackEntries lost).1.flatMap NackFci.seqs
      ↔ s ∈ lost ∧ entriesUpTo lost s ≤ rtcpNackMaxFcis :=
    fun s => (hmem s).trans (mem_packed_iff hcount hpacked s)
  refine ⟨_, rtcRtcpParseNack_build hbuild, hiff, ?_⟩
  simp only [hiff, and_iff_left_iff_imp]

def acrossWrap : List UInt16 := [3, 65535, 3, 0, 65530]

theorem acrossWrap_roundTrip :
    ∃ data seqs, rtcRtcpBuildNack 1500 1 2 acrossWrap = .ok data
      ∧ rtcRtcpParseNack data = .ok (2, seqs) ∧ ∀ s, s ∈ seqs ↔ s ∈ acrossWrap := by
  have hfits : acrossWrap.all (entriesUpTo acrossWrap · ≤ rtcpNackMaxFcis) = true := by decide
  obtain ⟨data, hbuild⟩ : ∃ data, rtcRtcpBuildNack 1500 1 2 acrossWrap = .ok data := ⟨_, rfl⟩
  obtain ⟨seqs, hparse, -, hsame⟩ := nack_roundTrip (by decide) hbuild
  exact ⟨data, seqs, hbuild, hparse, hsame.mpr (by simpa using hfits)⟩

def sparse (n : Nat) : List UInt16 := (range n).map fun i => UInt16.ofNat (20 * i)

/-- Of 65 such numbers the last one is left out. -/
theorem sparse_dropped :
    ∃ data, rtcRtcpBuildNack 1500 1 2 (sparse 65) = .ok data
      ∧ rtcRtcpParseNack data = .ok (2, sparse 64) ∧ 1280 ∈ sparse 65 ∧ 1280 ∉ sparse 64 := by
  have hpacked : (nackEntries (sparse 65)).1.flatMap NackFci.seqs = sparse 64 := by decide +kernel
  obtain ⟨data, hbuild⟩ : ∃ data, rtcRtcpBuildNack 1500 1 2 (sparse 65) = .ok data := ⟨_, rfl⟩
  exact ⟨data, hbuild, hpacked ▸ rtcRtcpParseNack_build hbuild, by decide, by decide⟩

end Mrtc
