import Mrtc.Basic.Err
import Mrtc.Lib.Bytes
import Mrtc.Lib.Grouping

/-! # DTLS output (`rtc_dtls.c`, `rtc_transport.c`)

OpenSSL appends DTLS records to a memory BIO, which is a stream of bytes. `whole_records_iff` says
when the datagrams cut from it consist of whole records.
-/

set_option autoImplicit false

namespace Mrtc

open Net Grouping List

structure DtlsRecord where
  bytes : Bytes
  header : 13 ≤ bytes.length
  length : readU16 bytes 11 = bytes.length - 13

open DtlsRecord

def pendingOutput (records : List DtlsRecord) : Bytes := (records.map bytes).flatten

structure DtlsFlush where
  rc : Except RtcErr Unit
  wbio : Bytes
  sent : List Bytes

def dtlsBufSize : Nat := 2048

def bioDrain (send : Nat → Except RtcErr Unit) : (fuel : Nat) → (wbio : Bytes) →
    (sent : List Bytes) → DtlsFlush
  | 0, wbio, sent => ⟨.ok (), wbio, sent⟩
  | fuel + 1, wbio, sent =>
    if wbio = [] then ⟨.ok (), wbio, sent⟩
    else
      match send sent.length with
      | .error e => ⟨.error e, wbio.drop dtlsBufSize, sent⟩
      | .ok () => bioDrain send fuel (wbio.drop dtlsBufSize) (sent ++ [wbio.take dtlsBufSize])

def dtlsFlushWbio (send : Nat → Except RtcErr Unit) (wbio : Bytes) : DtlsFlush :=
  bioDrain send wbio.length wbio []

def txSendDataImpl (connected : Bool) (sslOk : Bool) (out : Bytes)
    (send : Nat → Except RtcErr Unit) (wbio : Bytes) : DtlsFlush :=
  if !connected then ⟨.error .invalid, wbio, []⟩
  else if !sslOk then ⟨.error .ssl, wbio ++ out, []⟩
  else bioDrain send (wbio ++ out).length (wbio ++ out) []

/-- Each datagram consists of whole records, and none is lost. -/
def WholeRecords (records : List DtlsRecord) (datagrams : List Bytes) : Prop :=
  ∃ groups : List (List DtlsRecord), groups.flatten = records ∧ groups.map pendingOutput = datagrams

/-- A record starts at this byte, or the last one ends there. -/
def RecordStarts (records : List DtlsRecord) (n : Nat) : Prop :=
  ∃ j, (pendingOutput (records.take j)).length = n

section Drain

variable {send : Nat → Except RtcErr Unit}

theorem bioDrain_eq (hsend : ∀ i, send i = .ok ()) {fuel : Nat} {wbio : Bytes}
    (hfuel : wbio.length ≤ fuel) (sent : List Bytes) :
    bioDrain send fuel wbio sent = ⟨.ok (), [], sent ++ chunks dtlsBufSize fuel wbio⟩ := by
  induction fuel generalizing wbio sent with
  | zero =>
    rw [length_eq_zero_iff.mp (Nat.le_zero.mp hfuel), bioDrain, chunks, append_nil]
  | succ fuel ih =>
    rw [bioDrain]
    cases wbio with
    | nil => rw [if_pos rfl, chunks, append_nil]
    | cons b wbio =>
      have hrest : ((b :: wbio).drop dtlsBufSize).length ≤ fuel := by
        rw [length_drop, dtlsBufSize]
        omega
      rw [if_neg (cons_ne_nil b wbio), hsend]
      dsimp only
      rw [ih hrest, chunks, append_assoc, singleton_append]

theorem wholeRecords_iff_regroups (records : List DtlsRecord) (datagrams : List Bytes) :
    WholeRecords records datagrams ↔ Regroups (records.map bytes) datagrams := by
  constructor
  · rintro ⟨groups, rfl, rfl⟩
    refine ⟨groups.map (List.map bytes), map_flatten.symm, ?_⟩
    rw [map_map]
    rfl
  · rintro ⟨gs, hgs, rfl⟩
    obtain ⟨groups, hflat, rfl⟩ := exists_groups_of_map bytes hgs
    refine ⟨groups, hflat, ?_⟩
    rw [map_map]
    rfl

theorem recordStarts_iff_isCut (records : List DtlsRecord) (n : Nat) :
    RecordStarts records n ↔ IsCut (records.map bytes) n := by
  unfold RecordStarts IsCut pendingOutput
  simp only [map_take]

/-- **What the loop sends of an output.** -/
theorem bioDrain_records (hsend : ∀ i, send i = .ok ()) (records : List DtlsRecord) :
    (bioDrain send (pendingOutput records).length (pendingOutput records) []).sent.flatten
        = pendingOutput records
      ∧ (WholeRecords records
          (bioDrain send (pendingOutput records).length (pendingOutput records) []).sent
        ↔ ∀ k, dtlsBufSize * k < (pendingOutput records).length →
          RecordStarts records (dtlsBufSize * k)) := by
  have hpos : 0 < dtlsBufSize := by decide
  have hparts : ∀ p ∈ records.map bytes, p ≠ [] := by
    intro p hp hnil
    obtain ⟨record, -, rfl⟩ := mem_map.mp hp
    have hheader := record.header
    rw [hnil, length_nil] at hheader
    omega
  rw [bioDrain_eq hsend (Nat.le_refl _), nil_append, wholeRecords_iff_regroups]
  refine ⟨flatten_chunks hpos (Nat.le_refl _), ?_⟩
  simp only [recordStarts_iff_isCut]
  exact regroups_chunks_iff hpos hparts (Nat.le_refl _)

/-- **No record is cut in two just if one starts at every 2048th byte of the output.** -/
theorem whole_records_iff (hsend : ∀ i, send i = .ok ()) (before written : List DtlsRecord) :
    ((dtlsFlushWbio send (pendingOutput before)).sent.flatten = pendingOutput before
      ∧ (WholeRecords before (dtlsFlushWbio send (pendingOutput before)).sent
        ↔ ∀ k, 2048 * k < (pendingOutput before).length → RecordStarts before (2048 * k)))
    ∧ ((txSendDataImpl true true (pendingOutput written) send (pendingOutput before)).sent.flatten
        = pendingOutput (before ++ written)
      ∧ (WholeRecords (before ++ written)
          (txSendDataImpl true true (pendingOutput written) send (pendingOutput before)).sent
        ↔ ∀ k, 2048 * k < (pendingOutput (before ++ written)).length →
          RecordStarts (before ++ written) (2048 * k))) := by
  have happend :
      pendingOutput before ++ pendingOutput written = pendingOutput (before ++ written) := by
    rw [pendingOutput, pendingOutput, pendingOutput, map_append, flatten_append]
  have hdata : txSendDataImpl true true (pendingOutput written) send (pendingOutput before)
      = bioDrain send (pendingOutput (before ++ written)).length
          (pendingOutput (before ++ written)) [] := by
    rw [← happend]
    rfl
  rw [hdata]
  exact ⟨bioDrain_records hsend before, bioDrain_records hsend (before ++ written)⟩

end Drain

def dataRecord (payload : Bytes) (hlen : payload.length < 2 ^ 16) : DtlsRecord where
  bytes := [0x17, 0xFE, 0xFD, 0, 1, 0, 0, 0, 0, 0, 0] ++ (writeU16 payload.length ++ payload)
  header := by simp
  length := by
    rw [readU16_append_right (by simp)]
    refine (readU16_writeU16 hlen payload).trans ?_
    simp

theorem smallRecords_whole :
    WholeRecords [dataRecord [1] (by decide), dataRecord [2] (by decide)]
      (txSendDataImpl true true (pendingOutput [dataRecord [2] (by decide)]) (fun _ => .ok ())
        (pendingOutput [dataRecord [1] (by decide)])).sent := by
  refine (whole_records_iff (fun _ => rfl) [dataRecord [1] (by decide)]
    [dataRecord [2] (by decide)]).2.2.mpr fun k hk => ?_
  have hlen : (pendingOutput ([dataRecord [1] (by decide)] ++ [dataRecord [2] (by decide)])).length
      = 28 := by decide
  have hzero : k = 0 := by omega
  rw [hzero]
  exact ⟨0, rfl⟩

theorem longRecord_not_whole {record : DtlsRecord} (hlong : dtlsBufSize < record.bytes.length) :
    ¬ WholeRecords [record]
      (txSendDataImpl true true (pendingOutput [record]) (fun _ => .ok ()) []).sent := by
  have hone : pendingOutput [record] = record.bytes := by
    rw [pendingOutput, map_singleton, flatten_singleton]
  intro hwhole
  obtain ⟨j, hj⟩ := (bioDrain_records (fun _ => rfl) [record]).2.mp hwhole 1
    (by rw [hone, Nat.mul_one]; exact hlong)
  cases j with
  | zero => cases hj
  | succ j =>
    rw [take_succ_cons, take_nil, hone, Nat.mul_one] at hj
    omega

/-- A message of 3000 bytes on a data channel, with 6 bytes of header and 24 for the encryption, is
one record and becomes two datagrams. -/
theorem longMessage_split :
    let record := dataRecord (replicate 3030 0) (by decide +kernel)
    let sent := (txSendDataImpl true true (pendingOutput [record]) (fun _ => .ok ()) []).sent
    sent.map List.length = [2048, 995] ∧ ¬ WholeRecords [record] sent :=
  ⟨by decide +kernel, longRecord_not_whole (by decide +kernel)⟩

end Mrtc
