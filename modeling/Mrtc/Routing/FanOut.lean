import Mrtc.Lib.Linked
import Mrtc.Routing.Graph
import Mrtc.Srtp.Send

/-! # Every packet goes to the consumers of its producer, once

What the graph keeps: a producer's vector holds its open consumers, each once, and an SSRC is bound
to an open producer of that SSRC.
-/

namespace Mrtc

open Net List Function

/-! ## What the graph keeps -/

def Consumer.link (consumer : Consumer) : Nat × Bool := (consumer.producer, consumer.closed)

open Consumer

def Producer.binding (producer : Producer) : UInt32 × Bool := (producer.ssrc, producer.closed)

def Graph.vectors (g : Graph) : List (List Nat) := g.producers.map Producer.consumers

def Graph.links (g : Graph) : List (Nat × Bool) := g.consumers.map link

def Graph.bindings (g : Graph) : List (UInt32 × Bool) := g.producers.map Producer.binding

def BoundTo (m : U32Map Nat) (bindings : List (UInt32 × Bool)) : Prop :=
  ∃ S, U32Map.Represents m S
    ∧ ∀ (ssrc : UInt32) (p : Nat), S.entries ssrc = some (some p) →
      bindings[p]? = some (ssrc, false)

/-- The vectors and the SSRC map say what the links and bindings do. -/
structure Graph.WellFormed (g : Graph) : Prop where
  linked : Linked g.vectors g.links
  bound : BoundTo g.bySsrc g.bindings

variable {g : Graph}

theorem Graph.vectors_getElem? {p : Nat} {producer : Producer}
    (hp : g.producers[p]? = some producer) : g.vectors[p]? = some producer.consumers := by
  simp [vectors, hp]

theorem Graph.links_getElem? {c : Nat} {consumer : Consumer}
    (hc : g.consumers[c]? = some consumer) : g.links[c]? = some consumer.link := by
  simp [links, hc]

namespace Graph.WellFormed

variable {g : Graph} (h : g.WellFormed) {p : Nat}
include h

theorem nodup {producer : Producer} (hp : g.producers[p]? = some producer) :
    producer.consumers.Nodup :=
  h.linked.nodup p _ (vectors_getElem? hp)

theorem mem_consumers {producer : Producer} (hp : g.producers[p]? = some producer) {c : Nat} :
    c ∈ producer.consumers ↔ g.links[c]? = some (p, false) :=
  h.linked.mem_iff p _ c (vectors_getElem? hp)

theorem exists_producer {c : Nat} {closed : Bool} (hc : g.links[c]? = some (p, closed)) :
    ∃ producer, g.producers[p]? = some producer := by
  have hlt := h.linked.owner_lt c p closed hc
  rw [vectors, length_map] at hlt
  exact ⟨_, getElem?_eq_getElem hlt⟩

end Graph.WellFormed

theorem Graph.wellFormed_empty : Graph.WellFormed {} where
  linked := Linked.nil
  bound := ⟨{}, HashTable.sound_empty u32Hash u32MapEntrySize, fun _ _ h => absurd h (by simp)⟩

namespace BoundTo

variable {m : U32Map Nat} {bindings : List (UInt32 × Bool)}

section

variable (h : BoundTo m bindings)
include h

theorem get {ssrc : UInt32} {p : Nat} (hget : rtcU32MapGet m ssrc = some (some p)) :
    bindings[p]? = some (ssrc, false) := by
  obtain ⟨S, hrep, hopen⟩ := h
  rw [hrep.get, Option.some.injEq] at hget
  apply hopen ssrc p
  cases hentry : S.entries ssrc with
  | none => simp [hentry] at hget
  | some v => simpa [hentry] using hget

theorem get_ne_none (ssrc : UInt32) : rtcU32MapGet m ssrc ≠ none := by
  obtain ⟨S, hrep, -⟩ := h
  rw [hrep.get]
  simp

theorem bind (ssrc : UInt32) (alloc : Bool) :
    ∃ rc m', rtcU32MapSet m ssrc (some bindings.length) alloc = some (rc, m')
      ∧ match rc with
        | .ok _ => BoundTo m' (bindings ++ [(ssrc, false)])
        | .error _ => BoundTo m' bindings := by
  obtain ⟨S, hrep, hopen⟩ := h
  obtain ⟨rc, m', S', hset, hstep, hrep'⟩ := hrep.set ssrc (some bindings.length) alloc
  refine ⟨rc, m', hset, ?_⟩
  cases hstep with
  | set =>
    refine ⟨_, hrep', fun key p hentry => List.getElem?_concat_eq_some.mpr ?_⟩
    dsimp only at hentry
    by_cases hkey : key = ssrc
    · grind
    · rw [update_of_ne hkey] at hentry
      exact Or.inl (hopen key p hentry)
  | refused => exact ⟨_, hrep', hopen⟩

theorem unbind {p : Nat} {ssrc : UInt32} {closed : Bool} (hp : bindings[p]? = some (ssrc, closed))
    (alloc : Bool) :
    ∃ r, rtcU32MapRemove m ssrc alloc = some r ∧ BoundTo r.2 (bindings.set p (ssrc, true)) := by
  obtain ⟨S, hrep, hopen⟩ := h
  obtain ⟨m', hremove, hrep'⟩ := HashTable.Sound.remove hrep ssrc alloc
  refine ⟨(_, m'), by rw [rtcU32MapRemove, hremove, Option.map_some],
    { S with entries := update S.entries ssrc none }, hrep', fun key q hentry => ?_⟩
  dsimp only at hentry
  by_cases hkey : key = ssrc
  · subst hkey
    rw [update_self] at hentry
    cases hentry
  · grind

end

end BoundTo

/-! ## The calls of the application -/

theorem rtcVecSwapRemove_perm (v : List Nat) {i : Nat} (hi : i < v.length) :
    (rtcVecSwapRemove v i).Perm (v.eraseIdx i) := by
  rw [rtcVecSwapRemove]
  cases hlast : v.getLast? with
  | none => grind
  | some last =>
    dsimp only
    rw [if_pos hi]
    exact List.dropLast_set_perm hi hlast

theorem rtcProducerRemoveConsumer_perm (producer : Producer) (c : Nat) :
    (rtcProducerRemoveConsumer producer c).consumers.Perm (producer.consumers.erase c) := by
  rw [rtcProducerRemoveConsumer, erase_eq_eraseIdx]
  cases hidx : producer.consumers.idxOf? c with
  | none => exact List.Perm.refl _
  | some i =>
    exact rtcVecSwapRemove_perm _ (findIdx?_eq_some_iff_getElem.mp hidx).1

namespace Graph.WellFormed

variable {g : Graph}

section

variable (h : g.WellFormed)
include h

theorem rtcTransportProduce (ssrc : UInt32) (memory alloc : Bool) :
    ∃ g', Mrtc.rtcTransportProduce g ssrc memory alloc = some g' ∧ g'.WellFormed := by
  unfold Mrtc.rtcTransportProduce
  split
  · exact ⟨g, rfl, h⟩
  · obtain ⟨rc, m, hset, hbound⟩ := h.bound.bind ssrc alloc
    rw [bindings, length_map] at hset
    rw [hset]
    cases rc with
    | error e => exact ⟨_, rfl, h.linked, hbound⟩
    | ok _ =>
      refine ⟨_, rfl, ?_, ?_⟩
      · simpa [vectors, links] using h.linked.addOwner
      · simpa [bindings, Producer.binding] using hbound

theorem rtcProducerClose (p : Nat) (alloc : Bool) :
    ∃ g', Mrtc.rtcProducerClose g p alloc = some g' ∧ g'.WellFormed := by
  unfold Mrtc.rtcProducerClose
  cases hp : g.producers[p]? with
  | none => exact ⟨g, rfl, h⟩
  | some producer =>
    cases hclosed : producer.closed with
    | true => exact ⟨g, if_pos hclosed, h⟩
    | false =>
      have hbinding : g.bindings[p]? = some producer.binding := by simp [bindings, hp]
      obtain ⟨r, hremove, hbound⟩ := h.bound.unbind hbinding alloc
      simp only [hclosed, hremove, Bool.false_eq_true, if_false, Option.map_some]
      refine ⟨_, rfl, ?_, ?_⟩
      · rw [vectors, List.map_set_of_eq hp]
        · exact h.linked
        · rfl
      · simpa [bindings, map_set, Producer.binding] using hbound

theorem rtcTransportConsume (p : Nat) (paused : Bool) (ssrc : UInt32)
    (seq : UInt16) (alloc : Bool) :
    (Mrtc.rtcTransportConsume g p paused ssrc seq alloc).WellFormed := by
  rcases rtcTransportConsume_cases g p paused ssrc seq alloc with hg | ⟨producer, _, hp, hg⟩
  · exact hg.symm ▸ h
  · rw [hg]
    refine ⟨?_, ?_⟩
    · simpa [vectors, links, map_set, link]
        using h.linked.attach (vectors_getElem? hp)
    · rw [bindings, List.map_set_of_eq hp]
      · exact h.bound
      · rfl

theorem setPaused (c : Nat) (paused : Bool) : (Mrtc.setPaused g c paused).WellFormed := by
  rcases setPaused_cases g c paused with hg | ⟨consumer, hc, hg⟩
  · exact hg.symm ▸ h
  · rw [hg]
    refine ⟨?_, h.bound⟩
    rw [links, List.map_set_of_eq hc]
    · exact h.linked
    · rfl

theorem rtcConsumerClose (c : Nat) : (Mrtc.rtcConsumerClose g c).WellFormed := by
  rcases rtcConsumerClose_cases g c with hg | ⟨consumer, hc, hopen, hg⟩
  · exact hg.symm ▸ h
  · have hlink : g.links[c]? = some (consumer.producer, false) := by
      rw [links_getElem? hc, link, hopen]
    obtain ⟨producer, hp⟩ := h.exists_producer hlink
    have hnodup := h.nodup hp
    have hperm := rtcProducerRemoveConsumer_perm producer c
    have hdetach := h.linked.detach (vectors_getElem? hp) hlink
      (hperm.nodup_iff.mpr (hnodup.erase c)) (fun x => hperm.mem_iff.trans hnodup.mem_erase_iff)
    rw [hg]
    simp only [modify_eq_set_getElem?, hp]
    refine ⟨?_, ?_⟩
    · simpa [vectors, links, map_set, link] using hdetach
    · dsimp only [Option.map_eq_map, Option.map_some, Option.getD_some]
      rw [bindings, List.map_set_of_eq hp]
      · exact h.bound
      · rw [rtcProducerRemoveConsumer]
        split <;> rfl

end

end Graph.WellFormed

/-! ## Forwarding -/

def Consumer.active (consumer : Consumer) : Bool := !consumer.closed && !consumer.paused

section

variable {send : Nat → RtpPacket → Except RtcErr Unit} {consumer : Consumer} {v : List Nat}

theorem rtcConsumerOnProducerRtp_keeps (c : Nat) (consumer : Consumer) (pkt : RtpPacket) :
    let next := (rtcConsumerOnProducerRtp send c consumer pkt).1
    next.link = consumer.link ∧ next.paused = consumer.paused ∧ next.ssrc = consumer.ssrc := by
  unfold rtcConsumerOnProducerRtp
  dsimp only
  split
  · exact ⟨rfl, rfl, rfl⟩
  · split
    · exact ⟨rfl, rfl, rfl⟩
    · split <;> exact ⟨rfl, rfl, rfl⟩

theorem rtcConsumerOnProducerRtp_sent {c : Nat} {pkt : RtpPacket}
    {f : Forward} (h : (rtcConsumerOnProducerRtp send c consumer pkt).2 = some f) :
    consumer.active = true ∧ f.consumer = c ∧ f.input = pkt
      ∧ rtcRtpBuild pkt.header.payloadType consumer.seq pkt.header.timestamp consumer.ssrc
          pkt.header.marker pkt.payload = .ok f.output := by
  unfold rtcConsumerOnProducerRtp at h
  split at h
  · cases h
  · rename_i hopen
    dsimp only at h
    cases hbuild : rtcRtpBuild pkt.header.payloadType consumer.seq pkt.header.timestamp
        consumer.ssrc pkt.header.marker pkt.payload with
    | error e => simp [hbuild] at h
    | ok out =>
      cases hsend : send c out with
      | error e => simp [hbuild, hsend] at h
      | ok _ =>
        simp only [hbuild, hsend, Option.some.injEq] at h
        subst h
        refine ⟨?_, rfl, rfl, rfl⟩
        simpa [active] using hopen

theorem rtcConsumerOnProducerRtp_seq (hactive : consumer.active = true)
    (c : Nat) (pkt : RtpPacket) :
    (rtcConsumerOnProducerRtp send c consumer pkt).1.seq = consumer.seq + 1 := by
  have hopen : ¬(consumer.closed || consumer.paused) = true := by
    simpa [active] using hactive
  unfold rtcConsumerOnProducerRtp
  rw [if_neg hopen]
  dsimp only
  split
  · rfl
  · split <;> rfl

theorem rtcConsumerOnProducerRtp_active {c : Nat} {pkt : RtpPacket}
    (hactive : consumer.active = true) (hlen : pkt.payload.length ≤ rtpMaxPacket)
    (hsend : ∀ out, send c out = .ok ()) :
    ∃ f, (rtcConsumerOnProducerRtp send c consumer pkt).2 = some f := by
  have hopen : ¬(consumer.closed || consumer.paused) = true := by
    simpa [active] using hactive
  have hshort : ¬rtpMaxPacket < pkt.payload.length := Nat.not_lt.mpr hlen
  simp [rtcConsumerOnProducerRtp, hopen, rtcRtpBuild, rtcRtpBuildWithExt, hshort, hsend]

theorem forwardAll_sent (pkt : RtpPacket) (hv : v.Nodup) (consumers : List Consumer) :
    (forwardAll send pkt v consumers).2
      = v.filterMap fun c =>
          consumers[c]?.bind fun consumer => (rtcConsumerOnProducerRtp send c consumer pkt).2 := by
  induction v generalizing consumers with
  | nil => rfl
  | cons c v ih =>
    obtain ⟨hc, hv⟩ := nodup_cons.mp hv
    cases hget : consumers[c]? with
    | none => simp [forwardAll, hget, ih hv]
    | some consumer =>
      -- the consumers behind `c` are others, so they are as before
      have hrest : ∀ d ∈ v,
          (consumers.set c (rtcConsumerOnProducerRtp send c consumer pkt).1)[d]?
            = consumers[d]? := by
        intro d hd
        exact getElem?_set_ne fun heq : c = d => hc (heq ▸ hd)
      have hsame := filterMap_congr fun d hd =>
        congrArg (·.bind fun k => (rtcConsumerOnProducerRtp send d k pkt).2) (hrest d hd)
      simp only [forwardAll, hget, ih hv, filterMap_cons, Option.bind_some, hsame]
      cases (rtcConsumerOnProducerRtp send c consumer pkt).2 <;> rfl

theorem forwardAll_consumers (pkt : RtpPacket) (hv : v.Nodup)
    (consumers : List Consumer) (d : Nat) :
    (forwardAll send pkt v consumers).1[d]?
      = if d ∈ v then
          consumers[d]?.map fun consumer => (rtcConsumerOnProducerRtp send d consumer pkt).1
        else consumers[d]? := by
  induction v generalizing consumers with
  | nil => rfl
  | cons c v ih =>
    obtain ⟨hc, hv⟩ := nodup_cons.mp hv
    cases hget : consumers[c]? with
    | none =>
      simp only [forwardAll, hget, ih hv, mem_cons]
      by_cases hd : d = c
      · simp [hd, hc, hget]
      · simp [hd]
    | some consumer =>
      have hlt := (List.getElem?_eq_some_iff.mp hget).1
      simp only [forwardAll, hget, ih hv, mem_cons]
      by_cases hd : d = c
      · subst hd
        rw [if_neg hc, getElem?_set_self hlt, hget]
        simp
      · simp [hd, getElem?_set_ne (Ne.symm hd)]

theorem forwardAll_map {β : Type} {f : Consumer → β} (pkt : RtpPacket) (hv : v.Nodup)
    (consumers : List Consumer)
    (hf : ∀ c consumer, f (rtcConsumerOnProducerRtp send c consumer pkt).1 = f consumer) :
    (forwardAll send pkt v consumers).1.map f = consumers.map f := by
  apply ext_getElem?
  intro d
  rw [getElem?_map, getElem?_map, forwardAll_consumers pkt hv]
  split
  · simp [Function.comp_def, hf]
  · rfl

theorem Graph.WellFormed.rtcProducerOnRtp {g : Graph} (h : g.WellFormed) (p : Nat)
    (pkt : RtpPacket) : (Mrtc.rtcProducerOnRtp send g p pkt).1.WellFormed := by
  unfold Mrtc.rtcProducerOnRtp
  cases hp : g.producers[p]? with
  | none => exact h
  | some producer =>
    dsimp only
    split
    · exact h
    · have hlinks :
          (forwardAll send pkt producer.consumers g.consumers).1.map link = g.links :=
        forwardAll_map pkt (h.nodup hp) g.consumers
          fun c consumer => (rtcConsumerOnProducerRtp_keeps c consumer pkt).1
      refine ⟨?_, ?_⟩
      · rw [vectors, links, hlinks, List.map_set_of_eq hp]
        · exact h.linked
        · rfl
      · rw [bindings, List.map_set_of_eq hp]
        · exact h.bound
        · rfl

end

/-! ## Runs -/

theorem Graph.WellFormed.call (h : g.WellFormed) (op : RouteCall) :
    ∃ g', g.call op = some g' ∧ g'.WellFormed := by
  cases op with
  | produce ssrc memory alloc => exact h.rtcTransportProduce ssrc memory alloc
  | closeProducer p alloc => exact h.rtcProducerClose p alloc
  | consume p paused ssrc seq alloc => exact ⟨_, rfl, h.rtcTransportConsume p paused ssrc seq alloc⟩
  | pause c => exact ⟨_, rfl, h.setPaused c true⟩
  | resume c => exact ⟨_, rfl, h.setPaused c false⟩
  | closeConsumer c => exact ⟨_, rfl, h.rtcConsumerClose c⟩

section

variable {send : Nat → RtpPacket → Except RtcErr Unit} {cr : Crypto} {g : Graph} {t : RtpTransport}
  {pkt : RtpPacket} {producer : Producer} {p : Nat}

theorem Graph.WellFormed.rtcRtpDemuxDispatch (h : g.WellFormed) (pkt : RtpPacket) :
    ∃ r, Mrtc.rtcRtpDemuxDispatch send g pkt = some r ∧ r.1.WellFormed := by
  unfold Mrtc.rtcRtpDemuxDispatch
  cases hget : rtcU32MapGet g.bySsrc pkt.header.ssrc with
  | none => exact absurd hget (h.bound.get_ne_none _)
  | some bound =>
    cases bound with
    | none => exact ⟨_, rfl, h⟩
    | some p => exact ⟨_, rfl, h.rtcProducerOnRtp p pkt⟩

section

variable (h : t.graph.WellFormed)
include h

theorem transportHandleRtp_wellFormed (data : Bytes) (ev : EvpFault) :
    ∃ r, transportHandleRtp send cr t data ev = some r ∧ r.1.graph.WellFormed := by
  unfold transportHandleRtp
  split
  · exact ⟨_, rfl, h⟩
  · dsimp only
    split
    · exact ⟨_, rfl, h⟩
    · split
      · exact ⟨_, rfl, h⟩
      · rename_i pkt _
        obtain ⟨r, hr, hwf⟩ :
            ∃ r, rtcRtpDemuxDispatch send t.graph pkt = some r ∧ r.1.WellFormed :=
          h.rtcRtpDemuxDispatch pkt
        exact ⟨_, by rw [hr, Option.map_some], hwf⟩

theorem sfuStep_wellFormed (e : SfuEvent) :
    ∃ r, sfuStep send cr t e = some r ∧ r.1.graph.WellFormed := by
  cases e with
  | call op =>
    obtain ⟨g, hg, hwf⟩ := h.call op
    exact ⟨_, by rw [sfuStep, hg, Option.map_some], hwf⟩
  | datagram data ev => exact transportHandleRtp_wellFormed h data ev

theorem sfuRun_wellFormed (es : List SfuEvent) :
    ∃ r, sfuRun send cr t es = some r ∧ r.1.graph.WellFormed := by
  induction es generalizing t with
  | nil => exact ⟨_, rfl, h⟩
  | cons e es ih =>
    obtain ⟨r, hstep, hwf⟩ := sfuStep_wellFormed h e
    obtain ⟨rest, hrun, hwf'⟩ := ih hwf
    exact ⟨(rest.1, r.2 ++ rest.2),
      by rw [sfuRun, hstep, Option.bind_some, hrun, Option.map_some], hwf'⟩

end

/-! ## A packet that comes in -/

def Accepts (cr : Crypto) (t : RtpTransport) (data : Bytes) (ev : EvpFault) (pkt : RtpPacket) :
    Prop :=
  t.srtpReady = true ∧ data.length ≤ srtpMaxPacket
    ∧ ∃ plain, (rtcSrtpUnprotect cr ev t.srtpRecv data).1 = .ok plain
      ∧ rtcRtpParse plain = .ok pkt

theorem transportHandleRtp_accepts {data : Bytes} {ev : EvpFault} (h : Accepts cr t data ev pkt) :
    transportHandleRtp send cr t data ev
      = (rtcRtpDemuxDispatch send t.graph pkt).map fun r =>
          ({ t with srtpRecv := (rtcSrtpUnprotect cr ev t.srtpRecv data).2, graph := r.1 }, r.2) := by
  obtain ⟨hready, hlen, plain, hplain, hparse⟩ := h
  have hin : ¬(!t.srtpReady || decide (srtpMaxPacket < data.length)) = true := by
    simp [hready, hlen]
  simp only [transportHandleRtp, if_neg hin, hplain, hparse]

/-- What a consumer sends has the payload, the payload type, the timestamp and the marker of the
packet that came in, and its own SSRC. -/
def Forward.Carries (f : Forward) (g : Graph) (pkt : RtpPacket) : Prop :=
  f.input = pkt ∧ ∃ consumer bytes out, g.consumers[f.consumer]? = some consumer
    ∧ f.output.buf = some bytes ∧ rtcRtpParse bytes = .ok out
    ∧ out.payload = pkt.payload ∧ out.header.payloadType = pkt.header.payloadType
    ∧ out.header.timestamp = pkt.header.timestamp ∧ out.header.marker = pkt.header.marker
    ∧ out.header.ssrc = consumer.ssrc

/-- The packet was sent to the consumers of the producer that are open and not paused, once to each
of them, and to no other. -/
structure FannedOut (g : Graph) (p : Nat) (pkt : RtpPacket) (sent : List Forward) : Prop where
  once : (sent.map Forward.consumer).Nodup
  receivers : ∀ c, c ∈ sent.map Forward.consumer ↔
    ∃ consumer, g.consumers[c]? = some consumer ∧ consumer.producer = p ∧ consumer.active = true
  carries : ∀ f ∈ sent, f.Carries g pkt

theorem rtcRtpParse_payloadType {data : Bytes} (h : rtcRtpParse data = .ok pkt) :
    pkt.header.payloadType < 128 := by
  have hheader : pkt.header = readRtpHeader data := by
    unfold rtcRtpParse at h
    split at h
    · cases h
    · grind
  rw [hheader]
  exact Nat.mod_lt _ (by decide)

theorem rtcRtpBuild_fields {pt : Nat} {seq : UInt16} {ts ssrc : UInt32} {marker : Bool}
    {payload : Bytes} {out : RtpPacket} (h : rtcRtpBuild pt seq ts ssrc marker payload = .ok out) :
    out.payload = payload ∧ out.header.seq = seq ∧ out.header.timestamp = ts
      ∧ out.header.ssrc = ssrc ∧ out.header.marker = marker := by
  rw [rtcRtpBuild, rtcRtpBuildWithExt] at h
  split at h
  · cases h
  · grind

theorem carries_of_build {f : Forward} {consumer : Consumer}
    (hpt : pkt.header.payloadType < 128) (hget : g.consumers[f.consumer]? = some consumer)
    (hinput : f.input = pkt)
    (hbuild : rtcRtpBuild pkt.header.payloadType consumer.seq pkt.header.timestamp consumer.ssrc
      pkt.header.marker pkt.payload = .ok f.output) : f.Carries g pkt := by
  obtain ⟨bytes, hbuf, hparse⟩ := rtcRtpParse_build hbuild
  obtain ⟨hpayload, -, hts, hssrc, hmarker⟩ := rtcRtpBuild_fields hbuild
  exact ⟨hinput, consumer, bytes, _, hget, hbuf, hparse, hpayload, Nat.mod_eq_of_lt hpt, hts,
    hmarker, hssrc⟩

theorem rtcProducerOnRtp_sent (h : g.WellFormed)
    (hp : g.producers[p]? = some producer) (hopen : producer.closed = false) (pkt : RtpPacket) :
    (rtcProducerOnRtp send g p pkt).2 = producer.consumers.filterMap fun c =>
      g.consumers[c]?.bind fun consumer => (rtcConsumerOnProducerRtp send c consumer pkt).2 := by
  rw [← forwardAll_sent pkt (h.nodup hp)]
  simp [rtcProducerOnRtp, hp, hopen]

theorem mem_rtcProducerOnRtp (h : g.WellFormed) (hp : g.producers[p]? = some producer)
    (hopen : producer.closed = false) {f : Forward} :
    f ∈ (rtcProducerOnRtp send g p pkt).2 ↔ f.consumer ∈ producer.consumers
      ∧ ∃ consumer, g.consumers[f.consumer]? = some consumer
        ∧ (rtcConsumerOnProducerRtp send f.consumer consumer pkt).2 = some f := by
  rw [rtcProducerOnRtp_sent h hp hopen, mem_filterMap]
  constructor
  · rintro ⟨c, hc, hf⟩
    obtain ⟨consumer, hget, hf⟩ := Option.bind_eq_some_iff.mp hf
    obtain ⟨-, rfl, -⟩ := rtcConsumerOnProducerRtp_sent hf
    exact ⟨hc, consumer, hget, hf⟩
  · grind

theorem rtcProducerOnRtp_fannedOut (h : g.WellFormed) (hp : g.producers[p]? = some producer)
    (hopen : producer.closed = false) (hpt : pkt.header.payloadType < 128)
    (hlen : pkt.payload.length ≤ rtpMaxPacket) (hsend : ∀ c out, send c out = .ok ()) :
    FannedOut g p pkt (rtcProducerOnRtp send g p pkt).2 := by
  refine ⟨?_, ?_, ?_⟩
  · rw [rtcProducerOnRtp_sent h hp hopen, map_filterMap]
    refine List.Nodup.filterMap (fun c d x hc hd => ?_) (h.nodup hp)
    obtain ⟨f, hf, rfl⟩ := Option.map_eq_some_iff.mp hc
    obtain ⟨f', hf', heq⟩ := Option.map_eq_some_iff.mp hd
    obtain ⟨k, -, hf⟩ := Option.bind_eq_some_iff.mp hf
    obtain ⟨k', -, hf'⟩ := Option.bind_eq_some_iff.mp hf'
    calc c = f.consumer := (rtcConsumerOnProducerRtp_sent hf).2.1.symm
      _ = f'.consumer := heq.symm
      _ = d := (rtcConsumerOnProducerRtp_sent hf').2.1
  · intro c
    rw [mem_map]
    constructor
    · rintro ⟨f, hf, rfl⟩
      obtain ⟨hc, k, hk, hf⟩ := (mem_rtcProducerOnRtp h hp hopen).mp hf
      have hlink := (h.mem_consumers hp).mp hc
      rw [Graph.links_getElem? hk, Option.some.injEq, link, Prod.mk.injEq] at hlink
      exact ⟨k, hk, hlink.1, (rtcConsumerOnProducerRtp_sent hf).1⟩
    · rintro ⟨k, hk, hprod, hactive⟩
      obtain ⟨f, hf⟩ := rtcConsumerOnProducerRtp_active hactive hlen (hsend c)
      obtain ⟨-, rfl, -⟩ := rtcConsumerOnProducerRtp_sent hf
      refine ⟨f, (mem_rtcProducerOnRtp h hp hopen).mpr
        ⟨(h.mem_consumers hp).mpr ?_, k, hk, hf⟩, rfl⟩
      have hclosed : k.closed = false := by simp_all [active]
      rw [Graph.links_getElem? hk, link, hprod, hclosed]
  · intro f hf
    obtain ⟨-, k, hk, hf⟩ := (mem_rtcProducerOnRtp h hp hopen).mp hf
    obtain ⟨-, -, hinput, hbuild⟩ := rtcConsumerOnProducerRtp_sent hf
    exact carries_of_build hpt hk hinput hbuild

/-- **Fan-out is exact.** -/
theorem sfu_fanOut_exact (cr : Crypto) (t₀ : RtpTransport) (hempty : t₀.graph = {})
    (hsend : ∀ c out, send c out = .ok ()) (es : List SfuEvent) :
    ∃ t sentBefore, sfuRun send cr t₀ es = some (t, sentBefore)
      ∧ ∀ data ev pkt p, Accepts cr t data ev pkt →
        rtcU32MapGet t.graph.bySsrc pkt.header.ssrc = some (some p) →
        pkt.payload.length ≤ rtpMaxPacket →
        ∃ t' sent producer, transportHandleRtp send cr t data ev = some (t', sent)
          ∧ t.graph.producers[p]? = some producer ∧ producer.ssrc = pkt.header.ssrc
          ∧ producer.closed = false ∧ FannedOut t.graph p pkt sent := by
  have hwf₀ : t₀.graph.WellFormed := hempty ▸ Graph.wellFormed_empty
  obtain ⟨⟨t, sentBefore⟩, hrun, hwf⟩ := sfuRun_wellFormed hwf₀ es
  refine ⟨t, sentBefore, hrun, fun data ev pkt p haccepts hget hlen => ?_⟩
  have hbinding := hwf.bound.get hget
  rw [Graph.bindings, getElem?_map] at hbinding
  obtain ⟨producer, hp, hfields⟩ := Option.map_eq_some_iff.mp hbinding
  obtain ⟨hssrc, hopen⟩ := Prod.mk.inj hfields
  refine ⟨{ t with
      srtpRecv := (rtcSrtpUnprotect cr ev t.srtpRecv data).2
      graph := (rtcProducerOnRtp send t.graph p pkt).1 },
    (rtcProducerOnRtp send t.graph p pkt).2, producer, ?_, hp, hssrc, hopen, ?_⟩
  · rw [transportHandleRtp_accepts haccepts, rtcRtpDemuxDispatch, hget, Option.map_some]
  · obtain ⟨-, -, plain, -, hparse⟩ := haccepts
    exact rtcProducerOnRtp_fannedOut hwf hp hopen (rtcRtpParse_payloadType hparse) hlen hsend

end

def plainPacket (n : Nat) : Bytes :=
  rtpHeaderBytes 96 7 1000 42 true false ++ replicate n 1

def readPacket (n : Nat) : RtpPacket :=
  { header :=
      { version := 2, padding := false, extension := false, csrcCount := 0, marker := true,
        payloadType := 96, seq := 7, timestamp := 1000, ssrc := 42 }
    payload := replicate n 1
    extData := none
    extLen := 0
    buf := some (plainPacket n) }

def sealedDatagram (n : Nat) : Bytes :=
  match (rtcSrtpProtect toyCrypto {} toyCtx (plainPacket n) srtpMaxPacket).1 with
  | .ok datagram => datagram
  | .error _ => []

def sendOk (_ : Nat) (_ : RtpPacket) : Except RtcErr Unit := .ok ()

def freshTransport : RtpTransport := { srtpReady := true, srtpRecv := toyCtx }

def consumersComeAndGo : List SfuEvent :=
  [.call (.produce 42 true true), .call (.consume 0 false 501 10 true),
    .call (.consume 0 true 502 20 true), .call (.consume 0 false 503 30 true),
    .call (.closeConsumer 0), .call (.resume 1)]

def takesDatagram (n : Nat) (t : RtpTransport) : Bool :=
  t.srtpReady && decide ((sealedDatagram n).length ≤ srtpMaxPacket)
    && decide ((rtcSrtpUnprotect toyCrypto {} t.srtpRecv (sealedDatagram n)).1
      = .ok (plainPacket n))
    && decide (rtcRtpParse (plainPacket n) = .ok (readPacket n))
    && decide (rtcU32MapGet t.graph.bySsrc 42 = some (some 0))

theorem accepts_of_takesDatagram {n : Nat} {t : RtpTransport} (h : takesDatagram n t = true) :
    Accepts toyCrypto t (sealedDatagram n) {} (readPacket n)
      ∧ rtcU32MapGet t.graph.bySsrc (readPacket n).header.ssrc = some (some 0) := by
  simp only [takesDatagram, Bool.and_eq_true, decide_eq_true_eq] at h
  obtain ⟨⟨⟨⟨hready, hlen⟩, hplain⟩, hparse⟩, hget⟩ := h
  exact ⟨⟨hready, hlen, plainPacket n, hplain, hparse⟩, hget⟩

theorem comeAndGo_fannedOut :
    ∃ t t' sent sentBefore,
      sfuRun sendOk toyCrypto freshTransport consumersComeAndGo = some (t, sentBefore)
        ∧ transportHandleRtp sendOk toyCrypto t (sealedDatagram 3) {} = some (t', sent)
        ∧ sent.map Forward.consumer = [2, 1] ∧ FannedOut t.graph 0 (readPacket 3) sent := by
  obtain ⟨t, sentBefore, hrun, hexact⟩ := sfu_fanOut_exact toyCrypto freshTransport rfl
    (fun c out => (rfl : sendOk c out = .ok ())) consumersComeAndGo
  have hcompute : (sfuRun sendOk toyCrypto freshTransport consumersComeAndGo).any
      (fun r => takesDatagram 3 r.1
        && decide ((transportHandleRtp sendOk toyCrypto r.1 (sealedDatagram 3) {}).map
          (fun r => r.2.map Forward.consumer) = some [2, 1])) = true := by
    decide +kernel
  rw [hrun, Option.any_some, Bool.and_eq_true, decide_eq_true_eq] at hcompute
  obtain ⟨haccepts, hget⟩ := accepts_of_takesDatagram hcompute.1
  obtain ⟨t', sent, producer, hhandle, -, -, -, hfanned⟩ :=
    hexact _ _ _ _ haccepts hget (by decide)
  refine ⟨t, t', sent, sentBefore, hrun, hhandle, ?_, hfanned⟩
  have := hcompute.2
  rw [hhandle, Option.map_some, Option.some.injEq] at this
  exact this

def oneConsumer : List SfuEvent :=
  [.call (.produce 42 true true), .call (.consume 0 false 501 10 true)]

/-- A datagram with 1401 bytes of payload is accepted for a producer with an open consumer, and is
sent to nobody. -/
theorem longPayload_not_forwarded :
    ∃ t t', sfuRun sendOk toyCrypto freshTransport oneConsumer = some (t, [])
      ∧ Accepts toyCrypto t (sealedDatagram 1401) {} (readPacket 1401)
      ∧ rtcU32MapGet t.graph.bySsrc (readPacket 1401).header.ssrc = some (some 0)
      ∧ transportHandleRtp sendOk toyCrypto t (sealedDatagram 1401) {} = some (t', [])
      ∧ ¬FannedOut t.graph 0 (readPacket 1401) [] := by
  have hcompute : (sfuRun sendOk toyCrypto freshTransport oneConsumer).any
      (fun r => decide (r.2 = []) && takesDatagram 1401 r.1
        && decide ((transportHandleRtp sendOk toyCrypto r.1 (sealedDatagram 1401) {}).map Prod.snd
          = some [])
        && decide (r.1.graph.consumers = [⟨0, 501, 10, false, false, 0, 0⟩])) = true := by
    decide +kernel
  obtain ⟨⟨t, sentBefore⟩, hrun⟩ : ∃ r, sfuRun sendOk toyCrypto freshTransport oneConsumer = some r :=
    (sfuRun_wellFormed Graph.wellFormed_empty oneConsumer).imp fun _ => And.left
  rw [hrun, Option.any_some] at hcompute
  simp only [Bool.and_eq_true, decide_eq_true_eq] at hcompute
  obtain ⟨⟨⟨rfl, htakes⟩, hhandle⟩, hconsumers⟩ := hcompute
  obtain ⟨haccepts, hget⟩ := accepts_of_takesDatagram htakes
  obtain ⟨⟨t', sent⟩, hhandle, rfl⟩ := Option.map_eq_some_iff.mp hhandle
  refine ⟨t, t', hrun, haccepts, hget, hhandle, fun hfanned => ?_⟩
  have := (hfanned.receivers 0).mpr ⟨_, by rw [hconsumers]; rfl, rfl, rfl⟩
  exact not_mem_nil this

end Mrtc
