import Mrtc.Routing.FanOut

/-! # The sequence numbers a consumer sends

A consumer numbers what it sends itself: the packet that arrived `k` packets after another has a
sequence number greater by `k`, whatever the numbers of the two were (`graphRun_numbered`).
-/

namespace Mrtc

open Net List

inductive GraphEvent where
  | call (op : RouteCall)
  | rtp (p : Nat) (pkt : RtpPacket)
  deriving DecidableEq

def graphStep (send : Nat → RtpPacket → Except RtcErr Unit) (g : Graph) :
    GraphEvent → Option (Graph × List Forward)
  | .call op => (g.call op).map fun g => (g, [])
  | .rtp p pkt => some (rtcProducerOnRtp send g p pkt)

def graphRun (send : Nat → RtpPacket → Except RtcErr Unit) :
    Graph → List GraphEvent → Option (Graph × List Forward)
  | g, [] => some (g, [])
  | g, e :: es =>
    (graphStep send g e).bind fun r =>
      (graphRun send r.1 es).map fun rest => (rest.1, r.2 ++ rest.2)

def GraphEvent.leaves (c : Nat) : GraphEvent → Bool
  | .call (.pause d) => d != c
  | .call (.closeConsumer d) => d != c
  | _ => true

def GraphEvent.arrival (p : Nat) : GraphEvent → Option RtpPacket
  | .rtp q pkt => if q = p then some pkt else none
  | .call _ => none

def arrivals (p : Nat) (es : List GraphEvent) : List RtpPacket := es.filterMap (·.arrival p)

def Graph.Sending (g : Graph) (c p : Nat) (seq : UInt16) : Prop :=
  ∃ consumer, g.consumers[c]? = some consumer ∧ consumer.link = (p, false)
    ∧ consumer.paused = false ∧ consumer.seq = seq

section

variable {send : Nat → RtpPacket → Except RtcErr Unit} {g g' : Graph} {c p : Nat} {seq : UInt16}
  {e : GraphEvent} {r : Graph × List Forward}

/-! ## The calls -/

theorem Graph.Sending.congr (h : g.Sending c p seq) (hsame : g'.consumers[c]? = g.consumers[c]?) :
    g'.Sending c p seq := by
  obtain ⟨consumer, hc, hrest⟩ := h
  exact ⟨consumer, hsame.trans hc, hrest⟩

theorem Graph.Sending.call (h : g.Sending c p seq) {op : RouteCall}
    (hleaves : (GraphEvent.call op).leaves c = true) (hcall : g.call op = some g') :
    g'.Sending c p seq := by
  cases op with
  | produce ssrc memory alloc => exact h.congr (by rw [(rtcTransportProduce_cases hcall).1])
  | closeProducer q alloc => exact h.congr (by rw [(rtcProducerClose_cases hcall).1])
  | consume q paused ssrc first alloc =>
    obtain rfl := Option.some.inj hcall
    rcases rtcTransportConsume_cases g q paused ssrc first alloc with hg | ⟨_, _, -, hg⟩
    · exact hg.symm ▸ h
    · obtain ⟨consumer, hc, hrest⟩ := h
      rw [hg]
      exact ⟨consumer, List.getElem?_concat_eq_some.mpr (.inl hc), hrest⟩
  | pause d =>
    have hne : d ≠ c := by simpa [GraphEvent.leaves] using hleaves
    obtain rfl := Option.some.inj hcall
    rw [rtcConsumerPause]
    rcases setPaused_cases g d true with hg | ⟨_, -, hg⟩
    · exact hg.symm ▸ h
    · exact h.congr (by rw [hg]; exact getElem?_set_ne hne)
  | resume d =>
    obtain rfl := Option.some.inj hcall
    rw [rtcConsumerResume]
    rcases setPaused_cases g d false with hg | ⟨other, hd, hg⟩
    · exact hg.symm ▸ h
    · rw [hg]
      obtain ⟨consumer, hc, hlink, hpaused, hseq⟩ := h
      by_cases heq : d = c
      · subst heq
        obtain rfl := Option.some.inj (hd.symm.trans hc)
        exact ⟨_, getElem?_set_self (List.getElem?_eq_some_iff.mp hc).1, hlink, rfl, hseq⟩
      · exact ⟨consumer, (getElem?_set_ne heq).trans hc, hlink, hpaused, hseq⟩
  | closeConsumer d =>
    have hne : d ≠ c := by simpa [GraphEvent.leaves] using hleaves
    obtain rfl := Option.some.inj hcall
    rcases rtcConsumerClose_cases g d with hg | ⟨_, -, -, hg⟩
    · exact hg.symm ▸ h
    · exact h.congr (by rw [hg]; exact getElem?_set_ne hne)

/-! ## Closed producers stay closed -/

def Graph.closedFlags (g : Graph) : List Bool := g.producers.map Producer.closed

theorem setPaused_producers (g : Graph) (d : Nat) (paused : Bool) :
    (setPaused g d paused).producers = g.producers := by
  rcases setPaused_cases g d paused with hg | ⟨_, -, hg⟩ <;> rw [hg]

theorem Graph.call_closed {op : RouteCall} (hcall : g.call op = some g')
    (h : g.closedFlags[p]? = some true) : g'.closedFlags[p]? = some true := by
  have hlt := (List.getElem?_eq_some_iff.mp h).1
  cases op with
  | produce ssrc memory alloc =>
    rcases (rtcTransportProduce_cases hcall).2 with hg | hg
    · rw [closedFlags, hg]
      exact h
    · rw [closedFlags, hg, map_append]
      exact (getElem?_append_left hlt).trans h
  | closeProducer q alloc =>
    rcases (rtcProducerClose_cases hcall).2 with hg | ⟨producer, hq, hg⟩
    · rw [closedFlags, hg]
      exact h
    · grind [closedFlags, map_set]
  | consume q paused ssrc first alloc =>
    obtain rfl := Option.some.inj hcall
    rcases rtcTransportConsume_cases g q paused ssrc first alloc with hg | ⟨producer, _, hq, hg⟩
    · exact hg.symm ▸ h
    · rw [hg, closedFlags, List.map_set_of_eq hq]
      · exact h
      · rfl
  | pause d =>
    obtain rfl := Option.some.inj hcall
    rw [rtcConsumerPause, closedFlags, setPaused_producers]
    exact h
  | resume d =>
    obtain rfl := Option.some.inj hcall
    rw [rtcConsumerResume, closedFlags, setPaused_producers]
    exact h
  | closeConsumer d =>
    obtain rfl := Option.some.inj hcall
    rcases rtcConsumerClose_cases g d with hg | ⟨consumer, -, -, hg⟩
    · exact hg.symm ▸ h
    · rw [hg, closedFlags]
      dsimp only
      have hmodify : (g.producers.modify consumer.producer
          (rtcProducerRemoveConsumer · d)).map Producer.closed = g.closedFlags := by
        apply ext_getElem?
        intro q
        simp only [closedFlags, getElem?_map, getElem?_modify]
        cases g.producers[q]? with
        | none => rfl
        | some producer => grind [Option.map_eq_map, rtcProducerRemoveConsumer]
      rw [hmodify]
      exact h

/-! ## A packet -/

theorem rtcProducerOnRtp_closed (h : g.closedFlags[p]? = some true) (pkt : RtpPacket) :
    rtcProducerOnRtp send g p pkt = (g, []) := by
  rw [Graph.closedFlags, getElem?_map] at h
  obtain ⟨producer, hp, hclosed⟩ := Option.map_eq_some_iff.mp h
  simp [rtcProducerOnRtp, hp, hclosed]

theorem rtcProducerOnRtp_closedFlags (g : Graph) (q : Nat) (pkt : RtpPacket) :
    (rtcProducerOnRtp send g q pkt).1.closedFlags = g.closedFlags := by
  unfold rtcProducerOnRtp
  split
  · rfl
  · grind [Graph.closedFlags, List.map_set_of_eq]

theorem rtcProducerOnRtp_consumers (hwf : g.WellFormed) {q : Nat} {producer : Producer}
    (hq : g.producers[q]? = some producer) (hopen : producer.closed = false) (pkt : RtpPacket)
    (c : Nat) :
    (rtcProducerOnRtp send g q pkt).1.consumers[c]?
      = if c ∈ producer.consumers then
          g.consumers[c]?.map fun consumer => (rtcConsumerOnProducerRtp send c consumer pkt).1
        else g.consumers[c]? := by
  rw [← forwardAll_consumers pkt (hwf.nodup hq)]
  simp [rtcProducerOnRtp, hq, hopen]

theorem Graph.Sending.rtp (h : g.Sending c p seq) (hwf : g.WellFormed) {producer : Producer}
    (hp : g.producers[p]? = some producer) (hopen : producer.closed = false) (pkt : RtpPacket) :
    (rtcProducerOnRtp send g p pkt).1.Sending c p (seq + 1)
      ∧ ∀ f ∈ (rtcProducerOnRtp send g p pkt).2, f.consumer = c →
        f.input = pkt ∧ f.output.header.seq = seq := by
  obtain ⟨consumer, hc, hlink, hpaused, rfl⟩ := h
  have hmem : c ∈ producer.consumers := by
    rw [hwf.mem_consumers hp, links_getElem? hc, hlink]
  have hactive : consumer.active = true := by
    simp [Consumer.active, hpaused, (Prod.mk.inj hlink).2]
  constructor
  · obtain ⟨hlink', hpaused', -⟩ := @rtcConsumerOnProducerRtp_keeps send c consumer pkt
    refine ⟨(rtcConsumerOnProducerRtp send c consumer pkt).1, ?_, hlink'.trans hlink,
      hpaused'.trans hpaused, rtcConsumerOnProducerRtp_seq hactive c pkt⟩
    rw [rtcProducerOnRtp_consumers hwf hp hopen, if_pos hmem, hc, Option.map_some]
  · rintro f hf rfl
    obtain ⟨-, k, hk, hsent⟩ := (mem_rtcProducerOnRtp hwf hp hopen).mp hf
    obtain rfl := Option.some.inj (hk.symm.trans hc)
    obtain ⟨-, -, hinput, hbuild⟩ := rtcConsumerOnProducerRtp_sent hsent
    exact ⟨hinput, (rtcRtpBuild_fields hbuild).2.1⟩

theorem Graph.Sending.rtp_other (h : g.Sending c p seq) (hwf : g.WellFormed) {q : Nat}
    (hne : q ≠ p) (pkt : RtpPacket) :
    (rtcProducerOnRtp send g q pkt).1.Sending c p seq
      ∧ ∀ f ∈ (rtcProducerOnRtp send g q pkt).2, f.consumer ≠ c := by
  cases hq : g.producers[q]? with
  | none =>
    rw [rtcProducerOnRtp, hq]
    exact ⟨h, by simp⟩
  | some producer =>
    cases hclosed : producer.closed with
    | true =>
      rw [rtcProducerOnRtp_closed (by simp [closedFlags, hq, hclosed])]
      exact ⟨h, by simp⟩
    | false =>
      obtain ⟨consumer, hc, hlink, -⟩ := id h
      have hnot : c ∉ producer.consumers := by
        rw [hwf.mem_consumers hq, links_getElem? hc, hlink]
        simp [Ne.symm hne]
      constructor
      · exact h.congr (by rw [rtcProducerOnRtp_consumers hwf hq hclosed, if_neg hnot])
      · rintro f hf rfl
        exact hnot ((mem_rtcProducerOnRtp hwf hq hclosed).mp hf).1

/-! ## Runs -/

theorem graphStep_wellFormed (hwf : g.WellFormed) (e : GraphEvent) :
    ∃ r, graphStep send g e = some r ∧ r.1.WellFormed := by
  cases e with
  | call op =>
    obtain ⟨g', hcall, hwf'⟩ := hwf.call op
    exact ⟨(g', []), by rw [graphStep, hcall, Option.map_some], hwf'⟩
  | rtp q pkt => exact ⟨_, rfl, hwf.rtcProducerOnRtp q pkt⟩

theorem graphRun_wellFormed (hwf : g.WellFormed) (es : List GraphEvent) :
    ∃ r, graphRun send g es = some r ∧ r.1.WellFormed := by
  induction es generalizing g with
  | nil => exact ⟨_, rfl, hwf⟩
  | cons e es ih =>
    obtain ⟨r, hstep, hwf'⟩ := graphStep_wellFormed hwf e
    obtain ⟨rest, hrun, hwf''⟩ := ih hwf'
    exact ⟨(rest.1, r.2 ++ rest.2),
      by rw [graphRun, hstep, Option.bind_some, hrun, Option.map_some], hwf''⟩

theorem Graph.Sending.step (h : g.Sending c p seq) (hwf : g.WellFormed)
    (hleaves : e.leaves c = true) (harrival : e.arrival p = none)
    (hstep : graphStep send g e = some r) : r.1.Sending c p seq ∧ ∀ f ∈ r.2, f.consumer ≠ c := by
  cases e with
  | call op =>
    obtain ⟨g', hcall, rfl⟩ := Option.map_eq_some_iff.mp hstep
    exact ⟨h.call hleaves hcall, by simp⟩
  | rtp q pkt =>
    obtain rfl := Option.some.inj hstep
    have hne : q ≠ p := fun heq => by simp [GraphEvent.arrival, heq] at harrival
    exact h.rtp_other hwf hne pkt

theorem graphStep_closed (h : g.closedFlags[p]? = some true) (hstep : graphStep send g e = some r) :
    r.1.closedFlags[p]? = some true := by
  cases e with
  | call op =>
    obtain ⟨g', hcall, rfl⟩ := Option.map_eq_some_iff.mp hstep
    exact Graph.call_closed hcall h
  | rtp q pkt =>
    obtain rfl := Option.some.inj hstep
    rw [rtcProducerOnRtp_closedFlags]
    exact h

theorem GraphEvent.arrival_eq_some {pkt : RtpPacket} (h : e.arrival p = some pkt) :
    e = .rtp p pkt := by
  cases e with
  | call op => cases h
  | rtp q other =>
    by_cases heq : q = p
    · rw [arrival, if_pos heq, Option.some.injEq] at h
      rw [heq, h]
    · simp [arrival, heq] at h

theorem graphRun_closed (h : g.Sending c p seq) (hwf : g.WellFormed)
    (hclosed : g.closedFlags[p]? = some true) {es : List GraphEvent}
    (hleaves : ∀ e ∈ es, e.leaves c = true) (hrun : graphRun send g es = some r) :
    ∀ f ∈ r.2, f.consumer ≠ c := by
  induction es generalizing g r with
  | nil =>
    obtain rfl := Option.some.inj hrun
    simp
  | cons e es ih =>
    obtain ⟨he, hes⟩ := forall_mem_cons.mp hleaves
    obtain ⟨r₁, hstep, hwf₁⟩ := @graphStep_wellFormed send g hwf e
    have hclosed₁ := graphStep_closed hclosed hstep
    have hsending : r₁.1.Sending c p seq ∧ ∀ f ∈ r₁.2, f.consumer ≠ c := by
      cases harrival : e.arrival p with
      | none => exact h.step hwf he harrival hstep
      | some pkt =>
        obtain rfl := GraphEvent.arrival_eq_some harrival
        obtain rfl := Option.some.inj hstep
        rw [rtcProducerOnRtp_closed hclosed]
        exact ⟨h, by simp⟩
    rw [graphRun, hstep, Option.bind_some] at hrun
    obtain ⟨rest, hrest, rfl⟩ := Option.map_eq_some_iff.mp hrun
    intro f hf
    rcases mem_append.mp hf with hf | hf
    · exact hsending.2 f hf
    · exact ih hsending.1 hwf₁ hclosed₁ hes hrest f hf

/-- **Numbering by arrival**: what the consumer sends for the packet that arrives at place `k` has
the sequence number `seq + k`. -/
theorem graphRun_numbered (h : g.Sending c p seq) (hwf : g.WellFormed) {es : List GraphEvent}
    (hleaves : ∀ e ∈ es, e.leaves c = true) (hrun : graphRun send g es = some r) :
    ∀ f ∈ r.2, f.consumer = c →
      ∃ k, (arrivals p es)[k]? = some f.input ∧ f.output.header.seq = seq + UInt16.ofNat k := by
  induction es generalizing g seq r with
  | nil =>
    obtain rfl := Option.some.inj hrun
    simp
  | cons e es ih =>
    -- the producer of the consumer is there
    obtain ⟨producer, hp⟩ : ∃ producer, g.producers[p]? = some producer := by
      obtain ⟨consumer, hc, hlink, -⟩ := id h
      exact hwf.exists_producer ((Graph.links_getElem? hc).trans (congrArg some hlink))
    cases hclosed : producer.closed with
    | true => grind [Graph.closedFlags, graphRun_closed]
    | false =>
      obtain ⟨he, hes⟩ := forall_mem_cons.mp hleaves
      obtain ⟨r₁, hstep, hwf₁⟩ := @graphStep_wellFormed send g hwf e
      rw [graphRun, hstep, Option.bind_some] at hrun
      obtain ⟨rest, hrest, rfl⟩ := Option.map_eq_some_iff.mp hrun
      intro f hf hfc
      cases harrival : e.arrival p with
      | none =>
        obtain ⟨hsending, hnone⟩ := h.step hwf he harrival hstep
        rw [arrivals, filterMap_cons_none harrival]
        rcases mem_append.mp hf with hf | hf
        · exact absurd hfc (hnone f hf)
        · exact ih hsending hwf₁ hes hrest f hf hfc
      | some pkt =>
        rw [arrivals, filterMap_cons_some harrival]
        obtain rfl := GraphEvent.arrival_eq_some harrival
        obtain rfl := Option.some.inj hstep
        obtain ⟨hsending, hfirst⟩ := h.rtp hwf hp hclosed pkt
        rcases mem_append.mp hf with hf | hf
        · obtain ⟨hinput, hseq⟩ := hfirst f hf hfc
          exact ⟨0, by rw [hinput]; rfl, by rw [hseq]; simp⟩
        · obtain ⟨k, hk, hseq⟩ := ih hsending hwf₁ hes hrest f hf hfc
          refine ⟨k + 1, hk, ?_⟩
          rw [hseq, UInt16.ofNat_add, UInt16.add_assoc, UInt16.add_comm 1]
          rfl

def NextSeq (a b : RtpPacket) : Prop := b.header.seq = a.header.seq + 1

instance NextSeq.decidable : DecidableRel NextSeq :=
  fun a b => inferInstanceAs (Decidable (b.header.seq = a.header.seq + 1))

theorem nextSeq_chain {first : RtpPacket} {l : List RtpPacket} (h : (first :: l).IsChain NextSeq)
    {k : Nat} {pkt : RtpPacket} (hk : (first :: l)[k]? = some pkt) :
    pkt.header.seq = first.header.seq + UInt16.ofNat k := by
  induction l generalizing first k with
  | nil =>
    obtain ⟨rfl, rfl⟩ : k = 0 ∧ pkt = first := by
      simpa using List.getElem?_concat_eq_some.mp (show ([] ++ [first])[k]? = some pkt from hk)
    simp
  | cons second l ih =>
    obtain ⟨hnext, htail⟩ := isChain_cons_cons.mp h
    cases k with
    | zero =>
      obtain rfl := Option.some.inj hk
      simp
    | succ k =>
      rw [ih htail hk, hnext, UInt16.ofNat_add, UInt16.add_assoc, UInt16.add_comm 1]
      rfl

/-- **Differences of sequence numbers.** -/
theorem forwarded_differences (before during : List GraphEvent) {sentBefore : List Forward}
    {consumer : Consumer} (hbefore : graphRun send {} before = some (g, sentBefore))
    (hc : g.consumers[c]? = some consumer) (hactive : consumer.active = true)
    (hleaves : ∀ e ∈ during, e.leaves c = true)
    (hconsecutive : (arrivals consumer.producer during).IsChain NextSeq) :
    ∃ g' sent, graphRun send g during = some (g', sent)
      ∧ ∀ f ∈ sent, ∀ f' ∈ sent, f.consumer = c → f'.consumer = c →
        f.output.header.seq - f'.output.header.seq = f.input.header.seq - f'.input.header.seq := by
  obtain ⟨r, hrun, hwf⟩ := @graphRun_wellFormed send {} Graph.wellFormed_empty before
  obtain rfl := Option.some.inj (hrun.symm.trans hbefore)
  obtain ⟨⟨g', sent⟩, hduring, -⟩ := @graphRun_wellFormed send g hwf during
  have hsending : g.Sending c consumer.producer consumer.seq := by
    simp only [Consumer.active, Bool.and_eq_true, Bool.not_eq_true'] at hactive
    exact ⟨consumer, hc, by rw [Consumer.link, hactive.1], hactive.2, rfl⟩
  have hnumbered := graphRun_numbered hsending hwf hleaves hduring
  refine ⟨g', sent, hduring, fun f hf f' hf' hfc hfc' => ?_⟩
  obtain ⟨k, hk, hseq⟩ := hnumbered f hf hfc
  obtain ⟨k', hk', hseq'⟩ := hnumbered f' hf' hfc'
  -- both ways of counting start at the first packet that arrives
  cases hall : arrivals consumer.producer during with
  | nil => simp [hall] at hk
  | cons first rest =>
    rw [hall] at hconsecutive hk hk'
    rw [hseq, hseq', nextSeq_chain hconsecutive hk, nextSeq_chain hconsecutive hk']
    grind

end

def numberedPacket (seq : UInt16) : RtpPacket :=
  { header :=
      { version := 2, padding := false, extension := false, csrcCount := 0, marker := false,
        payloadType := 96, seq := seq, timestamp := 0, ssrc := 42 }
    payload := [1]
    extData := none
    extLen := 0
    buf := none }

def attachOne : List GraphEvent :=
  [.call (.produce 42 true true), .call (.consume 0 false 501 10 true)]

def attachedGraph : Graph := ((graphRun sendOk {} attachOne).map Prod.fst).getD {}

def consecutiveEvents : List GraphEvent :=
  [.rtp 0 (numberedPacket 65534), .call (.consume 0 false 502 99 true),
    .rtp 0 (numberedPacket 65535), .call (.resume 0), .rtp 0 (numberedPacket 0)]

theorem consecutiveEvents_differences :
    ∃ g' sent, graphRun sendOk attachedGraph consecutiveEvents = some (g', sent)
      ∧ ∀ f ∈ sent, ∀ f' ∈ sent, f.consumer = 0 → f'.consumer = 0 →
        f.output.header.seq - f'.output.header.seq = f.input.header.seq - f'.input.header.seq :=
  forwarded_differences attachOne consecutiveEvents
    (show graphRun sendOk {} attachOne = some (attachedGraph, []) by decide +kernel)
    (show attachedGraph.consumers[0]? = some ⟨0, 501, 10, false, false, 0, 0⟩ by decide +kernel)
    rfl (by decide) (by decide)

/-- The packet between the two was lost on its way in, and the consumer numbers the two as if there
had been none. -/
theorem lostPacket_closed_up :
    (graphRun sendOk attachedGraph
        [.rtp 0 (numberedPacket 100), .rtp 0 (numberedPacket 102)]).map
        (fun r => r.2.map fun f => (f.consumer, f.input.header.seq, f.output.header.seq))
      = some [(0, 100, 10), (0, 102, 11)] ∧ (11 : UInt16) - 10 ≠ 102 - 100 := by
  decide +kernel

end Mrtc
