import Mrtc.Lib.Trace
import Mrtc.Routing.FanOut

/-! # Producers beside each other (`rtc_producer.c`, `rtc_rtp_demux.c`)

A producer is bound to its SSRC in the map of the transport.
-/

namespace Mrtc

open List Function

inductive RouteEvent where
  | call (op : RouteCall)
  | packet (pkt : RtpPacket)

section

variable (send : Nat → RtpPacket → Except RtcErr Unit)

def routeStep (g : Graph) : RouteEvent → Option Graph
  | .call op => g.call op
  | .packet pkt => (rtcRtpDemuxDispatch send g pkt).map Prod.fst

/-- A packet with the SSRC of an open producer reaches it. -/
def Graph.AllReceive (g : Graph) : Prop :=
  ∀ (p : Nat) (producer : Producer), g.producers[p]? = some producer → producer.closed = false →
    ∀ pkt : RtpPacket, pkt.header.ssrc = producer.ssrc →
      ∃ g' sent, rtcRtpDemuxDispatch send g pkt = some (g', sent)
        ∧ g'.producers[p]?.map Producer.packetsReceived = some (producer.packetsReceived + 1)

end

/-- A producer is added only under an SSRC that no open one has. -/
def RouteEvent.TakesFreeSsrc (g : Graph) (e : RouteEvent) : Prop :=
  ∀ ssrc memory alloc g', e = .call (.produce ssrc memory alloc) →
    rtcTransportProduce g ssrc memory alloc = some g' →
    g'.producers.length = g.producers.length + 1 →
    ∀ (p : Nat) (producer : Producer), g.producers[p]? = some producer →
      producer.closed = false → producer.ssrc ≠ ssrc

/-! ## Bindings -/

def Graph.boundTo (g : Graph) (ssrc : UInt32) : Option (Option Nat) := rtcU32MapGet g.bySsrc ssrc

def Graph.AllBound (g : Graph) : Prop :=
  ∀ (p : Nat) (ssrc : UInt32), g.bindings[p]? = some (ssrc, false) → g.boundTo ssrc = some (some p)

inductive RouteEffect (g : Graph) (e : RouteEvent) (g' : Graph) : Prop where
  | kept (hbindings : g'.bindings = g.bindings) (hbound : g'.boundTo = g.boundTo)
      (hfree : e.TakesFreeSsrc g)
  | produced (ssrc : UInt32) (hbindings : g'.bindings = g.bindings ++ [(ssrc, false)])
      (hbound : g'.boundTo = update g.boundTo ssrc (some (some g.bindings.length)))
      (hfree : e.TakesFreeSsrc g ↔ ∀ p : Nat, g.bindings[p]? ≠ some (ssrc, false))
  | closed (p : Nat) (ssrc : UInt32) (hopen : g.bindings[p]? = some (ssrc, false))
      (hbindings : g'.bindings = g.bindings.set p (ssrc, true))
      (hbound : g'.boundTo = update g.boundTo ssrc (some none))
      (hfree : e.TakesFreeSsrc g)

section Effect

variable {g : Graph} {send : Nat → RtpPacket → Except RtcErr Unit} {e : RouteEvent}

theorem Graph.bindings_getElem? {p : Nat} {ssrc : UInt32} {closed : Bool} :
    g.bindings[p]? = some (ssrc, closed)
      ↔ ∃ producer, g.producers[p]? = some producer ∧ producer.ssrc = ssrc
        ∧ producer.closed = closed := by
  rw [Graph.bindings, getElem?_map, Option.map_eq_some_iff]
  simp only [Producer.binding, Prod.mk.injEq]

theorem RouteEvent.takesFreeSsrc_of_ne
    (h : ∀ ssrc memory alloc, e ≠ .call (.produce ssrc memory alloc)) : e.TakesFreeSsrc g :=
  fun ssrc memory alloc _ heq => absurd heq (h ssrc memory alloc)

theorem produce_effect (h : g.WellFormed) (ssrc : UInt32) (memory alloc : Bool) :
    ∃ g', rtcTransportProduce g ssrc memory alloc = some g'
      ∧ RouteEffect g (.call (.produce ssrc memory alloc)) g' := by
  obtain ⟨S, hrep, -⟩ := h.bound
  -- a call that makes no producer
  have hnone : ∀ g', rtcTransportProduce g ssrc memory alloc = some g' →
      g'.producers = g.producers →
      (RouteEvent.call (.produce ssrc memory alloc)).TakesFreeSsrc g := by
    intro g' hg' hsame ssrc' memory' alloc' g'' heq hg'' hlength
    cases heq
    rw [hg', Option.some.injEq] at hg''
    rw [← hg'', hsame] at hlength
    omega
  by_cases hrefused : (decide (ssrc = 0) || !memory) = true
  · have hg' : rtcTransportProduce g ssrc memory alloc = some g := by
      rw [rtcTransportProduce, if_pos hrefused]
    exact ⟨g, hg', .kept rfl rfl (hnone g hg' rfl)⟩
  rcases hrep.set_cases ssrc (some g.producers.length) alloc with ⟨hset, -⟩ | ⟨m, hset, hm⟩
  · have hg' : rtcTransportProduce g ssrc memory alloc = some g := by
      rw [rtcTransportProduce, if_neg hrefused, hset]
    exact ⟨g, hg', .kept rfl rfl (hnone g hg' rfl)⟩
  · have hg' : rtcTransportProduce g ssrc memory alloc
        = some { g with bySsrc := m, producers := g.producers ++ [{ ssrc := ssrc }] } := by
      rw [rtcTransportProduce, if_neg hrefused, hset]
    refine ⟨_, hg', .produced ssrc ?_ ?_ ?_⟩
    · rw [Graph.bindings, map_append]
      rfl
    · funext key
      unfold Graph.boundTo
      rw [hm.get]
      dsimp only
      by_cases hkey : key = ssrc
      · rw [hkey, update_self, update_self, Graph.bindings, length_map]
        rfl
      · rw [update_of_ne hkey, update_of_ne hkey, hrep.get]
    · constructor
      · intro hfree p hp
        obtain ⟨producer, hproducer, hssrc, hopen⟩ := Graph.bindings_getElem?.mp hp
        exact hfree ssrc memory alloc _ rfl hg' length_append p producer hproducer hopen hssrc
      · intro hfree ssrc' memory' alloc' g'' heq _ _ p producer hproducer hopen hssrc
        cases heq
        exact hfree p (Graph.bindings_getElem?.mpr ⟨producer, hproducer, hssrc, hopen⟩)

theorem closeProducer_effect (h : g.WellFormed) (p : Nat) (alloc : Bool) :
    ∃ g', rtcProducerClose g p alloc = some g' ∧ RouteEffect g (.call (.closeProducer p alloc)) g' := by
  have hfree : (RouteEvent.call (.closeProducer p alloc)).TakesFreeSsrc g :=
    RouteEvent.takesFreeSsrc_of_ne fun _ _ _ heq => by cases heq
  unfold rtcProducerClose
  cases hp : g.producers[p]? with
  | none => exact ⟨g, rfl, .kept rfl rfl hfree⟩
  | some producer =>
    cases hclosed : producer.closed with
    | true => exact ⟨g, if_pos hclosed, .kept rfl rfl hfree⟩
    | false =>
      obtain ⟨S, hrep, -⟩ := h.bound
      obtain ⟨m, hremove, hm⟩ := HashTable.Sound.remove hrep producer.ssrc alloc
      dsimp only
      rw [if_neg (by simp [hclosed]), rtcU32MapRemove, hremove]
      refine ⟨_, rfl, ?_⟩
      refine .closed p producer.ssrc
        (Graph.bindings_getElem?.mpr ⟨producer, hp, rfl, hclosed⟩) ?_ ?_ hfree
      · rw [Graph.bindings, map_set]
        rfl
      · funext key
        have hget : ∀ key, rtcU32MapGet m key
            = some ((update S.entries producer.ssrc none key).getD none) :=
          U32Map.Represents.get (S := { S with entries := _ }) hm
        show rtcU32MapGet m key = _
        rw [hget]
        by_cases hkey : key = producer.ssrc
        · rw [hkey, update_self, update_self]
          rfl
        · rw [update_of_ne hkey, update_of_ne hkey, Graph.boundTo, hrep.get]

theorem RouteEffect.of_eq {g' : Graph}
    (hne : ∀ ssrc memory alloc, e ≠ .call (.produce ssrc memory alloc))
    (hbindings : g'.bindings = g.bindings) (hmap : g'.bySsrc = g.bySsrc) : RouteEffect g e g' := by
  refine .kept hbindings ?_ (RouteEvent.takesFreeSsrc_of_ne hne)
  funext key
  rw [Graph.boundTo, Graph.boundTo, hmap]

theorem rtcTransportConsume_bindings (p : Nat) (paused : Bool) (ssrc : UInt32) (seq : UInt16)
    (alloc : Bool) :
    (rtcTransportConsume g p paused ssrc seq alloc).bindings = g.bindings
      ∧ (rtcTransportConsume g p paused ssrc seq alloc).bySsrc = g.bySsrc := by
  rcases rtcTransportConsume_cases g p paused ssrc seq alloc with hg | ⟨producer, _, hp, hg⟩
  · rw [hg]
    exact ⟨rfl, rfl⟩
  · rw [hg]
    exact ⟨List.map_set_of_eq hp rfl, rfl⟩

theorem setPaused_bindings (c : Nat) (paused : Bool) :
    (setPaused g c paused).bindings = g.bindings ∧ (setPaused g c paused).bySsrc = g.bySsrc := by
  rcases setPaused_cases g c paused with hg | ⟨consumer, -, hg⟩
  · rw [hg]
    exact ⟨rfl, rfl⟩
  · rw [hg]
    exact ⟨rfl, rfl⟩

theorem rtcConsumerClose_bindings (c : Nat) :
    (rtcConsumerClose g c).bindings = g.bindings ∧ (rtcConsumerClose g c).bySsrc = g.bySsrc := by
  rcases rtcConsumerClose_cases g c with hg | ⟨consumer, -, -, hg⟩
  · rw [hg]
    exact ⟨rfl, rfl⟩
  · rw [hg]
    refine ⟨ext_getElem? fun p => ?_, rfl⟩
    simp only [Graph.bindings, getElem?_map, getElem?_modify]
    cases hp : g.producers[p]? with
    | none => rfl
    | some producer =>
      have hremove : (rtcProducerRemoveConsumer producer c).binding = producer.binding := by
        rw [rtcProducerRemoveConsumer]
        split <;> rfl
      by_cases hne : consumer.producer = p
      · simp [hne, hremove]
      · simp [hne]

theorem rtcProducerOnRtp_bindings (p : Nat) (pkt : RtpPacket) :
    (rtcProducerOnRtp send g p pkt).1.bindings = g.bindings
      ∧ (rtcProducerOnRtp send g p pkt).1.bySsrc = g.bySsrc := by
  unfold rtcProducerOnRtp
  cases hp : g.producers[p]? with
  | none => exact ⟨rfl, rfl⟩
  | some producer =>
    dsimp only
    split
    · exact ⟨rfl, rfl⟩
    · exact ⟨List.map_set_of_eq hp rfl, rfl⟩

variable (send) in
theorem packet_effect (h : g.WellFormed) (pkt : RtpPacket) :
    ∃ r, rtcRtpDemuxDispatch send g pkt = some r ∧ r.1.WellFormed
      ∧ RouteEffect g (.packet pkt) r.1 := by
  obtain ⟨r, hdispatch, hwf⟩ := Graph.WellFormed.rtcRtpDemuxDispatch h pkt
  refine ⟨r, hdispatch, hwf, ?_⟩
  unfold rtcRtpDemuxDispatch at hdispatch
  split at hdispatch
  · cases hdispatch
  · cases hdispatch
    exact .of_eq (by simp) rfl rfl
  · cases hdispatch
    exact .of_eq (by simp) (rtcProducerOnRtp_bindings _ pkt).1 (rtcProducerOnRtp_bindings _ pkt).2

variable (send) in
/-- **What an event does.** -/
theorem Graph.WellFormed.routeStep (h : g.WellFormed) (e : RouteEvent) :
    ∃ g', Mrtc.routeStep send g e = some g' ∧ g'.WellFormed ∧ RouteEffect g e g' := by
  cases e with
  | packet pkt =>
    obtain ⟨r, hdispatch, hwf, heffect⟩ := packet_effect send h pkt
    exact ⟨r.1, by rw [Mrtc.routeStep, hdispatch, Option.map_some], hwf, heffect⟩
  | call op =>
    obtain ⟨g', hcall, hwf⟩ := h.call op
    refine ⟨g', hcall, hwf, ?_⟩
    cases op with
    | produce ssrc memory alloc =>
      obtain ⟨g'', hproduce, heffect⟩ := produce_effect h ssrc memory alloc
      cases hcall.symm.trans hproduce
      exact heffect
    | closeProducer p alloc =>
      obtain ⟨g'', hclose, heffect⟩ := closeProducer_effect h p alloc
      cases hcall.symm.trans hclose
      exact heffect
    | consume p paused ssrc seq alloc =>
      cases hcall
      obtain ⟨hbindings, hmap⟩ := rtcTransportConsume_bindings (g := g) p paused ssrc seq alloc
      exact .of_eq (by simp) hbindings hmap
    | pause c =>
      cases hcall
      exact .of_eq (by simp) (setPaused_bindings c true).1 (setPaused_bindings c true).2
    | resume c =>
      cases hcall
      exact .of_eq (by simp) (setPaused_bindings c false).1 (setPaused_bindings c false).2
    | closeConsumer c =>
      cases hcall
      exact .of_eq (by simp) (rtcConsumerClose_bindings c).1 (rtcConsumerClose_bindings c).2

theorem RouteEffect.allBound_iff {g' : Graph} (heffect : RouteEffect g e g') (hall : g.AllBound) :
    g'.AllBound ↔ e.TakesFreeSsrc g := by
  cases heffect with
  | kept hbindings hbound hfree =>
    refine iff_of_true (fun p ssrc hp => ?_) hfree
    rw [hbindings] at hp
    rw [hbound]
    exact hall p ssrc hp
  | produced ssrc hbindings hbound hfree =>
    rw [hfree]
    constructor
    · intro hall' p hp
      -- the older producer is still open, but the binding is that of the new one
      obtain ⟨hlt, -⟩ := List.getElem?_eq_some_iff.mp hp
      have hp' : g'.bindings[p]? = some (ssrc, false) := by
        rw [hbindings, getElem?_append_left hlt, hp]
      have hlost := hall' p ssrc hp'
      rw [hbound, update_self, Option.some.injEq, Option.some.injEq] at hlost
      omega
    · intro hnone p ssrc' hp
      rw [hbindings] at hp
      rw [hbound]
      rcases List.getElem?_concat_eq_some.mp hp with hold | ⟨rfl, hnew⟩
      · have hne : ssrc' ≠ ssrc := by
          rintro rfl
          exact hnone p hold
        rw [update_of_ne hne]
        exact hall p ssrc' hold
      · cases hnew
        rw [update_self]
  | closed p ssrc hopen hbindings hbound hfree =>
    refine iff_of_true (fun p' ssrc' hp' => ?_) hfree
    obtain ⟨hlt, -⟩ := List.getElem?_eq_some_iff.mp hopen
    rw [hbindings] at hp'
    rcases (List.getElem?_set_eq_some hlt).mp hp' with ⟨-, hclosed⟩ | ⟨hne, hold⟩
    · cases hclosed
    · have hne' : ssrc' ≠ ssrc := by
        rintro rfl
        have hsame := (hall p' ssrc' hold).symm.trans (hall p ssrc' hopen)
        rw [Option.some.injEq, Option.some.injEq] at hsame
        exact hne hsame
      rw [hbound, update_of_ne hne']
      exact hall p' ssrc' hold

end Effect

/-! ## Receiving -/

section Receive

variable {g : Graph} {send : Nat → RtpPacket → Except RtcErr Unit}

variable (send) in
theorem rtcProducerOnRtp_received {p p' : Nat} {producer producer' : Producer}
    (hp : g.producers[p]? = some producer) (hp' : g.producers[p']? = some producer')
    (hopen : producer.closed = false) (pkt : RtpPacket) :
    (rtcProducerOnRtp send g p pkt).1.producers[p']?.map Producer.packetsReceived
      = some (if p = p' then producer'.packetsReceived + 1 else producer'.packetsReceived) := by
  obtain ⟨hlt, -⟩ := List.getElem?_eq_some_iff.mp hp
  rw [rtcProducerOnRtp, hp]
  dsimp only
  rw [if_neg (by simp [hopen])]
  by_cases heq : p = p'
  · subst heq
    cases hp.symm.trans hp'
    rw [if_pos rfl, getElem?_set_self hlt]
    rfl
  · rw [if_neg heq, getElem?_set_ne heq, hp']
    rfl

theorem Graph.allReceive_iff (h : g.WellFormed) : g.AllReceive send ↔ g.AllBound := by
  constructor
  · intro hall p ssrc hp
    obtain ⟨producer, hproducer, rfl, hopen⟩ := Graph.bindings_getElem?.mp hp
    obtain ⟨g', sent, hdispatch, hcount⟩ := hall p producer hproducer hopen
      { readPacket 0 with header := { (readPacket 0).header with ssrc := producer.ssrc } } rfl
    unfold rtcRtpDemuxDispatch at hdispatch
    dsimp only at hdispatch
    change rtcU32MapGet g.bySsrc producer.ssrc = _
    cases hget : rtcU32MapGet g.bySsrc producer.ssrc with
    | none =>
      rw [hget] at hdispatch
      cases hdispatch
    | some bound =>
      rw [hget] at hdispatch
      cases bound with
      | none => grind
      | some p' =>
        obtain ⟨producer', hproducer', -, hopen'⟩ :=
          Graph.bindings_getElem?.mp (h.bound.get hget)
        have hcounted := rtcProducerOnRtp_received send hproducer' hproducer hopen'
          { readPacket 0 with header := { (readPacket 0).header with ssrc := producer.ssrc } }
        rw [Option.some.inj hdispatch, hcount, Option.some.injEq] at hcounted
        by_cases heq : p' = p
        · rw [heq]
        · rw [if_neg heq] at hcounted
          omega
  · intro hall p producer hproducer hopen pkt hssrc
    have hget : rtcU32MapGet g.bySsrc producer.ssrc = some (some p) :=
      hall p producer.ssrc (Graph.bindings_getElem?.mpr ⟨producer, hproducer, rfl, hopen⟩)
    refine ⟨(rtcProducerOnRtp send g p pkt).1, (rtcProducerOnRtp send g p pkt).2, ?_, ?_⟩
    · rw [rtcRtpDemuxDispatch, hssrc, hget]
    · rw [rtcProducerOnRtp_received send hproducer hproducer hopen, if_pos rfl]

end Receive

/-- **Exactly when producers are isolated.** -/
theorem producers_isolated_iff (send : Nat → RtpPacket → Except RtcErr Unit)
    (events : List RouteEvent) :
    (∃ g, Trace.run (routeStep send) {} events = some g)
      ∧ (Trace.EveryPoint (routeStep send) (Graph.AllReceive send) {} events
        ↔ Trace.EveryStep (routeStep send) (fun g e => e.TakesFreeSsrc g) {} events) := by
  have hstart : Graph.AllReceive send {} := by
    intro p producer hp
    cases hp
  obtain ⟨⟨g, hrun, -⟩, hiff⟩ := Trace.everyPoint_iff (routeStep send)
    Graph.WellFormed (Graph.AllReceive send) (fun g e => e.TakesFreeSsrc g)
    (fun g e hwf => by
      obtain ⟨g', hstep, hwf', heffect⟩ := hwf.routeStep send e
      refine ⟨g', hstep, hwf', fun hall => ?_⟩
      rw [Graph.allReceive_iff hwf] at hall
      rw [Graph.allReceive_iff hwf']
      exact heffect.allBound_iff hall)
    Graph.wellFormed_empty hstart events
  exact ⟨⟨g, hrun⟩, hiff⟩

/-- The SSRC is taken over by a second producer. -/
theorem sameSsrc_takes_over :
    let opened : List RouteEvent :=
      [.call (.produce 42 true true), .call (.produce 42 true true), .packet (readPacket 0)]
    let closed : List RouteEvent :=
      opened ++ [.call (.closeProducer 1 true), .packet (readPacket 0)]
    (Trace.run (routeStep sendOk) {} opened).map (fun g => g.producers.map fun producer =>
        (producer.closed, producer.packetsReceived))
      = some [(false, 0), (false, 1)]
    ∧ (Trace.run (routeStep sendOk) {} closed).map (fun g => g.producers.map fun producer =>
        (producer.closed, producer.packetsReceived))
      = some [(false, 0), (true, 1)] := by
  decide +kernel

end Mrtc
