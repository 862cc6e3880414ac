import Mrtc.Map.U32
import Mrtc.Rtp.Packet
import Mrtc.Srtp.Context

/-! # Producers and consumers (`rtc_producer.c`, `rtc_consumer.c`, `rtc_rtp_demux.c`)

The routing graph of a transport: a producer for an SSRC that comes in, and the consumers it fans
out to.
-/

namespace Mrtc

open Net

def srtpMaxPacket : Nat := 1500

structure Consumer where
  producer : Nat
  ssrc : UInt32
  seq : UInt16
  closed : Bool := false
  paused : Bool
  packetsSent : Nat := 0
  bytesSent : Nat := 0
  deriving DecidableEq

structure Producer where
  ssrc : UInt32
  consumers : List Nat := []
  closed : Bool := false
  packetsReceived : Nat := 0
  bytesReceived : Nat := 0
  deriving DecidableEq

structure Graph where
  bySsrc : U32Map Nat := {}
  producers : List Producer := []
  consumers : List Consumer := []
  deriving DecidableEq

/-! ## Attaching and detaching -/

def rtcVecSwapRemove (v : List Nat) (idx : Nat) : List Nat :=
  match v.getLast? with
  | none => v
  | some last => if idx < v.length then (v.set idx last).dropLast else v

def rtcTransportProduce (g : Graph) (ssrc : UInt32) (memory alloc : Bool) : Option Graph :=
  if ssrc = 0 || !memory then some g
  else
    match rtcU32MapSet g.bySsrc ssrc (some g.producers.length) alloc with
    | none => none
    | some (.error _, m) => some { g with bySsrc := m }
    | some (.ok _, m) =>
      some { g with bySsrc := m, producers := g.producers ++ [{ ssrc := ssrc }] }

def rtcProducerClose (g : Graph) (p : Nat) (alloc : Bool) : Option Graph :=
  match g.producers[p]? with
  | none => some g
  | some producer =>
    if producer.closed then some g
    else
      (rtcU32MapRemove g.bySsrc producer.ssrc alloc).map fun r =>
        { g with
          bySsrc := r.2
          producers := g.producers.set p { producer with closed := true } }

def rtcTransportConsume (g : Graph) (p : Nat) (paused : Bool) (ssrc : UInt32) (seq : UInt16)
    (alloc : Bool) : Graph :=
  match g.producers[p]? with
  | none => g
  | some producer =>
    if producer.closed || !alloc then g
    else
      { g with
        producers :=
          g.producers.set p
            { producer with consumers := producer.consumers ++ [g.consumers.length] }
        consumers :=
          g.consumers ++
            [{ producer := p
               ssrc := if ssrc = 0 then 1 else ssrc
               seq := seq
               paused := paused }] }

def setPaused (g : Graph) (c : Nat) (paused : Bool) : Graph :=
  match g.consumers[c]? with
  | none => g
  | some consumer => { g with consumers := g.consumers.set c { consumer with paused := paused } }

def rtcConsumerPause (g : Graph) (c : Nat) : Graph := setPaused g c true

def rtcConsumerResume (g : Graph) (c : Nat) : Graph := setPaused g c false

def rtcProducerRemoveConsumer (producer : Producer) (c : Nat) : Producer :=
  match producer.consumers.idxOf? c with
  | none => producer
  | some i => { producer with consumers := rtcVecSwapRemove producer.consumers i }

def rtcConsumerClose (g : Graph) (c : Nat) : Graph :=
  match g.consumers[c]? with
  | none => g
  | some consumer =>
    if consumer.closed then g
    else
      { g with
        consumers := g.consumers.set c { consumer with closed := true }
        producers := g.producers.modify consumer.producer (rtcProducerRemoveConsumer · c) }

/-! ### What a call can do

Each call leaves the graph alone, or does one thing. -/

theorem rtcTransportProduce_cases {g g' : Graph} {ssrc : UInt32} {memory alloc : Bool}
    (h : rtcTransportProduce g ssrc memory alloc = some g') :
    g'.consumers = g.consumers
      ∧ (g'.producers = g.producers ∨ g'.producers = g.producers ++ [{ ssrc := ssrc }]) := by
  unfold rtcTransportProduce at h
  split at h
  · rw [← Option.some.inj h]
    exact ⟨rfl, .inl rfl⟩
  · grind

theorem rtcProducerClose_cases {g g' : Graph} {p : Nat} {alloc : Bool}
    (h : rtcProducerClose g p alloc = some g') :
    g'.consumers = g.consumers
      ∧ (g'.producers = g.producers
        ∨ ∃ producer, g.producers[p]? = some producer
          ∧ g'.producers = g.producers.set p { producer with closed := true }) := by
  unfold rtcProducerClose at h
  split at h
  · rw [← Option.some.inj h]
    exact ⟨rfl, .inl rfl⟩
  · rename_i producer hp
    split at h
    · rw [← Option.some.inj h]
      exact ⟨rfl, .inl rfl⟩
    · grind [Option.map_eq_some_iff]

theorem rtcTransportConsume_cases (g : Graph) (p : Nat) (paused : Bool) (ssrc : UInt32)
    (seq : UInt16) (alloc : Bool) :
    rtcTransportConsume g p paused ssrc seq alloc = g
      ∨ ∃ producer ssrc', g.producers[p]? = some producer
        ∧ rtcTransportConsume g p paused ssrc seq alloc =
          { g with
            producers :=
              g.producers.set p
                { producer with consumers := producer.consumers ++ [g.consumers.length] }
            consumers :=
              g.consumers ++ [{ producer := p, ssrc := ssrc', seq := seq, paused := paused }] } := by
  unfold rtcTransportConsume
  split
  · exact .inl rfl
  · grind

theorem setPaused_cases (g : Graph) (c : Nat) (paused : Bool) :
    setPaused g c paused = g
      ∨ ∃ consumer, g.consumers[c]? = some consumer
        ∧ setPaused g c paused
          = { g with consumers := g.consumers.set c { consumer with paused := paused } } := by
  unfold setPaused
  split
  · exact .inl rfl
  · rename_i consumer hc
    exact .inr ⟨consumer, hc, rfl⟩

theorem rtcConsumerClose_cases (g : Graph) (c : Nat) :
    rtcConsumerClose g c = g
      ∨ ∃ consumer, g.consumers[c]? = some consumer ∧ consumer.closed = false
        ∧ rtcConsumerClose g c =
          { g with
            consumers := g.consumers.set c { consumer with closed := true }
            producers := g.producers.modify consumer.producer (rtcProducerRemoveConsumer · c) } := by
  unfold rtcConsumerClose
  split
  · exact .inl rfl
  · grind

/-! ## Forwarding -/

structure Forward where
  consumer : Nat
  input : RtpPacket
  output : RtpPacket
  deriving DecidableEq

section

variable (send : Nat → RtpPacket → Except RtcErr Unit)

def rtcConsumerOnProducerRtp (c : Nat) (consumer : Consumer) (pkt : RtpPacket) :
    Consumer × Option Forward :=
  if consumer.closed || consumer.paused then (consumer, none)
  else
    let next := { consumer with seq := consumer.seq + 1 }
    match rtcRtpBuild pkt.header.payloadType consumer.seq pkt.header.timestamp consumer.ssrc
        pkt.header.marker pkt.payload with
    | .error _ => (next, none)
    | .ok out =>
      match send c out with
      | .error _ => (next, none)
      | .ok _ =>
        ({ next with
            packetsSent := next.packetsSent + 1
            bytesSent := next.bytesSent + pkt.payload.length },
          some ⟨c, pkt, out⟩)

def forwardAll (pkt : RtpPacket) : List Nat → List Consumer → List Consumer × List Forward
  | [], consumers => (consumers, [])
  | c :: cs, consumers =>
    match consumers[c]? with
    | none => forwardAll pkt cs consumers
    | some consumer =>
      let r := rtcConsumerOnProducerRtp send c consumer pkt
      let rest := forwardAll pkt cs (consumers.set c r.1)
      (rest.1, r.2.toList ++ rest.2)

def rtcProducerOnRtp (g : Graph) (p : Nat) (pkt : RtpPacket) : Graph × List Forward :=
  match g.producers[p]? with
  | none => (g, [])
  | some producer =>
    if producer.closed then (g, [])
    else
      let counted :=
        { producer with
          packetsReceived := producer.packetsReceived + 1
          bytesReceived := producer.bytesReceived + pkt.payload.length }
      let r := forwardAll send pkt producer.consumers g.consumers
      ({ g with producers := g.producers.set p counted, consumers := r.1 }, r.2)

def rtcRtpDemuxDispatch (g : Graph) (pkt : RtpPacket) : Option (Graph × List Forward) :=
  match rtcU32MapGet g.bySsrc pkt.header.ssrc with
  | none => none
  | some none => some (g, [])
  | some (some p) => some (rtcProducerOnRtp send g p pkt)

structure RtpTransport where
  srtpReady : Bool
  srtpRecv : SrtpCtx
  graph : Graph := {}

def transportHandleRtp (cr : Crypto) (t : RtpTransport) (data : Bytes) (ev : EvpFault) :
    Option (RtpTransport × List Forward) :=
  if !t.srtpReady || decide (srtpMaxPacket < data.length) then some (t, [])
  else
    let r := rtcSrtpUnprotect cr ev t.srtpRecv data
    let t := { t with srtpRecv := r.2 }
    match r.1 with
    | .error _ => some (t, [])
    | .ok plain =>
      match rtcRtpParse plain with
      | .error _ => some (t, [])
      | .ok pkt =>
        (rtcRtpDemuxDispatch send t.graph pkt).map fun r => ({ t with graph := r.1 }, r.2)

end

/-! ## Runs -/

inductive RouteCall where
  | produce (ssrc : UInt32) (memory alloc : Bool)
  | closeProducer (p : Nat) (alloc : Bool)
  | consume (p : Nat) (paused : Bool) (ssrc : UInt32) (seq : UInt16) (alloc : Bool)
  | pause (c : Nat)
  | resume (c : Nat)
  | closeConsumer (c : Nat)
  deriving DecidableEq

def Graph.call (g : Graph) : RouteCall → Option Graph
  | .produce ssrc memory alloc => rtcTransportProduce g ssrc memory alloc
  | .closeProducer p alloc => rtcProducerClose g p alloc
  | .consume p paused ssrc seq alloc => some (rtcTransportConsume g p paused ssrc seq alloc)
  | .pause c => some (rtcConsumerPause g c)
  | .resume c => some (rtcConsumerResume g c)
  | .closeConsumer c => some (rtcConsumerClose g c)

inductive SfuEvent where
  | call (op : RouteCall)
  | datagram (data : Bytes) (ev : EvpFault)

section

variable (send : Nat → RtpPacket → Except RtcErr Unit)

def sfuStep (cr : Crypto) (t : RtpTransport) : SfuEvent → Option (RtpTransport × List Forward)
  | .call op => (t.graph.call op).map fun g => ({ t with graph := g }, [])
  | .datagram data ev => transportHandleRtp send cr t data ev

def sfuRun (cr : Crypto) : RtpTransport → List SfuEvent → Option (RtpTransport × List Forward)
  | t, [] => some (t, [])
  | t, e :: es =>
    (sfuStep send cr t e).bind fun r =>
      (sfuRun cr r.1 es).map fun rest => (rest.1, r.2 ++ rest.2)

end

end Mrtc
