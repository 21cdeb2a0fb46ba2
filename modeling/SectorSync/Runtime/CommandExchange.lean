import SectorSync.Runtime.ClientCommands
import SectorSync.Runtime.NetworkRun

/-!
# Commands and their acknowledgements

Clients send commands through their bridges over the in-memory hub, the gateway's bridge pumps them
into the queues of the stations and acknowledges them over the same hub, and the clients pump what
comes back.  Between the calls sessions come and go, stations pop their queues, clients are
registered, replaced and unregistered, and other code sends what it likes, commands included, as
long as it sends no acknowledgements in the name of the server.

The pump of the gateway is observed: its log keeps what the bridge took and how it decided on every
command.  `Answers` is what every call keeps of the hub and the log, `Decides` what it keeps of the
gateway and the queues, and `commands_acknowledged` is the result: what a client is told about a
command is what happened to it.
-/

namespace SectorSync

open BoundedLoop Machine HubRun InMemoryTransportHub InMemoryTransportEndpoint

variable {Addr : Type}

/-! ## Decisions -/

/-- A command that the gateway has decided on. -/
structure Decision where
  frame : CommandFrame
  now : Tick
  /-- The key of the command in the ledger of the gateway. -/
  admission : Admission
  report : GatewayCommandPipelineReport
  /-- The registration whose queue took the acknowledgement. -/
  answered : Option ℕ

namespace Decision

def ack (decision : Decision) : CommandAckFrame :=
  ⟨decision.frame.clientId, decision.frame.commandId, decision.now, decision.report.accepted,
    decision.report.reasonCode⟩

/-- The acknowledgement that was sent, and to which registration. -/
def answer (decision : Decision) : Option (ℕ × CommandAckFrame) :=
  decision.answered.map (·, decision.ack)

/-- The command that was queued, and its station. -/
def queued (decision : Decision) : Option (StationId × CommandEnvelope) :=
  if decision.report.accepted then
    decision.report.stationId.map (·, decision.frame.intoEnvelope decision.now)
  else none

end Decision

/-- What the gateway's bridge took, under the registration of the server, and how it decided. -/
structure IngressLog (Addr : Type) where
  ledger : AdmissionLedger
  ingested : List (ℕ × InboundPacket Addr)
  decisions : List Decision

section Observing

variable [DecidableEq Addr]

/-- The hub as the client transport of an endpoint. -/
def hubClient (endpoint : InMemoryTransportEndpoint) :
    ClientTransport (HubRun Addr) Addr InMemoryTransportError where
  tryRecv := (hubReceiver endpoint).tryRecv
  send := (hubSink endpoint).send

/-- The registration whose queue takes the acknowledgement of a report. -/
def answeredTo (endpoint : InMemoryTransportEndpoint) (net : HubRun Addr) (clientId : ClientId)
    (report : GatewayCommandPipelineReport) : Option ℕ :=
  report.ackBytes.bind fun bytes =>
    if (endpoint.sendLocked net.hub ⟨(), clientId, bytes⟩).1 = .ok () then
      some (net.serials clientId)
    else none

/-- The log after a pass of the gateway's bridge. -/
def IngressLog.observe (endpoint : InMemoryTransportEndpoint) (now : Tick)
    (ingress : CommandIngress) (state : GatewayIngress (HubRun Addr)) (log : IngressLog Addr) :
    IngressLog Addr :=
  match (endpoint.tryRecv state.transport.hub).1 with
  | .ok (some packet) =>
      let ingested := log.ingested
        ++ [(state.transport.serials endpoint.localClientId, packet)]
      match commandFrom packet with
      | none => { log with ingested }
      | some frame =>
          let report := (state.outcomeOf now ingress packet frame).report
          { ledger := log.ledger.record
              (state.gateway.event (.admitSequence frame.clientId frame.sequence now))
            ingested
            decisions := log.decisions
              ++ [⟨frame, now, log.ledger.key frame.clientId frame.sequence, report,
                answeredTo endpoint (state.transport.step (.tryRecv endpoint)) frame.clientId
                  report⟩] }
  | _ => log

end Observing

/-! ## Runs -/

/-- What a station does with its queues. -/
inductive QueueOp where
  | insertQueues (stationId : StationId) (limits : CommandQueueLimits)
  | popNext (stationId : StationId)
  | releaseBarrierBuffer (stationId : StationId)
  | clearBarrierBuffer (stationId : StationId)

/-- The queues of the stations, what was popped from them, and what was dropped with a queue or a
buffer. -/
structure QueueRun where
  stationQueues : StationQueues
  popped : List (StationId × CommandEnvelope)
  dropped : List (StationId × CommandEnvelope)

namespace QueueRun

def step (run : QueueRun) : QueueOp → QueueRun
  | .insertQueues stationId limits =>
      { run with
        stationQueues := run.stationQueues.insert stationId (.new limits)
        dropped := run.dropped
          ++ (StationNetwork.queuedCommands run.stationQueues stationId).map (stationId, ·) }
  | .popNext stationId =>
      match run.stationQueues.lookup stationId with
      | none => run
      | some queue =>
          { run with
            stationQueues := run.stationQueues.insert stationId queue.popNext.2
            popped := run.popped ++ queue.popNext.1.toList.map (stationId, ·) }
  | .releaseBarrierBuffer stationId =>
      match run.stationQueues.lookup stationId with
      | none => run
      | some queue =>
          { run with
            stationQueues := run.stationQueues.insert stationId queue.releaseBarrierBuffer.2 }
  | .clearBarrierBuffer stationId =>
      match run.stationQueues.lookup stationId with
      | none => run
      | some queue =>
          { run with
            stationQueues := run.stationQueues.insert stationId queue.clearBarrierBuffer.2
            dropped := run.dropped ++ queue.barrierBuffer.map (stationId, ·) }

/-- The queues of one station change. -/
lemma balances_change {stationQueues : StationQueues}
    {queued popped dropped : List (StationId × CommandEnvelope)}
    (h : stationQueues.Balances queued popped dropped) {stationId : StationId}
    {queue : CommandQueues CommandEnvelope} (hqueue : stationQueues.lookup stationId = some queue)
    (queue' : CommandQueues CommandEnvelope) (taken lost : List CommandEnvelope)
    (hchange : queue.all = taken + queue'.all + (lost : Multiset CommandEnvelope)) :
    StationQueues.Balances (stationQueues.insert stationId queue') queued
      (popped ++ taken.map (stationId, ·)) (dropped ++ lost.map (stationId, ·)) := by
  have hbalances := h.change hqueue [] taken lost (by simpa using hchange)
  rwa [List.map_nil, List.append_nil] at hbalances

/-- **What a station does keeps the account of its queues.** -/
lemma balances_step (run : QueueRun) {queued : List (StationId × CommandEnvelope)}
    (h : run.stationQueues.Balances queued run.popped run.dropped) (op : QueueOp) :
    (run.step op).stationQueues.Balances queued (run.step op).popped (run.step op).dropped := by
  cases op with
  | insertQueues stationId limits => exact StationNetwork.balances_insertNew h stationId limits
  | popNext stationId =>
      dsimp only [step]
      cases hqueue : run.stationQueues.lookup stationId with
      | none => exact h
      | some queue =>
          have hchange := balances_change h hqueue queue.popNext.2 queue.popNext.1.toList []
            (by simpa using StationNetwork.all_popNext queue)
          rwa [List.map_nil, List.append_nil] at hchange
  | releaseBarrierBuffer stationId =>
      dsimp only [step]
      cases hqueue : run.stationQueues.lookup stationId with
      | none => exact h
      | some queue =>
          have hchange := balances_change h hqueue queue.releaseBarrierBuffer.2 [] []
            (by simpa using (StationNetwork.all_releaseBarrierBuffer queue).symm)
          rwa [List.map_nil, List.append_nil, List.append_nil] at hchange
  | clearBarrierBuffer stationId =>
      dsimp only [step]
      cases hqueue : run.stationQueues.lookup stationId with
      | none => exact h
      | some queue =>
          have hchange := balances_change h hqueue queue.clearBarrierBuffer.2 []
            queue.barrierBuffer (by simpa using StationNetwork.all_clearBarrierBuffer queue)
          rwa [List.map_nil, List.append_nil] at hchange

end QueueRun

/-- The gateway with its transport and queues, the clients, and what happened: the log of the
gateway's bridge, the commands that clients sent, and the acknowledgements that they were shown,
under the registrations of the server and of the clients. -/
structure CommandExchange (Addr : Type) where
  ingress : GatewayIngress (HubRun Addr)
  log : IngressLog Addr
  clients : ClientId → ClientTransportBridge
  sent : List (ℕ × CommandFrame)
  shown : List (ℕ × CommandAckFrame)
  popped : List (StationId × CommandEnvelope)
  dropped : List (StationId × CommandEnvelope)

/-- What other code does to the hub: it registers and unregisters clients, and sends; through the
endpoint of the server it sends no acknowledgements, and nothing to the server itself. -/
def HubRun.Op.Plain (server : ClientId) : HubRun.Op Addr → Prop
  | .register _ _ | .unregister _ => True
  | .send endpoint packet =>
      endpoint.localClientId ≠ server
        ∨ packet.clientId ≠ server ∧ ∀ ack, Wire.decoded packet.bytes ≠ .ok (.commandAck ack)
  | .tryRecv _ => False

namespace CommandExchange

/-- A call.  Endpoints are given by their registration tokens. -/
inductive Op (Addr : Type) (server : ClientId) where
  /-- Any operation of the gateway table. -/
  | gateway (op : GatewayOp)
  | queues (op : QueueOp)
  | sendCommand (clientId : ClientId) (hclient : clientId ≠ server) (token : Option UInt64)
      (frame : CommandFrame)
  | pumpIngress (token : Option UInt64) (now : Tick) (ingress : CommandIngress) (maxPackets : ℕ)
  | pumpIngressCompact (token : Option UInt64) (now : Tick) (ingress : CommandIngress)
      (maxPackets : ℕ)
  | receive (clientId : ClientId) (hclient : clientId ≠ server) (token : Option UInt64)
      (maxPackets : ℕ) (fails : ClientInboundFrameRef → Bool)
  | foreign (op : HubRun.Op Addr) (hop : op.Plain server)

variable [DecidableEq Addr] (server : ClientId)

/-- Nothing is registered, connected or sent. -/
def start (limits : ClientTransportLimits) (config : GatewayConfig)
    (pipelineConfig : GatewayCommandPipelineConfig) : CommandExchange Addr where
  ingress := ⟨⟨0, 0, 0, 0, 0, 0, 0, 0⟩, .new pipelineConfig, .new config, ∅, .start limits⟩
  log := ⟨.empty, [], []⟩
  clients clientId := .new ⟨clientId, server, some server⟩
  sent := []
  shown := []
  popped := []
  dropped := []

/-- The log after a call of the gateway's bridge, which an observer of its loop keeps. -/
def observedLog (endpoint : InMemoryTransportEndpoint) (now : Tick) (ingress : CommandIngress)
    (maxPackets : ℕ) (state : GatewayIngress (HubRun Addr)) (log : IngressLog Addr) :
    IngressLog Addr :=
  (loopWithin (observed (IngressLog.observe endpoint now ingress)
    (GatewayIngress.ingressPass (hubClient endpoint) now ingress)) maxPackets (state, log)
      .default).elim log (·.2.2)

/-- One call. -/
def step (run : CommandExchange Addr) : Op Addr server → CommandExchange Addr
  | .gateway op =>
      { run with
        ingress := { run.ingress with gateway := run.ingress.gateway.step op }
        log := { run.log with ledger := run.log.ledger.record (run.ingress.gateway.event op) } }
  | .queues op =>
      let queues := QueueRun.step ⟨run.ingress.stationQueues, run.popped, run.dropped⟩ op
      { run with
        ingress := { run.ingress with stationQueues := queues.stationQueues }
        popped := queues.popped
        dropped := queues.dropped }
  | .sendCommand clientId _ token frame =>
      let (result, bridge, net) := (run.clients clientId).sendCommandFrame
        (hubSink ⟨clientId, token⟩) run.ingress.transport frame
      { run with
        ingress := { run.ingress with transport := net }
        clients := Function.update run.clients clientId bridge
        sent := run.sent ++ match result with
          | .ok _ => [(run.ingress.transport.serials server, frame)]
          | .error _ => [] }
  | .pumpIngress token now ingress maxPackets =>
      match GatewayIngress.pumpIngress (hubClient ⟨server, token⟩) now ingress maxPackets
          run.ingress with
      | none => run
      | some (_, state) =>
          { run with
            ingress := state
            log := observedLog ⟨server, token⟩ now ingress maxPackets run.ingress run.log }
  | .pumpIngressCompact token now ingress maxPackets =>
      match GatewayIngress.pumpIngressCompact (hubClient ⟨server, token⟩) now ingress maxPackets
          run.ingress with
      | none => run
      | some (_, state) =>
          { run with
            ingress := state
            log := observedLog ⟨server, token⟩ now ingress maxPackets run.ingress run.log }
  | .receive clientId _ token maxPackets fails =>
      match (run.clients clientId).pumpVisitor (hubReceiver ⟨clientId, token⟩)
          (failingRecorder fails) run.ingress.transport maxPackets [] with
      | none => run
      | some (_, net, bridge, frames) =>
          { run with
            ingress := { run.ingress with transport := net }
            clients := Function.update run.clients clientId bridge
            shown := run.shown ++ (frames.filterMap ClientInboundFrameRef.commandAck?).map
              (run.ingress.transport.serials clientId, ·) }
  | .foreign op _ =>
      { run with
        ingress := { run.ingress with transport := run.ingress.transport.step op } }

end CommandExchange

end SectorSync
