import SectorSync.Base.Tagged
import SectorSync.Facade.ReplicationPrefix
import SectorSync.Facade.RuntimeCoherence
import SectorSync.Runtime.HubEndpoints
import SectorSync.Runtime.VisitorPumps

/-!
# Replication from the station to the client

A replication executor hands its frames to the hub through the endpoint of the server, and every
client receives with a receive executor that expects the server as the source.  Between the calls
the station changes, clients are registered, replaced and unregistered, other endpoints send what
they like, and the visitors of the clients may fail.

The run keeps which requests had their frame accepted by the hub, and what the clients were shown,
both under the number of the client's registration.  `Streams` is what every call keeps, and
`replication_stream` is the result: a client is shown, in order and without gaps, the frames made
for its registration, and those that it has not been shown wait in its queue.
-/

namespace SectorSync

open Machine HubRun InMemoryTransportHub InMemoryTransportEndpoint ReplicationPlanner Wire

variable {F Addr : Type}

/-! ## The receive executor -/

/-- Client-side replication receiver. -/
structure ReceiveExecutor where
  bridge : ReplicationReceiveBridge

namespace ReceiveExecutor

variable {T E W V : Type}

/-- Creates a borrowed visitor-first receiver. -/
def new (config : ReplicationReceiveConfig) : ReceiveExecutor := ⟨.new config⟩

/-- Receives and visits borrowed replication frames. -/
def pump (receiver : TransportReceiver T Addr E) (visitor : Visitor W ReplicationFrameRef V)
    (executor : ReceiveExecutor) (transport : T) (maxPackets : ℕ) (w : W) :
    Option (Except (Pump.VisitError (ReplicationReceiveError E) V) ReplicationReceiveVisitReport
      × T × ReceiveExecutor × W) := do
  let (result, transport, bridge, w) ←
    executor.bridge.pumpVisitor receiver visitor transport maxPackets w
  return (result, transport, ⟨bridge⟩, w)

end ReceiveExecutor

/-! ## Runs -/

/-- Anybody may register and unregister clients, and send through endpoints other than those of the
server. -/
def HubRun.Op.Foreign (server : ClientId) : HubRun.Op Addr → Prop
  | .register _ _ | .unregister _ => True
  | .send endpoint _ => endpoint.localClientId ≠ server
  | .tryRecv _ => False

/-- A request whose frame was accepted by the hub, and the packet. -/
structure SentFrame (F : Type) where
  request : ReplicationRequest F
  packet : OutboundPacket

/-- The tick of the station when the frame was made. -/
def SentFrame.tick (sent : SentFrame F) : Tick := sent.request.station.station.tick

/-- The station with its executor, the hub and the clients, and what was sent and shown. -/
structure ReplicationStream (F Addr : Type) where
  world : StationRuntime F
  executor : ReplicationExecutor F
  net : HubRun Addr
  clients : ClientId → ReceiveExecutor
  sent : List (ℕ × SentFrame F)
  shown : List (ℕ × ReplicationFrameRef)

namespace ReplicationStream

/-- What happens in a run.  The endpoints of the server and the clients are given by their
registration tokens. -/
inductive Op (F Addr : Type) (server : ClientId) where
  | world (op : RuntimeOp F)
  | replicate (token : Option UInt64) (request : ReplicationRequest F)
      (capacities : ExecutorCapacities)
  | replicateBatch (token : Option UInt64) (request : ReplicationBatchRequest F)
      (capacities : ExecutorCapacities)
  | receive (clientId : ClientId) (token : Option UInt64) (maxPackets : ℕ)
      (fails : ReplicationFrameRef → Bool)
  | foreign (op : HubRun.Op Addr) (hop : op.Foreign server)

variable (server : ClientId) (config : ReplicationExecutorConfig)
  (builder : ReplicationFrameBuilder)

/-- Nothing is registered. -/
def start [DecidableEq Addr] (runtimeConfig : StationRuntimeConfig F)
    (limits : ClientTransportLimits) : ReplicationStream F Addr where
  world := .new runtimeConfig
  executor := .new config builder
  net := .start limits
  clients := fun clientId => .new ⟨clientId, some server⟩
  sent := []
  shown := []

section Steps

variable [Scalar F] [DecidableEq Addr]
  (selectNthUnstableBy : SelectNthUnstableBy (PrioritizedReplicationCandidate F))

/-- The frame that the executor makes for a request. -/
def frameFor (request : ReplicationRequest F) :
    Except (ReplicationExecutionFailure InMemoryTransportError) (Option OutboundPacket) :=
  viewerFrame selectNthUnstableBy InMemoryTransportError config builder request

/-- The requests whose frames the hub accepts, up to the first failure, with their packets. -/
def sentFrames (endpoint : InMemoryTransportEndpoint) (requests : List (ReplicationRequest F))
    (net : HubRun Addr) : List (SentFrame F) :=
  let jobs := requests.map (frameFor config builder selectNthUnstableBy)
  (requests.take (dispatch (submit (hubSink endpoint)) jobs net).done).flatMap fun request =>
    (packetOf (frameFor config builder selectNthUnstableBy request)).map fun packet =>
      ⟨request, packet⟩

/-- The run after the executor has worked on the requests. -/
def handOver (run : ReplicationStream F Addr) (endpoint : InMemoryTransportEndpoint)
    (requests : List (ReplicationRequest F)) (executor : ReplicationExecutor F)
    (net : HubRun Addr) : ReplicationStream F Addr :=
  { run with
    executor := executor
    net := net
    sent := run.sent
      ++ (sentFrames config builder selectNthUnstableBy endpoint requests run.net).map fun sent =>
        (run.net.serials sent.packet.clientId, sent) }

/-- One step of a run.  Requests are about the station as it is. -/
def step (run : ReplicationStream F Addr) : Op F Addr server → ReplicationStream F Addr
  | .world op => { run with world := run.world.step op }
  | .replicate token request capacities =>
      let endpoint := ⟨server, token⟩
      let request := { request with station := run.world }
      let result := run.executor.replicate selectNthUnstableBy (hubSink endpoint) request capacities
        run.net
      run.handOver config builder selectNthUnstableBy endpoint [request] result.2.1 result.2.2
  | .replicateBatch token request capacities =>
      let endpoint := ⟨server, token⟩
      let request := { request with station := run.world }
      let result := run.executor.replicateBatch selectNthUnstableBy (hubSink endpoint) request
        capacities run.net
      run.handOver config builder selectNthUnstableBy endpoint (request.viewers.map request.alone)
        result.2.1 result.2.2
  | .receive clientId token maxPackets fails =>
      match (run.clients clientId).pump (hubReceiver ⟨clientId, token⟩) (failingRecorder fails)
          run.net maxPackets [] with
      | none => run
      | some (_, net, client, frames) =>
          { run with
            net := net
            clients := Function.update run.clients clientId client
            shown := run.shown ++ frames.map (run.net.serials clientId, ·) }
  | .foreign op _ => { run with net := run.net.step op }

end Steps

/-! ## Frames -/

section Frames

variable [Scalar F] (selectNthUnstableBy : SelectNthUnstableBy (PrioritizedReplicationCandidate F))

/-- The entities that are built for a request: those of the plan of its viewer, with the selected
components. -/
def builtEntities (request : ReplicationRequest F) : List EntityDelta :=
  let plan := planOver selectNthUnstableBy (request.inputs config)
    (viewerCandidates request.station.index request.viewer) request.viewer
  (builder.build request.station.station request.station.components request.selection
    request.viewer.clientId request.station.station.tick plan).frame.entities

/-- The frame of a request: for its client, with the tick of the station, and with as many of the
entities as fit the byte budget, the first ones. -/
structure FrameOf (request : ReplicationRequest F) (frame : ReplicationFrame) : Prop where
  clientId : frame.clientId = request.viewer.clientId
  serverTick : frame.serverTick = request.station.station.tick
  entities : ReplicationFrameBuilder.LongestPrefix config.budget.maxBytes frame.entities
    (builtEntities config builder selectNthUnstableBy request)

/-- The packet carries the frame of its request, to the client of the request. -/
structure Made (sent : SentFrame F) : Prop where
  clientId : sent.packet.clientId = sent.request.viewer.clientId
  frame : ∃ frame, Wire.decoded sent.packet.bytes = .ok (.replication frame)
    ∧ FrameOf config builder selectNthUnstableBy sent.request frame

/-- The client was shown the frame of the request. -/
def Shows (sent : SentFrame F) (ref : ReplicationFrameRef) : Prop :=
  ∃ frame, ref.toOwned = some frame ∧ FrameOf config builder selectNthUnstableBy sent.request frame

variable {config builder selectNthUnstableBy}

/-- **What the executor makes of a request.** -/
lemma made_frameFor {request : ReplicationRequest F} {packet : OutboundPacket}
    (h : packet ∈ packetOf (frameFor config builder selectNthUnstableBy request)) :
    Made config builder selectNthUnstableBy ⟨request, packet⟩ := by
  unfold frameFor viewerFrame frameOfPlan at h
  generalize hplan : planOver selectNthUnstableBy (request.inputs config)
    (viewerCandidates request.station.index request.viewer) request.viewer = plan at h
  rcases hencode : builder.encodeBinaryBoundedInto request.station.station
    request.station.components request.selection request.viewer.clientId
    request.station.station.tick plan config.budget.maxBytes [] with ⟨error | build, bytes⟩
  · rw [hencode] at h
    cases h
  · have hbudget : ReplicationFrameBuilder.binaryHeaderBytes ≤ config.budget.maxBytes := by
      by_contra hsmall
      rw [builder.encodeBinaryBoundedInto_small _ _ _ _ _ _ _ (not_le.mp hsmall)] at hencode
      cases hencode
    obtain ⟨encoded, frame, hbytes, -, hdecode, hlongest, hheader, -⟩ :=
      builder.encodeBinaryBoundedInto_ok _ _ _ _ _ _ hbudget hencode
    rw [hencode] at h
    dsimp only at h
    split_ifs at h
    · cases h
    · obtain rfl := List.mem_singleton.mp h
      refine ⟨rfl, frame, ?_, ⟨congrArg (·.1) hheader, congrArg (·.2.1) hheader, ?_⟩⟩
      · rw [decode_eq_decoded] at hdecode
        rw [hbytes, List.nil_append]
        exact Option.some.inj hdecode
      · rw [builtEntities, hplan]
        exact hlongest

end Frames

/-! ## What a packet does to a client -/

section Packets

variable {clientId : ClientId} {bridge : ReplicationReceiveBridge} {packet : InboundPacket Addr}
  {server}

/-- The bridge refuses a packet that is not from the server, and shows nothing. -/
lemma visitPacket_of_other (hconfig : bridge.config = ⟨clientId, some server⟩)
    (hsource : packet.clientId ≠ some server) (fails : ReplicationFrameRef → Bool)
    (w : List ReplicationFrameRef) (report : ReplicationReceiveVisitReport) :
    ∃ error bridge', ReplicationReceiveBridge.visitPacket (E := InMemoryTransportError)
        (failingRecorder fails) bridge w report packet = some (.error error, bridge', w)
      ∧ bridge'.config = bridge.config := by
  have hmismatch : sourceMismatch bridge.config.expectedSource packet.clientId = some server := by
    rw [hconfig, sourceMismatch, Option.filter_some]
    simp [hsource]
  simp only [ReplicationReceiveBridge.visitPacket, hmismatch]
  exact ⟨_, _, rfl, rfl⟩

/-- The bridge shows a frame of the server for its client, whether the visitor fails or not. -/
lemma visitPacket_of_server (hconfig : bridge.config = ⟨clientId, some server⟩)
    (hsource : packet.clientId = some server) {frame : ReplicationFrame}
    (hdecoded : Wire.decoded packet.bytes = .ok (.replication frame))
    (hclient : frame.clientId = clientId) (fails : ReplicationFrameRef → Bool)
    (w : List ReplicationFrameRef) (report : ReplicationReceiveVisitReport) :
    ∃ ref result bridge', Wire.decodeReplication packet.bytes = some (.ok ref)
      ∧ ReplicationReceiveBridge.visitPacket (E := InMemoryTransportError) (failingRecorder fails)
        bridge w report packet = some (result, bridge', w ++ [ref])
      ∧ bridge'.config = bridge.config := by
  have hmatch : sourceMismatch bridge.config.expectedSource packet.clientId = none := by
    rw [hconfig, sourceMismatch, Option.filter_some]
    simp [hsource]
  rcases reads packet.bytes with ⟨-, howned⟩ | ⟨href, htoOwned, howned⟩ | ⟨-, -, -, hother⟩
  · rw [hdecoded] at howned
    cases howned
  · rename_i ref frame'
    rw [hdecoded] at howned
    obtain rfl : frame = frame' := by simpa using howned
    have hvalidated := validated_of_decodeReplication href
    have htarget : ref.clientId = bridge.config.clientId := by
      rw [← (hvalidated.counts_of_toOwned htoOwned).1, hclient, hconfig]
    simp only [ReplicationReceiveBridge.visitPacket, hmatch, href, htarget, ne_eq,
      not_true_eq_false, if_false, hvalidated.componentCount_eq htoOwned, Visitor.call,
      failingRecorder]
    refine ⟨ref, ?_⟩
    cases fails ref with
    | true => exact ⟨_, _, rfl, rfl, rfl⟩
    | false => exact ⟨_, _, rfl, rfl, rfl⟩
  · exact absurd hdecoded (hother frame)

end Packets

/-! ## The invariant -/

section Hub

variable [DecidableEq Addr] {net : HubRun Addr} {endpoint : InMemoryTransportEndpoint}
  {packet : OutboundPacket}

/-- What the executor sees of an accepted packet. -/
lemma submit_hubSink_ok {net' : HubRun Addr}
    (h : submit (hubSink endpoint) net packet = (.ok (), net')) :
    (endpoint.sendLocked net.hub packet).1 = .ok () ∧ net' = net.step (.send endpoint packet) := by
  obtain ⟨hresult, hnet⟩ := Prod.mk.inj h
  refine ⟨?_, hnet.symm⟩
  change (endpoint.sendLocked net.hub packet).1.mapError
    ReplicationExecutionFailure.transport = _ at hresult
  generalize (endpoint.sendLocked net.hub packet).1 = result at hresult ⊢
  cases result with
  | error error => cases hresult
  | ok _ => rfl

/-- What the executor sees of a rejected packet. -/
lemma submit_hubSink_error {net' : HubRun Addr}
    {failure : ReplicationExecutionFailure InMemoryTransportError}
    (h : submit (hubSink endpoint) net packet = (.error failure, net')) :
    ∃ error, (endpoint.sendLocked net.hub packet).1 = .error error
      ∧ net' = net.step (.send endpoint packet) := by
  obtain ⟨hresult, hnet⟩ := Prod.mk.inj h
  change (endpoint.sendLocked net.hub packet).1.mapError
    ReplicationExecutionFailure.transport = _ at hresult
  generalize (endpoint.sendLocked net.hub packet).1 = result at hresult ⊢
  cases result with
  | error error => exact ⟨error, rfl, hnet.symm⟩
  | ok _ => cases hresult

end Hub

section Streams

variable [Scalar F] [DecidableEq Addr] (limits : ClientTransportLimits)
  (selectNthUnstableBy : SelectNthUnstableBy (PrioritizedReplicationCandidate F))

/-- A packet of the server was visited, for the registration it was received for. -/
def Visited (received : ℕ × List UInt8) (shown : ℕ × ReplicationFrameRef) : Prop :=
  received.1 = shown.1 ∧ Wire.decodeReplication received.2 = some (.ok shown.2)

/-- What every call keeps of the hub and the two logs: the packets of the server that queues
accepted are those of the frames sent, those that endpoints received have all been shown, and a
frame is sent to the last registration of its client. -/
structure Streams (net : HubRun Addr) (sent : List (ℕ × SentFrame F))
    (shown : List (ℕ × ReplicationFrameRef)) : Prop where
  hub : HubRun.Invariant limits net
  submitted : carriedBy (bytesFrom server) net.accepted
    = sent.map fun entry => (entry.1, entry.2.packet.bytes)
  visited : List.Forall₂ Visited (carriedBy (bytesFrom server) net.received) shown
  made : ∀ entry ∈ sent, Made config builder selectNthUnstableBy entry.2
  numbered : ∀ entry ∈ sent, entry.1 ≤ net.registrations
  addressed : ∀ entry ∈ sent, ∀ clientId, net.serials clientId = entry.1 →
    clientId = entry.2.packet.clientId

variable {server config builder limits selectNthUnstableBy} {net : HubRun Addr}
  {sent : List (ℕ × SentFrame F)} {shown : List (ℕ × ReplicationFrameRef)}

lemma streams_start :
    Streams server config builder limits selectNthUnstableBy (HubRun.start limits : HubRun Addr)
      [] [] where
  hub := invariant_start
  submitted := rfl
  visited := .nil
  made _ h := absurd h List.not_mem_nil
  numbered _ h := absurd h List.not_mem_nil
  addressed _ h := absurd h List.not_mem_nil

/-- **Foreign step.**  Others neither add to the packets of the server nor take any. -/
lemma Streams.foreign (h : Streams server config builder limits selectNthUnstableBy net sent shown)
    {op : HubRun.Op Addr} (hop : op.Foreign server) :
    Streams server config builder limits selectNthUnstableBy (net.step op) sent shown := by
  have hhub : HubRun.Invariant limits (net.step op) := invariant_execute h.hub [op]
  cases op with
  | register clientId addr =>
      refine ⟨hhub, h.submitted, h.visited, h.made, fun entry hentry => ?_,
        fun entry hentry clientId' hserial => ?_⟩
      · exact (h.numbered entry hentry).trans (Nat.le_succ _)
      · have hle := h.numbered entry hentry
        dsimp only [HubRun.step] at hserial
        rw [Function.update_apply] at hserial
        split_ifs at hserial
        · omega
        · exact h.addressed entry hentry clientId' hserial
  | unregister clientId =>
      exact ⟨hhub, h.submitted, h.visited, h.made, h.numbered, h.addressed⟩
  | send endpoint packet =>
      have hother : endpoint.localClientId ≠ server := hop
      refine ⟨hhub, ?_, h.visited, h.made, h.numbered, h.addressed⟩
      rw [← h.submitted]
      exact carriedBy_send_of_none h.hub fun addr => by simpa [bytesFrom] using hother
  | tryRecv endpoint => exact hop.elim

/-! ## Sending -/

/-- What the hub is after it has accepted some packets of the server. -/
structure HandedOver (limits : ClientTransportLimits) (server : ClientId) (net net' : HubRun Addr)
    (accepted : List OutboundPacket) : Prop where
  hub : HubRun.Invariant limits net'
  serials : net'.serials = net.serials
  registrations : net'.registrations = net.registrations
  received : net'.received = net.received
  submitted : carriedBy (bytesFrom server) net'.accepted = carriedBy (bytesFrom server) net.accepted
    ++ accepted.map fun packet => (net.serials packet.clientId, packet.bytes)
  numbered : ∀ packet ∈ accepted, 0 < net.serials packet.clientId

/-- **Jobs step.**  A run over some jobs hands over what the hub accepted. -/
lemma handedOver_dispatch (server : ClientId) (h : HubRun.Invariant limits net)
    (token : Option UInt64)
    (jobs : List (Except (ReplicationExecutionFailure InMemoryTransportError)
      (Option OutboundPacket))) :
    HandedOver limits server net (dispatch (submit (hubSink ⟨server, token⟩)) jobs net).transport
      (dispatch (submit (hubSink ⟨server, token⟩)) jobs net).accepted := by
  refine dispatch_invariant (I := HandedOver limits server net) ?_ ?_ jobs
    ⟨h, rfl, rfl, rfl, (List.append_nil _).symm, fun _ hmem => absurd hmem List.not_mem_nil⟩
  · intro t accepted packet t' hkept hsend
    obtain ⟨hok, rfl⟩ := submit_hubSink_ok hsend
    rcases send_cases hkept.hub ⟨server, token⟩ packet with ⟨error, herror, -⟩ |
      ⟨-, hpositive, addr, hlogged⟩
    · cases herror.symm.trans hok
    refine ⟨hkept.hub.send _ packet, hkept.serials, hkept.registrations, hkept.received, ?_, ?_⟩
    · rw [hlogged, carriedBy_append, carriedBy_singleton, hkept.submitted, hkept.serials,
        List.map_append, List.append_assoc]
      simp [bytesFrom]
    · intro packet' hmem
      rcases List.mem_append.mp hmem with hmem | hmem
      · exact hkept.numbered packet' hmem
      · rw [List.mem_singleton.mp hmem, ← hkept.serials]
        exact hpositive
  · intro t accepted packet failure t' hkept hsend
    obtain ⟨error, herror, rfl⟩ := submit_hubSink_error hsend
    rcases send_cases hkept.hub ⟨server, token⟩ packet with ⟨-, -, hlogged⟩ | ⟨hok, -⟩
    · refine ⟨hkept.hub.send _ packet, hkept.serials, hkept.registrations, hkept.received, ?_,
        hkept.numbered⟩
      rw [hlogged]
      exact hkept.submitted
    · cases herror.symm.trans hok

/-- The packets of the frames sent are those that the hub accepted. -/
lemma map_packet_sentFrames (endpoint : InMemoryTransportEndpoint)
    (requests : List (ReplicationRequest F)) (net : HubRun Addr) :
    (sentFrames config builder selectNthUnstableBy endpoint requests net).map SentFrame.packet
      = (dispatch (submit (hubSink endpoint))
          (requests.map (frameFor config builder selectNthUnstableBy)) net).accepted := by
  rw [dispatch_accepted_eq, ← List.map_take, List.flatMap_map, sentFrames, List.map_flatMap]
  refine List.flatMap_congr fun request _ => ?_
  rw [List.map_map]
  exact List.map_id _

/-- The frames sent are frames of the requests. -/
lemma mem_sentFrames {endpoint : InMemoryTransportEndpoint}
    {requests : List (ReplicationRequest F)} {net : HubRun Addr} {frame : SentFrame F}
    (h : frame ∈ sentFrames config builder selectNthUnstableBy endpoint requests net) :
    frame.request ∈ requests ∧ Made config builder selectNthUnstableBy frame := by
  obtain ⟨request, hrequest, hframe⟩ := List.mem_flatMap.mp h
  obtain ⟨packet, hpacket, rfl⟩ := List.mem_map.mp hframe
  exact ⟨List.mem_of_mem_take hrequest, made_frameFor hpacket⟩

/-- **Send step.**  The frames that were accepted are sent to the last registration of their
client. -/
lemma Streams.handOver
    (h : Streams server config builder limits selectNthUnstableBy net sent shown)
    {net' : HubRun Addr} {frames : List (SentFrame F)}
    (hnet : HandedOver limits server net net' (frames.map SentFrame.packet))
    (hmade : ∀ frame ∈ frames, Made config builder selectNthUnstableBy frame) :
    Streams server config builder limits selectNthUnstableBy net'
      (sent ++ frames.map fun frame => (net.serials frame.packet.clientId, frame)) shown where
  hub := hnet.hub
  submitted := by
    rw [hnet.submitted, h.submitted, List.map_append, List.map_map, List.map_map]
    rfl
  visited := hnet.received ▸ h.visited
  made entry hentry := by
    rcases List.mem_append.mp hentry with hentry | hentry
    · exact h.made entry hentry
    · obtain ⟨frame, hframe, rfl⟩ := List.mem_map.mp hentry
      exact hmade frame hframe
  numbered entry hentry := by
    rw [hnet.registrations]
    rcases List.mem_append.mp hentry with hentry | hentry
    · exact h.numbered entry hentry
    · obtain ⟨frame, -, rfl⟩ := List.mem_map.mp hentry
      exact h.hub.registry.serials_le _
  addressed entry hentry clientId hserial := by
    rw [hnet.serials] at hserial
    rcases List.mem_append.mp hentry with hentry | hentry
    · exact h.addressed entry hentry clientId hserial
    · obtain ⟨frame, hframe, rfl⟩ := List.mem_map.mp hentry
      have hpositive := hnet.numbered _ (List.mem_map_of_mem hframe)
      exact h.hub.registry.serials_inj _ _ hserial (hserial ▸ hpositive)

/-! ## Receiving -/

/-- A packet of the server that waits for a client carries a frame for this client. -/
lemma Streams.head (h : Streams server config builder limits selectNthUnstableBy net sent shown)
    {clientId : ClientId} {client : InMemoryTransportClient Addr}
    (hclient : net.hub.clients.get clientId = some client) {packet : InboundPacket Addr}
    (hpacket : packet ∈ client.queue) (hsource : packet.clientId = some server) :
    ∃ frame, Wire.decoded packet.bytes = .ok (.replication frame)
      ∧ frame.clientId = clientId := by
  have hmem : (net.serials clientId, packet.bytes)
      ∈ carriedBy (bytesFrom server) net.accepted :=
    mem_carriedBy (mem_accepted_of_queue h.hub hclient hpacket) (if_pos hsource)
  rw [h.submitted] at hmem
  obtain ⟨entry, hentry, heq⟩ := List.mem_map.mp hmem
  obtain ⟨hserial, hbytes⟩ := Prod.mk.inj heq
  obtain ⟨hpacketClient, frame, hdecoded, hframe⟩ := h.made entry hentry
  refine ⟨frame, hbytes ▸ hdecoded, ?_⟩
  rw [hframe.clientId, ← hpacketClient, ← h.addressed entry hentry clientId hserial.symm]

/-- What a receive call keeps. -/
structure Receiving (server : ClientId) (config : ReplicationExecutorConfig)
    (builder : ReplicationFrameBuilder) (limits : ClientTransportLimits)
    (selectNthUnstableBy : SelectNthUnstableBy (PrioritizedReplicationCandidate F))
    (before : HubRun Addr) (clientId : ClientId) (sent : List (ℕ × SentFrame F))
    (shown : List (ℕ × ReplicationFrameRef))
    (kept : HubRun Addr × ReplicationReceiveBridge × List ReplicationFrameRef) : Prop where
  streams : Streams server config builder limits selectNthUnstableBy kept.1 sent
    (shown ++ kept.2.2.map (before.serials clientId, ·))
  serials : kept.1.serials = before.serials
  bridge : kept.2.1.config = ⟨clientId, some server⟩

/-- **Packet step.**  A pass shows the packet that it takes if it is from the server, and else shows
nothing; it never panics. -/
lemma Receiving.pass {before : HubRun Addr} {clientId : ClientId}
    {kept : HubRun Addr × ReplicationReceiveBridge × List ReplicationFrameRef}
    (h : Receiving server config builder limits selectNthUnstableBy before clientId sent shown kept)
    (token : Option UInt64) (fails : ReplicationFrameRef → Bool)
    (report : ReplicationReceiveVisitReport) :
    ∃ pass, (ReplicationReceiveBridge.visiting (hubReceiver ⟨clientId, token⟩)
        (failingRecorder fails)).pass kept report = some pass
      ∧ Receiving server config builder limits selectNthUnstableBy before clientId sent shown
        pass.kept := by
  obtain ⟨net, bridge, frames⟩ := kept
  obtain ⟨hstreams, hserials, hbridge⟩ := h
  dsimp only at hstreams hserials hbridge
  have hhub : HubRun.Invariant limits (net.step (.tryRecv ⟨clientId, token⟩)) :=
    hstreams.hub.tryRecv ⟨clientId, token⟩
  rcases net.recv_cases ⟨clientId, token⟩ with
    ⟨hidle, hsame⟩ | ⟨client, packet, queue, hclient, hqueue, hrecv, hreceived⟩
  · obtain ⟨pass, hpass, hkept⟩ := (ReplicationReceiveBridge.visiting
      (hubReceiver ⟨clientId, token⟩) (failingRecorder fails)).pass_of_idle (net, bridge, frames)
        report rfl (Pump.Visiting.mapError_ne_some hidle _)
    refine ⟨pass, hpass, ?_⟩
    rw [hkept]
    show Receiving _ _ _ _ _ _ _ _ _ (net.step (.tryRecv ⟨clientId, token⟩), bridge, frames)
    rw [hsame]
    exact ⟨hstreams, hserials, hbridge⟩
  · have hitem : (ReplicationReceiveBridge.visiting (hubReceiver ⟨clientId, token⟩)
        (failingRecorder fails)).recv net
          = (.ok (some packet), net.step (.tryRecv ⟨clientId, token⟩)) := by
      simp only [ReplicationReceiveBridge.visiting, hubReceiver, hrecv]
      rfl
    by_cases hsource : packet.clientId = some server
    · obtain ⟨frame, hdecoded, htarget⟩ := hstreams.head hclient
        (hqueue ▸ List.mem_cons_self) hsource
      obtain ⟨ref, result, bridge', href, hvisit, hbridge'⟩ :=
        visitPacket_of_server hbridge hsource hdecoded htarget fails frames report
      obtain ⟨pass, hpass, hkept⟩ := Pump.Visiting.pass_of_item _ (net, bridge, frames) report
        hitem hvisit
      refine ⟨pass, hpass, ?_⟩
      rw [hkept]
      refine ⟨⟨hhub, hstreams.submitted, ?_, hstreams.made, hstreams.numbered,
        hstreams.addressed⟩, hserials, hbridge'.trans hbridge⟩
      rw [hreceived, carriedBy_append, carriedBy_singleton, bytesFrom, if_pos hsource,
        List.map_append, ← List.append_assoc]
      exact List.rel_append hstreams.visited (.cons ⟨congrFun hserials clientId, href⟩ .nil)
    · obtain ⟨error, bridge', hvisit, hbridge'⟩ :=
        visitPacket_of_other hbridge hsource fails frames report
      obtain ⟨pass, hpass, hkept⟩ := Pump.Visiting.pass_of_item _ (net, bridge, frames) report
        hitem hvisit
      refine ⟨pass, hpass, ?_⟩
      rw [hkept]
      refine ⟨⟨hhub, hstreams.submitted, ?_, hstreams.made, hstreams.numbered,
        hstreams.addressed⟩, hserials, hbridge'.trans hbridge⟩
      rw [hreceived, carriedBy_append, carriedBy_singleton, bytesFrom, if_neg hsource,
        Option.toList_none, List.map_nil, List.append_nil]
      exact hstreams.visited

/-- **Receive step.**  A call shows the packets of the server that it takes, and never panics. -/
lemma Streams.pump (h : Streams server config builder limits selectNthUnstableBy net sent shown)
    {clientId : ClientId} {client : ReceiveExecutor}
    (hclient : client.bridge.config = ⟨clientId, some server⟩) (token : Option UInt64)
    (maxPackets : ℕ) (fails : ReplicationFrameRef → Bool) :
    ∃ result net' client' frames,
      client.pump (hubReceiver ⟨clientId, token⟩) (failingRecorder fails) net maxPackets []
        = some (result, net', client', frames)
      ∧ Receiving server config builder limits selectNthUnstableBy net clientId sent shown
        (net', client'.bridge, frames) := by
  have hstart : Receiving server config builder limits selectNthUnstableBy net clientId sent shown
      (net, client.bridge, []) := by
    refine ⟨?_, rfl, hclient⟩
    rw [List.map_nil, List.append_nil]
    exact h
  obtain ⟨⟨result, net', bridge, frames⟩, hrun, hkept⟩ := BoundedLoop.loopWithin_invariant
    (fun kept report hkept => hkept.pass token fails report) maxPackets hstart .default
  refine ⟨result, net', ⟨bridge⟩, frames, ?_, hkept⟩
  rw [ReceiveExecutor.pump, ReplicationReceiveBridge.pumpVisitor, Pump.Visiting.run, hrun]
  rfl

end Streams

/-! ## The invariant of a run -/

section Runs

variable [Scalar F] [DecidableEq Addr]

/-- What every step keeps. -/
structure Invariant (server : ClientId) (config : ReplicationExecutorConfig)
    (builder : ReplicationFrameBuilder) (limits : ClientTransportLimits)
    (selectNthUnstableBy : SelectNthUnstableBy (PrioritizedReplicationCandidate F))
    (run : ReplicationStream F Addr) : Prop where
  streams : Streams server config builder limits selectNthUnstableBy run.net run.sent run.shown
  executor : run.executor.Usable config builder
  clients : ∀ clientId, (run.clients clientId).bridge.config = ⟨clientId, some server⟩
  ordered : run.sent.Pairwise fun entry later => entry.2.tick ≤ later.2.tick
  current : ∀ entry ∈ run.sent, entry.2.tick ≤ run.world.station.tick

variable {server config builder} {limits : ClientTransportLimits}
  {selectNthUnstableBy : SelectNthUnstableBy (PrioritizedReplicationCandidate F)}
  {run : ReplicationStream F Addr}

lemma invariant_start (runtimeConfig : StationRuntimeConfig F) :
    Invariant server config builder limits selectNthUnstableBy
      (start server config builder runtimeConfig limits : ReplicationStream F Addr) where
  streams := streams_start
  executor := ReplicationExecutor.usable_new
  clients _ := rfl
  ordered := .nil
  current _ h := absurd h List.not_mem_nil

/-- Requests about the station as it is are handed over. -/
lemma Invariant.handOver
    (h : Invariant server config builder limits selectNthUnstableBy run) (token : Option UInt64)
    (requests : List (ReplicationRequest F))
    (hcurrent : ∀ request ∈ requests, request.station = run.world)
    {executor : ReplicationExecutor F} (hexecutor : executor.Usable config builder)
    {net : HubRun Addr}
    (hnet : net = (dispatch (submit (hubSink ⟨server, token⟩))
      (requests.map (frameFor config builder selectNthUnstableBy)) run.net).transport) :
    Invariant server config builder limits selectNthUnstableBy
      (run.handOver config builder selectNthUnstableBy ⟨server, token⟩ requests executor net) := by
  have hnow : ∀ frame ∈ sentFrames config builder selectNthUnstableBy ⟨server, token⟩ requests
      run.net, frame.tick = run.world.station.tick := fun frame hframe => by
    rw [SentFrame.tick, hcurrent _ (mem_sentFrames hframe).1]
  refine ⟨?_, hexecutor, h.clients, ?_, ?_⟩
  · have hkept := handedOver_dispatch server h.streams.hub token
      (requests.map (frameFor config builder selectNthUnstableBy))
    rw [← hnet, ← map_packet_sentFrames] at hkept
    exact h.streams.handOver hkept fun frame hframe => (mem_sentFrames hframe).2
  · refine List.pairwise_append.mpr ⟨h.ordered, ?_, ?_⟩
    · refine List.pairwise_of_forall_mem_list fun entry hentry later hlater => ?_
      obtain ⟨frame, hframe, rfl⟩ := List.mem_map.mp hentry
      obtain ⟨frame', hframe', rfl⟩ := List.mem_map.mp hlater
      rw [hnow frame hframe, hnow frame' hframe']
    · intro entry hentry later hlater
      obtain ⟨frame, hframe, rfl⟩ := List.mem_map.mp hlater
      rw [hnow frame hframe]
      exact h.current entry hentry
  · intro entry hentry
    rcases List.mem_append.mp hentry with hentry | hentry
    · exact h.current entry hentry
    · obtain ⟨frame, hframe, rfl⟩ := List.mem_map.mp hentry
      exact (hnow frame hframe).le

/-- **Step lemma.** -/
lemma Invariant.step (h : Invariant server config builder limits selectNthUnstableBy run)
    (op : Op F Addr server) :
    Invariant server config builder limits selectNthUnstableBy
      (run.step server config builder selectNthUnstableBy op) := by
  cases op with
  | world op =>
      refine ⟨h.streams, h.executor, h.clients, h.ordered, fun entry hentry => ?_⟩
      exact (h.current entry hentry).trans (run.world.clockKept_step op).2
  | replicate token request capacities =>
      obtain ⟨husable, htransport, -⟩ := ReplicationExecutor.replicate_spec selectNthUnstableBy
        h.executor (hubSink ⟨server, token⟩) { request with station := run.world } capacities
        run.net rfl rfl
      refine h.handOver token _ (fun request' hrequest => ?_) husable htransport
      rw [List.mem_singleton.mp hrequest]
  | replicateBatch token request capacities =>
      obtain ⟨husable, hend⟩ := ReplicationExecutor.replicateBatch_spec selectNthUnstableBy
        h.executor (hubSink ⟨server, token⟩) { request with station := run.world } capacities
        run.net rfl
      refine h.handOver token _ (fun request' hrequest => ?_) husable hend.transport
      obtain ⟨viewer, -, rfl⟩ := List.mem_map.mp hrequest
      rfl
  | receive clientId token maxPackets fails =>
      obtain ⟨result, net, client, frames, hpump, hkept⟩ := h.streams.pump (h.clients clientId)
        token maxPackets fails
      simp only [ReplicationStream.step, hpump]
      refine ⟨hkept.streams, h.executor, fun clientId' => ?_, h.ordered, h.current⟩
      dsimp only
      rw [Function.update_apply]
      split_ifs with heq
      · rw [heq]
        exact hkept.bridge
      · exact h.clients clientId'
  | foreign op hop =>
      exact ⟨h.streams.foreign hop, h.executor, h.clients, h.ordered, h.current⟩

/-! ## What the clients see -/

/-- The frames sent to a registration: those that have arrived were shown in their order, with ticks
that never go back, and the others wait in the queue of the client while it is registered. -/
structure Follows (config : ReplicationExecutorConfig) (builder : ReplicationFrameBuilder)
    (selectNthUnstableBy : SelectNthUnstableBy (PrioritizedReplicationCandidate F))
    (server : ClientId) (run : ReplicationStream F Addr) (serial : ℕ)
    (arrived waiting : List (SentFrame F)) : Prop where
  sent : ofTag serial run.sent = arrived ++ waiting
  shown : List.Forall₂ (Shows config builder selectNthUnstableBy) arrived (ofTag serial run.shown)
  inTime : (ofTag serial run.shown).Pairwise fun ref later => ref.serverTick ≤ later.serverTick
  waits : ∀ clientId client, run.net.hub.clients.get clientId = some client →
    run.net.serials clientId = serial →
    client.queue.filterMap (bytesFrom server) = waiting.map (·.packet.bytes)
      ∧ ∀ frame ∈ arrived ++ waiting, frame.request.viewer.clientId = clientId

omit [DecidableEq Addr] in
/-- What was visited of a packet is its frame. -/
lemma shows_of_decodeReplication {frame : SentFrame F}
    (hmade : Made config builder selectNthUnstableBy frame) {ref : ReplicationFrameRef}
    (href : Wire.decodeReplication frame.packet.bytes = some (.ok ref)) :
    Shows config builder selectNthUnstableBy frame ref ∧ ref.serverTick = frame.tick := by
  obtain ⟨-, owned, hdecoded, hframe⟩ := hmade
  rcases reads frame.packet.bytes with ⟨href', -⟩ | ⟨href', htoOwned, howned⟩ | ⟨-, -, href', -⟩
  · rw [href] at href'
    cases href'
  · obtain rfl : ref = _ := by simpa using href.symm.trans href'
    obtain rfl : owned = _ := by simpa using hdecoded.symm.trans howned
    refine ⟨⟨owned, htoOwned, hframe⟩, ?_⟩
    rw [SentFrame.tick, ← hframe.serverTick]
    simp only [ReplicationFrameRef.toOwned, Option.bind_eq_bind, Option.bind_eq_some_iff,
      Option.pure_def, Option.some.injEq] at htoOwned
    obtain ⟨refs, -, entities, -, rfl⟩ := htoOwned
    rfl
  · rw [href] at href'
    cases href'

/-- Each registration is shown the first of its frames. -/
lemma Invariant.follows (h : Invariant server config builder limits selectNthUnstableBy run)
    (serial : ℕ) :
    ∃ arrived waiting, Follows config builder selectNthUnstableBy server run serial arrived
      waiting := by
  have hstreams := h.streams
  have hsent : ofTag serial (carriedBy (bytesFrom server) run.net.accepted)
      = (ofTag serial run.sent).map (·.packet.bytes) := by
    rw [hstreams.submitted, ofTag_map_entries (fun frame : SentFrame F => frame.packet.bytes)]
  have hprefix := carriedBy_prefix hstreams.hub (bytesFrom server) serial
  obtain ⟨rest, hrest⟩ := hprefix
  rw [hsent] at hrest
  obtain ⟨arrived, waiting, hsplit, harrived, hwaiting⟩ := List.map_eq_append_iff.mp hrest.symm
  have hmade : ∀ frame ∈ arrived ++ waiting, Made config builder selectNthUnstableBy frame
      ∧ ∀ clientId, run.net.serials clientId = serial → clientId = frame.packet.clientId := by
    intro frame hframe
    have hentry : (serial, frame) ∈ run.sent := mem_ofTag.mp (hsplit ▸ hframe)
    exact ⟨hstreams.made _ hentry, hstreams.addressed _ hentry⟩
  have hvisited := forall₂_ofTag
    (R := fun bytes ref => Wire.decodeReplication bytes = some (.ok ref)) hstreams.visited serial
  rw [← harrived, List.forall₂_map_left_iff] at hvisited
  have hshows : List.Forall₂ (fun frame ref =>
      Shows config builder selectNthUnstableBy frame ref ∧ ref.serverTick = frame.tick) arrived
      (ofTag serial run.shown) :=
    ((List.forall₂_and_left _ _).mpr ⟨fun frame hframe =>
      (hmade frame (List.mem_append_left _ hframe)).1, hvisited⟩).imp
        fun frame ref hboth => shows_of_decodeReplication hboth.1 hboth.2
  refine ⟨arrived, waiting, hsplit, hshows.imp fun _ _ hboth => hboth.1, ?_, ?_⟩
  · have hticks : List.Forall₂ Eq (arrived.map SentFrame.tick)
        ((ofTag serial run.shown).map (·.serverTick)) := by
      rw [List.forall₂_map_left_iff, List.forall₂_map_right_iff]
      exact hshows.imp fun _ _ hboth => hboth.2.symm
    rw [List.forall₂_eq_eq_eq] at hticks
    have hordered : (run.sent.map Prod.snd).Pairwise fun frame later => frame.tick ≤ later.tick :=
      List.pairwise_map.mpr h.ordered
    have hsublist : arrived.Sublist (run.sent.map Prod.snd) :=
      (List.sublist_append_left arrived waiting).trans (hsplit ▸ ofTag_sublist)
    rw [← List.pairwise_map (f := fun ref : ReplicationFrameRef => ref.serverTick)
      (R := fun tick later => tick ≤ later), ← hticks]
    exact List.pairwise_map.mpr (hordered.sublist hsublist)
  · intro clientId client hclient hserial
    refine ⟨?_, fun frame hframe => ?_⟩
    · have hlogs := carriedBy_queue hstreams.hub (bytesFrom server) hclient
      rw [hserial] at hlogs
      rw [hsent, hsplit, List.map_append, harrived] at hlogs
      exact (List.append_cancel_left hlogs).symm
    · obtain ⟨hmade, haddressed⟩ := hmade frame hframe
      rw [← hmade.clientId, ← haddressed clientId hserial]

variable (server config builder limits selectNthUnstableBy)

/-- The run after some steps. -/
def reached (runtimeConfig : StationRuntimeConfig F) (ops : List (Op F Addr server)) :
    ReplicationStream F Addr :=
  execute (step server config builder selectNthUnstableBy)
    (start server config builder runtimeConfig limits) ops

/-- **Replication from the station to the client.**  Whatever happens in a run: the packets of the
server that the hub accepted are those of the frames sent; each registration of a client is shown,
in their order and without gaps, the frames that were sent to it, each with the first of the
entities built for its request; the frames that a registered client has not been shown wait in its
queue; and no receive call panics. -/
theorem replication_stream (runtimeConfig : StationRuntimeConfig F)
    (ops : List (Op F Addr server)) :
    let run := reached server config builder limits selectNthUnstableBy runtimeConfig ops
    carriedBy (bytesFrom server) run.net.accepted
        = run.sent.map (fun entry => (entry.1, entry.2.packet.bytes))
      ∧ (∀ serial, ∃ arrived waiting,
        Follows config builder selectNthUnstableBy server run serial arrived waiting)
      ∧ ∀ clientId token maxPackets fails,
        (run.clients clientId).pump (hubReceiver ⟨clientId, token⟩) (failingRecorder fails)
          run.net maxPackets [] ≠ none := by
  intro run
  have hinv : Invariant server config builder limits selectNthUnstableBy run :=
    execute_preserves (fun _ op h => h.step op) (invariant_start runtimeConfig) ops
  refine ⟨hinv.streams.submitted, hinv.follows, fun clientId token maxPackets fails => ?_⟩
  obtain ⟨result, net, client, frames, hpump, -⟩ := hinv.streams.pump (hinv.clients clientId)
    token maxPackets fails
  rw [hpump]
  exact Option.some_ne_none _

end Runs

end ReplicationStream

end SectorSync
