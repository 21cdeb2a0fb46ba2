import SectorSync.Base.Pump
import SectorSync.Runtime.CommandPipeline
import SectorSync.Runtime.EventRouter
import SectorSync.Transport.ReliableLink

/-!
# The station bridges

A bridge carries events, or dispatched commands, over a station transport.  The sending side encodes
an item into a packet; the receiving side takes packets from the transport and pushes what they
carry into the queues of their target, until it has taken enough or something fails.

Both receiving sides are the same loop (`Pump.run`), and both have its defects: the item that the
queues refuse is gone, and a call that fails does not count what it enqueued before.
`pump_law_iff` is when this does not show.
-/

namespace SectorSync

variable {T E : Type}

/-! ## Transports -/

/-- Non-blocking station-to-station receive abstraction, with state `T`. -/
structure StationTransportReceiver (T E : Type) where
  tryRecvStation : T → StationId → Except E (Option StationInboundPacket) × T

/-- The packet comes out of the transport if it is only asked often enough. -/
inductive StationTransportReceiver.Yields (receiver : StationTransportReceiver T E) :
    T → StationInboundPacket → Prop where
  | now {t t' : T} {station : StationId} {packet : StationInboundPacket}
      (h : receiver.tryRecvStation t station = (.ok (some packet), t')) : Yields receiver t packet
  | later {t t' : T} {station : StationId} {packet : StationInboundPacket}
      {result : Except E (Option StationInboundPacket)}
      (h : receiver.tryRecvStation t station = (result, t')) (hyields : Yields receiver t' packet) :
      Yields receiver t packet

/-! ## Station events -/

/-- Statistics for station event transport bridging. -/
structure StationEventTransportStats where
  /-- Events encoded and submitted to station transport. -/
  eventsSent : ℕ
  bytesSent : ℕ
  packetsReceived : ℕ
  bytesReceived : ℕ
  /-- Events decoded and accepted by the target router. -/
  eventsRouted : ℕ
  deriving DecidableEq

/-- Result of pumping station event packets for one target. -/
structure StationEventPumpReport where
  targetStation : StationId
  packetsReceived : ℕ
  bytesReceived : ℕ
  /-- Events accepted by the target router. -/
  eventsRouted : ℕ
  deriving DecidableEq

/-- Error produced while bridging station events through packet transport. -/
inductive StationEventTransportError (E : Type) where
  | transport (error : E)
  | encode (error : BinaryEncodeError)
  | decode (error : BinaryDecodeError)
  /-- Packet decoded as a non-event frame. -/
  | unexpectedFrame
  /-- Packet envelope and decoded event disagreed about endpoints. -/
  | endpointMismatch (packetSource packetTarget eventSource eventTarget : StationId)
  /-- Event router rejected the decoded event. -/
  | router (error : EventRouterError)
  deriving DecidableEq

/-- Bridge between typed station events and bounded station packet transport. -/
structure StationEventTransportBridge where
  stats : StationEventTransportStats
  deriving DecidableEq

namespace StationEventTransportBridge

/-- The bridge before it has done anything. -/
def default : StationEventTransportBridge := ⟨⟨0, 0, 0, 0, 0⟩⟩

/-- Encodes and sends one station event through the station transport. -/
def sendEvent (sink : TransportSink T StationOutboundPacket E)
    (bridge : StationEventTransportBridge) (transport : T) (event : StationEvent) :
    Except (StationEventTransportError E) Unit × StationEventTransportBridge × T :=
  match Wire.encodeStationEvent (.fromEvent event) [] with
  | (.error error, _) => (.error (.encode error), bridge, transport)
  | (.ok (), bytes) =>
      match sink.send transport ⟨event.source, event.target, bytes⟩ with
      | (.error error, transport) => (.error (.transport error), bridge, transport)
      | (.ok (), transport) =>
          (.ok (), ⟨{ bridge.stats with
            eventsSent := usizeSaturatingAdd bridge.stats.eventsSent 1
            bytesSent := usizeSaturatingAdd bridge.stats.bytesSent bytes.length }⟩, transport)

/-- Decodes a packet and routes its event. -/
def routePacket (router : EventRouter) (packet : StationInboundPacket) :
    Except (StationEventTransportError E) Unit × EventRouter :=
  match Wire.decoded packet.bytes with
  | .error error => (.error (.decode error), router)
  | .ok (.stationEvent frame) =>
      if frame.sourceStation ≠ packet.source ∨ frame.targetStation ≠ packet.route then
        (.error (.endpointMismatch packet.source packet.route frame.sourceStation
          frame.targetStation), router)
      else
        match router.route frame.intoEvent with
        | (.error error, router) => (.error (.router error), router)
        | (.ok _, router) => (.ok (), router)
  | .ok _ => (.error .unexpectedFrame, router)

/-- The loop of `pump_target`. -/
def pump (receiver : StationTransportReceiver T E) (targetStation : StationId) :
    Pump T EventRouter StationInboundPacket StationEventPumpReport
      (StationEventTransportError E) where
  recv transport :=
    match receiver.tryRecvStation transport targetStation with
    | (.error error, transport) => (.error (.transport error), transport)
    | (.ok packet, transport) => (.ok packet, transport)
  handle := routePacket
  received packet report := { report with
    packetsReceived := usizeSaturatingAdd report.packetsReceived 1
    bytesReceived := usizeSaturatingAdd report.bytesReceived packet.bytes.length }
  delivered report := { report with
    eventsRouted := usizeSaturatingAdd report.eventsRouted 1 }

/-- The loop of a call, with the packets it takes and the ones it routes. -/
def pumpRun (receiver : StationTransportReceiver T E) (transport : T) (router : EventRouter)
    (targetStation : StationId) (maxPackets : ℕ) :
    Except (StationEventTransportError E) Unit
      × Pump.State T EventRouter StationInboundPacket StationEventPumpReport :=
  (pump receiver targetStation).run maxPackets
    (Pump.start transport router ⟨targetStation, 0, 0, 0⟩)

/-- Receives up to `maxPackets` for `targetStation`, decodes station events, and routes them into
`router`. -/
def pumpTarget (receiver : StationTransportReceiver T E) (bridge : StationEventTransportBridge)
    (transport : T) (router : EventRouter) (targetStation : StationId) (maxPackets : ℕ) :
    Except (StationEventTransportError E) StationEventPumpReport × StationEventTransportBridge
      × T × EventRouter :=
  match pumpRun receiver transport router targetStation maxPackets with
  -- `?` returns from the function, ahead of the statistics
  | (.error error, state) => (.error error, bridge, state.source, state.sink)
  | (.ok (), state) =>
      (.ok state.report,
        ⟨{ bridge.stats with
          packetsReceived :=
            usizeSaturatingAdd bridge.stats.packetsReceived state.report.packetsReceived
          bytesReceived :=
            usizeSaturatingAdd bridge.stats.bytesReceived state.report.bytesReceived
          eventsRouted :=
            usizeSaturatingAdd bridge.stats.eventsRouted state.report.eventsRouted }⟩,
        state.source, state.sink)

/-- The critical or important event that a packet carries. -/
def reliableEvent (packet : StationInboundPacket) : Option StationEvent :=
  match Wire.decoded packet.bytes with
  | .ok (.stationEvent frame) =>
      if frame.sourceStation = packet.source ∧ frame.targetStation = packet.route
          ∧ frame.priority ≠ .bestEffort then
        some frame.intoEvent
      else none
  | _ => none

/-- The event is in the queue of its target. -/
def Queued (router : EventRouter) (event : StationEvent) : Prop :=
  ∃ queue, router.queues.lookup event.target = some queue ∧ event ∈ queue.queue event.priority

/-- The event can be obtained from the transport. -/
def Obtainable (receiver : StationTransportReceiver T E) (transport : T) (event : StationEvent) :
    Prop :=
  ∃ packet, receiver.Yields transport packet ∧ reliableEvent packet = some event

/-- **What the receiving side promises.**  Every reliable event that a call took is queued at its
target afterwards, or can still be obtained, and the statistics count the events that were routed.
-/
structure PumpLaw (receiver : StationTransportReceiver T E) (bridge : StationEventTransportBridge)
    (transport : T) (router : EventRouter) (targetStation : StationId) (maxPackets : ℕ) : Prop where
  kept : ∀ packet ∈ (pumpRun receiver transport router targetStation maxPackets).2.taken,
    ∀ event, reliableEvent packet = some event →
      Queued (pumpTarget receiver bridge transport router targetStation maxPackets).2.2.2 event
        ∨ Obtainable receiver
          (pumpTarget receiver bridge transport router targetStation maxPackets).2.2.1 event
  counted :
    (pumpTarget receiver bridge transport router targetStation maxPackets).2.1.stats.eventsRouted
      = bridge.stats.eventsRouted
        + (pumpRun receiver transport router targetStation maxPackets).2.moved.length

section Routed

variable {router router' : EventRouter} {packet : StationInboundPacket} {event : StationEvent}

lemma Queued.congr (h : ∀ id, router'.queues.lookup id = router.queues.lookup id) :
    Queued router' event ↔ Queued router event := by
  simp only [Queued, h]

/-- Routing stores the event, and keeps the reliable ones. -/
lemma Queued.of_route {outcome : PushOutcome} (h : router.route event = (.ok outcome, router')) :
    Queued router' event
      ∧ ∀ e : StationEvent, e.priority ≠ .bestEffort → Queued router e → Queued router' e := by
  rcases router.route_cases event with
    ⟨error, r, hroute, -⟩ | ⟨_, queue, queue', stats, hqueue, hpush, hroute⟩
  · cases hroute.symm.trans h
  · cases hroute.symm.trans h
    obtain ⟨hnew, hkept⟩ := queue.mem_queue_of_push hpush
    refine ⟨⟨queue', by rw [Finmap.lookup_insert_eq, if_pos rfl], hnew⟩, ?_⟩
    rintro e hreliable ⟨q, hq, he⟩
    by_cases htarget : e.target = event.target
    · rw [htarget, hqueue] at hq
      cases hq
      exact ⟨queue', by rw [Finmap.lookup_insert_eq, if_pos htarget], hkept _ hreliable e he⟩
    · exact ⟨q, by rw [Finmap.lookup_insert_eq, if_neg htarget, hq], he⟩

/-- A packet that is not routed changes no queue. -/
lemma lookup_of_routePacket_error {error : StationEventTransportError E}
    (h : routePacket router packet = (.error error, router')) (id : StationId) :
    router'.queues.lookup id = router.queues.lookup id := by
  rw [routePacket] at h
  split at h
  · cases h
    rfl
  · split_ifs at h with hmismatch
    · cases h
      rfl
    · rename_i frame _
      rcases router.route_cases frame.intoEvent with
        ⟨cause, r, hroute, hsame⟩ | ⟨outcome, queue, queue', stats, -, -, hroute⟩
      · rw [hroute] at h
        cases h
        exact hsame id
      · rw [hroute] at h
        cases h
  · cases h
    rfl

/-- A packet is taken when its event is routed. -/
lemma route_of_routePacket_ok
    (h : routePacket router packet
      = ((.ok () : Except (StationEventTransportError E) Unit), router')) :
    ∃ event outcome, router.route event = (.ok outcome, router')
      ∧ ∀ e ∈ reliableEvent packet, e = event := by
  rw [routePacket] at h
  split at h
  · cases h
  · rename_i frame hdecoded
    split_ifs at h with hmismatch
    · cases h
    · rcases hroute : router.route frame.intoEvent with ⟨cause | outcome, r⟩
      · rw [hroute] at h
        cases h
      · rw [hroute] at h
        cases h
        refine ⟨frame.intoEvent, outcome, hroute, fun e he => ?_⟩
        simp only [reliableEvent, hdecoded, Option.mem_def] at he
        split_ifs at he
        exact (Option.some.inj he).symm
  · cases h

lemma priority_of_reliableEvent (h : event ∈ reliableEvent packet) :
    event.priority ≠ .bestEffort := by
  rw [Option.mem_def, reliableEvent] at h
  split at h
  · split_ifs at h with hreliable
    cases h
    exact hreliable.2.2
  · cases h

end Routed

/-- The queues store the reliable events that are routed. -/
lemma stores (receiver : StationTransportReceiver T E) (targetStation : StationId) :
    (pump receiver targetStation).Stores reliableEvent Queued where
  takes h event hevent := by
    obtain ⟨event', outcome, hroute, heq⟩ := route_of_routePacket_ok h
    rw [heq event hevent]
    exact (Queued.of_route hroute).1
  keeps {router router' packet kept result} h event hevent hqueued := by
    cases result with
    | error error => exact (Queued.congr (lookup_of_routePacket_error h)).mpr hqueued
    | ok =>
        obtain ⟨event', outcome, hroute, -⟩ := route_of_routePacket_ok h
        exact (Queued.of_route hroute).2 event (priority_of_reliableEvent hevent) hqueued
  refuses h event _ hqueued := (Queued.congr (lookup_of_routePacket_error h)).mp hqueued

section Calls

variable (receiver : StationTransportReceiver T E) (bridge : StationEventTransportBridge)
  (transport : T) (router : EventRouter) (targetStation : StationId) (maxPackets : ℕ)

/-- A call adds to the statistics what the counter of the report has come to. -/
lemma eventsRouted_pumpTarget :
    (pumpTarget receiver bridge transport router targetStation maxPackets).2.1.stats.eventsRouted
      = Pump.flush usizeMax bridge.stats.eventsRouted
        (pumpRun receiver transport router targetStation maxPackets).2.moved.length
        (pumpRun receiver transport router targetStation maxPackets).1 := by
  rcases hrun : pumpRun receiver transport router targetStation maxPackets with ⟨error | _, state⟩
  · simp only [pumpTarget, hrun, Pump.flush]
  · have hcount := Pump.count_run StationEventPumpReport.eventsRouted (fun _ _ => rfl)
      (fun _ => rfl) rfl (congrArg Prod.fst hrun)
    rw [← pumpRun, hrun] at hcount
    replace hcount : state.report.eventsRouted = min state.moved.length usizeMax := hcount
    simp only [pumpTarget, hrun, Pump.flush, hcount, usizeSaturatingAdd]

/-- The transport and the router after a call are those of its loop. -/
lemma state_pumpTarget :
    (pumpTarget receiver bridge transport router targetStation maxPackets).2.2
      = ((pumpRun receiver transport router targetStation maxPackets).2.source,
        (pumpRun receiver transport router targetStation maxPackets).2.sink) := by
  rcases hrun : pumpRun receiver transport router targetStation maxPackets with
    ⟨error | _, state⟩ <;>
    simp only [pumpTarget, hrun]

/-- **When a call keeps its promise.**  It fails before it has routed anything, and not on a
reliable event that is nowhere else, or every packet within its budget carries an event that is
routed, the transport does not fail, and the counter has room. -/
lemma pumpLaw_iff :
    PumpLaw receiver bridge transport router targetStation maxPackets
      ↔ (pump receiver targetStation).FailsHarmlessly reliableEvent Queued (Obtainable receiver)
          maxPackets transport router
        ∨ (pump receiver targetStation).Smooth maxPackets usizeMax bridge.stats.eventsRouted
          transport router := by
  rw [← Pump.lossless_iff (stores receiver targetStation) maxPackets usizeMax
    bridge.stats.eventsRouted transport router ⟨targetStation, 0, 0, 0⟩, ← pumpRun,
    ← eventsRouted_pumpTarget]
  constructor
  · rintro ⟨hkept, hcounted⟩
    rw [state_pumpTarget] at hkept
    exact ⟨hkept, hcounted⟩
  · rintro ⟨hkept, hcounted⟩
    refine ⟨?_, hcounted⟩
    rw [state_pumpTarget]
    exact hkept

end Calls

end StationEventTransportBridge

/-! ## Dispatched commands -/

/-- Statistics for command dispatch transport bridging. -/
structure CommandDispatchTransportStats where
  /-- Commands encoded and submitted to station transport. -/
  commandsSent : ℕ
  bytesSent : ℕ
  packetsReceived : ℕ
  bytesReceived : ℕ
  /-- Commands decoded and enqueued at the target station. -/
  commandsEnqueued : ℕ
  /-- Commands rejected by target station queues. -/
  commandsRejectedQueue : ℕ
  deriving DecidableEq

/-- Result of pumping command dispatch packets for one target. -/
structure CommandDispatchPumpReport where
  targetStation : StationId
  packetsReceived : ℕ
  bytesReceived : ℕ
  /-- Commands enqueued into the target queue. -/
  commandsEnqueued : ℕ
  deriving DecidableEq

/-- Error produced while bridging command dispatch frames through station packet transport. -/
inductive CommandDispatchTransportError (E : Type) where
  | transport (error : E)
  | encode (error : BinaryEncodeError)
  | decode (error : BinaryDecodeError)
  /-- Packet decoded as a non-command-dispatch frame. -/
  | unexpectedFrame
  /-- Packet envelope and decoded dispatch frame disagreed about the target. -/
  | endpointMismatch (packetSource packetTarget dispatchTarget : StationId)
  /-- Target station queue was not registered. -/
  | missingQueue (stationId : StationId)
  /-- Target station queue rejected the command. -/
  | queue (error : CommandQueueError)
  deriving DecidableEq

/-- Bridge between stamped command envelopes and bounded station packet transport. -/
structure CommandDispatchTransportBridge where
  stats : CommandDispatchTransportStats
  deriving DecidableEq

namespace CommandDispatchTransportBridge

/-- The bridge before it has done anything. -/
def default : CommandDispatchTransportBridge := ⟨⟨0, 0, 0, 0, 0, 0⟩⟩

def sendEncoded (sink : TransportSink T StationOutboundPacket E)
    (bridge : CommandDispatchTransportBridge) (transport : T)
    (sourceStation targetStation : StationId) (bytes : List UInt8) :
    Except (CommandDispatchTransportError E) Unit × CommandDispatchTransportBridge × T :=
  match sink.send transport ⟨sourceStation, targetStation, bytes⟩ with
  | (.error error, transport) => (.error (.transport error), bridge, transport)
  | (.ok (), transport) =>
      (.ok (), ⟨{ bridge.stats with
        commandsSent := usizeSaturatingAdd bridge.stats.commandsSent 1
        bytesSent := usizeSaturatingAdd bridge.stats.bytesSent bytes.length }⟩, transport)

/-- Encodes and sends a command dispatch frame to its target station. -/
def sendFrame (sink : TransportSink T StationOutboundPacket E)
    (bridge : CommandDispatchTransportBridge) (transport : T) (sourceStation : StationId)
    (frame : CommandDispatchFrame) :
    Except (CommandDispatchTransportError E) Unit × CommandDispatchTransportBridge × T :=
  match Wire.encodeCommandDispatch frame [] with
  | (.error error, _) => (.error (.encode error), bridge, transport)
  | (.ok (), bytes) => bridge.sendEncoded sink transport sourceStation frame.stationId bytes

/-- Encodes and sends a stamped command envelope to a station node. -/
def sendEnvelope (sink : TransportSink T StationOutboundPacket E)
    (bridge : CommandDispatchTransportBridge) (transport : T)
    (sourceStation targetStation : StationId) (command : CommandEnvelope) :
    Except (CommandDispatchTransportError E) Unit × CommandDispatchTransportBridge × T :=
  match Wire.encodeCommandDispatchEnvelope targetStation command [] with
  | (.error error, _) => (.error (.encode error), bridge, transport)
  | (.ok (), bytes) => bridge.sendEncoded sink transport sourceStation targetStation bytes

/-- Decodes a packet and pushes its command. -/
def enqueuePacket (ingress : CommandIngress) (stationQueues : StationQueues)
    (packet : StationInboundPacket) :
    Except (CommandDispatchTransportError E) Unit × StationQueues :=
  match Wire.decoded packet.bytes with
  | .error error => (.error (.decode error), stationQueues)
  | .ok (.commandDispatch frame) =>
      if frame.stationId ≠ packet.route then
        (.error (.endpointMismatch packet.source packet.route frame.stationId), stationQueues)
      else
        match stationQueues.lookup frame.stationId with
        | none => (.error (.missingQueue frame.stationId), stationQueues)
        | some queue =>
            match queue.push frame.intoEnvelope ingress with
            | (.error error, queue) =>
                (.error (.queue error), stationQueues.insert frame.stationId queue)
            | (.ok _, queue) => (.ok (), stationQueues.insert frame.stationId queue)
  | .ok _ => (.error .unexpectedFrame, stationQueues)

/-- The loop of `pump_target`. -/
def pump (receiver : StationTransportReceiver T E) (targetStation : StationId)
    (ingress : CommandIngress) :
    Pump T StationQueues StationInboundPacket CommandDispatchPumpReport
      (CommandDispatchTransportError E) where
  recv transport :=
    match receiver.tryRecvStation transport targetStation with
    | (.error error, transport) => (.error (.transport error), transport)
    | (.ok packet, transport) => (.ok packet, transport)
  handle := enqueuePacket ingress
  received packet report := { report with
    packetsReceived := usizeSaturatingAdd report.packetsReceived 1
    bytesReceived := usizeSaturatingAdd report.bytesReceived packet.bytes.length }
  delivered report := { report with
    commandsEnqueued := usizeSaturatingAdd report.commandsEnqueued 1 }

/-- The loop of a call, with the packets it takes and the ones it enqueues. -/
def pumpRun (receiver : StationTransportReceiver T E) (transport : T)
    (stationQueues : StationQueues) (targetStation : StationId) (maxPackets : ℕ)
    (ingress : CommandIngress) :
    Except (CommandDispatchTransportError E) Unit
      × Pump.State T StationQueues StationInboundPacket CommandDispatchPumpReport :=
  (pump receiver targetStation ingress).run maxPackets
    (Pump.start transport stationQueues ⟨targetStation, 0, 0, 0⟩)

/-- The bridge after a failure: a command that its queue rejects is counted before the return. -/
def countRejected (bridge : CommandDispatchTransportBridge) :
    CommandDispatchTransportError E → CommandDispatchTransportBridge
  | .queue _ => ⟨{ bridge.stats with
      commandsRejectedQueue := usizeSaturatingAdd bridge.stats.commandsRejectedQueue 1 }⟩
  | _ => bridge

/-- Receives up to `maxPackets` for `targetStation`, decodes command dispatch frames, and enqueues
stamped commands into `stationQueues`. -/
def pumpTarget (receiver : StationTransportReceiver T E) (bridge : CommandDispatchTransportBridge)
    (transport : T) (stationQueues : StationQueues) (targetStation : StationId) (maxPackets : ℕ)
    (ingress : CommandIngress) :
    Except (CommandDispatchTransportError E) CommandDispatchPumpReport
      × CommandDispatchTransportBridge × T × StationQueues :=
  match pumpRun receiver transport stationQueues targetStation maxPackets ingress with
  | (.error error, state) => (.error error, bridge.countRejected error, state.source, state.sink)
  | (.ok (), state) =>
      (.ok state.report,
        ⟨{ bridge.stats with
          packetsReceived :=
            usizeSaturatingAdd bridge.stats.packetsReceived state.report.packetsReceived
          bytesReceived :=
            usizeSaturatingAdd bridge.stats.bytesReceived state.report.bytesReceived
          commandsEnqueued :=
            usizeSaturatingAdd bridge.stats.commandsEnqueued state.report.commandsEnqueued }⟩,
        state.source, state.sink)

/-- The command that a packet carries, with its target. -/
def dispatchedCommand (packet : StationInboundPacket) : Option (StationId × CommandEnvelope) :=
  match Wire.decoded packet.bytes with
  | .ok (.commandDispatch frame) =>
      if frame.stationId = packet.route then some (frame.stationId, frame.intoEnvelope) else none
  | _ => none

/-- An envelope is sent as its frame. -/
lemma sendEnvelope_eq (sink : TransportSink T StationOutboundPacket E)
    (bridge : CommandDispatchTransportBridge) (transport : T)
    (sourceStation targetStation : StationId) (command : CommandEnvelope) :
    bridge.sendEnvelope sink transport sourceStation targetStation command
      = bridge.sendFrame sink transport sourceStation (.fromEnvelope targetStation command) := by
  rw [sendEnvelope, sendFrame, Wire.encodeCommandDispatchEnvelope_eq]
  rfl

/-- The command is in the queues of its target. -/
def Queued (stationQueues : StationQueues) (dispatched : StationId × CommandEnvelope) : Prop :=
  ∃ queue, stationQueues.lookup dispatched.1 = some queue
    ∧ (dispatched.2 ∈ queue.readyQueue dispatched.2.priority ∨ dispatched.2 ∈ queue.barrierBuffer)

/-- The command can be obtained from the transport. -/
def Obtainable (receiver : StationTransportReceiver T E) (transport : T)
    (dispatched : StationId × CommandEnvelope) : Prop :=
  ∃ packet, receiver.Yields transport packet ∧ dispatchedCommand packet = some dispatched

/-- **What the receiving side promises.**  Every command that a call took is in the queues of its
target afterwards, or can still be obtained, and the statistics count the commands that were
enqueued. -/
structure PumpLaw (receiver : StationTransportReceiver T E)
    (bridge : CommandDispatchTransportBridge) (transport : T) (stationQueues : StationQueues)
    (targetStation : StationId) (maxPackets : ℕ) (ingress : CommandIngress) : Prop where
  kept : ∀ packet ∈
      (pumpRun receiver transport stationQueues targetStation maxPackets ingress).2.taken,
    ∀ dispatched, dispatchedCommand packet = some dispatched →
      Queued (pumpTarget receiver bridge transport stationQueues targetStation maxPackets
          ingress).2.2.2 dispatched
        ∨ Obtainable receiver (pumpTarget receiver bridge transport stationQueues targetStation
          maxPackets ingress).2.2.1 dispatched
  counted :
    (pumpTarget receiver bridge transport stationQueues targetStation maxPackets
        ingress).2.1.stats.commandsEnqueued
      = bridge.stats.commandsEnqueued
        + (pumpRun receiver transport stationQueues targetStation maxPackets ingress).2.moved.length

section Enqueued

variable {stationQueues stationQueues' : StationQueues} {packet : StationInboundPacket}
  {ingress : CommandIngress} {dispatched : StationId × CommandEnvelope}

lemma Queued.congr
    (h : ∀ id, stationQueues'.lookup id = stationQueues.lookup id) :
    Queued stationQueues' dispatched ↔ Queued stationQueues dispatched := by
  simp only [Queued, h]

/-- A packet whose command is not enqueued changes no queue. -/
lemma lookup_of_enqueuePacket_error {error : CommandDispatchTransportError E}
    (h : enqueuePacket ingress stationQueues packet = (.error error, stationQueues'))
    (id : StationId) : stationQueues'.lookup id = stationQueues.lookup id := by
  rw [enqueuePacket] at h
  split at h
  · cases h
    rfl
  · rename_i frame _
    split_ifs at h with hmismatch
    · cases h
      rfl
    · cases hqueue : stationQueues.lookup frame.stationId with
      | none =>
          simp only [hqueue] at h
          cases h
          rfl
      | some queue =>
          simp only [hqueue] at h
          by_cases haccepts : queue.Accepts frame.intoEnvelope ingress
          · obtain ⟨outcome, queue', hpush⟩ := queue.push_of_accepts haccepts
            rw [hpush] at h
            cases h
          · obtain ⟨cause, hpush⟩ := queue.push_of_not_accepts haccepts
            rw [hpush] at h
            cases h
            rw [Finmap.lookup_insert_eq]
            split_ifs with hid
            · rw [hid, hqueue]
            · rfl
  · cases h
    rfl

/-- A packet is taken when its command is pushed. -/
lemma push_of_enqueuePacket_ok
    (h : enqueuePacket ingress stationQueues packet
      = ((.ok () : Except (CommandDispatchTransportError E) Unit), stationQueues')) :
    ∃ id command queue queue' outcome, stationQueues.lookup id = some queue
      ∧ queue.push command ingress = (.ok outcome, queue')
      ∧ stationQueues' = stationQueues.insert id queue'
      ∧ ∀ d ∈ dispatchedCommand packet, d = (id, command) := by
  rw [enqueuePacket] at h
  split at h
  · cases h
  · rename_i frame hdecoded
    split_ifs at h with hmismatch
    · cases h
    · cases hqueue : stationQueues.lookup frame.stationId with
      | none =>
          simp only [hqueue] at h
          cases h
      | some queue =>
          simp only [hqueue] at h
          rcases hpush : queue.push frame.intoEnvelope ingress with ⟨cause | outcome, queue'⟩
          · rw [hpush] at h
            cases h
          · rw [hpush] at h
            cases h
            refine ⟨_, _, queue, queue', outcome, hqueue, hpush, rfl, fun d hd => ?_⟩
            simp only [dispatchedCommand, hdecoded, Option.mem_def] at hd
            split_ifs at hd
            exact (Option.some.inj hd).symm
  · cases h

end Enqueued

/-- The queues store the commands that are pushed. -/
lemma stores (receiver : StationTransportReceiver T E) (targetStation : StationId)
    (ingress : CommandIngress) :
    (pump receiver targetStation ingress).Stores dispatchedCommand Queued where
  takes h d hd := by
    obtain ⟨id, command, queue, queue', outcome, -, hpush, rfl, heq⟩ := push_of_enqueuePacket_ok h
    rw [heq d hd]
    exact ⟨queue', by rw [Finmap.lookup_insert_eq, if_pos rfl], (queue.mem_of_push hpush).1⟩
  keeps {stationQueues stationQueues' packet kept result} h d _ hqueued := by
    cases result with
    | error error => exact (Queued.congr (lookup_of_enqueuePacket_error h)).mpr hqueued
    | ok =>
        obtain ⟨id, command, queue, queue', outcome, hqueue, hpush, rfl, -⟩ :=
          push_of_enqueuePacket_ok h
        obtain ⟨-, hready, hbuffer⟩ := queue.mem_of_push hpush
        obtain ⟨q, hq, hmem⟩ := hqueued
        by_cases hid : d.1 = id
        · rw [hid, hqueue] at hq
          cases hq
          exact ⟨queue', by rw [Finmap.lookup_insert_eq, if_pos hid],
            hmem.imp (hready _ d.2) (hbuffer d.2)⟩
        · exact ⟨q, by rw [Finmap.lookup_insert_eq, if_neg hid, hq], hmem⟩
  refuses h d _ hqueued := (Queued.congr (lookup_of_enqueuePacket_error h)).mp hqueued

section Calls

variable (receiver : StationTransportReceiver T E) (bridge : CommandDispatchTransportBridge)
  (transport : T) (stationQueues : StationQueues) (targetStation : StationId) (maxPackets : ℕ)
  (ingress : CommandIngress)

/-- A rejected command is not counted as enqueued. -/
lemma commandsEnqueued_countRejected (error : CommandDispatchTransportError E) :
    (bridge.countRejected error).stats.commandsEnqueued = bridge.stats.commandsEnqueued := by
  cases error <;> rfl

/-- A call adds to the statistics what the counter of the report has come to. -/
lemma commandsEnqueued_pumpTarget :
    (pumpTarget receiver bridge transport stationQueues targetStation maxPackets
        ingress).2.1.stats.commandsEnqueued
      = Pump.flush usizeMax bridge.stats.commandsEnqueued
        (pumpRun receiver transport stationQueues targetStation maxPackets ingress).2.moved.length
        (pumpRun receiver transport stationQueues targetStation maxPackets ingress).1 := by
  rcases hrun : pumpRun receiver transport stationQueues targetStation maxPackets ingress with
    ⟨error | _, state⟩
  · simp only [pumpTarget, hrun, Pump.flush]
    exact bridge.commandsEnqueued_countRejected error
  · have hcount := Pump.count_run CommandDispatchPumpReport.commandsEnqueued (fun _ _ => rfl)
      (fun _ => rfl) rfl (congrArg Prod.fst hrun)
    rw [← pumpRun, hrun] at hcount
    replace hcount : state.report.commandsEnqueued = min state.moved.length usizeMax := hcount
    simp only [pumpTarget, hrun, Pump.flush, hcount, usizeSaturatingAdd]

/-- The transport and the queues after a call are those of its loop. -/
lemma state_pumpTarget :
    (pumpTarget receiver bridge transport stationQueues targetStation maxPackets ingress).2.2
      = ((pumpRun receiver transport stationQueues targetStation maxPackets ingress).2.source,
        (pumpRun receiver transport stationQueues targetStation maxPackets ingress).2.sink) := by
  rcases hrun : pumpRun receiver transport stationQueues targetStation maxPackets ingress with
    ⟨error | _, state⟩ <;>
    simp only [pumpTarget, hrun]

/-- **When a call keeps its promise.**  It fails before it has enqueued anything, and not on a
command that is nowhere else, or every packet within its budget carries a command that is enqueued,
the transport does not fail, and the counter has room. -/
lemma pumpLaw_iff :
    PumpLaw receiver bridge transport stationQueues targetStation maxPackets ingress
      ↔ (pump receiver targetStation ingress).FailsHarmlessly dispatchedCommand Queued
          (Obtainable receiver) maxPackets transport stationQueues
        ∨ (pump receiver targetStation ingress).Smooth maxPackets usizeMax
          bridge.stats.commandsEnqueued transport stationQueues := by
  rw [← Pump.lossless_iff (stores receiver targetStation ingress) maxPackets usizeMax
    bridge.stats.commandsEnqueued transport stationQueues ⟨targetStation, 0, 0, 0⟩, ← pumpRun,
    ← commandsEnqueued_pumpTarget]
  constructor
  · rintro ⟨hkept, hcounted⟩
    rw [state_pumpTarget] at hkept
    exact ⟨hkept, hcounted⟩
  · rintro ⟨hkept, hcounted⟩
    refine ⟨?_, hcounted⟩
    rw [state_pumpTarget]
    exact hkept

end Calls

end CommandDispatchTransportBridge

/-! ## Both bridges -/

/-- **When the bridges lose nothing and count exactly.**  A call of either bridge keeps its promise
exactly when it fails before it has enqueued anything, and not on an item that is nowhere else, or
does not fail within its budget and its counter has room. -/
theorem pump_law_iff (receiver : StationTransportReceiver T E) (transport : T)
    (targetStation : StationId) (maxPackets : ℕ) :
    (∀ bridge router,
      StationEventTransportBridge.PumpLaw receiver bridge transport router targetStation maxPackets
        ↔ (StationEventTransportBridge.pump receiver targetStation).FailsHarmlessly
            StationEventTransportBridge.reliableEvent StationEventTransportBridge.Queued
            (StationEventTransportBridge.Obtainable receiver) maxPackets transport router
          ∨ (StationEventTransportBridge.pump receiver targetStation).Smooth maxPackets usizeMax
            bridge.stats.eventsRouted transport router)
      ∧ ∀ bridge stationQueues ingress,
        CommandDispatchTransportBridge.PumpLaw receiver bridge transport stationQueues targetStation
            maxPackets ingress
          ↔ (CommandDispatchTransportBridge.pump receiver targetStation ingress).FailsHarmlessly
              CommandDispatchTransportBridge.dispatchedCommand
              CommandDispatchTransportBridge.Queued
              (CommandDispatchTransportBridge.Obtainable receiver) maxPackets transport
              stationQueues
            ∨ (CommandDispatchTransportBridge.pump receiver targetStation ingress).Smooth
              maxPackets usizeMax bridge.stats.commandsEnqueued transport stationQueues :=
  ⟨fun bridge router => StationEventTransportBridge.pumpLaw_iff receiver bridge transport router
    targetStation maxPackets,
    fun bridge stationQueues ingress => CommandDispatchTransportBridge.pumpLaw_iff receiver bridge
      transport stationQueues targetStation maxPackets ingress⟩

/-- The transport that hands out the packets of a list. -/
def StationTransportReceiver.ofList :
    StationTransportReceiver (List StationInboundPacket) Empty where
  tryRecvStation packets _ :=
    match packets with
    | [] => (.ok none, [])
    | packet :: packets => (.ok (some packet), packets)

lemma StationTransportReceiver.not_yields_nil (packet : StationInboundPacket) :
    ¬ ofList.Yields [] packet := by
  intro h
  generalize hpackets : ([] : List StationInboundPacket) = packets at h
  induction h with
  | now h =>
      subst hpackets
      cases h
  | later h _ ih =>
      subst hpackets
      cases h
      exact ih rfl

/-- The packet of a critical event from station 1 to station 2. -/
def criticalPacket (id : EventId) : StationInboundPacket :=
  ⟨⟨1⟩, ⟨2⟩, (Wire.encodeStationEvent ⟨id, ⟨1⟩, ⟨2⟩, ⟨0⟩, ⟨0⟩, .critical, .custom 0⟩ []).2⟩

/-- The packet of a command for station 2. -/
def commandPacket : StationInboundPacket :=
  ⟨⟨1⟩, ⟨2⟩, (Wire.encodeCommandDispatch ⟨⟨2⟩, ⟨7⟩, ⟨1⟩, ⟨3⟩, 1, ⟨0⟩, 0, .normal, []⟩ []).2⟩

/-- Of two critical events for a queue of one place the second is lost, and so is a command for a
station without queues. -/
theorem refused_items_are_lost :
    (¬ ∀ (T E : Type) (receiver : StationTransportReceiver T E) bridge transport router
        targetStation maxPackets, StationEventTransportBridge.PumpLaw receiver bridge transport
          router targetStation maxPackets)
      ∧ ¬ ∀ (T E : Type) (receiver : StationTransportReceiver T E) bridge transport stationQueues
        targetStation maxPackets ingress, CommandDispatchTransportBridge.PumpLaw receiver bridge
          transport stationQueues targetStation maxPackets ingress := by
  constructor
  · intro h
    have hlaw := h _ _ .ofList .default [criticalPacket ⟨1⟩, criticalPacket ⟨2⟩]
      ((EventRouter.new ⟨1, 1, 1⟩).registerStation ⟨2⟩) ⟨2⟩ 2
    rcases hlaw.kept (criticalPacket ⟨2⟩) (by decide)
      ⟨⟨2⟩, ⟨1⟩, ⟨2⟩, ⟨0⟩, ⟨0⟩, .critical, .custom 0⟩ (by decide) with
      ⟨queue, hqueue, hmem⟩ | ⟨packet, hyields, -⟩
    · have hcritical : ((StationEventTransportBridge.pumpTarget .ofList .default
          [criticalPacket ⟨1⟩, criticalPacket ⟨2⟩]
          ((EventRouter.new ⟨1, 1, 1⟩).registerStation ⟨2⟩) ⟨2⟩ 2).2.2.2.queues.lookup ⟨2⟩).map
            EventQueues.critical
          = some [⟨⟨1⟩, ⟨1⟩, ⟨2⟩, ⟨0⟩, ⟨0⟩, .critical, .custom 0⟩] := by decide
      rw [show Finmap.lookup _ _ = some queue from hqueue, Option.map_some, Option.some.injEq]
        at hcritical
      rw [EventQueues.queue, hcritical] at hmem
      exact absurd hmem (by decide)
    · exact StationTransportReceiver.not_yields_nil packet hyields
  · intro h
    have hlaw := h _ _ .ofList .default [commandPacket] ∅ ⟨2⟩ 1 .RUNNING
    rcases hlaw.kept commandPacket (by decide) (⟨2⟩, ⟨⟨1⟩, ⟨7⟩, ⟨3⟩, 1, ⟨0⟩, 0, .normal, []⟩)
      (by decide) with ⟨queue, hqueue, -⟩ | ⟨packet, hyields, -⟩
    · have hnone : (CommandDispatchTransportBridge.pumpTarget .ofList .default [commandPacket] ∅
          ⟨2⟩ 1 .RUNNING).2.2.2.lookup ⟨2⟩ = none := by decide
      cases hnone.symm.trans hqueue
    · exact StationTransportReceiver.not_yields_nil packet hyields

end SectorSync
