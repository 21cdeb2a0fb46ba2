import SectorSync.Core.AdmissionLedger
import SectorSync.Runtime.GatewayDispatch
import SectorSync.Runtime.NetworkRun

/-!
# Commands from the packet of a client to the station

A gateway, a deployment table and a network of stations in one run.  A packet is dispatched through
the gateway and the table; the command that the dispatch hands out is sent to its station with
`send_envelope` and travels through the network.  Sessions come and go, stations move, nodes fail
and packets are repeated or reordered, in any interleaving and at any ticks.

The run keeps what it dispatched, under the key of the admission.  `Keeps` is what every call keeps,
and `dispatched_once` is the result: a command is executed at most once for every time that its
client's session admits it, and a station receives the commands of a client in their order.
-/

namespace SectorSync

open Machine GatewayDispatchPipeline

namespace StationNetwork

variable {N : Type} [DecidableEq N]

/-- The call puts no command on the transport. -/
def Op.SendsNoCommand : Op N → Prop
  | .sendFrame _ _ _ => False
  | .sendPacket packet =>
      CommandDispatchTransportBridge.dispatchedCommand (InMemoryStationTransport.arrival packet)
        = none
  | _ => True

lemma sentCommands_step (net : StationNetwork N) {op : Op N} (hop : op.SendsNoCommand) :
    (net.step op).sentCommands = net.sentCommands := by
  cases op with
  | sendFrame node sourceStation frame => exact absurd hop id
  | sendPacket packet =>
      dsimp only [step]
      rcases StationTransportRun.sink.send net.transport packet with ⟨error | _, transport⟩
      · rfl
      · show net.sentCommands ++ _ = _
        rw [show CommandDispatchTransportBridge.dispatchedCommand _ = none from hop]
        exact List.append_nil _
  | sendEvent node event =>
      dsimp only [step]
      rcases (net.nodes node).eventBridge.sendEvent StationTransportRun.sink net.transport event
        with
        ⟨error | _, bridge, transport⟩ <;> rfl
  | drainReady node stationId currentTick =>
      dsimp only [step]
      rcases (net.nodes node).router.drainReady stationId currentTick with ⟨error | ready, router⟩
        <;> rfl
  | popNext node stationId | releaseBarrierBuffer node stationId
    | clearBarrierBuffer node stationId =>
      dsimp only [step]
      cases (net.nodes node).stationQueues.lookup stationId <;> rfl
  | _ => rfl

/-- A frame that is sent is logged, when the transport accepts it. -/
lemma sentCommands_sendFrame (net : StationNetwork N) (node : N) (sourceStation : StationId)
    (frame : CommandDispatchFrame) :
    (net.step (.sendFrame node sourceStation frame)).sentCommands = net.sentCommands
      ∨ (net.step (.sendFrame node sourceStation frame)).sentCommands
        = net.sentCommands ++ [(frame.stationId, frame.intoEnvelope)] := by
  dsimp only [step]
  rcases (net.nodes node).commandBridge.sendFrame StationTransportRun.sink net.transport
    sourceStation frame with ⟨error | _, bridge, transport⟩
  · exact .inl rfl
  · exact .inr rfl

end StationNetwork

/-- A command that a dispatch handed out. -/
structure DispatchedCommand where
  admission : Admission
  delivery : GatewayDeliveryRoute
  command : CommandEnvelope

/-- The station that a command is for, and the command. -/
def DispatchedCommand.routed (dispatched : DispatchedCommand) : StationId × CommandEnvelope :=
  (dispatched.delivery.stationId, dispatched.command)

/-- The gateway, the deployment and the network, and what was dispatched, the oldest first. -/
structure CommandSystem (N : Type) where
  gateway : AdmissionRun
  pipeline : GatewayDispatchPipeline
  deployment : DeploymentRouteTable
  network : StationNetwork N
  dispatched : List DispatchedCommand

namespace CommandSystem

variable {N : Type} [DecidableEq N]

/-- A call. -/
inductive Op (N : Type) [DecidableEq N] where
  /-- Any operation of the gateway table. -/
  | gateway (op : GatewayOp)
  | deployment (op : DeploymentOp)
  /-- A packet of a client, which is dispatched from a node. -/
  | ingest (node : N) (sourceStation : StationId) (input : List UInt8) (now : Tick)
  /-- Any call of the network that sends no other command. -/
  | network (op : StationNetwork.Op N) (hop : op.SendsNoCommand)

/-- Nothing is connected, placed or sent. -/
def start (config : GatewayConfig) (pipelineConfig : GatewayCommandPipelineConfig)
    (deploymentConfig : DeploymentConfig) (limits : StationTransportLimits)
    (eventLimits : N → EventQueueLimits) : CommandSystem N where
  gateway := .new config
  pipeline := .new pipelineConfig
  deployment := .new deploymentConfig
  network := .start limits eventLimits
  dispatched := []

/-- The ledger after a packet: the dispatch admits the command of the packet. -/
def ingestLedger (gateway : AdmissionRun) (input : List UInt8) (now : Tick) : AdmissionLedger :=
  match Wire.decoded input with
  | .ok (.command frame) =>
      (gateway.step (.admitSequence frame.clientId frame.sequence now)).ledger
  | _ => gateway.ledger

/-- Dispatches a packet, and sends the command on that the dispatch hands out: `send_envelope` sends
the frame of the envelope (`CommandDispatchTransportBridge.sendEnvelope_eq`). -/
def ingest (system : CommandSystem N) (node : N) (sourceStation : StationId) (input : List UInt8)
    (now : Tick) : CommandSystem N :=
  let outcome := system.pipeline.dispatch system.gateway.table system.deployment input now
  let system' := { system with
    gateway := ⟨outcome.gateway, ingestLedger system.gateway input now⟩
    pipeline := outcome.pipeline }
  match outcome.report.command, outcome.report.delivery with
  | some command, some delivery =>
      { system' with
        network := system.network.step (.sendFrame node sourceStation
          (.fromEnvelope delivery.stationId command))
        dispatched := system.dispatched
          ++ [⟨system.gateway.ledger.key command.clientId command.sequence, delivery, command⟩] }
  | _, _ => system'

/-- One call. -/
def step (system : CommandSystem N) : Op N → CommandSystem N
  | .gateway op => { system with gateway := system.gateway.step op }
  | .deployment op => { system with deployment := system.deployment.step op }
  | .ingest node sourceStation input now => system.ingest node sourceStation input now
  | .network op _ => { system with network := system.network.step op }

/-! ## What every call keeps -/

/-- The command is the one that was admitted, and its station was served. -/
structure DispatchedCommand.Genuine (dispatched : DispatchedCommand) : Prop where
  client : dispatched.command.clientId = dispatched.admission.clientId
  sequence : dispatched.command.sequence = dispatched.admission.sequence
  serving : dispatched.delivery.nodeState ≠ .offline

/-- The parts of the system and what was dispatched. -/
structure Keeps (limits : StationTransportLimits) (system : CommandSystem N) : Prop where
  files : system.gateway.Files
  sound : system.network.Sound limits
  /-- What was dispatched was admitted. -/
  admitted : (system.dispatched.map (·.admission)).Sublist system.gateway.ledger.admitted
  /-- What was sent was dispatched. -/
  sent : system.network.sentCommands.Sublist (system.dispatched.map (·.routed))
  genuine : ∀ dispatched ∈ system.dispatched, DispatchedCommand.Genuine dispatched

variable {limits : StationTransportLimits} {system : CommandSystem N}

lemma keeps_start (config : GatewayConfig) (pipelineConfig : GatewayCommandPipelineConfig)
    (deploymentConfig : DeploymentConfig) (limits : StationTransportLimits)
    (eventLimits : N → EventQueueLimits) :
    Keeps limits (start config pipelineConfig deploymentConfig limits eventLimits) where
  files := AdmissionRun.files_new config
  sound := StationNetwork.sound_start limits eventLimits
  admitted := List.Sublist.refl _
  sent := List.Sublist.refl _
  genuine dispatched h := by simp [start] at h

/-- The gateway goes on, and admits no less than before. -/
lemma Keeps.gateway (h : Keeps limits system) (pipeline : GatewayDispatchPipeline)
    (op : GatewayOp) :
    Keeps limits { system with gateway := system.gateway.step op, pipeline := pipeline } where
  files := h.files.step op
  sound := h.sound
  admitted := h.admitted.trans
    (system.gateway.ledger.admitted_record (system.gateway.table.event op))
  sent := h.sent
  genuine := h.genuine

/-- What a packet with a command does to the gateway. -/
lemma gateway_ingest (gateway : AdmissionRun) {input : List UInt8} {now : Tick}
    {frame : CommandFrame} {result : Except GatewayError GatewayCommandAdmission}
    {table : GatewaySessionTable} (hinput : Wire.decoded input = .ok (.command frame))
    (hadmission : gateway.table.admitSequence frame.clientId frame.sequence now = (result, table)) :
    (⟨table, ingestLedger gateway input now⟩ : AdmissionRun)
      = gateway.step (.admitSequence frame.clientId frame.sequence now) := by
  simp only [ingestLedger, hinput, AdmissionRun.step, GatewaySessionTable.step, hadmission]

/-- **Dispatch step.**  A command that is handed out was admitted under the next key of its
client. -/
lemma Keeps.handOut (h : Keeps limits system) (pipeline : GatewayDispatchPipeline)
    {frame : CommandFrame} {now : Tick} {admission : GatewayCommandAdmission}
    {table : GatewaySessionTable} {delivery : GatewayDeliveryRoute}
    (hadmission : system.gateway.table.admitSequence frame.clientId frame.sequence now
      = (.ok admission, table))
    (hserving : delivery.nodeState ≠ .offline) (node : N) (sourceStation : StationId) :
    Keeps limits { system with
      gateway := system.gateway.step (.admitSequence frame.clientId frame.sequence now)
      pipeline := pipeline
      network := system.network.step (.sendFrame node sourceStation
        (.fromEnvelope delivery.stationId (frame.intoEnvelope now)))
      dispatched := system.dispatched
        ++ [⟨system.gateway.ledger.key frame.clientId frame.sequence, delivery,
          frame.intoEnvelope now⟩] } where
  files := h.files.step _
  sound := h.sound.step (.sendFrame node sourceStation
    (.fromEnvelope delivery.stationId (frame.intoEnvelope now)))
  admitted := by
    have hevent : system.gateway.table.event (.admitSequence frame.clientId frame.sequence now)
        = .admitted frame.clientId frame.sequence now := by
      simp only [GatewaySessionTable.event, hadmission, admissionEvent]
    simp only [AdmissionRun.step, hevent, AdmissionLedger.record, List.map_append, List.map_cons,
      List.map_nil]
    exact h.admitted.append (List.Sublist.refl _)
  sent := by
    rw [List.map_append]
    rcases system.network.sentCommands_sendFrame node sourceStation
      (.fromEnvelope delivery.stationId (frame.intoEnvelope now)) with hsent | hsent
    · rw [hsent]
      exact h.sent.trans (List.sublist_append_left _ _)
    · rw [hsent]
      exact h.sent.append (List.Sublist.refl _)
  genuine dispatched hmem := by
    rcases List.mem_append.mp hmem with hold | hnew
    · exact h.genuine dispatched hold
    · rw [List.mem_singleton.mp hnew]
      exact ⟨rfl, rfl, hserving⟩

lemma serving_of_resolve {deployment : DeploymentRouteTable} {route : GatewayRoute}
    {delivery : GatewayDeliveryRoute} (h : deployment.resolveGatewayRoute route = .ok delivery) :
    delivery.nodeState ≠ .offline := by
  rw [DeploymentRouteTable.resolveGatewayRoute] at h
  cases hstation : deployment.stationRoute route.stationId with
  | error error =>
      rw [hstation] at h
      cases h
  | ok stationRoute =>
      cases hnode : deployment.nodeRoute stationRoute.nodeId with
      | error error =>
          simp only [hstation, bind, Except.bind, hnode] at h
          cases h
      | ok nodeRoute =>
          simp only [hstation, bind, Except.bind, hnode] at h
          split_ifs at h with hoffline
          cases h
          exact hoffline

lemma Keeps.ingest (h : Keeps limits system) (node : N) (sourceStation : StationId)
    (input : List UInt8) (now : Tick) :
    Keeps limits (system.ingest node sourceStation input now) := by
  have hcases := dispatches system.pipeline system.gateway.table system.deployment input now
  rw [CommandSystem.ingest]
  generalize system.pipeline.dispatch system.gateway.table system.deployment input now = outcome
    at hcases
  cases hcases with
  | undecoded hinput hgateway _ hwithheld =>
      have hledger : ingestLedger system.gateway input now = system.gateway.ledger := by
        rw [ingestLedger]
        split
        · rename_i frame hframe
          exact absurd hframe (hinput frame)
        · rfl
      simp only [hwithheld.1, hgateway, hledger]
      exact ⟨h.files, h.sound, h.admitted, h.sent, h.genuine⟩
  | unadmitted hinput hadmission hreport =>
      simp only [hreport.withheld.1, gateway_ingest system.gateway hinput hadmission]
      exact h.gateway _ _
  | unreachable hinput hadmission hroute hreport =>
      simp only [hreport.withheld.1, gateway_ingest system.gateway hinput hadmission]
      exact h.gateway _ _
  | handedOut hinput hadmission hroute hreport =>
      simp only [hreport.stamped, hreport.routed, gateway_ingest system.gateway hinput hadmission]
      exact h.handOut _ hadmission (serving_of_resolve hroute) node sourceStation

/-- **The step rule.** -/
lemma Keeps.step (h : Keeps limits system) (op : Op N) : Keeps limits (system.step op) := by
  cases op with
  | gateway op => exact h.gateway system.pipeline op
  | deployment op => exact ⟨h.files, h.sound, h.admitted, h.sent, h.genuine⟩
  | ingest node sourceStation input now => exact h.ingest node sourceStation input now
  | network op hop =>
      refine ⟨h.files, h.sound.step op, h.admitted, ?_, h.genuine⟩
      show (system.network.step op).sentCommands.Sublist _
      rw [StationNetwork.sentCommands_step system.network hop]
      exact h.sent

/-! ## End to end -/

/-- **What the system promises about commands.** -/
structure ExecutesOnce (system : CommandSystem N) : Prop where
  /-- A dispatched command is the one that was admitted, for a station that was served. -/
  genuine : ∀ dispatched ∈ system.dispatched, DispatchedCommand.Genuine dispatched
  /-- Between two dispatches for a client its session was started anew, or the sequence
  increases. -/
  increasing : Admission.Increasing (system.dispatched.map (·.admission))
  /-- All nodes together execute a command at most once for every admission, at the station that it
  was dispatched to. -/
  executed : ∃ executed : List DispatchedCommand, executed.Sublist system.dispatched
    ∧ (executed.map (·.admission)).Nodup
    ∧ (system.network.popped.map Prod.snd).Perm (executed.map (·.routed))
  /-- A station receives the commands in the order in which they were dispatched. -/
  ordered : ∀ station, ∃ arrived : List DispatchedCommand, arrived.Sublist system.dispatched
    ∧ ofTag station (system.network.enqueued.map Prod.snd) = arrived.map (·.command)
    ∧ ∀ dispatched ∈ arrived, dispatched.delivery.stationId = station

/-- **A command is executed at most once.**  After every run of gateway, deployment, packets and
network, in every interleaving and at any ticks, what a dispatch hands out is the command that was
admitted; packets that are repeated or come late are not dispatched again while the session lasts;
every command that is popped was dispatched to that station, each dispatch is popped at most once,
and no two dispatches share their client, session and sequence; and a station receives the commands
in the order of their dispatch. -/
theorem dispatched_once (config : GatewayConfig) (pipelineConfig : GatewayCommandPipelineConfig)
    (deploymentConfig : DeploymentConfig) (limits : StationTransportLimits)
    (eventLimits : N → EventQueueLimits) (ops : List (Op N)) :
    ExecutesOnce (execute step
      (start config pipelineConfig deploymentConfig limits eventLimits) ops) := by
  have h : Keeps limits _ := execute_preserves (I := Keeps limits) (fun _ op h => h.step op)
    (keeps_start config pipelineConfig deploymentConfig limits eventLimits) ops
  generalize execute step (start config pipelineConfig deploymentConfig limits eventLimits) ops
    = system at h
  have hincreasing : Admission.Increasing (system.dispatched.map (·.admission)) :=
    h.files.increasing.sublist h.admitted
  have hdelivered := h.sound.commandsDelivered
  refine ⟨h.genuine, hincreasing, ?_, fun station => ?_⟩
  · obtain ⟨popped, hperm, hpopped⟩ := hdelivered.once
    obtain ⟨executed, hexecuted, rfl⟩ := List.sublist_map_iff.mp (hpopped.trans h.sent)
    refine ⟨executed, hexecuted, ?_, hperm.symm⟩
    exact (hexecuted.map _).nodup hincreasing.nodup
  · have hrouted : ((system.dispatched.map (·.routed)).filter fun entry => entry.1 = station)
        = (system.dispatched.filter fun d => d.delivery.stationId = station).map (·.routed) :=
      List.filter_map
    have hstation := (hdelivered.ordered station).trans
      (h.sent.filter fun entry => entry.1 = station)
    rw [hrouted] at hstation
    obtain ⟨arrived, harrived, heq⟩ := List.sublist_map_iff.mp hstation
    refine ⟨arrived, harrived.trans List.filter_sublist, ?_, fun d hd => ?_⟩
    · rw [StationNetwork.ofTag_eq, heq, List.map_map]
      rfl
    · exact of_decide_eq_true (List.mem_filter.mp (harrived.subset hd)).2

end CommandSystem

end SectorSync
