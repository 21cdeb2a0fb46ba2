import SectorSync.Core.AdmissionLedger
import SectorSync.Runtime.GatewayDispatch
import SectorSync.Runtime.GatewayIngress
import SectorSync.Runtime.HubEndpoints
import SectorSync.Runtime.StationNetwork

/-!
# What a command of a client goes through

`sendCommandFrame` is the client's side of a command.  `Processes` is what the pipeline of the
gateway does with it, and `ingress_cases` what the gateway's bridge does with any packet; `ackFrom`
and `commandFrom` are what packets carry between the two.  `visitPacket_acks` is the way back: a
client is shown the acknowledgements that come from the gateway.
-/

namespace SectorSync

open GatewaySessionTable

variable {T Addr E : Type}

/-! ## Sending -/

/-- Result of sending one command frame. -/
structure ClientCommandSendReport where
  commandId : CommandId
  bytesSent : ℕ
  deriving DecidableEq

/-- Encodes and sends a client command frame to the configured server id. -/
def ClientTransportBridge.sendCommandFrame (sink : TransportSink T OutboundPacket E)
    (bridge : ClientTransportBridge) (transport : T) (frame : CommandFrame) :
    Except (ClientTransportBridgeError E) ClientCommandSendReport × ClientTransportBridge × T :=
  if frame.clientId ≠ bridge.config.clientId then
    (.error (.commandClientMismatch bridge.config.clientId frame.clientId), bridge, transport)
  else
    match Wire.encodeCommand frame [] with
    | (.error error, _) => (.error (.encode error), bridge, transport)
    | (.ok (), bytes) =>
        let bytesSent := bytes.length
        match sink.send transport ⟨(), bridge.config.serverId, bytes⟩ with
        | (.error error, transport) => (.error (.transport error), bridge, transport)
        | (.ok (), transport) =>
            (.ok ⟨frame.commandId, bytesSent⟩, { bridge with stats := { bridge.stats with
              commandsSent := usizeSaturatingAdd bridge.stats.commandsSent 1
              commandBytesSent := usizeSaturatingAdd bridge.stats.commandBytesSent bytesSent } },
              transport)

/-- The command that a packet carries for its source. -/
def commandFrom (packet : InboundPacket Addr) : Option CommandFrame :=
  match Wire.decoded packet.bytes with
  | .ok (.command frame) => if packet.clientId = some frame.clientId then some frame else none
  | _ => none

lemma clientId_of_commandFrom {packet : InboundPacket Addr} {frame : CommandFrame}
    (h : commandFrom packet = some frame) : packet.clientId = some frame.clientId := by
  rw [commandFrom] at h
  split at h
  · split_ifs at h with hsource
    obtain rfl := Option.some.inj h
    exact hsource
  · cases h

/-- The acknowledgement that a packet from the server carries. -/
def ackFrom (server : ClientId) (packet : InboundPacket Addr) : Option CommandAckFrame :=
  match Wire.decoded packet.bytes with
  | .ok (.commandAck ack) => if packet.clientId = some server then some ack else none
  | _ => none

/-- A call fails without a packet, or hands one packet to the transport, which carries the
command, and reports what the transport says. -/
lemma ClientTransportBridge.sendCommandFrame_cases (sink : TransportSink T OutboundPacket E)
    (bridge : ClientTransportBridge) (transport : T) (frame : CommandFrame) :
    (∃ error, bridge.sendCommandFrame sink transport frame = (.error error, bridge, transport))
      ∨ ∃ bytes, frame.clientId = bridge.config.clientId
        ∧ Wire.decoded bytes = .ok (.command frame)
        ∧ ∃ result bridge', bridge.sendCommandFrame sink transport frame
            = (result, bridge', (sink.send transport ⟨(), bridge.config.serverId, bytes⟩).2)
          ∧ bridge'.config = bridge.config
          ∧ ((∃ report, result = .ok report)
            ↔ (sink.send transport ⟨(), bridge.config.serverId, bytes⟩).1 = .ok ()) := by
  rw [sendCommandFrame]
  split_ifs with hclient
  · exact .inl ⟨_, rfl⟩
  · rcases hencode : Wire.encodeCommand frame [] with ⟨error | _, bytes⟩
    · exact .inl ⟨_, rfl⟩
    · have hdecoded : Wire.decoded bytes = .ok (.command frame) := Wire.decoded_of_encode hencode
      refine .inr ⟨bytes, not_not.mp hclient, hdecoded, ?_⟩
      dsimp only
      rcases sink.send transport ⟨(), bridge.config.serverId, bytes⟩ with ⟨error | _, transport'⟩
      · exact ⟨_, _, rfl, rfl, by simp⟩
      · exact ⟨_, _, rfl, rfl, by simp⟩

/-! ## Processing -/

/-- An acknowledgement of a report says what the report says. -/
def GatewayCommandPipelineReport.Acks (report : GatewayCommandPipelineReport) (frame : CommandFrame)
    (now : Tick) : Prop :=
  ∀ bytes, report.ackBytes = some bytes → Wire.decoded bytes
    = .ok (.commandAck ⟨frame.clientId, frame.commandId, now, report.accepted, report.reasonCode⟩)

namespace GatewayCommandPipeline

variable (pipeline : GatewayCommandPipeline)

lemma acks_rejectedReport (frame : CommandFrame) (stationId : Option StationId) (now : Tick)
    (reasonCode : UInt16) (error : GatewayCommandPipelineError) :
    (pipeline.rejectedReport frame.clientId frame.commandId stationId now reasonCode error).1.Acks
      frame now := by
  obtain ⟨bytes, inner, hack, -, hdecoded⟩ := GatewayDispatchPipeline.encodeAck_decodes pipeline
    ⟨frame.clientId, frame.commandId, now, false, reasonCode⟩
  intro bytes' hbytes
  rw [rejectedReport] at hbytes ⊢
  split_ifs at hbytes ⊢ with hacks
  · simp only [hack, Option.some.injEq] at hbytes ⊢
    rw [← hbytes]
    exact hdecoded

/-- The report of a command that is queued. -/
lemma acceptedReport_spec (frame : CommandFrame) (stationId : StationId) (now : Tick) :
    let report := (pipeline.acceptedReport frame.clientId frame.commandId stationId now).1
    report.accepted = true ∧ report.stationId = some stationId ∧ report.Acks frame now := by
  obtain ⟨bytes, inner, hack, -, hdecoded⟩ := GatewayDispatchPipeline.encodeAck_decodes pipeline
    ⟨frame.clientId, frame.commandId, now, true, GATEWAY_COMMAND_ACK_ACCEPTED⟩
  simp only [acceptedReport, hack]
  refine ⟨trivial, trivial, fun bytes' hbytes => ?_⟩
  obtain rfl := Option.some.inj hbytes
  exact hdecoded

/-- What processing a command does: the gateway does not admit it, the queues do not take it, or it
is in the queues of the station of its session. -/
inductive Processes (gateway : GatewaySessionTable) (stationQueues : StationQueues)
    (frame : CommandFrame) (now : Tick) (ingress : CommandIngress)
    (outcome : GatewayPipelineOutcome) : Prop
  | unadmitted {error : GatewayError}
      (hgateway : gateway.admitSequence frame.clientId frame.sequence now
        = (.error error, outcome.gateway))
      (hqueues : ∀ id, outcome.stationQueues.lookup id = stationQueues.lookup id)
      (hrefused : outcome.report.accepted = false)
  | unqueued {admission : GatewayCommandAdmission}
      (hgateway : gateway.admitSequence frame.clientId frame.sequence now
        = (.ok admission, outcome.gateway))
      (hqueues : ∀ id, outcome.stationQueues.lookup id = stationQueues.lookup id)
      (hrefused : outcome.report.accepted = false)
  | queued {admission : GatewayCommandAdmission} {queue queue' : CommandQueues CommandEnvelope}
      {pushed : CommandPushOutcome}
      (hgateway : gateway.admitSequence frame.clientId frame.sequence now
        = (.ok admission, outcome.gateway))
      (hqueue : stationQueues.lookup admission.route.stationId = some queue)
      (hpush : queue.push (frame.intoEnvelope now) ingress = (.ok pushed, queue'))
      (hqueues : outcome.stationQueues = stationQueues.insert admission.route.stationId queue')
      (haccepted : outcome.report.accepted = true)
      (hstation : outcome.report.stationId = some admission.route.stationId)

/-- **What the pipeline does with a command.** -/
lemma processes (gateway : GatewaySessionTable) (stationQueues : StationQueues)
    (frame : CommandFrame) (now : Tick) (ingress : CommandIngress) :
    Processes gateway stationQueues frame now ingress
        (pipeline.processCommandFrame gateway stationQueues frame now ingress)
      ∧ (pipeline.processCommandFrame gateway stationQueues frame now ingress).report.Acks frame
        now := by
  rw [processCommandFrame]
  rcases hadmission : gateway.admitSequence frame.clientId frame.sequence now with
    ⟨error | admission, gateway'⟩
  · simp only [CommandFrame.intoEnvelope, hadmission]
    exact ⟨.unadmitted hadmission (fun _ => rfl) (rejectedReport_accepted _ _ _ _ _ _ _),
      acks_rejectedReport _ frame _ _ _ _⟩
  · simp only [CommandFrame.intoEnvelope, hadmission]
    cases hqueue : stationQueues.lookup admission.route.stationId with
    | none =>
        exact ⟨.unqueued hadmission (fun _ => rfl) (rejectedReport_accepted _ _ _ _ _ _ _),
          acks_rejectedReport _ frame _ _ _ _⟩
    | some queue =>
        dsimp only
        rcases hpush : queue.push (frame.intoEnvelope now) ingress with ⟨error | pushed, queue'⟩
        · have hsame : queue' = queue := by
            rcases queue.push_cases (frame.intoEnvelope now) ingress with
              ⟨_, h⟩ | ⟨-, -, h⟩ | ⟨-, h⟩
            · exact (Prod.mk.inj (hpush.symm.trans h)).2
            · cases hpush.symm.trans h
            · cases hpush.symm.trans h
          rw [CommandFrame.intoEnvelope] at hpush
          simp only [hpush]
          refine ⟨.unqueued hadmission (fun id => ?_) (rejectedReport_accepted _ _ _ _ _ _ _),
            acks_rejectedReport _ frame _ _ _ _⟩
          dsimp only
          rw [Finmap.lookup_insert_eq, hsame]
          split_ifs with hid
          · rw [hid, hqueue]
          · rfl
        · have hpush' := hpush
          rw [CommandFrame.intoEnvelope] at hpush'
          simp only [hpush']
          obtain ⟨haccepted, hstation, hacks⟩ := acceptedReport_spec
            { pipeline with stats := { pipeline.stats with
              commandsAdmitted := usizeSaturatingAdd pipeline.stats.commandsAdmitted 1
              commandsEnqueued := usizeSaturatingAdd pipeline.stats.commandsEnqueued 1 } }
            frame admission.route.stationId now
          exact ⟨.queued hadmission hqueue hpush rfl haccepted hstation, hacks⟩

end GatewayCommandPipeline

/-! ## Ingress -/

namespace GatewayIngress

variable (client : ClientTransport T Addr E) (state : GatewayIngress T) (now : Tick)
  (ingress : CommandIngress)

/-- What the pipeline makes of the command of a packet. -/
def outcomeOf (packet : InboundPacket Addr) (frame : CommandFrame) : GatewayPipelineOutcome :=
  (state.pipeline.decodeCommandFrame packet.bytes).2.processCommandFrame state.gateway
    state.stationQueues frame now ingress

/-- What a pass of the gateway's bridge leaves: there was no packet, it carried no command of its
source, or the command was processed, and the acknowledgement, if any, was sent. -/
inductive Ingests : GatewayIngress T → Prop
  | idle {transport : T}
      (hidle : ∀ packet, (client.tryRecv state.transport).1 ≠ .ok (some packet))
      (htransport : transport = (client.tryRecv state.transport).2) :
      Ingests { state with transport }
  | refused {packet : InboundPacket Addr} {transport : T}
      (hrecv : client.tryRecv state.transport = (.ok (some packet), transport))
      (hcommand : commandFrom packet = none) (stats : GatewayClientTransportStats)
      (pipeline : GatewayCommandPipeline) :
      Ingests ⟨stats, pipeline, state.gateway, state.stationQueues, transport⟩
  | unanswered {packet : InboundPacket Addr} {transport : T} {frame : CommandFrame}
      {outcome : GatewayPipelineOutcome}
      (hrecv : client.tryRecv state.transport = (.ok (some packet), transport))
      (hcommand : commandFrom packet = some frame)
      (houtcome : outcome = state.outcomeOf now ingress packet frame)
      (hsilent : outcome.report.ackBytes = none) (stats : GatewayClientTransportStats) :
      Ingests ⟨stats, outcome.pipeline, outcome.gateway, outcome.stationQueues, transport⟩
  | answered {packet : InboundPacket Addr} {transport : T} {frame : CommandFrame}
      {outcome : GatewayPipelineOutcome} {bytes : List UInt8}
      (hrecv : client.tryRecv state.transport = (.ok (some packet), transport))
      (hcommand : commandFrom packet = some frame)
      (houtcome : outcome = state.outcomeOf now ingress packet frame)
      (hack : outcome.report.ackBytes = some bytes) (stats : GatewayClientTransportStats) :
      Ingests ⟨stats, outcome.pipeline, outcome.gateway, outcome.stationQueues,
        (client.send transport ⟨(), frame.clientId, bytes⟩).2⟩

/-- A packet is refused, or its command is processed. -/
lemma processIngressPacket_cases {packet : InboundPacket Addr} (hsource : packet.clientId ≠ none) :
    (commandFrom packet = none ∧ ∃ error stats pipeline,
        processIngressPacket (E := E) state packet now ingress
          = some (.error error, ⟨stats, pipeline, state.gateway, state.stationQueues,
            state.transport⟩))
      ∨ ∃ frame stats, commandFrom packet = some frame
        ∧ processIngressPacket (E := E) state packet now ingress
          = some (.ok (frame.clientId, packet.bytes.length,
              (state.outcomeOf now ingress packet frame).report),
            ⟨stats, (state.outcomeOf now ingress packet frame).pipeline,
              (state.outcomeOf now ingress packet frame).gateway,
              (state.outcomeOf now ingress packet frame).stationQueues, state.transport⟩) := by
  obtain ⟨source, hsource⟩ := Option.ne_none_iff_exists'.mp hsource
  simp only [processIngressPacket, commandFrom, outcomeOf,
    GatewayCommandPipeline.decodeCommandFrame]
  rcases Wire.decoded packet.bytes with error | frame
  · exact .inl ⟨rfl, _, _, _, rfl⟩
  · cases frame with
    | command frame =>
        dsimp only
        rw [hsource]
        by_cases hmatch : source = frame.clientId
        · rw [if_pos (congrArg some hmatch), Option.filter_some, if_neg (by simpa using hmatch)]
          exact .inr ⟨frame, _, rfl, rfl⟩
        · rw [if_neg (by simpa using hmatch), Option.filter_some, if_pos (by simpa using hmatch)]
          exact .inl ⟨rfl, _, _, _, rfl⟩
    | _ => exact .inl ⟨rfl, _, _, _, rfl⟩

/-- **What a pass does.**  It never panics when all packets have a source. -/
lemma exists_ingests
    {state : GatewayIngress T}
    (hsourced : ∀ packet, (client.tryRecv state.transport).1 = .ok (some packet) →
      packet.clientId ≠ none) (pump : GatewayClientTransportPump) :
    ∃ pass, ingressPass client now ingress state pump = some pass
      ∧ Ingests client state now ingress pass.kept := by
  rcases hrecv : client.tryRecv state.transport with ⟨error | _ | packet, transport⟩
  · refine ⟨.fail (.transport error) { state with transport }, ?_, .idle ?_ (by rw [hrecv])⟩
    · simp only [ingressPass, hrecv]
    · simp [hrecv]
  · refine ⟨.leave { state with transport } pump, ?_, .idle ?_ (by rw [hrecv])⟩
    · simp only [ingressPass, hrecv]
    · simp [hrecv]
  · have hsource := hsourced packet (by rw [hrecv])
    rcases processIngressPacket_cases (E := E) { state with transport } now ingress hsource with
      ⟨hcommand, error, stats, pipeline, hprocess⟩ |
        ⟨frame, stats, hcommand, hprocess⟩
    · refine ⟨.fail error ⟨stats, pipeline, state.gateway, state.stationQueues, transport⟩, ?_,
        .refused hrecv hcommand stats pipeline⟩
      simp only [ingressPass, hrecv, hprocess]
    · obtain ⟨outcome, houtcome⟩ : ∃ outcome, outcome = state.outcomeOf now ingress packet frame :=
        ⟨_, rfl⟩
      have hsame : outcomeOf { state with transport } now ingress packet frame = outcome :=
        houtcome.symm
      rw [hsame] at hprocess
      simp only [ingressPass, hrecv, hprocess]
      cases hack : outcome.report.ackBytes with
      | none => exact ⟨_, rfl, .unanswered hrecv hcommand houtcome hack stats⟩
      | some bytes =>
          have hanswered : ∀ stats, Ingests client state now ingress
              ⟨stats, outcome.pipeline, outcome.gateway, outcome.stationQueues,
                (client.send transport ⟨(), frame.clientId, bytes⟩).2⟩ :=
            fun stats => .answered hrecv hcommand houtcome hack stats
          dsimp only
          rcases hsend : client.send transport ⟨(), frame.clientId, bytes⟩ with
            ⟨error | _, transport'⟩
          · rw [hsend] at hanswered
            exact ⟨_, rfl, hanswered _⟩
          · rw [hsend] at hanswered
            exact ⟨_, rfl, hanswered _⟩

/-- Empty calls are summarized by empty counters. -/
lemma summarizes_default : Summarizes .default .default :=
  ⟨rfl, rfl, by simp [GatewayClientTransportSummary.default, GatewayClientTransportPump.default,
    GatewayClientTransportPump.commandsAccepted], by simp [GatewayClientTransportSummary.default,
    GatewayClientTransportPump.default, GatewayClientTransportPump.commandsRejected], rfl, rfl⟩

end GatewayIngress

/-! ## The way back -/

namespace ClientTransportBridge

variable (bridge : ClientTransportBridge) {packet : InboundPacket Addr}

/-- The check of the target changes the statistics only. -/
lemma config_validateClientTarget (kind : ClientInboundFrameKind)
    (actual : ClientId) :
    (bridge.validateClientTarget (E := E) kind actual).2.config = bridge.config := by
  rw [validateClientTarget]
  split_ifs <;> rfl

lemma visitReplication_acks (fails : ClientInboundFrameRef → Bool)
    (w : List ClientInboundFrameRef) (report : ClientTransportVisitReport)
    {ref : ReplicationFrameRef} {frame : ReplicationFrame} (hvalidated : ref.Validated)
    (htoOwned : ref.toOwned = some frame) :
    ∃ result bridge' w', visitReplication (E := E) (failingRecorder fails) bridge w report ref
        = some (result, bridge', w')
      ∧ bridge'.config = bridge.config
      ∧ w'.filterMap ClientInboundFrameRef.commandAck?
        = w.filterMap ClientInboundFrameRef.commandAck? := by
  have hconfig := bridge.config_validateClientTarget (E := E) .replication ref.clientId
  rw [visitReplication]
  rcases hcheck : bridge.validateClientTarget (E := E) .replication ref.clientId with
    ⟨error | _, checked⟩
  · rw [hcheck] at hconfig
    exact ⟨_, _, _, rfl, hconfig, rfl⟩
  · rw [hcheck] at hconfig
    simp only [hvalidated.componentCount_eq htoOwned, Visitor.call, failingRecorder]
    cases fails (.replication ref) with
    | true => exact ⟨_, _, _, rfl, hconfig, filterMap_concat_none rfl⟩
    | false => exact ⟨_, _, _, rfl, hconfig, filterMap_concat_none rfl⟩

lemma visitFrame_acks (fails : ClientInboundFrameRef → Bool) (w : List ClientInboundFrameRef)
    (report : ClientTransportVisitReport) (frame : RuntimeFrame)
    (hack : ∀ ack, frame = .commandAck ack → ack.clientId = bridge.config.clientId) :
    ∃ result bridge' w', visitFrame (E := E) (failingRecorder fails) bridge w report frame
        = (result, bridge', w')
      ∧ bridge'.config = bridge.config
      ∧ w'.filterMap ClientInboundFrameRef.commandAck?
        = w.filterMap ClientInboundFrameRef.commandAck?
          ++ match frame with
            | .commandAck ack => [ack]
            | _ => [] := by
  cases frame with
  | commandAck ack =>
      have htarget : bridge.validateClientTarget (E := E) .commandAck ack.clientId
          = (.ok (), bridge) := by rw [validateClientTarget, if_pos (hack ack rfl)]
      simp only [visitFrame, htarget, Visitor.call, failingRecorder]
      have hshown : (w ++ [ClientInboundFrameRef.commandAck ack]).filterMap ClientInboundFrameRef.commandAck?
          = w.filterMap ClientInboundFrameRef.commandAck? ++ [ack] := List.filterMap_append
      cases fails (.commandAck ack) with
      | true => exact ⟨_, _, _, rfl, rfl, hshown⟩
      | false => exact ⟨_, _, _, rfl, rfl, hshown⟩
  | barrier frame =>
      have hconfig := bridge.config_validateClientTarget (E := E) .barrier frame.clientId
      simp only [visitFrame, List.append_nil]
      rcases hcheck : bridge.validateClientTarget (E := E) .barrier frame.clientId with
        ⟨error | _, checked⟩
      · rw [hcheck] at hconfig
        exact ⟨_, _, _, rfl, hconfig, rfl⟩
      · rw [hcheck] at hconfig
        simp only [Visitor.call, failingRecorder]
        cases fails (.barrier frame) with
        | true => exact ⟨_, _, _, rfl, hconfig, filterMap_concat_none rfl⟩
        | false => exact ⟨_, _, _, rfl, hconfig, filterMap_concat_none rfl⟩
  | replication | command | commandDispatch | stationEvent =>
      exact ⟨_, _, _, rfl, rfl, (List.append_nil _).symm⟩

variable {bridge}

/-- **The way back.**  Of the acknowledgements a client is shown those that come from the server it
expects, whether its visitor fails or not. -/
lemma visitPacket_acks {server : ClientId} (hsource : bridge.config.expectedSource = some server)
    (hack : ∀ ack, ackFrom server packet = some ack → ack.clientId = bridge.config.clientId)
    (fails : ClientInboundFrameRef → Bool) (w : List ClientInboundFrameRef)
    (report : ClientTransportVisitReport) :
    ∃ result bridge' w', visitPacket (E := E) (failingRecorder fails) bridge w report packet
        = some (result, bridge', w')
      ∧ bridge'.config = bridge.config
      ∧ w'.filterMap ClientInboundFrameRef.commandAck?
        = w.filterMap ClientInboundFrameRef.commandAck? ++ (ackFrom server packet).toList := by
  by_cases hserver : packet.clientId = some server
  · have hmatch : sourceMismatch bridge.config.expectedSource packet.clientId = none := by
      rw [hsource, sourceMismatch, Option.filter_some]
      simp [hserver]
    rcases reads packet.bytes with ⟨href, howned⟩ | ⟨href, htoOwned, howned⟩ |
      ⟨hother, hhead, href, howned⟩
    · simp only [visitPacket, hmatch, href, ackFrom, howned]
      exact ⟨_, _, _, rfl, rfl, (List.append_nil _).symm⟩
    · simp only [visitPacket, hmatch, href, ackFrom, howned]
      obtain ⟨result, bridge', w', hvisit, hconfig, hacks⟩ :=
        visitReplication_acks (E := E) ⟨bridge.config, _⟩ fails w _
          (Wire.validated_of_decodeReplication href) htoOwned
      exact ⟨result, bridge', w', hvisit, hconfig, hacks.trans (List.append_nil _).symm⟩
    · simp only [visitPacket, hmatch, href, ackFrom]
      rcases hdecoded : Wire.decoded packet.bytes with error | frame
      · exact ⟨_, _, _, rfl, rfl, (List.append_nil _).symm⟩
      · have hframe : ∀ ack, frame = .commandAck ack → ack.clientId = bridge.config.clientId := by
          rintro ack rfl
          refine hack ack ?_
          rw [ackFrom, hdecoded]
          exact if_pos hserver
        obtain ⟨result, bridge', w', hvisit, hconfig, hacks⟩ := visitFrame_acks (E := E)
          ⟨bridge.config, { bridge.stats with
            packetsReceived := usizeSaturatingAdd bridge.stats.packetsReceived 1
            bytesReceived := usizeSaturatingAdd bridge.stats.bytesReceived packet.bytes.length }⟩
          fails w
          { report with
            packetsReceived := usizeSaturatingAdd report.packetsReceived 1
            bytesReceived := usizeSaturatingAdd report.bytesReceived packet.bytes.length }
          frame hframe
        refine ⟨result, bridge', w', congrArg some hvisit, hconfig, hacks.trans ?_⟩
        cases frame with
        | commandAck ack => simp [hserver]
        | _ => rfl
  · have hmismatch : sourceMismatch bridge.config.expectedSource packet.clientId = some server := by
      rw [hsource, sourceMismatch, Option.filter_some]
      simp [hserver]
    have hnone : ackFrom server packet = none := by
      rw [ackFrom]
      split
      · exact if_neg hserver
      · rfl
    simp only [visitPacket, hmismatch, hnone]
    exact ⟨_, _, _, rfl, rfl, (List.append_nil _).symm⟩

end ClientTransportBridge

end SectorSync
