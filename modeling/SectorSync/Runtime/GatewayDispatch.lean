import SectorSync.Runtime.CommandPipeline
import SectorSync.Runtime.DeploymentRun

/-!
# Dispatching commands to other nodes

`dispatch` is the sibling of `process` for a gateway whose stations are on other nodes: it decodes a
packet and admits its command through the session of the client, as `process` does, and then
resolves the station of the session through the deployment table.  It touches no queue: the stamped
command is part of the report, and the caller sends it on.

The pipeline is the one of `process` with two more counters, and the errors and the report are those
of `process` with the deployment added.  `Dispatches` is what a call can do;
`dispatch_accepted_iff` says, in every deployment table that runs can reach, which packets are
accepted and what is reported of them.
-/

namespace SectorSync

open GatewaySessionTable

/-- Command could not be resolved through deployment metadata. -/
def GATEWAY_COMMAND_ACK_DEPLOYMENT_REJECTED : UInt16 := 7

/-- Error of a dispatch. -/
inductive GatewayDispatchError where
  | pipeline (error : GatewayCommandPipelineError)
  /-- Deployment route metadata rejected command delivery. -/
  | deployment (error : DeploymentError)
  deriving DecidableEq

/-- Result of a dispatch. -/
structure GatewayDispatchReport where
  clientId : Option ClientId
  commandId : Option CommandId
  stationId : Option StationId
  /-- Target node when deployment routing succeeded. -/
  nodeId : Option NodeId
  /-- Resolved deployment delivery route. -/
  delivery : Option GatewayDeliveryRoute
  /-- Stamped command envelope for external dispatch. -/
  command : Option CommandEnvelope
  accepted : Bool
  reasonCode : UInt16
  ackBytes : Option (List UInt8)
  error : Option GatewayDispatchError
  deriving DecidableEq

/-- The report without content. -/
def GatewayDispatchReport.default : GatewayDispatchReport :=
  ⟨none, none, none, none, none, none, false, 0, none, none⟩

/-- A pipeline with the counters of its dispatches. -/
structure GatewayDispatchPipeline where
  pipeline : GatewayCommandPipeline
  /-- Commands resolved to deployment node delivery routes. -/
  commandsRoutedDeployment : ℕ
  /-- Commands rejected by deployment node/station route metadata. -/
  commandsRejectedDeployment : ℕ
  deriving DecidableEq

/-- What a dispatch returns and leaves behind. -/
structure GatewayDispatchOutcome where
  report : GatewayDispatchReport
  pipeline : GatewayDispatchPipeline
  gateway : GatewaySessionTable

namespace GatewayDispatchPipeline

/-- Creates a pipeline. -/
def new (config : GatewayCommandPipelineConfig) : GatewayDispatchPipeline := ⟨.new config, 0, 0⟩

def dispatchReport (pipeline : GatewayDispatchPipeline) (command : CommandEnvelope)
    (delivery : GatewayDeliveryRoute) (now : Tick) :
    GatewayDispatchReport × GatewayDispatchPipeline :=
  let ack : CommandAckFrame :=
    ⟨command.clientId, command.id, now, true, GATEWAY_COMMAND_ACK_ACCEPTED⟩
  match pipeline.pipeline.encodeAck ack with
  | (.ok ackBytes, inner) =>
      ({ clientId := some command.clientId, commandId := some command.id
         stationId := some delivery.stationId, nodeId := some delivery.nodeId
         delivery := some delivery, command := some command
         accepted := true, reasonCode := GATEWAY_COMMAND_ACK_ACCEPTED
         ackBytes := some ackBytes, error := none }, { pipeline with pipeline := inner })
  | (.error error, inner) =>
      ({ clientId := some command.clientId, commandId := some command.id
         stationId := some delivery.stationId, nodeId := some delivery.nodeId
         delivery := some delivery, command := none
         accepted := false, reasonCode := GATEWAY_COMMAND_ACK_ACCEPTED
         ackBytes := none, error := some (.pipeline (.encode error)) },
        { pipeline with pipeline := inner })

def rejectedReport (pipeline : GatewayDispatchPipeline) (clientId : ClientId)
    (commandId : CommandId) (stationId : Option StationId) (now : Tick) (reasonCode : UInt16)
    (error : GatewayDispatchError) : GatewayDispatchReport × GatewayDispatchPipeline :=
  let report : GatewayDispatchReport :=
    { GatewayDispatchReport.default with
      clientId := some clientId, commandId := some commandId, stationId := stationId
      reasonCode := reasonCode, error := some error }
  if pipeline.pipeline.config.ackRejections then
    match pipeline.pipeline.encodeAck ⟨clientId, commandId, now, false, reasonCode⟩ with
    | (.ok bytes, inner) =>
        ({ report with ackBytes := some bytes }, { pipeline with pipeline := inner })
    | (.error encodeError, inner) =>
        ({ report with error := some (.pipeline (.encode encodeError)) },
          { pipeline with pipeline := inner })
  else (report, pipeline)

def dispatchCommandFrame (pipeline : GatewayDispatchPipeline) (gateway : GatewaySessionTable)
    (deployment : DeploymentRouteTable) (commandFrame : CommandFrame) (now : Tick) :
    GatewayDispatchOutcome :=
  let clientId := commandFrame.clientId
  let commandId := commandFrame.commandId
  let command := commandFrame.intoEnvelope now
  let stats := pipeline.pipeline.stats
  -- `admit_command`
  match gateway.admitSequence command.clientId command.sequence command.receivedAt with
  | (.error error, gateway) =>
      let pipeline := { pipeline with pipeline := { pipeline.pipeline with stats := { stats with
        commandsRejectedGateway := usizeSaturatingAdd stats.commandsRejectedGateway 1 } } }
      let (report, pipeline) := pipeline.rejectedReport clientId commandId none now
        (gatewayRejectReasonCode error) (.pipeline (.gateway error))
      ⟨report, pipeline, gateway⟩
  | (.ok admission, gateway) =>
      let pipeline := { pipeline with pipeline := { pipeline.pipeline with stats := { stats with
        commandsAdmitted := usizeSaturatingAdd stats.commandsAdmitted 1 } } }
      match deployment.resolveGatewayRoute admission.route with
      | .error error =>
          let pipeline := { pipeline with
            commandsRejectedDeployment :=
              usizeSaturatingAdd pipeline.commandsRejectedDeployment 1 }
          let (report, pipeline) := pipeline.rejectedReport clientId commandId
            (some admission.route.stationId) now GATEWAY_COMMAND_ACK_DEPLOYMENT_REJECTED
            (.deployment error)
          ⟨report, pipeline, gateway⟩
      | .ok delivery =>
          let pipeline := { pipeline with
            commandsRoutedDeployment :=
              usizeSaturatingAdd pipeline.commandsRoutedDeployment 1 }
          let (report, pipeline) := pipeline.dispatchReport command delivery now
          ⟨report, pipeline, gateway⟩

/-- Decodes and admits one command packet, then resolves a deployment route for external node
dispatch without touching local station queues. -/
def dispatch (pipeline : GatewayDispatchPipeline) (gateway : GatewaySessionTable)
    (deployment : DeploymentRouteTable) (input : List UInt8) (now : Tick) :
    GatewayDispatchOutcome :=
  match pipeline.pipeline.decodeCommandFrame input with
  | (.error error, inner) =>
      ⟨{ GatewayDispatchReport.default with error := some (.pipeline error) },
        { pipeline with pipeline := inner }, gateway⟩
  | (.ok commandFrame, inner) =>
      ({ pipeline with pipeline := inner } : GatewayDispatchPipeline).dispatchCommandFrame gateway
        deployment commandFrame now

/-! ## What a call does -/

variable (pipeline : GatewayDispatchPipeline) (gateway : GatewaySessionTable)
  (deployment : DeploymentRouteTable)

/-- The acknowledgement that a report carries. -/
def ackOf (report : GatewayDispatchReport) : Option CommandAckFrame :=
  report.ackBytes.bind fun bytes =>
    match Wire.decoded bytes with
    | .ok (.commandAck ack) => some ack
    | _ => none

/-- An acknowledgement is always encoded, and decodes to what was encoded. -/
lemma encodeAck_decodes (inner : GatewayCommandPipeline) (ack : CommandAckFrame) :
    ∃ bytes inner', inner.encodeAck ack = (.ok bytes, inner') ∧ inner'.config = inner.config
      ∧ Wire.decoded bytes = .ok (.commandAck ack) := by
  obtain ⟨bytes, inner', hack⟩ := inner.encodeAck_ok ack
  refine ⟨bytes, inner', hack, ?_⟩
  rw [GatewayCommandPipeline.encodeAck] at hack
  rcases hencode : Wire.encodeCommandAck ack [] with ⟨error | _, out⟩
  · rw [hencode] at hack
    cases hack
  · rw [hencode] at hack
    cases hack
    exact ⟨rfl, Wire.decoded_of_encode hencode⟩

/-- A report of a rejection: no command is handed out, and there is an acknowledgement exactly when
these are on. -/
structure Rejects (config : GatewayCommandPipelineConfig) (report : GatewayDispatchReport)
    (frame : CommandFrame) (now : Tick) (reasonCode : UInt16) (error : GatewayDispatchError) :
    Prop where
  refused : report.accepted = false
  withheld : report.command = none ∧ report.delivery = none
  reason : report.reasonCode = reasonCode
  cause : report.error = some error
  acked : ackOf report = if config.ackRejections then
    some ⟨frame.clientId, frame.commandId, now, false, reasonCode⟩ else none

lemma Rejects.refusing {config : GatewayCommandPipelineConfig} {report : GatewayDispatchReport}
    {frame : CommandFrame} {now : Tick} {reasonCode : UInt16} {error : GatewayDispatchError}
    (h : Rejects config report frame now reasonCode error) :
    ∀ ack ∈ ackOf report, ack.accepted = false := by
  intro ack hack
  rw [h.acked] at hack
  split_ifs at hack
  · cases hack
    rfl
  · cases hack

/-- The report of a command that is handed out. -/
structure HandsOut (report : GatewayDispatchReport) (frame : CommandFrame)
    (delivery : GatewayDeliveryRoute) (now : Tick) : Prop where
  taken : report.accepted = true
  stamped : report.command = some (frame.intoEnvelope now)
  routed : report.delivery = some delivery
  station : report.stationId = some delivery.stationId
  node : report.nodeId = some delivery.nodeId
  unfailing : report.error = none
  acked : ackOf report
    = some ⟨frame.clientId, frame.commandId, now, true, GATEWAY_COMMAND_ACK_ACCEPTED⟩

lemma rejects_rejectedReport {config : GatewayCommandPipelineConfig}
    (hconfig : pipeline.pipeline.config = config) (frame : CommandFrame)
    (stationId : Option StationId) (now : Tick) (reasonCode : UInt16)
    (error : GatewayDispatchError) :
    Rejects config
      (pipeline.rejectedReport frame.clientId frame.commandId stationId now reasonCode error).1
      frame now reasonCode error := by
  obtain ⟨bytes, inner, hack, -, hdecoded⟩ := encodeAck_decodes pipeline.pipeline
    ⟨frame.clientId, frame.commandId, now, false, reasonCode⟩
  by_cases hacks : config.ackRejections = true
  · simp only [rejectedReport, hconfig, hacks, if_true, hack]
    exact ⟨rfl, ⟨rfl, rfl⟩, rfl, rfl, by simp [ackOf, hdecoded, hacks]⟩
  · simp only [rejectedReport, hconfig, hacks, if_false, Bool.false_eq_true]
    exact ⟨rfl, ⟨rfl, rfl⟩, rfl, rfl, by simp [ackOf, GatewayDispatchReport.default, hacks]⟩

lemma handsOut_dispatchReport (frame : CommandFrame) (delivery : GatewayDeliveryRoute)
    (now : Tick) :
    HandsOut (pipeline.dispatchReport (frame.intoEnvelope now) delivery now).1 frame delivery
      now := by
  obtain ⟨bytes, inner, hack, -, hdecoded⟩ := encodeAck_decodes pipeline.pipeline
    ⟨frame.clientId, frame.commandId, now, true, GATEWAY_COMMAND_ACK_ACCEPTED⟩
  simp only [dispatchReport, CommandFrame.intoEnvelope, hack]
  exact ⟨rfl, rfl, rfl, rfl, rfl, rfl, by simp [ackOf, hdecoded]⟩

/-- What a dispatch does with a packet. -/
inductive Dispatches (pipeline : GatewayDispatchPipeline) (gateway : GatewaySessionTable)
    (deployment : DeploymentRouteTable) (input : List UInt8) (now : Tick)
    (outcome : GatewayDispatchOutcome) : Prop where
  /-- The packet carries no command. -/
  | undecoded (hinput : ∀ frame, Wire.decoded input ≠ .ok (.command frame))
      (hgateway : outcome.gateway = gateway) (hrefused : outcome.report.accepted = false)
      (hwithheld : outcome.report.command = none ∧ outcome.report.delivery = none)
      (hunacked : ackOf outcome.report = none)
  /-- The session does not admit the command. -/
  | unadmitted {frame : CommandFrame} {error : GatewayError}
      (hinput : Wire.decoded input = .ok (.command frame))
      (hgateway : gateway.admitSequence frame.clientId frame.sequence now
        = (.error error, outcome.gateway))
      (hreport : Rejects pipeline.pipeline.config outcome.report frame now
        (gatewayRejectReasonCode error) (.pipeline (.gateway error)))
  /-- The session admits the command, and its station cannot be reached. -/
  | unreachable {frame : CommandFrame} {admission : GatewayCommandAdmission}
      {error : DeploymentError} (hinput : Wire.decoded input = .ok (.command frame))
      (hgateway : gateway.admitSequence frame.clientId frame.sequence now
        = (.ok admission, outcome.gateway))
      (hroute : deployment.resolveGatewayRoute admission.route = .error error)
      (hreport : Rejects pipeline.pipeline.config outcome.report frame now
        GATEWAY_COMMAND_ACK_DEPLOYMENT_REJECTED (.deployment error))
  /-- The command is handed out. -/
  | handedOut {frame : CommandFrame} {admission : GatewayCommandAdmission}
      {delivery : GatewayDeliveryRoute} (hinput : Wire.decoded input = .ok (.command frame))
      (hgateway : gateway.admitSequence frame.clientId frame.sequence now
        = (.ok admission, outcome.gateway))
      (hroute : deployment.resolveGatewayRoute admission.route = .ok delivery)
      (hreport : HandsOut outcome.report frame delivery now)

/-- **What a dispatch does.** -/
lemma dispatches (input : List UInt8) (now : Tick) :
    Dispatches pipeline gateway deployment input now
      (pipeline.dispatch gateway deployment input now) := by
  rw [dispatch]
  rcases hdecoded : Wire.decoded input with error | frame
  · simp only [GatewayCommandPipeline.decodeCommandFrame, hdecoded]
    exact .undecoded (by simp [hdecoded]) rfl rfl ⟨rfl, rfl⟩ rfl
  · cases frame with
    | command frame =>
        simp only [GatewayCommandPipeline.decodeCommandFrame, hdecoded, dispatchCommandFrame,
          CommandFrame.intoEnvelope]
        rcases hadmission : gateway.admitSequence frame.clientId frame.sequence now with
          ⟨error | admission, gateway'⟩
        · refine .unadmitted hdecoded hadmission ?_
          apply rejects_rejectedReport
          rfl
        · dsimp only
          cases hroute : deployment.resolveGatewayRoute admission.route with
          | error error =>
              refine .unreachable hdecoded hadmission hroute ?_
              apply rejects_rejectedReport
              rfl
          | ok delivery =>
              refine .handedOut hdecoded hadmission hroute ?_
              simp only []
              exact handsOut_dispatchReport _ frame delivery now
    | _ =>
        simp only [GatewayCommandPipeline.decodeCommandFrame, hdecoded]
        exact .undecoded (by simp [hdecoded]) rfl rfl ⟨rfl, rfl⟩ rfl

end GatewayDispatchPipeline

/-! ## The nodes of a deployment -/

namespace DeploymentRouteTable

variable {t t' : DeploymentRouteTable} {op : DeploymentOp}

/-- Every record is filed under the node of its route. -/
def Filed (t : DeploymentRouteTable) : Prop :=
  ∀ nodeId node, t.nodes.lookup nodeId = some node → node.route.nodeId = nodeId

lemma Filed.putNode (h : t.Filed) {nodeId : NodeId} {node : DeploymentNodeRecord}
    (hnode : node.route.nodeId = nodeId) : (t.putNode nodeId node).Filed := by
  intro other record hrecord
  rcases Finmap.lookup_insert_cases hrecord with ⟨rfl, rfl⟩ | ⟨-, hold⟩
  · exact hnode
  · exact h other record hold

lemma Filed.leaveNode (h : t.Filed) (nodeId : NodeId) (stationId : StationId) :
    (t.leaveNode nodeId stationId).Filed := by
  intro other record hrecord
  rw [DeploymentRouteTable.leaveNode, Finmap.lookup_modify] at hrecord
  split_ifs at hrecord with hother
  · obtain ⟨node, hnode, rfl⟩ := Option.map_eq_some_iff.mp hrecord
    exact hother ▸ h nodeId node hnode
  · exact h other record hrecord

lemma Filed.performs {outcome : Except DeploymentError DeploymentReply} (h : t.Filed)
    (hperforms : Performs t op outcome t') : t'.Filed := by
  cases hperforms with
  | refused error => exact h
  | rejected error => exact h
  | answered reply => exact h
  | registered => exact h.putNode rfl
  | @node nodeId node route stats hnode hid => exact h.putNode (hid.trans (h nodeId node hnode))
  | @placed stationId nodeId now node hop hnew hnode => exact h.putNode (h nodeId node hnode)
  | @moved stationId nodeId now node previous stats hprevious hne hnode =>
      exact (h.leaveNode previous.nodeId stationId).putNode (h nodeId node hnode)
  | @unassigned stationId route hop hroute reply => exact h.leaveNode route.nodeId stationId
  | stale now reply =>
      intro other record hrecord
      rw [markStaleOffline, Finmap.lookup_mapValues] at hrecord
      obtain ⟨node, hnode, rfl⟩ := Option.map_eq_some_iff.mp hrecord
      rw [markStale]
      split_ifs
      · exact h other node hnode
      · exact h other node hnode

lemma filed_run (config : DeploymentConfig) (ops : List DeploymentOp) : (run config ops).Filed :=
  Machine.execute_preserves (fun t op h => Filed.performs h (performs t op))
    (fun _ _ hnode => by simp [new] at hnode) ops

lemma consistent_run (config : DeploymentConfig) (ops : List DeploymentOp) :
    Consistent config (run config ops) :=
  Machine.execute_preserves (fun t op h => Consistent.performs h (performs t op))
    (consistent_new config) ops

/-- A station that is on a node that is not offline. -/
def Serves (t : DeploymentRouteTable) (stationId : StationId) (nodeId : NodeId) : Prop :=
  ∃ node, t.nodes.lookup nodeId = some node ∧ stationId ∈ node.stations
    ∧ node.route.state ≠ .offline

lemma Serves.onNode {stationId : StationId} {nodeId : NodeId} (h : t.Serves stationId nodeId) :
    t.OnNode stationId nodeId := by
  obtain ⟨node, hnode, hmem, -⟩ := h
  exact ⟨node, hnode, hmem⟩

/-- A route is resolved exactly when its station is served, and then to the node that serves it. -/
lemma resolveGatewayRoute_iff {config : DeploymentConfig} (hconsistent : Consistent config t)
    (hfiled : t.Filed) (route : GatewayRoute) :
    (∀ delivery, t.resolveGatewayRoute route = .ok delivery →
      delivery.stationId = route.stationId ∧ t.Serves route.stationId delivery.nodeId)
      ∧ (∀ error, t.resolveGatewayRoute route = .error error →
        ∀ nodeId, ¬ t.Serves route.stationId nodeId) := by
  rw [resolveGatewayRoute, stationRoute]
  cases hstation : t.stations.lookup route.stationId with
  | none =>
      constructor
      · exact fun delivery h => by cases h
      · intro error _ nodeId hserves
        obtain ⟨stationRoute, hroute, -⟩ := (hconsistent.agree _ _).mp hserves.onNode
        rw [hstation] at hroute
        cases hroute
  | some stationRoute =>
      have hrouted : t.RoutedTo route.stationId stationRoute.nodeId := ⟨_, hstation, rfl⟩
      obtain ⟨node, hnode, hmem⟩ := (hconsistent.agree _ _).mpr hrouted
      have hid := hfiled stationRoute.nodeId node hnode
      simp only [bind, Except.bind, nodeRoute, hnode]
      split_ifs with hoffline
      · constructor
        · exact fun delivery h => by cases h
        · rintro error - nodeId ⟨other, hother, hmem', hserving⟩
          obtain rfl := (hrouted.unique ((hconsistent.agree _ _).mp ⟨other, hother, hmem'⟩))
          rw [hnode, Option.some.injEq] at hother
          exact hserving (hother ▸ hoffline)
      · constructor
        · rintro delivery ⟨⟩
          exact ⟨rfl, node, hid ▸ hnode, hmem, hoffline⟩
        · exact fun error h => by cases h

end DeploymentRouteTable

/-! ## Which packets are accepted -/

namespace GatewayDispatchPipeline

variable (pipeline : GatewayDispatchPipeline) (gateway : GatewaySessionTable)

/-- The packet carries the command, and its session admits it. -/
structure Admitted (gateway : GatewaySessionTable) (input : List UInt8) (now : Tick)
    (frame : CommandFrame) (session : GatewaySession) : Prop where
  carried : Wire.decoded input = .ok (.command frame)
  held : gateway.session frame.clientId = some session
  admits : Admits gateway.config session frame.sequence now

variable {gateway}

lemma Admitted.of_ok {input : List UInt8} {now : Tick} {frame : CommandFrame}
    {admission : GatewayCommandAdmission} {gateway' : GatewaySessionTable}
    (hinput : Wire.decoded input = .ok (.command frame))
    (hadmission : gateway.admitSequence frame.clientId frame.sequence now
      = (.ok admission, gateway')) :
    ∃ session, Admitted gateway input now frame session ∧ admission.route = session.route
      ∧ gateway'.session frame.clientId = some (withAdmission session frame.sequence now) := by
  rcases gateway.admitSequence_cases frame.clientId frame.sequence now with
    ⟨session, stats, hsession, hadmits, h⟩ | ⟨-, error, stats, h | ⟨a, -, -, h⟩⟩
  · rw [h] at hadmission
    cases hadmission
    exact ⟨session, ⟨hinput, hsession, hadmits⟩, rfl, session_putSession_self hsession _⟩
  · rw [h] at hadmission
    cases hadmission
  · rw [h] at hadmission
    cases hadmission

lemma not_admitted_of_error {input : List UInt8} {now : Tick} {frame frame' : CommandFrame}
    {error : GatewayError} {session : GatewaySession} {gateway' : GatewaySessionTable}
    (hinput : Wire.decoded input = .ok (.command frame))
    (hadmission : gateway.admitSequence frame.clientId frame.sequence now
      = (.error error, gateway')) :
    ¬ Admitted gateway input now frame' session := by
  intro h
  obtain rfl : frame' = frame := by
    have hframe := h.carried
    rw [hinput, Except.ok.injEq, RuntimeFrame.command.injEq] at hframe
    exact hframe.symm
  rcases gateway.admitSequence_cases frame'.clientId frame'.sequence now with
    ⟨a, stats, -, -, hok⟩ | ⟨hnot, -⟩
  · rw [hok] at hadmission
    cases hadmission
  · exact hnot session h.held h.admits

lemma Admitted.unique {input : List UInt8} {now : Tick} {frame frame' : CommandFrame}
    {session session' : GatewaySession} (h : Admitted gateway input now frame session)
    (h' : Admitted gateway input now frame' session') : frame' = frame ∧ session' = session := by
  have hframe := h'.carried
  rw [h.carried, Except.ok.injEq, RuntimeFrame.command.injEq] at hframe
  subst hframe
  have hsession := h'.held
  rw [h.held, Option.some.injEq] at hsession
  exact ⟨rfl, hsession.symm⟩

/-- A command that a session has admitted is not accepted again. -/
lemma refused_of_used (deployment : DeploymentRouteTable) {input : List UInt8} (now : Tick)
    {frame : CommandFrame} {session : GatewaySession}
    (hinput : Wire.decoded input = .ok (.command frame))
    (hsession : gateway.session frame.clientId = some session)
    (hused : session.lastSequence = some frame.sequence) :
    (pipeline.dispatch gateway deployment input now).report.accepted = false := by
  cases dispatches pipeline gateway deployment input now with
  | undecoded _ _ hrefused => exact hrefused
  | unadmitted _ _ hreport => exact hreport.refused
  | unreachable _ _ _ hreport => exact hreport.refused
  | handedOut hinput' hadmission =>
      obtain ⟨session', h, -, -⟩ := Admitted.of_ok hinput' hadmission
      rw [hinput, Except.ok.injEq, RuntimeFrame.command.injEq] at hinput'
      subst hinput'
      have hheld := h.held
      rw [hsession, Option.some.injEq] at hheld
      subst hheld
      exact absurd (h.admits.2.1 frame.sequence hused) (lt_irrefl frame.sequence)

/-- The session that an admitted command leaves behind has used it. -/
lemma used_of_admitted (deployment : DeploymentRouteTable) {input : List UInt8} {now : Tick}
    {frame : CommandFrame} {session : GatewaySession}
    (h : Admitted gateway input now frame session) :
    ∃ session', (pipeline.dispatch gateway deployment input now).gateway.session frame.clientId
        = some session' ∧ session'.lastSequence = some frame.sequence := by
  cases dispatches pipeline gateway deployment input now with
  | undecoded hinput => exact absurd h.carried (hinput frame)
  | unadmitted hinput hadmission => exact absurd h (not_admitted_of_error hinput hadmission)
  | unreachable hinput hadmission | handedOut hinput hadmission =>
      obtain ⟨session', h', -, hsession⟩ := Admitted.of_ok hinput hadmission
      obtain ⟨rfl, -⟩ := h.unique h'
      exact ⟨_, hsession, rfl⟩

/-- A dispatch hands the command out, or there is nothing that it could deliver. -/
lemma dispatch_verdict (gateway : GatewaySessionTable) {config : DeploymentConfig}
    {deployment : DeploymentRouteTable}
    (hconsistent : DeploymentRouteTable.Consistent config deployment) (hfiled : deployment.Filed)
    (input : List UInt8) (now : Tick) :
    let report := (pipeline.dispatch gateway deployment input now).report
    (∃ frame session delivery, Admitted gateway input now frame session
        ∧ deployment.Serves session.stationId delivery.nodeId
        ∧ delivery.stationId = session.stationId ∧ HandsOut report frame delivery now)
      ∨ ((∀ frame session nodeId, Admitted gateway input now frame session →
          ¬ deployment.Serves session.stationId nodeId)
        ∧ report.accepted = false ∧ (report.command = none ∧ report.delivery = none)
        ∧ ∀ ack ∈ ackOf report, ack.accepted = false) := by
  have hserved := DeploymentRouteTable.resolveGatewayRoute_iff hconsistent hfiled
  cases dispatches pipeline gateway deployment input now with
  | undecoded hinput hgateway hrefused hwithheld hunacked =>
      refine .inr ⟨?_, hrefused, hwithheld, by simp [hunacked]⟩
      exact fun frame session nodeId h => absurd h.carried (hinput frame)
  | unadmitted hinput hadmission hreport =>
      refine .inr ⟨?_, hreport.refused, hreport.withheld, hreport.refusing⟩
      exact fun frame session nodeId h => absurd h (not_admitted_of_error hinput hadmission)
  | unreachable hinput hadmission hroute hreport =>
      refine .inr ⟨?_, hreport.refused, hreport.withheld, hreport.refusing⟩
      intro frame session nodeId h
      obtain ⟨session', h', hsame, -⟩ := Admitted.of_ok hinput hadmission
      obtain ⟨rfl, rfl⟩ := h'.unique h
      have hunserved := (hserved _).2 _ hroute nodeId
      rwa [hsame] at hunserved
  | @handedOut frame admission delivery hinput hadmission hroute hreport =>
      obtain ⟨session, h, hsame, -⟩ := Admitted.of_ok hinput hadmission
      obtain ⟨hstation, hserves⟩ := (hserved _).1 _ hroute
      rw [hsame] at hstation hserves
      exact .inl ⟨frame, session, delivery, h, hserves, hstation, hreport⟩

end GatewayDispatchPipeline

end SectorSync
