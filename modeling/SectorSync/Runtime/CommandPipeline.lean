import SectorSync.Core.GatewayAdmission
import SectorSync.Wire.RoundTrip

/-!
# The gateway command pipeline

The pipeline decodes a packet, admits its command through the session of the client, and pushes it
to the queues of the station of the session.  Admission comes first and is not undone: a command
that the queues refuse has used a place in the window of the tick, and its sequence counts as
admitted, so that the same frame is stale from then on (`refused_frame_is_stale`).

`retry_law_iff` says when a negative acknowledgement of the queues leaves the frame good for another
try: it never does, so the law holds exactly where none is sent.
-/

namespace SectorSync

open GatewaySessionTable

/-! ## Reports -/

/-- Accepted command ACK reason code. -/
def GATEWAY_COMMAND_ACK_ACCEPTED : UInt16 := 0
/-- Command was rejected by generic gateway/session state. -/
def GATEWAY_COMMAND_ACK_GATEWAY_REJECTED : UInt16 := 1
/-- Command was rejected by gateway rate limiting. -/
def GATEWAY_COMMAND_ACK_RATE_LIMITED : UInt16 := 2
/-- Command was rejected as stale or replayed. -/
def GATEWAY_COMMAND_ACK_REPLAY_OR_STALE : UInt16 := 3
/-- Command could not be queued because a target station queue was full. -/
def GATEWAY_COMMAND_ACK_QUEUE_FULL : UInt16 := 4
/-- Command was rejected by the station barrier ingress policy. -/
def GATEWAY_COMMAND_ACK_BARRIER_REJECTED : UInt16 := 5
/-- Command route pointed at a station queue that was not registered. -/
def GATEWAY_COMMAND_ACK_MISSING_QUEUE : UInt16 := 6

/-- Gateway command pipeline configuration. -/
structure GatewayCommandPipelineConfig where
  /-- Encode negative ACKs for gateway/queue rejections. -/
  ackRejections : Bool
  deriving DecidableEq

/-- The default configuration. -/
def GatewayCommandPipelineConfig.default : GatewayCommandPipelineConfig := ⟨true⟩

/-- Gateway command pipeline statistics. -/
structure GatewayCommandPipelineStats where
  commandFramesDecoded : ℕ
  framesRejectedDecode : ℕ
  framesRejectedNonCommand : ℕ
  commandsAdmitted : ℕ
  commandsEnqueued : ℕ
  commandsRejectedGateway : ℕ
  /-- Commands rejected by station queue or station queue lookup. -/
  commandsRejectedQueue : ℕ
  acksEncoded : ℕ
  deriving DecidableEq

/-- All counters zero. -/
def GatewayCommandPipelineStats.default : GatewayCommandPipelineStats := ⟨0, 0, 0, 0, 0, 0, 0, 0⟩

/-- Gateway command pipeline error. -/
inductive GatewayCommandPipelineError where
  | decode (error : BinaryDecodeError)
  /-- Frame decoded correctly but was not a command frame. -/
  | nonCommandFrame
  | gateway (error : GatewayError)
  /-- Gateway route pointed at a missing station queue. -/
  | missingQueue (stationId : StationId)
  | queue (error : CommandQueueError)
  | encode (error : BinaryEncodeError)
  deriving DecidableEq

/-- Gateway command pipeline result. -/
structure GatewayCommandPipelineReport where
  clientId : Option ClientId
  commandId : Option CommandId
  /-- Target station when gateway routing succeeded. -/
  stationId : Option StationId
  /-- Whether the command was queued for station application. -/
  accepted : Bool
  /-- ACK reason code. Zero means accepted. -/
  reasonCode : UInt16
  /-- Encoded ACK bytes, when an ACK was produced. -/
  ackBytes : Option (List UInt8)
  error : Option GatewayCommandPipelineError
  deriving DecidableEq

/-- The report without content. -/
def GatewayCommandPipelineReport.default : GatewayCommandPipelineReport :=
  ⟨none, none, none, false, 0, none, none⟩

def gatewayRejectReasonCode : GatewayError → UInt16
  | .replayOrStale _ _ => GATEWAY_COMMAND_ACK_REPLAY_OR_STALE
  | .rateLimited _ _ => GATEWAY_COMMAND_ACK_RATE_LIMITED
  | .missingSession _ | .sessionDisconnected _ _ | .badGeneration _ _ | .capacityFull _ =>
      GATEWAY_COMMAND_ACK_GATEWAY_REJECTED

def queueRejectReasonCode : CommandQueueError → UInt16
  | .queueFull _ => GATEWAY_COMMAND_ACK_QUEUE_FULL
  | .rejectedByBarrier _ => GATEWAY_COMMAND_ACK_BARRIER_REJECTED

/-! ## The pipeline -/

/-- The command queues of the stations. -/
abbrev StationQueues : Type := BTreeMap StationId (CommandQueues CommandEnvelope)

/-- Business-agnostic gateway command frame pipeline. -/
structure GatewayCommandPipeline where
  config : GatewayCommandPipelineConfig
  stats : GatewayCommandPipelineStats
  deriving DecidableEq

/-- What processing a packet returns and leaves behind. -/
structure GatewayPipelineOutcome where
  report : GatewayCommandPipelineReport
  pipeline : GatewayCommandPipeline
  gateway : GatewaySessionTable
  stationQueues : StationQueues

namespace GatewayCommandPipeline

/-- Creates a pipeline. -/
def new (config : GatewayCommandPipelineConfig) : GatewayCommandPipeline := ⟨config, .default⟩

def encodeAck (pipeline : GatewayCommandPipeline) (ack : CommandAckFrame) :
    Except BinaryEncodeError (List UInt8) × GatewayCommandPipeline :=
  match Wire.encodeCommandAck ack [] with
  | (.ok (), out) =>
      (.ok out, { pipeline with stats := { pipeline.stats with
        acksEncoded := usizeSaturatingAdd pipeline.stats.acksEncoded 1 } })
  | (.error error, _) => (.error error, pipeline)

def acceptedReport (pipeline : GatewayCommandPipeline) (clientId : ClientId)
    (commandId : CommandId) (stationId : StationId) (now : Tick) :
    GatewayCommandPipelineReport × GatewayCommandPipeline :=
  let ack : CommandAckFrame := ⟨clientId, commandId, now, true, GATEWAY_COMMAND_ACK_ACCEPTED⟩
  match pipeline.encodeAck ack with
  | (.ok ackBytes, pipeline) =>
      ({ clientId := some clientId, commandId := some commandId, stationId := some stationId
         accepted := true, reasonCode := GATEWAY_COMMAND_ACK_ACCEPTED
         ackBytes := some ackBytes, error := none }, pipeline)
  | (.error error, pipeline) =>
      ({ clientId := some clientId, commandId := some commandId, stationId := some stationId
         accepted := false, reasonCode := GATEWAY_COMMAND_ACK_ACCEPTED
         ackBytes := none, error := some (.encode error) }, pipeline)

def rejectedReport (pipeline : GatewayCommandPipeline) (clientId : ClientId)
    (commandId : CommandId) (stationId : Option StationId) (now : Tick) (reasonCode : UInt16)
    (error : GatewayCommandPipelineError) :
    GatewayCommandPipelineReport × GatewayCommandPipeline :=
  let report : GatewayCommandPipelineReport :=
    { clientId := some clientId, commandId := some commandId, stationId := stationId
      accepted := false, reasonCode := reasonCode, ackBytes := none, error := some error }
  if pipeline.config.ackRejections then
    match pipeline.encodeAck ⟨clientId, commandId, now, false, reasonCode⟩ with
    | (.ok bytes, pipeline) => ({ report with ackBytes := some bytes }, pipeline)
    | (.error encodeError, pipeline) =>
        ({ report with error := some (.encode encodeError) }, pipeline)
  else (report, pipeline)

def decodeCommandFrame (pipeline : GatewayCommandPipeline) (input : List UInt8) :
    Except GatewayCommandPipelineError CommandFrame × GatewayCommandPipeline :=
  match Wire.decoded input with
  | .error error =>
      (.error (.decode error), { pipeline with stats := { pipeline.stats with
        framesRejectedDecode := usizeSaturatingAdd pipeline.stats.framesRejectedDecode 1 } })
  | .ok (.command commandFrame) =>
      (.ok commandFrame, { pipeline with stats := { pipeline.stats with
        commandFramesDecoded := usizeSaturatingAdd pipeline.stats.commandFramesDecoded 1 } })
  | .ok _ =>
      (.error .nonCommandFrame, { pipeline with stats := { pipeline.stats with
        framesRejectedNonCommand :=
          usizeSaturatingAdd pipeline.stats.framesRejectedNonCommand 1 } })

def processCommandFrame (pipeline : GatewayCommandPipeline) (gateway : GatewaySessionTable)
    (stationQueues : StationQueues) (commandFrame : CommandFrame) (now : Tick)
    (ingress : CommandIngress) : GatewayPipelineOutcome :=
  let clientId := commandFrame.clientId
  let commandId := commandFrame.commandId
  let command := commandFrame.intoEnvelope now
  -- `admit_command`
  match gateway.admitSequence command.clientId command.sequence command.receivedAt with
  | (.error error, gateway) =>
      let pipeline := { pipeline with stats := { pipeline.stats with
        commandsRejectedGateway :=
          usizeSaturatingAdd pipeline.stats.commandsRejectedGateway 1 } }
      let (report, pipeline) := pipeline.rejectedReport clientId commandId none now
        (gatewayRejectReasonCode error) (.gateway error)
      ⟨report, pipeline, gateway, stationQueues⟩
  | (.ok admission, gateway) =>
      let pipeline := { pipeline with stats := { pipeline.stats with
        commandsAdmitted := usizeSaturatingAdd pipeline.stats.commandsAdmitted 1 } }
      let stationId := admission.route.stationId
      match stationQueues.lookup stationId with
      | none =>
          let pipeline := { pipeline with stats := { pipeline.stats with
            commandsRejectedQueue :=
              usizeSaturatingAdd pipeline.stats.commandsRejectedQueue 1 } }
          let (report, pipeline) := pipeline.rejectedReport clientId commandId (some stationId) now
            GATEWAY_COMMAND_ACK_MISSING_QUEUE (.missingQueue stationId)
          ⟨report, pipeline, gateway, stationQueues⟩
      | some queue =>
          match queue.push command ingress with
          | (.error error, queue) =>
              let pipeline := { pipeline with stats := { pipeline.stats with
                commandsRejectedQueue :=
                  usizeSaturatingAdd pipeline.stats.commandsRejectedQueue 1 } }
              let (report, pipeline) := pipeline.rejectedReport clientId commandId
                (some stationId) now (queueRejectReasonCode error) (.queue error)
              ⟨report, pipeline, gateway, stationQueues.insert stationId queue⟩
          | (.ok _, queue) =>
              let pipeline := { pipeline with stats := { pipeline.stats with
                commandsEnqueued := usizeSaturatingAdd pipeline.stats.commandsEnqueued 1 } }
              let (report, pipeline) :=
                pipeline.acceptedReport clientId commandId stationId now
              ⟨report, pipeline, gateway, stationQueues.insert stationId queue⟩

/-- Processes one command packet. -/
def process (pipeline : GatewayCommandPipeline) (gateway : GatewaySessionTable)
    (stationQueues : StationQueues) (input : List UInt8) (now : Tick) (ingress : CommandIngress) :
    GatewayPipelineOutcome :=
  match pipeline.decodeCommandFrame input with
  | (.error error, pipeline) =>
      ⟨{ GatewayCommandPipelineReport.default with error := some error }, pipeline, gateway,
        stationQueues⟩
  | (.ok commandFrame, pipeline) =>
      pipeline.processCommandFrame gateway stationQueues commandFrame now ingress

/-! ## What a command goes through -/

variable (pipeline : GatewayCommandPipeline) {gateway : GatewaySessionTable}
  (stationQueues : StationQueues) {frame : CommandFrame} {now : Tick} (ingress : CommandIngress)

/-- An acknowledgement has no payload, so that it is always encoded. -/
lemma encodeAck_ok (ack : CommandAckFrame) :
    ∃ bytes pipeline', pipeline.encodeAck ack = (.ok bytes, pipeline') := by
  have hwrites := (Wire.writes_encodeCommandAck ack).appends trivial []
  simp only [encodeAck, hwrites]
  exact ⟨_, _, rfl⟩

lemma acceptedReport_accepted (clientId : ClientId) (commandId : CommandId)
    (stationId : StationId) (now : Tick) :
    (pipeline.acceptedReport clientId commandId stationId now).1.accepted = true := by
  obtain ⟨bytes, pipeline', hack⟩ := pipeline.encodeAck_ok
    ⟨clientId, commandId, now, true, GATEWAY_COMMAND_ACK_ACCEPTED⟩
  simp only [acceptedReport, hack]

section Rejected

variable (clientId : ClientId) (commandId : CommandId) (stationId : Option StationId) (now : Tick)
  (reasonCode : UInt16) (error : GatewayCommandPipelineError)

/-- A rejection names its error, and carries an acknowledgement when these are on. -/
lemma rejectedReport_eq : ∃ ackBytes,
    (pipeline.rejectedReport clientId commandId stationId now reasonCode error).1
        = ⟨clientId, commandId, stationId, false, reasonCode, ackBytes, some error⟩
      ∧ ackBytes.isSome = pipeline.config.ackRejections := by
  obtain ⟨bytes, pipeline', hack⟩ := pipeline.encodeAck_ok
    ⟨clientId, commandId, now, false, reasonCode⟩
  cases hacks : pipeline.config.ackRejections with
  | true =>
      simp only [rejectedReport, hacks, if_true, hack]
      exact ⟨some bytes, rfl, rfl⟩
  | false =>
      simp only [rejectedReport, hacks, Bool.false_eq_true, if_false]
      exact ⟨none, rfl, rfl⟩

lemma rejectedReport_accepted :
    (pipeline.rejectedReport clientId commandId stationId now reasonCode error).1.accepted
      = false := by
  obtain ⟨ackBytes, h, -⟩ :=
    pipeline.rejectedReport_eq clientId commandId stationId now reasonCode error
  rw [h]

lemma rejectedReport_error :
    (pipeline.rejectedReport clientId commandId stationId now reasonCode error).1.error
      = some error := by
  obtain ⟨ackBytes, h, -⟩ :=
    pipeline.rejectedReport_eq clientId commandId stationId now reasonCode error
  rw [h]

lemma isSome_rejectedReport_ackBytes :
    (pipeline.rejectedReport clientId commandId stationId now reasonCode error).1.ackBytes.isSome
      = pipeline.config.ackRejections := by
  obtain ⟨ackBytes, h, hack⟩ :=
    pipeline.rejectedReport_eq clientId commandId stationId now reasonCode error
  rw [h, hack]

end Rejected

/-- The station of the client has a queue, and the queue takes the frame at the tick. -/
def QueueTakes (gateway : GatewaySessionTable) (stationQueues : StationQueues)
    (frame : CommandFrame) (now : Tick) (ingress : CommandIngress) : Prop :=
  ∃ session queue, gateway.session frame.clientId = some session
    ∧ stationQueues.lookup session.stationId = some queue
    ∧ queue.Accepts (frame.intoEnvelope now) ingress

/-- The gateway admits the frame at the tick. -/
def GatewayAdmits (gateway : GatewaySessionTable) (frame : CommandFrame) (now : Tick) : Prop :=
  ∃ session, gateway.session frame.clientId = some session
    ∧ Admits gateway.config session frame.sequence now

/-- The report is a negative acknowledgement, and the reason is with the queues. -/
structure NacksForQueue (report : GatewayCommandPipelineReport) : Prop where
  rejected : report.accepted = false
  acknowledged : report.ackBytes.isSome = true
  reason : (∃ stationId, report.error = some (.missingQueue stationId))
    ∨ ∃ error, report.error = some (.queue error)

section Takes

variable {stationQueues : StationQueues} {ingress : CommandIngress} {session : GatewaySession}
  (hsession : gateway.session frame.clientId = some session)
include hsession

lemma not_queueTakes (hqueue : stationQueues.lookup session.stationId = none) :
    ¬ QueueTakes gateway stationQueues frame now ingress := by
  rintro ⟨session', queue, hsession', hlookup, -⟩
  rw [hsession] at hsession'
  rw [← Option.some.inj hsession', hqueue] at hlookup
  cases hlookup

lemma queueTakes_iff {queue : CommandQueues CommandEnvelope}
    (hqueue : stationQueues.lookup session.stationId = some queue) :
    QueueTakes gateway stationQueues frame now ingress
      ↔ queue.Accepts (frame.intoEnvelope now) ingress := by
  constructor
  · rintro ⟨session', queue', hsession', hlookup, h⟩
    rw [hsession] at hsession'
    rw [← Option.some.inj hsession', hqueue] at hlookup
    rwa [Option.some.inj hlookup]
  · intro h
    exact ⟨session, queue, hsession, hqueue, h⟩

end Takes

/-- A frame that the gateway does not admit never reaches the queues. -/
lemma processCommandFrame_of_not_admits (hnot : ¬ GatewayAdmits gateway frame now) :
    let result := pipeline.processCommandFrame gateway stationQueues frame now ingress
    result.report.accepted = false
      ∧ ∃ error, result.report.error = some (.gateway error) := by
  have hreject : ∃ error gateway', gateway.admitSequence frame.clientId frame.sequence now
      = (.error error, gateway') := by
    rcases gateway.admitSequence_cases frame.clientId frame.sequence now with
      ⟨a, stats, ha, hadmits, -⟩ | ⟨-, error, stats, h | ⟨a, -, -, h⟩⟩
    · exact absurd ⟨a, ha, hadmits⟩ hnot
    · exact ⟨error, _, h⟩
    · exact ⟨error, _, h⟩
  obtain ⟨error, gateway', hreject⟩ := hreject
  intro result
  simp only [result, processCommandFrame, CommandFrame.intoEnvelope, hreject]
  exact ⟨rejectedReport_accepted _ _ _ _ _ _ _, error, rejectedReport_error _ _ _ _ _ _ _⟩

/-- A frame that the gateway admits is in its queue afterwards, or the queues are the reason of its
rejection.  The session has admitted it in both cases. -/
lemma processCommandFrame_of_admits {session : GatewaySession}
    (hsession : gateway.session frame.clientId = some session)
    (hadmits : Admits gateway.config session frame.sequence now) :
    let result := pipeline.processCommandFrame gateway stationQueues frame now ingress
    (∃ stats, result.gateway = { gateway.putSession frame.clientId
        (withAdmission session frame.sequence now) with stats := stats })
      ∧ (QueueTakes gateway stationQueues frame now ingress → result.report.accepted = true)
      ∧ (¬ QueueTakes gateway stationQueues frame now ingress → result.report.accepted = false
        ∧ result.report.ackBytes.isSome = pipeline.config.ackRejections
        ∧ ((∃ stationId, result.report.error = some (.missingQueue stationId))
          ∨ ∃ error, result.report.error = some (.queue error))) := by
  rcases gateway.admitSequence_cases frame.clientId frame.sequence now with
    ⟨session', stats, hsession', -, hok⟩ | ⟨hnone, -⟩
  swap
  · exact absurd hadmits (hnone session hsession)
  obtain rfl := Option.some.inj (hsession.symm.trans hsession')
  intro result
  cases hqueue : stationQueues.lookup session.stationId with
  | none =>
      have htakes : ¬ QueueTakes gateway stationQueues frame now ingress :=
        not_queueTakes hsession hqueue
      simp only [result, processCommandFrame, CommandFrame.intoEnvelope, hok,
        GatewaySession.route, hqueue]
      exact ⟨⟨stats, rfl⟩, fun h => absurd h htakes,
        fun _ => ⟨rejectedReport_accepted _ _ _ _ _ _ _,
          isSome_rejectedReport_ackBytes _ _ _ _ _ _ _,
          Or.inl ⟨_, rejectedReport_error _ _ _ _ _ _ _⟩⟩⟩
  | some queue =>
      rw [queueTakes_iff hsession hqueue]
      by_cases haccepts : queue.Accepts (frame.intoEnvelope now) ingress
      · obtain ⟨outcome, queue', hpush⟩ := queue.push_of_accepts haccepts
        rw [CommandFrame.intoEnvelope] at hpush
        simp only [result, processCommandFrame, CommandFrame.intoEnvelope, hok,
          GatewaySession.route, hqueue, hpush]
        exact ⟨⟨stats, rfl⟩, fun _ => acceptedReport_accepted _ _ _ _ _,
          fun h => absurd haccepts h⟩
      · obtain ⟨error, hpush⟩ := queue.push_of_not_accepts haccepts
        rw [CommandFrame.intoEnvelope] at hpush
        simp only [result, processCommandFrame, CommandFrame.intoEnvelope, hok,
          GatewaySession.route, hqueue, hpush]
        exact ⟨⟨stats, rfl⟩, fun h => absurd h haccepts,
          fun _ => ⟨rejectedReport_accepted _ _ _ _ _ _ _,
            isSome_rejectedReport_ackBytes _ _ _ _ _ _ _,
            Or.inr ⟨_, rejectedReport_error _ _ _ _ _ _ _⟩⟩⟩

lemma process_of_decoded (gateway : GatewaySessionTable) (now : Tick) {input : List UInt8}
    (hinput : Wire.decoded input = .ok (.command frame)) :
    ∃ stats, pipeline.process gateway stationQueues input now ingress
      = ({ pipeline with stats := stats } : GatewayCommandPipeline).processCommandFrame
        gateway stationQueues frame now ingress := by
  simp only [process, decodeCommandFrame, hinput]
  exact ⟨_, rfl⟩

/-! ## Retries -/

/-- What a refused frame is owed: the same packet is accepted in every later tick in which the
queues take it, and the window of the session counts what it counted before. -/
structure Retryable (gateway : GatewaySessionTable) (result : GatewayPipelineOutcome)
    (input : List UInt8) (frame : CommandFrame) (now : Tick) : Prop where
  again : ∀ later, now < later → ∀ stationQueues' ingress',
    QueueTakes result.gateway stationQueues' frame later ingress' →
    (result.pipeline.process result.gateway stationQueues' input later ingress').report.accepted
      = true
  quota : (result.gateway.session frame.clientId).map (fun session => windowCount session now)
    = (gateway.session frame.clientId).map fun session => windowCount session now

/-- A command that is negatively acknowledged for the queues can be sent again. -/
def RetryLaw (pipeline : GatewayCommandPipeline) (gateway : GatewaySessionTable)
    (stationQueues : StationQueues) (input : List UInt8) (now : Tick) (ingress : CommandIngress) :
    Prop :=
  ∀ frame, Wire.decoded input = .ok (.command frame) →
    NacksForQueue (pipeline.process gateway stationQueues input now ingress).report →
    Retryable gateway (pipeline.process gateway stationQueues input now ingress) input frame now

/-- A negative acknowledgement for the queues is sent exactly when acknowledgements of rejections
are on, the gateway admits the frame and the queues do not take it. -/
lemma nacksForQueue_iff :
    NacksForQueue
        (pipeline.processCommandFrame gateway stationQueues frame now ingress).report
      ↔ pipeline.config.ackRejections = true ∧ GatewayAdmits gateway frame now
        ∧ ¬ QueueTakes gateway stationQueues frame now ingress := by
  by_cases hadmits : GatewayAdmits gateway frame now
  · obtain ⟨session, hsession, hadmits'⟩ := hadmits
    obtain ⟨-, htakes, hrefuses⟩ :=
      pipeline.processCommandFrame_of_admits stationQueues ingress hsession hadmits'
    constructor
    · intro h
      have hnot : ¬ QueueTakes gateway stationQueues frame now ingress := by
        intro hqueue
        rw [h.rejected] at htakes
        cases htakes hqueue
      exact ⟨(hrefuses hnot).2.1.symm.trans h.acknowledged, ⟨session, hsession, hadmits'⟩, hnot⟩
    · rintro ⟨hacks, -, hnot⟩
      obtain ⟨hrejected, hack, hreason⟩ := hrefuses hnot
      exact ⟨hrejected, hack.trans hacks, hreason⟩
  · obtain ⟨-, error, herror⟩ :=
      pipeline.processCommandFrame_of_not_admits stationQueues ingress hadmits
    constructor
    · rintro ⟨-, -, ⟨stationId, hreason⟩ | ⟨error', hreason⟩⟩
      · rw [herror] at hreason
        cases hreason
      · rw [herror] at hreason
        cases hreason
    · rintro ⟨-, h, -⟩
      exact absurd h hadmits

section Admitted

variable {session : GatewaySession} (hsession : gateway.session frame.clientId = some session)
  (hadmits : Admits gateway.config session frame.sequence now)
include hsession hadmits

lemma session_processCommandFrame :
    (pipeline.processCommandFrame gateway stationQueues frame now ingress).gateway.session
        frame.clientId
      = some (withAdmission session frame.sequence now) := by
  obtain ⟨⟨stats, hgateway⟩, -⟩ :=
    pipeline.processCommandFrame_of_admits stationQueues ingress hsession hadmits
  rw [hgateway]
  exact session_putSession_self hsession _

/-- **A frame is stale once it has been admitted**, whatever the queues did with it. -/
theorem refused_frame_is_stale (later : Tick) :
    ¬ GatewayAdmits (pipeline.processCommandFrame gateway stationQueues frame now ingress).gateway
      frame later := by
  rintro ⟨session', hsession', hadmits'⟩
  rw [pipeline.session_processCommandFrame stationQueues ingress hsession hadmits] at hsession'
  obtain rfl := Option.some.inj hsession'
  exact lt_irrefl frame.sequence (hadmits'.2.1 frame.sequence rfl)

/-- An admitted frame uses a place of the window. -/
lemma not_retryable (input : List UInt8) :
    ¬ Retryable gateway (pipeline.processCommandFrame gateway stationQueues frame now ingress)
      input frame now := by
  intro h
  have hquota := h.quota
  rw [pipeline.session_processCommandFrame stationQueues ingress hsession hadmits, hsession]
    at hquota
  have hcount : windowCount (withAdmission session frame.sequence now) now
      = windowCount session now := Option.some.inj hquota
  have hopen : openWindow (withAdmission session frame.sequence now) now
      = withAdmission session frame.sequence now := by
    rw [openWindow, if_neg]
    exact not_not.mpr (commandTick_openWindow session now)
  rw [windowCount, hopen] at hcount
  simp only [withAdmission] at hcount
  omega

end Admitted

/-- **When a refused command can be sent again.**  Admission is not undone when the queues refuse
the command, so the law holds exactly where no acknowledgement of a refusal is sent:
acknowledgements of rejections are off, or the gateway does not admit the frame, or the queue of its
station exists and takes it. -/
theorem retry_law_iff (pipeline : GatewayCommandPipeline) (gateway : GatewaySessionTable)
    (stationQueues : StationQueues) (input : List UInt8) (now : Tick) (ingress : CommandIngress) :
    RetryLaw pipeline gateway stationQueues input now ingress
      ↔ ∀ frame, Wire.decoded input = .ok (.command frame) →
        pipeline.config.ackRejections = true → GatewayAdmits gateway frame now →
        QueueTakes gateway stationQueues frame now ingress := by
  constructor
  · intro hlaw frame hinput hacks hadmits
    by_contra hnot
    have hretry := hlaw frame hinput
    obtain ⟨stats, hprocess⟩ :=
      pipeline.process_of_decoded stationQueues ingress gateway now hinput
    rw [hprocess, nacksForQueue_iff] at hretry
    obtain ⟨session, hsession, hadmits'⟩ := hadmits
    exact not_retryable _ stationQueues ingress hsession hadmits' input
      (hretry ⟨hacks, ⟨session, hsession, hadmits'⟩, hnot⟩)
  · intro hcond frame hinput hnacks
    obtain ⟨stats, hprocess⟩ :=
      pipeline.process_of_decoded stationQueues ingress gateway now hinput
    rw [hprocess, nacksForQueue_iff] at hnacks
    obtain ⟨hacks, hadmits, hnot⟩ := hnacks
    exact absurd (hcond frame hinput hacks hadmits) hnot

/-- Client 7 on station 1. -/
def oneSession : GatewaySessionTable :=
  ((GatewaySessionTable.new ⟨4, 3, 2⟩).connect ⟨7⟩ ⟨1⟩ ⟨10⟩).2

/-- The empty queues of station 1. -/
def oneQueue : StationQueues := (∅ : StationQueues).insert ⟨1⟩ (CommandQueues.new .default)

/-- A command of client 7. -/
def oneCommand : CommandFrame := ⟨⟨7⟩, ⟨1⟩, ⟨3⟩, 1, 0, .normal, []⟩

/-- A command that a barrier rejects is refused again when the barrier is gone. -/
theorem rejected_command_stays_refused :
    ¬ ∀ pipeline gateway stationQueues input now ingress,
      RetryLaw pipeline gateway stationQueues input now ingress := by
  intro h
  have hinput : Wire.decoded (Wire.encodeCommand oneCommand []).2
      = .ok (.command oneCommand) := by decide
  have hsession : oneSession.session oneCommand.clientId
      = some (createSession ⟨7⟩ ⟨1⟩ ⟨10⟩) := by decide
  have hadmits : Admits oneSession.config (createSession ⟨7⟩ ⟨1⟩ ⟨10⟩) oneCommand.sequence
      ⟨11⟩ := by
    refine ⟨rfl, fun last hlast => ?_, by decide⟩
    cases hlast
  have hnot : ¬ QueueTakes oneSession oneQueue oneCommand ⟨11⟩ ⟨.frozen, .reject⟩ := by
    rintro ⟨session, queue, -, -, hqueue⟩
    exact absurd hqueue.1 (by decide)
  have hretry := h (new .default) oneSession oneQueue _ ⟨11⟩ ⟨.frozen, .reject⟩ oneCommand hinput
  obtain ⟨stats, hprocess⟩ :=
    (new .default).process_of_decoded oneQueue ⟨.frozen, .reject⟩ oneSession ⟨11⟩ hinput
  rw [hprocess, nacksForQueue_iff] at hretry
  have htakes : ∀ pipeline : GatewayCommandPipeline, QueueTakes (pipeline.processCommandFrame
      oneSession oneQueue oneCommand ⟨11⟩ ⟨.frozen, .reject⟩).gateway oneQueue oneCommand ⟨12⟩
      .RUNNING := fun pipeline =>
    ⟨_, .new .default, session_processCommandFrame pipeline oneQueue _ hsession hadmits, by decide,
      by unfold CommandQueues.Accepts; decide⟩
  have haccepted := (hretry ⟨rfl, ⟨_, hsession, hadmits⟩, hnot⟩).again ⟨12⟩ (by decide) oneQueue
    .RUNNING (htakes _)
  obtain ⟨stats', hprocess'⟩ := process_of_decoded _ oneQueue .RUNNING _ ⟨12⟩ hinput
  rw [hprocess'] at haccepted
  obtain ⟨hrefused, -⟩ := processCommandFrame_of_not_admits _ oneQueue .RUNNING
    (refused_frame_is_stale _ oneQueue _ hsession hadmits ⟨12⟩)
  rw [hrefused] at haccepted
  cases haccepted

end GatewayCommandPipeline

end SectorSync
