import SectorSync.Base.BoundedLoop
import SectorSync.Runtime.CommandPipeline
import SectorSync.Runtime.ReceivePumps

/-!
# The gateway's client transport

`GatewayClientTransportBridge` takes command packets from a client transport, runs them through the
gateway pipeline and answers over the same transport.  It does so in two loops: `pumpIngress`
returns the report of every command, and `pumpIngressCompact` counts them.

`pump_ingress_agree` says that the two leave the same behind, over any transport and hence with the
same packets sent, and that they return the same counters or the same error.
-/

namespace SectorSync

open BoundedLoop

variable {T Addr E : Type}

/-- Gateway-side client command transport bridge statistics. -/
structure GatewayClientTransportStats where
  packetsReceived : ℕ
  bytesReceived : ℕ
  /-- Command frames decoded from client packets. -/
  commandFramesReceived : ℕ
  /-- Packets rejected because transport source and command client differed. -/
  sourceMismatches : ℕ
  commandsAccepted : ℕ
  commandsRejected : ℕ
  /-- Command ACK frames submitted to client transport. -/
  acksSent : ℕ
  ackBytesSent : ℕ
  deriving DecidableEq

/-- Result of pumping gateway-side client command packets. -/
structure GatewayClientTransportPump where
  packetsReceived : ℕ
  bytesReceived : ℕ
  /-- Gateway pipeline reports produced from accepted or rejected commands. -/
  reports : List GatewayCommandPipelineReport
  acksSent : ℕ
  ackBytesSent : ℕ
  deriving DecidableEq

namespace GatewayClientTransportPump

/-- The pump of a call that has received nothing. -/
def default : GatewayClientTransportPump := ⟨0, 0, [], 0, 0⟩

/-- Returns accepted command count. -/
def commandsAccepted (pump : GatewayClientTransportPump) : ℕ :=
  (pump.reports.filter fun report => report.accepted).length

/-- Returns rejected command count. -/
def commandsRejected (pump : GatewayClientTransportPump) : ℕ :=
  (pump.reports.filter fun report => !report.accepted).length

end GatewayClientTransportPump

/-- Compact result of pumping gateway commands without retaining per-command reports. -/
structure GatewayClientTransportSummary where
  packetsReceived : ℕ
  bytesReceived : ℕ
  commandsAccepted : ℕ
  commandsRejected : ℕ
  acksSent : ℕ
  ackBytesSent : ℕ
  deriving DecidableEq

/-- The summary of a call that has received nothing. -/
def GatewayClientTransportSummary.default : GatewayClientTransportSummary := ⟨0, 0, 0, 0, 0, 0⟩

/-- Error produced while pumping gateway-side client command packets. -/
inductive GatewayClientTransportError (E : Type) where
  /-- Underlying client transport failed while receiving or sending acknowledgements. -/
  | transport (error : E)
  | decode (error : BinaryDecodeError)
  /-- Packet decoded as a non-command frame. -/
  | nonCommandFrame
  /-- Transport source client and command frame client disagreed. -/
  | sourceMismatch (packetClientId frameClientId : ClientId)
  deriving DecidableEq

/-- A client transport that receives and sends, with state `T`. -/
structure ClientTransport (T Addr E : Type) extends
  TransportReceiver T Addr E, TransportSink T OutboundPacket E

/-- What a call changes: the bridge, by its statistics, and what it is given. -/
structure GatewayIngress (T : Type) where
  stats : GatewayClientTransportStats
  pipeline : GatewayCommandPipeline
  gateway : GatewaySessionTable
  stationQueues : StationQueues
  transport : T

namespace GatewayIngress

/-- Counts a submitted acknowledgement. -/
def countAck (state : GatewayIngress T) (ackLen : ℕ) : GatewayIngress T :=
  { state with stats := { state.stats with
      acksSent := usizeSaturatingAdd state.stats.acksSent 1
      ackBytesSent := usizeSaturatingAdd state.stats.ackBytesSent ackLen } }

/-- `process_ingress_packet`; `none` is its `unreachable!`. -/
def processIngressPacket (state : GatewayIngress T) (packet : InboundPacket Addr) (now : Tick)
    (ingress : CommandIngress) :
    Option (Except (GatewayClientTransportError E)
        (ClientId × ℕ × GatewayCommandPipelineReport)
      × GatewayIngress T) :=
  let packetBytes := packet.bytes.length
  let stats := { state.stats with
    packetsReceived := usizeSaturatingAdd state.stats.packetsReceived 1
    bytesReceived := usizeSaturatingAdd state.stats.bytesReceived packetBytes }
  match state.pipeline.decodeCommandFrame packet.bytes with
  | (.error (.decode error), pipeline) =>
      some (.error (.decode error), { state with stats, pipeline })
  | (.error .nonCommandFrame, pipeline) =>
      some (.error .nonCommandFrame, { state with stats, pipeline })
  | (.error _, _) => none
  | (.ok commandFrame, pipeline) =>
      let stats := { stats with
        commandFramesReceived := usizeSaturatingAdd stats.commandFramesReceived 1 }
      match packet.clientId.filter fun packetClientId => packetClientId ≠ commandFrame.clientId with
      | some packetClientId =>
          let stats := { stats with
            sourceMismatches := usizeSaturatingAdd stats.sourceMismatches 1 }
          some (.error (.sourceMismatch packetClientId commandFrame.clientId),
            { state with stats, pipeline })
      | none =>
          let ackClientId := commandFrame.clientId
          let outcome := pipeline.processCommandFrame state.gateway state.stationQueues
            commandFrame now ingress
          let stats :=
            if outcome.report.accepted then
              { stats with commandsAccepted := usizeSaturatingAdd stats.commandsAccepted 1 }
            else { stats with commandsRejected := usizeSaturatingAdd stats.commandsRejected 1 }
          some (.ok (ackClientId, packetBytes, outcome.report),
            ⟨stats, outcome.pipeline, outcome.gateway, outcome.stationQueues, state.transport⟩)

/-- The decoder of the pipeline has no other errors. -/
lemma exists_processIngressPacket (state : GatewayIngress T) (packet : InboundPacket Addr)
    (now : Tick) (ingress : CommandIngress) :
    ∃ result, processIngressPacket (E := E) state packet now ingress = some result := by
  have hcommand : ∀ frame pipeline, state.pipeline.decodeCommandFrame packet.bytes
      = (.ok frame, pipeline) →
      ∃ result, processIngressPacket (E := E) state packet now ingress = some result := by
    intro frame pipeline hdecode
    simp only [processIngressPacket, hdecode]
    cases packet.clientId.filter fun packetClientId => packetClientId ≠ frame.clientId with
    | none => exact ⟨_, rfl⟩
    | some packetClientId => exact ⟨_, rfl⟩
  cases hdecoded : Wire.decoded packet.bytes with
  | error error =>
      simp only [processIngressPacket, GatewayCommandPipeline.decodeCommandFrame, hdecoded]
      exact ⟨_, rfl⟩
  | ok frame =>
      cases frame with
      | command frame =>
          obtain ⟨pipeline, hdecode⟩ : ∃ pipeline,
              state.pipeline.decodeCommandFrame packet.bytes = (.ok frame, pipeline) := by
            simp only [GatewayCommandPipeline.decodeCommandFrame, hdecoded]
            exact ⟨_, rfl⟩
          exact hcommand frame pipeline hdecode
      | _ =>
          simp only [processIngressPacket, GatewayCommandPipeline.decodeCommandFrame, hdecoded]
          exact ⟨_, rfl⟩

section Loops

variable (client : ClientTransport T Addr E) (now : Tick) (ingress : CommandIngress)

/-- The body of the loop of `pump_ingress`. -/
def ingressPass (state : GatewayIngress T) (pump : GatewayClientTransportPump) :
    Option (Pass (GatewayClientTransportError E) (GatewayIngress T) GatewayClientTransportPump) :=
  match client.tryRecv state.transport with
  | (.error error, transport) => some (.fail (.transport error) { state with transport })
  | (.ok none, transport) => some (.leave { state with transport } pump)
  | (.ok (some packet), transport) =>
      match processIngressPacket { state with transport } packet now ingress with
      | none => none
      | some (.error error, state) => some (.fail error state)
      | some (.ok (ackClientId, packetBytes, report), state) =>
          let pump := { pump with
            packetsReceived := usizeSaturatingAdd pump.packetsReceived 1
            bytesReceived := usizeSaturatingAdd pump.bytesReceived packetBytes }
          match report.ackBytes with
          | none => some (.next state { pump with reports := pump.reports ++ [report] })
          | some bytes =>
              let ackLen := bytes.length
              match client.send state.transport ⟨(), ackClientId, bytes⟩ with
              | (.error error, transport) =>
                  some (.fail (.transport error) { state with transport })
              | (.ok (), transport) =>
                  let pump := { pump with
                    acksSent := usizeSaturatingAdd pump.acksSent 1
                    ackBytesSent := usizeSaturatingAdd pump.ackBytesSent ackLen }
                  some (.next ({ state with transport }.countAck ackLen)
                    { pump with reports := pump.reports ++ [report] })

/-- The body of the loop of `pump_ingress_compact`. -/
def ingressPassCompact (state : GatewayIngress T) (summary : GatewayClientTransportSummary) :
    Option (Pass (GatewayClientTransportError E) (GatewayIngress T)
      GatewayClientTransportSummary) :=
  match client.tryRecv state.transport with
  | (.error error, transport) => some (.fail (.transport error) { state with transport })
  | (.ok none, transport) => some (.leave { state with transport } summary)
  | (.ok (some packet), transport) =>
      match processIngressPacket { state with transport } packet now ingress with
      | none => none
      | some (.error error, state) => some (.fail error state)
      | some (.ok (ackClientId, packetBytes, report), state) =>
          let summary := { summary with
            packetsReceived := usizeSaturatingAdd summary.packetsReceived 1
            bytesReceived := usizeSaturatingAdd summary.bytesReceived packetBytes }
          let summary :=
            if report.accepted then
              { summary with commandsAccepted := usizeSaturatingAdd summary.commandsAccepted 1 }
            else
              { summary with commandsRejected := usizeSaturatingAdd summary.commandsRejected 1 }
          match report.ackBytes with
          | none => some (.next state summary)
          | some bytes =>
              let ackLen := bytes.length
              match client.send state.transport ⟨(), ackClientId, bytes⟩ with
              | (.error error, transport) =>
                  some (.fail (.transport error) { state with transport })
              | (.ok (), transport) =>
                  some (.next ({ state with transport }.countAck ackLen) { summary with
                    acksSent := usizeSaturatingAdd summary.acksSent 1
                    ackBytesSent := usizeSaturatingAdd summary.ackBytesSent ackLen })

/-- Pumps up to `maxPackets` client command packets into station queues and sends produced ACKs
back through the same transport. -/
def pumpIngress (maxPackets : ℕ) (state : GatewayIngress T) :
    Option (Except (GatewayClientTransportError E) GatewayClientTransportPump
      × GatewayIngress T) :=
  loopWithin (ingressPass client now ingress) maxPackets state .default

/-- Pumps commands without retaining per-command pipeline reports. -/
def pumpIngressCompact (maxPackets : ℕ) (state : GatewayIngress T) :
    Option (Except (GatewayClientTransportError E) GatewayClientTransportSummary
      × GatewayIngress T) :=
  loopWithin (ingressPassCompact client now ingress) maxPackets state .default

end Loops

/-! ## Agreement -/

/-- The summary has the counters of the pump; a count of its reports is a `usize`. -/
structure Summarizes (pump : GatewayClientTransportPump) (summary : GatewayClientTransportSummary) :
    Prop where
  packetsReceived : summary.packetsReceived = pump.packetsReceived
  bytesReceived : summary.bytesReceived = pump.bytesReceived
  commandsAccepted : summary.commandsAccepted = min pump.commandsAccepted usizeMax
  commandsRejected : summary.commandsRejected = min pump.commandsRejected usizeMax
  acksSent : summary.acksSent = pump.acksSent
  ackBytesSent : summary.ackBytesSent = pump.ackBytesSent

section Agreement

variable {pump : GatewayClientTransportPump} {summary : GatewayClientTransportSummary}

/-- A report kept by the pump and counted by the summary. -/
lemma Summarizes.record (h : Summarizes pump summary) (packetBytes : ℕ)
    (report : GatewayCommandPipelineReport) :
    Summarizes
      { pump with
        packetsReceived := usizeSaturatingAdd pump.packetsReceived 1
        bytesReceived := usizeSaturatingAdd pump.bytesReceived packetBytes
        reports := pump.reports ++ [report] }
      (if report.accepted then
        { summary with
          packetsReceived := usizeSaturatingAdd summary.packetsReceived 1
          bytesReceived := usizeSaturatingAdd summary.bytesReceived packetBytes
          commandsAccepted := usizeSaturatingAdd summary.commandsAccepted 1 }
      else
        { summary with
          packetsReceived := usizeSaturatingAdd summary.packetsReceived 1
          bytesReceived := usizeSaturatingAdd summary.bytesReceived packetBytes
          commandsRejected := usizeSaturatingAdd summary.commandsRejected 1 }) := by
  obtain ⟨hpackets, hbytes, haccepted, hrejected, hacks, hackBytes⟩ := h
  rw [GatewayClientTransportPump.commandsAccepted] at haccepted
  rw [GatewayClientTransportPump.commandsRejected] at hrejected
  have hcount : ∀ n, usizeSaturatingAdd (min n usizeMax) 1 = min (n + 1) usizeMax :=
    fun n => usizeSaturatingAdd_min n 1
  cases hreport : report.accepted with
  | true =>
      constructor <;>
        simp [hpackets, hbytes, haccepted, hrejected, hacks, hackBytes, hreport, hcount,
          GatewayClientTransportPump.commandsAccepted, GatewayClientTransportPump.commandsRejected]
  | false =>
      constructor <;>
        simp [hpackets, hbytes, haccepted, hrejected, hacks, hackBytes, hreport, hcount,
          GatewayClientTransportPump.commandsAccepted, GatewayClientTransportPump.commandsRejected]

/-- One pass of the two loops. -/
lemma ingressPass_alike (client : ClientTransport T Addr E) (now : Tick) (ingress : CommandIngress)
    (state : GatewayIngress T) (h : Summarizes pump summary) :
    ∃ pass pass', ingressPass client now ingress state pump = some pass
      ∧ ingressPassCompact client now ingress state summary = some pass'
      ∧ pass.Alike Summarizes pass' := by
  rcases hrecv : client.tryRecv state.transport with ⟨error | _ | packet, transport⟩
  · simp only [ingressPass, ingressPassCompact, hrecv]
    exact ⟨_, _, rfl, rfl, .fail⟩
  · simp only [ingressPass, ingressPassCompact, hrecv]
    exact ⟨_, _, rfl, rfl, .leave h⟩
  · obtain ⟨⟨error | ⟨ackClientId, packetBytes, report⟩, after⟩, hprocess⟩ :=
      exists_processIngressPacket (E := E) { state with transport } packet now ingress
    · simp only [ingressPass, ingressPassCompact, hrecv, hprocess]
      exact ⟨_, _, rfl, rfl, .fail⟩
    · have hrecord := h.record packetBytes report
      simp only [ingressPass, ingressPassCompact, hrecv, hprocess]
      cases report.ackBytes with
      | none => exact ⟨_, _, rfl, rfl, .next hrecord⟩
      | some bytes =>
          dsimp only
          rcases client.send after.transport ⟨(), ackClientId, bytes⟩ with
            ⟨error | _, transport'⟩
          · exact ⟨_, _, rfl, rfl, .fail⟩
          · refine ⟨_, _, rfl, rfl, .next ?_⟩
            cases hreport : report.accepted with
            | true =>
                rw [hreport, if_pos rfl] at hrecord
                exact { hrecord with
                  acksSent := congrArg (usizeSaturatingAdd · 1) h.acksSent
                  ackBytesSent := congrArg (usizeSaturatingAdd · bytes.length) h.ackBytesSent }
            | false =>
                rw [hreport, if_neg (by decide)] at hrecord
                exact { hrecord with
                  acksSent := congrArg (usizeSaturatingAdd · 1) h.acksSent
                  ackBytesSent := congrArg (usizeSaturatingAdd · bytes.length) h.ackBytesSent }

end Agreement

/-- **The two loops agree.**  Over every transport, from every bridge, pipeline, gateway and set of
queues, the two calls return without a panic, leave the same behind, and return the same error or
the same counters. -/
theorem pump_ingress_agree (client : ClientTransport T Addr E) (now : Tick)
    (ingress : CommandIngress) (maxPackets : ℕ) (state : GatewayIngress T) :
    ∃ result result', pumpIngress client now ingress maxPackets state = some result
      ∧ pumpIngressCompact client now ingress maxPackets state = some result'
      ∧ Alike Summarizes result result' :=
  loopWithin_alike (fun state _ _ h => ingressPass_alike client now ingress state h) maxPackets
    state ⟨rfl, rfl, by simp [GatewayClientTransportSummary.default,
      GatewayClientTransportPump.default, GatewayClientTransportPump.commandsAccepted],
      by simp [GatewayClientTransportSummary.default, GatewayClientTransportPump.default,
        GatewayClientTransportPump.commandsRejected], rfl, rfl⟩

end GatewayIngress

end SectorSync
