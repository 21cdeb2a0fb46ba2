import SectorSync.Core.Command
import SectorSync.Core.Event

/-!
# Wire frames

The frames that cross the network, and the conversions of commands and events to and from them.
-/

namespace SectorSync

/-- Runtime frame kind. -/
inductive FrameKind where
  | replication | commandAck | barrier | command | stationEvent | commandDispatch
  deriving DecidableEq

namespace FrameKind

/-- The discriminant of a frame kind. -/
def toByte : FrameKind → UInt8
  | replication => 0
  | commandAck => 1
  | barrier => 2
  | command => 3
  | stationEvent => 4
  | commandDispatch => 5

/-- Converts a byte into a frame kind. -/
def fromByte (byte : UInt8) : Option FrameKind :=
  match byte with
  | 0 => some replication
  | 1 => some commandAck
  | 2 => some barrier
  | 3 => some command
  | 4 => some stationEvent
  | 5 => some commandDispatch
  | _ => none

end FrameKind

/-- Component delta included in an entity delta. -/
structure ComponentDelta where
  componentId : ComponentId
  version : UInt64
  /-- Runtime-defined flags. -/
  flags : UInt8
  bytes : List UInt8
  deriving DecidableEq

/-- Entity delta included in a replication frame. -/
structure EntityDelta where
  entityId : EntityId
  /-- Owner epoch observed by the sender. -/
  ownerEpoch : OwnerEpoch
  components : List ComponentDelta
  deriving DecidableEq

/-- Replication frame produced per client. -/
structure ReplicationFrame where
  clientId : ClientId
  serverTick : Tick
  /-- Number of entity updates in this frame, as the sender reports it. -/
  entityCount : UInt32
  estimatedPayloadBytes : UInt32
  entities : List EntityDelta
  deriving DecidableEq

/-- Command acknowledgement frame. -/
structure CommandAckFrame where
  clientId : ClientId
  commandId : CommandId
  serverTick : Tick
  /-- Whether the command was accepted by the runtime pipeline. -/
  accepted : Bool
  reasonCode : UInt16
  deriving DecidableEq

/-- Client command ingress frame. -/
structure CommandFrame where
  clientId : ClientId
  commandId : CommandId
  entityId : EntityId
  sequence : UInt64
  kind : UInt32
  priority : CommandPriority
  payload : List UInt8
  deriving DecidableEq

namespace CommandFrame

/-- Converts an ingress frame into a runtime command envelope. -/
def intoEnvelope (frame : CommandFrame) (receivedAt : Tick) : CommandEnvelope where
  id := frame.commandId
  clientId := frame.clientId
  entityId := frame.entityId
  sequence := frame.sequence
  receivedAt := receivedAt
  kind := frame.kind
  priority := frame.priority
  payload := frame.payload

end CommandFrame

/-- Internal gateway-to-station command dispatch frame: it keeps the tick that the gateway stamped.
-/
structure CommandDispatchFrame where
  stationId : StationId
  clientId : ClientId
  commandId : CommandId
  entityId : EntityId
  sequence : UInt64
  receivedAt : Tick
  kind : UInt32
  priority : CommandPriority
  payload : List UInt8
  deriving DecidableEq

namespace CommandDispatchFrame

/-- Converts a stamped command envelope into an internal dispatch frame. -/
def fromEnvelope (stationId : StationId) (envelope : CommandEnvelope) : CommandDispatchFrame where
  stationId := stationId
  clientId := envelope.clientId
  commandId := envelope.id
  entityId := envelope.entityId
  sequence := envelope.sequence
  receivedAt := envelope.receivedAt
  kind := envelope.kind
  priority := envelope.priority
  payload := envelope.payload

/-- Converts an internal dispatch frame back into a command envelope. -/
def intoEnvelope (frame : CommandDispatchFrame) : CommandEnvelope where
  id := frame.commandId
  clientId := frame.clientId
  entityId := frame.entityId
  sequence := frame.sequence
  receivedAt := frame.receivedAt
  kind := frame.kind
  priority := frame.priority
  payload := frame.payload

@[simp] lemma intoEnvelope_fromEnvelope (stationId : StationId) (envelope : CommandEnvelope) :
    (fromEnvelope stationId envelope).intoEnvelope = envelope := rfl

@[simp] lemma fromEnvelope_intoEnvelope (frame : CommandDispatchFrame) :
    fromEnvelope frame.stationId frame.intoEnvelope = frame := rfl

end CommandDispatchFrame

/-- Cross-station event frame. -/
structure StationEventFrame where
  eventId : EventId
  sourceStation : StationId
  targetStation : StationId
  sourceTick : Tick
  targetTick : Tick
  priority : EventPriority
  kind : EventKind
  deriving DecidableEq

namespace StationEventFrame

/-- Converts a runtime station event into a wire frame. -/
def fromEvent (event : StationEvent) : StationEventFrame where
  eventId := event.id
  sourceStation := event.source
  targetStation := event.target
  sourceTick := event.sourceTick
  targetTick := event.targetTick
  priority := event.priority
  kind := event.kind

/-- Converts a wire frame into a runtime station event. -/
def intoEvent (frame : StationEventFrame) : StationEvent where
  id := frame.eventId
  source := frame.sourceStation
  target := frame.targetStation
  sourceTick := frame.sourceTick
  targetTick := frame.targetTick
  priority := frame.priority
  kind := frame.kind

@[simp] lemma intoEvent_fromEvent (event : StationEvent) :
    (fromEvent event).intoEvent = event := rfl

end StationEventFrame

/-- Runtime barrier notification frame. -/
structure BarrierFrame where
  clientId : ClientId
  barrierId : BarrierId
  serverTick : Tick
  state : BarrierState
  deriving DecidableEq

/-- Decoded runtime frame. -/
inductive RuntimeFrame where
  | replication (frame : ReplicationFrame)
  | command (frame : CommandFrame)
  | commandDispatch (frame : CommandDispatchFrame)
  | commandAck (frame : CommandAckFrame)
  | barrier (frame : BarrierFrame)
  | stationEvent (frame : StationEventFrame)
  deriving DecidableEq

end SectorSync
