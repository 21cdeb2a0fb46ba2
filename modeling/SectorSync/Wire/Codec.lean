import SectorSync.Base.Codec
import SectorSync.Wire.Frame

/-!
# The binary codec

The encoder and the decoder of `sectorsync-wire`, field by field in the order of the source.  All
words are little-endian.  A list is written after its length and a payload after its length; an
encoder fails when a length does not fit its field, with what it has appended before left in the
buffer.
-/

namespace SectorSync

open Bytes

/-- Binary decode error. -/
inductive BinaryDecodeError where
  /-- Input is empty; no decoder reports it. -/
  | empty
  | unknownFrameKind (kind : UInt8)
  /-- Frame ended before all fields were available. -/
  | truncated (needed available : ℕ)
  | invalidBarrierState (state : UInt8)
  | invalidCommandPriority (priority : UInt8)
  | invalidEventPriority (priority : UInt8)
  | invalidEventKind (kind : UInt8)
  /-- Trailing bytes were present after a complete frame. -/
  | trailingBytes (bytes : ℕ)
  deriving DecidableEq

/-- Binary encode error. -/
inductive BinaryEncodeError where
  /-- A concrete frame budget could not fit the fixed wire header. -/
  | frameBudgetTooSmall (budget required : ℕ)
  /-- A list length exceeded the width of its count. -/
  | tooManyItems (field : String) (actual : ℕ)
  /-- A byte payload exceeded `u32::MAX`. -/
  | payloadTooLarge (field : String) (actual : ℕ)
  deriving DecidableEq

namespace Wire

/-- A part of the decoder. -/
abbrev Decoder (α : Type) : Type := Reader BinaryDecodeError α

/-- A part of the encoder. -/
abbrev Encoder : Type := Bytes.Writer BinaryEncodeError Unit

/-! ## Reading -/

namespace Decoder

/-- The next `len` bytes. -/
def readSlice (len : ℕ) : Decoder (List UInt8) := do
  Reader.require .truncated len
  Reader.next len

def readU8 : Decoder UInt8 := do
  let bytes ← readSlice 1
  return UInt8.ofNat (ofLe bytes)

def readU16 : Decoder UInt16 := do
  let bytes ← readSlice 2
  return UInt16.ofNat (ofLe bytes)

def readU32 : Decoder UInt32 := do
  let bytes ← readSlice 4
  return UInt32.ofNat (ofLe bytes)

def readU64 : Decoder UInt64 := do
  let bytes ← readSlice 8
  return UInt64.ofNat (ofLe bytes)

/-- An identifier around a 64-bit word. -/
def readId64 {kind : IdKind} : Decoder (TypedId kind UInt64) := do
  let raw ← readU64
  return ⟨raw⟩

/-- An identifier around a 32-bit word. -/
def readId32 {kind : IdKind} : Decoder (TypedId kind UInt32) := do
  let raw ← readU32
  return ⟨raw⟩

/-- An identifier around a 16-bit word. -/
def readId16 {kind : IdKind} : Decoder (TypedId kind UInt16) := do
  let raw ← readU16
  return ⟨raw⟩

/-- Bytes after their length. -/
def readPayload : Decoder (List UInt8) := do
  let byteLen ← readU32
  readSlice byteLen.toNat

end Decoder

/-! ## Writing -/

namespace Encoder

def writeU8 (value : UInt8) : Encoder := Writer.extend [value]

def writeU16 (value : UInt16) : Encoder := Writer.extend (toLe 2 value.toNat)

def writeU32 (value : UInt32) : Encoder := Writer.extend (toLe 4 value.toNat)

def writeU64 (value : UInt64) : Encoder := Writer.extend (toLe 8 value.toNat)

def writeLenU16 (field : String) (len : ℕ) : Encoder :=
  if len < 2 ^ 16 then Writer.extend (toLe 2 len) else Writer.fail (.tooManyItems field len)

def writeLenU32 (field : String) (len : ℕ) : Encoder :=
  if len < 2 ^ 32 then Writer.extend (toLe 4 len) else Writer.fail (.tooManyItems field len)

def writeBytes (field : String) (bytes : List UInt8) : Encoder :=
  if bytes.length < 2 ^ 32 then Writer.extend (toLe 4 bytes.length ++ bytes)
  else Writer.fail (.payloadTooLarge field bytes.length)

end Encoder

open Decoder Encoder

/-! ## Enumerations -/

def encodeBarrierState : BarrierState → UInt8
  | .running => 0
  | .requested => 1
  | .waitingTickBoundary => 2
  | .frozen => 3
  | .resuming => 4

def decodeBarrierState (state : UInt8) : Except BinaryDecodeError BarrierState :=
  match state with
  | 0 => .ok .running
  | 1 => .ok .requested
  | 2 => .ok .waitingTickBoundary
  | 3 => .ok .frozen
  | 4 => .ok .resuming
  | _ => .error (.invalidBarrierState state)

def encodeCommandPriority : CommandPriority → UInt8
  | .normal => 0
  | .high => 1
  | .low => 2

def decodeCommandPriority (priority : UInt8) : Except BinaryDecodeError CommandPriority :=
  match priority with
  | 0 => .ok .normal
  | 1 => .ok .high
  | 2 => .ok .low
  | _ => .error (.invalidCommandPriority priority)

def encodeEventPriority : EventPriority → UInt8
  | .critical => 0
  | .important => 1
  | .bestEffort => 2

def decodeEventPriority (priority : UInt8) : Except BinaryDecodeError EventPriority :=
  match priority with
  | 0 => .ok .critical
  | 1 => .ok .important
  | 2 => .ok .bestEffort
  | _ => .error (.invalidEventPriority priority)

def encodeEventKind : EventKind → Encoder
  | .custom kind => do
      writeU8 0
      writeU32 kind
  | .handoffPrepare entityId => do
      writeU8 1
      writeU64 entityId.get
  | .handoffCommit entityId ownerEpoch => do
      writeU8 2
      writeU64 entityId.get
      writeU64 ownerEpoch.get

def decodeEventKind : Decoder EventKind := do
  let kind ← readU8
  match kind with
  | 0 => do
      let custom ← readU32
      return .custom custom
  | 1 => do
      let entityId ← readId64
      return .handoffPrepare entityId
  | 2 => do
      let entityId ← readId64
      let ownerEpoch ← readId64
      return .handoffCommit entityId ownerEpoch
  | kind => Reader.fail (.invalidEventKind kind)

/-! ## Encoding frames -/

def encodeReplication (frame : ReplicationFrame) : Encoder := do
  writeU8 FrameKind.replication.toByte
  writeU64 frame.clientId.get
  writeU64 frame.serverTick.get
  writeU32 frame.entityCount
  writeU32 frame.estimatedPayloadBytes
  writeLenU32 "replication.entities" frame.entities.length
  frame.entities.forM fun entity => do
    writeU64 entity.entityId.get
    writeU64 entity.ownerEpoch.get
    writeLenU16 "replication.entity.components" entity.components.length
    entity.components.forM fun component => do
      writeU16 component.componentId.get
      writeU64 component.version
      writeU8 component.flags
      writeBytes "replication.component.bytes" component.bytes

def encodeCommandAck (frame : CommandAckFrame) : Encoder := do
  writeU8 FrameKind.commandAck.toByte
  writeU64 frame.clientId.get
  writeU64 frame.commandId.get
  writeU64 frame.serverTick.get
  writeU8 (if frame.accepted then 1 else 0)
  writeU16 frame.reasonCode

def encodeCommand (frame : CommandFrame) : Encoder := do
  writeU8 FrameKind.command.toByte
  writeU64 frame.clientId.get
  writeU64 frame.commandId.get
  writeU64 frame.entityId.get
  writeU64 frame.sequence
  writeU32 frame.kind
  writeU8 (encodeCommandPriority frame.priority)
  writeBytes "command.payload" frame.payload

def encodeCommandDispatch (frame : CommandDispatchFrame) : Encoder := do
  writeU8 FrameKind.commandDispatch.toByte
  writeU32 frame.stationId.get
  writeU64 frame.clientId.get
  writeU64 frame.commandId.get
  writeU64 frame.entityId.get
  writeU64 frame.sequence
  writeU64 frame.receivedAt.get
  writeU32 frame.kind
  writeU8 (encodeCommandPriority frame.priority)
  writeBytes "command_dispatch.payload" frame.payload

/-- Encodes a stamped command envelope directly as a dispatch frame. -/
def encodeCommandDispatchEnvelope (stationId : StationId) (envelope : CommandEnvelope) :
    Encoder := do
  writeU8 FrameKind.commandDispatch.toByte
  writeU32 stationId.get
  writeU64 envelope.clientId.get
  writeU64 envelope.id.get
  writeU64 envelope.entityId.get
  writeU64 envelope.sequence
  writeU64 envelope.receivedAt.get
  writeU32 envelope.kind
  writeU8 (encodeCommandPriority envelope.priority)
  writeBytes "command_dispatch.payload" envelope.payload

/-- An envelope is sent as the dispatch frame that it converts to. -/
lemma encodeCommandDispatchEnvelope_eq (stationId : StationId) (envelope : CommandEnvelope) :
    encodeCommandDispatchEnvelope stationId envelope
      = encodeCommandDispatch (.fromEnvelope stationId envelope) := rfl

def encodeStationEvent (frame : StationEventFrame) : Encoder := do
  writeU8 FrameKind.stationEvent.toByte
  writeU64 frame.eventId.get
  writeU32 frame.sourceStation.get
  writeU32 frame.targetStation.get
  writeU64 frame.sourceTick.get
  writeU64 frame.targetTick.get
  writeU8 (encodeEventPriority frame.priority)
  encodeEventKind frame.kind

def encodeBarrier (frame : BarrierFrame) : Encoder := do
  writeU8 FrameKind.barrier.toByte
  writeU64 frame.clientId.get
  writeU64 frame.barrierId.get
  writeU64 frame.serverTick.get
  writeU8 (encodeBarrierState frame.state)

/-- The encode function of a frame's kind. -/
def encode : RuntimeFrame → Encoder
  | .replication frame => encodeReplication frame
  | .command frame => encodeCommand frame
  | .commandDispatch frame => encodeCommandDispatch frame
  | .commandAck frame => encodeCommandAck frame
  | .barrier frame => encodeBarrier frame
  | .stationEvent frame => encodeStationEvent frame

/-! ## Decoding frames -/

/-- A component, whose bytes the source first borrows from the input and then copies. -/
def decodeComponentRef : Decoder ComponentDelta := do
  let componentId ← readId16
  let version ← readU64
  let flags ← readU8
  let bytes ← readPayload
  return { componentId, version, flags, bytes }

/-- The body of the entity loop. -/
def decodeEntity : Decoder EntityDelta := do
  let entityId ← readId64
  let ownerEpoch ← readId64
  let components ← (do
    let encodedComponentCount ← readU16
    decodeComponentRef.times encodedComponentCount.toNat)
  return { entityId, ownerEpoch, components }

def decodeReplicationOwned : Decoder ReplicationFrame := do
  let clientId ← readId64
  let serverTick ← readId64
  let entityCount ← readU32
  let estimatedPayloadBytes ← readU32
  let entities ← (do
    let encodedEntityCount ← readU32
    decodeEntity.times encodedEntityCount.toNat)
  return { clientId, serverTick, entityCount, estimatedPayloadBytes, entities }

/-- The fields of an acknowledgement. -/
def decodeCommandAck : Decoder CommandAckFrame := do
  let clientId ← readId64
  let commandId ← readId64
  let serverTick ← readId64
  let accepted ← readU8
  let reasonCode ← readU16
  return { clientId, commandId, serverTick, accepted := accepted != 0, reasonCode }

/-- The fields of a command. -/
def decodeCommand : Decoder CommandFrame := do
  let clientId ← readId64
  let commandId ← readId64
  let entityId ← readId64
  let sequence ← readU64
  let kind ← readU32
  let priority ← (do Reader.lift (decodeCommandPriority (← readU8)))
  let payload ← readPayload
  return { clientId, commandId, entityId, sequence, kind, priority, payload }

/-- The fields of a command dispatch. -/
def decodeCommandDispatch : Decoder CommandDispatchFrame := do
  let stationId ← readId32
  let clientId ← readId64
  let commandId ← readId64
  let entityId ← readId64
  let sequence ← readU64
  let receivedAt ← readId64
  let kind ← readU32
  let priority ← (do Reader.lift (decodeCommandPriority (← readU8)))
  let payload ← readPayload
  return {
    stationId, clientId, commandId, entityId, sequence, receivedAt, kind, priority, payload }

/-- The fields of a barrier notification. -/
def decodeBarrier : Decoder BarrierFrame := do
  let clientId ← readId64
  let barrierId ← readId64
  let serverTick ← readId64
  let state ← (do Reader.lift (decodeBarrierState (← readU8)))
  return { clientId, barrierId, serverTick, state }

/-- The fields of a station event. -/
def decodeStationEvent : Decoder StationEventFrame := do
  let eventId ← readId64
  let sourceStation ← readId32
  let targetStation ← readId32
  let sourceTick ← readId64
  let targetTick ← readId64
  let priority ← (do Reader.lift (decodeEventPriority (← readU8)))
  let kind ← decodeEventKind
  return { eventId, sourceStation, targetStation, sourceTick, targetTick, priority, kind }

/-- The fields of a frame of the kind. -/
def decodeFrame : FrameKind → Decoder RuntimeFrame
  | .replication => do
      let frame ← decodeReplicationOwned
      return .replication frame
  | .commandAck => do
      let frame ← decodeCommandAck
      return .commandAck frame
  | .command => do
      let frame ← decodeCommand
      return .command frame
  | .commandDispatch => do
      let frame ← decodeCommandDispatch
      return .commandDispatch frame
  | .barrier => do
      let frame ← decodeBarrier
      return .barrier frame
  | .stationEvent => do
      let frame ← decodeStationEvent
      return .stationEvent frame

/-- The frame at the front of the input. -/
def decodeRuntimeFrame : Decoder RuntimeFrame := do
  let kindByte ← readU8
  match FrameKind.fromByte kindByte with
  | none => Reader.fail (.unknownFrameKind kindByte)
  | some kind => decodeFrame kind

/-- Decodes one runtime frame; `none` is an access outside the input.  The allocator is taken to
grant every request: how large these can be is the subject of `decodeRequests`. -/
def decode (input : List UInt8) : Option (Except BinaryDecodeError RuntimeFrame) :=
  Reader.parse (do
    let frame ← decodeRuntimeFrame
    Reader.finish .trailingBytes
    return frame) input

end Wire

end SectorSync
