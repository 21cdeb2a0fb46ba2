import SectorSync.Wire.Codec

/-!
# The wire format

The layout of every frame (`RuntimeFrame.bytes`) and what has to fit for it to be written
(`RuntimeFrame.Fits`).  `writes_encode` reads the layout off the encoder and
`parses_decodeRuntimeFrame` off the decoder; both follow the order of the fields, one rule for each
field.

`wire_round_trip` and `wire_canonical` are what follows for whole buffers.  The one freedom of the
format is the flag of an acknowledgement: the decoder takes any nonzero byte for `true`.
-/

namespace SectorSync

open Bytes

/-! ## Layouts -/

/-- The bytes of a word. -/
def le16 (value : UInt16) : List UInt8 := toLe 2 value.toNat

def le32 (value : UInt32) : List UInt8 := toLe 4 value.toNat

def le64 (value : UInt64) : List UInt8 := toLe 8 value.toNat

/-- A payload after its length. -/
def payloadBytes (payload : List UInt8) : List UInt8 := toLe 4 payload.length ++ payload

/-- The length of a payload fits its field. -/
def PayloadFits (payload : List UInt8) : Prop := payload.length < 2 ^ 32

namespace ComponentDelta

def body (component : ComponentDelta) : List UInt8 :=
  le16 component.componentId.get ++ le64 component.version ++ [component.flags]
    ++ payloadBytes component.bytes

def Fits (component : ComponentDelta) : Prop := PayloadFits component.bytes

end ComponentDelta

namespace EntityDelta

def body (entity : EntityDelta) : List UInt8 :=
  le64 entity.entityId.get ++ le64 entity.ownerEpoch.get ++ toLe 2 entity.components.length
    ++ entity.components.flatMap ComponentDelta.body

def Fits (entity : EntityDelta) : Prop :=
  entity.components.length < 2 ^ 16 ∧ ∀ component ∈ entity.components, component.Fits

end EntityDelta

namespace ReplicationFrame

def body (frame : ReplicationFrame) : List UInt8 :=
  le64 frame.clientId.get ++ le64 frame.serverTick.get ++ le32 frame.entityCount
    ++ le32 frame.estimatedPayloadBytes ++ toLe 4 frame.entities.length
    ++ frame.entities.flatMap EntityDelta.body

def Fits (frame : ReplicationFrame) : Prop :=
  frame.entities.length < 2 ^ 32 ∧ ∀ entity ∈ frame.entities, entity.Fits

end ReplicationFrame

namespace CommandAckFrame

/-- The bytes of an acknowledgement with the given flag byte. -/
def bodyWith (flag : UInt8) (frame : CommandAckFrame) : List UInt8 :=
  le64 frame.clientId.get ++ le64 frame.commandId.get ++ le64 frame.serverTick.get ++ [flag]
    ++ le16 frame.reasonCode

def body (frame : CommandAckFrame) : List UInt8 :=
  frame.bodyWith (if frame.accepted then 1 else 0)

end CommandAckFrame

namespace CommandFrame

def body (frame : CommandFrame) : List UInt8 :=
  le64 frame.clientId.get ++ le64 frame.commandId.get ++ le64 frame.entityId.get
    ++ le64 frame.sequence ++ le32 frame.kind ++ [Wire.encodeCommandPriority frame.priority]
    ++ payloadBytes frame.payload

end CommandFrame

namespace CommandDispatchFrame

def body (frame : CommandDispatchFrame) : List UInt8 :=
  le32 frame.stationId.get ++ le64 frame.clientId.get ++ le64 frame.commandId.get
    ++ le64 frame.entityId.get ++ le64 frame.sequence ++ le64 frame.receivedAt.get
    ++ le32 frame.kind ++ [Wire.encodeCommandPriority frame.priority]
    ++ payloadBytes frame.payload

end CommandDispatchFrame

/-- The bytes of an event kind. -/
def EventKind.body : EventKind → List UInt8
  | .custom kind => [0] ++ le32 kind
  | .handoffPrepare entityId => [1] ++ le64 entityId.get
  | .handoffCommit entityId ownerEpoch => [2] ++ le64 entityId.get ++ le64 ownerEpoch.get

namespace StationEventFrame

def body (frame : StationEventFrame) : List UInt8 :=
  le64 frame.eventId.get ++ le32 frame.sourceStation.get ++ le32 frame.targetStation.get
    ++ le64 frame.sourceTick.get ++ le64 frame.targetTick.get
    ++ [Wire.encodeEventPriority frame.priority] ++ frame.kind.body

end StationEventFrame

namespace BarrierFrame

def body (frame : BarrierFrame) : List UInt8 :=
  le64 frame.clientId.get ++ le64 frame.barrierId.get ++ le64 frame.serverTick.get
    ++ [Wire.encodeBarrierState frame.state]

end BarrierFrame

namespace RuntimeFrame

def kind : RuntimeFrame → FrameKind
  | .replication _ => .replication
  | .command _ => .command
  | .commandDispatch _ => .commandDispatch
  | .commandAck _ => .commandAck
  | .barrier _ => .barrier
  | .stationEvent _ => .stationEvent

def body : RuntimeFrame → List UInt8
  | .replication frame => frame.body
  | .command frame => frame.body
  | .commandDispatch frame => frame.body
  | .commandAck frame => frame.body
  | .barrier frame => frame.body
  | .stationEvent frame => frame.body

/-- The bytes of a frame. -/
def bytes (frame : RuntimeFrame) : List UInt8 := [frame.kind.toByte] ++ frame.body

/-- Every length in the frame fits its field. -/
def Fits : RuntimeFrame → Prop
  | .replication frame => frame.Fits
  | .command frame => PayloadFits frame.payload
  | .commandDispatch frame => PayloadFits frame.payload
  | .commandAck _ | .barrier _ | .stationEvent _ => True

end RuntimeFrame

namespace Wire

open Decoder Encoder

/-! ## What the encoders write -/

lemma writes_writeU8 (value : UInt8) : Writes (writeU8 value) True [value] := Writes.extend _

lemma writes_writeU16 (value : UInt16) : Writes (writeU16 value) True (le16 value) :=
  Writes.extend _

lemma writes_writeU32 (value : UInt32) : Writes (writeU32 value) True (le32 value) :=
  Writes.extend _

lemma writes_writeU64 (value : UInt64) : Writes (writeU64 value) True (le64 value) :=
  Writes.extend _

lemma writes_writeBytes (field : String) (payload : List UInt8) :
    Writes (writeBytes field payload) (PayloadFits payload) (payloadBytes payload) :=
  Writes.checked _ _ _

lemma writes_encodeReplication (frame : ReplicationFrame) :
    Writes (encodeReplication frame) frame.Fits ([FrameKind.replication.toByte] ++ frame.body) := by
  have hcomponent : ∀ component : ComponentDelta,
      Writes (do
        writeU16 component.componentId.get
        writeU64 component.version
        writeU8 component.flags
        writeBytes "replication.component.bytes" component.bytes) component.Fits component.body :=
    fun component => ((writes_writeU16 _).bind <| (writes_writeU64 _).bind <|
      (writes_writeU8 _).bind <| writes_writeBytes _ _).congr
      (by simp [ComponentDelta.Fits]) (by simp [ComponentDelta.body])
  have hentity : ∀ entity : EntityDelta,
      Writes (do
        writeU64 entity.entityId.get
        writeU64 entity.ownerEpoch.get
        writeLenU16 "replication.entity.components" entity.components.length
        entity.components.forM fun component => do
          writeU16 component.componentId.get
          writeU64 component.version
          writeU8 component.flags
          writeBytes "replication.component.bytes" component.bytes) entity.Fits entity.body :=
    fun entity => ((writes_writeU64 _).bind <| (writes_writeU64 _).bind <|
      (Writes.checked _ _ _).bind <| Writes.forM hcomponent _).congr
      (by simp [EntityDelta.Fits]) (by simp [EntityDelta.body])
  exact ((writes_writeU8 _).bind <| (writes_writeU64 _).bind <| (writes_writeU64 _).bind <|
    (writes_writeU32 _).bind <| (writes_writeU32 _).bind <| (Writes.checked _ _ _).bind <|
    Writes.forM hentity _).congr (by simp [ReplicationFrame.Fits]) (by simp [ReplicationFrame.body])

lemma writes_encodeCommandAck (frame : CommandAckFrame) :
    Writes (encodeCommandAck frame) True ([FrameKind.commandAck.toByte] ++ frame.body) :=
  ((writes_writeU8 _).bind <| (writes_writeU64 _).bind <| (writes_writeU64 _).bind <|
    (writes_writeU64 _).bind <| (writes_writeU8 _).bind <| writes_writeU16 _).congr
    (by simp) (by simp [CommandAckFrame.body, CommandAckFrame.bodyWith])

lemma writes_encodeCommand (frame : CommandFrame) :
    Writes (encodeCommand frame) (PayloadFits frame.payload)
      ([FrameKind.command.toByte] ++ frame.body) :=
  ((writes_writeU8 _).bind <| (writes_writeU64 _).bind <| (writes_writeU64 _).bind <|
    (writes_writeU64 _).bind <| (writes_writeU64 _).bind <| (writes_writeU32 _).bind <|
    (writes_writeU8 _).bind <| writes_writeBytes _ _).congr (by simp) (by simp [CommandFrame.body])

lemma writes_encodeCommandDispatch (frame : CommandDispatchFrame) :
    Writes (encodeCommandDispatch frame) (PayloadFits frame.payload)
      ([FrameKind.commandDispatch.toByte] ++ frame.body) :=
  ((writes_writeU8 _).bind <| (writes_writeU32 _).bind <| (writes_writeU64 _).bind <|
    (writes_writeU64 _).bind <| (writes_writeU64 _).bind <| (writes_writeU64 _).bind <|
    (writes_writeU64 _).bind <| (writes_writeU32 _).bind <| (writes_writeU8 _).bind <|
    writes_writeBytes _ _).congr (by simp) (by simp [CommandDispatchFrame.body])

lemma writes_encodeEventKind (kind : EventKind) : Writes (encodeEventKind kind) True kind.body := by
  cases kind with
  | custom kind => exact ((writes_writeU8 _).bind (writes_writeU32 _)).congr (by simp) rfl
  | handoffPrepare entityId =>
      exact ((writes_writeU8 _).bind (writes_writeU64 _)).congr (by simp) rfl
  | handoffCommit entityId ownerEpoch =>
      exact ((writes_writeU8 _).bind <| (writes_writeU64 _).bind <| writes_writeU64 _).congr
        (by simp) rfl

lemma writes_encodeStationEvent (frame : StationEventFrame) :
    Writes (encodeStationEvent frame) True ([FrameKind.stationEvent.toByte] ++ frame.body) :=
  ((writes_writeU8 _).bind <| (writes_writeU64 _).bind <| (writes_writeU32 _).bind <|
    (writes_writeU32 _).bind <| (writes_writeU64 _).bind <| (writes_writeU64 _).bind <|
    (writes_writeU8 _).bind <| writes_encodeEventKind _).congr
    (by simp) (by simp [StationEventFrame.body])

lemma writes_encodeBarrier (frame : BarrierFrame) :
    Writes (encodeBarrier frame) True ([FrameKind.barrier.toByte] ++ frame.body) :=
  ((writes_writeU8 _).bind <| (writes_writeU64 _).bind <| (writes_writeU64 _).bind <|
    (writes_writeU64 _).bind <| writes_writeU8 _).congr (by simp) (by simp [BarrierFrame.body])

/-- **The encoder writes the layout**, when every length fits its field, and fails otherwise. -/
theorem writes_encode (frame : RuntimeFrame) : Writes (encode frame) frame.Fits frame.bytes := by
  cases frame with
  | replication frame => exact writes_encodeReplication frame
  | command frame => exact writes_encodeCommand frame
  | commandDispatch frame => exact writes_encodeCommandDispatch frame
  | commandAck frame => exact writes_encodeCommandAck frame
  | barrier frame => exact writes_encodeBarrier frame
  | stationEvent frame => exact writes_encodeStationEvent frame

/-! ## What the decoders read -/

lemma parses_readU8 : Parses readU8 (Spells (fun value => [value]) fun _ => True) := by
  have hword : Parses readU8 (Spells (fun value : UInt8 => toLe 1 value.toNat) fun _ => True) :=
    Parses.word _ (fun _ => UInt8.ofNat_toNat) (fun _ h => UInt8.toNat_ofNat_of_lt' h)
      UInt8.toNat_lt
  refine hword.congr fun bytes value => ?_
  have hvalue : toLe 1 value.toNat = [value] := by
    rw [toLe, toLe, Nat.mod_eq_of_lt value.toNat_lt, UInt8.ofNat_toNat]
  rw [Spells, Spells, hvalue]

lemma parses_readU16 : Parses readU16 (Spells le16 fun _ => True) :=
  Parses.word _ (fun _ => UInt16.ofNat_toNat) (fun _ h => UInt16.toNat_ofNat_of_lt' h)
    UInt16.toNat_lt

lemma parses_readU32 : Parses readU32 (Spells le32 fun _ => True) :=
  Parses.word _ (fun _ => UInt32.ofNat_toNat) (fun _ h => UInt32.toNat_ofNat_of_lt' h)
    UInt32.toNat_lt

lemma parses_readU64 : Parses readU64 (Spells le64 fun _ => True) :=
  Parses.word _ (fun _ => UInt64.ofNat_toNat) (fun _ h => UInt64.toNat_ofNat_of_lt' h)
    UInt64.toNat_lt

lemma parses_readId16 {kind : IdKind} :
    Parses (readId16 : Decoder (TypedId kind UInt16))
      (Spells (fun id => le16 id.get) fun _ => True) :=
  (Parses.part TypedId.get parses_readU16 fun raw => Parses.record fun id => by
    cases id; simp).ofParts (by simp) (by simp)

lemma parses_readId32 {kind : IdKind} :
    Parses (readId32 : Decoder (TypedId kind UInt32))
      (Spells (fun id => le32 id.get) fun _ => True) :=
  (Parses.part TypedId.get parses_readU32 fun raw => Parses.record fun id => by
    cases id; simp).ofParts (by simp) (by simp)

lemma parses_readId64 {kind : IdKind} :
    Parses (readId64 : Decoder (TypedId kind UInt64))
      (Spells (fun id => le64 id.get) fun _ => True) :=
  (Parses.part TypedId.get parses_readU64 fun raw => Parses.record fun id => by
    cases id; simp).ofParts (by simp) (by simp)

lemma parses_readPayload : Parses readPayload (Spells payloadBytes PayloadFits) := by
  have hslice : ∀ n, Parses (readSlice n) fun bytes payload =>
      Spells id (fun _ => True) bytes payload ∧ List.length payload = n :=
    fun n => (Parses.next _ n).congr fun bytes payload => by simp [Spells]
  exact (Parses.counted (fun _ h => UInt32.toNat_ofNat_of_lt' h) UInt32.toNat_lt parses_readU32
    hslice).congr fun bytes payload => by simp [Spells, payloadBytes, PayloadFits]

/-- A byte that a decoder of an enumeration accepts. -/
lemma parses_enumeration {α : Type} {enc : α → UInt8} {dec : UInt8 → Except BinaryDecodeError α}
    (hdec : ∀ byte a, dec byte = .ok a ↔ byte = enc a) :
    Parses (do Reader.lift (dec (← readU8))) (Spells (fun a => [enc a]) fun _ => True) := by
  refine (parses_readU8.bind fun byte => Parses.lift (dec byte)).congr fun bytes a => ?_
  constructor
  · rintro ⟨_, _, byte, rfl, ⟨rfl, -⟩, rfl, hbyte⟩
    rw [hdec] at hbyte
    exact ⟨by rw [List.append_nil, hbyte], trivial⟩
  · rintro ⟨rfl, -⟩
    exact ⟨_, [], enc a, rfl, ⟨rfl, trivial⟩, rfl, (hdec _ _).mpr rfl⟩

lemma decodeBarrierState_eq_ok (byte : UInt8) (state : BarrierState) :
    decodeBarrierState byte = .ok state ↔ byte = encodeBarrierState state := by
  unfold decodeBarrierState
  split <;> cases state <;> simp_all [encodeBarrierState]

lemma decodeCommandPriority_eq_ok (byte : UInt8) (priority : CommandPriority) :
    decodeCommandPriority byte = .ok priority ↔ byte = encodeCommandPriority priority := by
  unfold decodeCommandPriority
  split <;> cases priority <;> simp_all [encodeCommandPriority]

lemma decodeEventPriority_eq_ok (byte : UInt8) (priority : EventPriority) :
    decodeEventPriority byte = .ok priority ↔ byte = encodeEventPriority priority := by
  unfold decodeEventPriority
  split <;> cases priority <;> simp_all [encodeEventPriority]

lemma parses_decodeComponentRef :
    Parses decodeComponentRef (Spells ComponentDelta.body ComponentDelta.Fits) :=
  (Parses.part ComponentDelta.componentId parses_readId16 fun _ =>
    Parses.part ComponentDelta.version parses_readU64 fun _ =>
    Parses.part ComponentDelta.flags parses_readU8 fun _ =>
    Parses.part ComponentDelta.bytes parses_readPayload fun _ =>
    Parses.record fun component => by cases component; simp [and_assoc]).ofParts
      (by simp [ComponentDelta.body]) (by simp [ComponentDelta.Fits])

lemma parses_decodeEntity : Parses decodeEntity (Spells EntityDelta.body EntityDelta.Fits) :=
  (Parses.part EntityDelta.entityId parses_readId64 fun _ =>
    Parses.part EntityDelta.ownerEpoch parses_readId64 fun _ =>
    Parses.part EntityDelta.components
      (Parses.counted (fun _ h => UInt16.toNat_ofNat_of_lt' h) UInt16.toNat_lt parses_readU16
        parses_decodeComponentRef.times) fun _ =>
    Parses.record fun entity => by cases entity; simp [and_assoc]).ofParts
      (by simp [EntityDelta.body]) (by simp [EntityDelta.Fits])

lemma parses_decodeReplicationOwned :
    Parses decodeReplicationOwned (Spells ReplicationFrame.body ReplicationFrame.Fits) :=
  (Parses.part ReplicationFrame.clientId parses_readId64 fun _ =>
    Parses.part ReplicationFrame.serverTick parses_readId64 fun _ =>
    Parses.part ReplicationFrame.entityCount parses_readU32 fun _ =>
    Parses.part ReplicationFrame.estimatedPayloadBytes parses_readU32 fun _ =>
    Parses.part ReplicationFrame.entities
      (Parses.counted (fun _ h => UInt32.toNat_ofNat_of_lt' h) UInt32.toNat_lt parses_readU32
        parses_decodeEntity.times) fun _ =>
    Parses.record fun frame => by cases frame; simp [and_assoc]).ofParts
      (by simp [ReplicationFrame.body]) (by simp [ReplicationFrame.Fits])

/-- Any nonzero flag is read as `true`. -/
lemma parses_decodeCommandAck :
    Parses decodeCommandAck fun bytes frame =>
      ∃ flag, bytes = frame.bodyWith flag ∧ frame.accepted = (flag != 0) := by
  have hflag : ∀ clientId commandId serverTick,
      Parses (do
        let accepted ← readU8
        let reasonCode ← readU16
        return CommandAckFrame.mk clientId commandId serverTick (accepted != 0) reasonCode)
        fun bytes frame =>
          (∃ flag, bytes = [flag] ++ le16 frame.reasonCode ∧ frame.accepted = (flag != 0))
            ∧ ((True ∧ frame.clientId = clientId) ∧ frame.commandId = commandId)
            ∧ frame.serverTick = serverTick := by
    intro clientId commandId serverTick
    refine (parses_readU8.bind fun accepted => parses_readU16.map).congr fun bytes frame => ?_
    constructor
    · rintro ⟨_, _, flag, rfl, ⟨rfl, -⟩, reasonCode, ⟨rfl, -⟩, rfl⟩
      exact ⟨⟨flag, rfl, rfl⟩, ⟨⟨trivial, rfl⟩, rfl⟩, rfl⟩
    · obtain ⟨_, _, _, accepted, reasonCode⟩ := frame
      rintro ⟨⟨flag, rfl, rfl⟩, ⟨⟨-, rfl⟩, rfl⟩, rfl⟩
      exact ⟨_, _, flag, rfl, ⟨rfl, trivial⟩, reasonCode, ⟨rfl, trivial⟩, rfl⟩
  refine (Parses.before CommandAckFrame.clientId parses_readId64 fun clientId =>
    Parses.before CommandAckFrame.commandId parses_readId64 fun commandId =>
    Parses.before CommandAckFrame.serverTick parses_readId64 fun serverTick =>
    hflag clientId commandId serverTick).congr fun bytes frame => ?_
  constructor
  · rintro ⟨⟨_, rfl, -, _, rfl, -, _, rfl, -, flag, rfl, haccepted⟩, -⟩
    exact ⟨flag, by simp [CommandAckFrame.bodyWith], haccepted⟩
  · rintro ⟨flag, rfl, haccepted⟩
    exact ⟨⟨_, by simp [CommandAckFrame.bodyWith], trivial, _, rfl, trivial, _, rfl, trivial,
      flag, rfl, haccepted⟩, trivial⟩

lemma parses_decodeCommand :
    Parses decodeCommand (Spells CommandFrame.body fun frame => PayloadFits frame.payload) :=
  (Parses.part CommandFrame.clientId parses_readId64 fun _ =>
    Parses.part CommandFrame.commandId parses_readId64 fun _ =>
    Parses.part CommandFrame.entityId parses_readId64 fun _ =>
    Parses.part CommandFrame.sequence parses_readU64 fun _ =>
    Parses.part CommandFrame.kind parses_readU32 fun _ =>
    Parses.part CommandFrame.priority (parses_enumeration decodeCommandPriority_eq_ok) fun _ =>
    Parses.part CommandFrame.payload parses_readPayload fun _ =>
    Parses.record fun frame => by cases frame; simp [and_assoc]).ofParts
      (by simp [CommandFrame.body]) (by simp)

lemma parses_decodeCommandDispatch :
    Parses decodeCommandDispatch
      (Spells CommandDispatchFrame.body fun frame => PayloadFits frame.payload) :=
  (Parses.part CommandDispatchFrame.stationId parses_readId32 fun _ =>
    Parses.part CommandDispatchFrame.clientId parses_readId64 fun _ =>
    Parses.part CommandDispatchFrame.commandId parses_readId64 fun _ =>
    Parses.part CommandDispatchFrame.entityId parses_readId64 fun _ =>
    Parses.part CommandDispatchFrame.sequence parses_readU64 fun _ =>
    Parses.part CommandDispatchFrame.receivedAt parses_readId64 fun _ =>
    Parses.part CommandDispatchFrame.kind parses_readU32 fun _ =>
    Parses.part CommandDispatchFrame.priority
      (parses_enumeration decodeCommandPriority_eq_ok) fun _ =>
    Parses.part CommandDispatchFrame.payload parses_readPayload fun _ =>
    Parses.record fun frame => by cases frame; simp [and_assoc]).ofParts
      (by simp [CommandDispatchFrame.body]) (by simp)

lemma parses_decodeBarrier :
    Parses decodeBarrier (Spells BarrierFrame.body fun _ => True) :=
  (Parses.part BarrierFrame.clientId parses_readId64 fun _ =>
    Parses.part BarrierFrame.barrierId parses_readId64 fun _ =>
    Parses.part BarrierFrame.serverTick parses_readId64 fun _ =>
    Parses.part BarrierFrame.state (parses_enumeration decodeBarrierState_eq_ok) fun _ =>
    Parses.record fun frame => by cases frame; simp [and_assoc]).ofParts
      (by simp [BarrierFrame.body]) (by simp)

lemma parses_decodeEventKind : Parses decodeEventKind (Spells EventKind.body fun _ => True) := by
  -- the byte that was read decides which of the three layouts is ahead
  refine (parses_readU8.bind (S := fun tag bytes kind => kind.body = tag :: bytes)
    fun tag => ?_).congr fun bytes kind => ?_
  · split
    · refine parses_readU32.map.congr fun bytes kind => ?_
      cases kind <;> simp [Spells, EventKind.body, eq_comm]
    · refine parses_readId64.map.congr fun bytes kind => ?_
      cases kind <;> simp [Spells, EventKind.body, eq_comm]
    · refine (parses_readId64.bind fun _ => parses_readId64.map).congr fun bytes kind => ?_
      cases kind <;> simp [Spells, EventKind.body, eq_comm]
    · refine (Parses.fail _).congr fun bytes kind => ?_
      cases kind <;> simp [EventKind.body] <;> simp_all [eq_comm]
  · constructor
    · rintro ⟨_, _, tag, rfl, ⟨rfl, -⟩, hbody⟩
      exact ⟨hbody.symm, trivial⟩
    · rintro ⟨rfl, -⟩
      cases kind with
      | custom kind => exact ⟨[0], le32 kind, 0, rfl, ⟨rfl, trivial⟩, rfl⟩
      | handoffPrepare entityId =>
          exact ⟨[1], le64 entityId.get, 1, rfl, ⟨rfl, trivial⟩, rfl⟩
      | handoffCommit entityId ownerEpoch =>
          exact ⟨[2], le64 entityId.get ++ le64 ownerEpoch.get, 2, rfl, ⟨rfl, trivial⟩, rfl⟩

lemma parses_decodeStationEvent :
    Parses decodeStationEvent (Spells StationEventFrame.body fun _ => True) :=
  (Parses.part StationEventFrame.eventId parses_readId64 fun _ =>
    Parses.part StationEventFrame.sourceStation parses_readId32 fun _ =>
    Parses.part StationEventFrame.targetStation parses_readId32 fun _ =>
    Parses.part StationEventFrame.sourceTick parses_readId64 fun _ =>
    Parses.part StationEventFrame.targetTick parses_readId64 fun _ =>
    Parses.part StationEventFrame.priority
      (parses_enumeration decodeEventPriority_eq_ok) fun _ =>
    Parses.part StationEventFrame.kind parses_decodeEventKind fun _ =>
    Parses.record fun frame => by cases frame; simp [and_assoc]).ofParts
      (by simp [StationEventFrame.body]) (by simp)

/-- The bytes after the kind byte spell the frame. -/
def SpellsBody (bytes : List UInt8) : RuntimeFrame → Prop
  | .commandAck frame => ∃ flag, bytes = frame.bodyWith flag ∧ frame.accepted = (flag != 0)
  | frame => bytes = frame.body ∧ frame.Fits

lemma spellsBody_iff {frame : RuntimeFrame} (hkind : frame.kind ≠ .commandAck)
    (bytes : List UInt8) : SpellsBody bytes frame ↔ bytes = frame.body ∧ frame.Fits := by
  cases frame with
  | commandAck frame => exact absurd rfl hkind
  | replication frame => rfl
  | command frame => rfl
  | commandDispatch frame => rfl
  | barrier frame => rfl
  | stationEvent frame => rfl

lemma parses_decodeFrame (kind : FrameKind) :
    Parses (decodeFrame kind) fun bytes frame => frame.kind = kind ∧ SpellsBody bytes frame := by
  cases kind with
  | replication =>
      refine parses_decodeReplicationOwned.map.congr fun bytes frame => ?_
      cases frame <;>
        simp [Spells, SpellsBody, RuntimeFrame.kind, RuntimeFrame.body, RuntimeFrame.Fits]
  | commandAck =>
      refine parses_decodeCommandAck.map.congr fun bytes frame => ?_
      cases frame <;> simp [SpellsBody, RuntimeFrame.kind]
  | barrier =>
      refine parses_decodeBarrier.map.congr fun bytes frame => ?_
      cases frame <;>
        simp [Spells, SpellsBody, RuntimeFrame.kind, RuntimeFrame.body, RuntimeFrame.Fits]
  | command =>
      refine parses_decodeCommand.map.congr fun bytes frame => ?_
      cases frame <;>
        simp [Spells, SpellsBody, RuntimeFrame.kind, RuntimeFrame.body, RuntimeFrame.Fits]
  | stationEvent =>
      refine parses_decodeStationEvent.map.congr fun bytes frame => ?_
      cases frame <;>
        simp [Spells, SpellsBody, RuntimeFrame.kind, RuntimeFrame.body, RuntimeFrame.Fits]
  | commandDispatch =>
      refine parses_decodeCommandDispatch.map.congr fun bytes frame => ?_
      cases frame <;>
        simp [Spells, SpellsBody, RuntimeFrame.kind, RuntimeFrame.body, RuntimeFrame.Fits]

lemma fromByte_eq_some (byte : UInt8) (kind : FrameKind) :
    FrameKind.fromByte byte = some kind ↔ byte = kind.toByte := by
  unfold FrameKind.fromByte
  split <;> cases kind <;> simp_all [FrameKind.toByte]

/-- **The decoder reads the layout.** -/
theorem parses_decodeRuntimeFrame :
    Parses decodeRuntimeFrame fun bytes frame =>
      ∃ rest, bytes = frame.kind.toByte :: rest ∧ SpellsBody rest frame := by
  refine (parses_readU8.bind
    (S := fun byte bytes frame => byte = frame.kind.toByte ∧ SpellsBody bytes frame)
    fun byte => ?_).congr fun bytes frame => ?_
  · cases hkind : FrameKind.fromByte byte with
    | none =>
        refine (Parses.fail _).congr fun bytes frame => iff_of_false not_false ?_
        rintro ⟨hbyte, -⟩
        rw [← fromByte_eq_some, hkind] at hbyte
        cases hbyte
    | some kind =>
        refine (parses_decodeFrame kind).congr fun bytes frame => and_congr_left fun _ => ?_
        rw [← fromByte_eq_some, hkind, Option.some.injEq, eq_comm]
  · constructor
    · rintro ⟨_, rest, byte, rfl, ⟨rfl, -⟩, rfl, hbody⟩
      exact ⟨rest, rfl, hbody⟩
    · rintro ⟨rest, rfl, hbody⟩
      exact ⟨_, rest, _, rfl, ⟨rfl, trivial⟩, rfl, hbody⟩

/-- A buffer is decoded to the frame that it spells, and to no other. -/
lemma decode_eq_ok_iff (input : List UInt8) (frame : RuntimeFrame) :
    decode input = some (.ok frame)
      ↔ ∃ rest, input = frame.kind.toByte :: rest ∧ SpellsBody rest frame :=
  parses_decodeRuntimeFrame.parse_eq_ok_iff _

/-- What the decoder returns: no access goes outside the input. -/
def decoded (input : List UInt8) : Except BinaryDecodeError RuntimeFrame :=
  (decode input).get
    (Option.isSome_iff_ne_none.mpr (parses_decodeRuntimeFrame.parse_ne_none _ input))

lemma decode_eq_decoded (input : List UInt8) : decode input = some (decoded input) :=
  (Option.some_get _).symm

/-! ## The round trip -/

/-- The bytes of a frame are decoded to the frame. -/
lemma decode_bytes {frame : RuntimeFrame} (hfits : frame.Fits) :
    decode frame.bytes = some (.ok frame) := by
  refine (decode_eq_ok_iff _ _).mpr ⟨frame.body, rfl, ?_⟩
  by_cases hkind : frame.kind = .commandAck
  · cases frame with
    | commandAck frame =>
        refine ⟨if frame.accepted then 1 else 0, rfl, ?_⟩
        cases frame.accepted <;> rfl
    | _ => simp [RuntimeFrame.kind] at hkind
  · exact (spellsBody_iff hkind _).mpr ⟨rfl, hfits⟩

lemma decoded_of_encode {frame : RuntimeFrame} {bytes : List UInt8}
    (h : encode frame [] = (.ok (), bytes)) : decoded bytes = .ok frame := by
  obtain ⟨hfits, rfl⟩ := (writes_encode frame).eq_ok_iff.mp h
  have hdecode := decode_bytes hfits
  rwa [decode_eq_decoded, Option.some.injEq] at hdecode

/-- **Wire round trip.**  What an encoder appends, after whatever is in the buffer, decodes to the
frame. -/
theorem wire_round_trip (frame : RuntimeFrame) (out out' : List UInt8)
    (h : encode frame out = (.ok (), out')) :
    ∃ bytes, out' = out ++ bytes ∧ decode bytes = some (.ok frame) := by
  obtain ⟨hfits, rfl⟩ := (writes_encode frame).eq_ok_iff.mp h
  exact ⟨frame.bytes, rfl, decode_bytes hfits⟩

/-- One entity with one component. -/
def oneEntityFrame : ReplicationFrame where
  clientId := ⟨7⟩
  serverTick := ⟨3⟩
  entityCount := 1
  estimatedPayloadBytes := 2
  entities := [⟨⟨9⟩, ⟨1⟩, [⟨⟨4⟩, 5, 0, [10, 20]⟩]⟩]

/-- The frame, sent after two bytes that are already in the buffer. -/
theorem wire_round_trip_one_entity :
    ∃ bytes, (encode (.replication oneEntityFrame) [1, 2]).2 = [1, 2] ++ bytes
      ∧ decode bytes = some (.ok (.replication oneEntityFrame)) :=
  wire_round_trip (.replication oneEntityFrame) [1, 2] _ rfl

/-! ## The canonical form -/

/-- The position of the flag of an acknowledgement. -/
def ackFlagOffset : ℕ := 25

/-- The bytes, with a nonzero flag of an acknowledgement replaced by one. -/
def normalise (input : List UInt8) : List UInt8 :=
  if input.head? = some FrameKind.commandAck.toByte then
    input.modify ackFlagOffset fun flag => if flag = 0 then 0 else 1
  else input

lemma normalise_commandAck (flag : UInt8) (frame : CommandAckFrame) :
    normalise (FrameKind.commandAck.toByte :: frame.bodyWith flag)
      = FrameKind.commandAck.toByte :: frame.bodyWith (if flag = 0 then 0 else 1) := rfl

lemma normalise_of_ne {kind : FrameKind} (hkind : kind ≠ .commandAck) (rest : List UInt8) :
    normalise (kind.toByte :: rest) = kind.toByte :: rest := by
  rw [normalise, List.head?_cons, if_neg]
  cases kind <;> simp_all [FrameKind.toByte]

/-- What was accepted is, normalised, what is written. -/
lemma SpellsBody.normalise_eq {rest : List UInt8} {frame : RuntimeFrame}
    (hbody : SpellsBody rest frame) :
    frame.Fits ∧ normalise (frame.kind.toByte :: rest) = frame.bytes := by
  by_cases hkind : frame.kind = .commandAck
  · cases frame with
    | commandAck frame =>
        obtain ⟨flag, rfl, haccepted⟩ := hbody
        refine ⟨trivial, (normalise_commandAck flag frame).trans ?_⟩
        simp [RuntimeFrame.bytes, RuntimeFrame.body, RuntimeFrame.kind, CommandAckFrame.body,
          haccepted]
    | _ => simp [RuntimeFrame.kind] at hkind
  · obtain ⟨rfl, hfits⟩ := (spellsBody_iff hkind rest).mp hbody
    exact ⟨hfits, normalise_of_ne hkind frame.body⟩

/-- **The wire format is canonical.**  No access goes outside the input; an accepted input is what
the encoder writes for its frame, up to the flag of an acknowledgement; and of two accepted inputs
neither is the beginning of the other. -/
theorem wire_canonical (input : List UInt8) :
    decode input ≠ none
      ∧ ∀ frame, decode input = some (.ok frame) →
        encode frame [] = (.ok (), normalise input)
        ∧ (∀ start rest, input = start ++ rest → rest ≠ [] →
          ∀ frame', decode start ≠ some (.ok frame'))
        ∧ ∀ rest, rest ≠ [] → ∀ frame', decode (input ++ rest) ≠ some (.ok frame') := by
  -- accepted inputs are spellings at the front of one another
  have hunambiguous : ∀ {start rest frame frame'}, decode start = some (.ok frame) →
      decode (start ++ rest) = some (.ok frame') → rest = [] := by
    intro start rest frame frame' hstart hwhole
    rw [decode_eq_ok_iff] at hstart hwhole
    have hnil : start ++ rest = (start ++ rest) ++ [] := (List.append_nil _).symm
    have heq := (parses_decodeRuntimeFrame.unambiguous hstart hwhole hnil).1
    exact List.append_right_eq_self.mp heq.symm
  refine ⟨parses_decodeRuntimeFrame.parse_ne_none _ input, fun frame hframe => ⟨?_, ?_, ?_⟩⟩
  · obtain ⟨rest, rfl, hbody⟩ := (decode_eq_ok_iff input frame).mp hframe
    obtain ⟨hfits, hbytes⟩ := hbody.normalise_eq
    exact (writes_encode frame).eq_ok_iff.mpr ⟨hfits, hbytes⟩
  · rintro start rest rfl hrest frame' hstart
    exact hrest (hunambiguous hstart hframe)
  · intro rest hrest frame' hwhole
    exact hrest (hunambiguous hframe hwhole)

end Wire

end SectorSync
