import SectorSync.Core.Component
import SectorSync.Core.Replication
import SectorSync.Core.Station
import SectorSync.Wire.RoundTrip

/-!
# Building replication frames

`ReplicationFrameBuilder` materializes a replication plan.  `build` collects the deltas of the
selected components of the planned entities into an owned frame; `encodeBinaryBoundedInto` writes
the same deltas to a buffer, with counts that it patches afterwards, takes back an entity without
components, and takes back the entity that leaves the byte budget and stops there.
-/

namespace SectorSync

open Bytes Wire Encoder

variable {F : Type}

/-- `u32::try_from(value).unwrap_or(u32::MAX)`. -/
def u32OrMax (value : ℕ) : UInt32 :=
  if value < 2 ^ 32 then UInt32.ofNat value else UInt32.ofNat (2 ^ 32 - 1)

/-- Limits used by `ReplicationFrameBuilder`. -/
structure ReplicationFrameLimits where
  /-- Maximum entity deltas to materialize in one frame. -/
  maxEntityDeltas : ℕ
  maxComponentsPerEntity : ℕ
  /-- Maximum payload bytes of one component. -/
  maxComponentBytes : ℕ
  deriving DecidableEq

def ReplicationFrameLimits.default : ReplicationFrameLimits := ⟨256, 16, 1024⟩

/-- Component selection for frame building. -/
structure ComponentSelection where
  /-- Component ids to include when present and dirty. -/
  componentIds : List ComponentId
  deriving DecidableEq

/-- Frame builder statistics. -/
structure ReplicationFrameBuildStats where
  plannedEntities : ℕ
  encodedEntities : ℕ
  encodedComponents : ℕ
  skippedEntitiesByLimit : ℕ
  /-- Entity deltas skipped because the concrete frame byte budget filled. -/
  skippedEntitiesByFrameBytes : ℕ
  skippedComponentsByLimit : ℕ
  skippedComponentsBySize : ℕ
  deriving DecidableEq

def ReplicationFrameBuildStats.default : ReplicationFrameBuildStats := ⟨0, 0, 0, 0, 0, 0, 0⟩

/-- Result of building a replication frame. -/
structure ReplicationFrameBuild where
  frame : ReplicationFrame
  stats : ReplicationFrameBuildStats
  deriving DecidableEq

/-- Builds concrete replication frames from a core replication plan. -/
structure ReplicationFrameBuilder where
  limits : ReplicationFrameLimits
  deriving DecidableEq

namespace ReplicationFrameBuilder

/-! ## Building an owned frame -/

/-- The variables of the component loop of `build`. -/
structure BuiltComponents where
  componentDeltas : List ComponentDelta
  estimatedPayloadBytes : ℕ
  stats : ReplicationFrameBuildStats

/-- The variables of the entity loop of `build`. -/
structure BuiltEntities where
  entityDeltas : List EntityDelta
  estimatedPayloadBytes : ℕ
  stats : ReplicationFrameBuildStats

section Loops

variable (builder : ReplicationFrameBuilder) (station : Station F) (components : ComponentStore)
  (selection : ComponentSelection)

def buildComponent (handle : EntityHandle) (built : BuiltComponents) (componentId : ComponentId) :
    BuiltComponents :=
  if built.componentDeltas.length ≥ builder.limits.maxComponentsPerEntity then
    { built with
      stats := {
        built.stats with skippedComponentsByLimit := built.stats.skippedComponentsByLimit + 1 } }
  else
    match components.getBlob componentId handle with
    | none => built
    | some blob =>
        if !blob.dirty then built
        else if blob.bytes.length > builder.limits.maxComponentBytes then
          { built with
            stats := {
              built.stats with
              skippedComponentsBySize := built.stats.skippedComponentsBySize + 1 } }
        else
          { built with
            estimatedPayloadBytes :=
              usizeSaturatingAdd (usizeSaturatingAdd built.estimatedPayloadBytes (2 + 8 + 1 + 4))
                blob.bytes.length
            componentDeltas := built.componentDeltas
              ++ [{ componentId, version := blob.version, flags := 0, bytes := blob.bytes }] }

def buildEntity (built : BuiltEntities) (handle : EntityHandle) : BuiltEntities :=
  if built.entityDeltas.length ≥ builder.limits.maxEntityDeltas then
    { built with
      stats := {
        built.stats with skippedEntitiesByLimit := built.stats.skippedEntitiesByLimit + 1 } }
  else
    match station.get handle with
    | none => built
    | some entity =>
        let inner := selection.componentIds.foldl (builder.buildComponent components handle)
          ⟨[], built.estimatedPayloadBytes, built.stats⟩
        if inner.componentDeltas.isEmpty then
          { built with
            estimatedPayloadBytes := inner.estimatedPayloadBytes
            stats := inner.stats }
        else
          { stats := {
              inner.stats with
              encodedComponents := inner.stats.encodedComponents + inner.componentDeltas.length }
            estimatedPayloadBytes := usizeSaturatingAdd inner.estimatedPayloadBytes (8 + 8 + 2)
            entityDeltas := built.entityDeltas
              ++ [{
                entityId := entity.id
                ownerEpoch := entity.role.ownerEpoch
                components := inner.componentDeltas }] }

/-- The variables of the entity loop before its first step. -/
def startEntities (plan : ReplicationPlan) : BuiltEntities :=
  ⟨[], 0, { ReplicationFrameBuildStats.default with plannedEntities := plan.entities.length }⟩

/-- The entity loop of `build`. -/
def buildEntities (plan : ReplicationPlan) : BuiltEntities :=
  plan.entities.foldl (builder.buildEntity station components selection) (startEntities plan)

/-- Builds a frame from a station plan and component store. -/
def build (clientId : ClientId) (serverTick : Tick) (plan : ReplicationPlan) :
    ReplicationFrameBuild :=
  let built := builder.buildEntities station components selection plan
  { frame := {
      clientId
      serverTick
      entityCount := u32OrMax plan.entities.length
      estimatedPayloadBytes := u32OrMax built.estimatedPayloadBytes
      entities := built.entityDeltas }
    stats := { built.stats with encodedEntities := built.entityDeltas.length } }

end Loops

/-! ## Encoding directly -/

/-- `BINARY_HEADER_BYTES`. -/
def binaryHeaderBytes : ℕ := 1 + 8 + 8 + 4 + 4 + 4

/-- The variables of the component loop of `encode_binary_bounded_into`. -/
structure EncodedComponents where
  componentCount : ℕ
  estimatedPayloadBytes : ℕ
  stats : ReplicationFrameBuildStats

/-- The variables of its entity loop. -/
structure EncodedEntities where
  estimatedPayloadBytes : ℕ
  stats : ReplicationFrameBuildStats

section Loops

variable (builder : ReplicationFrameBuilder) (station : Station F) (components : ComponentStore)
  (selection : ComponentSelection)

def encodeComponent (handle : EntityHandle) (encoded : EncodedComponents)
    (componentId : ComponentId) : Bytes.Writer BinaryEncodeError EncodedComponents :=
  if encoded.componentCount ≥ builder.limits.maxComponentsPerEntity then
    return { encoded with
      stats := {
        encoded.stats with
        skippedComponentsByLimit := encoded.stats.skippedComponentsByLimit + 1 } }
  else
    match components.getBlob componentId handle with
    | none => return encoded
    | some blob =>
        if !blob.dirty then return encoded
        else if blob.bytes.length > builder.limits.maxComponentBytes then
          return { encoded with
            stats := {
              encoded.stats with
              skippedComponentsBySize := encoded.stats.skippedComponentsBySize + 1 } }
        else do
          writeU16 componentId.get
          writeU64 blob.version
          writeU8 0
          writeBytes "replication.component.bytes" blob.bytes
          return { encoded with
            estimatedPayloadBytes :=
              usizeSaturatingAdd (usizeSaturatingAdd encoded.estimatedPayloadBytes (2 + 8 + 1 + 4))
                blob.bytes.length
            componentCount := encoded.componentCount + 1 }

/-- The body of the entity loop; `done` is its `break`. -/
def encodeEntity (maxFrameBytes frameStart : ℕ) (encoded : EncodedEntities)
    (handle : EntityHandle) : Bytes.Writer BinaryEncodeError (ForInStep EncodedEntities) :=
  if encoded.stats.encodedEntities ≥ builder.limits.maxEntityDeltas then
    return .yield { encoded with
      stats := {
        encoded.stats with skippedEntitiesByLimit := encoded.stats.skippedEntitiesByLimit + 1 } }
  else
    match station.get handle with
    | none => return .yield encoded
    | some entity => do
        let entityStart ← Writer.len
        writeU64 entity.id.get
        writeU64 entity.role.ownerEpoch.get
        let componentCountOffset ← Writer.len
        writeU16 0
        let inner ← selection.componentIds.foldlM (builder.encodeComponent components handle)
          ⟨0, encoded.estimatedPayloadBytes, encoded.stats⟩
        if inner.componentCount = 0 then do
          Writer.truncate entityStart
          return .yield ⟨inner.estimatedPayloadBytes, inner.stats⟩
        else do
          let len ← Writer.len
          if len - frameStart > maxFrameBytes then do
            Writer.truncate entityStart
            return .done ⟨encoded.estimatedPayloadBytes, {
              inner.stats with
              skippedEntitiesByFrameBytes :=
                usizeSaturatingAdd inner.stats.skippedEntitiesByFrameBytes 1 }⟩
          else if inner.componentCount < 2 ^ 16 then do
            Writer.overwrite componentCountOffset (toLe 2 inner.componentCount)
            return .yield ⟨usizeSaturatingAdd inner.estimatedPayloadBytes (8 + 8 + 2), {
              inner.stats with
              encodedComponents := inner.stats.encodedComponents + inner.componentCount
              encodedEntities := inner.stats.encodedEntities + 1 }⟩
          else
            Writer.fail (.tooManyItems "replication.entity.components" inner.componentCount)

/-- The entity loop of `encode_binary_bounded_into`. -/
def encodeEntities (maxFrameBytes frameStart : ℕ) :
    List EntityHandle → EncodedEntities → Bytes.Writer BinaryEncodeError EncodedEntities
  | [], encoded => return encoded
  | handle :: handles, encoded => do
      let step ← builder.encodeEntity station components selection maxFrameBytes frameStart encoded
        handle
      match step with
      | .yield encoded => encodeEntities maxFrameBytes frameStart handles encoded
      | .done encoded => return encoded

/-- Builds and appends one replication frame under a concrete wire-byte budget. -/
def encodeBinaryBoundedInto (clientId : ClientId) (serverTick : Tick) (plan : ReplicationPlan)
    (maxFrameBytes : ℕ) : Bytes.Writer BinaryEncodeError ReplicationFrameBuildStats :=
  if maxFrameBytes < binaryHeaderBytes then
    Writer.fail (.frameBudgetTooSmall maxFrameBytes binaryHeaderBytes)
  else do
    let frameStart ← Writer.len
    writeU8 FrameKind.replication.toByte
    writeU64 clientId.get
    writeU64 serverTick.get
    writeU32 (u32OrMax plan.entities.length)
    let estimatedPayloadOffset ← Writer.len
    writeU32 0
    let entityCountOffset ← Writer.len
    writeU32 0
    let encoded ← builder.encodeEntities station components selection maxFrameBytes frameStart
      plan.entities
      ⟨0, { ReplicationFrameBuildStats.default with plannedEntities := plan.entities.length }⟩
    if encoded.stats.encodedEntities < 2 ^ 32 then do
      Writer.overwrite estimatedPayloadOffset (le32 (u32OrMax encoded.estimatedPayloadBytes))
      Writer.overwrite entityCountOffset (toLe 4 encoded.stats.encodedEntities)
      return encoded.stats
    else Writer.fail (.tooManyItems "replication.entities" encoded.stats.encodedEntities)

/-- Builds and appends one binary replication frame. -/
def encodeBinaryInto (clientId : ClientId) (serverTick : Tick) (plan : ReplicationPlan) :
    Bytes.Writer BinaryEncodeError ReplicationFrameBuildStats :=
  builder.encodeBinaryBoundedInto station components selection clientId serverTick plan usizeMax

end Loops

end ReplicationFrameBuilder

end SectorSync
