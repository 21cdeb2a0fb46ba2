import SectorSync.Core.Entity

/-!
# The station store

Station-local entity storage, `station.rs`.  Records live in slots addressed by a
generation-checked handle; `byId` maps a stable id to the handle of its record, and removed
slots are recycled through `free`, a stack whose top is the head of the list.

An operation takes the station and returns its result together with the station it leaves, so
that what a failing call leaves behind is part of the model.  A write through `get_mut` is
`writeRecord`.  Slot numbers are unbounded here: the source panics when a slot number no longer
fits a `u32`.
-/

namespace SectorSync

variable {F : Type}

/-- Station runtime configuration. -/
structure StationConfig where
  stationId : StationId
  nodeId : NodeId
  instanceId : InstanceId
  tickRateHz : UInt16
  deriving DecidableEq

/-- The configuration the source's tests give a station. -/
def configWithStation (stationId : UInt32) : StationConfig where
  stationId := ⟨stationId⟩
  nodeId := ⟨1⟩
  instanceId := ⟨7⟩
  tickRateHz := 20

/-- Station-local storage and metadata. -/
structure Station (F : Type) where
  config : StationConfig
  tick : Tick
  ownerEpoch : OwnerEpoch
  records : List (Option (EntityRecord F))
  generations : List UInt32
  free : List ℕ
  byId : HashMap EntityId EntityHandle

/-- Version metadata associated with a snapshot. -/
structure SnapshotVersion where
  runtimeVersion : UInt32
  schemaVersion : UInt32
  rulesetVersion : UInt32
  moduleVersion : UInt32
  deriving DecidableEq

/-- `SnapshotVersion::default`. -/
def SnapshotVersion.default : SnapshotVersion := ⟨1, 1, 1, 1⟩

/-- Snapshot metadata for a single station. -/
structure SnapshotMeta where
  instanceId : InstanceId
  stationId : StationId
  tick : Tick
  entityCount : ℕ
  ownerEpoch : OwnerEpoch
  version : SnapshotVersion
  deriving DecidableEq

/-- In-memory station snapshot; `metadata` is the field `meta`. -/
structure StationSnapshot (F : Type) where
  metadata : SnapshotMeta
  entities : List (EntityRecord F)

/-- Station operation error. -/
inductive StationError where
  | duplicateEntity (id : EntityId)
  | missingEntity (id : EntityId)
  | missingEntityHandle (handle : EntityHandle)
  | notOwner (id : EntityId)
  | alreadyOwner (id : EntityId)
  | handoffTargetIsSource (station : StationId)
  | wrongHandoffTarget (expected actual : StationId)
  | wrongHandoffSource (expected actual : StationId)
  | snapshotStationMismatch (expected actual : StationId)
  deriving DecidableEq

namespace Station

/-- An empty station. -/
def new (config : StationConfig) : Station F where
  config := config
  tick := ⟨0⟩
  ownerEpoch := ⟨0⟩
  records := []
  generations := []
  free := []
  byId := ∅

/-- Reserves and returns the next owner epoch for this station. -/
def nextOwnerEpoch (s : Station F) : OwnerEpoch × Station F :=
  let epoch : OwnerEpoch := ⟨s.ownerEpoch.get.saturatingAdd 1⟩
  (epoch, { s with ownerEpoch := epoch })

/-- Number of live entity records. -/
def len (s : Station F) : ℕ := s.byId.size

/-- Advances the authoritative station tick. -/
def advanceTick (s : Station F) : Station F :=
  { s with tick := ⟨s.tick.get.saturatingAdd 1⟩ }

/-! ## Slots -/

/-- Takes a recycled slot, or appends a fresh one. -/
def allocateHandle (s : Station F) : EntityHandle × Station F :=
  match s.free with
  | index :: free => (⟨index, s.generations.getD index 0⟩, { s with free := free })
  | [] =>
      (⟨s.records.length, 0⟩,
        { s with records := s.records ++ [none], generations := s.generations ++ [0] })

/-- Stores a record in an allocated slot. -/
def insertAllocated (s : Station F) (handle : EntityHandle) (record : EntityRecord F) :
    Station F :=
  { s with
    byId := s.byId.insert record.id handle
    records := s.records.set handle.index (some record) }

/-- Gets an entity by handle if the generation is still valid. -/
def get (s : Station F) (handle : EntityHandle) : Option (EntityRecord F) :=
  match s.generations[handle.index]? with
  | none => none
  | some generation =>
      if generation ≠ handle.generation then none else (s.records[handle.index]?).join

/-- Overwrites the record a `get_mut` of the handle returned. -/
def writeRecord (s : Station F) (handle : EntityHandle) (record : EntityRecord F) : Station F :=
  { s with records := s.records.set handle.index (some record) }

/-- Gets a station-local handle by stable id. -/
def handleById (s : Station F) (id : EntityId) : Option EntityHandle := s.byId.lookup id

/-- Gets an entity by stable id. -/
def getById (s : Station F) (id : EntityId) : Option (EntityRecord F) :=
  (s.byId.lookup id).bind s.get

/-- Allocates a slot and stores the record built for its handle. -/
def insertNew (s : Station F) (record : EntityHandle → EntityRecord F) :
    EntityHandle × Station F :=
  let (handle, s) := s.allocateHandle
  (handle, s.insertAllocated handle (record handle))

/-! ## Entity operations -/

/-- Spawns an authoritative entity in this station. -/
def spawnOwned (s : Station F) (id : EntityId) (position : Position3 F) (bounds : Bounds F)
    (policyId : PolicyId) : Except StationError EntityHandle × Station F :=
  if (s.byId.lookup id).isSome then (.error (.duplicateEntity id), s)
  else
    let (handle, s') := s.insertNew fun handle =>
      .owned id handle position bounds policyId s.ownerEpoch
    (.ok handle, s')

/-- Inserts or refreshes a read-only ghost entity. -/
def upsertGhost (s : Station F) (id : EntityId) (position : Position3 F) (bounds : Bounds F)
    (policyId : PolicyId) (ownerStation : StationId) (ownerEpoch : OwnerEpoch)
    (expiresAt : Tick) : EntityHandle × Station F :=
  match s.byId.lookup id with
  | some handle =>
      match s.get handle with
      | some record =>
          (handle, s.writeRecord handle
            { record with
              position := position
              bounds := bounds
              policyId := policyId
              role := .ghost ownerStation ownerEpoch expiresAt
              dirty := record.dirty.insert .transform })
      | none => (handle, s)
  | none =>
      s.insertNew fun handle =>
        .ghost id handle position bounds policyId ownerStation ownerEpoch expiresAt

/-- Moves an authoritative entity and marks transform dirty. -/
def moveOwned (s : Station F) (handle : EntityHandle) (position : Position3 F) :
    Except StationError Unit × Station F :=
  match s.get handle with
  | none => (.error (.missingEntityHandle handle), s)
  | some record =>
      if record.isOwned then
        (.ok (), s.writeRecord handle
          { record with position := position, dirty := record.dirty.insert .transform })
      else (.error (.notOwner record.id), s)

/-- Replaces authoritative entity tags and marks tags dirty. -/
def setTags (s : Station F) (handle : EntityHandle) (tags : EntityTags) :
    Except StationError Unit × Station F :=
  match s.get handle with
  | none => (.error (.missingEntityHandle handle), s)
  | some record =>
      if record.isOwned then
        (.ok (), s.writeRecord handle
          { record with tags := tags, dirty := record.dirty.insert .tags })
      else (.error (.notOwner record.id), s)

/-- Clears selected dirty bits for a local entity record. -/
def clearDirty (s : Station F) (handle : EntityHandle) (mask : DirtyMask) :
    Except StationError Unit × Station F :=
  match s.get handle with
  | none => (.error (.missingEntityHandle handle), s)
  | some record =>
      (.ok (), s.writeRecord handle { record with dirty := record.dirty.remove mask })

/-- Removes an entity record by handle. -/
def remove (s : Station F) (handle : EntityHandle) :
    Except StationError (EntityRecord F) × Station F :=
  match s.get handle with
  | none => (.error (.missingEntityHandle handle), s)
  | some record =>
      (.ok record,
        { s with
          records := s.records.set handle.index none
          byId := s.byId.erase record.id
          generations := s.generations.set handle.index (handle.generation.saturatingAdd 1)
          free := handle.index :: s.free })

/-- Removes an entity record by stable id. -/
def removeById (s : Station F) (id : EntityId) :
    Except StationError (EntityRecord F) × Station F :=
  match s.byId.lookup id with
  | none => (.error (.missingEntity id), s)
  | some handle => s.remove handle

/-! ## Two-phase handoff -/

/-- Prepares an outgoing handoff transfer without mutating ownership yet. -/
def prepareOutgoingHandoff (s : Station F) (entityId : EntityId) (targetStation : StationId)
    (targetOwnerEpoch : OwnerEpoch) (sourceGhostExpiresAt : Tick) :
    Except StationError (HandoffTransfer F) :=
  if targetStation = s.config.stationId then .error (.handoffTargetIsSource targetStation)
  else
    match s.getById entityId with
    | none => .error (.missingEntity entityId)
    | some entity =>
        if entity.isOwned then
          .ok
            { entityId := entityId
              sourceStation := s.config.stationId
              targetStation := targetStation
              sourceOwnerEpoch := entity.role.ownerEpoch
              targetOwnerEpoch := targetOwnerEpoch
              preparedAt := s.tick
              sourceGhostExpiresAt := sourceGhostExpiresAt
              entity := entity }
        else .error (.notOwner entityId)

/-- Prewarms or refreshes a target-side ghost before owner commit. -/
def prewarmHandoffGhost (s : Station F) (transfer : HandoffTransfer F) :
    Except StationError EntityHandle × Station F :=
  if transfer.targetStation ≠ s.config.stationId then
    (.error (.wrongHandoffTarget s.config.stationId transfer.targetStation), s)
  else
    let (handle, s) := s.upsertGhost transfer.entityId transfer.entity.position
      transfer.entity.bounds transfer.entity.policyId transfer.sourceStation
      transfer.sourceOwnerEpoch transfer.sourceGhostExpiresAt
    (.ok handle, s)

/-- The authoritative record the target stores for a committed transfer. -/
def incomingRecord (transfer : HandoffTransfer F) (handle : EntityHandle) : EntityRecord F :=
  { transfer.entity with
    handle := handle
    role := .owned transfer.targetOwnerEpoch
    dirty := transfer.entity.dirty.insert .transform }

/-- Commits the target side of an incoming handoff and becomes authoritative. -/
def commitIncomingHandoff (s : Station F) (transfer : HandoffTransfer F) :
    Except StationError EntityHandle × Station F :=
  if transfer.targetStation ≠ s.config.stationId then
    (.error (.wrongHandoffTarget s.config.stationId transfer.targetStation), s)
  else
    match s.handleById transfer.entityId with
    | some handle =>
        match s.get handle with
        | none => (.error (.missingEntityHandle handle), s)
        | some record =>
            if record.isOwned then (.error (.alreadyOwner transfer.entityId), s)
            else
              (.ok handle,
                { s.writeRecord handle (incomingRecord transfer handle) with
                  ownerEpoch := transfer.targetOwnerEpoch })
    | none =>
        let (handle, s) := s.insertNew (incomingRecord transfer)
        (.ok handle, { s with ownerEpoch := transfer.targetOwnerEpoch })

/-- Commits the source side of an outgoing handoff and keeps a short-lived ghost. -/
def commitOutgoingHandoff (s : Station F) (transfer : HandoffTransfer F) :
    Except StationError EntityHandle × Station F :=
  if transfer.sourceStation ≠ s.config.stationId then
    (.error (.wrongHandoffSource s.config.stationId transfer.sourceStation), s)
  else
    match s.handleById transfer.entityId with
    | none => (.error (.missingEntity transfer.entityId), s)
    | some handle =>
        match s.get handle with
        | none => (.error (.missingEntityHandle handle), s)
        | some record =>
            if record.isOwned then
              (.ok handle, s.writeRecord handle
                { record with
                  role := .ghost transfer.targetStation transfer.targetOwnerEpoch
                    transfer.sourceGhostExpiresAt
                  dirty := record.dirty.insert .transform })
            else (.error (.notOwner transfer.entityId), s)

/-! ## Snapshots -/

/-- The live records, in slot order. -/
def iter (s : Station F) : List (EntityRecord F) := s.records.filterMap id

/-- Exports an in-memory station snapshot. -/
def snapshot (s : Station F) (version : SnapshotVersion) : StationSnapshot F where
  metadata :=
    { instanceId := s.config.instanceId
      stationId := s.config.stationId
      tick := s.tick
      entityCount := s.iter.length
      ownerEpoch := s.ownerEpoch
      version := version }
  entities := s.iter

/-- Inserts one snapshot record under a handle of its own. -/
def restoreRecord (s : Station F) (record : EntityRecord F) : Except StationError (Station F) :=
  if (s.byId.lookup record.id).isSome then .error (.duplicateEntity record.id)
  else .ok (s.insertNew fun handle => { record with handle := handle }).2

/-- Restores station state from a snapshot. -/
def restore (config : StationConfig) (snapshot : StationSnapshot F) :
    Except StationError (Station F) :=
  if snapshot.metadata.stationId ≠ config.stationId then
    .error (.snapshotStationMismatch config.stationId snapshot.metadata.stationId)
  else
    snapshot.entities.foldlM restoreRecord
      { Station.new config with
        tick := snapshot.metadata.tick
        ownerEpoch := snapshot.metadata.ownerEpoch }

end Station

end SectorSync
