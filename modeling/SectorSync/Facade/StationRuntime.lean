import SectorSync.Core.Component
import SectorSync.Core.SpatialIndex
import SectorSync.Core.StationRun

/-!
# The station runtime

`StationRuntime` of the product facade owns a station, the cell index over its entities and the
component blobs on them, and updates the three together.  `perform` is every operation of the
product path as one function.  Low-level access to the three parts is not an operation, and
reclaiming capacity changes nothing that is modelled.
-/

namespace SectorSync

open Machine

variable {F : Type}

/-- Configuration of a station runtime. -/
structure StationRuntimeConfig (F : Type) where
  station : StationConfig
  grid : GridSpec F

/-- One authoritative entity spawn request. -/
structure SpawnEntity (F : Type) where
  id : EntityId
  position : Position3 F
  bounds : Bounds F
  policyId : PolicyId

/-- One read-only ghost upsert request. -/
structure GhostEntity (F : Type) where
  id : EntityId
  position : Position3 F
  bounds : Bounds F
  policyId : PolicyId
  ownerStation : StationId
  ownerEpoch : OwnerEpoch
  /-- Tick after which the ghost may be discarded. -/
  expiresAt : Tick

/-- Result of inserting or refreshing station-local spatial state. -/
structure StationEntityUpdateReport where
  handle : EntityHandle
  indexUpdate : CellIndexUpdate

/-- Result of moving one authoritative entity. -/
structure StationMoveReport where
  indexUpdate : CellIndexUpdate

/-- Result of removing one entity and its middleware state. -/
structure DespawnReport (F : Type) where
  entity : EntityRecord F
  indexRemoved : Bool
  componentsRemoved : ℕ

/-- Product-path station operation error. -/
inductive StationRuntimeError where
  | station (error : StationError)
  | component (error : ComponentStoreError)
  deriving DecidableEq

/-- Owner of the station-local middleware state.  The optional command queues, which no
operation below touches, are left out. -/
structure StationRuntime (F : Type) where
  station : Station F
  index : CellIndex F
  components : ComponentStore
  indexUpdateScratch : CellIndexUpdateScratch

namespace StationRuntime

/-- Empty station-local state. -/
def new (config : StationRuntimeConfig F) : StationRuntime F where
  station := .new config.station
  index := .new config.grid
  components := .default
  indexUpdateScratch := ⟨[]⟩

/-- Advances the station tick. -/
def advanceTick (rt : StationRuntime F) : StationRuntime F :=
  { rt with station := rt.station.advanceTick }

/-- Replaces authoritative tags. -/
def setTags (rt : StationRuntime F) (handle : EntityHandle) (tags : EntityTags) :
    Except StationError Unit × StationRuntime F :=
  let (result, station) := rt.station.setTags handle tags
  (result, { rt with station := station })

/-- Removes an entity, its spatial membership, and all component blobs. -/
def despawn (rt : StationRuntime F) (handle : EntityHandle) :
    Except StationError (DespawnReport F) × StationRuntime F :=
  match rt.station.remove handle with
  | (.error error, station) => (.error error, { rt with station := station })
  | (.ok entity, station) =>
      let (indexRemoved, index) := rt.index.remove handle
      let (componentsRemoved, components) := rt.components.clearEntity handle
      (.ok ⟨entity, indexRemoved, componentsRemoved⟩,
        { rt with station := station, index := index, components := components })

/-- Fails unless the station owns the entity. -/
def ensureOwned (rt : StationRuntime F) (handle : EntityHandle) : Except StationError Unit :=
  match rt.station.get handle with
  | none => .error (.missingEntityHandle handle)
  | some record => if record.isOwned then .ok () else .error (.notOwner record.id)

/-- Copies an opaque component value into retained storage after checking authority. -/
def setComponentBlob (rt : StationRuntime F) (descriptor : ComponentDescriptor)
    (handle : EntityHandle) (version : UInt64) (bytes : List UInt8) :
    Except StationRuntimeError Unit × StationRuntime F :=
  match rt.ensureOwned handle with
  | .error error => (.error (.station error), rt)
  | .ok () =>
      match rt.components.setBlobFromSlice descriptor handle version bytes with
      | (.error error, components) =>
          (.error (.component error), { rt with components := components })
      | (.ok (), components) => (.ok (), { rt with components := components })

/-- Prepares an outgoing two-phase handoff without changing ownership. -/
def prepareOutgoingHandoff (rt : StationRuntime F) (entityId : EntityId)
    (targetStation : StationId) (targetOwnerEpoch : OwnerEpoch) (sourceGhostExpiresAt : Tick) :
    Except StationError (HandoffTransfer F) :=
  rt.station.prepareOutgoingHandoff entityId targetStation targetOwnerEpoch sourceGhostExpiresAt

/-- Commits the source side of an owner handoff, retaining spatial ghost visibility. -/
def commitOutgoingHandoff (rt : StationRuntime F) (transfer : HandoffTransfer F) :
    Except StationError EntityHandle × StationRuntime F :=
  let (result, station) := rt.station.commitOutgoingHandoff transfer
  (result, { rt with station := station })

section Scalar

variable [Scalar F]

/-- Puts a handle in the cells of a position and bounds. -/
def upsertIndex (rt : StationRuntime F) (handle : EntityHandle) (position : Position3 F)
    (bounds : Bounds F) : CellIndexUpdate × StationRuntime F :=
  let (report, index, scratch) :=
    rt.index.upsertWithScratch handle position bounds rt.indexUpdateScratch
  (report.update, { rt with index := index, indexUpdateScratch := scratch })

/-- Spawns an authoritative entity and inserts its spatial membership. -/
def spawnOwned (rt : StationRuntime F) (spawn : SpawnEntity F) :
    Except StationError EntityHandle × StationRuntime F :=
  match rt.station.spawnOwned spawn.id spawn.position spawn.bounds spawn.policyId with
  | (.error error, station) => (.error error, { rt with station := station })
  | (.ok handle, station) =>
      let (_, rt) :=
        { rt with station := station }.upsertIndex handle spawn.position spawn.bounds
      (.ok handle, rt)

/-- Inserts or refreshes a read-only ghost and its spatial membership. -/
def upsertGhost (rt : StationRuntime F) (ghost : GhostEntity F) :
    StationEntityUpdateReport × StationRuntime F :=
  let (handle, station) := rt.station.upsertGhost ghost.id ghost.position ghost.bounds
    ghost.policyId ghost.ownerStation ghost.ownerEpoch ghost.expiresAt
  let (indexUpdate, rt) :=
    { rt with station := station }.upsertIndex handle ghost.position ghost.bounds
  (⟨handle, indexUpdate⟩, rt)

/-- Reads the record of a handle and indexes it; `none` is the panic of the `expect` on the
read. -/
def syncIndex (rt : StationRuntime F) (handle : EntityHandle) :
    Option CellIndexUpdate × StationRuntime F :=
  match rt.station.get handle with
  | none => (none, rt)
  | some record =>
      let (indexUpdate, rt) := rt.upsertIndex handle record.position record.bounds
      (some indexUpdate, rt)

/-- Moves an authoritative entity and updates spatial membership. -/
def moveOwned (rt : StationRuntime F) (handle : EntityHandle) (position : Position3 F) :
    Option (Except StationError StationMoveReport) × StationRuntime F :=
  match rt.station.moveOwned handle position with
  | (.error error, station) => (some (.error error), { rt with station := station })
  | (.ok (), station) =>
      let (indexUpdate, rt) := { rt with station := station }.syncIndex handle
      (indexUpdate.map fun update => .ok ⟨update⟩, rt)

/-- Prewarms a target ghost and synchronizes its spatial membership. -/
def prewarmHandoffGhost (rt : StationRuntime F) (transfer : HandoffTransfer F) :
    Option (Except StationError StationEntityUpdateReport) × StationRuntime F :=
  match rt.station.prewarmHandoffGhost transfer with
  | (.error error, station) => (some (.error error), { rt with station := station })
  | (.ok handle, station) =>
      let (indexUpdate, rt) := { rt with station := station }.syncIndex handle
      (indexUpdate.map fun update => .ok ⟨handle, update⟩, rt)

/-- Commits an incoming owner handoff and synchronizes spatial membership. -/
def commitIncomingHandoff (rt : StationRuntime F) (transfer : HandoffTransfer F) :
    Except StationError StationEntityUpdateReport × StationRuntime F :=
  match rt.station.commitIncomingHandoff transfer with
  | (.error error, station) => (.error error, { rt with station := station })
  | (.ok handle, station) =>
      let (indexUpdate, rt) := { rt with station := station }.upsertIndex handle
        transfer.entity.position transfer.entity.bounds
      (.ok ⟨handle, indexUpdate⟩, rt)

end Scalar

end StationRuntime

/-- What an operation returns when it succeeds. -/
inductive RuntimeReply (F : Type) where
  | done
  | spawned (handle : EntityHandle)
  | updated (report : StationEntityUpdateReport)
  | moved (report : StationMoveReport)
  | despawned (report : DespawnReport F)
  | prepared (transfer : HandoffTransfer F)
  | committed (handle : EntityHandle)

/-- The operations of a station runtime. -/
inductive RuntimeOp (F : Type) where
  | advanceTick
  | spawnOwned (spawn : SpawnEntity F)
  | upsertGhost (ghost : GhostEntity F)
  | moveOwned (handle : EntityHandle) (position : Position3 F)
  | despawn (handle : EntityHandle)
  | setTags (handle : EntityHandle) (tags : EntityTags)
  | setComponentBlob (descriptor : ComponentDescriptor) (handle : EntityHandle)
      (version : UInt64) (bytes : List UInt8)
  | prepareOutgoingHandoff (entityId : EntityId) (targetStation : StationId)
      (targetOwnerEpoch : OwnerEpoch) (sourceGhostExpiresAt : Tick)
  | prewarmHandoffGhost (transfer : HandoffTransfer F)
  | commitIncomingHandoff (transfer : HandoffTransfer F)
  | commitOutgoingHandoff (transfer : HandoffTransfer F)

namespace StationRuntime

/-- A station result as a runtime result. -/
def reply {α : Type} (f : α → RuntimeReply F) (result : Except StationError α) :
    Except StationRuntimeError (RuntimeReply F) :=
  match result with
  | .error error => .error (.station error)
  | .ok a => .ok (f a)

section Scalar

variable [Scalar F]

/-- Runs one operation: its reply or error, or `none` when it panics, and the state it leaves. -/
def perform (rt : StationRuntime F) :
    RuntimeOp F → Option (Except StationRuntimeError (RuntimeReply F)) × StationRuntime F
  | .advanceTick => (some (.ok .done), rt.advanceTick)
  | .spawnOwned spawn =>
      let (result, rt) := rt.spawnOwned spawn
      (some (reply .spawned result), rt)
  | .upsertGhost ghost =>
      let (report, rt) := rt.upsertGhost ghost
      (some (.ok (.updated report)), rt)
  | .moveOwned handle position =>
      let (result, rt) := rt.moveOwned handle position
      (result.map (reply .moved), rt)
  | .despawn handle =>
      let (result, rt) := rt.despawn handle
      (some (reply .despawned result), rt)
  | .setTags handle tags =>
      let (result, rt) := rt.setTags handle tags
      (some (reply (fun _ => .done) result), rt)
  | .setComponentBlob descriptor handle version bytes =>
      let (result, rt) := rt.setComponentBlob descriptor handle version bytes
      (some (result.map fun _ => .done), rt)
  | .prepareOutgoingHandoff entityId targetStation targetOwnerEpoch sourceGhostExpiresAt =>
      (some (reply .prepared (rt.prepareOutgoingHandoff entityId targetStation targetOwnerEpoch
        sourceGhostExpiresAt)), rt)
  | .prewarmHandoffGhost transfer =>
      let (result, rt) := rt.prewarmHandoffGhost transfer
      (result.map (reply .updated), rt)
  | .commitIncomingHandoff transfer =>
      let (result, rt) := rt.commitIncomingHandoff transfer
      (some (reply .updated result), rt)
  | .commitOutgoingHandoff transfer =>
      let (result, rt) := rt.commitOutgoingHandoff transfer
      (some (reply .committed result), rt)

/-- The state after one operation. -/
def step (rt : StationRuntime F) (op : RuntimeOp F) : StationRuntime F := (rt.perform op).2

/-! ## What each operation does -/

variable (rt : StationRuntime F)

/-- A spawn fails and changes nothing, or indexes the entity that the station spawned. -/
lemma spawnOwned_cases (spawn : SpawnEntity F) :
    (∃ error, rt.station.spawnOwned spawn.id spawn.position spawn.bounds spawn.policyId
        = (.error error, rt.station) ∧ rt.spawnOwned spawn = (.error error, rt))
      ∨ ∃ handle station, rt.station.spawnOwned spawn.id spawn.position spawn.bounds
          spawn.policyId = (.ok handle, station)
        ∧ rt.spawnOwned spawn = (.ok handle, ({ rt with station := station }.upsertIndex handle
          spawn.position spawn.bounds).2) := by
  rcases heq : rt.station.spawnOwned spawn.id spawn.position spawn.bounds spawn.policyId with
    ⟨error | handle, station⟩
  · obtain rfl := Station.unchanged_of_error (.spawnOwned _ _ _ _) rfl heq
    exact Or.inl ⟨error, rfl, by simp only [StationRuntime.spawnOwned, heq]⟩
  · exact Or.inr ⟨handle, station, rfl, by simp only [StationRuntime.spawnOwned, heq]⟩

/-- A move fails and changes nothing, or indexes what the moved handle reads. -/
lemma moveOwned_cases (handle : EntityHandle) (position : Position3 F) :
    (∃ error, rt.station.moveOwned handle position = (.error error, rt.station)
        ∧ rt.moveOwned handle position = (some (.error error), rt))
      ∨ ∃ station, rt.station.moveOwned handle position = (.ok (), station)
        ∧ rt.moveOwned handle position
          = (({ rt with station := station }.syncIndex handle).1.map fun update => .ok ⟨update⟩,
            ({ rt with station := station }.syncIndex handle).2) := by
  rcases heq : rt.station.moveOwned handle position with ⟨error | moved, station⟩
  · obtain rfl := Station.unchanged_of_error (.moveOwned _ _) rfl heq
    exact Or.inl ⟨error, rfl, by simp only [StationRuntime.moveOwned, heq]⟩
  · exact Or.inr ⟨station, rfl, by simp only [StationRuntime.moveOwned, heq]⟩

omit [Scalar F] in
/-- A despawn fails and changes nothing, or removes a live entity from the three stores. -/
lemma despawn_cases (handle : EntityHandle) :
    (∃ error, rt.station.remove handle = (.error error, rt.station)
        ∧ rt.despawn handle = (.error error, rt))
      ∨ ∃ r, ∃ report : DespawnReport F, rt.station.get handle = some r
        ∧ rt.despawn handle = (.ok report,
          { rt with
            station := (rt.station.remove handle).2
            index := (rt.index.remove handle).2
            components := (rt.components.clearEntity handle).2 }) := by
  cases hget : rt.station.get handle with
  | none =>
      have heq : rt.station.remove handle = (.error (.missingEntityHandle handle), rt.station) := by
        rw [Station.remove, hget]
      exact Or.inl ⟨_, heq, by simp only [StationRuntime.despawn, heq]⟩
  | some r =>
      refine Or.inr ⟨r, ⟨r, (rt.index.remove handle).1, (rt.components.clearEntity handle).1⟩,
        rfl, ?_⟩
      simp only [StationRuntime.despawn, Station.remove_eq hget]

/-- A prewarm fails and changes nothing, or indexes what the prewarmed handle reads. -/
lemma prewarmHandoffGhost_cases (t : HandoffTransfer F) :
    (∃ error, rt.station.prewarmHandoffGhost t = (.error error, rt.station)
        ∧ rt.prewarmHandoffGhost t = (some (.error error), rt))
      ∨ ∃ handle station, rt.station.prewarmHandoffGhost t = (.ok handle, station)
        ∧ rt.prewarmHandoffGhost t
          = (({ rt with station := station }.syncIndex handle).1.map
              fun update => .ok ⟨handle, update⟩,
            ({ rt with station := station }.syncIndex handle).2) := by
  rcases heq : rt.station.prewarmHandoffGhost t with ⟨error | handle, station⟩
  · obtain rfl := Station.unchanged_of_error (.prewarmHandoffGhost _) rfl heq
    exact Or.inl ⟨error, rfl, by simp only [StationRuntime.prewarmHandoffGhost, heq]⟩
  · exact Or.inr ⟨handle, station, rfl, by simp only [StationRuntime.prewarmHandoffGhost, heq]⟩

/-- An incoming commit fails and changes nothing, or indexes the record of the transfer. -/
lemma commitIncomingHandoff_cases (t : HandoffTransfer F) :
    (∃ error, rt.station.commitIncomingHandoff t = (.error error, rt.station)
        ∧ rt.commitIncomingHandoff t = (.error error, rt))
      ∨ ∃ handle station update, rt.station.commitIncomingHandoff t = (.ok handle, station)
        ∧ rt.commitIncomingHandoff t = (.ok ⟨handle, update⟩,
          ({ rt with station := station }.upsertIndex handle t.entity.position
            t.entity.bounds).2) := by
  rcases heq : rt.station.commitIncomingHandoff t with ⟨error | handle, station⟩
  · obtain rfl := Station.unchanged_of_error (.commitIncomingHandoff _) rfl heq
    exact Or.inl ⟨error, rfl, by simp only [StationRuntime.commitIncomingHandoff, heq]⟩
  · refine Or.inr ⟨handle, station, ({ rt with station := station }.upsertIndex handle
      t.entity.position t.entity.bounds).1, rfl, ?_⟩
    simp only [StationRuntime.commitIncomingHandoff, heq]

omit [Scalar F] in
/-- A component write fails and changes nothing, or writes one blob of a live entity. -/
lemma setComponentBlob_cases (descriptor : ComponentDescriptor) (handle : EntityHandle)
    (version : UInt64) (bytes : List UInt8) :
    (∃ error, rt.setComponentBlob descriptor handle version bytes = (.error error, rt))
      ∨ ∃ r components, rt.station.get handle = some r
        ∧ rt.setComponentBlob descriptor handle version bytes
          = (.ok (), { rt with components := components })
        ∧ ∀ id h, components.getBlob id h = if id = descriptor.id ∧ h = handle
            then some { version := version, dirty := true, bytes := bytes }
            else rt.components.getBlob id h := by
  cases howned : rt.ensureOwned handle with
  | error error =>
      exact Or.inl ⟨.station error, by simp only [StationRuntime.setComponentBlob, howned]⟩
  | ok owned =>
      cases hget : rt.station.get handle with
      | none => simp [ensureOwned, hget] at howned
      | some r =>
          rcases rt.components.setBlobFromSlice_spec descriptor handle version bytes with
            ⟨error, heq⟩ | ⟨components, heq, hread⟩
          · exact Or.inl ⟨.component error, by
              simp only [StationRuntime.setComponentBlob, howned, heq]⟩
          · exact Or.inr ⟨r, components, rfl, by
              simp only [StationRuntime.setComponentBlob, howned, heq], hread⟩

end Scalar

end StationRuntime

end SectorSync
