import SectorSync.Core.Spatial

/-!
# Entity records and handoff transfers

The station-local entity record of `entity.rs`, with its authority role, and the transfer
payload of `handoff.rs` that carries a record from one station to another.
-/

namespace SectorSync

/-- Bitset of entity tags. -/
structure EntityTags where
  bits : UInt64
  deriving DecidableEq

/-- The empty tag set. -/
def EntityTags.empty : EntityTags := ⟨0⟩

/-- Component-level dirty bitset. -/
structure DirtyMask where
  bits : UInt64
  deriving DecidableEq

namespace DirtyMask

/-- Transform or bounds changed. -/
def transform : DirtyMask := ⟨(1 : UInt64) <<< 0⟩

/-- Entity tags changed. -/
def tags : DirtyMask := ⟨(1 : UInt64) <<< 2⟩

/-- Marks components dirty. -/
def insert (dirty mask : DirtyMask) : DirtyMask := ⟨dirty.bits ||| mask.bits⟩

/-- Clears the dirty bits present in `mask`. -/
def remove (dirty mask : DirtyMask) : DirtyMask := ⟨dirty.bits &&& ~~~mask.bits⟩

end DirtyMask

/-- Authority role for an entity copy stored in a station. -/
inductive EntityRole where
  | owned (ownerEpoch : OwnerEpoch)
  | ghost (ownerStation : StationId) (ownerEpoch : OwnerEpoch) (expiresAt : Tick)
  deriving DecidableEq

namespace EntityRole

/-- Whether this copy is authoritative. -/
def isOwned : EntityRole → Bool
  | owned _ => true
  | ghost _ _ _ => false

/-- The owner epoch for ordering handoffs and stale messages. -/
def ownerEpoch : EntityRole → OwnerEpoch
  | owned epoch => epoch
  | ghost _ epoch _ => epoch

@[simp] lemma isOwned_owned (epoch : OwnerEpoch) : (owned epoch).isOwned = true := rfl

@[simp] lemma isOwned_ghost (station : StationId) (epoch : OwnerEpoch) (expires : Tick) :
    (ghost station epoch expires).isOwned = false := rfl

@[simp] lemma ownerEpoch_owned (epoch : OwnerEpoch) : (owned epoch).ownerEpoch = epoch := rfl

end EntityRole

variable {F : Type}

/-- Station-local entity record. -/
structure EntityRecord (F : Type) where
  id : EntityId
  handle : EntityHandle
  position : Position3 F
  bounds : Bounds F
  policyId : PolicyId
  tags : EntityTags
  role : EntityRole
  dirty : DirtyMask
  deriving DecidableEq

namespace EntityRecord

/-- An authoritative entity record. -/
def owned (id : EntityId) (handle : EntityHandle) (position : Position3 F) (bounds : Bounds F)
    (policyId : PolicyId) (ownerEpoch : OwnerEpoch) : EntityRecord F where
  id := id
  handle := handle
  position := position
  bounds := bounds
  policyId := policyId
  tags := .empty
  role := .owned ownerEpoch
  dirty := .transform

/-- A read-only ghost entity record. -/
def ghost (id : EntityId) (handle : EntityHandle) (position : Position3 F) (bounds : Bounds F)
    (policyId : PolicyId) (ownerStation : StationId) (ownerEpoch : OwnerEpoch)
    (expiresAt : Tick) : EntityRecord F where
  id := id
  handle := handle
  position := position
  bounds := bounds
  policyId := policyId
  tags := .empty
  role := .ghost ownerStation ownerEpoch expiresAt
  dirty := .transform

/-- Whether this record is authoritative in its station. -/
def isOwned (record : EntityRecord F) : Bool := record.role.isOwned

@[simp] lemma isOwned_owned (id : EntityId) (handle : EntityHandle) (position : Position3 F)
    (bounds : Bounds F) (policyId : PolicyId) (ownerEpoch : OwnerEpoch) :
    (owned id handle position bounds policyId ownerEpoch).isOwned = true := rfl

@[simp] lemma isOwned_ghost (id : EntityId) (handle : EntityHandle) (position : Position3 F)
    (bounds : Bounds F) (policyId : PolicyId) (ownerStation : StationId)
    (ownerEpoch : OwnerEpoch) (expiresAt : Tick) :
    (ghost id handle position bounds policyId ownerStation ownerEpoch expiresAt).isOwned = false :=
  rfl

end EntityRecord

/-- Transfer payload for a two-phase owner handoff. -/
structure HandoffTransfer (F : Type) where
  entityId : EntityId
  sourceStation : StationId
  targetStation : StationId
  /-- Owner epoch observed at the source before transfer. -/
  sourceOwnerEpoch : OwnerEpoch
  /-- Owner epoch that the target will use after commit. -/
  targetOwnerEpoch : OwnerEpoch
  preparedAt : Tick
  sourceGhostExpiresAt : Tick
  entity : EntityRecord F
  deriving DecidableEq

end SectorSync
