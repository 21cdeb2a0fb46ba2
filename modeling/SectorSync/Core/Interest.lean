import SectorSync.Core.Entity

/-!
# Policies and interest queries

The compiled sync policies of `policy.rs` and the viewer queries and visibility filters of
`interest.rs`.  A visibility filter is a record of the trait's two methods; the planners call the
one that is handed the squared distance they already computed.
-/

namespace SectorSync

variable {F : Type}

/-! ## Policies -/

/-- Compiled sync policy used by hot-path replication planning. -/
structure CompiledSyncPolicy (F : Type) where
  id : PolicyId
  minHz : UInt16
  maxHz : UInt16
  interestRadius : F
  /-- Weight used when the client budget is tight. -/
  priorityWeight : UInt16

/-- A compiled policy with weight one. -/
def CompiledSyncPolicy.new (id : PolicyId) (minHz maxHz : UInt16) (interestRadius : F) :
    CompiledSyncPolicy F :=
  ⟨id, minHz, maxHz, interestRadius, 1⟩

/-- Dense policy table indexed by `PolicyId`. -/
structure PolicyTable (F : Type) where
  policies : List (Option (CompiledSyncPolicy F))

namespace PolicyTable

/-- The empty table. -/
def default : PolicyTable F := ⟨[]⟩

/-- Inserts or replaces a compiled policy. -/
def set (table : PolicyTable F) (policy : CompiledSyncPolicy F) : PolicyTable F :=
  let index := policy.id.get.toNat
  let grown := table.policies ++ List.replicate (index + 1 - table.policies.length) none
  ⟨grown.set index (some policy)⟩

/-- Gets a policy by id. -/
def get (table : PolicyTable F) (id : PolicyId) : Option (CompiledSyncPolicy F) :=
  (table.policies[id.get.toNat]?).join

end PolicyTable

/-! ## Interest -/

/-- Viewer-side interest query. -/
structure ViewerQuery (F : Type) where
  clientId : ClientId
  position : Position3 F
  /-- Primary spherical interest radius. -/
  radius : F
  /-- Maximum number of selected entities. -/
  maxEntities : ℕ

/-- Squared interest radius. -/
def ViewerQuery.radiusSquared [Scalar F] (viewer : ViewerQuery F) : F :=
  Scalar.mul viewer.radius viewer.radius

/-- Whether all bits of `mask` are present. -/
def EntityTags.contains (tags mask : EntityTags) : Bool := tags.bits &&& mask.bits == mask.bits

/-- Whether any bit of `mask` is present. -/
def EntityTags.intersects (tags mask : EntityTags) : Bool := tags.bits &&& mask.bits != 0

/-- Visibility hook: the two methods of the trait. -/
structure VisibilityFilter (F : Type) where
  isVisible : ViewerQuery F → EntityRecord F → Bool
  isVisibleWithDistance : ViewerQuery F → EntityRecord F → F → Bool

namespace VisibilityFilter

/-- A filter that keeps the trait's default for `is_visible_with_distance`. -/
def ofIsVisible (isVisible : ViewerQuery F → EntityRecord F → Bool) : VisibilityFilter F where
  isVisible := isVisible
  isVisibleWithDistance viewer entity _ := isVisible viewer entity

/-- Tag visibility filter: all of `required` and none of `excluded`. -/
def tagVisibility (required excluded : EntityTags) : VisibilityFilter F :=
  ofIsVisible fun _ entity => entity.tags.contains required && !entity.tags.intersects excluded

/-- Visibility filter that requires both child filters to pass. -/
def andVisibility (left right : VisibilityFilter F) : VisibilityFilter F where
  isVisible viewer entity := left.isVisible viewer entity && right.isVisible viewer entity
  isVisibleWithDistance viewer entity distanceSquared :=
    left.isVisibleWithDistance viewer entity distanceSquared
      && right.isVisibleWithDistance viewer entity distanceSquared

variable [Scalar F]

/-- Range-only visibility filter. -/
def rangeOnlyVisibility : VisibilityFilter F where
  isVisible viewer entity :=
    Scalar.le (entity.position.distanceSquared viewer.position) viewer.radiusSquared
  isVisibleWithDistance viewer _ distanceSquared :=
    Scalar.le distanceSquared viewer.radiusSquared

end VisibilityFilter

end SectorSync
