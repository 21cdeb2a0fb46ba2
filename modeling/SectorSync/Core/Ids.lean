import SectorSync.Base.Machine
import SectorSync.Base.FiniteMap
import Mathlib.Data.Prod.Lex

/-!
# Identifiers, handles and map types

The typed identifiers of `ids.rs`.  The source generates one newtype per identifier with the
same macro; here they are one structure indexed by a kind, so that two kinds never unify, and
each identifier keeps its own name and raw width.

Maps are Mathlib's finite maps under the source's names.  A `HashMap` has no iteration order;
where the source iterates one and sorts, or iterates a `BTreeMap`, the model uses
`Finmap.sortedKeys`.  Quantities of type `usize` are natural numbers.
-/

namespace SectorSync

/-- `std::collections::HashMap`. -/
abbrev HashMap (K V : Type) := Finmap fun _ : K => V

/-- `std::collections::BTreeMap`. -/
abbrev BTreeMap (K V : Type) := Finmap fun _ : K => V

/-- One kind for each `id_type!` of the source. -/
inductive IdKind where
  | entity | client | command | station | node | world | policy | component | event | barrier
  | tick | ownerEpoch
  deriving DecidableEq

/-- A newtype around a raw machine word. -/
structure TypedId (kind : IdKind) (Raw : Type) where
  get : Raw
  deriving DecidableEq, Inhabited

namespace TypedId

variable {kind : IdKind} {Raw : Type}

lemma get_injective : Function.Injective (TypedId.get : TypedId kind Raw → Raw) := by
  rintro ⟨a⟩ ⟨b⟩ rfl
  rfl

instance [LinearOrder Raw] : LinearOrder (TypedId kind Raw) :=
  LinearOrder.ofKey TypedId.get get_injective

lemma lt_iff_get_lt [LinearOrder Raw] {a b : TypedId kind Raw} : a < b ↔ a.get < b.get := Iff.rfl

lemma le_iff_get_le [LinearOrder Raw] {a b : TypedId kind Raw} : a ≤ b ↔ a.get ≤ b.get := Iff.rfl

end TypedId

abbrev EntityId := TypedId .entity UInt64
abbrev ClientId := TypedId .client UInt64
abbrev CommandId := TypedId .command UInt64
abbrev StationId := TypedId .station UInt32
abbrev NodeId := TypedId .node UInt32
abbrev InstanceId := TypedId .world UInt64
abbrev PolicyId := TypedId .policy UInt16
abbrev ComponentId := TypedId .component UInt16
abbrev EventId := TypedId .event UInt64
abbrev BarrierId := TypedId .barrier UInt64
abbrev Tick := TypedId .tick UInt64
abbrev OwnerEpoch := TypedId .ownerEpoch UInt64

/-- Dense, generation-checked handle for station-local entity storage.  The index is a slot
number of a `Vec`; the source stores it as a `u32` and panics at the slot that does not fit. -/
structure EntityHandle where
  index : ℕ
  generation : UInt32
  deriving DecidableEq, Inhabited

namespace EntityHandle

/-- The derived order: by index, then by generation. -/
def key (h : EntityHandle) : ℕ ×ₗ UInt32 := toLex (h.index, h.generation)

lemma key_injective : Function.Injective key := by
  rintro ⟨i, g⟩ ⟨j, k⟩ h
  simpa [key] using h

instance : LinearOrder EntityHandle := LinearOrder.ofKey key key_injective

end EntityHandle

end SectorSync
