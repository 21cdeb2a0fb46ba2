import SectorSync.Core.StaleHandles

/-!
# Where the entities of a station are

`placement` reads the position and bounds of an entity through its handle.  An operation of a
station changes the placement of one handle (`Places`) or of none, whatever records the station
was given: the lemmas below need well-formed slots and nothing of the id map, except that a ghost
upsert must not be led to a removed entity.
-/

namespace SectorSync

variable {F : Type}

namespace Station

/-- The position and bounds read through a handle. -/
def placement (s : Station F) (h : EntityHandle) : Option (Position3 F × Bounds F) :=
  (s.get h).map fun r => (r.position, r.bounds)

/-- `s'` differs from `s` in what is read through one handle. -/
def Places (s s' : Station F) (h : EntityHandle)
    (place : Option (Position3 F × Bounds F)) : Prop :=
  ∀ h', s'.placement h' = if h' = h then place else s.placement h'

/-- Every live handle stays live. -/
def KeepsHandles (s s' : Station F) : Prop := ∀ h, (s.get h).isSome → (s'.get h).isSome

lemma isSome_placement (s : Station F) (h : EntityHandle) :
    (s.placement h).isSome = (s.get h).isSome := Option.isSome_map

lemma KeepsHandles.trans {s s' s'' : Station F} (h : s.KeepsHandles s') (h' : s'.KeepsHandles s'') :
    s.KeepsHandles s'' := fun handle hlive => h' handle (h handle hlive)

section Places

variable {s : Station F} {h handle : EntityHandle}

lemma keepsHandles_of_placement {s' : Station F} (h : s'.placement = s.placement) :
    s.KeepsHandles s' := by
  intro handle hlive
  rwa [← isSome_placement, h, isSome_placement]

lemma Places.keepsHandles {s' : Station F} {place : Position3 F × Bounds F}
    (hplaces : s.Places s' h (some place)) : s.KeepsHandles s' := by
  intro handle hlive
  rw [← isSome_placement, hplaces]
  split_ifs
  · rfl
  · rwa [isSome_placement]

lemma placement_congr {s' : Station F} (hr : s'.records = s.records)
    (hg : s'.generations = s.generations) : s'.placement = s.placement := by
  funext h
  simp [placement, get, hr, hg]

lemma places_writeRecord {old : EntityRecord F} (hget : s.get h = some old)
    (r : EntityRecord F) : s.Places (s.writeRecord h r) h (some (r.position, r.bounds)) := by
  intro h'
  rw [placement, get_writeRecord hget, placement]
  split_ifs
  · rfl
  · rfl

lemma places_insertNew (hwf : s.slots.Wf) (record : EntityHandle → EntityRecord F) :
    s.Places (s.insertNew record).2 (s.insertNew record).1
      (some ((record (s.insertNew record).1).position,
        (record (s.insertNew record).1).bounds)) := by
  intro h'
  rw [placement, (allocated_of_wf hwf).get_insertNew, placement]
  split_ifs
  · rfl
  · rfl

lemma places_remove {r : EntityRecord F} (hget : s.get h = some r) :
    s.Places (s.remove h).2 h none := by
  intro h'
  rw [placement, get_remove hget, placement]
  by_cases hh : h' = h
  · simp [hh]
  · rw [if_neg hh]
    split_ifs with hi
    · cases hget' : s.get h' with
      | none => rfl
      | some r' => exact absurd (handle_eq_of_index hget hget' hi) hh
    · rfl

variable {s' : Station F}

/-- A spawn takes a handle that read nothing and places the entity there. -/
lemma places_spawnOwned (hwf : s.slots.Wf) {id : EntityId} {position : Position3 F}
    {bounds : Bounds F} {policyId : PolicyId}
    (h : s.spawnOwned id position bounds policyId = (.ok handle, s')) :
    s.get handle = none ∧ s.Places s' handle (some (position, bounds)) := by
  rcases s.spawnOwned_cases id position bounds policyId with
    ⟨_, _, -, heq⟩ | ⟨record, -, hrecord, heq⟩
  · simp [heq] at h
  · obtain ⟨hhandle, rfl⟩ := Prod.mk.inj (heq.symm.trans h)
    obtain rfl := Except.ok.inj hhandle
    obtain ⟨rfl, rfl⟩ := hrecord (s.insertNew record).1
    exact ⟨(allocated_of_wf hwf).get_eq_none, places_insertNew hwf record⟩

/-- A ghost upsert places the ghost, unless the id map leads it to a removed entity. -/
lemma places_upsertGhost (hwf : s.slots.Wf) {id : EntityId}
    (hlive : ∀ h, s.byId.lookup id = some h → (s.get h).isSome) (position : Position3 F)
    (bounds : Bounds F) (policyId : PolicyId) (ownerStation : StationId)
    (ownerEpoch : OwnerEpoch) (expiresAt : Tick) :
    s.Places (s.upsertGhost id position bounds policyId ownerStation ownerEpoch expiresAt).2
      (s.upsertGhost id position bounds policyId ownerStation ownerEpoch expiresAt).1
      (some (position, bounds)) := by
  rcases s.upsertGhost_cases id position bounds policyId ownerStation ownerEpoch expiresAt with
    ⟨handle, hlook, hget, -⟩ | ⟨_, _, r, -, hget, rfl, rfl, heq⟩ | ⟨record, -, hrecord, heq⟩
  · have hread := hlive handle hlook
    rw [hget] at hread
    exact absurd hread (by simp)
  · rw [heq]
    exact places_writeRecord hget r
  · rw [heq]
    obtain ⟨rfl, rfl⟩ := hrecord (s.insertNew record).1
    exact places_insertNew hwf record

lemma places_moveOwned {position : Position3 F} (h : s.moveOwned handle position = (.ok (), s')) :
    ∃ r, s'.get handle = some r ∧ s.Places s' handle (some (r.position, r.bounds)) := by
  rcases s.moveOwned_cases handle position with ⟨_, heq⟩ | ⟨old, hget, heq⟩
  · simp [heq] at h
  · obtain ⟨-, rfl⟩ := Prod.mk.inj (heq.symm.trans h)
    exact ⟨_, by rw [get_writeRecord hget, if_pos rfl], places_writeRecord hget _⟩

/-- A prewarm places the ghost; led to a removed entity it does nothing. -/
lemma places_prewarmHandoffGhost (hwf : s.slots.Wf) {t : HandoffTransfer F}
    (h : s.prewarmHandoffGhost t = (.ok handle, s')) :
    (s.byId.lookup t.entityId = some handle ∧ s.get handle = none ∧ s' = s)
      ∨ ∃ r, s'.get handle = some r ∧ s.Places s' handle (some (r.position, r.bounds)) := by
  rcases s.prewarmHandoffGhost_cases t with ⟨-, _, heq⟩ | ⟨-, _, rfl, heq⟩
  · simp [heq] at h
  obtain ⟨hhandle, rfl⟩ := Prod.mk.inj (heq.symm.trans h)
  obtain rfl := Except.ok.inj hhandle
  rcases s.upsertGhost_cases t.entityId t.entity.position t.entity.bounds t.entity.policyId
    t.sourceStation t.sourceOwnerEpoch t.sourceGhostExpiresAt with
    ⟨known, hlook, hget, heq⟩ | ⟨known, _, r, -, hget, -, -, heq⟩ | ⟨record, -, -, heq⟩
  · rw [heq]
    exact Or.inl ⟨hlook, hget, rfl⟩
  · rw [heq]
    exact Or.inr ⟨r, by rw [get_writeRecord hget, if_pos rfl], places_writeRecord hget r⟩
  · rw [heq]
    refine Or.inr ⟨record (s.insertNew record).1, ?_, places_insertNew hwf record⟩
    rw [(allocated_of_wf hwf).get_insertNew, if_pos rfl]

lemma places_commitIncomingHandoff (hwf : s.slots.Wf) {t : HandoffTransfer F}
    (h : s.commitIncomingHandoff t = (.ok handle, s')) :
    s.Places s' handle (some (t.entity.position, t.entity.bounds)) := by
  rcases s.commitIncomingHandoff_cases t with
    ⟨_, -, heq⟩ | ⟨known, _, -, -, hget, -, heq⟩ | ⟨-, -, heq⟩
  · simp [heq] at h
  · obtain ⟨hhandle, rfl⟩ := Prod.mk.inj (heq.symm.trans h)
    obtain rfl := Except.ok.inj hhandle
    exact places_writeRecord hget (incomingRecord t known)
  · obtain ⟨hhandle, rfl⟩ := Prod.mk.inj (heq.symm.trans h)
    obtain rfl := Except.ok.inj hhandle
    exact places_insertNew hwf (incomingRecord t)

/-- Operations that overwrite a record and keep its position and bounds. -/
lemma placement_writeRecord {old r : EntityRecord F} (hget : s.get handle = some old)
    (hposition : r.position = old.position) (hbounds : r.bounds = old.bounds) :
    (s.writeRecord handle r).placement = s.placement := by
  funext h'
  rw [places_writeRecord hget r h', hposition, hbounds]
  split_ifs with hh
  · rw [hh, placement, hget, Option.map_some]
  · rfl

lemma placement_setTags (tags : EntityTags) :
    (s.setTags handle tags).2.placement = s.placement := by
  rcases s.setTags_cases handle tags with ⟨_, heq⟩ | ⟨old, hget, heq⟩
  · rw [heq]
  · rw [heq]
    exact placement_writeRecord hget rfl rfl

lemma placement_commitOutgoingHandoff (t : HandoffTransfer F) :
    (s.commitOutgoingHandoff t).2.placement = s.placement := by
  rcases s.commitOutgoingHandoff_cases t with ⟨_, heq⟩ | ⟨_, old, hget, heq⟩
  · rw [heq]
  · rw [heq]
    exact placement_writeRecord hget rfl rfl

/-! ## Handles that stay live -/

lemma keepsHandles_prewarmHandoffGhost (hwf : s.slots.Wf) {t : HandoffTransfer F}
    (h : s.prewarmHandoffGhost t = (.ok handle, s')) : s.KeepsHandles s' := by
  rcases places_prewarmHandoffGhost hwf h with ⟨-, -, rfl⟩ | ⟨record, -, hplaces⟩
  · exact fun _ hlive => hlive
  · exact hplaces.keepsHandles

lemma keepsHandles_commitIncomingHandoff (hwf : s.slots.Wf) {t : HandoffTransfer F}
    (h : s.commitIncomingHandoff t = (.ok handle, s')) : s.KeepsHandles s' :=
  (places_commitIncomingHandoff hwf h).keepsHandles

lemma keepsHandles_commitOutgoingHandoff {t : HandoffTransfer F}
    (h : s.commitOutgoingHandoff t = (.ok handle, s')) : s.KeepsHandles s' := by
  have hplacement := placement_commitOutgoingHandoff (s := s) t
  rw [h] at hplacement
  exact keepsHandles_of_placement hplacement

end Places

end Station

end SectorSync
