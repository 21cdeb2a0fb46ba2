import SectorSync.Core.StationStore

/-!
# Specifications of the authority operations

What each operation of a station that can change an owner does to the id-to-record map, given
the store invariant.  A successful operation is `Updates`: it replaces the record of one id and
touches no other record, nor configuration or tick.  `owns` is the authority an entity has at a
station; the `owns_` lemmas state each operation's effect on it in one equation, whether the
operation succeeds or fails.
-/

namespace SectorSync

variable {F : Type}

namespace Station

/-- `s'` differs from `s` in the record of one id and possibly in the epoch counter. -/
structure Updates (s s' : Station F) (id : EntityId) (record : EntityRecord F) : Prop where
  inv : s'.StoreInv
  config : s'.config = s.config
  tick : s'.tick = s.tick
  getById : ∀ id', s'.getById id' = if id' = id then some record else s.getById id'

/-- Whether the station is authoritative for the entity. -/
def owns (s : Station F) (id : EntityId) : Bool := (s.getById id).any (·.isOwned)

lemma owns_eq_true {s : Station F} {id : EntityId} :
    s.owns id = true ↔ ∃ r, s.getById id = some r ∧ r.isOwned = true := by
  simp [owns, Option.any_eq_true]

lemma Updates.owns {s s' : Station F} {id : EntityId} {record : EntityRecord F}
    (h : Updates s s' id record) (id' : EntityId) :
    s'.owns id' = if id' = id then record.isOwned else s.owns id' := by
  rw [Station.owns, h.getById]
  split_ifs with hid
  · rfl
  · rfl

/-- Two updates of one id are the second. -/
lemma Updates.trans {s s' s'' : Station F} {id : EntityId} {r r' : EntityRecord F}
    (h : Updates s s' id r) (h' : Updates s' s'' id r') : Updates s s'' id r' where
  inv := h'.inv
  config := h'.config.trans h.config
  tick := h'.tick.trans h.tick
  getById id' := by
    rw [h'.getById, h.getById]
    split_ifs
    · rfl
    · rfl

/-- The updated record is read under the handle that the id map has. -/
lemma Updates.get_of_lookup {s s' : Station F} {id : EntityId} {record : EntityRecord F}
    {h : EntityHandle} (hup : Updates s s' id record) (hlook : s'.byId.lookup id = some h) :
    s'.get h = some record := by
  have hby := hup.getById id
  rw [if_pos rfl] at hby
  obtain ⟨h', hlook', hget⟩ := getById_eq_some.mp hby
  rw [hlook, Option.some.injEq] at hlook'
  rw [hlook', hget]

/-- The updated record is read under the handle that it carries. -/
lemma Updates.get_of_handle {s s' : Station F} {id : EntityId} {record : EntityRecord F}
    {h : EntityHandle} (hup : Updates s s' id record) (hhandle : record.handle = h) :
    s'.get h = some record := by
  have hby := hup.getById id
  rw [if_pos rfl] at hby
  obtain ⟨h', -, hget⟩ := getById_eq_some.mp hby
  rw [← hhandle, (hup.inv.id_of_get h' record hget).2, hget]

variable {s : Station F}

/-- Overwriting a live record under its own id. -/
lemma updates_writeRecord (inv : s.StoreInv) {h : EntityHandle} {old r : EntityRecord F}
    (hget : s.get h = some old) (hid : r.id = old.id) (hhandle : r.handle = old.handle) :
    Updates s (s.writeRecord h r) old.id r where
  inv := inv.writeRecord hget hid (hhandle.trans (inv.id_of_get h old hget).2)
  config := rfl
  tick := rfl
  getById := inv.getById_writeRecord hget

/-- Storing a record under an id the station does not have. -/
lemma updates_insertNew (inv : s.StoreInv) (record : EntityHandle → EntityRecord F)
    {id : EntityId} (hnew : s.byId.lookup id = none) (hid : ∀ h, (record h).id = id)
    (hhandle : ∀ h, (record h).handle = h) :
    Updates s (s.insertNew record).2 id (record (s.insertNew record).1) where
  inv := inv.insertNew hnew hid hhandle
  config := config_insertNew s
  tick := tick_insertNew s
  getById := inv.getById_insertNew hid

/-- Reading through the id map: an id has a live record, or no entry at all. -/
lemma StoreInv.lookup_cases (inv : s.StoreInv) (id : EntityId) :
    (s.byId.lookup id = none ∧ s.getById id = none)
      ∨ ∃ h r, s.byId.lookup id = some h ∧ s.get h = some r ∧ r.id = id
          ∧ s.getById id = some r := by
  cases hlook : s.byId.lookup id with
  | none => exact Or.inl ⟨rfl, inv.getById_eq_none.mpr hlook⟩
  | some h =>
      obtain ⟨r, hget, hid⟩ := inv.get_of_id id h hlook
      exact Or.inr ⟨h, r, rfl, hget, hid, getById_eq_some.mpr ⟨h, hlook, hget⟩⟩

/-! ## Spawning and ghosts -/

section Spawn

variable (id : EntityId) (position : Position3 F) (bounds : Bounds F) (policyId : PolicyId)

/-- Spawning fails on a known id and otherwise stores an owned record. -/
theorem spawnOwned_spec (inv : s.StoreInv) :
    ((s.getById id).isSome ∧ s.spawnOwned id position bounds policyId
        = (.error (.duplicateEntity id), s))
      ∨ (s.getById id = none ∧ ∃ h s', s.spawnOwned id position bounds policyId = (.ok h, s')
          ∧ Updates s s' id (.owned id h position bounds policyId s.ownerEpoch)) := by
  rcases inv.lookup_cases id with ⟨hlook, hby⟩ | ⟨h, r, hlook, _, _, hby⟩
  · let record := fun h : EntityHandle =>
      EntityRecord.owned id h position bounds policyId s.ownerEpoch
    have hup := updates_insertNew inv record hlook (fun _ => rfl) (fun _ => rfl)
    refine Or.inr ⟨hby, _, _, ?_, hup⟩
    simp [spawnOwned, hlook, record]
  · exact Or.inl ⟨by simp [hby], by simp [spawnOwned, hlook]⟩

lemma StoreInv.spawnOwned (inv : s.StoreInv) :
    (s.spawnOwned id position bounds policyId).2.StoreInv := by
  rcases spawnOwned_spec id position bounds policyId inv with ⟨_, heq⟩ | ⟨_, h, s', heq, hup⟩
  · rw [heq]
    exact inv
  · rw [heq]
    exact hup.inv

variable (ownerStation : StationId) (ownerEpoch : OwnerEpoch) (expiresAt : Tick)

/-- A ghost upsert always succeeds, and leaves a ghost record whatever the role was before. -/
theorem upsertGhost_spec (inv : s.StoreInv) :
    ∃ h r s', s.upsertGhost id position bounds policyId ownerStation ownerEpoch expiresAt = (h, s')
      ∧ Updates s s' id r ∧ r.role = .ghost ownerStation ownerEpoch expiresAt
      ∧ s'.ownerEpoch = s.ownerEpoch := by
  rcases inv.lookup_cases id with ⟨hlook, _⟩ | ⟨h, r, hlook, hget, hid, _⟩
  · let record := fun h : EntityHandle =>
      EntityRecord.ghost id h position bounds policyId ownerStation ownerEpoch expiresAt
    have hup := updates_insertNew inv record hlook (fun _ => rfl) (fun _ => rfl)
    refine ⟨(s.insertNew record).1, _, _, ?_, hup, rfl, ownerEpoch_insertNew s⟩
    simp [upsertGhost, hlook, record]
  · subst hid
    have hup := updates_writeRecord inv hget (r := { r with
      position := position, bounds := bounds, policyId := policyId
      role := .ghost ownerStation ownerEpoch expiresAt
      dirty := r.dirty.insert .transform }) rfl rfl
    refine ⟨h, _, _, ?_, hup, rfl, rfl⟩
    simp [upsertGhost, hlook, hget]

end Spawn

/-! ## The two phases -/

section Handoff

variable {t : HandoffTransfer F}

/-- A prepared transfer names this station as its source and carries the owned record. -/
theorem prepareOutgoingHandoff_eq_ok {id : EntityId} {target : StationId} {epoch : OwnerEpoch}
    {expires : Tick} :
    s.prepareOutgoingHandoff id target epoch expires = .ok t
      ↔ target ≠ s.config.stationId ∧ ∃ r, s.getById id = some r ∧ r.isOwned = true
          ∧ t = { entityId := id, sourceStation := s.config.stationId, targetStation := target
                  sourceOwnerEpoch := r.role.ownerEpoch, targetOwnerEpoch := epoch
                  preparedAt := s.tick, sourceGhostExpiresAt := expires, entity := r } := by
  unfold prepareOutgoingHandoff
  by_cases htarget : target = s.config.stationId
  · simp [htarget]
  · rw [if_neg htarget]
    cases hget : s.getById id with
    | none => simp
    | some r =>
        cases hr : r.isOwned with
        | false => simp [hr]
        | true =>
            simp only [hr, if_true, Except.ok.injEq]
            constructor
            · rintro rfl
              exact ⟨htarget, r, rfl, hr, rfl⟩
            · rintro ⟨_, r', hr', _, rfl⟩
              rw [Option.some.injEq] at hr'
              rw [hr']

/-- A prewarm at the target succeeds and leaves a ghost record. -/
theorem prewarmHandoffGhost_spec (inv : s.StoreInv) (ht : t.targetStation = s.config.stationId) :
    ∃ h r s', s.prewarmHandoffGhost t = (.ok h, s') ∧ Updates s s' t.entityId r
      ∧ r.role = .ghost t.sourceStation t.sourceOwnerEpoch t.sourceGhostExpiresAt
      ∧ s'.ownerEpoch = s.ownerEpoch := by
  obtain ⟨h, r, s', heq, hup, hrole, hepoch⟩ := upsertGhost_spec t.entityId t.entity.position
    t.entity.bounds t.entity.policyId t.sourceStation t.sourceOwnerEpoch t.sourceGhostExpiresAt inv
  refine ⟨h, r, s', ?_, hup, hrole, hepoch⟩
  simp [prewarmHandoffGhost, ht, heq]

lemma prewarmHandoffGhost_wrong (ht : t.targetStation ≠ s.config.stationId) :
    s.prewarmHandoffGhost t
      = (.error (.wrongHandoffTarget s.config.stationId t.targetStation), s) := by
  simp [prewarmHandoffGhost, ht]

/-- An incoming commit at the target fails only on an entity the target owns, and otherwise
takes the record and the epoch of the transfer. -/
theorem commitIncomingHandoff_spec (inv : s.StoreInv)
    (ht : t.targetStation = s.config.stationId) (hid : t.entity.id = t.entityId) :
    (s.owns t.entityId = true
        ∧ s.commitIncomingHandoff t = (.error (.alreadyOwner t.entityId), s))
      ∨ (s.owns t.entityId = false ∧ ∃ h s', s.commitIncomingHandoff t = (.ok h, s')
          ∧ Updates s s' t.entityId (incomingRecord t h)
          ∧ s'.ownerEpoch = t.targetOwnerEpoch) := by
  rcases inv.lookup_cases t.entityId with ⟨hlook, hby⟩ | ⟨h, r, hlook, hget, hrid, hby⟩
  · have hup := updates_insertNew inv (incomingRecord t) hlook (fun _ => hid) (fun _ => rfl)
    refine Or.inr ⟨by simp [owns, hby], (s.insertNew (incomingRecord t)).1,
      { (s.insertNew (incomingRecord t)).2 with ownerEpoch := t.targetOwnerEpoch }, ?_, ?_, rfl⟩
    · simp [commitIncomingHandoff, ht, handleById, hlook]
    · exact ⟨storeInv_congr hup.inv rfl rfl rfl rfl, hup.config, hup.tick, hup.getById⟩
  · have hhandle := (inv.id_of_get h r hget).2
    cases hr : r.isOwned with
    | true =>
        refine Or.inl ⟨by simp [owns, hby, hr], ?_⟩
        simp [commitIncomingHandoff, ht, handleById, hlook, hget, hr]
    | false =>
        have hup := updates_writeRecord inv hget (r := incomingRecord t h)
          (hid.trans hrid.symm) hhandle.symm
        rw [hrid] at hup
        refine Or.inr ⟨by simp [owns, hby, hr], h,
          { s.writeRecord h (incomingRecord t h) with ownerEpoch := t.targetOwnerEpoch }, ?_, ?_,
          rfl⟩
        · simp [commitIncomingHandoff, ht, handleById, hlook, hget, hr]
        · exact ⟨storeInv_congr hup.inv rfl rfl rfl rfl, hup.config, hup.tick, hup.getById⟩

lemma commitIncomingHandoff_wrong (ht : t.targetStation ≠ s.config.stationId) :
    s.commitIncomingHandoff t
      = (.error (.wrongHandoffTarget s.config.stationId t.targetStation), s) := by
  simp [commitIncomingHandoff, ht]

/-- The ghost a source keeps of a record it handed over. -/
def outgoingRecord (t : HandoffTransfer F) (r : EntityRecord F) : EntityRecord F :=
  { r with
    role := .ghost t.targetStation t.targetOwnerEpoch t.sourceGhostExpiresAt
    dirty := r.dirty.insert .transform }

/-- An outgoing commit at the source demotes an owned record and otherwise changes nothing. -/
theorem commitOutgoingHandoff_spec (inv : s.StoreInv)
    (ht : t.sourceStation = s.config.stationId) :
    (s.owns t.entityId = false ∧ ∃ error, s.commitOutgoingHandoff t = (.error error, s))
      ∨ ∃ h r s', s.getById t.entityId = some r ∧ r.isOwned = true
          ∧ s.commitOutgoingHandoff t = (.ok h, s')
          ∧ Updates s s' t.entityId (outgoingRecord t r) ∧ s'.ownerEpoch = s.ownerEpoch := by
  rcases inv.lookup_cases t.entityId with ⟨hlook, hby⟩ | ⟨h, r, hlook, hget, hrid, hby⟩
  · refine Or.inl ⟨by simp [owns, hby], .missingEntity t.entityId, ?_⟩
    simp [commitOutgoingHandoff, ht, handleById, hlook]
  · cases hr : r.isOwned with
    | false =>
        refine Or.inl ⟨by simp [owns, hby, hr], .notOwner t.entityId, ?_⟩
        simp [commitOutgoingHandoff, ht, handleById, hlook, hget, hr]
    | true =>
        have hup := updates_writeRecord inv hget (r := outgoingRecord t r) rfl rfl
        rw [hrid] at hup
        refine Or.inr ⟨h, r, _, hby, hr, ?_, hup, rfl⟩
        simp [commitOutgoingHandoff, ht, handleById, hlook, hget, hr, outgoingRecord]

/-- The handle that an outgoing commit returns is that of the id map. -/
lemma lookup_of_commitOutgoingHandoff {h : EntityHandle} {s' : Station F}
    (hcommit : s.commitOutgoingHandoff t = (.ok h, s')) :
    s'.byId.lookup t.entityId = some h := by
  rw [commitOutgoingHandoff] at hcommit
  split_ifs at hcommit
  · simp at hcommit
  cases hlook : s.handleById t.entityId with
  | none => simp [hlook] at hcommit
  | some handle =>
      cases hget : s.get handle with
      | none => simp [hlook, hget] at hcommit
      | some record =>
          simp only [hlook, hget] at hcommit
          split_ifs at hcommit
          · simp only [Prod.mk.injEq, Except.ok.injEq] at hcommit
            obtain ⟨rfl, rfl⟩ := hcommit
            exact hlook
          · simp at hcommit

lemma commitOutgoingHandoff_wrong (ht : t.sourceStation ≠ s.config.stationId) :
    s.commitOutgoingHandoff t
      = (.error (.wrongHandoffSource s.config.stationId t.sourceStation), s) := by
  simp [commitOutgoingHandoff, ht]

end Handoff

/-! ## Removal -/

lemma StoreInv.removeById (inv : s.StoreInv) (id : EntityId) : (s.removeById id).2.StoreInv := by
  rcases inv.lookup_cases id with ⟨hlook, _⟩ | ⟨h, r, hlook, hget, _, _⟩
  · rw [Station.removeById, hlook]
    exact inv
  · rw [Station.removeById, hlook]
    exact inv.remove hget

lemma config_removeById (s : Station F) (id : EntityId) :
    (s.removeById id).2.config = s.config := by
  rw [removeById]
  cases s.byId.lookup id with
  | none => rfl
  | some h =>
      simp only [remove]
      cases s.get h with
      | none => rfl
      | some r => rfl

/-! ## Authority after each operation -/

section Owns

variable {t : HandoffTransfer F} (e : EntityId)

/-- A spawn adds authority exactly when the id was unknown. -/
lemma owns_spawnOwned (inv : s.StoreInv) (id : EntityId) (position : Position3 F)
    (bounds : Bounds F) (policyId : PolicyId) :
    (s.spawnOwned id position bounds policyId).2.owns e
      = (decide (e = id) && (s.getById id).isNone || s.owns e) := by
  rcases spawnOwned_spec id position bounds policyId inv with
    ⟨hby, heq⟩ | ⟨hby, h, s', heq, hup⟩
  · rw [heq]
    cases hget : s.getById id with
    | none => simp [hget] at hby
    | some r => simp
  · rw [heq, hup.owns]
    by_cases he : e = id
    · simp [he, hby]
    · simp [he]

/-- A ghost upsert removes the authority of its entity. -/
lemma owns_upsertGhost (inv : s.StoreInv) (id : EntityId) (position : Position3 F)
    (bounds : Bounds F) (policyId : PolicyId) (ownerStation : StationId)
    (ownerEpoch : OwnerEpoch) (expiresAt : Tick) :
    (s.upsertGhost id position bounds policyId ownerStation ownerEpoch expiresAt).2.owns e
      = (decide (e ≠ id) && s.owns e) := by
  obtain ⟨h, r, s', heq, hup, hrole, _⟩ := upsertGhost_spec id position bounds policyId
    ownerStation ownerEpoch expiresAt inv
  rw [heq, hup.owns]
  by_cases he : e = id
  · simp [he, EntityRecord.isOwned, hrole]
  · simp [he]

/-- A prewarm at the target removes the authority of its entity. -/
lemma owns_prewarmHandoffGhost (inv : s.StoreInv) (ht : t.targetStation = s.config.stationId) :
    (s.prewarmHandoffGhost t).2.owns e = (decide (e ≠ t.entityId) && s.owns e) := by
  obtain ⟨h, r, s', heq, hup, hrole, _⟩ := prewarmHandoffGhost_spec inv ht
  rw [heq, hup.owns]
  by_cases he : e = t.entityId
  · simp [he, EntityRecord.isOwned, hrole]
  · simp [he]

/-- After an outgoing commit at the source the source does not own the entity. -/
lemma owns_commitOutgoingHandoff (inv : s.StoreInv)
    (ht : t.sourceStation = s.config.stationId) :
    (s.commitOutgoingHandoff t).2.owns e = (decide (e ≠ t.entityId) && s.owns e) := by
  rcases commitOutgoingHandoff_spec inv ht with ⟨how, _, heq⟩ | ⟨h, r, s', _, _, heq, hup, _⟩
  · rw [heq]
    by_cases he : e = t.entityId
    · simp [he, how]
    · simp [he]
  · rw [heq, hup.owns]
    by_cases he : e = t.entityId
    · simp [he, outgoingRecord, EntityRecord.isOwned]
    · simp [he]

/-- A removal removes the authority of its entity. -/
lemma owns_removeById (inv : s.StoreInv) (id : EntityId) :
    (s.removeById id).2.owns e = (decide (e ≠ id) && s.owns e) := by
  rcases inv.lookup_cases id with ⟨hlook, hby⟩ | ⟨h, r, hlook, hget, hrid, _⟩
  · rw [removeById, hlook]
    by_cases he : e = id
    · simp [he, owns, hby]
    · simp [he]
  · rw [removeById, hlook]
    dsimp only
    rw [owns, inv.getById_remove hget, hrid]
    by_cases he : e = id
    · simp [he]
    · simp [he, owns]

end Owns

end Station

end SectorSync
