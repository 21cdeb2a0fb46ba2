import SectorSync.Core.Snapshot

/-!
# The copies of handles in records

Every record carries a copy of its handle, which anybody with `get_mut` can overwrite.  No operation
of the station reads it: `forgetHandles` clears the copies, and stations that are the same without
them (`SameRecords`) stay so under every operation and restore (`SameRecords.storeStep`), and have
the same snapshots up to the copies, which `restore` overwrites (`restore_congr`).
-/

namespace SectorSync

variable {F : Type}

@[simp] lemma EntityRecord.forgetHandle_forgetHandle (record : EntityRecord F) :
    record.forgetHandle.forgetHandle = record.forgetHandle := rfl

@[simp] lemma EntityRecord.id_forgetHandle (record : EntityRecord F) :
    record.forgetHandle.id = record.id := rfl

@[simp] lemma EntityRecord.isOwned_forgetHandle (record : EntityRecord F) :
    record.forgetHandle.isOwned = record.isOwned := rfl

namespace Station

/-- The station with every record's copy of its handle cleared. -/
def forgetHandles (s : Station F) : Station F :=
  { s with records := s.records.map (Option.map EntityRecord.forgetHandle) }

section Forget

variable (s : Station F)

@[simp] lemma config_forgetHandles : s.forgetHandles.config = s.config := rfl
@[simp] lemma tick_forgetHandles : s.forgetHandles.tick = s.tick := rfl
@[simp] lemma ownerEpoch_forgetHandles : s.forgetHandles.ownerEpoch = s.ownerEpoch := rfl
@[simp] lemma byId_forgetHandles : s.forgetHandles.byId = s.byId := rfl

@[simp] lemma get_forgetHandles (handle : EntityHandle) :
    s.forgetHandles.get handle = (s.get handle).map EntityRecord.forgetHandle := by
  simp only [get, forgetHandles, List.getElem?_map]
  cases s.generations[handle.index]? with
  | none => rfl
  | some generation =>
      simp only
      split_ifs
      · rfl
      · rw [Option.join_map_eq_map_join]

lemma getById_forgetHandles (id : EntityId) :
    s.forgetHandles.getById id = (s.getById id).map EntityRecord.forgetHandle := by
  simp only [getById, byId_forgetHandles]
  cases s.byId.lookup id with
  | none => rfl
  | some handle => exact s.get_forgetHandles handle

@[simp] lemma forgetHandles_forgetHandles : s.forgetHandles.forgetHandles = s.forgetHandles := by
  simp [forgetHandles, Function.comp_def]

lemma iter_forgetHandles : s.forgetHandles.iter = s.iter.map EntityRecord.forgetHandle := by
  simp only [iter, forgetHandles, List.filterMap_map, List.map_filterMap]
  rfl

end Forget

/-! ## No operation reads a copy -/

section Steps

variable (s : Station F)

lemma forgetHandles_writeRecord (handle : EntityHandle) {record record' : EntityRecord F}
    (hsame : record.forgetHandle = record'.forgetHandle) :
    (s.writeRecord handle record).forgetHandles
      = (s.forgetHandles.writeRecord handle record').forgetHandles := by
  simp [writeRecord, forgetHandles, List.map_set, hsame, Function.comp_def]

lemma allocateHandle_forgetHandles :
    s.forgetHandles.allocateHandle
      = (s.allocateHandle.1, s.allocateHandle.2.forgetHandles) := by
  simp only [allocateHandle, forgetHandles]
  cases s.free with
  | nil => simp
  | cons index free => rfl

lemma forgetHandles_insertNew (record : EntityHandle → EntityRecord F) :
    (s.insertNew record).2.forgetHandles
      = (s.forgetHandles.insertNew record).2.forgetHandles := by
  simp only [insertNew, allocateHandle_forgetHandles]
  simp [insertAllocated, forgetHandles, List.map_set, Function.comp_def]

lemma forgetHandles_upsertGhost (id : EntityId) (position : Position3 F) (bounds : Bounds F)
    (policyId : PolicyId) (ownerStation : StationId) (ownerEpoch : OwnerEpoch)
    (expiresAt : Tick) :
    (s.upsertGhost id position bounds policyId ownerStation ownerEpoch expiresAt).2.forgetHandles
      = (s.forgetHandles.upsertGhost id position bounds policyId ownerStation ownerEpoch
          expiresAt).2.forgetHandles := by
  simp only [upsertGhost, byId_forgetHandles]
  cases s.byId.lookup id with
  | none => exact s.forgetHandles_insertNew _
  | some handle =>
      cases hget : s.get handle with
      | none => simp [hget]
      | some record =>
          simp only [get_forgetHandles, hget, Option.map_some]
          exact s.forgetHandles_writeRecord handle rfl

lemma forgetHandles_remove (handle : EntityHandle) :
    (s.remove handle).2.forgetHandles = (s.forgetHandles.remove handle).2.forgetHandles := by
  cases hget : s.get handle with
  | none => simp [remove, hget]
  | some record =>
      have hget' : s.forgetHandles.get handle = some record.forgetHandle := by simp [hget]
      rw [remove_eq hget, remove_eq hget']
      simp [forgetHandles, List.map_set, Function.comp_def]

lemma forgetHandles_commitIncomingHandoff (t : HandoffTransfer F) :
    (s.commitIncomingHandoff t).2.forgetHandles
      = (s.forgetHandles.commitIncomingHandoff t).2.forgetHandles := by
  by_cases htarget : t.targetStation = s.config.stationId
  · simp only [commitIncomingHandoff, config_forgetHandles, htarget, ne_eq, not_true_eq_false,
      if_false, handleById, byId_forgetHandles]
    cases s.byId.lookup t.entityId with
    | none =>
        have hnew := s.forgetHandles_insertNew (incomingRecord t)
        exact congrArg ({ · with ownerEpoch := t.targetOwnerEpoch }) hnew
    | some handle =>
        cases hget : s.get handle with
        | none => simp [hget]
        | some record =>
            have hget' : s.forgetHandles.get handle = some record.forgetHandle := by simp [hget]
            cases howned : record.isOwned with
            | true => simp [hget, howned]
            | false =>
                have hwrite : (s.writeRecord handle (incomingRecord t handle)).forgetHandles
                    = (s.forgetHandles.writeRecord handle
                      (incomingRecord t handle)).forgetHandles :=
                  s.forgetHandles_writeRecord handle rfl
                simp only [hget, hget', howned, EntityRecord.isOwned_forgetHandle,
                  Bool.false_eq_true, if_false]
                exact congrArg ({ · with ownerEpoch := t.targetOwnerEpoch }) hwrite
  · have htarget' : t.targetStation ≠ s.forgetHandles.config.stationId := htarget
    simp [commitIncomingHandoff_wrong htarget, commitIncomingHandoff_wrong htarget']

lemma forgetHandles_commitOutgoingHandoff (t : HandoffTransfer F) :
    (s.commitOutgoingHandoff t).2.forgetHandles
      = (s.forgetHandles.commitOutgoingHandoff t).2.forgetHandles := by
  by_cases hsource : t.sourceStation = s.config.stationId
  · simp only [commitOutgoingHandoff, config_forgetHandles, hsource, ne_eq, not_true_eq_false,
      if_false, handleById, byId_forgetHandles]
    cases s.byId.lookup t.entityId with
    | none => simp
    | some handle =>
        cases hget : s.get handle with
        | none => simp [hget]
        | some record =>
            have hget' : s.forgetHandles.get handle = some record.forgetHandle := by simp [hget]
            cases howned : record.isOwned with
            | true =>
                simp only [hget, hget', howned, EntityRecord.isOwned_forgetHandle, if_true]
                exact s.forgetHandles_writeRecord handle rfl
            | false => simp [hget, howned]
  · have hsource' : t.sourceStation ≠ s.forgetHandles.config.stationId := hsource
    simp [commitOutgoingHandoff_wrong hsource, commitOutgoingHandoff_wrong hsource']

/-- What an operation leaves, up to the copies, does not depend on them. -/
lemma forgetHandles_step (op : StationOp F) :
    (s.step op).forgetHandles = (s.forgetHandles.step op).forgetHandles := by
  cases op with
  | spawnOwned id position bounds policyId =>
      cases hlook : s.byId.lookup id with
      | none =>
          simp only [step, perform, reply, spawnOwned, byId_forgetHandles, hlook,
            Option.isSome_none, Bool.false_eq_true, if_false]
          exact s.forgetHandles_insertNew _
      | some handle => simp [step, perform, reply, spawnOwned, hlook]
  | upsertGhost id position bounds policyId ownerStation ownerEpoch expiresAt =>
      exact s.forgetHandles_upsertGhost id position bounds policyId ownerStation ownerEpoch
        expiresAt
  | moveOwned handle position =>
      cases hget : s.get handle with
      | none => simp [step, perform, reply, moveOwned, hget]
      | some record =>
          have hget' : s.forgetHandles.get handle = some record.forgetHandle := by simp [hget]
          cases howned : record.isOwned with
          | true =>
              simp only [step, perform, reply, moveOwned, hget, hget', howned,
                EntityRecord.isOwned_forgetHandle, if_true]
              exact s.forgetHandles_writeRecord handle rfl
          | false => simp [step, perform, reply, moveOwned, hget, howned]
  | setTags handle tags =>
      cases hget : s.get handle with
      | none => simp [step, perform, reply, setTags, hget]
      | some record =>
          have hget' : s.forgetHandles.get handle = some record.forgetHandle := by simp [hget]
          cases howned : record.isOwned with
          | true =>
              simp only [step, perform, reply, setTags, hget, hget', howned,
                EntityRecord.isOwned_forgetHandle, if_true]
              exact s.forgetHandles_writeRecord handle rfl
          | false => simp [step, perform, reply, setTags, hget, howned]
  | clearDirty handle mask =>
      cases hget : s.get handle with
      | none => simp [step, perform, reply, clearDirty, hget]
      | some record =>
          simp only [step, perform, reply, clearDirty, get_forgetHandles, hget, Option.map_some]
          exact s.forgetHandles_writeRecord handle rfl
  | remove handle => exact s.forgetHandles_remove handle
  | removeById id =>
      simp only [step, perform, reply, removeById, byId_forgetHandles]
      cases s.byId.lookup id with
      | none => simp
      | some handle => exact s.forgetHandles_remove handle
  | nextOwnerEpoch =>
      exact congrArg ({ · with ownerEpoch := s.nextOwnerEpoch.1 })
        s.forgetHandles_forgetHandles.symm
  | advanceTick =>
      exact congrArg ({ · with tick := s.advanceTick.tick }) s.forgetHandles_forgetHandles.symm
  | prepareOutgoingHandoff => simp [step, perform]
  | prewarmHandoffGhost t =>
      by_cases htarget : t.targetStation = s.config.stationId
      · simp only [step, perform, reply, prewarmHandoffGhost, config_forgetHandles, htarget, ne_eq,
          not_true_eq_false, if_false]
        exact s.forgetHandles_upsertGhost _ _ _ _ _ _ _
      · simp [step, perform, reply, prewarmHandoffGhost, htarget]
  | commitIncomingHandoff t => exact s.forgetHandles_commitIncomingHandoff t
  | commitOutgoingHandoff t => exact s.forgetHandles_commitOutgoingHandoff t

lemma forgetHandles_storeStep (op : StoreOp F) :
    (s.storeStep op).forgetHandles = (s.forgetHandles.storeStep op).forgetHandles := by
  cases op with
  | op op => exact s.forgetHandles_step op
  | restore config snapshot =>
      simp only [storeStep, performStore]
      cases restore config snapshot with
      | error error => simp
      | ok restored => rfl

end Steps

/-- The stations are the same without the copies of handles in their records. -/
def SameRecords (s t : Station F) : Prop := s.forgetHandles = t.forgetHandles

namespace SameRecords

variable {s t : Station F}

@[symm] lemma symm (h : SameRecords s t) : SameRecords t s := Eq.symm h

lemma config (h : SameRecords s t) : s.config = t.config := by
  rw [← s.config_forgetHandles, h, t.config_forgetHandles]

lemma tick (h : SameRecords s t) : s.tick = t.tick := by
  rw [← s.tick_forgetHandles, h, t.tick_forgetHandles]

lemma ownerEpoch (h : SameRecords s t) : s.ownerEpoch = t.ownerEpoch := by
  rw [← s.ownerEpoch_forgetHandles, h, t.ownerEpoch_forgetHandles]

lemma byId (h : SameRecords s t) : s.byId = t.byId := by
  rw [← s.byId_forgetHandles, h, t.byId_forgetHandles]

lemma get (h : SameRecords s t) (handle : EntityHandle) :
    (s.get handle).map EntityRecord.forgetHandle
      = (t.get handle).map EntityRecord.forgetHandle := by
  rw [← get_forgetHandles, ← get_forgetHandles, h]

/-- A record of one station has one of the other beside it. -/
lemma exists_get (h : SameRecords s t) {handle : EntityHandle} {record : EntityRecord F}
    (hget : s.get handle = some record) :
    ∃ record', t.get handle = some record' ∧ record'.forgetHandle = record.forgetHandle := by
  have hboth := h.get handle
  rw [hget, Option.map_some, eq_comm, Option.map_eq_some_iff] at hboth
  exact hboth

lemma getById (h : SameRecords s t) (id : EntityId) :
    (s.getById id).map EntityRecord.forgetHandle
      = (t.getById id).map EntityRecord.forgetHandle := by
  rw [← getById_forgetHandles, ← getById_forgetHandles, h]

lemma iter (h : SameRecords s t) :
    s.iter.map EntityRecord.forgetHandle = t.iter.map EntityRecord.forgetHandle := by
  rw [← iter_forgetHandles, ← iter_forgetHandles, h]

lemma writeRecord (h : SameRecords s t) (handle : EntityHandle) {record record' : EntityRecord F}
    (hsame : record.forgetHandle = record'.forgetHandle) :
    SameRecords (s.writeRecord handle record) (t.writeRecord handle record') := by
  have hs := s.forgetHandles_writeRecord handle hsame
  have ht : (t.writeRecord handle record').forgetHandles
      = (t.forgetHandles.writeRecord handle record').forgetHandles :=
    t.forgetHandles_writeRecord handle rfl
  rw [h] at hs
  exact hs.trans ht.symm

/-- **No operation reads a copy.** -/
theorem storeStep (h : SameRecords s t) (op : StoreOp F) :
    SameRecords (s.storeStep op) (t.storeStep op) := by
  have hs := s.forgetHandles_storeStep op
  rw [h] at hs
  exact hs.trans (t.forgetHandles_storeStep op).symm

lemma storesNamed (h : SameRecords s t) {op : StoreOp F} (hok : s.StoresNamed op) :
    t.StoresNamed op := by
  match op with
  | .op (.commitIncomingHandoff transfer) =>
      intro htarget
      have hnamed := hok (htarget.trans (congrArg StationConfig.stationId h.config.symm))
      rw [h.byId] at hnamed
      cases hlook : t.byId.lookup transfer.entityId with
      | none => simpa only [hlook] using hnamed
      | some handle =>
          simp only [hlook] at hnamed ⊢
          intro record' hget' hghost
          obtain ⟨record, hget, hsame⟩ := exists_get h.symm hget'
          have howned : record.isOwned = record'.isOwned := by
            rw [← record.isOwned_forgetHandle, hsame, record'.isOwned_forgetHandle]
          exact hnamed record hget (howned.trans hghost)
  | .op (.spawnOwned _ _ _ _) | .op (.upsertGhost _ _ _ _ _ _ _) | .op (.moveOwned _ _)
  | .op (.setTags _ _) | .op (.clearDirty _ _) | .op (.remove _) | .op (.removeById _)
  | .op .nextOwnerEpoch | .op .advanceTick | .op (.prepareOutgoingHandoff _ _ _ _)
  | .op (.prewarmHandoffGhost _) | .op (.commitOutgoingHandoff _) | .restore _ _ => trivial

end SameRecords

/-! ## Restoring overwrites the copies -/

lemma restoreRecord_forgetHandle (s : Station F) (record : EntityRecord F) :
    s.restoreRecord record.forgetHandle = s.restoreRecord record := rfl

/-- Snapshots that are the same without the copies restore to the same station. -/
lemma restore_congr {snapshot snapshot' : StationSnapshot F} (config : StationConfig)
    (hmeta : snapshot.metadata = snapshot'.metadata)
    (hentities : snapshot.entities.map EntityRecord.forgetHandle
      = snapshot'.entities.map EntityRecord.forgetHandle) :
    restore config snapshot = restore config snapshot' := by
  have hforget : ∀ (s : Station F) records,
      List.foldlM restoreRecord s (records.map EntityRecord.forgetHandle)
        = List.foldlM restoreRecord s records := by
    intro s records
    rw [List.foldlM_map]
    simp only [restoreRecord_forgetHandle]
  simp only [restore, hmeta]
  rw [← hforget _ snapshot.entities, hentities, hforget]

lemma SameRecords.restore_snapshot {s t : Station F} (h : SameRecords s t)
    (config : StationConfig) (version : SnapshotVersion) :
    restore config (s.snapshot version) = restore config (t.snapshot version) := by
  have hlength : s.iter.length = t.iter.length := by
    simpa only [List.length_map] using congrArg List.length h.iter
  refine restore_congr config ?_ h.iter
  simp only [snapshot, h.config, h.tick, h.ownerEpoch, hlength]

end Station

end SectorSync
