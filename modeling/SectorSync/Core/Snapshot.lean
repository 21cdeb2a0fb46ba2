import SectorSync.Core.StationRun

/-!
# Snapshots restored

What a restored station holds: the records of the snapshot, each under a handle of its own, and the
tick and the epoch of the snapshot's metadata (`restore_spec`).  A station restored from its own
snapshot is the station itself up to handles (`restore_snapshot`).
-/

namespace SectorSync

variable {F : Type}

/-- A record without its handle. -/
def EntityRecord.forgetHandle (record : EntityRecord F) : EntityRecord F :=
  { record with handle := ⟨0, 0⟩ }

namespace Station

/-- The same station, with its records under handles of their own. -/
structure SameUpToHandles (s s' : Station F) : Prop where
  config : s'.config = s.config
  tick : s'.tick = s.tick
  ownerEpoch : s'.ownerEpoch = s.ownerEpoch
  records : ∀ id, (s'.getById id).map EntityRecord.forgetHandle
    = (s.getById id).map EntityRecord.forgetHandle

variable {s s' : Station F}

/-- The record map lists the live records. -/
lemma StoreInv.getById_eq_some_iff (inv : s.StoreInv) {id : EntityId} {record : EntityRecord F} :
    s.getById id = some record ↔ record ∈ s.iter ∧ record.id = id := by
  constructor
  · intro hby
    refine ⟨?_, inv.id_of_getById hby⟩
    obtain ⟨h, -, hget⟩ := getById_eq_some.mp hby
    rw [iter, List.mem_filterMap]
    exact ⟨some record, List.mem_of_getElem? (get_eq_some.mp hget).2, rfl⟩
  · rintro ⟨hmem, rfl⟩
    obtain ⟨slot, hslot, rfl⟩ : ∃ slot ∈ s.records, slot = some record := by
      simpa [iter, List.mem_filterMap] using hmem
    obtain ⟨i, hi⟩ := List.getElem?_of_mem hslot
    obtain ⟨-, hget, hlook⟩ := inv.get_of_slot hi
    exact getById_eq_some.mpr ⟨record.handle, hlook, hget⟩

/-- Restoring one record: its id is known and nothing happens, or it is stored. -/
lemma restoreRecord_eq_ok {record : EntityRecord F} :
    s.restoreRecord record = .ok s'
      ↔ s.byId.lookup record.id = none
        ∧ s' = (s.insertNew fun handle => { record with handle := handle }).2 := by
  rw [restoreRecord]
  cases s.byId.lookup record.id with
  | none => simp [eq_comm]
  | some handle => simp

/-- What the records of a snapshot leave in a station. -/
lemma restoreRecords_spec (inv : s.StoreInv) {records : List (EntityRecord F)}
    (h : records.foldlM restoreRecord s = .ok s') :
    s'.config = s.config ∧ s'.tick = s.tick ∧ s'.ownerEpoch = s.ownerEpoch
      ∧ ∀ id stored, (s'.getById id).map EntityRecord.forgetHandle = some stored
        ↔ (s.getById id).map EntityRecord.forgetHandle = some stored
          ∨ ∃ record ∈ records, record.id = id ∧ record.forgetHandle = stored := by
  induction records generalizing s with
  | nil =>
      obtain rfl : s = s' := Except.ok.inj h
      simp
  | cons record records ih =>
      rw [List.foldlM_cons] at h
      cases hnext : s.restoreRecord record with
      | error error => simp [hnext, bind, Except.bind] at h
      | ok next =>
          rw [hnext] at h
          obtain ⟨hnew, rfl⟩ := restoreRecord_eq_ok.mp hnext
          have hup := updates_insertNew inv (fun handle => { record with handle := handle }) hnew
            (fun _ => rfl) (fun _ => rfl)
          obtain ⟨hconfig, htick, hepoch, hrecords⟩ := ih hup.inv h
          refine ⟨hconfig.trans hup.config, htick.trans hup.tick,
            hepoch.trans (ownerEpoch_insertNew s), fun id stored => ?_⟩
          rw [hrecords, hup.getById, List.exists_mem_cons_iff]
          by_cases hid : id = record.id
          · rw [if_pos hid, hid, inv.getById_eq_none.mpr hnew]
            simp [EntityRecord.forgetHandle]
          · rw [if_neg hid]
            simp [Ne.symm hid]

/-- **What a restored station holds.** -/
theorem restore_spec {config : StationConfig} {snapshot : StationSnapshot F}
    (h : restore config snapshot = .ok s') :
    s'.config = config ∧ s'.tick = snapshot.metadata.tick
      ∧ s'.ownerEpoch = snapshot.metadata.ownerEpoch
      ∧ ∀ id stored, (s'.getById id).map EntityRecord.forgetHandle = some stored
        ↔ ∃ record ∈ snapshot.entities, record.id = id ∧ record.forgetHandle = stored := by
  rw [restore] at h
  split_ifs at h
  have hnew : ({ Station.new config with
      tick := snapshot.metadata.tick
      ownerEpoch := snapshot.metadata.ownerEpoch } : Station F).StoreInv :=
    storeInv_congr (storeInv_new config) rfl rfl rfl rfl
  obtain ⟨hconfig, htick, hepoch, hrecords⟩ := restoreRecords_spec hnew h
  refine ⟨hconfig, htick, hepoch, fun id stored => ?_⟩
  rw [hrecords]
  have hempty : ({ Station.new config with
      tick := snapshot.metadata.tick
      ownerEpoch := snapshot.metadata.ownerEpoch } : Station F).getById id = none :=
    hnew.getById_eq_none.mpr (Finmap.lookup_empty id)
  simp [hempty]

/-- Restoring a snapshot of a station gives its id-to-record map. -/
lemma getById_restore_snapshot (inv : s.StoreInv) {config : StationConfig}
    {version : SnapshotVersion} (h : restore config (s.snapshot version) = .ok s')
    (id : EntityId) : (s'.getById id).map EntityRecord.forgetHandle
      = (s.getById id).map EntityRecord.forgetHandle := by
  obtain ⟨-, -, -, hrecords⟩ := restore_spec h
  refine Option.ext fun stored => ?_
  rw [hrecords, Option.map_eq_some_iff]
  constructor
  · rintro ⟨record, hmem, hid, hstored⟩
    exact ⟨record, inv.getById_eq_some_iff.mpr ⟨hmem, hid⟩, hstored⟩
  · rintro ⟨record, hby, hstored⟩
    obtain ⟨hmem, hid⟩ := inv.getById_eq_some_iff.mp hby
    exact ⟨record, hmem, hid, hstored⟩

/-- A station restored from its own snapshot is the same up to handles. -/
theorem restore_snapshot (inv : s.StoreInv) {version : SnapshotVersion}
    (h : restore s.config (s.snapshot version) = .ok s') : SameUpToHandles s s' := by
  obtain ⟨hconfig, htick, hepoch, -⟩ := restore_spec h
  exact ⟨hconfig, htick, hepoch, getById_restore_snapshot inv h⟩

/-- Records of new and distinct ids are all stored. -/
lemma exists_restoreRecords {records : List (EntityRecord F)} (inv : s.StoreInv)
    (hdistinct : (records.map (·.id)).Nodup)
    (hnew : ∀ record ∈ records, s.byId.lookup record.id = none) :
    ∃ s', records.foldlM restoreRecord s = .ok s' := by
  induction records generalizing s with
  | nil => exact ⟨s, rfl⟩
  | cons record records ih =>
      have hrecord := hnew record List.mem_cons_self
      rw [List.map_cons, List.nodup_cons] at hdistinct
      have hup := updates_insertNew inv (fun handle => { record with handle := handle }) hrecord
        (fun _ => rfl) (fun _ => rfl)
      obtain ⟨s', hs'⟩ := ih hup.inv hdistinct.2 fun other hother => by
        rw [← hup.inv.getById_eq_none, hup.getById, if_neg, inv.getById_eq_none]
        · exact hnew other (List.mem_cons_of_mem _ hother)
        · intro hid
          exact hdistinct.1 (List.mem_map.mpr ⟨other, hother, hid⟩)
      refine ⟨s', ?_⟩
      rw [List.foldlM_cons, restoreRecord_eq_ok.mpr ⟨hrecord, rfl⟩]
      exact hs'

/-- A station can be restored from its own snapshot. -/
theorem exists_restore_snapshot (inv : s.StoreInv) (version : SnapshotVersion) :
    ∃ s', restore s.config (s.snapshot version) = .ok s' := by
  have hsame : ¬ (s.snapshot version).metadata.stationId ≠ s.config.stationId := fun h => h rfl
  rw [restore, if_neg hsame]
  exact exists_restoreRecords (storeInv_congr (storeInv_new s.config) rfl rfl rfl rfl)
    inv.map_id_iter.1 fun record _ => Finmap.lookup_empty record.id

end Station

end SectorSync
