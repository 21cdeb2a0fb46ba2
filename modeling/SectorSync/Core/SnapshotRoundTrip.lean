import SectorSync.Core.HandleCopies

/-!
# The snapshot round trip

A snapshot forgets slots, generations and the free list, and `restore` rebuilds a store from its
records alone.  `exists_restore_iff` says which snapshots can be restored, and `get_restore` which
handles their records get: those of a fresh store, in the order of the snapshot.

`RoundTrips` is the round trip of one station, and `snapshot_round_trip_iff` says in which runs all
stations make it.  The runs are those of `StationRun`, with edits of a record through `get_mut`
besides, which may spoil a record's copy of its handle: the invariant of the runs is that of the
store up to these copies (`WellFormedRecords`).  Backwards, in a station that makes the round trip
an id leads to a record of the id (`RoundTrips.id_of_getById`), since the restored store is well
formed and has the same id-to-record map.
-/

namespace SectorSync

open Machine

variable {F : Type}

namespace Station

/-- Exports an in-memory snapshot into caller-owned reusable storage. -/
def snapshotInto (s : Station F) (version : SnapshotVersion) (snapshot : StationSnapshot F) :
    StationSnapshot F :=
  let snapshot := { snapshot with entities := [] }
  let snapshot := { snapshot with entities := snapshot.entities ++ s.iter }
  { snapshot with
    metadata :=
      { instanceId := s.config.instanceId
        stationId := s.config.stationId
        tick := s.tick
        entityCount := snapshot.entities.length
        ownerEpoch := s.ownerEpoch
        version := version } }

/-- Nothing of the buffer's prior content is in the snapshot. -/
lemma snapshotInto_eq (s : Station F) (version : SnapshotVersion) (snapshot : StationSnapshot F) :
    s.snapshotInto version snapshot = s.snapshot version := rfl

/-! ## Which snapshots can be restored -/

variable {s s' : Station F}

/-- Restored records have distinct ids, none of which was known. -/
lemma distinct_of_restoreRecords (inv : s.StoreInv) {records : List (EntityRecord F)}
    (h : records.foldlM restoreRecord s = .ok s') :
    (records.map (·.id)).Nodup ∧ ∀ record ∈ records, s.byId.lookup record.id = none := by
  induction records generalizing s with
  | nil => simp
  | cons record records ih =>
      rw [List.foldlM_cons] at h
      cases hnext : s.restoreRecord record with
      | error error => simp [hnext, bind, Except.bind] at h
      | ok next =>
          rw [hnext] at h
          obtain ⟨hnew, rfl⟩ := restoreRecord_eq_ok.mp hnext
          have hup := updates_insertNew inv (fun handle => { record with handle := handle }) hnew
            (fun _ => rfl) (fun _ => rfl)
          obtain ⟨hdistinct, hfresh⟩ := ih hup.inv h
          have hother : ∀ other ∈ records, other.id ≠ record.id
              ∧ s.byId.lookup other.id = none := by
            intro other hmem
            have hnone := hup.inv.getById_eq_none.mpr (hfresh other hmem)
            rw [hup.getById] at hnone
            split_ifs at hnone with hid
            exact ⟨hid, inv.getById_eq_none.mp hnone⟩
          refine ⟨?_, ?_⟩
          · rw [List.map_cons, List.nodup_cons]
            refine ⟨fun hmem => ?_, hdistinct⟩
            obtain ⟨other, hmem, hid⟩ := List.mem_map.mp hmem
            exact (hother other hmem).1 hid
          · intro other hmem
            rcases List.mem_cons.mp hmem with rfl | hmem
            · exact hnew
            · exact (hother other hmem).2

/-- The station the records of a snapshot are inserted into. -/
def restoreBase (config : StationConfig) (snapshot : StationSnapshot F) : Station F :=
  { Station.new config with
    tick := snapshot.metadata.tick
    ownerEpoch := snapshot.metadata.ownerEpoch }

lemma storeInv_restoreBase (config : StationConfig) (snapshot : StationSnapshot F) :
    (restoreBase config snapshot).StoreInv :=
  storeInv_congr (storeInv_new config) rfl rfl rfl rfl

lemma restore_eq_ok {config : StationConfig} {snapshot : StationSnapshot F} :
    restore config snapshot = .ok s'
      ↔ snapshot.metadata.stationId = config.stationId
        ∧ snapshot.entities.foldlM restoreRecord (restoreBase config snapshot) = .ok s' := by
  rw [restore]
  split_ifs with hid
  · simp [hid]
  · simp only [ne_eq, not_not] at hid
    exact (and_iff_right hid).symm

/-- **Which snapshots can be restored.**  Those of the station, with distinct ids. -/
theorem exists_restore_iff (config : StationConfig) (snapshot : StationSnapshot F) :
    (∃ restored, restore config snapshot = .ok restored)
      ↔ snapshot.metadata.stationId = config.stationId
        ∧ (snapshot.entities.map (·.id)).Nodup := by
  have hbase := storeInv_restoreBase config snapshot
  constructor
  · rintro ⟨restored, h⟩
    obtain ⟨hid, hrecords⟩ := restore_eq_ok.mp h
    exact ⟨hid, (distinct_of_restoreRecords hbase hrecords).1⟩
  · rintro ⟨hid, hdistinct⟩
    obtain ⟨restored, h⟩ := exists_restoreRecords hbase hdistinct
      fun record _ => Finmap.lookup_empty record.id
    exact ⟨restored, restore_eq_ok.mpr ⟨hid, h⟩⟩

/-! ## Which handles the records get -/

/-- In a store without free slots a new record goes to a new slot. -/
lemma insertNew_of_free_nil (hfree : s.free = []) (record : EntityHandle → EntityRecord F) :
    (s.insertNew record).2.free = []
      ∧ (s.insertNew record).2.records
        = s.records ++ [some (record ⟨s.records.length, 0⟩)]
      ∧ (s.insertNew record).2.generations = s.generations ++ [0] := by
  simp [insertNew, allocateHandle, hfree, insertAllocated]

/-- Records inserted into a store without free slots go to new slots in their order. -/
lemma restoreRecords_slots {records : List (EntityRecord F)} (hfree : s.free = [])
    (h : records.foldlM restoreRecord s = .ok s') :
    s'.records = s.records ++ (records.zipIdx s.records.length).map
        (fun entry => some { entry.1 with handle := ⟨entry.2, 0⟩ })
      ∧ s'.generations = s.generations ++ List.replicate records.length 0 := by
  induction records generalizing s with
  | nil =>
      obtain rfl : s = s' := Except.ok.inj h
      simp
  | cons record records ih =>
      rw [List.foldlM_cons] at h
      cases hnext : s.restoreRecord record with
      | error error => simp [hnext, bind, Except.bind] at h
      | ok next =>
          rw [hnext] at h
          obtain ⟨-, rfl⟩ := restoreRecord_eq_ok.mp hnext
          obtain ⟨hfree', hrecords, hgenerations⟩ := insertNew_of_free_nil hfree
            fun handle => { record with handle := handle }
          obtain ⟨hslots, hgens⟩ := ih hfree' h
          rw [hslots, hgens, hrecords, hgenerations]
          simp [List.replicate_succ]

/-- **Dense handles.**  The record at place `k` of a snapshot is restored under slot `k`. -/
theorem get_restore {config : StationConfig} {snapshot : StationSnapshot F}
    (h : restore config snapshot = .ok s') {k : ℕ} {record : EntityRecord F}
    (hrecord : snapshot.entities[k]? = some record) :
    s'.get ⟨k, 0⟩ = some { record with handle := ⟨k, 0⟩ } := by
  obtain ⟨-, hrecords⟩ := restore_eq_ok.mp h
  obtain ⟨hslots, hgenerations⟩ := restoreRecords_slots (s := restoreBase config snapshot) rfl
    hrecords
  have hlt : k < snapshot.entities.length := (List.getElem?_eq_some_iff.mp hrecord).1
  have hbase : (restoreBase config snapshot).records = [] := rfl
  have hgens : (restoreBase config snapshot).generations = [] := rfl
  rw [hbase, List.nil_append, List.length_nil] at hslots
  rw [hgens, List.nil_append] at hgenerations
  rw [get_eq_some, hslots, hgenerations]
  refine ⟨by simp [hlt], ?_⟩
  simp only [List.getElem?_map, List.getElem?_zipIdx, hrecord, Option.map_some, Nat.zero_add]

/-! ## The round trip of a station -/

/-- What a station restored from a snapshot of `s` holds. -/
structure RestoredFrom (s restored : Station F) : Prop where
  tick : restored.tick = s.tick
  ownerEpoch : restored.ownerEpoch = s.ownerEpoch
  records : ∀ id, (restored.getById id).map EntityRecord.forgetHandle
    = (s.getById id).map EntityRecord.forgetHandle
  handles : ∀ k record, s.iter[k]? = some record →
    restored.get ⟨k, 0⟩ = some { record with handle := ⟨k, 0⟩ }
  inv : restored.StoreInv

/-- A snapshot into any buffer can be restored under every configuration with the station's id,
and the restored station holds what the station holds. -/
def RoundTrips (s : Station F) : Prop :=
  ∀ config version snapshot, config.stationId = s.config.stationId →
    ∃ restored, restore config (s.snapshotInto version snapshot) = .ok restored
      ∧ RestoredFrom s restored

/-- A well-formed store makes the round trip. -/
lemma StoreInv.roundTrips (inv : s.StoreInv) : s.RoundTrips := by
  intro config version buffer hid
  rw [snapshotInto_eq]
  obtain ⟨restored, h⟩ := (exists_restore_iff config (s.snapshot version)).mpr
    ⟨hid.symm, inv.map_id_iter.1⟩
  obtain ⟨-, htick, hepoch, -⟩ := restore_spec h
  exact ⟨restored, h, htick, hepoch, getById_restore_snapshot inv h, fun _ _ => get_restore h,
    storeInv_restore h⟩

/-- Two slots whose records have one id make two entries of one id in the snapshot. -/
lemma ids_distinct_of_nodup (h : (s.iter.map (·.id)).Nodup) {i j : ℕ} {r r' : EntityRecord F}
    (hi : s.records[i]? = some (some r)) (hj : s.records[j]? = some (some r'))
    (hid : r.id = r'.id) : i = j := by
  rw [iter, List.Nodup, List.pairwise_map, List.pairwise_filterMap,
    List.pairwise_iff_getElem] at h
  obtain ⟨hlt, hri⟩ := List.getElem?_eq_some_iff.mp hi
  obtain ⟨hlt', hrj⟩ := List.getElem?_eq_some_iff.mp hj
  rcases Nat.lt_trichotomy i j with hij | hij | hij
  · exact absurd hid (h i j hlt hlt' hij r hri r' hrj)
  · exact hij
  · exact absurd hid.symm (h j i hlt' hlt hij r' hrj r hri)

/-- A live record that the id map leads to is the record of the id. -/
lemma RoundTrips.id_of_getById (h : s.RoundTrips) {id : EntityId} {record : EntityRecord F}
    (hby : s.getById id = some record) : record.id = id := by
  obtain ⟨restored, -, hrestored⟩ := h s.config .default (s.snapshot .default) rfl
  have hmap := hrestored.records id
  rw [hby, Option.map_some, Option.map_eq_some_iff] at hmap
  obtain ⟨record', hby', hsame⟩ := hmap
  have hid : record'.forgetHandle.id = record.forgetHandle.id := congrArg EntityRecord.id hsame
  have hown : record'.id = id := hrestored.inv.id_of_getById hby'
  exact hid.symm.trans hown

lemma RoundTrips.nodup (h : s.RoundTrips) : (s.iter.map (·.id)).Nodup := by
  obtain ⟨restored, hok, -⟩ := h s.config .default (s.snapshot .default) rfl
  exact ((exists_restore_iff s.config (s.snapshot .default)).mp ⟨restored, hok⟩).2

/-! ## Runs with edits -/

/-- The operations on a store, and edits of a record through `get_mut`. -/
inductive RecordOp (F : Type) where
  | store (op : StoreOp F)
  | edit (handle : EntityHandle) (edited : EntityRecord F → EntityRecord F)

/-- The station after one operation or edit. -/
def editStep (s : Station F) : RecordOp F → Station F
  | .store op => s.storeStep op
  | .edit handle edited =>
      match s.get handle with
      | none => s
      | some record => s.writeRecord handle (edited record)

/-- Records stay under the ids they are known by: incoming commits store them under the id they
checked, and edits leave the id alone. -/
def KeepsIds (s : Station F) : RecordOp F → Prop
  | .store op => s.StoresNamed op
  | .edit handle edited => ∀ record, s.get handle = some record → (edited record).id = record.id

/-- The store is well formed once its records' copies of their handles are repaired. -/
def WellFormedRecords (s : Station F) : Prop := ∃ t : Station F, t.StoreInv ∧ SameRecords s t

/-- Stations that are the same without the copies have the same snapshots to restore. -/
lemma SameRecords.roundTrips {t : Station F} (h : SameRecords s t) (htrip : t.RoundTrips) :
    s.RoundTrips := by
  intro config version buffer hid
  rw [snapshotInto_eq, h.restore_snapshot config version]
  obtain ⟨restored, hrestore, hfrom⟩ := htrip config version buffer (by rw [hid, h.config])
  rw [snapshotInto_eq] at hrestore
  refine ⟨restored, hrestore, hfrom.tick.trans h.tick.symm,
    hfrom.ownerEpoch.trans h.ownerEpoch.symm,
    fun id => (hfrom.records id).trans (h.getById id).symm, fun k record hrecord => ?_, hfrom.inv⟩
  have hboth : (t.iter.map EntityRecord.forgetHandle)[k]? = some record.forgetHandle := by
    rw [← h.iter, List.getElem?_map, hrecord, Option.map_some]
  rw [List.getElem?_map, Option.map_eq_some_iff] at hboth
  obtain ⟨record', hrecord', hsame⟩ := hboth
  have hhandle : ({ record' with handle := ⟨k, 0⟩ } : EntityRecord F)
      = { record with handle := ⟨k, 0⟩ } := congrArg ({ · with handle := ⟨k, 0⟩ }) hsame
  rw [hfrom.handles k record' hrecord', hhandle]

namespace WellFormedRecords

lemma roundTrips (h : s.WellFormedRecords) : s.RoundTrips := by
  obtain ⟨t, inv, hsame⟩ := h
  exact hsame.roundTrips inv.roundTrips

lemma editStep (h : s.WellFormedRecords) {op : RecordOp F} (hok : s.KeepsIds op) :
    (s.editStep op).WellFormedRecords := by
  obtain ⟨t, inv, hsame⟩ := h
  cases op with
  | store op => exact ⟨t.storeStep op, inv.storeStep (hsame.storesNamed hok), hsame.storeStep op⟩
  | edit handle edited =>
      simp only [Station.editStep]
      cases hget : s.get handle with
      | none => exact ⟨t, inv, hsame⟩
      | some record =>
          obtain ⟨record', hget', hrecord⟩ := hsame.exists_get hget
          have hid : (edited record).id = record'.id :=
            (hok record hget).trans (congrArg EntityRecord.id hrecord).symm
          exact ⟨_, inv.writeRecord (r := { edited record with handle := handle }) hget' hid rfl,
            hsame.writeRecord handle rfl⟩

/-- A round trip after a step tells that the step kept the ids. -/
lemma keepsIds_of_roundTrips (h : s.WellFormedRecords) {op : RecordOp F}
    (htrip : (s.editStep op).RoundTrips) : s.KeepsIds op := by
  obtain ⟨t, inv, hsame⟩ := h
  cases op with
  | store op =>
      have htrip' : (t.storeStep op).RoundTrips := (hsame.storeStep op).symm.roundTrips htrip
      refine hsame.symm.storesNamed (inv.storesNamed_of_idsMatch ⟨?_, ?_⟩)
      · intro _ _ hby
        exact htrip'.id_of_getById hby
      · intro _ _ _ _ hi hj hid
        exact ids_distinct_of_nodup htrip'.nodup hi hj hid
  | edit handle edited =>
      intro record hget
      simp only [Station.editStep, hget] at htrip
      obtain ⟨record', hget', hrecord⟩ := hsame.exists_get hget
      have hid : record'.id = record.id := by
        rw [← record'.id_forgetHandle, hrecord, record.id_forgetHandle]
      have hlook : s.byId.lookup record.id = some handle := by
        rw [hsame.byId, ← hid]
        exact (inv.id_of_get handle record' hget').1
      have hread := get_writeRecord (r := edited record) hget handle
      rw [if_pos rfl] at hread
      exact htrip.id_of_getById (getById_eq_some.mpr ⟨handle, hlook, hread⟩)

end WellFormedRecords

/-- **The snapshot round trip.**  In a run all stations make the round trip exactly when every
incoming commit that takes effect stores its record under the id it was checked under and every
edit leaves the id alone; and a snapshot, wherever it comes from, can be restored exactly when it
is one of the station and its ids are distinct. -/
theorem snapshot_round_trip_iff (config : StationConfig) (ops : List (RecordOp F)) :
    ((∀ pre, pre <+: ops → (execute editStep (new config) pre).RoundTrips)
      ↔ AllSteps editStep KeepsIds (new config) ops)
    ∧ ∀ (config : StationConfig) (snapshot : StationSnapshot F),
      (∃ restored, restore config snapshot = .ok restored)
        ↔ snapshot.metadata.stationId = config.stationId
          ∧ (snapshot.entities.map (·.id)).Nodup := by
  constructor
  · exact forall_prefix_iff_allSteps (I := WellFormedRecords) (P := fun _ => True)
      (fun _ h => h.roundTrips) (fun s op h _ => ⟨h.editStep, h.keepsIds_of_roundTrips⟩)
      ⟨new config, storeInv_new config, rfl⟩ (fun _ _ => trivial)
  · exact exists_restore_iff

/-- After the commit of a transfer that names one entity and carries another, the restored station
does not have the id-to-record map of the station. -/
theorem misnamed_transfer_no_round_trip :
    ¬ ∀ (config : StationConfig) (ops : List (RecordOp ℕ)) pre, pre <+: ops →
      (execute editStep (new config) pre).RoundTrips := by
  intro hall
  have htrip := hall (configWithStation 1) (misnamedTransfer.map .store)
    (misnamedTransfer.map .store) List.prefix_rfl
  obtain ⟨record, hby, hid⟩ : ∃ record, (execute editStep (new (configWithStation 1))
      (misnamedTransfer.map .store)).getById ⟨7⟩ = some record ∧ record.id = ⟨8⟩ :=
    ⟨_, rfl, rfl⟩
  exact absurd (hid.symm.trans (htrip.id_of_getById hby)) (by decide)

end Station

end SectorSync
