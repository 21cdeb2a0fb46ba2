import SectorSync.Core.Snapshot
import SectorSync.Runtime.Barrier

/-!
# Upgrades of a frozen barrier

`BarrierUpgradeExecutor::migrate_frozen` exports the snapshots of the covered stations, lets a hook
transform each of them, restores them one by one, and replaces the stations only when all restores
have succeeded.  The hook is any state machine.

`restoreSnapshots_ok` says what the restored stations are and `replaceStations_ok` that replacing
them cannot fail; `migrateFrozen_all_or_nothing` is the result.
-/

namespace SectorSync

open BarrierController

variable {F H : Type}

/-- Hook interface for runtime version upgrades: its methods act on a state of its own. -/
structure RuntimeUpgradeHook (F H : Type) where
  /-- Called before state migration while the runtime is frozen. -/
  preUpgrade : H → SnapshotMeta → H
  /-- Called to migrate a station snapshot while frozen. -/
  migrateState : H → StationSnapshot F → StationSnapshot F × H
  /-- Called after migration and before resume. -/
  postUpgrade : H → SnapshotMeta → H

/-- The default methods: nothing is transformed. -/
def RuntimeUpgradeHook.default : RuntimeUpgradeHook F H where
  preUpgrade h _ := h
  migrateState h snapshot := (snapshot, h)
  postUpgrade h _ := h

/-- Report produced after applying an external upgrade hook to frozen snapshots. -/
structure BarrierUpgradeReport where
  /-- Snapshot version requested for export. -/
  version : SnapshotVersion
  /-- Snapshots passed through the upgrade hook. -/
  snapshotsMigrated : ℕ
  /-- Stations restored from migrated snapshots. -/
  stationsRestored : ℕ
  /-- Entity records restored across all stations. -/
  entitiesRestored : ℕ
  deriving DecidableEq

/-- Error produced while applying an upgrade hook around a frozen barrier. -/
inductive BarrierUpgradeError where
  /-- Barrier was missing or not frozen. -/
  | barrier (error : BarrierRuntimeError)
  /-- Station disappeared between snapshot export and restore. -/
  | missingStation (id : StationId)
  /-- Restoring a migrated snapshot failed. -/
  | restore (stationId : StationId) (error : StationError)
  deriving DecidableEq

namespace BarrierUpgradeExecutor

/-- The restored stations, under the ids to replace, and the entities in them. -/
abbrev Restored (F : Type) : Type := List (StationId × Station F) × ℕ

section Migrate

variable (hook : RuntimeUpgradeHook F H)

/-- The loop over the exported snapshots. -/
def restoreSnapshots (stations : StationSet F) : H → Restored F → List (StationSnapshot F) →
    Except BarrierUpgradeError (Restored F) × H
  | h, restored, [] => (.ok restored, h)
  | h, (restored, entitiesRestored), snapshot :: snapshots =>
      let stationId := snapshot.metadata.stationId
      match stations.get stationId with
      | none => (.error (.missingStation stationId), h)
      | some station =>
          let h := hook.preUpgrade h snapshot.metadata
          let (migrated, h) := hook.migrateState h snapshot
          match Station.restore station.config migrated with
          | .error error => (.error (.restore stationId error), h)
          | .ok restoredStation =>
              restoreSnapshots stations (hook.postUpgrade h migrated.metadata)
                (restored ++ [(stationId, restoredStation)],
                  usizeSaturatingAdd entitiesRestored restoredStation.len) snapshots

/-- The loop that replaces the stations. -/
def replaceStations : StationSet F → List (StationId × Station F) →
    Except BarrierUpgradeError Unit × StationSet F
  | stations, [] => (.ok (), stations)
  | stations, (stationId, restoredStation) :: restored =>
      if (stations.get stationId).isNone then (.error (.missingStation stationId), stations)
      else replaceStations (stations.put stationId restoredStation) restored

/-- Exports frozen station snapshots, lets `hook` migrate them, and restores every station only
after all migrated snapshots are valid. -/
def migrateFrozen (controller : BarrierController) (stations : StationSet F)
    (version : SnapshotVersion) (h : H) :
    Except BarrierUpgradeError BarrierUpgradeReport × BarrierController × StationSet F × H :=
  match controller.exportSnapshots stations version with
  | (.error error, controller) => (.error (.barrier error), controller, stations, h)
  | (.ok snapshots, controller) =>
      match restoreSnapshots hook stations h ([], 0) snapshots with
      | (.error error, h) => (.error error, controller, stations, h)
      | (.ok (restored, entitiesRestored), h) =>
          match replaceStations stations restored with
          | (.error error, stations) => (.error error, controller, stations, h)
          | (.ok (), stations) =>
              (.ok ⟨version, restored.length, restored.length, entitiesRestored⟩, controller,
                stations, h)

/-- The restored stations are those that the hook's outputs give: each for the snapshot of the
station found under its id, with the hook in the state that the calls before have left. -/
def UpgradedBy (stations : StationSet F) (version : SnapshotVersion) :
    H → List (StationId × Station F) → Prop
  | _, [] => True
  | h, (id, restoredStation) :: restored =>
      ∃ s, stations.get id = some s
        ∧ Station.restore s.config
            (hook.migrateState (hook.preUpgrade h (s.snapshot version).metadata)
              (s.snapshot version)).1 = .ok restoredStation
        ∧ UpgradedBy stations version
          (hook.postUpgrade
            (hook.migrateState (hook.preUpgrade h (s.snapshot version).metadata)
              (s.snapshot version)).2
            (hook.migrateState (hook.preUpgrade h (s.snapshot version).metadata)
              (s.snapshot version)).1.metadata) restored

end Migrate

/-! ## The two loops -/

variable {hook : RuntimeUpgradeHook F H} {stations : StationSet F} {version : SnapshotVersion}

/-- The first loop gives one restored station for each covered one. -/
lemma restoreSnapshots_ok (hset : stations.Coherent) {ids : List StationId}
    {snapshots : List (StationSnapshot F)}
    (hsnapshots : List.Forall₂ (fun id snapshot => ∃ s, stations.get id = some s
      ∧ snapshot = s.snapshot version) ids snapshots) (h : H)
    (restored : List (StationId × Station F)) (entities : ℕ) {all : Restored F} {h' : H}
    (hok : restoreSnapshots hook stations h (restored, entities) snapshots = (.ok all, h')) :
    ∃ added, all.1 = restored ++ added ∧ added.map Prod.fst = ids
      ∧ UpgradedBy hook stations version h added := by
  induction hsnapshots generalizing h restored entities with
  | nil =>
      simp only [restoreSnapshots, Prod.mk.injEq, Except.ok.injEq] at hok
      exact ⟨[], by rw [← hok.1]; simp, rfl, trivial⟩
  | @cons id snapshot ids snapshots hhead _ ih =>
      obtain ⟨s, hget, rfl⟩ := hhead
      have hid : (s.snapshot version).metadata.stationId = id := (hset.get_eq_some hget).1
      rw [restoreSnapshots] at hok
      simp only [hid, hget] at hok
      cases hrestore : Station.restore s.config
          (hook.migrateState (hook.preUpgrade h (s.snapshot version).metadata)
            (s.snapshot version)).1 with
      | error error => simp [hrestore] at hok
      | ok restoredStation =>
          simp only [hrestore] at hok
          obtain ⟨added, hall, hids, hupgraded⟩ := ih _ _ _ hok
          exact ⟨(id, restoredStation) :: added, by rw [hall]; simp, by simp [hids],
            s, hget, hrestore, hupgraded⟩

/-- The restored stations have the configurations of those they replace. -/
lemma UpgradedBy.forall {h : H} {restored : List (StationId × Station F)}
    (hupgraded : UpgradedBy hook stations version h restored) :
    ∀ entry ∈ restored, ∃ s, stations.get entry.1 = some s ∧ entry.2.config = s.config := by
  induction restored generalizing h with
  | nil => simp
  | cons entry restored ih =>
      obtain ⟨s, hget, hrestore, hrest⟩ := hupgraded
      intro entry' hmem
      rcases List.mem_cons.mp hmem with rfl | hmem
      · exact ⟨s, hget, (Station.restore_spec hrestore).1⟩
      · exact ih hrest entry' hmem

/-- The second loop cannot fail: it replaces the stations under the ids of the list and no
others. -/
lemma replaceStations_ok {restored : List (StationId × Station F)} (hset : stations.Coherent)
    (hdistinct : (restored.map Prod.fst).Nodup)
    (hstations : ∀ entry ∈ restored, ∃ s, stations.get entry.1 = some s
      ∧ entry.2.config = s.config) :
    ∃ stations', replaceStations stations restored = (.ok (), stations')
      ∧ stations'.stations.map Station.id = stations.stations.map Station.id
      ∧ (∀ entry ∈ restored, stations'.get entry.1 = some entry.2)
      ∧ ∀ id, id ∉ restored.map Prod.fst → stations'.get id = stations.get id := by
  induction restored generalizing stations with
  | nil => exact ⟨stations, rfl, rfl, by simp, by simp⟩
  | cons entry restored ih =>
      obtain ⟨id, s'⟩ := entry
      obtain ⟨s, hget, hconfig⟩ := hstations (id, s') List.mem_cons_self
      rw [List.map_cons, List.nodup_cons] at hdistinct
      have hcoherent := hset.put hget hconfig
      have hput := hset.get_put hget hconfig
      have hrest : ∀ entry ∈ restored, ∃ s, (stations.put id s').get entry.1 = some s
          ∧ entry.2.config = s.config := by
        intro entry hmem
        obtain ⟨r, hr⟩ := hstations entry (List.mem_cons_of_mem _ hmem)
        refine ⟨r, ?_, hr.2⟩
        rw [hput, if_neg]
        · exact hr.1
        · intro hid
          exact hdistinct.1 (hid ▸ List.mem_map_of_mem hmem)
      obtain ⟨stations', hreplace, hids, hnew, hold⟩ := ih hcoherent hdistinct.2 hrest
      refine ⟨stations', ?_, hids.trans (hset.map_id_put hget hconfig), ?_, ?_⟩
      · rw [replaceStations, hget]
        exact hreplace
      · intro entry hmem
        rcases List.mem_cons.mp hmem with rfl | hmem
        · rw [hold id hdistinct.1, hput, if_pos rfl]
        · exact hnew entry hmem
      · intro other hother
        rw [List.map_cons, List.mem_cons, not_or] at hother
        rw [hold other hother.2, hput, if_neg hother.1]

/-- A hook that returns every snapshot as it is keeps tick and owner epoch, and restores every
well-formed station up to handles. -/
lemma UpgradedBy.same (hidentity : ∀ h snapshot, (hook.migrateState h snapshot).1 = snapshot)
    {h : H} {restored : List (StationId × Station F)}
    (hupgraded : UpgradedBy hook stations version h restored) :
    ∀ entry ∈ restored, ∃ s, stations.get entry.1 = some s ∧ entry.2.tick = s.tick
      ∧ entry.2.ownerEpoch = s.ownerEpoch
      ∧ (s.StoreInv → Station.SameUpToHandles s entry.2) := by
  induction restored generalizing h with
  | nil => simp
  | cons entry restored ih =>
      obtain ⟨s, hget, hrestore, hrest⟩ := hupgraded
      intro entry' hmem
      rcases List.mem_cons.mp hmem with rfl | hmem
      · rw [hidentity] at hrestore
        obtain ⟨-, htick, hepoch, -⟩ := Station.restore_spec hrestore
        exact ⟨s, hget, htick, hepoch, fun hinv => Station.restore_snapshot hinv hrestore⟩
      · exact ih hrest entry' hmem

/-- Such a hook never makes the restore of a well-formed station fail. -/
lemma restoreSnapshots_identity (hset : stations.Coherent)
    (hidentity : ∀ h snapshot, (hook.migrateState h snapshot).1 = snapshot)
    {ids : List StationId} {snapshots : List (StationSnapshot F)}
    (hsnapshots : List.Forall₂ (fun id snapshot => ∃ s, stations.get id = some s
      ∧ snapshot = s.snapshot version) ids snapshots)
    (hstores : ∀ id ∈ ids, ∀ s, stations.get id = some s → s.StoreInv) (h : H)
    (restored : List (StationId × Station F)) (entities : ℕ) :
    ∃ all h', restoreSnapshots hook stations h (restored, entities) snapshots
      = (.ok all, h') := by
  induction hsnapshots generalizing h restored entities with
  | nil => exact ⟨_, _, rfl⟩
  | @cons id snapshot ids snapshots hhead _ ih =>
      obtain ⟨s, hget, rfl⟩ := hhead
      have hid : (s.snapshot version).metadata.stationId = id := (hset.get_eq_some hget).1
      obtain ⟨s', hrestore⟩ :=
        Station.exists_restore_snapshot (hstores id List.mem_cons_self s hget) version
      rw [restoreSnapshots]
      simp only [hid, hget, hidentity, hrestore]
      exact ih (fun id hmem => hstores id (List.mem_cons_of_mem _ hmem)) _ _ _

/-! ## The whole upgrade -/

/-- What an upgrade does: it fails and changes no station, or it replaces the covered stations by
those that the hook's outputs give. -/
lemma migrateFrozen_cases (hook : RuntimeUpgradeHook F H) (hset : stations.Coherent)
    (controller : BarrierController) (version : SnapshotVersion) (h : H) :
    (migrateFrozen hook controller stations version h).2.1.active = controller.active
      ∧ (migrateFrozen hook controller stations version h).2.1.phases = controller.phases
      ∧ ((∃ error, (migrateFrozen hook controller stations version h).1 = .error error)
          ∧ (migrateFrozen hook controller stations version h).2.2.1 = stations
        ∨ (∃ report, (migrateFrozen hook controller stations version h).1 = .ok report)
          ∧ ∃ restored, restored.map Prod.fst = controller.phases.sortedKeys
            ∧ UpgradedBy hook stations version h restored
            ∧ replaceStations stations restored
              = (.ok (), (migrateFrozen hook controller stations version h).2.2.1)) := by
  have hkeeps := exportSnapshots_keeps controller stations version
  simp only [migrateFrozen]
  cases hexported : controller.exportSnapshots stations version with
  | mk exported controller' =>
      rw [hexported] at hkeeps
      cases exported with
      | error error => exact ⟨hkeeps.1, hkeeps.2, .inl ⟨⟨_, rfl⟩, rfl⟩⟩
      | ok snapshots =>
          obtain ⟨-, hsnapshots⟩ := (exportSnapshots_eq_ok controller stations version).mp
            (congrArg Prod.fst hexported)
          cases hrestored : restoreSnapshots hook stations h ([], 0) snapshots with
          | mk outcome h' =>
              cases outcome with
              | error error =>
                  simp only [hrestored]
                  exact ⟨hkeeps.1, hkeeps.2, .inl ⟨⟨_, rfl⟩, trivial⟩⟩
              | ok all =>
                  obtain ⟨added, hall, hids, hupgraded⟩ :=
                    restoreSnapshots_ok hset hsnapshots h [] 0 hrestored
                  obtain ⟨stations', hreplace, -⟩ := replaceStations_ok hset
                    (hids ▸ controller.phases.nodup_sortedKeys) hupgraded.forall
                  rw [List.nil_append] at hall
                  simp only [hrestored, hall, hreplace]
                  exact ⟨hkeeps.1, hkeeps.2, .inr ⟨⟨_, rfl⟩, added, hids, hupgraded, hreplace⟩⟩

/-- Without a transformation every frozen barrier can be upgraded whose stations are there and
well formed. -/
lemma migrateFrozen_identity (hset : stations.Coherent)
    (hidentity : ∀ h snapshot, (hook.migrateState h snapshot).1 = snapshot)
    {controller : BarrierController} {snapshots : List (StationSnapshot F)}
    (hexported : (controller.exportSnapshots stations version).1 = .ok snapshots)
    (hstores : ∀ id, controller.Covers id → ∀ s, stations.get id = some s → s.StoreInv) (h : H) :
    ∃ report, (migrateFrozen hook controller stations version h).1 = .ok report := by
  obtain ⟨-, hsnapshots⟩ := (exportSnapshots_eq_ok controller stations version).mp hexported
  obtain ⟨all, h', hrestored⟩ := restoreSnapshots_identity hset hidentity hsnapshots
    (fun id hmem => hstores id (covers_iff.mpr hmem)) h [] 0
  obtain ⟨added, hall, hids, hupgraded⟩ := restoreSnapshots_ok hset hsnapshots h [] 0 hrestored
  obtain ⟨stations', hreplace, -⟩ := replaceStations_ok hset
    (hids ▸ controller.phases.nodup_sortedKeys) hupgraded.forall
  rw [List.nil_append] at hall
  rw [migrateFrozen, show controller.exportSnapshots stations version
    = (.ok snapshots, (controller.exportSnapshots stations version).2) from Prod.ext hexported rfl]
  simp only [hrestored, hall, hreplace]
  exact ⟨_, rfl⟩

/-- **All or nothing.**  An upgrade leaves the barrier active as it was.  When it fails no station
has changed.  When it succeeds each covered station is the one restored from the hook's output for
its own snapshot and the others are unchanged.  A hook that transforms nothing keeps tick and owner
epoch of every covered station, leaves it the same up to handles if it is well formed, and does
succeed once the snapshots of well-formed stations were exported. -/
theorem migrateFrozen_all_or_nothing (hook : RuntimeUpgradeHook F H) (hset : stations.Coherent)
    (controller : BarrierController) (version : SnapshotVersion) (h : H) :
    (migrateFrozen hook controller stations version h).2.1.active = controller.active
      ∧ (migrateFrozen hook controller stations version h).2.1.phases = controller.phases
      ∧ (∀ error, (migrateFrozen hook controller stations version h).1 = .error error →
        (migrateFrozen hook controller stations version h).2.2.1 = stations)
      ∧ (∀ report, (migrateFrozen hook controller stations version h).1 = .ok report →
        (∃ restored, restored.map Prod.fst = controller.phases.sortedKeys
          ∧ UpgradedBy hook stations version h restored
          ∧ ∀ entry ∈ restored,
            (migrateFrozen hook controller stations version h).2.2.1.get entry.1 = some entry.2)
        ∧ (migrateFrozen hook controller stations version h).2.2.1.stations.map Station.id
          = stations.stations.map Station.id
        ∧ (∀ id, ¬ controller.Covers id →
          (migrateFrozen hook controller stations version h).2.2.1.get id = stations.get id)
        ∧ ((∀ h snapshot, (hook.migrateState h snapshot).1 = snapshot) →
          ∀ id, controller.Covers id → ∃ s s', stations.get id = some s
            ∧ (migrateFrozen hook controller stations version h).2.2.1.get id = some s'
            ∧ s'.tick = s.tick ∧ s'.ownerEpoch = s.ownerEpoch
            ∧ (s.StoreInv → Station.SameUpToHandles s s')))
      ∧ ((∀ h snapshot, (hook.migrateState h snapshot).1 = snapshot) →
        (∀ id, controller.Covers id → ∀ s, stations.get id = some s → s.StoreInv) →
        ∀ snapshots, (controller.exportSnapshots stations version).1 = .ok snapshots →
          ∃ report, (migrateFrozen hook controller stations version h).1 = .ok report) := by
  have hidentity : (∀ h snapshot, (hook.migrateState h snapshot).1 = snapshot) →
      (∀ id, controller.Covers id → ∀ s, stations.get id = some s → s.StoreInv) →
      ∀ snapshots, (controller.exportSnapshots stations version).1 = .ok snapshots →
        ∃ report, (migrateFrozen hook controller stations version h).1 = .ok report :=
    fun hhook hstores _ hexported => migrateFrozen_identity hset hhook hexported hstores h
  obtain ⟨hactive, hphases, hcases⟩ := migrateFrozen_cases hook hset controller version h
  generalize migrateFrozen hook controller stations version h = call at *
  refine ⟨hactive, hphases, ?_⟩
  rcases hcases with ⟨⟨_, hfailed⟩, hsame⟩ | ⟨⟨_, hdone⟩, restored, hids, hupgraded, hreplace⟩
  · exact ⟨fun _ _ => hsame, fun report hok => by simp [hfailed] at hok, hidentity⟩
  · refine ⟨fun error hfail => by simp [hdone] at hfail, fun report _ => ?_, hidentity⟩
    obtain ⟨stations', hreplaced, hmap, hnew, hold⟩ := replaceStations_ok hset
      (hids ▸ controller.phases.nodup_sortedKeys) hupgraded.forall
    rw [hreplace, Prod.mk.injEq] at hreplaced
    rw [hreplaced.2]
    refine ⟨⟨restored, hids, hupgraded, hnew⟩, hmap, fun id hid => hold id ?_, ?_⟩
    · rwa [hids, ← covers_iff]
    · intro hhook id hid
      obtain ⟨entry, hmem, rfl⟩ : ∃ entry ∈ restored, entry.1 = id := by
        rwa [← List.mem_map, hids, ← covers_iff]
      obtain ⟨s, hget, hsame⟩ := hupgraded.same hhook entry hmem
      exact ⟨s, entry.2, hget, hnew entry hmem, hsame⟩

/-! ### Two frozen stations -/

section TwoStations

/-- Station 1 owns entity 100 and station 2 is empty, both at tick two. -/
def stationsAtTwo : StationSet ℕ :=
  (StationSet.new.push
    ((Station.new (configWithStation 1)).spawnOwned ⟨100⟩ ⟨1, 2, 3⟩ .point
      ⟨0⟩).2.advanceTick.advanceTick).push
    (Station.new (configWithStation 2)).advanceTick.advanceTick

lemma valid_stationsAtTwo : stationsAtTwo.Valid :=
  (StationSet.valid_new.push
    ((Station.storeInv_new _).spawnOwned ⟨100⟩ ⟨1, 2, 3⟩ .point ⟨0⟩).advanceTick.advanceTick).push
    (Station.storeInv_new _).advanceTick.advanceTick

/-- A barrier over both, frozen by the first poll. -/
def frozenAtTwo : BarrierController :=
  ((BarrierController.default.request stationsAtTwo ⟨8⟩ (.instanceScope ⟨7⟩) ⟨2⟩ .buffer).2.poll
    stationsAtTwo).2

/-- Restoring their own snapshots leaves station 1 the same up to handles. -/
theorem migrateFrozen_two_stations :
    ∃ s s', stationsAtTwo.get ⟨1⟩ = some s
      ∧ (migrateFrozen RuntimeUpgradeHook.default frozenAtTwo stationsAtTwo .default ()).2.2.1.get
        ⟨1⟩ = some s'
      ∧ Station.SameUpToHandles s s' := by
  have hok : (migrateFrozen RuntimeUpgradeHook.default frozenAtTwo stationsAtTwo .default ()).1
      = .ok ⟨.default, 2, 2, 1⟩ := by decide +kernel
  obtain ⟨-, -, -, hdone, -⟩ := migrateFrozen_all_or_nothing RuntimeUpgradeHook.default
    valid_stationsAtTwo.coherent frozenAtTwo .default ()
  obtain ⟨s, s', hget, hget', -, -, hsame⟩ :=
    (hdone _ hok).2.2.2 (fun _ _ => rfl) ⟨1⟩ (by decide +kernel)
  exact ⟨s, s', hget, hget', hsame (valid_stationsAtTwo.get_eq_some hget).1⟩

/-- A station that received a transfer naming entity 7 and carrying entity 8. -/
def misnamedAtTwo : StationSet ℕ :=
  StationSet.new.push
    (Machine.execute Station.storeStep (Station.new (configWithStation 1))
      Station.misnamedTransfer).advanceTick.advanceTick

/-- A barrier over it, frozen by the first poll. -/
def frozenMisnamed : BarrierController :=
  ((BarrierController.default.request misnamedAtTwo ⟨8⟩ (.instanceScope ⟨7⟩) ⟨2⟩ .buffer).2.poll
    misnamedAtTwo).2

/-- The record of entity 8 that was found under id 7 is found under id 8 after an upgrade that
transforms nothing. -/
theorem migrateFrozen_misnamed :
    ¬ ∀ (stations : StationSet ℕ) (controller : BarrierController),
      (stations.stations.map Station.id).Nodup → ∀ report,
      (migrateFrozen RuntimeUpgradeHook.default controller stations .default ()).1 = .ok report →
      ∀ id, controller.Covers id → ∃ s s', stations.get id = some s
        ∧ (migrateFrozen RuntimeUpgradeHook.default controller stations .default ()).2.2.1.get id
          = some s'
        ∧ Station.SameUpToHandles s s' := by
  intro hall
  obtain ⟨s, s', hget, hget', hsame⟩ := hall misnamedAtTwo frozenMisnamed (by decide +kernel)
    ⟨.default, 1, 1, 1⟩ (by decide +kernel) ⟨1⟩ (by decide +kernel)
  have hbefore : ((misnamedAtTwo.get ⟨1⟩).bind (·.getById ⟨7⟩)).isSome = true := by
    decide +kernel
  have hafter : (((migrateFrozen RuntimeUpgradeHook.default frozenMisnamed misnamedAtTwo .default
      ()).2.2.1.get ⟨1⟩).bind (·.getById ⟨7⟩)).isSome = false := by
    decide +kernel
  rw [hget, Option.bind_some] at hbefore
  rw [hget', Option.bind_some] at hafter
  have hrecords := congrArg Option.isSome (hsame.records ⟨7⟩)
  rw [Option.isSome_map, Option.isSome_map, hbefore, hafter] at hrecords
  exact absurd hrecords (by decide)

end TwoStations

end BarrierUpgradeExecutor

end SectorSync
