import SectorSync.Core.Hotspot
import SectorSync.Core.SpatialIndex
import SectorSync.Runtime.Migration

/-!
# Cell ownership and the migration of cells

`CellOwnershipTable` and `CellMigrationExecutor` of the runtime crate.  A split assigns the
proposed cells to the target in the table and reports the cells whose owner changed.  A migration
of cells scans the source's index for entities that the source owns and then migrates these one by
one, keeping both indexes up to date.

`mem_movedCells` says which cells a split reports.  `scanCells_spec` says which entities the scan
collects, and `migrateCells_spec` that a migration between two existing stations succeeds and takes
from the source exactly these; `migrateCells_missing_source` and `migrateCells_missing_target` are
its failures.
-/

namespace SectorSync

open Machine

variable {F : Type}

/-- Dynamic ownership table for fixed 3D cells. -/
structure CellOwnershipTable where
  owners : BTreeMap CellCoord3 StationId

/-- Result of applying cell ownership changes. -/
structure CellOwnershipUpdate where
  sourceStation : StationId
  targetStation : StationId
  /-- Cells whose owner changed. -/
  movedCells : List CellCoord3
  deriving DecidableEq

namespace CellOwnershipTable

/-- A table without overrides. -/
def new : CellOwnershipTable := ⟨∅⟩

/-- Assigns one cell to a station and returns the previous owner. -/
def assign (table : CellOwnershipTable) (cell : CellCoord3) (stationId : StationId) :
    Option StationId × CellOwnershipTable :=
  (table.owners.lookup cell, ⟨table.owners.insert cell stationId⟩)

/-- Returns the current owner for one cell. -/
def ownerOf (table : CellOwnershipTable) (cell : CellCoord3) : Option StationId :=
  table.owners.lookup cell

/-- One step of the loop over the proposed cells. -/
def applySplitCell (targetStation : StationId) (state : CellOwnershipUpdate × CellOwnershipTable)
    (cell : CellCoord3) : CellOwnershipUpdate × CellOwnershipTable :=
  let (update, table) := state
  let (previous, table) := table.assign cell targetStation
  if previous ≠ some targetStation then
    ({ update with movedCells := update.movedCells ++ [cell] }, table)
  else (update, table)

/-- Applies a split proposal by assigning all proposed cells to `targetStation`. -/
def applySplit (table : CellOwnershipTable) (proposal : SplitProposal)
    (targetStation : StationId) : CellOwnershipUpdate × CellOwnershipTable :=
  proposal.cellsToMove.foldl (applySplitCell targetStation)
    (⟨proposal.sourceStation, targetStation, []⟩, table)

end CellOwnershipTable

/-- Result of migrating entities indexed by moved cells. -/
structure CellMigrationReport (F : Type) where
  sourceStation : StationId
  targetStation : StationId
  /-- Cells scanned for owner entities. -/
  scannedCells : List CellCoord3
  /-- Entity migrations that were committed. -/
  entityMigrations : List (EntityMigrationReport F)
  /-- Candidate handles that no longer resolved to an entity. -/
  skippedMissingHandles : ℕ
  /-- Candidate entities skipped because they were ghosts or non-authoritative. -/
  skippedNonOwned : ℕ
  /-- Duplicate candidate entities skipped after first occurrence. -/
  skippedDuplicateEntities : ℕ

/-- Cell-level migration error. -/
inductive CellMigrationError where
  /-- Entity migration failed. -/
  | entity (error : EntityMigrationError)
  /-- Target owner record was not found after a successful migration. -/
  | missingTargetRecord (id : EntityId)
  /-- Source ghost record was not found after a successful migration. -/
  | missingSourceRecord (id : EntityId)
  deriving DecidableEq

/-- What the scan of the source's index changes. -/
structure CellScan (F : Type) where
  seenHandles : Finset EntityHandle
  entityIds : List EntityId
  report : CellMigrationReport F

/-- What a migration of cells changes. -/
structure CellMigration (F : Type) where
  stations : StationSet F
  sourceIndex : CellIndex F
  targetIndex : CellIndex F
  seenEntities : Finset EntityId
  report : CellMigrationReport F

namespace CellMigrationExecutor

/-- One handle of the scan. -/
def scanHandle (source : Station F) (scan : CellScan F) (handle : EntityHandle) : CellScan F :=
  if handle ∈ scan.seenHandles then
    { scan with report :=
      { scan.report with
        skippedDuplicateEntities := scan.report.skippedDuplicateEntities + 1 } }
  else
    let scan := { scan with seenHandles := insert handle scan.seenHandles }
    match source.get handle with
    | none =>
        { scan with report :=
          { scan.report with skippedMissingHandles := scan.report.skippedMissingHandles + 1 } }
    | some record =>
        if record.isOwned then { scan with entityIds := scan.entityIds ++ [record.id] }
        else
          { scan with report :=
            { scan.report with skippedNonOwned := scan.report.skippedNonOwned + 1 } }

/-- Scans cells of the source's index for entities that the source owns. -/
def scanCells (source : Station F) (sourceIndex : CellIndex F) (scan : CellScan F)
    (cells : List CellCoord3) : CellScan F :=
  cells.foldl (fun scan cell => (sourceIndex.handlesInCell cell).foldl (scanHandle source) scan)
    scan

section Migrate

variable [Scalar F] (sourceStation targetStation : StationId) (ghostTtlTicks : UInt64)

/-- One collected entity.  The outer `none` is the panic of `migrateEntity`. -/
def migrateNext (m : CellMigration F) (entityId : EntityId) :
    Option (Except CellMigrationError Unit × CellMigration F) :=
  if entityId ∈ m.seenEntities then
    some (.ok (), { m with report :=
      { m.report with
        skippedDuplicateEntities := m.report.skippedDuplicateEntities + 1 } })
  else
    let m := { m with seenEntities := insert entityId m.seenEntities }
    match migrateEntity m.stations entityId sourceStation targetStation ghostTtlTicks with
    | none => none
    | some (.error error, stations) => some (.error (.entity error), { m with stations := stations })
    | some (.ok migration, stations) =>
        let m := { m with stations := stations }
        match m.stations.get targetStation with
        | none => some (.error (.entity (.missingTarget targetStation)), m)
        | some target =>
            match target.get migration.targetOwner with
            | none => some (.error (.missingTargetRecord entityId), m)
            | some targetRecord =>
                let m := { m with
                  targetIndex := m.targetIndex.upsert migration.targetOwner
                    targetRecord.position targetRecord.bounds }
                match m.stations.get sourceStation with
                | none => some (.error (.entity (.missingSource sourceStation)), m)
                | some source =>
                    match source.get migration.sourceGhost with
                    | none => some (.error (.missingSourceRecord entityId), m)
                    | some sourceRecord =>
                        some (.ok (), { m with
                          sourceIndex := m.sourceIndex.upsert migration.sourceGhost
                            sourceRecord.position sourceRecord.bounds
                          report := { m.report with
                            entityMigrations := m.report.entityMigrations ++ [migration] } })

/-- The loop over the collected entities. -/
def migrateAll : CellMigration F → List EntityId →
    Option (Except CellMigrationError Unit × CellMigration F)
  | m, [] => some (.ok (), m)
  | m, entityId :: entityIds =>
      match migrateNext sourceStation targetStation ghostTtlTicks m entityId with
      | none => none
      | some (.error error, m) => some (.error error, m)
      | some (.ok (), m) => migrateAll m entityIds

/-- Migrates owned entities found in `cells` from source station to target station. -/
def migrateCells (stations : StationSet F) (sourceIndex targetIndex : CellIndex F)
    (cells : List CellCoord3) : Option (Except CellMigrationError Unit × CellMigration F) :=
  let report := ⟨sourceStation, targetStation, cells, [], 0, 0, 0⟩
  match stations.get sourceStation with
  | none =>
      some (.error (.entity (.missingSource sourceStation)),
        ⟨stations, sourceIndex, targetIndex, ∅, report⟩)
  | some source =>
      let scan := scanCells source sourceIndex ⟨∅, [], report⟩ cells
      migrateAll sourceStation targetStation ghostTtlTicks
        ⟨stations, sourceIndex, targetIndex, ∅, scan.report⟩ scan.entityIds

end Migrate

end CellMigrationExecutor

/-! ## The cells that a split moves -/

namespace CellOwnershipTable

lemma ownerOf_assign (table : CellOwnershipTable) (cell cell' : CellCoord3)
    (stationId : StationId) :
    (table.assign cell stationId).2.ownerOf cell'
      = if cell' = cell then some stationId else table.ownerOf cell' :=
  Finmap.lookup_insert_eq cell cell' stationId table.owners

lemma ext_ownerOf {table table' : CellOwnershipTable}
    (h : ∀ cell, table.ownerOf cell = table'.ownerOf cell) : table = table' := by
  cases table
  cases table'
  congr
  exact Finmap.ext_lookup h

lemma foldl_applySplitCell (cells : List CellCoord3) (target : StationId)
    (update : CellOwnershipUpdate) (table : CellOwnershipTable) (cell : CellCoord3) :
    (cell ∈ (cells.foldl (applySplitCell target) (update, table)).1.movedCells
        ↔ cell ∈ update.movedCells ∨ (cell ∈ cells ∧ table.ownerOf cell ≠ some target))
      ∧ (cells.foldl (applySplitCell target) (update, table)).2.ownerOf cell
        = if cell ∈ cells then some target else table.ownerOf cell := by
  induction cells generalizing update table with
  | nil => simp
  | cons next cells ih =>
      simp only [List.foldl_cons, applySplitCell]
      have hassign := ownerOf_assign table next cell target
      have hprevious : (table.assign next target).1 = table.ownerOf next := rfl
      by_cases hmoved : (table.assign next target).1 ≠ some target
      · rw [if_pos hmoved]
        obtain ⟨hmem, howner⟩ := ih { update with movedCells := update.movedCells ++ [next] }
          (table.assign next target).2
        rw [hmem, howner, hassign]
        by_cases hcell : cell = next
        · rw [hprevious] at hmoved
          subst hcell
          simp [hmoved]
        · simp [hcell]
      · rw [if_neg hmoved]
        obtain ⟨hmem, howner⟩ := ih update (table.assign next target).2
        rw [hmem, howner, hassign]
        by_cases hcell : cell = next
        · rw [hprevious, not_not] at hmoved
          subst hcell
          simp [hmoved]
        · simp [hcell]

/-- A split reports the proposed cells that the target did not have. -/
lemma mem_movedCells (table : CellOwnershipTable) (proposal : SplitProposal) (target : StationId)
    (cell : CellCoord3) :
    cell ∈ (table.applySplit proposal target).1.movedCells
      ↔ cell ∈ proposal.cellsToMove ∧ table.ownerOf cell ≠ some target := by
  rw [applySplit, (foldl_applySplitCell proposal.cellsToMove target _ table cell).1]
  simp

/-- A split changes the table unless the target had all proposed cells. -/
lemma applySplit_eq_self (table : CellOwnershipTable) (proposal : SplitProposal)
    (target : StationId) :
    (table.applySplit proposal target).2 = table
      ↔ ∀ cell ∈ proposal.cellsToMove, table.ownerOf cell = some target := by
  have howner := fun cell =>
    (foldl_applySplitCell proposal.cellsToMove target ⟨proposal.sourceStation, target, []⟩ table
      cell).2
  constructor
  · intro h cell hcell
    have hafter := howner cell
    rw [if_pos hcell] at hafter
    rw [← hafter]
    exact congrArg (fun table => table.ownerOf cell) h.symm
  · intro h
    refine ext_ownerOf fun cell => ?_
    rw [applySplit, howner]
    split_ifs with hcell
    · exact (h cell hcell).symm
    · rfl

end CellOwnershipTable

namespace CellMigrationExecutor

/-! ## The scan -/

/-- One of the handles leads to an entity that the station owns. -/
def OwnedIn (source : Station F) (handles : List EntityHandle) (id : EntityId) : Prop :=
  ∃ handle ∈ handles, ∃ record, source.get handle = some record ∧ record.isOwned = true
    ∧ record.id = id

/-- What the scan has done after some handles. -/
structure Scanned (source : Station F) (handles : List EntityHandle) (scan : CellScan F) :
    Prop where
  seen : ∀ handle, handle ∈ scan.seenHandles ↔ handle ∈ handles
  collected : ∀ id, id ∈ scan.entityIds ↔ OwnedIn source handles id
  migrations : scan.report.entityMigrations = []

lemma ownedIn_append {source : Station F} {handles : List EntityHandle} {handle : EntityHandle}
    {id : EntityId} :
    OwnedIn source (handles ++ [handle]) id
      ↔ OwnedIn source handles id ∨ OwnedIn source [handle] id := by
  simp [OwnedIn, or_and_right, exists_or]

lemma ownedIn_singleton {source : Station F} {handle : EntityHandle} {id : EntityId} :
    OwnedIn source [handle] id
      ↔ ∃ record, source.get handle = some record ∧ record.isOwned = true ∧ record.id = id := by
  simp [OwnedIn]

lemma Scanned.scanHandle {source : Station F} {handles : List EntityHandle} {scan : CellScan F}
    (h : Scanned source handles scan) (handle : EntityHandle) :
    Scanned source (handles ++ [handle])
      (CellMigrationExecutor.scanHandle source scan handle) := by
  rw [CellMigrationExecutor.scanHandle]
  split_ifs with hseen
  · have hmem := (h.seen handle).mp hseen
    refine ⟨fun other => ?_, fun id => ?_, h.migrations⟩
    · rw [h.seen, List.mem_append, List.mem_singleton]
      constructor
      · exact Or.inl
      · rintro (hother | rfl)
        · exact hother
        · exact hmem
    · rw [h.collected, ownedIn_append]
      constructor
      · exact Or.inl
      · rintro (hid | ⟨_, hother, hrecord⟩)
        · exact hid
        · rw [List.mem_singleton.mp hother] at hrecord
          exact ⟨handle, hmem, hrecord⟩
  · have hinsert : ∀ other,
        other ∈ insert handle scan.seenHandles ↔ other ∈ handles ++ [handle] := by
      intro other
      rw [Finset.mem_insert, h.seen, List.mem_append, List.mem_singleton, or_comm]
    cases hget : source.get handle with
    | none =>
        refine ⟨hinsert, fun id => ?_, h.migrations⟩
        rw [h.collected, ownedIn_append, ownedIn_singleton]
        simp [hget]
    | some record =>
        cases howned : record.isOwned with
        | true =>
            simp only [howned, if_true]
            refine ⟨hinsert, fun id => ?_, h.migrations⟩
            rw [List.mem_append, List.mem_singleton, h.collected, ownedIn_append,
              ownedIn_singleton, @eq_comm _ id]
            simp [hget, howned]
        | false =>
            simp only [howned, Bool.false_eq_true, if_false]
            refine ⟨hinsert, fun id => ?_, h.migrations⟩
            rw [h.collected, ownedIn_append, ownedIn_singleton]
            simp [hget, howned]

/-- The handles that the index has in the cells. -/
def handlesIn (index : CellIndex F) (cells : List CellCoord3) : List EntityHandle :=
  cells.flatMap index.handlesInCell

/-- The scan collects the entities that the source owns under the handles of the cells. -/
lemma scanCells_spec (source : Station F) (sourceIndex : CellIndex F)
    (report : CellMigrationReport F) (cells : List CellCoord3)
    (hreport : report.entityMigrations = []) :
    Scanned source (handlesIn sourceIndex cells)
      (scanCells source sourceIndex ⟨∅, [], report⟩ cells) := by
  have hfold : ∀ (rest handles : List EntityHandle) (scan : CellScan F),
      Scanned source handles scan →
      Scanned source (handles ++ rest)
        (rest.foldl (CellMigrationExecutor.scanHandle source) scan) := by
    intro rest
    induction rest with
    | nil => intro handles scan h; simpa using h
    | cons handle rest ih =>
        intro handles scan h
        have hnext := ih (handles ++ [handle]) _ (h.scanHandle handle)
        rwa [List.append_assoc, List.singleton_append] at hnext
  rw [scanCells, ← List.foldl_flatMap]
  exact hfold _ [] _ ⟨by simp, by simp [OwnedIn], hreport⟩

lemma OwnedIn.owns {source : Station F} {handles : List EntityHandle} {id : EntityId}
    (inv : source.StoreInv) (h : OwnedIn source handles id) : source.owns id = true := by
  obtain ⟨handle, -, record, hget, howned, rfl⟩ := h
  have hlook := (inv.id_of_get handle record hget).1
  exact Station.owns_eq_true.mpr ⟨record, Station.getById_eq_some.mpr ⟨handle, hlook, hget⟩, howned⟩

/-! ## The loop -/

section Migrate

variable [Scalar F] {sourceStation targetStation : StationId} (ghostTtlTicks : UInt64)

/-- **The loop rule.**  What every entity of the list succeeds with, and carries on from what was
done before it, the whole loop does. -/
lemma migrateAll_history {I : List EntityId → CellMigration F → Prop} {m : CellMigration F}
    {entityIds : List EntityId}
    (hstep : ∀ done m entityId, entityId ∈ entityIds → I done m → ∃ m',
      migrateNext sourceStation targetStation ghostTtlTicks m entityId = some (.ok (), m')
        ∧ I (done ++ [entityId]) m') (hinit : I [] m) :
    ∃ m', migrateAll sourceStation targetStation ghostTtlTicks m entityIds = some (.ok (), m')
      ∧ I entityIds m' := by
  have hrest : ∀ (rest done : List EntityId) (m : CellMigration F),
      (∀ entityId ∈ rest, entityId ∈ entityIds) → I done m → ∃ m',
      migrateAll sourceStation targetStation ghostTtlTicks m rest = some (.ok (), m')
        ∧ I (done ++ rest) m' := by
    intro rest
    induction rest with
    | nil =>
        intro done m _ h
        exact ⟨m, rfl, by rwa [List.append_nil]⟩
    | cons entityId rest ih =>
        intro done m hmem h
        obtain ⟨m₁, hnext, h₁⟩ := hstep done m entityId (hmem entityId List.mem_cons_self) h
        obtain ⟨m', hall, h'⟩ := ih (done ++ [entityId]) m₁
          (fun id hid => hmem id (List.mem_cons_of_mem _ hid)) h₁
        rw [List.append_assoc, List.singleton_append] at h'
        exact ⟨m', by rw [migrateAll, hnext]; exact hall, h'⟩
  exact hrest entityIds [] m (fun _ hid => hid) hinit

/-- What a new entity of the source does: it goes to the target, and both indexes are updated at the
handles of the two records. -/
lemma migrateNext_moves {m : CellMigration F} {entityId : EntityId} {s t : Station F}
    (hne : sourceStation ≠ targetStation) (hset : m.stations.Valid)
    (hs : m.stations.get sourceStation = some s) (ht : m.stations.get targetStation = some t)
    (howns : s.owns entityId = true) (hseen : entityId ∉ m.seenEntities) :
    ∃ report set' s' t' r, s.getById entityId = some r ∧ report.transfer.entity = r
      ∧ report.transfer.targetStation = targetStation
      ∧ migrateNext sourceStation targetStation ghostTtlTicks m entityId
        = some (.ok (), {
            stations := set'
            sourceIndex := m.sourceIndex.upsert report.sourceGhost r.position r.bounds
            targetIndex := m.targetIndex.upsert report.targetOwner r.position r.bounds
            seenEntities := insert entityId m.seenEntities
            report := { m.report with
              entityMigrations := m.report.entityMigrations ++ [report] } })
      ∧ set'.Valid
      ∧ (∀ id, set'.get id = if id = sourceStation then some s'
          else if id = targetStation then some t' else m.stations.get id)
      ∧ Station.Updates s s' entityId (Station.outgoingRecord report.transfer r)
      ∧ Station.Updates t t' entityId
        (Station.incomingRecord report.transfer report.targetOwner)
      ∧ s'.get report.sourceGhost = some (Station.outgoingRecord report.transfer r)
      ∧ t'.get report.targetOwner
        = some (Station.incomingRecord report.transfer report.targetOwner)
      ∧ s.KeepsHandles s' ∧ t.KeepsHandles t' := by
  obtain ⟨report, set', s', t', r, hcall, hvalid, -, hget, hr, hentity, hstation, -, hsource, -,
    htarget, -, hghost, howner, hkeeps⟩ := migrateEntity_handles ghostTtlTicks hset hne hs ht howns
  have hs' : set'.get sourceStation = some s' := by rw [hget, if_pos rfl]
  have ht' : set'.get targetStation = some t' := by rw [hget, if_neg hne.symm, if_pos rfl]
  refine ⟨report, set', s', t', r, hr, hentity, hstation, ?_, hvalid, hget, hsource, htarget,
    hghost, howner, hkeeps⟩
  rw [migrateNext, if_neg hseen]
  simp only [hcall, hs', ht', hghost, howner]
  subst hentity
  rfl

/-- Where a migration stands: of what the source owned at the start, it still owns what the
migration has not seen, and both stations are there. -/
structure Migrating (start : Station F) (sourceStation targetStation : StationId)
    (m : CellMigration F) : Prop where
  valid : m.stations.Valid
  source : ∃ s, m.stations.get sourceStation = some s
    ∧ ∀ id, s.owns id = true ↔ start.owns id = true ∧ id ∉ m.seenEntities
  target : ∃ t, m.stations.get targetStation = some t

/-- One collected entity: it is migrated, or was before. -/
lemma Migrating.migrateNext {start : Station F} {m : CellMigration F} {entityId : EntityId}
    (hne : sourceStation ≠ targetStation) (h : Migrating start sourceStation targetStation m)
    (howns : start.owns entityId = true) :
    ∃ m', CellMigrationExecutor.migrateNext sourceStation targetStation ghostTtlTicks m entityId
        = some (.ok (), m')
      ∧ Migrating start sourceStation targetStation m'
      ∧ m'.seenEntities = insert entityId m.seenEntities := by
  by_cases hseen : entityId ∈ m.seenEntities
  · rw [CellMigrationExecutor.migrateNext, if_pos hseen]
    exact ⟨_, rfl, ⟨h.valid, h.source, h.target⟩, (Finset.insert_eq_of_mem hseen).symm⟩
  · obtain ⟨s, hs, hsowns⟩ := h.source
    obtain ⟨t, ht⟩ := h.target
    obtain ⟨report, set', s', t', r, -, -, -, hnext, hvalid, hget, hsource, -⟩ :=
      migrateNext_moves ghostTtlTicks hne h.valid hs ht ((hsowns entityId).mpr ⟨howns, hseen⟩)
        hseen
    refine ⟨_, hnext, ⟨hvalid, ⟨s', by rw [hget, if_pos rfl], fun id => ?_⟩,
      ⟨t', by rw [hget, if_neg hne.symm, if_pos rfl]⟩⟩, rfl⟩
    rw [hsource.owns, Finset.mem_insert]
    by_cases hid : id = entityId
    · subst hid
      simp [Station.outgoingRecord, EntityRecord.isOwned]
    · rw [if_neg hid, hsowns]
      simp [hid]

/-- The loop migrates all entities of the list. -/
lemma Migrating.migrateAll {start : Station F} {m : CellMigration F} (entityIds : List EntityId)
    (hne : sourceStation ≠ targetStation) (h : Migrating start sourceStation targetStation m)
    (howns : ∀ id ∈ entityIds, start.owns id = true) :
    ∃ m', CellMigrationExecutor.migrateAll sourceStation targetStation ghostTtlTicks m entityIds
        = some (.ok (), m')
      ∧ Migrating start sourceStation targetStation m'
      ∧ ∀ id, id ∈ m'.seenEntities ↔ id ∈ m.seenEntities ∨ id ∈ entityIds := by
  refine migrateAll_history ghostTtlTicks (I := fun done m' =>
    Migrating start sourceStation targetStation m'
      ∧ ∀ id, id ∈ m'.seenEntities ↔ id ∈ m.seenEntities ∨ id ∈ done) ?_ ⟨h, by simp⟩
  rintro done m₁ entityId hmem ⟨h₁, hseen₁⟩
  obtain ⟨m', hnext, h', hseen'⟩ := h₁.migrateNext ghostTtlTicks hne (howns entityId hmem)
  refine ⟨m', hnext, h', fun id => ?_⟩
  rw [hseen', Finset.mem_insert, hseen₁, List.mem_append, List.mem_singleton]
  tauto

variable {stations : StationSet F} {s : Station F}

/-- **A migration of cells** between two stations of the collection succeeds, and takes from the
source the entities that it owns there. -/
theorem migrateCells_spec (sourceIndex targetIndex : CellIndex F) (cells : List CellCoord3)
    (hset : stations.Valid) (hne : sourceStation ≠ targetStation) {t : Station F}
    (hs : stations.get sourceStation = some s) (ht : stations.get targetStation = some t) :
    ∃ m, migrateCells sourceStation targetStation ghostTtlTicks stations sourceIndex targetIndex
        cells = some (.ok (), m)
      ∧ m.stations.Valid
      ∧ ∃ s', m.stations.get sourceStation = some s'
        ∧ ∀ id, s'.owns id = true
          ↔ s.owns id = true ∧ ¬ OwnedIn s (handlesIn sourceIndex cells) id := by
  have hscan := scanCells_spec s sourceIndex
    ⟨sourceStation, targetStation, cells, [], 0, 0, 0⟩ cells rfl
  have hinv := hset.get_eq_some hs |>.1
  obtain ⟨m, hall, h, hseen⟩ := Migrating.migrateAll ghostTtlTicks
    (m := ⟨stations, sourceIndex, targetIndex, ∅,
      (scanCells s sourceIndex ⟨∅, [], ⟨sourceStation, targetStation, cells, [], 0, 0, 0⟩⟩
        cells).report⟩) _ hne
    ⟨hset, ⟨s, hs, by simp⟩, ⟨t, ht⟩⟩ fun id hid => ((hscan.collected id).mp hid).owns hinv
  obtain ⟨s', hs', howns⟩ := h.source
  refine ⟨m, by simp only [migrateCells, hs]; exact hall, h.valid, s', hs', fun id => ?_⟩
  rw [howns, hseen, hscan.collected]
  simp

lemma migrateCells_missing_source (targetStation : StationId)
    (sourceIndex targetIndex : CellIndex F) (cells : List CellCoord3)
    (hs : stations.get sourceStation = none) :
    ∃ m, migrateCells sourceStation targetStation ghostTtlTicks stations sourceIndex targetIndex
        cells = some (.error (.entity (.missingSource sourceStation)), m)
      ∧ m.report.entityMigrations = [] := by
  simp only [migrateCells, hs]
  exact ⟨_, rfl, rfl⟩

/-- Without the target station the migration fails on its first entity, if it has one. -/
lemma migrateCells_missing_target (sourceIndex targetIndex : CellIndex F)
    (cells : List CellCoord3) (hne : sourceStation ≠ targetStation)
    (hs : stations.get sourceStation = some s) (ht : stations.get targetStation = none) :
    ((∀ id, ¬ OwnedIn s (handlesIn sourceIndex cells) id)
        ∧ ∃ m, migrateCells sourceStation targetStation ghostTtlTicks stations sourceIndex
            targetIndex cells = some (.ok (), m)
          ∧ m.stations = stations)
      ∨ ((∃ id, OwnedIn s (handlesIn sourceIndex cells) id)
        ∧ ∃ m, migrateCells sourceStation targetStation ghostTtlTicks stations sourceIndex
            targetIndex cells = some (.error (.entity (.missingTarget targetStation)), m)
          ∧ m.report.entityMigrations = []) := by
  have hscan := scanCells_spec s sourceIndex
    ⟨sourceStation, targetStation, cells, [], 0, 0, 0⟩ cells rfl
  simp only [migrateCells, hs]
  cases hids : (scanCells s sourceIndex
      ⟨∅, [], ⟨sourceStation, targetStation, cells, [], 0, 0, 0⟩⟩ cells).entityIds with
  | nil =>
      refine .inl ⟨fun id hid => ?_, _, rfl, rfl⟩
      have hmem := (hscan.collected id).mpr hid
      rw [hids] at hmem
      simp at hmem
  | cons entityId entityIds =>
      refine .inr ⟨⟨entityId, (hscan.collected entityId).mp (by rw [hids]; simp)⟩, ?_⟩
      rw [CellMigrationExecutor.migrateAll, CellMigrationExecutor.migrateNext,
        if_neg (Finset.notMem_empty entityId)]
      simp only [migrateEntity_missing_target ghostTtlTicks hne hs ht]
      exact ⟨_, rfl, hscan.migrations⟩

/-- **How a migration of cells ends.**  It succeeds and takes from the source the entities that it
owns there, or it fails and has migrated nothing. -/
lemma migrateCells_cases {sourceIndex targetIndex : CellIndex F} {cells : List CellCoord3}
    {outcome : Except CellMigrationError Unit × CellMigration F} (hset : stations.Valid)
    (hne : sourceStation ≠ targetStation)
    (hcall : migrateCells sourceStation targetStation ghostTtlTicks stations sourceIndex targetIndex
      cells = some outcome) :
    (outcome.1 = .ok () ∧ outcome.2.stations.Valid
        ∧ ∃ s s', stations.get sourceStation = some s
          ∧ outcome.2.stations.get sourceStation = some s'
          ∧ ∀ id, s'.owns id = true
            ↔ s.owns id = true ∧ ¬ OwnedIn s (handlesIn sourceIndex cells) id)
      ∨ ∃ error, outcome.1 = .error error ∧ outcome.2.report.entityMigrations = [] := by
  cases hs : stations.get sourceStation with
  | none =>
      obtain ⟨m, hmissing, hnone⟩ := migrateCells_missing_source ghostTtlTicks targetStation
        sourceIndex targetIndex cells hs
      obtain rfl := Option.some.inj (hmissing.symm.trans hcall)
      exact .inr ⟨_, rfl, hnone⟩
  | some s =>
      cases ht : stations.get targetStation with
      | none =>
          rcases migrateCells_missing_target ghostTtlTicks sourceIndex targetIndex cells hne hs ht
            with ⟨hnobody, m, hcall', hkept⟩ | ⟨-, m, hcall', hnone⟩
          · obtain rfl := Option.some.inj (hcall'.symm.trans hcall)
            refine .inl ⟨rfl, hkept ▸ hset, s, s, rfl, hkept ▸ hs, fun id => ?_⟩
            simp [hnobody id]
          · obtain rfl := Option.some.inj (hcall'.symm.trans hcall)
            exact .inr ⟨_, rfl, hnone⟩
      | some t =>
          obtain ⟨m, hcall', hvalid, s', hs', howns⟩ := migrateCells_spec ghostTtlTicks sourceIndex
            targetIndex cells hset hne hs ht
          obtain rfl := Option.some.inj (hcall'.symm.trans hcall)
          exact .inl ⟨rfl, hvalid, s, s', rfl, hs', howns⟩

/-! ## Other stations -/

/-- The same stations are there, and those other than the two of a migration are as before. -/
structure LeavesOthers (sourceStation targetStation : StationId) (set set' : StationSet F) :
    Prop where
  valid : set'.Valid
  isSome : ∀ id, (set'.get id).isSome = (set.get id).isSome
  others : ∀ id, id ≠ sourceStation → id ≠ targetStation → set'.get id = set.get id

omit [Scalar F] in
lemma leavesOthers_refl {set : StationSet F} (hset : set.Valid) :
    LeavesOthers sourceStation targetStation set set :=
  ⟨hset, fun _ => rfl, fun _ _ _ => rfl⟩

omit [Scalar F] in
lemma LeavesOthers.trans {set set' set'' : StationSet F}
    (h : LeavesOthers sourceStation targetStation set set')
    (h' : LeavesOthers sourceStation targetStation set' set'') :
    LeavesOthers sourceStation targetStation set set'' where
  valid := h'.valid
  isSome id := (h'.isSome id).trans (h.isSome id)
  others id hsource htarget := (h'.others id hsource htarget).trans (h.others id hsource htarget)

lemma leavesOthers_migrateNext {m m' : CellMigration F} {entityId : EntityId}
    (hset : m.stations.Valid)
    (hok : migrateNext sourceStation targetStation ghostTtlTicks m entityId = some (.ok (), m')) :
    LeavesOthers sourceStation targetStation m.stations m'.stations := by
  by_cases hseen : entityId ∈ m.seenEntities
  · rw [migrateNext, if_pos hseen] at hok
    simp only [Option.some.injEq, Prod.mk.injEq, true_and] at hok
    exact hok ▸ leavesOthers_refl hset
  · obtain ⟨report, set', hcall⟩ : ∃ report set', migrateEntity m.stations entityId sourceStation
        targetStation ghostTtlTicks = some (.ok report, set') := by
      rw [migrateNext, if_neg hseen] at hok
      rcases hcall : migrateEntity m.stations entityId sourceStation targetStation ghostTtlTicks
        with _ | ⟨error | report, set'⟩
      · simp [hcall] at hok
      · simp [hcall] at hok
      · exact ⟨report, set', rfl⟩
    obtain ⟨hne, s, t, hs, ht, howns⟩ := migrateEntity_ok hcall
    obtain ⟨report, set', s', t', r, -, -, -, hnext, hvalid, hget, -⟩ :=
      migrateNext_moves ghostTtlTicks hne hset hs ht howns hseen
    obtain rfl := (Prod.mk.inj (Option.some.inj (hnext.symm.trans hok))).2
    refine ⟨hvalid, fun id => ?_, fun id hsource htarget => ?_⟩
    · show (set'.get id).isSome = (m.stations.get id).isSome
      rw [hget]
      split_ifs with hsource htarget
      · rw [hsource, hs, Option.isSome_some, Option.isSome_some]
      · rw [htarget, ht, Option.isSome_some, Option.isSome_some]
      · rfl
    · show set'.get id = m.stations.get id
      rw [hget, if_neg hsource, if_neg htarget]

lemma leavesOthers_migrateAll {m m' : CellMigration F} {entityIds : List EntityId}
    (hset : m.stations.Valid)
    (hok : migrateAll sourceStation targetStation ghostTtlTicks m entityIds = some (.ok (), m')) :
    LeavesOthers sourceStation targetStation m.stations m'.stations := by
  induction entityIds generalizing m with
  | nil =>
      simp only [migrateAll, Option.some.injEq, Prod.mk.injEq, true_and] at hok
      exact hok ▸ leavesOthers_refl hset
  | cons entityId entityIds ih =>
      rw [migrateAll] at hok
      cases hnext : migrateNext sourceStation targetStation ghostTtlTicks m entityId with
      | none => simp [hnext] at hok
      | some outcome =>
          obtain ⟨error | _, m₁⟩ := outcome
          · simp [hnext] at hok
          · simp only [hnext] at hok
            have hfirst := leavesOthers_migrateNext ghostTtlTicks hset hnext
            exact hfirst.trans (ih hfirst.valid hok)

/-- A migration of cells that succeeds leaves all stations but its two. -/
lemma leavesOthers_migrateCells {sourceIndex targetIndex : CellIndex F} {cells : List CellCoord3}
    {m : CellMigration F} (hset : stations.Valid)
    (hok : migrateCells sourceStation targetStation ghostTtlTicks stations sourceIndex targetIndex
      cells = some (.ok (), m)) :
    LeavesOthers sourceStation targetStation stations m.stations := by
  simp only [migrateCells] at hok
  cases hs : stations.get sourceStation with
  | none => simp [hs] at hok
  | some s =>
      simp only [hs] at hok
      exact leavesOthers_migrateAll ghostTtlTicks hset hok

end Migrate

end CellMigrationExecutor

end SectorSync
