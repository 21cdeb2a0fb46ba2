import SectorSync.Core.RationalScalar
import SectorSync.Runtime.CellMigration

/-!
# What a migration of cells moves

`CellIndex.Coherent` says that an index has every live entity of a station in exactly the cells of
its position and bounds.  Between two stations with coherent indexes a migration of cells moves
the entities that the source owns in these cells, and nothing else: `migrate_cells_moves`.

`Carries` is the invariant of the loop over the collected entities: what the loop has seen is handed
over, everything else is as it was, and both indexes are coherent with their stations.
`Station.Updates` says which record a step changes, and `Coherent.upsert` that an upsert of its
handle is all the index needs.
-/

namespace SectorSync

open CellMigrationExecutor

variable {F : Type}

/-! ## Coherent indexes -/

namespace CellIndex

variable [Scalar F]

/-- Each live entity is indexed at exactly the cells of its position and bounds. -/
structure Coherent (index : CellIndex F) (s : Station F) : Prop where
  represents : index.Represents
  cellsForHandle : ∀ h r, s.get h = some r →
    index.cellsForHandle h = some (index.grid.cellsForBounds r.position r.bounds)

/-- The index has no stale handle. -/
def Exact (index : CellIndex F) (s : Station F) : Prop :=
  ∀ h cells, index.cellsForHandle h = some cells → (s.get h).isSome

/-- The record is live, and its handle is in the buckets of its cells, once each, and in no
others. -/
structure Indexes (index : CellIndex F) (s : Station F) (r : EntityRecord F) : Prop where
  live : s.get r.handle = some r
  cellsForHandle :
    index.cellsForHandle r.handle = some (index.grid.cellsForBounds r.position r.bounds)
  count : ∀ c, (index.handlesInCell c).count r.handle
    = if c ∈ index.grid.cellsForBounds r.position r.bounds then 1 else 0

variable {index : CellIndex F} {s s' : Station F}

lemma coherent_new (grid : GridSpec F) (config : StationConfig) :
    (new grid).Coherent (Station.new config) := by
  refine ⟨represents_new grid, fun h r hr => ?_⟩
  rw [Station.get_eq_some] at hr
  simp [Station.new] at hr

lemma Coherent.indexes (h : index.Coherent s) (inv : s.StoreInv) {id : EntityId}
    {r : EntityRecord F} (hr : s.getById id = some r) : index.Indexes s r := by
  obtain ⟨handle, -, hget⟩ := Station.getById_eq_some.mp hr
  obtain rfl := (inv.id_of_get handle r hget).2
  have hcells := h.cellsForHandle _ r hget
  refine ⟨hget, hcells, fun c => ?_⟩
  rw [h.represents.count, membership, hcells, Option.getD_some]

/-- An index follows the change of one record by an upsert of its handle. -/
lemma Coherent.upsert (h : index.Coherent s) (inv : s.StoreInv) {id : EntityId}
    {record : EntityRecord F} {handle : EntityHandle} {position : Position3 F} {bounds : Bounds F}
    (hup : Station.Updates s s' id record) (hget : s'.get handle = some record)
    (hid : record.id = id) (hposition : record.position = position)
    (hbounds : record.bounds = bounds) :
    (index.upsert handle position bounds).Coherent s' := by
  subst hposition hbounds
  have hindex := upsert_spec h.represents handle record.position record.bounds
  refine ⟨hindex.represents, fun h' r hr => ?_⟩
  rw [hindex.cellsForHandle, hindex.grid]
  by_cases hh : h' = handle
  · subst hh
    obtain rfl := Option.some.inj (hget.symm.trans hr)
    rw [if_pos rfl]
  · rw [if_neg hh]
    obtain ⟨hlook, hhandle⟩ := hup.inv.id_of_get h' r hr
    -- another live handle leads to another entity, whose record the change left alone
    have hne : r.id ≠ id := by
      rintro rfl
      have hlook' := (hup.inv.id_of_get handle record hget).1
      rw [hid, hlook] at hlook'
      exact hh (Option.some.inj hlook')
    have hby : s'.getById r.id = some r := Station.getById_eq_some.mpr ⟨h', hlook, hr⟩
    rw [hup.getById, if_neg hne] at hby
    obtain ⟨old, -, hold⟩ := Station.getById_eq_some.mp hby
    obtain rfl : old = h' := (inv.id_of_get old r hold).2.symm.trans hhandle
    exact h.cellsForHandle old r hold

lemma Exact.upsert (hexact : index.Exact s) (h : index.Coherent s) (hkeeps : s.KeepsHandles s')
    {record : EntityRecord F} {handle : EntityHandle} (hget : s'.get handle = some record)
    (position : Position3 F) (bounds : Bounds F) :
    (index.upsert handle position bounds).Exact s' := by
  intro h' cells hcells
  rw [(upsert_spec h.represents handle position bounds).cellsForHandle] at hcells
  split_ifs at hcells with hh
  · rw [hh, hget]
    rfl
  · exact hkeeps h' (hexact h' cells hcells)

end CellIndex

/-! ## What a report accounts for -/

/-- The handles that a report accounts for. -/
def CellMigrationReport.accounted (report : CellMigrationReport F) : ℕ :=
  report.entityMigrations.length + report.skippedMissingHandles + report.skippedNonOwned
    + report.skippedDuplicateEntities

/-- Every handle that is scanned is accounted for, or leads to a collected entity. -/
lemma accounted_scanHandle (source : Station F) (scan : CellScan F) (handle : EntityHandle) :
    (scanHandle source scan handle).report.accounted
        + (scanHandle source scan handle).entityIds.length
      = scan.report.accounted + scan.entityIds.length + 1 := by
  rw [scanHandle]
  split_ifs with hseen
  · simp only [CellMigrationReport.accounted]
    omega
  · cases source.get handle with
    | none =>
        simp only [CellMigrationReport.accounted]
        omega
    | some record =>
        cases howned : record.isOwned with
        | true =>
            simp only [howned, if_true, List.length_append, List.length_singleton]
            omega
        | false =>
            simp only [howned, Bool.false_eq_true, if_false, CellMigrationReport.accounted]
            omega

lemma accounted_scanCells (source : Station F) (sourceIndex : CellIndex F)
    (scan : CellScan F) (cells : List CellCoord3) :
    (scanCells source sourceIndex scan cells).report.accounted
        + (scanCells source sourceIndex scan cells).entityIds.length
      = scan.report.accounted + scan.entityIds.length + (handlesIn sourceIndex cells).length := by
  rw [scanCells, ← List.foldl_flatMap, ← handlesIn]
  induction handlesIn sourceIndex cells generalizing scan with
  | nil => rfl
  | cons handle handles ih =>
      rw [List.foldl_cons, ih, accounted_scanHandle, List.length_cons]
      omega

/-! ## What is handed over -/

/-- The records agree in what migrates with an entity. -/
structure EntityRecord.SameData (r r' : EntityRecord F) : Prop where
  position : r.position = r'.position
  bounds : r.bounds = r'.bounds
  policyId : r.policyId = r'.policyId
  tags : r.tags = r'.tags

/-- The target owns the entity, with the data that the source's record had, and the source keeps
a ghost of it. -/
structure HandedOver (s s' t' : Station F) (targetStation : StationId) (id : EntityId) : Prop where
  owner : ∃ r owner epoch, s.getById id = some r ∧ t'.getById id = some owner
    ∧ owner.role = .owned epoch ∧ owner.SameData r
  ghost : ∃ r ghost epoch expiresAt, s.getById id = some r ∧ s'.getById id = some ghost
    ∧ ghost.role = .ghost targetStation epoch expiresAt ∧ ghost.SameData r

/-- What a handoff writes at the two stations. -/
lemma HandedOver.of_updates {s s' s'' t' t'' : Station F} {targetStation : StationId}
    {id : EntityId} {r : EntityRecord F} {transfer : HandoffTransfer F} {owner : EntityHandle}
    (hr : s.getById id = some r) (hentity : transfer.entity = r)
    (hstation : transfer.targetStation = targetStation)
    (hups : Station.Updates s' s'' id (Station.outgoingRecord transfer r))
    (hupt : Station.Updates t' t'' id (Station.incomingRecord transfer owner)) :
    HandedOver s s'' t'' targetStation id where
  owner := by
    subst hentity
    exact ⟨_, Station.incomingRecord transfer owner, transfer.targetOwnerEpoch, hr,
      by rw [hupt.getById, if_pos rfl], rfl, ⟨rfl, rfl, rfl, rfl⟩⟩
  ghost := by
    subst hstation
    exact ⟨r, Station.outgoingRecord transfer r, transfer.targetOwnerEpoch,
      transfer.sourceGhostExpiresAt, hr, by rw [hups.getById, if_pos rfl], rfl,
      ⟨rfl, rfl, rfl, rfl⟩⟩

section Migrate

variable [Scalar F]

/-- Where a migration stands that has done with some entities, between two stations which were `s`
and `t` at its start. -/
structure Carries (s t s' t' : Station F) (sourceIndex targetIndex : CellIndex F)
    (sourceStation targetStation : StationId) (scanned : ℕ) (done : List EntityId)
    (m : CellMigration F) : Prop where
  valid : m.stations.Valid
  source : m.stations.get sourceStation = some s'
  target : m.stations.get targetStation = some t'
  sourceCoherent : m.sourceIndex.Coherent s'
  targetCoherent : m.targetIndex.Coherent t'
  sourceExact : sourceIndex.Exact s → m.sourceIndex.Exact s'
  targetExact : targetIndex.Exact t → m.targetIndex.Exact t'
  seen : ∀ id, id ∈ m.seenEntities ↔ id ∈ done
  moved : ∀ id ∈ done, HandedOver s s' t' targetStation id
  others : ∀ id ∉ done, s'.getById id = s.getById id ∧ t'.getById id = t.getById id
  accounted : m.report.accounted = scanned + done.length

variable {s t s' t' : Station F} {sourceIndex targetIndex : CellIndex F}
  {sourceStation targetStation : StationId} {scanned : ℕ} {done : List EntityId}
  {m : CellMigration F} (ghostTtlTicks : UInt64)

/-- An entity that was done already. -/
lemma Carries.again
    (h : Carries s t s' t' sourceIndex targetIndex sourceStation targetStation scanned done m)
    {entityId : EntityId} (hdone : entityId ∈ done) :
    Carries s t s' t' sourceIndex targetIndex sourceStation targetStation scanned
      (done ++ [entityId]) { m with report :=
        { m.report with
          skippedDuplicateEntities := m.report.skippedDuplicateEntities + 1 } } := by
  have hmem : ∀ id, id ∈ done ++ [entityId] ↔ id ∈ done := by
    intro id
    rw [List.mem_append, List.mem_singleton]
    refine or_iff_left_of_imp ?_
    rintro rfl
    exact hdone
  refine ⟨h.valid, h.source, h.target, h.sourceCoherent, h.targetCoherent, h.sourceExact,
    h.targetExact, fun id => (h.seen id).trans (hmem id).symm,
    fun id hid => h.moved id ((hmem id).mp hid),
    fun id hid => h.others id fun hid' => hid ((hmem id).mpr hid'), ?_⟩
  have haccounted := h.accounted
  simp only [CellMigrationReport.accounted, List.length_append, List.length_singleton]
    at haccounted ⊢
  omega

/-- **The step lemma.**  One collected entity. -/
lemma Carries.migrateNext
    (h : Carries s t s' t' sourceIndex targetIndex sourceStation targetStation scanned done m)
    (hne : sourceStation ≠ targetStation) {entityId : EntityId} (howns : s.owns entityId = true) :
    ∃ m', CellMigrationExecutor.migrateNext sourceStation targetStation ghostTtlTicks m entityId
        = some (.ok (), m')
      ∧ ∃ s'' t'', Carries s t s'' t'' sourceIndex targetIndex sourceStation targetStation scanned
        (done ++ [entityId]) m' := by
  by_cases hseen : entityId ∈ m.seenEntities
  · rw [CellMigrationExecutor.migrateNext, if_pos hseen]
    exact ⟨_, rfl, s', t', h.again ((h.seen entityId).mp hseen)⟩
  · have hnew : entityId ∉ done := fun hdone => hseen ((h.seen entityId).mpr hdone)
    obtain ⟨hsource₀, htarget₀⟩ := h.others entityId hnew
    have howns' : s'.owns entityId = true := by rwa [Station.owns, hsource₀]
    obtain ⟨report, set', s'', t'', r, hr, hentity, hstation, hnext, hvalid, hget, hups, hupt,
      hghost, howner, hskeeps, htkeeps⟩ :=
      migrateNext_moves ghostTtlTicks hne h.valid h.source h.target howns' hseen
    have hsinv := (h.valid.get_eq_some h.source).1
    have htinv := (h.valid.get_eq_some h.target).1
    have hid : r.id = entityId := hsinv.id_of_getById hr
    have hid' : (Station.incomingRecord report.transfer report.targetOwner).id = entityId := by
      rw [Station.incomingRecord, hentity, hid]
    have hposition : (Station.incomingRecord report.transfer report.targetOwner).position
        = r.position := by rw [Station.incomingRecord, hentity]
    have hbounds : (Station.incomingRecord report.transfer report.targetOwner).bounds
        = r.bounds := by rw [Station.incomingRecord, hentity]
    refine ⟨_, hnext, s'', t'', ?_⟩
    constructor
    case valid => exact hvalid
    case source => rw [hget, if_pos rfl]
    case target => rw [hget, if_neg hne.symm, if_pos rfl]
    case sourceCoherent => exact h.sourceCoherent.upsert hsinv hups hghost hid rfl rfl
    case targetCoherent =>
      exact h.targetCoherent.upsert htinv hupt howner hid' hposition hbounds
    case sourceExact =>
      intro hexact
      exact (h.sourceExact hexact).upsert h.sourceCoherent hskeeps hghost _ _
    case targetExact =>
      intro hexact
      exact (h.targetExact hexact).upsert h.targetCoherent htkeeps howner _ _
    case seen =>
      intro id
      rw [Finset.mem_insert, h.seen, List.mem_append, List.mem_singleton, or_comm]
    case moved =>
      intro id hmem
      by_cases heq : id = entityId
      · subst heq
        exact .of_updates (hsource₀ ▸ hr) hentity hstation hups hupt
      · have hold := h.moved id ((List.mem_append.mp hmem).resolve_right (by simpa using heq))
        constructor
        · rw [hupt.getById, if_neg heq]
          exact hold.owner
        · rw [hups.getById, if_neg heq]
          exact hold.ghost
    case others =>
      intro id hnot
      rw [List.mem_append, List.mem_singleton, not_or] at hnot
      rw [hups.getById, if_neg hnot.2, hupt.getById, if_neg hnot.2]
      exact h.others id hnot.1
    case accounted =>
      have haccounted := h.accounted
      simp only [CellMigrationReport.accounted, List.length_append, List.length_singleton]
        at haccounted ⊢
      omega

/-- **The run lemma.**  All collected entities. -/
lemma Carries.migrateAll
    (h : Carries s t s' t' sourceIndex targetIndex sourceStation targetStation scanned [] m)
    (hne : sourceStation ≠ targetStation) {entityIds : List EntityId}
    (howns : ∀ id ∈ entityIds, s.owns id = true) :
    ∃ m', CellMigrationExecutor.migrateAll sourceStation targetStation ghostTtlTicks m entityIds
        = some (.ok (), m')
      ∧ ∃ s'' t'', Carries s t s'' t'' sourceIndex targetIndex sourceStation targetStation scanned
        entityIds m' := by
  refine migrateAll_history ghostTtlTicks (I := fun done m => ∃ s'' t'', Carries s t s'' t''
    sourceIndex targetIndex sourceStation targetStation scanned done m) ?_ ⟨s', t', h⟩
  rintro done m entityId hmem ⟨s₁, t₁, h₁⟩
  exact h₁.migrateNext ghostTtlTicks hne (howns entityId hmem)

/-! ## The whole migration -/

/-- The whole loop, between two stations with coherent indexes: it ends well, and has done with the
entities that the source owned in the cells. -/
lemma carries_migrateCells {stations : StationSet F} (cells : List CellCoord3)
    (hset : stations.Valid) (hne : sourceStation ≠ targetStation)
    (hs : stations.get sourceStation = some s) (ht : stations.get targetStation = some t)
    (hsource : sourceIndex.Coherent s) (htarget : targetIndex.Coherent t) :
    ∃ m s' t' scanned entityIds, migrateCells sourceStation targetStation ghostTtlTicks stations
        sourceIndex targetIndex cells = some (.ok (), m)
      ∧ (∀ id, id ∈ entityIds ↔ OwnedIn s (handlesIn sourceIndex cells) id)
      ∧ scanned + entityIds.length = (handlesIn sourceIndex cells).length
      ∧ Carries s t s' t' sourceIndex targetIndex sourceStation targetStation scanned entityIds
        m := by
  have hscan := scanCells_spec s sourceIndex
    ⟨sourceStation, targetStation, cells, [], 0, 0, 0⟩ cells rfl
  have hcount := accounted_scanCells s sourceIndex
    ⟨∅, [], ⟨sourceStation, targetStation, cells, [], 0, 0, 0⟩⟩ cells
  have hinv := (hset.get_eq_some hs).1
  generalize hscanned : scanCells s sourceIndex
    ⟨∅, [], ⟨sourceStation, targetStation, cells, [], 0, 0, 0⟩⟩ cells = scan at hscan hcount
  have hstart : Carries s t s t sourceIndex targetIndex sourceStation targetStation
      scan.report.accounted [] ⟨stations, sourceIndex, targetIndex, ∅, scan.report⟩ :=
    ⟨hset, hs, ht, hsource, htarget, id, id, by simp, by simp, by simp, rfl⟩
  obtain ⟨m, hall, s', t', h⟩ := hstart.migrateAll ghostTtlTicks hne fun id hid =>
    ((hscan.collected id).mp hid).owns hinv
  refine ⟨m, s', t', _, scan.entityIds, ?_, hscan.collected, ?_, h⟩
  · simp only [migrateCells, hs, hscanned]
    exact hall
  · simpa [CellMigrationReport.accounted] using hcount

/-- What a migration of cells leaves: the two stations, each with a coherent index; handed over is
what the source owned in the cells, and every other record is as it was. -/
structure CellsMoved (s t : Station F) (sourceIndex targetIndex : CellIndex F)
    (sourceStation targetStation : StationId) (cells : List CellCoord3) (m : CellMigration F)
    (s' t' : Station F) : Prop where
  source : m.stations.get sourceStation = some s'
  target : m.stations.get targetStation = some t'
  moved : ∀ id, OwnedIn s (handlesIn sourceIndex cells) id →
    HandedOver s s' t' targetStation id
  indexed : ∀ id, OwnedIn s (handlesIn sourceIndex cells) id →
    (∀ owner, t'.getById id = some owner → m.targetIndex.Indexes t' owner)
      ∧ ∀ ghost, s'.getById id = some ghost → m.sourceIndex.Indexes s' ghost
  others : ∀ id, ¬ OwnedIn s (handlesIn sourceIndex cells) id →
    s'.getById id = s.getById id ∧ t'.getById id = t.getById id
  sourceCoherent : m.sourceIndex.Coherent s'
  targetCoherent : m.targetIndex.Coherent t'
  sourceExact : sourceIndex.Exact s → m.sourceIndex.Exact s'
  targetExact : targetIndex.Exact t → m.targetIndex.Exact t'
  accounted : m.report.accounted = (handlesIn sourceIndex cells).length

/-- **A migration moves exactly the named cells.**  Between two well-formed stations with
coherent indexes it succeeds, whatever the cells are. -/
theorem migrate_cells_moves {stations : StationSet F} {sourceStation targetStation : StationId}
    {s t : Station F} {sourceIndex targetIndex : CellIndex F} (cells : List CellCoord3)
    (ghostTtlTicks : UInt64) (hset : stations.Valid) (hne : sourceStation ≠ targetStation)
    (hs : stations.get sourceStation = some s) (ht : stations.get targetStation = some t)
    (hsource : sourceIndex.Coherent s) (htarget : targetIndex.Coherent t) :
    ∃ m s' t', migrateCells sourceStation targetStation ghostTtlTicks stations sourceIndex
        targetIndex cells = some (.ok (), m)
      ∧ CellsMoved s t sourceIndex targetIndex sourceStation targetStation cells m s' t' := by
  obtain ⟨m, s', t', scanned, entityIds, hcall, hcollected, hlength, h⟩ :=
    carries_migrateCells ghostTtlTicks cells hset hne hs ht hsource htarget
  refine ⟨m, s', t', hcall, ?_⟩
  constructor
  case source => exact h.source
  case target => exact h.target
  case moved => exact fun id hid => h.moved id ((hcollected id).mpr hid)
  case indexed =>
    intro id _
    constructor
    · exact fun owner howner =>
        h.targetCoherent.indexes (h.valid.get_eq_some h.target).1 howner
    · exact fun ghost hghost =>
        h.sourceCoherent.indexes (h.valid.get_eq_some h.source).1 hghost
  case others => exact fun id hid => h.others id fun hid' => hid ((hcollected id).mp hid')
  case sourceCoherent => exact h.sourceCoherent
  case targetCoherent => exact h.targetCoherent
  case sourceExact => exact h.sourceExact
  case targetExact => exact h.targetExact
  case accounted => exact h.accounted.trans hlength

end Migrate

/-! ## An entity in two cells -/

section WideEntity

/-- Station 1 owns entity 7, which reaches from one cell into the next. -/
def wideStation : Station ℚ :=
  ((Station.new (configWithStation 1)).spawnOwned ⟨7⟩ ⟨10, 0, 0⟩ (.aabb ⟨5, 1, 1⟩) ⟨0⟩).2

def wideIndex : CellIndex ℚ := (CellIndex.new ⟨10⟩).upsert ⟨0, 0⟩ ⟨10, 0, 0⟩ (.aabb ⟨5, 1, 1⟩)

/-- The station with an empty one. -/
def wideAndEmpty : StationSet ℚ :=
  (StationSet.new.push wideStation).push (.new (configWithStation 2))

lemma valid_wideAndEmpty : wideAndEmpty.Valid :=
  (StationSet.valid_new.push ((Station.storeInv_new _).spawnOwned _ _ _ _)).push
    (Station.storeInv_new _)

lemma coherent_wideIndex : wideIndex.Coherent wideStation := by
  have hinv := Station.storeInv_new (F := ℚ) (configWithStation 1)
  rcases Station.spawnOwned_spec ⟨7⟩ ⟨10, 0, 0⟩ (.aabb ⟨5, 1, 1⟩) ⟨0⟩ hinv with
    ⟨hsome, -⟩ | ⟨-, handle, station, heq, hup⟩
  · exact absurd hsome (by decide)
  · obtain ⟨hhandle, hstation⟩ := Prod.mk.inj heq
    obtain rfl : ⟨0, 0⟩ = handle := Except.ok.inj hhandle
    obtain rfl : wideStation = station := hstation
    exact (CellIndex.coherent_new ⟨10⟩ _).upsert hinv hup rfl rfl rfl rfl

/-- The cells of the entity, one of them twice: it is migrated once. -/
theorem migrate_cells_moves_wideEntity :
    ∃ m s' t', migrateCells ⟨1⟩ ⟨2⟩ 10 wideAndEmpty wideIndex (.new ⟨10⟩)
        [⟨0, 0, 0⟩, ⟨1, 0, 0⟩, ⟨0, 0, 0⟩] = some (.ok (), m)
      ∧ CellsMoved wideStation (.new (configWithStation 2)) wideIndex (.new ⟨10⟩) ⟨1⟩ ⟨2⟩
        [⟨0, 0, 0⟩, ⟨1, 0, 0⟩, ⟨0, 0, 0⟩] m s' t' :=
  migrate_cells_moves [⟨0, 0, 0⟩, ⟨1, 0, 0⟩, ⟨0, 0, 0⟩] 10 valid_wideAndEmpty (by decide) rfl rfl
    coherent_wideIndex (CellIndex.coherent_new ⟨10⟩ _)

end WideEntity

/-! ## Two records under each other's names -/

section CrossedRecords

/-- The commit of a transfer that names one entity and carries another. -/
def crossedCommit (named carried : EntityId) (position : Position3 ℚ) : StationOp ℚ :=
  .commitIncomingHandoff
    { entityId := named, sourceStation := ⟨3⟩, targetStation := ⟨1⟩, sourceOwnerEpoch := ⟨0⟩
      targetOwnerEpoch := ⟨1⟩, preparedAt := ⟨0⟩, sourceGhostExpiresAt := ⟨10⟩
      entity := .owned carried ⟨0, 0⟩ position .point ⟨0⟩ ⟨0⟩ }

/-- Entity 8 was committed over the ghost of entity 7 and entity 7 over that of entity 8. -/
def crossedStation : Station ℚ :=
  Machine.execute Station.step (.new (configWithStation 1))
    [.upsertGhost ⟨7⟩ ⟨0, 0, 0⟩ .point ⟨0⟩ ⟨3⟩ ⟨0⟩ ⟨10⟩,
      .upsertGhost ⟨8⟩ ⟨0, 0, 0⟩ .point ⟨0⟩ ⟨3⟩ ⟨0⟩ ⟨10⟩,
      crossedCommit ⟨7⟩ ⟨8⟩ ⟨0, 0, 0⟩, crossedCommit ⟨8⟩ ⟨7⟩ ⟨100, 0, 0⟩]

/-- Both handles at exactly their cells. -/
def crossedIndex : CellIndex ℚ :=
  ((CellIndex.new ⟨10⟩).upsert ⟨0, 0⟩ ⟨0, 0, 0⟩ .point).upsert ⟨1, 0⟩ ⟨100, 0, 0⟩ .point

def crossedAndEmpty : StationSet ℚ :=
  (StationSet.new.push crossedStation).push (.new (configWithStation 2))

lemma coherent_crossedIndex : crossedIndex.Coherent crossedStation := by
  have hfirst := CellIndex.upsert_spec (CellIndex.represents_new (⟨10⟩ : GridSpec ℚ)) ⟨0, 0⟩
    ⟨0, 0, 0⟩ .point
  have hsecond := CellIndex.upsert_spec hfirst.represents ⟨1, 0⟩ ⟨100, 0, 0⟩ .point
  refine ⟨hsecond.represents, fun h r hr => ?_⟩
  rw [crossedIndex, hsecond.cellsForHandle, hsecond.grid, hfirst.cellsForHandle, hfirst.grid]
  obtain ⟨index, generation⟩ := h
  obtain ⟨hgen, hrec⟩ := Station.get_eq_some.mp hr
  have hgenerations : crossedStation.generations = [0, 0] := rfl
  have hrecords : crossedStation.records.map (·.map fun r => (r.position, r.bounds))
      = [some (⟨0, 0, 0⟩, .point), some (⟨100, 0, 0⟩, .point)] := rfl
  have hplace := congrArg (·[index]?) hrecords
  simp only [List.getElem?_map, hrec, Option.map_some] at hplace
  rw [hgenerations] at hgen
  rcases index with _ | _ | index
  · obtain rfl : 0 = generation := Option.some.inj hgen
    obtain ⟨hposition, hbounds⟩ := Prod.mk.inj (Option.some.inj (Option.some.inj hplace))
    rw [hposition, hbounds, if_neg (by decide), if_pos rfl]
  · obtain rfl : 0 = generation := Option.some.inj hgen
    obtain ⟨hposition, hbounds⟩ := Prod.mk.inj (Option.some.inj (Option.some.inj hplace))
    rw [hposition, hbounds, if_pos rfl]
  · cases hplace

/-- The entity under a handle, and whether the station owns it. -/
def entityAt (s : Station ℚ) (h : EntityHandle) : Option (EntityId × Bool) :=
  (s.get h).map fun record => (record.id, record.isOwned)

/-- Both indexes are coherent and the call succeeds, but it takes the record in the listed cell for
the other one: the source still owns entity 8 there, and has given away entity 7, which is in no
listed cell. -/
theorem migrate_cells_crossed :
    crossedIndex.Coherent crossedStation
      ∧ (CellIndex.new ⟨10⟩).Coherent (Station.new (F := ℚ) (configWithStation 2))
      ∧ (∃ m s', migrateCells ⟨1⟩ ⟨2⟩ 10 crossedAndEmpty crossedIndex (.new ⟨10⟩) [⟨0, 0, 0⟩]
          = some (.ok (), m)
        ∧ m.stations.get ⟨1⟩ = some s'
        ∧ entityAt s' ⟨0, 0⟩ = some (⟨8⟩, true) ∧ entityAt s' ⟨1, 0⟩ = some (⟨7⟩, false))
      ∧ handlesIn crossedIndex [⟨0, 0, 0⟩] = [⟨0, 0⟩]
      ∧ entityAt crossedStation ⟨0, 0⟩ = some (⟨8⟩, true)
      ∧ entityAt crossedStation ⟨1, 0⟩ = some (⟨7⟩, true) := by
  refine ⟨coherent_crossedIndex, CellIndex.coherent_new ⟨10⟩ _, ?_, by decide +kernel,
    by decide +kernel, by decide +kernel⟩
  have hafter : (migrateCells ⟨1⟩ ⟨2⟩ 10 crossedAndEmpty crossedIndex (.new ⟨10⟩)
      [⟨0, 0, 0⟩]).any (fun out => decide (out.1 = .ok ()) && (out.2.stations.get ⟨1⟩).any
        fun s' => decide (entityAt s' ⟨0, 0⟩ = some (⟨8⟩, true)
          ∧ entityAt s' ⟨1, 0⟩ = some (⟨7⟩, false))) = true := by
    decide +kernel
  obtain ⟨⟨result, m⟩, hcall, hread⟩ := (Option.any_eq_true _ _).mp hafter
  obtain ⟨hok, hstation⟩ := Bool.and_eq_true_iff.mp hread
  obtain ⟨s', hs', hentities⟩ := (Option.any_eq_true _ _).mp hstation
  obtain rfl := of_decide_eq_true hok
  exact ⟨m, s', hcall, hs', of_decide_eq_true hentities⟩

end CrossedRecords

end SectorSync
