import SectorSync.Core.RationalScalar
import SectorSync.Runtime.CellMigration
import SectorSync.Runtime.IndexedLookup
import SectorSync.Runtime.SplitCap

/-!
# Executing a split schedule

`SplitScheduler::execute_into`: every action assigns its cells to the target in the ownership table
and then migrates the cells that the table reports as moved.  `executeAction_cases` says what one
action can do.  From it:

* `relieved_iff`: after an action an entity of a proposed cell is still owned by the source exactly
  when all proposed cells that index it were the target's before, so `executed_without_relief`;
* `table_kept_iff`: an action that fails has migrated nothing, and has left the table alone
  exactly when an index was missing or the target had all proposed cells, so
  `missing_station_changes_table`;
* `executeActions_ok_iff`: a schedule with separate sources is carried out as a whole exactly when
  none of its actions is blocked.
-/

namespace SectorSync

open Machine

variable {F : Type}

/-- Split schedule execution error. -/
inductive SplitScheduleExecutionError where
  | missingSourceIndex (stationId : StationId)
  | missingTargetIndex (stationId : StationId)
  | cellMigration (error : CellMigrationError)
  deriving DecidableEq

/-- Storage of an execution.  An action that fails has written its slots, but these are not
active. -/
structure SplitScheduleExecutionScratch (F : Type) where
  ownershipUpdates : List CellOwnershipUpdate
  cellMigrations : List (CellMigrationReport F)
  activeActions : ℕ

/-- Result of executing a split schedule. -/
structure SplitScheduleExecutionView (F : Type) where
  /-- Ownership changes applied during this pass. -/
  ownershipUpdates : List CellOwnershipUpdate
  /-- Cell migration reports produced during this pass. -/
  cellMigrations : List (CellMigrationReport F)

/-- The active slots. -/
def SplitScheduleExecutionScratch.view (scratch : SplitScheduleExecutionScratch F) :
    SplitScheduleExecutionView F :=
  ⟨scratch.ownershipUpdates.take scratch.activeActions,
    scratch.cellMigrations.take scratch.activeActions⟩

/-- What an execution changes. -/
structure SplitExecution (F : Type) where
  stations : StationSet F
  indexes : StationIndexSet F
  ownership : CellOwnershipTable
  scratch : SplitScheduleExecutionScratch F

namespace SplitScheduler

open CellMigrationExecutor

/-- An indexed entity is among those that move when the source owns it and one of the moved cells
has it. -/
lemma ownedIn_handlesIn_iff {source : Station F} (inv : source.StoreInv) {index : CellIndex F}
    {cells : List CellCoord3} {handle : EntityHandle} {record : EntityRecord F}
    (hget : source.get handle = some record) :
    OwnedIn source (handlesIn index cells) record.id
      ↔ record.isOwned = true ∧ ∃ cell ∈ cells, handle ∈ index.handlesInCell cell := by
  constructor
  · rintro ⟨other, hother, record', hget', howned, hid⟩
    obtain rfl : other = handle := inv.handle_eq hget' hget hid
    rw [hget, Option.some.injEq] at hget'
    exact ⟨hget' ▸ howned, List.mem_flatMap.mp hother⟩
  · rintro ⟨howned, hcell⟩
    exact ⟨handle, List.mem_flatMap.mpr hcell, record, hget, howned, rfl⟩

lemma owns_of_get {source : Station F} (inv : source.StoreInv) {handle : EntityHandle}
    {record : EntityRecord F} (hget : source.get handle = some record) :
    source.owns record.id = record.isOwned := by
  have hlook := (inv.id_of_get handle record hget).1
  rw [Station.owns, Station.getById_eq_some.mpr ⟨handle, hlook, hget⟩, Option.any_some]

section Execute

variable [Scalar F] (config : SplitSchedulerConfig)

/-- Executes one action.  The outer `none` is the panic of the `expect` on the pair lookup. -/
def executeAction (x : SplitExecution F) (action : SplitAction) :
    Option (Except SplitScheduleExecutionError Unit × SplitExecution F) :=
  if (x.indexes.get action.sourceStation).isNone then
    some (.error (.missingSourceIndex action.sourceStation), x)
  else if (x.indexes.get action.targetStation).isNone then
    some (.error (.missingTargetIndex action.targetStation), x)
  else
    let (update, ownership) := x.ownership.applySplit action.proposal action.targetStation
    match x.indexes.getPairMut action.sourceStation action.targetStation with
    | none => none
    | some (sourceIndex, targetIndex) =>
        match migrateCells action.sourceStation action.targetStation config.ghostTtlTicks
            x.stations sourceIndex targetIndex update.movedCells with
        | none => none
        | some (result, m) =>
            let x : SplitExecution F :=
              { stations := m.stations
                indexes := (x.indexes.put action.sourceStation m.sourceIndex).put
                  action.targetStation m.targetIndex
                ownership := ownership
                scratch := { x.scratch with
                  ownershipUpdates := x.scratch.ownershipUpdates ++ [update]
                  cellMigrations := x.scratch.cellMigrations ++ [m.report] } }
            match result with
            | .error error => some (.error (.cellMigration error), x)
            | .ok () =>
                some (.ok (), { x with
                  scratch := { x.scratch with
                    activeActions := usizeSaturatingAdd x.scratch.activeActions 1 } })

/-- The loop over the actions. -/
def executeActions : SplitExecution F → List SplitAction →
    Option (Except SplitScheduleExecutionError Unit × SplitExecution F)
  | x, [] => some (.ok (), x)
  | x, action :: actions =>
      match executeAction config x action with
      | none => none
      | some (.error error, x) => some (.error error, x)
      | some (.ok (), x) => executeActions x actions

/-- The start of an execution. -/
def prepareExecution (stations : StationSet F) (indexes : StationIndexSet F)
    (ownership : CellOwnershipTable) : SplitExecution F :=
  ⟨stations, indexes, ownership, ⟨[], [], 0⟩⟩

/-- Executes a schedule; the view is that of the storage. -/
def executeInto (schedule : SplitSchedule) (stations : StationSet F)
    (indexes : StationIndexSet F) (ownership : CellOwnershipTable) :
    Option (Except SplitScheduleExecutionError (SplitScheduleExecutionView F)
      × SplitExecution F) :=
  (executeActions config (prepareExecution stations indexes ownership) schedule.actions).map
    fun (result, x) => (result.map fun () => x.scratch.view, x)

/-! ## One action -/

/-- The entities that were migrated between two states of an execution. -/
def migratedBetween (x x' : SplitExecution F) : List (EntityMigrationReport F) :=
  (x'.scratch.cellMigrations.drop x.scratch.cellMigrations.length).flatMap (·.entityMigrations)

/-- All proposed cells were the target's. -/
def AllAssigned (table : CellOwnershipTable) (action : SplitAction) : Prop :=
  ∀ cell ∈ action.proposal.cellsToMove, table.ownerOf cell = some action.targetStation

/-- An index of the action is missing. -/
def IndexMissing (indexes : StationIndexSet F) (action : SplitAction) : Prop :=
  indexes.get action.sourceStation = none ∨ indexes.get action.targetStation = none

variable {config} {x x' : SplitExecution F} {action : SplitAction}

/-- The cells that an action moves. -/
def movedCells (table : CellOwnershipTable) (action : SplitAction) : List CellCoord3 :=
  (table.applySplit action.proposal action.targetStation).1.movedCells

/-- The execution after the cells of an action were migrated. -/
def executed (x : SplitExecution F) (action : SplitAction)
    (outcome : Except CellMigrationError Unit × CellMigration F) : SplitExecution F :=
  let split := x.ownership.applySplit action.proposal action.targetStation
  { stations := outcome.2.stations
    indexes := (x.indexes.put action.sourceStation outcome.2.sourceIndex).put
      action.targetStation outcome.2.targetIndex
    ownership := split.2
    scratch :=
      { ownershipUpdates := x.scratch.ownershipUpdates ++ [split.1]
        cellMigrations := x.scratch.cellMigrations ++ [outcome.2.report]
        activeActions :=
          if outcome.1.isOk then usizeSaturatingAdd x.scratch.activeActions 1
          else x.scratch.activeActions } }

lemma executeAction_eq {sourceIndex targetIndex : CellIndex F}
    (hsource : x.indexes.get action.sourceStation = some sourceIndex)
    (htarget : x.indexes.get action.targetStation = some targetIndex)
    (hne : action.sourceStation ≠ action.targetStation) :
    executeAction config x action
      = (migrateCells action.sourceStation action.targetStation config.ghostTtlTicks x.stations
          sourceIndex targetIndex (movedCells x.ownership action)).map fun outcome =>
        (outcome.1.mapError SplitScheduleExecutionError.cellMigration,
          executed x action outcome) := by
  simp only [executeAction, hsource, htarget, hne, StationIndexSet.getPairMut,
    Option.isNone_some, Bool.false_eq_true, if_false, Option.bind_some, Option.map_some]
  rw [← movedCells]
  cases migrateCells action.sourceStation action.targetStation config.ghostTtlTicks x.stations
      sourceIndex targetIndex (movedCells x.ownership action) with
  | none => rfl
  | some outcome =>
      obtain ⟨result, m⟩ := outcome
      cases result with
      | error error => rfl
      | ok _ => rfl

/-- **What one action does.**  An index is missing and nothing happens, or the pair lookup panics,
or the table is updated and the moved cells are migrated. -/
lemma executeAction_cases (config : SplitSchedulerConfig) (x : SplitExecution F)
    (action : SplitAction) :
    (IndexMissing x.indexes action
        ∧ ∃ error, executeAction config x action = some (.error error, x))
      ∨ executeAction config x action = none
      ∨ ∃ sourceIndex targetIndex outcome,
          x.indexes.get action.sourceStation = some sourceIndex
          ∧ ¬ IndexMissing x.indexes action ∧ action.sourceStation ≠ action.targetStation
          ∧ migrateCells action.sourceStation action.targetStation config.ghostTtlTicks x.stations
              sourceIndex targetIndex (movedCells x.ownership action) = some outcome
          ∧ executeAction config x action
              = some (outcome.1.mapError .cellMigration, executed x action outcome) := by
  cases hsource : x.indexes.get action.sourceStation with
  | none =>
      refine .inl ⟨.inl hsource, .missingSourceIndex action.sourceStation, ?_⟩
      simp [executeAction, hsource]
  | some sourceIndex =>
      cases htarget : x.indexes.get action.targetStation with
      | none =>
          refine .inl ⟨.inr htarget, .missingTargetIndex action.targetStation, ?_⟩
          simp [executeAction, hsource, htarget]
      | some targetIndex =>
          have hpresent : ¬ IndexMissing x.indexes action := by
            simp [IndexMissing, hsource, htarget]
          by_cases hne : action.sourceStation = action.targetStation
          · refine .inr (.inl ?_)
            simp [executeAction, hne, htarget, StationIndexSet.getPairMut]
          · rw [executeAction_eq hsource htarget hne]
            cases hmigrate : migrateCells action.sourceStation action.targetStation
                config.ghostTtlTicks x.stations sourceIndex targetIndex
                (movedCells x.ownership action) with
            | none => exact .inr (.inl rfl)
            | some outcome =>
                exact .inr (.inr ⟨sourceIndex, targetIndex, outcome, rfl, hpresent, hne, hmigrate,
                  rfl⟩)

/-- An action that succeeds takes from its source the entities of the cells that moved. -/
lemma executeAction_ok (hset : x.stations.Valid)
    (hok : executeAction config x action = some (.ok (), x')) :
    x'.stations.Valid ∧ ∃ index s s', x.indexes.get action.sourceStation = some index
      ∧ x.stations.get action.sourceStation = some s
      ∧ x'.stations.get action.sourceStation = some s'
      ∧ ∀ id, s'.owns id = true ↔ s.owns id = true
          ∧ ¬ OwnedIn s (handlesIn index (movedCells x.ownership action)) id := by
  rcases executeAction_cases config x action with ⟨-, error, heq⟩ | heq |
    ⟨sourceIndex, targetIndex, ⟨result, m⟩, hindex, -, hne, hmigrate, heq⟩
  · simp [heq] at hok
  · simp [heq] at hok
  · rw [heq, Option.some.injEq, Prod.mk.injEq] at hok
    obtain ⟨hresult, rfl⟩ := hok
    rcases migrateCells_cases config.ghostTtlTicks hset hne hmigrate with
      ⟨-, hvalid, s, s', hs, hs', howns⟩ | ⟨error, rfl, -⟩
    · exact ⟨hvalid, sourceIndex, s, s', hindex, hs, hs', howns⟩
    · simp [Except.mapError] at hresult

/-- An action that fails has migrated nothing.  It has not found an index and left the table, or it
has assigned its cells. -/
lemma executeAction_error (hset : x.stations.Valid) {error : SplitScheduleExecutionError}
    (hfail : executeAction config x action = some (.error error, x')) :
    migratedBetween x x' = []
      ∧ ((IndexMissing x.indexes action ∧ x'.ownership = x.ownership)
        ∨ (¬ IndexMissing x.indexes action ∧ x'.ownership
          = (x.ownership.applySplit action.proposal action.targetStation).2)) := by
  rcases executeAction_cases config x action with ⟨hmissing, _, heq⟩ | heq |
    ⟨sourceIndex, targetIndex, ⟨result, m⟩, -, hpresent, hne, hmigrate, heq⟩
  · rw [heq, Option.some.injEq, Prod.mk.injEq] at hfail
    obtain ⟨-, rfl⟩ := hfail
    exact ⟨by simp [migratedBetween], .inl ⟨hmissing, rfl⟩⟩
  · simp [heq] at hfail
  · rw [heq, Option.some.injEq, Prod.mk.injEq] at hfail
    obtain ⟨hresult, rfl⟩ := hfail
    refine ⟨?_, .inr ⟨hpresent, rfl⟩⟩
    rw [migratedBetween, executed, List.drop_left, List.flatMap_singleton]
    rcases migrateCells_cases config.ghostTtlTicks hset hne hmigrate with
      ⟨rfl, -⟩ | ⟨error, -, hnone⟩
    · simp [Except.mapError] at hresult
    · exact hnone

/-! ## When actions can be carried out -/

/-- The action moves at least one entity. -/
def MovesSome (x : SplitExecution F) (action : SplitAction) : Prop :=
  ∃ s ∈ x.stations.get action.sourceStation, ∃ index ∈ x.indexes.get action.sourceStation,
    ∃ handle ∈ handlesIn index (movedCells x.ownership action), (s.get handle).any (·.isOwned)

/-- An index or the source is missing, or the target of entities that would move. -/
def Blocked (x : SplitExecution F) (action : SplitAction) : Prop :=
  IndexMissing x.indexes action ∨ x.stations.get action.sourceStation = none
    ∨ (x.stations.get action.targetStation = none ∧ MovesSome x action)

/-- The execution with the cells of an action assigned. -/
def assigned (x : SplitExecution F) (action : SplitAction) : SplitExecution F :=
  { x with ownership := (x.ownership.applySplit action.proposal action.targetStation).2 }

/-- No action is blocked when the actions before it have assigned their cells. -/
def Unblocked : SplitExecution F → List SplitAction → Prop
  | _, [] => True
  | x, action :: actions => ¬ Blocked x action ∧ Unblocked (assigned x action) actions

instance (indexes : StationIndexSet F) (action : SplitAction) :
    Decidable (IndexMissing indexes action) :=
  decidable_of_iff ((indexes.get action.sourceStation).isNone = true
    ∨ (indexes.get action.targetStation).isNone = true) (by simp [IndexMissing])

instance (x : SplitExecution F) (action : SplitAction) : Decidable (MovesSome x action) :=
  inferInstanceAs (Decidable (∃ s ∈ _, ∃ index ∈ _, ∃ handle ∈ _, _ = true))

instance (x : SplitExecution F) (action : SplitAction) : Decidable (Blocked x action) :=
  decidable_of_iff (IndexMissing x.indexes action
    ∨ (x.stations.get action.sourceStation).isNone = true
    ∨ ((x.stations.get action.targetStation).isNone = true ∧ MovesSome x action))
    (by simp [Blocked])

instance decidableUnblocked :
    ∀ (x : SplitExecution F) (actions : List SplitAction), Decidable (Unblocked x actions)
  | _, [] => isTrue trivial
  | x, action :: actions =>
      haveI := decidableUnblocked (assigned x action) actions
      inferInstanceAs (Decidable (¬ Blocked x action ∧ Unblocked (assigned x action) actions))

lemma Blocked.not_ok (h : Blocked x action) (hset : x.stations.Valid) :
    executeAction config x action ≠ some (.ok (), x') := by
  intro hok
  rcases executeAction_cases config x action with ⟨-, error, heq⟩ | heq |
    ⟨sourceIndex, targetIndex, ⟨result, m⟩, hindex, hpresent, hne, hmigrate, heq⟩
  · simp [heq] at hok
  · simp [heq] at hok
  · rcases h with hmissing | hs | ⟨ht, s, hs, index, hindex', handle, hhandle, howned⟩
    · exact hpresent hmissing
    · obtain ⟨-, _, s, _, -, hs', -⟩ := executeAction_ok hset hok
      simp [hs] at hs'
    · obtain rfl := Option.some.inj (hindex.symm.trans hindex')
      obtain ⟨record, hget, howned⟩ := (Option.any_eq_true _ _).mp howned
      rcases migrateCells_missing_target config.ghostTtlTicks sourceIndex targetIndex
        (movedCells x.ownership action) hne hs ht with ⟨hnone, -⟩ | ⟨-, m', hcall, -⟩
      · exact hnone record.id ⟨handle, hhandle, record, hget, howned, rfl⟩
      · rw [hcall, Option.some.injEq, Prod.mk.injEq] at hmigrate
        simp [heq, ← hmigrate.1, Except.mapError] at hok

/-- **One action** between two stations is carried out exactly when it is not blocked. -/
lemma executeAction_ok_iff (config : SplitSchedulerConfig) (hset : x.stations.Valid)
    (hne : action.sourceStation ≠ action.targetStation) :
    (∃ x', executeAction config x action = some (.ok (), x')) ↔ ¬ Blocked x action := by
  constructor
  · rintro ⟨x', hok⟩ hblocked
    exact hblocked.not_ok hset hok
  · intro hfree
    simp only [Blocked, IndexMissing, not_or, ← Option.isSome_iff_ne_none] at hfree
    obtain ⟨⟨hsource, htarget⟩, hs, hmoves⟩ := hfree
    obtain ⟨sourceIndex, hsource⟩ := Option.isSome_iff_exists.mp hsource
    obtain ⟨targetIndex, htarget⟩ := Option.isSome_iff_exists.mp htarget
    obtain ⟨s, hs⟩ := Option.isSome_iff_exists.mp hs
    rw [executeAction_eq hsource htarget hne]
    cases ht : x.stations.get action.targetStation with
    | some t =>
        obtain ⟨m, hcall, -⟩ := migrateCells_spec config.ghostTtlTicks sourceIndex targetIndex
          (movedCells x.ownership action) hset hne hs ht
        rw [hcall]
        exact ⟨_, rfl⟩
    | none =>
        rcases migrateCells_missing_target config.ghostTtlTicks sourceIndex targetIndex
          (movedCells x.ownership action) hne hs ht with ⟨-, m, hcall, -⟩ | ⟨hsome, -⟩
        · rw [hcall]
          exact ⟨_, rfl⟩
        · obtain ⟨id, handle, hhandle, record, hget, howned, -⟩ := hsome
          refine absurd ⟨ht, s, hs, sourceIndex, hsource, handle, hhandle, ?_⟩ hmoves
          rw [hget, Option.any_some, howned]

/-- What an action that succeeds changes. -/
structure ActsOn (action : SplitAction) (x x' : SplitExecution F) : Prop where
  stations : LeavesOthers action.sourceStation action.targetStation x.stations x'.stations
  coherent : x'.indexes.Coherent
  isSome : ∀ id, (x'.indexes.get id).isSome = (x.indexes.get id).isSome
  others : ∀ id, id ≠ action.sourceStation → id ≠ action.targetStation →
    x'.indexes.get id = x.indexes.get id
  ownership : x'.ownership = (x.ownership.applySplit action.proposal action.targetStation).2

lemma executeAction_actsOn (hset : x.stations.Valid) (hcoherent : x.indexes.Coherent)
    (hok : executeAction config x action = some (.ok (), x')) : ActsOn action x x' := by
  rcases executeAction_cases config x action with ⟨-, error, heq⟩ | heq |
    ⟨sourceIndex, targetIndex, ⟨result, m⟩, -, -, -, hmigrate, heq⟩
  · simp [heq] at hok
  · simp [heq] at hok
  · rw [heq, Option.some.injEq, Prod.mk.injEq] at hok
    obtain ⟨hresult, rfl⟩ := hok
    cases result with
    | error error => simp [Except.mapError] at hresult
    | ok _ =>
        have hput := hcoherent.put action.sourceStation m.sourceIndex
        refine ⟨leavesOthers_migrateCells config.ghostTtlTicks hset hmigrate,
          hput.put action.targetStation m.targetIndex, fun id => ?_, fun id hsource htarget => ?_,
          rfl⟩
        · rw [executed, hput.get_put, hcoherent.get_put]
          split_ifs <;> simp
        · rw [executed, hput.get_put, hcoherent.get_put, if_neg htarget, if_neg hsource]

/-- Two executions that are alike for the sources of some actions. -/
structure Alike (actions : List SplitAction) (x y : SplitExecution F) : Prop where
  stations : ∀ id, (x.stations.get id).isSome = (y.stations.get id).isSome
  indexes : ∀ id, (x.indexes.get id).isSome = (y.indexes.get id).isSome
  source : ∀ action ∈ actions,
    x.stations.get action.sourceStation = y.stations.get action.sourceStation
  sourceIndex : ∀ action ∈ actions,
    x.indexes.get action.sourceStation = y.indexes.get action.sourceStation
  ownership : x.ownership = y.ownership

omit [Scalar F] in
lemma alike_refl (actions : List SplitAction) (x : SplitExecution F) : Alike actions x x :=
  ⟨fun _ => rfl, fun _ => rfl, fun _ _ => rfl, fun _ _ => rfl, rfl⟩

omit [Scalar F] in
lemma Alike.blocked_iff {actions : List SplitAction} {y : SplitExecution F}
    (h : Alike actions x y) (hmem : action ∈ actions) : Blocked x action ↔ Blocked y action := by
  have hmoves : MovesSome x action ↔ MovesSome y action := by
    rw [MovesSome, MovesSome, h.source action hmem, h.sourceIndex action hmem, h.ownership]
  simp only [Blocked, IndexMissing, ← Option.isNone_iff_eq_none, ← Option.not_isSome, h.stations,
    h.indexes, hmoves]

omit [Scalar F] in
/-- After an action the others find what they would have found at the start, but for the table. -/
lemma Alike.act {actions : List SplitAction} {y : SplitExecution F}
    (h : Alike (action :: actions) x y) (hseparate : Separate (action :: actions))
    (hact : ActsOn action x x') : Alike actions x' (assigned y action) := by
  have hdistinct : ∀ other ∈ actions, other.sourceStation ≠ action.sourceStation
      ∧ other.sourceStation ≠ action.targetStation := by
    intro other hother
    have hnotin := (List.nodup_cons.mp hseparate.nodup).1
    refine ⟨fun hsame => hnotin ?_, ?_⟩
    · exact List.mem_map.mpr ⟨other, hother, hsame⟩
    · exact hseparate.distinct other (List.mem_cons_of_mem _ hother) action List.mem_cons_self
  refine ⟨fun id => ?_, fun id => ?_, fun other hother => ?_, fun other hother => ?_, ?_⟩
  · exact (hact.stations.isSome id).trans (h.stations id)
  · exact (hact.isSome id).trans (h.indexes id)
  · obtain ⟨hsource, htarget⟩ := hdistinct other hother
    exact (hact.stations.others _ hsource htarget).trans
      (h.source other (List.mem_cons_of_mem _ hother))
  · obtain ⟨hsource, htarget⟩ := hdistinct other hother
    exact (hact.others _ hsource htarget).trans
      (h.sourceIndex other (List.mem_cons_of_mem _ hother))
  · rw [hact.ownership, assigned, h.ownership]

/-! ## Runs -/

lemma executeActions_of_into {schedule : SplitSchedule} {stations : StationSet F}
    {indexes : StationIndexSet F} {ownership : CellOwnershipTable}
    {view : SplitScheduleExecutionView F}
    (hok : executeInto config schedule stations indexes ownership = some (.ok view, x')) :
    executeActions config (prepareExecution stations indexes ownership) schedule.actions
      = some (.ok (), x') := by
  obtain ⟨⟨result, x₁⟩, hrun, heq⟩ := Option.map_eq_some_iff.mp hok
  simp only [Prod.mk.injEq] at heq
  obtain ⟨hresult, rfl⟩ := heq
  cases result with
  | error error => simp [Except.map] at hresult
  | ok _ => exact hrun

lemma executeActions_singleton (hok : executeActions config x [action] = some (.ok (), x')) :
    executeAction config x action = some (.ok (), x') := by
  rw [executeActions] at hok
  cases hnext : executeAction config x action with
  | none => simp [hnext] at hok
  | some outcome =>
      obtain ⟨result, x₁⟩ := outcome
      cases result with
      | error error => simp [hnext] at hok
      | ok _ => simpa [hnext, executeActions] using hok

/-- A run of actions keeps the collection of stations well formed. -/
lemma executeActions_valid {actions : List SplitAction} (hset : x.stations.Valid)
    (hok : executeActions config x actions = some (.ok (), x')) : x'.stations.Valid := by
  induction actions generalizing x with
  | nil =>
      simp only [executeActions, Option.some.injEq, Prod.mk.injEq, true_and] at hok
      exact hok ▸ hset
  | cons action actions ih =>
      rw [executeActions] at hok
      cases hnext : executeAction config x action with
      | none => simp [hnext] at hok
      | some outcome =>
          obtain ⟨result, x₁⟩ := outcome
          cases result with
          | error error => simp [hnext] at hok
          | ok _ =>
              simp only [hnext] at hok
              exact ih (executeAction_ok hset hnext).1 hok

/-- **All actions** of a schedule with separate sources are carried out exactly when none is
blocked. -/
theorem executeActions_ok_iff (config : SplitSchedulerConfig) {actions : List SplitAction}
    {y : SplitExecution F} (hseparate : Separate actions) (hset : x.stations.Valid)
    (hcoherent : x.indexes.Coherent) (halike : Alike actions x y) :
    (∃ x', executeActions config x actions = some (.ok (), x')) ↔ Unblocked y actions := by
  induction actions generalizing x y with
  | nil => exact iff_of_true ⟨x, rfl⟩ trivial
  | cons action actions ih =>
      have hne := hseparate.distinct action List.mem_cons_self action List.mem_cons_self
      rw [Unblocked, ← halike.blocked_iff List.mem_cons_self, ← executeAction_ok_iff config hset hne]
      constructor
      · rintro ⟨x', hok⟩
        rw [executeActions] at hok
        rcases hnext : executeAction config x action with _ | ⟨error | _, x₁⟩
        · simp [hnext] at hok
        · simp [hnext] at hok
        · simp only [hnext] at hok
          have hact := executeAction_actsOn hset hcoherent hnext
          refine ⟨⟨x₁, rfl⟩, (ih hseparate.tail hact.stations.valid hact.coherent
            (halike.act hseparate hact)).mp ⟨x', hok⟩⟩
      · rintro ⟨⟨x₁, hnext⟩, hrest⟩
        have hact := executeAction_actsOn hset hcoherent hnext
        obtain ⟨x', hok⟩ := (ih hseparate.tail hact.stations.valid hact.coherent
          (halike.act hseparate hact)).mpr hrest
        exact ⟨x', by rw [executeActions, hnext]; exact hok⟩

/-- A run ends with the first action that fails. -/
lemma executeActions_append_error {done rest : List SplitAction} {mid last : SplitExecution F}
    {error : SplitScheduleExecutionError}
    (hdone : executeActions config x done = some (.ok (), mid))
    (hfail : executeAction config mid action = some (.error error, last)) :
    executeActions config x (done ++ action :: rest) = some (.error error, last) := by
  induction done generalizing x with
  | nil =>
      simp only [executeActions, Option.some.injEq, Prod.mk.injEq, true_and] at hdone
      rw [List.nil_append, executeActions, hdone, hfail]
  | cons first done ih =>
      rw [executeActions] at hdone
      rw [List.cons_append, executeActions]
      cases hnext : executeAction config x first with
      | none => simp [hnext] at hdone
      | some outcome =>
          obtain ⟨result, x₁⟩ := outcome
          cases result with
          | error error => simp [hnext] at hdone
          | ok _ =>
              simp only [hnext] at hdone ⊢
              exact ih hdone

/-! ## Relief of the source and the table -/

/-- An execution of one action that succeeds leaves the source no entity of a proposed cell. -/
def Relieves (config : SplitSchedulerConfig) (schedule : SplitSchedule)
    (stations : StationSet F) (indexes : StationIndexSet F) (ownership : CellOwnershipTable) :
    Prop :=
  ∀ action view last, schedule.actions = [action] →
    executeInto config schedule stations indexes ownership = some (.ok view, last) →
    ∀ source index, stations.get action.sourceStation = some source →
      indexes.get action.sourceStation = some index →
      ∀ cell ∈ action.proposal.cellsToMove, ∀ handle ∈ index.handlesInCell cell,
        ∀ record, source.get handle = some record →
          last.stations.owns action.sourceStation record.id = false

/-- **Relief of the source.**  After a schedule of one action an entity that the source's index has
in a proposed cell is still owned by the source exactly when it was and the table assigned all
proposed cells that have it to the target before. -/
theorem relieved_iff (config : SplitSchedulerConfig) {schedule : SplitSchedule}
    {stations : StationSet F}
    {indexes : StationIndexSet F} {ownership : CellOwnershipTable}
    {view : SplitScheduleExecutionView F} {last : SplitExecution F} (hset : stations.Valid)
    (hschedule : schedule.actions = [action])
    (hok : executeInto config schedule stations indexes ownership = some (.ok view, last)) :
    ∃ source index, stations.get action.sourceStation = some source
      ∧ indexes.get action.sourceStation = some index
      ∧ ∀ cell ∈ action.proposal.cellsToMove, ∀ handle ∈ index.handlesInCell cell,
        ∀ record, source.get handle = some record →
          (last.stations.owns action.sourceStation record.id = true
            ↔ record.isOwned = true ∧ ∀ cell' ∈ action.proposal.cellsToMove,
              handle ∈ index.handlesInCell cell' →
                ownership.ownerOf cell' = some action.targetStation) := by
  have hexecute := executeActions_singleton (hschedule ▸ executeActions_of_into hok)
  obtain ⟨-, index, source, s', hindex, hs, hs', howns⟩ := executeAction_ok hset hexecute
  have hinv := (hset.get_eq_some hs).1
  refine ⟨source, index, hs, hindex, ?_⟩
  intro cell _ handle _ record hget
  rw [StationSet.owns, hs', Option.any_some, howns, owns_of_get hinv hget,
    ownedIn_handlesIn_iff hinv hget]
  simp only [movedCells, CellOwnershipTable.mem_movedCells]
  constructor
  · rintro ⟨howned, hkept⟩
    refine ⟨howned, fun cell' hcell' hhandle' => ?_⟩
    by_contra howner
    exact hkept ⟨howned, cell', ⟨hcell', howner⟩, hhandle'⟩
  · rintro ⟨howned, hassigned⟩
    refine ⟨howned, ?_⟩
    rintro ⟨-, cell', ⟨hcell', howner⟩, hhandle'⟩
    exact howner (hassigned cell' hcell' hhandle')

/-- An action that fails before an entity has migrated leaves the table as it was. -/
def TableKept (config : SplitSchedulerConfig) (schedule : SplitSchedule)
    (stations : StationSet F) (indexes : StationIndexSet F) (ownership : CellOwnershipTable) :
    Prop :=
  ∀ done action rest mid error last, schedule.actions = done ++ action :: rest →
    executeActions config (prepareExecution stations indexes ownership) done
      = some (.ok (), mid) →
    executeAction config mid action = some (.error error, last) →
    migratedBetween mid last = [] → last.ownership = mid.ownership

/-- **The table after a failure.**  In any execution, an action that fails ends the execution and
has migrated nothing; the table is as before the action exactly when an index was missing or the
target had all proposed cells. -/
theorem table_kept_iff (config : SplitSchedulerConfig) {schedule : SplitSchedule}
    {stations : StationSet F}
    {indexes : StationIndexSet F} {ownership : CellOwnershipTable} {done rest : List SplitAction}
    {mid last : SplitExecution F} {error : SplitScheduleExecutionError} (hset : stations.Valid)
    (hschedule : schedule.actions = done ++ action :: rest)
    (hdone : executeActions config (prepareExecution stations indexes ownership) done
      = some (.ok (), mid))
    (hfail : executeAction config mid action = some (.error error, last)) :
    executeInto config schedule stations indexes ownership = some (.error error, last)
      ∧ migratedBetween mid last = []
      ∧ (last.ownership = mid.ownership
        ↔ IndexMissing mid.indexes action ∨ AllAssigned mid.ownership action) := by
  have hvalid := executeActions_valid (x := prepareExecution stations indexes ownership) hset hdone
  obtain ⟨hnone, hcases⟩ := executeAction_error hvalid hfail
  refine ⟨?_, hnone, ?_⟩
  · rw [executeInto, hschedule, executeActions_append_error hdone hfail]
    rfl
  · rcases hcases with ⟨hmissing, hkept⟩ | ⟨hpresent, hassigned⟩
    · simp [hmissing, hkept]
    · rw [hassigned, CellOwnershipTable.applySplit_eq_self]
      simp [hpresent, AllAssigned]

end Execute

/-! ## A planned split -/

section PlannedSplit

/-- Station 1 owns entity 7 at the origin and station 2 is empty. -/
def hotAndIdle : StationSet ℚ :=
  (StationSet.new.push ((Station.new (configWithStation 1)).spawnOwned ⟨7⟩ ⟨0, 0, 0⟩ .point ⟨0⟩).2).push
    (.new (configWithStation 2))

/-- The indexes of both stations. -/
def hotAndIdleIndexes : StationIndexSet ℚ :=
  (StationIndexSet.new.insert ⟨1⟩ ((CellIndex.new ⟨10⟩).upsert ⟨0, 0⟩ ⟨0, 0, 0⟩ .point)).insert ⟨2⟩
    (.new ⟨10⟩)

/-- Any load is hot. -/
def eagerSplits : SplitSchedulerConfig := ⟨⟨0, 0, 0, 0, 0, 0⟩, 4, 4, 4, 1, 1000, 0, true⟩

/-- The schedule for the two stations: one action, which moves the origin's cell. -/
def plannedSplit : SplitSchedule :=
  planInto (fun _ compare cells => ReplicationPlanner.sortBy compare cells) eagerSplits
    (StationLoadSampler.sampleAll ⟨48, 16, 32, 2, 1, 1, 1⟩ hotAndIdle hotAndIdleIndexes
      ((EventRouter.new .default).registerStations hotAndIdle) []) none ⟨0⟩

lemma coherent_hotAndIdleIndexes : hotAndIdleIndexes.Coherent :=
  (StationIndexSet.coherent_new.insert ⟨1⟩ _).insert ⟨2⟩ _

lemma valid_hotAndIdle : hotAndIdle.Valid :=
  (StationSet.valid_new.push ((Station.storeInv_new _).spawnOwned _ _ _ _)).push
    (Station.storeInv_new _)

/-- The one action of the schedule. -/
def plannedAction : SplitAction :=
  ⟨⟨1⟩, ⟨2⟩, ⟨⟨1⟩, [⟨0, 0, 0⟩], 13⟩, 11, 0, 13⟩

lemma actions_plannedSplit : plannedSplit.actions = [plannedAction] := by decide +kernel

/-- Entity 7 is indexed in the cell that the action moves. -/
lemma entity_hotAndIdle : ∃ source index record, hotAndIdle.get ⟨1⟩ = some source
    ∧ hotAndIdleIndexes.get ⟨1⟩ = some index ∧ ⟨0, 0⟩ ∈ index.handlesInCell ⟨0, 0, 0⟩
    ∧ source.get ⟨0, 0⟩ = some record ∧ record.id = ⟨7⟩ :=
  ⟨_, _, _, rfl, rfl, by decide +kernel, rfl, rfl⟩

/-- With an empty table the split relieves station 1. -/
theorem plannedSplit_relieves :
    ∃ view last, executeInto eagerSplits plannedSplit hotAndIdle hotAndIdleIndexes .new
        = some (.ok view, last)
      ∧ last.stations.owns ⟨1⟩ ⟨7⟩ = false := by
  have hrun : (executeInto eagerSplits plannedSplit hotAndIdle hotAndIdleIndexes .new).any
      (fun outcome => outcome.1.isOk) = true := by decide +kernel
  obtain ⟨⟨result, last⟩, heq, hok⟩ := (Option.any_eq_true _ _).mp hrun
  cases result with
  | error error => simp [Except.isOk, Except.toBool] at hok
  | ok view =>
      obtain ⟨source, index, record, hsource, hindex, hhandle, hget, hid⟩ := entity_hotAndIdle
      obtain ⟨source', index', hsource', hindex', hiff⟩ :=
        relieved_iff eagerSplits valid_hotAndIdle actions_plannedSplit heq
      obtain rfl := Option.some.inj (hsource'.symm.trans hsource)
      obtain rfl := Option.some.inj (hindex'.symm.trans hindex)
      have howned := hiff ⟨0, 0, 0⟩ (by decide) ⟨0, 0⟩ hhandle record hget
      refine ⟨view, last, heq, ?_⟩
      rw [← hid, ← Bool.not_eq_true]
      intro howns
      exact absurd ((howned.mp howns).2 ⟨0, 0, 0⟩ (by decide) hhandle) (by decide)

/-- With a table that has the cell at station 2 already, entity 7 stays with station 1. -/
theorem executed_without_relief :
    ¬ Relieves eagerSplits plannedSplit hotAndIdle hotAndIdleIndexes
      (CellOwnershipTable.new.assign ⟨0, 0, 0⟩ ⟨2⟩).2 := by
  intro hrelieves
  have hrun : (executeInto eagerSplits plannedSplit hotAndIdle hotAndIdleIndexes
      (CellOwnershipTable.new.assign ⟨0, 0, 0⟩ ⟨2⟩).2).any
      (fun outcome => outcome.1.isOk && outcome.2.stations.owns ⟨1⟩ ⟨7⟩) = true := by
    decide +kernel
  obtain ⟨⟨result, last⟩, heq, hok⟩ := (Option.any_eq_true _ _).mp hrun
  cases result with
  | error error => simp [Except.isOk, Except.toBool] at hok
  | ok view =>
      obtain ⟨source, index, record, hsource, hindex, hhandle, hget, hid⟩ := entity_hotAndIdle
      have hfalse := hrelieves plannedAction view last actions_plannedSplit heq source index
        hsource hindex ⟨0, 0, 0⟩ (by decide) ⟨0, 0⟩ hhandle record hget
      rw [hid] at hfalse
      have hsource : plannedAction.sourceStation = ⟨1⟩ := rfl
      rw [hsource] at hfalse
      simp [hfalse] at hok

/-- The stations after station 2 was removed. -/
def hotAlone : StationSet ℚ :=
  StationSet.new.push ((Station.new (configWithStation 1)).spawnOwned ⟨7⟩ ⟨0, 0, 0⟩ .point ⟨0⟩).2

lemma valid_hotAlone : hotAlone.Valid :=
  StationSet.valid_new.push ((Station.storeInv_new _).spawnOwned _ _ _ _)

/-- The index of station 1 only. -/
def hotAloneIndexes : StationIndexSet ℚ :=
  StationIndexSet.new.insert ⟨1⟩ ((CellIndex.new ⟨10⟩).upsert ⟨0, 0⟩ ⟨0, 0, 0⟩ .point)

lemma coherent_hotAloneIndexes : hotAloneIndexes.Coherent :=
  StationIndexSet.coherent_new.insert ⟨1⟩ _

/-- Without an index of station 2 the split fails and the table stays empty. -/
theorem missing_index_keeps_table :
    ∃ error last, executeInto eagerSplits plannedSplit hotAlone hotAloneIndexes .new
        = some (.error error, last)
      ∧ last.ownership = .new := by
  have hmissing : IndexMissing hotAloneIndexes plannedAction := .inr rfl
  have hschedule : plannedSplit.actions = [] ++ plannedAction :: [] := actions_plannedSplit
  have hfail : executeAction eagerSplits (prepareExecution hotAlone hotAloneIndexes .new)
      plannedAction = some (.error (.missingTargetIndex ⟨2⟩),
        prepareExecution hotAlone hotAloneIndexes .new) := rfl
  obtain ⟨hexecute, -, hkept⟩ := table_kept_iff eagerSplits valid_hotAlone hschedule rfl hfail
  exact ⟨_, _, hexecute, hkept.mpr (.inl hmissing)⟩

/-- Without station 2 itself the split fails on entity 7, and the table has its cell there. -/
theorem missing_station_changes_table :
    ¬ TableKept eagerSplits plannedSplit hotAlone hotAndIdleIndexes .new := by
  intro hkept
  have hrun : (executeAction eagerSplits (prepareExecution hotAlone hotAndIdleIndexes .new)
      plannedAction).any (fun outcome => !outcome.1.isOk
        && (migratedBetween (prepareExecution hotAlone hotAndIdleIndexes .new) outcome.2).isEmpty
        && outcome.2.ownership.ownerOf ⟨0, 0, 0⟩ == some ⟨2⟩) = true := by decide +kernel
  obtain ⟨⟨result, last⟩, heq, hlast⟩ := (Option.any_eq_true _ _).mp hrun
  simp only [Bool.and_eq_true, List.isEmpty_iff, beq_iff_eq] at hlast
  obtain ⟨⟨hfail, hnone⟩, howner⟩ := hlast
  cases result with
  | ok _ => simp [Except.isOk, Except.toBool] at hfail
  | error error =>
      have htable := hkept [] plannedAction [] _ error last actions_plannedSplit rfl heq hnone
      rw [htable] at howner
      exact absurd howner (by decide)

end PlannedSplit

end SplitScheduler

end SectorSync
