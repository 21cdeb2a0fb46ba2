import SectorSync.Runtime.Prioritization
import SectorSync.Runtime.SplitExecution

/-!
# What a split schedule contains

`SplitCap` says which actions a pass has: those of its sources, each to the station the source
prefers.  `PlannedAction` reads off the terms of one action, `split_plan_sound` collects them for
every input of the planner, and adds that a planned schedule can be executed without a panic: its
actions go from one station to another (`executeActions_ne_none`).
-/

namespace SectorSync.SplitScheduler

open Selection CellMigrationExecutor

variable {selectNthUnstableBy : ReplicationPlanner.SelectNthUnstableBy CellLoadSample}
  {config : SplitSchedulerConfig} {samples : List StationLoadSample}
  {state : Option SplitSchedulerState} {currentTick : Tick}

/-! ## The cells of a proposal -/

/-- The proposed cells are those of highest pressure, up to the limit. -/
lemma cellsToMove_proposalOf (hselect : SelectsNth selectNthUnstableBy)
    (source : StationLoadSample) :
    ∃ best, IsBest compareCellSamples config.maxCellsPerAction source.cells best
      ∧ (proposalOf selectNthUnstableBy config source).cellsToMove = best.map (·.cell)
      ∧ (proposalOf selectNthUnstableBy config source).movedPressureScore
        = best.foldl (fun score cell => score.saturatingAdd cell.pressureScore) 0 := by
  have := transCmp_compareCellSamples
  have hbest : IsBest compareCellSamples _ source.cells _ :=
    HotspotPlanner.isBest_prioritizeBy hselect source.cells
      (min config.maxCellsPerAction source.cells.length)
  refine ⟨_, ⟨?_, hbest.sorted, hbest.exists_rest⟩, rfl, rfl⟩
  rw [hbest.length_eq]
  omega

/-! ## One action -/

variable (selectNthUnstableBy config samples state currentTick) in
/-- The terms of a planned action: a hot source that is not cooling down gives its cells of highest
pressure to the least of the admissible stations by severity, load score and id. -/
structure PlannedAction (action : SplitAction) (source target : StationLoadSample) : Prop where
  mem_source : source ∈ samples
  mem_target : target ∈ samples
  sourceStation : action.sourceStation = source.stationId
  targetStation : action.targetStation = target.stationId
  proposal : action.proposal = proposalOf selectNthUnstableBy config source
  source_hot : severityOf config source = .hot
  not_in_cooldown : ∀ current, state = some current →
    current.isInCooldown source.stationId currentTick config.splitCooldownTicks = false
  distinct : target.stationId ≠ source.stationId
  target_not_hot : severityOf config target ≠ .hot
  target_warm : severityOf config target = .warm → config.allowWarmTargets = true
  improvement : config.minScoreImprovement
    ≤ (stationLoadScore source).saturatingSub (stationLoadScore target)
  capacity : (stationLoadScore target).saturatingAdd action.proposal.movedPressureScore
    ≤ config.maxTargetScoreAfterMove
  least : ∀ other ∈ samples, Eligible selectNthUnstableBy config source other →
    keyOf config target ≤ keyOf config other
  cells : ∃ best, IsBest compareCellSamples config.maxCellsPerAction source.cells best
    ∧ action.proposal.cellsToMove = best.map (·.cell)

lemma plannedAction_of_actionFor (hselect : SelectsNth selectNthUnstableBy)
    {source : StationLoadSample} {action : SplitAction}
    (hsource : source ∈ sources selectNthUnstableBy config samples state currentTick)
    (h : ActionFor selectNthUnstableBy config samples source action) :
    ∃ target, PlannedAction selectNthUnstableBy config samples state currentTick action source
      target := by
  obtain ⟨target, hprefers, rfl⟩ := h
  obtain ⟨hmem, hsplitting⟩ := mem_of_mem_sources hsource
  obtain ⟨hdistinct, hseverity, himprovement, hcapacity⟩ := hprefers.eligible
  rw [not_or] at hseverity
  obtain ⟨best, hbest, hcells, -⟩ := cellsToMove_proposalOf hselect source
  exact ⟨target,
    { mem_source := hmem
      mem_target := hprefers.mem
      sourceStation := rfl
      targetStation := rfl
      proposal := rfl
      source_hot := hsplitting.hot
      not_in_cooldown := fun current hcurrent => by
        have hwarmed := hsplitting.warmedUp
        rwa [hcurrent, Option.any_some] at hwarmed
      distinct := hdistinct
      target_not_hot := hseverity.1
      target_warm := fun hwarm => by
        by_contra hdisallowed
        exact hseverity.2 ⟨hwarm, Bool.eq_false_iff.mpr hdisallowed⟩
      improvement := not_lt.mp himprovement
      capacity := not_lt.mp hcapacity
      least := hprefers.least
      cells := ⟨best, hbest, hcells⟩ }⟩

lemma exists_plannedAction (hselect : SelectsNth selectNthUnstableBy)
    {splitting : List StationLoadSample} {actions : List SplitAction}
    (h : List.Forall₂ (ActionFor selectNthUnstableBy config samples) splitting actions)
    (hsources : splitting ⊆ sources selectNthUnstableBy config samples state currentTick)
    {action : SplitAction} (hmem : action ∈ actions) :
    ∃ source target,
      PlannedAction selectNthUnstableBy config samples state currentTick action source target := by
  induction h with
  | nil => cases hmem
  | cons haction _ ih =>
      rw [List.cons_subset] at hsources
      rcases List.mem_cons.mp hmem with rfl | hmem
      · exact ⟨_, plannedAction_of_actionFor hselect hsources.1 haction⟩
      · exact ih hsources.2 hmem

/-! ## Execution -/

section Execute

variable {F : Type} [Scalar F]

lemma migrateNext_ne_none (source target : StationId) (ttl : UInt64) (m : CellMigration F)
    (id : EntityId) : migrateNext source target ttl m id ≠ none := by
  rw [migrateNext]
  split_ifs with hseen
  · exact Option.some_ne_none _
  · have hmigrate := migrateEntity_ne_none m.stations id source target ttl
    dsimp only
    split
    · rename_i hnone
      exact absurd hnone hmigrate
    · exact Option.some_ne_none _
    · split
      · exact Option.some_ne_none _
      · split
        · exact Option.some_ne_none _
        · split
          · exact Option.some_ne_none _
          · split
            · exact Option.some_ne_none _
            · exact Option.some_ne_none _

lemma migrateAll_ne_none (source target : StationId) (ttl : UInt64) (m : CellMigration F)
    (ids : List EntityId) : migrateAll source target ttl m ids ≠ none := by
  induction ids generalizing m with
  | nil => exact Option.some_ne_none _
  | cons id ids ih =>
      rw [migrateAll]
      have hnext := migrateNext_ne_none source target ttl m id
      rcases h : migrateNext source target ttl m id with _ | ⟨error | _, m'⟩
      · exact absurd h hnext
      · exact Option.some_ne_none _
      · exact ih m'

lemma migrateCells_ne_none (source target : StationId) (ttl : UInt64) (stations : StationSet F)
    (sourceIndex targetIndex : CellIndex F) (cells : List CellCoord3) :
    migrateCells source target ttl stations sourceIndex targetIndex cells ≠ none := by
  rw [migrateCells]
  cases stations.get source with
  | none => exact Option.some_ne_none _
  | some station => exact migrateAll_ne_none source target ttl _ _

/-- An action between two stations does not panic. -/
lemma executeAction_ne_none (x : SplitExecution F) {action : SplitAction}
    (hne : action.sourceStation ≠ action.targetStation) : executeAction config x action ≠ none := by
  cases hsource : x.indexes.get action.sourceStation with
  | none => simp [executeAction, hsource]
  | some sourceIndex =>
      cases htarget : x.indexes.get action.targetStation with
      | none => simp [executeAction, hsource, htarget]
      | some targetIndex =>
          rw [executeAction_eq hsource htarget hne, ne_eq, Option.map_eq_none_iff]
          exact migrateCells_ne_none _ _ _ _ _ _ _

lemma executeActions_ne_none {actions : List SplitAction}
    (hne : ∀ action ∈ actions, action.sourceStation ≠ action.targetStation)
    (x : SplitExecution F) : executeActions config x actions ≠ none := by
  induction actions generalizing x with
  | nil => exact Option.some_ne_none _
  | cons action actions ih =>
      rw [executeActions]
      have hfirst : executeAction config x action ≠ none :=
        executeAction_ne_none x (hne action List.mem_cons_self)
      rcases h : executeAction config x action with _ | ⟨error | _, x'⟩
      · exact absurd h hfirst
      · exact Option.some_ne_none _
      · exact ih (fun other hother => hne other (List.mem_cons_of_mem _ hother)) x'

end Execute

/-- **Split plans are sound.**  Whatever the samples, the cooldown state and the tick, a pass has no
more actions than it may have, each on the terms of `PlannedAction`, and executing the schedule
over any stations, indexes and table panics nowhere. -/
theorem split_plan_sound (F : Type) [Scalar F] (hselect : SelectsNth selectNthUnstableBy)
    (config : SplitSchedulerConfig) (samples : List StationLoadSample)
    (state : Option SplitSchedulerState) (currentTick : Tick) :
    let schedule := planInto selectNthUnstableBy config samples state currentTick
    schedule.actions.length ≤ config.maxActionsPerPass
      ∧ (∀ action ∈ schedule.actions, ∃ source target,
        PlannedAction selectNthUnstableBy config samples state currentTick action source target)
      ∧ ∀ (stations : StationSet F) (indexes : StationIndexSet F) (ownership : CellOwnershipTable),
        executeInto config schedule stations indexes ownership ≠ none := by
  intro schedule
  have hactions := planInto_actions selectNthUnstableBy config samples state currentTick
  have hplanned : ∀ action ∈ schedule.actions, ∃ source target,
      PlannedAction selectNthUnstableBy config samples state currentTick action source target :=
    fun action hmem => exists_plannedAction hselect hactions (List.Subset.refl _) hmem
  refine ⟨?_, hplanned, fun stations indexes ownership => ?_⟩
  · rw [← hactions.length_eq, sources, List.length_take]
    exact Nat.min_le_left _ _
  · rw [executeInto, ne_eq, Option.map_eq_none_iff]
    refine executeActions_ne_none (fun action hmem => ?_) _
    obtain ⟨source, target, h⟩ := hplanned action hmem
    rw [h.sourceStation, h.targetStation]
    exact h.distinct.symm

/-- A crowded station gives its cell to an idle one. -/
theorem split_plan_sound_crowded :
    let schedule := planInto fullSort roomForOne [crowded 1, idle 3] none ⟨0⟩
    schedule.actions.map (fun action => (action.sourceStation, action.targetStation))
        = [(⟨1⟩, ⟨3⟩)]
      ∧ ∀ action ∈ schedule.actions, ∃ source target,
        PlannedAction fullSort roomForOne [crowded 1, idle 3] none ⟨0⟩ action source target :=
  ⟨by decide, (split_plan_sound ℚ selectsNth_fullSort roomForOne [crowded 1, idle 3] none
    ⟨0⟩).2.1⟩

end SectorSync.SplitScheduler
