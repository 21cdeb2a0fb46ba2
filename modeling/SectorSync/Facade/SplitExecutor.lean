import SectorSync.Base.Cooldown
import SectorSync.Base.Run
import SectorSync.Runtime.SplitCap
import SectorSync.Runtime.SplitExecution

/-!
# The split executor

`SplitExecutor` of the product facade keeps the schedule of its last `plan` call, and
`execute_planned` executes it.  The sources of the schedule are recorded for the cooldown when the
whole execution succeeds, at the tick of the plan call.

Two splits of one source keep the cooldown over a run when every execution carries out nothing, or
all actions of a plan that was not executed before (`split_cooldown_kept`).  Neither is checked:
`partial_failure_breaks_cooldown` and `repeated_execution_breaks_cooldown` are runs in which the
cooldown is not kept.
-/

namespace SectorSync

open Machine SplitScheduler

variable {F : Type}

/-- Records all actions of a schedule at the same tick. -/
def SplitSchedulerState.recordScheduleView (state : SplitSchedulerState) (schedule : SplitSchedule)
    (tick : Tick) : SplitSchedulerState :=
  schedule.actions.foldl (fun state action => state.recordAction action tick) state

/-- Stateful conservative split planner and executor. -/
structure SplitExecutor where
  /-- The configuration of the split scheduler. -/
  scheduler : SplitSchedulerConfig
  state : SplitSchedulerState
  /-- The schedule that was planned last. -/
  planning : SplitSchedule
  plannedAt : Tick

namespace SplitExecutor

/-- An executor that has planned nothing. -/
def new (config : SplitSchedulerConfig) : SplitExecutor :=
  ⟨config, ⟨∅⟩, ⟨[], [], 0, 0, 0, 0, 0, 0⟩, ⟨0⟩⟩

/-- Plans into retained storage. -/
def plan (selectNthUnstableBy : ReplicationPlanner.SelectNthUnstableBy CellLoadSample)
    (executor : SplitExecutor) (samples : List StationLoadSample) (currentTick : Tick) :
    SplitExecutor :=
  { executor with
    planning := planInto selectNthUnstableBy executor.scheduler samples (some executor.state)
      currentTick
    plannedAt := currentTick }

section Execute

variable [Scalar F]

/-- Executes the current plan and records its actions for cooldown.  The outer `none` is a panic. -/
def executePlanned (executor : SplitExecutor) (stations : StationSet F)
    (indexes : StationIndexSet F) (ownership : CellOwnershipTable) :
    Option (Except SplitScheduleExecutionError (SplitScheduleExecutionView F) × SplitExecution F
      × SplitExecutor) :=
  (executeInto executor.scheduler executor.planning stations indexes ownership).map
    fun (result, x) =>
      match result with
      | .error error => (.error error, x, executor)
      | .ok view =>
          (.ok view, x,
            { executor with
              state := executor.state.recordScheduleView executor.planning executor.plannedAt })

end Execute

end SplitExecutor

/-! ## Runs -/

/-- The stations, indexes and ownership table that an execution is given. -/
structure SplitWorld (F : Type) where
  stations : StationSet F
  valid : stations.Valid
  indexes : StationIndexSet F
  coherent : indexes.Coherent
  ownership : CellOwnershipTable

/-- The start of an execution in the world. -/
def SplitWorld.prepare (world : SplitWorld F) : SplitExecution F :=
  prepareExecution world.stations world.indexes world.ownership

/-- A call of the executor. -/
inductive SplitOp (F : Type) where
  | plan (samples : List StationLoadSample) (currentTick : Tick)
  | executePlanned (world : SplitWorld F)

/-- An executor, with the actions carried out so far and the ticks of the plan calls they stem
from. -/
structure SplitRun where
  executor : SplitExecutor
  executed : List (SplitAction × Tick)

namespace SplitRun

/-- A new executor. -/
def start (config : SplitSchedulerConfig) : SplitRun := ⟨.new config, []⟩

/-- The splits of the run: source stations, and ticks of the plan calls. -/
def splits (x : SplitRun) : List (StationId × ℕ) :=
  x.executed.map fun split => (split.1.sourceStation, split.2.get.toNat)

/-- Splits of one source stem from plan calls that are the cooldown apart. -/
def CooldownKept (x : SplitRun) : Prop :=
  SpacedOut x.executor.scheduler.splitCooldownTicks.toNat x.splits

instance (x : SplitRun) : Decidable x.CooldownKept :=
  inferInstanceAs (Decidable (SpacedOut _ _))

/-- Ticks do not decrease, and the samples of a plan call are of distinct stations. -/
def Orderly (x : SplitRun) : SplitOp F → Prop
  | .plan samples currentTick =>
      (samples.map (·.stationId)).Nodup ∧ x.executor.plannedAt ≤ currentTick
  | .executePlanned _ => True

variable [Scalar F]

/-- The actions of a schedule that an execution carries out: those before the first failure. -/
def carriedOut (config : SplitSchedulerConfig) : SplitExecution F → List SplitAction →
    List SplitAction
  | _, [] => []
  | x, action :: actions =>
      match executeAction config x action with
      | some (.ok (), x) => action :: carriedOut config x actions
      | _ => []

/-- One call of the executor. -/
def step (selectNthUnstableBy : ReplicationPlanner.SelectNthUnstableBy CellLoadSample)
    (x : SplitRun) : SplitOp F → SplitRun
  | .plan samples currentTick =>
      { x with executor := x.executor.plan selectNthUnstableBy samples currentTick }
  | .executePlanned world =>
      let executor := x.executor
      { executor :=
          (executor.executePlanned world.stations world.indexes world.ownership).elim executor
            fun outcome => outcome.2.2
        executed := x.executed ++
          (carriedOut executor.scheduler world.prepare executor.planning.actions).map
            fun action => (action, executor.plannedAt) }

/-- The sources of the plan are not in cooldown at its tick: it has not been executed yet. -/
def Fresh (executor : SplitExecutor) : Prop :=
  ∀ action ∈ executor.planning.actions,
    executor.state.isInCooldown action.sourceStation executor.plannedAt
      executor.scheduler.splitCooldownTicks = false

/-- There is no cooldown, or the execution carries out nothing, since its first action is blocked,
or the plan has not been executed yet and no action is blocked. -/
def Accountable (x : SplitRun) : SplitOp F → Prop
  | .plan _ _ => True
  | .executePlanned world =>
      x.executor.scheduler.splitCooldownTicks = 0
        ∨ (∀ action ∈ x.executor.planning.actions.head?, Blocked world.prepare action)
        ∨ (Fresh x.executor ∧ Unblocked world.prepare x.executor.planning.actions)

instance (x : SplitRun) : ∀ op : SplitOp F, Decidable (Orderly x op)
  | .plan _ _ => inferInstanceAs (Decidable (_ ∧ _))
  | .executePlanned _ => isTrue trivial

instance (executor : SplitExecutor) : Decidable (Fresh executor) :=
  inferInstanceAs (Decidable (∀ action ∈ executor.planning.actions, _ = false))

instance (x : SplitRun) : ∀ op : SplitOp F, Decidable (Accountable x op)
  | .plan _ _ => isTrue trivial
  | .executePlanned world =>
      inferInstanceAs (Decidable (x.executor.scheduler.splitCooldownTicks = 0
        ∨ (∀ action ∈ x.executor.planning.actions.head?, Blocked world.prepare action)
        ∨ (Fresh x.executor ∧ Unblocked world.prepare x.executor.planning.actions)))

/-! ## One execution -/

section Execution

variable {config : SplitSchedulerConfig} {x x' : SplitExecution F} {action : SplitAction}
  {actions : List SplitAction}

/-- An execution that succeeds has carried out all actions. -/
lemma carriedOut_of_ok (hok : executeActions config x actions = some (.ok (), x')) :
    carriedOut config x actions = actions := by
  induction actions generalizing x with
  | nil => rfl
  | cons action actions ih =>
      rw [executeActions] at hok
      rw [carriedOut]
      cases hnext : executeAction config x action with
      | none => simp [hnext] at hok
      | some outcome =>
          obtain ⟨error | _, x₁⟩ := outcome
          · simp [hnext] at hok
          · simp only [hnext] at hok ⊢
            rw [ih hok]

/-- The first action fails: nothing is carried out, and the execution does not succeed. -/
lemma carriedOut_of_not_ok (hfail : ∀ x', executeAction config x action ≠ some (.ok (), x')) :
    carriedOut config x (action :: actions) = []
      ∧ ∀ x', executeActions config x (action :: actions) ≠ some (.ok (), x') := by
  rw [carriedOut, executeActions]
  rcases hnext : executeAction config x action with _ | ⟨error | _, x₁⟩
  · simp
  · simp
  · exact absurd hnext (hfail x₁)

variable {executor : SplitExecutor} {world : SplitWorld F}

/-- A failing execution leaves the executor alone. -/
lemma executor_of_not_ok (hfail : ∀ x', executeActions executor.scheduler world.prepare
      executor.planning.actions ≠ some (.ok (), x')) :
    ((executor.executePlanned world.stations world.indexes world.ownership).elim executor
      fun outcome => outcome.2.2) = executor := by
  rw [SplitExecutor.executePlanned, executeInto, ← SplitWorld.prepare]
  rcases hrun : executeActions executor.scheduler world.prepare executor.planning.actions with
    _ | ⟨error | _, x'⟩
  · rfl
  · rfl
  · exact absurd hrun (hfail x')

/-- An execution that succeeds records its actions. -/
lemma executor_of_ok {x' : SplitExecution F} (hok : executeActions executor.scheduler
      world.prepare executor.planning.actions = some (.ok (), x')) :
    ((executor.executePlanned world.stations world.indexes world.ownership).elim executor
      fun outcome => outcome.2.2)
      = { executor with
          state := executor.state.recordScheduleView executor.planning executor.plannedAt } := by
  rw [SplitExecutor.executePlanned, executeInto, ← SplitWorld.prepare, hok]
  rfl

end Execution

/-! ## The record -/

/-- The tick at which a source was recorded last. -/
def lastSplit (state : SplitSchedulerState) (id : StationId) : Option ℕ :=
  (state.lastSplitAt.lookup id).map fun tick => tick.get.toNat

omit [Scalar F] in
/-- Recording a schedule records its sources. -/
lemma lastSplit_recordScheduleView (state : SplitSchedulerState) (schedule : SplitSchedule)
    (tick : Tick) :
    lastSplit (state.recordScheduleView schedule tick)
      = lastAfter (lastSplit state) (schedule.actions.map (·.sourceStation)) tick.get.toNat := by
  rw [SplitSchedulerState.recordScheduleView]
  induction schedule.actions generalizing state with
  | nil => rfl
  | cons action actions ih =>
      rw [List.foldl_cons, ih]
      funext id
      simp only [lastAfter, lastSplit, SplitSchedulerState.recordAction, List.map_cons,
        List.mem_cons, Finmap.lookup_insert_eq]
      by_cases hid : id = action.sourceStation
      · simp [hid]
      · simp [hid]

omit [Scalar F] in
/-- A source that is not in cooldown has rested. -/
lemma rested_of_isInCooldown {state : SplitSchedulerState} {id : StationId} {tick : Tick}
    {cooldown : UInt64} (hcooldown : cooldown ≠ 0)
    (h : state.isInCooldown id tick cooldown = false) :
    Rested cooldown.toNat (lastSplit state) tick.get.toNat id := by
  intro time hlast
  obtain ⟨last, hlookup, rfl⟩ := Option.map_eq_some_iff.mp hlast
  rw [SplitSchedulerState.isInCooldown, if_neg hcooldown] at h
  simp only [hlookup, decide_eq_false_iff_not, UInt64.lt_iff_toNat_lt,
    UInt64.toNat_saturatingSub] at h
  have hpos : 0 < cooldown.toNat := by
    rw [Nat.pos_iff_ne_zero]
    exact fun hzero => hcooldown (UInt64.toNat_inj.mp hzero)
  omega

/-! ## Every run -/

/-- The splits keep the cooldown and are recorded, and the sources of the plan are separate. -/
structure Cooling (x : SplitRun) : Prop where
  rests : Rests x.executor.scheduler.splitCooldownTicks.toNat (lastSplit x.executor.state) x.splits
    x.executor.plannedAt.get.toNat
  separate : Separate x.executor.planning.actions

lemma cooling_start (config : SplitSchedulerConfig) : Cooling (start config) where
  rests := rests_nil _ _
  separate := ⟨List.nodup_nil, by simp [start, SplitExecutor.new]⟩

variable {selectNthUnstableBy : ReplicationPlanner.SelectNthUnstableBy CellLoadSample}
  {x : SplitRun}

lemma Cooling.plan (h : Cooling x) {samples : List StationLoadSample} {currentTick : Tick}
    (hdistinct : (samples.map (·.stationId)).Nodup) (hle : x.executor.plannedAt ≤ currentTick) :
    Cooling (x.step selectNthUnstableBy (.plan samples currentTick : SplitOp F)) where
  rests := h.rests.later (UInt64.le_iff_toNat_le.mp hle)
  separate := separate_planInto hdistinct

/-- An execution that carries out nothing changes nothing. -/
lemma step_of_not_ok {world : SplitWorld F}
    (hnone : carriedOut x.executor.scheduler world.prepare x.executor.planning.actions = [])
    (hfail : ∀ x', executeActions x.executor.scheduler world.prepare x.executor.planning.actions
      ≠ some (.ok (), x')) :
    x.step selectNthUnstableBy (.executePlanned world) = x := by
  rw [step]
  simp only [hnone, executor_of_not_ok hfail, List.map_nil, List.append_nil]

/-- An execution of the whole plan, which was not executed before. -/
lemma Cooling.execute (h : Cooling x) (hcooldown : x.executor.scheduler.splitCooldownTicks ≠ 0)
    {world : SplitWorld F} (hfresh : Fresh x.executor) {x' : SplitExecution F}
    (hok : executeActions x.executor.scheduler world.prepare x.executor.planning.actions
      = some (.ok (), x')) :
    Cooling (x.step selectNthUnstableBy (.executePlanned world)) := by
  rw [step]
  simp only [carriedOut_of_ok hok, executor_of_ok hok]
  refine ⟨?_, h.separate⟩
  have huse := h.rests.use h.separate.nodup fun id hid => by
    obtain ⟨action, haction, rfl⟩ := List.mem_map.mp hid
    exact rested_of_isInCooldown hcooldown (hfresh action haction)
  rw [← lastSplit_recordScheduleView] at huse
  simpa [splits, usesAt, Function.comp_def] using huse

/-- What an accountable execution can do when there is a cooldown. -/
lemma Cooling.execution_cases (h : Cooling x)
    (hcooldown : x.executor.scheduler.splitCooldownTicks ≠ 0) {world : SplitWorld F}
    (hok : Accountable x (.executePlanned world)) :
    (carriedOut x.executor.scheduler world.prepare x.executor.planning.actions = []
        ∧ ∀ x', executeActions x.executor.scheduler world.prepare x.executor.planning.actions
          ≠ some (.ok (), x'))
      ∨ (Fresh x.executor
        ∧ ∃ x', executeActions x.executor.scheduler world.prepare x.executor.planning.actions
          = some (.ok (), x')) := by
  rcases hok with hzero | hblocked | ⟨hfresh, hfree⟩
  · exact absurd hzero hcooldown
  · cases hactions : x.executor.planning.actions with
    | nil => exact .inr ⟨by simp [Fresh, hactions], world.prepare, rfl⟩
    | cons action actions =>
        have hfirst : Blocked world.prepare action := hblocked action (by simp [hactions])
        exact .inl (carriedOut_of_not_ok fun x' => hfirst.not_ok world.valid)
  · exact .inr ⟨hfresh, (executeActions_ok_iff _ h.separate world.valid world.coherent
      (alike_refl _ _)).mpr hfree⟩

/-- **The step lemma.**  An accountable call keeps the cooldown. -/
lemma Cooling.step (h : Cooling x) (hcooldown : x.executor.scheduler.splitCooldownTicks ≠ 0)
    {op : SplitOp F} (horderly : Orderly x op) (hok : Accountable x op) :
    Cooling (x.step selectNthUnstableBy op) := by
  cases op with
  | plan samples currentTick => exact h.plan horderly.1 horderly.2
  | executePlanned world =>
      rcases h.execution_cases hcooldown hok with ⟨hnone, hfail⟩ | ⟨hfresh, x', hall⟩
      · rwa [step_of_not_ok hnone hfail]
      · exact h.execute hcooldown hfresh hall

/-- The configuration never changes. -/
lemma scheduler_step (x : SplitRun) (op : SplitOp F) :
    (x.step selectNthUnstableBy op).executor.scheduler = x.executor.scheduler := by
  cases op with
  | plan samples currentTick => rfl
  | executePlanned world =>
      by_cases hfail : ∀ x', executeActions x.executor.scheduler world.prepare
        x.executor.planning.actions ≠ some (.ok (), x')
      · rw [SplitRun.step]
        simp only [executor_of_not_ok hfail]
      · push Not at hfail
        obtain ⟨x', hok⟩ := hfail
        rw [SplitRun.step]
        simp only [executor_of_ok hok]

/-- **The cooldown over a run.**  In a run of plan calls with nondecreasing ticks and samples of
distinct stations, and of executions that are all accountable, the splits of every source stem from
plan calls that are the cooldown apart. -/
theorem split_cooldown_kept
    (selectNthUnstableBy : ReplicationPlanner.SelectNthUnstableBy CellLoadSample)
    (config : SplitSchedulerConfig) (ops : List (SplitOp F))
    (horderly : AllSteps (step selectNthUnstableBy) Orderly (start config) ops)
    (hok : AllSteps (step selectNthUnstableBy) Accountable (start config) ops) :
    ∀ pre, pre <+: ops →
      CooldownKept (execute (step selectNthUnstableBy) (start config) pre) := by
  rintro pre ⟨post, rfl⟩
  have horderly := (allSteps_append.mp horderly).1
  have hok := (allSteps_append.mp hok).1
  have hconfig : (execute (step selectNthUnstableBy) (start config) pre).executor.scheduler
      = config := execute_preserves (I := fun x => x.executor.scheduler = config)
    (fun x op h => (scheduler_step x op).trans h) rfl pre
  by_cases hcooldown : config.splitCooldownTicks = 0
  · rw [CooldownKept, hconfig, hcooldown]
    exact spacedOut_zero _
  · have hboth := allSteps_and.mpr ⟨horderly, hok⟩
    have hcooling := execute_invariant (I := fun x => x.executor.scheduler = config ∧ Cooling x)
      (fun x op h hstep => ⟨(scheduler_step x op).trans h.1,
        h.2.step (h.1 ▸ hcooldown) hstep.1 hstep.2⟩) ⟨rfl, cooling_start config⟩ hboth
    exact hcooling.2.rests.spaced

section Examples

/-- Crowded stations give a cell to an idle one, and rest for ten ticks. -/
def restingSplits : SplitSchedulerConfig :=
  ⟨⟨0, 0, 0, 0, 0, 1000⟩, 4, 4, 4, 1, 1000, 10, true⟩

/-- Stations 1, 2 and 3, of which the first owns entity 7 at the origin, with their indexes. -/
def wholeWorld : SplitWorld ℚ where
  stations := hotAndIdle.push (.new (configWithStation 3))
  valid := valid_hotAndIdle.push (Station.storeInv_new _)
  indexes := hotAndIdleIndexes.insert ⟨3⟩ (.new ⟨10⟩)
  coherent := coherent_hotAndIdleIndexes.insert ⟨3⟩ (.new ⟨10⟩)
  ownership := .new

/-- The same stations, of which the second has no index. -/
def partialWorld : SplitWorld ℚ :=
  { wholeWorld with
    indexes := hotAloneIndexes.insert ⟨3⟩ (.new ⟨10⟩)
    coherent := coherent_hotAloneIndexes.insert ⟨3⟩ (.new ⟨10⟩) }

/-- Stations 1 and 2 are crowded, station 3 is idle. -/
def planAt (tick : UInt64) : SplitOp ℚ := .plan [crowded 1, crowded 2, idle 3] ⟨tick⟩

/-- A step with a stable sort for the selection of cells. -/
def sortedStep : SplitRun → SplitOp ℚ → SplitRun :=
  step fun _ compare cells => ReplicationPlanner.sortBy compare cells

/-- Every plan is executed once, and the second one is empty. -/
def restedSteps : List (SplitOp ℚ) :=
  [planAt 1, .executePlanned wholeWorld, planAt 5, .executePlanned wholeWorld,
    planAt 11, .executePlanned wholeWorld]

theorem split_cooldown_kept_rested :
    (∀ pre, pre <+: restedSteps → CooldownKept (execute sortedStep (start restingSplits) pre))
      ∧ (execute sortedStep (start restingSplits) restedSteps).splits
        = [(⟨1⟩, 1), (⟨2⟩, 1), (⟨1⟩, 11), (⟨2⟩, 11)] :=
  ⟨split_cooldown_kept _ restingSplits restedSteps (by decide +kernel) (by decide +kernel),
    by decide +kernel⟩

/-- The first execution fails at its second action, and the first one is not recorded. -/
def failedSteps : List (SplitOp ℚ) :=
  [planAt 1, .executePlanned partialWorld, planAt 2, .executePlanned wholeWorld]

theorem partial_failure_breaks_cooldown :
    AllSteps sortedStep Orderly (start restingSplits) failedSteps
      ∧ ¬ CooldownKept (execute sortedStep (start restingSplits) failedSteps) := by
  decide +kernel

/-- One plan, executed twice. -/
def repeatedSteps : List (SplitOp ℚ) :=
  [planAt 1, .executePlanned wholeWorld, .executePlanned wholeWorld]

theorem repeated_execution_breaks_cooldown :
    AllSteps sortedStep Orderly (start restingSplits) repeatedSteps
      ∧ ¬ CooldownKept (execute sortedStep (start restingSplits) repeatedSteps) := by
  decide +kernel

end Examples

end SplitRun

end SectorSync
