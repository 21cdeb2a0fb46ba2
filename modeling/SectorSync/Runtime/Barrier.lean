import SectorSync.Core.Command
import SectorSync.Runtime.StationSet

/-!
# Runtime barriers

`BarrierController` of the runtime crate: a request covers the stations of a scope, polls mark
those that have reached the target tick and freeze the barrier once all have, and while it is
frozen the covered stations can be exported as snapshots.

`poll_spec` says what a poll does and `request_spec` what a request does, in terms of the covered
stations only; `exportSnapshots_eq_ok` says what an export returns.
-/

namespace SectorSync

variable {F : Type}

/-- Runtime barrier scope. -/
inductive BarrierScope where
  /-- Barrier applies to a full world instance. -/
  | instanceScope (id : InstanceId)
  /-- Barrier applies to a single station. -/
  | station (id : StationId)
  deriving DecidableEq

/-- Full runtime barrier descriptor. -/
structure RuntimeBarrier where
  id : BarrierId
  scope : BarrierScope
  /-- Tick observed when requested. -/
  requestedAt : Tick
  /-- Tick boundary selected for freezing. -/
  targetTick : Tick
  commandMode : CommandQueueMode
  state : BarrierState
  deriving DecidableEq

namespace RuntimeBarrier

/-- Creates a requested barrier. -/
def requested (id : BarrierId) (scope : BarrierScope) (requestedAt targetTick : Tick)
    (commandMode : CommandQueueMode) : RuntimeBarrier :=
  ⟨id, scope, requestedAt, targetTick, commandMode, .requested⟩

/-- Marks this barrier as waiting for the target tick boundary. -/
def waitForTickBoundary (barrier : RuntimeBarrier) : RuntimeBarrier :=
  { barrier with state := .waitingTickBoundary }

/-- Marks this barrier as frozen. -/
def freeze (barrier : RuntimeBarrier) : RuntimeBarrier := { barrier with state := .frozen }

end RuntimeBarrier

/-- Whether a station belongs to a scope. -/
def BarrierScope.covers (scope : BarrierScope) (station : Station F) : Bool :=
  match scope with
  | .instanceScope instanceId => station.config.instanceId = instanceId
  | .station stationId => station.config.stationId = stationId

/-- Returns station ids matching a barrier scope. -/
def StationSet.stationIdsInScope (set : StationSet F) (scope : BarrierScope) : List StationId :=
  (set.stations.filter scope.covers).map Station.id

/-- Per-station progress inside a full runtime barrier. -/
inductive StationBarrierPhase where
  /-- Station is part of the barrier but has not reached the target tick. -/
  | waitingTick
  /-- Station reached the target tick and is frozen. -/
  | frozen
  /-- Station has resumed. -/
  | resumed
  deriving DecidableEq

/-- Barrier progress summary. -/
structure BarrierProgress where
  state : BarrierState
  /-- Number of stations covered by the barrier. -/
  stationCount : ℕ
  /-- Number of stations frozen. -/
  frozenCount : ℕ
  /-- Target tick selected for the barrier. -/
  targetTick : Tick
  deriving DecidableEq

/-- Runtime barrier metrics. -/
structure BarrierMetrics where
  stationCount : ℕ
  /-- Number of snapshots exported while frozen. -/
  snapshotsExported : ℕ
  /-- Number of times polling observed at least one station still waiting. -/
  waitingPolls : UInt64
  /-- Number of times polling observed a fully frozen barrier. -/
  frozenPolls : UInt64
  deriving DecidableEq

/-- Runtime barrier execution error. -/
inductive BarrierRuntimeError where
  /-- A barrier is already active. -/
  | alreadyActive (id : BarrierId)
  /-- No barrier is active. -/
  | noActiveBarrier
  /-- Barrier scope matched no stations. -/
  | emptyScope (scope : BarrierScope)
  /-- Requested operation requires frozen state. -/
  | notFrozen (state : BarrierState)
  /-- A station covered by the barrier is missing. -/
  | missingStation (id : StationId)
  deriving DecidableEq

/-- Full runtime barrier executor for in-process station sets. -/
structure BarrierController where
  active : Option RuntimeBarrier
  phases : BTreeMap StationId StationBarrierPhase
  metrics : BarrierMetrics

namespace BarrierController

/-- `BarrierController::default`. -/
def default : BarrierController := ⟨none, ∅, ⟨0, 0, 0, 0⟩⟩

/-- Returns current barrier progress. -/
def progress (controller : BarrierController) : BarrierProgress where
  state := controller.active.elim .running (·.state)
  stationCount := controller.phases.size
  frozenCount := controller.phases.total fun phase => if phase = .frozen then 1 else 0
  targetTick := controller.active.elim ⟨0⟩ (·.targetTick)

/-- Requests a barrier over stations matching `scope`. -/
def request (controller : BarrierController) (stations : StationSet F) (id : BarrierId)
    (scope : BarrierScope) (targetTick : Tick) (commandMode : CommandQueueMode) :
    Except BarrierRuntimeError BarrierProgress × BarrierController :=
  match controller.active with
  | some active => (.error (.alreadyActive active.id), controller)
  | none =>
      let stationIds := stations.stationIdsInScope scope
      if stationIds = [] then (.error (.emptyScope scope), controller)
      else
        let requestedAt : Tick :=
          ⟨((stationIds.filterMap stations.get).map (·.tick.get)).foldl max 0⟩
        let barrier :=
          (RuntimeBarrier.requested id scope requestedAt targetTick
            commandMode).waitForTickBoundary
        let controller : BarrierController :=
          { active := some barrier
            phases := Finmap.insertAll (fun _ => .waitingTick) stationIds ∅
            metrics := ⟨stationIds.length, 0, 0, 0⟩ }
        (.ok controller.progress, controller)

/-- The loop of a poll over the covered stations; a missing station ends it. -/
def pollStations (stations : StationSet F) (targetTick : Tick) :
    BTreeMap StationId StationBarrierPhase → Bool → List StationId →
      Except BarrierRuntimeError Bool × BTreeMap StationId StationBarrierPhase
  | phases, allReady, [] => (.ok allReady, phases)
  | phases, allReady, stationId :: stationIds =>
      match stations.get stationId with
      | none => (.error (.missingStation stationId), phases)
      | some station =>
          if station.tick ≥ targetTick then
            pollStations stations targetTick (phases.insert stationId .frozen) allReady stationIds
          else pollStations stations targetTick phases false stationIds

/-- Polls station ticks and freezes the barrier once all covered stations are ready. -/
def poll (controller : BarrierController) (stations : StationSet F) :
    Except BarrierRuntimeError BarrierProgress × BarrierController :=
  match controller.active with
  | none => (.error .noActiveBarrier, controller)
  | some barrier =>
      if barrier.state = .frozen then
        let controller := { controller with
          metrics := { controller.metrics with
            frozenPolls := controller.metrics.frozenPolls.saturatingAdd 1 } }
        (.ok controller.progress, controller)
      else
        match pollStations stations barrier.targetTick controller.phases true
            controller.phases.sortedKeys with
        | (.error error, phases) => (.error error, { controller with phases := phases })
        | (.ok allReady, phases) =>
            let controller : BarrierController :=
              if allReady then
                { active := some barrier.freeze
                  phases := phases
                  metrics := { controller.metrics with
                    frozenPolls := controller.metrics.frozenPolls.saturatingAdd 1 } }
              else
                { controller with
                  phases := phases
                  metrics := { controller.metrics with
                    waitingPolls := controller.metrics.waitingPolls.saturatingAdd 1 } }
            (.ok controller.progress, controller)

/-- The snapshots of stations in order; a missing station ends the loop. -/
def snapshotStations (stations : StationSet F) (version : SnapshotVersion) :
    List StationId → Except BarrierRuntimeError (List (StationSnapshot F))
  | [] => .ok []
  | stationId :: stationIds =>
      match stations.get stationId with
      | none => .error (.missingStation stationId)
      | some station =>
          (snapshotStations stations version stationIds).map (station.snapshot version :: ·)

/-- Exports station snapshots while the barrier is frozen. -/
def exportSnapshots (controller : BarrierController) (stations : StationSet F)
    (version : SnapshotVersion) :
    Except BarrierRuntimeError (List (StationSnapshot F)) × BarrierController :=
  match controller.active with
  | none => (.error .noActiveBarrier, controller)
  | some barrier =>
      if barrier.state ≠ .frozen then (.error (.notFrozen barrier.state), controller)
      else
        match snapshotStations stations version controller.phases.sortedKeys with
        | .error error => (.error error, controller)
        | .ok snapshots =>
            (.ok snapshots, { controller with
              metrics := { controller.metrics with
                snapshotsExported :=
                  usizeSaturatingAdd controller.metrics.snapshotsExported snapshots.length } })

/-- Resumes all stations covered by the barrier and returns final metrics. -/
def resume (controller : BarrierController) :
    Except BarrierRuntimeError BarrierMetrics × BarrierController :=
  match controller.active with
  | none => (.error .noActiveBarrier, controller)
  | some barrier =>
      if barrier.state ≠ .frozen then (.error (.notFrozen barrier.state), controller)
      else (.ok controller.metrics, .default)

/-! ## Requests and polls -/

/-- A station that the active barrier covers. -/
def Covers (controller : BarrierController) (id : StationId) : Prop := id ∈ controller.phases.keys

instance (controller : BarrierController) (id : StationId) : Decidable (controller.Covers id) :=
  inferInstanceAs (Decidable (_ ∈ _))

lemma covers_iff {controller : BarrierController} {id : StationId} :
    controller.Covers id ↔ id ∈ controller.phases.sortedKeys :=
  Finmap.mem_sortedKeys.symm

/-- All stations of a list are there and have reached a tick. -/
def Reached (stations : StationSet F) (tick : Tick) (ids : List StationId) : Prop :=
  ∀ id ∈ ids, ∃ s, stations.get id = some s ∧ tick ≤ s.tick

/-- A request is refused, or covers the stations of its scope. -/
theorem request_spec (controller : BarrierController) (stations : StationSet F) (id : BarrierId)
    (scope : BarrierScope) (targetTick : Tick) (commandMode : CommandQueueMode) :
    (controller.request stations id scope targetTick commandMode).2 = controller
      ∨ controller.active = none
        ∧ ∃ barrier, (controller.request stations id scope targetTick commandMode).2.active
            = some barrier
          ∧ barrier.targetTick = targetTick ∧ barrier.state = .waitingTickBoundary
          ∧ ∀ stationId, (controller.request stations id scope targetTick commandMode).2.Covers
              stationId ↔ stationId ∈ stations.stationIdsInScope scope := by
  rw [request]
  cases hactive : controller.active with
  | some active => exact .inl rfl
  | none =>
      dsimp only
      split_ifs with hempty
      · exact .inl rfl
      · refine .inr ⟨rfl, _, rfl, rfl, rfl, fun stationId => ?_⟩
        simp [Covers, Finmap.keys_insertAll]

lemma pollStations_spec (stations : StationSet F) (targetTick : Tick) (ids : List StationId)
    (phases : BTreeMap StationId StationBarrierPhase) (allReady : Bool)
    (hids : ∀ id ∈ ids, id ∈ phases.keys) :
    (pollStations stations targetTick phases allReady ids).2.keys = phases.keys
      ∧ ((pollStations stations targetTick phases allReady ids).1 = .ok true
        ↔ allReady = true ∧ Reached stations targetTick ids) := by
  induction ids generalizing phases allReady with
  | nil => simp [pollStations, Reached]
  | cons id ids ih =>
      rw [pollStations]
      cases hget : stations.get id with
      | none => simp [Reached, hget]
      | some s =>
          have hmem := hids id List.mem_cons_self
          have hrest : ∀ id ∈ ids, id ∈ phases.keys := fun other hother =>
            hids other (List.mem_cons_of_mem _ hother)
          by_cases hready : s.tick ≥ targetTick
          · have hkeys : (phases.insert id StationBarrierPhase.frozen).keys = phases.keys := by
              rw [Finmap.keys_insert, Finset.insert_eq_of_mem hmem]
            obtain ⟨hphases, hresult⟩ := ih (phases.insert id .frozen) allReady (hkeys ▸ hrest)
            simp only [hready, if_true]
            refine ⟨hphases.trans hkeys, hresult.trans ?_⟩
            simp [Reached, hget, show targetTick ≤ s.tick from hready]
          · obtain ⟨hphases, hresult⟩ := ih phases false hrest
            simp only [hready, if_false]
            refine ⟨hphases, hresult.trans ?_⟩
            simp [Reached, hget, show ¬ targetTick ≤ s.tick from hready]

/-- A poll covers the same stations and leaves the barrier, or freezes it when all covered stations
have reached the target. -/
theorem poll_spec (controller : BarrierController) (stations : StationSet F) :
    (controller.poll stations).2.phases.keys = controller.phases.keys
      ∧ ((controller.poll stations).2.active = controller.active
        ∨ ∃ barrier, controller.active = some barrier
          ∧ (controller.poll stations).2.active = some barrier.freeze
          ∧ Reached stations barrier.targetTick controller.phases.sortedKeys) := by
  rw [poll]
  cases hactive : controller.active with
  | none => exact ⟨rfl, .inl hactive⟩
  | some barrier =>
      dsimp only
      split_ifs with hfrozen
      · exact ⟨rfl, .inl rfl⟩
      · obtain ⟨hkeys, hready⟩ := pollStations_spec stations barrier.targetTick
          controller.phases.sortedKeys controller.phases true
          fun id hid => Finmap.mem_sortedKeys.mp hid
        cases hloop : pollStations stations barrier.targetTick controller.phases true
            controller.phases.sortedKeys with
        | mk result phases =>
            rw [hloop] at hkeys hready
            cases result with
            | error error => exact ⟨hkeys, .inl rfl⟩
            | ok allReady =>
                cases allReady with
                | false => exact ⟨hkeys, .inl rfl⟩
                | true => exact ⟨hkeys, .inr ⟨barrier, rfl, rfl, (hready.mp rfl).2⟩⟩

variable {controller : BarrierController} {stations : StationSet F}

/-- A poll reports the progress that it leaves. -/
lemma progress_of_poll {progress : BarrierProgress}
    (hok : (controller.poll stations).1 = .ok progress) :
    progress = (controller.poll stations).2.progress := by
  rw [poll] at hok ⊢
  cases hactive : controller.active with
  | none => simp [hactive] at hok
  | some barrier =>
      simp only [hactive] at hok ⊢
      split_ifs at hok ⊢ with hfrozen
      · exact (Except.ok.inj hok).symm
      · cases hloop : pollStations stations barrier.targetTick controller.phases true
            controller.phases.sortedKeys with
        | mk result phases =>
            cases result with
            | error error => simp [hloop] at hok
            | ok allReady => simpa [hloop, eq_comm] using hok

/-- A resume is refused, or ends the barrier. -/
lemma resume_spec (controller : BarrierController) :
    controller.resume.2 = controller ∨ controller.resume.2.active = none := by
  rw [resume]
  cases hactive : controller.active with
  | none => exact .inl rfl
  | some barrier =>
      dsimp only
      split_ifs
      · exact .inl rfl
      · exact .inr rfl

/-! ## Exports -/

lemma snapshotStations_eq_ok (version : SnapshotVersion) (ids : List StationId)
    {snapshots : List (StationSnapshot F)} :
    snapshotStations stations version ids = .ok snapshots
      ↔ List.Forall₂ (fun id snapshot => ∃ s, stations.get id = some s
          ∧ snapshot = s.snapshot version) ids snapshots := by
  induction ids generalizing snapshots with
  | nil => simp [snapshotStations, eq_comm]
  | cons id ids ih =>
      rw [snapshotStations]
      cases hget : stations.get id with
      | none => simp [List.forall₂_cons_left_iff, hget]
      | some s =>
          cases hrest : snapshotStations stations version ids with
          | error error =>
              simp only [Except.map, reduceCtorEq, false_iff]
              intro h
              obtain ⟨_, _, -, htail, -⟩ := List.forall₂_cons_left_iff.mp h
              rw [← ih, hrest] at htail
              simp at htail
          | ok rest =>
              simp only [Except.map, Except.ok.injEq]
              constructor
              · rintro rfl
                exact .cons ⟨s, hget, rfl⟩ (ih.mp hrest)
              · intro h
                obtain ⟨_, tail, ⟨s', hget', rfl⟩, htail, rfl⟩ := List.forall₂_cons_left_iff.mp h
                rw [hget, Option.some.injEq] at hget'
                rw [← ih, hrest, Except.ok.injEq] at htail
                rw [hget', htail]

/-- An export succeeds on a frozen barrier whose stations are there, and has one snapshot for each
of them, in the order of their ids. -/
theorem exportSnapshots_eq_ok (controller : BarrierController) (stations : StationSet F)
    (version : SnapshotVersion) {snapshots : List (StationSnapshot F)} :
    (controller.exportSnapshots stations version).1 = .ok snapshots
      ↔ (∃ barrier, controller.active = some barrier ∧ barrier.state = .frozen)
        ∧ List.Forall₂ (fun id snapshot => ∃ s, stations.get id = some s
          ∧ snapshot = s.snapshot version) controller.phases.sortedKeys snapshots := by
  rw [exportSnapshots, ← snapshotStations_eq_ok]
  cases hactive : controller.active with
  | none => simp
  | some barrier =>
      by_cases hfrozen : barrier.state = .frozen
      · cases hloop : snapshotStations stations version controller.phases.sortedKeys with
        | error error => simp [hfrozen]
        | ok rest => simp [hfrozen]
      · simp [hfrozen]

/-- An export does not touch the barrier. -/
lemma exportSnapshots_keeps (controller : BarrierController) (stations : StationSet F)
    (version : SnapshotVersion) :
    (controller.exportSnapshots stations version).2.active = controller.active
      ∧ (controller.exportSnapshots stations version).2.phases = controller.phases := by
  rw [exportSnapshots]
  cases hactive : controller.active with
  | none => exact ⟨hactive, rfl⟩
  | some barrier =>
      dsimp only
      split_ifs
      · exact ⟨hactive, rfl⟩
      · cases snapshotStations stations version controller.phases.sortedKeys with
        | error error => exact ⟨hactive, rfl⟩
        | ok snapshots => exact ⟨rfl, rfl⟩

end BarrierController

end SectorSync
