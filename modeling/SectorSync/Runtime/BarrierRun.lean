import SectorSync.Base.Run
import SectorSync.Runtime.Barrier
import SectorSync.Runtime.StationScheduler

/-!
# Barriers while stations advance

Runs of a barrier controller beside stations that tick on their own or by the scheduler.  A poll
asks only whether the covered stations have reached the target, and neither a request nor a poll
stops a station, so a frozen barrier has them at the target or past it (`Frozen`).
`barrier_alignment` says when they are aligned, and `Cautious` which steps keep them so;
`barrier_not_aligned` is a run that freezes stations at different ticks.
-/

namespace SectorSync

open Machine BarrierController

variable {F : Type}

/-- Stations, their scheduler and a barrier controller. -/
structure BarrierRun (F : Type) where
  stations : StationSet F
  scheduler : StationScheduler
  controller : BarrierController

/-- The steps of a run. -/
inductive BarrierStep where
  /-- A station is ticked on its own. -/
  | advanceTick (id : StationId)
  | advanceAll
  | advanceLoaded (samples : List StationLoadSample) (config : StationScheduleConfig)
  | request (id : BarrierId) (scope : BarrierScope) (targetTick : Tick)
    (commandMode : CommandQueueMode)
  | poll
  | resume

namespace BarrierRun

/-- A run begins with a fresh scheduler and controller. -/
def start (stations : StationSet F) : BarrierRun F := ⟨stations, ⟨0⟩, .default⟩

section Step

variable (selectNthUnstableBy : ReplicationPlanner.SelectNthUnstableBy StationScheduleCandidate)

/-- One step of a run. -/
def step (x : BarrierRun F) : BarrierStep → BarrierRun F
  | .advanceTick id => { x with stations := x.stations.advanceTick id }
  | .advanceAll =>
      let (scheduler, stations) := x.scheduler.advanceAll x.stations
      { x with stations := stations, scheduler := scheduler }
  | .advanceLoaded samples config =>
      let (_, scheduler, stations) :=
        x.scheduler.advanceLoadedInto selectNthUnstableBy x.stations samples config
      { x with stations := stations, scheduler := scheduler }
  | .request id scope targetTick commandMode =>
      { x with controller :=
        (x.controller.request x.stations id scope targetTick commandMode).2 }
  | .poll => { x with controller := (x.controller.poll x.stations).2 }
  | .resume => { x with controller := x.controller.resume.2 }

/-- How often a step advances the station found under an id. -/
def ticksOf (x : BarrierRun F) (op : BarrierStep) (id : StationId) : ℕ :=
  match op with
  | .advanceTick id' => if id = id' then 1 else 0
  | .advanceAll => 1
  | .advanceLoaded samples config =>
      ((StationScheduler.planLoadedInto selectNthUnstableBy x.stations samples
        config).selected.map (·.stationId)).count id
  | .request _ _ _ _ | .poll | .resume => 0

/-- A step that takes no covered station past the target, or requests a target that no station of
its scope has passed. -/
def Cautious (x : BarrierRun F) (op : BarrierStep) : Prop :=
  (∀ barrier, x.controller.active = some barrier → ∀ id, x.controller.Covers id →
      ∀ s, x.stations.get id = some s →
        s.tick.get.toNat + ticksOf selectNthUnstableBy x op id ≤ barrier.targetTick.get.toNat)
    ∧ match op with
      | .request _ scope targetTick _ => x.controller.active = none →
          ∀ id ∈ x.stations.stationIdsInScope scope, ∀ s, x.stations.get id = some s →
            s.tick ≤ targetTick
      | _ => True

end Step

/-- The covered stations are there, at one tick. -/
def AlignedAt (x : BarrierRun F) (tick : Tick) : Prop :=
  ∀ id, x.controller.Covers id → ∃ s, x.stations.get id = some s ∧ s.tick = tick

/-- No covered station is past a tick. -/
def NonePast (x : BarrierRun F) (tick : Tick) : Prop :=
  ∀ id, x.controller.Covers id → ∀ s, x.stations.get id = some s → s.tick ≤ tick

instance (x : BarrierRun F) (tick : Tick) : Decidable (x.AlignedAt tick) :=
  decidable_of_iff (∀ id ∈ x.controller.phases.keys, ∃ s ∈ x.stations.get id, s.tick = tick) Iff.rfl

instance (x : BarrierRun F) (tick : Tick) : Decidable (x.NonePast tick) :=
  decidable_of_iff (∀ id ∈ x.controller.phases.keys, ∀ s ∈ x.stations.get id, s.tick ≤ tick) Iff.rfl

/-- While the barrier is frozen the covered stations are there and have reached its target. -/
structure Frozen (x : BarrierRun F) : Prop where
  valid : x.stations.Valid
  reached : ∀ barrier, x.controller.active = some barrier → barrier.state = .frozen →
    ∀ id, x.controller.Covers id → ∃ s, x.stations.get id = some s ∧ barrier.targetTick ≤ s.tick

/-- No covered station is past the target of the active barrier. -/
structure Behind (x : BarrierRun F) : Prop where
  valid : x.stations.Valid
  nonePast : ∀ barrier, x.controller.active = some barrier → x.NonePast barrier.targetTick

lemma frozen_start {stations : StationSet F} (hset : stations.Valid) : Frozen (start stations) where
  valid := hset
  reached := by simp [start, BarrierController.default]

lemma behind_start {stations : StationSet F} (hset : stations.Valid) : Behind (start stations) where
  valid := hset
  nonePast := by simp [start, BarrierController.default]

/-! ## One step -/

variable (selectNthUnstableBy : ReplicationPlanner.SelectNthUnstableBy StationScheduleCandidate)
  {x : BarrierRun F}

/-- A step advances the station under each id as often as it says, and does nothing else to the
stations. -/
lemma get_step (hset : x.stations.Valid) (op : BarrierStep) :
    (x.step selectNthUnstableBy op).stations.Valid
      ∧ ∀ id, (x.step selectNthUnstableBy op).stations.get id
        = (x.stations.get id).map
          (Station.advanceTick^[ticksOf selectNthUnstableBy x op id]) := by
  cases op with
  | advanceTick id => exact ⟨hset.advanceTick id, hset.get_advanceTick id⟩
  | advanceAll => exact ⟨hset.advanceTicks, x.stations.get_advanceTicks⟩
  | advanceLoaded samples config =>
      exact StationScheduler.foldl_advanceCandidate _ (x.scheduler, x.stations) hset
  | request id scope targetTick commandMode => exact ⟨hset, by simp [step, ticksOf]⟩
  | poll => exact ⟨hset, by simp [step, ticksOf]⟩
  | resume => exact ⟨hset, by simp [step, ticksOf]⟩

/-- What a step does to the barrier: nothing, or it ends, or it begins to wait for the stations of a
scope, or it freezes when all covered stations have reached the target. -/
lemma controller_step (x : BarrierRun F) (op : BarrierStep) :
    ((x.step selectNthUnstableBy op).controller.phases.keys = x.controller.phases.keys
        ∧ (x.step selectNthUnstableBy op).controller.active = x.controller.active)
      ∨ (x.step selectNthUnstableBy op).controller.active = none
      ∨ (∃ id scope targetTick commandMode barrier, op = .request id scope targetTick commandMode
          ∧ x.controller.active = none
          ∧ (x.step selectNthUnstableBy op).controller.active = some barrier
          ∧ barrier.targetTick = targetTick ∧ barrier.state = .waitingTickBoundary
          ∧ ∀ stationId, (x.step selectNthUnstableBy op).controller.Covers stationId
              ↔ stationId ∈ x.stations.stationIdsInScope scope)
      ∨ ∃ barrier, op = .poll ∧ x.controller.active = some barrier
          ∧ (x.step selectNthUnstableBy op).controller.active = some barrier.freeze
          ∧ (x.step selectNthUnstableBy op).controller.phases.keys = x.controller.phases.keys
          ∧ Reached x.stations barrier.targetTick x.controller.phases.sortedKeys := by
  cases op with
  | advanceTick id => exact .inl ⟨rfl, rfl⟩
  | advanceAll => exact .inl ⟨rfl, rfl⟩
  | advanceLoaded samples config => exact .inl ⟨rfl, rfl⟩
  | request id scope targetTick commandMode =>
      rcases request_spec x.controller x.stations id scope targetTick commandMode with
        hsame | ⟨hnone, barrier, hactive, htarget, hstate, hcovers⟩
      · refine .inl ?_
        rw [step, hsame]
        exact ⟨rfl, rfl⟩
      · exact .inr (.inr (.inl ⟨id, scope, targetTick, commandMode, barrier, rfl, hnone, hactive,
          htarget, hstate, hcovers⟩))
  | poll =>
      obtain ⟨hkeys, hsame | ⟨barrier, hactive, hfreeze, hreached⟩⟩ :=
        poll_spec x.controller x.stations
      · exact .inl ⟨hkeys, hsame⟩
      · exact .inr (.inr (.inr ⟨barrier, rfl, hactive, hfreeze, hkeys, hreached⟩))
  | resume =>
      rcases resume_spec x.controller with hsame | hnone
      · refine .inl ?_
        rw [step, hsame]
        exact ⟨rfl, rfl⟩
      · exact .inr (.inl hnone)

variable {selectNthUnstableBy}

/-- A frozen barrier stays so: a station that has reached the target never goes back. -/
lemma Frozen.step (h : Frozen x) (op : BarrierStep) : Frozen (x.step selectNthUnstableBy op) := by
  obtain ⟨hvalid, hget⟩ := get_step selectNthUnstableBy h.valid op
  refine ⟨hvalid, ?_⟩
  intro barrier hactive hfrozen id hid
  have hlater : ∀ s, x.stations.get id = some s → barrier.targetTick ≤ s.tick →
      ∃ s', (x.step selectNthUnstableBy op).stations.get id = some s'
        ∧ barrier.targetTick ≤ s'.tick := by
    intro s hs hle
    refine ⟨_, by rw [hget, hs]; rfl, ?_⟩
    rw [TypedId.le_iff_get_le, UInt64.le_iff_toNat_le] at hle ⊢
    rw [Station.toNat_tick_iterate]
    have := s.tick.get.toNat_lt_size
    omega
  rcases controller_step selectNthUnstableBy x op with
    ⟨hkeys, hsame⟩ | hnone | ⟨_, _, _, _, barrier', -, -, hactive', -, hstate, -⟩ |
    ⟨barrier', -, hactive₀, hactive', hkeys, hreached⟩
  · rw [Covers, hkeys] at hid
    obtain ⟨s, hs, hle⟩ := h.reached barrier (hsame ▸ hactive) hfrozen id hid
    exact hlater s hs hle
  · simp [hnone] at hactive
  · rw [hactive', Option.some.injEq] at hactive
    rw [← hactive, hstate] at hfrozen
    simp at hfrozen
  · rw [hactive', Option.some.injEq] at hactive
    rw [Covers, hkeys] at hid
    obtain ⟨s, hs, hle⟩ := hreached id (covers_iff.mp hid)
    exact hlater s hs (hactive ▸ hle)

/-- A cautious step keeps the covered stations from passing the target. -/
lemma Behind.step {op : BarrierStep} (h : Behind x) (hok : Cautious selectNthUnstableBy x op) :
    Behind (x.step selectNthUnstableBy op) := by
  obtain ⟨hvalid, hget⟩ := get_step selectNthUnstableBy h.valid op
  refine ⟨hvalid, ?_⟩
  intro barrier hactive id hid s' hs'
  obtain ⟨s, hs, rfl⟩ := Option.map_eq_some_iff.mp ((hget id).symm.trans hs')
  -- the station was covered before: the step is counted against the target
  have hcounted : ∀ barrier', x.controller.active = some barrier' →
      barrier'.targetTick = barrier.targetTick → x.controller.Covers id →
      Station.tick (Station.advanceTick^[ticksOf selectNthUnstableBy x op id] s)
        ≤ barrier.targetTick := by
    intro barrier' hactive' htarget hcovers
    have hle := hok.1 barrier' hactive' id hcovers s hs
    rw [htarget] at hle
    rw [TypedId.le_iff_get_le, UInt64.le_iff_toNat_le, Station.toNat_tick_iterate]
    omega
  rcases controller_step selectNthUnstableBy x op with
    ⟨hkeys, hsame⟩ | hnone | ⟨_, scope, _, _, barrier', rfl, hnone, hactive', rfl, -, hcovers⟩ |
    ⟨barrier', rfl, hactive₀, hactive', hkeys, -⟩
  · rw [Covers, hkeys] at hid
    exact hcounted barrier (hsame ▸ hactive) rfl hid
  · simp [hnone] at hactive
  · rw [hactive', Option.some.injEq] at hactive
    exact hactive ▸ hok.2 hnone id ((hcovers id).mp hid) s hs
  · rw [hactive', Option.some.injEq] at hactive
    rw [Covers, hkeys] at hid
    exact hcounted barrier' hactive₀ (hactive ▸ rfl) hid

/-! ## Whole runs -/

/-- **Barrier alignment.**  In every run, when a poll reports a frozen barrier, the covered stations
are at its target exactly when none of them is past it; they are when all steps were cautious. -/
theorem barrier_alignment
    (selectNthUnstableBy : ReplicationPlanner.SelectNthUnstableBy StationScheduleCandidate)
    {stations : StationSet F} (hset : stations.Valid) (ops : List BarrierStep)
    {progress : BarrierProgress}
    (hpoll : ((execute (step selectNthUnstableBy) (start stations) ops).controller.poll
      (execute (step selectNthUnstableBy) (start stations) ops).stations).1 = .ok progress)
    (hfrozen : progress.state = .frozen) :
    ((execute (step selectNthUnstableBy) (start stations) ops).AlignedAt progress.targetTick
        ↔ (execute (step selectNthUnstableBy) (start stations) ops).NonePast progress.targetTick)
      ∧ (AllSteps (step selectNthUnstableBy) (Cautious selectNthUnstableBy) (start stations) ops →
        (execute (step selectNthUnstableBy) (start stations) ops).AlignedAt
          progress.targetTick) := by
  have hreached : Frozen (execute (step selectNthUnstableBy) (start stations) ops) :=
    execute_preserves (fun _ op h => h.step op) (frozen_start hset) ops
  have hbehind : AllSteps (step selectNthUnstableBy) (Cautious selectNthUnstableBy)
      (start stations) ops → Behind (execute (step selectNthUnstableBy) (start stations) ops) :=
    execute_invariant (fun _ _ h hok => h.step hok) (behind_start hset)
  generalize execute (step selectNthUnstableBy) (start stations) ops = x at *
  have hafter : Frozen (x.step selectNthUnstableBy .poll) := hreached.step .poll
  have hprogress : progress = (x.step selectNthUnstableBy .poll).controller.progress :=
    progress_of_poll hpoll
  have hcovers : ∀ id, (x.step selectNthUnstableBy .poll).controller.Covers id
      ↔ x.controller.Covers id := by
    intro id
    rw [Covers, Covers, ← (poll_spec x.controller x.stations).1]
    exact Iff.rfl
  cases hactive : (x.step selectNthUnstableBy .poll).controller.active with
  | none =>
      rw [hprogress, BarrierController.progress, hactive] at hfrozen
      simp at hfrozen
  | some barrier =>
      have htarget : progress.targetTick = barrier.targetTick := by
        simp [hprogress, BarrierController.progress, hactive]
      have hstate : barrier.state = .frozen := by
        simpa [hprogress, BarrierController.progress, hactive] using hfrozen
      have hiff : x.AlignedAt progress.targetTick ↔ x.NonePast progress.targetTick := by
        rw [htarget]
        constructor
        · intro haligned id hid s hs
          obtain ⟨s', hs', htick⟩ := haligned id hid
          rw [hs, Option.some.injEq] at hs'
          rw [hs', htick]
        · intro hnone id hid
          obtain ⟨s, hs, hle⟩ := hafter.reached barrier hactive hstate id ((hcovers id).mpr hid)
          exact ⟨s, hs, le_antisymm (hnone id hid s hs) hle⟩
      refine ⟨hiff, fun hcautious => hiff.mpr ?_⟩
      have hx := hbehind hcautious
      have hpollCautious : Cautious selectNthUnstableBy x .poll := by
        refine ⟨fun barrier' hactive' id hid s hs => ?_, trivial⟩
        exact UInt64.le_iff_toNat_le.mp (hx.nonePast barrier' hactive' id hid s hs)
      intro id hid s hs
      rw [htarget]
      exact (hx.step hpollCautious).nonePast barrier hactive id ((hcovers id).mpr hid) s hs

/-! ### Two stations and one target -/

section TwoStations

/-- Two stations of one world instance, at tick zero. -/
def twoInInstance : StationSet ℕ :=
  (StationSet.new.push (.new (configWithStation 1))).push (.new (configWithStation 2))

lemma valid_twoInInstance : twoInInstance.Valid :=
  (StationSet.valid_new.push (Station.storeInv_new _)).push (Station.storeInv_new _)

/-- A barrier at tick one over both stations, which then advance together once. -/
def alignedSteps : List BarrierStep :=
  [.request ⟨8⟩ (.instanceScope ⟨7⟩) ⟨1⟩ .buffer, .poll, .advanceAll]

/-- The next poll freezes both stations at tick one. -/
theorem barrier_alignment_two :
    (execute (step fun _ _ values => values) (start twoInInstance) alignedSteps).AlignedAt ⟨1⟩ := by
  have hpoll : ((execute (step fun _ _ values => values) (start twoInInstance)
      alignedSteps).controller.poll (execute (step fun _ _ values => values) (start twoInInstance)
        alignedSteps).stations).1 = .ok ⟨.frozen, 2, 2, ⟨1⟩⟩ := by decide +kernel
  exact (barrier_alignment _ valid_twoInInstance alignedSteps hpoll rfl).1.mpr (by decide +kernel)

/-- The same barrier after the first station has advanced twice and the second once. -/
def unalignedSteps : List BarrierStep :=
  [.request ⟨8⟩ (.instanceScope ⟨7⟩) ⟨1⟩ .buffer, .advanceTick ⟨1⟩, .advanceTick ⟨1⟩,
    .advanceTick ⟨2⟩]

/-- The next poll freezes the first station at tick two and the second at tick one. -/
theorem barrier_not_aligned :
    ((execute (step fun _ _ values => values) (start twoInInstance) unalignedSteps).controller.poll
        (execute (step fun _ _ values => values) (start twoInInstance) unalignedSteps).stations).1
      = .ok ⟨.frozen, 2, 2, ⟨1⟩⟩
    ∧ ¬ (execute (step fun _ _ values => values) (start twoInInstance) unalignedSteps).AlignedAt
      ⟨1⟩ :=
  ⟨by decide +kernel, by decide +kernel⟩

end TwoStations

end BarrierRun

end SectorSync
