import Mathlib.Data.List.TakeWhile
import SectorSync.Base.FairRounds
import SectorSync.Base.Run
import SectorSync.Runtime.EventDrains
import SectorSync.Runtime.Prioritization

/-!
# The station executor

`StationExecutor` of the product facade advances the ticks of loaded stations and drains the events
that are due.  `MaintenanceRun` is a world of stations whose events go through the router, driven by
the executor, together with what was routed, drained, handed over and discarded.

`stations_eq_iterate`: a pass serves a station when fewer stations than the limit come before it, by
load, lag and id, and a run advances every station by the number of passes that served it.
`drains_hand_over_iff`: a drain that fails drops what it took, and nothing else is lost.
`maintenance_keeps_up`: as long as the stations are equally loaded no station falls behind its share
of the advances, and events are handed over once the share has reached their tick.
-/

namespace SectorSync

open Machine Selection ReplicationPlanner

variable {F : Type}

/-- Caller-driven station scheduling and event maintenance. -/
structure StationExecutor where
  scheduler : StationScheduler
  config : StationScheduleConfig
  /-- The events of the last drain. -/
  events : List StationEvent

namespace StationExecutor

variable (selectNthUnstableBy : SelectNthUnstableBy StationScheduleCandidate)

def new (config : StationScheduleConfig) : StationExecutor := ⟨⟨0⟩, config, []⟩

/-- Advances the deterministic bounded set selected from current load. -/
def advanceLoaded (executor : StationExecutor) (stations : StationSet F)
    (samples : List StationLoadSample) : StationScheduleView × StationExecutor × StationSet F :=
  let (view, scheduler, stations) := StationScheduler.advanceLoadedInto selectNthUnstableBy
    executor.scheduler stations samples executor.config
  (view, { executor with scheduler := scheduler }, stations)

/-- Drains ready events in station order into retained output. -/
def drainReadyEvents (executor : StationExecutor) (stations : StationSet F) (router : EventRouter) :
    Except EventRouterError (List StationEvent) × StationExecutor × EventRouter :=
  let (result, router, events) :=
    executor.scheduler.drainReadyEventsInto stations router executor.events
  (result.map fun _ => events, { executor with events := events }, router)

end StationExecutor

/-! ## Runs -/

/-- Stations, their event router and the executor, with what they did. -/
structure MaintenanceRun (F : Type) where
  executor : StationExecutor
  stations : StationSet F
  router : EventRouter
  /-- The events that the router accepted. -/
  routed : List StationEvent
  /-- The events that drains took from their queues. -/
  drained : List StationEvent
  /-- The events that drains returned. -/
  handed : List StationEvent
  /-- The events that were queued for a station when it was unregistered. -/
  discarded : List StationEvent
  passes : ℕ

inductive MaintenanceOp where
  | registerStation (id : StationId)
  | unregisterStation (id : StationId)
  | route (event : StationEvent)
  | advanceLoaded (samples : List StationLoadSample)
  | drainReadyEvents

namespace MaintenanceRun

/-- A world whose stations are registered. -/
def start (config : StationScheduleConfig) (limits : EventQueueLimits) (set : StationSet F) :
    MaintenanceRun F :=
  ⟨.new config, set, (EventRouter.new limits).registerStations set, [], [], [], [], 0⟩

variable (selectNthUnstableBy : SelectNthUnstableBy StationScheduleCandidate)

def step (run : MaintenanceRun F) : MaintenanceOp → MaintenanceRun F
  | .registerStation id => { run with router := run.router.registerStation id }
  | .unregisterStation id =>
      { run with
        router := (run.router.unregisterStation id).2
        discarded := run.discarded ++ run.router.heldBy id }
  | .route event =>
      match run.router.route event with
      | (.ok _, router) => { run with router := router, routed := run.routed ++ [event] }
      | (.error _, router) => { run with router := router }
  | .advanceLoaded samples =>
      let (_, executor, stations) :=
        run.executor.advanceLoaded selectNthUnstableBy run.stations samples
      { run with executor := executor, stations := stations, passes := run.passes + 1 }
  | .drainReadyEvents =>
      let (result, executor, router) := run.executor.drainReadyEvents run.stations run.router
      { run with
        executor := executor
        router := router
        drained := run.drained ++ executor.events
        handed := run.handed ++ result.toOption.getD [] }

/-- The place of a station among all, by load, lag and id. -/
def place (stations : List (Station F)) (samples : List StationLoadSample) (station : Station F) :
    ℕ :=
  rank compareStationScheduleCandidates
    (stations.map (StationScheduler.rankedStation stations samples))
    (StationScheduler.rankedStation stations samples station)

/-- Whether a pass serves a station: fewer stations than the limit come before it. -/
def serves (run : MaintenanceRun F) (id : StationId) : MaintenanceOp → Bool
  | .advanceLoaded samples => run.stations.stations.any fun station =>
      decide (station.id = id) && decide
        (place run.stations.stations samples station
          < run.executor.config.maxStationAdvancesPerStep)
  | _ => false

/-- The number of passes of a run that serve a station. -/
def servings (id : StationId) : MaintenanceRun F → List MaintenanceOp → ℕ
  | _, [] => 0
  | run, op :: ops =>
      (if run.serves id op then 1 else 0) + servings id (run.step selectNthUnstableBy op) ops

end MaintenanceRun

/-! ## One pass -/

namespace StationScheduler

/-- Advancing candidates keeps the index and the ids. -/
lemma coherent_foldl_advanceCandidate (candidates : List StationScheduleCandidate)
    (state : StationScheduler × StationSet F) (hset : state.2.Coherent)
    (hdistinct : (state.2.stations.map Station.id).Nodup) :
    (candidates.foldl advanceCandidate state).2.Coherent := by
  induction candidates generalizing state with
  | nil => exact hset
  | cons candidate candidates ih =>
      obtain ⟨hcoherent, hstations⟩ := hset.advanceTick hdistinct candidate.stationId
      rw [← advanceCandidate_snd] at hcoherent hstations
      refine ih _ hcoherent ?_
      rw [hstations, StationSet.map_id_advance]
      exact hdistinct

variable {stations : List (Station F)} {samples : List StationLoadSample}

lemma nodup_map_rankedStation (hdistinct : (stations.map Station.id).Nodup) :
    ((stations.map (rankedStation stations samples)).map (·.stationId)).Nodup := by
  rw [List.map_map]
  exact hdistinct

/-- A station is among the first by its id when it is by its candidate. -/
lemma mem_map_take_iff (hdistinct : (stations.map Station.id).Nodup) {station : Station F}
    (hmem : station ∈ stations) (k : ℕ) :
    station.id ∈ ((rankedStations stations samples).take k).map (·.stationId)
      ↔ rankedStation stations samples station ∈ (rankedStations stations samples).take k := by
  constructor
  · intro hid
    obtain ⟨candidate, hselected, hsame⟩ := List.mem_map.mp hid
    have hall : candidate ∈ stations.map (rankedStation stations samples) :=
      (List.mem_insertionSort _).mp ((List.take_sublist _ _).subset hselected)
    have hself := List.inj_on_of_nodup_map (nodup_map_rankedStation hdistinct) hall
      (List.mem_map_of_mem hmem) hsame
    exact hself ▸ hselected
  · intro hselected
    exact List.mem_map_of_mem hselected

lemma length_rankedStations :
    (rankedStations stations samples).length = stations.length := by
  simp [rankedStations, sortBy]

/-- The first candidates are those of stations. -/
lemma map_take_subset (k : ℕ) :
    ((rankedStations stations samples).take k).map (·.stationId) ⊆ stations.map Station.id := by
  intro id hid
  refine (map_stationId_rankedStations stations samples).subset ?_
  exact ((List.take_sublist _ _).map _).subset hid

/-- The first candidates are of different stations. -/
lemma nodup_map_take (hdistinct : (stations.map Station.id).Nodup) (k : ℕ) :
    (((rankedStations stations samples).take k).map (·.stationId)).Nodup := by
  refine List.Nodup.sublist ((List.take_sublist _ _).map _) ?_
  exact (map_stationId_rankedStations stations samples).nodup_iff.mpr hdistinct

/-- **Selected by place.** -/
lemma mem_advanced_iff (hdistinct : (stations.map Station.id).Nodup) {station : Station F}
    (hmem : station ∈ stations) (limit : ℕ) :
    station.id ∈ ((rankedStations stations samples).take (min limit stations.length)).map
        (·.stationId)
      ↔ MaintenanceRun.place stations samples station < limit := by
  have := transCmp_compareStationScheduleCandidates
  have hkeys : ((stations.map (rankedStation stations samples)).map (·.stationId)).Nodup :=
    nodup_map_rankedStation hdistinct
  have hcandidate : rankedStation stations samples station
      ∈ stations.map (rankedStation stations samples) := List.mem_map_of_mem hmem
  have htake : ∀ k, rankedStation stations samples station
        ∈ (rankedStations stations samples).take k
      ↔ MaintenanceRun.place stations samples station < k := fun k =>
    mem_take_sort_iff (eq_of_cmp_eq stationId_eq_of_compare hkeys) hkeys.of_map hcandidate
  have hplace : MaintenanceRun.place stations samples station < stations.length := by
    refine (htake _).mp ?_
    rw [List.take_of_length_le length_rankedStations.le]
    exact (List.mem_insertionSort _).mpr hcandidate
  rw [mem_map_take_iff hdistinct hmem, htake]
  omega

lemma le_mostAdvancedTick {station : Station F} (hmem : station ∈ stations) :
    station.tick.get ≤ mostAdvancedTick stations := by
  have hfold : ∀ (ticks : List UInt64) (start : UInt64), start ≤ ticks.foldl max start
      ∧ ∀ tick ∈ ticks, tick ≤ ticks.foldl max start := by
    intro ticks
    induction ticks with
    | nil => exact fun start => ⟨le_rfl, fun tick h => absurd h List.not_mem_nil⟩
    | cons tick ticks ih =>
        intro start
        obtain ⟨hstart, hticks⟩ := ih (max start tick)
        refine ⟨(le_max_left _ _).trans hstart, fun other hother => ?_⟩
        rcases List.mem_cons.mp hother with rfl | hlater
        · exact (le_max_right _ _).trans hstart
        · exact hticks other hlater
  exact (hfold _ 0).2 _ (List.mem_map_of_mem hmem)

/-- Of equally loaded stations the one ahead comes later. -/
lemma tick_le_of_isLE {s s' : Station F} (hmem : s ∈ stations)
    (hload : latestLoadScore samples s.id = latestLoadScore samples s'.id)
    (hle : (compareStationScheduleCandidates (rankedStation stations samples s)
      (rankedStation stations samples s')).isLE = true) :
    s.tick.get ≤ s'.tick.get := by
  by_contra hlt
  have hloads : compare (rankedStation stations samples s').loadScore
      (rankedStation stations samples s).loadScore = .eq := compare_eq_iff_eq.mpr hload.symm
  have hlag : compare (rankedStation stations samples s').tickLag
      (rankedStation stations samples s).tickLag = .gt := by
    have hmax := le_mostAdvancedTick hmem
    rw [UInt64.le_iff_toNat_le] at hmax hlt
    rw [compare_gt_iff_gt, UInt64.lt_iff_toNat_lt]
    simp only [rankedStation, UInt64.toNat_saturatingSub]
    omega
  rw [compareStationScheduleCandidates, hloads, hlag] at hle
  cases hle

lemma toNat_countAdvance_iterate (n : ℕ) (scheduler : StationScheduler) :
    (countAdvance^[n] scheduler).advancedTicks.toNat
      = min (scheduler.advancedTicks.toNat + n) (UInt64.size - 1) := by
  induction n generalizing scheduler with
  | zero =>
      have := scheduler.advancedTicks.toNat_lt_size
      simp only [Function.iterate_zero, id_eq]
      omega
  | succ n ih =>
      rw [Function.iterate_succ_apply, ih, countAdvance, UInt64.toNat_saturatingAdd]
      have hone : (1 : UInt64).toNat = 1 := rfl
      omega

end StationScheduler

/-! ## What every step keeps -/

namespace EventRouter

lemma Routes.registerStations {router : EventRouter} {routed drained discarded : List StationEvent}
    (h : router.Routes routed drained discarded) (set : StationSet F) :
    (router.registerStations set).Routes routed drained discarded := by
  rw [EventRouter.registerStations]
  generalize set.stations = stations
  induction stations generalizing router with
  | nil => exact h
  | cons station stations ih => exact ih (h.registerStation station.id)

lemma mem_registerStation {router : EventRouter} {id id' : StationId} :
    id' ∈ (router.registerStation id).queues ↔ id' = id ∨ id' ∈ router.queues := by
  rw [registerStation, Finmap.orInsert]
  split_ifs with hmem
  · rw [iff_or_self]
    rintro rfl
    exact hmem
  · exact Finmap.mem_insert

lemma mem_registerStations {router : EventRouter} {set : StationSet F} {station : Station F}
    (hmem : station ∈ set.stations) : station.id ∈ (router.registerStations set).queues := by
  rw [registerStations]
  generalize set.stations = stations at hmem
  have hkeep : ∀ (stations : List (Station F)) (router : EventRouter) (id : StationId),
      id ∈ router.queues → id ∈ (stations.foldl (fun router station =>
        router.registerStation station.id) router).queues := by
    intro stations
    induction stations with
    | nil => exact fun _ _ h => h
    | cons other stations ih => exact fun router id h => ih _ id (mem_registerStation.mpr (.inr h))
  induction stations generalizing router with
  | nil => exact absurd hmem List.not_mem_nil
  | cons other stations ih =>
      rcases List.mem_cons.mp hmem with rfl | hlater
      · exact hkeep stations _ _ (mem_registerStation.mpr (.inl rfl))
      · exact ih hlater

lemma mem_queues_route (router : EventRouter) (event : StationEvent) (id : StationId) :
    id ∈ (router.route event).2.queues ↔ id ∈ router.queues := by
  rcases router.route_cases event with
    ⟨error, r, hr, hsame⟩ | ⟨_, queue, queue', stats, hqueue, -, hok⟩
  · rw [hr, Finmap.mem_iff, Finmap.mem_iff, hsame]
  · rw [hok, Finmap.mem_insert, or_iff_right_iff_imp]
    rintro rfl
    exact Finmap.mem_iff.mpr ⟨queue, hqueue⟩

end EventRouter

namespace MaintenanceRun

/-- What every run keeps of its start. -/
structure Kept (config : StationScheduleConfig) (set : StationSet F) (run : MaintenanceRun F) :
    Prop where
  config_eq : run.executor.config = config
  coherent : run.stations.Coherent
  ids : run.stations.stations.map Station.id = set.stations.map Station.id
  advanced : run.executor.scheduler.advancedTicks.toNat
    = min (run.passes * min config.maxStationAdvancesPerStep set.stations.length) (UInt64.size - 1)
  routes : run.router.Routes run.routed run.drained run.discarded
  /-- Nothing is drained before its tick. -/
  due : ∀ event ∈ run.drained, ∃ station ∈ run.stations.stations,
    station.id = event.target ∧ event.targetTick ≤ station.tick

section Steps

variable {selectNthUnstableBy : SelectNthUnstableBy StationScheduleCandidate}
  {config : StationScheduleConfig} {limits : EventQueueLimits} {set : StationSet F}
  {run : MaintenanceRun F}

lemma kept_start (config : StationScheduleConfig) (limits : EventQueueLimits)
    (hset : set.Coherent) : Kept config set (start config limits set) where
  config_eq := rfl
  coherent := hset
  ids := rfl
  advanced := by simp [start, StationExecutor.new]
  routes := (EventRouter.routes_new limits).registerStations set
  due := by simp [start]

lemma Kept.length_eq (h : Kept config set run) :
    run.stations.stations.length = set.stations.length := by
  have hids := congrArg List.length h.ids
  rwa [List.length_map, List.length_map] at hids

lemma Kept.distinct (h : Kept config set run) (hdistinct : (set.stations.map Station.id).Nodup) :
    (run.stations.stations.map Station.id).Nodup := by
  rw [h.ids]
  exact hdistinct

/-- A pass serves a station of the set when its place is below the limit. -/
lemma serves_iff (hdistinct : (run.stations.stations.map Station.id).Nodup) {station : Station F}
    (hmem : station ∈ run.stations.stations) (samples : List StationLoadSample) :
    run.serves station.id (.advanceLoaded samples) = true
      ↔ place run.stations.stations samples station
        < run.executor.config.maxStationAdvancesPerStep := by
  simp only [serves, List.any_eq_true, Bool.and_eq_true, decide_eq_true_eq]
  constructor
  · rintro ⟨other, hother, hid, hplace⟩
    rwa [List.inj_on_of_nodup_map hdistinct hother hmem hid] at hplace
  · intro hplace
    exact ⟨station, hmem, rfl, hplace⟩

/-- **Pass step.**  The stations that the pass serves advance, the others stay. -/
lemma stations_step_advanceLoaded (hselect : SelectsNth selectNthUnstableBy)
    (hset : run.stations.Coherent) (hdistinct : (run.stations.stations.map Station.id).Nodup)
    (samples : List StationLoadSample) :
    (run.step selectNthUnstableBy (.advanceLoaded samples)).stations.stations
      = run.stations.stations.map fun station =>
        if run.serves station.id (.advanceLoaded samples) then station.advanceTick
        else station := by
  obtain ⟨-, -, hstations, -⟩ := StationScheduler.advanceLoadedInto_spec hselect
    run.executor.scheduler hset hdistinct samples run.executor.config
  rw [step, StationExecutor.advanceLoaded]
  refine hstations.trans (List.map_congr_left fun station hmem => ?_)
  refine if_congr ?_ rfl rfl
  rw [StationScheduler.mem_advanced_iff hdistinct hmem, serves_iff hdistinct hmem]

/-- An operation other than a pass leaves the stations alone. -/
lemma stations_step (op : MaintenanceOp) (hop : ∀ samples, op ≠ .advanceLoaded samples) :
    (run.step selectNthUnstableBy op).stations = run.stations := by
  cases op with
  | registerStation id => rfl
  | unregisterStation id => rfl
  | route event =>
      rw [step]
      split <;> rfl
  | advanceLoaded samples => exact absurd rfl (hop samples)
  | drainReadyEvents => rfl

/-- **Stations step.** -/
lemma stations_step_eq (hselect : SelectsNth selectNthUnstableBy)
    (hset : run.stations.Coherent) (hdistinct : (run.stations.stations.map Station.id).Nodup)
    (op : MaintenanceOp) :
    (run.step selectNthUnstableBy op).stations.stations
      = run.stations.stations.map fun station =>
        if run.serves station.id op then station.advanceTick else station := by
  by_cases hop : ∃ samples, op = .advanceLoaded samples
  · obtain ⟨samples, rfl⟩ := hop
    exact stations_step_advanceLoaded hselect hset hdistinct samples
  · have hother : ∀ samples, op ≠ .advanceLoaded samples := fun samples h => hop ⟨samples, h⟩
    have hidle : ∀ id, run.serves id op = false := by
      intro id
      cases op with
      | advanceLoaded samples => exact absurd rfl (hother samples)
      | _ => rfl
    rw [stations_step op hother]
    simp [hidle]

lemma Kept.advanceLoaded (h : Kept config set run) (hselect : SelectsNth selectNthUnstableBy)
    (hdistinct : (set.stations.map Station.id).Nodup) (samples : List StationLoadSample) :
    Kept config set (run.step selectNthUnstableBy (.advanceLoaded samples)) := by
  have hdistinct := h.distinct hdistinct
  have hstations := stations_step_advanceLoaded hselect h.coherent hdistinct samples
  have hspec := StationScheduler.advanceLoadedInto_spec hselect run.executor.scheduler h.coherent
    hdistinct samples run.executor.config
  refine ⟨h.config_eq, ?_, ?_, ?_, h.routes, fun event hevent => ?_⟩
  · exact StationScheduler.coherent_foldl_advanceCandidate _ _ h.coherent hdistinct
  · rw [hstations, StationSet.map_id_advance]
    exact h.ids
  · have hscheduler : (run.step selectNthUnstableBy (.advanceLoaded samples)).executor.scheduler
        = StationScheduler.countAdvance^[min config.maxStationAdvancesPerStep
            set.stations.length] run.executor.scheduler := by
      rw [← h.length_eq, ← h.config_eq]
      exact hspec.2.2.2
    have hpasses : (run.step selectNthUnstableBy (.advanceLoaded samples)).passes
        = run.passes + 1 := rfl
    rw [hscheduler, StationScheduler.toNat_countAdvance_iterate, h.advanced, hpasses,
      Nat.succ_mul]
    omega
  · obtain ⟨station, hmem, htarget, hdue⟩ := h.due event hevent
    rw [hstations]
    refine ⟨_, List.mem_map_of_mem hmem, ?_, ?_⟩
    · split_ifs
      · exact htarget
      · exact htarget
    · split_ifs
      · exact hdue.trans (UInt64.le_saturatingAdd _ _)
      · exact hdue

/-- What a drain of the executor takes and what it returns. -/
lemma step_drainReadyEvents
    (selectNthUnstableBy : SelectNthUnstableBy StationScheduleCandidate) (run : MaintenanceRun F) :
    let drain := StationScheduler.appendEach run.stations.stations run.router []
    let next := run.step selectNthUnstableBy .drainReadyEvents
    next.router = drain.2.1 ∧ next.drained = run.drained ++ drain.2.2
      ∧ next.handed = run.handed ++ if drain.1 = .ok () then drain.2.2 else [] := by
  simp only [step, StationExecutor.drainReadyEvents, StationScheduler.drainReadyEventsInto]
  rcases StationScheduler.appendEach run.stations.stations run.router [] with
    ⟨_ | _, router, events⟩
  · simp [Except.map, Except.toOption]
  · simp [Except.map, Except.toOption]

lemma Kept.drainReadyEvents (h : Kept config set run) :
    Kept config set (run.step selectNthUnstableBy .drainReadyEvents) := by
  obtain ⟨hrouter, hdrained, -⟩ := step_drainReadyEvents selectNthUnstableBy run
  obtain ⟨ready, hready, hroutes, hdue⟩ := h.routes.appendEach run.stations.stations []
  rw [List.nil_append] at hready
  refine ⟨h.config_eq, h.coherent, h.ids, h.advanced, ?_, fun event hevent => ?_⟩
  · rw [hrouter, hdrained, hready]
    exact hroutes
  · rw [hdrained, hready] at hevent
    rcases List.mem_append.mp hevent with hold | hnew
    · exact h.due event hold
    · exact hdue event hnew

/-- **Step.** -/
lemma Kept.step (h : Kept config set run) (hselect : SelectsNth selectNthUnstableBy)
    (hdistinct : (set.stations.map Station.id).Nodup) (op : MaintenanceOp) :
    Kept config set (run.step selectNthUnstableBy op) := by
  cases op with
  | registerStation id => exact { h with routes := h.routes.registerStation id }
  | unregisterStation id => exact { h with routes := h.routes.unregisterStation id }
  | route event =>
      rcases hroute : run.router.route event with ⟨error | outcome, router⟩
      · simp only [MaintenanceRun.step, hroute]
        exact { h with routes := h.routes.route_error hroute }
      · simp only [MaintenanceRun.step, hroute]
        exact { h with routes := h.routes.route hroute }
  | advanceLoaded samples => exact h.advanceLoaded hselect hdistinct samples
  | drainReadyEvents => exact h.drainReadyEvents

lemma Kept.execute (h : Kept config set run) (hselect : SelectsNth selectNthUnstableBy)
    (hdistinct : (set.stations.map Station.id).Nodup) (ops : List MaintenanceOp) :
    Kept config set (Machine.execute (MaintenanceRun.step selectNthUnstableBy) run ops) :=
  execute_preserves (fun _ op h => h.step hselect hdistinct op) h ops

/-! ## How often a station is served -/

/-- **Run.** -/
lemma Kept.stations_execute (h : Kept config set run) (hselect : SelectsNth selectNthUnstableBy)
    (hdistinct : (set.stations.map Station.id).Nodup) (ops : List MaintenanceOp) :
    (Machine.execute (MaintenanceRun.step selectNthUnstableBy) run ops).stations.stations
      = run.stations.stations.map fun station =>
        Station.advanceTick^[servings selectNthUnstableBy station.id run ops] station := by
  induction ops generalizing run with
  | nil => simp [servings]
  | cons op ops ih =>
      rw [execute_cons, ih (h.step hselect hdistinct op),
        stations_step_eq hselect h.coherent (h.distinct hdistinct), List.map_map]
      refine List.map_congr_left fun station _ => ?_
      rw [Function.comp_apply, servings]
      split_ifs
      · have hid : station.advanceTick.id = station.id := rfl
        rw [hid, Nat.add_comm, Function.iterate_succ_apply]
      · rw [Nat.zero_add]

/-! ## What a drain hands over -/

/-- A drain knows all stations, or takes nothing before the first that it does not know. -/
def Lossless (run : MaintenanceRun F) (op : MaintenanceOp) : Prop :=
  op = .drainReadyEvents → (∀ station ∈ run.stations.stations, station.id ∈ run.router.queues)
    ∨ ∀ station ∈ run.router.drainable run.stations.stations, run.router.dueFor station = []

lemma handed_step_of_ne (selectNthUnstableBy : SelectNthUnstableBy StationScheduleCandidate)
    (run : MaintenanceRun F) {op : MaintenanceOp} (hop : op ≠ .drainReadyEvents) :
    (run.step selectNthUnstableBy op).handed = run.handed
      ∧ (run.step selectNthUnstableBy op).drained = run.drained := by
  cases op with
  | route event =>
      rw [step]
      split <;> exact ⟨rfl, rfl⟩
  | drainReadyEvents => exact absurd rfl hop
  | _ => exact ⟨rfl, rfl⟩

/-- **Drain step.**  A drain hands over what it takes when it is lossless, and only then. -/
lemma Kept.handed_step_iff (h : Kept config set run)
    (selectNthUnstableBy : SelectNthUnstableBy StationScheduleCandidate)
    (hdistinct : (set.stations.map Station.id).Nodup) (heq : run.handed = run.drained)
    (op : MaintenanceOp) :
    (run.step selectNthUnstableBy op).handed = (run.step selectNthUnstableBy op).drained
      ↔ run.Lossless op := by
  by_cases hop : op = .drainReadyEvents
  · subst hop
    obtain ⟨-, hdrained, hhanded⟩ := step_drainReadyEvents selectNthUnstableBy run
    obtain ⟨hevents, -, -, hresult⟩ := StationScheduler.appendEach_eq run.stations.stations
      run.router [] (h.distinct hdistinct)
    rw [hdrained, hhanded, heq, List.append_cancel_left_eq, Lossless, ← hresult, hevents,
      List.nil_append]
    split_ifs with hok
    · simp [hok]
    · simp only [hok, forall_const, false_or]
      rw [@eq_comm _ [], List.flatMap_eq_nil_iff]
  · obtain ⟨hhanded, hdrained⟩ := handed_step_of_ne selectNthUnstableBy run hop
    rw [hhanded, hdrained]
    exact iff_of_true heq fun h => absurd h hop

/-- What is handed over was drained. -/
lemma handed_sublist_step (h : run.handed.Sublist run.drained) (op : MaintenanceOp) :
    (run.step selectNthUnstableBy op).handed.Sublist
      (run.step selectNthUnstableBy op).drained := by
  by_cases hop : op = .drainReadyEvents
  · subst hop
    obtain ⟨-, hdrained, hhanded⟩ := step_drainReadyEvents selectNthUnstableBy run
    rw [hdrained, hhanded]
    split_ifs
    · exact h.append_right _
    · rw [List.append_nil]
      exact h.trans (List.sublist_append_left _ _)
  · obtain ⟨hhanded, hdrained⟩ := handed_step_of_ne selectNthUnstableBy run hop
    rw [hhanded, hdrained]
    exact h

/-! ## Shares -/

/-- The tick of the station with an id. -/
def tickOf (stations : List (Station F)) (id : StationId) : ℕ :=
  (stations.find? fun station => station.id = id).elim 0 (·.tick.get.toNat)

/-- The sum of the ticks. -/
def totalTicks (stations : List (Station F)) : ℕ := (stations.map (·.tick.get.toNat)).sum

lemma tickOf_eq {stations : List (Station F)} (hdistinct : (stations.map Station.id).Nodup)
    {station : Station F} (hmem : station ∈ stations) :
    tickOf stations station.id = station.tick.get.toNat := by
  rw [tickOf]
  cases hfind : stations.find? fun other => other.id = station.id with
  | none => exact absurd (List.find?_eq_none.mp hfind station hmem) (by simp)
  | some other =>
      have hid : other.id = station.id := by simpa using List.find?_some hfind
      rw [List.inj_on_of_nodup_map hdistinct (List.mem_of_find?_eq_some hfind) hmem hid]
      rfl

lemma sum_tickOf {stations : List (Station F)} (hdistinct : (stations.map Station.id).Nodup) :
    ∑ id ∈ (stations.map Station.id).toFinset, tickOf stations id = totalTicks stations := by
  rw [List.sum_toFinset _ hdistinct, List.map_map, totalTicks]
  exact congrArg List.sum (List.map_congr_left fun station hmem => tickOf_eq hdistinct hmem)

/-- The stations stay registered, and at every pass they are equally loaded and none of them is at
the last tick. -/
def Balanced (run : MaintenanceRun F) : MaintenanceOp → Prop
  | .unregisterStation id => id ∉ run.stations.stations.map Station.id
  | .advanceLoaded samples =>
      (∀ s ∈ run.stations.stations, ∀ s' ∈ run.stations.stations,
        StationScheduler.latestLoadScore samples s.id
          = StationScheduler.latestLoadScore samples s'.id)
      ∧ ∀ s ∈ run.stations.stations, s.tick.get.toNat < UInt64.size - 1
  | _ => True

instance decidableBalanced (run : MaintenanceRun F) :
    ∀ op : MaintenanceOp, Decidable (run.Balanced op)
  | .registerStation _ => isTrue trivial
  | .unregisterStation id =>
      inferInstanceAs (Decidable (id ∉ run.stations.stations.map Station.id))
  | .route _ => isTrue trivial
  | .advanceLoaded samples => inferInstanceAs (Decidable
      ((∀ s ∈ run.stations.stations, ∀ s' ∈ run.stations.stations,
        StationScheduler.latestLoadScore samples s.id
          = StationScheduler.latestLoadScore samples s'.id)
      ∧ ∀ s ∈ run.stations.stations, s.tick.get.toNat < UInt64.size - 1))
  | .drainReadyEvents => isTrue trivial

/-- The tick of a station after a pass. -/
lemma tickOf_step_advanceLoaded (hselect : SelectsNth selectNthUnstableBy)
    (hset : run.stations.Coherent) (hdistinct : (run.stations.stations.map Station.id).Nodup)
    {station : Station F} (hmem : station ∈ run.stations.stations)
    (hroom : station.tick.get.toNat < UInt64.size - 1) (samples : List StationLoadSample) :
    tickOf (run.step selectNthUnstableBy (.advanceLoaded samples)).stations.stations station.id
      = station.tick.get.toNat
        + if run.serves station.id (.advanceLoaded samples) then 1 else 0 := by
  have hstations := stations_step_advanceLoaded hselect hset hdistinct samples
  have hids : ((run.step selectNthUnstableBy
      (.advanceLoaded samples)).stations.stations.map Station.id).Nodup := by
    rw [hstations, StationSet.map_id_advance]
    exact hdistinct
  have hafter : (if run.serves station.id (.advanceLoaded samples) then station.advanceTick
      else station) ∈ (run.step selectNthUnstableBy (.advanceLoaded samples)).stations.stations := by
    rw [hstations]
    exact List.mem_map.mpr ⟨station, hmem, rfl⟩
  split_ifs at hafter ⊢
  · refine (tickOf_eq hids hafter).trans ?_
    have hone : (1 : UInt64).toNat = 1 := rfl
    rw [Station.advanceTick, UInt64.toNat_saturatingAdd]
    omega
  · exact tickOf_eq hids hafter

/-- **Balanced pass.**  A pass over equally loaded stations is a round of the laggards. -/
lemma Kept.round (h : Kept config set run) (hselect : SelectsNth selectNthUnstableBy)
    (hdistinct : (set.stations.map Station.id).Nodup) {samples : List StationLoadSample}
    (hok : run.Balanced (.advanceLoaded samples)) :
    ∃ chosen : Finset StationId,
      chosen.card = min config.maxStationAdvancesPerStep set.stations.length
      ∧ FairRounds.Round (set.stations.map Station.id).toFinset chosen
        (tickOf run.stations.stations)
        (tickOf (run.step selectNthUnstableBy (.advanceLoaded samples)).stations.stations) := by
  obtain ⟨hload, hroom⟩ := hok
  have := transCmp_compareStationScheduleCandidates
  have hids := h.distinct hdistinct
  let limit := min config.maxStationAdvancesPerStep set.stations.length
  let advanced := (StationScheduler.rankedStations run.stations.stations samples).take limit
  have hmemids : ∀ id ∈ (set.stations.map Station.id).toFinset,
      ∃ station ∈ run.stations.stations, station.id = id := by
    intro id hid
    rw [List.mem_toFinset, ← h.ids] at hid
    exact List.mem_map.mp hid
  have hserved : ∀ station ∈ run.stations.stations,
      station.id ∈ (advanced.map (·.stationId)).toFinset
        ↔ run.serves station.id (.advanceLoaded samples) = true := by
    intro station hmem
    rw [List.mem_toFinset, serves_iff hids hmem, ← StationScheduler.mem_advanced_iff hids hmem,
      h.config_eq, h.length_eq]
  refine ⟨(advanced.map (·.stationId)).toFinset, ?_, ?_, ?_, ?_⟩
  · rw [List.toFinset_card_of_nodup (StationScheduler.nodup_map_take hids limit), List.length_map]
    refine (List.length_take ..).trans ?_
    rw [StationScheduler.length_rankedStations, h.length_eq]
    exact Nat.min_eq_left (Nat.min_le_right _ _)
  · intro id hid
    rw [List.mem_toFinset] at hid ⊢
    rw [← h.ids]
    exact StationScheduler.map_take_subset limit hid
  · intro id hid
    obtain ⟨station, hmem, rfl⟩ := hmemids id hid
    rw [tickOf_step_advanceLoaded hselect h.coherent hids hmem (hroom station hmem),
      tickOf_eq hids hmem]
    simp only [hserved station hmem]
  · intro id hid id' hid' hpassed
    rw [List.mem_toFinset] at hid hpassed
    obtain ⟨s', hs', rfl⟩ := hmemids id' hid'
    obtain ⟨s, hs, rfl⟩ := List.mem_map.mp (StationScheduler.map_take_subset limit hid)
    rw [tickOf_eq hids hs, tickOf_eq hids hs', ← UInt64.le_iff_toNat_le]
    exact StationScheduler.tick_le_of_isLE hs (hload s hs s' hs')
      (isLE_of_mem_take ((StationScheduler.mem_map_take_iff hids hs limit).mp hid)
        (List.mem_map_of_mem hs')
        (mt (StationScheduler.mem_map_take_iff hids hs' limit).mpr hpassed))

/-- What a balanced run keeps of its start. -/
structure KeepsUp (config : StationScheduleConfig) (set : StationSet F) (d : ℕ)
    (run : MaintenanceRun F) : Prop where
  kept : Kept config set run
  registered : ∀ id ∈ set.stations.map Station.id, id ∈ run.router.queues
  handed_eq : run.handed = run.drained
  foreign : ∀ event ∈ run.discarded, event.target ∉ set.stations.map Station.id
  spread : FairRounds.Spread (set.stations.map Station.id).toFinset d
    (totalTicks set.stations
      + run.passes * min config.maxStationAdvancesPerStep set.stations.length)
    (tickOf run.stations.stations)

variable {d : ℕ}

lemma keepsUp_start (config : StationScheduleConfig) (limits : EventQueueLimits)
    (hset : set.Coherent) (hdistinct : (set.stations.map Station.id).Nodup)
    (hspread : ∀ s ∈ set.stations, ∀ s' ∈ set.stations,
      s.tick.get.toNat ≤ s'.tick.get.toNat + d) :
    KeepsUp config set d (start config limits set) where
  kept := kept_start config limits hset
  registered id hid := by
    obtain ⟨station, hmem, rfl⟩ := List.mem_map.mp hid
    exact EventRouter.mem_registerStations hmem
  handed_eq := rfl
  foreign := by simp [start]
  spread := by
    refine ⟨fun id hid id' hid' => ?_, ?_⟩
    · obtain ⟨s, hs, rfl⟩ := List.mem_map.mp (List.mem_toFinset.mp hid)
      obtain ⟨s', hs', rfl⟩ := List.mem_map.mp (List.mem_toFinset.mp hid')
      refine (tickOf_eq hdistinct hs).trans_le ?_
      refine (hspread s hs s' hs').trans_eq ?_
      exact congrArg (· + d) (tickOf_eq hdistinct hs').symm
    · refine (sum_tickOf hdistinct).trans ?_
      simp [start]

lemma KeepsUp.registered_stations (h : KeepsUp config set d run) :
    ∀ station ∈ run.stations.stations, station.id ∈ run.router.queues := by
  intro station hmem
  refine h.registered station.id ?_
  rw [← h.kept.ids]
  exact List.mem_map_of_mem hmem

lemma KeepsUp.lossless (h : KeepsUp config set d run) (op : MaintenanceOp) : run.Lossless op :=
  fun _ => .inl h.registered_stations

/-- **Step.** -/
lemma KeepsUp.step (h : KeepsUp config set d run) (hd : 1 ≤ d)
    (hselect : SelectsNth selectNthUnstableBy) (hdistinct : (set.stations.map Station.id).Nodup)
    {op : MaintenanceOp} (hok : run.Balanced op) :
    KeepsUp config set d (run.step selectNthUnstableBy op) := by
  have hkept := h.kept.step hselect hdistinct op
  have hhanded := (h.kept.handed_step_iff selectNthUnstableBy hdistinct h.handed_eq op).mpr
    (h.lossless op)
  cases op with
  | registerStation id =>
      refine ⟨hkept, fun id' hid' => ?_, hhanded, h.foreign, h.spread⟩
      exact EventRouter.mem_registerStation.mpr (.inr (h.registered id' hid'))
  | unregisterStation id =>
      have hid : id ∉ set.stations.map Station.id := by
        rw [← h.kept.ids]
        exact hok
      refine ⟨hkept, fun id' hid' => ?_, hhanded, fun event hevent => ?_, h.spread⟩
      · refine Finmap.mem_erase.mpr ⟨?_, h.registered id' hid'⟩
        rintro rfl
        exact hid hid'
      · rcases List.mem_append.mp hevent with hold | hnew
        · exact h.foreign event hold
        · rw [h.kept.routes.target_of_mem_heldBy hnew]
          exact hid
  | route event =>
      have hqueues := run.router.mem_queues_route event
      rcases hroute : run.router.route event with ⟨error | outcome, router⟩
      · rw [hroute] at hqueues
        simp only [MaintenanceRun.step, hroute] at hkept hhanded ⊢
        exact ⟨hkept, fun id hid => (hqueues id).mpr (h.registered id hid), hhanded, h.foreign,
          h.spread⟩
      · rw [hroute] at hqueues
        simp only [MaintenanceRun.step, hroute] at hkept hhanded ⊢
        exact ⟨hkept, fun id hid => (hqueues id).mpr (h.registered id hid), hhanded, h.foreign,
          h.spread⟩
  | advanceLoaded samples =>
      obtain ⟨chosen, hcard, hround⟩ := h.kept.round hselect hdistinct hok
      refine ⟨hkept, h.registered, hhanded, h.foreign, ?_⟩
      have hnext := h.spread.round hd hround
      rw [hcard, Nat.add_assoc, ← Nat.succ_mul] at hnext
      exact hnext
  | drainReadyEvents =>
      obtain ⟨hrouter, -, -⟩ := step_drainReadyEvents selectNthUnstableBy run
      obtain ⟨-, -, hqueues, -⟩ := StationScheduler.appendEach_eq run.stations.stations run.router
        [] (h.kept.distinct hdistinct)
      refine ⟨hkept, fun id hid => ?_, hhanded, h.foreign, h.spread⟩
      rw [hrouter]
      exact (hqueues id).mpr (h.registered id hid)

/-- No station is behind its share. -/
lemma KeepsUp.share (h : KeepsUp config set d run)
    (hdistinct : (set.stations.map Station.id).Nodup) {station : Station F}
    (hmem : station ∈ run.stations.stations) :
    totalTicks set.stations
        + run.passes * min config.maxStationAdvancesPerStep set.stations.length
      ≤ set.stations.length * station.tick.get.toNat + (set.stations.length - 1) * d := by
  have hids : station.id ∈ (set.stations.map Station.id).toFinset := by
    rw [List.mem_toFinset, ← h.kept.ids]
    exact List.mem_map_of_mem hmem
  have hshare := h.spread.share hids
  rwa [List.toFinset_card_of_nodup hdistinct, List.length_map,
    tickOf_eq (h.kept.distinct hdistinct) hmem] at hshare

/-- What is due at the share of the stations is handed over by the next drain. -/
lemma KeepsUp.handed (h : KeepsUp config set d run) (hd : 1 ≤ d)
    (hselect : SelectsNth selectNthUnstableBy) (hdistinct : (set.stations.map Station.id).Nodup)
    {event : StationEvent} (hrouted : event ∈ run.routed) (hreliable : event.priority ≠ .bestEffort)
    (htarget : event.target ∈ set.stations.map Station.id)
    (hdue : set.stations.length * event.targetTick.get.toNat + (set.stations.length - 1) * d
      ≤ totalTicks set.stations
        + run.passes * min config.maxStationAdvancesPerStep set.stations.length) :
    event ∈ (run.step selectNthUnstableBy .drainReadyEvents).handed := by
  have hnext : KeepsUp config set d (run.step selectNthUnstableBy .drainReadyEvents) :=
    h.step hd hselect hdistinct trivial
  have hselected : event ∈ selectEvents event.target event.priority
      (run.step selectNthUnstableBy .drainReadyEvents).routed :=
    List.mem_filter.mpr ⟨hrouted, by simp⟩
  have hwhere := (hnext.kept.routes.kept event.target event.priority hreliable).mem_iff.mp hselected
  rw [List.mem_append, List.mem_append] at hwhere
  rcases hwhere with (hdrained | hheld) | hdiscarded
  · rw [hnext.handed_eq]
    exact (List.mem_filter.mp hdrained).1
  · -- an event that stays queued is not due, while its station has its share
    exfalso
    obtain ⟨hrouter, -, -⟩ := step_drainReadyEvents selectNthUnstableBy run
    obtain ⟨-, hleft, -, -⟩ := StationScheduler.appendEach_eq run.stations.stations run.router []
      (h.kept.distinct hdistinct)
    have hall : run.router.drainable run.stations.stations = run.stations.stations :=
      List.takeWhile_eq_self_iff.mpr fun station hmem =>
        decide_eq_true (h.registered_stations station hmem)
    rw [hrouter, hleft, hall] at hheld
    rw [← h.kept.ids] at htarget
    obtain ⟨station, hmem, hid⟩ := List.mem_map.mp htarget
    cases hfind : run.stations.stations.find? fun station => station.id = event.target with
    | none => exact List.find?_eq_none.mp hfind station hmem (by simpa using hid)
    | some found =>
        rw [hfind, Option.elim_some] at hheld
        have hshare := h.share hdistinct (List.mem_of_find?_eq_some hfind)
        have hlate : ¬ event.targetTick ≤ found.tick := by
          simpa using (List.mem_filter.mp hheld).2
        refine hlate (UInt64.le_iff_toNat_le.mpr ?_)
        have hpos : 0 < set.stations.length := by
          rw [← h.kept.length_eq]
          exact List.length_pos_of_mem hmem
        exact Nat.le_of_mul_le_mul_left (by omega) hpos
  · exact absurd htarget (hnext.foreign event (List.mem_filter.mp hdiscarded).1)

end Steps

/-! ## Results -/

variable {selectNthUnstableBy : SelectNthUnstableBy StationScheduleCandidate}

/-- **How often a station is served.**  In every run of the executor each station has advanced by as
many ticks as there were passes in which fewer stations than the limit came before it, by load, lag
and id, and nothing else of it has changed.  The scheduler counts all advances. -/
theorem stations_eq_iterate (hselect : SelectsNth selectNthUnstableBy)
    (config : StationScheduleConfig) (limits : EventQueueLimits) {set : StationSet F}
    (hset : set.Coherent) (hdistinct : (set.stations.map Station.id).Nodup)
    (ops : List MaintenanceOp) :
    let run := execute (step selectNthUnstableBy) (start config limits set) ops
    run.stations.stations = set.stations.map (fun station => Station.advanceTick^[
        servings selectNthUnstableBy station.id (start config limits set) ops] station)
      ∧ run.executor.scheduler.advancedTicks.toNat
        = min (run.passes * min config.maxStationAdvancesPerStep set.stations.length)
          (UInt64.size - 1) := by
  intro run
  have hstart := kept_start config limits hset
  exact ⟨hstart.stations_execute hselect hdistinct ops,
    (hstart.execute hselect hdistinct ops).advanced⟩

/-- An event for the station behind, at the tick of the station ahead. -/
def laggingEvent : StationEvent := ⟨⟨1⟩, ⟨1⟩, ⟨2⟩, ⟨0⟩, ⟨1⟩, .critical, .custom 0⟩

def twoPasses : List MaintenanceOp := [.route laggingEvent, .advanceLoaded [], .advanceLoaded []]

lemma coherent_laggingSet : laggingSet.Coherent := .inl (by decide +kernel)

lemma nodup_laggingSet : (laggingSet.stations.map Station.id).Nodup := by decide +kernel

/-- The first pass serves the station behind, the second one the lower id. -/
theorem stations_after_two_passes :
    (execute (step fullSort) (start ⟨1⟩ ⟨8, 8, 8⟩ laggingSet) twoPasses).stations.stations.map
      (·.tick.get) = [2, 1] := by
  rw [(stations_eq_iterate selectsNth_fullSort ⟨1⟩ ⟨8, 8, 8⟩ coherent_laggingSet
    nodup_laggingSet twoPasses).1]
  decide +kernel

/-- **What drains hand over.**  Stations are registered and unregistered, events routed and drained,
and stations advanced in any order.  What drains take keeps the order of the events of one tick,
loses no reliable event, and is never early; and all of it is handed over exactly when every drain
either knows all stations or finds nothing due before the first station that it does not know. -/
theorem drains_hand_over_iff (hselect : SelectsNth selectNthUnstableBy)
    (config : StationScheduleConfig) (limits : EventQueueLimits) {set : StationSet F}
    (hset : set.Coherent) (hdistinct : (set.stations.map Station.id).Nodup)
    (ops : List MaintenanceOp) :
    let run := execute (step selectNthUnstableBy) (start config limits set) ops
    (run.router.Routes run.routed run.drained run.discarded
      ∧ run.handed.Sublist run.drained
      ∧ ∀ event ∈ run.drained, ∃ station ∈ run.stations.stations,
        station.id = event.target ∧ event.targetTick ≤ station.tick)
    ∧ ((∀ pre, pre <+: ops →
        (execute (step selectNthUnstableBy) (start config limits set) pre).handed
          = (execute (step selectNthUnstableBy) (start config limits set) pre).drained)
      ↔ AllSteps (step selectNthUnstableBy) Lossless (start config limits set) ops) := by
  intro run
  have hstart := kept_start config limits hset
  have hrun := hstart.execute hselect hdistinct ops
  refine ⟨⟨hrun.routes, ?_, hrun.due⟩, ?_⟩
  · exact execute_preserves (I := fun run : MaintenanceRun F => run.handed.Sublist run.drained)
      (fun _ op h => handed_sublist_step h op) (List.Sublist.refl []) ops
  · refine forall_prefix_iff_allSteps (P := fun _ => True)
      (I := fun run => Kept config set run ∧ run.handed = run.drained)
      (C := fun run => run.handed = run.drained) (fun _ h => h.2) (fun run op h _ => ?_)
      ⟨hstart, rfl⟩ (fun _ _ => trivial)
    obtain ⟨hkept, heq⟩ := h
    have hiff := hkept.handed_step_iff selectNthUnstableBy hdistinct heq op
    exact ⟨fun hok => ⟨hkept.step hselect hdistinct op, hiff.mpr hok⟩, hiff.mp⟩

/-- The second station is unregistered while an event is due at the first. -/
def failingDrain : List MaintenanceOp :=
  [.route ⟨⟨1⟩, ⟨2⟩, ⟨1⟩, ⟨0⟩, ⟨1⟩, .critical, .custom 0⟩, .unregisterStation ⟨2⟩,
    .drainReadyEvents]

/-- The drain fails at the second station and drops the event. -/
theorem failing_drain_drops :
    ¬ ∀ pre, pre <+: failingDrain →
      (execute (step fullSort) (start ⟨1⟩ ⟨8, 8, 8⟩ laggingSet) pre).handed
        = (execute (step fullSort) (start ⟨1⟩ ⟨8, 8, 8⟩ laggingSet) pre).drained := by
  rw [(drains_hand_over_iff selectsNth_fullSort ⟨1⟩ ⟨8, 8, 8⟩ coherent_laggingSet
    nodup_laggingSet failingDrain).2]
  rintro ⟨-, -, hdrain, -⟩
  rcases hdrain rfl with hall | hnone
  · exact absurd hall (by decide +kernel)
  · exact absurd hnone (by decide +kernel)

/-- **Maintenance keeps up.**  Stations start with ticks that differ by at most `d`, they stay
registered, and they are equally loaded at every pass.  Then their ticks go on differing by at most
`d`, each has its share of all advances up to the spread, and a drain hands over every reliable
event for them as soon as the share has reached its tick. -/
theorem maintenance_keeps_up (hselect : SelectsNth selectNthUnstableBy)
    (config : StationScheduleConfig) (limits : EventQueueLimits) {set : StationSet F}
    (hset : set.Coherent) (hdistinct : (set.stations.map Station.id).Nodup) {d : ℕ} (hd : 1 ≤ d)
    (hspread : ∀ s ∈ set.stations, ∀ s' ∈ set.stations,
      s.tick.get.toNat ≤ s'.tick.get.toNat + d)
    {ops : List MaintenanceOp}
    (hok : AllSteps (step selectNthUnstableBy) Balanced (start config limits set) ops) :
    let run := execute (step selectNthUnstableBy) (start config limits set) ops
    let n := set.stations.length
    let ticks := totalTicks set.stations + run.passes * min config.maxStationAdvancesPerStep n
    (∀ s ∈ run.stations.stations, ∀ s' ∈ run.stations.stations,
        s.tick.get.toNat ≤ s'.tick.get.toNat + d)
      ∧ (∀ s ∈ run.stations.stations, ticks ≤ n * s.tick.get.toNat + (n - 1) * d)
      ∧ ∀ event ∈ run.routed, event.priority ≠ .bestEffort →
        event.target ∈ set.stations.map Station.id →
        n * event.targetTick.get.toNat + (n - 1) * d ≤ ticks →
        event ∈ (run.step selectNthUnstableBy .drainReadyEvents).handed := by
  intro run n ticks
  have hrun : KeepsUp config set d run :=
    execute_invariant (fun _ _ h hop => h.step hd hselect hdistinct hop)
      (keepsUp_start config limits hset hdistinct hspread) hok
  refine ⟨fun s hs s' hs' => ?_, fun s hs => hrun.share hdistinct hs, ?_⟩
  · have hids := hrun.kept.distinct hdistinct
    have hmem : ∀ s ∈ run.stations.stations,
        s.id ∈ (set.stations.map Station.id).toFinset := by
      intro s hs
      rw [List.mem_toFinset, ← hrun.kept.ids]
      exact List.mem_map_of_mem hs
    have hclose := hrun.spread.close s.id (hmem s hs) s'.id (hmem s' hs')
    rwa [tickOf_eq hids hs, tickOf_eq hids hs'] at hclose
  · intro event hrouted hreliable htarget hdue
    exact hrun.handed hd hselect hdistinct hrouted hreliable htarget hdue

/-- After two passes the event for the station behind is handed over. -/
theorem lagging_event_handed :
    laggingEvent ∈ ((execute (step fullSort) (start ⟨1⟩ ⟨8, 8, 8⟩ laggingSet) twoPasses).step
      fullSort .drainReadyEvents).handed :=
  (maintenance_keeps_up selectsNth_fullSort ⟨1⟩ ⟨8, 8, 8⟩ coherent_laggingSet nodup_laggingSet
    Nat.one_pos (by decide +kernel) (by decide +kernel)).2.2 laggingEvent (by decide +kernel)
    (by decide) (by decide +kernel) (by decide +kernel)

end MaintenanceRun

end SectorSync
