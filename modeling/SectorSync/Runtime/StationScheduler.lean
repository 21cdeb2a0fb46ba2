import SectorSync.Runtime.SplitScheduler
import SectorSync.Runtime.StationSet

/-!
# The station scheduler

`StationScheduler` of the runtime crate advances the ticks of stations, of all of them or of the
most loaded ones.  A collection of stations answers every advance uniformly: under each id the
station found is the one found before, advanced a number of times (`get_advanceTicks`,
`foldl_advanceCandidate`).
-/

namespace SectorSync

variable {F : Type}

/-- Budget for a load-aware scheduler step. -/
structure StationScheduleConfig where
  /-- Maximum stations that may advance during one scheduler step. -/
  maxStationAdvancesPerStep : ℕ

/-- Candidate selected by the load-aware station scheduler. -/
structure StationScheduleCandidate where
  stationId : StationId
  /-- Deterministic pressure score derived from the latest load sample. -/
  loadScore : UInt64
  /-- How far this station is behind the most advanced station in the set. -/
  tickLag : UInt64

/-- Result of one load-aware station scheduling pass. -/
structure StationScheduleView where
  /-- Stations considered by this pass. -/
  candidatesConsidered : ℕ
  stationsSelected : ℕ
  totalAdvances : ℕ
  /-- Selected stations in deterministic execution order. -/
  selected : List StationScheduleCandidate

/-- Basic in-process station scheduler. -/
structure StationScheduler where
  /-- Total station ticks advanced by this scheduler. -/
  advancedTicks : UInt64

def stationScheduleScore (sample : StationLoadSample) : UInt64 :=
  (stationLoadScore sample).saturatingAdd sample.maxCellPressure

/-- By load, the highest first, then by lag, the longest first, then by id. -/
def compareStationScheduleCandidates (left right : StationScheduleCandidate) : Ordering :=
  ((compare right.loadScore left.loadScore).then (compare right.tickLag left.tickLag)).then
    (compare left.stationId right.stationId)

namespace StationSet

/-- Advances the station that a `get_mut` of the id returns. -/
def advanceTick (set : StationSet F) (id : StationId) : StationSet F :=
  match set.get id with
  | none => set
  | some station => set.put id station.advanceTick

/-- Advances every station. -/
def advanceTicks (set : StationSet F) : StationSet F :=
  { set with stations := set.stations.map Station.advanceTick }

end StationSet

namespace StationScheduler

/-- Counts one advance. -/
def countAdvance (scheduler : StationScheduler) : StationScheduler :=
  ⟨scheduler.advancedTicks.saturatingAdd 1⟩

/-- Advances every station by one tick. -/
def advanceAll (scheduler : StationScheduler) (stations : StationSet F) :
    StationScheduler × StationSet F :=
  (countAdvance^[stations.stations.length] scheduler, stations.advanceTicks)

variable (selectNthUnstableBy : ReplicationPlanner.SelectNthUnstableBy StationScheduleCandidate)

def prioritizeStationCandidates (candidates : List StationScheduleCandidate) (limit : ℕ) :
    List StationScheduleCandidate :=
  HotspotPlanner.prioritizeBy selectNthUnstableBy compareStationScheduleCandidates candidates limit

/-- Plans a deterministic top-k pass. -/
def planLoadedInto (stations : StationSet F) (samples : List StationLoadSample)
    (config : StationScheduleConfig) : StationScheduleView :=
  let candidatesConsidered := stations.stations.length
  let limit := min config.maxStationAdvancesPerStep candidatesConsidered
  let maxTick := (stations.stations.map (·.tick.get)).foldl max 0
  let scores : HashMap StationId UInt64 := samples.foldl
    (fun scores sample => scores.insert sample.stationId (stationScheduleScore sample)) ∅
  let candidates := stations.stations.map fun station =>
    { stationId := station.id
      loadScore := (scores.lookup station.id).getD 0
      tickLag := maxTick.saturatingSub station.tick.get }
  let selected := (prioritizeStationCandidates selectNthUnstableBy candidates limit).take limit
  ⟨candidatesConsidered, selected.length, selected.length, selected⟩

/-- Advances one candidate. -/
def advanceCandidate (state : StationScheduler × StationSet F)
    (candidate : StationScheduleCandidate) : StationScheduler × StationSet F :=
  if (state.2.get candidate.stationId).isSome then
    (countAdvance state.1, state.2.advanceTick candidate.stationId)
  else state

/-- Advances a bounded top-k set. -/
def advanceLoadedInto (scheduler : StationScheduler) (stations : StationSet F)
    (samples : List StationLoadSample) (config : StationScheduleConfig) :
    StationScheduleView × StationScheduler × StationSet F :=
  let plan := planLoadedInto selectNthUnstableBy stations samples config
  (plan, plan.selected.foldl advanceCandidate (scheduler, stations))

end StationScheduler

/-! ## Advances seen under one id -/

@[simp] lemma Station.config_advanceTick (s : Station F) : s.advanceTick.config = s.config := rfl

/-- The tick after several advances. -/
lemma Station.toNat_tick_iterate (n : ℕ) (s : Station F) :
    (Station.advanceTick^[n] s).tick.get.toNat
      = min (s.tick.get.toNat + n) (UInt64.size - 1) := by
  induction n generalizing s with
  | zero =>
      have := s.tick.get.toNat_lt_size
      simp only [Function.iterate_zero, id_eq]
      omega
  | succ n ih =>
      rw [Function.iterate_succ_apply, ih, Station.advanceTick, UInt64.toNat_saturatingAdd]
      have hone : (1 : UInt64).toNat = 1 := rfl
      omega

namespace StationSet

variable {set : StationSet F}

lemma Valid.advanceTick (hset : set.Valid) (id : StationId) : (set.advanceTick id).Valid := by
  rw [StationSet.advanceTick]
  cases hget : set.get id with
  | none => exact hset
  | some s => exact hset.put hget rfl (hset.get_eq_some hget).1.advanceTick

/-- Advancing one station is seen under its id only. -/
lemma Valid.get_advanceTick (hset : set.Valid) (id id' : StationId) :
    (set.advanceTick id).get id'
      = (set.get id').map (Station.advanceTick^[if id' = id then 1 else 0]) := by
  rw [StationSet.advanceTick]
  cases hget : set.get id with
  | none =>
      split_ifs with hid
      · rw [hid, hget]
        rfl
      · simp
  | some s =>
      rw [hset.get_put hget s.config_advanceTick]
      split_ifs with hid
      · rw [hid, hget]
        rfl
      · simp

lemma position_advanceTicks (set : StationSet F) (id : StationId) :
    set.advanceTicks.position id = set.position id := by
  have hids : (set.stations.map Station.advanceTick).map Station.id
      = set.stations.map Station.id := by
    rw [List.map_map]
    rfl
  simp only [position, advanceTicks, Finmap.findPosition_congr Station.id hids]

lemma Valid.advanceTicks (hset : set.Valid) : set.advanceTicks.Valid := by
  have hids : (set.stations.map Station.advanceTick).map Station.id
      = set.stations.map Station.id := by
    rw [List.map_map]
    rfl
  refine ⟨hset.coherent.imp_right fun h id => ?_, fun s hs => ?_⟩
  · rw [StationSet.advanceTicks, Finmap.findPosition_congr Station.id hids]
    exact h id
  · obtain ⟨s₀, hs₀, rfl⟩ := List.mem_map.mp hs
    exact (hset.store s₀ hs₀).advanceTick

/-- Advancing all stations is seen under every id. -/
lemma get_advanceTicks (set : StationSet F) (id : StationId) :
    set.advanceTicks.get id = (set.get id).map Station.advanceTick := by
  rw [get, position_advanceTicks, get]
  cases set.position id with
  | none => rfl
  | some index => simp [advanceTicks]

end StationSet

namespace StationScheduler

lemma advanceCandidate_snd (state : StationScheduler × StationSet F)
    (candidate : StationScheduleCandidate) :
    (advanceCandidate state candidate).2 = state.2.advanceTick candidate.stationId := by
  rw [advanceCandidate]
  split_ifs with hsome
  · rfl
  · rw [Bool.not_eq_true, Option.isSome_eq_false_iff, Option.isNone_iff_eq_none] at hsome
    rw [StationSet.advanceTick, hsome]

/-- Advancing candidates is seen under an id as often as it is among them. -/
lemma foldl_advanceCandidate (candidates : List StationScheduleCandidate)
    (state : StationScheduler × StationSet F) (hset : state.2.Valid) :
    (candidates.foldl advanceCandidate state).2.Valid
      ∧ ∀ id, (candidates.foldl advanceCandidate state).2.get id
        = (state.2.get id).map
          (Station.advanceTick^[(candidates.map (·.stationId)).count id]) := by
  induction candidates generalizing state with
  | nil => exact ⟨hset, by simp⟩
  | cons candidate candidates ih =>
      have hnext := advanceCandidate_snd state candidate
      have hvalid := hset.advanceTick candidate.stationId
      rw [← hnext] at hvalid
      obtain ⟨hlast, hget⟩ := ih _ hvalid
      refine ⟨hlast, fun id => ?_⟩
      rw [List.foldl_cons, hget, hnext, hset.get_advanceTick, Option.map_map,
        ← Function.iterate_add, List.map_cons, List.count_cons]
      simp only [beq_iff_eq, @eq_comm _ id]

end StationScheduler

end SectorSync
