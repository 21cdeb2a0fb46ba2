import SectorSync.Core.PlanSoundness
import SectorSync.Runtime.StationScheduler

/-!
# Selecting before sorting

Replication candidates, the cells of a split and the stations of a scheduling pass are prioritised
alike: if few of the values are wanted the wanted ones are selected first and only they are sorted,
and otherwise all of them are.  Either way the wanted values are the best ones (`IsBest`), and since
the three orders end in a key that is distinct in the list, the best ones are the first of the full
sort (`IsBest.eq_take_sort`).

A scheduling pass then advances the stations it selected, once each (`stations_foldl_advance`).
-/

namespace SectorSync

open Selection ReplicationPlanner

/-! ## The orders -/

lemma transCmp_compareCellSamples : Std.TransCmp compareCellSamples := by
  have hpressure : Std.TransCmp fun a b : CellLoadSample =>
      compare b.pressureScore a.pressureScore :=
    transCmp_on (fun a b : UInt64 => compare b a) CellLoadSample.pressureScore
  have hcell : Std.TransCmp fun a b : CellLoadSample => compare a.cell b.cell :=
    transCmp_on compare CellLoadSample.cell
  exact inferInstanceAs (Std.TransCmp (compareLex
    (fun a b : CellLoadSample => compare b.pressureScore a.pressureScore)
    fun a b : CellLoadSample => compare a.cell b.cell))

lemma transCmp_compareStationScheduleCandidates :
    Std.TransCmp compareStationScheduleCandidates := by
  have hload : Std.TransCmp fun a b : StationScheduleCandidate =>
      compare b.loadScore a.loadScore :=
    transCmp_on (fun a b : UInt64 => compare b a) StationScheduleCandidate.loadScore
  have hlag : Std.TransCmp fun a b : StationScheduleCandidate => compare b.tickLag a.tickLag :=
    transCmp_on (fun a b : UInt64 => compare b a) StationScheduleCandidate.tickLag
  have hid : Std.TransCmp fun a b : StationScheduleCandidate => compare a.stationId b.stationId :=
    transCmp_on compare StationScheduleCandidate.stationId
  exact inferInstanceAs (Std.TransCmp (compareLex (compareLex
    (fun a b : StationScheduleCandidate => compare b.loadScore a.loadScore)
    fun a b : StationScheduleCandidate => compare b.tickLag a.tickLag)
    fun a b : StationScheduleCandidate => compare a.stationId b.stationId))

/-- The orders look at the last key last. -/
lemma handle_eq_of_compare {F : Type} [Scalar F] (a b : PrioritizedReplicationCandidate F)
    (h : comparePrioritizedCandidates a b = .eq) : a.handle = b.handle := by
  simp only [comparePrioritizedCandidates, Ordering.then_eq_eq] at h
  exact compare_eq_iff_eq.mp h.2.2

lemma cell_eq_of_compare (a b : CellLoadSample) (h : compareCellSamples a b = .eq) :
    a.cell = b.cell := by
  simp only [compareCellSamples, Ordering.then_eq_eq] at h
  exact compare_eq_iff_eq.mp h.2

lemma stationId_eq_of_compare (a b : StationScheduleCandidate)
    (h : compareStationScheduleCandidates a b = .eq) : a.stationId = b.stationId := by
  simp only [compareStationScheduleCandidates, Ordering.then_eq_eq] at h
  exact compare_eq_iff_eq.mp h.2

/-! ## The pattern -/

namespace HotspotPlanner

/-- The values put in front are the best ones. -/
lemma isBest_prioritizeBy {α : Type} {select : SelectNthUnstableBy α} (hselect : SelectsNth select)
    {compare : α → α → Ordering} [htrans : Std.TransCmp compare] (values : List α)
    (selected : ℕ) :
    IsBest compare selected values
      ((prioritizeBy select compare values selected).take selected) := by
  rw [prioritizeBy]
  split_ifs with hzero hpartial
  · rw [hzero, List.take_zero]
    exact ⟨by simp, List.Pairwise.nil, values, List.Perm.refl _, by simp⟩
  · have hlt : selected < values.length := by omega
    have hperm := hselect.perm selected compare values htrans hlt
    have hlen : (sortBy compare ((select selected compare values).take selected)).length
        = selected := by
      rw [sortBy, List.length_insertionSort, List.length_take, hperm.length_eq]
      omega
    rw [List.take_left' hlen]
    exact isBest_sort_take hperm (hselect.split selected compare values htrans hlt)
  · exact isBest_take_sort selected values

/-- The values put in front are the first of the full sort. -/
lemma prioritizeBy_take {α β : Type} {select : SelectNthUnstableBy α} (hselect : SelectsNth select)
    {compare : α → α → Ordering} [Std.TransCmp compare] {key : α → β}
    (hkey : ∀ a b, compare a b = .eq → key a = key b) {values : List α}
    (hdistinct : (values.map key).Nodup) (selected : ℕ) :
    (prioritizeBy select compare values selected).take selected
      = (sortBy compare values).take selected :=
  (isBest_prioritizeBy hselect values selected).eq_take_sort (eq_of_cmp_eq hkey hdistinct)

end HotspotPlanner

/-! ## The scheduling pass -/

variable {F : Type}

namespace StationSet

variable {set : StationSet F}

/-- Among stations with distinct ids the position of an id is the one place of the id. -/
lemma map_set_of_nodup (hdistinct : (set.stations.map Station.id).Nodup) {i : ℕ} {s : Station F}
    (hs : set.stations[i]? = some s) (f : Station F → Station F) :
    set.stations.set i (f s)
      = set.stations.map fun station => if station.id = s.id then f station else station := by
  refine List.ext_getElem? fun j => ?_
  rw [List.getElem?_set, List.getElem?_map]
  by_cases hij : i = j
  · subst hij
    rw [if_pos rfl, hs, Option.map_some, if_pos rfl,
      if_pos (List.getElem?_eq_some_iff.mp hs).1]
  · rw [if_neg hij]
    cases hj : set.stations[j]? with
    | none => rfl
    | some station =>
        rw [Option.map_some, if_neg]
        intro hid
        have hi' : (set.stations.map Station.id)[i]? = some s.id := by
          rw [List.getElem?_map, hs, Option.map_some]
        have hj' : (set.stations.map Station.id)[j]? = some s.id := by
          rw [List.getElem?_map, hj, Option.map_some, hid]
        obtain ⟨hlt, _⟩ := List.getElem?_eq_some_iff.mp hi'
        exact hij ((List.getElem?_inj hlt hdistinct).mp (hi'.trans hj'.symm))

/-- An id without a station is the id of none. -/
lemma Coherent.get_eq_none (h : set.Coherent) {id : StationId} (hget : set.get id = none) :
    ∀ station ∈ set.stations, station.id ≠ id := by
  rw [get, h.position_eq, Finmap.bind_findPosition, List.find?_eq_none] at hget
  intro station hmem hid
  exact hget station hmem (decide_eq_true hid)

/-- Advancing one station leaves the others and the order alone. -/
lemma Coherent.advanceTick (h : set.Coherent) (hdistinct : (set.stations.map Station.id).Nodup)
    (id : StationId) :
    (set.advanceTick id).Coherent
      ∧ (set.advanceTick id).stations = set.stations.map
        fun station => if station.id = id then station.advanceTick else station := by
  rw [StationSet.advanceTick]
  cases hget : set.get id with
  | none =>
      refine ⟨h, (List.map_congr_left fun station hmem => ?_).trans (List.map_id' _) |>.symm⟩
      exact if_neg (h.get_eq_none hget station hmem)
  | some s =>
      obtain ⟨rfl, -⟩ := h.get_eq_some hget
      obtain ⟨i, -, hs, hput⟩ := h.put_eq hget s.advanceTick
      refine ⟨h.put hget s.config_advanceTick, ?_⟩
      dsimp only
      rw [hput]
      exact map_set_of_nodup hdistinct hs Station.advanceTick

lemma map_id_advance (p : Station F → Prop) [DecidablePred p] (stations : List (Station F)) :
    (stations.map fun station => if p station then station.advanceTick else station).map Station.id
      = stations.map Station.id := by
  rw [List.map_map]
  refine List.map_congr_left fun station _ => ?_
  simp only [Function.comp_apply]
  split_ifs
  · rfl
  · rfl

end StationSet

namespace StationScheduler

/-- Advancing candidates with distinct ids advances each of their stations once. -/
lemma foldl_advanceCandidate_stations (candidates : List StationScheduleCandidate)
    (state : StationScheduler × StationSet F) (hset : state.2.Coherent)
    (hdistinct : (state.2.stations.map Station.id).Nodup)
    (hids : (candidates.map (·.stationId)).Nodup) :
    (candidates.foldl advanceCandidate state).2.stations = state.2.stations.map fun station =>
      if station.id ∈ candidates.map (·.stationId) then station.advanceTick else station := by
  induction candidates generalizing state with
  | nil => simp
  | cons candidate candidates ih =>
      obtain ⟨hcoherent, hstations⟩ := hset.advanceTick hdistinct candidate.stationId
      have hnext : (advanceCandidate state candidate).2
          = state.2.advanceTick candidate.stationId := advanceCandidate_snd state candidate
      rw [List.map_cons, List.nodup_cons] at hids
      rw [List.foldl_cons, ih _ (hnext ▸ hcoherent) _ hids.2, hnext, hstations, List.map_map]
      · refine List.map_congr_left fun station _ => ?_
        simp only [Function.comp_apply, List.map_cons, List.mem_cons]
        by_cases hid : station.id = candidate.stationId
        · rw [if_pos hid, if_pos (Or.inl hid), if_neg]
          exact fun hmem => hids.1 (hid ▸ hmem)
        · rw [if_neg hid]
          simp only [hid, false_or]
      · rw [hnext, hstations, StationSet.map_id_advance]
        exact hdistinct

/-- Candidates of stations in the set are all counted. -/
lemma foldl_advanceCandidate_scheduler (candidates : List StationScheduleCandidate)
    (state : StationScheduler × StationSet F) (hset : state.2.Coherent)
    (hdistinct : (state.2.stations.map Station.id).Nodup)
    (hmem : ∀ candidate ∈ candidates, candidate.stationId ∈ state.2.stations.map Station.id) :
    (candidates.foldl advanceCandidate state).1 = countAdvance^[candidates.length] state.1 := by
  induction candidates generalizing state with
  | nil => rfl
  | cons candidate candidates ih =>
      obtain ⟨hcoherent, hstations⟩ := hset.advanceTick hdistinct candidate.stationId
      have hsome : (state.2.get candidate.stationId).isSome = true := by
        rw [Option.isSome_iff_ne_none]
        intro hnone
        obtain ⟨station, hstation, hid⟩ := List.mem_map.mp (hmem candidate List.mem_cons_self)
        exact hset.get_eq_none hnone station hstation hid
      have hnext : advanceCandidate state candidate
          = (countAdvance state.1, state.2.advanceTick candidate.stationId) := if_pos hsome
      have hkeys : (state.2.advanceTick candidate.stationId).stations.map Station.id
          = state.2.stations.map Station.id := by
        rw [hstations, StationSet.map_id_advance]
      rw [List.foldl_cons, hnext, ih _ hcoherent]
      · rfl
      · rw [hkeys]
        exact hdistinct
      · rw [hkeys]
        exact fun other hother => hmem other (List.mem_cons_of_mem _ hother)

/-! ## The pass as a full sort -/

/-- The load score of a station: that of its last sample, and zero without one. -/
def latestLoadScore (samples : List StationLoadSample) (id : StationId) : UInt64 :=
  ((samples.filter fun sample => sample.stationId = id).getLast?.map stationScheduleScore).getD 0

/-- The tick of the most advanced station. -/
def mostAdvancedTick (stations : List (Station F)) : UInt64 :=
  (stations.map (·.tick.get)).foldl max 0

/-- The candidate a station is ranked as. -/
def rankedStation (stations : List (Station F)) (samples : List StationLoadSample)
    (station : Station F) : StationScheduleCandidate where
  stationId := station.id
  loadScore := latestLoadScore samples station.id
  tickLag := (mostAdvancedTick stations).saturatingSub station.tick.get

/-- All stations by load, the highest first, then by lag, the longest first, then by id. -/
def rankedStations (stations : List (Station F)) (samples : List StationLoadSample) :
    List StationScheduleCandidate :=
  sortBy compareStationScheduleCandidates (stations.map (rankedStation stations samples))

/-- The map of scores holds the score of the last sample of every id. -/
lemma lookup_scores (samples : List StationLoadSample) (id : StationId) :
    ((samples.foldl (fun (scores : HashMap StationId UInt64) sample =>
        scores.insert sample.stationId (stationScheduleScore sample)) ∅).lookup id).getD 0
      = latestLoadScore samples id := by
  induction samples using List.reverseRecOn with
  | nil => simp [latestLoadScore]
  | append_singleton samples sample ih =>
      rw [List.foldl_append, List.foldl_cons, List.foldl_nil, Finmap.lookup_insert_eq,
        latestLoadScore, List.filter_append, List.filter_singleton]
      by_cases hid : id = sample.stationId
      · subst hid
        simp
      · have hne : ¬ sample.stationId = id := fun h => hid h.symm
        rw [if_neg hid, ih]
        simp [latestLoadScore, hne]

variable {selectNthUnstableBy : SelectNthUnstableBy StationScheduleCandidate}

lemma map_stationId_rankedStations (stations : List (Station F))
    (samples : List StationLoadSample) :
    ((rankedStations stations samples).map (·.stationId)).Perm (stations.map Station.id) := by
  refine ((List.perm_insertionSort _ _).map _).trans ?_
  rw [List.map_map]
  rfl

/-- The planned stations are the first of the full sort. -/
lemma planLoadedInto_selected (hselect : SelectsNth selectNthUnstableBy) (set : StationSet F)
    (hdistinct : (set.stations.map Station.id).Nodup) (samples : List StationLoadSample)
    (config : StationScheduleConfig) :
    (planLoadedInto selectNthUnstableBy set samples config).selected
      = (rankedStations set.stations samples).take
        (min config.maxStationAdvancesPerStep set.stations.length) := by
  have := transCmp_compareStationScheduleCandidates
  have hcandidates : (set.stations.map (rankedStation set.stations samples)).map (·.stationId)
      = set.stations.map Station.id := by
    rw [List.map_map]
    rfl
  simp only [planLoadedInto, prioritizeStationCandidates, lookup_scores]
  exact HotspotPlanner.prioritizeBy_take hselect stationId_eq_of_compare
    (hcandidates ▸ hdistinct) _

/-- **A scheduling pass.**  The first stations of the full sort are advanced by one tick, the others
are left alone. -/
lemma advanceLoadedInto_spec (hselect : SelectsNth selectNthUnstableBy)
    (scheduler : StationScheduler) {set : StationSet F} (hset : set.Coherent)
    (hdistinct : (set.stations.map Station.id).Nodup) (samples : List StationLoadSample)
    (config : StationScheduleConfig) :
    let limit := min config.maxStationAdvancesPerStep set.stations.length
    let advanced := (rankedStations set.stations samples).take limit
    let (view, scheduler', set') :=
      advanceLoadedInto selectNthUnstableBy scheduler set samples config
    view.selected = advanced ∧ advanced.length = limit
      ∧ set'.stations = set.stations.map (fun station =>
        if station.id ∈ advanced.map (·.stationId) then station.advanceTick else station)
      ∧ scheduler' = countAdvance^[limit] scheduler := by
  intro limit advanced
  have hselected := planLoadedInto_selected hselect set hdistinct samples config
  have hranked := map_stationId_rankedStations set.stations samples
  have hlen : advanced.length = limit := by
    have hall := hranked.length_eq
    rw [List.length_map, List.length_map] at hall
    rw [List.length_take, hall]
    exact Nat.min_eq_left (Nat.min_le_right _ _)
  have hids : (advanced.map (·.stationId)).Sublist
      ((rankedStations set.stations samples).map (·.stationId)) :=
    (List.take_sublist _ _).map _
  simp only [advanceLoadedInto, hselected]
  refine ⟨rfl, hlen, ?_, ?_⟩
  · exact foldl_advanceCandidate_stations advanced (scheduler, set) hset hdistinct
      ((hranked.nodup_iff.mpr hdistinct).sublist hids)
  · rw [← hlen]
    refine foldl_advanceCandidate_scheduler advanced (scheduler, set) hset hdistinct ?_
    exact fun candidate hmem => hranked.mem_iff.mp (hids.subset (List.mem_map_of_mem hmem))

end StationScheduler

/-! ## The three passes -/

/-- The candidates put in front are the first of the full sort. -/
lemma prioritizeCandidates_take [Scalar F]
    (htotal : Std.TransCmp (Scalar.totalCmp : F → F → Ordering))
    {selectNthUnstableBy : SelectNthUnstableBy (PrioritizedReplicationCandidate F)}
    (hselect : SelectsNth selectNthUnstableBy)
    {eligible : List (PrioritizedReplicationCandidate F)}
    (hdistinct : (eligible.map (·.handle)).Nodup) (limit : ℕ) :
    let result := prioritizeCandidates selectNthUnstableBy eligible limit
    result.1 = min eligible.length limit
      ∧ result.2.take limit = (sortBy comparePrioritizedCandidates eligible).take limit := by
  intro result
  have := transCmp_comparePrioritizedCandidates htotal
  obtain ⟨hselected, hlen, hbest⟩ := prioritizeCandidates_spec htotal hselect eligible limit
  refine ⟨hselected, ?_⟩
  have hfront : result.2.take limit = result.2.take result.1 := by
    rw [hselected]
    rcases Nat.le_total limit eligible.length with hle | hge
    · rw [Nat.min_eq_right hle]
    · have hall : result.2.length ≤ limit := hlen.le.trans hge
      rw [Nat.min_eq_left hge, List.take_of_length_le hall, List.take_of_length_le hlen.le]
  rw [hfront]
  exact hbest.eq_take_sort (eq_of_cmp_eq handle_eq_of_compare hdistinct)

/-- **Partial prioritisation is full sorting.**  With a partial sort that meets its contract, the
candidates of a plan and the cells of a split that are put in front are the first of the full sort,
and a scheduling pass advances the first stations of the full sort by one tick each, and no
other. -/
theorem prioritization_eq_full_sort [Scalar F]
    (htotal : Std.TransCmp (Scalar.totalCmp : F → F → Ordering))
    {selectCandidates : SelectNthUnstableBy (PrioritizedReplicationCandidate F)}
    (hcandidates : SelectsNth selectCandidates)
    {selectCells : SelectNthUnstableBy CellLoadSample} (hcells : SelectsNth selectCells)
    {selectStations : SelectNthUnstableBy StationScheduleCandidate}
    (hstations : SelectsNth selectStations) :
    (∀ (eligible : List (PrioritizedReplicationCandidate F)) (limit : ℕ),
        (eligible.map (·.handle)).Nodup →
        let result := prioritizeCandidates selectCandidates eligible limit
        result.1 = min eligible.length limit
          ∧ result.2.take limit = (sortBy comparePrioritizedCandidates eligible).take limit)
    ∧ (∀ (cells : List CellLoadSample) (selected : ℕ), (cells.map (·.cell)).Nodup →
        (HotspotPlanner.prioritizeCellSamples selectCells cells selected).take selected
          = (sortBy compareCellSamples cells).take selected)
    ∧ ∀ (scheduler : StationScheduler) (set : StationSet F) (samples : List StationLoadSample)
        (config : StationScheduleConfig),
        set.Coherent → (set.stations.map Station.id).Nodup →
        let limit := min config.maxStationAdvancesPerStep set.stations.length
        let advanced := (StationScheduler.rankedStations set.stations samples).take limit
        let (view, scheduler', set') :=
          StationScheduler.advanceLoadedInto selectStations scheduler set samples config
        view.selected = advanced ∧ advanced.length = limit
          ∧ set'.stations = set.stations.map (fun station =>
            if station.id ∈ advanced.map (·.stationId) then station.advanceTick else station)
          ∧ scheduler' = StationScheduler.countAdvance^[limit] scheduler := by
  have := transCmp_compareCellSamples
  refine ⟨fun eligible limit hdistinct => ?_, fun cells selected hdistinct => ?_,
    fun scheduler set samples config hset hdistinct => ?_⟩
  · exact prioritizeCandidates_take htotal hcandidates hdistinct limit
  · exact HotspotPlanner.prioritizeBy_take hcells cell_eq_of_compare hdistinct selected
  · exact StationScheduler.advanceLoadedInto_spec hstations scheduler hset hdistinct samples config

/-- Two stations, the second behind the first. -/
def laggingSet : StationSet ℚ :=
  (StationSet.new.push (Station.new (configWithStation 1)).advanceTick).push
    (Station.new (configWithStation 2))

/-- Three candidates of one score. -/
def tiedCandidates : List (PrioritizedReplicationCandidate ℚ) :=
  [⟨⟨0, 0⟩, 1, 3⟩, ⟨⟨1, 0⟩, 1, 2⟩, ⟨⟨2, 0⟩, 1, 5⟩]

/-- A partial sort that sorts everything. -/
def fullSort {α : Type} : SelectNthUnstableBy α :=
  fun _ cmp l => l.insertionSort fun a b => (cmp a b).isLE

lemma selectsNth_fullSort {α : Type} : SelectsNth (fullSort : SelectNthUnstableBy α) :=
  selectsNth_sort

/-- Three cells, the second under most pressure. -/
def pressedCells : List CellLoadSample :=
  [⟨⟨0, 0, 0⟩, 2, 0, 0, 0, 0, 0, 0⟩, ⟨⟨1, 0, 0⟩, 9, 0, 0, 0, 0, 0, 0⟩,
    ⟨⟨2, 0, 0⟩, 4, 0, 0, 0, 0, 0, 0⟩]

/-- Of three candidates of one score the nearest is in front, of three cells the one under most
pressure, and without samples the station behind is advanced. -/
theorem prioritization_of_lagging_station :
    ((prioritizeCandidates fullSort tiedCandidates 1).2.take 1).map (·.handle) = [⟨1, 0⟩]
    ∧ ((HotspotPlanner.prioritizeCellSamples fullSort pressedCells 1).take 1).map (·.cell)
      = [⟨1, 0, 0⟩]
    ∧ (StationScheduler.advanceLoadedInto fullSort ⟨0⟩ laggingSet [] ⟨1⟩).2.2.stations.map
          (fun station => station.tick) = [⟨1⟩, ⟨1⟩] := by
  obtain ⟨hcandidates, hcells, hstations⟩ := prioritization_eq_full_sort (F := ℚ)
    totalDistances_rational.totalCmp selectsNth_fullSort selectsNth_fullSort selectsNth_fullSort
  refine ⟨?_, ?_, ?_⟩
  · refine (congrArg (List.map (·.handle)) (hcandidates tiedCandidates 1 (by decide)).2).trans ?_
    decide +kernel
  · refine (congrArg (List.map (·.cell)) (hcells pressedCells 1 (by decide))).trans ?_
    decide +kernel
  · obtain ⟨-, -, hpass, -⟩ := hstations ⟨0⟩ laggingSet [] ⟨1⟩ (.inl (by decide +kernel))
      (by decide +kernel)
    refine (congrArg (List.map fun station => station.tick) hpass).trans ?_
    decide +kernel

end SectorSync
