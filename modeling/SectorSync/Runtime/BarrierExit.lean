import SectorSync.Runtime.BarrierRun

/-!
# Ways out of a barrier

Runs in which stations also join and leave the collection.  A request fixes the covered ids, and a
poll asks the collection for each of them; there is no other way to a frozen barrier and none but a
resume out of it.

`canEnd_iff` says from which states ticks, polls and a resume end the barrier.  A station that has
left while the barrier waits keeps every poll from finishing (`Stuck.step`), and
`removed_station_blocks` is such a run.
-/

namespace SectorSync

open Machine BarrierController

variable {F : Type}

/-- The steps of a run in which the collection of stations changes. -/
inductive BarrierWorldStep (F : Type) where
  | barrier (op : BarrierStep)
  | exportSnapshots (version : SnapshotVersion)
  | push (station : { s : Station F // s.StoreInv })
  | remove (id : StationId)

namespace BarrierRun

/-- A station tick, a poll or a resume. -/
def IsExit : BarrierStep → Prop
  | .advanceTick _ | .poll | .resume => True
  | .advanceAll | .advanceLoaded _ _ | .request _ _ _ _ => False

section Step

variable (selectNthUnstableBy : ReplicationPlanner.SelectNthUnstableBy StationScheduleCandidate)

/-- One step of such a run. -/
def worldStep (x : BarrierRun F) : BarrierWorldStep F → BarrierRun F
  | .barrier op => x.step selectNthUnstableBy op
  | .exportSnapshots version =>
      { x with controller := (x.controller.exportSnapshots x.stations version).2 }
  | .push station => { x with stations := x.stations.push station.1 }
  | .remove id => { x with stations := (x.stations.remove id).elim x.stations Prod.snd }

/-- Some sequence of ticks, polls and resumes leaves no barrier active. -/
def CanEnd (x : BarrierRun F) : Prop :=
  ∃ ops : List BarrierStep, (∀ op ∈ ops, IsExit op)
    ∧ (execute (step selectNthUnstableBy) x ops).controller.active = none

end Step

/-- An active barrier is frozen, or all stations that it covers are there. -/
def Endable (x : BarrierRun F) : Prop :=
  ∀ barrier ∈ x.controller.active,
    barrier.state = .frozen ∨ ∀ id ∈ x.controller.phases.keys, (x.stations.get id).isSome

instance (x : BarrierRun F) : Decidable x.Endable :=
  inferInstanceAs (Decidable (∀ barrier ∈ x.controller.active,
    barrier.state = .frozen ∨ ∀ id ∈ x.controller.phases.keys, (x.stations.get id).isSome))

/-- An active barrier waits or is frozen. -/
structure Underway (x : BarrierRun F) : Prop where
  valid : x.stations.Valid
  state : ∀ barrier, x.controller.active = some barrier →
    barrier.state = .waitingTickBoundary ∨ barrier.state = .frozen

/-- A barrier waits for a station that is not there. -/
structure Stuck (x : BarrierRun F) : Prop where
  valid : x.stations.Valid
  waits : ∃ barrier, x.controller.active = some barrier ∧ barrier.state ≠ .frozen
  missing : ∃ id, x.controller.Covers id ∧ x.stations.get id = none

variable (selectNthUnstableBy : ReplicationPlanner.SelectNthUnstableBy StationScheduleCandidate)
  {x : BarrierRun F}

/-! ## Every run -/

lemma underway_start : Underway (start (StationSet.new : StationSet F)) where
  valid := StationSet.valid_new
  state := by simp [start, BarrierController.default]

variable {selectNthUnstableBy}

lemma Underway.step (h : Underway x) (op : BarrierStep) :
    Underway (x.step selectNthUnstableBy op) := by
  refine ⟨(get_step selectNthUnstableBy h.valid op).1, fun barrier hactive => ?_⟩
  rcases controller_step selectNthUnstableBy x op with
    ⟨-, hsame⟩ | hnone | ⟨_, _, _, _, barrier', -, -, hactive', -, hstate, -⟩ |
    ⟨barrier', -, -, hactive', -, -⟩
  · exact h.state barrier (hsame ▸ hactive)
  · simp [hnone] at hactive
  · rw [hactive', Option.some.injEq] at hactive
    exact .inl (hactive ▸ hstate)
  · rw [hactive', Option.some.injEq] at hactive
    exact .inr (hactive ▸ rfl)

lemma Underway.worldStep (h : Underway x) (op : BarrierWorldStep F) :
    Underway (x.worldStep selectNthUnstableBy op) := by
  cases op with
  | barrier op => exact h.step op
  | exportSnapshots version =>
      obtain ⟨hactive, -⟩ := exportSnapshots_keeps x.controller x.stations version
      exact ⟨h.valid, fun barrier hsome => h.state barrier (hactive ▸ hsome)⟩
  | push station => exact ⟨h.valid.push station.2, h.state⟩
  | remove id =>
      refine ⟨?_, h.state⟩
      show StationSet.Valid ((x.stations.remove id).elim x.stations Prod.snd)
      cases hremove : x.stations.remove id with
      | none => exact h.valid
      | some removed => exact h.valid.remove hremove

/-! ## No way out -/

/-- Ticks, polls and resumes leave a stuck barrier stuck. -/
lemma Stuck.step (h : Stuck x) {op : BarrierStep} (hexit : IsExit op) :
    Stuck (x.step selectNthUnstableBy op) := by
  obtain ⟨barrier, hactive, hwaits⟩ := h.waits
  obtain ⟨id, hcovers, hmissing⟩ := h.missing
  obtain ⟨hvalid, hget⟩ := get_step selectNthUnstableBy h.valid op
  have hgone : (x.step selectNthUnstableBy op).stations.get id = none := by
    rw [hget, hmissing, Option.map_none]
  cases op with
  | advanceTick id' => exact ⟨hvalid, ⟨barrier, hactive, hwaits⟩, id, hcovers, hgone⟩
  | poll =>
      obtain ⟨hkeys, hsame | ⟨barrier', hactive', -, hreached⟩⟩ :=
        poll_spec x.controller x.stations
      · have hkept : id ∈ (x.controller.poll x.stations).2.phases.keys := by
          rw [hkeys]
          exact hcovers
        exact ⟨hvalid, ⟨barrier, hsame.trans hactive, hwaits⟩, id, hkept, hgone⟩
      · obtain ⟨s, hs, -⟩ := hreached id (covers_iff.mp hcovers)
        simp [hmissing] at hs
  | resume =>
      have hrefused : x.controller.resume.2 = x.controller := by
        rw [resume, hactive]
        exact congrArg Prod.snd (if_pos hwaits)
      rw [BarrierRun.step, hrefused] at hgone hvalid ⊢
      exact ⟨hvalid, ⟨barrier, hactive, hwaits⟩, id, hcovers, hgone⟩
  | advanceAll => exact hexit.elim
  | advanceLoaded samples config => exact hexit.elim
  | request id scope targetTick commandMode => exact hexit.elim

lemma Stuck.not_canEnd (h : Stuck x) : ¬ CanEnd selectNthUnstableBy x := by
  rintro ⟨ops, hexits, hended⟩
  have hstuck : Stuck (execute (BarrierRun.step selectNthUnstableBy) x ops) := by
    induction ops generalizing x with
    | nil => exact h
    | cons op ops ih =>
        obtain ⟨hexit, hrest⟩ := List.forall_mem_cons.mp hexits
        exact ih (h.step hexit) hrest hended
  obtain ⟨barrier, hactive, -⟩ := hstuck.waits
  simp [hended] at hactive

/-! ## The way out -/

/-- Ticks of a list of stations, seen under one id. -/
lemma execute_advanceTick
    (selectNthUnstableBy : ReplicationPlanner.SelectNthUnstableBy StationScheduleCandidate)
    (ids : List StationId) (x : BarrierRun F) (hset : x.stations.Valid) :
    (execute (step selectNthUnstableBy) x (ids.map .advanceTick)).controller = x.controller
      ∧ ∀ id, (execute (step selectNthUnstableBy) x (ids.map .advanceTick)).stations.get id
        = (x.stations.get id).map (Station.advanceTick^[ids.count id]) := by
  induction ids generalizing x with
  | nil => exact ⟨rfl, by simp⟩
  | cons first ids ih =>
      obtain ⟨hcontroller, hget⟩ := ih (x.step selectNthUnstableBy (.advanceTick first))
        (hset.advanceTick first)
      refine ⟨hcontroller, fun id => ?_⟩
      rw [List.map_cons, execute_cons, hget, BarrierRun.step, hset.get_advanceTick, Option.map_map,
        ← Function.iterate_add, List.count_cons]
      simp only [beq_iff_eq, @eq_comm _ id]

/-- Enough ticks of each covered station bring all of them to the target. -/
lemma reached_of_ticks
    (selectNthUnstableBy : ReplicationPlanner.SelectNthUnstableBy StationScheduleCandidate)
    (ids : List StationId) (x : BarrierRun F) (hset : x.stations.Valid)
    (hthere : ∀ id ∈ ids, (x.stations.get id).isSome) (tick : Tick) :
    Reached (execute (step selectNthUnstableBy) x
      ((List.replicate tick.get.toNat ids).flatten.map .advanceTick)).stations tick ids := by
  intro id hid
  obtain ⟨s, hs⟩ := Option.isSome_iff_exists.mp (hthere id hid)
  rw [(execute_advanceTick _ _ x hset).2, hs]
  refine ⟨_, rfl, ?_⟩
  have hcount : tick.get.toNat ≤ (List.replicate tick.get.toNat ids).flatten.count id := by
    rw [List.count_flatten, List.map_replicate, List.sum_replicate_nat]
    exact Nat.le_mul_of_pos_right _ (List.count_pos_iff.mpr hid)
  rw [TypedId.le_iff_get_le, UInt64.le_iff_toNat_le, Station.toNat_tick_iterate]
  have := tick.get.toNat_lt_size
  omega

/-- A poll of stations that have all reached the target freezes the barrier. -/
lemma poll_of_reached {controller : BarrierController} {stations : StationSet F}
    {barrier : RuntimeBarrier} (hactive : controller.active = some barrier)
    (hwaits : barrier.state ≠ .frozen)
    (hreached : Reached stations barrier.targetTick controller.phases.sortedKeys) :
    (controller.poll stations).2.active = some barrier.freeze := by
  obtain ⟨-, hready⟩ := pollStations_spec stations barrier.targetTick controller.phases.sortedKeys
    controller.phases true fun id hid => Finmap.mem_sortedKeys.mp hid
  rw [poll, hactive]
  simp only [hwaits, if_false]
  cases hloop : pollStations stations barrier.targetTick controller.phases true
      controller.phases.sortedKeys with
  | mk result phases =>
      rw [hloop] at hready
      obtain rfl : result = .ok true := hready.mpr ⟨rfl, hreached⟩
      rfl

lemma resume_of_frozen {controller : BarrierController} {barrier : RuntimeBarrier}
    (hactive : controller.active = some barrier) (hfrozen : barrier.state = .frozen) :
    controller.resume.2.active = none := by
  rw [resume, hactive]
  simp only [hfrozen, ne_eq, not_true_eq_false, if_false]
  rfl

/-- A barrier that waits for stations that are there: ticks, a poll and a resume. -/
lemma canEnd_of_present (hset : x.stations.Valid) {barrier : RuntimeBarrier}
    (hactive : x.controller.active = some barrier) (hwaits : barrier.state ≠ .frozen)
    (hthere : ∀ id ∈ x.controller.phases.keys, (x.stations.get id).isSome) :
    CanEnd selectNthUnstableBy x := by
  have hreached := reached_of_ticks selectNthUnstableBy
    x.controller.phases.sortedKeys x hset
    (fun id hid => hthere id (Finmap.mem_sortedKeys.mp hid)) barrier.targetTick
  refine ⟨(List.replicate barrier.targetTick.get.toNat
    x.controller.phases.sortedKeys).flatten.map .advanceTick ++ [.poll, .resume], ?_, ?_⟩
  · intro op hop
    rcases List.mem_append.mp hop with hop | hop
    · obtain ⟨id, -, rfl⟩ := List.mem_map.mp hop
      trivial
    · rcases List.mem_pair.mp hop with rfl | rfl
      · trivial
      · trivial
  · obtain ⟨hcontroller, -⟩ := execute_advanceTick selectNthUnstableBy
      (List.replicate barrier.targetTick.get.toNat x.controller.phases.sortedKeys).flatten x hset
    rw [execute_append]
    generalize execute (step selectNthUnstableBy) x _ = ticked at *
    rw [← hcontroller] at hactive hreached
    exact resume_of_frozen (poll_of_reached hactive hwaits hreached) rfl

lemma Underway.canEnd_iff_endable (h : Underway x) : CanEnd selectNthUnstableBy x ↔ Endable x := by
  constructor
  · intro hend barrier hactive
    refine or_iff_not_imp_left.mpr fun hwaits id hid => ?_
    by_contra hgone
    rw [Bool.not_eq_true, Option.isSome_eq_false_iff, Option.isNone_iff_eq_none] at hgone
    exact Stuck.not_canEnd ⟨h.valid, ⟨barrier, hactive, hwaits⟩, id, hid, hgone⟩ hend
  · intro hendable
    cases hactive : x.controller.active with
    | none => exact ⟨[], by simp, hactive⟩
    | some barrier =>
        by_cases hfrozen : barrier.state = .frozen
        · exact ⟨[.resume], by simp [IsExit], resume_of_frozen hactive hfrozen⟩
        · exact canEnd_of_present h.valid hactive hfrozen
            ((hendable barrier hactive).resolve_left hfrozen)

/-- **Ways out.**  From a reachable state ticks, polls and a resume end the barrier exactly when
none is active, or it is frozen, or all stations that it covers are in the collection. -/
theorem canEnd_iff
    (selectNthUnstableBy : ReplicationPlanner.SelectNthUnstableBy StationScheduleCandidate)
    (ops : List (BarrierWorldStep F)) :
    CanEnd selectNthUnstableBy
        (execute (worldStep selectNthUnstableBy) (start StationSet.new) ops)
      ↔ Endable (execute (worldStep selectNthUnstableBy) (start StationSet.new) ops) :=
  (execute_preserves (fun _ op h => h.worldStep op) underway_start ops).canEnd_iff_endable

/-- Two stations, a barrier over both, and the first station leaves. -/
def removedSteps : List (BarrierWorldStep ℕ) :=
  [.push ⟨.new (configWithStation 1), Station.storeInv_new _⟩,
    .push ⟨.new (configWithStation 2), Station.storeInv_new _⟩,
    .barrier (.request ⟨8⟩ (.instanceScope ⟨7⟩) ⟨1⟩ .buffer), .remove ⟨1⟩]

/-- Nothing ends this barrier but the return of the station. -/
theorem removed_station_blocks :
    ¬ CanEnd (fun _ _ values => values)
      (execute (worldStep fun _ _ values => values) (start StationSet.new) removedSteps) := by
  have hunderway : Underway (execute (worldStep fun _ _ values => values)
      (start (StationSet.new : StationSet ℕ)) removedSteps) :=
    execute_preserves (fun _ op h => h.worldStep op) underway_start removedSteps
  rw [hunderway.canEnd_iff_endable]
  decide +kernel

end BarrierRun

end SectorSync
