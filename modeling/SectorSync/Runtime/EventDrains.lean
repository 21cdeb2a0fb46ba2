import SectorSync.Runtime.RouterOrder
import SectorSync.Runtime.StationScheduler

/-!
# Draining all stations

`drain_ready_events_into` of the station scheduler drains the queues of one station after another
and stops at the first station that the router does not know.

`appendEach_eq` says what is appended and what stays queued.  Only the stations before the first
unknown one are drained (`drainable`), each at its tick, and the call succeeds when there is no
unknown one.  `Routes.appendEach` is the step of the router's history.
-/

namespace SectorSync

variable {F : Type}

namespace StationScheduler

/-- Appends the ready events of one station after another. -/
def appendEach : List (Station F) → EventRouter → List StationEvent →
    Except EventRouterError Unit × EventRouter × List StationEvent
  | [], router, events => (.ok (), router, events)
  | station :: stations, router, events =>
      match router.appendReady station.id station.tick events with
      | (.error error, router, events) => (.error error, router, events)
      | (.ok (), router, events) => appendEach stations router events

/-- Drains all station-ready events into caller-owned output. -/
def drainReadyEventsInto (_scheduler : StationScheduler) (stations : StationSet F)
    (router : EventRouter) (_events : List StationEvent) :
    Except EventRouterError Unit × EventRouter × List StationEvent :=
  -- `events.clear()`
  appendEach stations.stations router []

end StationScheduler

namespace EventRouter

/-- The stations before the first that is not registered. -/
def drainable (router : EventRouter) (stations : List (Station F)) : List (Station F) :=
  stations.takeWhile fun station => decide (station.id ∈ router.queues)

/-- The events of a station that are due. -/
def dueFor (router : EventRouter) (station : Station F) : List StationEvent :=
  EventQueues.readyAt station.tick (router.heldBy station.id)

variable {router router' : EventRouter}

lemma appendReady_of_mem {id : StationId} (hmem : id ∈ router.queues) (tick : Tick)
    (events : List StationEvent) :
    ∃ router', router.appendReady id tick events
        = (.ok (), router', events ++ EventQueues.readyAt tick (router.heldBy id))
      ∧ router.drainReady id tick
        = (.ok (EventQueues.readyAt tick (router.heldBy id)), router')
      ∧ ∀ id', id' ∈ router'.queues ↔ id' ∈ router.queues := by
  obtain ⟨queue, hqueue⟩ := Finmap.mem_iff.mp hmem
  have hready : (queue.mapQueues (EventQueues.readyAt tick)).inPopOrder
      = EventQueues.readyAt tick (router.heldBy id) := by
    rw [heldBy, hqueue, Option.elim_some]
    exact queue.inPopOrder_filter _
  simp only [EventRouter.drainReady, drainReadyInto, appendReady, hqueue,
    EventQueues.drainReadyInto_eq, Except.map, hready, List.nil_append]
  refine ⟨_, rfl, rfl, fun id' => ?_⟩
  rw [Finmap.mem_insert, or_iff_right_iff_imp]
  rintro rfl
  exact hmem

lemma appendReady_of_notMem {id : StationId} (hmem : id ∉ router.queues) (tick : Tick)
    (events : List StationEvent) :
    router.appendReady id tick events = (.error (.missingTarget id), router, events) := by
  rw [appendReady, Finmap.lookup_eq_none.mpr hmem]

/-- The events that a drain leaves. -/
lemma heldBy_of_held {id : StationId} {tick : Tick}
    (hheld : ∀ id' p, router'.held id' p
      = if id' = id then EventQueues.delayedAt tick (router.held id p) else router.held id' p)
    (id' : StationId) :
    router'.heldBy id' = if id' = id then EventQueues.delayedAt tick (router.heldBy id)
      else router.heldBy id' := by
  rw [Routes.heldBy_eq, Routes.heldBy_eq, hheld, hheld, hheld]
  split_ifs with hid
  · simp [EventQueues.delayedAt]
  · rw [Routes.heldBy_eq]

end EventRouter

namespace StationScheduler

open EventRouter

/-- **What a drain of all stations does.** -/
lemma appendEach_eq (stations : List (Station F)) (router : EventRouter)
    (events : List StationEvent) (hdistinct : (stations.map Station.id).Nodup) :
    let (result, router', events') := appendEach stations router events
    events' = events ++ (router.drainable stations).flatMap router.dueFor
      ∧ (∀ id p, router'.held id p
        = ((router.drainable stations).find? fun station => station.id = id).elim (router.held id p)
          fun station => EventQueues.delayedAt station.tick (router.held id p))
      ∧ (∀ id, id ∈ router'.queues ↔ id ∈ router.queues)
      ∧ (result = .ok () ↔ ∀ station ∈ stations, station.id ∈ router.queues) := by
  induction stations generalizing router events with
  | nil => simp [appendEach, drainable]
  | cons station stations ih =>
      rw [List.map_cons, List.nodup_cons] at hdistinct
      obtain ⟨hfresh, hrest⟩ := hdistinct
      by_cases hmem : station.id ∈ router.queues
      · obtain ⟨next, happend, hdrain, hkeys⟩ :=
          appendReady_of_mem hmem station.tick events
        have hheld := (Routes.drainReady_eq hdrain).2
        have hnext := ih next (events ++ EventQueues.readyAt station.tick (router.heldBy station.id))
          hrest
        simp only [appendEach, happend]
        rcases hloop : appendEach stations next
          (events ++ EventQueues.readyAt station.tick (router.heldBy station.id))
          with ⟨result, router', events'⟩
        rw [hloop] at hnext
        obtain ⟨hevents, hleft, hqueues, hresult⟩ := hnext
        -- the other stations are drained as if the first one had not been
        have hdrainable : next.drainable stations = router.drainable stations := by
          simp only [drainable, hkeys]
        have hall : router.drainable (station :: stations)
            = station :: router.drainable stations := by
          simp [drainable, hmem]
        have hother : ∀ other ∈ router.drainable stations, ¬ other.id = station.id := by
          intro other hother hid
          exact hfresh (hid ▸ List.mem_map_of_mem ((List.takeWhile_prefix _).subset hother))
        refine ⟨?_, fun id p => ?_, fun id => (hqueues id).trans (hkeys id), ?_⟩
        · have hdue : (router.drainable stations).flatMap next.dueFor
              = (router.drainable stations).flatMap router.dueFor :=
            List.flatMap_congr fun other hmem' => by
              rw [dueFor, heldBy_of_held hheld, if_neg (hother other hmem'), dueFor]
          rw [hevents, hdrainable, hdue, hall, List.flatMap_cons, List.append_assoc, dueFor]
        · rw [hleft, hdrainable, hall, List.find?_cons, hheld]
          by_cases hid : station.id = id
          · have hnone : (router.drainable stations).find? (fun other => other.id = id) = none := by
              rw [List.find?_eq_none]
              intro other hmem' hsame
              exact hother other hmem' ((of_decide_eq_true hsame).trans hid.symm)
            simp [hid, hnone]
          · rw [if_neg (Ne.symm hid)]
            simp [hid]
        · rw [hresult, List.forall_mem_cons]
          simp only [hkeys, hmem, true_and]
      · simp only [appendEach, appendReady_of_notMem hmem]
        have hnone : router.drainable (station :: stations) = [] := by
          simp [drainable, hmem]
        refine ⟨by simp [hnone], fun id p => by simp [hnone], by simp, ?_⟩
        simp [hmem]


end StationScheduler

/-- **Drain step of all stations.**  What they take from their queues is drained, and due. -/
lemma EventRouter.Routes.appendEach {router : EventRouter}
    {routed drained discarded : List StationEvent} (h : router.Routes routed drained discarded)
    (stations : List (Station F)) (events : List StationEvent) :
    let (_, router', events') := StationScheduler.appendEach stations router events
    ∃ ready, events' = events ++ ready
      ∧ router'.Routes routed (drained ++ ready) discarded
      ∧ ∀ event ∈ ready, ∃ station ∈ stations,
        station.id = event.target ∧ event.targetTick ≤ station.tick := by
  induction stations generalizing router drained events with
  | nil => exact ⟨[], by simp, by simpa using h, by simp⟩
  | cons station stations ih =>
      by_cases hmem : station.id ∈ router.queues
      · obtain ⟨next, happend, hdrain, -⟩ := appendReady_of_mem hmem station.tick events
        obtain ⟨hroutes, hdue⟩ := h.drainReady hdrain
        have hnext := ih hroutes
          (events ++ EventQueues.readyAt station.tick (router.heldBy station.id))
        simp only [StationScheduler.appendEach, happend]
        obtain ⟨ready, hevents, hroutes', hdue'⟩ := hnext
        refine ⟨_, hevents.trans (List.append_assoc ..), by simpa using hroutes', ?_⟩
        intro event hevent
        rcases List.mem_append.mp hevent with hfirst | hlater
        · exact ⟨station, List.mem_cons_self, (hdue event hfirst).1.symm, (hdue event hfirst).2⟩
        · obtain ⟨other, hother, htarget⟩ := hdue' event hlater
          exact ⟨other, List.mem_cons_of_mem _ hother, htarget⟩
      · simp only [StationScheduler.appendEach, appendReady_of_notMem hmem]
        exact ⟨[], by simp, by simpa using h, by simp⟩

end SectorSync
