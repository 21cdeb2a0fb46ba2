import SectorSync.Core.Command
import SectorSync.Core.EventRun
import SectorSync.Runtime.StationSet

/-!
# The in-process event router

The router keeps one set of event queues for every registered station.  A run registers and
unregisters stations, routes and drains in any order and counts what the operations report; its
laws are those of the queues, and that the router's own statistics are the counts.

`queues_lawful_iff`: runs of the queues and of the router are lawful as long as no best-effort event
meets a limit of zero, and only as long.
-/

namespace SectorSync

open Machine

variable {F : Type}

/-- Event router statistics. -/
structure EventRouterStats where
  /-- Events accepted by target queues. -/
  routedEvents : ℕ
  /-- Ready events drained for station application. -/
  drainedEvents : ℕ
  /-- Best-effort events dropped by bounded target queues. -/
  droppedBestEffortEvents : ℕ
  deriving DecidableEq

/-- Event router error. -/
inductive EventRouterError where
  /-- Target station was not registered with the router. -/
  | missingTarget (id : StationId)
  /-- Underlying target queue rejected the event. -/
  | queue (error : EventQueueError)
  deriving DecidableEq

/-- In-process station event router. -/
structure EventRouter where
  limits : EventQueueLimits
  queues : BTreeMap StationId EventQueues
  stats : EventRouterStats

namespace EventRouter

/-- Creates an empty event router. -/
def new (limits : EventQueueLimits) : EventRouter := ⟨limits, ∅, ⟨0, 0, 0⟩⟩

/-- Registers a station target queue. -/
def registerStation (router : EventRouter) (stationId : StationId) : EventRouter :=
  { router with queues := router.queues.orInsert stationId (.new router.limits) }

/-- Registers all stations in a set. -/
def registerStations (router : EventRouter) (stations : StationSet F) : EventRouter :=
  stations.stations.foldl (fun router station => router.registerStation station.id) router

/-- Unregisters a station queue and returns the number of queued events dropped. -/
def unregisterStation (router : EventRouter) (stationId : StationId) : Option ℕ × EventRouter :=
  ((router.queues.lookup stationId).map EventQueues.len,
    { router with queues := router.queues.erase stationId })

/-- Routes an event to its target station queue. -/
def route (router : EventRouter) (event : StationEvent) :
    Except EventRouterError PushOutcome × EventRouter :=
  match router.queues.lookup event.target with
  | none => (.error (.missingTarget event.target), router)
  | some queue =>
      let (result, queue) := queue.push event
      let router := { router with queues := router.queues.insert event.target queue }
      match result with
      | .error error => (.error (.queue error), router)
      | .ok outcome =>
          let stats := { router.stats with routedEvents := router.stats.routedEvents + 1 }
          let stats :=
            if outcome = .droppedOldestBestEffort then
              { stats with droppedBestEffortEvents := stats.droppedBestEffortEvents + 1 }
            else stats
          (.ok outcome, { router with stats := stats })

/-- Appends the ready events of a station. -/
def appendReady (router : EventRouter) (stationId : StationId) (currentTick : Tick)
    (ready : List StationEvent) : Except EventRouterError Unit × EventRouter × List StationEvent :=
  match router.queues.lookup stationId with
  | none => (.error (.missingTarget stationId), router, ready)
  | some queue =>
      let (drained, queue, ready) := queue.drainReadyInto currentTick ready
      (.ok (),
        { router with
          queues := router.queues.insert stationId queue
          stats := { router.stats with
            drainedEvents := usizeSaturatingAdd router.stats.drainedEvents drained } },
        ready)

/-- Drains ready events into caller-owned storage. -/
def drainReadyInto (router : EventRouter) (stationId : StationId) (currentTick : Tick)
    (_ready : List StationEvent) :
    Except EventRouterError Unit × EventRouter × List StationEvent :=
  -- `ready.clear()`
  router.appendReady stationId currentTick []

/-- Drains events whose `targetTick` is ready for application. -/
def drainReady (router : EventRouter) (stationId : StationId) (currentTick : Tick) :
    Except EventRouterError (List StationEvent) × EventRouter :=
  let (result, router, ready) := router.drainReadyInto stationId currentTick []
  (result.map fun _ => ready, router)

/-- The events in all queues. -/
def queued (router : EventRouter) : ℕ := router.queues.total EventQueues.len

/-- All queues are under the limits, which are the router's. -/
def Within (limits : EventQueueLimits) (router : EventRouter) : Prop :=
  ∀ id queue, router.queues.lookup id = some queue → queue.limits = limits ∧ queue.Within

variable {limits : EventQueueLimits} {router : EventRouter}

lemma Within.insert (h : router.Within limits) {id : StationId} {queue : EventQueues}
    (hlimits : queue.limits = limits) (hwithin : queue.Within) (stats : EventRouterStats) :
    Within limits { router with queues := router.queues.insert id queue, stats := stats } := by
  intro id' queue' hqueue
  rcases Finmap.lookup_insert_cases hqueue with ⟨-, rfl⟩ | ⟨-, hold⟩
  · exact ⟨hlimits, hwithin⟩
  · exact h id' queue' hold

lemma queued_registerStation (router : EventRouter) (id : StationId) :
    (router.registerStation id).queued = router.queued := by
  by_cases hid : id ∈ router.queues
  · simp [queued, registerStation, Finmap.orInsert, hid]
  · have := Finmap.total_insert_add EventQueues.len id (.new router.limits) router.queues
    rw [Finmap.lookup_eq_none.mpr hid, Option.elim_none, EventQueues.len_new] at this
    simpa [queued, registerStation, Finmap.orInsert, hid] using this

lemma Within.registerStation (h : router.Within router.limits) (id : StationId) :
    (router.registerStation id).Within router.limits := by
  intro id' queue hqueue
  rw [EventRouter.registerStation, Finmap.lookup_orInsert] at hqueue
  cases hold : router.queues.lookup id' with
  | some queue' =>
      rw [hold, Option.some_or, Option.some.injEq] at hqueue
      exact hqueue ▸ h id' queue' hold
  | none =>
      rw [hold, Option.none_or] at hqueue
      split_ifs at hqueue
      cases hqueue
      exact ⟨rfl, EventQueues.within_new _⟩

/-- What a drain of a registered station does. -/
lemma appendReady_spec (router : EventRouter) {id : StationId} {queue : EventQueues}
    (hqueue : router.queues.lookup id = some queue) (hwithin : queue.Within)
    (currentTick : Tick) :
    ∃ ready queue', queue'.Within ∧ queue'.limits = queue.limits
      ∧ ready.length + queue'.len = queue.len
      ∧ router.appendReady id currentTick [] = (.ok (),
        { router with
          queues := router.queues.insert id queue'
          stats := { router.stats with
            drainedEvents := usizeSaturatingAdd router.stats.drainedEvents ready.length } },
        ready) := by
  obtain ⟨ready, hready, hcount, hlen, hlimits, -⟩ := queue.drainReadyInto_spec currentTick []
  rw [List.nil_append] at hready
  exact ⟨ready, (queue.drainReadyInto currentTick []).2.1, hwithin.drainReadyInto currentTick [],
    hlimits, hlen, by simp [appendReady, hqueue, hready, hcount]⟩

/-- **What routing does.**  It changes no queue, or it pushes the event to the queue of its target.
-/
lemma route_cases (router : EventRouter) (event : StationEvent) :
    (∃ error router', router.route event = (.error error, router')
        ∧ ∀ id, router'.queues.lookup id = router.queues.lookup id)
      ∨ ∃ outcome queue queue' stats, router.queues.lookup event.target = some queue
        ∧ queue.push event = (.ok outcome, queue')
        ∧ router.route event = (.ok outcome,
          { router with queues := router.queues.insert event.target queue', stats := stats }) := by
  cases hqueue : router.queues.lookup event.target with
  | none =>
      exact Or.inl ⟨.missingTarget event.target, router, by simp [route, hqueue], fun _ => rfl⟩
  | some queue =>
      rcases hpush : queue.push event with ⟨error | outcome, queue'⟩
      · refine Or.inl ⟨.queue error, _, by simp only [route, hqueue, hpush]; rfl, fun id => ?_⟩
        have hsame : queue' = queue := by
          rcases queue.push_cases event with ⟨-, -, h⟩ | ⟨-, h⟩ | ⟨-, -, h⟩ <;>
            rw [h, Prod.mk.injEq] at hpush
          · exact hpush.2.symm
          · cases hpush.1
          · cases hpush.1
        rw [Finmap.lookup_insert_eq, hsame]
        split_ifs with hid
        · rw [hid, hqueue]
        · rfl
      · exact Or.inr ⟨outcome, queue, queue', _, rfl, hpush,
          by simp only [route, hqueue, hpush]; rfl⟩

end EventRouter

/-! ## Runs -/

/-- An operation on the router. -/
inductive EventRouterOp (F : Type) where
  | registerStation (stationId : StationId)
  | registerStations (stations : StationSet F)
  | unregisterStation (stationId : StationId)
  | route (event : StationEvent)
  | drainReady (stationId : StationId) (currentTick : Tick)
  | drainReadyInto (stationId : StationId) (currentTick : Tick) (ready : List StationEvent)

/-- The router, with the number of events routed and of those drained, dropped and discarded with
their queue since. -/
structure EventRouterRun where
  router : EventRouter
  routed : ℕ
  drained : ℕ
  dropped : ℕ
  discarded : ℕ

namespace EventRouterRun

open EventQueues EventRouter

/-- An empty router. -/
def new (limits : EventQueueLimits) : EventRouterRun := ⟨.new limits, 0, 0, 0, 0⟩

/-- One operation. -/
def step (run : EventRouterRun) : EventRouterOp F → EventRouterRun
  | .registerStation stationId => { run with router := run.router.registerStation stationId }
  | .registerStations stations => { run with router := run.router.registerStations stations }
  | .unregisterStation stationId =>
      { run with
        router := (run.router.unregisterStation stationId).2
        discarded := run.discarded + (run.router.unregisterStation stationId).1.getD 0 }
  | .route event =>
      match run.router.route event with
      | (.ok outcome, router) =>
          { run with
            router := router
            routed := run.routed + 1
            dropped := run.dropped + outcome.dropped }
      | (.error _, router) => { run with router := router }
  | .drainReady stationId currentTick =>
      match run.router.drainReady stationId currentTick with
      | (.ok ready, router) =>
          { run with router := router, drained := run.drained + ready.length }
      | (.error _, router) => { run with router := router }
  | .drainReadyInto stationId currentTick ready =>
      match run.router.drainReadyInto stationId currentTick ready with
      | (.ok (), router, ready) =>
          { run with router := router, drained := run.drained + ready.length }
      | (.error _, router, _) => { run with router := router }

/-- Every routed event was drained, dropped or discarded, or is still queued; and the statistics
are the counts as long as these fit the machine word. -/
structure Accounted (run : EventRouterRun) : Prop where
  balance : run.routed = run.drained + run.dropped + run.router.queued + run.discarded
  stats : run.routed ≤ usizeMax →
    run.router.stats = ⟨run.routed, run.drained, run.dropped⟩

/-- The laws of the router, for one operation. -/
def Lawful (limits : EventQueueLimits) (run : EventRouterRun) (op : EventRouterOp F) : Prop :=
  (run.step op).router.Within limits ∧ (run.step op).Accounted
    ∧ ∀ event queue, op = .route event → run.router.queues.lookup event.target = some queue →
      queue.Reports event

/-- An operation that routes no best-effort event into a queue without room. -/
def HasRoom (limits : EventQueueLimits) (run : EventRouterRun) (op : EventRouterOp F) : Prop :=
  ∀ event, op = .route event → event.target ∈ run.router.queues → HasRoomFor limits event

/-- What runs keep. -/
structure Kept (limits : EventQueueLimits) (run : EventRouterRun) : Prop where
  sameLimits : run.router.limits = limits
  within : run.router.Within limits
  accounted : run.Accounted

lemma kept_new (limits : EventQueueLimits) : Kept limits (new limits) where
  sameLimits := rfl
  within _ _ h := by simp [new, EventRouter.new] at h
  accounted := ⟨by simp [new, queued, EventRouter.new], fun _ => rfl⟩

variable {limits : EventQueueLimits} {run : EventRouterRun}

lemma Kept.registerStation (h : Kept limits run) (id : StationId) :
    Kept limits { run with router := run.router.registerStation id } where
  sameLimits := h.sameLimits
  within := by
    have hwithin := h.within
    rw [← h.sameLimits] at hwithin ⊢
    exact hwithin.registerStation id
  accounted := ⟨by rw [queued_registerStation]; exact h.accounted.balance, h.accounted.stats⟩

lemma Kept.registerStations (h : Kept limits run) (stations : List (Station F)) :
    Kept limits { run with
      router := stations.foldl (fun router station => router.registerStation station.id)
        run.router } := by
  induction stations generalizing run with
  | nil => exact h
  | cons station stations ih => exact ih (h.registerStation station.id)

lemma Kept.unregisterStation (h : Kept limits run) (id : StationId) :
    Kept limits { run with
      router := (run.router.unregisterStation id).2
      discarded := run.discarded + (run.router.unregisterStation id).1.getD 0 } := by
  refine ⟨h.sameLimits, fun id' queue hqueue => ?_, ⟨?_, h.accounted.stats⟩⟩
  · rw [EventRouter.unregisterStation, Finmap.lookup_erase_eq] at hqueue
    split_ifs at hqueue
    exact h.within id' queue hqueue
  · have hbalance := h.accounted.balance
    have herase := Finmap.total_erase_add EventQueues.len id run.router.queues
    simp only [queued, EventRouter.unregisterStation] at hbalance ⊢
    cases hqueue : run.router.queues.lookup id <;> rw [hqueue] at herase <;>
      simp only [Option.elim_none, Option.elim_some, Option.map_none, Option.map_some,
        Option.getD_none, Option.getD_some] at herase ⊢ <;> omega

/-- A drain of a registered station. -/
lemma Kept.drained (h : Kept limits run) {id : StationId} {queue : EventQueues}
    (hqueue : run.router.queues.lookup id = some queue) (currentTick : Tick) :
    Kept limits { run with
      router := (run.router.appendReady id currentTick []).2.1
      drained := run.drained + (run.router.appendReady id currentTick []).2.2.length } := by
  obtain ⟨hlimits, hwithin⟩ := h.within id queue hqueue
  obtain ⟨ready, queue', hwithin', hlimits', hlen, happend⟩ :=
    run.router.appendReady_spec hqueue hwithin currentTick
  have hbalance := h.accounted.balance
  have hinsert := Finmap.total_insert_add EventQueues.len id queue' run.router.queues
  rw [hqueue, Option.elim_some] at hinsert
  simp only [queued] at hbalance
  rw [happend]
  refine ⟨h.sameLimits, h.within.insert (hlimits'.trans hlimits) hwithin' _, ⟨?_, fun hfits => ?_⟩⟩
  · simp only [queued]
    omega
  · have hstats := h.accounted.stats hfits
    have hsum : run.drained + ready.length ≤ usizeMax := by
      simp only at hfits
      omega
    simp [hstats, usizeSaturatingAdd, hsum]

lemma Kept.drainReadyInto (h : Kept limits run) (id : StationId) (currentTick : Tick)
    (ready : List StationEvent) :
    Kept limits (run.step (.drainReadyInto id currentTick ready : EventRouterOp F)) := by
  cases hqueue : run.router.queues.lookup id with
  | none => simpa [step, EventRouter.drainReadyInto, appendReady, hqueue] using h
  | some queue =>
      have hdrained := h.drained hqueue currentTick
      simpa [step, EventRouter.drainReadyInto, appendReady, hqueue] using hdrained

/-- `drain_ready` is `drain_ready_into` on a new vector. -/
lemma step_drainReady (run : EventRouterRun) (id : StationId) (currentTick : Tick) :
    run.step (.drainReady id currentTick : EventRouterOp F)
      = run.step (.drainReadyInto id currentTick [] : EventRouterOp F) := by
  simp only [step, drainReady]
  rcases run.router.drainReadyInto id currentTick [] with ⟨_ | _, router, ready⟩ <;> rfl

lemma Kept.route (h : Kept limits run) {event : StationEvent}
    (hroom : event.target ∈ run.router.queues → HasRoomFor limits event) :
    Kept limits (run.step (.route event : EventRouterOp F)) := by
  cases hqueue : run.router.queues.lookup event.target with
  | none => simpa [step, EventRouter.route, hqueue] using h
  | some queue =>
      obtain ⟨hlimits, hwithin⟩ := h.within _ queue hqueue
      have hroom : HasRoomFor queue.limits event :=
        hlimits ▸ hroom (Finmap.mem_iff.mpr ⟨queue, hqueue⟩)
      obtain ⟨-, hwithin', hlimits', hlen⟩ := push_lawful hwithin hroom
      have hbalance := h.accounted.balance
      have hinsert := Finmap.total_insert_add EventQueues.len event.target
        (queue.push event).2 run.router.queues
      rw [hqueue, Option.elim_some] at hinsert
      simp only [queued] at hbalance
      rcases hpush : queue.push event with ⟨error | outcome, queue'⟩
      · have hsame : queue' = queue := by
          rcases queue.push_cases event with ⟨-, -, hp⟩ | ⟨-, hp⟩ | ⟨-, -, hp⟩ <;>
            rw [hpush, Prod.mk.injEq] at hp
          · exact hp.2
          · cases hp.1
          · cases hp.1
        rw [hpush] at hinsert
        simp only [step, EventRouter.route, hqueue, hpush]
        refine ⟨h.sameLimits, h.within.insert ?_ ?_ _, ⟨?_, h.accounted.stats⟩⟩
        · rw [hsame, hlimits]
        · rwa [hsame]
        · subst hsame
          simp only [queued] at hinsert ⊢
          omega
      · rw [hpush] at hwithin' hlimits' hlen hinsert
        have hcount : queue'.len + outcome.dropped = queue.len + 1 := hlen outcome rfl
        simp only [step, EventRouter.route, hqueue, hpush]
        refine ⟨h.sameLimits, h.within.insert (hlimits'.trans hlimits) hwithin' _,
          ⟨?_, fun hfits => ?_⟩⟩
        · simp only [queued] at hinsert ⊢
          omega
        · have hstats := h.accounted.stats (by simp only at hfits; omega)
          cases outcome <;> simp [hstats, PushOutcome.dropped]

lemma Kept.step (h : Kept limits run) {op : EventRouterOp F} (hroom : HasRoom limits run op) :
    Kept limits (run.step op) := by
  cases op with
  | registerStation id => exact h.registerStation id
  | registerStations stations => exact h.registerStations stations.stations
  | unregisterStation id => exact h.unregisterStation id
  | route event => exact h.route (hroom event rfl)
  | drainReady id currentTick =>
      rw [step_drainReady]
      exact h.drainReadyInto id currentTick []
  | drainReadyInto id currentTick ready => exact h.drainReadyInto id currentTick ready

/-- From a state of a run, an operation is lawful exactly when there is room for its event. -/
lemma Kept.lawful_iff (h : Kept limits run) (op : EventRouterOp F) :
    run.Lawful limits op ↔ HasRoom limits run op := by
  constructor
  · rintro ⟨-, -, hreports⟩ event rfl htarget
    obtain ⟨queue, hqueue⟩ := Finmap.mem_iff.mp htarget
    obtain ⟨hlimits, hwithin⟩ := h.within _ queue hqueue
    exact hlimits ▸ hasRoomFor_of_reports hwithin (hreports event queue rfl hqueue)
  · intro hroom
    refine ⟨(h.step hroom).within, (h.step hroom).accounted, ?_⟩
    rintro event queue rfl hqueue
    obtain ⟨hlimits, hwithin⟩ := h.within _ queue hqueue
    have hroom' := hroom event rfl (Finmap.mem_iff.mpr ⟨queue, hqueue⟩)
    exact (push_lawful hwithin (hlimits ▸ hroom')).1

/-- A run of the router is lawful exactly when every event it routes to a queue has room. -/
lemma allSteps_lawful_iff (limits : EventQueueLimits) (ops : List (EventRouterOp F)) :
    AllSteps step (Lawful limits) (new limits) ops
      ↔ AllSteps step (HasRoom limits) (new limits) ops := by
  constructor
  · exact allSteps_of_invariant
      (fun run op h hop => ⟨(h.lawful_iff op).mp hop, h.step ((h.lawful_iff op).mp hop)⟩)
      (kept_new limits)
  · exact allSteps_of_invariant
      (fun run op h hop => ⟨(h.lawful_iff op).mpr hop, h.step hop⟩) (kept_new limits)

end EventRouterRun

/-- **When event queues are lawful.**  In every run of the queues and in every run of the router no
queue passes its limit, every push reports what it did, and every accepted event is accounted for,
exactly when no best-effort event is pushed to, or routed to, a queue whose best-effort limit is
zero. -/
theorem queues_lawful_iff (limits : EventQueueLimits) (ops : List EventQueueOp)
    (routerOps : List (EventRouterOp F)) :
    (AllSteps EventQueueRun.step EventQueueRun.Lawful (.new limits) ops
      ↔ ∀ event, EventQueueOp.push event ∈ ops → event.priority = .bestEffort →
        limits.bestEffort ≠ 0)
    ∧ (AllSteps EventRouterRun.step (EventRouterRun.Lawful limits) (.new limits) routerOps
      ↔ AllSteps EventRouterRun.step
        (fun run op => ∀ event, op = .route event → event.target ∈ run.router.queues →
          event.priority = .bestEffort → limits.bestEffort ≠ 0)
        (.new limits) routerOps) :=
  ⟨EventQueueRun.allSteps_lawful_iff limits ops,
    EventRouterRun.allSteps_lawful_iff limits routerOps⟩

/-- At a best-effort limit of zero the first best-effort event is queued, over the limit, and the
push reports that it dropped another. -/
theorem zero_limit_unlawful :
    ¬ ∀ (limits : EventQueueLimits) (ops : List EventQueueOp),
      AllSteps EventQueueRun.step EventQueueRun.Lawful (.new limits) ops := by
  intro h
  have hrun := h ⟨1, 1, 0⟩
    [.push ⟨⟨1⟩, ⟨1⟩, ⟨2⟩, ⟨0⟩, ⟨0⟩, .bestEffort, .custom 0⟩]
  have hwithin := hrun.1.1 .bestEffort
  exact absurd hwithin (by decide)

end SectorSync
