import SectorSync.Base.InOrder
import SectorSync.Core.EventDrain
import SectorSync.Runtime.EventRouter

/-!
# The order of routed events

What the event router does to the events of one target and priority, seen as three lists: the events
that were routed, those that were drained, and those that were discarded with their queue.

`Routes` says what the router has to do with them.  The events of a target and a priority that are
due at one tick are drained in the order in which they were routed, events of different ticks may
pass each other, and only best-effort events are lost while their queue stays.  `Routes.route`,
`Routes.drainReady` and `Routes.unregisterStation` are the steps.
-/

namespace SectorSync

/-- The events for a station with a priority. -/
def selectEvents (id : StationId) (p : EventPriority) (events : List StationEvent) :
    List StationEvent :=
  events.filter fun event => decide (event.target = id ∧ event.priority = p)

section Select

variable {id : StationId} {p : EventPriority} {events events' : List StationEvent}

@[simp] lemma selectEvents_nil : selectEvents id p [] = [] := rfl

@[simp] lemma selectEvents_append : selectEvents id p (events ++ events')
    = selectEvents id p events ++ selectEvents id p events' := List.filter_append ..

lemma selectEvents_singleton (event : StationEvent) : selectEvents id p [event]
    = if event.target = id ∧ event.priority = p then [event] else [] := by
  by_cases h : event.target = id ∧ event.priority = p <;> simp [selectEvents, h]

lemma selectEvents_eq_self (h : ∀ event ∈ events, event.target = id ∧ event.priority = p) :
    selectEvents id p events = events :=
  List.filter_eq_self.mpr fun event hevent => by simpa using h event hevent

lemma selectEvents_eq_nil (h : ∀ event ∈ events, ¬(event.target = id ∧ event.priority = p)) :
    selectEvents id p events = [] :=
  List.filter_eq_nil_iff.mpr fun event hevent => by simpa using h event hevent

end Select

namespace EventRouter

/-- The queued events of a station with a priority. -/
def held (router : EventRouter) (id : StationId) (p : EventPriority) : List StationEvent :=
  (router.queues.lookup id).elim [] (·.queue p)

/-- All queued events of a station. -/
def heldBy (router : EventRouter) (id : StationId) : List StationEvent :=
  (router.queues.lookup id).elim [] EventQueues.inPopOrder

/-- **What a router has to do with its history.** -/
structure Routes (router : EventRouter) (routed drained discarded : List StationEvent) : Prop where
  sorted : ∀ id p, ∀ event ∈ router.held id p, event.target = id ∧ event.priority = p
  /-- What is drained, and then what is queued, comes in the order of the tick it is due at. -/
  ordered : ∀ id p, InOrder StationEvent.targetTick
    (selectEvents id p drained ++ router.held id p) (selectEvents id p routed)
  /-- Reliable events are lost only with their queue. -/
  kept : ∀ id p, p ≠ .bestEffort → (selectEvents id p routed).Perm
    (selectEvents id p drained ++ router.held id p ++ selectEvents id p discarded)

variable {router router' : EventRouter} {routed drained discarded : List StationEvent}

lemma routes_new (limits : EventQueueLimits) : (new limits).Routes [] [] [] where
  sorted id p event h := by simp [held, new] at h
  ordered id p := by simpa [held, new] using InOrder.refl []
  kept id p _ := by simp [held, new]

namespace Routes

/-- A router that holds the same events. -/
lemma congr (h : router.Routes routed drained discarded)
    (hsame : ∀ id p, router'.held id p = router.held id p) :
    router'.Routes routed drained discarded where
  sorted id p event hevent := h.sorted id p event (hsame id p ▸ hevent)
  ordered id p := by
    rw [hsame]
    exact h.ordered id p
  kept id p hp := by
    rw [hsame]
    exact h.kept id p hp

lemma registerStation (h : router.Routes routed drained discarded) (id : StationId) :
    (router.registerStation id).Routes routed drained discarded := by
  refine h.congr fun id' p => ?_
  rw [held, held, EventRouter.registerStation, Finmap.lookup_orInsert]
  cases hold : router.queues.lookup id' with
  | some queue => simp
  | none =>
      split_ifs
      · simp
      · simp

lemma heldBy_eq (router : EventRouter) (id : StationId) :
    router.heldBy id
      = router.held id .critical ++ router.held id .important ++ router.held id .bestEffort := by
  cases hqueue : router.queues.lookup id with
  | none => simp [heldBy, held, hqueue]
  | some queue => simp [heldBy, held, hqueue, EventQueues.inPopOrder_eq, EventQueues.queue]

lemma target_of_mem_heldBy (h : router.Routes routed drained discarded) {id : StationId}
    {event : StationEvent} (hheld : event ∈ router.heldBy id) : event.target = id := by
  rw [heldBy_eq, List.mem_append, List.mem_append] at hheld
  rcases hheld with (hheld | hheld) | hheld
  · exact (h.sorted _ _ event hheld).1
  · exact (h.sorted _ _ event hheld).1
  · exact (h.sorted _ _ event hheld).1

/-- The events of a station and a priority among all that its queues hold. -/
lemma select_heldBy (hsorted : ∀ id p, ∀ event ∈ router.held id p,
      event.target = id ∧ event.priority = p) (id id' : StationId) (p : EventPriority) :
    selectEvents id' p (router.heldBy id) = if id' = id then router.held id p else [] := by
  have hone : ∀ q, selectEvents id' p (router.held id q)
      = if id' = id ∧ p = q then router.held id p else [] := by
    intro q
    split_ifs with hself
    · obtain ⟨rfl, rfl⟩ := hself
      exact selectEvents_eq_self (hsorted id' p)
    · refine selectEvents_eq_nil fun event hevent heq => hself ?_
      obtain ⟨htarget, hpriority⟩ := hsorted id q event hevent
      exact ⟨heq.1.symm.trans htarget, heq.2.symm.trans hpriority⟩
  rw [heldBy_eq, selectEvents_append, selectEvents_append, hone, hone, hone]
  by_cases hid : id' = id
  · cases p <;> simp [hid]
  · simp [hid]

lemma unregisterStation (h : router.Routes routed drained discarded) (id : StationId) :
    (router.unregisterStation id).2.Routes routed drained
      (discarded ++ router.heldBy id) := by
  have hheld : ∀ id' p, (router.unregisterStation id).2.held id' p
      = if id' = id then [] else router.held id' p := by
    intro id' p
    rw [held, held, EventRouter.unregisterStation, Finmap.lookup_erase_eq]
    split_ifs <;> rfl
  refine ⟨fun id' p event hevent => ?_, fun id' p => ?_, fun id' p hp => ?_⟩
  · rw [hheld] at hevent
    split_ifs at hevent
    · exact absurd hevent List.not_mem_nil
    · exact h.sorted id' p event hevent
  · rw [hheld]
    split_ifs
    · rw [List.append_nil]
      exact (InOrder.of_sublist (List.sublist_append_left _ _)).trans (h.ordered id' p)
    · exact h.ordered id' p
  · rw [hheld, selectEvents_append, select_heldBy h.sorted]
    split_ifs with hself
    · subst hself
      rw [List.append_nil]
      refine (h.kept id' p hp).trans ?_
      rw [List.append_assoc]
      exact List.Perm.append_left _ List.perm_append_comm
    · rw [List.append_nil]
      exact h.kept id' p hp

/-- **Route step.**  An event that is routed is the last of its queue; a full best-effort queue
loses its oldest event. -/
lemma route (h : router.Routes routed drained discarded) {event : StationEvent}
    {outcome : PushOutcome} (hroute : router.route event = (.ok outcome, router')) :
    router'.Routes (routed ++ [event]) drained discarded := by
  rcases router.route_cases event with
    ⟨error, r, herror, -⟩ | ⟨_, queue, queue', stats, hqueue, hpush, hok⟩
  · cases herror.symm.trans hroute
  cases hok.symm.trans hroute
  have hqueued : ∀ p, router.held event.target p = queue.queue p := fun p => by
    rw [held, hqueue, Option.elim_some]
  -- the front of the queue goes when a full best-effort queue makes room
  obtain ⟨front, hfront, hlost, hheld⟩ : ∃ front : List StationEvent,
      front.Sublist (queue.queue event.priority)
      ∧ (event.priority ≠ .bestEffort → front = queue.queue event.priority)
      ∧ ∀ p, queue'.queue p = if p = event.priority then front ++ [event] else queue.queue p := by
    rcases queue.push_cases event with ⟨-, -, hp⟩ | ⟨-, hp⟩ | ⟨-, hbest, hp⟩
    · cases hp.symm.trans hpush
    · cases hp.symm.trans hpush
      exact ⟨_, List.Sublist.refl _, fun _ => rfl, fun p => EventQueues.queue_withQueue ..⟩
    · cases hp.symm.trans hpush
      exact ⟨_, List.tail_sublist _, fun hreliable => absurd hbest hreliable,
        fun p => EventQueues.queue_withQueue ..⟩
  have hafter : ∀ id p, EventRouter.held
      { router with queues := router.queues.insert event.target queue', stats := stats } id p
      = if event.target = id ∧ event.priority = p then front ++ [event]
        else router.held id p := by
    intro id p
    rw [held, Finmap.lookup_insert_eq]
    by_cases hid : id = event.target
    · subst hid
      rw [if_pos rfl, Option.elim_some, hheld, hqueued]
      by_cases hp : p = event.priority
      · simp [hp]
      · simp [hp, Ne.symm hp]
    · rw [if_neg hid, if_neg fun h => hid h.1.symm, held]
  refine ⟨fun id p e he => ?_, fun id p => ?_, fun id p hp => ?_⟩
  · rw [hafter] at he
    split_ifs at he with hself
    · obtain ⟨rfl, rfl⟩ := hself
      rcases List.mem_append.mp he with he | he
      · exact h.sorted _ _ e (hqueued event.priority ▸ hfront.subset he)
      · rw [List.mem_singleton.mp he]
        exact ⟨rfl, rfl⟩
    · exact h.sorted id p e he
  · have hordered := h.ordered id p
    rw [hafter, selectEvents_append, selectEvents_singleton]
    split_ifs with hself
    · obtain ⟨rfl, rfl⟩ := hself
      rw [hqueued] at hordered
      rw [← List.append_assoc]
      exact (((InOrder.refl _).append (.of_sublist hfront)).trans hordered).concat event
    · rwa [List.append_nil]
  · have hkept := h.kept id p hp
    rw [hafter, selectEvents_append, selectEvents_singleton]
    split_ifs with hself
    · obtain ⟨rfl, rfl⟩ := hself
      rw [hqueued] at hkept
      rw [hlost hp]
      refine (hkept.append_right [event]).trans ?_
      simp only [List.append_assoc]
      exact List.Perm.append_left _ (List.Perm.append_left _ List.perm_append_comm)
    · rwa [List.append_nil]

/-- A route that fails changes no queue. -/
lemma route_error (h : router.Routes routed drained discarded) {event : StationEvent}
    {error : EventRouterError} (hroute : router.route event = (.error error, router')) :
    router'.Routes routed drained discarded := by
  rcases router.route_cases event with ⟨e, r, herror, hsame⟩ | ⟨_, _, _, _, -, -, hok⟩
  · cases herror.symm.trans hroute
    exact h.congr fun id p => by rw [held, held, hsame]
  · cases hok.symm.trans hroute

/-- What a drain takes and what it leaves. -/
lemma drainReady_eq {id : StationId} {currentTick : Tick} {ready : List StationEvent}
    (hdrain : router.drainReady id currentTick = (.ok ready, router')) :
    ready = EventQueues.readyAt currentTick (router.heldBy id)
      ∧ ∀ id' p, router'.held id' p
        = if id' = id then EventQueues.delayedAt currentTick (router.held id p)
          else router.held id' p := by
  cases hqueue : router.queues.lookup id with
  | none => simp [EventRouter.drainReady, drainReadyInto, appendReady, hqueue, Except.map] at hdrain
  | some queue =>
      simp only [EventRouter.drainReady, drainReadyInto, appendReady, hqueue,
        EventQueues.drainReadyInto_eq, List.nil_append, Except.map, Prod.mk.injEq,
        Except.ok.injEq] at hdrain
      obtain ⟨rfl, rfl⟩ := hdrain
      refine ⟨?_, fun id' p => ?_⟩
      · rw [heldBy, hqueue, Option.elim_some]
        exact queue.inPopOrder_filter _
      · rw [held, held, hqueue, Option.elim_some, Finmap.lookup_insert_eq]
        split_ifs
        · cases p <;> rfl
        · rfl

/-- **Drain step.**  The events of a tick are drained together, in their order, and none of them
before its tick. -/
lemma drainReady (h : router.Routes routed drained discarded) {id : StationId} {currentTick : Tick}
    {ready : List StationEvent}
    (hdrain : router.drainReady id currentTick = (.ok ready, router')) :
    router'.Routes routed (drained ++ ready) discarded
      ∧ ∀ event ∈ ready, event.target = id ∧ event.targetTick ≤ currentTick := by
  obtain ⟨hready, hdelayed⟩ := drainReady_eq hdrain
  have hselect : ∀ id' p, selectEvents id' p ready
      = if id' = id then EventQueues.readyAt currentTick (router.held id p) else [] := by
    intro id' p
    rw [hready, EventQueues.readyAt, selectEvents, List.filter_comm, ← selectEvents,
      select_heldBy h.sorted]
    split_ifs
    · rw [EventQueues.readyAt]
    · rfl
  refine ⟨⟨fun id' p e he => ?_, fun id' p => ?_, fun id' p hp => ?_⟩, fun e he => ?_⟩
  · rw [hdelayed] at he
    split_ifs at he with hself
    · subst hself
      exact h.sorted id' p e (List.mem_filter.mp he).1
    · exact h.sorted id' p e he
  · have hordered := h.ordered id' p
    rw [hdelayed, selectEvents_append, hselect]
    split_ifs with hself
    · subst hself
      rw [List.append_assoc]
      refine ((InOrder.refl _).append ?_).trans hordered
      exact InOrder.partition _ (fun a b hab => by rw [hab]) _
    · rwa [List.append_nil]
  · have hkept := h.kept id' p hp
    rw [hdelayed, selectEvents_append, hselect]
    split_ifs with hself
    · subst hself
      refine hkept.trans (List.Perm.append_right _ ?_)
      rw [List.append_assoc]
      exact List.Perm.append_left _ (List.filter_append_perm _ _).symm
    · rwa [List.append_nil]
  · rw [hready] at he
    obtain ⟨hheld, hdue⟩ := List.mem_filter.mp he
    exact ⟨h.target_of_mem_heldBy hheld, by simpa using hdue⟩

/-- A drain that fails leaves the router alone. -/
lemma drainReady_error {id : StationId} {currentTick : Tick} {error : EventRouterError}
    (hdrain : router.drainReady id currentTick = (.error error, router')) : router' = router := by
  cases hqueue : router.queues.lookup id with
  | none =>
      simp only [EventRouter.drainReady, drainReadyInto, appendReady, hqueue, Except.map,
        Prod.mk.injEq] at hdrain
      exact hdrain.2.symm
  | some queue =>
      simp [EventRouter.drainReady, drainReadyInto, appendReady, hqueue, Except.map] at hdrain

end Routes

end EventRouter

end SectorSync
