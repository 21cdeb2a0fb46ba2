import Mathlib.Data.List.Basic
import SectorSync.Base.Run
import SectorSync.Core.Ids

/-!
# Station events and their queues

The event envelope of `event.rs` and the bounded queues of a station.  A full critical or important
queue refuses an event; a full best-effort queue makes room by dropping its oldest event and
reports that it did.

`push_cases`, `popNext_cases` and `drainReadyInto_spec` are what the operations do.
-/

namespace SectorSync

open Machine

/-- Event priority class. -/
inductive EventPriority where
  /-- Must be delivered or cause backpressure. -/
  | critical
  /-- Should be delivered with bounded retry/ack policy. -/
  | important
  /-- Can be dropped, merged, or downgraded under pressure. -/
  | bestEffort
  deriving DecidableEq

/-- Core event kind understood by the runtime. -/
inductive EventKind where
  | custom (kind : UInt32)
  /-- Prepare a two-phase entity handoff. -/
  | handoffPrepare (entityId : EntityId)
  /-- Commit a two-phase entity handoff. -/
  | handoffCommit (entityId : EntityId) (ownerEpoch : OwnerEpoch)
  deriving DecidableEq

/-- Event envelope routed between stations. -/
structure StationEvent where
  /-- Idempotency key. -/
  id : EventId
  source : StationId
  target : StationId
  /-- Tick observed at source. -/
  sourceTick : Tick
  /-- Tick at which target should apply the event. -/
  targetTick : Tick
  priority : EventPriority
  kind : EventKind
  deriving DecidableEq

/-- Bounded queue limits by priority. -/
structure EventQueueLimits where
  critical : ℕ
  important : ℕ
  bestEffort : ℕ
  deriving DecidableEq

/-- The default limits. -/
def EventQueueLimits.default : EventQueueLimits := ⟨1024, 4096, 8192⟩

/-- Outcome of a queue push. -/
inductive PushOutcome where
  /-- Event was accepted without dropping another event. -/
  | accepted
  /-- A best-effort event was dropped to admit the new one. -/
  | droppedOldestBestEffort
  deriving DecidableEq

/-- Event queue error. -/
inductive EventQueueError where
  /-- Reliable queue is full and caller must apply backpressure. -/
  | queueFull (priority : EventPriority)
  deriving DecidableEq

/-- Bounded priority queues for station events. -/
structure EventQueues where
  limits : EventQueueLimits
  critical : List StationEvent
  important : List StationEvent
  bestEffort : List StationEvent
  deriving DecidableEq

/-- The drain loop over one queue: `queued` times it takes the front event and appends it to `out`
or, when its tick has not come, to the back of the queue. -/
def drainPriorityReady (currentTick : Tick) :
    ℕ → List StationEvent → List StationEvent → List StationEvent × List StationEvent
  | 0, queue, out => (queue, out)
  | _ + 1, [], out => ([], out)
  | queued + 1, event :: queue, out =>
      if event.targetTick ≤ currentTick then
        drainPriorityReady currentTick queued queue (out ++ [event])
      else drainPriorityReady currentTick queued (queue ++ [event]) out

namespace EventQueues

/-- Creates empty event queues. -/
def new (limits : EventQueueLimits) : EventQueues := ⟨limits, [], [], []⟩

/-- Pushes an event according to priority and queue semantics. -/
def push (queues : EventQueues) (event : StationEvent) :
    Except EventQueueError PushOutcome × EventQueues :=
  match event.priority with
  | .critical =>
      if queues.critical.length ≥ queues.limits.critical then
        (.error (.queueFull .critical), queues)
      else (.ok .accepted, { queues with critical := queues.critical ++ [event] })
  | .important =>
      if queues.important.length ≥ queues.limits.important then
        (.error (.queueFull .important), queues)
      else (.ok .accepted, { queues with important := queues.important ++ [event] })
  | .bestEffort =>
      let (outcome, bestEffort) :=
        if queues.bestEffort.length ≥ queues.limits.bestEffort then
          (PushOutcome.droppedOldestBestEffort, queues.bestEffort.tail)
        else (PushOutcome.accepted, queues.bestEffort)
      (.ok outcome, { queues with bestEffort := bestEffort ++ [event] })

/-- Pops the next event, preferring higher priority. -/
def popNext (queues : EventQueues) : Option StationEvent × EventQueues :=
  match queues.critical, queues.important, queues.bestEffort with
  | event :: critical, _, _ => (some event, { queues with critical := critical })
  | [], event :: important, _ => (some event, { queues with important := important })
  | [], [], event :: bestEffort => (some event, { queues with bestEffort := bestEffort })
  | [], [], [] => (none, queues)

/-- Appends events ready at `currentTick` while retaining delayed events in place. -/
def drainReadyInto (queues : EventQueues) (currentTick : Tick) (out : List StationEvent) :
    ℕ × EventQueues × List StationEvent :=
  let before := out.length
  let (critical, out) :=
    drainPriorityReady currentTick queues.critical.length queues.critical out
  let (important, out) :=
    drainPriorityReady currentTick queues.important.length queues.important out
  let (bestEffort, out) :=
    drainPriorityReady currentTick queues.bestEffort.length queues.bestEffort out
  (out.length - before,
    { queues with critical := critical, important := important, bestEffort := bestEffort }, out)

/-- Returns total queued events. -/
def len (queues : EventQueues) : ℕ :=
  queues.critical.length + queues.important.length + queues.bestEffort.length

/-- The queue of a priority. -/
def queue (queues : EventQueues) : EventPriority → List StationEvent
  | .critical => queues.critical
  | .important => queues.important
  | .bestEffort => queues.bestEffort

/-- The limit of a queue. -/
def limit (limits : EventQueueLimits) : EventPriority → ℕ
  | .critical => limits.critical
  | .important => limits.important
  | .bestEffort => limits.bestEffort

/-- The queues with the queue of a priority replaced. -/
def withQueue (queues : EventQueues) (p : EventPriority) (events : List StationEvent) :
    EventQueues :=
  match p with
  | .critical => { queues with critical := events }
  | .important => { queues with important := events }
  | .bestEffort => { queues with bestEffort := events }

@[simp] lemma queue_new (limits : EventQueueLimits) (p : EventPriority) :
    (new limits).queue p = [] := by cases p <;> rfl

@[simp] lemma len_new (limits : EventQueueLimits) : (new limits).len = 0 := rfl

variable (queues : EventQueues)

@[simp] lemma limits_withQueue (p : EventPriority) (events : List StationEvent) :
    (queues.withQueue p events).limits = queues.limits := by cases p <;> rfl

@[simp] lemma queue_withQueue (p p' : EventPriority) (events : List StationEvent) :
    (queues.withQueue p events).queue p' = if p' = p then events else queues.queue p' := by
  cases p <;> cases p' <;> rfl

lemma len_withQueue (p : EventPriority) (events : List StationEvent) :
    (queues.withQueue p events).len + (queues.queue p).length = queues.len + events.length := by
  cases p <;> simp only [withQueue, len, queue] <;> omega

/-! ## What the operations do -/

/-- **What a push does.**  It appends the event to its queue; a full reliable queue refuses it, and
a full best-effort queue loses its front first. -/
lemma push_cases (event : StationEvent) :
    (limit queues.limits event.priority ≤ (queues.queue event.priority).length
      ∧ event.priority ≠ .bestEffort
      ∧ queues.push event = (.error (.queueFull event.priority), queues))
    ∨ ((queues.queue event.priority).length < limit queues.limits event.priority
      ∧ queues.push event = (.ok .accepted,
        queues.withQueue event.priority (queues.queue event.priority ++ [event])))
    ∨ (limit queues.limits event.priority ≤ (queues.queue event.priority).length
      ∧ event.priority = .bestEffort
      ∧ queues.push event = (.ok .droppedOldestBestEffort,
        queues.withQueue event.priority ((queues.queue event.priority).tail ++ [event]))) := by
  rcases Nat.lt_or_ge (queues.queue event.priority).length (limit queues.limits event.priority)
    with hroom | hfull
  · refine Or.inr (Or.inl ⟨hroom, ?_⟩)
    cases hp : event.priority <;> rw [hp] at hroom <;> simp only [queue, limit] at hroom <;>
      simp [push, hp, queue, withQueue, Nat.not_le.mpr hroom]
  · by_cases hbest : event.priority = .bestEffort
    · refine Or.inr (Or.inr ⟨hfull, hbest, ?_⟩)
      rw [hbest] at hfull
      simp only [queue, limit] at hfull
      simp [push, hbest, queue, withQueue, hfull]
    · refine Or.inl ⟨hfull, hbest, ?_⟩
      cases hp : event.priority <;> rw [hp] at hfull hbest <;>
        simp only [queue, limit] at hfull <;> simp_all [push]

/-- A push that succeeds stores the event, and loses no reliable event. -/
lemma mem_queue_of_push {event : StationEvent} {outcome : PushOutcome} {queues' : EventQueues}
    (h : queues.push event = (.ok outcome, queues')) :
    event ∈ queues'.queue event.priority
      ∧ ∀ p ≠ EventPriority.bestEffort, ∀ e ∈ queues.queue p, e ∈ queues'.queue p := by
  rcases queues.push_cases event with ⟨-, -, hpush⟩ | ⟨-, hpush⟩ | ⟨-, hbest, hpush⟩
  · rw [hpush] at h
    cases h
  · rw [hpush] at h
    cases h
    refine ⟨by simp, fun p _ e he => ?_⟩
    rw [queue_withQueue]
    split_ifs with hp
    · exact List.mem_append_left _ (hp ▸ he)
    · exact he
  · rw [hpush] at h
    cases h
    refine ⟨by simp, fun p hp e he => ?_⟩
    rwa [queue_withQueue, if_neg (fun heq => hp (heq.trans hbest))]

/-- **What a pop does.**  It takes the front of a queue, or all queues are empty. -/
lemma popNext_cases :
    (queues.popNext = (none, queues) ∧ queues.len = 0)
      ∨ ∃ event p rest, queues.queue p = event :: rest
        ∧ queues.popNext = (some event, queues.withQueue p rest) := by
  obtain ⟨limits, critical, important, bestEffort⟩ := queues
  cases critical with
  | cons event critical => exact Or.inr ⟨event, .critical, critical, rfl, rfl⟩
  | nil =>
      cases important with
      | cons event important => exact Or.inr ⟨event, .important, important, rfl, rfl⟩
      | nil =>
          cases bestEffort with
          | cons event bestEffort => exact Or.inr ⟨event, .bestEffort, bestEffort, rfl, rfl⟩
          | nil => exact Or.inl ⟨rfl, rfl⟩

/-- The events of a list that are ready. -/
def readyAt (currentTick : Tick) (events : List StationEvent) : List StationEvent :=
  events.filter fun event => decide (event.targetTick ≤ currentTick)

/-- The events of a list that are not ready. -/
def delayedAt (currentTick : Tick) (events : List StationEvent) : List StationEvent :=
  events.filter fun event => !decide (event.targetTick ≤ currentTick)

/-- The loop ahead of `events`, with `delayed` already at the back. -/
lemma drainPriorityReady_append (currentTick : Tick) (events delayed out : List StationEvent) :
    drainPriorityReady currentTick events.length (events ++ delayed) out
      = (delayed ++ delayedAt currentTick events, out ++ readyAt currentTick events) := by
  induction events generalizing delayed out with
  | nil => simp [drainPriorityReady, delayedAt, readyAt]
  | cons event events ih =>
      rw [List.length_cons, List.cons_append, drainPriorityReady]
      by_cases hready : event.targetTick ≤ currentTick
      · rw [if_pos hready, ih]
        simp [delayedAt, readyAt, hready]
      · rw [if_neg hready, List.append_assoc, ih]
        simp [delayedAt, readyAt, hready]

/-- The loop parts a queue into its delayed and its ready events, both in their order. -/
lemma drainPriorityReady_eq (currentTick : Tick) (events out : List StationEvent) :
    drainPriorityReady currentTick events.length events out
      = (delayedAt currentTick events, out ++ readyAt currentTick events) := by
  have h := drainPriorityReady_append currentTick events [] out
  rwa [List.append_nil, List.nil_append] at h

lemma length_readyAt_add (currentTick : Tick) (events : List StationEvent) :
    (readyAt currentTick events).length + (delayedAt currentTick events).length
      = events.length :=
  (List.length_eq_length_filter_add _).symm

/-- **What a drain does.** -/
lemma drainReadyInto_spec (currentTick : Tick) (out : List StationEvent) :
    ∃ ready, (queues.drainReadyInto currentTick out).2.2 = out ++ ready
      ∧ (queues.drainReadyInto currentTick out).1 = ready.length
      ∧ ready.length + (queues.drainReadyInto currentTick out).2.1.len = queues.len
      ∧ (queues.drainReadyInto currentTick out).2.1.limits = queues.limits
      ∧ ∀ p, (queues.drainReadyInto currentTick out).2.1.queue p
        = delayedAt currentTick (queues.queue p) := by
  refine ⟨readyAt currentTick queues.critical ++ readyAt currentTick queues.important
    ++ readyAt currentTick queues.bestEffort, ?_, ?_, ?_, ?_, fun p => ?_⟩
  · simp [drainReadyInto, drainPriorityReady_eq]
  · simp only [drainReadyInto, drainPriorityReady_eq, List.length_append]
    omega
  · have hcritical := length_readyAt_add currentTick queues.critical
    have himportant := length_readyAt_add currentTick queues.important
    have hbestEffort := length_readyAt_add currentTick queues.bestEffort
    simp only [drainReadyInto, drainPriorityReady_eq, len, List.length_append]
    omega
  · rfl
  · cases p <;> simp [drainReadyInto, drainPriorityReady_eq, queue]

end EventQueues

end SectorSync
