import SectorSync.Base.Sweep
import SectorSync.Core.Event

/-!
# Draining the event queues

`drain_ready_into` beside repeated pops.  `inPopOrder` is what pops give until the queues are empty:
the queues one after another, the higher priority first.  A drain delivers what pops of the ready
events would give and leaves the queues with the delayed ones (`drainReadyInto_eq`), so that drains
at a sequence of ticks are a sweep of the events by their target ticks (`drainEach_eq`).
-/

namespace SectorSync.EventQueues

open Sweep

/-! ## Pops -/

/-- What up to `pops` pops give. -/
def popEach : ℕ → EventQueues → List StationEvent
  | 0, _ => []
  | pops + 1, queues =>
      match queues.popNext with
      | (none, _) => []
      | (some event, queues) => event :: popEach pops queues

/-- The events of the queues in the order in which pops give them. -/
def inPopOrder (queues : EventQueues) : List StationEvent := popEach queues.len queues

/-- Every queue changed alike. -/
def mapQueues (queues : EventQueues) (f : List StationEvent → List StationEvent) : EventQueues :=
  { queues with
    critical := f queues.critical
    important := f queues.important
    bestEffort := f queues.bestEffort }

/-- Pops empty the critical queue, then the important one, then the best-effort one. -/
lemma popEach_eq (queues : EventQueues) {pops : ℕ} (h : queues.len ≤ pops) :
    popEach pops queues = queues.critical ++ queues.important ++ queues.bestEffort := by
  induction pops generalizing queues with
  | zero =>
      obtain ⟨limits, critical, important, bestEffort⟩ := queues
      have hempty : critical = [] ∧ important = [] ∧ bestEffort = [] := by
        simp only [len] at h
        refine ⟨?_, ?_, ?_⟩ <;> apply List.eq_nil_of_length_eq_zero <;> omega
      simp [popEach, hempty]
  | succ pops ih =>
      obtain ⟨limits, critical, important, bestEffort⟩ := queues
      cases critical with
      | cons event critical =>
          rw [popEach, popNext]
          dsimp only
          rw [ih _ (by simp only [len, List.length_cons] at h ⊢; omega)]
          rfl
      | nil =>
          cases important with
          | cons event important =>
              rw [popEach, popNext]
              dsimp only
              rw [ih _ (by simp only [len, List.length_cons] at h ⊢; omega)]
              rfl
          | nil =>
              cases bestEffort with
              | cons event bestEffort =>
                  rw [popEach, popNext]
                  dsimp only
                  rw [ih _ (by simp only [len, List.length_cons] at h ⊢; omega)]
                  rfl
              | nil => rfl

/-- Priority first, then the order of the queue. -/
lemma inPopOrder_eq (queues : EventQueues) :
    queues.inPopOrder = queues.critical ++ queues.important ++ queues.bestEffort :=
  queues.popEach_eq le_rfl

/-- Filtering the queues is filtering what they pop. -/
lemma inPopOrder_filter (queues : EventQueues) (p : StationEvent → Bool) :
    (queues.mapQueues (List.filter p)).inPopOrder = queues.inPopOrder.filter p := by
  simp [inPopOrder_eq, mapQueues]

/-! ## Drains -/

/-- A drain delivers what pops of the ready events would give, and leaves the delayed events. -/
lemma drainReadyInto_eq (queues : EventQueues) (currentTick : Tick) (out : List StationEvent) :
    queues.drainReadyInto currentTick out
      = ((queues.mapQueues (readyAt currentTick)).len, queues.mapQueues (delayedAt currentTick),
        out ++ (queues.mapQueues (readyAt currentTick)).inPopOrder) := by
  have hlen : (out ++ readyAt currentTick queues.critical ++ readyAt currentTick queues.important
      ++ readyAt currentTick queues.bestEffort).length - out.length
      = (queues.mapQueues (readyAt currentTick)).len := by
    simp only [List.length_append, len, mapQueues]
    omega
  rw [inPopOrder_eq, drainReadyInto]
  dsimp only
  rw [drainPriorityReady_eq, drainPriorityReady_eq, drainPriorityReady_eq, hlen]
  simp [mapQueues]

/-- Drains at each of the ticks, each into an empty vector: what they deliver, and the queues that
they leave. -/
def drainEach : List Tick → EventQueues → List (List StationEvent) × EventQueues
  | [], queues => ([], queues)
  | currentTick :: later, queues =>
      let (_, queues, out) := queues.drainReadyInto currentTick []
      let (delivered, queues) := drainEach later queues
      (out :: delivered, queues)

/-- Drains sweep the events by their target ticks. -/
lemma drainEach_eq (ticks : List Tick) (queues : EventQueues) :
    (drainEach ticks queues).1
        = (sweep StationEvent.targetTick ticks queues.inPopOrder).1 ∧
      (drainEach ticks queues).2.inPopOrder
        = (sweep StationEvent.targetTick ticks queues.inPopOrder).2 := by
  induction ticks generalizing queues with
  | nil => exact ⟨rfl, rfl⟩
  | cons currentTick later ih =>
      have hdelayed : (queues.mapQueues (delayedAt currentTick)).inPopOrder
          = queues.inPopOrder.filter fun event => !decide (event.targetTick ≤ currentTick) :=
        queues.inPopOrder_filter _
      have hready : (queues.mapQueues (readyAt currentTick)).inPopOrder
          = queues.inPopOrder.filter fun event => decide (event.targetTick ≤ currentTick) :=
        queues.inPopOrder_filter _
      obtain ⟨hdelivered, hleft⟩ := ih (queues.mapQueues (delayedAt currentTick))
      rw [hdelayed] at hdelivered hleft
      rw [drainEach, sweep, drainReadyInto_eq, List.nil_append, hready]
      exact ⟨congrArg _ hdelivered, hleft⟩

/-- **Draining is a stable partition.**  Whatever is in the queues, a drain appends the events whose
tick has come, in the order in which pops of these events would give them, leaves the delayed ones
in the order of their queues, and returns how many it appended; pops go by priority and within it by
the order of the queue.  Drains at a sequence of ticks deliver each event in the first drain whose
tick reaches it and never again: what they deliver and what they leave is what was queued, and left
is what none of the ticks reached. -/
theorem drain_stable_partition (queues : EventQueues) :
    (∀ currentTick out, queues.drainReadyInto currentTick out
      = ((queues.mapQueues (readyAt currentTick)).inPopOrder.length,
        queues.mapQueues (delayedAt currentTick),
        out ++ (queues.mapQueues (readyAt currentTick)).inPopOrder)) ∧
    queues.inPopOrder = queues.critical ++ queues.important ++ queues.bestEffort ∧
    (∀ currentTick, (queues.mapQueues (readyAt currentTick)).inPopOrder
      = readyAt currentTick queues.inPopOrder) ∧
    ∀ ticks : List Tick,
      (∀ k, (drainEach ticks queues).1[k]? = ticks[k]?.map fun currentTick =>
        queues.inPopOrder.filter fun event => decide (event.targetTick ≤ currentTick ∧
          ∀ earlier ∈ ticks.take k, earlier < event.targetTick)) ∧
      ((drainEach ticks queues).1.flatten ++ (drainEach ticks queues).2.inPopOrder).Perm
        queues.inPopOrder ∧
      (drainEach ticks queues).2.inPopOrder
        = queues.inPopOrder.filter fun event =>
          decide (∀ currentTick ∈ ticks, currentTick < event.targetTick) := by
  refine ⟨fun currentTick out => ?_, queues.inPopOrder_eq, fun currentTick => ?_, fun ticks => ?_⟩
  · have hlen : (queues.mapQueues (readyAt currentTick)).inPopOrder.length
        = (queues.mapQueues (readyAt currentTick)).len := by
      rw [inPopOrder_eq, List.length_append, List.length_append, len]
    rw [drainReadyInto_eq, hlen]
  · exact queues.inPopOrder_filter _
  · obtain ⟨hdelivered, hleft⟩ := drainEach_eq ticks queues
    rw [hdelivered, hleft]
    exact ⟨getElem?_sweep _ ticks _, perm_sweep _ ticks _, rest_sweep _ ticks _⟩

end SectorSync.EventQueues
