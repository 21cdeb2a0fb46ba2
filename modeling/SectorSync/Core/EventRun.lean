import SectorSync.Core.Event

/-!
# Runs of the event queues

A run pushes, pops and drains in any order and counts what the operations report.  `Lawful` is what
every step should keep: no queue over its limit, every accepted event taken, dropped or still
queued, and every push reporting what it did.

The best-effort queue takes its event whatever its limit is.  At a limit of zero there is nothing to
drop, yet the push reports a drop and the queue is over its limit.  These pushes are the only steps
that are not lawful (`Kept.lawful_iff`).
-/

namespace SectorSync

open Machine

/-- How many events a push of the outcome drops. -/
def PushOutcome.dropped : PushOutcome → ℕ
  | .accepted => 0
  | .droppedOldestBestEffort => 1

namespace EventQueues

/-- No queue is over its limit. -/
def Within (queues : EventQueues) : Prop :=
  ∀ p, (queues.queue p).length ≤ limit queues.limits p

/-- The push reports what it did: it appended the event, or put it in the place of the oldest event
of its queue, or changed nothing. -/
def Reports (queues : EventQueues) (event : StationEvent) : Prop :=
  match queues.push event with
  | (.ok .accepted, queues') =>
      queues' = queues.withQueue event.priority (queues.queue event.priority ++ [event])
  | (.ok .droppedOldestBestEffort, queues') =>
      ∃ oldest rest, queues.queue event.priority = oldest :: rest
        ∧ queues' = queues.withQueue event.priority (rest ++ [event])
  | (.error _, queues') => queues' = queues

lemma within_new (limits : EventQueueLimits) : (new limits).Within := fun p => by simp

variable {queues : EventQueues}

lemma Within.withQueue (h : queues.Within) {p : EventPriority} {events : List StationEvent}
    (hlen : events.length ≤ limit queues.limits p) : (queues.withQueue p events).Within := by
  intro p'
  rw [queue_withQueue, limits_withQueue]
  split_ifs with hp
  · rwa [hp]
  · exact h p'

lemma Within.popNext (h : queues.Within) : queues.popNext.2.Within := by
  rcases queues.popNext_cases with ⟨hpop, -⟩ | ⟨event, p, rest, hp, hpop⟩
  · rw [hpop]
    exact h
  · rw [hpop]
    have hlen := h p
    rw [hp, List.length_cons] at hlen
    exact h.withQueue (by omega)

lemma Within.drainReadyInto (h : queues.Within) (currentTick : Tick) (out : List StationEvent) :
    (queues.drainReadyInto currentTick out).2.1.Within := by
  obtain ⟨ready, -, -, -, hlimits, hqueue⟩ := queues.drainReadyInto_spec currentTick out
  intro p
  rw [hqueue, hlimits]
  exact (List.length_filter_le _ _).trans (h p)

/-- The condition under which a push meets the laws. -/
def HasRoomFor (limits : EventQueueLimits) (event : StationEvent) : Prop :=
  event.priority = .bestEffort → limits.bestEffort ≠ 0

/-- What a lawful push does to the number of queued events and to the limits. -/
lemma push_lawful (h : queues.Within) {event : StationEvent}
    (hroom : HasRoomFor queues.limits event) :
    queues.Reports event ∧ (queues.push event).2.Within
      ∧ (queues.push event).2.limits = queues.limits
      ∧ ∀ outcome, (queues.push event).1 = .ok outcome →
        (queues.push event).2.len + outcome.dropped = queues.len + 1 := by
  rcases queues.push_cases event with ⟨-, -, hpush⟩ | ⟨hlen, hpush⟩ | ⟨hlen, hbest, hpush⟩
  · refine ⟨by simp [Reports, hpush], by rwa [hpush], by rw [hpush], fun outcome ho => ?_⟩
    rw [hpush] at ho
    cases ho
  · refine ⟨by simp [Reports, hpush], ?_, by simp [hpush], fun outcome ho => ?_⟩
    · rw [hpush]
      refine h.withQueue ?_
      rw [List.length_append, List.length_singleton]
      omega
    · rw [hpush] at ho ⊢
      cases ho
      have := queues.len_withQueue event.priority (queues.queue event.priority ++ [event])
      rw [List.length_append, List.length_singleton] at this
      simp only [PushOutcome.dropped]
      omega
  · -- the queue is full and its limit is not zero: there is an event to drop
    obtain ⟨oldest, rest, hqueue⟩ :
        ∃ oldest rest, queues.queue event.priority = oldest :: rest := by
      apply List.exists_cons_of_length_pos
      have := hroom hbest
      rw [hbest] at hlen ⊢
      simp only [limit] at hlen
      omega
    have hwithin := h event.priority
    rw [hqueue, List.length_cons] at hwithin
    refine ⟨?_, ?_, by simp [hpush], fun outcome ho => ?_⟩
    · simp only [Reports, hpush, hqueue, List.tail_cons]
      exact ⟨oldest, rest, rfl, rfl⟩
    · rw [hpush, hqueue]
      exact h.withQueue (by simpa using hwithin)
    · rw [hpush, hqueue] at ho ⊢
      cases ho
      have := queues.len_withQueue event.priority (rest ++ [event])
      rw [hqueue, List.length_append, List.length_singleton, List.length_cons] at this
      simp only [PushOutcome.dropped, List.tail_cons]
      omega

/-- A push without room reports a drop from an empty queue. -/
lemma hasRoomFor_of_reports (h : queues.Within) {event : StationEvent}
    (hreports : queues.Reports event) : HasRoomFor queues.limits event := by
  intro hbest hzero
  have hempty : queues.queue event.priority = [] := by
    have := h event.priority
    rw [hbest] at this ⊢
    simpa [limit, hzero] using this
  rcases queues.push_cases event with ⟨-, hne, -⟩ | ⟨hlen, -⟩ | ⟨-, -, hpush⟩
  · exact hne hbest
  · rw [hbest] at hlen
    simp [limit, hzero] at hlen
  · simp [Reports, hpush, hempty] at hreports

end EventQueues

/-! ## Runs -/

/-- An operation on the queues. -/
inductive EventQueueOp where
  | push (event : StationEvent)
  | popNext
  | drainReadyInto (currentTick : Tick) (out : List StationEvent)

/-- The queues, with the number of accepted events and of those popped, drained and dropped since.
-/
structure EventQueueRun where
  queues : EventQueues
  accepted : ℕ
  popped : ℕ
  drained : ℕ
  dropped : ℕ

namespace EventQueueRun

open EventQueues

/-- Empty queues. -/
def new (limits : EventQueueLimits) : EventQueueRun := ⟨.new limits, 0, 0, 0, 0⟩

/-- One operation. -/
def step (run : EventQueueRun) : EventQueueOp → EventQueueRun
  | .push event =>
      match run.queues.push event with
      | (.ok outcome, queues) =>
          { run with
            queues := queues
            accepted := run.accepted + 1
            dropped := run.dropped + outcome.dropped }
      | (.error _, queues) => { run with queues := queues }
  | .popNext =>
      { run with
        queues := run.queues.popNext.2
        popped := run.popped + run.queues.popNext.1.toList.length }
  | .drainReadyInto currentTick out =>
      { run with
        queues := (run.queues.drainReadyInto currentTick out).2.1
        drained := run.drained + (run.queues.drainReadyInto currentTick out).1 }

/-- Every accepted event was popped, drained or dropped, or is still queued. -/
def Accounted (run : EventQueueRun) : Prop :=
  run.accepted = run.popped + run.drained + run.dropped + run.queues.len

/-- The laws of the queues, for one operation. -/
def Lawful (run : EventQueueRun) (op : EventQueueOp) : Prop :=
  (run.step op).queues.Within ∧ (run.step op).Accounted
    ∧ ∀ event, op = .push event → run.queues.Reports event

/-- An operation with room for its event. -/
def HasRoom (limits : EventQueueLimits) (_ : EventQueueRun) (op : EventQueueOp) : Prop :=
  ∀ event, op = .push event → HasRoomFor limits event

/-- What runs keep. -/
structure Kept (limits : EventQueueLimits) (run : EventQueueRun) : Prop where
  limits : run.queues.limits = limits
  within : run.queues.Within
  accounted : run.Accounted

lemma kept_new (limits : EventQueueLimits) : Kept limits (new limits) where
  limits := rfl
  within := within_new limits
  accounted := rfl

variable {limits : EventQueueLimits} {run : EventQueueRun}

lemma Kept.push (h : Kept limits run) {event : StationEvent} (hroom : HasRoomFor limits event) :
    Kept limits (run.step (.push event)) := by
  have hroom' : HasRoomFor run.queues.limits event := h.limits ▸ hroom
  obtain ⟨-, hwithin, hlimits, hlen⟩ := push_lawful h.within hroom'
  have haccounted := h.accounted
  simp only [Accounted] at haccounted
  rw [step]
  rcases hpush : run.queues.push event with ⟨_ | outcome, queues⟩
  · rw [hpush] at hwithin hlimits
    refine ⟨hlimits.trans h.limits, hwithin, ?_⟩
    rcases run.queues.push_cases event with ⟨-, -, hp⟩ | ⟨-, hp⟩ | ⟨-, -, hp⟩
    · rw [hpush, Prod.mk.injEq] at hp
      rw [Accounted, hp.2]
      exact haccounted
    · rw [hpush, Prod.mk.injEq] at hp
      cases hp.1
    · rw [hpush, Prod.mk.injEq] at hp
      cases hp.1
  · rw [hpush] at hwithin hlimits hlen
    refine ⟨hlimits.trans h.limits, hwithin, ?_⟩
    have hcount : queues.len + outcome.dropped = run.queues.len + 1 := hlen outcome rfl
    simp only [Accounted]
    omega

lemma Kept.popNext (h : Kept limits run) : Kept limits (run.step .popNext) := by
  have haccounted := h.accounted
  simp only [Accounted] at haccounted
  refine ⟨?_, h.within.popNext, ?_⟩
  · rcases run.queues.popNext_cases with ⟨hpop, -⟩ | ⟨event, p, rest, -, hpop⟩
    · simp [step, hpop, h.limits]
    · simp [step, hpop, h.limits]
  · rcases run.queues.popNext_cases with ⟨hpop, -⟩ | ⟨event, p, rest, hp, hpop⟩
    · simp only [Accounted, step, hpop, Option.toList_none, List.length_nil]
      omega
    · have := run.queues.len_withQueue p rest
      rw [hp, List.length_cons] at this
      simp only [Accounted, step, hpop, Option.toList_some, List.length_singleton]
      omega

lemma Kept.drainReadyInto (h : Kept limits run) (currentTick : Tick) (out : List StationEvent) :
    Kept limits (run.step (.drainReadyInto currentTick out)) := by
  have haccounted := h.accounted
  simp only [Accounted] at haccounted
  obtain ⟨ready, -, hcount, hlen, hlimits, -⟩ := run.queues.drainReadyInto_spec currentTick out
  refine ⟨hlimits.trans h.limits, h.within.drainReadyInto currentTick out, ?_⟩
  simp only [Accounted, step, hcount]
  omega

lemma Kept.step (h : Kept limits run) {op : EventQueueOp} (hroom : HasRoom limits run op) :
    Kept limits (run.step op) := by
  cases op with
  | push event => exact h.push (hroom event rfl)
  | popNext => exact h.popNext
  | drainReadyInto currentTick out => exact h.drainReadyInto currentTick out

/-- From a state of a run, an operation is lawful exactly when there is room for its event. -/
lemma Kept.lawful_iff (h : Kept limits run) (op : EventQueueOp) :
    run.Lawful op ↔ HasRoom limits run op := by
  constructor
  · rintro ⟨-, -, hreports⟩ event rfl
    exact h.limits ▸ hasRoomFor_of_reports h.within (hreports event rfl)
  · intro hroom
    refine ⟨(h.step hroom).within, (h.step hroom).accounted, ?_⟩
    rintro event rfl
    exact (push_lawful h.within (h.limits ▸ hroom event rfl)).1

/-- A run of the queues is lawful exactly when every event it pushes has room. -/
lemma allSteps_lawful_iff (limits : EventQueueLimits) (ops : List EventQueueOp) :
    AllSteps step Lawful (new limits) ops
      ↔ ∀ event, EventQueueOp.push event ∈ ops → HasRoomFor limits event := by
  have hrun : AllSteps step Lawful (new limits) ops
      ↔ AllSteps step (HasRoom limits) (new limits) ops := by
    constructor
    · exact allSteps_of_invariant
        (fun run op h hop => ⟨(h.lawful_iff op).mp hop, h.step ((h.lawful_iff op).mp hop)⟩)
        (kept_new limits)
    · exact allSteps_of_invariant
        (fun run op h hop => ⟨(h.lawful_iff op).mpr hop, h.step hop⟩) (kept_new limits)
  rw [hrun]
  clear hrun
  generalize new limits = run
  induction ops generalizing run with
  | nil => simp
  | cons op ops ih =>
      simp only [allSteps_cons, ih (run.step op), HasRoom, List.mem_cons, or_imp, forall_and,
        eq_comm]

end EventQueueRun

end SectorSync
