import Mathlib.Data.List.Basic
import SectorSync.Core.Counters
import SectorSync.Core.Ids

/-!
# Commands and their queues

The command envelope of `command.rs` and the queues of a station: one ready queue for each
priority, and a buffer for the commands that come in while a barrier is active.

The queues never look at a command beyond its priority, so they are written over any type of
commands that have one; the station's are those of `CommandEnvelope`.  `readyQueue_pushBack` and
`releaseLoop_spec` are what the operations do to the queues, and nothing later unfolds them.
-/

namespace SectorSync

/-! ## Barriers -/

/-- Strategy for commands received while a barrier is active. -/
inductive CommandQueueMode where
  /-- Buffer commands until resume. -/
  | buffer
  /-- Reject commands until resume. -/
  | reject
  /-- Drain already queued commands and reject new commands. -/
  | drain
  deriving DecidableEq

/-- Barrier lifecycle state. -/
inductive BarrierState where
  | running | requested | waitingTickBoundary | frozen | resuming
  deriving DecidableEq

/-! ## Envelopes -/

/-- Client command priority. -/
inductive CommandPriority where
  | normal | high | low
  deriving DecidableEq

/-- Command envelope accepted by the generic command pipeline. -/
structure CommandEnvelope where
  id : CommandId
  clientId : ClientId
  /-- Entity the command intends to control. -/
  entityId : EntityId
  /-- Client-side sequence number. -/
  sequence : UInt64
  /-- Server tick observed when the command entered the runtime. -/
  receivedAt : Tick
  kind : UInt32
  priority : CommandPriority
  payload : List UInt8
  deriving DecidableEq

/-- Commands with a priority. -/
class Prioritized (C : Type) where
  priority : C → CommandPriority

export Prioritized (priority)

instance : Prioritized CommandEnvelope := ⟨CommandEnvelope.priority⟩

/-! ## Queues -/

/-- Bounded queue limits by command priority. -/
structure CommandQueueLimits where
  high : ℕ
  normal : ℕ
  low : ℕ
  deriving DecidableEq

/-- The default limits. -/
def CommandQueueLimits.default : CommandQueueLimits := ⟨1024, 8192, 4096⟩

/-- Barrier-aware command ingress policy. -/
structure CommandIngress where
  barrierState : BarrierState
  commandMode : CommandQueueMode
  deriving DecidableEq

/-- Normal running ingress. -/
def CommandIngress.RUNNING : CommandIngress := ⟨.running, .buffer⟩

/-- Outcome of enqueueing a command. -/
inductive CommandPushOutcome where
  | queued
  | bufferedByBarrier
  deriving DecidableEq

/-- Command queue error. -/
inductive CommandQueueError where
  /-- Queue is full and caller must apply backpressure. -/
  | queueFull (priority : CommandPriority)
  /-- Barrier mode rejects this command. -/
  | rejectedByBarrier (mode : CommandQueueMode)
  deriving DecidableEq

/-- Bounded, priority-aware command queues for a station or gateway shard. -/
structure CommandQueues (C : Type) where
  limits : CommandQueueLimits
  high : List C
  normal : List C
  low : List C
  barrierBuffer : List C
  deriving DecidableEq

namespace CommandQueues

variable {C : Type}

/-- Creates empty command queues. -/
def new (limits : CommandQueueLimits) : CommandQueues C := ⟨limits, [], [], [], []⟩

/-- The ready queue of a priority. -/
def readyQueue (queues : CommandQueues C) : CommandPriority → List C
  | .high => queues.high
  | .normal => queues.normal
  | .low => queues.low

/-- The limit of a ready queue. -/
def limit (queues : CommandQueues C) : CommandPriority → ℕ
  | .high => queues.limits.high
  | .normal => queues.limits.normal
  | .low => queues.limits.low

/-- Whether a ready queue has room. -/
def hasReadyCapacity (queues : CommandQueues C) (priority : CommandPriority) : Bool :=
  decide ((queues.readyQueue priority).length < queues.limit priority)

/-- Appends a command to a ready queue. -/
def pushBack (queues : CommandQueues C) (priority : CommandPriority) (command : C) :
    CommandQueues C :=
  match priority with
  | .high => { queues with high := queues.high ++ [command] }
  | .normal => { queues with normal := queues.normal ++ [command] }
  | .low => { queues with low := queues.low ++ [command] }

/-- Maximum commands retained while a barrier buffers ingress. -/
def barrierBufferCapacity (queues : CommandQueues C) : ℕ :=
  usizeSaturatingAdd (usizeSaturatingAdd queues.limits.high queues.limits.normal)
    queues.limits.low

/-- Drops commands buffered by a barrier. -/
def clearBarrierBuffer (queues : CommandQueues C) : ℕ × CommandQueues C :=
  (queues.barrierBuffer.length, { queues with barrierBuffer := [] })

/-- Pops the next command, preferring high priority. -/
def popNext (queues : CommandQueues C) : Option C × CommandQueues C :=
  match queues.high, queues.normal, queues.low with
  | command :: high, _, _ => (some command, { queues with high := high })
  | [], command :: normal, _ => (some command, { queues with normal := normal })
  | [], [], command :: low => (some command, { queues with low := low })
  | [], [], [] => (none, queues)

section Priorities

variable [Prioritized C]

/-- Puts a command into the ready queue of its priority. -/
def pushReady (queues : CommandQueues C) (command : C) :
    Except CommandQueueError Unit × CommandQueues C :=
  if ¬ queues.hasReadyCapacity (priority command) then
    (.error (.queueFull (priority command)), queues)
  else (.ok (), queues.pushBack (priority command) command)

/-- Pushes a command through the barrier-aware ingress policy. -/
def push (queues : CommandQueues C) (command : C) (ingress : CommandIngress) :
    Except CommandQueueError CommandPushOutcome × CommandQueues C :=
  match ingress.barrierState with
  | .running | .resuming =>
      match queues.pushReady command with
      | (.error error, queues) => (.error error, queues)
      | (.ok (), queues) => (.ok .queued, queues)
  | .requested | .waitingTickBoundary | .frozen =>
      match ingress.commandMode with
      | .buffer =>
          if queues.barrierBuffer.length ≥ queues.barrierBufferCapacity then
            (.error (.queueFull (priority command)), queues)
          else
            (.ok .bufferedByBarrier,
              { queues with barrierBuffer := queues.barrierBuffer ++ [command] })
      | .reject | .drain => (.error (.rejectedByBarrier ingress.commandMode), queues)

/-- The release loop, with the buffer as it is ahead of the loop and the number of commands released
so far. -/
def releaseLoop (queues : CommandQueues C) :
    List C → ℕ → Except CommandQueueError ℕ × CommandQueues C
  | [], released => (.ok released, { queues with barrierBuffer := [] })
  | command :: buffer, released =>
      if ¬ queues.hasReadyCapacity (priority command) then
        (.error (.queueFull (priority command)),
          { queues with barrierBuffer := command :: buffer })
      else (queues.pushBack (priority command) command).releaseLoop buffer (released + 1)

/-- Moves commands buffered by a barrier back into priority queues.  The first command whose queue
is full and all commands after it stay in the buffer. -/
def releaseBarrierBuffer (queues : CommandQueues C) :
    Except CommandQueueError ℕ × CommandQueues C :=
  queues.releaseLoop queues.barrierBuffer 0

end Priorities

/-! ## What the operations do to the queues -/

variable (queues : CommandQueues C)

@[simp] lemma readyQueue_new (limits : CommandQueueLimits) (p : CommandPriority) :
    (new limits : CommandQueues C).readyQueue p = [] := by cases p <;> rfl

lemma hasReadyCapacity_iff (p : CommandPriority) :
    queues.hasReadyCapacity p = true ↔ (queues.readyQueue p).length < queues.limit p := by
  simp [hasReadyCapacity]

lemma readyQueue_pushBack (p p' : CommandPriority) (command : C) :
    (queues.pushBack p command).readyQueue p'
      = if p' = p then queues.readyQueue p' ++ [command] else queues.readyQueue p' := by
  cases p <;> cases p' <;> simp [pushBack, readyQueue]

@[simp] lemma limits_pushBack (p : CommandPriority) (command : C) :
    (queues.pushBack p command).limits = queues.limits := by cases p <;> rfl

@[simp] lemma barrierBuffer_pushBack (p : CommandPriority) (command : C) :
    (queues.pushBack p command).barrierBuffer = queues.barrierBuffer := by cases p <;> rfl

/-- The queues with another buffer. -/
def withBuffer (buffer : List C) : CommandQueues C := { queues with barrierBuffer := buffer }

@[simp] lemma readyQueue_withBuffer (buffer : List C) (p : CommandPriority) :
    (queues.withBuffer buffer).readyQueue p = queues.readyQueue p := by cases p <;> rfl

@[simp] lemma limit_withBuffer (buffer : List C) (p : CommandPriority) :
    (queues.withBuffer buffer).limit p = queues.limit p := by cases p <;> rfl

@[simp] lemma limit_pushBack (p p' : CommandPriority) (command : C) :
    (queues.pushBack p command).limit p' = queues.limit p' := by cases p <;> cases p' <;> rfl

lemma limit_congr {queues queues' : CommandQueues C} (h : queues'.limits = queues.limits)
    (p : CommandPriority) : queues'.limit p = queues.limit p := by
  cases p <;> simp [limit, h]

/-- A pop takes the head of one ready queue. -/
lemma popNext_cases :
    (queues.popNext = (none, queues) ∧ ∀ p, queues.readyQueue p = [])
      ∨ ∃ command p rest, queues.readyQueue p = command :: rest
        ∧ queues.popNext.1 = some command
        ∧ queues.popNext.2.limits = queues.limits
        ∧ queues.popNext.2.barrierBuffer = queues.barrierBuffer
        ∧ ∀ p', queues.popNext.2.readyQueue p'
          = if p' = p then rest else queues.readyQueue p' := by
  obtain ⟨limits, high, normal, low, buffer⟩ := queues
  rcases high with _ | ⟨command, high⟩
  · rcases normal with _ | ⟨command, normal⟩
    · rcases low with _ | ⟨command, low⟩
      · exact Or.inl ⟨rfl, fun p => by cases p <;> rfl⟩
      · exact Or.inr ⟨command, .low, low, rfl, rfl, rfl, rfl, fun p => by cases p <;> rfl⟩
    · exact Or.inr ⟨command, .normal, normal, rfl, rfl, rfl, rfl, fun p => by cases p <;> rfl⟩
  · exact Or.inr ⟨command, .high, high, rfl, rfl, rfl, rfl, fun p => by cases p <;> rfl⟩

section Priorities

variable [Prioritized C]

/-- A push while no barrier holds commands back. -/
lemma push_ready (command : C) {ingress : CommandIngress}
    (h : ingress.barrierState = .running ∨ ingress.barrierState = .resuming) :
    queues.push command ingress
      = if queues.hasReadyCapacity (priority command) then
          (.ok .queued, queues.pushBack (priority command) command)
        else (.error (.queueFull (priority command)), queues) := by
  obtain ⟨state, mode⟩ := ingress
  by_cases hroom : queues.hasReadyCapacity (priority command) = true
  · rcases h with rfl | rfl <;> simp [push, pushReady, hroom]
  · rcases h with rfl | rfl <;> simp [push, pushReady, hroom]

/-- A push while a barrier holds commands back. -/
lemma push_barrier (command : C) {ingress : CommandIngress}
    (h : ¬ (ingress.barrierState = .running ∨ ingress.barrierState = .resuming)) :
    queues.push command ingress
      = if ingress.commandMode = .buffer then
          if queues.barrierBuffer.length < queues.barrierBufferCapacity then
            (.ok .bufferedByBarrier,
              queues.withBuffer (queues.barrierBuffer ++ [command]))
          else (.error (.queueFull (priority command)), queues)
        else (.error (.rejectedByBarrier ingress.commandMode), queues) := by
  obtain ⟨state, mode⟩ := ingress
  by_cases hroom : queues.barrierBuffer.length < queues.barrierBufferCapacity
  · have hnot : ¬ queues.barrierBuffer.length ≥ queues.barrierBufferCapacity := by omega
    cases state <;> cases mode <;> simp_all [push, withBuffer]
  · have hfull : queues.barrierBuffer.length ≥ queues.barrierBufferCapacity := by omega
    cases state <;> cases mode <;> simp_all [push]

/-- A push changes nothing, or it appends to the ready queue of the command while there is room, or,
while a barrier buffers commands, to the buffer while there is room. -/
lemma push_cases (command : C) (ingress : CommandIngress) :
    (∃ error, queues.push command ingress = (.error error, queues))
      ∨ ((queues.readyQueue (priority command)).length < queues.limit (priority command)
        ∧ (ingress.barrierState = .running ∨ ingress.barrierState = .resuming)
        ∧ queues.push command ingress
          = (.ok .queued, queues.pushBack (priority command) command))
      ∨ (queues.barrierBuffer.length < queues.barrierBufferCapacity
        ∧ queues.push command ingress = (.ok .bufferedByBarrier,
          queues.withBuffer (queues.barrierBuffer ++ [command]))) := by
  by_cases hstate : ingress.barrierState = .running ∨ ingress.barrierState = .resuming
  · rw [queues.push_ready command hstate]
    split_ifs with hroom
    · exact Or.inr (Or.inl ⟨(queues.hasReadyCapacity_iff _).mp hroom, hstate, rfl⟩)
    · exact Or.inl ⟨_, rfl⟩
  · rw [queues.push_barrier command hstate]
    split_ifs with hmode hroom
    · exact Or.inr (Or.inr ⟨hroom, rfl⟩)
    · exact Or.inl ⟨_, rfl⟩
    · exact Or.inl ⟨_, rfl⟩

/-- A push that succeeds stores the command, and loses none. -/
lemma mem_of_push {command : C} {ingress : CommandIngress} {outcome : CommandPushOutcome}
    {queues' : CommandQueues C} (h : queues.push command ingress = (.ok outcome, queues')) :
    (command ∈ queues'.readyQueue (priority command) ∨ command ∈ queues'.barrierBuffer)
      ∧ (∀ p, ∀ c ∈ queues.readyQueue p, c ∈ queues'.readyQueue p)
      ∧ ∀ c ∈ queues.barrierBuffer, c ∈ queues'.barrierBuffer := by
  rcases queues.push_cases command ingress with ⟨error, hpush⟩ | ⟨-, -, hpush⟩ | ⟨-, hpush⟩
  · rw [hpush] at h
    cases h
  · rw [hpush] at h
    cases h
    refine ⟨Or.inl (by simp [readyQueue_pushBack]), fun p c hc => ?_, fun c hc => by simpa using hc⟩
    rw [readyQueue_pushBack]
    split_ifs
    · exact List.mem_append_left _ hc
    · exact hc
  · rw [hpush] at h
    cases h
    refine ⟨Or.inr (by simp [withBuffer]), fun p c hc => by simpa using hc, fun c hc => ?_⟩
    simp only [withBuffer]
    exact List.mem_append_left _ hc

/-- The queues take the command: the ready queue of its priority has room, or, while a barrier
buffers commands, the buffer has. -/
def Accepts (command : C) (ingress : CommandIngress) : Prop :=
  if ingress.barrierState = .running ∨ ingress.barrierState = .resuming then
    (queues.readyQueue (priority command)).length < queues.limit (priority command)
  else ingress.commandMode = .buffer
    ∧ queues.barrierBuffer.length < queues.barrierBufferCapacity

lemma push_of_accepts {command : C} {ingress : CommandIngress}
    (h : queues.Accepts command ingress) :
    ∃ outcome queues', queues.push command ingress = (.ok outcome, queues') := by
  rw [Accepts] at h
  split_ifs at h with hstate
  · rw [queues.push_ready command hstate, if_pos ((queues.hasReadyCapacity_iff _).mpr h)]
    exact ⟨_, _, rfl⟩
  · rw [queues.push_barrier command hstate, if_pos h.1, if_pos h.2]
    exact ⟨_, _, rfl⟩

lemma push_of_not_accepts {command : C} {ingress : CommandIngress}
    (h : ¬ queues.Accepts command ingress) :
    ∃ error, queues.push command ingress = (.error error, queues) := by
  rw [Accepts] at h
  split_ifs at h with hstate
  · rw [queues.push_ready command hstate, if_neg fun hroom =>
      h ((queues.hasReadyCapacity_iff _).mp hroom)]
    exact ⟨_, rfl⟩
  · rw [queues.push_barrier command hstate]
    split_ifs with hmode hroom
    · exact absurd ⟨hmode, hroom⟩ h
    · exact ⟨_, rfl⟩
    · exact ⟨_, rfl⟩

/-- The commands of a priority in a list. -/
def ofPriority (p : CommandPriority) (commands : List C) : List C :=
  commands.filter fun command => decide (priority command = p)

@[simp] lemma ofPriority_nil (p : CommandPriority) : ofPriority p ([] : List C) = [] := rfl

@[simp] lemma ofPriority_append (p : CommandPriority) (commands commands' : List C) :
    ofPriority p (commands ++ commands') = ofPriority p commands ++ ofPriority p commands' :=
  List.filter_append _ _

lemma ofPriority_cons (p : CommandPriority) (command : C) (commands : List C) :
    ofPriority p (command :: commands)
      = if p = priority command then command :: ofPriority p commands
        else ofPriority p commands := by
  by_cases h : p = priority command
  · simp [ofPriority, h]
  · simp [ofPriority, h, Ne.symm h]

/-- A release moves the commands in `moved` from the front of the buffer to the backs of their
queues, within the limits, and stops at a command whose queue is full. -/
structure Released (queues queues' : CommandQueues C) (moved : List C) : Prop where
  limits : queues'.limits = queues.limits
  buffer : queues.barrierBuffer = moved ++ queues'.barrierBuffer
  ready : ∀ p, queues'.readyQueue p = queues.readyQueue p ++ ofPriority p moved
  fits : ∀ p, ofPriority p moved ≠ [] → (queues'.readyQueue p).length ≤ queues.limit p
  stops : ∀ command rest, queues'.barrierBuffer = command :: rest →
    queues.limit (priority command) ≤ (queues'.readyQueue (priority command)).length

/-- The loop releases some of what is ahead of it, and all of it unless it fails. -/
lemma releaseLoop_spec (buffer : List C) (released : ℕ) :
    ∃ moved, Released (queues.withBuffer buffer) (queues.releaseLoop buffer released).2 moved
      ∧ (queues.releaseLoop buffer released).1
        = match (queues.releaseLoop buffer released).2.barrierBuffer with
          | [] => .ok (released + moved.length)
          | command :: _ => .error (.queueFull (priority command)) := by
  induction buffer generalizing queues released with
  | nil =>
      refine ⟨[], ⟨rfl, rfl, fun p => ?_, fun p h => absurd rfl h, fun command rest h => ?_⟩, rfl⟩
      · cases p <;> simp [releaseLoop, readyQueue, withBuffer]
      · simp [releaseLoop] at h
  | cons command buffer ih =>
      by_cases hroom : queues.hasReadyCapacity (priority command) = true
      · have hstep : queues.releaseLoop (command :: buffer) released
            = (queues.pushBack (priority command) command).releaseLoop buffer (released + 1) := by
          simp [releaseLoop, hroom]
        obtain ⟨moved, hmoved, hresult⟩ :=
          ih (queues.pushBack (priority command) command) (released + 1)
        have hbuffer : buffer = moved ++ _ := hmoved.buffer
        have hready : ∀ p, ((queues.releaseLoop (command :: buffer) released).2).readyQueue p
            = queues.readyQueue p ++ ofPriority p (command :: moved) := by
          intro p
          rw [hstep, hmoved.ready p, readyQueue_withBuffer, readyQueue_pushBack, ofPriority_cons]
          split_ifs <;> simp
        refine ⟨command :: moved, ⟨?_, ?_, ?_, fun p h => ?_, fun c rest h => ?_⟩, ?_⟩
        · rw [hstep]
          exact hmoved.limits.trans (queues.limits_pushBack _ command)
        · rw [hstep, List.cons_append, ← hbuffer]
          rfl
        · intro p
          rw [hready, readyQueue_withBuffer]
        · rw [limit_withBuffer]
          by_cases hmore : ofPriority p moved = []
          · -- the command of this step is the only one of its priority
            rw [ofPriority_cons, hmore] at h
            split_ifs at h with hp
            · subst hp
              have hlt := (queues.hasReadyCapacity_iff _).mp hroom
              rw [hready, ofPriority_cons, if_pos rfl, hmore, List.length_append,
                List.length_singleton]
              omega
            · exact absurd rfl h
          · rw [hstep]
            simpa using hmoved.fits p hmore
        · rw [hstep] at h ⊢
          simpa using hmoved.stops c rest h
        · rw [hstep, hresult, List.length_cons]
          split
          · congr 1
            omega
          · rfl
      · have hstop : queues.releaseLoop (command :: buffer) released
            = (.error (.queueFull (priority command)), queues.withBuffer (command :: buffer)) := by
          simp [releaseLoop, hroom, withBuffer]
        rw [hasReadyCapacity_iff, not_lt] at hroom
        rw [hstop]
        refine ⟨[], ⟨rfl, rfl, fun p => ?_, fun p h => absurd rfl h, fun c rest h => ?_⟩, rfl⟩
        · simp
        · obtain ⟨rfl, rfl⟩ := List.cons.inj h
          simpa using hroom

/-- **What a release does.**  It fails exactly when something stays in the buffer. -/
lemma releaseBarrierBuffer_spec :
    ∃ moved, Released queues queues.releaseBarrierBuffer.2 moved
      ∧ queues.releaseBarrierBuffer.1 = match queues.releaseBarrierBuffer.2.barrierBuffer with
        | [] => .ok moved.length
        | command :: _ => .error (.queueFull (priority command)) := by
  obtain ⟨moved, hmoved, hresult⟩ := queues.releaseLoop_spec queues.barrierBuffer 0
  rw [Nat.zero_add] at hresult
  exact ⟨moved, hmoved, hresult⟩

end Priorities

end CommandQueues

end SectorSync
