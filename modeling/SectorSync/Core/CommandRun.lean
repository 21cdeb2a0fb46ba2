import Mathlib.Algebra.Order.Group.Multiset
import Mathlib.Tactic.Abel
import SectorSync.Base.Run
import SectorSync.Core.Command

/-!
# Runs of the command queues

A run pushes commands under any barrier phase, releases the buffer, pops commands and clears the
buffer, in any order.  `CommandRun` keeps beside the queues what was accepted, popped and cleared.

`commands_conserved` is what every run keeps: an accepted command is popped, queued, buffered or
cleared, the queues and the buffer stay within their limits, and a release moves the longest
prefix of the buffer that fits.
-/

namespace SectorSync

open Machine

variable {C : Type}

/-! ## The ready queues together -/

namespace CommandQueues

/-- The commands in the ready queues. -/
def readyCommands (queues : CommandQueues C) : Multiset C :=
  (queues.readyQueue .high : Multiset C) + queues.readyQueue .normal + queues.readyQueue .low

lemma readyCommands_pushBack (queues : CommandQueues C) (p : CommandPriority) (command : C) :
    (queues.pushBack p command).readyCommands = queues.readyCommands + {command} := by
  cases p <;> simp only [readyCommands, readyQueue_pushBack] <;> simp [← Multiset.coe_add] <;> abel

@[simp] lemma readyCommands_withBuffer (queues : CommandQueues C) (buffer : List C) :
    (queues.withBuffer buffer).readyCommands = queues.readyCommands := by
  simp [readyCommands]

lemma barrierBufferCapacity_congr {queues queues' : CommandQueues C}
    (h : queues'.limits = queues.limits) :
    queues'.barrierBufferCapacity = queues.barrierBufferCapacity := by
  simp [barrierBufferCapacity, h]

lemma readyCommands_popNext (queues : CommandQueues C) :
    queues.readyCommands = queues.popNext.1.toList + queues.popNext.2.readyCommands := by
  rcases queues.popNext_cases with ⟨h, -⟩ | ⟨command, p, rest, hp, hc, -, -, hready⟩
  · simp [h]
  · cases p <;> simp [readyCommands, hready, hp, hc, ← Multiset.cons_coe, Multiset.cons_add,
      Multiset.add_cons]

variable [Prioritized C]

/-- A list is made up of its commands of each priority. -/
lemma sum_ofPriority (commands : List C) :
    (ofPriority .high commands : Multiset C) + ofPriority .normal commands
      + ofPriority .low commands = commands := by
  induction commands with
  | nil => rfl
  | cons command commands ih =>
      simp only [ofPriority_cons]
      rw [← Multiset.cons_coe, ← ih]
      cases priority command <;> simp [← Multiset.cons_coe, Multiset.cons_add, Multiset.add_cons]

lemma Released.readyCommands_eq {queues queues' : CommandQueues C} {moved : List C}
    (h : Released queues queues' moved) : queues'.readyCommands = queues.readyCommands + moved := by
  rw [← sum_ofPriority moved]
  simp only [readyCommands, h.ready, ← Multiset.coe_add]
  abel

/-- The commands fit into the ready queues. -/
def Fits (queues : CommandQueues C) (commands : List C) : Prop :=
  ∀ p, (queues.readyQueue p).length + (ofPriority p commands).length ≤ queues.limit p

/-- The release moves the longest prefix of the buffer that fits, keeps the rest, and reports how
many commands it moved or, when a command stays behind, the priority of the first. -/
def ReleasesLongest (queues : CommandQueues C) : Prop :=
  ∃ moved, Released queues queues.releaseBarrierBuffer.2 moved
    ∧ queues.Fits moved
    ∧ (∀ more, more <+: queues.barrierBuffer → queues.Fits more → more.length ≤ moved.length)
    ∧ queues.releaseBarrierBuffer.1 = match queues.releaseBarrierBuffer.2.barrierBuffer with
      | [] => .ok moved.length
      | command :: _ => .error (.queueFull (priority command))

/-- Within the limits, a release moves the longest prefix that fits. -/
lemma releasesLongest {queues : CommandQueues C}
    (hwithin : ∀ p, (queues.readyQueue p).length ≤ queues.limit p) : queues.ReleasesLongest := by
  obtain ⟨moved, hmoved, hresult⟩ := queues.releaseBarrierBuffer_spec
  refine ⟨moved, hmoved, fun p => ?_, fun more hmore hfits => ?_, hresult⟩
  · by_cases hnone : ofPriority p moved = []
    · rw [hnone, List.length_nil, Nat.add_zero]
      exact hwithin p
    · rw [← List.length_append, ← hmoved.ready p]
      exact hmoved.fits p hnone
  · by_contra hlt
    rw [not_le] at hlt
    -- a longer prefix goes on with the command at which the release stopped
    have hprefixes : moved <+: more :=
      List.prefix_of_prefix_length_le ⟨_, hmoved.buffer.symm⟩ hmore hlt.le
    obtain ⟨tail, rfl⟩ := hprefixes
    obtain ⟨rest, hrest⟩ := hmore
    rw [hmoved.buffer, List.append_assoc] at hrest
    have htail : tail ++ rest = queues.releaseBarrierBuffer.2.barrierBuffer :=
      List.append_cancel_left hrest
    cases tail with
    | nil => simp at hlt
    | cons command tail =>
        have hfull := hmoved.stops command (tail ++ rest) htail.symm
        have hroom := hfits (priority command)
        rw [hmoved.ready, List.length_append] at hfull
        rw [ofPriority_append, ofPriority_cons, if_pos rfl, List.length_append,
          List.length_cons] at hroom
        omega

end CommandQueues

/-! ## Runs -/

/-- An operation on the queues. -/
inductive CommandQueueOp (C : Type) where
  | push (command : C) (ingress : CommandIngress)
  | releaseBarrierBuffer
  | popNext
  | clearBarrierBuffer

/-- The queues and what has gone through them, the oldest first. -/
structure CommandRun (C : Type) where
  queues : CommandQueues C
  accepted : List C
  popped : List C
  cleared : List C

namespace CommandRun

open CommandQueues

/-- Empty queues. -/
def new (limits : CommandQueueLimits) : CommandRun C := ⟨.new limits, [], [], []⟩

variable [Prioritized C]

/-- One operation. -/
def step (run : CommandRun C) : CommandQueueOp C → CommandRun C
  | .push command ingress =>
      match run.queues.push command ingress with
      | (.ok _, queues) => { run with queues := queues, accepted := run.accepted ++ [command] }
      | (.error _, queues) => { run with queues := queues }
  | .releaseBarrierBuffer => { run with queues := run.queues.releaseBarrierBuffer.2 }
  | .popNext =>
      { run with
        queues := run.queues.popNext.2
        popped := run.popped ++ run.queues.popNext.1.toList }
  | .clearBarrierBuffer =>
      { run with
        queues := run.queues.clearBarrierBuffer.2
        cleared := run.cleared ++ run.queues.barrierBuffer }

/-- A push in a run. -/
lemma step_push_cases (run : CommandRun C) (command : C) (ingress : CommandIngress) :
    run.step (.push command ingress) = run
      ∨ ((run.queues.readyQueue (priority command)).length < run.queues.limit (priority command)
        ∧ (ingress.barrierState = .running ∨ ingress.barrierState = .resuming)
        ∧ run.step (.push command ingress)
          = { run with
              queues := run.queues.pushBack (priority command) command
              accepted := run.accepted ++ [command] })
      ∨ (run.queues.barrierBuffer.length < run.queues.barrierBufferCapacity
        ∧ run.step (.push command ingress)
          = { run with
              queues := run.queues.withBuffer (run.queues.barrierBuffer ++ [command])
              accepted := run.accepted ++ [command] }) := by
  rcases run.queues.push_cases command ingress with ⟨error, h⟩ | ⟨hroom, hstate, h⟩ | ⟨hroom, h⟩
  · exact Or.inl (by simp [step, h])
  · exact Or.inr (Or.inl ⟨hroom, hstate, by simp [step, h]⟩)
  · exact Or.inr (Or.inr ⟨hroom, by simp [step, h]⟩)

/-! ## Conservation -/

/-- No command is lost and no limit is passed. -/
structure Conserved (limits : CommandQueueLimits) (run : CommandRun C) : Prop where
  limits : run.queues.limits = limits
  balance : (run.accepted : Multiset C)
    = run.popped + run.queues.readyCommands + run.queues.barrierBuffer + run.cleared
  within : ∀ p, (run.queues.readyQueue p).length ≤ run.queues.limit p
  buffered : run.queues.barrierBuffer.length ≤ run.queues.barrierBufferCapacity

omit [Prioritized C] in
lemma conserved_new (limits : CommandQueueLimits) :
    Conserved limits (new limits : CommandRun C) where
  limits := rfl
  balance := by simp [new, CommandQueues.new, readyCommands, readyQueue]
  within p := by simp [new]
  buffered := by simp [new, CommandQueues.new]

section Step

variable {limits : CommandQueueLimits} {run : CommandRun C}

lemma Conserved.push (h : Conserved limits run) (command : C) (ingress : CommandIngress) :
    Conserved limits (run.step (.push command ingress)) := by
  rcases run.step_push_cases command ingress with hrun | ⟨hroom, -, hrun⟩ | ⟨hroom, hrun⟩
  · rw [hrun]
    exact h
  · rw [hrun]
    refine ⟨(limits_pushBack _ _ _).trans h.limits, ?_, fun p => ?_, ?_⟩
    · simp only [readyCommands_pushBack, barrierBuffer_pushBack, ← Multiset.coe_add,
        h.balance, Multiset.coe_singleton]
      abel
    · rw [readyQueue_pushBack, limit_pushBack]
      split_ifs with hp
      · subst hp
        rw [List.length_append, List.length_singleton]
        omega
      · exact h.within p
    · rw [barrierBuffer_pushBack, barrierBufferCapacity_congr (limits_pushBack _ _ _)]
      exact h.buffered
  · rw [hrun]
    refine ⟨h.limits, ?_, fun p => ?_, ?_⟩
    · show ((run.accepted ++ [command] : List C) : Multiset C)
        = run.popped + (run.queues.withBuffer _).readyCommands
          + (run.queues.barrierBuffer ++ [command] : List C) + run.cleared
      simp only [readyCommands_withBuffer, ← Multiset.coe_add, h.balance,
        Multiset.coe_singleton]
      abel
    · simpa using h.within p
    · show (run.queues.barrierBuffer ++ [command]).length ≤ run.queues.barrierBufferCapacity
      rw [List.length_append, List.length_singleton]
      omega

/-- What is released was buffered before, and fits. -/
lemma Conserved.releaseBarrierBuffer (h : Conserved limits run) :
    Conserved limits (run.step .releaseBarrierBuffer) := by
  obtain ⟨moved, hmoved, -⟩ := run.queues.releaseBarrierBuffer_spec
  refine ⟨hmoved.limits.trans h.limits, ?_, fun p => ?_, ?_⟩
  · show (run.accepted : Multiset C) = run.popped
      + run.queues.releaseBarrierBuffer.2.readyCommands
      + run.queues.releaseBarrierBuffer.2.barrierBuffer + run.cleared
    rw [h.balance, hmoved.buffer, hmoved.readyCommands_eq, ← Multiset.coe_add]
    abel
  · show (run.queues.releaseBarrierBuffer.2.readyQueue p).length
      ≤ run.queues.releaseBarrierBuffer.2.limit p
    rw [limit_congr hmoved.limits]
    by_cases hnone : ofPriority p moved = []
    · rw [hmoved.ready, hnone, List.append_nil]
      exact h.within p
    · exact hmoved.fits p hnone
  · show run.queues.releaseBarrierBuffer.2.barrierBuffer.length
      ≤ run.queues.releaseBarrierBuffer.2.barrierBufferCapacity
    rw [barrierBufferCapacity_congr hmoved.limits]
    have hlen := congrArg List.length hmoved.buffer
    rw [List.length_append] at hlen
    have := h.buffered
    omega

lemma Conserved.popNext (h : Conserved limits run) : Conserved limits (run.step .popNext) := by
  rcases run.queues.popNext_cases with
    ⟨hpop, -⟩ | ⟨command, p, rest, hp, hc, hlimits, hbuffer, hready⟩
  · have hrun : run.step (.popNext : CommandQueueOp C) = run := by
      simp [CommandRun.step, hpop]
    rw [hrun]
    exact h
  · refine ⟨hlimits.trans h.limits, ?_, fun p' => ?_, ?_⟩
    · show (run.accepted : Multiset C)
        = (run.popped ++ run.queues.popNext.1.toList : List C)
          + run.queues.popNext.2.readyCommands + run.queues.popNext.2.barrierBuffer
          + run.cleared
      rw [h.balance, run.queues.readyCommands_popNext, hbuffer, ← Multiset.coe_add]
      abel
    · show (run.queues.popNext.2.readyQueue p').length ≤ run.queues.popNext.2.limit p'
      rw [hready, limit_congr hlimits]
      split_ifs with heq
      · subst heq
        have hlen := h.within p'
        rw [hp, List.length_cons] at hlen
        omega
      · exact h.within p'
    · show run.queues.popNext.2.barrierBuffer.length
        ≤ run.queues.popNext.2.barrierBufferCapacity
      rw [hbuffer, barrierBufferCapacity_congr hlimits]
      exact h.buffered

lemma Conserved.clearBarrierBuffer (h : Conserved limits run) :
    Conserved limits (run.step .clearBarrierBuffer) := by
  refine ⟨h.limits, ?_, fun p => ?_, ?_⟩
  · show (run.accepted : Multiset C) = run.popped + (run.queues.withBuffer []).readyCommands
      + ([] : List C) + (run.cleared ++ run.queues.barrierBuffer : List C)
    rw [h.balance, readyCommands_withBuffer, ← Multiset.coe_add, Multiset.coe_nil]
    abel
  · show ((run.queues.withBuffer []).readyQueue p).length ≤ (run.queues.withBuffer []).limit p
    simpa using h.within p
  · exact Nat.zero_le _

/-- Every operation keeps the balance and the limits. -/
lemma Conserved.step (h : Conserved limits run) (op : CommandQueueOp C) :
    Conserved limits (run.step op) := by
  cases op with
  | push command ingress => exact h.push command ingress
  | releaseBarrierBuffer => exact h.releaseBarrierBuffer
  | popNext => exact h.popNext
  | clearBarrierBuffer => exact h.clearBarrierBuffer

end Step

/-- **Commands are conserved.**  In every run the accepted commands are the popped, the queued, the
buffered and the cleared ones, the queues and the buffer stay within their limits, a rejected push
changes nothing, and a release, failed or not, moves the longest prefix of the buffer that fits and
keeps the rest. -/
theorem commands_conserved (limits : CommandQueueLimits) (ops : List (CommandQueueOp C)) :
    let run := execute step (new limits) ops
    (run.accepted : Multiset C)
        = run.popped + run.queues.readyCommands + run.queues.barrierBuffer + run.cleared
      ∧ (run.queues.high.length ≤ limits.high ∧ run.queues.normal.length ≤ limits.normal
        ∧ run.queues.low.length ≤ limits.low)
      ∧ run.queues.barrierBuffer.length
        ≤ usizeSaturatingAdd (usizeSaturatingAdd limits.high limits.normal) limits.low
      ∧ (∀ command ingress error, (run.queues.push command ingress).1 = .error error →
        (run.queues.push command ingress).2 = run.queues)
      ∧ run.queues.ReleasesLongest := by
  intro run
  have h : Conserved limits run :=
    execute_preserves (fun _ op h => h.step op) (conserved_new limits) ops
  have hlimits := h.limits
  refine ⟨h.balance, ⟨?_, ?_, ?_⟩, ?_, fun command ingress error hfail => ?_,
    releasesLongest h.within⟩
  · rw [← hlimits]
    exact h.within .high
  · rw [← hlimits]
    exact h.within .normal
  · rw [← hlimits]
    exact h.within .low
  · rw [← hlimits]
    exact h.buffered
  · rcases run.queues.push_cases command ingress with ⟨_, hpush⟩ | ⟨-, -, hpush⟩ | ⟨-, hpush⟩
    · rw [hpush]
    · rw [hpush] at hfail
      cases hfail
    · rw [hpush] at hfail
      cases hfail

end CommandRun

end SectorSync
