import SectorSync.Core.CommandRun

/-!
# The order of commands across barriers

Two accepted commands of one priority should leave in the order in which they were accepted, also
when a barrier held one of them back.  To tell equal commands apart, a run is repeated on commands
that carry the number of their acceptance (`stampedStep`); forgetting the numbers gives the run
back (`forget_execute`).

A release keeps the order of the buffer: it stops at the first command that does not fit.  A push
does not look at the buffer.  Once a barrier has left its frozen phase, a command goes straight to
its ready queue, past the commands of its priority that are still buffered.  `fifo_iff`: commands
leave in order as long as no push `Overtakes`, and only as long.
-/

namespace SectorSync

open Machine

variable {C : Type}

/-- A command with the number of its acceptance. -/
structure Stamped (C : Type) where
  stamp : ℕ
  command : C
  deriving DecidableEq

instance [Prioritized C] : Prioritized (Stamped C) := ⟨fun stamped => priority stamped.command⟩

namespace CommandQueues

variable {C' : Type}

/-- The queues with a function applied to every command. -/
def map (f : C → C') (queues : CommandQueues C) : CommandQueues C' where
  limits := queues.limits
  high := queues.high.map f
  normal := queues.normal.map f
  low := queues.low.map f
  barrierBuffer := queues.barrierBuffer.map f

/-- A result with the queues it leaves behind mapped. -/
def mapSnd {R : Type} (f : C → C') (result : R × CommandQueues C) : R × CommandQueues C' :=
  (result.1, result.2.map f)

lemma readyQueue_map (f : C → C') (queues : CommandQueues C) (p : CommandPriority) :
    (queues.map f).readyQueue p = (queues.readyQueue p).map f := by cases p <;> rfl

lemma hasReadyCapacity_map (f : C → C') (queues : CommandQueues C) (p : CommandPriority) :
    (queues.map f).hasReadyCapacity p = queues.hasReadyCapacity p := by
  rw [hasReadyCapacity, hasReadyCapacity, readyQueue_map, List.length_map]
  cases p <;> rfl

lemma pushBack_map (f : C → C') (queues : CommandQueues C) (p : CommandPriority) (command : C) :
    (queues.map f).pushBack p (f command) = (queues.pushBack p command).map f := by
  cases p <;> simp [pushBack, map]

lemma popNext_map (f : C → C') (queues : CommandQueues C) :
    (queues.map f).popNext = (queues.popNext.1.map f, queues.popNext.2.map f) := by
  obtain ⟨limits, high, normal, low, buffer⟩ := queues
  rcases high with _ | ⟨command, high⟩
  · rcases normal with _ | ⟨command, normal⟩
    · rcases low with _ | ⟨command, low⟩ <;> rfl
    · rfl
  · rfl

section Priorities

variable [Prioritized C] [Prioritized C'] {f : C → C'}

lemma push_map (hf : ∀ command, priority (f command) = priority command)
    (queues : CommandQueues C) (command : C) (ingress : CommandIngress) :
    (queues.map f).push (f command) ingress = mapSnd f (queues.push command ingress) := by
  by_cases hstate : ingress.barrierState = .running ∨ ingress.barrierState = .resuming
  · rw [push_ready _ _ hstate, push_ready _ _ hstate, hf, hasReadyCapacity_map, pushBack_map]
    split_ifs <;> rfl
  · rw [push_barrier _ _ hstate, push_barrier _ _ hstate, hf]
    have hlen : (queues.map f).barrierBuffer.length = queues.barrierBuffer.length := by
      simp [map]
    have hcapacity : (queues.map f).barrierBufferCapacity = queues.barrierBufferCapacity := rfl
    rw [hlen, hcapacity]
    split_ifs
    · simp [mapSnd, map, withBuffer]
    · rfl
    · rfl

lemma releaseLoop_map (hf : ∀ command, priority (f command) = priority command)
    (queues : CommandQueues C) (buffer : List C) (released : ℕ) :
    (queues.map f).releaseLoop (buffer.map f) released
      = mapSnd f (queues.releaseLoop buffer released) := by
  induction buffer generalizing queues released with
  | nil => rfl
  | cons command buffer ih =>
      rw [List.map_cons, releaseLoop, releaseLoop, hf, hasReadyCapacity_map, pushBack_map, ih]
      split_ifs <;> rfl

end Priorities

end CommandQueues

namespace CommandRun

open CommandQueues

variable [Prioritized C]

/-- An operation on numbered commands: a push numbers its command. -/
def stampOp (run : CommandRun (Stamped C)) : CommandQueueOp C → CommandQueueOp (Stamped C)
  | .push command ingress => .push ⟨run.accepted.length, command⟩ ingress
  | .releaseBarrierBuffer => .releaseBarrierBuffer
  | .popNext => .popNext
  | .clearBarrierBuffer => .clearBarrierBuffer

/-- One operation, on numbered commands. -/
def stampedStep (run : CommandRun (Stamped C)) (op : CommandQueueOp C) : CommandRun (Stamped C) :=
  run.step (run.stampOp op)

omit [Prioritized C] in
/-- A run without the numbers. -/
def forget (run : CommandRun (Stamped C)) : CommandRun C where
  queues := run.queues.map Stamped.command
  accepted := run.accepted.map Stamped.command
  popped := run.popped.map Stamped.command
  cleared := run.cleared.map Stamped.command

lemma forget_stampedStep (run : CommandRun (Stamped C)) (op : CommandQueueOp C) :
    (run.stampedStep op).forget = run.forget.step op := by
  cases op with
  | push command ingress =>
      have hpush := push_map (f := Stamped.command) (fun _ => rfl) run.queues
        ⟨run.accepted.length, command⟩ ingress
      simp only [stampedStep, stampOp, step, forget]
      rw [hpush]
      rcases run.queues.push ⟨run.accepted.length, command⟩ ingress with ⟨_ | outcome, queues⟩
      · rfl
      · simp [mapSnd]
  | releaseBarrierBuffer =>
      have hrelease := releaseLoop_map (f := Stamped.command) (fun _ => rfl) run.queues
        run.queues.barrierBuffer 0
      have hstep : (run.queues.map Stamped.command).releaseBarrierBuffer
          = mapSnd Stamped.command run.queues.releaseBarrierBuffer := hrelease
      simp only [stampedStep, stampOp, step, forget]
      rw [hstep]
      rfl
  | popNext =>
      simp only [stampedStep, stampOp, step, forget]
      rw [popNext_map]
      cases run.queues.popNext.1 <;> simp
  | clearBarrierBuffer =>
      simp [stampedStep, stampOp, step, forget, clearBarrierBuffer, map]

/-- **Forgetting the numbers gives the run back.** -/
theorem forget_execute (limits : CommandQueueLimits) (ops : List (CommandQueueOp C)) :
    (execute stampedStep (new limits) ops).forget = execute step (new limits) ops := by
  have h : (execute stampedStep (new limits) ops).forget
      = execute step (forget (new limits)) (trace stampedStep (fun _ op => op) (new limits) ops) :=
    execute_trace (fun run op => forget_stampedStep (C := C) run op) (new limits) ops
  rw [trace_self] at h
  exact h

/-! ## Order -/

/-- The commands of a priority in the order in which they leave: those popped, and then those that
wait, the buffer last. -/
def leaving (run : CommandRun C) (p : CommandPriority) : List C :=
  ofPriority p run.popped ++ run.queues.readyQueue p ++ ofPriority p run.queues.barrierBuffer

/-- Commands of one priority were popped in the order of their acceptance. -/
def PopsInOrder (run : CommandRun (Stamped C)) : Prop :=
  ∀ p, (ofPriority p run.popped).Pairwise fun a b => a.stamp < b.stamp

/-- Commands of one priority leave in the order of their acceptance. -/
def LeavesInOrder (run : CommandRun (Stamped C)) : Prop :=
  ∀ p, (run.leaving p).Pairwise fun a b => a.stamp < b.stamp

/-- The operation puts a command straight into its ready queue while the barrier buffer holds a
command of its priority. -/
def Overtakes (queues : CommandQueues C) : CommandQueueOp C → Prop
  | .push command ingress =>
      (ingress.barrierState = .running ∨ ingress.barrierState = .resuming)
        ∧ (queues.readyQueue (priority command)).length < queues.limit (priority command)
        ∧ ofPriority (priority command) queues.barrierBuffer ≠ []
  | _ => False

/-- The ready queues hold commands of their own priority. -/
def Sorted (queues : CommandQueues C) : Prop :=
  ∀ p, ∀ command ∈ queues.readyQueue p, priority command = p

lemma Sorted.step {run : CommandRun C} (h : Sorted run.queues) (op : CommandQueueOp C) :
    Sorted (run.step op).queues := by
  cases op with
  | push command ingress =>
      rcases run.step_push_cases command ingress with hrun | ⟨-, -, hrun⟩ | ⟨-, hrun⟩
      · rwa [hrun]
      · rw [hrun]
        intro p c hc
        rw [readyQueue_pushBack] at hc
        split_ifs at hc with hp
        · rcases List.mem_append.mp hc with hc | hc
          · exact h p c hc
          · rw [List.mem_singleton.mp hc, hp]
        · exact h p c hc
      · rw [hrun]
        intro p c hc
        rw [readyQueue_withBuffer] at hc
        exact h p c hc
  | releaseBarrierBuffer =>
      obtain ⟨moved, hmoved, -⟩ := run.queues.releaseBarrierBuffer_spec
      intro p c hc
      rw [show (run.step .releaseBarrierBuffer).queues = run.queues.releaseBarrierBuffer.2 from rfl,
        hmoved.ready] at hc
      rcases List.mem_append.mp hc with hc | hc
      · exact h p c hc
      · simpa using (List.mem_filter.mp hc).2
  | popNext =>
      rcases run.queues.popNext_cases with ⟨hpop, -⟩ | ⟨command, p, rest, hp, -, -, -, hready⟩
      · simpa [CommandRun.step, hpop] using h
      · intro p' c hc
        rw [show (run.step .popNext).queues = run.queues.popNext.2 from rfl, hready] at hc
        split_ifs at hc with heq
        · subst heq
          exact h p' c (by rw [hp]; exact List.mem_cons_of_mem command hc)
        · exact h p' c hc
  | clearBarrierBuffer =>
      intro p c hc
      rw [show (run.step .clearBarrierBuffer).queues = run.queues.withBuffer [] from rfl,
        readyQueue_withBuffer] at hc
      exact h p c hc

/-- A release only moves commands on. -/
lemma leaving_releaseBarrierBuffer (run : CommandRun C) (p : CommandPriority) :
    (run.step .releaseBarrierBuffer).leaving p = run.leaving p := by
  obtain ⟨moved, hmoved, -⟩ := run.queues.releaseBarrierBuffer_spec
  simp only [leaving]
  rw [hmoved.buffer, ofPriority_append]
  simp only [step, hmoved.ready, List.append_assoc]

/-- A pop moves the head of a ready queue on. -/
lemma leaving_popNext {run : CommandRun C} (h : Sorted run.queues) (p : CommandPriority) :
    (run.step .popNext).leaving p = run.leaving p := by
  rcases run.queues.popNext_cases with
    ⟨hpop, -⟩ | ⟨command, p', rest, hp, hc, -, hbuffer, hready⟩
  · simp [CommandRun.step, hpop]
  · have hown : priority command = p' := h p' command (by rw [hp]; exact List.mem_cons_self)
    simp only [leaving, step, hc, hready, hbuffer, Option.toList_some, ofPriority_append,
      ofPriority_cons, ofPriority_nil, hown]
    split_ifs with heq
    · subst heq
      simp [hp]
    · simp

/-- A clear drops the end. -/
lemma leaving_clearBarrierBuffer (run : CommandRun C) (p : CommandPriority) :
    ((run.step .clearBarrierBuffer).leaving p).Sublist (run.leaving p) := by
  have hless : (run.step .clearBarrierBuffer).leaving p
      = ofPriority p run.popped ++ run.queues.readyQueue p := by
    have hready : (run.step .clearBarrierBuffer).queues = run.queues.withBuffer [] := rfl
    simp only [leaving, hready, readyQueue_withBuffer]
    simp [withBuffer, step]
  rw [hless]
  exact List.sublist_append_left _ _

/-- A push straight into a ready queue puts its command ahead of the buffered ones. -/
lemma leaving_push_ready (run : CommandRun C) {command : C} {ingress : CommandIngress}
    (hstate : ingress.barrierState = .running ∨ ingress.barrierState = .resuming)
    (hroom : (run.queues.readyQueue (priority command)).length
      < run.queues.limit (priority command)) :
    (run.step (.push command ingress)).accepted = run.accepted ++ [command]
      ∧ ∀ p, (run.step (.push command ingress)).leaving p
        = if p = priority command then
            ofPriority p run.popped ++ run.queues.readyQueue p
              ++ command :: ofPriority p run.queues.barrierBuffer
          else run.leaving p := by
  have hpush : run.step (.push command ingress)
      = { run with
          queues := run.queues.pushBack (priority command) command
          accepted := run.accepted ++ [command] } := by
    rw [← hasReadyCapacity_iff] at hroom
    simp [CommandRun.step, push_ready _ _ hstate, hroom]
  rw [hpush]
  refine ⟨rfl, fun p => ?_⟩
  simp only [leaving, readyQueue_pushBack, barrierBuffer_pushBack]
  split_ifs
  · simp
  · rfl

/-- Only a push adds to the commands that leave.  Its command comes last of its priority, unless it
overtakes those in the buffer; all other operations keep the order and may drop commands. -/
lemma leaving_step {run : CommandRun C} (h : Sorted run.queues) (op : CommandQueueOp C) :
    (¬ Overtakes run.queues op ∧ (run.step op).accepted = run.accepted
        ∧ ∀ p, ((run.step op).leaving p).Sublist (run.leaving p))
      ∨ ∃ command ingress before after, op = .push command ingress
        ∧ (run.step op).accepted = run.accepted ++ [command]
        ∧ run.leaving (priority command) = before ++ after
        ∧ (Overtakes run.queues op ↔ after ≠ [])
        ∧ ∀ p, (run.step op).leaving p
          = if p = priority command then before ++ command :: after else run.leaving p := by
  cases op with
  | push command ingress =>
      by_cases hdirect : (ingress.barrierState = .running ∨ ingress.barrierState = .resuming)
          ∧ (run.queues.readyQueue (priority command)).length < run.queues.limit (priority command)
      · obtain ⟨hstate, hroom⟩ := hdirect
        obtain ⟨haccepted, hleaving⟩ := run.leaving_push_ready hstate hroom
        refine Or.inr ⟨command, ingress,
          ofPriority (priority command) run.popped ++ run.queues.readyQueue (priority command),
          ofPriority (priority command) run.queues.barrierBuffer, rfl, haccepted, rfl,
          by simp [Overtakes, hstate, hroom], fun p => ?_⟩
        rw [hleaving]
        split_ifs with hp
        · rw [hp]
        · rfl
      · have hnot : ¬ Overtakes run.queues (.push command ingress) :=
          fun hover => hdirect ⟨hover.1, hover.2.1⟩
        rcases run.step_push_cases command ingress with hrun | ⟨hroom, hstate, -⟩ | ⟨-, hrun⟩
        · rw [hrun]
          exact Or.inl ⟨hnot, rfl, fun p => List.Sublist.refl _⟩
        · exact absurd ⟨hstate, hroom⟩ hdirect
        · refine Or.inr ⟨command, ingress, run.leaving (priority command), [], rfl, by rw [hrun],
            by rw [List.append_nil], by simp [hnot], fun p => ?_⟩
          rw [hrun]
          simp only [leaving, readyQueue_withBuffer]
          simp only [withBuffer, ofPriority_append, ofPriority_cons, ofPriority_nil]
          split_ifs with hp
          · subst hp
            simp
          · simp
  | releaseBarrierBuffer =>
      exact Or.inl ⟨id, rfl, fun p => by rw [run.leaving_releaseBarrierBuffer p]⟩
  | popNext => exact Or.inl ⟨id, rfl, fun p => by rw [leaving_popNext h p]⟩
  | clearBarrierBuffer => exact Or.inl ⟨id, rfl, run.leaving_clearBarrierBuffer⟩

/-- What every run on numbered commands keeps. -/
structure Numbered (run : CommandRun (Stamped C)) : Prop where
  sorted : Sorted run.queues
  /-- The next number is larger than those in use. -/
  below : ∀ p, ∀ command ∈ run.leaving p, command.stamp < run.accepted.length

lemma numbered_new (limits : CommandQueueLimits) :
    Numbered (new limits : CommandRun (Stamped C)) where
  sorted p command h := by simp [new] at h
  below p command h := by
    cases p <;> simp [leaving, new, CommandQueues.new, readyQueue] at h

omit [Prioritized C] in
lemma stamp_of_push {run : CommandRun (Stamped C)} {op : CommandQueueOp C} {command : Stamped C}
    {ingress : CommandIngress} (h : run.stampOp op = .push command ingress) :
    command.stamp = run.accepted.length := by
  cases op with
  | push c i =>
      obtain ⟨rfl, -⟩ := CommandQueueOp.push.inj h
      rfl
  | releaseBarrierBuffer => cases h
  | popNext => cases h
  | clearBarrierBuffer => cases h

lemma Numbered.step {run : CommandRun (Stamped C)} (h : Numbered run) (op : CommandQueueOp C) :
    Numbered (run.stampedStep op) where
  sorted := h.sorted.step (run.stampOp op)
  below := by
    intro p c hc
    show c.stamp < (run.step (run.stampOp op)).accepted.length
    rcases leaving_step h.sorted (run.stampOp op) with
      ⟨-, haccepted, hsub⟩ | ⟨command, ingress, before, after, hop, haccepted, hleaving, -, hstep⟩
    · rw [haccepted]
      exact h.below p c ((hsub p).subset hc)
    · rw [haccepted, List.length_append, List.length_singleton]
      have hstamp := stamp_of_push hop
      have hold : ∀ c' ∈ run.leaving p, c'.stamp < run.accepted.length + 1 :=
        fun c' hc' => Nat.lt_succ_of_lt (h.below p c' hc')
      rw [show (run.stampedStep op).leaving p = _ from hstep p] at hc
      split_ifs at hc with hp
      · subst hp
        rw [hleaving] at hold
        rcases List.mem_append.mp hc with hc | hc
        · exact hold c (List.mem_append_left after hc)
        · rcases List.mem_cons.mp hc with rfl | hc
          · omega
          · exact hold c (List.mem_append_right before hc)
      · exact hold c hc

/-- **A step keeps the order exactly when it does not overtake.** -/
theorem leavesInOrder_stampedStep {run : CommandRun (Stamped C)} (h : Numbered run)
    (horder : LeavesInOrder run) (op : CommandQueueOp C) :
    LeavesInOrder (run.stampedStep op) ↔ ¬ Overtakes run.queues (run.stampOp op) := by
  rcases leaving_step h.sorted (run.stampOp op) with
    ⟨hnot, -, hsub⟩ | ⟨command, ingress, before, after, hop, -, hleaving, hover, hstep⟩
  · exact iff_of_true (fun p => (horder p).sublist (hsub p)) hnot
  · rw [hover, not_not]
    have hstamp := stamp_of_push hop
    have hold := horder (priority command)
    have hbelow := h.below (priority command)
    rw [hleaving] at hold hbelow
    constructor
    · intro hnew
      have hcommand := hnew (priority command)
      rw [show (run.stampedStep op).leaving (priority command) = _ from hstep _, if_pos rfl]
        at hcommand
      -- what follows the new command has a smaller number
      rw [List.eq_nil_iff_forall_not_mem]
      intro c hc
      have hlt := (List.pairwise_cons.mp (List.pairwise_append.mp hcommand).2.1).1 c hc
      have hlt' := hbelow c (List.mem_append_right before hc)
      omega
    · rintro rfl p
      rw [show (run.stampedStep op).leaving p = _ from hstep p]
      split_ifs with hp
      · rw [List.append_nil] at hold hbelow
        refine List.pairwise_append.mpr ⟨hold, List.pairwise_singleton _ _, fun a ha b hb => ?_⟩
        rw [List.mem_singleton.mp hb, hstamp]
        exact hbelow a ha
      · exact horder p

lemma ofPriority_map_command (p : CommandPriority) (commands : List (Stamped C)) :
    ofPriority p (commands.map Stamped.command) = (ofPriority p commands).map Stamped.command := by
  simp only [ofPriority, List.filter_map]
  rfl

lemma overtakes_stampOp (run : CommandRun (Stamped C)) (op : CommandQueueOp C) :
    Overtakes run.queues (run.stampOp op) ↔ Overtakes run.forget.queues op := by
  cases op with
  | push command ingress =>
      have hpriority : priority (⟨run.accepted.length, command⟩ : Stamped C) = priority command :=
        rfl
      have hlimit : run.forget.queues.limit (priority command)
          = run.queues.limit (priority command) := by
        cases priority command <;> rfl
      have hbuffer : run.forget.queues.barrierBuffer
          = run.queues.barrierBuffer.map Stamped.command := rfl
      have hready : run.forget.queues.readyQueue (priority command)
          = (run.queues.readyQueue (priority command)).map Stamped.command :=
        readyQueue_map _ _ _
      simp only [stampOp, Overtakes, hpriority, hlimit, hbuffer, hready, List.length_map,
        ofPriority_map_command, ne_eq, List.map_eq_nil_iff]
  | releaseBarrierBuffer => exact Iff.rfl
  | popNext => exact Iff.rfl
  | clearBarrierBuffer => exact Iff.rfl

lemma LeavesInOrder.popsInOrder {run : CommandRun (Stamped C)} (h : LeavesInOrder run) :
    PopsInOrder run := by
  intro p
  refine (h p).sublist ?_
  rw [leaving, List.append_assoc]
  exact List.sublist_append_left _ _

/-- **Commands keep their order exactly while no command overtakes the buffer.**  In every state of
a run in which no command is accepted straight into a ready queue while the buffer holds one of its
priority, commands of one priority have been popped in the order of their acceptance; and exactly
in these runs every state has the commands that are left in that order.  The numbers that tell
commands apart change nothing. -/
theorem fifo_iff (limits : CommandQueueLimits) (ops : List (CommandQueueOp C)) :
    (AllSteps step (fun run op => ¬ Overtakes run.queues op) (new limits) ops →
        ∀ pre, pre <+: ops → PopsInOrder (execute stampedStep (new limits) pre))
      ∧ ((∀ pre, pre <+: ops → LeavesInOrder (execute stampedStep (new limits) pre))
        ↔ AllSteps step (fun run op => ¬ Overtakes run.queues op) (new limits) ops)
      ∧ (execute stampedStep (new limits) ops).forget = execute step (new limits) ops := by
  have hplain : AllSteps step (fun run op => ¬ Overtakes run.queues op) (new limits) ops
      ↔ AllSteps stampedStep (fun run op => ¬ Overtakes run.queues (run.stampOp op))
        (new limits) ops := by
    have h : AllSteps step (fun run op => ¬ Overtakes run.queues op) (forget (new limits))
          (trace stampedStep (fun _ op => op) (new limits) ops)
        ↔ AllSteps stampedStep (fun run op => ¬ Overtakes run.forget.queues op) (new limits) ops :=
      allSteps_trace (fun run op => forget_stampedStep (C := C) run op) _ (new limits) ops
    rw [trace_self] at h
    rw [show (new limits : CommandRun C) = forget (new limits) from rfl, h]
    exact allSteps_congr (fun run op => not_congr (overtakes_stampOp run op).symm) _ ops
  have hiff : (∀ pre, pre <+: ops → LeavesInOrder (execute stampedStep (new limits) pre))
      ↔ AllSteps stampedStep (fun run op => ¬ Overtakes run.queues (run.stampOp op))
        (new limits) ops := by
    have hstep : ∀ (run : CommandRun (Stamped C)) (op : CommandQueueOp C),
        Numbered run ∧ LeavesInOrder run → True →
        (¬ Overtakes run.queues (run.stampOp op) →
            Numbered (run.stampedStep op) ∧ LeavesInOrder (run.stampedStep op))
          ∧ (LeavesInOrder (run.stampedStep op) → ¬ Overtakes run.queues (run.stampOp op)) := by
      rintro run op ⟨hnumbered, horder⟩ -
      have hkeep := leavesInOrder_stampedStep hnumbered horder op
      exact ⟨fun hok => ⟨hnumbered.step op, hkeep.mpr hok⟩, hkeep.mp⟩
    refine forall_prefix_iff_allSteps (fun _ h => h.2) hstep ⟨numbered_new limits, ?_⟩
      fun _ _ => trivial
    intro p
    cases p <;> exact List.Pairwise.nil
  rw [hplain]
  exact ⟨fun h pre hpre => (hiff.mpr h pre hpre).popsInOrder, hiff, forget_execute limits ops⟩

/-- A normal command of client 7. -/
def gameplayCommand (sequence : UInt64) : CommandEnvelope :=
  ⟨⟨sequence⟩, ⟨7⟩, ⟨10⟩, sequence, ⟨0⟩, 1, .normal, []⟩

/-- A command is buffered during a freeze and the next one comes in after it; the first is released
when the second has been applied. -/
def resumeBeforeRelease : List (CommandQueueOp CommandEnvelope) :=
  [.push (gameplayCommand 1) ⟨.frozen, .buffer⟩, .push (gameplayCommand 2) ⟨.resuming, .buffer⟩,
    .popNext, .releaseBarrierBuffer, .popNext]

/-- The second command leaves first. -/
theorem buffered_command_overtaken :
    ¬ PopsInOrder (execute stampedStep (new .default) resumeBeforeRelease) := by
  intro h
  exact absurd (h .normal) (by decide)

end CommandRun

end SectorSync
