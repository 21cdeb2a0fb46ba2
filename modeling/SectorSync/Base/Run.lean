import Mathlib.Data.List.Induction

/-!
# Runs of a state machine

A machine is a step function `σ → ε → σ`; nondeterminism is in the operation.  `execute` runs
a list of operations, `AllSteps` says that every step of a run meets a condition on the state
before it, and the rules below turn what one step preserves into what a run preserves.
-/

namespace Machine

universe u v

variable {σ : Type u} {ε : Type v}

/-- The state after running the operations in order. -/
def execute (step : σ → ε → σ) (s : σ) (ops : List ε) : σ := ops.foldl step s

variable {step : σ → ε → σ} {s : σ}

@[simp] lemma execute_nil : execute step s [] = s := rfl

@[simp] lemma execute_cons (op : ε) (ops : List ε) :
    execute step s (op :: ops) = execute step (step s op) ops := rfl

lemma execute_append (ops ops' : List ε) :
    execute step s (ops ++ ops') = execute step (execute step s ops) ops' := by
  simp [execute]

@[simp] lemma execute_concat (ops : List ε) (op : ε) :
    execute step s (ops ++ [op]) = step (execute step s ops) op := by
  simp [execute]

/-- Every step of the run meets `ok` in the state before it. -/
def AllSteps (step : σ → ε → σ) (ok : σ → ε → Prop) : σ → List ε → Prop
  | _, [] => True
  | s, op :: ops => ok s op ∧ AllSteps step ok (step s op) ops

variable {ok : σ → ε → Prop}

@[simp] lemma allSteps_nil : AllSteps step ok s [] := trivial

@[simp] lemma allSteps_cons {op : ε} {ops : List ε} :
    AllSteps step ok s (op :: ops) ↔ ok s op ∧ AllSteps step ok (step s op) ops := Iff.rfl

lemma allSteps_append {ops ops' : List ε} :
    AllSteps step ok s (ops ++ ops')
      ↔ AllSteps step ok s ops ∧ AllSteps step ok (execute step s ops) ops' := by
  induction ops generalizing s with
  | nil => simp
  | cons op ops ih => simp [ih, and_assoc]

lemma allSteps_congr {ok' : σ → ε → Prop} (h : ∀ s op, ok s op ↔ ok' s op) (s : σ)
    (ops : List ε) : AllSteps step ok s ops ↔ AllSteps step ok' s ops := by
  induction ops generalizing s with
  | nil => exact Iff.rfl
  | cons op ops ih => rw [allSteps_cons, allSteps_cons, h, ih]

/-- Conditions that agree in the states of an invariant agree along runs. -/
lemma allSteps_congr_of_invariant {I : σ → Prop} {ok' : σ → ε → Prop}
    (hinv : ∀ s op, I s → I (step s op)) (h : ∀ s op, I s → (ok s op ↔ ok' s op)) {s : σ} (hs : I s)
    (ops : List ε) : AllSteps step ok s ops ↔ AllSteps step ok' s ops := by
  induction ops generalizing s with
  | nil => exact Iff.rfl
  | cons op ops ih => rw [allSteps_cons, allSteps_cons, h s op hs, ih (hinv s op hs)]

lemma allSteps_iff_forall_prefix {ops : List ε} :
    AllSteps step ok s ops
      ↔ ∀ pre op, pre ++ [op] <+: ops → ok (execute step s pre) op := by
  constructor
  · rintro h pre op ⟨post, rfl⟩
    exact (allSteps_append.mp (allSteps_append.mp h).1).2.1
  · intro h
    induction ops generalizing s with
    | nil => exact trivial
    | cons op ops ih =>
        refine ⟨h [] op (by simp), ih fun pre op' hpre => ?_⟩
        exact h (op :: pre) op' ((List.prefix_cons_inj op).mpr hpre)

/-- Steps meeting `ok` meet `ok'` when an invariant that they keep says so. -/
lemma allSteps_of_invariant {I : σ → Prop} {ok' : σ → ε → Prop}
    (hstep : ∀ s op, I s → ok s op → ok' s op ∧ I (step s op)) {s : σ} {ops : List ε} (hs : I s)
    (hok : AllSteps step ok s ops) : AllSteps step ok' s ops := by
  induction ops generalizing s with
  | nil => trivial
  | cons op ops ih =>
      obtain ⟨hok', hnext⟩ := hstep s op hs hok.1
      exact ⟨hok', ih hnext hok.2⟩

lemma allSteps_forall {ι : Type*} {ok : ι → σ → ε → Prop} {ops : List ε} :
    (∀ i, AllSteps step (ok i) s ops) ↔ AllSteps step (fun s op => ∀ i, ok i s op) s ops := by
  induction ops generalizing s with
  | nil => exact ⟨fun _ => trivial, fun _ _ => trivial⟩
  | cons op ops ih => simp only [allSteps_cons, forall_and, ih]

lemma allSteps_and {ok' : σ → ε → Prop} {ops : List ε} :
    AllSteps step (fun s op => ok s op ∧ ok' s op) s ops
      ↔ AllSteps step ok s ops ∧ AllSteps step ok' s ops := by
  induction ops generalizing s with
  | nil => simp
  | cons op ops ih => simp only [allSteps_cons, ih, and_and_and_comm]

instance decidableAllSteps [∀ s op, Decidable (ok s op)] :
    ∀ (s : σ) (ops : List ε), Decidable (AllSteps step ok s ops)
  | _, [] => isTrue trivial
  | s, op :: ops =>
      haveI := decidableAllSteps (step s op) ops
      inferInstanceAs (Decidable (ok s op ∧ AllSteps step ok (step s op) ops))

/-- **The invariant rule.**  What every step meeting `ok` preserves holds at the end of a run
whose steps all meet `ok`. -/
theorem execute_invariant {I : σ → Prop} (hstep : ∀ s op, I s → ok s op → I (step s op))
    {s : σ} {ops : List ε} (hs : I s) (hok : AllSteps step ok s ops) : I (execute step s ops) := by
  induction ops generalizing s with
  | nil => exact hs
  | cons op ops ih => exact ih (hstep s op hs hok.1) hok.2

/-- The invariant rule for steps that preserve the invariant unconditionally. -/
theorem execute_preserves {I : σ → Prop} (hstep : ∀ s op, I s → I (step s op)) {s : σ}
    (hs : I s) (ops : List ε) : I (execute step s ops) := by
  induction ops generalizing s with
  | nil => exact hs
  | cons op ops ih => exact ih (hstep s op hs)

/-- The state after running operations that need not be defined, in order. -/
def executeOption (step : σ → ε → Option σ) : σ → List ε → Option σ
  | s, [] => some s
  | s, op :: ops => (step s op).bind fun s => executeOption step s ops

/-- The invariant rule for steps that are defined in the states of the invariant. -/
theorem executeOption_defined {step : σ → ε → Option σ} {I : σ → Prop}
    (hstep : ∀ s op, I s → ∃ s', step s op = some s' ∧ I s') {s : σ} (hs : I s) (ops : List ε) :
    ∃ s', executeOption step s ops = some s' ∧ I s' := by
  induction ops generalizing s with
  | nil => exact ⟨s, rfl, hs⟩
  | cons op ops ih =>
      obtain ⟨next, hnext, hI⟩ := hstep s op hs
      obtain ⟨final, hfinal, hIfinal⟩ := ih hI
      refine ⟨final, ?_, hIfinal⟩
      rw [executeOption, hnext, Option.bind_some, hfinal]

/-- The invariant rule for runs that are defined. -/
theorem executeOption_invariant {step : σ → ε → Option σ} {I : σ → Prop}
    (hstep : ∀ s op s', I s → step s op = some s' → I s') {s s' : σ} (hs : I s) {ops : List ε}
    (hrun : executeOption step s ops = some s') : I s' := by
  induction ops generalizing s with
  | nil => exact Option.some.inj hrun ▸ hs
  | cons op ops ih =>
      obtain ⟨next, hnext, hrest⟩ := Option.bind_eq_some_iff.mp hrun
      exact ih (hstep s op next hs hnext) hrest

/-- Steps that are defined in the states of the invariant and do there what an abstract machine
does make runs that do so. -/
theorem executeOption_simulates {σ' : Type*} {step : σ → ε → Option σ} {step' : σ' → ε → σ'}
    {abs : σ → σ'} {I : σ → Prop}
    (hstep : ∀ s op, I s → ∃ s', step s op = some s' ∧ I s' ∧ abs s' = step' (abs s) op) {s : σ}
    (hs : I s) (ops : List ε) :
    ∃ s', executeOption step s ops = some s' ∧ I s' ∧ abs s' = execute step' (abs s) ops := by
  induction ops generalizing s with
  | nil => exact ⟨s, rfl, hs, rfl⟩
  | cons op ops ih =>
      obtain ⟨next, hnext, hI, habs⟩ := hstep s op hs
      obtain ⟨final, hfinal, hIfinal, habsfinal⟩ := ih hI
      refine ⟨final, ?_, hIfinal, ?_⟩
      · rw [executeOption, hnext, Option.bind_some, hfinal]
      · rw [habsfinal, execute_cons, habs]

lemma execute_map {ι : Type*} (f : ι → ε) (l : List ι) (s : σ) :
    execute step s (l.map f) = execute (fun s i => step s (f i)) s l := by
  rw [execute, List.foldl_map]
  rfl

lemma allSteps_map {ι : Type*} (f : ι → ε) (l : List ι) (s : σ) :
    AllSteps step ok s (l.map f)
      ↔ AllSteps (fun s i => step s (f i)) (fun s i => ok s (f i)) s l := by
  induction l generalizing s with
  | nil => exact Iff.rfl
  | cons i l ih => rw [List.map_cons, allSteps_cons, allSteps_cons, ih]

/-- When a step meeting `ok` keeps an invariant that implies `C`, and a step not meeting it breaks
`C`, a run has `C` in all its states exactly when all its steps meet `ok`.  `P` is what is known
of every operation. -/
theorem forall_prefix_iff_allSteps {I C : σ → Prop} {P : ε → Prop} (hC : ∀ s, I s → C s)
    (hstep : ∀ s op, I s → P op → (ok s op → I (step s op)) ∧ (C (step s op) → ok s op)) {s : σ}
    {ops : List ε} (hs : I s) (hP : ∀ op ∈ ops, P op) :
    (∀ pre, pre <+: ops → C (execute step s pre)) ↔ AllSteps step ok s ops := by
  induction ops generalizing s with
  | nil =>
      refine iff_of_true (fun pre hpre => ?_) trivial
      rw [List.prefix_nil.mp hpre]
      exact hC s hs
  | cons op ops ih =>
      obtain ⟨hkeep, hbreak⟩ := hstep s op hs (hP op List.mem_cons_self)
      have htail : ∀ op ∈ ops, P op := fun op' h => hP op' (List.mem_cons_of_mem op h)
      rw [allSteps_cons]
      constructor
      · intro h
        have hok : ok s op := hbreak (h [op] (by simp))
        exact ⟨hok, (ih (hkeep hok) htail).mp fun pre hpre =>
          h (op :: pre) ((List.prefix_cons_inj op).mpr hpre)⟩
      · rintro ⟨hok, hrest⟩ pre hpre
        rcases List.prefix_cons_iff.mp hpre with rfl | ⟨pre', rfl, hpre'⟩
        · exact hC s hs
        · exact (ih (hkeep hok) htail).mpr hrest pre' hpre'

/-- When every step keeps the invariant exactly under `ok`, a run keeps it in all its states
exactly when all its steps meet `ok`. -/
theorem forall_prefix_invariant_iff {I : σ → Prop} {P : ε → Prop}
    (hstep : ∀ s op, I s → P op → (I (step s op) ↔ ok s op)) {s : σ} {ops : List ε} (hs : I s)
    (hP : ∀ op ∈ ops, P op) :
    (∀ pre, pre <+: ops → I (execute step s pre)) ↔ AllSteps step ok s ops :=
  forall_prefix_iff_allSteps (fun _ h => h)
    (fun s op hI hop => ⟨(hstep s op hI hop).mpr, (hstep s op hI hop).mp⟩) hs hP

/-- When every step from a state in `J` keeps a property exactly under `ok`, and `J` lasts, a run
ends with the property exactly when it began with it and all its steps meet `ok`. -/
theorem execute_iff_allSteps {I J : σ → Prop} (hinv : ∀ s op, J s → J (step s op))
    (hstep : ∀ s op, J s → (I (step s op) ↔ I s ∧ ok s op)) {s : σ} (hs : J s) (ops : List ε) :
    I (execute step s ops) ↔ I s ∧ AllSteps step ok s ops := by
  induction ops generalizing s with
  | nil => exact (and_iff_left trivial).symm
  | cons op ops ih =>
      rw [execute_cons, allSteps_cons, ih (hinv s op hs), hstep s op hs, and_assoc]

/-- The rule for invariants that also speak about the operations run so far. -/
theorem execute_history {I : List ε → σ → Prop} (hinit : I [] s)
    (hstep : ∀ ops t op, I ops t → I (ops ++ [op]) (step t op)) (ops : List ε) :
    I ops (execute step s ops) := by
  induction ops using List.reverseRecOn with
  | nil => exact hinit
  | append_singleton ops op ih =>
      rw [execute_concat]
      exact hstep ops _ op ih

/-! ## Simulation -/

section Simulation

universe u' v'

variable {σ' : Type u'} {ε' : Type v'} {step' : σ' → ε' → σ'}

/-- The events of an abstract machine that a run stands for. -/
def trace (step : σ → ε → σ) (event : σ → ε → ε') : σ → List ε → List ε'
  | _, [] => []
  | s, op :: ops => event s op :: trace step event (step s op) ops

variable {abs : σ → σ'} {event : σ → ε → ε'}

/-- **The simulation rule.**  When every step is one event of the abstract machine, so is every
run. -/
theorem execute_trace (hsim : ∀ s op, abs (step s op) = step' (abs s) (event s op)) (s : σ)
    (ops : List ε) :
    abs (execute step s ops) = execute step' (abs s) (trace step event s ops) := by
  induction ops generalizing s with
  | nil => rfl
  | cons op ops ih => rw [execute_cons, ih, trace, execute_cons, hsim]

lemma allSteps_trace (hsim : ∀ s op, abs (step s op) = step' (abs s) (event s op))
    (ok' : σ' → ε' → Prop) (s : σ) (ops : List ε) :
    AllSteps step' ok' (abs s) (trace step event s ops)
      ↔ AllSteps step (fun s op => ok' (abs s) (event s op)) s ops := by
  induction ops generalizing s with
  | nil => exact Iff.rfl
  | cons op ops ih => rw [trace, allSteps_cons, allSteps_cons, ← hsim, ih]

@[simp] lemma trace_self (s : σ) (ops : List ε) : trace step (fun _ op => op) s ops = ops := by
  induction ops generalizing s with
  | nil => rfl
  | cons op ops ih => rw [trace, ih]

/-- The prefixes of a trace are the traces of the prefixes. -/
lemma forall_prefix_trace (step : σ → ε → σ) (event : σ → ε → ε') {C : List ε' → Prop} (s : σ)
    (ops : List ε) :
    (∀ pre, pre <+: trace step event s ops → C pre)
      ↔ ∀ pre, pre <+: ops → C (trace step event s pre) := by
  induction ops generalizing s C with
  | nil => simp [trace]
  | cons op ops ih =>
      have hrest := ih (C := fun pre => C (event s op :: pre)) (step s op)
      constructor
      · intro h pre hpre
        rcases List.prefix_cons_iff.mp hpre with rfl | ⟨pre', rfl, hpre'⟩
        · exact h [] (List.nil_prefix)
        · exact hrest.mp (fun pre hpre => h _ ((List.prefix_cons_inj _).mpr hpre)) pre' hpre'
      · intro h pre hpre
        rcases List.prefix_cons_iff.mp hpre with rfl | ⟨pre', rfl, hpre'⟩
        · exact h [] (List.nil_prefix)
        · exact hrest.mpr (fun pre hpre => h (op :: pre) ((List.prefix_cons_inj op).mpr hpre)) pre'
            hpre'

end Simulation

end Machine
