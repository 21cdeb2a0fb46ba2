import SectorSync.Base.Run

/-!
# Handing over prepared jobs until the first failure

A sender prepares its jobs one after the other and hands each packet to a sink.  A job may fail
while it is prepared, may turn out to have nothing to send, or has a packet, which the sink may
reject; the first failure ends the run.

`dispatch` is that run, with the number of jobs done and the packets the sink accepted.
`dispatch_cases` says how it ended, `dispatch_append_of_done` and `dispatch_append_of_failed` how
runs compose, and `Records.dispatch` that a sink that keeps a record has recorded what was
accepted.
-/

namespace Machine

variable {T P φ : Type*}

/-- What a run over some jobs did. -/
structure Dispatched (T P φ : Type*) where
  failure : Option φ
  /-- Number of jobs before the failing one. -/
  done : ℕ
  accepted : List P
  transport : T

/-- The run of which this one is the rest. -/
def Dispatched.after (d : Dispatched T P φ) (done : ℕ) (accepted : List P) : Dispatched T P φ :=
  { d with done := done + d.done, accepted := accepted ++ d.accepted }

/-- The packet of a prepared job, if it has one. -/
def packetOf : Except φ (Option P) → List P
  | .ok (some packet) => [packet]
  | _ => []

variable (send : T → P → Except φ Unit × T)

/-- Hands over the jobs in order until the first failure. -/
def dispatch : List (Except φ (Option P)) → T → Dispatched T P φ
  | [], t => ⟨none, 0, [], t⟩
  | .error failure :: _, t => ⟨some failure, 0, [], t⟩
  | .ok none :: jobs, t => (dispatch jobs t).after 1 []
  | .ok (some packet) :: jobs, t =>
      match send t packet with
      | (.ok (), t) => (dispatch jobs t).after 1 [packet]
      | (.error failure, t) => ⟨some failure, 0, [], t⟩

variable {send} {jobs later : List (Except φ (Option P))} {t : T} {failure : φ}

/-- A job fails, whatever comes after it, or is done and the run goes on. -/
lemma dispatch_cons (send : T → P → Except φ Unit × T) (job : Except φ (Option P)) (t : T) :
    (∃ failure t', ∀ jobs, dispatch send (job :: jobs) t = ⟨some failure, 0, [], t'⟩) ∨
      ∃ t', ∀ jobs, dispatch send (job :: jobs) t
        = (dispatch send jobs t').after 1 (packetOf job) := by
  rcases job with failure | _ | packet
  · exact .inl ⟨failure, t, fun _ => rfl⟩
  · exact .inr ⟨t, fun _ => rfl⟩
  · simp only [dispatch]
    rcases send t packet with ⟨_ | _, t'⟩
    · exact .inl ⟨_, t', fun _ => rfl⟩
    · exact .inr ⟨t', fun _ => rfl⟩

/-- **How a run ends.**  Either all jobs are done, or those before some job, which fails. -/
theorem dispatch_cases (send : T → P → Except φ Unit × T) (jobs : List (Except φ (Option P)))
    (t : T) :
    (∃ t', dispatch send jobs t = ⟨none, jobs.length, jobs.flatMap packetOf, t'⟩) ∨
      ∃ before job later failure t' t'', jobs = before ++ job :: later ∧
        dispatch send before t = ⟨none, before.length, before.flatMap packetOf, t'⟩ ∧
        dispatch send [job] t' = ⟨some failure, 0, [], t''⟩ ∧
        dispatch send jobs t = ⟨some failure, before.length, before.flatMap packetOf, t''⟩ := by
  induction jobs generalizing t with
  | nil => exact .inl ⟨t, rfl⟩
  | cons job jobs ih =>
      rcases dispatch_cons send job t with ⟨failure, t', hfail⟩ | ⟨t', hdone⟩
      · exact .inr ⟨[], job, jobs, failure, t, t', rfl, rfl, hfail [], hfail jobs⟩
      · rcases ih t' with ⟨t'', hrest⟩ | ⟨before, failing, later, failure, u, u', rfl, hbefore,
          hfail, hrest⟩
        · refine .inl ⟨t'', ?_⟩
          rw [hdone, hrest, Dispatched.after, List.length_cons, List.flatMap_cons, Nat.add_comm]
        · refine .inr ⟨job :: before, failing, later, failure, u, u', rfl, ?_, hfail, ?_⟩
          · rw [hdone, hbefore, Dispatched.after, List.length_cons, List.flatMap_cons,
              Nat.add_comm]
          · rw [hdone, hrest, Dispatched.after, List.length_cons, List.flatMap_cons, Nat.add_comm]

/-- A run that is done handed over all packets. -/
lemma dispatch_accepted_of_done (h : (dispatch send jobs t).failure = none) :
    (dispatch send jobs t).done = jobs.length ∧
      (dispatch send jobs t).accepted = jobs.flatMap packetOf := by
  rcases dispatch_cases send jobs t with ⟨t', hall⟩ | ⟨_, _, _, failure, _, _, -, -, -, hall⟩
  · rw [hall]
    exact ⟨rfl, rfl⟩
  · rw [hall] at h
    cases h

/-- Only packets of the jobs are handed over. -/
lemma mem_accepted_dispatch {packet : P} (h : packet ∈ (dispatch send jobs t).accepted) :
    ∃ job ∈ jobs, packet ∈ packetOf job := by
  rcases dispatch_cases send jobs t with ⟨t', hall⟩ | ⟨before, _, _, _, _, _, rfl, -, -, hall⟩
  · rw [hall] at h
    exact List.mem_flatMap.mp h
  · rw [hall] at h
    obtain ⟨job, hjob, hmem⟩ := List.mem_flatMap.mp h
    exact ⟨job, List.mem_append_left _ hjob, hmem⟩

/-- A run that failed never looks at later jobs. -/
lemma dispatch_append_of_failed (h : (dispatch send jobs t).failure = some failure) :
    dispatch send (jobs ++ later) t = dispatch send jobs t := by
  induction jobs generalizing t with
  | nil => cases h
  | cons job jobs ih =>
      rcases dispatch_cons send job t with ⟨failure', t', hfail⟩ | ⟨t', hdone⟩
      · rw [List.cons_append, hfail, hfail]
      · rw [hdone] at h
        rw [List.cons_append, hdone, hdone, ih h]

/-- A run that is done goes on with the later jobs. -/
lemma dispatch_append_of_done (h : (dispatch send jobs t).failure = none) :
    dispatch send (jobs ++ later) t
      = (dispatch send later (dispatch send jobs t).transport).after (dispatch send jobs t).done
        (dispatch send jobs t).accepted := by
  induction jobs generalizing t with
  | nil => simp [dispatch, Dispatched.after]
  | cons job jobs ih =>
      rcases dispatch_cons send job t with ⟨failure', t', hfail⟩ | ⟨t', hdone⟩
      · rw [hfail] at h
        cases h
      · rw [hdone] at h
        rw [List.cons_append, hdone, hdone, ih h]
        simp [Dispatched.after, Nat.add_assoc]

/-- A run that is done is a run over the jobs one by one, each of them done. -/
lemma dispatch_done (h : (dispatch send jobs t).failure = none) :
    AllSteps (fun t job => (dispatch send [job] t).transport)
        (fun t job => (dispatch send [job] t).failure = none) t jobs ∧
      (dispatch send jobs t).transport
        = execute (fun t job => (dispatch send [job] t).transport) t jobs := by
  induction jobs generalizing t with
  | nil => exact ⟨trivial, rfl⟩
  | cons job jobs ih =>
      rcases dispatch_cons send job t with ⟨failure', t', hfail⟩ | ⟨t', hdone⟩
      · rw [hfail] at h
        cases h
      · rw [hdone] at h
        obtain ⟨hsteps, htransport⟩ := ih h
        rw [allSteps_cons, execute_cons, hdone, hdone]
        exact ⟨⟨rfl, hsteps⟩, htransport⟩

/-- What a run hands over are the packets of the jobs that are done. -/
lemma dispatch_accepted_eq (send : T → P → Except φ Unit × T) (jobs : List (Except φ (Option P)))
    (t : T) :
    (dispatch send jobs t).accepted
      = (jobs.take (dispatch send jobs t).done).flatMap packetOf := by
  rcases dispatch_cases send jobs t with ⟨t', hall⟩ | ⟨before, job, later, _, _, _, rfl, -, -, hall⟩
  · rw [hall, List.take_length]
  · rw [hall, List.take_left]

/-- **The invariant rule.**  What holds of a transport and the packets that it has accepted, and is
kept when a packet is accepted and when one is rejected, holds after a run. -/
theorem dispatch_invariant {I : T → List P → Prop}
    (hok : ∀ t accepted packet t', I t accepted → send t packet = (.ok (), t') →
      I t' (accepted ++ [packet]))
    (herror : ∀ t accepted packet failure t', I t accepted → send t packet = (.error failure, t') →
      I t' accepted) (jobs : List (Except φ (Option P))) {t : T} {accepted : List P}
    (h : I t accepted) :
    I (dispatch send jobs t).transport (accepted ++ (dispatch send jobs t).accepted) := by
  induction jobs generalizing t accepted with
  | nil => exact (List.append_nil accepted).symm ▸ h
  | cons job jobs ih =>
      rcases job with failure | _ | packet
      · exact (List.append_nil accepted).symm ▸ h
      · exact ih h
      · simp only [dispatch]
        rcases hsend : send t packet with ⟨failure | _, t'⟩
        · exact (List.append_nil accepted).symm ▸ herror t accepted packet failure t' h hsend
        · have hrest := ih (hok t accepted packet t' h hsend)
          rw [List.append_assoc] at hrest
          exact hrest

/-! ## Sinks that keep a record -/

/-- A sink whose state shows the packets it accepted. -/
structure Records (send : T → P → Except φ Unit × T) (obs : T → List P) : Prop where
  accepted : ∀ {t packet t'}, send t packet = (.ok (), t') → obs t' = obs t ++ [packet]
  rejected : ∀ {t packet failure t'}, send t packet = (.error failure, t') → obs t' = obs t

/-- The record of a sink after a run. -/
theorem Records.dispatch {obs : T → List P} (h : Records send obs)
    (jobs : List (Except φ (Option P))) (t : T) :
    obs (dispatch send jobs t).transport = obs t ++ (Machine.dispatch send jobs t).accepted := by
  induction jobs generalizing t with
  | nil => exact (List.append_nil _).symm
  | cons job jobs ih =>
      rcases job with failure | _ | packet
      · exact (List.append_nil _).symm
      · exact ih t
      · simp only [Machine.dispatch]
        rcases hsend : send t packet with ⟨failure | _, t'⟩
        · rw [h.rejected hsend, List.append_nil]
        · show obs (Machine.dispatch send jobs t').transport = obs t ++ ([packet] ++ _)
          rw [ih t', h.accepted hsend, List.append_assoc]

end Machine
