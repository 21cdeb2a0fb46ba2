import SectorSync.Base.BoundedLoop
import SectorSync.Base.Pump

/-!
# Pumps that show what they take

A visiting pump hands the items that it takes to a visitor, while a pump that collects returns them.
`Follows` relates the steps of two such pumps over one source: they do the same with an item unless
it is `bad`, at which they fail with different errors.

`agree_iff` is what follows for calls: they agree exactly when no bad item comes after items that
both take.
-/

universe u

namespace Pump

open BoundedLoop

variable {T B C W P R L F V : Type u}

/-- A visiting pump fails for a reason of its own, or because its visitor fails. -/
inductive VisitError (F V : Type u) where
  | receive (error : F)
  | visitor (error : V)
  deriving DecidableEq

/-- A source, and what an item does to the bridge between source and visitor, to the visitor and to
the report of the call.  A panic is `none`. -/
structure Visiting (T B W P L F V : Type u) where
  recv : T → Except F (Option P) × T
  visit : B → W → L → P → Option (Except (VisitError F V) L × B × W)

namespace Visiting

variable (visiting : Visiting T B W P L F V)

/-- The body of the loop. -/
def pass (kept : T × B × W) (report : L) : Option (Pass (VisitError F V) (T × B × W) L) :=
  match visiting.recv kept.1 with
  | (.error error, source) => some (.fail (.receive error) (source, kept.2))
  | (.ok none, source) => some (.leave (source, kept.2) report)
  | (.ok (some item), source) =>
      match visiting.visit kept.2.1 kept.2.2 report item with
      | none => none
      | some (.error error, bridge, visitor) => some (.fail error (source, bridge, visitor))
      | some (.ok report, bridge, visitor) => some (.next (source, bridge, visitor) report)

/-- A name for the failures of the source gives it no item. -/
lemma mapError_ne_some {F' : Type u} {answer : Except F (Option P)}
    (hanswer : ∀ item, answer ≠ .ok (some item)) (f : F → F') (item : P) :
    answer.mapError f ≠ .ok (some item) := by
  cases answer with
  | error error => simp [Except.mapError]
  | ok item => simpa [Except.mapError] using hanswer _

section Pass

variable (kept : T × B × W) (report : L) {source : T}

/-- A pass without an item leaves the bridge and the visitor alone. -/
lemma pass_of_idle {answer : Except F (Option P)}
    (hrecv : visiting.recv kept.1 = (answer, source)) (hanswer : ∀ item, answer ≠ .ok (some item)) :
    ∃ pass, visiting.pass kept report = some pass ∧ pass.kept = (source, kept.2) := by
  rw [pass, hrecv]
  rcases answer with error | _ | item
  · exact ⟨_, rfl, rfl⟩
  · exact ⟨_, rfl, rfl⟩
  · exact absurd rfl (hanswer item)

/-- A pass with an item keeps what the item does to the bridge and the visitor. -/
lemma pass_of_item {item : P} {result : Except (VisitError F V) L} {after : B × W}
    (hrecv : visiting.recv kept.1 = (.ok (some item), source))
    (hvisit : visiting.visit kept.2.1 kept.2.2 report item = some (result, after)) :
    ∃ pass, visiting.pass kept report = some pass ∧ pass.kept = (source, after) := by
  rw [pass, hrecv]
  dsimp only
  rw [hvisit]
  cases result with
  | error error => exact ⟨_, rfl, rfl⟩
  | ok report => exact ⟨_, rfl, rfl⟩

end Pass

/-- Visits at most `budget` items. -/
def run (budget : ℕ) (kept : T × B × W) (report : L) :
    Option (Except (VisitError F V) L × T × B × W) :=
  loopWithin visiting.pass budget kept report

end Visiting

/-- What an item does to the two bridges: they end up the same, and what was collected is shown, or
both fail with one error. -/
inductive SameStep (Shown : C → W → Prop) :
    Except F Unit × B × C → Option (Except (VisitError F V) L × B × W) → Prop where
  | takes {b : B} {c : C} {w : W} {report : L} (hshown : Shown c w) :
      SameStep Shown (.ok (), b, c) (some (.ok report, b, w))
  | refuses {error : F} {b : B} {c : C} {w : W} (hshown : Shown c w) :
      SameStep Shown (.error error, b, c) (some (.error (.receive error), b, w))

/-- The pumps do the same with every item that is not bad.  `Shown` relates what was collected to
what was shown, and `I` is an invariant of the bridge. -/
structure Follows (pump : Pump T (B × C) P R F) (visiting : Visiting T B W P L F V)
    (I : B → Prop) (Shown : C → W → Prop) (bad : P → Prop) : Prop where
  recv_eq : visiting.recv = pump.recv
  same : ∀ {b : B} {c : C} {w : W} {item : P} (report : L), I b → Shown c w → ¬ bad item →
    SameStep Shown (pump.handle (b, c) item) (visiting.visit b w report item)
  differs : ∀ {b : B} {c : C} {w : W} {item : P} (report : L), I b → Shown c w → bad item →
    ∃ error error' b' b'' c' w', pump.handle (b, c) item = (.error error, b', c')
      ∧ visiting.visit b w report item = some (.error (.receive error'), b'', w')
      ∧ error ≠ error'

/-- Two calls succeed, or fail with the same error. -/
inductive SameEnd : Except F Unit → Except (VisitError F V) L → Prop
  | ok {report : L} : SameEnd (.ok ()) (.ok report)
  | error {error : F} : SameEnd (.error error) (.error (.receive error))

/-- The visiting call does not panic, ends as the other one, leaves the same source and bridge, and
has shown what the other one has collected. -/
def Agree (Shown : C → W → Prop) (collected : Except F Unit × State T (B × C) P R)
    (visited : Option (Except (VisitError F V) L × T × B × W)) : Prop :=
  ∃ result w, visited = some (result, collected.2.source, collected.2.sink.1, w)
    ∧ SameEnd collected.1 result ∧ Shown collected.2.sink.2 w

/-- Within the budget the source gives a bad item after acceptable ones. -/
def Meets (recv : T → Except F (Option P) × T) (ok bad : P → Prop) (budget : ℕ) (t : T) : Prop :=
  ∃ items t' item t'', Gives recv t items t' ∧ (∀ item ∈ items, ok item)
    ∧ items.length < budget ∧ recv t' = (.ok (some item), t'') ∧ bad item

variable {pump : Pump T (B × C) P R F} {visiting : Visiting T B W P L F V} {I : B → Prop}
  {Shown : C → W → Prop} {ok bad : P → Prop} {t t' : T} {s s' : B × C} {w : W} {items : List P}
  {budget : ℕ}

lemma Follows.takes (h : Follows pump visiting I Shown bad) (report : L) {item : P}
    (hI : I s.1) (hshown : Shown s.2 w) (hhandle : pump.handle s item = (.ok (), s')) :
    ∃ report' w', visiting.visit s.1 w report item = some (.ok report', s'.1, w')
      ∧ Shown s'.2 w' := by
  have hbad : ¬ bad item := by
    intro hbad
    obtain ⟨error, _, _, _, _, _, herror, -⟩ := h.differs report hI hshown hbad
    rw [Prod.eta, hhandle] at herror
    cases herror
  have hsame := h.same report hI hshown hbad
  rw [Prod.eta, hhandle] at hsame
  generalize visiting.visit s.1 w report item = visited at hsame
  cases hsame with
  | takes hshown' => exact ⟨_, _, rfl, hshown'⟩

lemma Follows.refuses (h : Follows pump visiting I Shown bad) (report : L) {item : P} {error : F}
    (hI : I s.1) (hshown : Shown s.2 w) (hbad : ¬ bad item)
    (hhandle : pump.handle s item = (.error error, s')) :
    ∃ w', visiting.visit s.1 w report item = some (.error (.receive error), s'.1, w')
      ∧ Shown s'.2 w' := by
  have hsame := h.same report hI hshown hbad
  rw [Prod.eta, hhandle] at hsame
  generalize visiting.visit s.1 w report item = visited at hsame
  cases hsame with
  | refuses hshown' => exact ⟨_, rfl, hshown'⟩

/-- **A stretch without failures.** -/
lemma Follows.run_of_moves (h : Follows pump visiting I Shown bad)
    (hjudges : pump.Judges ok fun s => I s.1) (hmoves : pump.Moves t s items t' s') (hI : I s.1)
    (hshown : Shown s.2 w) (report : L) :
    ∃ report' w', I s'.1 ∧ Shown s'.2 w'
      ∧ ∀ budget, visiting.run (items.length + budget) (t, s.1, w) report
        = visiting.run budget (t', s'.1, w') report' := by
  induction hmoves generalizing w report with
  | nil => exact ⟨report, w, hI, hshown, fun budget => by rw [List.length_nil, Nat.zero_add]⟩
  | @cons t t' t'' s s' s'' item items hrecv hhandle hmoves ih =>
      obtain ⟨report₁, w₁, hvisit, hshown₁⟩ := h.takes report hI hshown hhandle
      have hI₁ : I s'.1 := by
        have hkept := hjudges.keeps s item hI
        rwa [hhandle] at hkept
      obtain ⟨report', w', hI', hshown', hrun⟩ := ih hI₁ hshown₁ report₁
      refine ⟨report', w', hI', hshown', fun budget => ?_⟩
      rw [← hrun budget, List.length_cons, Nat.add_right_comm, Visiting.run, loopWithin,
        Visiting.pass, h.recv_eq, hrecv]
      simp only [hvisit]
      rfl

/-- A run that ends without a bad item ends alike for the visiting pump. -/
lemma Follows.agree_of_ends (h : Follows pump visiting I Shown bad)
    (hjudges : pump.Judges ok fun s => I s.1) (hI : I s.1) (hshown : Shown s.2 w)
    {result : Except F Unit} {rest : List P} (hends : pump.Ends budget t s items result t' s' rest)
    (hgood : ∀ item ∈ rest, ¬ bad item) (report : L) :
    ∃ result' w', visiting.run budget (t, s.1, w) report = some (result', t', s'.1, w')
      ∧ SameEnd result result' ∧ Shown s'.2 w' := by
  cases hends with
  | spent hmoves hlen =>
      obtain ⟨report₁, w₁, -, hshown₁, hrun⟩ := h.run_of_moves hjudges hmoves hI hshown report
      refine ⟨.ok report₁, w₁, ?_, .ok, hshown₁⟩
      rw [← hlen]
      exact hrun 0
  | empty hmoves hlen hrecv =>
      obtain ⟨left, rfl⟩ := exists_left hlen
      obtain ⟨report₁, w₁, -, hshown₁, hrun⟩ := h.run_of_moves hjudges hmoves hI hshown report
      refine ⟨.ok report₁, w₁, ?_, .ok, hshown₁⟩
      rw [hrun, Visiting.run, loopWithin, Visiting.pass, h.recv_eq, hrecv]
  | failed hmoves hlen hrecv =>
      obtain ⟨left, rfl⟩ := exists_left hlen
      obtain ⟨report₁, w₁, -, hshown₁, hrun⟩ := h.run_of_moves hjudges hmoves hI hshown report
      refine ⟨.error (.receive _), w₁, ?_, .error, hshown₁⟩
      rw [hrun, Visiting.run, loopWithin, Visiting.pass, h.recv_eq, hrecv]
  | refused hmoves hlen hrecv hhandle =>
      obtain ⟨left, rfl⟩ := exists_left hlen
      obtain ⟨report₁, w₁, hI₁, hshown₁, hrun⟩ := h.run_of_moves hjudges hmoves hI hshown report
      obtain ⟨w₂, hvisit, hshown₂⟩ :=
        h.refuses report₁ hI₁ hshown₁ (hgood _ (List.mem_singleton_self _)) hhandle
      refine ⟨.error (.receive _), w₂, ?_, .error, hshown₂⟩
      rw [hrun, Visiting.run, loopWithin, Visiting.pass, h.recv_eq, hrecv]
      simp only [hvisit]

/-- A bad item after acceptable ones ends a run, and the visiting pump fails with another error. -/
lemma Follows.differs_of_meets (h : Follows pump visiting I Shown bad)
    (hjudges : pump.Judges ok fun s => I s.1) (hI : I s.1) (hshown : Shown s.2 w) (report : L)
    (hmeets : Meets pump.recv ok bad budget t) :
    ∃ items error error' t' s' rest kept, pump.Ends budget t s items (.error error) t' s' rest
      ∧ visiting.run budget (t, s.1, w) report = some (.error (.receive error'), kept)
      ∧ error ≠ error' := by
  obtain ⟨items, t', item, t'', hgives, hok, hlen, hrecv, hbad⟩ := hmeets
  obtain ⟨s', hmoves, hI'⟩ := hjudges.moves_of_gives hI hgives hok
  obtain ⟨report', w', -, hshown', hrun⟩ := h.run_of_moves hjudges hmoves hI hshown report
  obtain ⟨error, error', b', b'', c', w'', hhandle, hvisit, hne⟩ :=
    h.differs report' hI' hshown' hbad
  obtain ⟨left, rfl⟩ := exists_left hlen
  refine ⟨items, error, error', t'', (b', c'), [item], (t'', b'', w''),
    .refused hmoves hlen hrecv hhandle, ?_, hne⟩
  rw [hrun, Visiting.run, loopWithin, Visiting.pass, h.recv_eq, hrecv]
  simp only [hvisit]

/-- **When the two calls agree.** -/
theorem Follows.agree_iff (h : Follows pump visiting I Shown bad)
    (hjudges : pump.Judges ok fun s => I s.1) (hI : I s.1) (hshown : Shown s.2 w) (budget : ℕ)
    (t : T) (report : R) (report' : L) :
    Agree Shown (pump.run budget (start t s report)) (visiting.run budget (t, s.1, w) report')
      ↔ ¬ Meets pump.recv ok bad budget t := by
  constructor
  · rintro ⟨result, w', hvisited, hend, -⟩ hmeets
    obtain ⟨items, error, error', t', s', rest, kept, hends, hvisited', hne⟩ :=
      h.differs_of_meets hjudges hI hshown report' hmeets
    rw [Pump.run_of_ends hends report] at hend
    rw [hvisited'] at hvisited
    obtain rfl : .error (.receive error') = result := (Prod.mk.inj (Option.some.inj hvisited)).1
    cases hend
    exact hne rfl
  · intro hmeets
    obtain ⟨items, result, t', s', rest, hends⟩ := pump.exists_ends budget t s
    rw [Pump.run_of_ends hends report]
    refine h.agree_of_ends hjudges hI hshown hends (fun item hitem hbad => hmeets ?_) report'
    cases hends with
    | refused hmoves hlen hrecv hhandle =>
        rw [List.mem_singleton.mp hitem] at hbad
        obtain ⟨hgives, hok, -⟩ := hjudges.gives_of_moves hI hmoves
        exact ⟨items, _, _, _, hgives, hok, hlen, hrecv, hbad⟩
    | spent => exact absurd hitem List.not_mem_nil
    | empty => exact absurd hitem List.not_mem_nil
    | failed => exact absurd hitem List.not_mem_nil

section MapError

variable {F' : Type u} {recv : T → Except F (Option P) × T} {f : F → F'}

/-- Names for the failures of the source make no difference. -/
lemma meets_mapError :
    Meets (fun t => ((recv t).1.mapError f, (recv t).2)) ok bad budget t
      ↔ Meets recv ok bad budget t := by
  simp only [Meets, gives_mapError, recv_mapError_ok_iff]

end MapError

end Pump
