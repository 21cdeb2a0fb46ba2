import Mathlib.Data.List.Basic
import Mathlib.Tactic.Common

/-!
# Pumps

A pump takes items from a source and hands each one to a sink.  It ends when its budget is used up
or the source has nothing, and it fails with the first failure: of the source, or of the sink to
take an item.

`run_of_moves` is the loop over a stretch without failures, and `run_of_ends` and `exists_ends` are
how a run can end.  What a run takes and the sink refuses is in nobody's hands afterwards:
`lossless_iff` says when this loses nothing that has to be kept, and when a counter that is advanced
at the end of a run counts what was moved.

A caller that gets what was moved only from a run without failures is served by `complete_iff`:
for a sink that judges an item alone, it gets everything exactly when nothing fails after an item
that the sink takes.
-/

universe u

/-- A source, a sink and the report that a pump keeps of what it does. -/
structure Pump (T S P R F : Type u) where
  recv : T → Except F (Option P) × T
  handle : S → P → Except F Unit × S
  /-- Reports an item that was taken from the source. -/
  received : P → R → R
  /-- Reports an item that the sink took. -/
  delivered : R → R

namespace Pump

variable {T S P R F A : Type u}

/-- The state of a run.  `taken` and `moved` are the items taken from the source and those that the
sink took, in their order. -/
structure State (T S P R : Type u) where
  source : T
  sink : S
  report : R
  taken : List P
  moved : List P

/-- The state before a run. -/
def start (source : T) (sink : S) (report : R) : State T S P R := ⟨source, sink, report, [], []⟩

variable (pump : Pump T S P R F)

/-- Moves at most `budget` items. -/
def run : ℕ → State T S P R → Except F Unit × State T S P R
  | 0, state => (.ok (), state)
  | budget + 1, state =>
      match pump.recv state.source with
      | (.error error, source) => (.error error, { state with source := source })
      | (.ok none, source) => (.ok (), { state with source := source })
      | (.ok (some item), source) =>
          let state := { state with
            source := source
            report := pump.received item state.report
            taken := state.taken ++ [item] }
          match pump.handle state.sink item with
          | (.error error, sink) => (.error error, { state with sink := sink })
          | (.ok (), sink) =>
              run budget { state with
                sink := sink
                report := pump.delivered state.report
                moved := state.moved ++ [item] }

/-- The items go from the source to the sink, one after the other. -/
inductive Moves : T → S → List P → T → S → Prop where
  | nil {t : T} {s : S} : Moves t s [] t s
  | cons {t t' t'' : T} {s s' s'' : S} {item : P} {items : List P}
      (hrecv : pump.recv t = (.ok (some item), t'))
      (hhandle : pump.handle s item = (.ok (), s')) (hmoves : Moves t' s' items t'' s'') :
      Moves t s (item :: items) t'' s''

/-- The report after the items have been moved. -/
def reportAll (items : List P) (report : R) : R :=
  items.foldl (fun report item => pump.delivered (pump.received item report)) report

/-- How a run ends that has moved the items: its result, the source and the sink then, and what was
taken beyond the items. -/
inductive Ends (budget : ℕ) (t : T) (s : S) (items : List P) :
    Except F Unit → T → S → List P → Prop where
  | spent {t' : T} {s' : S} (hmoves : pump.Moves t s items t' s')
      (hlen : items.length = budget) : Ends budget t s items (.ok ()) t' s' []
  | empty {t' t'' : T} {s' : S} (hmoves : pump.Moves t s items t' s')
      (hlen : items.length < budget) (hrecv : pump.recv t' = (.ok none, t'')) :
      Ends budget t s items (.ok ()) t'' s' []
  | failed {t' t'' : T} {s' : S} {error : F} (hmoves : pump.Moves t s items t' s')
      (hlen : items.length < budget) (hrecv : pump.recv t' = (.error error, t'')) :
      Ends budget t s items (.error error) t'' s' []
  | refused {t' t'' : T} {s' s'' : S} {item : P} {error : F}
      (hmoves : pump.Moves t s items t' s') (hlen : items.length < budget)
      (hrecv : pump.recv t' = (.ok (some item), t''))
      (hhandle : pump.handle s' item = (.error error, s'')) :
      Ends budget t s items (.error error) t'' s'' [item]

variable {pump} {t t' t'' : T} {s s' s'' : S} {item : P} {items taken moved : List P} {report : R}
  {budget : ℕ} {result : Except F Unit}

/-- **A stretch without failures.** -/
lemma run_of_moves (h : pump.Moves t s items t' s') (budget : ℕ) (report : R)
    (taken moved : List P) :
    pump.run (items.length + budget) ⟨t, s, report, taken, moved⟩
      = pump.run budget
        ⟨t', s', pump.reportAll items report, taken ++ items, moved ++ items⟩ := by
  induction h generalizing report taken moved with
  | nil => simp [reportAll]
  | @cons t t' t'' s s' s'' item items hrecv hhandle hmoves ih =>
      rw [List.length_cons, Nat.add_right_comm, run]
      simp only [hrecv, hhandle]
      rw [ih]
      simp [reportAll]

/-- What is left of the budget after a stretch. -/
lemma exists_left {items : List P} {budget : ℕ} (h : items.length < budget) :
    ∃ left, budget = items.length + (left + 1) := ⟨budget - items.length - 1, by omega⟩

/-- A run ends in one way only. -/
theorem run_of_ends {rest : List P} (h : pump.Ends budget t s items result t' s' rest)
    (report : R) :
    pump.run budget (start t s report)
      = (result, ⟨t', s', rest.foldl (fun report item => pump.received item report)
        (pump.reportAll items report), items ++ rest, items⟩) := by
  have hrun : ∀ {t' : T} {s' : S} (left : ℕ), pump.Moves t s items t' s' →
      pump.run (items.length + left) (start t s report)
        = pump.run left ⟨t', s', pump.reportAll items report, items, items⟩ :=
    fun left hmoves => run_of_moves hmoves left report [] []
  cases h with
  | spent hmoves hlen =>
      rw [← hlen]
      have := hrun 0 hmoves
      rw [Nat.add_zero] at this
      simp [this, run]
  | empty hmoves hlen hrecv =>
      obtain ⟨left, rfl⟩ := exists_left hlen
      rw [hrun _ hmoves, run]
      simp [hrecv]
  | failed hmoves hlen hrecv =>
      obtain ⟨left, rfl⟩ := exists_left hlen
      rw [hrun _ hmoves, run]
      simp [hrecv]
  | refused hmoves hlen hrecv hhandle =>
      obtain ⟨left, rfl⟩ := exists_left hlen
      rw [hrun _ hmoves, run]
      simp [hrecv, hhandle]

/-- Every run ends. -/
theorem exists_ends (pump : Pump T S P R F) (budget : ℕ) (t : T) (s : S) :
    ∃ items result t' s' rest, pump.Ends budget t s items result t' s' rest := by
  induction budget generalizing t s with
  | zero => exact ⟨[], _, t, s, _, .spent .nil rfl⟩
  | succ budget ih =>
      rcases hrecv : pump.recv t with ⟨error | (_ | item), t'⟩
      · exact ⟨[], _, t', s, _, .failed .nil (Nat.succ_pos _) hrecv⟩
      · exact ⟨[], _, t', s, _, .empty .nil (Nat.succ_pos _) hrecv⟩
      · rcases hhandle : pump.handle s item with ⟨error | _, s'⟩
        · exact ⟨[], _, t', s', _, .refused .nil (Nat.succ_pos _) hrecv hhandle⟩
        · obtain ⟨items, result, t'', s'', rest, h⟩ := ih t' s'
          refine ⟨item :: items, result, t'', s'', rest, ?_⟩
          cases h with
          | spent hmoves hlen =>
              exact .spent (.cons hrecv hhandle hmoves) (congrArg Nat.succ hlen)
          | empty hmoves hlen hend =>
              exact .empty (.cons hrecv hhandle hmoves) (Nat.succ_lt_succ hlen) hend
          | failed hmoves hlen hend =>
              exact .failed (.cons hrecv hhandle hmoves) (Nat.succ_lt_succ hlen) hend
          | refused hmoves hlen hend hrefused =>
              exact .refused (.cons hrecv hhandle hmoves) (Nat.succ_lt_succ hlen) hend hrefused

/-- The report of a run that does not fail. -/
lemma report_of_ok (h : (pump.run budget (start t s report)).1 = .ok ()) :
    (pump.run budget (start t s report)).2.report
      = pump.reportAll (pump.run budget (start t s report)).2.moved report := by
  obtain ⟨items, result, t', s', rest, hends⟩ := pump.exists_ends budget t s
  rw [run_of_ends hends report] at h ⊢
  obtain rfl : result = .ok () := h
  cases hends <;> rfl

section Counts

variable (count : R → ℕ) {max : ℕ}
  (hreceived : ∀ item report, count (pump.received item report) = count report)
  (hdelivered : ∀ report, count (pump.delivered report) = min (count report + 1) max)
include hreceived hdelivered

/-- A number of the report that goes up by one with every item, up to a maximum. -/
lemma count_reportAll (items : List P) (hreport : count report ≤ max) :
    count (pump.reportAll items report) = min (count report + items.length) max := by
  induction items generalizing report with
  | nil =>
      simp only [reportAll, List.foldl_nil, List.length_nil]
      omega
  | cons item items ih =>
      have hnext : count (pump.delivered (pump.received item report))
          = min (count report + 1) max := by rw [hdelivered, hreceived]
      have hrest := ih (Nat.le_trans (Nat.le_of_eq hnext) (Nat.min_le_right _ _))
      simp only [reportAll, List.foldl_cons] at hrest ⊢
      rw [hrest, hnext, List.length_cons]
      omega

/-- It counts what a run moves that does not fail. -/
lemma count_run (hreport : count report = 0)
    (h : (pump.run budget (start t s report)).1 = .ok ()) :
    count (pump.run budget (start t s report)).2.report
      = min (pump.run budget (start t s report)).2.moved.length max := by
  rw [report_of_ok h, count_reportAll count hreceived hdelivered _ (by omega), hreport,
    Nat.zero_add]

end Counts

/-! ## What a run keeps -/

/-- What the sink stores of the items that have to be kept: what it takes, for good, and nothing of
what it refuses. -/
structure Stores (pump : Pump T S P R F) (required : P → Option A) (stored : S → A → Prop) :
    Prop where
  takes {s s' : S} {item : P} : pump.handle s item = (.ok (), s') →
    ∀ a ∈ required item, stored s' a
  keeps {s s' : S} {item kept : P} {result : Except F Unit} :
    pump.handle s item = (result, s') → ∀ a ∈ required kept, stored s a → stored s' a
  refuses {s s' : S} {item : P} {error : F} : pump.handle s item = (.error error, s') →
    ∀ a ∈ required item, stored s' a → stored s a

/-- Every item that was taken and has to be kept is in the sink, or can be had again. -/
def Keeps (required : P → Option A) (stored : S → A → Prop) (again : T → A → Prop)
    (state : State T S P R) : Prop :=
  ∀ item ∈ state.taken, ∀ a ∈ required item, stored state.sink a ∨ again state.source a

/-- A counter that is advanced by a run that does not fail, up to a maximum. -/
def flush (max counter moved : ℕ) : Except F Unit → ℕ
  | .ok () => min (counter + min moved max) max
  | .error _ => counter

/-- The source fails, or the sink refuses what it gives. -/
def FailsNext (pump : Pump T S P R F) (t : T) (s : S) : Prop :=
  (∃ error t', pump.recv t = (.error error, t'))
    ∨ ∃ item t' error s', pump.recv t = (.ok (some item), t')
      ∧ pump.handle s item = (.error error, s')

/-- A run fails before anything was moved, and loses nothing. -/
structure FailsHarmlessly (pump : Pump T S P R F) (required : P → Option A)
    (stored : S → A → Prop) (again : T → A → Prop) (budget : ℕ) (t : T) (s : S) : Prop where
  started : 0 < budget
  fails : pump.FailsNext t s
  harmless : ∀ item t', pump.recv t = (.ok (some item), t') →
    ∀ a ∈ required item, stored s a ∨ again t' a

/-- No failure comes within the budget, and the counter has room for what is moved. -/
structure Smooth (pump : Pump T S P R F) (budget max counter : ℕ) (t : T) (s : S) : Prop where
  never_fails : ∀ items t' s', pump.Moves t s items t' s' → items.length < budget →
    ¬ pump.FailsNext t' s'
  room : ∀ items t' s', pump.Moves t s items t' s' → items.length ≤ budget →
    counter + items.length ≤ max

variable {required : P → Option A} {stored : S → A → Prop} {again : T → A → Prop}
  {max counter : ℕ}

lemma Stores.keeps_moves (hstores : pump.Stores required stored) (h : pump.Moves t s items t' s')
    {kept : P} {a : A} (ha : a ∈ required kept) (hstored : stored s a) : stored s' a := by
  induction h with
  | nil => exact hstored
  | cons _ hhandle _ ih => exact ih (hstores.keeps hhandle a ha hstored)

/-- What has been moved is in the sink. -/
lemma Stores.stored_of_moves (hstores : pump.Stores required stored)
    (h : pump.Moves t s items t' s') :
    ∀ item ∈ items, ∀ a ∈ required item, stored s' a := by
  induction h with
  | nil => simp
  | cons _ hhandle hmoves ih =>
      intro item hitem a ha
      rcases List.mem_cons.mp hitem with rfl | hitem
      · exact hstores.keeps_moves hmoves ha (hstores.takes hhandle a ha)
      · exact ih item hitem a ha

/-- What a run loses is what it took and could not move. -/
lemma Stores.keeps_iff (hstores : pump.Stores required stored) {rest : List P}
    (h : pump.Ends budget t s items result t' s' rest) (report : R) :
    Keeps required stored again ⟨t', s', report, items ++ rest, items⟩
      ↔ ∀ item ∈ rest, ∀ a ∈ required item, stored s' a ∨ again t' a := by
  have hitems : ∀ item ∈ items, ∀ a ∈ required item, stored s' a := by
    cases h with
    | spent hmoves => exact hstores.stored_of_moves hmoves
    | empty hmoves => exact hstores.stored_of_moves hmoves
    | failed hmoves => exact hstores.stored_of_moves hmoves
    | refused hmoves _ _ hhandle =>
        intro item hitem a ha
        exact hstores.keeps hhandle a ha (hstores.stored_of_moves hmoves item hitem a ha)
  constructor
  · intro hkeeps item hitem
    exact hkeeps item (List.mem_append_right items hitem)
  · intro hrest item hitem a ha
    rcases List.mem_append.mp hitem with hitem | hitem
    · exact Or.inl (hitems item hitem a ha)
    · exact hrest item hitem a ha

/-! ## When a run loses nothing -/

lemma length_le_run (pump : Pump T S P R F) (budget : ℕ) (state : State T S P R) :
    state.moved.length ≤ (pump.run budget state).2.moved.length := by
  induction budget generalizing state with
  | zero => exact Nat.le_refl _
  | succ budget ih =>
      rw [run]
      rcases hrecv : pump.recv state.source with ⟨error | (_ | item), t'⟩
      · exact Nat.le_refl _
      · exact Nat.le_refl _
      · rcases hhandle : pump.handle state.sink item with ⟨error | _, s'⟩
        · simp [hhandle]
        · simp only [hhandle]
          refine Nat.le_trans ?_ (ih _)
          simp only [List.length_append]
          omega

/-- No stretch within the budget is longer than what a run moves. -/
lemma Ends.length_le {rest items' : List P} (h : pump.Ends budget t s items result t' s' rest)
    (report : R) (hmoves : pump.Moves t s items' t'' s'') (hlen : items'.length ≤ budget) :
    items'.length ≤ items.length := by
  obtain ⟨left, rfl⟩ := Nat.exists_eq_add_of_le hlen
  have hmoved := pump.length_le_run left
    ⟨t'', s'', pump.reportAll items' report, [] ++ items', [] ++ items'⟩
  rw [← run_of_moves hmoves left report [] []] at hmoved
  have hrun := run_of_ends h report
  rw [start] at hrun
  simpa [hrun] using hmoved

/-- A run moves no more than its budget. -/
lemma Ends.moves {rest : List P} (h : pump.Ends budget t s items result t' s' rest) :
    (∃ t'' s'', pump.Moves t s items t'' s'') ∧ items.length ≤ budget := by
  cases h with
  | spent hmoves hlen => exact ⟨⟨_, _, hmoves⟩, Nat.le_of_eq hlen⟩
  | empty hmoves hlen => exact ⟨⟨_, _, hmoves⟩, Nat.le_of_lt hlen⟩
  | failed hmoves hlen => exact ⟨⟨_, _, hmoves⟩, Nat.le_of_lt hlen⟩
  | refused hmoves hlen => exact ⟨⟨_, _, hmoves⟩, Nat.le_of_lt hlen⟩

/-- A failure within the budget ends a run. -/
lemma Moves.ends_of_failsNext (hmoves : pump.Moves t s items t' s')
    (hlen : items.length < budget) (hfails : pump.FailsNext t' s') :
    ∃ error t'' s'' rest, pump.Ends budget t s items (.error error) t'' s'' rest := by
  rcases hfails with ⟨error, t'', hrecv⟩ | ⟨item, t'', error, s'', hrecv, hhandle⟩
  · exact ⟨error, t'', s', [], .failed hmoves hlen hrecv⟩
  · exact ⟨error, t'', s'', [item], .refused hmoves hlen hrecv hhandle⟩

/-- A run ends in one way only. -/
lemma Ends.unique {result' : Except F Unit} {items' rest rest' : List P}
    (h : pump.Ends budget t s items result t' s' rest)
    (h' : pump.Ends budget t s items' result' t'' s'' rest') (report : R) :
    items = items' ∧ result = result' ∧ t' = t'' ∧ s' = s'' ∧ rest = rest' := by
  have heq := (run_of_ends h report).symm.trans (run_of_ends h' report)
  rw [Prod.mk.injEq, State.mk.injEq] at heq
  obtain ⟨hresult, hsource, hsink, -, htaken, hmoved⟩ := heq
  rw [hmoved] at htaken
  exact ⟨hmoved, hresult, hsource, hsink, List.append_cancel_left htaken⟩

/-- A run that does not fail loses nothing, and is counted exactly when the counter has room. -/
lemma Ends.smooth_iff {rest : List P} (h : pump.Ends budget t s items (.ok ()) t' s' rest)
    (report : R) :
    pump.Smooth budget max counter t s
      ↔ flush max counter items.length (.ok () : Except F Unit) = counter + items.length := by
  have hroom : flush max counter items.length (.ok () : Except F Unit) = counter + items.length
      ↔ counter + items.length ≤ max := by
    simp only [flush]
    omega
  rw [hroom]
  constructor
  · intro hsmooth
    obtain ⟨⟨t'', s'', hmoves⟩, hlen⟩ := h.moves
    exact hsmooth.room items t'' s'' hmoves hlen
  · intro hle
    refine ⟨fun items' t'' s'' hmoves' hlen' hfails => ?_, fun items' t'' s'' hmoves' hlen' => ?_⟩
    · obtain ⟨error, t₁, s₁, rest', hends⟩ := hmoves'.ends_of_failsNext hlen' hfails
      cases (h.unique hends report).2.1
    · have := h.length_le report hmoves' hlen'
      omega

/-- A run that fails harmlessly fails, and has moved nothing. -/
lemma Ends.of_failsHarmlessly {rest : List P}
    (h : pump.Ends budget t s items result t' s' rest) (report : R)
    (hfails : pump.FailsHarmlessly required stored again budget t s) :
    items = [] ∧ ∃ error, result = .error error := by
  obtain ⟨error, t₁, s₁, rest', hends⟩ :=
    Moves.nil.ends_of_failsNext hfails.started hfails.fails
  obtain ⟨hitems, hresult, -⟩ := h.unique hends report
  exact ⟨hitems, error, hresult⟩

/-- **When a run loses nothing and is counted.**  A run of which every failure loses what it took,
and leaves what it moved uncounted, keeps what has to be kept and counts what it moved exactly when
it fails before it has moved anything, and harmlessly, or does not fail at all and the counter has
room. -/
theorem lossless_iff (hstores : pump.Stores required stored) (budget max counter : ℕ) (t : T)
    (s : S) (report : R) :
    (Keeps required stored again (pump.run budget (start t s report)).2
        ∧ flush max counter (pump.run budget (start t s report)).2.moved.length
            (pump.run budget (start t s report)).1
          = counter + (pump.run budget (start t s report)).2.moved.length)
      ↔ pump.FailsHarmlessly required stored again budget t s
        ∨ pump.Smooth budget max counter t s := by
  obtain ⟨items, result, t', s', rest, h⟩ := pump.exists_ends budget t s
  rw [run_of_ends h report, hstores.keeps_iff h]
  have hharmless := fun hfails : pump.FailsHarmlessly required stored again budget t s =>
    h.of_failsHarmlessly report hfails
  cases result with
  | ok =>
      have hrest : rest = [] := by cases h <;> rfl
      rw [← h.smooth_iff report, hrest]
      constructor
      · intro hsmooth
        exact Or.inr hsmooth.2
      · rintro (hfails | hsmooth)
        · obtain ⟨-, error, hresult⟩ := hharmless hfails
          cases hresult
        · exact ⟨by simp, hsmooth⟩
  | error error =>
      cases h with
      | failed hmoves hlen hrecv =>
          constructor
          · rintro ⟨-, hcount⟩
            simp only [flush] at hcount
            obtain rfl : items = [] := List.length_eq_zero_iff.mp (by omega)
            cases hmoves
            refine Or.inl ⟨hlen, Or.inl ⟨_, _, hrecv⟩, fun item t₁ hitem => ?_⟩
            rw [hrecv] at hitem
            cases hitem
          · rintro (hfails | hsmooth)
            · obtain ⟨rfl, -⟩ := hharmless hfails
              exact ⟨by simp, by simp [flush]⟩
            · exact absurd (Or.inl ⟨_, _, hrecv⟩) (hsmooth.never_fails _ _ _ hmoves hlen)
      | @refused t₀ _ s₀ _ item error hmoves hlen hrecv hhandle =>
          constructor
          · rintro ⟨hkeeps, hcount⟩
            simp only [flush] at hcount
            obtain rfl : items = [] := List.length_eq_zero_iff.mp (by omega)
            cases hmoves
            refine Or.inl ⟨hlen, Or.inr ⟨_, _, _, _, hrecv, hhandle⟩, fun item' t₁ hitem a ha => ?_⟩
            rw [hrecv] at hitem
            cases hitem
            exact (hkeeps item (List.mem_singleton_self item) a ha).imp_left
              (hstores.refuses hhandle a ha)
          · rintro (hfails | hsmooth)
            · obtain ⟨rfl, -⟩ := hharmless hfails
              cases hmoves
              refine ⟨fun item' hitem a ha => ?_, by simp [flush]⟩
              rw [List.mem_singleton.mp hitem] at ha
              exact (hfails.harmless item _ hrecv a ha).imp_left (hstores.keeps hhandle a ha)
            · exact absurd (Or.inr ⟨_, _, _, _, hrecv, hhandle⟩)
                (hsmooth.never_fails _ _ _ hmoves hlen)

/-! ## Sinks that judge the item alone -/

/-- The source gives the items in a row. -/
inductive Gives (recv : T → Except F (Option P) × T) : T → List P → T → Prop where
  | nil {t : T} : Gives recv t [] t
  | cons {t t' t'' : T} {item : P} {items : List P} (hrecv : recv t = (.ok (some item), t'))
      (hgives : Gives recv t' items t'') : Gives recv t (item :: items) t''

/-- The source fails, or gives an item that is not acceptable. -/
def FailsAt (recv : T → Except F (Option P) × T) (ok : P → Prop) (t : T) : Prop :=
  (∃ error t', recv t = (.error error, t')) ∨ ∃ item t', recv t = (.ok (some item), t') ∧ ¬ ok item

/-- Within the budget nothing fails after an acceptable item. -/
def FailsOnlyFirst (recv : T → Except F (Option P) × T) (ok : P → Prop) (budget : ℕ) (t : T) :
    Prop :=
  ∀ items t', Gives recv t items t' → (∀ item ∈ items, ok item) → items.length < budget →
    FailsAt recv ok t' → items = []

section MapError

variable {F' : Type u} {recv : T → Except F (Option P) × T} {f : F → F'}

lemma recv_mapError_ok_iff {packet : Option P} :
    ((recv t).1.mapError f, (recv t).2) = (.ok packet, t') ↔ recv t = (.ok packet, t') := by
  rcases recv t with ⟨error | _, _⟩ <;> simp [Except.mapError]

lemma gives_mapError :
    Gives (fun t => ((recv t).1.mapError f, (recv t).2)) t items t' ↔ Gives recv t items t' := by
  constructor
  · intro h
    induction h with
    | nil => exact .nil
    | cons hrecv _ ih => exact .cons (recv_mapError_ok_iff.mp hrecv) ih
  · intro h
    induction h with
    | nil => exact .nil
    | cons hrecv _ ih => exact .cons (recv_mapError_ok_iff.mpr hrecv) ih

lemma failsAt_mapError {ok : P → Prop} :
    FailsAt (fun t => ((recv t).1.mapError f, (recv t).2)) ok t ↔ FailsAt recv ok t := by
  refine or_congr ?_ ?_
  · rcases hrecv : recv t with ⟨error | _, _⟩ <;> simp [hrecv, Except.mapError]
  · exact exists_congr fun item => exists_congr fun t' => and_congr_left' recv_mapError_ok_iff

/-- Names for the failures of the source make no difference. -/
lemma failsOnlyFirst_mapError {ok : P → Prop} :
    FailsOnlyFirst (fun t => ((recv t).1.mapError f, (recv t).2)) ok budget t
      ↔ FailsOnlyFirst recv ok budget t := by
  simp only [FailsOnlyFirst, gives_mapError, failsAt_mapError]

end MapError

/-- The sink takes exactly the acceptable items, in every state that it can come to. -/
structure Judges (pump : Pump T S P R F) (ok : P → Prop) (I : S → Prop) : Prop where
  keeps : ∀ s item, I s → I (pump.handle s item).2
  takes_iff : ∀ s item, I s → ((pump.handle s item).1 = .ok () ↔ ok item)

section Judges

variable {ok : P → Prop} {I : S → Prop} (h : pump.Judges ok I)
include h

lemma Judges.moves_of_gives (hs : I s) (hgives : Gives pump.recv t items t')
    (hok : ∀ item ∈ items, ok item) : ∃ s', pump.Moves t s items t' s' ∧ I s' := by
  induction hgives generalizing s with
  | nil => exact ⟨s, .nil, hs⟩
  | @cons t t' t'' item items hrecv hgives ih =>
      have htakes := (h.takes_iff s item hs).mpr (hok item List.mem_cons_self)
      obtain ⟨s', hmoves, hs'⟩ := ih (h.keeps s item hs) fun item hitem =>
        hok item (List.mem_cons_of_mem _ hitem)
      exact ⟨s', .cons hrecv (Prod.ext htakes rfl) hmoves, hs'⟩

lemma Judges.gives_of_moves (hs : I s) (hmoves : pump.Moves t s items t' s') :
    Gives pump.recv t items t' ∧ (∀ item ∈ items, ok item) ∧ I s' := by
  induction hmoves with
  | nil => exact ⟨.nil, by simp, hs⟩
  | @cons t t' t'' s s' s'' item items hrecv hhandle hmoves ih =>
      have hkeeps := h.keeps s item hs
      have htakes := (h.takes_iff s item hs).mp (congrArg Prod.fst hhandle)
      rw [hhandle] at hkeeps
      obtain ⟨hgives, hok, hs''⟩ := ih hkeeps
      refine ⟨.cons hrecv hgives, fun other hother => ?_, hs''⟩
      rcases List.mem_cons.mp hother with rfl | hother
      · exact htakes
      · exact hok other hother

lemma Judges.failsNext_iff (hs : I s) : pump.FailsNext t s ↔ FailsAt pump.recv ok t := by
  refine or_congr_right ⟨?_, ?_⟩
  · rintro ⟨item, t', error, s', hrecv, hhandle⟩
    refine ⟨item, t', hrecv, fun hok => ?_⟩
    rw [← h.takes_iff s item hs, hhandle] at hok
    cases hok
  · rintro ⟨item, t', hrecv, hnot⟩
    rcases hhandle : pump.handle s item with ⟨error | _, s'⟩
    · exact ⟨item, t', error, s', hrecv, hhandle⟩
    · exact absurd ((h.takes_iff s item hs).mp (congrArg Prod.fst hhandle)) hnot

/-- **When a run is complete.**  It does not fail, or has moved nothing, exactly when nothing fails
after an acceptable item. -/
theorem complete_iff (hs : I s) (budget : ℕ) (t : T) (report : R) :
    ((pump.run budget (start t s report)).1 = .ok ()
        ∨ (pump.run budget (start t s report)).2.moved = [])
      ↔ FailsOnlyFirst pump.recv ok budget t := by
  obtain ⟨items, result, t', s', rest, hends⟩ := pump.exists_ends budget t s
  rw [run_of_ends hends report]
  have hunique : ∀ items' t'', Gives pump.recv t items' t'' → (∀ item ∈ items', ok item) →
      items'.length < budget → FailsAt pump.recv ok t'' →
      items = items' ∧ ∃ error, result = .error error := by
    intro items' t'' hgives hok hlen hfails
    obtain ⟨s'', hmoves, hs''⟩ := h.moves_of_gives hs hgives hok
    obtain ⟨error, t₁, s₁, rest', hends'⟩ :=
      hmoves.ends_of_failsNext hlen ((h.failsNext_iff hs'').mpr hfails)
    obtain ⟨hitems, hresult, -⟩ := hends.unique hends' report
    exact ⟨hitems, error, hresult⟩
  constructor
  · rintro (hresult | hitems) items' t'' hgives hok hlen hfails
    · obtain ⟨-, error, herror⟩ := hunique items' t'' hgives hok hlen hfails
      exact absurd (hresult.symm.trans herror) (by simp)
    · exact (hunique items' t'' hgives hok hlen hfails).1.symm.trans hitems
  · intro hfirst
    cases hends with
    | spent => exact .inl rfl
    | empty => exact .inl rfl
    | failed hmoves hlen hrecv =>
        obtain ⟨hgives, hok, -⟩ := h.gives_of_moves hs hmoves
        exact .inr (hfirst items _ hgives hok hlen (.inl ⟨_, _, hrecv⟩))
    | refused hmoves hlen hrecv hhandle =>
        obtain ⟨hgives, hok, hs'⟩ := h.gives_of_moves hs hmoves
        refine .inr (hfirst items _ hgives hok hlen ?_)
        exact (h.failsNext_iff hs').mp (.inr ⟨_, _, _, _, hrecv, hhandle⟩)

end Judges

/-- **The invariant rule.**  What holds of the sink and what it took, while it takes and refuses
items, holds after a run. -/
theorem run_invariant {J : S → List P → Prop}
    (htakes : ∀ s moved item s', J s moved → pump.handle s item = (.ok (), s') →
      J s' (moved ++ [item]))
    (hrefuses : ∀ s moved item error s', J s moved → pump.handle s item = (.error error, s') →
      J s' moved) (hs : J s []) (budget : ℕ) (t : T) (report : R) :
    J (pump.run budget (start t s report)).2.sink (pump.run budget (start t s report)).2.moved := by
  have hrun : ∀ budget (state : State T S P R), J state.sink state.moved →
      J (pump.run budget state).2.sink (pump.run budget state).2.moved := by
    intro budget
    induction budget with
    | zero => exact fun state hstate => hstate
    | succ budget ih =>
        intro state hstate
        rw [run]
        rcases hrecv : pump.recv state.source with ⟨error | (_ | item), t'⟩
        · exact hstate
        · exact hstate
        · rcases hhandle : pump.handle state.sink item with ⟨error | _, s'⟩
          · simpa [hhandle] using hrefuses _ _ _ _ _ hstate hhandle
          · simp only [hhandle]
            exact ih _ (htakes _ _ _ _ hstate hhandle)
  exact hrun budget (start t s report) hs

end Pump
