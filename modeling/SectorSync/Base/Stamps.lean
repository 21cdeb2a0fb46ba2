import Mathlib.Order.Basic
import SectorSync.Base.Run

/-!
# Version stamps

A machine holds an object that it may also create and destroy, and stamps the object with a
version.  Readers compare stamps instead of objects, so equal stamps of one object should mean
equal values.  For stamps that never go down, `stampsIdentify_iff` reduces this property of
whole runs to single steps: no step may change the value under a kept stamp.

Counters stop at a largest value, so stamps that satisfy no `live` carry no obligation.

Stamps that start again with every creation are compared between the lives of the object: `lives`
are the values it has in turn, one list a life, and `stamps_identify_iff_livesAgree` says that
equal stamps mean equal values exactly when the lives agree place by place.

Where nothing but the order of stamps matters, `stampsRise_iff` reduces it to single steps.
-/

namespace Machine

universe u v

variable {σ : Type u} {ε : Type v} {step : σ → ε → σ} {s : σ}

/-- The object exists in every state of the run. -/
def Tracked {α : Type*} (step : σ → ε → σ) (obs : σ → Option α) (s : σ) (ops : List ε) : Prop :=
  ∀ pre, pre <+: ops → (obs (execute step s pre)).isSome = true

lemma tracked_nil {α : Type*} {obs : σ → Option α} :
    Tracked step obs s [] ↔ (obs s).isSome = true := by
  constructor
  · intro h
    exact h [] List.prefix_rfl
  · intro h pre hpre
    rw [List.prefix_nil.mp hpre]
    exact h

lemma tracked_cons {α : Type*} {obs : σ → Option α} {op : ε} {ops : List ε} :
    Tracked step obs s (op :: ops) ↔ (obs s).isSome = true ∧ Tracked step obs (step s op) ops := by
  constructor
  · intro h
    exact ⟨h [] List.nil_prefix, fun pre hpre => h (op :: pre) ((List.prefix_cons_inj op).mpr hpre)⟩
  · rintro ⟨hs, hrest⟩ pre hpre
    rcases List.prefix_cons_iff.mp hpre with rfl | ⟨pre', rfl, hpre'⟩
    · exact hs
    · exact hrest pre' hpre'

variable {α β γ : Type*} [PartialOrder β] (obs : σ → Option α) (stamp : α → β) (value : α → γ)
  (live : β → Prop)

/-- If the object is in both states, under one live stamp, it has one value. -/
def KeepsValue (s s' : σ) : Prop :=
  ∀ a b, obs s = some a → obs s' = some b → stamp a = stamp b → live (stamp a) →
    value a = value b

/-- Two observations of the object in a run, with the object existing all along between them and
under one live stamp, have one value. -/
def StampsIdentify (step : σ → ε → σ) (s : σ) (ops : List ε) : Prop :=
  ∀ pre mid, pre ++ mid <+: ops → Tracked step obs (execute step s pre) mid →
    KeepsValue obs stamp value live (execute step s pre) (execute step s (pre ++ mid))

variable {obs stamp value live}

/-- Along a run whose steps keep values, stamps only rise, and equal stamps mean equal values. -/
lemma keepsValue_execute
    (hmono : ∀ s op a b, obs s = some a → obs (step s op) = some b → stamp a ≤ stamp b)
    {ops : List ε}
    (hsteps : AllSteps step (fun s op => KeepsValue obs stamp value live s (step s op)) s ops)
    (htracked : Tracked step obs s ops) {a b : α} (ha : obs s = some a)
    (hb : obs (execute step s ops) = some b) :
    stamp a ≤ stamp b ∧ (stamp a = stamp b → live (stamp a) → value a = value b) := by
  induction ops generalizing s a with
  | nil =>
      rw [execute_nil, ha, Option.some.injEq] at hb
      subst hb
      exact ⟨le_refl _, fun _ _ => rfl⟩
  | cons op ops ih =>
      have hrest := (tracked_cons.mp htracked).2
      obtain ⟨c, hc⟩ := Option.isSome_iff_exists.mp (hrest [] List.nil_prefix)
      have hac : stamp a ≤ stamp c := hmono s op a c ha hc
      have hcb := ih hsteps.2 hrest hc hb
      refine ⟨le_trans hac hcb.1, fun heq hlive => ?_⟩
      -- the stamp between the two ends is squeezed, so neither part changes the value
      have hmid : stamp a = stamp c := le_antisymm hac (le_of_le_of_eq hcb.1 heq.symm)
      calc value a = value c := hsteps.1 a c ha hc hmid hlive
        _ = value b := hcb.2 (hmid.symm.trans heq) (hmid ▸ hlive)

/-- **Stamps identify values exactly when no step changes a value under a kept stamp.** -/
theorem stampsIdentify_iff
    (hmono : ∀ s op a b, obs s = some a → obs (step s op) = some b → stamp a ≤ stamp b)
    (s : σ) (ops : List ε) :
    StampsIdentify obs stamp value live step s ops
      ↔ AllSteps step (fun s op => KeepsValue obs stamp value live s (step s op)) s ops := by
  constructor
  · intro h
    induction ops generalizing s with
    | nil => exact trivial
    | cons op ops ih =>
        refine ⟨fun a b ha hb => ?_, ih (step s op) fun pre mid hpre htracked => ?_⟩
        · have htracked : Tracked step obs s [op] :=
            tracked_cons.mpr ⟨by rw [ha, Option.isSome_some], tracked_nil.mpr (by simp [hb])⟩
          exact h [] [op] (by simp) htracked a b ha hb
        · exact h (op :: pre) mid ((List.prefix_cons_inj op).mpr hpre) htracked
  · intro hsteps pre mid hpre htracked a b ha hb
    obtain ⟨post, rfl⟩ := hpre
    have hmid := (allSteps_append.mp (allSteps_append.mp hsteps).1).2
    rw [execute_append] at hb
    exact (keepsValue_execute hmono hmid htracked ha hb).2

/-! ## Stamps that rise -/

section Rise

variable {σ : Type u} {ε : Type v} {α β : Type*} [Preorder β] (obs : σ → Option α) (stamp : α → β)

/-- Between two observations of the object in a run, with the object existing all along, the stamp
does not drop. -/
def StampsRise (step : σ → ε → σ) (s : σ) (ops : List ε) : Prop :=
  ∀ pre mid, pre ++ mid <+: ops → Tracked step obs (execute step s pre) mid →
    ∀ a b, obs (execute step s pre) = some a → obs (execute step s (pre ++ mid)) = some b →
      stamp a ≤ stamp b

variable {obs stamp} {step : σ → ε → σ} {s : σ}

lemma stamp_le_execute {ops : List ε}
    (hsteps : AllSteps step (fun s op => ∀ a b, obs s = some a → obs (step s op) = some b →
      stamp a ≤ stamp b) s ops)
    (htracked : Tracked step obs s ops) {a b : α} (ha : obs s = some a)
    (hb : obs (execute step s ops) = some b) : stamp a ≤ stamp b := by
  induction ops generalizing s a with
  | nil =>
      rw [execute_nil, ha, Option.some.injEq] at hb
      rw [hb]
  | cons op ops ih =>
      have hrest := (tracked_cons.mp htracked).2
      obtain ⟨c, hc⟩ := Option.isSome_iff_exists.mp (hrest [] List.nil_prefix)
      exact le_trans (hsteps.1 a c ha hc) (ih hsteps.2 hrest hc hb)

/-- **Stamps rise along runs exactly when they rise in every step.** -/
theorem stampsRise_iff (s : σ) (ops : List ε) :
    StampsRise obs stamp step s ops
      ↔ AllSteps step (fun s op => ∀ a b, obs s = some a → obs (step s op) = some b →
        stamp a ≤ stamp b) s ops := by
  constructor
  · intro h
    induction ops generalizing s with
    | nil => exact trivial
    | cons op ops ih =>
        refine ⟨fun a b ha hb => ?_, ih (step s op) fun pre mid hpre htracked => ?_⟩
        · have htracked : Tracked step obs s [op] :=
            tracked_cons.mpr ⟨by rw [ha, Option.isSome_some], tracked_nil.mpr (by simp [hb])⟩
          exact h [] [op] (by simp) htracked a b ha hb
        · exact h (op :: pre) mid ((List.prefix_cons_inj op).mpr hpre) htracked
  · intro hsteps pre mid hpre htracked a b ha hb
    obtain ⟨post, rfl⟩ := hpre
    have hmid := (allSteps_append.mp (allSteps_append.mp hsteps).1).2
    rw [execute_append] at hb
    exact stamp_le_execute hmid htracked ha hb

end Rise

/-! ## Objects that are created again -/

section Lives

variable {σ : Type u} {ε : Type v} {α γ : Type*} (obs : σ → Option α) (stamp : α → ℕ)
  (value : α → γ)
  (limit : ℕ)

/-- The stamp counts the values of one life of the object, up to the limit. -/
inductive Counts : Option α → Option α → Prop where
  | gone {before : Option α} : Counts before none
  | created {b : α} (hstamp : stamp b = 1) : Counts none (some b)
  | kept {a b : α} (hvalue : value b = value a) (hstamp : stamp b = stamp a) :
      Counts (some a) (some b)
  | changed {a b : α} (hvalue : value b ≠ value a) (hstamp : stamp b = min (stamp a + 1) limit) :
      Counts (some a) (some b)

/-- The lives after a step, the latest one first. -/
def nextLives [DecidableEq γ] (before after : Option α) (lives : List (List γ)) : List (List γ) :=
  match before, after with
  | _, none => lives
  | none, some b => [value b] :: lives
  | some a, some b =>
      if value b = value a then lives else lives.modifyHead (· ++ [value b])

/-- A step of the machine with the lives so far. -/
def livesStep [DecidableEq γ] (step : σ → ε → σ) (state : σ × List (List γ)) (op : ε) :
    σ × List (List γ) :=
  (step state.1 op, nextLives value (obs state.1) (obs (step state.1 op)) state.2)

/-- The values that the object has in turn, one list for each of its lives. -/
def lives [DecidableEq γ] (step : σ → ε → σ) (s : σ) (ops : List ε) : List (List γ) :=
  (execute (livesStep obs value step) (s, []) ops).2

/-- Some life has the value at the place. -/
def HasValue (lives : List (List γ)) (k : ℕ) (v : γ) : Prop := ∃ life ∈ lives, life[k]? = some v

/-- At one place all lives have one value, as far as stamps can tell places apart. -/
def LivesAgree (lives : List (List γ)) : Prop :=
  ∀ k v v', k + 1 < limit → HasValue lives k v → HasValue lives k v' → v = v'

/-- The object is in its latest life, where its stamp counts the values. -/
def Current (s : σ) (lives : List (List γ)) : Prop :=
  ∀ a, obs s = some a → ∃ life rest, lives = (life ++ [value a]) :: rest
    ∧ stamp a = min (life.length + 1) limit

variable {obs stamp value limit} {step : σ → ε → σ} {s : σ}

lemma hasValue_cons {life : List γ} {lives : List (List γ)} {k : ℕ} {v : γ} :
    HasValue (life :: lives) k v ↔ life[k]? = some v ∨ HasValue lives k v := by
  simp [HasValue]

/-- One life agrees with itself. -/
lemma livesAgree_of_length_le_one {lives : List (List γ)} (hlength : lives.length ≤ 1) :
    LivesAgree limit lives := by
  rintro k v v' - ⟨life, hlife, hv⟩ ⟨life', hlife', hv'⟩
  obtain rfl : life = life' := by
    match lives, hlength with
    | [], _ => cases hlife
    | [only], _ => exact (List.mem_singleton.mp hlife).trans (List.mem_singleton.mp hlife').symm
  rw [hv, Option.some.injEq] at hv'
  exact hv'

lemma getElem?_concat {life : List γ} {w v : γ} {k : ℕ} :
    (life ++ [w])[k]? = some v ↔ life[k]? = some v ∨ (k = life.length ∧ w = v) := by
  rw [List.getElem?_append]
  split_ifs with hk
  · refine ⟨Or.inl, fun h => h.resolve_right ?_⟩
    rintro ⟨hlast, -⟩
    omega
  · rw [List.getElem?_eq_none (Nat.le_of_not_lt hk), List.getElem?_singleton]
    split_ifs with hzero
    · simp only [Option.some.injEq, false_or]
      exact ⟨fun h => ⟨by omega, h⟩, fun h => h.2⟩
    · simp only [false_or, false_iff, not_and]
      intro heq
      omega

variable [DecidableEq γ]

lemma current_livesStep (hlimit : 0 < limit) {state : σ × List (List γ)} {op : ε}
    (hcounts : Counts stamp value limit (obs state.1) (obs (step state.1 op)))
    (h : Current obs stamp value limit state.1 state.2) :
    Current obs stamp value limit (livesStep obs value step state op).1
      (livesStep obs value step state op).2 := by
  intro b hb
  simp only [livesStep] at hb ⊢
  rw [hb] at hcounts ⊢
  generalize hbefore : obs state.1 = before at hcounts
  cases hcounts with
  | created hstamp =>
      refine ⟨[], state.2, rfl, ?_⟩
      rw [hstamp]
      exact (Nat.min_eq_left hlimit).symm
  | @kept a _ hvalue hstamp =>
      obtain ⟨life, rest, hlives, hcount⟩ := h a hbefore
      refine ⟨life, rest, ?_, hstamp.trans hcount⟩
      rw [nextLives, if_pos hvalue, hlives, hvalue]
  | @changed a _ hvalue hstamp =>
      obtain ⟨life, rest, hlives, hcount⟩ := h a hbefore
      refine ⟨life ++ [value a], rest, ?_, ?_⟩
      · rw [nextLives, if_neg hvalue, hlives, List.modifyHead_cons]
      · rw [hstamp, hcount, List.length_append, List.length_singleton]
        omega

/-- A step adds to the lives the value that it shows. -/
lemma hasValue_livesStep {state : σ × List (List γ)} {op : ε} {k : ℕ} {v : γ}
    (hcounts : Counts stamp value limit (obs state.1) (obs (step state.1 op)))
    (h : Current obs stamp value limit state.1 state.2) (hk : k + 1 < limit) :
    HasValue (livesStep obs value step state op).2 k v
      ↔ HasValue state.2 k v
        ∨ ∃ b, obs (step state.1 op) = some b ∧ stamp b = k + 1 ∧ value b = v := by
  simp only [livesStep]
  generalize hbefore : obs state.1 = before at hcounts ⊢
  generalize obs (step state.1 op) = after at hcounts ⊢
  cases hcounts with
  | gone => simp [nextLives]
  | created hstamp =>
      simp only [nextLives, hasValue_cons, List.getElem?_singleton, Option.some.injEq,
        exists_eq_left', hstamp]
      rw [or_comm]
      refine or_congr_right ?_
      split_ifs with hzero
      · simp [hzero]
      · simp only [false_iff, not_and]
        omega
  | @kept a b hvalue hstamp =>
      obtain ⟨life, rest, hlives, hcount⟩ := h a hbefore
      simp only [nextLives, hvalue, if_true, Option.some.injEq, exists_eq_left', hstamp, hcount]
      refine ⟨Or.inl, fun hv => hv.elim id ?_⟩
      rintro ⟨hlength, rfl⟩
      have hlast : k = life.length := by omega
      rw [hlives, hasValue_cons, getElem?_concat]
      exact .inl (.inr ⟨hlast, rfl⟩)
  | @changed a b hvalue hstamp =>
      obtain ⟨life, rest, hlives, hcount⟩ := h a hbefore
      simp only [nextLives, hvalue, if_false, Option.some.injEq, exists_eq_left', hstamp, hcount,
        hlives, List.modifyHead_cons]
      rw [hasValue_cons, getElem?_concat, hasValue_cons, or_right_comm]
      refine or_congr_right (and_congr_left' ?_)
      rw [List.length_append, List.length_singleton]
      omega

lemma current_lives (hlimit : 0 < limit)
    (hcounts : ∀ s op, Counts stamp value limit (obs s) (obs (step s op))) (hs : obs s = none)
    (ops : List ε) :
    (execute (livesStep obs value step) (s, []) ops).1 = execute step s ops
      ∧ Current obs stamp value limit (execute step s ops) (lives obs value step s ops) := by
  have hcurrent : Current obs stamp value limit
      (execute (livesStep obs value step) (s, []) ops).1
      (execute (livesStep obs value step) (s, []) ops).2 := by
    have hnew : Current obs stamp value limit s ([] : List (List γ)) := by
      intro a ha
      rw [hs] at ha
      exact absurd ha (by simp)
    have hstep : ∀ state : σ × List (List γ), ∀ op,
        Current obs stamp value limit state.1 state.2 →
        Current obs stamp value limit (livesStep obs value step state op).1
          (livesStep obs value step state op).2 :=
      fun state op h => current_livesStep hlimit (hcounts _ op) h
    exact execute_preserves
      (I := fun state : σ × List (List γ) => Current obs stamp value limit state.1 state.2)
      hstep hnew ops
  have hstate : (execute (livesStep obs value step) (s, []) ops).1
      = execute step s (trace (livesStep obs value step) (fun _ op => op) (s, []) ops) :=
    execute_trace (fun _ _ => rfl) (s, []) ops
  rw [trace_self] at hstate
  exact ⟨hstate, hstate ▸ hcurrent⟩

/-- The lives of a run are the values it shows, each at the place of its stamp. -/
lemma hasValue_lives (hlimit : 0 < limit)
    (hcounts : ∀ s op, Counts stamp value limit (obs s) (obs (step s op))) (hs : obs s = none)
    (ops : List ε) {k : ℕ} {v : γ} (hk : k + 1 < limit) :
    HasValue (lives obs value step s ops) k v
      ↔ ∃ pre a, pre <+: ops ∧ obs (execute step s pre) = some a ∧ stamp a = k + 1
        ∧ value a = v := by
  induction ops using List.reverseRecOn with
  | nil => simp [lives, HasValue, hs]
  | append_singleton ops op ih =>
      obtain ⟨hstate, hcurrent⟩ := current_lives hlimit hcounts hs ops
      rw [← hstate] at hcurrent
      have hvalue := hasValue_livesStep (v := v) (hcounts _ op) hcurrent hk
      rw [lives, execute_concat, hvalue, ← lives, ih, hstate]
      simp only [List.prefix_concat_iff, or_and_right, exists_or]
      rw [or_comm]
      simp [execute_concat]

/-- A stamp that counts is positive. -/
lemma stamp_pos (hlimit : 0 < limit)
    (hcounts : ∀ s op, Counts stamp value limit (obs s) (obs (step s op))) (hs : obs s = none)
    {ops : List ε} {a : α} (ha : obs (execute step s ops) = some a) : 0 < stamp a := by
  obtain ⟨life, rest, -, hcount⟩ := (current_lives hlimit hcounts hs ops).2 a ha
  rw [hcount]
  exact Nat.lt_min.mpr ⟨Nat.succ_pos _, hlimit⟩

/-- **Stamps that start again identify values exactly when the lives agree.** -/
theorem stamps_identify_iff_livesAgree (hlimit : 0 < limit)
    (hcounts : ∀ s op, Counts stamp value limit (obs s) (obs (step s op))) (hs : obs s = none)
    (ops : List ε) :
    (∀ pre pre', pre <+: ops → pre' <+: ops → ∀ a b, obs (execute step s pre) = some a →
        obs (execute step s pre') = some b → stamp a = stamp b → stamp a < limit →
        value a = value b)
      ↔ LivesAgree limit (lives obs value step s ops) := by
  constructor
  · intro h k v v' hk hv hv'
    obtain ⟨pre, a, hpre, ha, hstamp, rfl⟩ := (hasValue_lives hlimit hcounts hs ops hk).mp hv
    obtain ⟨pre', b, hpre', hb, hstamp', rfl⟩ := (hasValue_lives hlimit hcounts hs ops hk).mp hv'
    exact h pre pre' hpre hpre' a b ha hb (hstamp.trans hstamp'.symm) (hstamp ▸ hk)
  · intro h pre pre' hpre hpre' a b ha hb hstamp hlive
    have hplace : stamp a - 1 + 1 = stamp a := Nat.sub_add_cancel (stamp_pos hlimit hcounts hs ha)
    have hk : stamp a - 1 + 1 < limit := hplace.trans_lt hlive
    refine h (stamp a - 1) _ _ hk ?_ ?_
    · exact (hasValue_lives hlimit hcounts hs ops hk).mpr ⟨pre, a, hpre, ha, hplace.symm, rfl⟩
    · exact (hasValue_lives hlimit hcounts hs ops hk).mpr
        ⟨pre', b, hpre', hb, hstamp.symm.trans hplace.symm, rfl⟩

end Lives

end Machine
