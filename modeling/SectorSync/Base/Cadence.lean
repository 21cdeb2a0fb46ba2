import SectorSync.Base.Tagged

/-!
# Uses that keep a distance in time

Something is used at certain times, and every use asks for a gap to the uses before it.  `Spaced`
says that a list of uses keeps the gaps; `Spaced.length_le` bounds how many uses a stretch of time
can hold.

A memory of the last use of every key is enough to keep the gaps, as long as it remembers.  When it
forgets a key, a new streak of uses begins.  `Cadenced` relates the memory to a log of all uses
under their key and streak; `Cadenced.useAll` is the rule for a call that uses several keys, each
when it is due, and `Cadenced.forget` that for a call after which some keys are forgotten.
-/

universe u v

namespace Cadence

variable {K : Type u} {α : Type v} (time gap : α → ℕ)

/-- Every use keeps its gap to the uses before it. -/
def Spaced (uses : List α) : Prop := uses.Pairwise fun a b => time a + gap b ≤ time b

variable {time gap} {uses : List α}

/-- **Uses in a stretch of time.**  A stretch no longer than `n` gaps holds at most `n` uses. -/
theorem Spaced.length_le (h : Spaced time gap uses) (start width least : ℕ) {n : ℕ}
    (hgap : ∀ a ∈ uses, least ≤ gap a)
    (hwithin : ∀ a ∈ uses, start ≤ time a ∧ time a < start + width) (hwidth : width ≤ least * n) :
    uses.length ≤ n := by
  induction uses generalizing start width n with
  | nil => exact Nat.zero_le n
  | cons a uses ih =>
      obtain ⟨hlater, hrest⟩ := List.pairwise_cons.mp h
      obtain ⟨hstart, hend⟩ := hwithin a List.mem_cons_self
      cases n with
      | zero =>
          rw [Nat.mul_zero] at hwidth
          omega
      | succ n =>
          rw [Nat.mul_succ] at hwidth
          rw [List.length_cons]
          refine Nat.succ_le_succ (ih hrest (start + least) (width - least)
            (fun b hb => hgap b (List.mem_cons_of_mem a hb)) (fun b hb => ?_) (by omega))
          have hspace := hlater b hb
          have hleast := hgap b (List.mem_cons_of_mem a hb)
          have hb := (hwithin b (List.mem_cons_of_mem a hb)).2
          omega

lemma Spaced.filter (h : Spaced time gap uses) (p : α → Bool) : Spaced time gap (uses.filter p) :=
  List.Pairwise.filter p h

/-- No use is later than the last one. -/
lemma Spaced.time_le_last (h : Spaced time gap uses) {last : α} (hlast : uses.getLast? = some last)
    {a : α} (ha : a ∈ uses) : time a ≤ time last := by
  obtain ⟨before, rfl⟩ := List.getLast?_eq_some_iff.mp hlast
  rcases List.mem_append.mp ha with ha | ha
  · have hspace := (List.pairwise_append.mp h).2.2 a ha last (List.mem_singleton_self last)
    omega
  · exact Nat.le_of_eq (congrArg time (List.mem_singleton.mp ha))

/-- A use that is due after the last one is due after all. -/
lemma Spaced.concat (h : Spaced time gap uses) {a : α}
    (hdue : ∀ last, uses.getLast? = some last → time last + gap a ≤ time a) :
    Spaced time gap (uses ++ [a]) := by
  refine List.pairwise_append.mpr ⟨h, List.pairwise_singleton _ a, fun b hb c hc => ?_⟩
  obtain rfl := List.mem_singleton.mp hc
  obtain ⟨last, hlast⟩ : ∃ last, uses.getLast? = some last := by
    rw [← Option.isSome_iff_exists, List.getLast?_isSome]
    exact List.ne_nil_of_mem hb
  have hbefore := h.time_le_last hlast hb
  have hafter := hdue last hlast
  omega

/-! ## Streaks -/

variable [DecidableEq K] {last last' : K → Option ℕ} {streak : K → ℕ} {log : List ((K × ℕ) × α)}

/-- The streaks after a call: a key that was remembered and no longer is has ended its streak. -/
def endStreaks (last last' : K → Option ℕ) (streak : K → ℕ) (k : K) : ℕ :=
  if (last k).isSome ∧ last' k = none then streak k + 1 else streak k

variable (time gap) in
/-- The memory holds the time of the last use of the running streak, and the uses of a streak keep
their gaps. -/
structure Cadenced (last : K → Option ℕ) (streak : K → ℕ) (log : List ((K × ℕ) × α)) : Prop where
  spaced : ∀ k s, Spaced time gap (ofTag (k, s) log)
  last : ∀ k, last k = (ofTag (k, streak k) log).getLast?.map time
  begun : ∀ k s, streak k < s → ofTag (k, s) log = []

lemma cadenced_nil (streak : K → ℕ) : Cadenced time gap (fun _ => none) streak [] where
  spaced _ _ := List.Pairwise.nil
  last _ := rfl
  begun _ _ _ := rfl

/-- One use, when it is due. -/
lemma Cadenced.use (h : Cadenced time gap last streak log) {k : K} {a : α}
    (hdue : ∀ t, last k = some t → t + gap a ≤ time a) :
    Cadenced time gap (Function.update last k (some (time a))) streak
      (log ++ [((k, streak k), a)]) := by
  have hone (tag : K × ℕ) :
      ofTag tag [((k, streak k), a)] = if (k, streak k) = tag then [a] else [] := by
    show ofTag tag ([a].map ((k, streak k), ·)) = _
    exact ofTag_map
  constructor
  · intro k' s
    rw [ofTag_append, hone]
    split_ifs with htag
    · obtain ⟨rfl, rfl⟩ := Prod.mk.inj htag
      refine (h.spaced k (streak k)).concat fun used hused => hdue _ ?_
      rw [h.last, hused, Option.map_some]
    · rw [List.append_nil]
      exact h.spaced k' s
  · intro k'
    rw [ofTag_append, hone, Function.update_apply]
    split_ifs with hk htag htag
    · rw [List.getLast?_append]
      rfl
    · exact absurd (by rw [hk]) htag
    · exact absurd (Prod.mk.inj htag).1.symm hk
    · rw [List.append_nil]
      exact h.last k'
  · intro k' s hs
    rw [ofTag_append, hone, h.begun k' s hs, if_neg, List.append_nil]
    intro htag
    obtain ⟨rfl, rfl⟩ := Prod.mk.inj htag
    exact Nat.lt_irrefl _ hs

/-- **Several uses in one call**, of different keys and each when it is due. -/
theorem Cadenced.useAll (h : Cadenced time gap last streak log) {used : List (K × α)}
    (hkeys : (used.map Prod.fst).Nodup)
    (hdue : ∀ k a, (k, a) ∈ used → ∀ t, last k = some t → t + gap a ≤ time a)
    (hused : ∀ k a, (k, a) ∈ used → last' k = some (time a))
    (hunused : ∀ k, k ∉ used.map Prod.fst → last' k = last k) :
    Cadenced time gap last' streak (log ++ used.map fun use => ((use.1, streak use.1), use.2)) := by
  induction used generalizing last log with
  | nil =>
      obtain rfl : last' = last := funext fun k => hunused k List.not_mem_nil
      rw [List.map_nil, List.append_nil]
      exact h
  | cons use used ih =>
      obtain ⟨k, a⟩ := use
      obtain ⟨hfresh, hkeys⟩ := List.nodup_cons.mp hkeys
      have hne : ∀ k' a', (k', a') ∈ used → k' ≠ k := by
        rintro k' a' hmem rfl
        exact hfresh (List.mem_map.mpr ⟨(k', a'), hmem, rfl⟩)
      rw [List.map_cons, List.append_cons]
      refine ih (h.use (hdue k a List.mem_cons_self)) hkeys (fun k' a' hmem => ?_)
        (fun k' a' hmem => hused k' a' (List.mem_cons_of_mem _ hmem)) fun k' hk' => ?_
      · rw [Function.update_of_ne (hne k' a' hmem)]
        exact hdue k' a' (List.mem_cons_of_mem _ hmem)
      · rw [Function.update_apply]
        split_ifs with heq
        · rw [heq]
          exact hused k a List.mem_cons_self
        · refine hunused k' ?_
          rw [List.map_cons, List.mem_cons, not_or]
          exact ⟨heq, hk'⟩

/-- **Forgetting** ends streaks. -/
theorem Cadenced.forget (h : Cadenced time gap last streak log)
    (hlast : ∀ k, last' k = last k ∨ last' k = none) :
    Cadenced time gap last' (endStreaks last last' streak) log := by
  refine ⟨h.spaced, fun k => ?_, fun k s hs => h.begun k s ?_⟩
  · unfold endStreaks
    split_ifs with hended
    · rw [hended.2, h.begun k _ (Nat.lt_succ_self _)]
      rfl
    · rw [← h.last]
      rcases hlast k with heq | hnone
      · exact heq
      · -- a key that nothing was known of
        cases hlastk : last k with
        | none => exact hnone
        | some t => exact absurd ⟨by rw [hlastk]; rfl, hnone⟩ hended
  · unfold endStreaks at hs
    split_ifs at hs
    · omega
    · exact hs

end Cadence
