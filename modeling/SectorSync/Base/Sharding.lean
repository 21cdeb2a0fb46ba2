import Mathlib.Data.Option.Basic
import Mathlib.Logic.Function.Basic
import Mathlib.Tactic.Common

/-!
# A map kept in shards

Places hold entries of one map: `held p k` is what the place `p` holds for the key `k`.  The places
are `Shards` of a map when every entry of the map is held at exactly one place and nothing else is
held anywhere.

The rules follow what can happen to shards.  A place may write one key that no other place holds
(`write`), entries may move from one place to another (`move`), and a place may be lost with what it
holds (`lose`).  Moving entries is invisible in the map.
-/

universe u v w

variable {P : Type u} {K : Type v} {V : Type w}

/-- Every entry of the map is held at exactly one place, and the places hold nothing else. -/
structure Shards (held : P → K → Option V) (entries : K → Option V) : Prop where
  sound : ∀ p k v, held p k = some v → entries k = some v
  complete : ∀ k v, entries k = some v → ∃ p, held p k = some v
  single : ∀ p q k, (held p k).isSome → (held q k).isSome → p = q

namespace Shards

variable {held held' : P → K → Option V} {entries : K → Option V}

lemma empty : Shards (fun (_ : P) (_ : K) => (none : Option V)) fun _ => none where
  sound p k v h := by cases h
  complete k v h := by cases h
  single p q k h := by cases h

/-- The entries are still held where they were. -/
lemma congr (h : Shards held entries) (hsame : ∀ p k, held' p k = held p k) :
    Shards held' entries := by
  obtain rfl : held' = held := funext fun p => funext fun k => hsame p k
  exact h

/-- What one place holds no other place does. -/
lemma alone (h : Shards held entries) {p : P} {k : K} (hheld : (held p k).isSome) {q : P}
    (hne : q ≠ p) : held q k = none := by
  by_contra hother
  exact hne (h.single q p k (Option.isSome_iff_ne_none.mpr hother) hheld)

/-- A key that is not in the map is held nowhere. -/
lemma held_eq_none (h : Shards held entries) {k : K} (hentry : entries k = none) (p : P) :
    held p k = none := by
  rw [Option.eq_none_iff_forall_ne_some]
  intro v hheld
  rw [h.sound p k v hheld] at hentry
  cases hentry

/-- What a place holds is what the map has. -/
lemma entries_eq (h : Shards held entries) {p : P} {k : K} (hheld : (held p k).isSome) :
    entries k = held p k := by
  obtain ⟨v, hv⟩ := Option.isSome_iff_exists.mp hheld
  rw [hv]
  exact h.sound p k v hv

/-- **Write.**  A place writes a key that no other place holds. -/
lemma write [DecidableEq K] (h : Shards held entries) {p : P} {k : K} {value : Option V}
    (halone : ∀ q, q ≠ p → held q k = none) (hself : held' p k = value)
    (hothers : ∀ q j, j ≠ k ∨ q ≠ p → held' q j = held q j) :
    Shards held' (Function.update entries k value) where
  sound q j v hv := by
    by_cases hj : j = k
    · subst hj
      rw [Function.update_self]
      by_cases hq : q = p
      · rwa [← hself, ← hq]
      · rw [hothers q j (.inr hq), halone q hq] at hv
        cases hv
    · rw [Function.update_of_ne hj]
      rw [hothers q j (.inl hj)] at hv
      exact h.sound q j v hv
  complete j v hv := by
    by_cases hj : j = k
    · subst hj
      rw [Function.update_self] at hv
      exact ⟨p, hself.trans hv⟩
    · rw [Function.update_of_ne hj] at hv
      obtain ⟨q, hq⟩ := h.complete j v hv
      exact ⟨q, (hothers q j (.inl hj)).trans hq⟩
  single q q' j hq hq' := by
    by_cases hj : j = k
    · subst hj
      have hplace : ∀ q, (held' q j).isSome → q = p := by
        intro q hq
        by_contra hne
        rw [hothers q j (.inr hne), halone q hne] at hq
        cases hq
      rw [hplace q hq, hplace q' hq']
    · rw [hothers q j (.inl hj)] at hq
      rw [hothers q' j (.inl hj)] at hq'
      exact h.single q q' j hq hq'

/-- **Move.**  Entries of one place are held by another one afterwards; the map stays. -/
lemma move (h : Shards held entries) {source target : P} (hne : source ≠ target) (moved : K → Prop)
    (hmoved : ∀ k, moved k → (held source k).isSome ∧ held' source k = none
      ∧ held' target k = held source k)
    (hrest : ∀ p k, (p ≠ source ∧ p ≠ target) ∨ ¬ moved k → held' p k = held p k) :
    Shards held' entries := by
  classical
  -- every place but the target holds what it held, or the key has moved
  have hplace : ∀ p k, moved k → (held' p k).isSome → p = target := by
    intro p k hk hp
    by_contra htarget
    by_cases hsource : p = source
    · rw [hsource, (hmoved k hk).2.1] at hp
      cases hp
    · rw [hrest p k (.inl ⟨hsource, htarget⟩), h.alone (hmoved k hk).1 hsource] at hp
      cases hp
  refine ⟨fun p k v hv => ?_, fun k v hv => ?_, fun p q k hp hq => ?_⟩
  · by_cases hk : moved k
    · obtain rfl := hplace p k hk (Option.isSome_iff_exists.mpr ⟨v, hv⟩)
      rw [(hmoved k hk).2.2] at hv
      exact h.sound source k v hv
    · rw [hrest p k (.inr hk)] at hv
      exact h.sound p k v hv
  · by_cases hk : moved k
    · refine ⟨target, ?_⟩
      rw [(hmoved k hk).2.2, ← h.entries_eq (hmoved k hk).1]
      exact hv
    · obtain ⟨p, hp⟩ := h.complete k v hv
      exact ⟨p, (hrest p k (.inr hk)).trans hp⟩
  · by_cases hk : moved k
    · rw [hplace p k hk hp, hplace q k hk hq]
    · rw [hrest p k (.inr hk)] at hp
      rw [hrest q k (.inr hk)] at hq
      exact h.single p q k hp hq

/-- **Lose.**  A place is lost with what it holds. -/
lemma lose (h : Shards held entries) {p : P} (hlost : ∀ k, held' p k = none)
    (hothers : ∀ q, q ≠ p → ∀ k, held' q k = held q k) :
    Shards held' fun k => if (held p k).isSome then none else entries k where
  sound q k v hv := by
    by_cases hq : q = p
    · rw [hq, hlost] at hv
      cases hv
    · rw [hothers q hq] at hv
      rw [if_neg, h.sound q k v hv]
      intro hp
      exact hq (h.single q p k (Option.isSome_iff_exists.mpr ⟨v, hv⟩) hp)
  complete k v hv := by
    split_ifs at hv with hp
    obtain ⟨q, hq⟩ := h.complete k v hv
    refine ⟨q, (hothers q ?_ k).trans hq⟩
    rintro rfl
    exact hp (Option.isSome_iff_exists.mpr ⟨v, hq⟩)
  single q q' k hq hq' := by
    have hkept : ∀ q, (held' q k).isSome → (held q k).isSome := by
      intro q hq
      by_cases hqp : q = p
      · rw [hqp, hlost] at hq
        cases hq
      · rwa [hothers q hqp] at hq
    exact h.single q q' k (hkept q hq) (hkept q' hq')

end Shards
