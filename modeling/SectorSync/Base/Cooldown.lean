import Mathlib.Data.List.Nodup
import Mathlib.Order.Nat

/-!
# Keys that rest between uses

Keys are used in batches at times that do not decrease, and a record keeps the last use of each.
When a batch has no key twice and by the record all its keys have rested for a while, two uses of
one key are never closer than that (`Rests.use`), as long as the record misses no use.
-/

namespace Machine

variable {K : Type*}

/-- Two times that are at least `gap` apart. -/
def Apart (gap a b : ℕ) : Prop := a + gap ≤ b ∨ b + gap ≤ a

instance (gap a b : ℕ) : Decidable (Apart gap a b) := inferInstanceAs (Decidable (_ ∨ _))

/-- Two uses of one key are at least `gap` apart. -/
def SpacedOut (gap : ℕ) (uses : List (K × ℕ)) : Prop :=
  uses.Pairwise fun use later => use.1 = later.1 → Apart gap use.2 later.2

instance [DecidableEq K] (gap : ℕ) (uses : List (K × ℕ)) : Decidable (SpacedOut gap uses) :=
  inferInstanceAs (Decidable (uses.Pairwise _))

/-- The uses of a batch. -/
def usesAt (keys : List K) (now : ℕ) : List (K × ℕ) := keys.map fun key => (key, now)

/-- The record after the uses of a batch. -/
def lastAfter [DecidableEq K] (last : K → Option ℕ) (keys : List K) (now : ℕ) : K → Option ℕ :=
  fun key => if key ∈ keys then some now else last key

/-- By the record, the key has rested for `gap`. -/
def Rested (gap : ℕ) (last : K → Option ℕ) (now : ℕ) (key : K) : Prop :=
  ∀ time, last key = some time → time + gap ≤ now

/-- Uses of one key keep their distance, and the record has them all and nothing later than
`now`. -/
structure Rests (gap : ℕ) (last : K → Option ℕ) (uses : List (K × ℕ)) (now : ℕ) : Prop where
  spaced : SpacedOut gap uses
  recorded : ∀ use ∈ uses, ∃ time, last use.1 = some time ∧ use.2 ≤ time
  past : ∀ key time, last key = some time → time ≤ now

variable {gap now : ℕ} {last : K → Option ℕ} {uses : List (K × ℕ)} {keys : List K}

/-- Any two times are zero apart. -/
lemma spacedOut_zero (uses : List (K × ℕ)) : SpacedOut 0 uses := by
  refine List.pairwise_of_forall fun use later _ => ?_
  exact le_total use.2 later.2

lemma rests_nil (gap now : ℕ) : Rests gap (fun _ : K => none) [] now where
  spaced := List.Pairwise.nil
  recorded := by simp
  past := by simp

/-- Time passes. -/
lemma Rests.later (h : Rests gap last uses now) {now' : ℕ} (hle : now ≤ now') :
    Rests gap last uses now' :=
  ⟨h.spaced, h.recorded, fun key time hlast => (h.past key time hlast).trans hle⟩

/-- Earlier uses of a rested key lie back. -/
lemma Rests.apart (h : Rests gap last uses now) {use : K × ℕ} (huse : use ∈ uses)
    (hrested : Rested gap last now use.1) : Apart gap use.2 now := by
  obtain ⟨time, hlast, hle⟩ := h.recorded use huse
  have hgap := hrested time hlast
  exact .inl (by omega)

/-- **A batch of rested keys**, none of them twice, keeps the distance when it is recorded. -/
theorem Rests.use [DecidableEq K] (h : Rests gap last uses now) (hnodup : keys.Nodup)
    (hrested : ∀ key ∈ keys, Rested gap last now key) :
    Rests gap (lastAfter last keys now) (uses ++ usesAt keys now) now where
  spaced := by
    rw [SpacedOut, List.pairwise_append]
    refine ⟨h.spaced, ?_, ?_⟩
    · rw [usesAt, List.pairwise_map]
      refine hnodup.imp ?_
      intro key key' hne hsame
      exact absurd hsame hne
    · intro use huse later hlater hsame
      obtain ⟨key, hkey, rfl⟩ := List.mem_map.mp hlater
      exact h.apart huse (hsame ▸ hrested key hkey)
  recorded := by
    intro use huse
    rcases List.mem_append.mp huse with huse | huse
    · obtain ⟨time, hlast, hle⟩ := h.recorded use huse
      by_cases hkey : use.1 ∈ keys
      · exact ⟨now, if_pos hkey, hle.trans (h.past use.1 time hlast)⟩
      · exact ⟨time, (if_neg hkey).trans hlast, hle⟩
    · obtain ⟨key, hkey, rfl⟩ := List.mem_map.mp huse
      exact ⟨now, if_pos hkey, le_rfl⟩
  past := by
    intro key time hlast
    rw [lastAfter] at hlast
    split_ifs at hlast
    · exact (Option.some.inj hlast).ge
    · exact h.past key time hlast

end Machine
