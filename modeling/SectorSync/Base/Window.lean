import Mathlib.Data.Finset.Card
import Mathlib.Data.List.Nodup
import Mathlib.Tactic.Common
import SectorSync.Base.Run

/-!
# Bounded windows over a log

The last `max` entries of a log, and logs in which no entry repeats one of the `max` before it.
A log is `Spaced` when each entry is accepted only while it is not in the window; then the window
never has duplicates, and between two copies of an entry lie at least `max` others, all distinct
(`distinct_between`).

A structure that accepts or refuses the keys it is offered is run by `Offers`, next to the log of
what it accepted.
-/

namespace Window

universe u

variable {K : Type u}

/-- The last `max` entries of a log. -/
def recent (max : ℕ) (log : List K) : List K := log.drop (log.length - max)

/-- No entry of the log is among the `max` entries before it. -/
def Spaced (max : ℕ) (log : List K) : Prop :=
  ∀ pre k post, log = pre ++ k :: post → k ∉ recent max pre

variable {max : ℕ} {log : List K} {k : K}

@[simp] lemma recent_nil : recent max ([] : List K) = [] := by simp [recent]

lemma spaced_nil : Spaced max ([] : List K) := by
  intro pre k post h
  exact absurd h (by simp)

/-- The window after one more entry. -/
lemma recent_concat (log : List K) (k : K) :
    recent max (log ++ [k]) = recent max (recent max log ++ [k]) := by
  have hlen : (recent max log ++ [k]).length - max
      = log.length + 1 - max - (log.length - max) := by
    simp only [recent, List.length_append, List.length_drop, List.length_singleton]
    omega
  rw [recent, recent, hlen, recent, ← List.drop_append_of_le_length (by omega), List.drop_drop,
    List.length_append, List.length_singleton]
  congr 1
  omega

lemma recent_map {L : Type u} (f : K → L) (log : List K) :
    recent max (log.map f) = (recent max log).map f := by
  rw [recent, List.length_map, ← List.map_drop, recent]

lemma length_recent (log : List K) : (recent max log).length = min max log.length := by
  rw [recent, List.length_drop]
  omega

/-- A window reaches back no further than the log does. -/
lemma recent_append {pre suffix : List K} (h : max ≤ suffix.length) :
    recent max (pre ++ suffix) = recent max suffix := by
  have hlen : pre.length ≤ (pre ++ suffix).length - max := by
    rw [List.length_append]
    omega
  rw [recent, List.drop_append, List.drop_eq_nil_of_le hlen, List.nil_append, recent]
  congr 1
  rw [List.length_append]
  omega

/-- The window over a longer log contains what was added last. -/
lemma mem_recent_append {pre mid : List K} (h : mid.length < max) :
    k ∈ recent max (pre ++ k :: mid) := by
  rw [recent, List.drop_append, List.mem_append]
  refine .inr ?_
  have hzero : (pre ++ k :: mid).length - max - pre.length = 0 := by
    rw [List.length_append, List.length_cons]
    omega
  rw [hzero, List.drop_zero]
  exact List.mem_cons_self

/-- Accepting an entry outside the window keeps a log spaced. -/
lemma Spaced.concat (h : Spaced max log) (hk : k ∉ recent max log) : Spaced max (log ++ [k]) := by
  intro pre k' post heq
  rcases List.eq_nil_or_concat post with rfl | ⟨post', last, rfl⟩
  · obtain ⟨rfl, hlast⟩ := List.append_inj' heq rfl
    rw [← List.singleton_inj.mp hlast]
    exact hk
  · rw [List.concat_eq_append, ← List.cons_append, ← List.append_assoc] at heq
    exact h pre k' post' (List.append_inj_left' heq rfl)

lemma Spaced.left {log' : List K} (h : Spaced max (log ++ log')) : Spaced max log := by
  intro pre k post heq
  refine h pre k (post ++ log') ?_
  rw [heq, List.append_assoc, List.cons_append]

/-- The window of a spaced log has no duplicates. -/
lemma Spaced.nodup_recent (h : Spaced max log) : (recent max log).Nodup := by
  induction log using List.reverseRecOn with
  | nil =>
      rw [recent_nil]
      exact List.nodup_nil
  | append_singleton log k ih =>
      have hk : k ∉ recent max log := h log k [] rfl
      rw [recent_concat]
      exact (List.nodup_append.mpr ⟨ih h.left, List.nodup_singleton k, fun a ha b hb heq =>
        hk ((List.mem_singleton.mp hb) ▸ heq ▸ ha)⟩).sublist (List.drop_sublist _ _)

/-- The last entries of a spaced log are its last distinct ones: `dedup` keeps the last copy of each
entry. -/
theorem Spaced.recent_dedup [DecidableEq K] (h : Spaced max log) :
    recent max log.dedup = recent max log := by
  rcases Nat.lt_or_ge log.length max with hshort | hlong
  · -- the window is the whole log
    have hwhole : recent max log = log := by
      rw [recent, Nat.sub_eq_zero_of_le hshort.le, List.drop_zero]
    have hnodup := h.nodup_recent
    rw [hwhole] at hnodup
    rw [hnodup.dedup]
  · have hlen : (recent max log).length = max := by
      rw [length_recent, min_eq_left hlong]
    have hsplit : log = log.take (log.length - max) ++ recent max log :=
      (List.take_append_drop _ log).symm
    have hdedup : log.dedup = log.take (log.length - max) ∪ recent max log := by
      conv_lhs => rw [hsplit, List.dedup_append, h.nodup_recent.dedup]
    obtain ⟨older, holder⟩ :=
      List.suffix_union_right (log.take (log.length - max)) (recent max log)
    rw [hdedup, ← holder, recent_append hlen.ge, recent, hlen, Nat.sub_self, List.drop_zero]

/-- **Distance of copies.**  Between two copies of an entry lie at least `max` distinct others. -/
theorem Spaced.distinct_between [DecidableEq K] {pre mid post : List K}
    (h : Spaced max (pre ++ k :: (mid ++ k :: post))) :
    max ≤ (mid.toFinset.erase k).card := by
  have hassoc : pre ++ k :: (mid ++ k :: post) = (pre ++ k :: mid) ++ k :: post := by
    rw [List.append_assoc, List.cons_append]
  have hnot : k ∉ recent max (pre ++ k :: mid) := h _ k post hassoc
  have hlen : max ≤ mid.length := by
    by_contra hlt
    exact hnot (mem_recent_append (by omega))
  have hwindow : recent max (pre ++ k :: mid) = recent max mid := by
    rw [List.append_cons, recent_append hlen]
  rw [hassoc] at h
  have hnodup := h.left.nodup_recent
  rw [hwindow] at hnot hnodup
  have hsub : (recent max mid).toFinset ⊆ mid.toFinset.erase k := by
    intro a ha
    rw [List.mem_toFinset] at ha
    refine Finset.mem_erase.mpr ⟨fun heq => hnot (heq ▸ ha), List.mem_toFinset.mpr ?_⟩
    exact List.mem_of_mem_drop ha
  calc max = (recent max mid).toFinset.card := by
        rw [List.toFinset_card_of_nodup hnodup, length_recent, min_eq_left hlen]
    _ ≤ _ := Finset.card_le_card hsub

/-! ## Offered keys -/

universe v

/-- A structure that is offered keys, with the keys it accepted in order. -/
structure Offers (σ : Type v) (K : Type u) where
  window : σ
  accepted : List K

namespace Offers

variable {σ : Type v} {accept : σ → K → Bool × σ}

/-- Offers a key, and logs it when it is accepted. -/
def offer (accept : σ → K → Bool × σ) (run : Offers σ K) (key : K) : Offers σ K :=
  let (unique, window) := accept run.window key
  ⟨window, if unique then run.accepted ++ [key] else run.accepted⟩

/-- **The rule for offers.**  What a refused key leaves alone and an accepted one extends along the
log holds of the log after every run. -/
theorem execute_offer {I : List K → σ → Prop}
    (hstep : ∀ log window key, I log window →
      ((accept window key).1 = false ∧ I log (accept window key).2)
        ∨ ((accept window key).1 = true ∧ I (log ++ [key]) (accept window key).2))
    {window : σ} (h : I [] window) (keys : List K) :
    I (Machine.execute (offer accept) ⟨window, []⟩ keys).accepted
      (Machine.execute (offer accept) ⟨window, []⟩ keys).window := by
  refine Machine.execute_preserves (I := fun run : Offers σ K => I run.accepted run.window) ?_ h keys
  intro run key hrun
  rcases hstep run.accepted run.window key hrun with ⟨hrefused, hnext⟩ | ⟨haccepted, hnext⟩
  · simp only [offer, hrefused]
    exact hnext
  · simp only [offer, haccepted]
    exact hnext

end Offers

end Window
