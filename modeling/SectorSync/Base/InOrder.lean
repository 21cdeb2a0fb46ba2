import Mathlib.Data.List.Basic
import Mathlib.Data.List.Perm.Subperm
import Mathlib.Tactic.Common

/-!
# Order within classes

The items of a list fall into classes.  A list is `InOrder` beside another one when each of its
classes is a sublist of the same class there: within a class nothing is made up, repeated or
overtaken, while items of different classes may pass each other and any of them may be missing.

The relation composes: stages that keep the order of a class keep it end to end (`trans`), and a
finer division into classes keeps what a coarser one does (`refine`).  A stable partition by
something that is the same all over a class keeps the order (`partition`).
-/

universe u v w

variable {α : Type u} {κ : Type v} {κ' : Type w}

/-- Every class of the first list is a sublist of that class of the second. -/
def InOrder [DecidableEq κ] (cls : α → κ) (l l' : List α) : Prop :=
  ∀ k, (l.filter fun a => cls a = k).Sublist (l'.filter fun a => cls a = k)

namespace InOrder

variable [DecidableEq κ] [DecidableEq κ'] {cls : α → κ} {l l' l'' m m' : List α}

lemma of_sublist (h : l.Sublist l') : InOrder cls l l' := fun _ => h.filter _

lemma refl (l : List α) : InOrder cls l l := of_sublist (List.Sublist.refl l)

lemma trans (h : InOrder cls l l') (h' : InOrder cls l' l'') : InOrder cls l l'' :=
  fun k => (h k).trans (h' k)

lemma append (h : InOrder cls l l') (h' : InOrder cls m m') :
    InOrder cls (l ++ m) (l' ++ m') := by
  intro k
  rw [List.filter_append, List.filter_append]
  exact (h k).append (h' k)

/-- A new item at the end of both. -/
lemma concat (h : InOrder cls l l') (a : α) : InOrder cls (l ++ [a]) (l' ++ [a]) :=
  h.append (refl [a])

/-- **A finer division.**  When the finer class of an item determines the coarser one, order within
the coarser classes is order within the finer ones. -/
lemma refine {fine : α → κ'} (hfine : ∀ a b, fine a = fine b → cls a = cls b)
    (h : InOrder cls l l') : InOrder fine l l' := by
  intro k
  by_cases hk : ∃ a, fine a = k
  · obtain ⟨a, rfl⟩ := hk
    have hsplit : ∀ l : List α, (l.filter fun b => fine b = fine a)
        = (l.filter fun b => cls b = cls a).filter fun b => fine b = fine a := by
      intro l
      rw [List.filter_filter]
      refine List.filter_congr fun b _ => ?_
      by_cases hb : fine b = fine a
      · simp [hb, hfine b a hb]
      · simp [hb]
    rw [hsplit l, hsplit l']
    exact (h (cls a)).filter _
  · have hnone : ∀ l : List α, (l.filter fun b => fine b = k) = [] := fun l =>
      List.filter_eq_nil_iff.mpr fun b _ => by simpa using fun hb => hk ⟨b, hb⟩
    rw [hnone l]
    exact List.nil_sublist _

/-- **A stable partition.**  What holds of all of a class or of none of it may be taken out
first. -/
lemma partition (p : α → Bool) (hp : ∀ a b, cls a = cls b → p a = p b) (l : List α) :
    InOrder cls (l.filter p ++ l.filter fun a => !p a) l := by
  intro k
  by_cases hk : ∃ a, cls a = k
  · obtain ⟨a, rfl⟩ := hk
    have hclass : ∀ q : α → Bool, (∀ b, cls b = cls a → q b = q a) →
        ((l.filter q).filter fun b => cls b = cls a)
          = if q a then l.filter fun b => cls b = cls a else [] := by
      intro q hq
      rw [List.filter_filter]
      split_ifs with hqa
      · refine List.filter_congr fun b _ => ?_
        by_cases hb : cls b = cls a
        · simp [hb, hq b hb, hqa]
        · simp [hb]
      · refine List.filter_eq_nil_iff.mpr fun b _ => ?_
        by_cases hb : cls b = cls a
        · simp [hb, hq b hb, hqa]
        · simp [hb]
    rw [List.filter_append, hclass p fun b hb => hp b a hb,
      hclass (fun b => !p b) fun b hb => by rw [hp b a hb]]
    cases p a <;> simp
  · have hnone : ∀ l : List α, (l.filter fun b => cls b = k) = [] := fun l =>
      List.filter_eq_nil_iff.mpr fun b _ => by simpa using fun hb => hk ⟨b, hb⟩
    rw [hnone]
    exact List.nil_sublist _

/-- Nothing occurs more often than in the other list. -/
lemma count_le [DecidableEq α] (h : InOrder cls l l') (a : α) : l.count a ≤ l'.count a := by
  have hself : ∀ l : List α, (l.filter fun b => cls b = cls a).count a = l.count a :=
    fun l => List.count_filter (by simp)
  rw [← hself l, ← hself l']
  exact (h (cls a)).count_le a

lemma subperm [DecidableEq α] (h : InOrder cls l l') : l.Subperm l' :=
  List.subperm_ext_iff.mpr fun a _ => h.count_le a

end InOrder
