import Mathlib.Data.List.Basic
import Mathlib.Data.List.Perm.Subperm
import Mathlib.Tactic.Common

/-!
# Logs with tags

A log of several parties keeps with every entry whose it is.  `ofTag` is the log of one party.
-/

universe u v

variable {κ : Type u} {α : Type v} [DecidableEq κ]

/-- The entries with a tag, in their order. -/
def ofTag (k : κ) (log : List (κ × α)) : List α :=
  (log.filter fun entry => entry.1 = k).map Prod.snd

section Tags

variable {k k' : κ} {log log' : List (κ × α)} {entries : List α}

@[simp] lemma ofTag_nil : ofTag k ([] : List (κ × α)) = [] := rfl

@[simp] lemma ofTag_append : ofTag k (log ++ log') = ofTag k log ++ ofTag k log' := by
  simp [ofTag]

/-- What a party adds to the log. -/
@[simp] lemma ofTag_map : ofTag k (entries.map (k', ·)) = if k' = k then entries else [] := by
  split_ifs with h
  · simp [ofTag, List.filter_map, Function.comp_def, h]
  · simp [ofTag, List.filter_map, Function.comp_def, h]

lemma ofTag_cons (entry : κ × α) :
    ofTag k (entry :: log) = if entry.1 = k then entry.2 :: ofTag k log else ofTag k log := by
  by_cases h : entry.1 = k <;> simp [ofTag, h]

lemma mem_ofTag {a : α} : a ∈ ofTag k log ↔ (k, a) ∈ log := by
  simp only [ofTag, List.mem_map, List.mem_filter, decide_eq_true_eq]
  constructor
  · rintro ⟨⟨_, _⟩, ⟨hmem, rfl⟩, rfl⟩
    exact hmem
  · intro hmem
    exact ⟨(k, a), ⟨hmem, rfl⟩, rfl⟩

lemma ofTag_sublist : (ofTag k log).Sublist (log.map Prod.snd) :=
  List.filter_sublist.map Prod.snd

lemma count_ofTag [DecidableEq α] (k : κ) (a : α) (log : List (κ × α)) :
    (ofTag k log).count a = log.count (k, a) := by
  induction log with
  | nil => rfl
  | cons entry log ih =>
      obtain ⟨k', a'⟩ := entry
      have hcons : ofTag k ((k', a') :: log)
          = (if k' = k then [a'] else []) ++ ofTag k log := by
        rw [ofTag_cons]
        split_ifs <;> rfl
      rw [hcons, List.count_append, ih, List.count_cons]
      by_cases hk : k' = k <;> by_cases ha : a' = a <;> simp [hk, ha, Nat.add_comm]

/-- What holds for every party holds for the log: nothing occurs more often. -/
lemma subperm_of_ofTag [DecidableEq α] (h : ∀ k, (ofTag k log).Subperm (ofTag k log')) :
    log.Subperm log' := by
  refine List.subperm_ext_iff.mpr fun entry _ => ?_
  rw [← count_ofTag, ← count_ofTag]
  exact (h entry.1).count_le entry.2

/-- The log of a party when all entries are mapped. -/
lemma ofTag_map_entries {β : Type*} (g : α → β) :
    ofTag k (log.map fun entry => (entry.1, g entry.2)) = (ofTag k log).map g := by
  induction log with
  | nil => rfl
  | cons entry log ih =>
      rw [List.map_cons, ofTag_cons, ofTag_cons, ih]
      split_ifs <;> rfl

/-- Two logs that are related entry by entry are so for every party. -/
lemma forall₂_ofTag {β : Type*} {R : α → β → Prop} {log' : List (κ × β)}
    (h : List.Forall₂ (fun entry entry' => entry.1 = entry'.1 ∧ R entry.2 entry'.2) log log')
    (k : κ) : List.Forall₂ R (ofTag k log) (ofTag k log') := by
  induction h with
  | nil => exact .nil
  | @cons entry entry' log log' hentry _ ih =>
      obtain ⟨htag, hrelated⟩ := hentry
      rw [ofTag_cons, ofTag_cons, htag]
      split_ifs
      · exact .cons hrelated ih
      · exact ih

omit [DecidableEq κ] in
/-- Without the tags nothing occurs more often either. -/
lemma subperm_map_snd (h : log.Subperm log') :
    (log.map Prod.snd).Subperm (log'.map Prod.snd) := by
  obtain ⟨part, hperm, hsublist⟩ := h
  exact ⟨part.map Prod.snd, hperm.map _, hsublist.map _⟩

end Tags
