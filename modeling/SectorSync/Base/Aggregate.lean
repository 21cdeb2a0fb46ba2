import Mathlib.Data.List.Induction

/-!
# Reports merged from parts

A report is recorded one entry at a time, and the reports of several parts are merged in order.
`Merges` says what the two operations owe each other: merging with the empty report changes
nothing, and the entry recorded last in the merged part may as well be recorded after the merge.
The merged report is then the one recorded over the concatenation of the parts, however the
entries are cut into parts.
-/

namespace Aggregate

universe u v

variable {R : Type u} {E : Type v}

/-- `record` and `merge` work on one report.  `Valid` holds of the reports that can be recorded. -/
structure Merges (Valid : R → Prop) (empty : R) (record : R → E → R) (merge : R → R → R) :
    Prop where
  valid_empty : Valid empty
  valid_record : ∀ report entry, Valid report → Valid (record report entry)
  merge_empty : ∀ report, Valid report → merge report empty = report
  merge_record : ∀ report other entry,
    merge report (record other entry) = record (merge report other) entry

namespace Merges

variable {Valid : R → Prop} {empty : R} {record : R → E → R} {merge : R → R → R}
  (h : Merges Valid empty record merge)

include h

lemma valid_foldl {report : R} (hreport : Valid report) (entries : List E) :
    Valid (entries.foldl record report) := by
  induction entries generalizing report with
  | nil => exact hreport
  | cons entry entries ih => exact ih (h.valid_record report entry hreport)

/-- Merging with the report of a part is recording the part. -/
lemma merge_foldl {report : R} (hreport : Valid report) (entries : List E) :
    merge report (entries.foldl record empty) = entries.foldl record report := by
  induction entries using List.reverseRecOn with
  | nil => exact h.merge_empty report hreport
  | append_singleton entries entry ih =>
      simp only [List.foldl_append, List.foldl_cons, List.foldl_nil]
      rw [h.merge_record, ih]

/-- **Merged parts.**  Merging the reports of the parts in order is recording all of them. -/
theorem foldl_merge {report : R} (hreport : Valid report) (parts : List (List E)) :
    (parts.map fun part => part.foldl record empty).foldl merge report
      = parts.flatten.foldl record report := by
  induction parts generalizing report with
  | nil => rfl
  | cons part parts ih =>
      simp only [List.map_cons, List.foldl_cons, List.flatten_cons, List.foldl_append]
      rw [h.merge_foldl hreport, ih (h.valid_foldl hreport part)]

end Merges

end Aggregate
