import SectorSync.Base.FiniteMap

/-!
# Maps from keys to buckets

A finite map whose values are lists, read with the empty list as default.  `push` appends to a
bucket and creates it when it is missing; `removeFrom` deletes the first occurrence of a value
and drops a bucket that becomes empty.  Both are characterised by `bucket`, and both keep the
map free of empty buckets (`Occupied`).
-/

namespace Buckets

universe u v

variable {K : Type u} {V : Type v} [DecidableEq K]

/-- The bucket of a key, empty when there is none. -/
def bucket (m : Finmap fun _ : K => List V) (k : K) : List V := (m.lookup k).getD []

/-- Appends a value to the bucket of a key. -/
def push (m : Finmap fun _ : K => List V) (k : K) (v : V) : Finmap fun _ : K => List V :=
  m.insert k (bucket m k ++ [v])

/-- Every stored bucket has a value. -/
def Occupied (m : Finmap fun _ : K => List V) : Prop := ∀ k vs, m.lookup k = some vs → vs ≠ []

variable {m : Finmap fun _ : K => List V}

@[simp] lemma bucket_empty (k : K) : bucket (∅ : Finmap fun _ : K => List V) k = [] := by
  simp [bucket]

lemma bucket_push (k k' : K) (v : V) :
    bucket (push m k v) k' = if k' = k then bucket m k ++ [v] else bucket m k' := by
  rw [bucket, push, Finmap.lookup_insert_eq]
  split_ifs
  · rfl
  · rfl

lemma occupied_empty : Occupied (∅ : Finmap fun _ : K => List V) := by
  intro k vs h
  simp at h

lemma Occupied.push (h : Occupied m) (k : K) (v : V) : Occupied (push m k v) := by
  intro k' vs hlook
  rcases Finmap.lookup_insert_cases hlook with ⟨-, rfl⟩ | ⟨-, hold⟩
  · simp
  · exact h k' vs hold

variable [DecidableEq V]

/-- Deletes the first occurrence of a value from the bucket of a key. -/
def removeFrom (m : Finmap fun _ : K => List V) (k : K) (v : V) : Finmap fun _ : K => List V :=
  match m.lookup k with
  | none => m
  | some vs => if (vs.erase v).isEmpty then m.erase k else m.insert k (vs.erase v)

/-- Lookup after a removal: the bucket without the value, unless that is empty. -/
lemma lookup_removeFrom (k k' : K) (v : V) :
    (removeFrom m k v).lookup k'
      = if k' = k then ((m.lookup k).map (·.erase v)).filter (!·.isEmpty) else m.lookup k' := by
  unfold removeFrom
  cases hlook : m.lookup k with
  | none =>
      split_ifs with hk
      · rw [hk, hlook]
        rfl
      · rfl
  | some vs =>
      cases hempty : (vs.erase v).isEmpty with
      | true => simp [hempty, Finmap.lookup_erase_eq, Option.filter_some]
      | false => simp [hempty, Finmap.lookup_insert_eq, Option.filter_some]

lemma bucket_removeFrom (k k' : K) (v : V) :
    bucket (removeFrom m k v) k' = if k' = k then (bucket m k).erase v else bucket m k' := by
  rw [bucket, lookup_removeFrom]
  split_ifs with hk
  · rw [bucket]
    cases m.lookup k with
    | none => rfl
    | some vs =>
        cases hempty : (vs.erase v).isEmpty with
        | true => simp [Option.filter_some, List.isEmpty_iff.mp hempty]
        | false => simp [Option.filter_some, hempty]
  · rfl

lemma Occupied.removeFrom (h : Occupied m) (k : K) (v : V) : Occupied (removeFrom m k v) := by
  intro k' vs' hlook
  rw [lookup_removeFrom] at hlook
  split_ifs at hlook with hk
  · obtain ⟨_, hne⟩ := Option.filter_eq_some_iff.mp hlook
    rintro rfl
    exact absurd hne (by simp)
  · exact h k' vs' hlook

/-! ## Occurrences of one value -/

lemma count_push (k k' : K) (v v' : V) :
    (bucket (push m k v) k').count v'
      = (bucket m k').count v' + if k' = k ∧ v' = v then 1 else 0 := by
  rw [bucket_push]
  by_cases hk : k' = k
  · subst hk
    by_cases hv : v' = v
    · simp [hv]
    · simp [hv, Ne.symm hv]
  · simp [hk]

lemma count_removeFrom (k k' : K) (v v' : V) :
    (bucket (removeFrom m k v) k').count v'
      = (bucket m k').count v' - if k' = k ∧ v' = v then 1 else 0 := by
  rw [bucket_removeFrom]
  by_cases hk : k' = k
  · subst hk
    by_cases hv : v' = v
    · simp [hv, List.count_erase_self]
    · simp [hv, List.count_erase_of_ne hv]
  · simp [hk]

end Buckets
