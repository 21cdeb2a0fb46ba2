import Mathlib.Data.Finmap
import Mathlib.Data.List.Sort
import Mathlib.Data.Finset.Card
import Mathlib.Algebra.BigOperators.Group.Finset.Basic

/-!
# Finite maps with sizes, filters and sorted iteration

Additions to Mathlib's `Finmap` for the non-dependent case, in the shape program models need
them: the number of entries, `retain` and `modify`, and iteration in key order.

`sortedKeys` is defined on representatives by insertion sort and lifted through the quotient,
so that it evaluates in the kernel; two representatives of one map have permuted key lists,
and a sorted duplicate-free list is determined by its elements.
-/

namespace Finmap

universe u v

variable {K : Type u} {V : Type v}

section DecidableKeys

variable [DecidableEq K]

@[simp] lemma keys_insert (k : K) (v : V) (m : Finmap fun _ : K => V) :
    (m.insert k v).keys = Insert.insert k m.keys := by
  ext x
  simp [Finmap.mem_keys, Finmap.mem_insert]

/-- Lookup after an insertion, as one equation. -/
lemma lookup_insert_eq (k k' : K) (v : V) (m : Finmap fun _ : K => V) :
    (m.insert k v).lookup k' = if k' = k then some v else m.lookup k' := by
  by_cases h : k' = k
  · subst h; simp [Finmap.lookup_insert]
  · rw [if_neg h]; exact Finmap.lookup_insert_of_ne m h

/-- What is found after an insertion was inserted, or was there under another key. -/
lemma lookup_insert_cases {k k' : K} {v v' : V} {m : Finmap fun _ : K => V}
    (h : (m.insert k v).lookup k' = some v') :
    k' = k ∧ v' = v ∨ k' ≠ k ∧ m.lookup k' = some v' := by
  rw [lookup_insert_eq] at h
  split_ifs at h with hk
  · exact .inl ⟨hk, (Option.some.inj h).symm⟩
  · exact .inr ⟨hk, h⟩

/-- Lookup after an erasure, as one equation. -/
lemma lookup_erase_eq (k k' : K) (m : Finmap fun _ : K => V) :
    (m.erase k).lookup k' = if k' = k then none else m.lookup k' := by
  by_cases h : k' = k
  · subst h; simp [Finmap.lookup_erase]
  · rw [if_neg h]; exact Finmap.lookup_erase_ne h

lemma mem_keys_iff_lookup {k : K} {m : Finmap fun _ : K => V} :
    k ∈ m.keys ↔ ∃ v, m.lookup k = some v := by
  rw [Finmap.mem_keys]; exact Finmap.mem_iff

/-! ## Size -/

/-- The number of entries. -/
def size (m : Finmap fun _ : K => V) : ℕ := m.keys.card

omit [DecidableEq K] in
@[simp] lemma size_empty : (∅ : Finmap fun _ : K => V).size = 0 := by simp [size]

lemma size_insert_of_notMem {k : K} {m : Finmap fun _ : K => V} (v : V) (h : k ∉ m) :
    (m.insert k v).size = m.size + 1 := by
  rw [size, keys_insert, Finset.card_insert_of_notMem (by rwa [Finmap.mem_keys]), size]

lemma size_erase_of_mem {k : K} {m : Finmap fun _ : K => V} (h : k ∈ m) :
    (m.erase k).size + 1 = m.size := by
  rw [size, Finmap.keys_erase, size]
  exact Finset.card_erase_add_one (by rwa [Finmap.mem_keys])

/-! ## Filtering and updating in place -/

/-- Keeps the entries the predicate accepts. -/
def retain (p : K → V → Bool) (m : Finmap fun _ : K => V) : Finmap fun _ : K => V :=
  keysLookupEquiv.symm
    ⟨(m.keys.filter fun k => (m.lookup k).any (p k), fun k => (m.lookup k).filter (p k)), by
      intro k
      cases h : m.lookup k with
      | none => simp [h]
      | some v =>
          have hk : k ∈ m.keys := mem_keys_iff_lookup.mpr ⟨v, h⟩
          simp [h, hk, Option.filter_some, apply_ite Option.isSome]⟩

@[simp] lemma lookup_retain (p : K → V → Bool) (m : Finmap fun _ : K => V) (k : K) :
    (m.retain p).lookup k = (m.lookup k).filter (p k) := by
  simp [retain]

lemma keys_retain (p : K → V → Bool) (m : Finmap fun _ : K => V) :
    (m.retain p).keys = m.keys.filter fun k => (m.lookup k).any (p k) := by
  ext k
  rw [mem_keys_iff_lookup, lookup_retain, Finset.mem_filter, mem_keys_iff_lookup]
  cases m.lookup k with
  | none => simp
  | some v => simp [Option.filter_some]

/-- What `retain` keeps and what it drops make up the map. -/
lemma size_retain_add (p : K → V → Bool) (m : Finmap fun _ : K => V) :
    (m.retain p).size + (m.keys.filter fun k => (m.lookup k).any fun v => !p k v).card
      = m.size := by
  have hdrop : ∀ k ∈ m.keys, (m.lookup k).any (fun v => !p k v) = true
      ↔ ¬ (m.lookup k).any (p k) = true := by
    intro k hk
    obtain ⟨v, hv⟩ := mem_keys_iff_lookup.mp hk
    simp [hv]
  rw [size, keys_retain, Finset.filter_congr hdrop, Finset.card_filter_add_card_filter_not, size]

/-- Applies `f` to the value stored under `k`, if there is one. -/
def modify (k : K) (f : V → V) (m : Finmap fun _ : K => V) : Finmap fun _ : K => V :=
  match m.lookup k with
  | none => m
  | some v => m.insert k (f v)

lemma lookup_modify (k k' : K) (f : V → V) (m : Finmap fun _ : K => V) :
    (m.modify k f).lookup k' = if k' = k then (m.lookup k).map f else m.lookup k' := by
  unfold modify
  cases h : m.lookup k with
  | none =>
      split_ifs with hk
      · subst hk; simpa using h
      · rfl
  | some v => simp [lookup_insert_eq]

@[simp] lemma keys_modify (k : K) (f : V → V) (m : Finmap fun _ : K => V) :
    (m.modify k f).keys = m.keys := by
  unfold modify
  cases h : m.lookup k with
  | none => rfl
  | some v =>
      rw [keys_insert]
      exact Finset.insert_eq_of_mem (mem_keys_iff_lookup.mpr ⟨v, h⟩)

/-- Replaces every value. -/
def mapValues {W : Type*} (f : V → W) (m : Finmap fun _ : K => V) : Finmap fun _ : K => W :=
  keysLookupEquiv.symm
    ⟨(m.keys, fun k => (m.lookup k).map f), by
      intro k
      rw [Option.isSome_map, Finmap.lookup_isSome, Finmap.mem_keys]⟩

@[simp] lemma lookup_mapValues {W : Type*} (f : V → W) (m : Finmap fun _ : K => V) (k : K) :
    (m.mapValues f).lookup k = (m.lookup k).map f := by
  simp [mapValues]

lemma size_mapValues {W : Type*} (f : V → W) (m : Finmap fun _ : K => V) :
    (m.mapValues f).size = m.size := by
  have hkeys : (m.mapValues f).keys = m.keys := by
    ext k
    rw [Finmap.mem_keys, Finmap.mem_keys, ← lookup_isSome, ← lookup_isSome, lookup_mapValues,
      Option.isSome_map]
  rw [size, hkeys, size]

/-- `entry(k).or_insert(v)`: stores `v` unless the key is present. -/
def orInsert (k : K) (v : V) (m : Finmap fun _ : K => V) : Finmap fun _ : K => V :=
  if k ∈ m then m else m.insert k v

lemma lookup_orInsert (k k' : K) (v : V) (m : Finmap fun _ : K => V) :
    (m.orInsert k v).lookup k' = (m.lookup k').or (if k' = k then some v else none) := by
  by_cases hmem : k ∈ m
  · obtain ⟨w, hw⟩ := Finmap.mem_iff.mp hmem
    rw [orInsert, if_pos hmem]
    split_ifs with hk
    · rw [hk, hw, Option.some_or]
    · rw [Option.or_none]
  · rw [orInsert, if_neg hmem, lookup_insert_eq]
    split_ifs with hk
    · rw [hk, Finmap.lookup_eq_none.mpr hmem, Option.none_or]
    · rw [Option.or_none]

/-! ## Batches -/

/-- Stores the value of every key in the list. -/
def insertAll (value : K → V) (keys : List K) (m : Finmap fun _ : K => V) :
    Finmap fun _ : K => V :=
  keys.foldl (fun m k => m.insert k (value k)) m

lemma lookup_insertAll (value : K → V) (keys : List K) (m : Finmap fun _ : K => V) (k : K) :
    (m.insertAll value keys).lookup k = if k ∈ keys then some (value k) else m.lookup k := by
  induction keys generalizing m with
  | nil => simp [insertAll]
  | cons k' keys ih =>
      have hstep : m.insertAll value (k' :: keys)
          = (m.insert k' (value k')).insertAll value keys := rfl
      rw [hstep, ih, lookup_insert_eq]
      by_cases hk : k = k'
      · subst hk
        simp
      · simp [hk]

lemma keys_insertAll (value : K → V) (keys : List K) (m : Finmap fun _ : K => V) :
    (m.insertAll value keys).keys = m.keys ∪ keys.toFinset := by
  ext k
  rw [mem_keys_iff_lookup, lookup_insertAll, Finset.mem_union, mem_keys_iff_lookup,
    List.mem_toFinset]
  by_cases hk : k ∈ keys <;> simp [hk]

/-- The new keys of a list, repetitions included, are at least what its batch adds. -/
lemma card_union_le (m : Finmap fun _ : K => V) (keys : List K) :
    (m.keys ∪ keys.toFinset).card ≤ m.size + keys.countP fun k => decide (k ∉ m.keys) := by
  have hunion : m.keys ∪ keys.toFinset
      = m.keys ∪ (keys.filter fun k => decide (k ∉ m.keys)).toFinset := by
    ext k
    simp only [Finset.mem_union, List.mem_toFinset, List.mem_filter, decide_eq_true_eq]
    tauto
  rw [hunion, List.countP_eq_length_filter]
  exact (Finset.card_union_le _ _).trans
    (Nat.add_le_add_left (List.toFinset_card_le _) _)

/-- In a list without repetitions the new keys are exactly what its batch adds. -/
lemma card_union_of_nodup (m : Finmap fun _ : K => V) {keys : List K} (h : keys.Nodup) :
    (m.keys ∪ keys.toFinset).card = m.size + keys.countP fun k => decide (k ∉ m.keys) := by
  have hnew : keys.toFinset \ m.keys = (keys.filter fun k => decide (k ∉ m.keys)).toFinset := by
    ext k
    simp
  rw [← Finset.union_sdiff_self_eq_union, Finset.card_union_of_disjoint Finset.disjoint_sdiff,
    hnew, List.toFinset_card_of_nodup (h.filter _), List.countP_eq_length_filter, size]

/-! ## Totals -/

/-- The sum of a measure over the values. -/
def total (f : V → ℕ) (m : Finmap fun _ : K => V) : ℕ := ∑ k ∈ m.keys, (m.lookup k).elim 0 f

@[simp] lemma total_empty (f : V → ℕ) : total f (∅ : Finmap fun _ : K => V) = 0 := by
  simp [total]

lemma total_erase_add (f : V → ℕ) (k : K) (m : Finmap fun _ : K => V) :
    total f (m.erase k) + (m.lookup k).elim 0 f = total f m := by
  have hrest : total f (m.erase k) = ∑ k' ∈ m.keys.erase k, (m.lookup k').elim 0 f := by
    rw [total, Finmap.keys_erase]
    exact Finset.sum_congr rfl fun k' hk' => by
      rw [Finmap.lookup_erase_ne (Finset.ne_of_mem_erase hk')]
  rw [hrest, total]
  by_cases hk : k ∈ m.keys
  · exact Finset.sum_erase_add _ _ hk
  · have hnone : m.lookup k = none := Finmap.lookup_eq_none.mpr (by rwa [← Finmap.mem_keys])
    rw [Finset.erase_eq_of_notMem hk, hnone, Option.elim_none, Nat.add_zero]

lemma total_insert_add (f : V → ℕ) (k : K) (v : V) (m : Finmap fun _ : K => V) :
    total f (m.insert k v) + (m.lookup k).elim 0 f = total f m + f v := by
  have herase : (m.insert k v).erase k = m.erase k := by
    apply Finmap.ext_lookup
    intro k'
    simp only [lookup_erase_eq, lookup_insert_eq]
    split_ifs <;> rfl
  have hnew := total_erase_add f k (m.insert k v)
  have hold := total_erase_add f k m
  rw [herase, Finmap.lookup_insert, Option.elim_some] at hnew
  omega

/-! ## First positions in a list -/

variable {α : Type*} (key : α → K)

/-- The first position in the list of an element with the key. -/
def findPosition (l : List α) (k : K) : Option ℕ := l.findIdx? fun a => key a = k

/-- Adds to the map the first position of every key in the list, counted from `start`. -/
def indexPositions (m : Finmap fun _ : K => ℕ) (l : List α) (start : ℕ) :
    Finmap fun _ : K => ℕ :=
  (l.zipIdx start).foldl (fun m a => m.orInsert (key a.1) a.2) m

lemma lookup_indexPositions (m : Finmap fun _ : K => ℕ) (l : List α) (start : ℕ) (k : K) :
    (indexPositions key m l start).lookup k
      = (m.lookup k).or ((findPosition key l k).map (· + start)) := by
  induction l generalizing m start with
  | nil => simp [indexPositions, findPosition]
  | cons a l ih =>
      have hstep : indexPositions key m (a :: l) start
          = indexPositions key (m.orInsert (key a) start) l (start + 1) := by
        simp [indexPositions, List.zipIdx_cons]
      rw [hstep, ih, lookup_orInsert, Option.or_assoc]
      congr 1
      simp only [findPosition, List.findIdx?_cons, decide_eq_true_eq]
      by_cases hk : key a = k
      · simp [hk]
      · have hk' : ¬ k = key a := fun h => hk h.symm
        simp only [hk, hk', if_false, Option.none_or, Option.map_map]
        congr 1
        funext i
        simp only [Function.comp_apply]
        omega

/-- Positions depend on the keys of the list only. -/
lemma findPosition_congr {l l' : List α} (h : l.map key = l'.map key) :
    findPosition key l = findPosition key l' := by
  funext k
  have hmap : ∀ l : List α, findPosition key l k = (l.map key).findIdx? fun k' => k' = k :=
    fun l => by rw [List.findIdx?_map]; rfl
  rw [hmap, hmap, h]

end DecidableKeys

/-! ## Iteration in key order -/

section Sorted

variable [LinearOrder K]

/-- The keys in ascending order. -/
def sortedKeys (m : Finmap fun _ : K => V) : List K :=
  m.liftOn (fun a => a.keys.insertionSort (· ≤ ·)) fun a b hab => by
    have hperm : (a.keys.insertionSort (· ≤ ·)).Perm (b.keys.insertionSort (· ≤ ·)) :=
      (List.perm_insertionSort _ _).trans
        ((hab.map Sigma.fst).trans (List.perm_insertionSort _ _).symm)
    exact hperm.eq_of_pairwise' (List.pairwise_insertionSort _ _)
      (List.pairwise_insertionSort _ _)

@[simp] lemma mem_sortedKeys {m : Finmap fun _ : K => V} {k : K} :
    k ∈ m.sortedKeys ↔ k ∈ m.keys := by
  induction m using Finmap.induction_on with
  | H a =>
      simp only [sortedKeys, Finmap.liftOn_toFinmap, List.mem_insertionSort]
      rw [Finmap.mem_keys, Finmap.mem_toFinmap]
      rfl

lemma nodup_sortedKeys (m : Finmap fun _ : K => V) : m.sortedKeys.Nodup := by
  induction m using Finmap.induction_on with
  | H a =>
      simp only [sortedKeys, Finmap.liftOn_toFinmap]
      exact (List.perm_insertionSort _ _).nodup_iff.mpr a.keys_nodup

lemma pairwise_sortedKeys (m : Finmap fun _ : K => V) : m.sortedKeys.Pairwise (· < ·) := by
  have hle : m.sortedKeys.Pairwise (· ≤ ·) := by
    induction m using Finmap.induction_on with
    | H a =>
        simp only [sortedKeys, Finmap.liftOn_toFinmap]
        exact List.pairwise_insertionSort _ _
  exact (hle.and (nodup_sortedKeys m)).imp fun h => lt_of_le_of_ne h.1 h.2

end Sorted

end Finmap
