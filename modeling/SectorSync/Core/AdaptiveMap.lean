import SectorSync.Core.Ids

/-!
# Maps that change their representation

The session table and the replication tracker keep their entries in a map that starts as a
`BTreeMap` and becomes a `HashMap` with the insertion that reaches a number of entries.  The
source writes the type once for each use, with that number as a constant; here it is a parameter.

`AdaptiveMap.toMap` forgets the representation, and each operation is the operation of a plain
map on it.
-/

namespace SectorSync

/-- A map that is promoted when it reaches `minEntries` entries, and stays promoted. -/
inductive AdaptiveMap (minEntries : ℕ) (K V : Type) where
  | ordered (entries : BTreeMap K V)
  | hashed (entries : HashMap K V)

namespace AdaptiveMap

variable {minEntries : ℕ} {K V : Type}

/-- The empty map, in the ordered representation. -/
def new : AdaptiveMap minEntries K V := .ordered ∅

/-- The entries, in whatever representation. -/
def toMap : AdaptiveMap minEntries K V → Finmap fun _ : K => V
  | .ordered entries => entries
  | .hashed entries => entries

@[simp] lemma toMap_new : (new : AdaptiveMap minEntries K V).toMap = ∅ := rfl

/-- Number of entries. -/
def len : AdaptiveMap minEntries K V → ℕ
  | .ordered entries => entries.size
  | .hashed entries => entries.size

lemma len_eq (map : AdaptiveMap minEntries K V) : map.len = map.toMap.size := by
  cases map <;> rfl

section Keys

variable [DecidableEq K]

/-- Whether the map has the key. -/
def containsKey (map : AdaptiveMap minEntries K V) (key : K) : Bool :=
  match map with
  | .ordered entries => decide (key ∈ entries)
  | .hashed entries => decide (key ∈ entries)

/-- The value stored under the key. -/
def get (map : AdaptiveMap minEntries K V) (key : K) : Option V :=
  match map with
  | .ordered entries => entries.lookup key
  | .hashed entries => entries.lookup key

/-- Writes through the reference that `get_mut` returns, if it returns one. -/
def modify (key : K) (write : V → V) :
    AdaptiveMap minEntries K V → AdaptiveMap minEntries K V
  | .ordered entries => .ordered (entries.modify key write)
  | .hashed entries => .hashed (entries.modify key write)

/-- Stores a value.  A new key that brings an ordered map to `minEntries` moves it to hashed
storage first. -/
def insert (key : K) (value : V) : AdaptiveMap minEntries K V → AdaptiveMap minEntries K V
  | .ordered entries =>
      let promote := entries.size ≥ minEntries - 1 ∧ key ∉ entries
      if promote then
        let hashed : HashMap K V := entries
        .hashed (hashed.insert key value)
      else .ordered (entries.insert key value)
  | .hashed entries => .hashed (entries.insert key value)

/-- Removes a key. -/
def remove (key : K) : AdaptiveMap minEntries K V → AdaptiveMap minEntries K V
  | .ordered entries => .ordered (entries.erase key)
  | .hashed entries => .hashed (entries.erase key)

/-- Keeps the entries that satisfy the condition. -/
def retain (keep : K → V → Bool) : AdaptiveMap minEntries K V → AdaptiveMap minEntries K V
  | .ordered entries => .ordered (entries.retain keep)
  | .hashed entries => .hashed (entries.retain keep)

variable (map : AdaptiveMap minEntries K V)

lemma get_eq (key : K) : map.get key = map.toMap.lookup key := by cases map <;> rfl

lemma containsKey_eq (key : K) : map.containsKey key = decide (key ∈ map.toMap) := by
  cases map <;> rfl

@[simp] lemma toMap_modify (key : K) (write : V → V) :
    (map.modify key write).toMap = map.toMap.modify key write := by cases map <;> rfl

@[simp] lemma toMap_insert (key : K) (value : V) :
    (map.insert key value).toMap = map.toMap.insert key value := by
  cases map with
  | ordered entries =>
      simp only [insert]
      split <;> rfl
  | hashed entries => rfl

@[simp] lemma toMap_remove (key : K) : (map.remove key).toMap = map.toMap.erase key := by
  cases map <;> rfl

@[simp] lemma toMap_retain (keep : K → V → Bool) :
    (map.retain keep).toMap = map.toMap.retain keep := by cases map <;> rfl

lemma get_insert (key key' : K) (value : V) :
    (map.insert key value).get key' = if key' = key then some value else map.get key' := by
  rw [get_eq, toMap_insert, Finmap.lookup_insert_eq, get_eq]

lemma get_remove (key key' : K) :
    (map.remove key).get key' = if key' = key then none else map.get key' := by
  rw [get_eq, toMap_remove, Finmap.lookup_erase_eq, get_eq]

lemma get_modify (key key' : K) (write : V → V) :
    (map.modify key write).get key'
      = if key' = key then (map.get key).map write else map.get key' := by
  rw [get_eq, toMap_modify, Finmap.lookup_modify, get_eq, get_eq]

lemma get_retain (keep : K → V → Bool) (key : K) :
    (map.retain keep).get key = (map.get key).filter (keep key) := by
  rw [get_eq, toMap_retain, Finmap.lookup_retain, get_eq]

@[simp] lemma len_modify (key : K) (write : V → V) : (map.modify key write).len = map.len := by
  rw [len_eq, toMap_modify, Finmap.size, Finmap.keys_modify, len_eq, Finmap.size]

lemma len_insert_of_none {key : K} (h : map.get key = none) (value : V) :
    (map.insert key value).len = map.len + 1 := by
  rw [get_eq] at h
  rw [len_eq, toMap_insert, Finmap.size_insert_of_notMem value (Finmap.lookup_eq_none.mp h), len_eq]

lemma len_remove_of_some {key : K} {value : V} (h : map.get key = some value) :
    (map.remove key).len + 1 = map.len := by
  rw [get_eq] at h
  rw [len_eq, toMap_remove, Finmap.size_erase_of_mem (Finmap.mem_iff.mpr ⟨value, h⟩), len_eq]

end Keys

/-- The entries.  A `HashMap` iterates in some order that its callers do not depend on; here
both representations iterate in key order. -/
def iter [LinearOrder K] (map : AdaptiveMap minEntries K V) : List (K × V) :=
  map.toMap.sortedKeys.filterMap fun key => (map.get key).map fun value => (key, value)

/-- Every entry is iterated once. -/
lemma mem_iter [LinearOrder K] [hdec : DecidableEq K] {map : AdaptiveMap minEntries K V}
    {key : K} {value : V} : (key, value) ∈ map.iter ↔ map.get key = some value := by
  obtain rfl : hdec = LinearOrder.toDecidableEq := Subsingleton.elim _ _
  have hkeys : key ∈ map.toMap.sortedKeys ↔ ∃ value, map.get key = some value := by
    rw [Finmap.mem_sortedKeys, Finmap.mem_keys_iff_lookup, get_eq]
  rw [iter, List.mem_filterMap]
  constructor
  · rintro ⟨key', -, hentry⟩
    obtain ⟨value', hvalue, heq⟩ := Option.map_eq_some_iff.mp hentry
    cases heq
    exact hvalue
  · intro h
    exact ⟨key, hkeys.mpr ⟨value, h⟩, by rw [h, Option.map_some]⟩

lemma length_iter_le [LinearOrder K] (map : AdaptiveMap minEntries K V) :
    map.iter.length ≤ map.len := by
  have hsorted : map.toMap.sortedKeys.length = map.len := by
    rw [len_eq, Finmap.size, ← List.toFinset_card_of_nodup (Finmap.nodup_sortedKeys _)]
    congr 1
    ext key
    rw [List.mem_toFinset, Finmap.mem_sortedKeys]
  rw [iter, ← hsorted]
  exact List.length_filterMap_le _ _

end AdaptiveMap

end SectorSync
