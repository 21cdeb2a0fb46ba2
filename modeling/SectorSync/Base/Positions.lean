import SectorSync.Base.FiniteMap

/-!
# Positions of a list

A map from keys to positions that stands in for linear search in a list of keyed items.  It is
empty while it is not in use; in use it holds the first position of every key (`Indexes`).  A
search through it is then the linear one (`position_eq`), and adding, replacing and removing items
keep it so.
-/

namespace Finmap

variable {α K : Type*} [DecidableEq K] (key : α → K)

/-- The positions are not in use, or they are the first ones. -/
def Indexes (items : List α) (positions : Finmap fun _ : K => ℕ) : Prop :=
  positions.size = 0 ∨ ∀ k, positions.lookup k = findPosition key items k

/-- The position of a key: by linear search while the positions are not in use. -/
def searchPosition (items : List α) (positions : Finmap fun _ : K => ℕ) (k : K) : Option ℕ :=
  if positions.size = 0 then findPosition key items k else positions.lookup k

variable {key} {items : List α} {positions : Finmap fun _ : K => ℕ}

lemma lookup_of_size_eq_zero (h : positions.size = 0) (k : K) : positions.lookup k = none := by
  rw [Finmap.size, Finset.card_eq_zero] at h
  rw [Finmap.lookup_eq_none, ← Finmap.mem_keys, h]
  exact Finset.notMem_empty k

lemma indexes_empty : Indexes key items ∅ := .inl size_empty

/-- The search is the linear one. -/
lemma Indexes.position_eq (h : Indexes key items positions) (k : K) :
    searchPosition key items positions k = findPosition key items k := by
  rw [searchPosition]
  split_ifs with hsize
  · rfl
  · exact (h.resolve_left hsize) k

/-- Positions built anew. -/
lemma indexes_indexPositions (hsize : positions.size = 0) :
    Indexes key items (indexPositions key positions items 0) := by
  refine .inr fun k => ?_
  rw [lookup_indexPositions, lookup_of_size_eq_zero hsize]
  simp

/-- An item is added; the first item of its key keeps the place. -/
lemma Indexes.append_orInsert (h : Indexes key items positions) (hsize : positions.size ≠ 0)
    (a : α) : Indexes key (items ++ [a]) (positions.orInsert (key a) items.length) := by
  refine .inr fun k => ?_
  rw [lookup_orInsert, h.resolve_left hsize, findPosition, findPosition, List.findIdx?_append]
  by_cases hk : k = key a
  · simp [hk]
  · simp [hk, Ne.symm hk]

/-- An item is added under a key that no item has. -/
lemma Indexes.append_insert (h : Indexes key items positions) (hsize : positions.size ≠ 0) {a : α}
    (hnew : findPosition key items (key a) = none) :
    Indexes key (items ++ [a]) (positions.insert (key a) items.length) := by
  have habsent : key a ∉ positions := by
    rw [← Finmap.lookup_eq_none, h.resolve_left hsize, hnew]
  have hadded := h.append_orInsert hsize a
  rwa [orInsert, if_neg habsent] at hadded

/-- Items replaced by items of the same keys. -/
lemma Indexes.congr {items' : List α} (h : Indexes key items positions)
    (hkeys : items'.map key = items.map key) : Indexes key items' positions := by
  rw [Indexes, findPosition_congr key hkeys]
  exact h

/-! ## Positions and items -/

lemma findPosition_eq_some {k : K} {i : ℕ} :
    findPosition key items k = some i
      ↔ ∃ hi : i < items.length, key items[i] = k ∧ ∀ j (hj : j < i), key items[j] ≠ k := by
  simp [findPosition, List.findIdx?_eq_some_iff_getElem]

/-- The item at the position of a key is the first one of the key. -/
lemma bind_findPosition (items : List α) (k : K) :
    ((findPosition key items k).bind fun i => items[i]?) = items.find? fun a => key a = k :=
  List.find?_eq_bind_findIdx?_getElem?.symm

/-- Two keys have two positions. -/
lemma findPosition_injective {k k' : K} {i : ℕ} (h : findPosition key items k = some i)
    (h' : findPosition key items k' = some i) : k = k' := by
  obtain ⟨_, hk, _⟩ := findPosition_eq_some.mp h
  obtain ⟨_, hk', _⟩ := findPosition_eq_some.mp h'
  exact hk.symm.trans hk'

/-- Removing the item at the position of a key removes the first one of the key. -/
lemma eraseIdx_findPosition {k : K} {i : ℕ} (h : findPosition key items k = some i) :
    items.eraseIdx i = items.eraseP fun a => key a = k := by
  rw [List.eraseP_eq_eraseIdx, ← findPosition, h]

lemma eraseP_of_findPosition_eq_none {k : K} (h : findPosition key items k = none) :
    items.eraseP (fun a => key a = k) = items := by
  rw [List.eraseP_eq_eraseIdx, ← findPosition, h]

/-- With one item per key, the items of a key are gone when the first one is removed. -/
lemma find?_eraseP (hkeys : (items.map key).Nodup) (k k' : K) :
    ((items.eraseP fun a => key a = k).find? fun a => key a = k')
      = if k' = k then none else items.find? fun a => key a = k' := by
  induction items with
  | nil => simp
  | cons a items ih =>
      rw [List.map_cons, List.nodup_cons] at hkeys
      by_cases ha : key a = k
      · rw [List.eraseP_cons_of_pos (by simpa using ha)]
        split_ifs with hk
        · subst hk ha
          rw [List.find?_eq_none]
          intro b hb hkey
          exact hkeys.1 (List.mem_map.mpr ⟨b, hb, of_decide_eq_true hkey⟩)
        · rw [List.find?_cons_of_neg (by simpa [ha] using Ne.symm hk)]
      · rw [List.eraseP_cons_of_neg (by simpa using ha), List.find?_cons, List.find?_cons,
          ih hkeys.2]
        by_cases ha' : key a = k'
        · simp [ha', show k' ≠ k from ha' ▸ ha]
        · simp [ha']

end Finmap
