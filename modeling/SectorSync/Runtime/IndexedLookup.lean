import SectorSync.Base.Run
import SectorSync.Runtime.LoadSampler
import SectorSync.Runtime.StationSet

/-!
# Indexed lookup is linear search

`StationSet` and `StationIndexSet` switch from linear search to an index from ids to positions when
they grow, and rebuild it when they shrink.  Over any pushes, insertions and removals both are plain
lists (`linearStep`): a lookup finds the first element with the id, a removal takes it out, and the
two elements of a pair are those that two lookups find.
-/

namespace SectorSync

open Machine

variable {F : Type}

/-- The two elements that two searches find, for two different ids. -/
def linearPair {α : Type} (find : StationId → Option α) (leftId rightId : StationId) :
    Option (α × α) :=
  if leftId = rightId then none
  else (find leftId).bind fun left => (find rightId).map fun right => (left, right)

/-! ## Stations -/

/-- An edit of a station collection. -/
inductive StationSetOp (F : Type) where
  | push (station : Station F)
  | remove (id : StationId)

namespace StationSet

variable {set : StationSet F}

/-- The collection after an edit. -/
def step (set : StationSet F) : StationSetOp F → StationSet F
  | .push station => set.push station
  | .remove id => (set.remove id).elim set Prod.snd

/-- The edit of a plain list. -/
def linearStep (stations : List (Station F)) : StationSetOp F → List (Station F)
  | .push station => stations ++ [station]
  | .remove id => stations.eraseP fun station => station.id = id

/-- The first station with the id. -/
def linearGet (stations : List (Station F)) (id : StationId) : Option (Station F) :=
  stations.find? fun station => station.id = id

lemma Coherent.get_eq (h : set.Coherent) (id : StationId) :
    set.get id = linearGet set.stations id := by
  rw [get, h.position_eq, Finmap.bind_findPosition, linearGet]

/-- A removal takes out the first station with the id. -/
lemma Coherent.remove_eq (h : set.Coherent) (id : StationId) :
    (set.remove id).map Prod.fst = linearGet set.stations id
      ∧ ((set.remove id).elim set Prod.snd).stations
        = set.stations.eraseP (fun station => station.id = id) := by
  rw [remove, h.position_eq, linearGet, ← Finmap.bind_findPosition]
  cases hposition : Finmap.findPosition Station.id set.stations id with
  | none => exact ⟨rfl, (Finmap.eraseP_of_findPosition_eq_none hposition).symm⟩
  | some index =>
      obtain ⟨hlt, -⟩ := Finmap.findPosition_eq_some.mp hposition
      simp only [Option.bind_some, List.getElem?_eq_getElem hlt, Option.map_some, Option.elim_some,
        stations_rebuildPositions, true_and]
      exact Finmap.eraseIdx_findPosition hposition

lemma Coherent.step (h : set.Coherent) (op : StationSetOp F) : (set.step op).Coherent := by
  cases op with
  | push station => exact h.push station
  | remove id =>
      rw [StationSet.step, remove]
      cases set.position id with
      | none => exact h
      | some index =>
          cases hstation : set.stations[index]? with
          | none => simpa [hstation] using h
          | some station => simpa [hstation] using Coherent.rebuildPositions _

lemma Coherent.stations_step (h : set.Coherent) (op : StationSetOp F) :
    (set.step op).stations = linearStep set.stations op := by
  cases op with
  | push station => exact stations_push set station
  | remove id => exact (h.remove_eq id).2

lemma Coherent.getPairMut_eq (h : set.Coherent) (leftId rightId : StationId) :
    set.getPairMut leftId rightId = linearPair (linearGet set.stations) leftId rightId := by
  rw [getPairMut, linearPair]
  split_ifs with hsame
  · rfl
  · rw [← h.get_eq, ← h.get_eq, get, get]
    cases set.position leftId with
    | none => rfl
    | some i =>
        cases set.position rightId with
        | none => simp
        | some j => rfl

/-- A station that is pushed under a new id is found there. -/
lemma Coherent.get_push (h : set.Coherent) {station : Station F} (hnew : set.get station.id = none)
    (id : StationId) :
    (set.push station).get id = if id = station.id then some station else set.get id := by
  rw [(h.push station).get_eq, stations_push, linearGet, List.find?_append, ← linearGet, ← h.get_eq]
  split_ifs with hid
  · rw [hid, hnew]
    simp
  · simp [Ne.symm hid]

/-- With one station per id, a removal is seen under its id only. -/
lemma Coherent.get_remove (h : set.Coherent) (hids : (set.stations.map Station.id).Nodup)
    (id id' : StationId) :
    ((set.remove id).elim set Prod.snd).get id' = if id' = id then none else set.get id' := by
  have hafter := h.step (.remove id)
  rw [show (set.remove id).elim set Prod.snd = set.step (.remove id) from rfl, hafter.get_eq,
    h.get_eq, linearGet, h.stations_step]
  exact Finmap.find?_eraseP hids id id'

/-- Positions are in range, and two ids have two of them. -/
structure InRange (set : StationSet F) : Prop where
  lt : ∀ id index, set.position id = some index → index < set.stations.length
  distinct : ∀ leftId rightId index, set.position leftId = some index →
    set.position rightId = some index → leftId = rightId

lemma Coherent.inRange (h : set.Coherent) : set.InRange where
  lt id index hposition := by
    rw [h.position_eq] at hposition
    exact (Finmap.findPosition_eq_some.mp hposition).1
  distinct leftId rightId index hleft hright := by
    rw [h.position_eq] at hleft hright
    exact Finmap.findPosition_injective hleft hright

end StationSet

/-! ## Station indexes -/

/-- An edit of the station indexes. -/
inductive StationIndexSetOp (F : Type) where
  | insert (stationId : StationId) (index : CellIndex F)
  | remove (stationId : StationId)

namespace StationIndexSet

variable {set : StationIndexSet F}

/-- The collection after an edit. -/
def step (set : StationIndexSet F) : StationIndexSetOp F → StationIndexSet F
  | .insert stationId index => set.insert stationId index
  | .remove stationId => (set.remove stationId).elim set Prod.snd

/-- The first index of a station. -/
def linearGet (indexes : List (StationId × CellIndex F)) (stationId : StationId) :
    Option (CellIndex F) :=
  (indexes.find? fun entry => entry.1 = stationId).map Prod.snd

/-- Replaces the first index of a station. -/
def linearReplace (indexes : List (StationId × CellIndex F)) (stationId : StationId)
    (index : CellIndex F) : List (StationId × CellIndex F) :=
  match indexes with
  | [] => []
  | entry :: rest =>
      if entry.1 = stationId then (stationId, index) :: rest
      else entry :: linearReplace rest stationId index

/-- The edit of a plain list. -/
def linearStep (indexes : List (StationId × CellIndex F)) :
    StationIndexSetOp F → List (StationId × CellIndex F)
  | .insert stationId index =>
      if (indexes.find? fun entry => entry.1 = stationId).isSome then
        linearReplace indexes stationId index
      else indexes ++ [(stationId, index)]
  | .remove stationId => indexes.eraseP fun entry => entry.1 = stationId

/-- Positions in use are the first ones. -/
def Coherent (set : StationIndexSet F) : Prop :=
  Finmap.Indexes Prod.fst set.indexes set.positions

lemma coherent_new : (new : StationIndexSet F).Coherent := Finmap.indexes_empty

lemma Coherent.position_eq (h : set.Coherent) (stationId : StationId) :
    set.position stationId = Finmap.findPosition Prod.fst set.indexes stationId :=
  Finmap.Indexes.position_eq h stationId

lemma Coherent.get_eq (h : set.Coherent) (stationId : StationId) :
    set.get stationId = linearGet set.indexes stationId := by
  rw [get, h.position_eq, linearGet, ← Finmap.bind_findPosition]
  cases Finmap.findPosition Prod.fst set.indexes stationId <;> rfl

lemma indexes_activateLookupFor (set : StationIndexSet F) (newLen : ℕ) :
    (set.activateLookupFor newLen).indexes = set.indexes := by
  rw [activateLookupFor]
  split_ifs
  · rfl
  · rfl

lemma Coherent.activateLookupFor (h : set.Coherent) (newLen : ℕ) :
    (set.activateLookupFor newLen).Coherent := by
  rw [StationIndexSet.activateLookupFor]
  split_ifs with hidle
  · exact h
  · exact Finmap.indexes_indexPositions (by omega)

lemma indexes_rebuildPositions (set : StationIndexSet F) :
    set.rebuildPositions.indexes = set.indexes := by
  rw [rebuildPositions]
  split_ifs
  · rfl
  · rfl

lemma Coherent.rebuildPositions (set : StationIndexSet F) : set.rebuildPositions.Coherent := by
  rw [StationIndexSet.rebuildPositions]
  split_ifs with hsize
  · exact .inl hsize
  · exact Finmap.indexes_indexPositions Finmap.size_empty

/-- Replacing at the position of a station replaces its first index. -/
lemma set_findPosition {indexes : List (StationId × CellIndex F)} {stationId : StationId} {i : ℕ}
    (h : Finmap.findPosition Prod.fst indexes stationId = some i) (index : CellIndex F) :
    indexes.set i (stationId, index) = linearReplace indexes stationId index := by
  induction indexes generalizing i with
  | nil => simp [Finmap.findPosition] at h
  | cons entry rest ih =>
      rw [Finmap.findPosition, List.findIdx?_cons] at h
      rw [linearReplace]
      split_ifs with hentry
      · simp only [hentry, decide_true, if_true, Option.some.injEq] at h
        rw [← h, List.set_cons_zero]
      · simp only [hentry, decide_false, Bool.false_eq_true, if_false, Option.map_eq_some_iff] at h
        obtain ⟨j, hj, rfl⟩ := h
        rw [List.set_cons_succ, ih hj]

lemma Coherent.indexes_insert (h : set.Coherent) (stationId : StationId) (index : CellIndex F) :
    (set.insert stationId index).indexes
      = linearStep set.indexes (.insert stationId index) := by
  rw [insert, h.position_eq, linearStep, ← Finmap.bind_findPosition]
  cases hposition : Finmap.findPosition Prod.fst set.indexes stationId with
  | none => simp [indexes_activateLookupFor]
  | some position =>
      obtain ⟨hlt, -⟩ := Finmap.findPosition_eq_some.mp hposition
      rw [Option.bind_some, List.getElem?_eq_getElem hlt, Option.isSome_some, if_pos rfl]
      exact set_findPosition hposition index

lemma Coherent.insert (h : set.Coherent) (stationId : StationId) (index : CellIndex F) :
    (set.insert stationId index).Coherent := by
  rw [StationIndexSet.insert, h.position_eq]
  cases hposition : Finmap.findPosition Prod.fst set.indexes stationId with
  | none =>
      have hactive := h.activateLookupFor (usizeSaturatingAdd set.indexes.length 1)
      have hindexes :=
        indexes_activateLookupFor set (usizeSaturatingAdd set.indexes.length 1)
      dsimp only
      rw [Coherent, hindexes] at hactive ⊢
      split_ifs with hsize
      · exact .inl hsize
      · exact hactive.append_insert (a := (stationId, index)) hsize hposition
  | some position =>
      refine Finmap.Indexes.congr h ?_
      obtain ⟨hlt, hkey, -⟩ := Finmap.findPosition_eq_some.mp hposition
      have hlt' : position < (set.indexes.map Prod.fst).length := by rwa [List.length_map]
      calc (set.indexes.set position (stationId, index)).map Prod.fst
          = (set.indexes.map Prod.fst).set position stationId := List.map_set
        _ = (set.indexes.map Prod.fst).set position (set.indexes.map Prod.fst)[position] := by
            rw [List.getElem_map, hkey]
        _ = set.indexes.map Prod.fst := List.set_getElem_self hlt'

/-- A removal takes out the first index of the station. -/
lemma Coherent.remove_eq (h : set.Coherent) (stationId : StationId) :
    (set.remove stationId).map Prod.fst = linearGet set.indexes stationId
      ∧ ((set.remove stationId).elim set Prod.snd).indexes
        = set.indexes.eraseP (fun entry => entry.1 = stationId) := by
  rw [remove, h.position_eq, linearGet, ← Finmap.bind_findPosition]
  cases hposition : Finmap.findPosition Prod.fst set.indexes stationId with
  | none => exact ⟨rfl, (Finmap.eraseP_of_findPosition_eq_none hposition).symm⟩
  | some position =>
      obtain ⟨hlt, -⟩ := Finmap.findPosition_eq_some.mp hposition
      simp only [Option.bind_some, List.getElem?_eq_getElem hlt, Option.map_some, Option.elim_some,
        indexes_rebuildPositions, true_and]
      exact Finmap.eraseIdx_findPosition hposition

lemma Coherent.step (h : set.Coherent) (op : StationIndexSetOp F) : (set.step op).Coherent := by
  cases op with
  | insert stationId index => exact h.insert stationId index
  | remove stationId =>
      rw [StationIndexSet.step, remove]
      cases set.position stationId with
      | none => exact h
      | some position =>
          cases hentry : set.indexes[position]? with
          | none => simpa [hentry] using h
          | some entry => simpa [hentry] using Coherent.rebuildPositions _

lemma Coherent.indexes_step (h : set.Coherent) (op : StationIndexSetOp F) :
    (set.step op).indexes = linearStep set.indexes op := by
  cases op with
  | insert stationId index => exact h.indexes_insert stationId index
  | remove stationId => exact (h.remove_eq stationId).2

lemma Coherent.getPairMut_eq (h : set.Coherent) (leftId rightId : StationId) :
    set.getPairMut leftId rightId = linearPair (linearGet set.indexes) leftId rightId := by
  rw [getPairMut, linearPair, h.get_eq, h.get_eq]

lemma map_fst_modify (indexes : List (StationId × CellIndex F)) (i : ℕ) (index : CellIndex F) :
    (indexes.modify i fun entry => (entry.1, index)).map Prod.fst = indexes.map Prod.fst := by
  refine List.ext_getElem? fun j => ?_
  rw [List.getElem?_map, List.getElem?_modify, List.getElem?_map]
  cases indexes[j]? with
  | none => rfl
  | some entry =>
      by_cases hj : i = j
      · simp [hj]
      · simp [hj]

lemma map_fst_put (set : StationIndexSet F) (stationId : StationId) (index : CellIndex F) :
    (set.put stationId index).indexes.map Prod.fst = set.indexes.map Prod.fst := by
  rw [put]
  cases set.position stationId with
  | none => rfl
  | some i => exact map_fst_modify set.indexes i index

/-- Overwriting an index moves no position. -/
lemma Coherent.put (h : set.Coherent) (stationId : StationId) (index : CellIndex F) :
    (set.put stationId index).Coherent := by
  rw [StationIndexSet.put]
  cases set.position stationId with
  | none => exact h
  | some i => exact Finmap.Indexes.congr h (map_fst_modify set.indexes i index)

/-- What an overwritten index shows. -/
lemma Coherent.get_put (h : set.Coherent) (stationId : StationId) (index : CellIndex F)
    (other : StationId) :
    (set.put stationId index).get other
      = if other = stationId then (set.get other).map fun _ => index else set.get other := by
  have hput := h.put stationId index
  rw [get, get, h.position_eq, hput.position_eq]
  rw [StationIndexSet.put, h.position_eq]
  cases hposition : Finmap.findPosition Prod.fst set.indexes stationId with
  | none =>
      dsimp only
      split_ifs with hother
      · rw [hother, hposition]
        rfl
      · rfl
  | some i =>
      dsimp only
      rw [Finmap.findPosition_congr Prod.fst (map_fst_modify set.indexes i index)]
      split_ifs with hother
      · subst hother
        rw [hposition]
        simp [Function.comp_def]
      · cases hfound : Finmap.findPosition Prod.fst set.indexes other with
        | none => rfl
        | some j =>
            have hne : i ≠ j := by
              rintro rfl
              exact hother (Finmap.findPosition_injective hfound hposition)
            rw [Option.bind_some, Option.bind_some, List.getElem?_modify]
            simp [hne]

/-- An index that is inserted for a new station is added at the end. -/
lemma Coherent.indexes_insert_new (h : set.Coherent) {stationId : StationId}
    (hnew : set.get stationId = none) (index : CellIndex F) :
    (set.insert stationId index).indexes = set.indexes ++ [(stationId, index)] := by
  rw [h.get_eq, linearGet, Option.map_eq_none_iff] at hnew
  rw [h.indexes_insert, linearStep, hnew]
  rfl

lemma Coherent.get_insert_new (h : set.Coherent) {stationId : StationId}
    (hnew : set.get stationId = none) (index : CellIndex F) (other : StationId) :
    (set.insert stationId index).get other
      = if other = stationId then some index else set.get other := by
  rw [(h.insert stationId index).get_eq, h.indexes_insert_new hnew, linearGet, List.find?_append]
  split_ifs with hother
  · rw [h.get_eq, linearGet, Option.map_eq_none_iff] at hnew
    rw [hother, hnew]
    simp
  · rw [h.get_eq, linearGet]
    simp [Ne.symm hother]

/-- With one index per station, a removal is seen under its id only. -/
lemma Coherent.get_remove (h : set.Coherent) (hids : (set.indexes.map Prod.fst).Nodup)
    (stationId other : StationId) :
    ((set.remove stationId).elim set Prod.snd).get other
      = if other = stationId then none else set.get other := by
  have hafter := h.step (.remove stationId)
  rw [show (set.remove stationId).elim set Prod.snd = set.step (.remove stationId) from rfl,
    hafter.get_eq, h.get_eq, linearGet, linearGet, h.indexes_step, linearStep,
    Finmap.find?_eraseP hids]
  split_ifs
  · rfl
  · rfl

/-- Positions are in range, and two stations have two of them. -/
structure InRange (set : StationIndexSet F) : Prop where
  lt : ∀ stationId position, set.position stationId = some position →
    position < set.indexes.length
  distinct : ∀ leftId rightId position, set.position leftId = some position →
    set.position rightId = some position → leftId = rightId

lemma Coherent.inRange (h : set.Coherent) : set.InRange where
  lt stationId position hposition := by
    rw [h.position_eq] at hposition
    exact (Finmap.findPosition_eq_some.mp hposition).1
  distinct leftId rightId position hleft hright := by
    rw [h.position_eq] at hleft hright
    exact Finmap.findPosition_injective hleft hright

end StationIndexSet

/-! ## Every run of edits -/

/-- What a station collection shows is what linear search in the list shows. -/
structure StationSet.Linear (set : StationSet F) (stations : List (Station F)) : Prop where
  stored : set.stations = stations
  get : ∀ id, set.get id = StationSet.linearGet stations id
  removed : ∀ id, (set.remove id).map Prod.fst = StationSet.linearGet stations id
  pair : ∀ leftId rightId,
    set.getPairMut leftId rightId = linearPair (StationSet.linearGet stations) leftId rightId
  inRange : set.InRange

/-- What the station indexes show is what linear search in the list shows. -/
structure StationIndexSet.Linear (set : StationIndexSet F)
    (indexes : List (StationId × CellIndex F)) : Prop where
  stored : set.indexes = indexes
  get : ∀ stationId, set.get stationId = StationIndexSet.linearGet indexes stationId
  removed : ∀ stationId,
    (set.remove stationId).map Prod.fst = StationIndexSet.linearGet indexes stationId
  pair : ∀ leftId rightId,
    set.getPairMut leftId rightId = linearPair (StationIndexSet.linearGet indexes) leftId rightId
  inRange : set.InRange

lemma StationSet.Coherent.linear {set : StationSet F} (h : set.Coherent) :
    set.Linear set.stations where
  stored := rfl
  get := h.get_eq
  removed id := (h.remove_eq id).1
  pair := h.getPairMut_eq
  inRange := h.inRange

lemma StationIndexSet.Coherent.linear {set : StationIndexSet F} (h : set.Coherent) :
    set.Linear set.indexes where
  stored := rfl
  get := h.get_eq
  removed stationId := (h.remove_eq stationId).1
  pair := h.getPairMut_eq
  inRange := h.inRange

/-- **Indexed lookup is linear search**, after any pushes, insertions and removals. -/
theorem indexed_lookup_linear (pushes : List (StationSetOp F))
    (inserts : List (StationIndexSetOp F)) :
    (execute StationSet.step .new pushes).Linear (execute StationSet.linearStep [] pushes)
      ∧ (execute StationIndexSet.step .new inserts).Linear
        (execute StationIndexSet.linearStep [] inserts) := by
  constructor
  · have hrun : (execute StationSet.step .new pushes).Coherent
        ∧ (execute StationSet.step .new pushes).stations
          = execute StationSet.linearStep [] pushes := by
      induction pushes using List.reverseRecOn with
      | nil => exact ⟨Finmap.indexes_empty, rfl⟩
      | append_singleton pushes op ih =>
          rw [execute_concat, execute_concat, ← ih.2]
          exact ⟨ih.1.step op, ih.1.stations_step op⟩
    exact hrun.2 ▸ hrun.1.linear
  · have hrun : (execute StationIndexSet.step .new inserts).Coherent
        ∧ (execute StationIndexSet.step .new inserts).indexes
          = execute StationIndexSet.linearStep [] inserts := by
      induction inserts using List.reverseRecOn with
      | nil => exact ⟨StationIndexSet.coherent_new, rfl⟩
      | append_singleton inserts op ih =>
          rw [execute_concat, execute_concat, ← ih.2]
          exact ⟨ih.1.step op, ih.1.indexes_step op⟩
    exact hrun.2 ▸ hrun.1.linear

end SectorSync
