import SectorSync.Base.Positions
import SectorSync.Core.Handoff

/-!
# The station collection

`StationSet` of the runtime crate: stations in insertion order, with an index from id to
position that is built only once the collection is large.  `Coherent` says that the index, when
it is in use, agrees with the linear scan it replaces; lookups are then the scan in either mode
(`Coherent.position_eq`), and a write through a `get_mut` is an update at one id
(`Coherent.get_put`).  `Valid` adds that every store is well formed.
-/

namespace SectorSync

variable {F : Type}

/-- Linear scans win for small registries; larger sets amortize an ID index. -/
def stationLookupIndexThreshold : ℕ := 64

/-- Small ordered in-process station collection. -/
structure StationSet (F : Type) where
  stations : List (Station F)
  positions : HashMap StationId ℕ

/-- The id a station is registered under. -/
def Station.id (s : Station F) : StationId := s.config.stationId

namespace StationSet

/-- An empty collection. -/
def new : StationSet F := ⟨[], ∅⟩

/-- The position of the first station with the id. -/
def position (set : StationSet F) (id : StationId) : Option ℕ :=
  if set.positions.size = 0 then Finmap.findPosition Station.id set.stations id
  else set.positions.lookup id

/-- Starts indexing when the collection reaches the threshold. -/
def activateLookupFor (set : StationSet F) (newLen : ℕ) : StationSet F :=
  if newLen < stationLookupIndexThreshold ∨ set.positions.size ≠ 0 then set
  else { set with positions := Finmap.indexPositions Station.id set.positions set.stations 0 }

/-- Rebuilds the index when it is in use. -/
def rebuildPositions (set : StationSet F) : StationSet F :=
  if set.positions.size = 0 then set
  else { set with positions := Finmap.indexPositions Station.id ∅ set.stations 0 }

/-- Adds a station to the collection. -/
def push (set : StationSet F) (station : Station F) : StationSet F :=
  let set := set.activateLookupFor (set.stations.length + 1)
  let positions :=
    if set.positions.size = 0 then set.positions
    else set.positions.orInsert station.id set.stations.length
  { stations := set.stations ++ [station], positions := positions }

/-- Gets a station by id. -/
def get (set : StationSet F) (id : StationId) : Option (Station F) :=
  (set.position id).bind fun index => set.stations[index]?

/-- Overwrites the station a `get_mut` of the id returned. -/
def put (set : StationSet F) (id : StationId) (station : Station F) : StationSet F :=
  match set.position id with
  | none => set
  | some index => { set with stations := set.stations.set index station }

/-- Removes and returns the first station with the id. -/
def remove (set : StationSet F) (id : StationId) : Option (Station F × StationSet F) :=
  (set.position id).bind fun index =>
    set.stations[index]?.map fun station =>
      (station, { set with stations := set.stations.eraseIdx index }.rebuildPositions)

/-- Gets two distinct stations by id. -/
def getPairMut (set : StationSet F) (leftId rightId : StationId) :
    Option (Station F × Station F) :=
  if leftId = rightId then none
  else
    (set.position leftId).bind fun leftIndex =>
      (set.position rightId).bind fun rightIndex =>
        set.stations[leftIndex]?.bind fun left =>
          set.stations[rightIndex]?.map fun right => (left, right)

/-! ## The index agrees with the scan -/

/-- An index in use holds the first positions. -/
def Coherent (set : StationSet F) : Prop :=
  Finmap.Indexes Station.id set.stations set.positions

/-- An index in use holds the first positions, and every store is well formed. -/
structure Valid (set : StationSet F) : Prop where
  coherent : set.positions.size = 0
    ∨ ∀ id, set.positions.lookup id = Finmap.findPosition Station.id set.stations id
  store : ∀ s ∈ set.stations, s.StoreInv

lemma valid_new : (new : StationSet F).Valid where
  coherent := Or.inl Finmap.size_empty
  store _ hs := absurd hs List.not_mem_nil

variable {set : StationSet F}

lemma Coherent.position_eq (h : set.Coherent) (id : StationId) :
    set.position id = Finmap.findPosition Station.id set.stations id :=
  Finmap.Indexes.position_eq h id

/-- Lookup is the scan, with or without the index. -/
lemma Valid.position_eq (hset : set.Valid) (id : StationId) :
    set.position id = Finmap.findPosition Station.id set.stations id :=
  Coherent.position_eq hset.coherent id

lemma stations_activateLookupFor (set : StationSet F) (newLen : ℕ) :
    (set.activateLookupFor newLen).stations = set.stations := by
  rw [StationSet.activateLookupFor]
  split_ifs
  · rfl
  · rfl

lemma Coherent.activateLookupFor (h : set.Coherent) (newLen : ℕ) :
    (set.activateLookupFor newLen).Coherent := by
  rw [StationSet.activateLookupFor]
  split_ifs with hidle
  · exact h
  · exact Finmap.indexes_indexPositions (by omega)

lemma Coherent.rebuildPositions (set : StationSet F) : set.rebuildPositions.Coherent := by
  rw [StationSet.rebuildPositions]
  split_ifs with hsize
  · exact .inl hsize
  · exact Finmap.indexes_indexPositions Finmap.size_empty

lemma stations_rebuildPositions (set : StationSet F) :
    set.rebuildPositions.stations = set.stations := by
  rw [StationSet.rebuildPositions]
  split_ifs
  · rfl
  · rfl

lemma stations_push (set : StationSet F) (station : Station F) :
    (set.push station).stations = set.stations ++ [station] := by
  rw [StationSet.push, stations_activateLookupFor]

lemma Coherent.push (h : set.Coherent) (station : Station F) : (set.push station).Coherent := by
  have hactive := h.activateLookupFor (set.stations.length + 1)
  have hstations := stations_activateLookupFor set (set.stations.length + 1)
  rw [Coherent, stations_push, StationSet.push]
  dsimp only
  split_ifs with hsize
  · exact .inl hsize
  · rw [hstations]
    rw [Coherent, hstations] at hactive
    exact hactive.append_orInsert hsize station

theorem Valid.push (hset : set.Valid) {station : Station F} (hs : station.StoreInv) :
    (set.push station).Valid := by
  refine ⟨Coherent.push hset.coherent station, fun s hmem => ?_⟩
  rw [stations_push, List.mem_append, List.mem_singleton] at hmem
  rcases hmem with hmem | rfl
  · exact hset.store s hmem
  · exact hs

theorem Valid.remove (hset : set.Valid) {id : StationId} {station : Station F}
    {set' : StationSet F} (hremove : set.remove id = some (station, set')) : set'.Valid := by
  simp only [StationSet.remove, Option.bind_eq_some_iff, Option.map_eq_some_iff, Prod.mk.injEq]
    at hremove
  obtain ⟨index, _, _, _, _, rfl⟩ := hremove
  refine ⟨Coherent.rebuildPositions _, fun s hs => ?_⟩
  rw [stations_rebuildPositions] at hs
  exact hset.store s (List.mem_of_mem_eraseIdx hs)

/-! ## Reading and writing one station -/

/-- A station found under an id is registered under it. -/
lemma Coherent.get_eq_some (h : set.Coherent) {id : StationId} {s : Station F}
    (hget : set.get id = some s) :
    s.config.stationId = id
      ∧ ∃ index, set.position id = some index ∧ set.stations[index]? = some s := by
  obtain ⟨index, hpos, hs⟩ := Option.bind_eq_some_iff.mp hget
  refine ⟨?_, index, hpos, hs⟩
  rw [h.position_eq] at hpos
  obtain ⟨hlt, hid, _⟩ := List.findIdx?_eq_some_iff_getElem.mp hpos
  have hs' : set.stations[index] = s :=
    Option.some.inj ((List.getElem?_eq_getElem hlt).symm.trans hs)
  rw [hs'] at hid
  exact of_decide_eq_true hid

lemma Valid.get_eq_some (hset : set.Valid) {id : StationId} {s : Station F}
    (hget : set.get id = some s) :
    s.StoreInv ∧ s.config.stationId = id
      ∧ ∃ index, set.position id = some index ∧ set.stations[index]? = some s := by
  obtain ⟨hid, index, hpos, hs⟩ := Coherent.get_eq_some hset.coherent hget
  exact ⟨hset.store s (List.mem_of_getElem? hs), hid, index, hpos, hs⟩

/-- A position found for an id is in range. -/
lemma Coherent.get_of_position (h : set.Coherent) {id : StationId} {index : ℕ}
    (hpos : set.position id = some index) : ∃ s, set.get id = some s := by
  have hfind := h.position_eq id ▸ hpos
  obtain ⟨hlt, _⟩ := List.findIdx?_eq_some_iff_getElem.mp hfind
  exact ⟨set.stations[index], by rw [get, hpos, Option.bind_some, List.getElem?_eq_getElem hlt]⟩

/-- Overwriting a station by one of the same id moves no position. -/
lemma map_id_set {index : ℕ} {s s' : Station F} (hs : set.stations[index]? = some s)
    (hid : s'.config.stationId = s.config.stationId) :
    (set.stations.set index s').map Station.id = set.stations.map Station.id := by
  obtain ⟨hlt, rfl⟩ := List.getElem?_eq_some_iff.mp hs
  rw [List.map_set, show s'.id = (set.stations[index]).id from hid, ← List.getElem_map Station.id]
  · exact List.set_getElem_self _
  · simpa using hlt

section Put

variable {id : StationId} {s s' : Station F}

/-- What a write through a `get_mut` leaves. -/
lemma Coherent.put_eq (h : set.Coherent) (hget : set.get id = some s) (s' : Station F) :
    ∃ index, set.position id = some index ∧ set.stations[index]? = some s
      ∧ set.put id s' = { set with stations := set.stations.set index s' } := by
  obtain ⟨_, index, hpos, hs⟩ := h.get_eq_some hget
  exact ⟨index, hpos, hs, by rw [put, hpos]⟩

lemma Valid.put_eq (hset : set.Valid) (hget : set.get id = some s) (s' : Station F) :
    ∃ index, set.position id = some index ∧ set.stations[index]? = some s
      ∧ set.put id s' = { set with stations := set.stations.set index s' } :=
  Coherent.put_eq hset.coherent hget s'

lemma Coherent.map_id_put (h : set.Coherent) (hget : set.get id = some s)
    (hconfig : s'.config = s.config) :
    (set.put id s').stations.map Station.id = set.stations.map Station.id := by
  obtain ⟨index, _, hs, heq⟩ := h.put_eq hget s'
  rw [heq]
  exact map_id_set hs (congrArg StationConfig.stationId hconfig)

lemma Valid.map_id_put (hset : set.Valid) (hget : set.get id = some s)
    (hconfig : s'.config = s.config) :
    (set.put id s').stations.map Station.id = set.stations.map Station.id :=
  Coherent.map_id_put hset.coherent hget hconfig

lemma Coherent.put (h : set.Coherent) (hget : set.get id = some s)
    (hconfig : s'.config = s.config) : (set.put id s').Coherent := by
  obtain ⟨index, _, hs, heq⟩ := h.put_eq hget s'
  rw [heq]
  have hmap := map_id_set hs (congrArg StationConfig.stationId hconfig)
  refine h.imp_right fun hlookup id' => ?_
  rw [hlookup, Finmap.findPosition_congr Station.id hmap]

theorem Valid.put (hset : set.Valid) (hget : set.get id = some s)
    (hconfig : s'.config = s.config) (hinv : s'.StoreInv) : (set.put id s').Valid := by
  refine ⟨Coherent.put hset.coherent hget hconfig, fun r hr => ?_⟩
  obtain ⟨index, _, _, heq⟩ := hset.put_eq hget s'
  rw [heq] at hr
  rcases List.mem_or_eq_of_mem_set hr with hr | rfl
  · exact hset.store r hr
  · exact hinv

/-- **Update at one id.**  A write through a `get_mut` is seen under that id only. -/
theorem Coherent.get_put (h : set.Coherent) (hget : set.get id = some s)
    (hconfig : s'.config = s.config) (id' : StationId) :
    (set.put id s').get id' = if id' = id then some s' else set.get id' := by
  have hcoherent := h.put hget hconfig
  obtain ⟨index, hpos, hs, heq⟩ := h.put_eq hget s'
  rw [heq] at hcoherent ⊢
  have hmap := map_id_set hs (congrArg StationConfig.stationId hconfig)
  have hposition : ({ set with stations := set.stations.set index s' } : StationSet F).position id'
      = set.position id' := by
    rw [hcoherent.position_eq, h.position_eq, Finmap.findPosition_congr Station.id hmap]
  rw [get, hposition]
  by_cases hid : id' = id
  · subst hid
    rw [if_pos rfl, hpos, Option.bind_some]
    simp [(List.getElem?_eq_some_iff.mp hs).1]
  · rw [if_neg hid, get]
    cases hpos' : set.position id' with
    | none => rfl
    | some index' =>
        rw [Option.bind_some, Option.bind_some, List.getElem?_set_ne]
        rintro rfl
        obtain ⟨s₂, hget₂⟩ := h.get_of_position hpos'
        obtain ⟨hid₂, _, hpos₂, hs₂⟩ := h.get_eq_some hget₂
        obtain ⟨hid₁, _⟩ := h.get_eq_some hget
        rw [hpos', Option.some.injEq] at hpos₂
        rw [← hpos₂, hs, Option.some.injEq] at hs₂
        exact hid (by rw [← hid₂, ← hs₂, hid₁])

theorem Valid.get_put (hset : set.Valid) (hget : set.get id = some s)
    (hconfig : s'.config = s.config) (id' : StationId) :
    (set.put id s').get id' = if id' = id then some s' else set.get id' :=
  Coherent.get_put hset.coherent hget hconfig id'

/-- Writing back what was read changes nothing. -/
lemma Coherent.put_self (h : set.Coherent) (hget : set.get id = some s) :
    set.put id s = set := by
  obtain ⟨index, _, hs, heq⟩ := h.put_eq hget s
  obtain ⟨hlt, rfl⟩ := List.getElem?_eq_some_iff.mp hs
  rw [heq, List.set_getElem_self]

/-- The pair lookup finds what the two lookups find. -/
lemma getPairMut_of_get {leftId rightId : StationId} {left right : Station F}
    (hne : leftId ≠ rightId) (hleft : set.get leftId = some left)
    (hright : set.get rightId = some right) :
    set.getPairMut leftId rightId = some (left, right) := by
  obtain ⟨i, hi, hl⟩ := Option.bind_eq_some_iff.mp hleft
  obtain ⟨j, hj, hr⟩ := Option.bind_eq_some_iff.mp hright
  simp [getPairMut, hne, hi, hj, hl, hr]

end Put

end StationSet

end SectorSync
