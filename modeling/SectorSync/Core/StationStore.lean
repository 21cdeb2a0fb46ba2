import SectorSync.Core.Station

/-!
# The store invariant of a station

`StoreInv` relates the four structures of the store: slots, generations, free list and id map.
Every operation either leaves the store alone, overwrites a live record in place
(`writeRecord`), stores a record in a newly allocated slot (`insertNew`), or clears a slot
(`remove`); each of the three is shown to keep the invariant and to act on the id-to-record map
`getById` as an update at one id.  The specifications of the handoff operations below are
stated over that map, so that nothing above this file looks at a slot.
-/

namespace SectorSync

variable {F : Type}

namespace Station

/-- The relations between slots, generations, free list and id map. -/
structure StoreInv (s : Station F) : Prop where
  lengths : s.generations.length = s.records.length
  free_nodup : s.free.Nodup
  mem_free : ∀ i, i ∈ s.free ↔ s.records[i]? = some none
  get_of_id : ∀ id h, s.byId.lookup id = some h → ∃ r, s.get h = some r ∧ r.id = id
  id_of_get : ∀ h r, s.get h = some r → s.byId.lookup r.id = some h ∧ r.handle = h

/-- Reading a handle: its generation matches and its slot is live. -/
lemma get_eq_some {s : Station F} {h : EntityHandle} {r : EntityRecord F} :
    s.get h = some r
      ↔ s.generations[h.index]? = some h.generation ∧ s.records[h.index]? = some (some r) := by
  unfold get
  cases hg : s.generations[h.index]? with
  | none => simp
  | some g =>
      by_cases hgen : g = h.generation
      · simp [hgen, Option.join_eq_some_iff]
      · simp [hgen]

/-- A handle and a record of a live slot, found through the id map. -/
lemma getById_eq_some {s : Station F} {id : EntityId} {r : EntityRecord F} :
    s.getById id = some r ↔ ∃ h, s.byId.lookup id = some h ∧ s.get h = some r := by
  simp [getById, Option.bind_eq_some_iff]

namespace StoreInv

variable {s : Station F}

/-- The record found under an id carries that id. -/
lemma id_of_getById (inv : s.StoreInv) {id : EntityId} {r : EntityRecord F}
    (h : s.getById id = some r) : r.id = id := by
  obtain ⟨hd, hlook, hget⟩ := getById_eq_some.mp h
  obtain ⟨r', hget', hid⟩ := inv.get_of_id id hd hlook
  rw [hget, Option.some.injEq] at hget'
  rw [hget', hid]

/-- The id map and the record map have the same domain. -/
lemma getById_eq_none (inv : s.StoreInv) {id : EntityId} :
    s.getById id = none ↔ s.byId.lookup id = none := by
  constructor
  · intro h
    cases hlook : s.byId.lookup id with
    | none => rfl
    | some hd =>
        obtain ⟨r, hget, _⟩ := inv.get_of_id id hd hlook
        rw [getById, hlook, Option.bind_some, hget] at h
        exact absurd h (by simp)
  · intro h
    rw [getById, h, Option.bind_none]

/-- Two handles of one live id are equal. -/
lemma handle_eq (inv : s.StoreInv) {h h' : EntityHandle} {r r' : EntityRecord F}
    (hget : s.get h = some r) (hget' : s.get h' = some r') (hid : r.id = r'.id) : h = h' := by
  have h₁ := (inv.id_of_get h r hget).1
  have h₂ := (inv.id_of_get h' r' hget').1
  rw [hid, h₂, Option.some.injEq] at h₁
  exact h₁.symm

end StoreInv

lemma storeInv_new (config : StationConfig) : (new config : Station F).StoreInv where
  lengths := rfl
  free_nodup := List.nodup_nil
  mem_free i := by simp [new]
  get_of_id id h hlook := by simp [new] at hlook
  id_of_get h r hget := by simp [new, get] at hget

/-- The invariant reads the slots and the id map only. -/
lemma storeInv_congr {s s' : Station F} (inv : s.StoreInv) (hr : s'.records = s.records)
    (hg : s'.generations = s.generations) (hf : s'.free = s.free) (hb : s'.byId = s.byId) :
    s'.StoreInv := by
  have hget : s'.get = s.get := by
    funext h
    simp [get, hr, hg]
  exact
    { lengths := by rw [hr, hg]; exact inv.lengths
      free_nodup := by rw [hf]; exact inv.free_nodup
      mem_free := fun i => by rw [hf, hr]; exact inv.mem_free i
      get_of_id := fun id h hlook => by rw [hget]; exact inv.get_of_id id h (by rwa [← hb])
      id_of_get := fun h r hh => by rw [hb]; exact inv.id_of_get h r (by rwa [← hget]) }

lemma StoreInv.advanceTick {s : Station F} (inv : s.StoreInv) : s.advanceTick.StoreInv :=
  storeInv_congr inv rfl rfl rfl rfl

/-! ## Overwriting a live record -/

section Write

variable {s : Station F} {h : EntityHandle} {r : EntityRecord F}

@[simp] lemma config_writeRecord : (s.writeRecord h r).config = s.config := rfl
@[simp] lemma tick_writeRecord : (s.writeRecord h r).tick = s.tick := rfl
@[simp] lemma ownerEpoch_writeRecord : (s.writeRecord h r).ownerEpoch = s.ownerEpoch := rfl
@[simp] lemma byId_writeRecord : (s.writeRecord h r).byId = s.byId := rfl

/-- Reading after filling the slot of a handle whose generation is current. -/
lemma get_fillSlot (hgen : s.generations[h.index]? = some h.generation)
    (hlt : h.index < s.records.length) (h' : EntityHandle) :
    (s.writeRecord h r).get h' = if h' = h then some r else s.get h' := by
  by_cases hh : h' = h
  · subst hh
    rw [if_pos rfl, get_eq_some]
    exact ⟨hgen, by simp [writeRecord, hlt]⟩
  · rw [if_neg hh]
    by_cases hidx : h.index = h'.index
    · -- the slot is shared, so the generations differ and both reads fail
      have hne : h.generation ≠ h'.generation := by
        intro hg
        apply hh
        cases h; cases h'
        simp_all
      have hgen' : s.generations[h'.index]? = some h.generation := hidx ▸ hgen
      simp [get, writeRecord, hgen', hne]
    · simp [get, writeRecord, List.getElem?_set_ne hidx]

/-- Reading after overwriting a live record. -/
lemma get_writeRecord {old : EntityRecord F} (hget : s.get h = some old) (h' : EntityHandle) :
    (s.writeRecord h r).get h' = if h' = h then some r else s.get h' := by
  obtain ⟨hgen, hrec⟩ := get_eq_some.mp hget
  exact get_fillSlot hgen (List.getElem?_eq_some_iff.mp hrec).1 h'

lemma StoreInv.writeRecord (inv : s.StoreInv) {old : EntityRecord F} (hget : s.get h = some old)
    (hid : r.id = old.id) (hhandle : r.handle = h) : (s.writeRecord h r).StoreInv where
  lengths := by simp [Station.writeRecord, inv.lengths]
  free_nodup := inv.free_nodup
  mem_free i := by
    obtain ⟨_, hrec⟩ := get_eq_some.mp hget
    rw [show (s.writeRecord h r).free = s.free from rfl, inv.mem_free i]
    by_cases hidx : h.index = i
    · subst hidx
      simp [Station.writeRecord, hrec, List.getElem?_set]
    · simp [Station.writeRecord, List.getElem?_set_ne hidx]
  get_of_id id h' hlook := by
    obtain ⟨r', hget', hid'⟩ := inv.get_of_id id h' hlook
    rw [get_writeRecord hget]
    by_cases hh : h' = h
    · subst hh
      rw [hget, Option.some.injEq] at hget'
      exact ⟨r, if_pos rfl, by rw [hid, hget', hid']⟩
    · exact ⟨r', by rw [if_neg hh, hget'], hid'⟩
  id_of_get h' r' hget' := by
    rw [get_writeRecord hget] at hget'
    by_cases hh : h' = h
    · subst hh
      rw [if_pos rfl, Option.some.injEq] at hget'
      subst hget'
      exact ⟨by rw [hid]; exact (inv.id_of_get h' old hget).1, hhandle⟩
    · rw [if_neg hh] at hget'
      exact inv.id_of_get h' r' hget'

/-- Overwriting a live record is an update of the record map at its id. -/
lemma StoreInv.getById_writeRecord (inv : s.StoreInv) {old : EntityRecord F}
    (hget : s.get h = some old) (id : EntityId) :
    (s.writeRecord h r).getById id = if id = old.id then some r else s.getById id := by
  rw [getById, byId_writeRecord]
  by_cases hid : id = old.id
  · subst hid
    rw [if_pos rfl, (inv.id_of_get h old hget).1, Option.bind_some, get_writeRecord hget,
      if_pos rfl]
  · rw [if_neg hid, getById]
    cases hlook : s.byId.lookup id with
    | none => rfl
    | some h' =>
        rw [Option.bind_some, Option.bind_some, get_writeRecord hget, if_neg]
        rintro rfl
        obtain ⟨r', hget', hid'⟩ := inv.get_of_id id h' hlook
        rw [hget, Option.some.injEq] at hget'
        exact hid (by rw [hget', hid'])

end Write

/-! ## Storing a record in a new slot -/

/-- What allocation guarantees, whether the slot is recycled or fresh: nothing readable changes,
and the slot is empty, current for the handle and no longer free. -/
structure Allocated (s : Station F) (h : EntityHandle) (s' : Station F) : Prop where
  byId : s'.byId = s.byId
  lengths : s'.generations.length = s'.records.length
  generation : s'.generations[h.index]? = some h.generation
  slot : s'.records[h.index]? = some none
  get_eq : ∀ h', s'.get h' = s.get h'
  free_nodup : s'.free.Nodup
  mem_free : ∀ i, i ∈ s'.free ↔ i ≠ h.index ∧ s'.records[i]? = some none

section Insert

variable {s : Station F} {record : EntityHandle → EntityRecord F}

/-- Appending an empty slot changes no read. -/
lemma get_appendSlot (hlen : s.generations.length = s.records.length) (h' : EntityHandle) :
    ({ s with records := s.records ++ [none], generations := s.generations ++ [0] } :
      Station F).get h' = s.get h' := by
  rcases Nat.lt_trichotomy h'.index s.records.length with hlt | heq | hgt
  · have hltg : h'.index < s.generations.length := by omega
    simp [get, List.getElem?_append_left hlt, List.getElem?_append_left hltg]
  · simp [get, heq, ← hlen]
  · have h₁ : (s.generations ++ [(0 : UInt32)])[h'.index]? = none := by
      rw [List.getElem?_eq_none_iff, List.length_append, List.length_singleton]
      omega
    have h₂ : s.generations[h'.index]? = none := by
      rw [List.getElem?_eq_none_iff]
      omega
    simp [get, h₁, h₂]

/-- Allocation needs the slots and the free list to be well formed, and nothing of the id map. -/
lemma allocated_allocateHandle (hlen : s.generations.length = s.records.length)
    (hnodup : s.free.Nodup) (hmem : ∀ i, i ∈ s.free ↔ s.records[i]? = some none) :
    Allocated s s.allocateHandle.1 s.allocateHandle.2 := by
  cases hfree : s.free with
  | nil =>
      have hnone : ∀ i : ℕ, s.records[i]? ≠ some none := by
        intro i hi
        have := (hmem i).mpr hi
        rw [hfree] at this
        exact absurd this (by simp)
      simp only [Station.allocateHandle, hfree]
      refine ⟨rfl, by simp [hlen], by simp [← hlen], by simp, ?_, List.nodup_nil, ?_⟩
      · intro h'
        exact (get_appendSlot hlen h' : _)
      · intro i
        simp only [List.not_mem_nil, false_iff, not_and]
        intro hi hrec
        rcases Nat.lt_or_gt_of_ne hi with hlt | hgt
        · rw [List.getElem?_append_left hlt] at hrec
          exact hnone i hrec
        · rw [List.getElem?_eq_none_iff.mpr (by simp; omega)] at hrec
          exact absurd hrec (by simp)
  | cons index free =>
      have hidx : s.records[index]? = some none := (hmem index).mp (by simp [hfree])
      obtain ⟨hlt, _⟩ := List.getElem?_eq_some_iff.mp hidx
      have hltg : index < s.generations.length := by omega
      have hnd : index ∉ free ∧ free.Nodup := by
        rwa [hfree, List.nodup_cons] at hnodup
      simp only [Station.allocateHandle, hfree]
      refine ⟨rfl, hlen, by simp [hltg], hidx, fun _ => rfl, hnd.2, ?_⟩
      intro i
      rw [← hmem i, hfree, List.mem_cons]
      constructor
      · intro hi
        exact ⟨by rintro rfl; exact hnd.1 hi, Or.inr hi⟩
      · rintro ⟨hne, heq | hi⟩
        · exact absurd heq hne
        · exact hi

lemma StoreInv.allocateHandle (inv : s.StoreInv) :
    Allocated s s.allocateHandle.1 s.allocateHandle.2 :=
  allocated_allocateHandle inv.lengths inv.free_nodup inv.mem_free

/-- The slot a new record goes to was not readable before. -/
lemma Allocated.get_eq_none {h : EntityHandle} {s' : Station F} (ha : Allocated s h s') :
    s.get h = none := by
  rw [← ha.get_eq h]
  simp [get, ha.generation, ha.slot]

lemma byId_insertNew (record : EntityHandle → EntityRecord F) (inv : s.StoreInv) :
    (s.insertNew record).2.byId
      = s.byId.insert (record (s.insertNew record).1).id (s.insertNew record).1 := by
  simp only [insertNew, insertAllocated, inv.allocateHandle.byId]

/-- Reading after storing a new record. -/
lemma Allocated.get_insertNew (ha : Allocated s s.allocateHandle.1 s.allocateHandle.2)
    (record : EntityHandle → EntityRecord F) (h' : EntityHandle) :
    (s.insertNew record).2.get h'
      = if h' = (s.insertNew record).1 then some (record (s.insertNew record).1)
        else s.get h' := by
  rw [← ha.get_eq h']
  exact get_fillSlot ha.generation (List.getElem?_eq_some_iff.mp ha.slot).1 h'

lemma get_insertNew (record : EntityHandle → EntityRecord F) (inv : s.StoreInv)
    (h' : EntityHandle) :
    (s.insertNew record).2.get h'
      = if h' = (s.insertNew record).1 then some (record (s.insertNew record).1)
        else s.get h' :=
  inv.allocateHandle.get_insertNew record h'

@[simp] lemma config_insertNew (s : Station F) :
    (s.insertNew record).2.config = s.config := by
  unfold insertNew allocateHandle
  cases s.free <;> rfl

@[simp] lemma tick_insertNew (s : Station F) : (s.insertNew record).2.tick = s.tick := by
  unfold insertNew allocateHandle
  cases s.free <;> rfl

@[simp] lemma ownerEpoch_insertNew (s : Station F) :
    (s.insertNew record).2.ownerEpoch = s.ownerEpoch := by
  unfold insertNew allocateHandle
  cases s.free <;> rfl

lemma StoreInv.insertNew (inv : s.StoreInv) {id : EntityId} (hnew : s.byId.lookup id = none)
    (hid : ∀ h, (record h).id = id) (hhandle : ∀ h, (record h).handle = h) :
    (s.insertNew record).2.StoreInv := by
  have ha := inv.allocateHandle
  have hby := byId_insertNew record inv
  have hget := get_insertNew record inv
  have hfresh : s.get (s.insertNew record).1 = none := ha.get_eq_none
  rw [hid] at hby
  refine ⟨?_, ha.free_nodup, ?_, ?_, ?_⟩
  · simp [Station.insertNew, insertAllocated, ha.lengths]
  · intro i
    show i ∈ s.allocateHandle.2.free ↔ _
    rw [ha.mem_free]
    by_cases hi : s.allocateHandle.1.index = i
    · subst hi
      obtain ⟨hlt, _⟩ := List.getElem?_eq_some_iff.mp ha.slot
      simp [Station.insertNew, insertAllocated, hlt]
    · simp [Station.insertNew, insertAllocated, List.getElem?_set_ne hi, Ne.symm hi]
  · intro id' h' hlook
    rw [hby, Finmap.lookup_insert_eq] at hlook
    rw [hget]
    split_ifs at hlook with hi
    · rw [Option.some.injEq] at hlook
      exact ⟨record _, by rw [if_pos hlook.symm], by rw [hid, hi]⟩
    · obtain ⟨r', hget', hid'⟩ := inv.get_of_id id' h' hlook
      refine ⟨r', ?_, hid'⟩
      rw [if_neg, hget']
      rintro rfl
      rw [hfresh] at hget'
      exact absurd hget' (by simp)
  · intro h' r' hget'
    rw [hget] at hget'
    rw [hby, Finmap.lookup_insert_eq]
    split_ifs at hget' with hh
    · rw [Option.some.injEq] at hget'
      subst hget'
      exact ⟨by rw [if_pos (hid _), hh], by rw [hhandle, hh]⟩
    · have hold := inv.id_of_get h' r' hget'
      rw [if_neg]
      · exact hold
      · intro heq
        rw [heq, hnew] at hold
        exact absurd hold.1 (by simp)

/-- Storing a new record is an update of the record map at its id. -/
lemma StoreInv.getById_insertNew (inv : s.StoreInv) {id : EntityId}
    (hid : ∀ h, (record h).id = id) (id' : EntityId) :
    (s.insertNew record).2.getById id'
      = if id' = id then some (record (s.insertNew record).1) else s.getById id' := by
  have hby := byId_insertNew record inv
  have hget := get_insertNew record inv
  have hfresh : s.get (s.insertNew record).1 = none := inv.allocateHandle.get_eq_none
  rw [hid] at hby
  rw [getById, hby, Finmap.lookup_insert_eq]
  by_cases hi : id' = id
  · rw [if_pos hi, if_pos hi, Option.bind_some, hget, if_pos rfl]
  · rw [if_neg hi, if_neg hi, getById]
    cases hlook : s.byId.lookup id' with
    | none => rfl
    | some h' =>
        rw [Option.bind_some, Option.bind_some, hget, if_neg]
        rintro rfl
        obtain ⟨r', hget', _⟩ := inv.get_of_id id' _ hlook
        rw [hfresh] at hget'
        exact absurd hget' (by simp)

end Insert

/-! ## Clearing a slot -/

section Remove

variable {s : Station F} {h : EntityHandle} {r : EntityRecord F}

/-- What a successful removal leaves. -/
lemma remove_eq (hget : s.get h = some r) :
    s.remove h = (.ok r,
      { s with
        records := s.records.set h.index none
        byId := s.byId.erase r.id
        generations := s.generations.set h.index (h.generation.saturatingAdd 1)
        free := h.index :: s.free }) := by
  rw [remove, hget]

lemma get_remove (hget : s.get h = some r) (h' : EntityHandle) :
    (s.remove h).2.get h' = if h'.index = h.index then none else s.get h' := by
  rw [remove_eq hget]
  obtain ⟨hgen, hrec⟩ := get_eq_some.mp hget
  obtain ⟨hlt, _⟩ := List.getElem?_eq_some_iff.mp hrec
  by_cases hi : h'.index = h.index
  · rw [if_pos hi, get, hi]
    have hltg : h.index < s.generations.length := (List.getElem?_eq_some_iff.mp hgen).1
    simp [hltg, hlt]
  · rw [if_neg hi]
    have hne : h.index ≠ h'.index := fun heq => hi heq.symm
    simp [get, List.getElem?_set_ne hne]

/-- Two live handles of one slot are equal. -/
lemma handle_eq_of_index {h' : EntityHandle} {r' : EntityRecord F} (hget : s.get h = some r)
    (hget' : s.get h' = some r') (hi : h'.index = h.index) : h' = h := by
  obtain ⟨hgen, _⟩ := get_eq_some.mp hget
  obtain ⟨hgen', _⟩ := get_eq_some.mp hget'
  rw [hi, hgen, Option.some.injEq] at hgen'
  cases h; cases h'
  simp_all

lemma StoreInv.remove (inv : s.StoreInv) (hget : s.get h = some r) :
    (s.remove h).2.StoreInv := by
  have hread := get_remove hget
  obtain ⟨_, hrec⟩ := get_eq_some.mp hget
  obtain ⟨hlt, _⟩ := List.getElem?_eq_some_iff.mp hrec
  rw [remove_eq hget] at hread ⊢
  refine ⟨by simp [inv.lengths], ?_, ?_, ?_, ?_⟩
  · rw [List.nodup_cons, inv.mem_free]
    exact ⟨by simp [hrec], inv.free_nodup⟩
  · intro i
    by_cases hi : h.index = i
    · subst hi
      simp [hlt]
    · have hi' : i ≠ h.index := fun heq => hi heq.symm
      simp [hi', List.getElem?_set_ne hi, inv.mem_free i]
  · intro id h' hlook
    dsimp only at hlook
    rw [Finmap.lookup_erase_eq] at hlook
    split_ifs at hlook with hid
    obtain ⟨r', hget', hid'⟩ := inv.get_of_id id h' hlook
    refine ⟨r', ?_, hid'⟩
    rw [hread, if_neg, hget']
    intro hi
    have hh := handle_eq_of_index hget hget' hi
    subst hh
    rw [hget, Option.some.injEq] at hget'
    exact hid (by rw [← hid', hget'])
  · intro h' r' hget'
    rw [hread] at hget'
    split_ifs at hget' with hi
    have hold := inv.id_of_get h' r' hget'
    refine ⟨?_, hold.2⟩
    dsimp only
    rw [Finmap.lookup_erase_eq, if_neg, hold.1]
    intro hid
    exact hi (by rw [inv.handle_eq hget' hget hid])

/-- Removing a record is an erasure of the record map at its id. -/
lemma StoreInv.getById_remove (inv : s.StoreInv) (hget : s.get h = some r) (id : EntityId) :
    (s.remove h).2.getById id = if id = r.id then none else s.getById id := by
  have hread := get_remove hget
  rw [remove_eq hget] at hread ⊢
  rw [getById, getById]
  dsimp only
  rw [Finmap.lookup_erase_eq]
  by_cases hid : id = r.id
  · rw [if_pos hid, if_pos hid, Option.bind_none]
  · rw [if_neg hid, if_neg hid]
    cases hlook : s.byId.lookup id with
    | none => rfl
    | some h' =>
        rw [Option.bind_some, Option.bind_some, hread, if_neg]
        intro hi
        obtain ⟨r', hget', hid'⟩ := inv.get_of_id id h' hlook
        have hh := handle_eq_of_index hget hget' hi
        subst hh
        rw [hget, Option.some.injEq] at hget'
        exact hid (by rw [← hid', hget'])

end Remove

end Station

end SectorSync
