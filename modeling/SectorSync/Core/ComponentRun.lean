import SectorSync.Base.Run
import SectorSync.Core.Component
import Mathlib.Data.Set.Finite.Lattice

/-!
# Component stores over runs

The rest of the operations of `component.rs` that change a store, the registry that a migration
copy reads, and all of them as one step function.  A store stands for the map `blobs` from
component id and entity handle to blob; `BlobMap.step` says what an operation does to that map, and
`component_store_refines` that every run does the same to the columns.
-/

namespace SectorSync

open Machine

/-- Component registry error. -/
inductive ComponentRegistryError where
  | duplicateId (id : ComponentId)
  | duplicateName (name : String)
  deriving DecidableEq

/-- Dense component descriptor registry: a descriptor is stored at the index of its id. -/
structure ComponentRegistry where
  descriptors : List (Option ComponentDescriptor)
  index_eq : ∀ {i : ℕ} {descriptor : ComponentDescriptor},
    descriptors[i]? = some (some descriptor) → descriptor.id.get.toNat = i

namespace ComponentRegistry

/-- `ComponentRegistry::default`. -/
def default : ComponentRegistry := ⟨[], by simp⟩

/-- Gets a descriptor by component id. -/
def get (registry : ComponentRegistry) (id : ComponentId) : Option ComponentDescriptor :=
  (registry.descriptors[id.get.toNat]?).join

/-- The descriptors in the order of their ids. -/
def iter (registry : ComponentRegistry) : List ComponentDescriptor :=
  registry.descriptors.filterMap id

/-- The descriptors after growing them to the index of the descriptor and storing it there. -/
def putDescriptor (descriptors : List (Option ComponentDescriptor))
    (descriptor : ComponentDescriptor) : List (Option ComponentDescriptor) :=
  let index := descriptor.id.get.toNat
  (descriptors ++ List.replicate (index + 1 - descriptors.length) none).set index (some descriptor)

lemma index_putDescriptor (registry : ComponentRegistry) (descriptor : ComponentDescriptor) {i : ℕ}
    {found : ComponentDescriptor}
    (h : (putDescriptor registry.descriptors descriptor)[i]? = some (some found)) :
    found.id.get.toNat = i := by
  rw [putDescriptor, List.getElem?_set] at h
  split_ifs at h with hi hlt
  · cases h
    exact hi
  · rw [List.getElem?_append] at h
    split_ifs at h with hlt
    · exact registry.index_eq h
    · rw [List.getElem?_replicate] at h
      split_ifs at h
      cases h

/-- Registers a component descriptor. -/
def register (registry : ComponentRegistry) (descriptor : ComponentDescriptor) :
    Except ComponentRegistryError Unit × ComponentRegistry :=
  if (registry.get descriptor.id).isSome then (.error (.duplicateId descriptor.id), registry)
  else if registry.iter.any fun existing => existing.name = descriptor.name then
    (.error (.duplicateName descriptor.name), registry)
  else
    (.ok (), ⟨putDescriptor registry.descriptors descriptor,
      registry.index_putDescriptor descriptor⟩)

/-- The registered descriptors are those that are found under their ids. -/
lemma mem_iter {registry : ComponentRegistry} {descriptor : ComponentDescriptor} :
    descriptor ∈ registry.iter ↔ registry.get descriptor.id = some descriptor := by
  simp only [iter, get, List.mem_filterMap, id_eq, exists_eq_right, Option.join_eq_some_iff]
  constructor
  · intro h
    obtain ⟨i, hi⟩ := List.mem_iff_getElem?.mp h
    rw [registry.index_eq hi]
    exact hi
  · exact List.mem_of_getElem?

lemma id_of_get {registry : ComponentRegistry} {id : ComponentId}
    {descriptor : ComponentDescriptor} (h : registry.get id = some descriptor) :
    descriptor.id = id :=
  TypedId.get_injective (UInt16.toNat_inj.mp (registry.index_eq (Option.join_eq_some_iff.mp h)))

end ComponentRegistry

/-- Clears the dirty flag of the blob of the entity. -/
def ComponentColumn.clearDirty (column : ComponentColumn) (entity : EntityHandle) :
    ComponentColumn :=
  match column.values.lookup entity with
  | some blob =>
      if blob.dirty then ⟨column.values.insert entity { blob with dirty := false }⟩ else column
  | none => column

namespace ComponentStore

/-- Writes an opaque component blob. -/
def setBlob (store : ComponentStore) (descriptor : ComponentDescriptor) (entity : EntityHandle)
    (version : UInt64) (bytes : List UInt8) : Except ComponentStoreError Unit × ComponentStore :=
  match validateBlobWrite descriptor bytes.length with
  | .error error => (.error error, store)
  | .ok () => (.ok (), store.updateColumn descriptor.id fun column =>
      ⟨column.values.insert entity { version := version, dirty := true, bytes := bytes }⟩)

/-- Gets an opaque component blob and edits it in place. -/
def editBlob (store : ComponentStore) (componentId : ComponentId) (entity : EntityHandle)
    (edit : ComponentBlob → ComponentBlob) : ComponentStore :=
  match store.getBlob componentId entity with
  | none => store
  | some _ => store.updateColumn componentId fun column => ⟨column.values.modify entity edit⟩

/-- Clears dirty flags for all components on one entity; returns how many were set. -/
def clearDirtyForEntity (store : ComponentStore) (entity : EntityHandle) : ℕ × ComponentStore :=
  let isDirty := fun column : ComponentColumn => (column.values.lookup entity).any (·.dirty)
  let clearDirty := fun column : ComponentColumn => column.clearDirty entity
  (store.denseColumns.countP (Option.any isDirty)
      + store.sparseColumns.sortedKeys.countP
          fun id => (store.sparseColumns.lookup id).any isDirty,
    { denseColumns := store.denseColumns.map (Option.map clearDirty)
      sparseColumns := store.sparseColumns.mapValues clearDirty })

/-- The blobs of the entity in dense columns, the first of which has the index; `none` is the panic
at an index that is no component id. -/
def takeDense (entity : EntityHandle) :
    ℕ → List (Option ComponentColumn) → Option (List (ComponentId × ComponentBlob))
  | _, [] => some []
  | index, column :: columns =>
      match column.bind fun column => column.values.lookup entity with
      | none => takeDense entity (index + 1) columns
      | some blob =>
          if index < 2 ^ 16 then
            (takeDense entity (index + 1) columns).map ((⟨.ofNat index⟩, blob) :: ·)
          else none

/-- The blobs of the entity in sparse columns. -/
def takeSparse (entity : EntityHandle) (columns : BTreeMap ComponentId ComponentColumn) :
    List (ComponentId × ComponentBlob) :=
  columns.sortedKeys.filterMap fun id =>
    ((columns.lookup id).bind fun column => column.values.lookup entity).map fun blob => (id, blob)

/-- Removes all component blobs into caller-owned reusable output storage; returns how many there
were. -/
def removeEntityInto (store : ComponentStore) (entity : EntityHandle)
    (removed : List (ComponentId × ComponentBlob)) :
    Option (ℕ × List (ComponentId × ComponentBlob) × ComponentStore) :=
  let remove := fun column : ComponentColumn => column.remove entity
  let removed := removed.take 0
  (takeDense entity 0 store.denseColumns).map fun dense =>
    let removed := removed ++ dense
    let removed := removed ++ takeSparse entity store.sparseColumns
    (removed.length, removed,
      { denseColumns := store.denseColumns.map (Option.map remove)
        sparseColumns := store.sparseColumns.mapValues remove })

/-- Copies the blob of one registered component, if it is migratable and there is one. -/
def copyBlob (source target : EntityHandle) (state : ℕ × ComponentStore)
    (descriptor : ComponentDescriptor) : ℕ × ComponentStore :=
  if descriptor.migration ≠ .copy then state
  else
    match state.2.getBlob descriptor.id source with
    | none => state
    | some blob => (state.1 + 1, state.2.updateColumn descriptor.id fun column =>
        ⟨column.values.insert target blob⟩)

/-- Copies migratable component blobs from one entity handle to another; returns how many. -/
def copyForMigration (store : ComponentStore) (registry : ComponentRegistry)
    (source target : EntityHandle) : ℕ × ComponentStore :=
  registry.iter.foldl (copyBlob source target) (0, store)

end ComponentStore

/-- The operations that change a component store. -/
inductive ComponentOp where
  | setBlob (descriptor : ComponentDescriptor) (entity : EntityHandle) (version : UInt64)
      (bytes : List UInt8)
  | setBlobFromSlice (descriptor : ComponentDescriptor) (entity : EntityHandle)
      (version : UInt64) (bytes : List UInt8)
  /-- Edits a blob through `get_blob_mut`. -/
  | editBlob (componentId : ComponentId) (entity : EntityHandle)
      (edit : ComponentBlob → ComponentBlob)
  | clearDirtyForEntity (entity : EntityHandle)
  | removeEntityInto (entity : EntityHandle) (removed : List (ComponentId × ComponentBlob))
  | clearEntity (entity : EntityHandle)
  | copyForMigration (registry : ComponentRegistry) (source target : EntityHandle)

/-- The store after one operation; `none` is a panic. -/
def ComponentStore.step (store : ComponentStore) : ComponentOp → Option ComponentStore
  | .setBlob descriptor entity version bytes =>
      some (store.setBlob descriptor entity version bytes).2
  | .setBlobFromSlice descriptor entity version bytes =>
      some (store.setBlobFromSlice descriptor entity version bytes).2
  | .editBlob componentId entity edit => some (store.editBlob componentId entity edit)
  | .clearDirtyForEntity entity => some (store.clearDirtyForEntity entity).2
  | .removeEntityInto entity removed =>
      (store.removeEntityInto entity removed).map fun result => result.2.2
  | .clearEntity entity => some (store.clearEntity entity).2
  | .copyForMigration registry source target =>
      some (store.copyForMigration registry source target).2

/-! ## The map a store stands for -/

/-- A map from component and entity to the blob written last. -/
abbrev BlobMap := ComponentId → EntityHandle → Option ComponentBlob

namespace BlobMap

/-- Writes a blob if the descriptor allows it. -/
def write (blobs : BlobMap) (descriptor : ComponentDescriptor) (entity : EntityHandle)
    (version : UInt64) (bytes : List UInt8) : BlobMap := fun id h =>
  if validateBlobWrite descriptor bytes.length = .ok () ∧ id = descriptor.id ∧ h = entity then
    some { version := version, dirty := true, bytes := bytes }
  else blobs id h

/-- Drops the blobs of an entity. -/
def drop (blobs : BlobMap) (entity : EntityHandle) : BlobMap := fun id h =>
  if h = entity then none else blobs id h

/-- Copies the source's blobs of the registered components that migrate by copy. -/
def copy (blobs : BlobMap) (registry : ComponentRegistry) (source target : EntityHandle) :
    BlobMap := fun id h =>
  if h = target ∧ (registry.get id).any fun descriptor => descriptor.migration = .copy then
    (blobs id source).or (blobs id h)
  else blobs id h

/-- What an operation does to the map. -/
def step (blobs : BlobMap) : ComponentOp → BlobMap
  | .setBlob descriptor entity version bytes => blobs.write descriptor entity version bytes
  | .setBlobFromSlice descriptor entity version bytes =>
      blobs.write descriptor entity version bytes
  | .editBlob componentId entity edit => fun id h =>
      if id = componentId ∧ h = entity then (blobs id h).map edit else blobs id h
  | .clearDirtyForEntity entity => fun id h =>
      if h = entity then (blobs id h).map fun blob => { blob with dirty := false } else blobs id h
  | .removeEntityInto entity _ => blobs.drop entity
  | .clearEntity entity => blobs.drop entity
  | .copyForMigration registry source target => blobs.copy registry source target

end BlobMap

namespace ComponentStore

/-- The map the columns stand for. -/
def blobs (store : ComponentStore) : BlobMap := store.getBlob

/-- The dense columns are those of the ids below the limit, and the sparse ones have ids from the
limit on. -/
structure WellFormed (store : ComponentStore) : Prop where
  dense : store.denseColumns.length ≤ denseComponentColumnLimit
  sparse : ∀ id ∈ store.sparseColumns.keys, denseComponentColumnLimit ≤ id.get.toNat

lemma wellFormed_default : WellFormed default := by
  constructor
  · simp [default]
  · simp [default]

variable {store : ComponentStore}

lemma WellFormed.updateColumn (h : store.WellFormed) (componentId : ComponentId)
    (f : ComponentColumn → ComponentColumn) : (store.updateColumn componentId f).WellFormed := by
  obtain ⟨hdense, hsparse⟩ := h
  by_cases hlt : componentId.get.toNat < denseComponentColumnLimit
  · simp only [ComponentStore.updateColumn, hlt, if_true]
    refine ⟨?_, hsparse⟩
    simp only [List.length_set, List.length_append, List.length_replicate]
    omega
  · simp only [ComponentStore.updateColumn, hlt, if_false]
    refine ⟨hdense, fun id hid => ?_⟩
    rw [Finmap.keys_insert, Finset.mem_insert] at hid
    rcases hid with rfl | hid
    · exact not_lt.mp hlt
    · exact hsparse id hid

lemma WellFormed.map (h : store.WellFormed) (f : ComponentColumn → ComponentColumn) :
    WellFormed { denseColumns := store.denseColumns.map (Option.map f)
                 sparseColumns := store.sparseColumns.mapValues f } := by
  refine ⟨by simpa using h.dense, fun id hid => h.sparse id ?_⟩
  rw [Finmap.mem_keys_iff_lookup] at hid ⊢
  obtain ⟨column, hcolumn⟩ := hid
  rw [Finmap.lookup_mapValues, Option.map_eq_some_iff] at hcolumn
  obtain ⟨old, hold, -⟩ := hcolumn
  exact ⟨old, hold⟩

/-! ## Reading after a change -/

section Reading

variable {f : ComponentColumn → ComponentColumn} {entity : EntityHandle}
  {e : Option ComponentBlob → Option ComponentBlob}

/-- A change of one column that edits the entry of one entity edits one blob. -/
lemma getBlob_updateColumn (hf : ∀ column h, (f column).values.lookup h
      = if h = entity then e (column.values.lookup h) else column.values.lookup h)
    (store : ComponentStore) (componentId id : ComponentId) (h : EntityHandle) :
    (store.updateColumn componentId f).getBlob id h
      = if id = componentId ∧ h = entity then e (store.getBlob id h)
        else store.getBlob id h := by
  rw [getBlob, column_updateColumn, getBlob]
  by_cases hid : id = componentId
  · subst hid
    rw [if_pos rfl, Option.bind_some, hf]
    cases store.column id with
    | none => simp [ComponentColumn.default]
    | some column => simp
  · rw [if_neg hid, if_neg fun h => hid h.1]

/-- A change of every column that edits the entry of one entity edits its blobs. -/
lemma getBlob_map (hf : ∀ column h, (f column).values.lookup h
      = if h = entity then e (column.values.lookup h) else column.values.lookup h)
    (hnone : e none = none) (store : ComponentStore) (id : ComponentId) (h : EntityHandle) :
    getBlob { denseColumns := store.denseColumns.map (Option.map f)
              sparseColumns := store.sparseColumns.mapValues f } id h
      = if h = entity then e (store.getBlob id h) else store.getBlob id h := by
  rw [getBlob, column_map, getBlob]
  cases store.column id with
  | none => simp [hnone]
  | some column => exact hf column h

end Reading

lemma lookup_clearDirty (column : ComponentColumn) (entity h : EntityHandle) :
    (column.clearDirty entity).values.lookup h
      = if h = entity then (column.values.lookup h).map fun blob => { blob with dirty := false }
        else column.values.lookup h := by
  by_cases hh : h = entity
  · subst hh
    unfold ComponentColumn.clearDirty
    cases hlookup : column.values.lookup h with
    | none => simpa using hlookup
    | some blob =>
        cases hdirty : blob.dirty with
        | true => simp [hdirty]
        | false =>
            obtain ⟨version, dirty, bytes⟩ := blob
            subst hdirty
            simpa using hlookup
  · unfold ComponentColumn.clearDirty
    rw [if_neg hh]
    cases column.values.lookup entity with
    | none => rfl
    | some blob => cases hdirty : blob.dirty <;> simp [hdirty, hh]

/-! ## What each operation does -/

/-- Whether the old bytes are reused or not, the same blob is written. -/
lemma setBlobFromSlice_eq (store : ComponentStore) (descriptor : ComponentDescriptor)
    (entity : EntityHandle) (version : UInt64) (bytes : List UInt8) :
    store.setBlobFromSlice descriptor entity version bytes
      = store.setBlob descriptor entity version bytes := by
  have hwrite : ∀ column : ComponentColumn, column.write entity version bytes
      = ⟨column.values.insert entity { version := version, dirty := true, bytes := bytes }⟩ := by
    intro column
    unfold ComponentColumn.write
    cases column.values.lookup entity with
    | none => rfl
    | some blob => rfl
  unfold setBlobFromSlice setBlob
  cases validateBlobWrite descriptor bytes.length with
  | error error => rfl
  | ok valid => simp only [hwrite]

lemma setBlob_spec (h : store.WellFormed) (descriptor : ComponentDescriptor)
    (entity : EntityHandle) (version : UInt64) (bytes : List UInt8) :
    (store.setBlob descriptor entity version bytes).2.WellFormed
      ∧ (store.setBlob descriptor entity version bytes).2.blobs
        = store.blobs.write descriptor entity version bytes := by
  cases hvalid : validateBlobWrite descriptor bytes.length with
  | error error =>
      simp only [setBlob, hvalid]
      refine ⟨h, ?_⟩
      funext id handle
      simp [BlobMap.write, hvalid]
  | ok valid =>
      simp only [setBlob, hvalid]
      refine ⟨h.updateColumn _ _, ?_⟩
      funext id handle
      simp only [BlobMap.write, hvalid, true_and]
      exact getBlob_updateColumn (e := fun _ => some ⟨version, true, bytes⟩)
        (fun column handle => Finmap.lookup_insert_eq _ _ _ _) store descriptor.id id handle

lemma editBlob_spec (h : store.WellFormed) (componentId : ComponentId) (entity : EntityHandle)
    (edit : ComponentBlob → ComponentBlob) :
    (store.editBlob componentId entity edit).WellFormed
      ∧ (store.editBlob componentId entity edit).blobs
        = store.blobs.step (.editBlob componentId entity edit) := by
  unfold editBlob
  cases hblob : store.getBlob componentId entity with
  | none =>
      refine ⟨h, ?_⟩
      funext id handle
      simp only [BlobMap.step, blobs]
      split_ifs with hat
      · rw [hat.1, hat.2, hblob, Option.map_none]
      · rfl
  | some blob =>
      refine ⟨h.updateColumn _ _, ?_⟩
      funext id handle
      refine getBlob_updateColumn (e := Option.map edit) (fun column handle => ?_) store
        componentId id handle
      rw [Finmap.lookup_modify]
      split_ifs with hhandle
      · rw [hhandle]
      · rfl

lemma clearDirtyForEntity_spec (h : store.WellFormed) (entity : EntityHandle) :
    (store.clearDirtyForEntity entity).2.WellFormed
      ∧ (store.clearDirtyForEntity entity).2.blobs
        = store.blobs.step (.clearDirtyForEntity entity) := by
  refine ⟨h.map _, ?_⟩
  funext id handle
  exact getBlob_map (fun column handle => lookup_clearDirty column entity handle) rfl store id
    handle

lemma clearEntity_spec (h : store.WellFormed) (entity : EntityHandle) :
    (store.clearEntity entity).2.WellFormed
      ∧ (store.clearEntity entity).2.blobs = store.blobs.drop entity := by
  refine ⟨h.map _, ?_⟩
  funext id handle
  exact getBlob_clearEntity store entity id handle

/-- The fold over the registered descriptors.  The source's blobs stay as they were, also when the
target is the source. -/
lemma foldl_copyBlob_spec (h : store.WellFormed) (source target : EntityHandle) (copied : ℕ)
    (descriptors : List ComponentDescriptor) :
    (descriptors.foldl (copyBlob source target) (copied, store)).2.WellFormed
      ∧ ∀ id handle,
        (descriptors.foldl (copyBlob source target) (copied, store)).2.getBlob id handle
        = if handle = target ∧ ∃ d ∈ descriptors, d.id = id ∧ d.migration = .copy then
            (store.getBlob id source).or (store.getBlob id handle)
          else store.getBlob id handle := by
  induction descriptors generalizing store copied with
  | nil => exact ⟨h, fun id handle => by simp⟩
  | cons descriptor descriptors ih =>
      rw [List.foldl_cons]
      by_cases hcopy : descriptor.migration = .copy
      · cases hblob : store.getBlob descriptor.id source with
        | none =>
            have hstep : copyBlob source target (copied, store) descriptor = (copied, store) := by
              simp [copyBlob, hblob]
            rw [hstep]
            refine ⟨(ih h copied).1, fun id handle => ?_⟩
            rw [(ih h copied).2]
            by_cases hid : descriptor.id = id
            · subst hid
              simp [hblob]
            · simp [hid]
        | some blob =>
            have hstep : copyBlob source target (copied, store) descriptor
                = (copied + 1, store.updateColumn descriptor.id fun column =>
                    ⟨column.values.insert target blob⟩) := by
              simp [copyBlob, hblob, hcopy]
            have hget := getBlob_updateColumn (e := fun _ => some blob)
              (f := fun column => ⟨column.values.insert target blob⟩)
              (fun column handle => Finmap.lookup_insert_eq _ _ _ _) store descriptor.id
            rw [hstep]
            refine ⟨(ih (h.updateColumn _ _) _).1, fun id handle => ?_⟩
            rw [(ih (h.updateColumn _ _) _).2, hget, hget]
            by_cases hid : descriptor.id = id
            · subst hid
              by_cases hhandle : handle = target
              · by_cases hsource : source = target
                · subst hsource
                  simp [hhandle, hcopy, hblob]
                · simp [hhandle, hsource, hcopy, hblob]
              · simp [hhandle]
            · simp [hid, Ne.symm hid]
      · have hstep : copyBlob source target (copied, store) descriptor = (copied, store) := by
          simp [copyBlob, hcopy]
        rw [hstep]
        refine ⟨(ih h copied).1, fun id handle => ?_⟩
        rw [(ih h copied).2]
        simp [hcopy]

lemma copyForMigration_spec (h : store.WellFormed) (registry : ComponentRegistry)
    (source target : EntityHandle) :
    (store.copyForMigration registry source target).2.WellFormed
      ∧ (store.copyForMigration registry source target).2.blobs
        = store.blobs.copy registry source target := by
  obtain ⟨hwell, hget⟩ := foldl_copyBlob_spec h source target 0 registry.iter
  refine ⟨hwell, ?_⟩
  funext id handle
  have hregistered : (∃ d ∈ registry.iter, d.id = id ∧ d.migration = .copy)
      ↔ (registry.get id).any (fun d => d.migration = .copy) = true := by
    rw [Option.any_eq_true]
    constructor
    · rintro ⟨d, hd, rfl, hcopy⟩
      exact ⟨d, ComponentRegistry.mem_iter.mp hd, by simpa using hcopy⟩
    · rintro ⟨d, hd, hcopy⟩
      have hid := ComponentRegistry.id_of_get hd
      exact ⟨d, ComponentRegistry.mem_iter.mpr (by rwa [hid]), hid, by simpa using hcopy⟩
  rw [blobs, copyForMigration, hget]
  simp only [hregistered, BlobMap.copy, blobs]

/-- The dense columns list the blobs of the entity in ascending order of the ids. -/
lemma takeDense_spec (entity : EntityHandle) (index : ℕ) (columns : List (Option ComponentColumn))
    (h : index + columns.length ≤ 2 ^ 16) :
    ∃ removed, takeDense entity index columns = some removed
      ∧ removed.Pairwise (fun a b => a.1 < b.1)
      ∧ ∀ id blob, (id, blob) ∈ removed ↔ ∃ i, id.get.toNat = index + i
          ∧ ((columns[i]?).join.bind fun column => column.values.lookup entity) = some blob := by
  induction columns generalizing index with
  | nil => exact ⟨[], rfl, List.Pairwise.nil, by simp⟩
  | cons column columns ih =>
      rw [List.length_cons] at h
      have hlt : index < 2 ^ 16 := by omega
      obtain ⟨removed, hremoved, hascending, hmem⟩ := ih (index + 1) (by omega)
      -- an entry of the later columns, with its index counted from the first column
      have hlater : ∀ id blob, (id, blob) ∈ removed ↔ ∃ i, id.get.toNat = index + (i + 1)
          ∧ ((((column :: columns)[i + 1]?).join.bind fun column => column.values.lookup entity)
            = some blob) := by
        intro id blob
        rw [hmem]
        simp only [List.getElem?_cons_succ, Nat.add_assoc, Nat.add_comm 1]
      cases hblob : column.bind fun column => column.values.lookup entity with
      | none =>
          refine ⟨removed, by simp [takeDense, hblob, hremoved], hascending, fun id blob => ?_⟩
          rw [hlater]
          constructor
          · rintro ⟨i, hi⟩
            exact ⟨i + 1, hi⟩
          · rintro ⟨i, hi, hlookup⟩
            cases i with
            | zero => simp [hblob] at hlookup
            | succ i => exact ⟨i, hi, hlookup⟩
      | some blob =>
          have hindex : (UInt16.ofNat index).toNat = index := UInt16.toNat_ofNat_of_lt hlt
          refine ⟨(⟨.ofNat index⟩, blob) :: removed, ?_, ?_, fun id blob' => ?_⟩
          · simp only [takeDense, hblob, hremoved, hlt, if_true, Option.map_some]
          · refine List.pairwise_cons.mpr ⟨?_, hascending⟩
            rintro ⟨id, later⟩ hentry
            obtain ⟨i, hi, -⟩ := (hlater id later).mp hentry
            rw [TypedId.lt_iff_get_lt, UInt16.lt_iff_toNat_lt, hindex, hi]
            omega
          · rw [List.mem_cons, hlater]
            constructor
            · rintro (heq | ⟨i, hi⟩)
              · cases heq
                exact ⟨0, hindex, by simpa using hblob⟩
              · exact ⟨i + 1, hi⟩
            · rintro ⟨i, hi, hlookup⟩
              cases i with
              | zero =>
                  refine Or.inl (Prod.ext (TypedId.get_injective (UInt16.toNat_inj.mp ?_)) ?_)
                  · exact hi.trans hindex.symm
                  · simpa [hblob, eq_comm] using hlookup
              | succ i => exact Or.inr ⟨i, hi, hlookup⟩

lemma countP_takeDense (accept : ComponentBlob → Bool) {entity : EntityHandle} {index : ℕ}
    {columns : List (Option ComponentColumn)} {removed : List (ComponentId × ComponentBlob)}
    (h : takeDense entity index columns = some removed) :
    removed.countP (fun entry => accept entry.2)
      = columns.countP (Option.any fun column => (column.values.lookup entity).any accept) := by
  induction columns generalizing index removed with
  | nil =>
      cases h
      rfl
  | cons column columns ih =>
      have hany : column.any (fun column => (column.values.lookup entity).any accept)
          = (column.bind fun column => column.values.lookup entity).any accept := by
        cases column with
        | none => rfl
        | some column => rfl
      rw [List.countP_cons, hany]
      rw [takeDense] at h
      cases hblob : column.bind fun column => column.values.lookup entity with
      | none =>
          rw [hblob] at h
          simp [ih h]
      | some blob =>
          simp only [hblob] at h
          split_ifs at h
          obtain ⟨rest, hrest, rfl⟩ := Option.map_eq_some_iff.mp h
          rw [List.countP_cons, ih hrest]
          rfl

/-- So do the sparse ones. -/
lemma takeSparse_spec (entity : EntityHandle) (columns : BTreeMap ComponentId ComponentColumn) :
    (takeSparse entity columns).Pairwise (fun a b => a.1 < b.1)
      ∧ ∀ id blob, (id, blob) ∈ takeSparse entity columns
          ↔ ((columns.lookup id).bind fun column => column.values.lookup entity) = some blob := by
  constructor
  · refine List.Pairwise.filterMap _ ?_ columns.pairwise_sortedKeys
    intro id later hlt entry hentry entry' hentry'
    simp only [Option.map_eq_some_iff] at hentry hentry'
    obtain ⟨-, -, rfl⟩ := hentry
    obtain ⟨-, -, rfl⟩ := hentry'
    exact hlt
  · intro id blob
    simp only [takeSparse, List.mem_filterMap, Finmap.mem_sortedKeys, Option.map_eq_some_iff,
      Prod.mk.injEq]
    constructor
    · rintro ⟨id, hid, blob, hlookup, rfl, rfl⟩
      exact hlookup
    · intro hlookup
      obtain ⟨column, hcolumn, -⟩ := Option.bind_eq_some_iff.mp hlookup
      exact ⟨id, Finmap.mem_keys_iff_lookup.mpr ⟨column, hcolumn⟩, blob, hlookup, rfl, rfl⟩

lemma countP_takeSparse (accept : ComponentBlob → Bool) (entity : EntityHandle)
    (columns : BTreeMap ComponentId ComponentColumn) :
    (takeSparse entity columns).countP (fun entry => accept entry.2)
      = columns.sortedKeys.countP fun id => (columns.lookup id).any fun column =>
          (column.values.lookup entity).any accept := by
  rw [takeSparse, List.countP_filterMap]
  refine List.countP_congr fun id _ => ?_
  cases columns.lookup id with
  | none => simp
  | some column =>
      cases hlookup : column.values.lookup entity with
      | none => simp [hlookup]
      | some blob => simp [hlookup]

/-- What the operations on an entity do when its blobs are those of the list. -/
structure Lists (store : ComponentStore) (entity : EntityHandle)
    (removed : List (ComponentId × ComponentBlob)) : Prop where
  ascending : removed.Pairwise fun a b => a.1 < b.1
  mem_iff : ∀ id blob, (id, blob) ∈ removed ↔ store.getBlob id entity = some blob
  removeEntityInto : ∀ buffer, store.removeEntityInto entity buffer
    = some (removed.length, removed, (store.clearEntity entity).2)
  clearEntity : (store.clearEntity entity).1 = removed.length
  clearDirty : (store.clearDirtyForEntity entity).1 = removed.countP fun entry => entry.2.dirty

/-- An entry of a dense column has a small id. -/
lemma WellFormed.takeDense (h : store.WellFormed) (entity : EntityHandle) :
    ∃ dense, takeDense entity 0 store.denseColumns = some dense
      ∧ dense.Pairwise (fun a b => a.1 < b.1)
      ∧ ∀ id blob, (id, blob) ∈ dense
        ↔ id.get.toNat < denseComponentColumnLimit ∧ store.getBlob id entity = some blob := by
  have hdense := h.dense
  have hlimit : 0 + store.denseColumns.length ≤ 2 ^ 16 := by
    rw [denseComponentColumnLimit] at hdense
    omega
  obtain ⟨dense, htake, hascending, hmem⟩ := takeDense_spec entity 0 store.denseColumns hlimit
  refine ⟨dense, htake, hascending, fun id blob => ?_⟩
  rw [hmem]
  constructor
  · rintro ⟨i, hi, hlookup⟩
    obtain ⟨column, hcolumn, -⟩ := Option.bind_eq_some_iff.mp hlookup
    obtain ⟨hlt, -⟩ := List.getElem?_eq_some_iff.mp (Option.join_eq_some_iff.mp hcolumn)
    have hsmall : id.get.toNat < denseComponentColumnLimit := by omega
    refine ⟨hsmall, ?_⟩
    rw [getBlob, ComponentStore.column, if_pos hsmall, hi, Nat.zero_add]
    exact hlookup
  · rintro ⟨hsmall, hlookup⟩
    rw [getBlob, ComponentStore.column, if_pos hsmall] at hlookup
    exact ⟨id.get.toNat, by omega, hlookup⟩

/-- And one of a sparse column has a large one. -/
lemma WellFormed.mem_takeSparse (h : store.WellFormed) (entity : EntityHandle) (id : ComponentId)
    (blob : ComponentBlob) :
    (id, blob) ∈ takeSparse entity store.sparseColumns
      ↔ denseComponentColumnLimit ≤ id.get.toNat ∧ store.getBlob id entity = some blob := by
  rw [(takeSparse_spec entity store.sparseColumns).2]
  constructor
  · intro hlookup
    obtain ⟨column, hcolumn, -⟩ := Option.bind_eq_some_iff.mp hlookup
    have hlarge := h.sparse id (Finmap.mem_keys_iff_lookup.mpr ⟨column, hcolumn⟩)
    refine ⟨hlarge, ?_⟩
    rw [getBlob, ComponentStore.column, if_neg (not_lt.mpr hlarge)]
    exact hlookup
  · rintro ⟨hlarge, hlookup⟩
    rwa [getBlob, ComponentStore.column, if_neg (not_lt.mpr hlarge)] at hlookup

lemma WellFormed.exists_lists (h : store.WellFormed) (entity : EntityHandle) :
    ∃ removed, store.Lists entity removed := by
  obtain ⟨dense, htake, hascending, hmem⟩ := h.takeDense entity
  have hcount : ∀ accept : ComponentBlob → Bool,
      (dense ++ takeSparse entity store.sparseColumns).countP (fun entry => accept entry.2)
        = store.denseColumns.countP
              (Option.any fun column => (column.values.lookup entity).any accept)
          + store.sparseColumns.sortedKeys.countP fun id => (store.sparseColumns.lookup id).any
              fun column => (column.values.lookup entity).any accept := by
    intro accept
    rw [List.countP_append, countP_takeDense accept htake, countP_takeSparse]
  refine ⟨dense ++ takeSparse entity store.sparseColumns, ?_, fun id blob => ?_, fun buffer => ?_,
    ?_, ?_⟩
  · refine List.pairwise_append.mpr ⟨hascending, (takeSparse_spec entity _).1, ?_⟩
    rintro ⟨id, blob⟩ hentry ⟨id', blob'⟩ hentry'
    have hsmall := ((hmem id blob).mp hentry).1
    have hlarge := ((h.mem_takeSparse entity id' blob').mp hentry').1
    rw [TypedId.lt_iff_get_lt, UInt16.lt_iff_toNat_lt]
    exact lt_of_lt_of_le hsmall hlarge
  · rw [List.mem_append, hmem, h.mem_takeSparse, ← or_and_right]
    exact and_iff_right (lt_or_ge _ _)
  · simp [ComponentStore.removeEntityInto, htake, ComponentStore.clearEntity]
  · have hholds : ∀ column : ComponentColumn, column.holds entity
        = (column.values.lookup entity).any fun _ => true := by
      intro column
      rw [ComponentColumn.holds]
      cases column.values.lookup entity with
      | none => rfl
      | some blob => rfl
    have hall := hcount fun _ => true
    rw [List.countP_true] at hall
    rw [hall]
    simp only [ComponentStore.clearEntity, hholds]
  · exact (hcount (·.dirty)).symm

/-! ## Runs -/

lemma step_spec (h : store.WellFormed) (op : ComponentOp) :
    ∃ store', store.step op = some store' ∧ store'.WellFormed
      ∧ store'.blobs = store.blobs.step op := by
  cases op with
  | setBlob descriptor entity version bytes =>
      exact ⟨_, rfl, setBlob_spec h descriptor entity version bytes⟩
  | setBlobFromSlice descriptor entity version bytes =>
      refine ⟨_, rfl, ?_⟩
      rw [setBlobFromSlice_eq]
      exact setBlob_spec h descriptor entity version bytes
  | editBlob componentId entity edit => exact ⟨_, rfl, editBlob_spec h componentId entity edit⟩
  | clearDirtyForEntity entity => exact ⟨_, rfl, clearDirtyForEntity_spec h entity⟩
  | removeEntityInto entity buffer =>
      obtain ⟨removed, hlists⟩ := h.exists_lists entity
      refine ⟨(store.clearEntity entity).2, ?_, clearEntity_spec h entity⟩
      rw [step, hlists.removeEntityInto buffer, Option.map_some]
  | clearEntity entity => exact ⟨_, rfl, clearEntity_spec h entity⟩
  | copyForMigration registry source target =>
      exact ⟨_, rfl, copyForMigration_spec h registry source target⟩

/-- The pairs of component and entity that have a blob. -/
def held (store : ComponentStore) : Set (ComponentId × EntityHandle) :=
  {pair | (store.blobs pair.1 pair.2).isSome}

lemma finite_held (store : ComponentStore) : store.held.Finite := by
  have hids : Finite ComponentId :=
    Finite.of_injective (fun id : ComponentId => id.get.toFin) fun a b hab =>
      TypedId.get_injective (UInt16.toFin_inj.mp hab)
  have hcolumn : ∀ id : ComponentId, {pair ∈ store.held | pair.1 = id}.Finite := by
    intro id
    cases hcolumn : store.column id with
    | none =>
        refine Set.finite_empty.subset ?_
        rintro ⟨id, entity⟩ ⟨hheld, rfl⟩
        simp [held, blobs, getBlob, hcolumn] at hheld
    | some column =>
        refine ((column.values.keys.finite_toSet).image (Prod.mk id)).subset ?_
        rintro ⟨id, entity⟩ ⟨hheld, rfl⟩
        refine ⟨entity, ?_, rfl⟩
        rw [Finset.mem_coe, Finmap.mem_keys_iff_lookup, ← Option.isSome_iff_exists]
        simpa [held, blobs, getBlob, hcolumn] using hheld
  refine (Set.finite_iUnion hcolumn).subset fun pair hpair => ?_
  exact Set.mem_iUnion.mpr ⟨pair.1, hpair, rfl⟩

/-- What a store promises about its next operation. -/
structure Lawful (store : ComponentStore) : Prop where
  /-- The map is finite. -/
  finite : store.held.Finite
  /-- A write that fails validation changes nothing. -/
  refused : ∀ descriptor entity version bytes error,
    validateBlobWrite descriptor bytes.length = .error error →
      store.setBlob descriptor entity version bytes = (.error error, store)
  written : ∀ descriptor entity version bytes, validateBlobWrite descriptor bytes.length = .ok () →
    (store.setBlob descriptor entity version bytes).1 = .ok ()
  /-- The two writes have the same effect. -/
  alike : ∀ descriptor entity version bytes,
    store.setBlobFromSlice descriptor entity version bytes
      = store.setBlob descriptor entity version bytes
  lists : ∀ entity, ∃ removed, store.Lists entity removed

lemma WellFormed.lawful (h : store.WellFormed) : store.Lawful where
  finite := store.finite_held
  refused := by
    intro descriptor entity version bytes error hvalid
    simp only [setBlob, hvalid]
  written := by
    intro descriptor entity version bytes hvalid
    simp only [setBlob, hvalid]
  alike := store.setBlobFromSlice_eq
  lists := h.exists_lists

/-- **Component stores are maps.**  No run of the operations panics, it leaves in the columns what
it leaves in the map, and the store it ends in is lawful. -/
theorem component_store_refines (ops : List ComponentOp) :
    ∃ store, executeOption step default ops = some store
      ∧ store.blobs = execute BlobMap.step (fun _ _ => none) ops
      ∧ store.Lawful := by
  have hempty : default.blobs = fun _ _ => none := by
    funext id entity
    simp [blobs, getBlob, column, default]
  obtain ⟨store, hrun, hwell, hblobs⟩ := executeOption_simulates (fun _ op h => step_spec h op)
    wellFormed_default ops
  exact ⟨store, hrun, by rw [hblobs, hempty], hwell.lawful⟩

/-- A component whose blobs migrate. -/
def copiedComponent : ComponentDescriptor := ⟨⟨3⟩, "position", .sparseBlob, .delta, .copy, 16, 0⟩

-- a copy finds the blobs of the components that were registered
example : (executeOption step default [.setBlob copiedComponent ⟨0, 0⟩ 1 [5],
      .copyForMigration (ComponentRegistry.default.register copiedComponent).2 ⟨0, 0⟩ ⟨1, 0⟩]).bind
      (·.getBlob copiedComponent.id ⟨1, 0⟩) = some ⟨1, true, [5]⟩ := by
  decide +kernel

end ComponentStore

end SectorSync
