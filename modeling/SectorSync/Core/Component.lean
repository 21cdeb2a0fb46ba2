import SectorSync.Core.Ids

/-!
# Component blobs

The station-local component store of `component.rs`: one column of blobs by entity handle for
each component id, the columns of small ids in a vector and the rest in a map.  `getBlob` is the
map from component id and handle that the two make up; the lemmas below say what a write and a
clearing do to it.
-/

namespace SectorSync

/-- Component codec error. -/
inductive ComponentCodecError where
  | expectedBytes (expected actual : ℕ)
  deriving DecidableEq

/-- Storage strategy declared by a registered component. -/
inductive ComponentStorageKind where
  | sparseBlob
  | external
  deriving DecidableEq

/-- Synchronization behavior declared by a registered component. -/
inductive ComponentSyncMode where
  | notReplicated
  | delta
  | snapshot
  | eventOnly
  deriving DecidableEq

/-- Migration behavior declared by a registered component. -/
inductive ComponentMigrationMode where
  | copy
  | drop
  | external
  deriving DecidableEq

/-- Registered component descriptor. -/
structure ComponentDescriptor where
  id : ComponentId
  name : String
  storage : ComponentStorageKind
  sync : ComponentSyncMode
  migration : ComponentMigrationMode
  maxBytes : ℕ
  schemaHash : UInt64
  deriving DecidableEq

/-- Opaque component blob. -/
structure ComponentBlob where
  /-- Monotonic version selected by the writer. -/
  version : UInt64
  /-- Dirty flag used by replication planners. -/
  dirty : Bool
  bytes : List UInt8
  deriving DecidableEq

/-- Component storage error. -/
inductive ComponentStoreError where
  | notBlobStorage (id : ComponentId)
  | blobTooLarge (componentId : ComponentId) (actual max : ℕ)
  | codec (error : ComponentCodecError)
  | missingBlob (id : ComponentId)
  deriving DecidableEq

/-- The blobs of one component. -/
structure ComponentColumn where
  values : HashMap EntityHandle ComponentBlob

/-- Station-local sparse component blob store. -/
structure ComponentStore where
  denseColumns : List (Option ComponentColumn)
  sparseColumns : BTreeMap ComponentId ComponentColumn

/-- `DENSE_COMPONENT_COLUMN_LIMIT`. -/
def denseComponentColumnLimit : ℕ := 256

/-- `validate_blob_write`. -/
def validateBlobWrite (descriptor : ComponentDescriptor) (bytes : ℕ) :
    Except ComponentStoreError Unit :=
  if descriptor.storage ≠ .sparseBlob then .error (.notBlobStorage descriptor.id)
  else if bytes > descriptor.maxBytes then
    .error (.blobTooLarge descriptor.id bytes descriptor.maxBytes)
  else .ok ()

namespace ComponentColumn

/-- `ComponentColumn::default`. -/
def default : ComponentColumn := ⟨∅⟩

/-- Whether the entity has a blob. -/
def holds (column : ComponentColumn) (entity : EntityHandle) : Bool :=
  (column.values.lookup entity).isSome

/-- Drops the blob of the entity. -/
def remove (column : ComponentColumn) (entity : EntityHandle) : ComponentColumn :=
  ⟨column.values.erase entity⟩

/-- Copies bytes over the blob of the entity, or into a new one. -/
def write (column : ComponentColumn) (entity : EntityHandle) (version : UInt64)
    (bytes : List UInt8) : ComponentColumn :=
  match column.values.lookup entity with
  | some blob =>
      ⟨column.values.insert entity
        { blob with bytes := bytes, version := version, dirty := true }⟩
  | none => ⟨column.values.insert entity { version := version, dirty := true, bytes := bytes }⟩

end ComponentColumn

namespace ComponentStore

/-- `ComponentStore::default`. -/
def default : ComponentStore := ⟨[], ∅⟩

/-- `column`. -/
def column (store : ComponentStore) (componentId : ComponentId) : Option ComponentColumn :=
  let index := componentId.get.toNat
  if index < denseComponentColumnLimit then (store.denseColumns[index]?).join
  else store.sparseColumns.lookup componentId

/-- Changes the column that `column_mut` returns, which is an empty one when there was none. -/
def updateColumn (store : ComponentStore) (componentId : ComponentId)
    (f : ComponentColumn → ComponentColumn) : ComponentStore :=
  let index := componentId.get.toNat
  if index < denseComponentColumnLimit then
    let columns := store.denseColumns
      ++ List.replicate (index + 1 - store.denseColumns.length) none
    { store with
      denseColumns := columns.set index (some (f ((columns[index]?).join.getD .default))) }
  else
    { store with
      sparseColumns := store.sparseColumns.insert componentId
        (f ((store.sparseColumns.lookup componentId).getD .default)) }

/-- Copies an opaque component value into retained blob storage. -/
def setBlobFromSlice (store : ComponentStore) (descriptor : ComponentDescriptor)
    (entity : EntityHandle) (version : UInt64) (bytes : List UInt8) :
    Except ComponentStoreError Unit × ComponentStore :=
  match validateBlobWrite descriptor bytes.length with
  | .error error => (.error error, store)
  | .ok () => (.ok (), store.updateColumn descriptor.id fun column =>
      column.write entity version bytes)

/-- Gets an opaque component blob. -/
def getBlob (store : ComponentStore) (componentId : ComponentId) (entity : EntityHandle) :
    Option ComponentBlob :=
  (store.column componentId).bind fun column => column.values.lookup entity

/-- Removes all component blobs for an entity; returns how many there were. -/
def clearEntity (store : ComponentStore) (entity : EntityHandle) : ℕ × ComponentStore :=
  let holds := fun column : ComponentColumn => column.holds entity
  let remove := fun column : ComponentColumn => column.remove entity
  (store.denseColumns.countP (Option.any holds)
      + store.sparseColumns.sortedKeys.countP
          fun id => (store.sparseColumns.lookup id).any holds,
    { denseColumns := store.denseColumns.map (Option.map remove)
      sparseColumns := store.sparseColumns.mapValues remove })

/-! ## Reading after a write -/

section Columns

/-- The columns after growing them: the new ones are empty. -/
lemma join_getElem?_grown (columns : List (Option ComponentColumn)) (count i : ℕ) :
    ((columns ++ List.replicate count none)[i]?).join = (columns[i]?).join := by
  by_cases hlt : i < columns.length
  · rw [List.getElem?_append_left hlt]
  · rw [List.getElem?_append_right (not_lt.mp hlt), List.getElem?_replicate,
      List.getElem?_eq_none_iff.mpr (not_lt.mp hlt)]
    split_ifs
    · rfl
    · rfl

/-- An updated column is read back, and no other column changes. -/
lemma column_updateColumn (store : ComponentStore) (componentId id : ComponentId)
    (f : ComponentColumn → ComponentColumn) :
    (store.updateColumn componentId f).column id
      = if id = componentId then some (f ((store.column componentId).getD .default))
        else store.column id := by
  have hinj : ∀ {a b : ComponentId}, a.get.toNat = b.get.toNat → a = b := fun h =>
    TypedId.get_injective (UInt16.toNat_inj.mp h)
  by_cases hdense : componentId.get.toNat < denseComponentColumnLimit
  · have hlt : componentId.get.toNat < (store.denseColumns ++ List.replicate
        (componentId.get.toNat + 1 - store.denseColumns.length) none).length := by
      rw [List.length_append, List.length_replicate]
      omega
    by_cases hid : id = componentId
    · subst hid
      simp only [updateColumn, column, hdense, if_true, List.getElem?_set_self hlt,
        join_getElem?_grown]
      rfl
    · have hne : componentId.get.toNat ≠ id.get.toNat := fun h => hid (hinj h).symm
      simp only [updateColumn, column, hdense, if_true, if_neg hid, List.getElem?_set_ne hne,
        join_getElem?_grown]
  · by_cases hid : id = componentId
    · subst hid
      simp only [updateColumn, column, hdense, if_false, if_true, Finmap.lookup_insert]
    · simp only [updateColumn, column, hdense, if_false, if_neg hid,
        Finmap.lookup_insert_of_ne _ hid]

/-- A write is one entry of a column, whether it reuses the old blob or not. -/
lemma lookup_write (column : ComponentColumn) (entity h : EntityHandle) (version : UInt64)
    (bytes : List UInt8) :
    (column.write entity version bytes).values.lookup h
      = if h = entity then some { version := version, dirty := true, bytes := bytes }
        else column.values.lookup h := by
  unfold ComponentColumn.write
  cases column.values.lookup entity with
  | none => exact Finmap.lookup_insert_eq _ _ _ _
  | some blob => exact Finmap.lookup_insert_eq _ _ _ _

/-- A rejected write leaves the store, and an accepted one writes one blob. -/
theorem setBlobFromSlice_spec (store : ComponentStore) (descriptor : ComponentDescriptor)
    (entity : EntityHandle) (version : UInt64) (bytes : List UInt8) :
    (∃ error, store.setBlobFromSlice descriptor entity version bytes = (.error error, store))
      ∨ ∃ store', store.setBlobFromSlice descriptor entity version bytes = (.ok (), store')
          ∧ ∀ id h, store'.getBlob id h = if id = descriptor.id ∧ h = entity
              then some { version := version, dirty := true, bytes := bytes }
              else store.getBlob id h := by
  unfold setBlobFromSlice
  cases validateBlobWrite descriptor bytes.length with
  | error error => exact Or.inl ⟨error, rfl⟩
  | ok valid =>
      refine Or.inr ⟨_, rfl, fun id h => ?_⟩
      rw [getBlob, column_updateColumn, getBlob]
      by_cases hid : id = descriptor.id
      · subst hid
        rw [if_pos rfl, Option.bind_some, lookup_write]
        cases hcolumn : store.column descriptor.id with
        | none => simp [ComponentColumn.default]
        | some column => simp
      · rw [if_neg hid, if_neg fun h => hid h.1]

/-- When every column is changed in place, so is the column of an id. -/
lemma column_map (store : ComponentStore) (f : ComponentColumn → ComponentColumn)
    (id : ComponentId) :
    column { denseColumns := store.denseColumns.map (Option.map f)
             sparseColumns := store.sparseColumns.mapValues f } id
      = (store.column id).map f := by
  by_cases hdense : id.get.toNat < denseComponentColumnLimit
  · simp only [column, hdense, if_true, List.getElem?_map]
    cases store.denseColumns[id.get.toNat]? with
    | none => rfl
    | some slot => rfl
  · simp only [column, hdense, if_false, Finmap.lookup_mapValues]

/-- Clearing an entity drops its blobs and no others. -/
theorem getBlob_clearEntity (store : ComponentStore) (entity : EntityHandle) (id : ComponentId)
    (h : EntityHandle) :
    (store.clearEntity entity).2.getBlob id h
      = if h = entity then none else store.getBlob id h := by
  rw [getBlob, clearEntity, column_map, getBlob]
  cases store.column id with
  | none => simp
  | some column => exact Finmap.lookup_erase_eq _ _ _

end Columns

end ComponentStore

end SectorSync
