import SectorSync.Wire.FrameBuilder

/-!
# Direct encoding

The encoder of a replication plan against `build`.  Loop by loop it writes what `build` collects:
`encodeComponent` streams the components, and `encodeEntities_spec` compares the two entity loops.

`encodeBinaryInto_iff` says of the unbounded encoder that it is `build` followed by the encoder of
frames, and `bounded_encodes_longest` of the bounded one that it encodes the longest prefix of the
entities that fits.
-/

namespace SectorSync

open Bytes Wire Encoder

variable {F : Type}

namespace ReplicationFrameBuilder

/-! ## The component loops -/

section Components

variable (builder : ReplicationFrameBuilder) (components : ComponentStore)
  (selection : ComponentSelection) (handle : EntityHandle)

/-- What the component loop of the encoder holds of that of `build`; the encoder counts its entities
on the way. -/
def BuiltComponents.shown (encodedEntities : ℕ) (built : BuiltComponents) : EncodedComponents :=
  ⟨built.componentDeltas.length, built.estimatedPayloadBytes,
    { built.stats with encodedEntities := encodedEntities }⟩

def BuiltComponents.bytes (built : BuiltComponents) : List UInt8 :=
  built.componentDeltas.flatMap ComponentDelta.body

def BuiltComponents.Fits (built : BuiltComponents) : Prop :=
  ∀ component ∈ built.componentDeltas, component.Fits

/-- The writes of one component. -/
def writeComponent (component : ComponentDelta) : Encoder := do
  writeU16 component.componentId.get
  writeU64 component.version
  writeU8 component.flags
  writeBytes "replication.component.bytes" component.bytes

/-- One step of the two loops: both pass over the component and count that alike, or both take it.
-/
lemma component_cases (built : BuiltComponents) (componentId : ComponentId)
    (encodedEntities : ℕ) :
    (∃ stats : ReplicationFrameBuildStats,
        stats.encodedComponents = built.stats.encodedComponents
          ∧ stats.skippedEntitiesByFrameBytes = built.stats.skippedEntitiesByFrameBytes
          ∧ builder.buildComponent components handle built componentId = { built with stats }
          ∧ builder.encodeComponent components handle (built.shown encodedEntities) componentId
            = pure (BuiltComponents.shown encodedEntities { built with stats }))
      ∨ ∃ (component : ComponentDelta) (taken : BuiltComponents),
        taken.componentDeltas = built.componentDeltas ++ [component]
          ∧ taken.stats = built.stats
          ∧ builder.buildComponent components handle built componentId = taken
          ∧ builder.encodeComponent components handle (built.shown encodedEntities) componentId
            = writeComponent component >>= fun _ => pure (taken.shown encodedEntities) := by
  unfold buildComponent encodeComponent
  by_cases hlimit : built.componentDeltas.length ≥ builder.limits.maxComponentsPerEntity
  · refine .inl ⟨{ built.stats with
      skippedComponentsByLimit := built.stats.skippedComponentsByLimit + 1 }, rfl, rfl,
      if_pos hlimit, ?_⟩
    rw [BuiltComponents.shown, if_pos hlimit]
    rfl
  · rw [if_neg hlimit, BuiltComponents.shown, if_neg hlimit]
    rcases components.getBlob componentId handle with _ | ⟨version, dirty, bytes⟩
    · exact .inl ⟨built.stats, rfl, rfl, rfl, rfl⟩
    · cases dirty with
      | false => exact .inl ⟨built.stats, rfl, rfl, rfl, rfl⟩
      | true =>
          by_cases hsize : bytes.length > builder.limits.maxComponentBytes
          · exact .inl ⟨{ built.stats with
              skippedComponentsBySize := built.stats.skippedComponentsBySize + 1 }, rfl, rfl,
              if_pos hsize, if_pos hsize⟩
          · refine .inr ⟨⟨componentId, version, 0, bytes⟩, _, ?_, ?_, if_neg hsize, ?_⟩
            · rfl
            · rfl
            · refine (if_neg hsize).trans ?_
              rw [BuiltComponents.shown, List.length_append]
              rfl

/-- The bytes of a component are written when its payload fits. -/
lemma writes_writeComponent (component : ComponentDelta) :
    Writes (writeComponent component) component.Fits component.body :=
  ((writes_writeU16 _).bind <| (writes_writeU64 _).bind <| (writes_writeU8 _).bind <|
    writes_writeBytes _ _).congr (by simp [ComponentDelta.Fits]) (by simp [ComponentDelta.body])

/-- The component loop of the encoder writes what `build` collects. -/
lemma streams_encodeComponent (encodedEntities : ℕ) :
    Streams (builder.encodeComponent components handle)
      (builder.buildComponent components handle) (BuiltComponents.shown encodedEntities)
      BuiltComponents.bytes BuiltComponents.Fits where
  appends := by
    intro built componentId hfits pre
    rcases builder.component_cases components handle built componentId encodedEntities with
      ⟨stats, -, -, hbuild, hencode⟩ | ⟨component, taken, htaken, -, hbuild, hencode⟩
    · rw [hbuild, hencode]
      rfl
    · rw [hbuild, BuiltComponents.Fits, htaken] at hfits
      have hcomponent : component.Fits := hfits component (by simp)
      rw [hencode, Writer.bind_ok ((writes_writeComponent component).appends hcomponent _), hbuild,
        Writer.pure_eq, BuiltComponents.bytes, BuiltComponents.bytes, htaken]
      simp
  fails := by
    intro built componentId hbuilt hfits pre
    rcases builder.component_cases components handle built componentId encodedEntities with
      ⟨stats, -, -, hbuild, hencode⟩ | ⟨component, taken, htaken, -, hbuild, hencode⟩
    · rw [hbuild] at hfits
      exact absurd hbuilt hfits
    · have hcomponent : ¬ component.Fits := by
        intro hcomponent
        refine hfits ?_
        rw [hbuild, BuiltComponents.Fits, htaken]
        simp only [List.mem_append, List.mem_singleton]
        rintro other (hother | rfl)
        · exact hbuilt other hother
        · exact hcomponent
      obtain ⟨error, out, hwrite⟩ := (writes_writeComponent component).fails hcomponent
        (pre ++ built.bytes)
      exact ⟨error, out, by rw [hencode, Writer.bind_error hwrite]⟩
  before := by
    intro built componentId hfits
    rcases builder.component_cases components handle built componentId encodedEntities with
      ⟨stats, -, -, hbuild, -⟩ | ⟨component, taken, htaken, -, hbuild, -⟩
    · rwa [hbuild] at hfits
    · rw [hbuild, BuiltComponents.Fits, htaken] at hfits
      exact fun other hother => hfits other (List.mem_append_left _ hother)

/-- The component loop of the encoder, begun without components. -/
lemma foldlM_encodeComponent (componentIds : List ComponentId) (encodedEntities : ℕ)
    (estimatedPayloadBytes : ℕ) (stats : ReplicationFrameBuildStats) (pre : List UInt8) :
    let inner := componentIds.foldl (builder.buildComponent components handle)
      ⟨[], estimatedPayloadBytes, stats⟩
    let encode := componentIds.foldlM (builder.encodeComponent components handle)
      ⟨0, estimatedPayloadBytes, { stats with encodedEntities := encodedEntities }⟩
    (inner.Fits → encode pre = (.ok (inner.shown encodedEntities), pre ++ inner.bytes))
      ∧ (¬ inner.Fits → ∃ error out, encode pre = (.error error, out)) := by
  have hstart : pre ++ BuiltComponents.bytes ⟨[], estimatedPayloadBytes, stats⟩ = pre :=
    List.append_nil pre
  constructor
  · intro hfits
    have happends := (builder.streams_encodeComponent components handle encodedEntities).foldlM_appends
      hfits pre
    rwa [hstart] at happends
  · intro hfits
    have hfails := (builder.streams_encodeComponent components handle encodedEntities).foldlM_fails
      (s := ⟨[], estimatedPayloadBytes, stats⟩) (by simp [BuiltComponents.Fits]) hfits pre
    rwa [hstart] at hfails

/-- The component loop of `build` leaves the counters of the entity loop. -/
lemma foldl_buildComponent_stats (componentIds : List ComponentId) (built : BuiltComponents) :
    let inner := componentIds.foldl (builder.buildComponent components handle) built
    inner.stats.encodedComponents = built.stats.encodedComponents
      ∧ inner.stats.skippedEntitiesByFrameBytes = built.stats.skippedEntitiesByFrameBytes := by
  induction componentIds generalizing built with
  | nil => exact ⟨rfl, rfl⟩
  | cons componentId componentIds ih =>
      obtain ⟨hcomponents, hskipped⟩ := ih (builder.buildComponent components handle built componentId)
      refine ⟨hcomponents.trans ?_, hskipped.trans ?_⟩ <;>
      rcases builder.component_cases components handle built componentId 0 with
        ⟨stats, hc, hs, hbuild, -⟩ | ⟨component, taken, -, hstats, hbuild, -⟩
      · rw [hbuild, hc]
      · rw [hbuild, hstats]
      · rw [hbuild, hs]
      · rw [hbuild, hstats]

end Components

/-! ## The entity loops -/

/-- The bytes of a frame with the given entities. -/
def frameSize (entities : List EntityDelta) : ℕ :=
  binaryHeaderBytes + (entities.flatMap EntityDelta.body).length

/-- Number of component deltas of the entities. -/
def componentCount (entities : List EntityDelta) : ℕ :=
  (entities.map fun entity => entity.components.length).sum

lemma frameSize_mono {entities entities' : List EntityDelta} (h : entities <+: entities') :
    frameSize entities ≤ frameSize entities' := by
  obtain ⟨more, rfl⟩ := h
  simp [frameSize]

namespace BuiltEntities

/-- What the entity loop of the encoder holds of that of `build`. -/
def shown (built : BuiltEntities) : EncodedEntities :=
  ⟨built.estimatedPayloadBytes, { built.stats with encodedEntities := built.entityDeltas.length }⟩

def bytes (built : BuiltEntities) : List UInt8 := built.entityDeltas.flatMap EntityDelta.body

/-- What holds at the head of the entity loop: the counters agree with the entities. -/
structure Counted (built : BuiltEntities) : Prop where
  components : built.stats.encodedComponents = componentCount built.entityDeltas
  skipped : built.stats.skippedEntitiesByFrameBytes = 0

end BuiltEntities

/-- The end of the encoder's entity loop, where that of `build` ends with `built`. -/
inductive EntitiesEnd (maxFrameBytes : ℕ) (pre : List UInt8) (built : BuiltEntities) :
    Except BinaryEncodeError EncodedEntities × List UInt8 → Prop
  /-- Some entity does not fit the format. -/
  | failed (hfits : ¬ ∀ entity ∈ built.entityDeltas, entity.Fits) (error : BinaryEncodeError)
      (out : List UInt8) : EntitiesEnd maxFrameBytes pre built (.error error, out)
  /-- The entity after `entities` leaves the byte budget. -/
  | stopped {entities : List EntityDelta} {entity : EntityDelta}
      (hextends : entities ++ [entity] <+: built.entityDeltas)
      (hfits : ∀ entity ∈ entities, entity.Fits) (hwithin : frameSize entities ≤ maxFrameBytes)
      (hbeyond : maxFrameBytes < frameSize (entities ++ [entity])) {encoded : EncodedEntities}
      (hentities : encoded.stats.encodedEntities = entities.length)
      (hcomponents : encoded.stats.encodedComponents = componentCount entities)
      (hskipped : encoded.stats.skippedEntitiesByFrameBytes = 1) :
      EntitiesEnd maxFrameBytes pre built
        (.ok encoded, pre ++ entities.flatMap EntityDelta.body)
  /-- Everything is encoded. -/
  | finished (hfits : ∀ entity ∈ built.entityDeltas, entity.Fits)
      (hwithin : frameSize built.entityDeltas ≤ maxFrameBytes) (hcounted : built.Counted) :
      EntitiesEnd maxFrameBytes pre built (.ok built.shown, pre ++ built.bytes)

/-- The end of the body of the encoder's entity loop, beside the step from `built` to `next` that
`build` makes for the same handle. -/
inductive EntityEnd (maxFrameBytes : ℕ) (pre : List UInt8) (built next : BuiltEntities) :
    Except BinaryEncodeError (ForInStep EncodedEntities) × List UInt8 → Prop
  /-- The entity does not fit the format. -/
  | failed {entity : EntityDelta} (htaken : next.entityDeltas = built.entityDeltas ++ [entity])
      (hfits : ¬ entity.Fits) (error : BinaryEncodeError) (out : List UInt8) :
      EntityEnd maxFrameBytes pre built next (.error error, out)
  /-- The entity leaves the byte budget. -/
  | stopped {entity : EntityDelta} (htaken : next.entityDeltas = built.entityDeltas ++ [entity])
      (hsize : maxFrameBytes < frameSize next.entityDeltas) {stats : ReplicationFrameBuildStats}
      (hentities : stats.encodedEntities = built.entityDeltas.length)
      (hcomponents : stats.encodedComponents = componentCount built.entityDeltas)
      (hskipped : stats.skippedEntitiesByFrameBytes = 1) :
      EntityEnd maxFrameBytes pre built next
        (.ok (.done ⟨built.estimatedPayloadBytes, stats⟩), pre ++ built.bytes)
  /-- Both loops go on. -/
  | went {encoded : EncodedEntities} {out : List UInt8} (hshown : encoded = next.shown)
      (hbytes : out = pre ++ next.bytes)
      (hfits : (∀ entity ∈ built.entityDeltas, entity.Fits) →
        ∀ entity ∈ next.entityDeltas, entity.Fits)
      (hsize : frameSize built.entityDeltas ≤ maxFrameBytes →
        frameSize next.entityDeltas ≤ maxFrameBytes)
      (hcounted : next.Counted) :
      EntityEnd maxFrameBytes pre built next (.ok (.yield encoded), out)

/-- What the end of the body says of the components of an entity that `build` takes.  Their payloads
are written before the byte budget is looked at, and their number is checked after. -/
def Decided (within : Prop) (components : List ComponentDelta) :
    Except BinaryEncodeError (ForInStep EncodedEntities) → Prop
  | .error _ => (¬ ∀ component ∈ components, component.Fits)
      ∨ within ∧ ¬ components.length < 2 ^ 16
  | .ok (.done _) => ∀ component ∈ components, component.Fits
  | .ok (.yield _) => True

/-- The end of the body of the entity loop with what it says of the entity that `build` takes. -/
structure EntityDecided (maxFrameBytes : ℕ) (pre : List UInt8) (built next : BuiltEntities)
    (result : Except BinaryEncodeError (ForInStep EncodedEntities) × List UInt8) : Prop where
  ends : EntityEnd maxFrameBytes pre built next result
  decided : ∀ entity, next.entityDeltas = built.entityDeltas ++ [entity] →
    Decided (frameSize next.entityDeltas ≤ maxFrameBytes) entity.components result.1

/-- What `build` makes of an entity whose components have been collected. -/
def settled (built : BuiltEntities) (entityId : EntityId) (ownerEpoch : OwnerEpoch)
    (inner : BuiltComponents) : BuiltEntities :=
  if inner.componentDeltas.isEmpty then
    { built with
      estimatedPayloadBytes := inner.estimatedPayloadBytes
      stats := inner.stats }
  else
    { stats := {
        inner.stats with
        encodedComponents := inner.stats.encodedComponents + inner.componentDeltas.length }
      estimatedPayloadBytes := usizeSaturatingAdd inner.estimatedPayloadBytes (8 + 8 + 2)
      entityDeltas := built.entityDeltas ++ [⟨entityId, ownerEpoch, inner.componentDeltas⟩] }

/-- What the encoder does with an entity whose components have been written: it takes the entity
back when it is empty or leaves the budget, and else patches its count. -/
def settleEntity (maxFrameBytes frameStart entityStart componentCountOffset : ℕ)
    (encoded : EncodedEntities) (inner : EncodedComponents) :
    Bytes.Writer BinaryEncodeError (ForInStep EncodedEntities) :=
  if inner.componentCount = 0 then do
    Writer.truncate entityStart
    return .yield ⟨inner.estimatedPayloadBytes, inner.stats⟩
  else do
    let len ← Writer.len
    if len - frameStart > maxFrameBytes then do
      Writer.truncate entityStart
      return .done ⟨encoded.estimatedPayloadBytes, {
        inner.stats with
        skippedEntitiesByFrameBytes :=
          usizeSaturatingAdd inner.stats.skippedEntitiesByFrameBytes 1 }⟩
    else if inner.componentCount < 2 ^ 16 then do
      Writer.overwrite componentCountOffset (toLe 2 inner.componentCount)
      return .yield ⟨usizeSaturatingAdd inner.estimatedPayloadBytes (8 + 8 + 2), {
        inner.stats with
        encodedComponents := inner.stats.encodedComponents + inner.componentCount
        encodedEntities := inner.stats.encodedEntities + 1 }⟩
    else
      Writer.fail (.tooManyItems "replication.entity.components" inner.componentCount)

/-- The length of the frame when an entity has been written behind the others. -/
lemma frameSize_concat {frameStart : ℕ} {pre : List UInt8}
    (hpre : pre.length = frameStart + binaryHeaderBytes) (built : BuiltEntities)
    (components : BuiltComponents) (id : EntityId) (epoch : OwnerEpoch) :
    (pre ++ built.bytes ++ le64 id.get ++ le64 epoch.get ++ le16 0 ++ components.bytes).length
        - frameStart
      = frameSize (built.entityDeltas ++ [⟨id, epoch, components.componentDeltas⟩]) := by
  simp only [frameSize, BuiltEntities.bytes, BuiltComponents.bytes, List.length_append, hpre,
    List.flatMap_append, List.flatMap_singleton, EntityDelta.body, length_toLe, le16]
  omega

/-- An entity whose components all fit is settled in the same way by both loops, unless it leaves
the budget or has too many components. -/
lemma settleEntity_decided {maxFrameBytes frameStart : ℕ} {pre : List UInt8}
    (hpre : pre.length = frameStart + binaryHeaderBytes) {built : BuiltEntities}
    (hcounted : built.Counted) {inner : BuiltComponents} (hfits : inner.Fits)
    (hcomponents : inner.stats.encodedComponents = built.stats.encodedComponents)
    (hskipped : inner.stats.skippedEntitiesByFrameBytes = built.stats.skippedEntitiesByFrameBytes)
    (entityId : EntityId) (ownerEpoch : OwnerEpoch) :
    EntityDecided maxFrameBytes pre built (settled built entityId ownerEpoch inner)
      (settleEntity maxFrameBytes frameStart (pre ++ built.bytes).length
        (pre ++ built.bytes ++ le64 entityId.get ++ le64 ownerEpoch.get).length built.shown
        (inner.shown built.entityDeltas.length)
        (pre ++ built.bytes ++ le64 entityId.get ++ le64 ownerEpoch.get ++ le16 0
          ++ inner.bytes)) := by
  have hzero : inner.stats.skippedEntitiesByFrameBytes = 0 := hskipped.trans hcounted.skipped
  have htruncate :
      (Writer.truncate (pre ++ built.bytes).length : Bytes.Writer BinaryEncodeError Unit)
      (pre ++ built.bytes ++ le64 entityId.get ++ le64 ownerEpoch.get ++ le16 0 ++ inner.bytes)
        = (.ok (), pre ++ built.bytes) := by
    rw [List.append_assoc (pre ++ built.bytes), List.append_assoc (pre ++ built.bytes),
      List.append_assoc (pre ++ built.bytes)]
    exact Writer.truncate_append _ _
  unfold settled settleEntity
  by_cases hempty : inner.componentDeltas = []
  · have hcount : (inner.shown built.entityDeltas.length).componentCount = 0 := by
      rw [BuiltComponents.shown, hempty]
      rfl
    rw [if_pos hcount, if_pos (List.isEmpty_iff.mpr hempty), Writer.bind_ok htruncate]
    exact ⟨.went rfl rfl id id ⟨hcomponents.trans hcounted.components, hzero⟩, fun _ _ => trivial⟩
  · have hcount : (inner.shown built.entityDeltas.length).componentCount ≠ 0 := by
      rw [BuiltComponents.shown]
      simpa using hempty
    rw [if_neg hcount, if_neg (fun h => hempty (List.isEmpty_iff.mp h)),
      Writer.bind_ok (rfl : Writer.len _ = _), frameSize_concat hpre]
    -- the components of the entity that `build` takes are those of `inner`
    have htaken : ∀ {other : EntityDelta},
        built.entityDeltas ++ [⟨entityId, ownerEpoch, inner.componentDeltas⟩]
          = built.entityDeltas ++ [other] → other.components = inner.componentDeltas := by
      intro other h
      rw [← List.singleton_inj.mp (List.append_cancel_left h)]
    by_cases hbudget : frameSize
        (built.entityDeltas ++ [⟨entityId, ownerEpoch, inner.componentDeltas⟩]) > maxFrameBytes
    · rw [if_pos hbudget, Writer.bind_ok htruncate]
      refine ⟨.stopped rfl hbudget rfl (hcomponents.trans hcounted.components) ?_, ?_⟩
      · show usizeSaturatingAdd inner.stats.skippedEntitiesByFrameBytes 1 = 1
        rw [hzero]
        rfl
      · intro other hother
        rw [htaken hother]
        exact hfits
    · rw [if_neg hbudget]
      by_cases hfield : inner.componentDeltas.length < 2 ^ 16
      · rw [if_pos (show (inner.shown _).componentCount < 2 ^ 16 from hfield),
          List.append_assoc _ (le16 0), Writer.bind_ok (Writer.overwrite_append
            (by rw [le16, length_toLe, length_toLe]) _ _)]
        refine ⟨.went ?_ ?_ ?_ (fun _ => Nat.le_of_not_lt hbudget) ⟨?_, hzero⟩, fun _ _ => trivial⟩
        · simp [BuiltEntities.shown, BuiltComponents.shown]
        · simp [BuiltEntities.bytes, BuiltComponents.bytes, BuiltComponents.shown, EntityDelta.body]
        · intro hbuilt other hother
          rcases List.mem_append.mp hother with hother | hother
          · exact hbuilt other hother
          · rw [List.mem_singleton.mp hother]
            exact ⟨hfield, hfits⟩
        · simp [componentCount, hcomponents, hcounted.components]
      · rw [if_neg (show ¬ (inner.shown _).componentCount < 2 ^ 16 from hfield)]
        refine ⟨.failed rfl ?_ _ _, ?_⟩
        · intro hentity
          exact hfield hentity.1
        · intro other hother
          rw [htaken hother]
          exact .inr ⟨Nat.le_of_not_lt hbudget, hfield⟩

section Entities

variable (builder : ReplicationFrameBuilder) (station : Station F) (components : ComponentStore)
  (selection : ComponentSelection)

/-- The body of the encoder's entity loop around its component loop. -/
lemma encodeEntity_eq {maxFrameBytes frameStart : ℕ} {encoded : EncodedEntities}
    {handle : EntityHandle} {entity : EntityRecord F}
    (hbelow : ¬ encoded.stats.encodedEntities ≥ builder.limits.maxEntityDeltas)
    (hget : station.get handle = some entity) (base : List UInt8) :
    builder.encodeEntity station components selection maxFrameBytes frameStart encoded handle base
      = (selection.componentIds.foldlM (builder.encodeComponent components handle)
            ⟨0, encoded.estimatedPayloadBytes, encoded.stats⟩
          >>= settleEntity maxFrameBytes frameStart base.length
            (base ++ le64 entity.id.get ++ le64 entity.role.ownerEpoch.get).length encoded)
        (base ++ le64 entity.id.get ++ le64 entity.role.ownerEpoch.get ++ le16 0) := by
  unfold encodeEntity
  rw [if_neg hbelow, hget]
  rfl

lemma encodeEntity_decided {maxFrameBytes frameStart : ℕ} {pre : List UInt8}
    (hpre : pre.length = frameStart + binaryHeaderBytes) {built : BuiltEntities}
    (hcounted : built.Counted) (handle : EntityHandle) :
    EntityDecided maxFrameBytes pre built
      (builder.buildEntity station components selection built handle)
      (builder.encodeEntity station components selection maxFrameBytes frameStart built.shown
        handle (pre ++ built.bytes)) := by
  by_cases hlimit : built.entityDeltas.length ≥ builder.limits.maxEntityDeltas
  · unfold buildEntity encodeEntity
    rw [if_pos hlimit, if_pos (show built.shown.stats.encodedEntities ≥ _ from hlimit)]
    exact ⟨.went rfl rfl id id ⟨hcounted.components, hcounted.skipped⟩, fun _ _ => trivial⟩
  · rcases hget : station.get handle with _ | entity
    · unfold buildEntity encodeEntity
      rw [if_neg hlimit, if_neg (show ¬ built.shown.stats.encodedEntities ≥ _ from hlimit), hget]
      exact ⟨.went rfl rfl id id hcounted, fun _ _ => trivial⟩
    · set inner := selection.componentIds.foldl (builder.buildComponent components handle)
        ⟨[], built.estimatedPayloadBytes, built.stats⟩ with hinner
      obtain ⟨hcomponents, hskipped⟩ := builder.foldl_buildComponent_stats components handle
        selection.componentIds ⟨[], built.estimatedPayloadBytes, built.stats⟩
      obtain ⟨happends, hfails⟩ := builder.foldlM_encodeComponent components handle
        selection.componentIds built.entityDeltas.length built.estimatedPayloadBytes built.stats
        (pre ++ built.bytes ++ le64 entity.id.get ++ le64 entity.role.ownerEpoch.get ++ le16 0)
      rw [← hinner] at hcomponents hskipped happends hfails
      have hbuild : builder.buildEntity station components selection built handle
          = settled built entity.id entity.role.ownerEpoch inner := by
        unfold buildEntity
        rw [if_neg hlimit, hget]
        rfl
      rw [hbuild, builder.encodeEntity_eq station components selection hlimit hget]
      by_cases hfits : inner.Fits
      · refine (congrArg _ (Writer.bind_ok (happends hfits) _)).mpr ?_
        exact settleEntity_decided hpre hcounted hfits hcomponents hskipped _ _
      · obtain ⟨error, out, hfail⟩ := hfails hfits
        have hnonempty : ¬ inner.componentDeltas.isEmpty := by
          intro hempty
          exact hfits (by simp [BuiltComponents.Fits, List.isEmpty_iff.mp hempty])
        refine (congrArg _ (Writer.bind_error hfail _)).mpr ?_
        rw [settled, if_neg hnonempty]
        refine ⟨.failed rfl ?_ error out, ?_⟩
        · intro hentity
          exact hfits hentity.2
        · intro other hother
          rw [← List.singleton_inj.mp (List.append_cancel_left hother)]
          exact .inl hfits

/-- One step of the two loops. -/
lemma encodeEntity_spec {maxFrameBytes frameStart : ℕ} {pre : List UInt8}
    (hpre : pre.length = frameStart + binaryHeaderBytes) {built : BuiltEntities}
    (hcounted : built.Counted) (handle : EntityHandle) :
    EntityEnd maxFrameBytes pre built
      (builder.buildEntity station components selection built handle)
      (builder.encodeEntity station components selection maxFrameBytes frameStart built.shown
        handle (pre ++ built.bytes)) :=
  (builder.encodeEntity_decided station components selection hpre hcounted handle).ends

/-- `build` only adds entities. -/
lemma entityDeltas_buildEntity_prefix (built : BuiltEntities) (handle : EntityHandle) :
    built.entityDeltas
      <+: (builder.buildEntity station components selection built handle).entityDeltas := by
  unfold buildEntity
  split
  · exact List.prefix_rfl
  · split
    · exact List.prefix_rfl
    · dsimp only
      split
      · exact List.prefix_rfl
      · exact List.prefix_append _ _

lemma entityDeltas_foldl_prefix (handles : List EntityHandle) (built : BuiltEntities) :
    built.entityDeltas
      <+: (handles.foldl (builder.buildEntity station components selection) built).entityDeltas := by
  induction handles generalizing built with
  | nil => exact List.prefix_rfl
  | cons handle handles ih =>
      exact (builder.entityDeltas_buildEntity_prefix station components selection built handle).trans
        (ih _)

/-- **The two entity loops.**  Over the same handles, the encoder writes the entities that `build`
collects, or it fails at one that does not fit, or it stops before the first that leaves the budget.
-/
theorem encodeEntities_spec {maxFrameBytes frameStart : ℕ} {pre : List UInt8}
    (hpre : pre.length = frameStart + binaryHeaderBytes) (handles : List EntityHandle)
    {built : BuiltEntities} (hcounted : built.Counted)
    (hfits : ∀ entity ∈ built.entityDeltas, entity.Fits)
    (hwithin : frameSize built.entityDeltas ≤ maxFrameBytes) :
    EntitiesEnd maxFrameBytes pre
      (handles.foldl (builder.buildEntity station components selection) built)
      (builder.encodeEntities station components selection maxFrameBytes frameStart handles
        built.shown (pre ++ built.bytes)) := by
  induction handles generalizing built with
  | nil => exact .finished hfits hwithin hcounted
  | cons handle handles ih =>
      have hstep : EntityEnd maxFrameBytes _ _ _ _ :=
        builder.encodeEntity_spec station components selection hpre hcounted handle
      have hlater := builder.entityDeltas_foldl_prefix station components selection handles
        (builder.buildEntity station components selection built handle)
      rw [encodeEntities, List.foldl_cons]
      generalize hend : builder.encodeEntity station components selection maxFrameBytes frameStart
        built.shown handle (pre ++ built.bytes) = result at hstep
      cases hstep with
      | @failed entity htaken hentity error out =>
          rw [Writer.bind_error hend]
          refine .failed (fun hall => hentity (hall entity (hlater.subset ?_))) error out
          simp [htaken]
      | @stopped entity htaken hbeyond stats hentities hcomponents hskipped =>
          rw [Writer.bind_ok hend]
          rw [htaken] at hbeyond hlater
          exact .stopped hlater hfits hwithin hbeyond hentities hcomponents hskipped
      | went hshown hbytes hnextFits hnextWithin hnextCounted =>
          rw [Writer.bind_ok hend, hshown, hbytes]
          exact ih hnextCounted (hnextFits hfits) (hnextWithin hwithin)

end Entities

/-! ## Frames -/

section Frames

variable (builder : ReplicationFrameBuilder) (station : Station F) (components : ComponentStore)
  (selection : ComponentSelection) (clientId : ClientId) (serverTick : Tick)
  (plan : ReplicationPlan)

/-- The frame of a plan with some of its entities. -/
def frameOf (estimatedPayloadBytes : ℕ) (entities : List EntityDelta) : ReplicationFrame :=
  { clientId, serverTick, entityCount := u32OrMax plan.entities.length
    estimatedPayloadBytes := u32OrMax estimatedPayloadBytes, entities }

/-- The length of a frame. -/
lemma length_bytes_replication (frame : ReplicationFrame) :
    (RuntimeFrame.replication frame).bytes.length = frameSize frame.entities := by
  simp [RuntimeFrame.bytes, RuntimeFrame.body, ReplicationFrame.body, frameSize, le64, le32,
    binaryHeaderBytes]
  omega

/-- The buffer ahead of the entities, with the two words that are patched. -/
def headerBytes (estimated entities : List UInt8) : List UInt8 :=
  [FrameKind.replication.toByte] ++ le64 clientId.get ++ le64 serverTick.get
    ++ le32 (u32OrMax plan.entities.length) ++ estimated ++ entities

lemma headerBytes_append (estimatedPayloadBytes : ℕ) (entities : List EntityDelta) :
    headerBytes clientId serverTick plan (le32 (u32OrMax estimatedPayloadBytes))
        (toLe 4 entities.length) ++ entities.flatMap EntityDelta.body
      = (RuntimeFrame.replication
          (frameOf clientId serverTick plan estimatedPayloadBytes entities)).bytes := by
  simp [headerBytes, RuntimeFrame.bytes, RuntimeFrame.body, RuntimeFrame.kind,
    ReplicationFrame.body, frameOf]

/-- The two words of the header are patched in place. -/
lemma patch_append {estimated entities : List UInt8} (hestimated : estimated.length = 4)
    (hentities : entities.length = 4) (stats : ReplicationFrameBuildStats)
    (pre rest : List UInt8) :
    (do
        Writer.overwrite pre.length estimated
        Writer.overwrite (pre ++ le32 0).length entities
        return stats : Bytes.Writer BinaryEncodeError ReplicationFrameBuildStats)
        (pre ++ le32 0 ++ le32 0 ++ rest)
      = (.ok stats, pre ++ estimated ++ entities ++ rest) := by
  have hword : (le32 0).length = 4 := length_toLe 4 _
  have hoffset : (pre ++ le32 0).length = (pre ++ estimated).length := by
    rw [List.length_append, List.length_append, hword, hestimated]
  rw [List.append_assoc _ (le32 0) rest, List.append_assoc pre,
    Writer.bind_ok (Writer.overwrite_append (hword.trans hestimated.symm) pre _), hoffset,
    ← List.append_assoc pre,
    Writer.bind_ok (Writer.overwrite_append (hword.trans hentities.symm) _ rest),
    ← List.append_assoc (pre ++ estimated)]
  rfl

/-- The end of the encoder: nothing to return, a frame that was cut, or the frame of `build`. -/
inductive FrameEnd (maxFrameBytes : ℕ) (out : List UInt8) :
    Except BinaryEncodeError ReplicationFrameBuildStats × List UInt8 → Prop
  | failed
      (hfits : ¬ (builder.build station components selection clientId serverTick plan).frame.Fits)
      (error : BinaryEncodeError) (out' : List UInt8) :
      FrameEnd maxFrameBytes out (.error error, out')
  | stopped {entities : List EntityDelta} {entity : EntityDelta} {stats : ReplicationFrameBuildStats}
      {estimatedPayloadBytes : ℕ}
      (hextends : entities ++ [entity]
        <+: (builder.build station components selection clientId serverTick plan).frame.entities)
      (hfits : (frameOf clientId serverTick plan estimatedPayloadBytes entities).Fits)
      (hwithin : frameSize entities ≤ maxFrameBytes)
      (hbeyond : maxFrameBytes < frameSize (entities ++ [entity]))
      (hentities : stats.encodedEntities = entities.length)
      (hcomponents : stats.encodedComponents = componentCount entities)
      (hskipped : stats.skippedEntitiesByFrameBytes = 1) :
      FrameEnd maxFrameBytes out (.ok stats, out ++ (RuntimeFrame.replication
        (frameOf clientId serverTick plan estimatedPayloadBytes entities)).bytes)
  | finished
      (hfits : (builder.build station components selection clientId serverTick plan).frame.Fits)
      (hwithin : frameSize (builder.build station components selection clientId serverTick
        plan).frame.entities ≤ maxFrameBytes)
      (hcounted : (builder.buildEntities station components selection plan).Counted) :
      FrameEnd maxFrameBytes out
        (.ok (builder.build station components selection clientId serverTick plan).stats,
          out ++ (RuntimeFrame.replication
            (builder.build station components selection clientId serverTick plan).frame).bytes)

/-- The buffer ahead of the words that are patched. -/
def fixedBytes : List UInt8 :=
  [FrameKind.replication.toByte] ++ le64 clientId.get ++ le64 serverTick.get
    ++ le32 (u32OrMax plan.entities.length)

/-- What follows the entity loop: the number of entities is checked and the two words are patched.
-/
def patchHeader (out : List UInt8) (encoded : EncodedEntities) :
    Bytes.Writer BinaryEncodeError ReplicationFrameBuildStats :=
  let pre := out ++ fixedBytes clientId serverTick plan
  if encoded.stats.encodedEntities < 2 ^ 32 then do
    Writer.overwrite pre.length (le32 (u32OrMax encoded.estimatedPayloadBytes))
    Writer.overwrite (pre ++ le32 0).length (toLe 4 encoded.stats.encodedEntities)
    return encoded.stats
  else Writer.fail (.tooManyItems "replication.entities" encoded.stats.encodedEntities)

/-- The encoder around its entity loop. -/
lemma encodeBinaryBoundedInto_eq {maxFrameBytes : ℕ} (hbudget : binaryHeaderBytes ≤ maxFrameBytes)
    (out : List UInt8) :
    builder.encodeBinaryBoundedInto station components selection clientId serverTick plan
        maxFrameBytes out
      = (builder.encodeEntities station components selection maxFrameBytes out.length plan.entities
            (startEntities plan).shown >>= patchHeader clientId serverTick plan out)
          (out ++ headerBytes clientId serverTick plan (le32 0) (le32 0)
            ++ (startEntities plan).bytes) := by
  have hbuffer : out ++ headerBytes clientId serverTick plan (le32 0) (le32 0)
      ++ (startEntities plan).bytes
        = out ++ [FrameKind.replication.toByte] ++ le64 clientId.get ++ le64 serverTick.get
          ++ le32 (u32OrMax plan.entities.length) ++ le32 0 ++ le32 0 := by
    simp [headerBytes, BuiltEntities.bytes, startEntities]
  have hpre : out ++ fixedBytes clientId serverTick plan
      = out ++ [FrameKind.replication.toByte] ++ le64 clientId.get ++ le64 serverTick.get
        ++ le32 (u32OrMax plan.entities.length) := by
    simp [fixedBytes]
  unfold encodeBinaryBoundedInto
  rw [if_neg (Nat.not_lt.mpr hbudget),
    Writer.bind_ok (rfl : Writer.len out = (.ok out.length, out)),
    Writer.bind_ok ((writes_writeU8 _).appends trivial _),
    Writer.bind_ok ((writes_writeU64 _).appends trivial _),
    Writer.bind_ok ((writes_writeU64 _).appends trivial _),
    Writer.bind_ok ((writes_writeU32 _).appends trivial _),
    Writer.bind_ok (rfl : Writer.len _ = _),
    Writer.bind_ok ((writes_writeU32 _).appends trivial _),
    Writer.bind_ok (rfl : Writer.len _ = _),
    Writer.bind_ok ((writes_writeU32 _).appends trivial _), hbuffer]
  unfold patchHeader
  rw [hpre]
  rfl

lemma length_headerBytes (out : List UInt8) :
    (out ++ headerBytes clientId serverTick plan (le32 0) (le32 0)).length
      = out.length + binaryHeaderBytes := by
  simp [headerBytes, binaryHeaderBytes, le64, le32]

/-- The words of the header behind the entities that were encoded. -/
lemma patchHeader_appends {encoded : EncodedEntities} {entities : List EntityDelta}
    (hentities : encoded.stats.encodedEntities = entities.length) (hlt : entities.length < 2 ^ 32)
    (out : List UInt8) :
    patchHeader clientId serverTick plan out encoded
        (out ++ headerBytes clientId serverTick plan (le32 0) (le32 0)
          ++ entities.flatMap EntityDelta.body)
      = (.ok encoded.stats, out ++ (RuntimeFrame.replication
          (frameOf clientId serverTick plan encoded.estimatedPayloadBytes entities)).bytes) := by
  have hheader : ∀ estimated count rest : List UInt8,
      out ++ fixedBytes clientId serverTick plan ++ estimated ++ count ++ rest
        = out ++ (headerBytes clientId serverTick plan estimated count ++ rest) := by
    intro estimated count rest
    simp [fixedBytes, headerBytes]
  have hestimated : (le32 (u32OrMax encoded.estimatedPayloadBytes)).length = 4 := length_toLe 4 _
  rw [patchHeader, if_pos (hentities ▸ hlt), List.append_assoc out (headerBytes ..), ← hheader,
    patch_append hestimated (length_toLe 4 _), hheader, hentities, headerBytes_append]

/-- The entity loop behind the header. -/
lemma encodeEntities_header_spec {maxFrameBytes : ℕ} (hbudget : binaryHeaderBytes ≤ maxFrameBytes)
    (out : List UInt8) :
    EntitiesEnd maxFrameBytes (out ++ headerBytes clientId serverTick plan (le32 0) (le32 0))
      (builder.buildEntities station components selection plan)
      (builder.encodeEntities station components selection maxFrameBytes out.length plan.entities
        (startEntities plan).shown
        (out ++ headerBytes clientId serverTick plan (le32 0) (le32 0)
          ++ (startEntities plan).bytes)) :=
  builder.encodeEntities_spec station components selection
    (length_headerBytes clientId serverTick plan out) plan.entities ⟨rfl, rfl⟩
    (by simp [startEntities]) (by simpa [frameSize, startEntities] using hbudget)

lemma encodeBinaryBoundedInto_spec {maxFrameBytes : ℕ} (hbudget : binaryHeaderBytes ≤ maxFrameBytes)
    (out : List UInt8) :
    FrameEnd builder station components selection clientId serverTick plan maxFrameBytes out
      (builder.encodeBinaryBoundedInto station components selection clientId serverTick plan
        maxFrameBytes out) := by
  have hloop := builder.encodeEntities_header_spec station components selection clientId serverTick
    plan hbudget out
  rw [encodeBinaryBoundedInto_eq builder station components selection clientId serverTick plan
    hbudget]
  generalize hend : builder.encodeEntities station components selection maxFrameBytes out.length
    plan.entities (startEntities plan).shown _ = result at hloop
  cases hloop with
  | failed hfits error out' =>
      rw [Writer.bind_error hend]
      exact .failed (fun hframe => hfits hframe.2) error out'
  | @stopped entities entity hextends hfits hwithin hbeyond encoded hentities hcomponents hskipped =>
      rw [Writer.bind_ok hend]
      by_cases hlt : entities.length < 2 ^ 32
      · rw [patchHeader_appends clientId serverTick plan hentities hlt]
        exact .stopped hextends ⟨hlt, hfits⟩ hwithin hbeyond hentities hcomponents hskipped
      · rw [patchHeader, if_neg (hentities ▸ hlt)]
        refine .failed (fun hframe => hlt ?_) _ _
        have hlength := hextends.length_le
        rw [List.length_append, List.length_singleton] at hlength
        have hmany : (builder.buildEntities station components selection plan).entityDeltas.length
            < 2 ^ 32 := hframe.1
        omega
  | finished hfits hwithin hcounted =>
      rw [Writer.bind_ok hend]
      set built := builder.buildEntities station components selection plan with hbuilt
      by_cases hlt : built.entityDeltas.length < 2 ^ 32
      · have hentities : built.shown.stats.encodedEntities = built.entityDeltas.length := rfl
        have hpatched := patchHeader_appends clientId serverTick plan hentities hlt out
        refine (congrArg _ hpatched).mpr ?_
        exact .finished ⟨hlt, hfits⟩ hwithin hcounted
      · rw [patchHeader, if_neg (show ¬ built.shown.stats.encodedEntities < 2 ^ 32 from hlt)]
        exact .failed (fun hframe => hlt hframe.1) _ _

/-- What the bounded encoder appends keeps within the budget. -/
lemma length_encodeBinaryBoundedInto_le {maxFrameBytes : ℕ} {out out' : List UInt8}
    {stats : ReplicationFrameBuildStats}
    (h : builder.encodeBinaryBoundedInto station components selection clientId serverTick plan
      maxFrameBytes out = (.ok stats, out')) : out'.length ≤ out.length + maxFrameBytes := by
  rcases Nat.lt_or_ge maxFrameBytes binaryHeaderBytes with hsmall | hbudget
  · rw [encodeBinaryBoundedInto, if_pos hsmall] at h
    cases h
  · have hspec := builder.encodeBinaryBoundedInto_spec station components selection clientId
      serverTick plan hbudget out
    rw [h] at hspec
    cases hspec with
    | stopped hextends hfits hwithin hbeyond =>
        rw [List.length_append, length_bytes_replication]
        exact Nat.add_le_add_left hwithin _
    | finished hfits hwithin hcounted =>
        rw [List.length_append, length_bytes_replication]
        exact Nat.add_le_add_left hwithin _

/-- **Direct encoding is `build` followed by the encoder of frames.**  One succeeds exactly when the
other does, with the same bytes and the same statistics.  `hmemory` excludes the frames that no
buffer holds: the encoder's budget is the largest length that there is. -/
theorem encodeBinaryInto_iff
    (hmemory : (RuntimeFrame.replication
      (builder.build station components selection clientId serverTick plan).frame).bytes.length
        ≤ usizeMax)
    (out out' : List UInt8) (stats : ReplicationFrameBuildStats) :
    builder.encodeBinaryInto station components selection clientId serverTick plan out
        = (.ok stats, out')
      ↔ stats = (builder.build station components selection clientId serverTick plan).stats
        ∧ encodeReplication
            (builder.build station components selection clientId serverTick plan).frame out
          = (.ok (), out') := by
  rw [length_bytes_replication] at hmemory
  have hspec := builder.encodeBinaryBoundedInto_spec station components selection clientId
    serverTick plan (by decide : binaryHeaderBytes ≤ usizeMax) out
  have hencode := writes_encodeReplication
    (builder.build station components selection clientId serverTick plan).frame
  rw [encodeBinaryInto, hencode.eq_ok_iff]
  generalize builder.encodeBinaryBoundedInto station components selection clientId serverTick plan
    usizeMax out = result at hspec ⊢
  cases hspec with
  | failed hfits error out'' => simp [hfits]
  | @stopped entities entity bytes estimated hextends hfits hwithin hbeyond =>
      have hle := frameSize_mono hextends
      omega
  | finished hfits hwithin hcounted =>
      simp only [Prod.mk.injEq, Except.ok.injEq, hfits, true_and]
      constructor
      · rintro ⟨rfl, rfl⟩
        exact ⟨rfl, rfl⟩
      · rintro ⟨rfl, rfl⟩
        exact ⟨rfl, rfl⟩

end Frames

/-- A station with one entity. -/
def onePlayer : Station ℕ :=
  ((Station.new (configWithStation 1)).spawnOwned ⟨7⟩ ⟨0, 0, 0⟩ .point ⟨0⟩).2

/-- Its one component. -/
def oneBlob : ComponentStore :=
  (ComponentStore.default.setBlobFromSlice ⟨⟨1⟩, "velocity", .sparseBlob, .delta, .copy, 12, 0⟩
    ⟨0, 0⟩ 3 [1, 2, 3]).2

/-- The entity with its component, after a byte that is already in the buffer. -/
theorem encodeBinaryInto_iff_one :
    encodeBinaryInto ⟨.default⟩ onePlayer oneBlob ⟨[⟨1⟩]⟩ ⟨5⟩ ⟨9⟩ ⟨[⟨0, 0⟩], .default⟩ [1]
      = (.ok (build ⟨.default⟩ onePlayer oneBlob ⟨[⟨1⟩]⟩ ⟨5⟩ ⟨9⟩ ⟨[⟨0, 0⟩], .default⟩).stats,
        (encodeReplication
          (build ⟨.default⟩ onePlayer oneBlob ⟨[⟨1⟩]⟩ ⟨5⟩ ⟨9⟩ ⟨[⟨0, 0⟩], .default⟩).frame [1]).2) :=
  (encodeBinaryInto_iff ⟨.default⟩ onePlayer oneBlob ⟨[⟨1⟩]⟩ ⟨5⟩ ⟨9⟩ ⟨[⟨0, 0⟩], .default⟩
    (by rw [length_bytes_replication]; decide) [1] _ _).mpr ⟨rfl, rfl⟩

/-- The entities are the longest prefix that a frame of the given size can hold. -/
def LongestPrefix (maxFrameBytes : ℕ) (entities all : List EntityDelta) : Prop :=
  entities <+: all ∧ frameSize entities ≤ maxFrameBytes
    ∧ ∀ longer, longer <+: all → frameSize longer ≤ maxFrameBytes → longer <+: entities

/-- A prefix is the longest that fits when one more entity does not. -/
lemma longestPrefix_of_beyond {maxFrameBytes : ℕ} {entities all : List EntityDelta}
    {entity : EntityDelta} (hextends : entities ++ [entity] <+: all)
    (hwithin : frameSize entities ≤ maxFrameBytes)
    (hbeyond : maxFrameBytes < frameSize (entities ++ [entity])) :
    LongestPrefix maxFrameBytes entities all := by
  refine ⟨(List.prefix_append _ _).trans hextends, hwithin, fun longer hlonger hsize => ?_⟩
  rcases List.prefix_or_prefix_of_prefix hlonger hextends with h | h
  · rcases List.prefix_concat_iff.mp h with rfl | h
    · omega
    · exact h
  · have hle := frameSize_mono h
    omega

/-- A budget that does not hold the header is refused before anything is written. -/
lemma encodeBinaryBoundedInto_small (builder : ReplicationFrameBuilder) (station : Station F)
    (components : ComponentStore) (selection : ComponentSelection) (clientId : ClientId)
    (serverTick : Tick) (plan : ReplicationPlan) {maxFrameBytes : ℕ} (out : List UInt8)
    (hbudget : maxFrameBytes < binaryHeaderBytes) :
    builder.encodeBinaryBoundedInto station components selection clientId serverTick plan
        maxFrameBytes out
      = (.error (.frameBudgetTooSmall maxFrameBytes binaryHeaderBytes), out) := by
  rw [encodeBinaryBoundedInto, if_pos hbudget]
  rfl

/-- With a larger one, success means that the longest prefix of the entities was appended. -/
lemma encodeBinaryBoundedInto_ok (builder : ReplicationFrameBuilder) (station : Station F)
    (components : ComponentStore) (selection : ComponentSelection) (clientId : ClientId)
    (serverTick : Tick) (plan : ReplicationPlan) {maxFrameBytes : ℕ} {out out' : List UInt8}
    (hbudget : binaryHeaderBytes ≤ maxFrameBytes) {stats : ReplicationFrameBuildStats}
    (hend : builder.encodeBinaryBoundedInto station components selection clientId serverTick plan
        maxFrameBytes out = (.ok stats, out')) :
    let unbounded := (builder.build station components selection clientId serverTick plan).frame
    ∃ (bytes : List UInt8) (frame : ReplicationFrame),
      out' = out ++ bytes ∧ bytes.length ≤ maxFrameBytes
        ∧ decode bytes = some (.ok (.replication frame))
        ∧ LongestPrefix maxFrameBytes frame.entities unbounded.entities
        ∧ (frame.clientId, frame.serverTick, frame.entityCount)
          = (clientId, serverTick, unbounded.entityCount)
        ∧ stats.encodedEntities = frame.entities.length
        ∧ stats.encodedComponents = componentCount frame.entities
        ∧ stats.skippedEntitiesByFrameBytes
          = if frame.entities = unbounded.entities then 0 else 1 := by
  have hspec := builder.encodeBinaryBoundedInto_spec station components selection clientId
    serverTick plan hbudget out
  rw [hend] at hspec
  cases hspec with
  | @stopped entities entity _ estimated hextends hfits hwithin hbeyond hentities hcomponents
      hskipped =>
      refine ⟨_, _, rfl, ?_, decode_bytes hfits,
        longestPrefix_of_beyond hextends hwithin hbeyond, rfl, hentities, hcomponents, ?_⟩
      · rw [length_bytes_replication]
        exact hwithin
      · have hne : entities ≠ (builder.build station components selection clientId serverTick
            plan).frame.entities := by
          intro heq
          have hlength := hextends.length_le
          rw [← heq, List.length_append, List.length_singleton] at hlength
          omega
        rw [hskipped]
        exact (if_neg hne).symm
  | finished hfits hwithin hcounted =>
      refine ⟨_, _, rfl, ?_, decode_bytes hfits,
        ⟨List.prefix_rfl, hwithin, fun longer hlonger _ => hlonger⟩, rfl, rfl,
        hcounted.components, ?_⟩
      · rw [length_bytes_replication]
        exact hwithin
      · rw [if_pos rfl]
        exact hcounted.skipped

/-- **Bounded encoding.**  With a budget that holds the header, an encoder that succeeds keeps what
is in the buffer and appends a frame of at most that many bytes, whose entities are the longest
prefix of those of `build` that fits; the statistics count its entities and components, and report
one entity that was taken back exactly when others are left.  With a smaller budget it leaves the
buffer alone. -/
theorem bounded_encodes_longest (builder : ReplicationFrameBuilder) (station : Station F)
    (components : ComponentStore) (selection : ComponentSelection) (clientId : ClientId)
    (serverTick : Tick) (plan : ReplicationPlan) (maxFrameBytes : ℕ) (out : List UInt8) :
    (maxFrameBytes < binaryHeaderBytes →
      builder.encodeBinaryBoundedInto station components selection clientId serverTick plan
          maxFrameBytes out
        = (.error (.frameBudgetTooSmall maxFrameBytes binaryHeaderBytes), out))
      ∧ (binaryHeaderBytes ≤ maxFrameBytes → ∀ stats out',
        builder.encodeBinaryBoundedInto station components selection clientId serverTick plan
            maxFrameBytes out
          = (.ok stats, out') →
        let unbounded :=
          (builder.build station components selection clientId serverTick plan).frame
        ∃ (bytes : List UInt8) (frame : ReplicationFrame),
          out' = out ++ bytes ∧ bytes.length ≤ maxFrameBytes
            ∧ decode bytes = some (.ok (.replication frame))
            ∧ LongestPrefix maxFrameBytes frame.entities unbounded.entities
            ∧ (frame.clientId, frame.serverTick, frame.entityCount)
              = (clientId, serverTick, unbounded.entityCount)
            ∧ stats.encodedEntities = frame.entities.length
            ∧ stats.encodedComponents = componentCount frame.entities
            ∧ stats.skippedEntitiesByFrameBytes
              = if frame.entities = unbounded.entities then 0 else 1) := by
  constructor
  · exact builder.encodeBinaryBoundedInto_small station components selection clientId serverTick
      plan out
  · intro hbudget stats out' hend
    exact builder.encodeBinaryBoundedInto_ok station components selection clientId serverTick plan
      hbudget hend

/-- A budget that is one byte short of the entity. -/
theorem bounded_encodes_longest_one :
    ∃ (bytes : List UInt8) (frame : ReplicationFrame),
      (encodeBinaryBoundedInto ⟨.default⟩ onePlayer oneBlob ⟨[⟨1⟩]⟩ ⟨5⟩ ⟨9⟩
          ⟨[⟨0, 0⟩], .default⟩ 64 [1]).2 = [1] ++ bytes
        ∧ decode bytes = some (.ok (.replication frame)) ∧ frame.entities.length = 0 := by
  obtain ⟨bytes, frame, hout, -, hdecode, -, -, hcount, -⟩ :=
    (bounded_encodes_longest ⟨.default⟩ onePlayer oneBlob ⟨[⟨1⟩]⟩ ⟨5⟩ ⟨9⟩ ⟨[⟨0, 0⟩], .default⟩ 64
      [1]).2 (by decide) _ _ rfl
  exact ⟨bytes, frame, hout, hdecode, hcount.symm⟩

end ReplicationFrameBuilder

end SectorSync
