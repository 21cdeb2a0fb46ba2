import SectorSync.Base.Requests
import SectorSync.Wire.RoundTrip
import Mathlib.Order.Bounds.Basic

/-!
# Storage that the owned decoder asks for

The owned decoder makes room for as many elements as a count announces before it reads the first of
them.  Here it is with these requests: without them it is the decoder of `Wire.Codec`
(`erase_decodeRuntimeFrame`).  `requests_bounded_iff` says on which inputs every request is one that
the bytes ahead could fill; all inputs that the decoder accepts are among them
(`countsFit_of_accepted`).
-/

namespace SectorSync

open Bytes

/-- The elements that a count announces. -/
inductive CountedItem where
  | entity
  | component
  deriving DecidableEq

/-- The fewest bytes that spell one. -/
def CountedItem.minimumBytes : CountedItem → ℕ
  | .entity => 18
  | .component => 15

lemma CountedItem.minimumBytes_pos (item : CountedItem) : 0 < item.minimumBytes := by
  cases item with
  | entity => decide
  | component => decide

lemma ComponentDelta.isLeast_length_body :
    IsLeast (Set.range fun component : ComponentDelta => component.body.length)
      CountedItem.component.minimumBytes := by
  constructor
  · exact ⟨⟨⟨0⟩, 0, 0, []⟩, rfl⟩
  · rintro _ ⟨component, rfl⟩
    simp only [body, payloadBytes, le16, le64, List.length_append, length_toLe,
      List.length_singleton, CountedItem.minimumBytes]
    omega

lemma EntityDelta.isLeast_length_body :
    IsLeast (Set.range fun entity : EntityDelta => entity.body.length)
      CountedItem.entity.minimumBytes := by
  constructor
  · exact ⟨⟨⟨0⟩, ⟨0⟩, []⟩, rfl⟩
  · rintro _ ⟨entity, rfl⟩
    simp only [body, le64, List.length_append, length_toLe, CountedItem.minimumBytes]
    omega

namespace Wire

open Decoder Metered

/-! ## The decoder with its requests -/

/-- The body of the entity loop. -/
def decodeEntityMetered : Metered CountedItem BinaryDecodeError EntityDelta := do
  let entityId ← read readId64
  let ownerEpoch ← read readId64
  let components ← (do
    let encodedComponentCount ← read readU16
    (read decodeComponentRef).collect .component encodedComponentCount.toNat)
  return { entityId, ownerEpoch, components }

def decodeReplicationMetered : Metered CountedItem BinaryDecodeError ReplicationFrame := do
  let clientId ← read readId64
  let serverTick ← read readId64
  let entityCount ← read readU32
  let estimatedPayloadBytes ← read readU32
  let entities ← (do
    let encodedEntityCount ← read readU32
    decodeEntityMetered.collect .entity encodedEntityCount.toNat)
  return { clientId, serverTick, entityCount, estimatedPayloadBytes, entities }

/-- The frame at the front of the input.  Only replication frames hold counts. -/
def decodeRuntimeFrameMetered : Metered CountedItem BinaryDecodeError RuntimeFrame := do
  let kindByte ← read readU8
  match FrameKind.fromByte kindByte with
  | none => read (Reader.fail (.unknownFrameKind kindByte))
  | some .replication => do
      let frame ← decodeReplicationMetered
      return .replication frame
  | some kind => read (decodeFrame kind)

/-- The room that `decode` asks for, in the order in which it does. -/
def decodeRequests (input : List UInt8) : List (Request CountedItem) :=
  decodeRuntimeFrameMetered.requests input

lemma erase_decodeEntity : decodeEntityMetered.erase = decodeEntity := by
  simp [decodeEntityMetered, decodeEntity]

lemma erase_decodeReplication : decodeReplicationMetered.erase = decodeReplicationOwned := by
  simp [decodeReplicationMetered, decodeReplicationOwned, erase_decodeEntity]

/-- Without its requests it is the decoder. -/
lemma erase_decodeRuntimeFrame : decodeRuntimeFrameMetered.erase = decodeRuntimeFrame := by
  simp only [decodeRuntimeFrameMetered, decodeRuntimeFrame, erase_bind, erase_read]
  congr 1
  funext kindByte
  cases FrameKind.fromByte kindByte with
  | none => rfl
  | some kind =>
      cases kind with
      | replication => simp [decodeFrame, erase_decodeReplication]
      | _ => rfl

/-! ## Its requests -/

/-- Any bytes of the right length are a word. -/
lemma exists_le64_iff {bytes : List UInt8} : (∃ value, bytes = le64 value) ↔ bytes.length = 8 := by
  constructor
  · rintro ⟨value, rfl⟩
    exact length_toLe _ _
  · intro hlen
    have hlt := ofLe_lt bytes
    rw [hlen] at hlt
    refine ⟨UInt64.ofNat (ofLe bytes), ?_⟩
    rw [le64, UInt64.toNat_ofNat_of_lt' hlt, ← hlen, toLe_ofLe]

lemma exists_le32_iff {bytes : List UInt8} : (∃ value, bytes = le32 value) ↔ bytes.length = 4 := by
  constructor
  · rintro ⟨value, rfl⟩
    exact length_toLe _ _
  · intro hlen
    have hlt := ofLe_lt bytes
    rw [hlen] at hlt
    refine ⟨UInt32.ofNat (ofLe bytes), ?_⟩
    rw [le32, UInt32.toNat_ofNat_of_lt' hlt, ← hlen, toLe_ofLe]

/-- The bytes of an entity up to its components: its id, its epoch and the number of components. -/
def SpellsEntityHeader (bytes : List UInt8) (counted : UInt16) : Prop :=
  ∃ fields, fields.length = 16 ∧ bytes = fields ++ le16 counted

/-- The bytes of a replication frame up to its entities. -/
def SpellsFrameHeader (bytes : List UInt8) (counted : UInt32) : Prop :=
  ∃ fields, fields.length = 24 ∧ bytes = FrameKind.replication.toByte :: fields ++ le32 counted

lemma asks_decodeEntity :
    Asks decodeEntityMetered fun rest request => ∃ header counted rest',
      SpellsEntityHeader header counted ∧ rest = header ++ rest'
        ∧ request = ⟨.component, counted.toNat, rest'.length⟩ := by
  have hcomponents : ∀ counted : UInt16,
      Asks ((read decodeComponentRef).collect CountedItem.component counted.toNat)
        fun rest request => request = ⟨.component, counted.toNat, rest.length⟩ := fun counted =>
    ((Asks.read decodeComponentRef).collect parses_decodeComponentRef CountedItem.component
      counted.toNat).congr fun rest request => by simp
  refine (Asks.after parses_readId64 fun entityId => Asks.after parses_readId64 fun ownerEpoch =>
    (Asks.after parses_readU16 hcomponents).map).congr fun rest request => ?_
  constructor
  · rintro ⟨_, _, entityId, rfl, ⟨rfl, -⟩, _, _, ownerEpoch, rfl, ⟨rfl, -⟩, _, rest', counted, rfl,
      ⟨rfl, -⟩, rfl⟩
    exact ⟨_, counted, rest', ⟨le64 entityId.get ++ le64 ownerEpoch.get, by simp [le64], rfl⟩,
      by simp, rfl⟩
  · rintro ⟨_, counted, rest', ⟨fields, hlen, rfl⟩, rfl, rfl⟩
    obtain ⟨id, hid⟩ := exists_le64_iff.mpr (show (fields.take 8).length = 8 by simp [hlen])
    obtain ⟨epoch, hepoch⟩ := exists_le64_iff.mpr (show (fields.drop 8).length = 8 by simp [hlen])
    have hfields : fields = le64 id ++ le64 epoch := by
      rw [← hid, ← hepoch, List.take_append_drop]
    refine ⟨le64 id, le64 epoch ++ (le16 counted ++ rest'), ⟨id⟩, by simp [hfields],
      ⟨rfl, trivial⟩, le64 epoch, le16 counted ++ rest', ⟨epoch⟩, rfl, ⟨rfl, trivial⟩,
      le16 counted, rest', counted, rfl, ⟨rfl, trivial⟩, rfl⟩

/-- A request made after the header of a replication frame, with `rest` ahead. -/
def EntityRequest (counted : UInt32) (rest : List UInt8) (request : Request CountedItem) : Prop :=
  request = ⟨.entity, counted.toNat, rest.length⟩
    ∨ ∃ (entities : List EntityDelta) (header : List UInt8) (components : UInt16)
        (rest' : List UInt8), entities.length < counted.toNat ∧ (∀ entity ∈ entities, entity.Fits)
      ∧ SpellsEntityHeader header components
      ∧ rest = entities.flatMap EntityDelta.body ++ header ++ rest'
      ∧ request = ⟨.component, components.toNat, rest'.length⟩

lemma asks_decodeReplication :
    Asks decodeReplicationMetered fun rest request => ∃ fields counted rest',
      fields.length = 24 ∧ rest = fields ++ le32 counted ++ rest'
        ∧ EntityRequest counted rest' request := by
  have hparses : Parses decodeEntityMetered.erase (Spells EntityDelta.body EntityDelta.Fits) := by
    rw [erase_decodeEntity]
    exact parses_decodeEntity
  have hentities : ∀ counted : UInt32,
      Asks (decodeEntityMetered.collect CountedItem.entity counted.toNat)
        (EntityRequest counted) := fun counted =>
    (asks_decodeEntity.collect hparses CountedItem.entity counted.toNat).congr
      fun rest request => or_congr Iff.rfl <| by
        constructor
        · rintro ⟨entities, _, hlt, hfits, rfl, header, components, rest', hheader, rfl, rfl⟩
          exact ⟨entities, header, components, rest', hlt, hfits, hheader, by simp, rfl⟩
        · rintro ⟨entities, header, components, rest', hlt, hfits, hheader, rfl, rfl⟩
          exact ⟨entities, header ++ rest', hlt, hfits, by simp, header, components, rest',
            hheader, rfl, rfl⟩
  refine (Asks.after parses_readId64 fun clientId => Asks.after parses_readId64 fun serverTick =>
    Asks.after parses_readU32 fun entityCount => Asks.after parses_readU32 fun estimated =>
    (Asks.after parses_readU32 hentities).map).congr fun rest request => ?_
  constructor
  · rintro ⟨_, _, clientId, rfl, ⟨rfl, -⟩, _, _, serverTick, rfl, ⟨rfl, -⟩, _, _, entityCount, rfl,
      ⟨rfl, -⟩, _, _, estimated, rfl, ⟨rfl, -⟩, _, rest', counted, rfl, ⟨rfl, -⟩, hrequest⟩
    exact ⟨le64 clientId.get ++ le64 serverTick.get ++ le32 entityCount ++ le32 estimated, counted,
      rest', by simp [le64, le32], by simp, hrequest⟩
  · rintro ⟨fields, counted, rest', hlen, rfl, hrequest⟩
    obtain ⟨client, hclient⟩ := exists_le64_iff.mpr
      (show (fields.take 8).length = 8 by simp [hlen])
    obtain ⟨tick, htick⟩ := exists_le64_iff.mpr
      (show ((fields.drop 8).take 8).length = 8 by simp [hlen])
    obtain ⟨count, hcount⟩ := exists_le32_iff.mpr
      (show ((fields.drop 16).take 4).length = 4 by simp [hlen])
    obtain ⟨estimated, hestimated⟩ := exists_le32_iff.mpr
      (show (fields.drop 20).length = 4 by simp [hlen])
    have hfields : fields = le64 client ++ (le64 tick ++ (le32 count ++ le32 estimated)) := by
      have h16 := List.take_append_drop 8 (fields.drop 8)
      have h20 := List.take_append_drop 4 (fields.drop 16)
      rw [List.drop_drop] at h16 h20
      rw [← hclient, ← htick, ← hcount, ← hestimated, h20, h16, List.take_append_drop]
    rw [hfields]
    refine ⟨_, _, ⟨client⟩, ?_, ⟨rfl, trivial⟩, _, _, ⟨tick⟩, rfl, ⟨rfl, trivial⟩, _, _, count, rfl,
      ⟨rfl, trivial⟩, _, _, estimated, rfl, ⟨rfl, trivial⟩, _, rest', counted, rfl,
      ⟨rfl, trivial⟩, hrequest⟩
    simp

lemma asks_decodeRuntimeFrame :
    Asks decodeRuntimeFrameMetered fun rest request => ∃ header counted rest',
      SpellsFrameHeader header counted ∧ rest = header ++ rest'
        ∧ EntityRequest counted rest' request := by
  refine (Asks.after parses_readU8 (B := fun byte rest request =>
    byte = FrameKind.replication.toByte ∧ ∃ fields counted rest', fields.length = 24
      ∧ rest = fields ++ le32 counted ++ rest' ∧ EntityRequest counted rest' request)
    fun byte => ?_).congr fun rest request => ?_
  · cases hkind : FrameKind.fromByte byte with
    | none =>
        refine (Asks.read _).congr fun rest request => iff_of_false not_false ?_
        rintro ⟨rfl, -⟩
        cases hkind
    | some kind =>
        have hbyte := (fromByte_eq_some byte kind).mp hkind
        cases kind with
        | replication =>
            exact asks_decodeReplication.map.congr fun rest request => (and_iff_right hbyte).symm
        | _ =>
            refine (Asks.read _).congr fun rest request => iff_of_false not_false ?_
            rintro ⟨rfl, -⟩
            cases hbyte
  · constructor
    · rintro ⟨_, _, byte, rfl, ⟨rfl, -⟩, rfl, fields, counted, rest', hlen, rfl, hrequest⟩
      exact ⟨_, counted, rest', ⟨fields, hlen, rfl⟩, by simp, hrequest⟩
    · rintro ⟨_, counted, rest', ⟨fields, hlen, rfl⟩, rfl, hrequest⟩
      exact ⟨[FrameKind.replication.toByte], fields ++ le32 counted ++ rest', _, by simp,
        ⟨rfl, trivial⟩, rfl, fields, counted, rest', hlen, rfl, hrequest⟩

/-! ## When the input backs them -/

/-- The bytes that follow a count are enough for as many of the shortest elements: after the header
of a replication frame, and after each entity header that complete entities lead to. -/
structure CountsFit (input : List UInt8) : Prop where
  entities : ∀ header counted rest, SpellsFrameHeader header counted → input = header ++ rest →
    counted.toNat * 18 ≤ rest.length
  components : ∀ header counted (entities : List EntityDelta) entityHeader components rest,
    SpellsFrameHeader header counted → entities.length < counted.toNat →
    (∀ entity ∈ entities, entity.Fits) → SpellsEntityHeader entityHeader components →
    input = header ++ entities.flatMap EntityDelta.body ++ entityHeader ++ rest →
    components.toNat * 15 ≤ rest.length

/-- The requests are bounded by what the remaining bytes could hold exactly on the inputs whose
counts fit. -/
lemma bounded_iff_countsFit (input : List UInt8) :
    (∀ request ∈ decodeRequests input,
        request.count ≤ request.remaining / request.item.minimumBytes)
      ↔ CountsFit input := by
  have hmem : ∀ request, request ∈ decodeRequests input
      ↔ ∃ header counted rest, SpellsFrameHeader header counted ∧ input = header ++ rest
        ∧ EntityRequest counted rest request := fun request => by
    rw [decodeRequests, requests, Cursor.start_eq_after]
    exact asks_decodeRuntimeFrame [] input request
  constructor
  · intro hbounded
    constructor
    · intro header counted rest hheader hinput
      have h := hbounded _ ((hmem _).mpr ⟨header, counted, rest, hheader, hinput, Or.inl rfl⟩)
      exact (Nat.le_div_iff_mul_le (by decide)).mp h
    · intro header counted entities entityHeader components rest hheader hlt hfits hentity hinput
      have hrequest : EntityRequest counted
          (entities.flatMap EntityDelta.body ++ entityHeader ++ rest)
          ⟨.component, components.toNat, rest.length⟩ :=
        Or.inr ⟨entities, entityHeader, components, rest, hlt, hfits, hentity, rfl, rfl⟩
      have h := hbounded _ ((hmem _).mpr ⟨header, counted, _, hheader, by simp [hinput], hrequest⟩)
      exact (Nat.le_div_iff_mul_le (by decide)).mp h
  · intro hfit request hrequest
    obtain ⟨header, counted, rest, hheader, hinput, hwhich⟩ := (hmem request).mp hrequest
    rcases hwhich with rfl | ⟨entities, entityHeader, components, rest', hlt, hfits, hentity, rfl,
      rfl⟩
    · exact (Nat.le_div_iff_mul_le (CountedItem.minimumBytes_pos _)).mpr
        (hfit.entities _ _ _ hheader hinput)
    · exact (Nat.le_div_iff_mul_le (CountedItem.minimumBytes_pos _)).mpr
        (hfit.components _ _ entities _ _ rest' hheader hlt hfits hentity (by simp [hinput]))

/-! ## Accepted inputs -/

/-- The requests of a frame that is read are backed by the bytes ahead. -/
lemma backed_decodeRuntimeFrame : Backed decodeRuntimeFrameMetered CountedItem.minimumBytes := by
  have hcomponents : ∀ count,
      Backed ((read decodeComponentRef).collect CountedItem.component count)
        CountedItem.minimumBytes :=
    (Backed.read decodeComponentRef).collect parses_decodeComponentRef
      fun component => ComponentDelta.isLeast_length_body.2 ⟨component, rfl⟩
  have hentity : Backed decodeEntityMetered CountedItem.minimumBytes :=
    Backed.after parses_readId64 fun entityId => Backed.after parses_readId64 fun ownerEpoch =>
      (Backed.after parses_readU16 fun counted => hcomponents counted.toNat).map
  have hparses : Parses decodeEntityMetered.erase (Spells EntityDelta.body EntityDelta.Fits) := by
    rw [erase_decodeEntity]
    exact parses_decodeEntity
  have hentities : ∀ count, Backed (decodeEntityMetered.collect CountedItem.entity count)
      CountedItem.minimumBytes :=
    hentity.collect hparses fun entity => EntityDelta.isLeast_length_body.2 ⟨entity, rfl⟩
  have hframe : Backed decodeReplicationMetered CountedItem.minimumBytes :=
    Backed.after parses_readId64 fun clientId => Backed.after parses_readId64 fun serverTick =>
      Backed.after parses_readU32 fun entityCount => Backed.after parses_readU32 fun estimated =>
        (Backed.after parses_readU32 fun counted => hentities counted.toNat).map
  refine Backed.after parses_readU8 fun byte => ?_
  cases FrameKind.fromByte byte with
  | none => exact Backed.read _
  | some kind =>
      cases kind with
      | replication => exact hframe.map
      | _ => exact Backed.read _

/-- No input that is accepted asks for more than it holds. -/
lemma countsFit_of_accepted {input : List UInt8} {frame : RuntimeFrame}
    (h : decode input = some (.ok frame)) : CountsFit input := by
  rw [← bounded_iff_countsFit]
  intro request hrequest
  have hread := parses_decodeRuntimeFrame.complete ((decode_eq_ok_iff input frame).mp h) [] []
  rw [List.append_nil, ← erase_decodeRuntimeFrame] at hread
  exact (Nat.le_div_iff_mul_le (CountedItem.minimumBytes_pos _)).mpr
    (backed_decodeRuntimeFrame [] input frame _ hread request hrequest)

/-- **What the owned decoder asks for.**  The requests are those of the decoder, and they are bounded
by what the remaining bytes could hold exactly on the inputs whose counts fit, with all inputs that
are accepted among them. -/
theorem requests_bounded_iff (input : List UInt8) :
    decodeRuntimeFrameMetered.erase = decodeRuntimeFrame
      ∧ ((∀ request ∈ decodeRequests input,
          request.count ≤ request.remaining / request.item.minimumBytes)
        ↔ CountsFit input)
      ∧ ∀ frame, decode input = some (.ok frame) → CountsFit input :=
  ⟨erase_decodeRuntimeFrame, bounded_iff_countsFit input, fun _ => countsFit_of_accepted⟩

/-- Twenty-nine bytes that announce as many entities as a count can. -/
theorem requests_unbounded :
    ¬ ∀ input, ∀ request ∈ decodeRequests input,
      request.count ≤ request.remaining / request.item.minimumBytes := by
  intro hall
  have h := hall (List.replicate 25 0 ++ [255, 255, 255, 255]) ⟨.entity, 4294967295, 0⟩
    (by decide)
  exact absurd h (by decide)

end Wire

end SectorSync
