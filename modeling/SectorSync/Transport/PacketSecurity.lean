import SectorSync.Base.Codec
import SectorSync.Core.Command
import SectorSync.Transport.KeyRing
import SectorSync.Transport.ReliableLink

/-!
# Packet security

`PacketSecurityBox` of the transport crate: packets are sealed under a key and a nonce, and opened
after their tag has been verified and their key and nonce have been found fresh.  The embedder's
cipher and authenticator are parameters, as functions of what they are given: a buffer that they
change is an argument and a part of the result.

`packetKey` is the pair of a key id and a nonce.  The entry points come in pairs, one that returns
owned bytes and one that uses the caller's buffers.
-/

namespace SectorSync

open Bytes

/-! ## Configuration and errors -/

/-- Packet security framing configuration. -/
structure PacketSecurityConfig where
  /-- Maximum encrypted and authenticated payload bytes. -/
  maxPayloadBytes : ℕ
  /-- Maximum authentication tag bytes. -/
  maxTagBytes : ℕ
  /-- Maximum accepted pairs of key id and nonce retained for replay checks. -/
  maxReplayHistory : ℕ
  deriving DecidableEq

/-- Packet security encode error. -/
inductive PacketSecurityEncodeError where
  | payloadTooLarge (budget actual : ℕ)
  | tagTooLarge (budget actual : ℕ)
  deriving DecidableEq

/-- Packet security decode error. -/
inductive PacketSecurityDecodeError where
  | badMagic
  | truncated (needed available : ℕ)
  | payloadTooLarge (budget actual : ℕ)
  | tagTooLarge (budget actual : ℕ)
  | trailingBytes (bytes : ℕ)
  deriving DecidableEq

/-- Error produced by packet security helpers. -/
inductive PacketSecurityError (A C : Type) where
  | encode (error : PacketSecurityEncodeError)
  | decode (error : PacketSecurityDecodeError)
  | authenticator (error : A)
  | cipher (error : C)
  /-- Key lifecycle policy rejected the packet or send attempt. -/
  | key (error : PacketKeyRingError)
  /-- Authenticator returned false. -/
  | authenticationFailed (keyId : UInt32) (nonce : UInt64)
  /-- Replay window rejected the nonce. -/
  | replay (keyId : UInt32) (nonce : UInt64)
  deriving DecidableEq

/-- Packet authenticator hook. -/
structure PacketAuthenticator (A : Type) where
  /-- Appends a tag over the key id, the nonce and the payload to a buffer. -/
  sign : UInt32 → UInt64 → List UInt8 → List UInt8 → Except A Unit × List UInt8
  /-- Verifies a tag over the key id, the nonce and the payload. -/
  verify : UInt32 → UInt64 → List UInt8 → List UInt8 → Except A Bool

/-- Packet cipher hook. -/
structure PacketCipher (C : Type) where
  /-- Seals a payload in place before authentication: `seal`. -/
  sealPayload : UInt32 → UInt64 → List UInt8 → Except C Unit × List UInt8
  /-- Opens a payload in place after authentication: `open`. -/
  openPayload : UInt32 → UInt64 → List UInt8 → Except C Unit × List UInt8

/-- Cipher that leaves payload bytes unchanged. -/
def PlaintextPacketCipher : PacketCipher Empty where
  sealPayload _ _ payload := (.ok (), payload)
  openPayload _ _ payload := (.ok (), payload)

/-! ## Envelopes -/

/-- `PACKET_SECURITY_MAGIC`, `SSEC`. -/
def packetSecurityMagic : List UInt8 := [83, 83, 69, 67]

/-- Packet security envelope. -/
structure PacketSecurityEnvelope where
  /-- External key identifier chosen by the embedder. -/
  keyId : UInt32
  /-- Nonce scoped to the key id. -/
  nonce : UInt64
  payload : List UInt8
  tag : List UInt8
  deriving DecidableEq

namespace PacketSecurityEnvelope

/-- Appends an envelope. -/
def encodeParts (config : PacketSecurityConfig) (keyId : UInt32) (nonce : UInt64)
    (payload tag : List UInt8) : Bytes.Writer PacketSecurityEncodeError Unit :=
  if payload.length > config.maxPayloadBytes then
    Writer.fail (.payloadTooLarge config.maxPayloadBytes payload.length)
  else if tag.length > config.maxTagBytes then
    Writer.fail (.tagTooLarge config.maxTagBytes tag.length)
  else if payload.length ≥ 2 ^ 32 then
    Writer.fail (.payloadTooLarge config.maxPayloadBytes payload.length)
  else if tag.length ≥ 2 ^ 16 then
    Writer.fail (.tagTooLarge config.maxTagBytes tag.length)
  else do
    Writer.extend packetSecurityMagic
    Writer.extend (toLe 4 keyId.toNat)
    Writer.extend (toLe 8 nonce.toNat)
    Writer.extend (toLe 4 payload.length)
    Writer.extend (toLe 2 tag.length)
    Writer.extend payload
    Writer.extend tag

/-- The next `len` bytes. -/
def readSlice (len : ℕ) : Reader PacketSecurityDecodeError (List UInt8) := do
  Reader.require .truncated len
  Reader.next len

def readU16 : Reader PacketSecurityDecodeError UInt16 := do
  let bytes ← readSlice 2
  return UInt16.ofNat (ofLe bytes)

def readU32 : Reader PacketSecurityDecodeError UInt32 := do
  let bytes ← readSlice 4
  return UInt32.ofNat (ofLe bytes)

def readU64 : Reader PacketSecurityDecodeError UInt64 := do
  let bytes ← readSlice 8
  return UInt64.ofNat (ofLe bytes)

/-- The fields of an envelope after its magic bytes. -/
def decodeFields (config : PacketSecurityConfig) :
    Reader PacketSecurityDecodeError PacketSecurityEnvelope := do
  let keyId ← readU32
  let nonce ← readU64
  let payloadLen ← readU32
  let tagLen ← readU16
  if payloadLen.toNat > config.maxPayloadBytes then
    Reader.fail (.payloadTooLarge config.maxPayloadBytes payloadLen.toNat)
  else if tagLen.toNat > config.maxTagBytes then
    Reader.fail (.tagTooLarge config.maxTagBytes tagLen.toNat)
  else do
    let payload ← readSlice payloadLen.toNat
    let tag ← readSlice tagLen.toNat
    return { keyId, nonce, payload, tag }

/-- Decodes and validates an envelope; `none` is an access outside the input. -/
def decodeRef (config : PacketSecurityConfig) (input : List UInt8) :
    Option (Except PacketSecurityDecodeError PacketSecurityEnvelope) :=
  Reader.parse (do
    let envelope ← (do
      let magic ← readSlice 4
      if magic ≠ packetSecurityMagic then Reader.fail .badMagic else decodeFields config)
    Reader.finish .trailingBytes
    return envelope) input

end PacketSecurityEnvelope

namespace PacketSecurityEnvelope

/-! ### The format -/

def body (envelope : PacketSecurityEnvelope) : List UInt8 :=
  toLe 4 envelope.keyId.toNat ++ toLe 8 envelope.nonce.toNat
    ++ toLe 4 envelope.payload.length ++ toLe 2 envelope.tag.length ++ envelope.payload
    ++ envelope.tag

/-- The payload and the tag are within their budgets and their lengths within their fields. -/
def Fits (config : PacketSecurityConfig) (envelope : PacketSecurityEnvelope) : Prop :=
  envelope.payload.length ≤ config.maxPayloadBytes ∧ envelope.tag.length ≤ config.maxTagBytes
    ∧ envelope.payload.length < 2 ^ 32 ∧ envelope.tag.length < 2 ^ 16

lemma parses_readU16 :
    Parses readU16 (Spells (fun value => toLe 2 value.toNat) fun _ => True) :=
  Parses.word _ (fun _ => UInt16.ofNat_toNat) (fun _ h => UInt16.toNat_ofNat_of_lt' h)
    UInt16.toNat_lt

lemma parses_readU32 :
    Parses readU32 (Spells (fun value => toLe 4 value.toNat) fun _ => True) :=
  Parses.word _ (fun _ => UInt32.ofNat_toNat) (fun _ h => UInt32.toNat_ofNat_of_lt' h)
    UInt32.toNat_lt

lemma parses_readU64 :
    Parses readU64 (Spells (fun value => toLe 8 value.toNat) fun _ => True) :=
  Parses.word _ (fun _ => UInt64.ofNat_toNat) (fun _ h => UInt64.toNat_ofNat_of_lt' h)
    UInt64.toNat_lt

lemma parses_readSlice (len : ℕ) :
    Parses (readSlice len) fun bytes slice => bytes = slice ∧ slice.length = len :=
  Parses.next _ len

lemma parses_decodeFields (config : PacketSecurityConfig) :
    Parses (decodeFields config) (Spells body (Fits config)) := by
  refine (parses_readU32.bind fun keyId => parses_readU64.bind fun nonce =>
    parses_readU32.bind fun payloadLen => parses_readU16.bind fun tagLen =>
      (Parses.guarded _ _ (Parses.guarded _ _ ((parses_readSlice _).bind fun payload =>
        (parses_readSlice _).map)))).congr fun bytes envelope => ?_
  constructor
  · rintro ⟨_, _, keyId, rfl, ⟨rfl, -⟩, _, _, nonce, rfl, ⟨rfl, -⟩, _, _, payloadLen, rfl, ⟨rfl, -⟩,
      _, _, tagLen, rfl, ⟨rfl, -⟩, hpayload, htag, _, _, payload, rfl, ⟨rfl, hpayloadLen⟩, tag,
      ⟨rfl, htagLen⟩, rfl⟩
    refine ⟨?_, ?_, ?_, ?_, ?_⟩
    · simp [body, hpayloadLen, htagLen]
    · show List.length _ ≤ _
      rw [hpayloadLen]
      exact Nat.not_lt.mp hpayload
    · show List.length _ ≤ _
      rw [htagLen]
      exact Nat.not_lt.mp htag
    · show List.length _ < _
      rw [hpayloadLen]
      exact payloadLen.toNat_lt
    · show List.length _ < _
      rw [htagLen]
      exact tagLen.toNat_lt
  · rintro ⟨rfl, hpayload, htag, hpayloadLen, htagLen⟩
    have hpayloadWord : (UInt32.ofNat envelope.payload.length).toNat = envelope.payload.length :=
      UInt32.toNat_ofNat_of_lt' hpayloadLen
    have htagWord : (UInt16.ofNat envelope.tag.length).toNat = envelope.tag.length :=
      UInt16.toNat_ofNat_of_lt' htagLen
    refine ⟨_, _, envelope.keyId, ?_, ⟨rfl, trivial⟩, _, _, envelope.nonce, rfl, ⟨rfl, trivial⟩,
      _, _, UInt32.ofNat envelope.payload.length, rfl, ⟨rfl, trivial⟩, _, _,
      UInt16.ofNat envelope.tag.length, rfl, ⟨rfl, trivial⟩, ?_, ?_, _, _, envelope.payload, rfl,
      ⟨rfl, hpayloadWord.symm⟩, envelope.tag, ⟨rfl, htagWord.symm⟩, rfl⟩
    · simp [body, hpayloadWord, htagWord]
    · omega
    · omega

/-- The whole envelope before the end of the input. -/
lemma parses_envelope (config : PacketSecurityConfig) :
    Parses (do
        let magic ← readSlice 4
        if magic ≠ packetSecurityMagic then Reader.fail .badMagic else decodeFields config)
      (Spells (fun envelope => packetSecurityMagic ++ envelope.body) (Fits config)) := by
  refine ((parses_readSlice 4).bind fun magic =>
    (parses_decodeFields config).guarded (magic ≠ packetSecurityMagic) .badMagic).congr
      fun bytes envelope => ?_
  constructor
  · rintro ⟨_, _, magic, rfl, ⟨rfl, -⟩, hmagic, rfl, hfits⟩
    rw [ne_eq, not_not] at hmagic
    exact ⟨by rw [hmagic], hfits⟩
  · rintro ⟨rfl, hfits⟩
    exact ⟨_, _, packetSecurityMagic, rfl, ⟨rfl, rfl⟩, fun h => h rfl, rfl, hfits⟩

/-- What the decoder returns: no access goes outside the input. -/
def decode (config : PacketSecurityConfig) (input : List UInt8) :
    Except PacketSecurityDecodeError PacketSecurityEnvelope :=
  (decodeRef config input).get
    (Option.isSome_iff_ne_none.mpr ((parses_envelope config).parse_ne_none _ input))

/-- An envelope that fits is appended, and the buffer is left alone by one that does not. -/
lemma encodeParts_cases (config : PacketSecurityConfig) (envelope : PacketSecurityEnvelope) :
    (envelope.Fits config ∧ ∀ out,
        encodeParts config envelope.keyId envelope.nonce envelope.payload envelope.tag out
          = (.ok (), out ++ (packetSecurityMagic ++ envelope.body)))
      ∨ (¬ envelope.Fits config ∧ ∃ error, ∀ out,
        encodeParts config envelope.keyId envelope.nonce envelope.payload envelope.tag out
          = (.error error, out)) := by
  unfold encodeParts
  split_ifs with hpayload htag hpayloadLen htagLen
  · exact .inr ⟨fun hfits => Nat.not_lt.mpr hfits.1 hpayload, _, fun out => rfl⟩
  · exact .inr ⟨fun hfits => Nat.not_lt.mpr hfits.2.1 htag, _, fun out => rfl⟩
  · exact .inr ⟨fun hfits => Nat.not_le.mpr hfits.2.2.1 hpayloadLen, _, fun out => rfl⟩
  · exact .inr ⟨fun hfits => Nat.not_le.mpr hfits.2.2.2 htagLen, _, fun out => rfl⟩
  · refine .inl ⟨⟨Nat.not_lt.mp hpayload, Nat.not_lt.mp htag, Nat.not_le.mp hpayloadLen,
      Nat.not_le.mp htagLen⟩, fun out => ?_⟩
    simp [Writer.bind_eq, Writer.extend, body]

/-- **Round trip.**  An envelope that is encoded is decoded under the same limits. -/
lemma decode_encodeParts {config : PacketSecurityConfig} {envelope : PacketSecurityEnvelope}
    (h : envelope.Fits config) :
    decode config (packetSecurityMagic ++ envelope.body) = .ok envelope := by
  have hparse := ((parses_envelope config).parse_eq_ok_iff PacketSecurityDecodeError.trailingBytes).mpr
    (⟨rfl, h⟩ : Spells (fun envelope => packetSecurityMagic ++ envelope.body) (Fits config) _ envelope)
  exact Option.get_of_eq_some _ hparse

end PacketSecurityEnvelope

/-! ## The replay window -/

/-- Bounded replay window for security envelopes. -/
structure PacketReplayWindow where
  maxSeen : ℕ
  seen : BoundedLookupSet (PacketKey UInt32)
  order : List (PacketKey UInt32)

namespace PacketReplayWindow

/-- An empty replay window. -/
def new (maxSeen : ℕ) : PacketReplayWindow := ⟨maxSeen, .new maxSeen, []⟩

/-- Whether a pair of key id and nonce was already accepted. -/
def contains (window : PacketReplayWindow) (keyId : UInt32) (nonce : UInt64) : Bool :=
  window.seen.contains ⟨keyId, nonce⟩

/-- Records a pair of key id and nonce if it has not been seen. -/
def accept (window : PacketReplayWindow) (keyId : UInt32) (nonce : UInt64) :
    Bool × PacketReplayWindow :=
  if window.maxSeen = 0 then (true, window)
  else
    let key := ⟨keyId, nonce⟩
    if window.seen.contains key then (false, window)
    else
      let (order, seen) :=
        ReliableReceiver.evict window.maxSeen (window.order ++ [key]) (window.seen.insert key)
      (true, { window with seen := seen, order := order })

end PacketReplayWindow

/-! ## The box -/

/-- Packet security box statistics: counted in ℕ here, where the source saturates at
`usize::MAX`. -/
structure PacketSecurityStats where
  sealed : ℕ
  opened : ℕ
  keyRejected : ℕ
  authFailed : ℕ
  replayRejected : ℕ
  deriving DecidableEq

/-- Caller-owned reusable payload and tag storage for packet sealing. -/
structure PacketSecurityScratch where
  sealedPayload : List UInt8
  tag : List UInt8

/-- Caller-owned reusable payload storage for packet opening. -/
structure PacketSecurityOpenScratch where
  payload : List UInt8

/-- Borrowed result of opening one packet into caller-owned scratch. -/
structure PacketSecurityOpenView where
  keyId : UInt32
  nonce : UInt64
  payload : List UInt8
  deriving DecidableEq

/-- Bounded packet security helper combining nonce allocation, authentication, optional encryption,
and replay checks. -/
structure PacketSecurityBox (A C : Type) where
  config : PacketSecurityConfig
  authenticator : PacketAuthenticator A
  cipher : PacketCipher C
  replay : PacketReplayWindow
  nextNonce : BTreeMap UInt32 UInt64
  stats : PacketSecurityStats

namespace PacketSecurityBox

variable {A C : Type}

/-- Creates a packet security box. -/
def new (config : PacketSecurityConfig) (authenticator : PacketAuthenticator A)
    (cipher : PacketCipher C) : PacketSecurityBox A C where
  config := config
  authenticator := authenticator
  cipher := cipher
  replay := .new config.maxReplayHistory
  nextNonce := ∅
  stats := ⟨0, 0, 0, 0, 0⟩

/-! ### Sealing -/

def allocateNonce (box : PacketSecurityBox A C) (keyId : UInt32) :
    UInt64 × PacketSecurityBox A C :=
  let next := (box.nextNonce.lookup keyId).getD 1
  (next, { box with nextNonce := box.nextNonce.insert keyId (next.saturatingAdd 1) })

/-- Seals and signs a payload in the scratch buffers. -/
def prepareSeal (box : PacketSecurityBox A C) (keyId : UInt32) (nonce : UInt64)
    (payload : List UInt8) (scratch : PacketSecurityScratch) :
    Except (PacketSecurityError A C) Unit × PacketSecurityScratch :=
  if payload.length > box.config.maxPayloadBytes then
    (.error (.encode (.payloadTooLarge box.config.maxPayloadBytes payload.length)), scratch)
  else
    match box.cipher.sealPayload keyId nonce payload with
    | (.error error, sealedPayload) => (.error (.cipher error), { scratch with sealedPayload })
    | (.ok (), sealedPayload) =>
        match box.authenticator.sign keyId nonce sealedPayload [] with
        | (.error error, tag) => (.error (.authenticator error), { sealedPayload, tag })
        | (.ok (), tag) => (.ok (), { sealedPayload, tag })

/-- Counts a packet that was sealed. -/
def countSealed (box : PacketSecurityBox A C) : PacketSecurityBox A C :=
  { box with stats := { box.stats with sealed := usizeSaturatingAdd box.stats.sealed 1 } }

/-- Seals and appends one payload with an explicit nonce and reusable storage. -/
def sealWithNonceInto (box : PacketSecurityBox A C) (keyId : UInt32) (nonce : UInt64)
    (payload out : List UInt8) (scratch : PacketSecurityScratch) :
    Except (PacketSecurityError A C) Unit × PacketSecurityBox A C × List UInt8
      × PacketSecurityScratch :=
  match box.prepareSeal keyId nonce payload scratch with
  | (.error error, scratch) => (.error error, box, out, scratch)
  | (.ok (), scratch) =>
      match PacketSecurityEnvelope.encodeParts box.config keyId nonce scratch.sealedPayload
          scratch.tag out with
      | (.error error, out) => (.error (.encode error), box, out, scratch)
      | (.ok (), out) => (.ok (), box.countSealed, out, scratch)

/-- Seals and encodes one payload with an explicit nonce. -/
def sealWithNonce (box : PacketSecurityBox A C) (keyId : UInt32) (nonce : UInt64)
    (payload : List UInt8) :
    Except (PacketSecurityError A C) (List UInt8) × PacketSecurityBox A C :=
  match box.prepareSeal keyId nonce payload ⟨[], []⟩ with
  | (.error error, _) => (.error error, box)
  | (.ok (), scratch) =>
      match PacketSecurityEnvelope.encodeParts box.config keyId nonce scratch.sealedPayload
          scratch.tag [] with
      | (.error error, _) => (.error (.encode error), box)
      | (.ok (), out) => (.ok out, box.countSealed)

/-- Seals and encodes one payload: `seal`. -/
def sealPacket (box : PacketSecurityBox A C) (keyId : UInt32) (payload : List UInt8) :
    Except (PacketSecurityError A C) (List UInt8) × PacketSecurityBox A C :=
  let (nonce, box) := box.allocateNonce keyId
  box.sealWithNonce keyId nonce payload

/-- Selects a send key from the ring, then seals and encodes one payload. -/
def sealWithKeyRing (box : PacketSecurityBox A C) (keyRing : PacketKeyRing)
    (payload : List UInt8) (now : Tick) :
    Except (PacketSecurityError A C) (List UInt8) × PacketSecurityBox A C :=
  match keyRing.selectSendKey now with
  | .error error => (.error (.key error), box)
  | .ok descriptor => box.sealPacket descriptor.keyId payload

/-- Seals and appends one payload using an allocated nonce and reusable storage. -/
def sealInto (box : PacketSecurityBox A C) (keyId : UInt32) (payload out : List UInt8)
    (scratch : PacketSecurityScratch) :
    Except (PacketSecurityError A C) UInt64 × PacketSecurityBox A C × List UInt8
      × PacketSecurityScratch :=
  let (nonce, box) := box.allocateNonce keyId
  let (result, box, out, scratch) := box.sealWithNonceInto keyId nonce payload out scratch
  (result.map fun _ => nonce, box, out, scratch)

/-- Selects a key and appends one sealed payload using reusable storage. -/
def sealWithKeyRingInto (box : PacketSecurityBox A C) (keyRing : PacketKeyRing)
    (payload : List UInt8) (now : Tick) (out : List UInt8) (scratch : PacketSecurityScratch) :
    Except (PacketSecurityError A C) (UInt32 × UInt64) × PacketSecurityBox A C × List UInt8
      × PacketSecurityScratch :=
  match keyRing.selectSendKey now with
  | .error error => (.error (.key error), box, out, scratch)
  | .ok descriptor =>
      let (result, box, out, scratch) := box.sealInto descriptor.keyId payload out scratch
      (result.map fun nonce => (descriptor.keyId, nonce), box, out, scratch)

/-! ### Opening -/

/-- Authenticates an envelope and records its nonce. -/
def verifyAndAccept (box : PacketSecurityBox A C) (envelope : PacketSecurityEnvelope) :
    Except (PacketSecurityError A C) Unit × PacketSecurityBox A C :=
  match box.authenticator.verify envelope.keyId envelope.nonce envelope.payload envelope.tag with
  | .error error => (.error (.authenticator error), box)
  | .ok verified =>
      if !verified then
        (.error (.authenticationFailed envelope.keyId envelope.nonce),
          { box with
            stats := { box.stats with authFailed := usizeSaturatingAdd box.stats.authFailed 1 } })
      else
        let (fresh, replay) := box.replay.accept envelope.keyId envelope.nonce
        let box := { box with replay := replay }
        if !fresh then
          (.error (.replay envelope.keyId envelope.nonce),
            { box with
              stats := {
                box.stats with
                replayRejected := usizeSaturatingAdd box.stats.replayRejected 1 } })
        else (.ok (), box)

/-- Counts a packet that was opened. -/
def countOpened (box : PacketSecurityBox A C) : PacketSecurityBox A C :=
  { box with stats := { box.stats with opened := usizeSaturatingAdd box.stats.opened 1 } }

/-- Counts a packet that was rejected for its key. -/
def countKeyRejected (box : PacketSecurityBox A C) : PacketSecurityBox A C :=
  { box with
    stats := { box.stats with keyRejected := usizeSaturatingAdd box.stats.keyRejected 1 } }

def openBorrowedOwned (box : PacketSecurityBox A C) (envelope : PacketSecurityEnvelope) :
    Except (PacketSecurityError A C) (List UInt8) × PacketSecurityBox A C :=
  match box.verifyAndAccept envelope with
  | (.error error, box) => (.error error, box)
  | (.ok (), box) =>
      match box.cipher.openPayload envelope.keyId envelope.nonce envelope.payload with
      | (.error error, _) => (.error (.cipher error), box)
      | (.ok (), payload) => (.ok payload, box.countOpened)

def openBorrowedWithScratch (box : PacketSecurityBox A C) (envelope : PacketSecurityEnvelope)
    (scratch : PacketSecurityOpenScratch) :
    Except (PacketSecurityError A C) PacketSecurityOpenView × PacketSecurityBox A C
      × PacketSecurityOpenScratch :=
  match box.verifyAndAccept envelope with
  | (.error error, box) => (.error error, box, scratch)
  | (.ok (), box) =>
      match box.cipher.openPayload envelope.keyId envelope.nonce envelope.payload with
      | (.error error, payload) => (.error (.cipher error), box, ⟨payload⟩)
      | (.ok (), payload) =>
          (.ok { keyId := envelope.keyId, nonce := envelope.nonce, payload }, box.countOpened,
            ⟨payload⟩)

/-- Decodes, authenticates, replay-checks, and opens one payload: `open`. -/
def openPacket (box : PacketSecurityBox A C) (input : List UInt8) :
    Except (PacketSecurityError A C) (List UInt8) × PacketSecurityBox A C :=
  match PacketSecurityEnvelope.decode box.config input with
  | .error error => (.error (.decode error), box)
  | .ok envelope => box.openBorrowedOwned envelope

/-- Decodes an envelope, validates its key against the ring, then opens it. -/
def openWithKeyRing (box : PacketSecurityBox A C) (keyRing : PacketKeyRing) (input : List UInt8)
    (now : Tick) : Except (PacketSecurityError A C) (List UInt8) × PacketSecurityBox A C :=
  match PacketSecurityEnvelope.decode box.config input with
  | .error error => (.error (.decode error), box)
  | .ok envelope =>
      match keyRing.acceptKey envelope.keyId now with
      | .error error => (.error (.key error), box.countKeyRejected)
      | .ok _ => box.openBorrowedOwned envelope

/-- Opens one envelope into caller-owned reusable payload storage. -/
def openWithScratch (box : PacketSecurityBox A C) (input : List UInt8)
    (scratch : PacketSecurityOpenScratch) :
    Except (PacketSecurityError A C) PacketSecurityOpenView × PacketSecurityBox A C
      × PacketSecurityOpenScratch :=
  match PacketSecurityEnvelope.decode box.config input with
  | .error error => (.error (.decode error), box, scratch)
  | .ok envelope => box.openBorrowedWithScratch envelope scratch

/-- Validates a key-ring entry and opens into caller-owned reusable storage. -/
def openWithKeyRingAndScratch (box : PacketSecurityBox A C) (keyRing : PacketKeyRing)
    (input : List UInt8) (now : Tick) (scratch : PacketSecurityOpenScratch) :
    Except (PacketSecurityError A C) PacketSecurityOpenView × PacketSecurityBox A C
      × PacketSecurityOpenScratch :=
  match PacketSecurityEnvelope.decode box.config input with
  | .error error => (.error (.decode error), box, scratch)
  | .ok envelope =>
      match keyRing.acceptKey envelope.keyId now with
      | .error error => (.error (.key error), box.countKeyRejected, scratch)
      | .ok _ => box.openBorrowedWithScratch envelope scratch

end PacketSecurityBox

end SectorSync
