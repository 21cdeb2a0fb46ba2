import SectorSync.Base.Run
import SectorSync.Transport.PacketSecurity
import SectorSync.Transport.ReliableReceiver

/-!
# Round trip and replay safety of sealed packets

A box runs through seals and opens in any order, of its own packets and of any other bytes.
`PacketRun` is the box with two logs: the pairs of key id and nonce that opening accepted, and those
that sealing allocated.  The replay window holds the last accepted pairs (`Remembers`), and the
counters are above what they issued (`NoncesIncrease`).

`packet_security` is the result.  It asks of the cipher that it opens what it seals and of the
authenticator that it verifies what it signs.
-/

namespace SectorSync

open Bytes Machine Window PacketSecurityEnvelope

/-! ## The replay window -/

namespace PacketReplayWindow

/-- The queue and the set hold the window of the accepted pairs. -/
structure Remembers (max : ℕ) (log : List (PacketKey UInt32)) (window : PacketReplayWindow) :
    Prop where
  maxSeen : window.maxSeen = max
  order : window.order = recent max log
  entries : ∀ k, k ∈ window.seen.entries ↔ k ∈ window.order
  spaced : Spaced max log

lemma remembers_new (max : ℕ) : Remembers max [] (new max) where
  maxSeen := rfl
  order := recent_nil.symm
  entries k := by simp [new]
  spaced := spaced_nil

variable {max : ℕ} {log : List (PacketKey UInt32)} {window : PacketReplayWindow} {keyId : UInt32}
  {nonce : UInt64}

lemma Remembers.mem_iff (h : Remembers max log window) :
    window.seen.contains ⟨keyId, nonce⟩ = true ↔ ⟨keyId, nonce⟩ ∈ recent max log := by
  rw [BoundedLookupSet.contains, decide_eq_true_iff, h.entries, h.order]

/-- A pair in the window is not accepted. -/
lemma Remembers.accept_of_mem (h : Remembers max log window) (hmax : 0 < max)
    (hmem : ⟨keyId, nonce⟩ ∈ recent max log) : window.accept keyId nonce = (false, window) := by
  rw [accept, if_neg (by rw [h.maxSeen]; exact hmax.ne'), if_pos (h.mem_iff.mpr hmem)]

/-- A pair outside the window is accepted and enters it. -/
lemma Remembers.accept_of_notMem (h : Remembers max log window) (hmax : 0 < max)
    (hnot : ⟨keyId, nonce⟩ ∉ recent max log) :
    ∃ window', window.accept keyId nonce = (true, window')
      ∧ Remembers max (log ++ [⟨keyId, nonce⟩]) window' := by
  have hunseen : ¬ window.seen.contains ⟨keyId, nonce⟩ = true := mt h.mem_iff.mp hnot
  rw [accept, if_neg (by rw [h.maxSeen]; exact hmax.ne'), if_neg hunseen, h.maxSeen]
  have hinserted : ∀ k, k ∈ (window.seen.insert ⟨keyId, nonce⟩).entries
      ↔ k ∈ window.order ∨ k = ⟨keyId, nonce⟩ := fun k => by
    rw [BoundedLookupSet.entries_insert, Finset.mem_insert, h.entries, or_comm]
  obtain ⟨horder, hentries⟩ :=
    ReliableReceiver.evict_window h.order hinserted h.spaced hnot
  exact ⟨_, rfl, rfl, horder, hentries, h.spaced.concat hnot⟩

end PacketReplayWindow

/-! ## Sealing -/

namespace PacketSecurityBox

variable {A C : Type}

/-- A buffer after the bytes of a sealed packet were appended to it. -/
def appended {E : Type} (out : List UInt8) : Except E (List UInt8) → List UInt8
  | .ok bytes => out ++ bytes
  | .error _ => out

/-- A signed and sealed payload, as an envelope. -/
structure Signed (box : PacketSecurityBox A C) (payload : List UInt8)
    (envelope : PacketSecurityEnvelope) : Prop where
  sealed : box.cipher.sealPayload envelope.keyId envelope.nonce payload
    = (.ok (), envelope.payload)
  signed : box.authenticator.sign envelope.keyId envelope.nonce envelope.payload []
    = (.ok (), envelope.tag)
  fits : envelope.Fits box.config

variable (box : PacketSecurityBox A C) (keyId : UInt32) (nonce : UInt64)
  (payload out : List UInt8) (scratch : PacketSecurityScratch)

/-- Preparing a packet fills the scratch buffers with a signed envelope or fails, whatever they held
beforehand. -/
lemma prepareSeal_cases :
    (∃ sealedPayload tag,
        box.cipher.sealPayload keyId nonce payload = (.ok (), sealedPayload)
          ∧ box.authenticator.sign keyId nonce sealedPayload [] = (.ok (), tag)
          ∧ ∀ scratch, box.prepareSeal keyId nonce payload scratch = (.ok (), ⟨sealedPayload, tag⟩))
      ∨ ∃ error, ∀ scratch, ∃ scratch',
        box.prepareSeal keyId nonce payload scratch = (.error error, scratch') := by
  unfold prepareSeal
  split_ifs with hpayload
  · exact .inr ⟨_, fun _ => ⟨_, rfl⟩⟩
  · generalize box.cipher.sealPayload keyId nonce payload = sealing
    rcases sealing with ⟨error | ⟨⟩, sealedPayload⟩
    · exact .inr ⟨_, fun _ => ⟨_, rfl⟩⟩
    · dsimp only
      generalize hsign : box.authenticator.sign keyId nonce sealedPayload [] = signing
      rcases signing with ⟨error | ⟨⟩, tag⟩
      · exact .inr ⟨_, fun _ => ⟨_, rfl⟩⟩
      · exact .inl ⟨sealedPayload, tag, rfl, hsign, fun _ => rfl⟩

/-- **Sealing with an explicit nonce.**  Both variants append the bytes of a signed envelope and
count it, or both fail with the same error and change neither the box nor the output. -/
lemma sealWithNonce_cases :
    (∃ envelope : PacketSecurityEnvelope, envelope.keyId = keyId ∧ envelope.nonce = nonce
        ∧ box.Signed payload envelope
        ∧ box.sealWithNonce keyId nonce payload
          = (.ok (packetSecurityMagic ++ envelope.body), box.countSealed)
        ∧ ∀ out scratch, ∃ scratch', box.sealWithNonceInto keyId nonce payload out scratch
          = (.ok (), box.countSealed, out ++ (packetSecurityMagic ++ envelope.body), scratch'))
      ∨ ∃ error, box.sealWithNonce keyId nonce payload = (.error error, box)
        ∧ ∀ out scratch, ∃ scratch', box.sealWithNonceInto keyId nonce payload out scratch
          = (.error error, box, out, scratch') := by
  rcases prepareSeal_cases box keyId nonce payload with
    ⟨sealedPayload, tag, hsealed, hsigned, hprepare⟩ | ⟨error, hprepare⟩
  · rcases encodeParts_cases box.config ⟨keyId, nonce, sealedPayload, tag⟩ with
      ⟨hfits, hencode⟩ | ⟨-, error, hencode⟩
    · refine .inl ⟨⟨keyId, nonce, sealedPayload, tag⟩, rfl, rfl, ⟨hsealed, hsigned, hfits⟩, ?_,
        fun out scratch => ⟨⟨sealedPayload, tag⟩, ?_⟩⟩
      · simp only [sealWithNonce, hprepare, hencode, List.nil_append]
      · simp only [sealWithNonceInto, hprepare, hencode]
    · refine .inr ⟨.encode error, ?_, fun out scratch => ⟨⟨sealedPayload, tag⟩, ?_⟩⟩
      · simp only [sealWithNonce, hprepare, hencode]
      · simp only [sealWithNonceInto, hprepare, hencode]
  · refine .inr ⟨error, ?_, fun out scratch => ?_⟩
    · obtain ⟨scratch', h⟩ := hprepare ⟨[], []⟩
      simp only [sealWithNonce, h]
    · obtain ⟨scratch', h⟩ := hprepare scratch
      exact ⟨scratch', by simp only [sealWithNonceInto, h]⟩

lemma sealWithNonceInto_eq :
    (box.sealWithNonceInto keyId nonce payload out scratch).1
        = (box.sealWithNonce keyId nonce payload).1.map (fun _ => ())
      ∧ (box.sealWithNonceInto keyId nonce payload out scratch).2.1
        = (box.sealWithNonce keyId nonce payload).2
      ∧ (box.sealWithNonceInto keyId nonce payload out scratch).2.2.1
        = appended out (box.sealWithNonce keyId nonce payload).1 := by
  rcases box.sealWithNonce_cases keyId nonce payload with
    ⟨envelope, -, -, -, howned, hinto⟩ | ⟨error, howned, hinto⟩
  · obtain ⟨scratch', hinto⟩ := hinto out scratch
    rw [howned, hinto]
    exact ⟨rfl, rfl, rfl⟩
  · obtain ⟨scratch', hinto⟩ := hinto out scratch
    rw [howned, hinto]
    exact ⟨rfl, rfl, rfl⟩

/-- Reused storage changes nothing about a packet sealed under an allocated nonce. -/
lemma sealInto_eq :
    (box.sealInto keyId payload out scratch).1
        = (box.sealPacket keyId payload).1.map (fun _ => (box.allocateNonce keyId).1)
      ∧ (box.sealInto keyId payload out scratch).2.1 = (box.sealPacket keyId payload).2
      ∧ (box.sealInto keyId payload out scratch).2.2.1
        = appended out (box.sealPacket keyId payload).1 := by
  obtain ⟨hresult, hbox, hout⟩ := (box.allocateNonce keyId).2.sealWithNonceInto_eq keyId
    (box.allocateNonce keyId).1 payload out scratch
  refine ⟨?_, hbox, hout⟩
  simp only [sealInto, sealPacket, hresult]
  cases ((box.allocateNonce keyId).2.sealWithNonce keyId (box.allocateNonce keyId).1 payload).1 <;>
    rfl

/-- Nor about one sealed under a key of the ring. -/
lemma sealWithKeyRingInto_eq (keyRing : PacketKeyRing) (now : Tick) :
    (box.sealWithKeyRingInto keyRing payload now out scratch).1.map (fun _ => ())
        = (box.sealWithKeyRing keyRing payload now).1.map (fun _ => ())
      ∧ (box.sealWithKeyRingInto keyRing payload now out scratch).2.1
        = (box.sealWithKeyRing keyRing payload now).2
      ∧ (box.sealWithKeyRingInto keyRing payload now out scratch).2.2.1
        = appended out (box.sealWithKeyRing keyRing payload now).1 := by
  unfold sealWithKeyRingInto sealWithKeyRing
  cases keyRing.selectSendKey now with
  | error error => exact ⟨rfl, rfl, rfl⟩
  | ok descriptor =>
      obtain ⟨hresult, hbox, hout⟩ := box.sealInto_eq descriptor.keyId payload out scratch
      refine ⟨?_, hbox, hout⟩
      simp only [hresult]
      cases (box.sealPacket descriptor.keyId payload).1 <;> rfl

/-! ### Sealed packets -/

/-- Boxes with the same limits, authenticator and cipher. -/
structure Alike (box box' : PacketSecurityBox A C) : Prop where
  config : box.config = box'.config
  authenticator : box.authenticator = box'.authenticator
  cipher : box.cipher = box'.cipher

/-- Bytes that some box like the receiver sealed, through any of its entry points, with the key id,
the nonce and the payload they were sealed with. -/
inductive SealedFor (receiver : PacketSecurityBox A C) :
    UInt32 → UInt64 → List UInt8 → List UInt8 → Prop
  | sealPacket {box : PacketSecurityBox A C} {keyId : UInt32} {payload bytes : List UInt8}
      (halike : box.Alike receiver) (hresult : (box.sealPacket keyId payload).1 = .ok bytes) :
      SealedFor receiver keyId (box.allocateNonce keyId).1 payload bytes
  | sealWithNonce {box : PacketSecurityBox A C} {keyId : UInt32} {nonce : UInt64}
      {payload bytes : List UInt8} (halike : box.Alike receiver)
      (hresult : (box.sealWithNonce keyId nonce payload).1 = .ok bytes) :
      SealedFor receiver keyId nonce payload bytes
  | sealWithKeyRing {box : PacketSecurityBox A C} {keyRing : PacketKeyRing} {now : Tick}
      {descriptor : PacketKeyDescriptor} {payload bytes : List UInt8}
      (halike : box.Alike receiver) (hselect : keyRing.selectSendKey now = .ok descriptor)
      (hresult : (box.sealWithKeyRing keyRing payload now).1 = .ok bytes) :
      SealedFor receiver descriptor.keyId (box.allocateNonce descriptor.keyId).1 payload bytes
  | sealInto {box : PacketSecurityBox A C} {keyId : UInt32} {nonce : UInt64}
      {payload out bytes : List UInt8} {scratch : PacketSecurityScratch}
      (halike : box.Alike receiver)
      (hresult : (box.sealInto keyId payload out scratch).1 = .ok nonce)
      (hout : (box.sealInto keyId payload out scratch).2.2.1 = out ++ bytes) :
      SealedFor receiver keyId nonce payload bytes
  | sealWithNonceInto {box : PacketSecurityBox A C} {keyId : UInt32} {nonce : UInt64}
      {payload out bytes : List UInt8} {scratch : PacketSecurityScratch}
      (halike : box.Alike receiver)
      (hresult : (box.sealWithNonceInto keyId nonce payload out scratch).1 = .ok ())
      (hout : (box.sealWithNonceInto keyId nonce payload out scratch).2.2.1 = out ++ bytes) :
      SealedFor receiver keyId nonce payload bytes
  | sealWithKeyRingInto {box : PacketSecurityBox A C} {keyRing : PacketKeyRing} {now : Tick}
      {keyId : UInt32} {nonce : UInt64} {payload out bytes : List UInt8}
      {scratch : PacketSecurityScratch} (halike : box.Alike receiver)
      (hresult : (box.sealWithKeyRingInto keyRing payload now out scratch).1 = .ok (keyId, nonce))
      (hout : (box.sealWithKeyRingInto keyRing payload now out scratch).2.2.1 = out ++ bytes) :
      SealedFor receiver keyId nonce payload bytes

/-- The bytes are those of an envelope signed for the receiver. -/
def SignedBytes (receiver : PacketSecurityBox A C) (keyId : UInt32) (nonce : UInt64)
    (payload bytes : List UInt8) : Prop :=
  ∃ envelope : PacketSecurityEnvelope, envelope.keyId = keyId ∧ envelope.nonce = nonce
    ∧ receiver.Signed payload envelope ∧ bytes = packetSecurityMagic ++ envelope.body

variable {box keyId nonce payload out scratch} {receiver : PacketSecurityBox A C}
  {bytes : List UInt8}

lemma Alike.signed (halike : box.Alike receiver) {envelope : PacketSecurityEnvelope}
    (h : box.Signed payload envelope) : receiver.Signed payload envelope where
  sealed := halike.cipher ▸ h.sealed
  signed := halike.authenticator ▸ h.signed
  fits := halike.config ▸ h.fits

lemma Alike.allocateNonce (halike : box.Alike receiver) (keyId : UInt32) :
    (box.allocateNonce keyId).2.Alike receiver :=
  ⟨halike.config, halike.authenticator, halike.cipher⟩

lemma Alike.signedBytes (halike : box.Alike receiver)
    (hresult : (box.sealWithNonce keyId nonce payload).1 = .ok bytes) :
    SignedBytes receiver keyId nonce payload bytes := by
  rcases box.sealWithNonce_cases keyId nonce payload with
    ⟨envelope, hkey, hnonce, hsigned, howned, -⟩ | ⟨error, howned, -⟩
  · rw [howned] at hresult
    exact ⟨envelope, hkey, hnonce, halike.signed hsigned, (Except.ok.inj hresult).symm⟩
  · rw [howned] at hresult
    exact absurd hresult (by simp)

/-- What a successful call appended to the output is what it returns when it owns the bytes. -/
lemma ok_of_appended {E V : Type} {answer : Except E (List UInt8)} {f : List UInt8 → V} {v : V}
    (hok : answer.map f = .ok v) (hout : appended out answer = out ++ bytes) :
    answer = .ok bytes := by
  cases answer with
  | error error => exact absurd hok (by simp [Except.map])
  | ok appendedBytes => rw [List.append_cancel_left hout]

lemma appended_of_error {E V : Type} {answer : Except E (List UInt8)} {f : List UInt8 → V}
    {error : E} (hfailed : answer.map f = .error error) : appended out answer = out := by
  cases answer with
  | error error => rfl
  | ok appendedBytes => exact absurd hfailed (by simp [Except.map])

lemma Alike.signedBytes_sealInto (halike : box.Alike receiver)
    (hresult : (box.sealInto keyId payload out scratch).1 = .ok nonce)
    (hout : (box.sealInto keyId payload out scratch).2.2.1 = out ++ bytes) :
    SignedBytes receiver keyId nonce payload bytes := by
  obtain ⟨heq, -, happended⟩ := box.sealInto_eq keyId payload out scratch
  rw [heq] at hresult
  have hok := ok_of_appended hresult (happended ▸ hout)
  rw [hok] at hresult
  exact Except.ok.inj hresult ▸ (halike.allocateNonce keyId).signedBytes hok

/-- **Sealed packets**, from whichever entry point, are signed envelopes. -/
lemma SealedFor.signedBytes (h : SealedFor receiver keyId nonce payload bytes) :
    SignedBytes receiver keyId nonce payload bytes := by
  cases h with
  | sealPacket halike hresult => exact (halike.allocateNonce keyId).signedBytes hresult
  | sealWithNonce halike hresult => exact halike.signedBytes hresult
  | sealWithKeyRing halike hselect hresult =>
      rw [PacketSecurityBox.sealWithKeyRing, hselect] at hresult
      exact (halike.allocateNonce _).signedBytes hresult
  | sealInto halike hresult hout => exact halike.signedBytes_sealInto hresult hout
  | sealWithNonceInto halike hresult hout =>
      obtain ⟨heq, -, happended⟩ := sealWithNonceInto_eq _ keyId nonce payload _ _
      exact halike.signedBytes (ok_of_appended (heq ▸ hresult) (happended ▸ hout))
  | @sealWithKeyRingInto box keyRing now _ _ _ out _ scratch halike hresult hout =>
      unfold PacketSecurityBox.sealWithKeyRingInto at hresult hout
      cases hselect : keyRing.selectSendKey now with
      | error error =>
          rw [hselect] at hresult
          exact absurd hresult (by simp)
      | ok descriptor =>
          rw [hselect] at hresult hout
          dsimp only at hresult hout
          cases hnonce : (box.sealInto descriptor.keyId payload out scratch).1 with
          | error error =>
              rw [hnonce] at hresult
              exact absurd hresult (by simp [Except.map])
          | ok nonce =>
              rw [hnonce] at hresult
              obtain ⟨rfl, rfl⟩ := Prod.mk.inj (Except.ok.inj hresult)
              exact halike.signedBytes_sealInto hnonce hout

end PacketSecurityBox

/-! ## Opening -/

/-- Errors that are reported before the replay window is asked: the bytes do not decode, the key is
not accepted, or the tag is not verified. -/
def PacketSecurityError.Refused {A C : Type} : PacketSecurityError A C → Prop
  | .decode _ => True
  | .key _ => True
  | .authenticator _ => True
  | .authenticationFailed _ _ => True
  | .encode _ => False
  | .cipher _ => False
  | .replay _ _ => False

namespace PacketSecurityBox

variable {A C : Type} {box : PacketSecurityBox A C} {max : ℕ} {log : List (PacketKey UInt32)}
  {envelope : PacketSecurityEnvelope}

/-- The pair an envelope is accepted under. -/
def envelopeKey (envelope : PacketSecurityEnvelope) : PacketKey UInt32 :=
  ⟨envelope.keyId, envelope.nonce⟩

/-- Whether a packet got past the replay window: it was opened, or only the cipher rejected it. -/
def reachedCipher : Except (PacketSecurityError A C) (List UInt8) → Bool
  | .ok _ => true
  | .error (.cipher _) => true
  | .error _ => false

/-- An envelope whose tag is not verified does not reach the window. -/
lemma verifyAndAccept_refused
    (hverify : box.authenticator.verify envelope.keyId envelope.nonce envelope.payload envelope.tag
      ≠ .ok true) :
    ∃ error stats, error.Refused
      ∧ box.verifyAndAccept envelope = (.error error, { box with stats := stats }) := by
  unfold verifyAndAccept
  generalize box.authenticator.verify envelope.keyId envelope.nonce envelope.payload envelope.tag
    = verdict at hverify
  rcases verdict with error | ⟨_ | _⟩
  · exact ⟨.authenticator error, box.stats, trivial, rfl⟩
  · exact ⟨.authenticationFailed envelope.keyId envelope.nonce, _, trivial, rfl⟩
  · exact absurd rfl hverify

section Verified

variable (hrem : box.replay.Remembers max log) (hmax : 0 < max)
  (hverify : box.authenticator.verify envelope.keyId envelope.nonce envelope.payload envelope.tag
    = .ok true)
include hrem hmax hverify

/-- A verified envelope whose pair is in the window is a replay. -/
lemma verifyAndAccept_replayed (hmem : envelopeKey envelope ∈ recent max log) :
    ∃ stats, box.verifyAndAccept envelope
      = (.error (.replay envelope.keyId envelope.nonce), { box with stats := stats }) := by
  simp only [verifyAndAccept, hverify, hrem.accept_of_mem hmax hmem]
  exact ⟨_, rfl⟩

/-- A verified envelope whose pair is not in the window is accepted. -/
lemma verifyAndAccept_fresh (hnot : envelopeKey envelope ∉ recent max log) :
    ∃ replay, replay.Remembers max (log ++ [envelopeKey envelope])
      ∧ box.verifyAndAccept envelope = (.ok (), { box with replay := replay }) := by
  obtain ⟨replay, haccept, hrem'⟩ := hrem.accept_of_notMem hmax hnot
  simp only [verifyAndAccept, hverify, haccept]
  exact ⟨replay, hrem', rfl⟩

end Verified

/-- What opening some bytes does to a box whose window remembers a log. -/
inductive OpenOutcome (max : ℕ) (log : List (PacketKey UInt32)) (box : PacketSecurityBox A C)
    (input : List UInt8) :
    Except (PacketSecurityError A C) (List UInt8) × PacketSecurityBox A C → Prop
  | refused {error : PacketSecurityError A C} (hrefused : error.Refused)
      (stats : PacketSecurityStats) :
      OpenOutcome max log box input (.error error, { box with stats := stats })
  | replayed {envelope : PacketSecurityEnvelope} (hdecode : decode box.config input = .ok envelope)
      (hmem : envelopeKey envelope ∈ recent max log) (stats : PacketSecurityStats) :
      OpenOutcome max log box input
        (.error (.replay envelope.keyId envelope.nonce), { box with stats := stats })
  | accepted {envelope : PacketSecurityEnvelope} (hdecode : decode box.config input = .ok envelope)
      (hnot : envelopeKey envelope ∉ recent max log)
      {answer : Except (PacketSecurityError A C) (List UInt8)}
      (hanswer : reachedCipher answer = true) {replay : PacketReplayWindow}
      (hrem : replay.Remembers max (log ++ [envelopeKey envelope])) (stats : PacketSecurityStats) :
      OpenOutcome max log box input (answer, { box with replay := replay, stats := stats })

variable {input : List UInt8} (hrem : box.replay.Remembers max log) (hmax : 0 < max)
include hrem hmax

lemma openBorrowedOwned_outcome (hdecode : decode box.config input = .ok envelope) :
    OpenOutcome max log box input (box.openBorrowedOwned envelope) := by
  by_cases hverify : box.authenticator.verify envelope.keyId envelope.nonce envelope.payload
      envelope.tag = .ok true
  · by_cases hmem : envelopeKey envelope ∈ recent max log
    · obtain ⟨stats, hreplay⟩ := verifyAndAccept_replayed hrem hmax hverify hmem
      rw [openBorrowedOwned, hreplay]
      exact .replayed hdecode hmem stats
    · obtain ⟨replay, hrem', hfresh⟩ := verifyAndAccept_fresh hrem hmax hverify hmem
      rw [openBorrowedOwned, hfresh]
      dsimp only
      generalize box.cipher.openPayload envelope.keyId envelope.nonce envelope.payload = opening
      rcases opening with ⟨error | ⟨⟩, payload⟩
      · exact .accepted hdecode hmem rfl hrem' box.stats
      · exact .accepted hdecode hmem rfl hrem' _
  · obtain ⟨error, stats, hrefused, hresult⟩ := verifyAndAccept_refused hverify
    rw [openBorrowedOwned, hresult]
    exact .refused hrefused stats

/-- **Opening** refuses the bytes, reports a replay, or moves the window by one pair. -/
lemma openPacket_outcome : OpenOutcome max log box input (box.openPacket input) := by
  unfold openPacket
  cases hdecode : decode box.config input with
  | error error =>
      exact .refused (show (PacketSecurityError.decode error).Refused from trivial) box.stats
  | ok envelope => exact openBorrowedOwned_outcome hrem hmax hdecode

lemma openWithKeyRing_outcome (keyRing : PacketKeyRing) (now : Tick) :
    OpenOutcome max log box input (box.openWithKeyRing keyRing input now) := by
  unfold openWithKeyRing
  cases hdecode : decode box.config input with
  | error error =>
      exact .refused (show (PacketSecurityError.decode error).Refused from trivial) box.stats
  | ok envelope =>
      dsimp only
      cases keyRing.acceptKey envelope.keyId now with
      | error error =>
          exact .refused (show (PacketSecurityError.key error).Refused from trivial) _
      | ok descriptor => exact openBorrowedOwned_outcome hrem hmax hdecode

omit hrem hmax

/-- Reused storage changes nothing about opening an envelope, and the view shows the storage. -/
lemma openBorrowedWithScratch_eq (box : PacketSecurityBox A C)
    (envelope : PacketSecurityEnvelope) (scratch : PacketSecurityOpenScratch) :
    (box.openBorrowedWithScratch envelope scratch).1.map PacketSecurityOpenView.payload
        = (box.openBorrowedOwned envelope).1
      ∧ (box.openBorrowedWithScratch envelope scratch).2.1 = (box.openBorrowedOwned envelope).2
      ∧ ∀ view, (box.openBorrowedWithScratch envelope scratch).1 = .ok view →
        view = ⟨envelope.keyId, envelope.nonce,
          (box.openBorrowedWithScratch envelope scratch).2.2.payload⟩ := by
  unfold openBorrowedWithScratch openBorrowedOwned
  generalize box.verifyAndAccept envelope = verdict
  rcases verdict with ⟨error | ⟨⟩, box⟩
  · exact ⟨rfl, rfl, fun _ h => absurd h (by simp)⟩
  · dsimp only
    generalize box.cipher.openPayload envelope.keyId envelope.nonce envelope.payload = opening
    rcases opening with ⟨error | ⟨⟩, payload⟩
    · exact ⟨rfl, rfl, fun _ h => absurd h (by simp)⟩
    · exact ⟨rfl, rfl, fun _ h => (Except.ok.inj h).symm⟩

/-- A view of an opened packet shows the storage, under the key id and the nonce of the envelope.
-/
def ShowsScratch (config : PacketSecurityConfig) (input : List UInt8)
    (scratch : PacketSecurityOpenScratch) (view : PacketSecurityOpenView) : Prop :=
  ∃ envelope, decode config input = .ok envelope
    ∧ view = ⟨envelope.keyId, envelope.nonce, scratch.payload⟩

lemma openWithScratch_eq (box : PacketSecurityBox A C) (input : List UInt8)
    (scratch : PacketSecurityOpenScratch) :
    (box.openWithScratch input scratch).1.map PacketSecurityOpenView.payload
        = (box.openPacket input).1
      ∧ (box.openWithScratch input scratch).2.1 = (box.openPacket input).2
      ∧ ∀ view, (box.openWithScratch input scratch).1 = .ok view →
        ShowsScratch box.config input (box.openWithScratch input scratch).2.2 view := by
  unfold openWithScratch openPacket ShowsScratch
  cases decode box.config input with
  | error error => exact ⟨rfl, rfl, fun _ h => absurd h (by simp)⟩
  | ok envelope =>
      obtain ⟨hresult, hbox, hview⟩ := openBorrowedWithScratch_eq box envelope scratch
      exact ⟨hresult, hbox, fun view h => ⟨envelope, rfl, hview view h⟩⟩

lemma openWithKeyRingAndScratch_eq (box : PacketSecurityBox A C) (keyRing : PacketKeyRing)
    (input : List UInt8) (now : Tick) (scratch : PacketSecurityOpenScratch) :
    (box.openWithKeyRingAndScratch keyRing input now scratch).1.map PacketSecurityOpenView.payload
        = (box.openWithKeyRing keyRing input now).1
      ∧ (box.openWithKeyRingAndScratch keyRing input now scratch).2.1
        = (box.openWithKeyRing keyRing input now).2
      ∧ ∀ view, (box.openWithKeyRingAndScratch keyRing input now scratch).1 = .ok view →
        ShowsScratch box.config input
          (box.openWithKeyRingAndScratch keyRing input now scratch).2.2 view := by
  unfold openWithKeyRingAndScratch openWithKeyRing ShowsScratch
  cases decode box.config input with
  | error error => exact ⟨rfl, rfl, fun _ h => absurd h (by simp)⟩
  | ok envelope =>
      dsimp only
      cases keyRing.acceptKey envelope.keyId now with
      | error error => exact ⟨rfl, rfl, fun _ h => absurd h (by simp)⟩
      | ok descriptor =>
          obtain ⟨hresult, hbox, hview⟩ := openBorrowedWithScratch_eq box envelope scratch
          exact ⟨hresult, hbox, fun view h => ⟨envelope, rfl, hview view h⟩⟩

end PacketSecurityBox

/-! ## Runs -/

namespace PacketRun

open PacketSecurityBox

variable {A C : Type}

/-- How a payload is sealed, with what the caller's buffers hold. -/
inductive Sealing where
  | sealPacket (keyId : UInt32) (payload : List UInt8)
  | sealWithKeyRing (keyRing : PacketKeyRing) (payload : List UInt8) (now : Tick)
  | sealWithNonce (keyId : UInt32) (nonce : UInt64) (payload : List UInt8)
  | sealInto (keyId : UInt32) (payload out : List UInt8) (scratch : PacketSecurityScratch)
  | sealWithKeyRingInto (keyRing : PacketKeyRing) (payload : List UInt8) (now : Tick)
      (out : List UInt8) (scratch : PacketSecurityScratch)
  | sealWithNonceInto (keyId : UInt32) (nonce : UInt64) (payload out : List UInt8)
      (scratch : PacketSecurityScratch)

/-- How bytes are opened, with what the caller's buffer holds. -/
inductive Opening where
  | openPacket
  | openWithKeyRing (keyRing : PacketKeyRing) (now : Tick)
  | openWithScratch (scratch : PacketSecurityOpenScratch)
  | openWithKeyRingAndScratch (keyRing : PacketKeyRing) (now : Tick)
      (scratch : PacketSecurityOpenScratch)

/-- The box after sealing. -/
def Sealing.after (box : PacketSecurityBox A C) : Sealing → PacketSecurityBox A C
  | .sealPacket keyId payload => (box.sealPacket keyId payload).2
  | .sealWithKeyRing keyRing payload now => (box.sealWithKeyRing keyRing payload now).2
  | .sealWithNonce keyId nonce payload => (box.sealWithNonce keyId nonce payload).2
  | .sealInto keyId payload out scratch => (box.sealInto keyId payload out scratch).2.1
  | .sealWithKeyRingInto keyRing payload now out scratch =>
      (box.sealWithKeyRingInto keyRing payload now out scratch).2.1
  | .sealWithNonceInto keyId nonce payload out scratch =>
      (box.sealWithNonceInto keyId nonce payload out scratch).2.1

/-- The key a nonce is allocated under: an explicit nonce is not allocated, and neither is one when
the ring has no key. -/
def Sealing.allocates : Sealing → Option UInt32
  | .sealPacket keyId _ => some keyId
  | .sealWithKeyRing keyRing _ now => (keyRing.selectSendKey now).toOption.map (·.keyId)
  | .sealWithNonce _ _ _ => none
  | .sealInto keyId _ _ _ => some keyId
  | .sealWithKeyRingInto keyRing _ now _ _ => (keyRing.selectSendKey now).toOption.map (·.keyId)
  | .sealWithNonceInto _ _ _ _ _ => none

/-- What the opener returns, as its payload, and the box afterwards. -/
def Opening.apply (box : PacketSecurityBox A C) (input : List UInt8) :
    Opening → Except (PacketSecurityError A C) (List UInt8) × PacketSecurityBox A C
  | .openPacket => box.openPacket input
  | .openWithKeyRing keyRing now => box.openWithKeyRing keyRing input now
  | .openWithScratch scratch =>
      ((box.openWithScratch input scratch).1.map (·.payload), (box.openWithScratch input scratch).2.1)
  | .openWithKeyRingAndScratch keyRing now scratch =>
      ((box.openWithKeyRingAndScratch keyRing input now scratch).1.map (·.payload),
        (box.openWithKeyRingAndScratch keyRing input now scratch).2.1)

/-- The opener's ring, if it has one, accepts the key. -/
def Opening.Accepts : Opening → UInt32 → Prop
  | .openPacket, _ => True
  | .openWithKeyRing keyRing now, keyId => ∃ descriptor, keyRing.acceptKey keyId now = .ok descriptor
  | .openWithScratch _, _ => True
  | .openWithKeyRingAndScratch keyRing now _, keyId =>
      ∃ descriptor, keyRing.acceptKey keyId now = .ok descriptor

/-- What happens to a box. -/
inductive Op where
  | seals (sealing : Sealing)
  | opens (opening : Opening) (input : List UInt8)

end PacketRun

/-- A box with the pairs that opening accepted and those that sealing allocated. -/
structure PacketRun (A C : Type) where
  box : PacketSecurityBox A C
  accepted : List (PacketKey UInt32)
  issued : List (PacketKey UInt32)

namespace PacketRun

open PacketSecurityBox

variable {A C : Type}

/-- The pair that an opened packet is accepted under, if it got past the window. -/
def acceptedKeys (config : PacketSecurityConfig) (input : List UInt8)
    (answer : Except (PacketSecurityError A C) (List UInt8)) : List (PacketKey UInt32) :=
  if reachedCipher answer then ((decode config input).toOption.map envelopeKey).toList else []

/-- The pair that sealing allocates. -/
def issuedKeys (box : PacketSecurityBox A C) (sealing : Sealing) : List (PacketKey UInt32) :=
  (sealing.allocates.map fun keyId => ⟨keyId, (box.allocateNonce keyId).1⟩).toList

def start (config : PacketSecurityConfig) (authenticator : PacketAuthenticator A)
    (cipher : PacketCipher C) : PacketRun A C :=
  ⟨.new config authenticator cipher, [], []⟩

def step (run : PacketRun A C) : Op → PacketRun A C
  | .seals sealing =>
      { run with box := sealing.after run.box, issued := run.issued ++ issuedKeys run.box sealing }
  | .opens opening input =>
      { run with
        box := (opening.apply run.box input).2
        accepted := run.accepted
          ++ acceptedKeys run.box.config input (opening.apply run.box input).1 }

/-! ### What holds of a run -/

/-- A sealed packet opens to its payload while its pair is outside the window, and its pair then
enters the window; inside the window it is a replay, also after further operations that accept fewer
than `max` other pairs. -/
structure OpensOnce (max : ℕ) (run : PacketRun A C) (keyId : UInt32) (nonce : UInt64)
    (payload bytes : List UInt8) (opening : Opening) : Prop where
  fresh : ⟨keyId, nonce⟩ ∉ recent max run.accepted →
    (opening.apply run.box bytes).1 = .ok payload
      ∧ (run.step (.opens opening bytes)).accepted = run.accepted ++ [⟨keyId, nonce⟩]
  replayed : ⟨keyId, nonce⟩ ∈ recent max run.accepted →
    (opening.apply run.box bytes).1 = .error (.replay keyId nonce)
  once : ∀ later, ⟨keyId, nonce⟩ ∉ recent max run.accepted →
    (execute step (run.step (.opens opening bytes)) later).accepted.length
      ≤ run.accepted.length + max →
    (opening.apply (execute step (run.step (.opens opening bytes)) later).box bytes).1
      = .error (.replay keyId nonce)

/-- The entry points that use the caller's buffers agree with those that own their bytes, and
append nothing when they fail. -/
structure StorageAgrees (box : PacketSecurityBox A C) : Prop where
  sealWithNonceInto : ∀ keyId nonce payload out scratch,
    (box.sealWithNonceInto keyId nonce payload out scratch).1
        = (box.sealWithNonce keyId nonce payload).1.map (fun _ => ())
      ∧ (box.sealWithNonceInto keyId nonce payload out scratch).2.1
        = (box.sealWithNonce keyId nonce payload).2
      ∧ (box.sealWithNonceInto keyId nonce payload out scratch).2.2.1
        = appended out (box.sealWithNonce keyId nonce payload).1
  sealInto : ∀ keyId payload out scratch,
    (box.sealInto keyId payload out scratch).1
        = (box.sealPacket keyId payload).1.map (fun _ => (box.allocateNonce keyId).1)
      ∧ (box.sealInto keyId payload out scratch).2.1 = (box.sealPacket keyId payload).2
      ∧ (box.sealInto keyId payload out scratch).2.2.1
        = appended out (box.sealPacket keyId payload).1
  sealWithKeyRingInto : ∀ keyRing payload now out scratch,
    (box.sealWithKeyRingInto keyRing payload now out scratch).1.map (fun _ => ())
        = (box.sealWithKeyRing keyRing payload now).1.map (fun _ => ())
      ∧ (box.sealWithKeyRingInto keyRing payload now out scratch).2.1
        = (box.sealWithKeyRing keyRing payload now).2
      ∧ (box.sealWithKeyRingInto keyRing payload now out scratch).2.2.1
        = appended out (box.sealWithKeyRing keyRing payload now).1
  openWithScratch : ∀ input scratch,
    (box.openWithScratch input scratch).1.map PacketSecurityOpenView.payload
        = (box.openPacket input).1
      ∧ (box.openWithScratch input scratch).2.1 = (box.openPacket input).2
      ∧ ∀ view, (box.openWithScratch input scratch).1 = .ok view →
        ShowsScratch box.config input (box.openWithScratch input scratch).2.2 view
  openWithKeyRingAndScratch : ∀ keyRing input now scratch,
    (box.openWithKeyRingAndScratch keyRing input now scratch).1.map PacketSecurityOpenView.payload
        = (box.openWithKeyRing keyRing input now).1
      ∧ (box.openWithKeyRingAndScratch keyRing input now scratch).2.1
        = (box.openWithKeyRing keyRing input now).2
      ∧ ∀ view, (box.openWithKeyRingAndScratch keyRing input now scratch).1 = .ok view →
        ShowsScratch box.config input
          (box.openWithKeyRingAndScratch keyRing input now scratch).2.2 view

/-- A seal that fails leaves the caller's output as it was. -/
structure FailuresAppendNothing (box : PacketSecurityBox A C) : Prop where
  sealWithNonceInto : ∀ keyId nonce payload out scratch error,
    (box.sealWithNonceInto keyId nonce payload out scratch).1 = .error error →
    (box.sealWithNonceInto keyId nonce payload out scratch).2.2.1 = out
  sealInto : ∀ keyId payload out scratch error,
    (box.sealInto keyId payload out scratch).1 = .error error →
    (box.sealInto keyId payload out scratch).2.2.1 = out
  sealWithKeyRingInto : ∀ keyRing payload now out scratch error,
    (box.sealWithKeyRingInto keyRing payload now out scratch).1 = .error error →
    (box.sealWithKeyRingInto keyRing payload now out scratch).2.2.1 = out

/-- Nonces under one key increase strictly, up to the largest one. -/
def NoncesIncrease (issued : List (PacketKey UInt32)) : Prop :=
  issued.Pairwise fun a b => a.peer = b.peer → a.sequence < b.sequence
    ∨ a.sequence = UInt64.maxValue

/-- The state of a run: its box is set up as at the start, its window holds the last accepted
pairs, and its counters are above what they issued. -/
structure Invariant (config : PacketSecurityConfig) (authenticator : PacketAuthenticator A)
    (cipher : PacketCipher C) (run : PacketRun A C) : Prop where
  hconfig : run.box.config = config
  hauthenticator : run.box.authenticator = authenticator
  hcipher : run.box.cipher = cipher
  remembers : run.box.replay.Remembers config.maxReplayHistory run.accepted
  ordered : NoncesIncrease run.issued
  below : ∀ k ∈ run.issued, k.sequence < (run.box.allocateNonce k.peer).1
    ∨ k.sequence = UInt64.maxValue

variable {config : PacketSecurityConfig} {authenticator : PacketAuthenticator A}
  {cipher : PacketCipher C} {run : PacketRun A C}

lemma invariant_start : Invariant config authenticator cipher
    (start config authenticator cipher) where
  hconfig := rfl
  hauthenticator := rfl
  hcipher := rfl
  remembers := PacketReplayWindow.remembers_new _
  ordered := List.Pairwise.nil
  below _ hk := absurd hk List.not_mem_nil

/-! ### Steps -/

lemma failuresAppendNothing (box : PacketSecurityBox A C) : FailuresAppendNothing box where
  sealWithNonceInto keyId nonce payload out scratch error hfailed := by
    obtain ⟨hresult, -, hout⟩ := box.sealWithNonceInto_eq keyId nonce payload out scratch
    rw [hout]
    exact appended_of_error (hresult.symm.trans hfailed)
  sealInto keyId payload out scratch error hfailed := by
    obtain ⟨hresult, -, hout⟩ := box.sealInto_eq keyId payload out scratch
    rw [hout]
    exact appended_of_error (hresult.symm.trans hfailed)
  sealWithKeyRingInto keyRing payload now out scratch error hfailed := by
    obtain ⟨hresult, -, hout⟩ := box.sealWithKeyRingInto_eq payload out scratch keyRing now
    rw [hfailed] at hresult
    rw [hout]
    exact appended_of_error hresult.symm

/-- Sealing moves the counter it allocates from, and the counts. -/
lemma Sealing.after_eq (box : PacketSecurityBox A C) (sealing : Sealing) :
    ∃ stats, sealing.after box
      = { sealing.allocates.elim box (fun keyId => (box.allocateNonce keyId).2) with
          stats := stats } := by
  have hnonce (box : PacketSecurityBox A C) (keyId : UInt32) (nonce : UInt64)
      (payload : List UInt8) :
      ∃ stats, (box.sealWithNonce keyId nonce payload).2 = { box with stats := stats } := by
    rcases box.sealWithNonce_cases keyId nonce payload with
      ⟨envelope, -, -, -, howned, -⟩ | ⟨error, howned, -⟩
    · rw [howned]
      exact ⟨_, rfl⟩
    · rw [howned]
      exact ⟨box.stats, rfl⟩
  cases sealing with
  | sealPacket keyId payload => exact hnonce _ _ _ _
  | sealWithNonce keyId nonce payload => exact hnonce _ _ _ _
  | sealWithKeyRing keyRing payload now =>
      simp only [after, allocates, PacketSecurityBox.sealWithKeyRing]
      cases keyRing.selectSendKey now with
      | error error => exact ⟨box.stats, rfl⟩
      | ok descriptor => exact hnonce _ _ _ _
  | sealInto keyId payload out scratch =>
      simp only [after, allocates, (box.sealInto_eq keyId payload out scratch).2.1]
      exact hnonce _ _ _ _
  | sealWithNonceInto keyId nonce payload out scratch =>
      simp only [after, allocates, (box.sealWithNonceInto_eq keyId nonce payload out scratch).2.1]
      exact hnonce _ _ _ _
  | sealWithKeyRingInto keyRing payload now out scratch =>
      simp only [after, allocates,
        (box.sealWithKeyRingInto_eq payload out scratch keyRing now).2.1,
        PacketSecurityBox.sealWithKeyRing]
      cases keyRing.selectSendKey now with
      | error error => exact ⟨box.stats, rfl⟩
      | ok descriptor => exact hnonce _ _ _ _

/-- The nonce of another key does not move; that of the key goes up, or stays the largest. -/
lemma allocateNonce_allocateNonce (box : PacketSecurityBox A C) (keyId other : UInt32) :
    ((box.allocateNonce keyId).2.allocateNonce other).1
      = if other = keyId then (box.allocateNonce keyId).1.saturatingAdd 1
        else (box.allocateNonce other).1 := by
  simp only [allocateNonce, Finmap.lookup_insert_eq]
  split_ifs with h <;> rfl

lemma Opening.apply_outcome {max : ℕ} {log : List (PacketKey UInt32)} {box : PacketSecurityBox A C}
    (hrem : box.replay.Remembers max log) (hmax : 0 < max) (opening : Opening)
    (input : List UInt8) : OpenOutcome max log box input (opening.apply box input) := by
  cases opening with
  | openPacket => exact openPacket_outcome hrem hmax
  | openWithKeyRing keyRing now => exact openWithKeyRing_outcome hrem hmax keyRing now
  | openWithScratch scratch =>
      obtain ⟨hresult, hbox, -⟩ := box.openWithScratch_eq input scratch
      rw [apply, hresult, hbox]
      exact openPacket_outcome hrem hmax
  | openWithKeyRingAndScratch keyRing now scratch =>
      obtain ⟨hresult, hbox, -⟩ := box.openWithKeyRingAndScratch_eq keyRing input now scratch
      rw [apply, hresult, hbox]
      exact openWithKeyRing_outcome hrem hmax keyRing now

/-- **Sealing step.**  A nonce that is allocated is above those its key was issued before. -/
lemma Invariant.seals (h : Invariant config authenticator cipher run) (sealing : Sealing) :
    Invariant config authenticator cipher (run.step (.seals sealing)) := by
  obtain ⟨stats, hafter⟩ := sealing.after_eq run.box
  rw [step, hafter]
  cases hallocates : sealing.allocates with
  | none =>
      have hissued : issuedKeys run.box sealing = [] := by
        rw [issuedKeys, hallocates]
        rfl
      rw [hissued, List.append_nil]
      exact ⟨h.hconfig, h.hauthenticator, h.hcipher, h.remembers, h.ordered, h.below⟩
  | some keyId =>
      have hissued : issuedKeys run.box sealing = [⟨keyId, (run.box.allocateNonce keyId).1⟩] := by
        rw [issuedKeys, hallocates]
        rfl
      refine ⟨h.hconfig, h.hauthenticator, h.hcipher, h.remembers, ?_, ?_⟩
      · show NoncesIncrease (run.issued ++ issuedKeys run.box sealing)
        rw [hissued]
        refine List.pairwise_append.mpr ⟨h.ordered, List.pairwise_singleton _ _, ?_⟩
        intro a ha b hb heq
        rw [List.mem_singleton.mp hb] at heq ⊢
        have hbelow := h.below a ha
        rwa [heq] at hbelow
      · show ∀ k ∈ run.issued ++ issuedKeys run.box sealing,
          k.sequence < ((run.box.allocateNonce keyId).2.allocateNonce k.peer).1
            ∨ k.sequence = UInt64.maxValue
        intro k hk
        rw [allocateNonce_allocateNonce]
        rw [hissued, List.mem_append, List.mem_singleton] at hk
        rcases hk with hk | rfl
        · split_ifs with hpeer
          · rcases h.below k hk with hlt | hmax
            · rw [hpeer] at hlt
              exact .inl (lt_of_lt_of_le hlt (UInt64.le_saturatingAdd _ _))
            · exact .inr hmax
          · exact h.below k hk
        · rw [if_pos rfl]
          rcases (UInt64.le_saturatingAdd (run.box.allocateNonce keyId).1 1).lt_or_eq with hlt | heq
          · exact .inl hlt
          · exact .inr (UInt64.saturatingAdd_one_eq_self.mp heq.symm)

/-- **Opening step.**  The window moves with the accepted pairs. -/
lemma Invariant.opens (h : Invariant config authenticator cipher run)
    (hmax : 0 < config.maxReplayHistory) (opening : Opening) (input : List UInt8) :
    Invariant config authenticator cipher (run.step (.opens opening input)) := by
  have hout := opening.apply_outcome h.remembers hmax input
  rw [step]
  generalize opening.apply run.box input = outcome at hout ⊢
  cases hout with
  | @refused error hrefused stats =>
      have hnone : acceptedKeys run.box.config input (.error error) = [] := by
        cases error <;> simp_all [acceptedKeys, reachedCipher, PacketSecurityError.Refused]
      rw [hnone, List.append_nil]
      exact ⟨h.hconfig, h.hauthenticator, h.hcipher, h.remembers, h.ordered, h.below⟩
  | replayed hdecode hmem stats =>
      rw [acceptedKeys, if_neg (by simp [reachedCipher]), List.append_nil]
      exact ⟨h.hconfig, h.hauthenticator, h.hcipher, h.remembers, h.ordered, h.below⟩
  | accepted hdecode hnot hanswer hrem stats =>
      rw [acceptedKeys, if_pos hanswer, hdecode]
      exact ⟨h.hconfig, h.hauthenticator, h.hcipher, hrem, h.ordered, h.below⟩

/-- **Runs** keep the invariant. -/
lemma invariant_execute (hmax : 0 < config.maxReplayHistory)
    (h : Invariant config authenticator cipher run) (ops : List Op) :
    Invariant config authenticator cipher (execute step run ops) := by
  refine execute_preserves ?_ h ops
  intro run op hrun
  cases op with
  | seals sealing => exact hrun.seals sealing
  | opens opening input => exact hrun.opens hmax opening input

/-- The accepted pairs of a run are a prefix of those after further operations. -/
lemma accepted_prefix (run : PacketRun A C) (ops : List Op) :
    run.accepted <+: (execute step run ops).accepted := by
  induction ops generalizing run with
  | nil => exact List.prefix_refl _
  | cons op ops ih =>
      refine List.IsPrefix.trans ?_ (ih (run.step op))
      cases op with
      | seals sealing => exact List.prefix_refl _
      | opens opening input => exact List.prefix_append _ _

/-! ### Sealed packets -/

/-- What is asked of the embedder's cipher and authenticator: sealed payloads open, and signed ones
are verified. -/
structure Honest (authenticator : PacketAuthenticator A) (cipher : PacketCipher C) : Prop where
  opens : ∀ keyId nonce payload sealedPayload,
    cipher.sealPayload keyId nonce payload = (.ok (), sealedPayload) →
    cipher.openPayload keyId nonce sealedPayload = (.ok (), payload)
  verifies : ∀ keyId nonce payload tag,
    authenticator.sign keyId nonce payload [] = (.ok (), tag) →
    authenticator.verify keyId nonce payload tag = .ok true

lemma openPacket_of_signed (h : Invariant config authenticator cipher run)
    (hmax : 0 < config.maxReplayHistory) (honest : Honest authenticator cipher)
    {payload : List UInt8} {envelope : PacketSecurityEnvelope}
    (hsigned : run.box.Signed payload envelope) :
    (envelopeKey envelope ∈ recent config.maxReplayHistory run.accepted →
        (run.box.openBorrowedOwned envelope).1 = .error (.replay envelope.keyId envelope.nonce))
      ∧ (envelopeKey envelope ∉ recent config.maxReplayHistory run.accepted →
        (run.box.openBorrowedOwned envelope).1 = .ok payload) := by
  have hverify := honest.verifies _ _ _ _ (h.hauthenticator ▸ hsigned.signed)
  rw [← h.hauthenticator] at hverify
  have hopen := honest.opens _ _ _ _ (h.hcipher ▸ hsigned.sealed)
  rw [← h.hcipher] at hopen
  constructor
  · intro hmem
    obtain ⟨stats, hreplay⟩ := verifyAndAccept_replayed h.remembers hmax hverify hmem
    rw [openBorrowedOwned, hreplay]
  · intro hnot
    obtain ⟨replay, -, hfresh⟩ := verifyAndAccept_fresh h.remembers hmax hverify hnot
    rw [openBorrowedOwned, hfresh]
    simp only [hopen]

/-- An opener whose ring accepts the key opens the decoded envelope. -/
lemma Opening.apply_of_decode {box : PacketSecurityBox A C} {input : List UInt8}
    {envelope : PacketSecurityEnvelope} (hdecode : decode box.config input = .ok envelope)
    {opening : Opening} (haccepts : opening.Accepts envelope.keyId) :
    opening.apply box input = box.openBorrowedOwned envelope := by
  cases opening with
  | openPacket => simp only [apply, PacketSecurityBox.openPacket, hdecode]
  | openWithKeyRing keyRing now =>
      obtain ⟨descriptor, haccept⟩ := haccepts
      simp only [apply, PacketSecurityBox.openWithKeyRing, hdecode, haccept]
  | openWithScratch scratch =>
      obtain ⟨hresult, hbox, -⟩ := box.openWithScratch_eq input scratch
      rw [apply, hresult, hbox]
      simp only [PacketSecurityBox.openPacket, hdecode]
  | openWithKeyRingAndScratch keyRing now scratch =>
      obtain ⟨descriptor, haccept⟩ := haccepts
      obtain ⟨hresult, hbox, -⟩ := box.openWithKeyRingAndScratch_eq keyRing input now scratch
      rw [apply, hresult, hbox]
      simp only [PacketSecurityBox.openWithKeyRing, hdecode, haccept]

/-- What an opener returns for a sealed packet: its payload outside the window, a replay inside. -/
lemma apply_of_signedBytes (h : Invariant config authenticator cipher run)
    (hmax : 0 < config.maxReplayHistory) (honest : Honest authenticator cipher) {keyId : UInt32}
    {nonce : UInt64} {payload bytes : List UInt8}
    (hsigned : SignedBytes run.box keyId nonce payload bytes) {opening : Opening}
    (haccepts : opening.Accepts keyId) :
    (⟨keyId, nonce⟩ ∈ recent config.maxReplayHistory run.accepted →
        (opening.apply run.box bytes).1 = .error (.replay keyId nonce))
      ∧ (⟨keyId, nonce⟩ ∉ recent config.maxReplayHistory run.accepted →
        (opening.apply run.box bytes).1 = .ok payload
          ∧ (run.step (.opens opening bytes)).accepted = run.accepted ++ [⟨keyId, nonce⟩]) := by
  obtain ⟨envelope, rfl, rfl, hsigned, rfl⟩ := hsigned
  have hdecode := decode_encodeParts hsigned.fits
  have happly := Opening.apply_of_decode hdecode haccepts
  obtain ⟨hreplay, hopened⟩ := openPacket_of_signed h hmax honest hsigned
  rw [happly]
  refine ⟨hreplay, fun hnot => ⟨hopened hnot, ?_⟩⟩
  rw [step, happly, hopened hnot, acceptedKeys, hdecode]
  rfl

/-- **Round trip.**  A sealed packet opens once, and is a replay as long as the window holds its
pair. -/
lemma opensOnce (h : Invariant config authenticator cipher run)
    (hmax : 0 < config.maxReplayHistory) (honest : Honest authenticator cipher) {keyId : UInt32}
    {nonce : UInt64} {payload bytes : List UInt8}
    (hsealed : SealedFor run.box keyId nonce payload bytes) {opening : Opening}
    (haccepts : opening.Accepts keyId) :
    OpensOnce config.maxReplayHistory run keyId nonce payload bytes opening := by
  have hsigned := hsealed.signedBytes
  obtain ⟨hreplay, hopened⟩ := apply_of_signedBytes h hmax honest hsigned haccepts
  refine ⟨hopened, hreplay, fun later hnot hlength => ?_⟩
  have hlater := invariant_execute hmax (h.opens hmax opening bytes) later
  obtain ⟨mid, hmid⟩ := accepted_prefix (run.step (.opens opening bytes)) later
  rw [(hopened hnot).2, List.append_assoc, List.singleton_append] at hmid
  have hsigned' : SignedBytes (execute step (run.step (.opens opening bytes)) later).box keyId nonce
      payload bytes := by
    obtain ⟨envelope, hkey, hnonce, hsigned, hbytes⟩ := hsigned
    have halike : run.box.Alike (execute step (run.step (.opens opening bytes)) later).box :=
      ⟨h.hconfig.trans hlater.hconfig.symm, h.hauthenticator.trans hlater.hauthenticator.symm,
        h.hcipher.trans hlater.hcipher.symm⟩
    exact ⟨envelope, hkey, hnonce, halike.signed hsigned, hbytes⟩
  refine (apply_of_signedBytes hlater hmax honest hsigned' haccepts).1 ?_
  rw [← hmid] at hlength ⊢
  rw [List.length_append, List.length_cons] at hlength
  exact mem_recent_append (by omega)

/-- **Packet security.**  Along every run of seals and opens: the replay window holds the last
accepted pairs and no pair is accepted while it is in the window; a sealed packet opens once; bytes
that are refused for what they are, their key or their tag leave the window alone, and so does a
replay; buffers of the caller change nothing; a seal that fails appends nothing; and the nonces of
a key increase. -/
theorem packet_security (config : PacketSecurityConfig) (authenticator : PacketAuthenticator A)
    (cipher : PacketCipher C) (hmax : 0 < config.maxReplayHistory)
    (honest : Honest authenticator cipher) (ops : List Op) :
    let run := execute step (start config authenticator cipher) ops
    run.box.replay.order = recent config.maxReplayHistory run.accepted
      ∧ Spaced config.maxReplayHistory run.accepted
      ∧ (∀ keyId nonce payload bytes, SealedFor run.box keyId nonce payload bytes →
        ∀ opening : Opening, opening.Accepts keyId →
          OpensOnce config.maxReplayHistory run keyId nonce payload bytes opening)
      ∧ (∀ (opening : Opening) input error, (opening.apply run.box input).1 = .error error →
        error.Refused ∨ (∃ keyId nonce, error = .replay keyId nonce) →
        (opening.apply run.box input).2.replay = run.box.replay)
      ∧ StorageAgrees run.box
      ∧ FailuresAppendNothing run.box
      ∧ NoncesIncrease run.issued := by
  intro run
  have h : Invariant config authenticator cipher run :=
    invariant_execute hmax invariant_start ops
  refine ⟨h.remembers.order, h.remembers.spaced, ?_, ?_, ?_, ?_, h.ordered⟩
  · intro keyId nonce payload bytes hsealed opening haccepts
    exact opensOnce h hmax honest hsealed haccepts
  · intro opening input error hresult hcause
    have houtcome := opening.apply_outcome h.remembers hmax input
    generalize opening.apply run.box input = outcome at houtcome hresult ⊢
    cases houtcome with
    | refused hrefused stats => rfl
    | replayed hdecode hmem stats => rfl
    | accepted hdecode hnot hanswer hrem stats =>
        -- the error would be one of the cipher
        exfalso
        dsimp only at hresult
        rw [hresult] at hanswer
        rcases hcause with hrefused | ⟨keyId, nonce, rfl⟩
        · cases error <;> simp_all [reachedCipher, PacketSecurityError.Refused]
        · exact absurd hanswer (by simp [reachedCipher])
  · exact {
      sealWithNonceInto := run.box.sealWithNonceInto_eq
      sealInto := run.box.sealInto_eq
      sealWithKeyRingInto := fun keyRing payload now out scratch =>
        run.box.sealWithKeyRingInto_eq payload out scratch keyRing now
      openWithScratch := run.box.openWithScratch_eq
      openWithKeyRingAndScratch := run.box.openWithKeyRingAndScratch_eq }
  · exact failuresAppendNothing run.box

/-- An authenticator whose tag is the nonce followed by the payload. -/
def echoAuthenticator : PacketAuthenticator Empty where
  sign _ nonce payload out := (.ok (), out ++ toLe 8 nonce.toNat ++ payload)
  verify _ nonce payload tag := .ok (tag = toLe 8 nonce.toNat ++ payload)

lemma honest_echo : Honest echoAuthenticator PlaintextPacketCipher where
  opens keyId nonce payload sealedPayload h := by
    rw [← (Prod.mk.inj h).2]
    rfl
  verifies keyId nonce payload tag h := by
    rw [← (Prod.mk.inj h).2]
    simp [echoAuthenticator]

/-- A first packet under key 7 opens, and is a replay when it comes in again. -/
theorem packet_security_first :
    let run := start ⟨16, 32, 2⟩ echoAuthenticator PlaintextPacketCipher
    ∃ bytes, (run.box.sealPacket 7 [42]).1 = .ok bytes
      ∧ (run.box.openPacket bytes).1 = .ok [42]
      ∧ ((run.step (.opens .openPacket bytes)).box.openPacket bytes).1 = .error (.replay 7 1) := by
  intro run
  obtain ⟨-, -, hopens, -⟩ := packet_security ⟨16, 32, 2⟩ echoAuthenticator PlaintextPacketCipher
    (by decide) honest_echo []
  have hsealed : SealedFor run.box 7 1 [42] _ :=
    .sealPacket ⟨rfl, rfl, rfl⟩ (rfl : (run.box.sealPacket 7 [42]).1 = .ok _)
  have honce := hopens _ _ _ _ hsealed .openPacket trivial
  exact ⟨_, rfl, (honce.fresh List.not_mem_nil).1, honce.once [] List.not_mem_nil (by decide)⟩

end PacketRun

end SectorSync
