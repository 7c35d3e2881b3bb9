import AttestedPayments.Message.Blank
import AttestedPayments.Message.Digest
import AttestedPayments.Proofs.Envelope.Opening

/-!
# Envelopes are opened as what they were made of

* `Metadata.Describes` — version, status, kind and identifier are those of the message.
* `openKind_of_openExpecting` — the expected kind is compared after everything else.
* `openKind_enclosed`, `openKind_enclosed_of_ne` — opening as a body of its kind and of another kind.
* `openKind_without_key` — without a private key nothing of an encrypted envelope is opened.

Principal result: `openKind_of_enclose`. What the curve guarantees (signatures verify, both sides
share a product) is proved and not assumed; that a signature was found at all is a condition, since
the search for its nonce is bounded.
-/

set_option autoImplicit false

namespace AttestedPayments

open Codec (sizeLimit)
open Curve (SecretKey PublicKey)

/-- The metadata of a message that was put into an envelope. The identifier is the one that was given,
or the digest of the body and the moment. -/
structure Metadata.Describes (m : Metadata) (clock : Clock) (body : MessageBody)
    (settings : Settings) : Prop where
  version_eq : m.version = protocolVersion
  statusCode_eq : m.statusCode = settings.statusCode
  statusMessage_eq : m.statusMessage = settings.statusMessage
  messageType_eq : m.messageType = body.messageType
  identifier_eq : Hex.lower m.identifier =
    (settings.identifier.map Hex.lower).getD (sha256Text (body.encode ++ clock.octets))

/-- The plain envelope of a body has such metadata, whatever is said about encryption. -/
theorem Metadata.describes_ofBody (clock : Clock) (body : MessageBody) (settings : Settings)
    (record : Option EncryptionRecord) :
    { (PlainEnvelope.ofBody clock body settings).metadata with encryption := record }.Describes clock
      body settings where
  version_eq := rfl
  statusCode_eq := rfl
  statusMessage_eq := rfl
  messageType_eq := rfl
  identifier_eq := by
    show Hex.lower (settings.identifier.getD (derivedIdentifier clock body.encode)) = _
    cases settings.identifier with
    | none => rfl
    | some identifier => rfl

/-- The expected kind is compared after everything else. -/
theorem openKind_of_openExpecting {octets : Bytes} {expected : MessageType}
    {reader : Option EncryptionKeys} {opened : OpenedMessage}
    (h : openExpecting octets expected reader = .ok opened) :
    openKind octets expected reader =
      if opened.body.messageType = expected then .ok opened
      else .error (.object (.heldType expected opened.body.messageType)) := by
  rw [openKind, h]
  rfl

/-- Without a private key, an encrypted envelope with a good signature is refused for that. -/
theorem openExpecting_without_key {e : EncryptedEnvelope} {expected : MessageType}
    {reader : Option EncryptionKeys} (hsignature : e.checkSignature = .ok ())
    (hlen : (Envelope.encrypted e).encode.length < sizeLimit)
    (hreader : reader.bind EncryptionKeys.privateKeyPem = none) :
    openExpecting (Envelope.encrypted e).encode expected reader =
      .error (.encryption .recipientPrivateKeyMissing) := by
  have hdecrypt : e.decrypt expected reader = .error (.encryption .recipientPrivateKeyMissing) := by
    rw [EncryptedEnvelope.decrypt, hsignature, hreader]
    rfl
  rw [openExpecting, Envelope.decode_encode expected _ hlen]
  show (e.decrypt expected reader >>= _) = _
  rw [hdecrypt]
  rfl

section

variable {clock : Clock} {body : MessageBody} {settings : Settings}
  {sender recipient : Option EncryptionKeys} {octets : Bytes}

/-- A body in an envelope is opened as a body of its kind, with what was said about it. -/
theorem openKind_enclosed (reader : Option EncryptionKeys)
    (h : enclose clock body settings sender recipient = .ok octets)
    (hlen : octets.length < sizeLimit)
    (hreach : ∀ s r, sender = some s → recipient = some r →
      s.Reach r reader ∧ SignatureFound octets) :
    ∃ metadata, openKind octets body.messageType reader = .ok ⟨body.bare, metadata⟩ ∧
      metadata.Describes clock body settings ∧
      EncryptionRecord.Tells clock sender recipient metadata.encryption := by
  obtain ⟨record, hrecord, hopen⟩ := openExpecting_enclosed h hlen hreach body.messageType
  refine ⟨_, ?_, Metadata.describes_ofBody clock body settings record, hrecord⟩
  rw [openKind_of_openExpecting hopen, if_pos body.messageType_bare]

/-- It is not opened as a body of another kind. -/
theorem openKind_enclosed_of_ne (reader : Option EncryptionKeys)
    (h : enclose clock body settings sender recipient = .ok octets)
    (hlen : octets.length < sizeLimit)
    (hreach : ∀ s r, sender = some s → recipient = some r →
      s.Reach r reader ∧ SignatureFound octets)
    {expected : MessageType} (hne : expected ≠ body.messageType) :
    openKind octets expected reader = .error (.object (.heldType expected body.messageType)) := by
  obtain ⟨_, _, hopen⟩ := openExpecting_enclosed h hlen hreach expected
  rw [openKind_of_openExpecting hopen]
  dsimp only
  rw [MessageBody.messageType_bare, if_neg (Ne.symm hne)]

/-- Unless the keys of both sides are given, the envelope is plain. -/
theorem enclose_of_missing (clock : Clock) (body : MessageBody) (settings : Settings)
    (hmissing : sender = none ∨ recipient = none) :
    enclose clock body settings sender recipient =
      .ok (Envelope.plain (.ofBody clock body settings)).encode := by
  rcases hmissing with rfl | rfl
  · rfl
  · cases sender <;> rfl

/-- Then it says nothing of encryption. -/
theorem EncryptionRecord.Tells.eq_none {record : Option EncryptionRecord}
    (h : EncryptionRecord.Tells clock sender recipient record)
    (hmissing : sender = none ∨ recipient = none) : record = none := by
  rcases hmissing with rfl | rfl
  · exact h
  · cases sender <;> exact h

/-- Without a private key nothing of an encrypted envelope is opened. -/
theorem openKind_without_key {s r : EncryptionKeys} {reader : Option EncryptionKeys}
    (h : enclose clock body settings (some s) (some r) = .ok octets)
    (hlen : octets.length < sizeLimit)
    (hhalves : ∀ pem, s.privateKeyPem = some pem → Halves pem s.publicKeyPem)
    (hfound : SignatureFound octets) (hreader : reader.bind EncryptionKeys.privateKeyPem = none)
    (expected : MessageType) :
    openKind octets expected reader = .error (.encryption .recipientPrivateKeyMissing) := by
  obtain ⟨after, hafter, hoctets⟩ := bind_eq_ok_iff.mp h
  cases hoctets
  have hsignature := EncryptedEnvelope.checkSignature_of_encrypt hafter hhalves
    (hfound after (Envelope.decode_encode _ _ hlen))
  rw [openKind, openExpecting_without_key hsignature hlen hreader]
  rfl

end

/-- **Envelopes are opened as what they were made of.** Unless the keys of both sides are given the
envelope is plain, and everyone opens it. Otherwise it is encrypted, and it is opened with the private
half of the recipient's key but not without a private key. Either way the body is the one that was
put in, less what does not travel, and it is not opened as a body of another kind. -/
theorem openKind_of_enclose (clock : Clock) (body : MessageBody) (settings : Settings) :
    (∀ sender recipient : Option EncryptionKeys, sender = none ∨ recipient = none →
      ∃ octets, enclose clock body settings sender recipient = .ok octets ∧
        (octets.length < sizeLimit → ∀ reader,
          (∃ metadata, openKind octets body.messageType reader = .ok ⟨body.bare, metadata⟩ ∧
            metadata.Describes clock body settings ∧ metadata.encryption = none) ∧
          ∀ expected, expected ≠ body.messageType → openKind octets expected reader =
            .error (.object (.heldType expected body.messageType)))) ∧
    ∀ (sender recipient : EncryptionKeys) (octets : Bytes),
      (∀ pem, sender.privateKeyPem = some pem → Halves pem sender.publicKeyPem) →
      enclose clock body settings (some sender) (some recipient) = .ok octets →
      octets.length < sizeLimit → SignatureFound octets →
        (∀ reader : Option EncryptionKeys,
          (∃ pem, reader.bind EncryptionKeys.privateKeyPem = some pem ∧
            Halves pem recipient.publicKeyPem) →
          (∃ metadata record,
            openKind octets body.messageType reader = .ok ⟨body.bare, metadata⟩ ∧
            metadata.Describes clock body settings ∧ metadata.encryption = some record ∧
            record.senderPublicKeyPem = sender.publicKeyPem ∧
            record.recipientPublicKeyPem = recipient.publicKeyPem ∧ record.nonce = clock.nonce) ∧
          ∀ expected, expected ≠ body.messageType → openKind octets expected reader =
            .error (.object (.heldType expected body.messageType))) ∧
        ∀ reader : Option EncryptionKeys, reader.bind EncryptionKeys.privateKeyPem = none →
          ∀ expected, openKind octets expected reader =
            .error (.encryption .recipientPrivateKeyMissing) := by
  constructor
  · intro sender recipient hmissing
    have henclose := enclose_of_missing clock body settings hmissing
    have hreach : ∀ {octets : Bytes} {reader : Option EncryptionKeys} (s r : EncryptionKeys),
        sender = some s → recipient = some r → s.Reach r reader ∧ SignatureFound octets := by
      rintro _ _ s r rfl rfl
      rcases hmissing with hnone | hnone <;> cases hnone
    refine ⟨_, henclose, fun hlen reader => ⟨?_, fun expected hne => ?_⟩⟩
    · obtain ⟨metadata, hopen, hdescribes, htells⟩ :=
        openKind_enclosed reader henclose hlen hreach
      exact ⟨metadata, hopen, hdescribes, htells.eq_none hmissing⟩
    · exact openKind_enclosed_of_ne reader henclose hlen hreach hne
  · intro sender recipient octets hsender h hlen hfound
    refine ⟨fun reader hreader => ?_, fun reader hreader => ?_⟩
    · have hreach : ∀ s r, some sender = some s → some recipient = some r →
          s.Reach r reader ∧ SignatureFound octets := by
        rintro _ _ ⟨⟩ ⟨⟩
        exact ⟨⟨hsender, hreader⟩, hfound⟩
      refine ⟨?_, fun expected hne => openKind_enclosed_of_ne reader h hlen hreach hne⟩
      obtain ⟨metadata, hopen, hdescribes, payload, signature, hrecord⟩ :=
        openKind_enclosed reader h hlen hreach
      exact ⟨metadata, _, hopen, hdescribes, hrecord, rfl, rfl, rfl⟩
    · exact openKind_without_key h hlen hsender hfound hreader

/-! ## A sealed message -/

/-- A payment of one originator, who is primary and states nothing. -/
def originatorPayment : MessageBody :=
  .payment { Payment.blank with originators := [⟨true, []⟩] }

/-- Settings of an encrypted envelope with an identifier of one octet. -/
def sealedSettings : Settings := { identifier := some [1], encrypt := true }

/-- The payment as the sample sender encrypts it to the sample recipient, without a signature. -/
def sealedPayment : EncryptedEnvelope :=
  (PlainEnvelope.ofBody ⟨0⟩ originatorPayment sealedSettings).sealed ⟨0⟩ (sampleKeys senderSecret)
    (sampleKeys recipientSecret) senderSecret recipientSecret

/-- The same with the sender's signature. -/
def signedPayment : EncryptedEnvelope :=
  { sealedPayment with
    signature := (Curve.sign senderSecret.scalar sealedPayment.signedOctets).toDer }

theorem enclose_signedPayment : enclose ⟨0⟩ originatorPayment sealedSettings
    (some (sampleKeys senderSecret)) (some (sampleKeys recipientSecret)) =
      .ok (Envelope.encrypted signedPayment).encode := by
  have hencrypt : (PlainEnvelope.ofBody ⟨0⟩ originatorPayment sealedSettings).encrypt ⟨0⟩
      (sampleKeys senderSecret) (sampleKeys recipientSecret) = .ok signedPayment :=
    PlainEnvelope.encrypt_of_halves ⟨0⟩ _ rfl senderSecret.ofPem_toPem
      senderSecret.ofPem_toPem_toPublic recipientSecret.ofPem_toPem_toPublic
  exact bind_eq_ok_iff.mpr ⟨signedPayment, hencrypt, rfl⟩

/-- The digest that the sender signs, as a number. -/
theorem messageScalar_sealedPayment : Curve.messageScalar sealedPayment.signedOctets =
    0xa9540e843851fefc09d64910e9ed498dd8d313f802b46af2f426d8b8c0a60edc := by
  -- texts are left aside, their octets are known
  simp only [sealedPayment, EncryptedEnvelope.signedOctets, PlainEnvelope.sealed,
    Wire.signedFields, Codec.pair, Codec.text, Sealing.encrypt, Hex.encode_upper]
  decide +kernel

/-- The first candidate for a nonce gives a signature. -/
theorem sign_sealedPayment_ne :
    Curve.sign senderSecret.scalar sealedPayment.signedOctets ≠ ⟨0, 0⟩ := by
  apply Curve.sign_ne_of_firstNonceSuits
  simp only [Curve.firstNonceSuits, Curve.nonceSuits, Curve.NonceState.start,
    messageScalar_sealedPayment]
  decide +kernel

theorem length_signedPayment : (Envelope.encrypted signedPayment).encode.length < sizeLimit := by
  have hsignature : signedPayment.signature.length ≤ 72 :=
    Curve.Signature.length_toDer_le (Curve.inRange_sign sign_sealedPayment_ne)
  have hpayload : (Utf8.encode signedPayment.payload).length = _ :=
    Sealing.length_encrypt senderSecret.toPublic_ne_infinity _ _
  have hrest : 2 * (Sealing.publicKeyLength + Sealing.macLength + (Cipher.pad
        (Envelope.plain (.ofBody ⟨0⟩ originatorPayment sealedSettings)).encode).length) +
      (Utf8.encode signedPayment.senderPublicKeyPem).length +
      (Utf8.encode signedPayment.recipientPublicKeyPem).length + signedPayment.identifier.length +
      (Utf8.encode signedPayment.statusMessage).length < 2000 := by
    decide +kernel
  have hlimit : 2136 < sizeLimit := by decide
  rw [EncryptedEnvelope.length_encode, hpayload]
  omega

theorem signatureFound_signedPayment : SignatureFound (Envelope.encrypted signedPayment).encode := by
  intro e he
  rw [Envelope.decode_encode _ _ length_signedPayment] at he
  cases he
  exact Curve.toDer_ne_of_sign_ne sign_sealedPayment_ne

/-- The payment without keys, and sealed: read by everyone, by the recipient, and without a key. -/
theorem openKind_originatorPayment :
    (∃ octets metadata, enclose ⟨0⟩ originatorPayment sealedSettings none none = .ok octets ∧
      openKind octets .payment none = .ok ⟨originatorPayment, metadata⟩ ∧
      metadata.Describes ⟨0⟩ originatorPayment sealedSettings ∧ metadata.encryption = none ∧
      openKind octets .paymentAck none = .error (.object (.heldType .paymentAck .payment))) ∧
    ∃ octets metadata record,
      enclose ⟨0⟩ originatorPayment sealedSettings (some (sampleKeys senderSecret))
        (some (sampleKeys recipientSecret)) = .ok octets ∧
      openKind octets .payment (some (sampleKeys recipientSecret)) =
        .ok ⟨originatorPayment, metadata⟩ ∧
      metadata.Describes ⟨0⟩ originatorPayment sealedSettings ∧
      metadata.encryption = some record ∧ record.nonce = 0 ∧
      openKind octets .paymentAck (some (sampleKeys recipientSecret)) =
        .error (.object (.heldType .paymentAck .payment)) ∧
      openKind octets .payment none = .error (.encryption .recipientPrivateKeyMissing) := by
  obtain ⟨hplain, hsealed⟩ := openKind_of_enclose ⟨0⟩ originatorPayment sealedSettings
  constructor
  · obtain ⟨octets, h, hread⟩ := hplain none none (.inl rfl)
    have hlen : octets.length < sizeLimit := by
      cases h
      decide +kernel
    obtain ⟨⟨metadata, hopen, hdescribes, hrecord⟩, hother⟩ := hread hlen none
    exact ⟨octets, metadata, h, hopen, hdescribes, hrecord, hother .paymentAck (by decide)⟩
  · obtain ⟨hread, hwithout⟩ := hsealed (sampleKeys senderSecret) (sampleKeys recipientSecret) _
      sampleKeys_reach.sender_halves enclose_signedPayment length_signedPayment
      signatureFound_signedPayment
    obtain ⟨⟨metadata, record, hopen, hdescribes, hrecord, _, _, hnonce⟩, hother⟩ :=
      hread (some (sampleKeys recipientSecret)) sampleKeys_reach.reader_halves
    exact ⟨_, metadata, record, enclose_signedPayment, hopen, hdescribes, hrecord, hnonce,
      hother .paymentAck (by decide), hwithout none rfl .payment⟩

end AttestedPayments
