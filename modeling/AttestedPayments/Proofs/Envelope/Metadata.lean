import AttestedPayments.Proofs.Envelope.RoundTrip

/-!
# What an envelope says is what its reader finds

The same facts about a message stand in two places if it is encrypted: outside, where everyone reads
them, and in the envelope inside.

* `EncryptionRecord.Verified` — the sender has signed what stands outside.
* `EncryptionRecord.Holds` — the envelope inside, as a reader decrypts it.

Principal result: `readMetadata_of_openMessage`.
-/

set_option autoImplicit false

namespace AttestedPayments

open Codec (sizeLimit)
open Curve (PublicKey)

variable {octets : Bytes} {reader : Option EncryptionKeys} {opened : OpenedMessage}

/-- The signature verifies under the sender's key. It covers the payload, both keys, the identifier and
the nonce. -/
def EncryptionRecord.Verified (record : EncryptionRecord) (identifier : Bytes) : Prop :=
  ∃ key signature, PublicKey.ofPem record.senderPublicKeyPem = .ok key ∧
    Curve.Signature.ofDer? record.signature = some signature ∧
    Curve.verify key
      (Wire.signedFields.encode (record.payload, record.senderPublicKeyPem,
        record.recipientPublicKeyPem, identifier, record.nonce)) signature = true

/-- With the reader's private key and the sender's public key the payload is the given envelope. -/
def EncryptionRecord.Holds (record : EncryptionRecord) (reader : Option EncryptionKeys)
    (inner : PlainEnvelope) : Prop :=
  ∃ secretPem, reader.bind EncryptionKeys.privateKeyPem = some secretPem ∧
    Sealing.decryptWithPems record.payload secretPem record.senderPublicKeyPem =
      .ok (Envelope.plain inner).encode

theorem readMetadata_of_decode {e : Envelope} (h : Envelope.decode .unknown octets = .ok e) :
    readMetadata octets = .ok e.metadata :=
  bind_eq_ok_iff.mpr ⟨e, h, rfl⟩

theorem PlainEnvelope.messageType_of_body {e : PlainEnvelope} {body : MessageBody}
    (h : e.body = .ok body) : e.messageType = body.messageType :=
  (MessageBody.of_decode_eq_ok (body_eq_ok_iff.mp h)).1.symm

/-- **What an envelope says is what its reader finds.** The metadata of a message that can be opened
can be read without opening it. Those of a plain envelope are the same, and its kind is that of the
body. Those of an encrypted envelope differ in nothing but version and kind, which only the envelope
inside tells; that envelope has the identifier that is read outside, and what is read outside is what
the sender has signed. -/
theorem readMetadata_of_openMessage (h : openMessage octets reader = .ok opened) :
    ∃ reported, readMetadata octets = .ok reported ∧
      ((∃ e, octets = (Envelope.plain e).encode ∧ reported.encryption = none ∧
          reported = opened.metadata ∧ reported.messageType = opened.body.messageType) ∨
        ∃ e record inner, octets = (Envelope.encrypted e).encode ∧
          reported.encryption = some record ∧
          reported = { opened.metadata with version := 0, messageType := .unknown } ∧
          record.Holds reader inner ∧ inner.body = .ok opened.body ∧
          opened.metadata.version = inner.version ∧
          opened.metadata.messageType = inner.messageType ∧
          inner.identifier = reported.identifier ∧ record.Verified reported.identifier) := by
  obtain ⟨e, he, hbody, hmetadata⟩ | ⟨e, inner, he, hinner, hbody, hmetadata⟩ :=
    openExpecting_eq_ok_iff.mp h
  · refine ⟨_, readMetadata_of_decode he, .inl ⟨e, ?_, rfl, hmetadata.symm, ?_⟩⟩
    · exact (Envelope.of_decode_eq_ok he).symm
    · exact PlainEnvelope.messageType_of_body hbody
  · obtain ⟨hsignature, secretPem, innerOctets, hsecret, hoctets, hdecode, hidentifier⟩ :=
      EncryptedEnvelope.decrypt_eq_ok_iff.mp hinner
    rw [← Envelope.of_decode_eq_ok hdecode] at hoctets
    have hverified := EncryptedEnvelope.checkSignature_eq_ok_iff.mp hsignature
    refine ⟨_, readMetadata_of_decode he, .inr ⟨e, _, inner, ?_, rfl, ?_,
      ⟨secretPem, hsecret, hoctets⟩, hbody, ?_, ?_, hidentifier, hverified⟩⟩
    · exact (Envelope.of_decode_eq_ok he).symm
    · rw [hmetadata]
      rfl
    · rw [hmetadata]
    · rw [hmetadata]

/-- A payment in a plain envelope, and sealed: what is reported of either, and what its reader finds. -/
theorem originatorPayment_reported :
    (∃ octets metadata, enclose ⟨0⟩ originatorPayment sealedSettings none none = .ok octets ∧
      openMessage octets none = .ok ⟨originatorPayment, metadata⟩ ∧
      readMetadata octets = .ok metadata ∧ metadata.messageType = .payment) ∧
    ∃ octets metadata, ∃ record : EncryptionRecord, ∃ inner : PlainEnvelope,
      enclose ⟨0⟩ originatorPayment sealedSettings (some (sampleKeys senderSecret))
        (some (sampleKeys recipientSecret)) = .ok octets ∧
      openMessage octets (some (sampleKeys recipientSecret)) =
        .ok ⟨originatorPayment, metadata⟩ ∧
      readMetadata octets = .ok { metadata with version := 0, messageType := .unknown } ∧
      metadata.version = 1 ∧ metadata.messageType = .payment ∧ metadata.identifier = [1] ∧
      record.Holds (some (sampleKeys recipientSecret)) inner ∧
      inner.version = 1 ∧ inner.messageType = .payment ∧ inner.identifier = [1] ∧
      record.Verified [1] := by
  constructor
  · have henclose : enclose ⟨0⟩ originatorPayment sealedSettings none none =
        .ok (Envelope.plain (.ofBody ⟨0⟩ originatorPayment sealedSettings)).encode := rfl
    have hlen : (Envelope.plain (.ofBody ⟨0⟩ originatorPayment sealedSettings)).encode.length <
        sizeLimit := by
      decide +kernel
    obtain ⟨record, _, hopen⟩ := openExpecting_enclosed henclose hlen nofun .unknown
    obtain ⟨reported, hread, hplain | ⟨e, _, _, he, _⟩⟩ :=
      @readMetadata_of_openMessage _ none _ hopen
    · obtain ⟨_, _, _, rfl, htype⟩ := hplain
      exact ⟨_, _, henclose, hopen, hread, htype⟩
    · cases Envelope.eq_of_encode_eq hlen he
  · obtain ⟨record, _, hopen⟩ := openExpecting_enclosed enclose_signedPayment length_signedPayment
      (fun _ _ hs hr => by
        cases hs
        cases hr
        exact ⟨sampleKeys_reach, signatureFound_signedPayment⟩) .unknown
    obtain ⟨reported, hread, ⟨e, he, _⟩ | hencrypted⟩ := readMetadata_of_openMessage hopen
    · cases Envelope.eq_of_encode_eq length_signedPayment he
    · obtain ⟨_, record, inner, _, _, rfl, hholds, _, hversion, htype, hidentifier, hverified⟩ :=
        hencrypted
      exact ⟨_, _, record, inner, enclose_signedPayment, hopen, hread, rfl, rfl, rfl, hholds,
        hversion.symm, htype.symm, hidentifier, hverified⟩

end AttestedPayments
