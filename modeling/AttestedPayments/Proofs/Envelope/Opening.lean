import AttestedPayments.Envelope.Opening
import AttestedPayments.Proofs.Curve.Ecdsa
import AttestedPayments.Proofs.Envelope.Sealing
import AttestedPayments.Proofs.Wire.Canonical

/-!
# What was put into an envelope is taken out of it

* `EncryptionKeys.Reach` — the keys of both sides belong together, and a reader has the private
  half of the recipient's key.
* `SignatureFound` — the signature of an encrypted envelope is one that was found.
* `EncryptedEnvelope.decrypt_of_encrypt` — the plain envelope is recovered from the encrypted one.

Principal result: `openExpecting_of_enclose` — the body comes out of the envelope, less what does not
travel.
-/

set_option autoImplicit false

namespace AttestedPayments

open Codec (sizeLimit)
open Curve (SecretKey PublicKey)

/-! ## Sizes -/

/-- A body is not longer than its envelope. -/
theorem PlainEnvelope.length_serialized_le (e : PlainEnvelope) :
    e.serializedMessage.length ≤ (Envelope.plain e).encode.length := by
  simp only [Envelope.encode, Wire.envelope, Wire.plainEnvelope, Codec.via, Codec.pair,
    Codec.octets, List.length_append]
  omega

/-- The fields of an encrypted envelope without fixed width, and sixty-four octets for the others and
the counts. -/
theorem EncryptedEnvelope.length_encode (e : EncryptedEnvelope) :
    (Envelope.encrypted e).encode.length =
      64 + (Utf8.encode e.payload).length + (Utf8.encode e.senderPublicKeyPem).length +
        (Utf8.encode e.recipientPublicKeyPem).length + e.signature.length + e.identifier.length +
        (Utf8.encode e.statusMessage).length := by
  simp only [Envelope.encode, Wire.envelope, Wire.encryptedEnvelope, Wire.statusCode, Codec.uint32,
    Codec.uint64, Codec.int64, Codec.number, Codec.via, Codec.refine, Codec.pair, Codec.text,
    Codec.octets, List.length_append, Codec.length_count, LittleEndian.length_digits]
  omega

/-- A payload is not longer than its envelope. -/
theorem EncryptedEnvelope.length_payload_le (e : EncryptedEnvelope) :
    (Utf8.encode e.payload).length ≤ (Envelope.encrypted e).encode.length := by
  rw [e.length_encode]
  omega

/-! ## Plain envelopes -/

theorem PlainEnvelope.body_eq_ok_iff {e : PlainEnvelope} {body : MessageBody} :
    e.body = .ok body ↔ MessageBody.decode e.messageType e.serializedMessage = .ok body := by
  unfold PlainEnvelope.body
  cases MessageBody.decode e.messageType e.serializedMessage with
  | error fault => exact ⟨nofun, nofun⟩
  | ok found => simp only [Except.ok.injEq]

/-- The body of a plain envelope is read back, less what does not travel. -/
theorem PlainEnvelope.body_ofBody (clock : Clock) (body : MessageBody) (settings : Settings)
    (hlen : body.encode.length < sizeLimit) :
    (PlainEnvelope.ofBody clock body settings).body = .ok body.bare :=
  PlainEnvelope.body_eq_ok_iff.mpr (MessageBody.decode_encode body hlen)

/-! ## Encrypted envelopes -/

/-- The sender's keys belong together, and the reader has the private half of the recipient's public
key. -/
structure EncryptionKeys.Reach (sender recipient : EncryptionKeys) (reader : Option EncryptionKeys) :
    Prop where
  sender_halves : ∀ pem, sender.privateKeyPem = some pem → Halves pem sender.publicKeyPem
  reader_halves : ∃ pem, reader.bind EncryptionKeys.privateKeyPem = some pem ∧
    Halves pem recipient.publicKeyPem

/-- The signature of an encrypted envelope is not the one that stands for a search without result. -/
def SignatureFound (octets : Bytes) : Prop :=
  ∀ e, Envelope.decode .unknown octets = .ok (.encrypted e) →
    e.signature ≠ (Curve.Signature.mk 0 0).toDer

theorem liftKey_eq_ok_iff {α : Type} {read : Except KeyFault α} {key : α} :
    liftKey read = .ok key ↔ read = .ok key := by
  cases read with
  | error fault => exact ⟨nofun, nofun⟩
  | ok a => simp only [liftKey, Except.ok.injEq]

theorem liftSealing_eq_ok_iff {α : Type} {result : Except SealingFault α} {a : α} :
    liftSealing result = .ok a ↔ result = .ok a := by
  cases result with
  | error fault => exact ⟨nofun, nofun⟩
  | ok b => simp only [liftSealing, Except.ok.injEq]

/-- What encrypting an envelope gives. -/
theorem PlainEnvelope.encrypt_eq_ok {clock : Clock} {e : PlainEnvelope} {after : EncryptedEnvelope}
    {sender recipient : EncryptionKeys} (h : e.encrypt clock sender recipient = .ok after) :
    ∃ secretPem secret, sender.privateKeyPem = some secretPem ∧
      SecretKey.ofPem secretPem = .ok secret ∧
      Sealing.encryptWithPems (Envelope.plain e).encode recipient.publicKeyPem sender.publicKeyPem
        secretPem = .ok after.payload ∧
      after.senderPublicKeyPem = sender.publicKeyPem ∧ after.identifier = e.identifier ∧
      after.signature = (Curve.sign secret.scalar after.signedOctets).toDer ∧
      { after.metadata with version := e.version, messageType := e.messageType } =
        { e.metadata with
          encryption := some ⟨after.payload, sender.publicKeyPem, recipient.publicKeyPem,
            after.signature, clock.nonce⟩ } := by
  unfold PlainEnvelope.encrypt at h
  split at h
  · cases h
  rename_i secretPem hpem
  obtain ⟨payload, hpayload, h⟩ := bind_eq_ok_iff.mp h
  obtain ⟨secret, hsecret, h⟩ := bind_eq_ok_iff.mp h
  cases h
  exact ⟨secretPem, secret, hpem, liftKey_eq_ok_iff.mp hsecret, liftSealing_eq_ok_iff.mp hpayload,
    rfl, rfl, rfl, rfl⟩

/-- A plain envelope encrypted from the holder of one key to the holder of another, without a
signature. -/
def PlainEnvelope.sealed (clock : Clock) (e : PlainEnvelope) (sender recipient : EncryptionKeys)
    (a b : SecretKey) : EncryptedEnvelope where
  payload := Sealing.encrypt b.toPublic a.toPublic a (Envelope.plain e).encode
  senderPublicKeyPem := sender.publicKeyPem
  recipientPublicKeyPem := recipient.publicKeyPem
  signature := []
  identifier := e.identifier
  statusCode := e.statusCode
  statusMessage := e.statusMessage
  nonce := clock.nonce

/-- What encrypting an envelope gives with keys that belong together. -/
theorem PlainEnvelope.encrypt_of_halves (clock : Clock) (e : PlainEnvelope)
    {sender recipient : EncryptionKeys} {secretPem : String} {a b : SecretKey}
    (hpem : sender.privateKeyPem = some secretPem) (hsecret : SecretKey.ofPem secretPem = .ok a)
    (hpublic : PublicKey.ofPem sender.publicKeyPem = .ok a.toPublic)
    (hrecipient : PublicKey.ofPem recipient.publicKeyPem = .ok b.toPublic) :
    e.encrypt clock sender recipient =
      .ok { e.sealed clock sender recipient a b with
        signature :=
          (Curve.sign a.scalar (e.sealed clock sender recipient a b).signedOctets).toDer } := by
  have hpayload := Sealing.encryptWithPems_of_halves hsecret hpublic hrecipient
    (Envelope.plain e).encode
  simp only [PlainEnvelope.encrypt, hpem, hpayload, hsecret, liftSealing, liftKey]
  rfl

/-- **A signature is accepted exactly if it verifies** under the sender's key in the envelope. -/
theorem EncryptedEnvelope.checkSignature_eq_ok_iff {e : EncryptedEnvelope} :
    e.checkSignature = .ok () ↔ ∃ key signature, PublicKey.ofPem e.senderPublicKeyPem = .ok key ∧
      Curve.Signature.ofDer? e.signature = some signature ∧
      Curve.verify key e.signedOctets signature = true := by
  rw [checkSignature, bind_eq_ok_iff]
  constructor
  · rintro ⟨key, hkey, h⟩
    split at h
    · cases h
    · rename_i signature hsignature
      exact ⟨key, signature, liftKey_eq_ok_iff.mp hkey, hsignature, (ite_ok_eq_ok_iff.mp h).1⟩
  · rintro ⟨key, signature, hkey, hsignature, hverify⟩
    refine ⟨key, liftKey_eq_ok_iff.mpr hkey, ?_⟩
    rw [hsignature]
    exact if_pos hverify

/-- **What is taken out of an encrypted envelope**, and when. -/
theorem EncryptedEnvelope.decrypt_eq_ok_iff {e : EncryptedEnvelope} {expected : MessageType}
    {reader : Option EncryptionKeys} {inner : PlainEnvelope} :
    e.decrypt expected reader = .ok inner ↔ e.checkSignature = .ok () ∧ ∃ secretPem octets,
      reader.bind EncryptionKeys.privateKeyPem = some secretPem ∧
      Sealing.decryptWithPems e.payload secretPem e.senderPublicKeyPem = .ok octets ∧
      Envelope.decode expected octets = .ok (.plain inner) ∧ inner.identifier = e.identifier := by
  rw [decrypt, bind_eq_ok_iff]
  constructor
  · rintro ⟨⟨⟩, hsignature, h⟩
    refine ⟨hsignature, ?_⟩
    split at h
    · cases h
    · rename_i secretPem hreader
      obtain ⟨octets, hoctets, h⟩ := bind_eq_ok_iff.mp h
      obtain ⟨found, hfound, h⟩ := bind_eq_ok_iff.mp h
      cases found with
      | encrypted _ => cases h
      | plain found =>
        obtain ⟨hidentifier, rfl⟩ := ite_ok_eq_ok_iff.mp h
        exact ⟨secretPem, octets, hreader, liftSealing_eq_ok_iff.mp hoctets, hfound, hidentifier⟩
  · rintro ⟨hsignature, secretPem, octets, hreader, hoctets, hdecode, hidentifier⟩
    refine ⟨(), hsignature, ?_⟩
    rw [hreader]
    exact bind_eq_ok_iff.mpr ⟨octets, liftSealing_eq_ok_iff.mpr hoctets,
      bind_eq_ok_iff.mpr ⟨_, hdecode, if_pos hidentifier⟩⟩

/-- **The signature of an envelope is accepted.** -/
theorem EncryptedEnvelope.checkSignature_of_signed {e : EncryptedEnvelope} {secret : SecretKey}
    (hpublic : PublicKey.ofPem e.senderPublicKeyPem = .ok secret.toPublic)
    (hsign : e.signature = (Curve.sign secret.scalar e.signedOctets).toDer)
    (hfound : e.signature ≠ (Curve.Signature.mk 0 0).toDer) : e.checkSignature = .ok () := by
  have hne : Curve.sign secret.scalar e.signedOctets ≠ ⟨0, 0⟩ := by
    intro heq
    rw [hsign, heq] at hfound
    exact hfound rfl
  have hread := Curve.Signature.ofDer?_toDer (Curve.inRange_sign hne)
  have hverify : Curve.verify secret.toPublic e.signedOctets
      (Curve.sign secret.scalar e.signedOctets) = true := Curve.verify_sign hne
  rw [← hsign] at hread
  exact checkSignature_eq_ok_iff.mpr ⟨secret.toPublic, _, hpublic, hread, hverify⟩

/-- The signature of an envelope that was encrypted is accepted, whoever reads it. -/
theorem EncryptedEnvelope.checkSignature_of_encrypt {clock : Clock} {e : PlainEnvelope}
    {after : EncryptedEnvelope} {sender recipient : EncryptionKeys}
    (h : e.encrypt clock sender recipient = .ok after)
    (hsender : ∀ pem, sender.privateKeyPem = some pem → Halves pem sender.publicKeyPem)
    (hfound : after.signature ≠ (Curve.Signature.mk 0 0).toDer) : after.checkSignature = .ok () := by
  obtain ⟨secretPem, secret, hpem, hsecret, _, hsenderPem, _, hsign, _⟩ :=
    PlainEnvelope.encrypt_eq_ok h
  have hpublic : PublicKey.ofPem after.senderPublicKeyPem = .ok secret.toPublic := by
    obtain ⟨key, hkey, hpublic⟩ := hsender secretPem hpem
    obtain rfl := Except.ok.inj (hsecret.symm.trans hkey)
    rw [hsenderPem, hpublic]
  exact after.checkSignature_of_signed hpublic hsign hfound

/-- **The plain envelope is recovered from the encrypted one.** -/
theorem EncryptedEnvelope.decrypt_of_encrypt {clock : Clock} {e : PlainEnvelope}
    {after : EncryptedEnvelope} {sender recipient : EncryptionKeys} {reader : Option EncryptionKeys}
    (h : e.encrypt clock sender recipient = .ok after) (hreach : sender.Reach recipient reader)
    (hlen : (Envelope.encrypted after).encode.length < sizeLimit)
    (hfound : after.signature ≠ (Curve.Signature.mk 0 0).toDer) (expected : MessageType) :
    after.decrypt expected reader = .ok e := by
  have hsignature := EncryptedEnvelope.checkSignature_of_encrypt h hreach.sender_halves hfound
  obtain ⟨secretPem, secret, hpem, _, hpayload, hsender, hidentifier, _⟩ :=
    PlainEnvelope.encrypt_eq_ok h
  have hhalves := hreach.sender_halves secretPem hpem
  obtain ⟨readerPem, hreader, hreaderHalves⟩ := hreach.reader_halves
  have hmessage := Sealing.decryptWithPems_of_encryptWithPems hpayload hhalves hreaderHalves
  have hinner : (Envelope.plain e).encode.length < sizeLimit :=
    Nat.lt_of_le_of_lt ((Sealing.length_le_payload hpayload).trans after.length_payload_le) hlen
  rw [← hsender] at hmessage
  exact decrypt_eq_ok_iff.mpr ⟨hsignature, readerPem, _, hreader, hmessage,
    Envelope.decode_encode expected _ hinner, hidentifier.symm⟩

/-! ## Messages -/

/-- **What opening gives**, for a plain and for an encrypted envelope. -/
theorem openExpecting_eq_ok_iff {octets : Bytes} {expected : MessageType}
    {reader : Option EncryptionKeys} {opened : OpenedMessage} :
    openExpecting octets expected reader = .ok opened ↔
      (∃ e, Envelope.decode expected octets = .ok (.plain e) ∧ e.body = .ok opened.body ∧
        opened.metadata = e.metadata) ∨
      ∃ e inner, Envelope.decode expected octets = .ok (.encrypted e) ∧
        e.decrypt expected reader = .ok inner ∧ inner.body = .ok opened.body ∧
        opened.metadata =
          { e.metadata with version := inner.version, messageType := inner.messageType } := by
  rw [openExpecting, bind_eq_ok_iff]
  constructor
  · rintro ⟨e, he, h⟩
    cases e with
    | plain e =>
      obtain ⟨body, hbody, h⟩ := bind_eq_ok_iff.mp h
      cases h
      exact .inl ⟨e, he, hbody, rfl⟩
    | encrypted e =>
      obtain ⟨inner, hinner, h⟩ := bind_eq_ok_iff.mp h
      obtain ⟨body, hbody, h⟩ := bind_eq_ok_iff.mp h
      cases h
      exact .inr ⟨e, inner, he, hinner, hbody, rfl⟩
  · obtain ⟨body, metadata⟩ := opened
    rintro (⟨e, he, hbody, rfl⟩ | ⟨e, inner, he, hinner, hbody, rfl⟩)
    · exact ⟨_, he, bind_eq_ok_iff.mpr ⟨body, hbody, rfl⟩⟩
    · exact ⟨_, he, bind_eq_ok_iff.mpr ⟨inner, hinner, bind_eq_ok_iff.mpr ⟨body, hbody, rfl⟩⟩⟩

/-- Opening a plain envelope gives its body. -/
theorem openExpecting_plain {e : PlainEnvelope} {body : MessageBody} (hbody : e.body = .ok body)
    (hlen : (Envelope.plain e).encode.length < sizeLimit) (expected : MessageType)
    (reader : Option EncryptionKeys) :
    openExpecting (Envelope.plain e).encode expected reader = .ok ⟨body, e.metadata⟩ :=
  openExpecting_eq_ok_iff.mpr (.inl ⟨e, Envelope.decode_encode expected _ hlen, hbody, rfl⟩)

/-- Opening an encrypted envelope gives the body of the envelope inside. -/
theorem openExpecting_encrypted {e : EncryptedEnvelope} {inner : PlainEnvelope} {body : MessageBody}
    {expected : MessageType} {reader : Option EncryptionKeys}
    (hinner : e.decrypt expected reader = .ok inner) (hbody : inner.body = .ok body)
    (hlen : (Envelope.encrypted e).encode.length < sizeLimit) :
    openExpecting (Envelope.encrypted e).encode expected reader =
      .ok ⟨body, { e.metadata with version := inner.version, messageType := inner.messageType }⟩ :=
  openExpecting_eq_ok_iff.mpr
    (.inr ⟨e, inner, Envelope.decode_encode expected _ hlen, hinner, hbody, rfl⟩)

/-- What an envelope says about its encryption: both public keys and the moment of its creation if the
keys of both sides were given, and nothing otherwise. -/
def EncryptionRecord.Tells (clock : Clock) (sender recipient : Option EncryptionKeys)
    (record : Option EncryptionRecord) : Prop :=
  match sender, recipient with
  | some s, some r => ∃ payload signature,
    record = some ⟨payload, s.publicKeyPem, r.publicKeyPem, signature, clock.nonce⟩
  | _, _ => record = none

/-- **Body and metadata come out of the envelope that they were put into**, the body less what does
not travel. -/
theorem openExpecting_enclosed {clock : Clock} {body : MessageBody} {settings : Settings}
    {sender recipient reader : Option EncryptionKeys} {octets : Bytes}
    (h : enclose clock body settings sender recipient = .ok octets)
    (hlen : octets.length < sizeLimit)
    (hreach : ∀ s r, sender = some s → recipient = some r → s.Reach r reader ∧ SignatureFound octets)
    (expected : MessageType) :
    ∃ record, EncryptionRecord.Tells clock sender recipient record ∧
      openExpecting octets expected reader = .ok ⟨body.bare,
        { (PlainEnvelope.ofBody clock body settings).metadata with encryption := record }⟩ := by
  have hplain : ∀ {limit}, (Envelope.plain (.ofBody clock body settings)).encode.length ≤ limit →
      limit < sizeLimit → (PlainEnvelope.ofBody clock body settings).body = .ok body.bare :=
    fun hle hlimit => PlainEnvelope.body_ofBody clock body settings
      (Nat.lt_of_le_of_lt ((PlainEnvelope.length_serialized_le _).trans hle) hlimit)
  unfold enclose at h
  dsimp only at h
  split at h
  · rename_i s r
    obtain ⟨after, hafter, h⟩ := bind_eq_ok_iff.mp h
    cases h
    obtain ⟨hreach, hfound⟩ := hreach s r rfl rfl
    have hsignature := hfound after (Envelope.decode_encode _ _ hlen)
    have hdecrypt := EncryptedEnvelope.decrypt_of_encrypt hafter hreach hlen hsignature expected
    obtain ⟨_, _, _, _, hpayload, _, _, _, hmetadata⟩ := PlainEnvelope.encrypt_eq_ok hafter
    have hle := (Sealing.length_le_payload hpayload).trans after.length_payload_le
    refine ⟨some ⟨after.payload, s.publicKeyPem, r.publicKeyPem, after.signature, clock.nonce⟩,
      ⟨_, _, rfl⟩, ?_⟩
    rw [openExpecting_encrypted hdecrypt (hplain hle hlen) hlen, hmetadata]
  · rename_i hmissing
    cases h
    refine ⟨none, ?_, openExpecting_plain (hplain le_rfl hlen) hlen expected reader⟩
    unfold EncryptionRecord.Tells
    split
    · exact absurd rfl (hmissing _ _ rfl)
    · rfl

/-- The body comes out of the envelope that it was put into. -/
theorem openExpecting_of_enclose {clock : Clock} {body : MessageBody} {settings : Settings}
    {sender recipient reader : Option EncryptionKeys} {octets : Bytes}
    (h : enclose clock body settings sender recipient = .ok octets)
    (hlen : octets.length < sizeLimit)
    (hreach : ∀ s r, sender = some s → recipient = some r → s.Reach r reader ∧ SignatureFound octets)
    (expected : MessageType) :
    ∃ metadata, openExpecting octets expected reader = .ok ⟨body.bare, metadata⟩ := by
  obtain ⟨_, _, hopen⟩ := openExpecting_enclosed h hlen hreach expected
  exact ⟨_, hopen⟩

/-! ## The keys of two sides -/

/-- The keys on the curve of a side that has the given scalar. -/
def sampleKeys (secret : SecretKey) : EncryptionKeys :=
  ⟨some secret.toPem, PublicKey.toPem secret.toPublic⟩

/-- The scalar of the sample sender. -/
def senderSecret : SecretKey := ⟨1, by decide +kernel⟩

/-- The scalar of the sample recipient. -/
def recipientSecret : SecretKey := ⟨2, by decide +kernel⟩

theorem sampleKeys_reach :
    (sampleKeys senderSecret).Reach (sampleKeys recipientSecret) (some (sampleKeys recipientSecret))
    where
  sender_halves pem hpem := by
    cases hpem
    exact halves_toPem senderSecret
  reader_halves := ⟨_, rfl, halves_toPem recipientSecret⟩

end AttestedPayments
