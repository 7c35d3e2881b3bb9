import AttestedPayments.Exchange.Reading
import AttestedPayments.Proofs.Envelope.RoundTrip
import AttestedPayments.Proofs.Exchange.Drafts
import AttestedPayments.Proofs.Trust.Paths

/-!
# What is created is valid

* `ReadableBy` — for an encrypted message, the keys of both sides and the reader's belong together.
* `checkBody_of_created` — the body that a message is made of is accepted, without what does not
  travel.

Principal result: `isValid_of_create` — a message that was created with trusted certificates and the
keys that belong to them is valid for its reader.
-/

set_option autoImplicit false

namespace AttestedPayments

open Codec (sizeLimit)

variable {chains : List Chain} {clock : Clock}

/-- If a message is encrypted then the sender's keys belong together, the reader has the private half
of the recipient's public key, and the search for a signature of the envelope had a result. -/
def ReadableBy (settings : Settings) (sender : Sender) (recipient reader : Option Recipient)
    (octets : Bytes) : Prop :=
  settings.encrypt = true →
    SignatureFound octets ∧ ∀ s r, sender.encryptionKeys = some s → recipientKeys recipient = some r →
      s.Reach r (recipientKeys reader)

/-- The keys of an exchange are those of both sides, and there are none unless the message is
encrypted. -/
theorem encryptionKeys_eq_ok {settings : Settings} {sender : Sender} {recipient : Option Recipient}
    {keys : Option KeyExchange} (h : encryptionKeys settings sender recipient = .ok keys)
    {k : KeyExchange} (hk : keys = some k) :
    settings.encrypt = true ∧ sender.encryptionKeys = some k.sender ∧
      recipientKeys recipient = some k.recipient := by
  subst hk
  unfold encryptionKeys at h
  split at h
  · cases h
  · rename_i hencrypt
    split at h
    · cases h
    · cases h
    · rename_i s r hsender hrecipient
      cases h
      refine ⟨?_, hsender, hrecipient⟩
      simpa using hencrypt

/-- There are keys of an exchange exactly if the settings ask for encryption. -/
theorem isSome_of_encryptionKeys {settings : Settings} {sender : Sender}
    {recipient : Option Recipient} {keys : Option KeyExchange}
    (h : encryptionKeys settings sender recipient = .ok keys) : keys.isSome = settings.encrypt := by
  unfold encryptionKeys at h
  split at h
  · rename_i hencrypt
    cases h
    simpa using hencrypt.symm
  · rename_i hencrypt
    split at h
    · cases h
    · cases h
    · cases h
      simpa using hencrypt

/-- Who can read a message reaches the keys that it was created with. -/
theorem ReadableBy.reach {settings : Settings} {sender : Sender}
    {recipient reader : Option Recipient} {octets : Bytes} {keys : Option KeyExchange}
    (hreadable : ReadableBy settings sender recipient reader octets)
    (hkeys : encryptionKeys settings sender recipient = .ok keys) :
    ∀ s r, keys.map KeyExchange.sender = some s → keys.map KeyExchange.recipient = some r →
      s.Reach r (recipientKeys reader) ∧ SignatureFound octets := by
  cases keys with
  | none => exact fun _ _ hs => nomatch hs
  | some k =>
    rintro _ _ ⟨⟩ ⟨⟩
    obtain ⟨hencrypt, hsender, hrecipient⟩ := encryptionKeys_eq_ok hkeys rfl
    obtain ⟨hfound, hreach⟩ := hreadable hencrypt
    exact ⟨hreach _ _ hsender hrecipient, hfound⟩

namespace Draft

variable {draft : Draft} {sender : Sender} {body attested signed : MessageBody}

/-- A sender changes nothing of a body but its own signature. -/
theorem signed_eq (h : draft.signedBy sender attested signed) :
    signed = attested ∨ ∃ signature, signed = attested.withSenderSignature signature := by
  unfold signedBy at h
  split at h
  · exact .inl h
  · cases hc : sender.signingCredential? with
    | none => exact .inl (attestSender_of_none hc h)
    | some c =>
      obtain ⟨_, _, _, _, h⟩ := attestSender_eq_ok hc h
      exact .inr ⟨_, h⟩

/-- The kind of a message is that of its draft. -/
theorem messageType_of_created (hholds : draft.Holds sender body)
    (hattested : attestOwners body draft.lists = .ok attested)
    (hsigned : draft.signedBy sender attested signed) :
    signed.messageType = draft.messageType := by
  obtain ⟨records, rfl⟩ := exists_records hattested
  obtain rfl | ⟨signature, rfl⟩ := signed_eq hsigned
  · rw [MessageBody.messageType_mapOwners, hholds.messageType_eq]
  · rw [MessageBody.messageType_withSenderSignature, MessageBody.messageType_mapOwners,
      hholds.messageType_eq]

/-- What was made of a draft and signed is accepted, without what does not travel. -/
theorem checkBody_of_created (hholds : draft.Holds sender body)
    (hattested : attestOwners body draft.lists = .ok attested)
    (hsigned : draft.signedBy sender attested signed)
    (howners : OwnersFit chains clock draft.lists)
    (hsender : draft.messageType ≠ .payment → sender.Fits chains clock) :
    checkBody chains clock signed.bare = .ok () := by
  obtain ⟨records, hrecords⟩ := exists_records hattested
  have hidentity : attested.sender? = body.sender? := by rw [hrecords, MessageBody.sender?_mapOwners]
  refine checkBody_eq_ok_iff.mpr ⟨?_, ?_⟩
  · by_cases hpayment : draft.messageType = .payment
    · rw [signedBy, if_pos hpayment] at hsigned
      have hnone := hholds.sender_none hpayment
      refine checkSender_eq_ok_iff.mpr fun found hfound => ?_
      rw [MessageBody.sender?_bare, hsigned, hidentity, hnone] at hfound
      cases hfound
    · rw [signedBy, if_neg hpayment] at hsigned
      obtain ⟨identity, hmade, hhas⟩ := hholds.sender_some hpayment
      exact checkSender_of_attested hmade (hidentity.trans hhas) hsigned (hsender hpayment)
        signed.sender?_bare signed.senderDigest_bare
  · -- the sender's signature leaves the owners and what they signed as they were
    have hsame : signed.attestationDigest = attested.attestationDigest ∧
        ∀ role, signed.owners? role = attested.owners? role := by
      obtain rfl | ⟨signature, rfl⟩ := signed_eq hsigned
      · exact ⟨rfl, fun _ => rfl⟩
      · exact ⟨attested.attestationDigest_withSenderSignature signature,
          fun role => attested.owners?_withSenderSignature signature role⟩
    refine checkAttestations_of_attested hholds.backed hattested howners (fun role => ?_) ?_
    · rw [MessageBody.owners?_bare, hsame.2]
    · rw [MessageBody.attestationDigest_bare, hsame.1]

end Draft

/-- **A message that was created is valid for its reader**, as a message of its kind and as one of any
kind. It was created with trusted certificates and with the keys that belong to them, and if it is
encrypted then the reader has the key to it. -/
theorem isValid_of_create {draft : Draft} {created : Clock} {sender : Sender}
    {recipient reader : Option Recipient} {settings : Settings} {octets : Bytes}
    (h : draft.create created sender recipient settings = .ok octets)
    (hlen : octets.length < sizeLimit) (howners : OwnersFit chains clock draft.lists)
    (hsender : draft.messageType ≠ .payment → sender.Fits chains clock)
    (hreadable : ReadableBy settings sender recipient reader octets) :
    isValidAs draft.messageType chains clock octets reader = .ok true ∧
      isValid chains clock octets reader = .ok true := by
  obtain ⟨keys, body, attested, signed, hkeys, hholds, hattested, hsigned, hfinish⟩ :=
    Draft.create_eq_ok h
  have hopen := openExpecting_of_enclose hfinish hlen (hreadable.reach hkeys)
  have hcheck := Draft.checkBody_of_created hholds hattested hsigned howners hsender
  have hkind : signed.bare.messageType = draft.messageType := by
    rw [MessageBody.messageType_bare, Draft.messageType_of_created hholds hattested hsigned]
  constructor
  · obtain ⟨metadata, hopen⟩ := hopen draft.messageType
    have hparse : parseAs draft.messageType octets reader = .ok ⟨signed.bare, metadata⟩ :=
      bind_eq_ok_iff.mpr ⟨_, hopen, if_pos hkind⟩
    exact isValidAs_eq_ok_iff.mpr ⟨rfl, _, hparse, hcheck⟩
  · obtain ⟨metadata, hopen⟩ := hopen .unknown
    exact isValid_eq_ok_iff.mpr ⟨rfl, ⟨signed.bare, metadata⟩, hopen, hcheck⟩

/-! ## A message of the sample sender -/

/-- The statement that the holder of the sample certificate signs. -/
def sampleCredential : Credential :=
  ⟨.dateOfBirth, some sampleKeyPem, some sampleClient.toPem, .x509Sha256⟩

/-- A primary owner that signs, and another one that does not. -/
def sampleOwners : List OwnerCredentials :=
  [⟨true, [sampleCredential]⟩,
    ⟨false, [⟨.dateOfBirth, none, some sampleClient.toPem, .x509Sha256⟩,
      ⟨.dateOfBirth, none, none, .none⟩]⟩]

/-- An invoice request of these owners. -/
def sampleDraft : Draft := .invoiceRequest ⟨5, "", "", sampleOwners, [], [], []⟩

/-- The sender signs with the same certificate, which is also one of extended validation. -/
def sampleSender : Sender :=
  ⟨some sampleCredential, some sampleClient.toPem, some (sampleKeys senderSecret)⟩

def sampleRecipient : Recipient := Recipient.ofKeys (sampleKeys recipientSecret)

/-- The body of the message with the signatures of its primary owner and its sender. -/
def sampleSigned (ofOwner ofSender : String) : MessageBody :=
  .invoiceRequest
    { amount := 5
      memo := ""
      notificationUrl := ""
      originators :=
        [⟨true, [⟨.dateOfBirth, sampleClient.toPem, .x509Sha256, ofOwner⟩]⟩,
          ⟨false, [⟨.dateOfBirth, sampleClient.toPem, .x509Sha256, ""⟩,
            ⟨.dateOfBirth, "", .none, ""⟩]⟩]
      beneficiaries := []
      originatorsAddresses := []
      attestationsRequested := []
      recipientVaspName := ""
      recipientChainAddress := ""
      sender := ⟨.x509Sha256, sampleClient.toPem, ofSender, sampleClient.toPem⟩ }

/-- The sample key signs every digest, in as many digits as its modulus needs. -/
theorem exists_signDigest (digest : String) :
    ∃ signature, signDigest sampleKeyPem digest = .ok signature ∧
      (Utf8.encode signature).length = 162 :=
  ⟨_, signDigest_eq_ok_iff.mpr ⟨sampleKey, _, ofPem_sampleKeyPem,
    sampleKey_isHalfOf.canSign.sign?_eq _, rfl⟩, length_lower_sampleKey _⟩

theorem attestOwners_sampleSigned {signature : String}
    (h : signDigest sampleKeyPem (sampleSigned "" "").attestationDigest = .ok signature) :
    attestOwners (sampleSigned "" "") [(.originator, sampleOwners), (.beneficiary, [])] =
      .ok (sampleSigned signature "") := by
  have hrecords : signatureRecords sampleOwners .originator (sampleSigned "" "").attestationDigest =
      .ok [⟨.originator, 0, 0, .dateOfBirth, signature⟩, ⟨.originator, 1, 0, .dateOfBirth, ""⟩] := by
    simp [signatureRecords, ownerRecords, entryRecord, entrySignature, sampleOwners,
      sampleCredential, h, PkiScheme.isSigned]
    rfl
  exact bind_eq_ok_iff.mpr ⟨_, mapM_eq_ok_iff.mpr (.cons hrecords (.cons rfl .nil)), rfl⟩

/-- The message is created, encrypted or not, if its body can be put into an envelope. -/
theorem create_sampleDraft (settings : Settings) {keys : Option KeyExchange} {octets : Bytes}
    {ofOwner ofSender : String}
    (hkeys : encryptionKeys settings sampleSender (some sampleRecipient) = .ok keys)
    (howner : signDigest sampleKeyPem (sampleSigned "" "").attestationDigest = .ok ofOwner)
    (hsender : signDigest sampleKeyPem (sampleSigned ofOwner "").senderDigest = .ok ofSender)
    (h : finish ⟨0⟩ (sampleSigned ofOwner ofSender) settings keys = .ok octets) :
    sampleDraft.create ⟨0⟩ sampleSender (some sampleRecipient) settings = .ok octets := by
  refine bind_eq_ok_iff.mpr ⟨(), rfl, bind_eq_ok_iff.mpr ⟨(), rfl, ?_⟩⟩
  refine bind_eq_ok_iff.mpr ⟨keys, hkeys, bind_eq_ok_iff.mpr ⟨_, rfl, ?_⟩⟩
  refine bind_eq_ok_iff.mpr ⟨_, rfl, bind_eq_ok_iff.mpr ⟨_, rfl, ?_⟩⟩
  refine bind_eq_ok_iff.mpr ⟨_, attestOwners_sampleSigned howner, ?_⟩
  exact bind_eq_ok_iff.mpr ⟨_, bind_eq_ok_iff.mpr ⟨ofSender, hsender, rfl⟩, h⟩

theorem length_sampleSigned {ofOwner ofSender : String} (howner : (Utf8.encode ofOwner).length = 162)
    (hsender : (Utf8.encode ofSender).length = 162) :
    (Envelope.plain (.ofBody ⟨0⟩ (sampleSigned ofOwner ofSender) {})).encode.length < sizeLimit := by
  simp only [Envelope.encode, Wire.envelope, Wire.plainEnvelope, PlainEnvelope.ofBody, Codec.octets,
    Option.getD_none, derivedIdentifier, Hash.Sha256.length_digest, sampleSigned,
    MessageBody.messageType, MessageBody.encode, Wire.invoiceRequest, Wire.sender, Wire.owner,
    Wire.ownerEntry, Wire.attestation, Wire.scheme, Codec.via, Codec.refine, Codec.list, Codec.pair,
    Codec.text, List.length_append, Codec.length_count, List.flatMap_cons, List.flatMap_nil,
    length_toPem_sampleClient, howner, hsender]
  decide +kernel

theorem sampleCredential_isTrusted : sampleCredential.IsTrusted [sampleChain] ⟨0⟩ := by
  intro pem hpem
  cases hpem
  exact validate_sampleClient

theorem sampleCredential_keyFits : sampleCredential.KeyFits := by
  intro pem secretPem hpem hsecret
  cases hpem
  cases hsecret
  exact ⟨sampleKey, sampleKey.toPublic, ofPem_sampleKeyPem, rsaKeyOfPem_sampleClient,
    sampleKey_isHalfOf⟩

theorem sampleOwners_fit : OwnersFit [sampleChain] ⟨0⟩ sampleDraft.lists := by
  intro role given hgiven o ho c hc hsigned
  simp only [Draft.lists, sampleDraft, List.mem_cons, Prod.mk.injEq, List.not_mem_nil,
    or_false] at hgiven
  obtain ⟨rfl, rfl⟩ | ⟨rfl, rfl⟩ := hgiven
  · simp only [sampleOwners, List.mem_cons, List.not_mem_nil, or_false] at ho
    obtain rfl | rfl := ho
    · obtain rfl := List.mem_singleton.mp hc
      exact ⟨sampleCredential_isTrusted, fun _ => sampleCredential_keyFits⟩
    · simp only [List.mem_cons, List.not_mem_nil, or_false] at hc
      obtain rfl | rfl := hc
      · refine ⟨fun pem hpem => ?_, fun hprimary => ?_⟩
        · cases hpem
          exact validate_sampleClient
        · cases hprimary
      · cases hsigned
  · cases ho

theorem sampleSender_fits : sampleSender.Fits [sampleChain] ⟨0⟩ where
  trusted c hc := by
    cases hc
    exact sampleCredential_isTrusted
  keyFits c hc := by
    cases hc
    exact sampleCredential_keyFits
  extended pem hpem _ := by
    cases hpem
    refine ⟨validate_sampleClient, bind_eq_ok_iff.mpr ⟨sampleClient, ?_, ?_⟩⟩
    · rw [Certificate.ofPem, ofPem?_sampleClient]
    · have : sampleClient.isExtendedValidation = true := by decide +kernel
      rw [this]

/-! ## A sealed message -/

/-- What is given for `originatorPayment`. -/
def originatorDraft : Draft := .payment ⟨[], [], [], "", [⟨true, []⟩], []⟩

/-- The sender of `signedPayment`, who has nothing but keys for encryption. -/
def sealingSender : Sender := ⟨none, none, some (sampleKeys senderSecret)⟩

/-- The payment is created, encrypted or not, if it can be put into an envelope. -/
theorem create_originatorDraft {sender : Sender} {recipient : Option Recipient} {settings : Settings}
    {keys : Option KeyExchange} {octets : Bytes}
    (hkeys : encryptionKeys settings sender recipient = .ok keys)
    (h : finish ⟨0⟩ originatorPayment settings keys = .ok octets) :
    originatorDraft.create ⟨0⟩ sender recipient settings = .ok octets := by
  refine bind_eq_ok_iff.mpr ⟨(), rfl, bind_eq_ok_iff.mpr ⟨(), rfl, ?_⟩⟩
  refine bind_eq_ok_iff.mpr ⟨_, hkeys, bind_eq_ok_iff.mpr ⟨[⟨true, []⟩], rfl, ?_⟩⟩
  exact bind_eq_ok_iff.mpr ⟨[], rfl, bind_eq_ok_iff.mpr ⟨originatorPayment, rfl, h⟩⟩

theorem create_signedPayment :
    originatorDraft.create ⟨0⟩ sealingSender (some sampleRecipient) sealedSettings =
      .ok (Envelope.encrypted signedPayment).encode :=
  create_originatorDraft rfl enclose_signedPayment

/-- The sealed payment is for its recipient to read. -/
theorem readableBy_signedPayment :
    ReadableBy sealedSettings sealingSender (some sampleRecipient) (some sampleRecipient)
      (Envelope.encrypted signedPayment).encode := by
  refine fun _ => ⟨signatureFound_signedPayment, ?_⟩
  rintro _ _ ⟨⟩ ⟨⟩
  exact sampleKeys_reach

/-- The invoice request is valid for everyone, the sealed payment for its recipient. -/
theorem sampleDraft_isValid :
    (∃ octets, sampleDraft.create ⟨0⟩ sampleSender (some sampleRecipient) {} = .ok octets ∧
      octets.length < sizeLimit ∧ OwnersFit [sampleChain] ⟨0⟩ sampleDraft.lists ∧
      sampleSender.Fits [sampleChain] ⟨0⟩ ∧
      isValidAs sampleDraft.messageType [sampleChain] ⟨0⟩ octets none = .ok true ∧
      isValid [sampleChain] ⟨0⟩ octets none = .ok true) ∧
    ∃ octets, originatorDraft.create ⟨0⟩ sealingSender (some sampleRecipient) sealedSettings =
        .ok octets ∧
      octets.length < sizeLimit ∧ sealedSettings.encrypt = true ∧
      ReadableBy sealedSettings sealingSender (some sampleRecipient) (some sampleRecipient) octets ∧
      isValidAs originatorDraft.messageType [sampleChain] ⟨0⟩ octets (some sampleRecipient) =
        .ok true ∧
      isValid [sampleChain] ⟨0⟩ octets (some sampleRecipient) = .ok true := by
  constructor
  · obtain ⟨ofOwner, howner, hownerLength⟩ :=
      exists_signDigest (sampleSigned "" "").attestationDigest
    obtain ⟨ofSender, hsender, hsenderLength⟩ :=
      exists_signDigest (sampleSigned ofOwner "").senderDigest
    have hcreate := create_sampleDraft {} rfl howner hsender rfl
    have hlen := length_sampleSigned hownerLength hsenderLength
    exact ⟨_, hcreate, hlen, sampleOwners_fit, sampleSender_fits,
      isValid_of_create hcreate hlen sampleOwners_fit (fun _ => sampleSender_fits) nofun⟩
  · have howners : OwnersFit [sampleChain] ⟨0⟩ originatorDraft.lists := by
      intro role given hgiven o ho c hc
      obtain h | h := List.mem_pair.mp hgiven
      · cases h
        obtain rfl := List.mem_singleton.mp ho
        cases hc
      · cases h
        cases ho
    exact ⟨_, create_signedPayment, length_signedPayment, rfl, readableBy_signedPayment,
      isValid_of_create create_signedPayment length_signedPayment howners
        (fun hne => absurd rfl hne) readableBy_signedPayment⟩

end AttestedPayments
