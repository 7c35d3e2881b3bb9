import AttestedPayments.Proofs.Exchange.Primaries

/-!
# What is created is read as it was given

* `Outgoing` — what a caller gives for a message of any kind.
* `InvoiceRequest.Carries`, `PaymentRequest.Carries`, `Payment.Carries`, `PaymentAck.Carries` — a body
  has what was given in each of its fields. Owners and senders state what their credentials do;
  nothing is said of what signatures are made of.
* `Draft.signed_eq_body` — signing puts signatures into a body and changes nothing else.
* `isEncrypted_iff_of_finish` — an envelope is encrypted exactly if the settings ask for it.

Principal result: `create_carries`.
-/

set_option autoImplicit false

namespace AttestedPayments

open Codec (sizeLimit)

/-! ## What was given -/

/-- What a caller gives for a message of any kind. -/
inductive Outgoing where
  | attested (draft : Draft)
  | paymentAck (draft : PaymentAckDraft)

namespace Outgoing

/-- The kind of the message. -/
def messageType : Outgoing → MessageType
  | attested draft => draft.messageType
  | paymentAck _ => .paymentAck

/-- The octets of the message. -/
def create : Outgoing → Clock → Sender → Option Recipient → Settings → Except Fault Bytes
  | attested draft => draft.create
  | paymentAck p => p.create

end Outgoing

/-- An entry states what a credential does; the certificate is empty if there is none. -/
structure OwnerEntry.States (entry : OwnerEntry) (c : Credential) : Prop where
  attestation_eq : entry.attestation = c.attestation
  scheme_eq : entry.scheme = c.scheme
  certificatePem_eq : entry.certificatePem = c.certificatePem.getD ""

/-- An owner is primary as given and has the entries of its credentials in their order. -/
structure Owner.States (owner : Owner) (given : OwnerCredentials) : Prop where
  isPrimary_eq : owner.isPrimary = given.isPrimary
  entries : List.Forall₂ OwnerEntry.States owner.entries given.credentials

/-- As many owners as are given, in the same order. -/
def OwnersState (owners : List Owner) (given : List OwnerCredentials) : Prop :=
  List.Forall₂ Owner.States owners given

/-- A sender is backed by what was given. One that does not sign has neither scheme nor certificate,
and it is the one without a signature. -/
structure SenderIdentity.States (identity : SenderIdentity) (sender : Sender) : Prop where
  scheme_eq : identity.scheme = (sender.signingCredential?.map Credential.scheme).getD .none
  certificatePem_eq : identity.certificatePem =
    (sender.signingCredential?.bind Credential.certificatePem).getD ""
  evCertificatePem_eq : identity.evCertificatePem = sender.evCertificatePem.getD ""
  signature_eq_empty_iff : identity.signature = "" ↔ sender.signingCredential? = none

/-- An invoice request has what was given for it. -/
structure InvoiceRequest.Carries (b : InvoiceRequest) (p : InvoiceRequestDraft) (sender : Sender)
    (recipient : Option Recipient) : Prop where
  amount_eq : b.amount = p.amount
  memo_eq : b.memo = p.memo
  notificationUrl_eq : b.notificationUrl = p.notificationUrl
  originators : OwnersState b.originators p.originators
  beneficiaries : OwnersState b.beneficiaries p.beneficiaries
  originatorsAddresses_eq : b.originatorsAddresses = p.originatorsAddresses.map Output.bare
  attestationsRequested_eq : b.attestationsRequested = p.attestationsRequested
  recipientVaspName_eq : b.recipientVaspName = (recipient.bind Recipient.vaspName).getD ""
  recipientChainAddress_eq :
    b.recipientChainAddress = (recipient.bind Recipient.chainAddress).getD ""
  sender : b.sender.States sender

/-- A payment request has what was given for it. -/
structure PaymentRequest.Carries (b : PaymentRequest) (p : PaymentRequestDraft) (sender : Sender) :
    Prop where
  detailsVersion_eq : b.detailsVersion = paymentDetailsVersion
  details_eq : b.details = { p.details with
    beneficiariesAddresses := p.details.beneficiariesAddresses.map Output.bare }
  beneficiaries : OwnersState b.beneficiaries p.beneficiaries
  attestationsRequested_eq : b.attestationsRequested = p.attestationsRequested
  sender : b.sender.States sender

/-- A payment has what was given for it. -/
structure Payment.Carries (b : Payment) (p : PaymentDraft) : Prop where
  merchantData_eq : b.merchantData = p.merchantData
  transactions_eq : b.transactions = p.transactions
  refundTo_eq : b.refundTo = p.refundTo.map Output.bare
  memo_eq : b.memo = p.memo
  originators : OwnersState b.originators p.originators
  beneficiaries : OwnersState b.beneficiaries p.beneficiaries

/-- An acknowledgement has the payment that was given, with its signatures, and the memo. -/
structure PaymentAck.Carries (b : PaymentAck) (p : PaymentAckDraft) : Prop where
  payment_eq : b.payment = { p.payment with refundTo := p.payment.refundTo.map Output.bare }
  memo_eq : b.memo = p.memo

/-- A body has what was given for it. -/
def MessageBody.Carries (body : MessageBody) (sender : Sender) (recipient : Option Recipient) :
    Outgoing → Prop
  | .attested (.invoiceRequest p) => ∃ b, body = .invoiceRequest b ∧ b.Carries p sender recipient
  | .attested (.paymentRequest p) => ∃ b, body = .paymentRequest b ∧ b.Carries p sender
  | .attested (.payment p) => ∃ b, body = .payment b ∧ b.Carries p
  | .paymentAck p => ∃ b, body = .paymentAck b ∧ b.Carries p

/-! ## Owners -/

theorem OwnerEntry.states_unsigned {entry : OwnerEntry} {c : Credential} :
    entry.unsigned.States c ↔ entry.States c := by
  constructor
  · intro h
    exact ⟨h.attestation_eq, h.scheme_eq, h.certificatePem_eq⟩
  · intro h
    exact ⟨h.attestation_eq, h.scheme_eq, h.certificatePem_eq⟩

theorem Owner.states_unsigned {owner : Owner} {given : OwnerCredentials} :
    owner.unsigned.States given ↔ owner.States given := by
  have hentries : List.Forall₂ OwnerEntry.States owner.unsigned.entries given.credentials ↔
      List.Forall₂ OwnerEntry.States owner.entries given.credentials := by
    rw [Owner.unsigned, List.forall₂_map_left_iff]
    simp only [OwnerEntry.states_unsigned]
  constructor
  · intro h
    exact ⟨h.isPrimary_eq, hentries.mp h.entries⟩
  · intro h
    exact ⟨h.isPrimary_eq, hentries.mpr h.entries⟩

/-- Signatures have no part in what owners state. -/
theorem ownersState_resign {f : Nat → Nat → String → String} {owners : List Owner}
    {given : List OwnerCredentials} (h : OwnersState owners given) :
    OwnersState (resign f owners) given := by
  have hunsigned : ∀ {owners : List Owner},
      OwnersState (owners.map Owner.unsigned) given ↔ OwnersState owners given := by
    intro owners
    rw [OwnersState, List.forall₂_map_left_iff]
    simp only [Owner.states_unsigned]
    exact Iff.rfl
  rw [← hunsigned, map_unsigned_resign, hunsigned]
  exact h

theorem states_of_entryOf {c : Credential} {entry : OwnerEntry} (h : entryOf c = .ok entry) :
    entry.States c := by
  unfold entryOf at h
  split at h
  · rename_i hpem
    cases h
    exact ⟨rfl, rfl, by rw [hpem]; rfl⟩
  · rename_i hpem _
    cases h
    exact ⟨rfl, rfl, by rw [hpem]; rfl⟩
  · cases h

theorem states_of_ownerOf {given : OwnerCredentials} {owner : Owner}
    (h : ownerOf given = .ok owner) : owner.States given := by
  obtain ⟨entries, hentries, howner⟩ := bind_eq_ok_iff.mp h
  cases howner
  refine ⟨rfl, List.Forall₂.flip ?_⟩
  exact (mapM_eq_ok_iff.mp hentries).imp fun _ _ => states_of_entryOf

/-- Owners that are made of credentials state what these do. -/
theorem ownersState_of_ownersOf {given : List OwnerCredentials} {owners : List Owner}
    (h : ownersOf given = .ok owners) : OwnersState owners given := by
  apply List.Forall₂.flip
  exact (mapM_eq_ok_iff.mp h).imp fun _ _ => states_of_ownerOf

/-! ## Senders -/

/-- A new sender is backed by what was given, with any signature that is empty exactly if it does not
sign. -/
theorem SenderIdentity.states_of_made {sender : Sender} {identity : SenderIdentity}
    (h : senderIdentity sender = .ok identity) {signature : String}
    (hsignature : signature = "" ↔ sender.signingCredential? = none) :
    ({ identity with signature := signature } : SenderIdentity).States sender := by
  obtain ⟨hev, _, hnone, hsome⟩ := senderIdentity_eq_ok h
  cases hc : sender.signingCredential? with
  | none =>
    obtain ⟨hscheme, hpem⟩ := hnone hc
    refine ⟨?_, ?_, hev, hsignature⟩
    · rw [hc]
      exact hscheme
    · rw [hc]
      exact hpem
  | some c =>
    obtain ⟨hscheme, hpem⟩ := hsome c hc
    refine ⟨?_, ?_, hev, hsignature⟩
    · rw [hc]
      exact hscheme
    · rw [hc, Option.bind_some, hpem]
      rfl

/-! ## Bodies -/

namespace Draft

variable {draft : Draft} {sender : Sender} {recipient : Option Recipient}
  {owners : OwnerRole → List Owner} {identity : SenderIdentity}

theorem messageType_body : (draft.body recipient owners identity).messageType = draft.messageType := by
  cases draft <;> rfl

theorem mapOwners_body (f : OwnerRole → List Owner → List Owner) :
    (draft.body recipient owners identity).mapOwners f =
      draft.body recipient (fun role => f role (owners role)) identity := by
  cases draft <;> rfl

theorem withSenderSignature_body (signature : String) :
    (draft.body recipient owners identity).withSenderSignature signature =
      draft.body recipient owners { identity with signature := signature } := by
  cases draft <;> rfl

/-- **Signing changes nothing else.** What owners and sender have signed is made of the same draft, and
owners and sender state what they did. -/
theorem signed_eq_body {attested signed : MessageBody} (hnames : draft.Names sender owners identity)
    (hattested : attestOwners (draft.body recipient owners identity) draft.lists = .ok attested)
    (hsigned : draft.signedBy sender attested signed) :
    ∃ owners identity, signed = draft.body recipient owners identity ∧
      (∀ role given, (role, given) ∈ draft.lists → OwnersState (owners role) given) ∧
      (draft.messageType ≠ .payment → identity.States sender) := by
  obtain ⟨records, hrecords⟩ := exists_records hattested
  rw [mapOwners_body] at hrecords
  subst hrecords
  have howners : ∀ role given, (role, given) ∈ draft.lists →
      OwnersState (resign (lastSignature records role) (owners role)) given := by
    intro role given hgiven
    apply ownersState_resign
    exact ownersState_of_ownersOf (hnames.owners_eq role given hgiven)
  unfold signedBy at hsigned
  split at hsigned
  · rename_i hpayment
    exact ⟨_, identity, hsigned, howners, fun hne => absurd hpayment hne⟩
  · rename_i hne
    have hmade := hnames.identity_eq hne
    cases hc : sender.signingCredential? with
    | none =>
      refine ⟨_, identity, attestSender_of_none hc hsigned, howners, fun _ => ?_⟩
      have hunsigned : identity.signature = "" := (senderIdentity_eq_ok hmade).2.1
      exact SenderIdentity.states_of_made hmade (iff_of_true hunsigned hc)
    | some c =>
      obtain ⟨pem, signature, hpem, hsignature, hbody⟩ := attestSender_eq_ok hc hsigned
      rw [withSenderSignature_body] at hbody
      refine ⟨_, _, hbody, howners, fun _ => SenderIdentity.states_of_made hmade ?_⟩
      obtain ⟨key, _, hkey, _⟩ := signDigest_eq_ok_iff.mp hsignature
      refine iff_of_false (verifiesText_of_signDigest hsignature hkey).1 fun hnone => ?_
      rw [hc] at hnone
      cases hnone

/-- A body that is made of a draft has what was given for it, also once it has travelled. -/
theorem carries_body
    (howners : ∀ role given, (role, given) ∈ draft.lists → OwnersState (owners role) given)
    (hsender : draft.messageType ≠ .payment → identity.States sender) :
    (draft.body recipient owners identity).bare.Carries sender recipient (.attested draft) := by
  cases draft with
  | invoiceRequest p =>
    have hsigns : (invoiceRequest p).messageType ≠ .payment := by simp [messageType]
    exact ⟨_, rfl, rfl, rfl, rfl, howners .originator _ (by simp [lists]),
      howners .beneficiary _ (by simp [lists]), rfl, rfl, rfl, rfl, hsender hsigns⟩
  | paymentRequest p =>
    have hsigns : (paymentRequest p).messageType ≠ .payment := by simp [messageType]
    exact ⟨_, rfl, rfl, rfl, howners .beneficiary _ (by simp [lists]), rfl, hsender hsigns⟩
  | payment p =>
    exact ⟨_, rfl, rfl, rfl, rfl, rfl, howners .originator _ (by simp [lists]),
      howners .beneficiary _ (by simp [lists])⟩

end Draft

/-! ## Envelopes -/

/-- Octets are an encrypted envelope. -/
def IsEncrypted (octets : Bytes) : Prop :=
  ∃ e, Envelope.decode .unknown octets = .ok (.encrypted e)

section

variable {clock : Clock} {body : MessageBody} {settings : Settings} {sender : Sender}
  {recipient : Option Recipient} {keys : Option KeyExchange} {octets : Bytes}
  (hkeys : encryptionKeys settings sender recipient = .ok keys)
  (hfinish : finish clock body settings keys = .ok octets) (hlen : octets.length < sizeLimit)

include hkeys hfinish hlen

/-- **Encryption is not dropped.** A finished message is encrypted exactly if the settings ask for it. -/
theorem isEncrypted_iff_of_finish : IsEncrypted octets ↔ settings.encrypt = true := by
  rw [← isSome_of_encryptionKeys hkeys]
  cases keys with
  | none =>
    cases hfinish
    refine iff_of_false ?_ nofun
    rintro ⟨e, he⟩
    rw [Envelope.decode_encode _ _ hlen] at he
    cases he
  | some k =>
    obtain ⟨after, _, hoctets⟩ := bind_eq_ok_iff.mp hfinish
    cases hoctets
    exact iff_of_true ⟨after, Envelope.decode_encode _ _ hlen⟩ rfl

/-- Who can read a finished message finds the body, less what does not travel, and what was said about
it. -/
theorem exists_parseAs_of_finish {reader : Option Recipient}
    (hreadable : ReadableBy settings sender recipient reader octets) :
    ∃ metadata, parseAs body.messageType octets reader = .ok ⟨body.bare, metadata⟩ ∧
      metadata.Describes clock body.bare settings ∧
      metadata.encryption.isSome = settings.encrypt := by
  obtain ⟨metadata, hopen, hdescribes, htells⟩ :=
    openKind_enclosed (recipientKeys reader) hfinish hlen (hreadable.reach hkeys)
  refine ⟨metadata, hopen, ?_, ?_⟩
  · refine ⟨hdescribes.version_eq, hdescribes.statusCode_eq, hdescribes.statusMessage_eq, ?_, ?_⟩
    · rw [MessageBody.messageType_bare]
      exact hdescribes.messageType_eq
    · rw [MessageBody.encode_bare]
      exact hdescribes.identifier_eq
  · rw [← isSome_of_encryptionKeys hkeys]
    cases keys with
    | none =>
      have hnone : metadata.encryption = none := htells
      rw [hnone]
      rfl
    | some k =>
      obtain ⟨payload, signature, hsome⟩ := htells
      rw [hsome]
      rfl

end

/-- **What is created is read as it was given**, whatever its kind. It is encrypted exactly if the
settings ask for it, and whoever can read it finds what was given in each field of its body, with the
metadata of its envelope. -/
theorem create_carries {outgoing : Outgoing} {clock : Clock} {sender : Sender}
    {recipient : Option Recipient} {settings : Settings} {octets : Bytes}
    (h : outgoing.create clock sender recipient settings = .ok octets)
    (hlen : octets.length < sizeLimit) :
    (IsEncrypted octets ↔ settings.encrypt = true) ∧
      ∀ reader, ReadableBy settings sender recipient reader octets →
        ∃ opened, parseAs outgoing.messageType octets reader = .ok opened ∧
          opened.body.Carries sender recipient outgoing ∧
          opened.metadata.Describes clock opened.body settings ∧
          opened.metadata.encryption.isSome = settings.encrypt := by
  cases outgoing with
  | attested draft =>
    obtain ⟨keys, _, _, attested, signed, hkeys, hnames, hattested, hsigned, hfinish⟩ :=
      Draft.create_eq_ok_body h
    refine ⟨isEncrypted_iff_of_finish hkeys hfinish hlen, fun reader hreadable => ?_⟩
    obtain ⟨owners, identity, rfl, howners, hsender⟩ :=
      Draft.signed_eq_body hnames hattested hsigned
    obtain ⟨metadata, hparse, hmetadata⟩ :=
      exists_parseAs_of_finish hkeys hfinish hlen hreadable
    rw [Draft.messageType_body] at hparse
    exact ⟨_, hparse, Draft.carries_body howners hsender, hmetadata⟩
  | paymentAck p =>
    obtain ⟨keys, hkeys, hfinish⟩ := bind_eq_ok_iff.mp h
    refine ⟨isEncrypted_iff_of_finish hkeys hfinish hlen, fun reader hreadable => ?_⟩
    obtain ⟨metadata, hparse, hmetadata⟩ :=
      exists_parseAs_of_finish hkeys hfinish hlen hreadable
    exact ⟨_, hparse, ⟨_, rfl, rfl, rfl⟩, hmetadata⟩

/-! ## A signed and a sealed message -/

/-- The invoice request of a sender that signs is read by everyone, the sealed payment by its
recipient. -/
theorem create_carries_samples :
    (∃ octets opened, sampleDraft.create ⟨0⟩ sampleSender (some sampleRecipient) {} = .ok octets ∧
      ¬ IsEncrypted octets ∧
      parseAs .invoiceRequest octets none = .ok opened ∧
      opened.body.Carries sampleSender (some sampleRecipient) (.attested sampleDraft) ∧
      opened.metadata.encryption.isSome = false) ∧
    ∃ opened, IsEncrypted (Envelope.encrypted signedPayment).encode ∧
      parseAs .payment (Envelope.encrypted signedPayment).encode (some sampleRecipient) =
        .ok opened ∧
      opened.body.Carries sealingSender (some sampleRecipient) (.attested originatorDraft) ∧
      opened.metadata.Describes ⟨0⟩ opened.body sealedSettings ∧
      opened.metadata.encryption.isSome = true := by
  constructor
  · obtain ⟨ofOwner, howner, hownerLength⟩ :=
      exists_signDigest (sampleSigned "" "").attestationDigest
    obtain ⟨ofSender, hsender, hsenderLength⟩ :=
      exists_signDigest (sampleSigned ofOwner "").senderDigest
    have hcreate : (Outgoing.attested sampleDraft).create ⟨0⟩ sampleSender (some sampleRecipient) {} =
        .ok (Envelope.plain (.ofBody ⟨0⟩ (sampleSigned ofOwner ofSender) {})).encode :=
      create_sampleDraft {} rfl howner hsender rfl
    obtain ⟨hencrypted, hread⟩ :=
      create_carries hcreate (length_sampleSigned hownerLength hsenderLength)
    obtain ⟨opened, hparse, hcarries, _, hplain⟩ := hread none nofun
    exact ⟨_, opened, hcreate, fun h => (nomatch hencrypted.mp h), hparse, hcarries, hplain⟩
  · have hcreate : (Outgoing.attested originatorDraft).create ⟨0⟩ sealingSender
        (some sampleRecipient) sealedSettings = .ok (Envelope.encrypted signedPayment).encode :=
      create_signedPayment
    obtain ⟨hencrypted, hread⟩ := create_carries hcreate length_signedPayment
    obtain ⟨opened, hparse, hcarries, hdescribes, hsome⟩ := hread _ readableBy_signedPayment
    exact ⟨opened, hencrypted.mpr rfl, hparse, hcarries, hdescribes, hsome⟩

end AttestedPayments
