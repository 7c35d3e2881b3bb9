import AttestedPayments.Proofs.Exchange.Preservation

/-!
# Keys that are not used have no influence

What a caller gives for a message holds private keys next to what travels. `needed` leaves out the
keys that nobody signs or encrypts with:

* `Credential.needed`, `OwnerCredentials.needed` — an owner's private key is needed if the owner is
  primary and the scheme of the entry has signatures.
* `Sender.needed` — a sender that does not sign the kind of message only gives keys for encryption, and
  without encryption none of them is needed.
* `Recipient.needed` — the public key is needed for encryption, the private key never.
* `Arguments.needed` — all that one message is created from.

Each step of creating a message gives the same without the rest (`ownersOf_needed`,
`signatureRecords_needed`, `senderIdentity_needed`, `attestSender_needed`, `finish_needed`).

Principal result: `create_eq_of_needed_eq` — two runs that agree in what is needed have the same result.
-/

set_option autoImplicit false

namespace AttestedPayments

/-! ## What is needed -/

/-- A credential; its private key is left out unless it is one to sign with. -/
def Credential.needed (signs : Bool) (c : Credential) : Credential :=
  if signs && c.scheme.isSigned then c else { c with privateKeyPem := none }

/-- An owner; only a primary one signs. -/
def OwnerCredentials.needed (o : OwnerCredentials) : OwnerCredentials :=
  { o with credentials := o.credentials.map (Credential.needed o.isPrimary) }

/-- Keys for encryption without the private one. -/
def EncryptionKeys.publicOnly (keys : EncryptionKeys) : EncryptionKeys :=
  { keys with privateKeyPem := none }

/-- The sender of a message, which it may sign and which may be encrypted. -/
def Sender.needed (signs encrypt : Bool) (s : Sender) : Sender where
  credential := if signs then s.credential.map (Credential.needed true) else none
  evCertificatePem := if signs then s.evCertificatePem else none
  encryptionKeys := if encrypt then s.encryptionKeys else none

/-- The recipient of a message, which may be encrypted. -/
def Recipient.needed (encrypt : Bool) (r : Recipient) : Recipient :=
  { r with
    encryptionKeys := if encrypt then r.encryptionKeys.map EncryptionKeys.publicOnly else none }

/-- Invoice requests and payment requests are signed by their sender, other messages are not. -/
def MessageType.isSignedBySender : MessageType → Bool
  | invoiceRequest => true
  | paymentRequest => true
  | _ => false

/-- What is given for a message that owners sign. -/
def Draft.needed : Draft → Draft
  | invoiceRequest p => .invoiceRequest
    { p with
      originators := p.originators.map OwnerCredentials.needed
      beneficiaries := p.beneficiaries.map OwnerCredentials.needed }
  | paymentRequest p => .paymentRequest
    { p with beneficiaries := p.beneficiaries.map OwnerCredentials.needed }
  | payment p => .payment
    { p with
      originators := p.originators.map OwnerCredentials.needed
      beneficiaries := p.beneficiaries.map OwnerCredentials.needed }

/-- What is given for a message of any kind; an acknowledgement has no private keys in it. -/
def Outgoing.needed : Outgoing → Outgoing
  | attested draft => .attested draft.needed
  | paymentAck p => .paymentAck p

/-- All that one message is created from, apart from the moment. -/
structure Arguments where
  outgoing : Outgoing
  sender : Sender
  recipient : Option Recipient
  settings : Settings

namespace Arguments

/-- The octets of the message. -/
def create (a : Arguments) (clock : Clock) : Except Fault Bytes :=
  a.outgoing.create clock a.sender a.recipient a.settings

/-- The arguments without what nobody signs or encrypts with. -/
def needed (a : Arguments) : Arguments where
  outgoing := a.outgoing.needed
  sender := a.sender.needed a.outgoing.messageType.isSignedBySender a.settings.encrypt
  recipient := a.recipient.map (Recipient.needed a.settings.encrypt)
  settings := a.settings

end Arguments

/-! ## Owners -/

/-- Steps for each member do not depend on what they do not look at. -/
theorem mapM_map_of_eq {α β : Type} {f : α → Except Fault β} {erase : α → α}
    (h : ∀ a, f (erase a) = f a) (l : List α) : (l.map erase).mapM f = l.mapM f := by
  rw [List.mapM_map]
  exact congrArg (l.mapM ·) (funext h)

theorem Credential.needed_of_signs {c : Credential} (h : c.scheme.isSigned = true) :
    c.needed true = c := by
  rw [Credential.needed, h]
  rfl

@[simp] theorem Credential.attestation_needed (signs : Bool) (c : Credential) :
    (c.needed signs).attestation = c.attestation := by
  unfold Credential.needed
  split <;> rfl

@[simp] theorem Credential.certificatePem_needed (signs : Bool) (c : Credential) :
    (c.needed signs).certificatePem = c.certificatePem := by
  unfold Credential.needed
  split <;> rfl

@[simp] theorem Credential.scheme_needed (signs : Bool) (c : Credential) :
    (c.needed signs).scheme = c.scheme := by
  unfold Credential.needed
  split <;> rfl

variable (role : OwnerRole) (digest : String)

theorem countP_needed (owners : List OwnerCredentials) :
    (owners.map OwnerCredentials.needed).countP OwnerCredentials.isPrimary =
      owners.countP OwnerCredentials.isPrimary := by
  rw [List.countP_map]
  rfl

@[simp] theorem checkOwners_needed (owners : List OwnerCredentials) :
    checkOwners (owners.map OwnerCredentials.needed) role = checkOwners owners role := by
  rw [checkOwners, checkOwners, countP_needed]

@[simp] theorem checkOptionalOwners_needed (owners : List OwnerCredentials) :
    checkOptionalOwners (owners.map OwnerCredentials.needed) role =
      checkOptionalOwners owners role := by
  rw [checkOptionalOwners, checkOptionalOwners, checkOwners_needed, List.isEmpty_map]

/-- An entry is made without the private key. -/
theorem entryOf_needed (signs : Bool) (c : Credential) : entryOf (c.needed signs) = entryOf c := by
  rw [entryOf, entryOf, c.certificatePem_needed, c.scheme_needed, c.attestation_needed]

theorem ownerOf_needed (o : OwnerCredentials) : ownerOf o.needed = ownerOf o := by
  have hentries : o.needed.credentials.mapM entryOf = o.credentials.mapM entryOf :=
    mapM_map_of_eq (entryOf_needed o.isPrimary) o.credentials
  rw [ownerOf, ownerOf, hentries]
  rfl

@[simp] theorem ownersOf_needed (owners : List OwnerCredentials) :
    ownersOf (owners.map OwnerCredentials.needed) = ownersOf owners :=
  mapM_map_of_eq ownerOf_needed owners

/-- Who does not sign needs no private key, and who signs keeps it. -/
theorem entryRecord_needed (isPrimary : Bool) (owner : Nat) (place : Credential × Nat) :
    entryRecord role digest isPrimary owner (Prod.map (Credential.needed isPrimary) id place) =
      entryRecord role digest isPrimary owner place := by
  obtain ⟨c, entry⟩ := place
  -- the private key is looked at in one of the four cases only, and there it is not left out
  cases hsigned : c.scheme.isSigned with
  | false => simp [entryRecord, hsigned]
  | true =>
    cases isPrimary with
    | true => rw [Prod.map_apply, Credential.needed_of_signs hsigned, id_eq]
    | false => simp [entryRecord, entrySignature, hsigned]

theorem ownerRecords_needed (place : OwnerCredentials × Nat) :
    ownerRecords role digest (Prod.map OwnerCredentials.needed id place) =
      ownerRecords role digest place := by
  obtain ⟨o, owner⟩ := place
  have hentries :
      (o.credentials.map (Credential.needed o.isPrimary)).zipIdx.mapM
          (entryRecord role digest o.isPrimary owner) =
        o.credentials.zipIdx.mapM (entryRecord role digest o.isPrimary owner) := by
    rw [List.zipIdx_map]
    exact mapM_map_of_eq (entryRecord_needed role digest o.isPrimary owner) _
  show (List.mapM (entryRecord role digest o.isPrimary owner)
    (o.credentials.map (Credential.needed o.isPrimary)).zipIdx >>= _) = _
  rw [hentries]
  rfl

/-- **Signatures of owners depend on no other keys than those of primary owners.** -/
theorem signatureRecords_needed (owners : List OwnerCredentials) :
    signatureRecords (owners.map OwnerCredentials.needed) role digest =
      signatureRecords owners role digest := by
  rw [signatureRecords, signatureRecords, List.zipIdx_map,
    mapM_map_of_eq (ownerRecords_needed role digest)]

/-- A body with signatures of owners is made from what is needed of them. -/
theorem attestOwners_needed (body : MessageBody)
    (lists : List (OwnerRole × List OwnerCredentials)) :
    attestOwners body (lists.map (Prod.map id (List.map OwnerCredentials.needed))) =
      attestOwners body lists := by
  rw [attestOwners, attestOwners]
  exact congrArg (· >>= _) (mapM_map_of_eq
    (fun list => signatureRecords_needed list.1 body.attestationDigest list.2) lists)

theorem Draft.lists_needed (draft : Draft) :
    draft.needed.lists = draft.lists.map (Prod.map id (List.map OwnerCredentials.needed)) := by
  cases draft <;> rfl

/-! ## Senders -/

/-- The credential that a sender signs with has all that is needed. -/
@[simp] theorem Sender.signingCredential?_needed (encrypt : Bool) (s : Sender) :
    (s.needed true encrypt).signingCredential? = s.signingCredential? := by
  show (s.credential.map (Credential.needed true)).filter _ = s.credential.filter _
  cases s.credential with
  | none => rfl
  | some c =>
    cases hsigned : c.scheme.isSigned with
    | true => simp [Option.filter, hsigned, Credential.needed_of_signs hsigned]
    | false => simp [Option.filter, hsigned]

@[simp] theorem senderIdentity_needed (encrypt : Bool) (s : Sender) :
    senderIdentity (s.needed true encrypt) = senderIdentity s := by
  rw [senderIdentity, senderIdentity, s.signingCredential?_needed]
  rfl

@[simp] theorem attestSender_needed (encrypt : Bool) (body : MessageBody) (s : Sender) :
    attestSender body (s.needed true encrypt) = attestSender body s := by
  rw [attestSender, attestSender, s.signingCredential?_needed]

/-! ## Recipients and encryption -/

@[simp] theorem vaspName_needed (encrypt : Bool) (recipient : Option Recipient) :
    (recipient.map (Recipient.needed encrypt)).bind Recipient.vaspName =
      recipient.bind Recipient.vaspName := by
  cases recipient <;> rfl

@[simp] theorem chainAddress_needed (encrypt : Bool) (recipient : Option Recipient) :
    (recipient.map (Recipient.needed encrypt)).bind Recipient.chainAddress =
      recipient.bind Recipient.chainAddress := by
  cases recipient <;> rfl

/-- The keys of an exchange without the recipient's private key. -/
def KeyExchange.needed (k : KeyExchange) : KeyExchange :=
  { k with recipient := k.recipient.publicOnly }

/-- Without encryption no keys are looked at, and otherwise the recipient's private key is not. -/
theorem encryptionKeys_needed (signs : Bool) (settings : Settings) (sender : Sender)
    (recipient : Option Recipient) :
    encryptionKeys settings (sender.needed signs settings.encrypt)
        (recipient.map (Recipient.needed settings.encrypt)) =
      (encryptionKeys settings sender recipient).map (Option.map KeyExchange.needed) := by
  unfold encryptionKeys
  cases hencrypt : settings.encrypt with
  | false => rfl
  | true =>
    have hsender : (sender.needed signs true).encryptionKeys = sender.encryptionKeys := rfl
    have hrecipient : (recipient.map (Recipient.needed true)).bind Recipient.encryptionKeys =
        (recipient.bind Recipient.encryptionKeys).map EncryptionKeys.publicOnly := by
      cases recipient <;> rfl
    rw [hsender, hrecipient]
    cases sender.encryptionKeys with
    | none => rfl
    | some s => cases recipient.bind Recipient.encryptionKeys <;> rfl

/-- An envelope is encrypted without the recipient's private key. -/
@[simp] theorem finish_needed (clock : Clock) (body : MessageBody) (settings : Settings)
    (keys : Option KeyExchange) :
    finish clock body settings (keys.map KeyExchange.needed) = finish clock body settings keys := by
  cases keys <;> rfl

/-- Whatever follows on the keys of an exchange does not depend on the recipient's private key. -/
theorem encryptionKeys_needed_bind {α : Type} (signs : Bool) (settings : Settings) (sender : Sender)
    (recipient : Option Recipient) {f : Option KeyExchange → Except Fault α}
    (hf : ∀ keys, f (keys.map KeyExchange.needed) = f keys) :
    (encryptionKeys settings (sender.needed signs settings.encrypt)
        (recipient.map (Recipient.needed settings.encrypt)) >>= f) =
      encryptionKeys settings sender recipient >>= f := by
  rw [encryptionKeys_needed]
  cases encryptionKeys settings sender recipient with
  | error fault => rfl
  | ok keys => exact hf keys

/-! ## Whole messages -/

variable {clock : Clock} {sender : Sender} {recipient : Option Recipient} {settings : Settings}

namespace Draft

theorem checkPrimaries_needed (draft : Draft) :
    draft.needed.checkPrimaries = draft.checkPrimaries := by
  cases draft <;> simp only [needed, checkPrimaries, checkOwners_needed, checkOptionalOwners_needed]

theorem owners_needed (draft : Draft) : draft.needed.owners = draft.owners := by
  cases draft <;> simp only [needed, owners, ownersOf_needed]

theorem body_needed (draft : Draft) (owners : OwnerRole → List Owner) (identity : SenderIdentity) :
    draft.needed.body (recipient.map (Recipient.needed settings.encrypt)) owners identity =
      draft.body recipient owners identity := by
  cases draft <;> simp only [needed, body, vaspName_needed, chainAddress_needed]

/-- A payment is not signed by its sender, and what signs other kinds is needed. -/
theorem identity_needed (draft : Draft) (encrypt : Bool) :
    draft.needed.identity (sender.needed draft.messageType.isSignedBySender encrypt) =
      draft.identity sender := by
  cases draft with
  | payment p => rfl
  | _ p => exact senderIdentity_needed encrypt sender

theorem sign_needed (draft : Draft) (encrypt : Bool) (attested : MessageBody) :
    draft.needed.sign (sender.needed draft.messageType.isSignedBySender encrypt) attested =
      draft.sign sender attested := by
  cases draft with
  | payment p => rfl
  | _ p => exact attestSender_needed encrypt attested sender

/-- **A message that owners sign is created from what is needed.** -/
theorem create_needed (draft : Draft) :
    draft.needed.create clock
        (sender.needed draft.messageType.isSignedBySender settings.encrypt)
        (recipient.map (Recipient.needed settings.encrypt)) settings =
      draft.create clock sender recipient settings := by
  simp only [create_eq_steps, checkPrimaries_needed, identity_needed, owners_needed, body_needed,
    lists_needed, attestOwners_needed, sign_needed]
  congr 1
  funext _
  exact encryptionKeys_needed_bind _ _ _ _ fun keys => by simp only [finish_needed]

end Draft

/-- An acknowledgement is created from what is needed; there is nothing in it to sign. -/
theorem PaymentAckDraft.create_needed (p : PaymentAckDraft) :
    p.create clock (sender.needed false settings.encrypt)
        (recipient.map (Recipient.needed settings.encrypt)) settings =
      p.create clock sender recipient settings :=
  encryptionKeys_needed_bind _ _ _ _ fun keys => finish_needed clock _ settings keys

/-- Any message is created from what is needed. -/
theorem Arguments.create_needed (a : Arguments) (clock : Clock) :
    a.needed.create clock = a.create clock := by
  obtain ⟨outgoing, sender, recipient, settings⟩ := a
  cases outgoing with
  | attested draft => exact draft.create_needed
  | paymentAck p => exact p.create_needed

/-- **Keys that are not used have no influence.** Two runs at one moment have the same result, octets or
fault, if their arguments agree in what is needed, whatever keys there are besides: of owners that are
not primary, of entries and senders whose scheme has no signatures, of a sender that does not sign the
kind of message, the recipient's private key, and all keys for encryption of a message that is not
encrypted. -/
theorem create_eq_of_needed_eq {a b : Arguments} (h : a.needed = b.needed) (clock : Clock) :
    a.create clock = b.create clock := by
  calc a.create clock
      = a.needed.create clock := (a.create_needed clock).symm
    _ = b.needed.create clock := by rw [h]
    _ = b.create clock := b.create_needed clock

/-- The sample message in a plain envelope. -/
def sampleArguments : Arguments := ⟨.attested sampleDraft, sampleSender, some sampleRecipient, {}⟩

/-- The same with keys that are none for the owner who does not sign, and with other keys for
encryption. -/
def otherArguments : Arguments where
  outgoing := .attested (.invoiceRequest ⟨5, "", "",
    [⟨true, [sampleCredential]⟩,
      ⟨false, [⟨.dateOfBirth, some "no key", some sampleClient.toPem, .x509Sha256⟩,
        ⟨.dateOfBirth, some "no key", none, .none⟩]⟩], [], [], []⟩)
  sender := { sampleSender with encryptionKeys := none }
  recipient := some (Recipient.ofKeys ⟨none, "no key"⟩)
  settings := {}

/-- Different arguments that create the same message. -/
theorem create_otherArguments :
    sampleArguments ≠ otherArguments ∧ sampleArguments.needed = otherArguments.needed ∧
      sampleArguments.create ⟨0⟩ = otherArguments.create ⟨0⟩ := by
  refine ⟨fun h => ?_, rfl, create_eq_of_needed_eq rfl ⟨0⟩⟩
  have hkeys := congrArg (fun a => a.sender.encryptionKeys) h
  cases hkeys

end AttestedPayments
