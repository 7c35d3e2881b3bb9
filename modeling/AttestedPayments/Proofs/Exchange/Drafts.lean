import AttestedPayments.Proofs.Exchange.Signing

/-!
# What creating a message does

* `Draft` — what a caller gives for a message that owners sign, of any of the three kinds.
* `Draft.body` — the body of such a message.
* `Draft.create_eq_steps` — the steps of creating a message: the body is made of what was given, then
  its owners sign it, then its sender, and then it is put into an envelope.
* `Draft.create_eq_ok_body` — what the steps give for a message that is created. `Draft.create_eq_ok`
  leaves open which body it is.
-/

set_option autoImplicit false

namespace AttestedPayments

/-- What is given for a message that owners sign. -/
inductive Draft where
  | invoiceRequest (draft : InvoiceRequestDraft)
  | paymentRequest (draft : PaymentRequestDraft)
  | payment (draft : PaymentDraft)

namespace Draft

/-- The kind of the message. -/
def messageType : Draft → MessageType
  | invoiceRequest _ => .invoiceRequest
  | paymentRequest _ => .paymentRequest
  | payment _ => .payment

/-- The credentials of the owners, by role. -/
def lists : Draft → List (OwnerRole × List OwnerCredentials)
  | invoiceRequest p => [(.originator, p.originators), (.beneficiary, p.beneficiaries)]
  | paymentRequest p => [(.beneficiary, p.beneficiaries)]
  | payment p => [(.originator, p.originators), (.beneficiary, p.beneficiaries)]

/-- The octets of the message. -/
def create : Draft → Clock → Sender → Option Recipient → Settings → Except Fault Bytes
  | invoiceRequest p => p.create
  | paymentRequest p => p.create
  | payment p => p.create

/-- The sender of a message signs it, unless it is a payment. -/
def signedBy (draft : Draft) (sender : Sender) (body signed : MessageBody) : Prop :=
  if draft.messageType = .payment then signed = body
  else attestSender body sender = .ok signed

/-- The body that a message is made of before anyone signs. -/
structure Holds (draft : Draft) (sender : Sender) (body : MessageBody) : Prop where
  messageType_eq : body.messageType = draft.messageType
  backed : body.Backed draft.lists
  sender_none : draft.messageType = .payment → body.sender? = none
  sender_some : draft.messageType ≠ .payment →
    ∃ identity, senderIdentity sender = .ok identity ∧ body.sender? = some identity

/-- One list for each of two roles. -/
theorem backed_of_both {body : MessageBody} {originators beneficiaries : List Owner}
    {forOriginators forBeneficiaries : List OwnerCredentials}
    (ho : body.owners? .originator = some originators)
    (hb : body.owners? .beneficiary = some beneficiaries)
    (hoOf : ownersOf forOriginators = .ok originators)
    (hbOf : ownersOf forBeneficiaries = .ok beneficiaries) :
    body.Backed [(.originator, forOriginators), (.beneficiary, forBeneficiaries)] where
  given role owners h := by
    cases role with
    | originator =>
      rw [ho] at h
      cases h
      exact ⟨_, by simp, hoOf⟩
    | beneficiary =>
      rw [hb] at h
      cases h
      exact ⟨_, by simp, hbOf⟩
  unique role given other h h' := by
    cases role <;> simp_all

/-- The body that a message is made of, with the owners of each role. A payment says nothing of its
sender. -/
def body (recipient : Option Recipient) (owners : OwnerRole → List Owner)
    (identity : SenderIdentity) : Draft → MessageBody
  | invoiceRequest p => .invoiceRequest
    { amount := p.amount
      memo := p.memo
      notificationUrl := p.notificationUrl
      originators := owners .originator
      beneficiaries := owners .beneficiary
      originatorsAddresses := p.originatorsAddresses
      attestationsRequested := p.attestationsRequested
      recipientVaspName := (recipient.bind Recipient.vaspName).getD ""
      recipientChainAddress := (recipient.bind Recipient.chainAddress).getD ""
      sender := identity }
  | paymentRequest p => .paymentRequest
    { detailsVersion := paymentDetailsVersion
      details := p.details
      beneficiaries := owners .beneficiary
      attestationsRequested := p.attestationsRequested
      sender := identity }
  | payment p => .payment
    { merchantData := p.merchantData
      transactions := p.transactions
      refundTo := p.refundTo
      memo := p.memo
      originators := owners .originator
      beneficiaries := owners .beneficiary }

/-- The owners and the sender of a body are those that were given. -/
structure Names (draft : Draft) (sender : Sender) (owners : OwnerRole → List Owner)
    (identity : SenderIdentity) : Prop where
  owners_eq : ∀ role given, (role, given) ∈ draft.lists → ownersOf given = .ok (owners role)
  identity_eq : draft.messageType ≠ .payment → senderIdentity sender = .ok identity

/-- Such a body holds what was given. -/
theorem Names.holds {draft : Draft} {sender : Sender} {owners : OwnerRole → List Owner}
    {identity : SenderIdentity} (h : draft.Names sender owners identity)
    (recipient : Option Recipient) : draft.Holds sender (draft.body recipient owners identity) := by
  cases draft with
  | invoiceRequest p =>
    exact ⟨rfl, backed_of_both rfl rfl (h.owners_eq _ _ (by simp [lists]))
      (h.owners_eq _ _ (by simp [lists])), nofun, fun hne => ⟨identity, h.identity_eq hne, rfl⟩⟩
  | paymentRequest p =>
    refine ⟨rfl, ⟨fun role owners howners => ?_, ?_⟩, nofun,
      fun hne => ⟨identity, h.identity_eq hne, rfl⟩⟩
    · cases role with
      | originator => cases howners
      | beneficiary =>
        cases howners
        exact ⟨p.beneficiaries, List.mem_singleton_self _, h.owners_eq _ _ (List.mem_singleton_self _)⟩
    · intro role given other hgiven hother
      simp_all [lists]
  | payment p =>
    exact ⟨rfl, backed_of_both rfl rfl (h.owners_eq _ _ (by simp [lists]))
      (h.owners_eq _ _ (by simp [lists])), fun _ => rfl, fun hne => absurd rfl hne⟩

/-- The owners of a role, of originators and beneficiaries. -/
def ofRole (originators beneficiaries : List Owner) : OwnerRole → List Owner
  | .originator => originators
  | .beneficiary => beneficiaries

theorem ownersOf_ofRole {forOriginators forBeneficiaries : List OwnerCredentials}
    {originators beneficiaries : List Owner} (ho : ownersOf forOriginators = .ok originators)
    (hb : ownersOf forBeneficiaries = .ok beneficiaries) :
    ∀ role given, (role, given) ∈
        [(OwnerRole.originator, forOriginators), (.beneficiary, forBeneficiaries)] →
      ownersOf given = .ok (ofRole originators beneficiaries role) := by
  intro role given hgiven
  obtain heq | heq := List.mem_pair.mp hgiven
  · cases heq
    exact ho
  · cases heq
    exact hb

/-- A list that must be there has one primary owner, and so has another one unless it is empty. -/
def checkPrimaries : Draft → Except Fault Unit
  | invoiceRequest p => do
    checkOwners p.originators .originator
    checkOptionalOwners p.beneficiaries .beneficiary
  | paymentRequest p => checkOwners p.beneficiaries .beneficiary
  | payment p => do
    checkOwners p.originators .originator
    checkOptionalOwners p.beneficiaries .beneficiary

/-- What the body says of the sender; a payment says nothing. -/
def identity (draft : Draft) (sender : Sender) : Except Fault SenderIdentity :=
  if draft.messageType = .payment then .ok .blank else senderIdentity sender

/-- The owners of each role, without signatures. -/
def owners : Draft → Except Fault (OwnerRole → List Owner)
  | invoiceRequest p => do
    let originators ← ownersOf p.originators
    let beneficiaries ← ownersOf p.beneficiaries
    .ok (ofRole originators beneficiaries)
  | paymentRequest p => do
    let beneficiaries ← ownersOf p.beneficiaries
    .ok fun _ => beneficiaries
  | payment p => do
    let originators ← ownersOf p.originators
    let beneficiaries ← ownersOf p.beneficiaries
    .ok (ofRole originators beneficiaries)

/-- The body with the sender's signature; a payment has none. -/
def sign (draft : Draft) (sender : Sender) (attested : MessageBody) : Except Fault MessageBody :=
  if draft.messageType = .payment then .ok attested else attestSender attested sender

/-- **The steps of creating a message are the same for all three kinds.** -/
theorem create_eq_steps (draft : Draft) (clock : Clock) (sender : Sender)
    (recipient : Option Recipient) (settings : Settings) :
    draft.create clock sender recipient settings = (do
      draft.checkPrimaries
      let keys ← encryptionKeys settings sender recipient
      let identity ← draft.identity sender
      let owners ← draft.owners
      let attested ← attestOwners (draft.body recipient owners identity) draft.lists
      let signed ← draft.sign sender attested
      finish clock signed settings keys) := by
  cases draft with
  | invoiceRequest p =>
    simp only [create, InvoiceRequestDraft.create, checkPrimaries, owners, bind_assoc]
    rfl
  | paymentRequest p =>
    simp only [create, PaymentRequestDraft.create, checkPrimaries, owners, bind_assoc]
    rfl
  | payment p =>
    simp only [create, PaymentDraft.create, checkPrimaries, owners, bind_assoc]
    rfl

theorem sign_eq_ok_iff {draft : Draft} {sender : Sender} {attested signed : MessageBody} :
    draft.sign sender attested = .ok signed ↔ draft.signedBy sender attested signed := by
  unfold sign signedBy
  split
  · rw [Except.ok.injEq, eq_comm]
  · exact Iff.rfl

/-- The owners of each role are made of what was given for it. -/
theorem ownersOf_of_owners {draft : Draft} {owners : OwnerRole → List Owner}
    (h : draft.owners = .ok owners) :
    ∀ role given, (role, given) ∈ draft.lists → ownersOf given = .ok (owners role) := by
  cases draft with
  | paymentRequest p =>
    obtain ⟨beneficiaries, hbeneficiaries, h⟩ := bind_eq_ok_iff.mp h
    cases h
    intro role given hgiven
    cases List.mem_singleton.mp hgiven
    exact hbeneficiaries
  | _ p =>
    obtain ⟨originators, horiginators, h⟩ := bind_eq_ok_iff.mp h
    obtain ⟨beneficiaries, hbeneficiaries, h⟩ := bind_eq_ok_iff.mp h
    cases h
    exact ownersOf_ofRole horiginators hbeneficiaries

/-- **The steps of creating a message**, with the body that it is made of. -/
theorem create_eq_ok_body {draft : Draft} {clock : Clock} {sender : Sender}
    {recipient : Option Recipient} {settings : Settings} {octets : Bytes}
    (h : draft.create clock sender recipient settings = .ok octets) :
    ∃ keys owners identity attested signed, encryptionKeys settings sender recipient = .ok keys ∧
      draft.Names sender owners identity ∧
      attestOwners (draft.body recipient owners identity) draft.lists = .ok attested ∧
      draft.signedBy sender attested signed ∧ finish clock signed settings keys = .ok octets := by
  rw [create_eq_steps] at h
  obtain ⟨_, _, h⟩ := bind_eq_ok_iff.mp h
  obtain ⟨keys, hkeys, h⟩ := bind_eq_ok_iff.mp h
  obtain ⟨identity, hidentity, h⟩ := bind_eq_ok_iff.mp h
  obtain ⟨owners, howners, h⟩ := bind_eq_ok_iff.mp h
  obtain ⟨attested, hattested, h⟩ := bind_eq_ok_iff.mp h
  obtain ⟨signed, hsigned, h⟩ := bind_eq_ok_iff.mp h
  refine ⟨keys, owners, identity, attested, signed, hkeys, ⟨ownersOf_of_owners howners, fun hne => ?_⟩,
    hattested, sign_eq_ok_iff.mp hsigned, h⟩
  rwa [Draft.identity, if_neg hne] at hidentity

/-- The steps of creating a message. -/
theorem create_eq_ok {draft : Draft} {clock : Clock} {sender : Sender}
    {recipient : Option Recipient} {settings : Settings} {octets : Bytes}
    (h : draft.create clock sender recipient settings = .ok octets) :
    ∃ keys body attested signed, encryptionKeys settings sender recipient = .ok keys ∧
      draft.Holds sender body ∧ attestOwners body draft.lists = .ok attested ∧
      draft.signedBy sender attested signed ∧ finish clock signed settings keys = .ok octets := by
  obtain ⟨keys, owners, identity, attested, signed, hkeys, hnames, hattested, hsigned, hfinish⟩ :=
    create_eq_ok_body h
  exact ⟨keys, _, attested, signed, hkeys, hnames.holds recipient, hattested, hsigned, hfinish⟩

end Draft

end AttestedPayments
