import AttestedPayments.Envelope.Opening
import AttestedPayments.Exchange.Attesting
import AttestedPayments.Message.Blank

/-!
# Creating messages

What is created is checked before anything is signed: owners first, then the keys for encryption,
then the certificates. After that owners sign, and then the sender signs the whole.

* `InvoiceRequestDraft`, `PaymentRequestDraft`, `PaymentDraft`, `PaymentAckDraft` — what a caller
  gives; their `create` functions give the octets of an envelope.
* `PaymentAckDraft.ofPayment` — an acknowledgement of a received payment.
-/

namespace AttestedPayments

/-- The keys of sender and recipient. -/
structure KeyExchange where
  sender : EncryptionKeys
  recipient : EncryptionKeys
  deriving DecidableEq, Repr

/-- The keys for encryption, if the settings ask for it. -/
def encryptionKeys (settings : Settings) (sender : Sender) (recipient : Option Recipient) :
    Except Fault (Option KeyExchange) :=
  if !settings.encrypt then .ok none
  else
    match sender.encryptionKeys, recipient.bind Recipient.encryptionKeys with
    | none, _ => .error (.encryption .senderKeysMissing)
    | some _, none => .error (.encryption .recipientKeysMissing)
    | some s, some r => .ok (some ⟨s, r⟩)

/-- How a sender is backed in a new body, without a signature. -/
def senderIdentity (sender : Sender) : Except Fault SenderIdentity :=
  let ev := sender.evCertificatePem.getD ""
  match sender.signingCredential? with
  | none => .ok ⟨.none, "", "", ev⟩
  | some c =>
    match c.certificatePem with
    | none => .error (.certificate .senderMissing)
    | some pem => .ok ⟨c.scheme, pem, "", ev⟩

/-- Let the owners of all lists sign a body. -/
def attestOwners (body : MessageBody) (lists : List (OwnerRole × List OwnerCredentials)) :
    Except Fault MessageBody := do
  let digest := body.attestationDigest
  let records ← lists.mapM fun (role, owners) => signatureRecords owners role digest
  body.attach records.flatten

/-- Let the sender sign a body; a sender without a signing credential leaves it as it is. -/
def attestSender (body : MessageBody) (sender : Sender) : Except Fault MessageBody :=
  match sender.signingCredential? with
  | none => .ok body
  | some c =>
    match c.privateKeyPem with
    | none => .error (.key .senderPrivateKeyMissing)
    | some pem => do
      let signature ← signDigest pem body.senderDigest
      .ok (body.withSenderSignature signature)

/-- Put a finished body into an envelope. -/
def finish (clock : Clock) (body : MessageBody) (settings : Settings)
    (keys : Option KeyExchange) : Except Fault Bytes :=
  enclose clock body settings (keys.map KeyExchange.sender) (keys.map KeyExchange.recipient)

/-- A list that need not be there must have one primary owner if it is. -/
def checkOptionalOwners (owners : List OwnerCredentials) (role : OwnerRole) : Except Fault Unit :=
  if owners.isEmpty then .ok () else checkOwners owners role

/-- What a new invoice request holds. Originators are required. -/
structure InvoiceRequestDraft where
  amount : UInt64
  memo : String
  notificationUrl : String
  originators : List OwnerCredentials
  beneficiaries : List OwnerCredentials
  originatorsAddresses : List Output
  attestationsRequested : List Attestation
  deriving DecidableEq, Repr

/-- The octets of a new invoice request. -/
def InvoiceRequestDraft.create (p : InvoiceRequestDraft) (clock : Clock)
    (sender : Sender) (recipient : Option Recipient) (settings : Settings) :
    Except Fault Bytes := do
  checkOwners p.originators .originator
  checkOptionalOwners p.beneficiaries .beneficiary
  let keys ← encryptionKeys settings sender recipient
  let data ← senderIdentity sender
  let originators ← ownersOf p.originators
  let beneficiaries ← ownersOf p.beneficiaries
  let body : MessageBody := .invoiceRequest
    { amount := p.amount
      memo := p.memo
      notificationUrl := p.notificationUrl
      originators := originators
      beneficiaries := beneficiaries
      originatorsAddresses := p.originatorsAddresses
      attestationsRequested := p.attestationsRequested
      recipientVaspName := (recipient.bind Recipient.vaspName).getD ""
      recipientChainAddress := (recipient.bind Recipient.chainAddress).getD ""
      sender := data }
  let body ← attestOwners body [(.originator, p.originators), (.beneficiary, p.beneficiaries)]
  let body ← attestSender body sender
  finish clock body settings keys

/-- What a new payment request holds. Beneficiaries are required. -/
structure PaymentRequestDraft where
  details : PaymentDetails
  beneficiaries : List OwnerCredentials
  attestationsRequested : List Attestation
  deriving DecidableEq

/-- The octets of a new payment request. -/
def PaymentRequestDraft.create (p : PaymentRequestDraft) (clock : Clock)
    (sender : Sender) (recipient : Option Recipient) (settings : Settings) :
    Except Fault Bytes := do
  checkOwners p.beneficiaries .beneficiary
  let keys ← encryptionKeys settings sender recipient
  let data ← senderIdentity sender
  let beneficiaries ← ownersOf p.beneficiaries
  let body : MessageBody := .paymentRequest
    { detailsVersion := paymentDetailsVersion
      details := p.details
      beneficiaries := beneficiaries
      attestationsRequested := p.attestationsRequested
      sender := data }
  let body ← attestOwners body [(.beneficiary, p.beneficiaries)]
  let body ← attestSender body sender
  finish clock body settings keys

/-- What a new payment holds. Originators are required. -/
structure PaymentDraft where
  merchantData : Bytes
  transactions : List Bytes
  refundTo : List Output
  memo : String
  originators : List OwnerCredentials
  beneficiaries : List OwnerCredentials
  deriving DecidableEq, Repr

/-- The octets of a new payment. Its sender does not sign and only gives keys for encryption. -/
def PaymentDraft.create (p : PaymentDraft) (clock : Clock) (sender : Sender)
    (recipient : Option Recipient) (settings : Settings) : Except Fault Bytes := do
  checkOwners p.originators .originator
  checkOptionalOwners p.beneficiaries .beneficiary
  let keys ← encryptionKeys settings sender recipient
  let originators ← ownersOf p.originators
  let beneficiaries ← ownersOf p.beneficiaries
  let body : MessageBody := .payment
    { merchantData := p.merchantData
      transactions := p.transactions
      refundTo := p.refundTo
      memo := p.memo
      originators := originators
      beneficiaries := beneficiaries }
  let body ← attestOwners body [(.originator, p.originators), (.beneficiary, p.beneficiaries)]
  finish clock body settings keys

/-- What a new acknowledgement holds. -/
structure PaymentAckDraft where
  payment : Payment
  memo : String
  deriving DecidableEq, Repr

/-- The octets of a new acknowledgement. Nothing in it is signed anew. -/
def PaymentAckDraft.create (p : PaymentAckDraft) (clock : Clock) (sender : Sender)
    (recipient : Option Recipient) (settings : Settings) : Except Fault Bytes := do
  let keys ← encryptionKeys settings sender recipient
  finish clock (.paymentAck ⟨p.payment, p.memo⟩) settings keys

/-- The payment in a body. -/
def MessageBody.asPayment : MessageBody → Except Fault Payment
  | payment b => .ok b
  | body => .error (.object (.foundType .payment body.messageType))

/-- The acknowledgement of a payment as it was received. -/
def PaymentAckDraft.ofPayment (octets : Bytes) (recipient : Option Recipient)
    (memo : String) : Except Fault PaymentAckDraft := do
  let opened ← openKind octets .payment (recipient.bind Recipient.encryptionKeys)
  let payment ← opened.body.asPayment
  .ok ⟨payment, memo⟩

end AttestedPayments
