import AttestedPayments.Bytes
import AttestedPayments.Message.Vocabulary

/-!
# Message bodies

* `Owner`, `OwnerEntry` — the parties of a payment and what they state.
* `Output` — where a payment goes, with what a provider knows about the address.
* `InvoiceRequest`, `PaymentRequest`, `Payment`, `PaymentAck` — the four bodies;
  `MessageBody` — any of them.
* `MessageBody.ownerLists`, `MessageBody.sender?`, `MessageBody.outputs?` — the parts that several
  kinds share, with the functions that replace them.
-/

namespace AttestedPayments

/-- One statement of an owner as it travels. The signature is hexadecimal; it is empty where there
is none. -/
structure OwnerEntry where
  attestation : Attestation
  certificatePem : String
  scheme : PkiScheme
  signature : String
  deriving DecidableEq, Repr

/-- A party of a payment. Only the primary owner of a list signs. -/
structure Owner where
  isPrimary : Bool
  entries : List OwnerEntry
  deriving DecidableEq, Repr

/-- Which list an owner belongs to. -/
inductive OwnerRole where
  | originator
  | beneficiary
  deriving DecidableEq, Repr

/-- The name of a role's list. -/
def OwnerRole.text : OwnerRole → String
  | originator => "originators"
  | beneficiary => "beneficiaries"

/-- A binary floating-point number, by its 64 bits. Such a number is carried along as it is: nothing
is computed with it. -/
structure Binary64 where
  bits : UInt64
  deriving DecidableEq, Repr

/-- What a provider knows about an address. -/
structure AddressInformation where
  identifier : String
  alert : Bool
  balance : Binary64
  currency : Option Currency
  currencyVerbose : List String
  earliestTransactionTime : String
  latestTransactionTime : String
  riskLevel : Int32
  riskLevelVerbose : String
  riskReason : String
  totalIncomingValue : String
  totalIncomingValueUsd : String
  totalOutgoingValue : String
  totalOutgoingValueUsd : String
  createdAt : String
  updatedAt : String
  deriving DecidableEq, Repr

/-- Where an amount goes. What is known about the address does not travel. -/
structure Output where
  amount : UInt64
  script : String
  currency : Currency
  addressInformation : Option AddressInformation
  deriving DecidableEq, Repr

/-- The output without what is known about its address. -/
def Output.bare (output : Output) : Output := { output with addressInformation := none }

/-- How the sender of a whole message is backed. Certificates and signature are empty where there
are none. -/
structure SenderIdentity where
  scheme : PkiScheme
  certificatePem : String
  signature : String
  evCertificatePem : String
  deriving DecidableEq, Repr

/-- The originator's side opens a transaction. -/
structure InvoiceRequest where
  amount : UInt64
  memo : String
  notificationUrl : String
  originators : List Owner
  beneficiaries : List Owner
  originatorsAddresses : List Output
  attestationsRequested : List Attestation
  recipientVaspName : String
  recipientChainAddress : String
  sender : SenderIdentity
  deriving DecidableEq, Repr

/-- What is to be paid. Times are seconds since the start of 1970; an expiry of zero means none. -/
structure PaymentDetails where
  network : String
  beneficiariesAddresses : List Output
  time : Int64
  expires : Int64
  memo : String
  paymentUrl : String
  merchantData : Bytes
  deriving DecidableEq

/-- The beneficiary's side asks for a payment. -/
structure PaymentRequest where
  detailsVersion : UInt32
  details : PaymentDetails
  beneficiaries : List Owner
  attestationsRequested : List Attestation
  sender : SenderIdentity
  deriving DecidableEq

/-- The originator's signed transactions. -/
structure Payment where
  merchantData : Bytes
  transactions : List Bytes
  refundTo : List Output
  memo : String
  originators : List Owner
  beneficiaries : List Owner
  deriving DecidableEq, Repr

/-- The beneficiary's side acknowledges a payment, which is embedded as it was received. -/
structure PaymentAck where
  payment : Payment
  memo : String
  deriving DecidableEq, Repr

/-- Any of the four bodies. -/
inductive MessageBody where
  | invoiceRequest (body : InvoiceRequest)
  | paymentRequest (body : PaymentRequest)
  | payment (body : Payment)
  | paymentAck (body : PaymentAck)
  deriving DecidableEq

namespace MessageBody

/-- The type of a body; never `unknown`. -/
def messageType : MessageBody → MessageType
  | invoiceRequest _ => .invoiceRequest
  | paymentRequest _ => .paymentRequest
  | payment _ => .payment
  | paymentAck _ => .paymentAck

/-- The owners in a role; a payment request has no originators. An acknowledgement shows the owners
of its payment. -/
def owners? : MessageBody → OwnerRole → Option (List Owner)
  | invoiceRequest b, .originator => some b.originators
  | invoiceRequest b, .beneficiary => some b.beneficiaries
  | paymentRequest _, .originator => none
  | paymentRequest b, .beneficiary => some b.beneficiaries
  | payment b, .originator => some b.originators
  | payment b, .beneficiary => some b.beneficiaries
  | paymentAck b, .originator => some b.payment.originators
  | paymentAck b, .beneficiary => some b.payment.beneficiaries

/-- The body with other owners in a role, where it has that role. -/
def withOwners : MessageBody → OwnerRole → List Owner → MessageBody
  | invoiceRequest b, .originator, owners => invoiceRequest { b with originators := owners }
  | invoiceRequest b, .beneficiary, owners => invoiceRequest { b with beneficiaries := owners }
  | paymentRequest b, .originator, _ => paymentRequest b
  | paymentRequest b, .beneficiary, owners => paymentRequest { b with beneficiaries := owners }
  | payment b, .originator, owners => payment { b with originators := owners }
  | payment b, .beneficiary, owners => payment { b with beneficiaries := owners }
  | paymentAck b, .originator, owners =>
    paymentAck { b with payment := { b.payment with originators := owners } }
  | paymentAck b, .beneficiary, owners =>
    paymentAck { b with payment := { b.payment with beneficiaries := owners } }

/-- The lists of owners in the order in which they are checked: originators first. -/
def ownerLists (body : MessageBody) : List (OwnerRole × List Owner) :=
  [.originator, .beneficiary].filterMap fun role => (body.owners? role).map (role, ·)

/-- How the sender is backed, for the kinds that a sender signs. -/
def sender? : MessageBody → Option SenderIdentity
  | invoiceRequest b => some b.sender
  | paymentRequest b => some b.sender
  | payment _ => none
  | paymentAck _ => none

/-- The body with another sender signature, where it has one. -/
def withSenderSignature : MessageBody → String → MessageBody
  | invoiceRequest b, signature =>
    invoiceRequest { b with sender := { b.sender with signature := signature } }
  | paymentRequest b, signature =>
    paymentRequest { b with sender := { b.sender with signature := signature } }
  | payment b, _ => payment b
  | paymentAck b, _ => paymentAck b

/-- The outputs whose addresses a provider may be asked about. -/
def outputs? : MessageBody → Option (List Output)
  | invoiceRequest b => some b.originatorsAddresses
  | paymentRequest b => some b.details.beneficiariesAddresses
  | payment _ => none
  | paymentAck _ => none

/-- The body with other outputs, where it has outputs to ask about. -/
def withOutputs : MessageBody → List Output → MessageBody
  | invoiceRequest b, outputs => invoiceRequest { b with originatorsAddresses := outputs }
  | paymentRequest b, outputs =>
    paymentRequest { b with details := { b.details with beneficiariesAddresses := outputs } }
  | payment b, _ => payment b
  | paymentAck b, _ => paymentAck b

end MessageBody

/-- An entry without its signature. -/
def OwnerEntry.unsigned (entry : OwnerEntry) : OwnerEntry := { entry with signature := "" }

/-- An owner without signatures. -/
def Owner.unsigned (owner : Owner) : Owner :=
  { owner with entries := owner.entries.map OwnerEntry.unsigned }

/-- A body without the signatures of its owners. -/
def MessageBody.withoutOwnerSignatures (body : MessageBody) : MessageBody :=
  body.ownerLists.foldl (fun b (role, owners) => b.withOwners role (owners.map Owner.unsigned)) body

end AttestedPayments
