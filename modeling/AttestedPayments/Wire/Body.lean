import AttestedPayments.Message.Body
import AttestedPayments.Wire.Codec

/-!
# The layout of message bodies

Each codec writes the fields of a structure in order. Names stand for statements and schemes,
numbers for currencies, status codes and message types.

* `Wire.invoiceRequest`, `Wire.paymentRequest`, `Wire.payment`, `Wire.paymentAck` — the layouts of
  the four bodies.
* `MessageBody.encode` — a body as octets, which do not tell its kind.
* `MessageBody.decode` — the body of a given kind that is written by octets.
-/

namespace AttestedPayments

namespace Wire

open Codec

/-- The layout of schemes, by name. -/
def scheme : Codec PkiScheme := text.refine PkiScheme.text fun s => known (PkiScheme.ofText s)

/-- The layout of kinds of statements, by name. -/
def attestation : Codec Attestation :=
  text.refine Attestation.text fun s => known (Attestation.ofText s)

/-- The layout of status codes, by number. -/
def statusCode : Codec StatusCode :=
  uint32.refine StatusCode.code fun n => known (StatusCode.ofCode n)

/-- The layout of message types, by number. -/
def messageType : Codec MessageType :=
  uint32.refine MessageType.code fun n => known (MessageType.ofCode n)

/-- The layout of currencies, by number. -/
def currency : Codec Currency :=
  uint32.refine Currency.index fun n =>
    match Currency.ofIndex? n with
    | some c => .ok c
    | none => .error (.badVariant n Currency.all.length)

def ownerEntry : Codec OwnerEntry :=
  (pair attestation (pair text (pair scheme text))).via
    (fun e => (e.attestation, e.certificatePem, e.scheme, e.signature))
    (fun (attestation, certificatePem, scheme, signature) =>
      ⟨attestation, certificatePem, scheme, signature⟩)

def owner : Codec Owner :=
  (pair bool (list ownerEntry)).via
    (fun o => (o.isPrimary, o.entries))
    (fun (isPrimary, entries) => ⟨isPrimary, entries⟩)

/-- The layout of an output; what is known about its address is left out. -/
def output : Codec Output :=
  (pair uint64 (pair text currency)).via
    (fun o => (o.amount, o.script, o.currency))
    (fun (amount, script, currency) => ⟨amount, script, currency, none⟩)

def sender : Codec SenderIdentity :=
  (pair scheme (pair text (pair text text))).via
    (fun s => (s.scheme, s.certificatePem, s.signature, s.evCertificatePem))
    (fun (scheme, certificatePem, signature, evCertificatePem) =>
      ⟨scheme, certificatePem, signature, evCertificatePem⟩)

def invoiceRequest : Codec InvoiceRequest :=
  (pair uint64 (pair text (pair text (pair (list owner) (pair (list owner) (pair (list output)
    (pair (list attestation) (pair text (pair text sender))))))))).via
    (fun b => (b.amount, b.memo, b.notificationUrl, b.originators, b.beneficiaries,
      b.originatorsAddresses, b.attestationsRequested, b.recipientVaspName,
      b.recipientChainAddress, b.sender))
    (fun (amount, memo, notificationUrl, originators, beneficiaries, originatorsAddresses,
        attestationsRequested, recipientVaspName, recipientChainAddress, sender) =>
      ⟨amount, memo, notificationUrl, originators, beneficiaries, originatorsAddresses,
        attestationsRequested, recipientVaspName, recipientChainAddress, sender⟩)

def paymentDetails : Codec PaymentDetails :=
  (pair text (pair (list output) (pair int64 (pair int64 (pair text (pair text octets)))))).via
    (fun d => (d.network, d.beneficiariesAddresses, d.time, d.expires, d.memo, d.paymentUrl,
      d.merchantData))
    (fun (network, beneficiariesAddresses, time, expires, memo, paymentUrl, merchantData) =>
      ⟨network, beneficiariesAddresses, time, expires, memo, paymentUrl, merchantData⟩)

def paymentRequest : Codec PaymentRequest :=
  (pair uint32 (pair paymentDetails (pair (list owner) (pair (list attestation) sender)))).via
    (fun b => (b.detailsVersion, b.details, b.beneficiaries, b.attestationsRequested, b.sender))
    (fun (detailsVersion, details, beneficiaries, attestationsRequested, sender) =>
      ⟨detailsVersion, details, beneficiaries, attestationsRequested, sender⟩)

def payment : Codec Payment :=
  (pair octets (pair (list octets) (pair (list output) (pair text
    (pair (list owner) (list owner)))))).via
    (fun b => (b.merchantData, b.transactions, b.refundTo, b.memo, b.originators,
      b.beneficiaries))
    (fun (merchantData, transactions, refundTo, memo, originators, beneficiaries) =>
      ⟨merchantData, transactions, refundTo, memo, originators, beneficiaries⟩)

def paymentAck : Codec PaymentAck :=
  (pair payment text).via (fun b => (b.payment, b.memo)) (fun (payment, memo) => ⟨payment, memo⟩)

end Wire

/-- A body as octets, which do not tell its kind. -/
def MessageBody.encode : MessageBody → Bytes
  | invoiceRequest b => Wire.invoiceRequest.encode b
  | paymentRequest b => Wire.paymentRequest.encode b
  | payment b => Wire.payment.encode b
  | paymentAck b => Wire.paymentAck.encode b

/-- Why octets are not a body. -/
inductive BodyFault where
  /-- The kind of the body is not known. -/
  | unknownType
  | malformed (type : MessageType) (fault : WireFault)
  deriving DecidableEq, Repr

def BodyFault.message : BodyFault → String
  | unknownType => "message type is unknown"
  | malformed type fault => "invalid " ++ type.text ++ ": " ++ fault.message

namespace MessageBody

/-- A body of one kind that uses up all octets. -/
def decodeAs {α : Type} (type : MessageType) (codec : Codec α) (inject : α → MessageBody)
    (octets : Bytes) : Except BodyFault MessageBody :=
  match codec.decodeAll octets with
  | .error fault => .error (.malformed type fault)
  | .ok body => .ok (inject body)

/-- The body of a given kind. -/
def decode (type : MessageType) (octets : Bytes) : Except BodyFault MessageBody :=
  match type with
  | .unknown => .error .unknownType
  | .invoiceRequest => decodeAs .invoiceRequest Wire.invoiceRequest invoiceRequest octets
  | .paymentRequest => decodeAs .paymentRequest Wire.paymentRequest paymentRequest octets
  | .payment => decodeAs .payment Wire.payment payment octets
  | .paymentAck => decodeAs .paymentAck Wire.paymentAck paymentAck octets

end MessageBody

end AttestedPayments
