import AttestedPayments.Envelope.Basic
import AttestedPayments.Text.Json

/-!
# Messages as JSON

* `MessageBody.toJson` — a body under the name of its kind, with all of its fields. Octets are
  arrays of numbers; statements, schemes and currencies are written by name.
* `Metadata.toJson` — what an envelope says; what it does not have is null.
-/

namespace AttestedPayments

/-- Octets as an array of numbers. -/
def octetsJson (octets : Bytes) : Json := .array (octets.map fun b => .number b.toNat)

/-- An optional text. -/
def optionalText : Option String → Json
  | none => .null
  | some s => .text s

namespace OwnerEntry

/-- One statement of an owner. -/
def toJson (e : OwnerEntry) : Json :=
  .object [("attestation", .text e.attestation.text), ("certificate_pem", .text e.certificatePem),
    ("pki_type", .text e.scheme.text), ("signature", .text e.signature)]

end OwnerEntry

/-- One owner. -/
def Owner.toJson (o : Owner) : Json :=
  .object [("primary_for_transaction", .bool o.isPrimary),
    ("pki_data", .array (o.entries.map OwnerEntry.toJson))]

/-- One output, without what is known about its address. -/
def Output.toJson (o : Output) : Json :=
  .object [("amount", .number o.amount.toNat), ("script", .text o.script),
    ("currency", .text o.currency.text)]

/-- A list of owners. -/
def ownersJson (owners : List Owner) : Json := .array (owners.map Owner.toJson)

/-- A list of outputs. -/
def outputsJson (outputs : List Output) : Json := .array (outputs.map Output.toJson)

/-- A list of requested statements. -/
def attestationsJson (list : List Attestation) : Json :=
  .array (list.map fun a => .text a.text)

/-- The fields that say how a sender is backed. -/
def SenderIdentity.jsonFields (s : SenderIdentity) : List (String × Json) :=
  [("sender_pki_type", .text s.scheme.text), ("sender_pki_data", .text s.certificatePem),
    ("sender_signature", .text s.signature), ("sender_ev_cert", .text s.evCertificatePem)]

/-- The fields of an invoice request. -/
def InvoiceRequest.toJson (b : InvoiceRequest) : Json :=
  .object ([("amount", .number b.amount.toNat), ("memo", .text b.memo),
    ("notification_url", .text b.notificationUrl), ("originators", ownersJson b.originators),
    ("beneficiaries", ownersJson b.beneficiaries),
    ("originators_addresses", outputsJson b.originatorsAddresses),
    ("attestations_requested", attestationsJson b.attestationsRequested),
    ("recipient_vasp_name", .text b.recipientVaspName),
    ("recipient_chain_address", .text b.recipientChainAddress)] ++ b.sender.jsonFields)

/-- The fields of payment details. -/
def PaymentDetails.toJson (d : PaymentDetails) : Json :=
  .object [("network", .text d.network),
    ("beneficiaries_addresses", outputsJson d.beneficiariesAddresses),
    ("time", .number d.time.toInt), ("expires", .number d.expires.toInt), ("memo", .text d.memo),
    ("payment_url", .text d.paymentUrl), ("merchant_data", octetsJson d.merchantData)]

/-- The fields of a payment request. -/
def PaymentRequest.toJson (b : PaymentRequest) : Json :=
  .object ([("payment_details_version", .number b.detailsVersion.toNat),
    ("payment_details", b.details.toJson), ("beneficiaries", ownersJson b.beneficiaries),
    ("attestations_requested", attestationsJson b.attestationsRequested)] ++ b.sender.jsonFields)

/-- The fields of a payment. -/
def Payment.toJson (b : Payment) : Json :=
  .object [("merchant_data", octetsJson b.merchantData),
    ("transactions", .array (b.transactions.map octetsJson)),
    ("refund_to", outputsJson b.refundTo), ("memo", .text b.memo),
    ("originators", ownersJson b.originators), ("beneficiaries", ownersJson b.beneficiaries)]

/-- The fields of an acknowledgement. -/
def PaymentAck.toJson (b : PaymentAck) : Json :=
  .object [("payment", b.payment.toJson), ("memo", .text b.memo)]

namespace MessageBody

/-- The fields of a body. -/
def fieldsJson : MessageBody → Json
  | invoiceRequest b => b.toJson
  | paymentRequest b => b.toJson
  | payment b => b.toJson
  | paymentAck b => b.toJson

/-- A body under the name of its kind. -/
def toJson (body : MessageBody) : Json := .object [(body.messageType.text, body.fieldsJson)]

end MessageBody

/-- What an envelope says about its message. -/
def Metadata.toJson (m : Metadata) : Json :=
  .object [("version", .number m.version.toNat), ("status_code", .number m.statusCode.code.toNat),
    ("status_message", .text m.statusMessage),
    ("message_type", .number m.messageType.code.toNat),
    ("identifier", .text (Hex.lower m.identifier)), ("encrypted", .bool m.encryption.isSome),
    ("encrypted_message", optionalText (m.encryption.map EncryptionRecord.payload)),
    ("sender_public_key_pem", optionalText (m.encryption.map EncryptionRecord.senderPublicKeyPem)),
    ("recipient_public_key_pem",
      optionalText (m.encryption.map EncryptionRecord.recipientPublicKeyPem)),
    ("signature", optionalText (m.encryption.map fun e => Hex.lower e.signature)),
    ("nonce",
      match m.encryption with
      | none => .null
      | some e => .number e.nonce.toInt)]

end AttestedPayments
