import AttestedPayments.Exchange.Creating

/-!
# Reading messages

* `checkBody` — whether sender and owners of a body are trusted and signed it, or the first fault.
* `isValid`, `isValidAs` — the same for the octets of an envelope, of any kind or of one kind.
* `MessageBody.as` — a body of one kind.
* `parse`, `parseAs` — body and metadata without any check.
* `parseWithAddresses` — the same, with what a provider knows about each output's address.
-/

namespace AttestedPayments

/-- Check the signature of a sender whose scheme has one. -/
def checkSenderSignature (chains : List Chain) (clock : Clock) (body : MessageBody)
    (sender : SenderIdentity) : Except Fault Unit :=
  match validate chains clock sender.certificatePem with
  | .error cause => .error cause.toFault
  | .ok false => .error (.chain .senderUntrusted)
  | .ok true =>
    if sender.signature = "" then .error (.signature .senderMissing)
    else do
      let key ← rsaKeyOfPem sender.certificatePem
      if verifiesText key body.senderDigest sender.signature then .ok ()
      else .error (.signature .sender)

/-- Check the certificate of extended validation that a sender may have. -/
def checkEvCertificate (chains : List Chain) (clock : Clock) (pem : String) : Except Fault Unit :=
  match validate chains clock pem with
  | .error cause => .error (.certificate (.evRefused cause))
  | .ok false => .error (.certificate .evUntrusted)
  | .ok true => do
    if ← isExtendedValidationPem pem then .ok ()
    else .error (.certificate .evWithoutPolicy)

/-- Check how the sender of a body is backed: the signature first, then the certificate of extended
validation, each if it is there. -/
def checkSender (chains : List Chain) (clock : Clock) (body : MessageBody) : Except Fault Unit :=
  match body.sender? with
  | none => .ok ()
  | some sender => do
    if sender.scheme.isSigned then checkSenderSignature chains clock body sender
    if sender.evCertificatePem ≠ "" then checkEvCertificate chains clock sender.evCertificatePem

/-- Check the sender, then the owners. -/
def checkBody (chains : List Chain) (clock : Clock) (body : MessageBody) : Except Fault Unit := do
  checkSender chains clock body
  checkAttestations chains clock body

/-- The keys of a recipient that may be missing. -/
def recipientKeys (recipient : Option Recipient) : Option EncryptionKeys :=
  recipient.bind Recipient.encryptionKeys

/-- Body and metadata of a message of any kind. -/
def parse (octets : Bytes) (recipient : Option Recipient) : Except Fault OpenedMessage :=
  openMessage octets (recipientKeys recipient)

/-- Body and metadata of a message of one kind. -/
def parseAs (type : MessageType) (octets : Bytes) (recipient : Option Recipient) :
    Except Fault OpenedMessage :=
  openKind octets type (recipientKeys recipient)

/-- Whether a message of any kind is valid. The answer is `true` or the first fault. -/
def isValid (chains : List Chain) (clock : Clock) (octets : Bytes) (recipient : Option Recipient) :
    Except Fault Bool := do
  let opened ← parse octets recipient
  checkBody chains clock opened.body
  .ok true

/-- Whether a message of one kind is valid. The answer is `true` or the first fault. -/
def isValidAs (type : MessageType) (chains : List Chain) (clock : Clock) (octets : Bytes)
    (recipient : Option Recipient) : Except Fault Bool := do
  let opened ← parseAs type octets recipient
  checkBody chains clock opened.body
  .ok true

/-- The kind of a message. -/
def messageType (octets : Bytes) (recipient : Option Recipient) : Except Fault MessageType := do
  let opened ← parse octets recipient
  .ok opened.body.messageType

/-- The body, if it is of the given kind. -/
def MessageBody.as (type : MessageType) (body : MessageBody) : Except Fault MessageBody :=
  if body.messageType = type then .ok body
  else .error (.object (.foundType type body.messageType))

/-- Who knows about addresses. -/
abbrev AddressProvider := Currency → String → Except LookupFault AddressInformation

/-- An output with what the provider knows about its address. -/
def AddressProvider.enrich (provider : AddressProvider) (output : Output) :
    Except Fault Output :=
  match provider output.currency output.script with
  | .error fault => .error (.lookup fault)
  | .ok information => .ok { output with addressInformation := some information }

/-- Body and metadata of a message of one kind, with what the provider knows about each output's
address. Payments and acknowledgements have no such outputs. -/
def parseWithAddresses (type : MessageType) (provider : Option AddressProvider) (octets : Bytes)
    (recipient : Option Recipient) : Except Fault OpenedMessage := do
  if type = .payment ∨ type = .paymentAck then .error (.unsupported (.noAddresses type))
  else
    match provider with
    | none => .error (.unsupported .noProvider)
    | some provider =>
      let opened ← parseAs type octets recipient
      match opened.body.outputs? with
      | none => .error (.unsupported (.noAddresses type))
      | some outputs =>
        let outputs ← outputs.mapM provider.enrich
        .ok { opened with body := opened.body.withOutputs outputs }

end AttestedPayments
