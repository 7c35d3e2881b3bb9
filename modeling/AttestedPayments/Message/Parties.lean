import AttestedPayments.Message.Body

/-!
# What is needed to create a message

These values hold private keys and never travel.

* `Credential`, `OwnerCredentials` — what an owner states, with certificates and keys.
* `EncryptionKeys` — the keys of one side of an encrypted envelope.
* `Sender`, `Recipient` — the two sides.
* `Settings` — status and identifier of the envelope, and whether it is encrypted.
-/

namespace AttestedPayments

/-- One statement of an owner or a sender, with what is needed to sign it. -/
structure Credential where
  attestation : Attestation
  privateKeyPem : Option String
  certificatePem : Option String
  scheme : PkiScheme
  deriving DecidableEq, Repr

/-- A party of a payment with its credentials. -/
structure OwnerCredentials where
  isPrimary : Bool
  credentials : List Credential
  deriving DecidableEq, Repr

/-- Keys on the curve for an encrypted envelope. A recipient needs the private key only to read. -/
structure EncryptionKeys where
  privateKeyPem : Option String
  publicKeyPem : String
  deriving DecidableEq, Repr

/-- The side that signs the whole message. -/
structure Sender where
  credential : Option Credential
  evCertificatePem : Option String
  encryptionKeys : Option EncryptionKeys
  deriving DecidableEq, Repr

/-- The side that a message goes to. -/
structure Recipient where
  vaspName : Option String
  chainAddress : Option String
  encryptionKeys : Option EncryptionKeys
  deriving DecidableEq, Repr

/-- A recipient that is known by its keys only. -/
def Recipient.ofKeys (keys : EncryptionKeys) : Recipient := ⟨none, none, some keys⟩

/-- The status message of a new envelope, unless another one is given. -/
def defaultStatusMessage : String := "OK"

/-- The network of new payment details, unless another one is given. -/
def defaultNetwork : String := "main"

/-- Status and identifier of a new envelope, and whether it is encrypted. Without an identifier one
is derived from the body. -/
structure Settings where
  statusCode : StatusCode := .ok
  statusMessage : String := defaultStatusMessage
  identifier : Option Bytes := none
  encrypt : Bool := false
  deriving DecidableEq, Repr

/-- The credential of a sender that signs; one whose scheme has no signature does not count. -/
def Sender.signingCredential? (sender : Sender) : Option Credential :=
  sender.credential.filter fun c => c.scheme.isSigned

end AttestedPayments
