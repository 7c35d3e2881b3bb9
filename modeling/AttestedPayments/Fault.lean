import AttestedPayments.Envelope.Sealing
import AttestedPayments.Wire.Body

/-!
# Why an operation fails

`Fault` has one constructor for each thing that can be wrong: the octets of a message, a signature,
a certificate, a chain of certificates, the owners, the encryption, a key, a missing feature, or
the outside provider. Each holds the cause; `Fault.message` is the wording of all of them. One more
stands for an operation that breaks off: it has no answer, not even a fault.
-/

namespace AttestedPayments

/-- What a file system answers instead of doing what it was asked to. -/
inductive FileFault where
  | notFound
  | exists
  | notDirectory
  | isDirectory
  | nameTooLong
  | notText
  | other (message : String)
  deriving DecidableEq, Repr

/-- The wording of a file system's answer. -/
def FileFault.message : FileFault → String
  | notFound => "No such file or directory (os error 2)"
  | .exists => "File exists (os error 17)"
  | notDirectory => "Not a directory (os error 20)"
  | isDirectory => "Is a directory (os error 21)"
  | nameTooLong => "File name too long (os error 36)"
  | notText => "stream did not contain valid UTF-8"
  | other message => message

/-- Why the names in a directory are not known: it cannot be opened, or its listing breaks off. -/
inductive ListingFault where
  | unopened (fault : FileFault)
  | brokenOff (fault : FileFault)
  deriving DecidableEq, Repr

/-- Why octets are not the message that was expected. -/
inductive ObjectFault where
  | badEnvelope (expected : MessageType) (fault : WireFault)
  | body (fault : BodyFault)
  /-- The envelope holds another kind of body. -/
  | heldType (expected held : MessageType)
  /-- The body is of another kind. -/
  | foundType (expected found : MessageType)
  /-- The decrypted octets are an encrypted envelope again. -/
  | nested
  /-- The identifiers outside and inside the encryption differ. -/
  | identifierMismatch
  deriving DecidableEq, Repr

def ObjectFault.message : ObjectFault → String
  | badEnvelope expected fault =>
    "bytes are not a valid " ++ expected.text ++ " message: " ++ fault.message
  | body fault => fault.message
  | heldType expected held => "expected " ++ expected.text ++ ", envelope holds " ++ held.text
  | foundType expected found => "expected " ++ expected.text ++ ", found " ++ found.text
  | nested => "encrypted envelope nested inside an encrypted envelope"
  | identifierMismatch =>
    "encrypted envelope identifier does not match the inner message"

/-- Why a signature is refused. -/
inductive SignatureFault where
  /-- The signature of an encrypted envelope does not verify. -/
  | envelope
  | senderMissing
  | sender
  | entryMissing (attestation : Attestation)
  | entry (attestation : Attestation)
  deriving DecidableEq, Repr

def SignatureFault.message : SignatureFault → String
  | envelope => "encrypted message signature does not verify"
  | senderMissing => "message is not signed by the sender"
  | sender => "sender signature does not verify"
  | entryMissing a => "attestation " ++ a.text ++ " of the primary owner is not signed"
  | entry a => "signature for attestation " ++ a.text ++ " does not verify"

/-- Why no path is looked for. -/
inductive PathFault where
  /-- The text holds no certificate. -/
  | unreadable
  /-- The certificate of this subject is signed by its own key. -/
  | selfSigned (subject : String)
  deriving DecidableEq, Repr

/-- Why a single certificate is refused. -/
inductive CertificateFault where
  | unreadable
  | unreadableBundle
  | notRsa (subject : String)
  | senderMissing
  | entryMissing (attestation : Attestation) (scheme : PkiScheme)
  | evRefused (cause : PathFault)
  | evUntrusted
  | evWithoutPolicy
  deriving DecidableEq, Repr

/-- Why a chain of certificates, or a place in one, is refused. -/
inductive ChainFault where
  | rootNotSelfSigned (subject : String)
  | intermediateSelfSigned (subject : String)
  | unreadableBundle (source : String)
  | emptyBundle (source : String)
  | noRoot (source : String)
  | manyRoots (source : String) (count : Nat)
  | noChains
  | clientSelfSigned (subject : String)
  | unreadableStore (directory : String) (fault : ListingFault)
  | emptyStore (directory : String)
  | unreadableFile (path : String) (fault : FileFault)
  | senderUntrusted
  | entryUntrusted (attestation : Attestation)
  | entryRefused (attestation : Attestation) (cause : PathFault)
  deriving DecidableEq, Repr

/-- What is put before the wording of a certificate's fault. -/
def CertificateFault.heading : String := "invalid certificate: "

/-- What is put before the wording of a chain's fault. -/
def ChainFault.heading : String := "invalid certificate chain: "

/-- The wording for a text that holds no certificate. Here, in `unreadableCertificates` and in
`CertificateFault.notRsa`, a fixed phrase stands for what a decoder itself says. -/
def unreadableCertificate : String := "unparsable PEM: no certificate in PEM form"

/-- The wording for a file that holds no certificates. -/
def unreadableCertificates : String := "unparsable PEM bundle: no certificates in PEM form"

/-- The wording for a certificate in a place where only issued ones may stand. -/
def selfSignedClient (subject : String) : String :=
  "client certificate " ++ subject ++ " is self-signed"

def PathFault.message : PathFault → String
  | unreadable => CertificateFault.heading ++ unreadableCertificate
  | selfSigned subject => ChainFault.heading ++ selfSignedClient subject

def CertificateFault.message : CertificateFault → String
  | unreadable => unreadableCertificate
  | unreadableBundle => unreadableCertificates
  | notRsa subject => subject ++ " does not carry an RSA key: no sound RSA key"
  | senderMissing => "sender has no certificate"
  | entryMissing a scheme =>
    "attestation " ++ a.text ++ " is " ++ scheme.text ++ " but has no certificate"
  | evRefused cause => "sender EV certificate: " ++ cause.message
  | evUntrusted => "sender EV certificate is not rooted in a trusted chain"
  | evWithoutPolicy => "sender EV certificate carries no extended-validation policy"

def ChainFault.message : ChainFault → String
  | rootNotSelfSigned subject => "root certificate " ++ subject ++ " is not self-signed"
  | intermediateSelfSigned subject => "intermediate certificate " ++ subject ++ " is self-signed"
  | unreadableBundle source =>
    source ++ ": " ++ CertificateFault.heading ++ unreadableCertificates
  | emptyBundle source => source ++ ": no certificates found"
  | noRoot source => source ++ ": no self-signed root certificate"
  | manyRoots source count =>
    source ++ ": " ++ toString count ++
      " self-signed certificates, intermediates must not be self-signed"
  | noChains => "at least one trusted chain is required"
  | clientSelfSigned subject => selfSignedClient subject
  | unreadableStore directory (.unopened fault) =>
    "cannot read trust store " ++ directory ++ ": " ++ fault.message
  | unreadableStore _ (.brokenOff fault) => fault.message
  | emptyStore directory => "trust store " ++ directory ++ " contains no certificate chains"
  | unreadableFile path fault => path ++ ": " ++ fault.message
  | senderUntrusted => "sender certificate is not rooted in a trusted chain"
  | entryUntrusted a =>
    "certificate for attestation " ++ a.text ++ " is not rooted in a trusted chain"
  | entryRefused a cause => "certificate for attestation " ++ a.text ++ ": " ++ cause.message

/-- Why the owners of a message are refused. -/
inductive OwnersFault where
  | noPrimary (role : OwnerRole)
  | manyPrimaries (role : OwnerRole) (count : Nat)
  | noEntry (role : OwnerRole) (owner entry : Nat)
  /-- A signature for one statement meets an entry with another. -/
  | otherAttestation (signed held : Attestation)
  deriving DecidableEq, Repr

def OwnersFault.message : OwnersFault → String
  | noPrimary role => "no primary owner in " ++ role.text
  | manyPrimaries role count =>
    "multiple primary owners in " ++ role.text ++ ": found " ++ toString count
  | noEntry role owner entry =>
    "no " ++ role.text ++ " entry at owner " ++ toString owner ++ " attestation " ++
      toString entry
  | otherAttestation signed held =>
    "signature for " ++ signed.text ++ " does not match attestation " ++ held.text

/-- Why a message cannot be encrypted or decrypted. -/
inductive EncryptionFault where
  | senderKeysMissing
  | recipientKeysMissing
  | senderPrivateKeyMissing
  | recipientPrivateKeyMissing
  | sealing (fault : SealingFault)
  deriving DecidableEq, Repr

def EncryptionFault.message : EncryptionFault → String
  | senderKeysMissing => "sender encryption parameters are required to encrypt"
  | recipientKeysMissing => "recipient encryption parameters are required to encrypt"
  | senderPrivateKeyMissing => "sender private key required to encrypt"
  | recipientPrivateKeyMissing => "recipient keys required to decrypt"
  | sealing fault => fault.message

/-- Why a key that a caller gave cannot be used. -/
inductive CredentialFault where
  | senderPrivateKeyMissing
  | entryPrivateKeyMissing (attestation : Attestation)
  | key (fault : KeyFault)
  deriving DecidableEq, Repr

def CredentialFault.message : CredentialFault → String
  | senderPrivateKeyMissing => "sender has no private key"
  | entryPrivateKeyMissing a => "primary attestation " ++ a.text ++ " has no private key"
  | key fault => fault.message

/-- Why something is not possible for a kind of message. -/
inductive UnsupportedFault where
  | noProvider
  | noAddresses (type : MessageType)
  deriving DecidableEq, Repr

def UnsupportedFault.message : UnsupportedFault → String
  | noProvider => "no address information provider configured"
  | noAddresses type => "address information is not available for " ++ type.text

/-- What a provider of address information answers instead. -/
inductive LookupFault where
  | provider (message : String)
  | unauthorized (message : String)
  deriving DecidableEq, Repr

/-- The wording of a provider's answer. -/
def LookupFault.message : LookupFault → String
  | provider message => "address information provider error: " ++ message
  | unauthorized message =>
    "address information provider rejected the credentials: " ++ message

/-- Why an operation fails. -/
inductive Fault where
  | object (cause : ObjectFault)
  | signature (cause : SignatureFault)
  | certificate (cause : CertificateFault)
  | chain (cause : ChainFault)
  | owners (cause : OwnersFault)
  | encryption (cause : EncryptionFault)
  | key (cause : CredentialFault)
  | unsupported (cause : UnsupportedFault)
  | lookup (cause : LookupFault)
  /-- A private key can be read, but there is no signature by it. This is not answered: the operation
  breaks off. -/
  | breakdown
  deriving DecidableEq, Repr

/-- The wording of a fault: what is wrong, and the cause. -/
def Fault.message : Fault → String
  | object cause => "invalid object: " ++ cause.message
  | signature cause => "invalid signature: " ++ cause.message
  | certificate cause => CertificateFault.heading ++ cause.message
  | chain cause => ChainFault.heading ++ cause.message
  | owners cause => "invalid owners: " ++ cause.message
  | encryption cause => "encryption error: " ++ cause.message
  | key cause => "invalid key: " ++ cause.message
  | unsupported cause => "unsupported operation: " ++ cause.message
  | lookup cause => cause.message
  | breakdown => "signature operation failed"

/-- The fault that stops the search for a path, as a fault of the whole operation. -/
def PathFault.toFault : PathFault → Fault
  | unreadable => .certificate .unreadable
  | selfSigned subject => .chain (.clientSelfSigned subject)

end AttestedPayments
