import AttestedPayments.Clock
import AttestedPayments.Envelope.Basic
import AttestedPayments.Hash.Sha256
import AttestedPayments.Message.Parties

/-!
# Putting bodies into envelopes and taking them out

* `enclose` — a body in an envelope, which is encrypted if the keys of both sides are given.
* `openMessage` — body and metadata of an envelope of any kind. The signature of an encrypted
  envelope is checked before anything is decrypted.
* `openKind` — the same for a body of one kind.
-/

namespace AttestedPayments

open Curve (SecretKey PublicKey)

/-- The version of new envelopes. -/
def protocolVersion : UInt32 := 1

/-- The identifier of a message without one of its own: the digest of body and moment. -/
def derivedIdentifier (clock : Clock) (body : Bytes) : Bytes :=
  Hash.Sha256.digest (body ++ clock.octets)

/-- The plain envelope of a body. -/
def PlainEnvelope.ofBody (clock : Clock) (body : MessageBody) (settings : Settings) :
    PlainEnvelope :=
  let octets := body.encode
  { version := protocolVersion
    statusCode := settings.statusCode
    statusMessage := settings.statusMessage
    messageType := body.messageType
    serializedMessage := octets
    identifier := settings.identifier.getD (derivedIdentifier clock octets) }

/-- The result of sealing as a result of the whole operation. -/
def liftSealing {α : Type} : Except SealingFault α → Except Fault α
  | .error fault => .error (.encryption (.sealing fault))
  | .ok a => .ok a

/-- The result of reading a key as a result of the whole operation. -/
def liftKey {α : Type} : Except KeyFault α → Except Fault α
  | .error fault => .error (.key (.key fault))
  | .ok a => .ok a

/-- A plain envelope encrypted to the recipient and signed with the sender's key. -/
def PlainEnvelope.encrypt (clock : Clock) (e : PlainEnvelope) (sender recipient : EncryptionKeys) :
    Except Fault EncryptedEnvelope :=
  match sender.privateKeyPem with
  | none => .error (.encryption .senderPrivateKeyMissing)
  | some secretPem => do
    let payload ← liftSealing (Sealing.encryptWithPems (Envelope.plain e).encode
      recipient.publicKeyPem sender.publicKeyPem secretPem)
    let secret ← liftKey (SecretKey.ofPem secretPem)
    let unsigned : EncryptedEnvelope :=
      { payload := payload
        senderPublicKeyPem := sender.publicKeyPem
        recipientPublicKeyPem := recipient.publicKeyPem
        signature := []
        identifier := e.identifier
        statusCode := e.statusCode
        statusMessage := e.statusMessage
        nonce := clock.nonce }
    .ok { unsigned with
      signature := (Curve.sign secret.scalar unsigned.signedOctets).toDer }

/-- The octets of an envelope around a body. -/
def enclose (clock : Clock) (body : MessageBody) (settings : Settings)
    (sender recipient : Option EncryptionKeys) : Except Fault Bytes :=
  let e := PlainEnvelope.ofBody clock body settings
  match sender, recipient with
  | some sender, some recipient => do
    let e ← e.encrypt clock sender recipient
    .ok (Envelope.encrypted e).encode
  | _, _ => .ok (Envelope.plain e).encode

/-- A body together with what its envelope says. -/
structure OpenedMessage where
  body : MessageBody
  metadata : Metadata
  deriving DecidableEq

/-- Check the signature of an encrypted envelope. -/
def EncryptedEnvelope.checkSignature (e : EncryptedEnvelope) : Except Fault Unit := do
  let key ← liftKey (PublicKey.ofPem e.senderPublicKeyPem)
  match Curve.Signature.ofDer? e.signature with
  | none => .error (.signature .envelope)
  | some signature =>
    if Curve.verify key e.signedOctets signature then .ok ()
    else .error (.signature .envelope)

/-- The body of a plain envelope. -/
def PlainEnvelope.body (e : PlainEnvelope) : Except Fault MessageBody :=
  match MessageBody.decode e.messageType e.serializedMessage with
  | .error fault => .error (.object (.body fault))
  | .ok body => .ok body

/-- The plain envelope inside an encrypted one. Its identifier must be the one outside. -/
def EncryptedEnvelope.decrypt (e : EncryptedEnvelope) (expected : MessageType)
    (recipient : Option EncryptionKeys) : Except Fault PlainEnvelope := do
  e.checkSignature
  match recipient.bind EncryptionKeys.privateKeyPem with
  | none => .error (.encryption .recipientPrivateKeyMissing)
  | some secretPem =>
    let octets ← liftSealing (Sealing.decryptWithPems e.payload secretPem e.senderPublicKeyPem)
    match ← Envelope.decode expected octets with
    | .encrypted _ => .error (.object .nested)
    | .plain inner =>
      if inner.identifier = e.identifier then .ok inner
      else .error (.object .identifierMismatch)

/-- Body and metadata of an envelope; the expected kind of the body only goes into faults. -/
def openExpecting (octets : Bytes) (expected : MessageType) (recipient : Option EncryptionKeys) :
    Except Fault OpenedMessage := do
  match ← Envelope.decode expected octets with
  | .plain e =>
    let body ← e.body
    .ok ⟨body, e.metadata⟩
  | .encrypted e =>
    let inner ← e.decrypt expected recipient
    let body ← inner.body
    .ok ⟨body, { e.metadata with version := inner.version, messageType := inner.messageType }⟩

/-- Body and metadata of an envelope with a body of any kind. -/
def openMessage (octets : Bytes) (recipient : Option EncryptionKeys) : Except Fault OpenedMessage :=
  openExpecting octets .unknown recipient

/-- Body and metadata of an envelope whose body must be of the expected kind. -/
def openKind (octets : Bytes) (expected : MessageType) (recipient : Option EncryptionKeys) :
    Except Fault OpenedMessage := do
  let opened ← openExpecting octets expected recipient
  if opened.body.messageType = expected then .ok opened
  else .error (.object (.heldType expected opened.body.messageType))

end AttestedPayments
