import AttestedPayments.Fault
import AttestedPayments.Wire.Body

/-!
# Envelopes

* `PlainEnvelope` — a body with status and identifier.
* `EncryptedEnvelope` — an encrypted plain envelope, with both public keys, a signature, and a
  status of its own. `EncryptedEnvelope.signedOctets` — what the signature covers.
* `Envelope` — either of them; `Envelope.encode`, `Envelope.decode` — their layout.
* `Metadata` — what an envelope says about its message; `Envelope.metadata` — without opening it.
* `changeStatus` — another status, and nothing else changed.
-/

namespace AttestedPayments

/-- A body with status and identifier. -/
structure PlainEnvelope where
  version : UInt32
  statusCode : StatusCode
  statusMessage : String
  messageType : MessageType
  serializedMessage : Bytes
  identifier : Bytes
  deriving DecidableEq, Repr

/-- An encrypted plain envelope. The nonce is the time of its creation in microseconds. -/
structure EncryptedEnvelope where
  payload : String
  senderPublicKeyPem : String
  recipientPublicKeyPem : String
  signature : Bytes
  identifier : Bytes
  statusCode : StatusCode
  statusMessage : String
  nonce : Int64
  deriving DecidableEq

/-- Either kind of envelope. -/
inductive Envelope where
  | plain (envelope : PlainEnvelope)
  | encrypted (envelope : EncryptedEnvelope)
  deriving DecidableEq

namespace Wire

open Codec

/-- The layout of a plain envelope. -/
def plainEnvelope : Codec PlainEnvelope :=
  (pair uint32 (pair statusCode (pair text (pair messageType (pair octets octets))))).via
    (fun e => (e.version, e.statusCode, e.statusMessage, e.messageType, e.serializedMessage,
      e.identifier))
    (fun (version, statusCode, statusMessage, messageType, serializedMessage, identifier) =>
      ⟨version, statusCode, statusMessage, messageType, serializedMessage, identifier⟩)

/-- The layout of an encrypted envelope. -/
def encryptedEnvelope : Codec EncryptedEnvelope :=
  (pair text (pair text (pair text (pair octets (pair octets (pair statusCode
    (pair text int64))))))).via
    (fun e => (e.payload, e.senderPublicKeyPem, e.recipientPublicKeyPem, e.signature,
      e.identifier, e.statusCode, e.statusMessage, e.nonce))
    (fun (payload, senderPublicKeyPem, recipientPublicKeyPem, signature, identifier, statusCode,
        statusMessage, nonce) =>
      ⟨payload, senderPublicKeyPem, recipientPublicKeyPem, signature, identifier, statusCode,
        statusMessage, nonce⟩)

/-- The layout of an envelope: the number of its kind, then the envelope. -/
def envelope : Codec Envelope where
  encode
    | .plain e => uint32.encode 0 ++ plainEnvelope.encode e
    | .encrypted e => uint32.encode 1 ++ encryptedEnvelope.encode e
  decode octets :=
    match uint32.decode octets with
    | .error fault => .error fault
    | .ok (n, rest) =>
      if n = 0 then
        match plainEnvelope.decode rest with
        | .error fault => .error fault
        | .ok (e, rest) => .ok (.plain e, rest)
      else if n = 1 then
        match encryptedEnvelope.decode rest with
        | .error fault => .error fault
        | .ok (e, rest) => .ok (.encrypted e, rest)
      else .error (.badVariant n 2)

/-- The layout of the fields that the signature of an encrypted envelope covers. -/
def signedFields : Codec (String × String × String × Bytes × Int64) :=
  pair text (pair text (pair text (pair octets int64)))

end Wire

/-- What the signature of an encrypted envelope covers: the payload, both keys, the identifier and
the nonce. The status is left out, so that a recipient can answer with another one. -/
def EncryptedEnvelope.signedOctets (e : EncryptedEnvelope) : Bytes :=
  Wire.signedFields.encode
    (e.payload, e.senderPublicKeyPem, e.recipientPublicKeyPem, e.identifier, e.nonce)

namespace Envelope

/-- An envelope as octets. -/
def encode (e : Envelope) : Bytes := Wire.envelope.encode e

/-- The envelope that is written by octets; the expected kind of its body goes into the fault. -/
def decode (expected : MessageType) (octets : Bytes) : Except Fault Envelope :=
  match Wire.envelope.decodeAll octets with
  | .error fault => .error (.object (.badEnvelope expected fault))
  | .ok e => .ok e

end Envelope

/-- What only an encrypted envelope has. -/
structure EncryptionRecord where
  payload : String
  senderPublicKeyPem : String
  recipientPublicKeyPem : String
  signature : Bytes
  nonce : Int64
  deriving DecidableEq

/-- What an envelope says about its message. -/
structure Metadata where
  version : UInt32
  statusCode : StatusCode
  statusMessage : String
  messageType : MessageType
  identifier : Bytes
  encryption : Option EncryptionRecord
  deriving DecidableEq

/-- What a plain envelope says. -/
def PlainEnvelope.metadata (e : PlainEnvelope) : Metadata :=
  ⟨e.version, e.statusCode, e.statusMessage, e.messageType, e.identifier, none⟩

/-- What an encrypted envelope says without being opened: its version counts as zero and the kind of
its body as unknown. -/
def EncryptedEnvelope.metadata (e : EncryptedEnvelope) : Metadata :=
  ⟨0, e.statusCode, e.statusMessage, .unknown, e.identifier,
    some ⟨e.payload, e.senderPublicKeyPem, e.recipientPublicKeyPem, e.signature, e.nonce⟩⟩

namespace Envelope

/-- What an envelope says without being opened. -/
def metadata : Envelope → Metadata
  | plain e => e.metadata
  | encrypted e => e.metadata

/-- The envelope with another status. -/
def withStatus (code : StatusCode) (message : String) : Envelope → Envelope
  | plain e => plain { e with statusCode := code, statusMessage := message }
  | encrypted e => encrypted { e with statusCode := code, statusMessage := message }

end Envelope

/-- What the octets of an envelope say about its message. -/
def readMetadata (octets : Bytes) : Except Fault Metadata := do
  let e ← Envelope.decode .unknown octets
  .ok e.metadata

/-- The octets of an envelope with another status. -/
def changeStatus (octets : Bytes) (code : StatusCode) (message : String) : Except Fault Bytes := do
  let e ← Envelope.decode .unknown octets
  .ok (e.withStatus code message).encode

end AttestedPayments
