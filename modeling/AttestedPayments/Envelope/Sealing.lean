import AttestedPayments.Cipher.Chaining
import AttestedPayments.Hash.Sha512
import AttestedPayments.Key.CurveKey
import AttestedPayments.Text.Hex

/-!
# Sealed payloads

A payload is encrypted under keys that the sender's private key and the recipient's public key
share. As text it has three segments of upper-case hexadecimal digits: the sender's public key, a
keyed digest, and the encrypted octets.

* `SharedKeys` — the two keys that both sides derive from the product of their keys.
* `encrypt` — the payload for a message.
* `Segments.ofPayload`, `Segments.open` — the segments of a payload, and their message.
* `encryptWithPems`, `decryptWithPems` — the same with keys as armored text.
-/

namespace AttestedPayments

open Curve (SecretKey PublicKey)

/-- A segment of a payload. -/
inductive PayloadSegment where
  | publicKey
  | mac
  | ciphertext
  deriving DecidableEq, Repr

/-- The name of a segment. -/
def PayloadSegment.text : PayloadSegment → String
  | publicKey => "public key segment"
  | mac => "mac segment"
  | ciphertext => "ciphertext segment"

/-- Why a message cannot be sealed or a payload cannot be unsealed. -/
inductive SealingFault where
  | key (fault : KeyFault)
  /-- The payload has a character outside ASCII. -/
  | notAscii
  /-- The payload has this many characters, which is too few. -/
  | tooShort (length : Nat)
  | segment (which : PayloadSegment) (fault : Hex.Fault)
  /-- The public key inside the payload cannot be read. -/
  | embeddedKey (fault : KeyFault)
  | macInvalid
  /-- The encrypted octets are no whole blocks, or do not end in a filling. -/
  | unpad
  deriving DecidableEq, Repr

namespace Sealing

/-- The octets of a public key in a payload. -/
def publicKeyLength : Nat := 65

/-- The octets of the keyed digest. -/
def macLength : Nat := 20

/-- Where the digits of the public key end. -/
def publicKeyEnd : Nat := 2 * publicKeyLength

/-- Where the digits of the keyed digest end. -/
def macEnd : Nat := publicKeyEnd + 2 * macLength

/-- The octets of each of the two shared keys. -/
def keyLength : Nat := 32

end Sealing

def SealingFault.message : SealingFault → String
  | key fault => "invalid key: " ++ fault.message
  | notAscii => "malformed ciphertext: payload is not hex"
  | tooShort length =>
    "malformed ciphertext: payload is " ++ toString length ++ " hex chars, need at least " ++
      toString Sealing.macEnd
  | segment which fault => "malformed ciphertext: " ++ which.text ++ ": " ++ fault.message
  | embeddedKey fault => "malformed ciphertext: " ++ fault.message
  | macInvalid => "Mac invalid"
  | unpad => "cipher failure: Unpad Error"

/-- The keys that two sides share. -/
structure SharedKeys where
  cipherKey : Bytes
  macKey : Bytes
  deriving DecidableEq, Repr

/-- The shared keys: the digest of the first coordinate of the product, cut in two. -/
def SharedKeys.derive (secret : SecretKey) (peer : PublicKey) : SharedKeys :=
  let digest := Hash.Sha512.digest (BigEndian.digits 32 (Curve.Point.mul secret.scalar peer).x)
  ⟨digest.take Sealing.keyLength, digest.drop Sealing.keyLength⟩

namespace Sealing

/-- The keyed digest of a payload: over the first chaining block, the octets of the sender's public
key, and the encrypted octets. -/
def mac (keys : SharedKeys) (senderKey encrypted : Bytes) : Bytes :=
  Hash.hmacSha1 keys.macKey (Cipher.zeroBlock ++ senderKey ++ encrypted)

/-- The payload for a message. -/
def encrypt (recipient sender : PublicKey) (secret : SecretKey) (message : Bytes) : String :=
  let keys := SharedKeys.derive secret recipient
  let encrypted := Cipher.encrypt keys.cipherKey message
  let senderKey := sender.uncompressed
  Hex.upper (senderKey ++ mac keys senderKey encrypted ++ encrypted)

/-- The three segments of a payload as octets. -/
structure Segments where
  publicKey : Bytes
  mac : Bytes
  ciphertext : Bytes
  deriving DecidableEq, Repr

/-- Read one segment. -/
def readSegment (which : PayloadSegment) (digits : Bytes) : Except SealingFault Bytes :=
  match Hex.decode digits with
  | .error fault => .error (.segment which fault)
  | .ok octets => .ok octets

/-- Cut a payload into its segments. -/
def Segments.ofPayload (payload : String) : Except SealingFault Segments := do
  let digits := Utf8.encode payload
  if digits.any (0x80 ≤ ·) then .error .notAscii
  else if digits.length < macEnd then .error (.tooShort digits.length)
  else
    let publicKey ← readSegment .publicKey (digits.take publicKeyEnd)
    let mac ← readSegment .mac ((digits.drop publicKeyEnd).take (2 * macLength))
    let ciphertext ← readSegment .ciphertext (digits.drop macEnd)
    match PublicKey.ofOctets publicKey with
    | .error fault => .error (.embeddedKey fault)
    | .ok _ => .ok ⟨publicKey, mac, ciphertext⟩

/-- The message of segments. -/
def Segments.open (segments : Segments) (keys : SharedKeys) : Except SealingFault Bytes :=
  if segments.mac ≠ Sealing.mac keys segments.publicKey segments.ciphertext then
    .error .macInvalid
  else
    match Cipher.decrypt? keys.cipherKey segments.ciphertext with
    | none => .error .unpad
    | some message => .ok message

/-- The result of reading a key, with its fault as a fault of sealing. -/
def withKey {α : Type} : Except KeyFault α → Except SealingFault α
  | .error fault => .error (.key fault)
  | .ok key => .ok key

/-- The payload for a message, with keys as armored text, read in the order in which they are
given. -/
def encryptWithPems (message : Bytes) (recipientPem senderPem secretPem : String) :
    Except SealingFault String := do
  let recipient ← withKey (PublicKey.ofPem recipientPem)
  let sender ← withKey (PublicKey.ofPem senderPem)
  let secret ← withKey (SecretKey.ofPem secretPem)
  .ok (encrypt recipient sender secret message)

/-- The message of a payload, with keys as armored text. The keys are derived from the sender's key
that is given; the one inside the payload is only covered by the keyed digest. -/
def decryptWithPems (payload secretPem senderPem : String) : Except SealingFault Bytes := do
  let segments ← Segments.ofPayload payload
  let secret ← withKey (SecretKey.ofPem secretPem)
  let sender ← withKey (PublicKey.ofPem senderPem)
  segments.open (SharedKeys.derive secret sender)

end Sealing

end AttestedPayments
