import AttestedPayments.Hash.Sha256
import AttestedPayments.Text.Hex
import AttestedPayments.Wire.Body

/-!
# What is signed

A signature covers a digest of a body in which some signatures are blank. The signed text is the
hexadecimal digest, not the digest itself.

* `sha256Text` — a digest as lower-case hexadecimal text.
* `MessageBody.attestationDigest` — what owners sign: the body without any signature. Owners of an
  acknowledgement have signed the payment in it.
* `MessageBody.senderDigest` — what the sender signs: the body without the sender's signature.
-/

namespace AttestedPayments

/-- A digest as lower-case hexadecimal text. -/
def sha256Text (octets : Bytes) : String := Hex.lower (Hash.Sha256.digest octets)

namespace MessageBody

/-- The body without any signature. -/
def unsigned (body : MessageBody) : MessageBody :=
  (body.withSenderSignature "").withoutOwnerSignatures

/-- What owners sign. -/
def attestationDigest : MessageBody → String
  | paymentAck b => sha256Text (payment b.payment).unsigned.encode
  | body => sha256Text body.unsigned.encode

/-- What the sender signs. -/
def senderDigest (body : MessageBody) : String :=
  sha256Text (body.withSenderSignature "").encode

end MessageBody

end AttestedPayments
