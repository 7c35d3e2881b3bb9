import AttestedPayments.Certificate.Policy
import AttestedPayments.Key.RsaKey

/-!
# Who signed a certificate

* `Certificate.rsaKey?` — the RSA key of the holder.
* `Certificate.isSignedBy` — whether the key of one certificate verifies the signature of another.
* `Certificate.isIssuedBy`, `Certificate.isSelfSigned` — names and signature together.
* `Certificate.isValidAt` — whether a time lies in the period of validity.
-/

namespace AttestedPayments.Certificate

open Der (Oid)

/-- The RSA key of the holder. -/
def rsaKey? (c : Certificate) : Option Rsa.PublicKey := Rsa.PublicKey.ofInfo? c.body.keyInfo

/-- The hash function of a signature algorithm. -/
def digestKind? (oid : Oid) : Option Rsa.DigestKind :=
  if oid = Oid.ofArcs [1, 2, 840, 113549, 1, 1, 11] then some .sha256
  else if oid = Oid.ofArcs [1, 2, 840, 113549, 1, 1, 12] then some .sha384
  else if oid = Oid.ofArcs [1, 2, 840, 113549, 1, 1, 13] then some .sha512
  else none

/-- Whether the key of `issuer` verifies the signature over the body of `c`. -/
def isSignedBy (c issuer : Certificate) : Bool :=
  match issuer.rsaKey?, digestKind? c.algorithm.oid, c.signature.wholeOctets? with
  | some key, some kind, some signature =>
    Rsa.verify kind key c.body.toElement.encode signature
  | _, _, _ => false

/-- Whether `issuer` is named as the issuer of `c` and signed it. -/
def isIssuedBy (c issuer : Certificate) : Bool :=
  c.body.issuer == issuer.body.subject && c.isSignedBy issuer

/-- Whether holder and issuer are the same by name and by key. -/
def isSelfSigned (c : Certificate) : Bool := c.isIssuedBy c

/-- Whether a time, in seconds since the start of 1970, lies in the period of validity, whose two
ends belong to it. -/
def isValidAt (c : Certificate) (seconds : Nat) : Bool :=
  c.body.notBefore.seconds ≤ seconds && seconds ≤ c.body.notAfter.seconds

end AttestedPayments.Certificate
