/-!
# Why a key cannot be used

* `KeyFault` — which kind of key a text should have held.
* `KeyFault.message` — the wording, less what a decoder itself says about the octets.
-/

namespace AttestedPayments

/-- Which kind of key a text should have held. -/
inductive KeyFault where
  | rsaPrivate
  | curvePrivate
  | curvePublic
  deriving DecidableEq, Repr

/-- The wording. The decoders' own texts, one for each form that was tried, are left out: only the forms
are named. -/
def KeyFault.message : KeyFault → String
  | rsaPrivate => "invalid RSA private key PEM: not PKCS#8 nor PKCS#1"
  | curvePrivate => "invalid EC private key PEM: not PKCS#8 nor SEC1"
  | curvePublic => "invalid EC public key: not a point of secp256k1"

end AttestedPayments
