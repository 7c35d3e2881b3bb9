import AttestedPayments.Key.Container
import AttestedPayments.Key.Fault
import AttestedPayments.Rsa.Signature
import AttestedPayments.Text.Armor
import AttestedPayments.Text.Blank

/-!
# RSA keys in files

* `PublicKey.isSound`, `PrivateKey.isSound` — the numbers that are accepted as a key.
* `PublicKey.ofInfo?` — the key inside a certificate.
* `PrivateKey.ofPem` — a private key from armored text of either form in use.
-/

namespace AttestedPayments.Rsa

open Der (Element)
open Key (Algorithm PublicKeyInfo PrivateKeyInfo)

/-- The greatest exponent that verifies. -/
def maxExponent : Nat := 0x1ffffffff

/-- The greatest size of a modulus in bits, for keys in certificates. -/
def maxModulusBits : Nat := 4096

/-- An odd modulus, and a smaller odd exponent of at least three that is not too great. -/
def PublicKey.isSound (key : PublicKey) : Bool :=
  key.modulus % 2 = 1 && key.exponent % 2 = 1 && key.exponent < key.modulus &&
    3 ≤ key.exponent && key.exponent ≤ maxExponent

/-- Sound public numbers, whose modulus is the product of the factors and whose exponents undo
each other for both factors. -/
def PrivateKey.isSound (key : PrivateKey) : Bool :=
  key.toPublic.isSound && 1 < key.firstFactor && 1 < key.secondFactor &&
    key.firstFactor * key.secondFactor = key.modulus && 0 < key.secretExponent &&
    (key.secretExponent * key.exponent - 1) % (key.firstFactor - 1) = 0 &&
    (key.secretExponent * key.exponent - 1) % (key.secondFactor - 1) = 0

/-- The public key that a certificate carries. -/
def PublicKey.ofInfo? (info : PublicKeyInfo) : Option PublicKey :=
  if info.algorithm = Algorithm.rsa then
    match (info.bits.wholeOctets?.bind Element.readSequence) with
    | some [modulus, exponent] =>
      match modulus.natural?, exponent.natural? with
      | some modulus, some exponent =>
        let key : PublicKey := ⟨modulus, exponent⟩
        if modulus.log2 < maxModulusBits ∧ key.isSound then some key else none
      | _, _ => none
    | _ => none
  else none

/-- A private key from nine integers, of which the first is the version and the last three are not
used. -/
def PrivateKey.ofOctets? (octets : Bytes) : Option PrivateKey :=
  match Element.readSequence octets with
  | none => none
  | some elements =>
    match elements.mapM Element.natural? with
    | some [0, modulus, exponent, secretExponent, firstFactor, secondFactor, _, _, _] =>
      let key : PrivateKey := ⟨modulus, exponent, secretExponent, firstFactor, secondFactor⟩
      if key.isSound then some key else none
    | _ => none

/-- A private key inside a container. -/
def PrivateKey.ofInfo? (info : PrivateKeyInfo) : Option PrivateKey :=
  if info.algorithm = Algorithm.rsa then ofOctets? info.octets else none

/-- The label of a private key's container. -/
def containerLabel : String := "PRIVATE KEY"

/-- The label of a bare private key. -/
def bareLabel : String := "RSA PRIVATE KEY"

/-- A private key from armored text, in a container or bare. -/
def PrivateKey.ofPem (pem : String) : Except KeyFault PrivateKey :=
  let octets := Utf8.encode (trim pem)
  let contained := do
    let der ← Armor.decode containerLabel octets
    let e ← Element.readOne der
    let info ← PrivateKeyInfo.ofElement? e
    ofInfo? info
  match contained with
  | some key => .ok key
  | none =>
    match (Armor.decode bareLabel octets).bind ofOctets? with
    | some key => .ok key
    | none => .error .rsaPrivate

end AttestedPayments.Rsa
