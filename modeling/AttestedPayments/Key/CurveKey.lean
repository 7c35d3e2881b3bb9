import AttestedPayments.Curve.Ecdsa
import AttestedPayments.Key.Container
import AttestedPayments.Key.Fault
import AttestedPayments.Text.Armor
import AttestedPayments.Text.Blank

/-!
# Keys on the curve in files

* `SecretKey` — a scalar between zero and the group order.
* `SecretKey.ofPem`, `SecretKey.toPem` — private keys as armored text.
* `PublicKey.ofPem`, `PublicKey.toPem` — public keys as armored text.
* `PublicKey.ofOctets` — public keys as bare octets.
* `SecretKey.draw?` — a private key from random octets.
-/

namespace AttestedPayments.Curve

open Der (Element BitString)
open Key (Algorithm PublicKeyInfo PrivateKeyInfo)

/-- A public key is a point other than infinity. -/
abbrev PublicKey := Point

/-- A scalar that keys may have. -/
structure SecretKey where
  scalar : Nat
  inRange : 0 < scalar ∧ scalar < groupOrder
  deriving DecidableEq, Repr

/-- The label of an armored public key. -/
def publicLabel : String := "PUBLIC KEY"

/-- The label of a private key's container. -/
def containerLabel : String := "PRIVATE KEY"

/-- The label of a bare private key. -/
def bareLabel : String := "EC PRIVATE KEY"

/-- The public key of bare octets. -/
def PublicKey.ofOctets (octets : Bytes) : Except KeyFault PublicKey :=
  match Point.ofOctets? octets with
  | some key => .ok key
  | none => .error .curvePublic

/-- The public key inside a container. -/
def PublicKey.ofInfo? (info : PublicKeyInfo) : Option PublicKey :=
  if info.algorithm = Algorithm.curve then info.bits.wholeOctets?.bind Point.ofOctets? else none

/-- The container of a public key. -/
def PublicKey.toInfo (key : PublicKey) : PublicKeyInfo :=
  ⟨Algorithm.curve, BitString.whole key.uncompressed⟩

/-- A public key from armored text. -/
def PublicKey.ofPem (pem : String) : Except KeyFault PublicKey :=
  let contained := do
    let der ← Armor.decode publicLabel (Utf8.encode (trim pem))
    let e ← Element.readOne der
    let info ← PublicKeyInfo.ofElement? e
    PublicKey.ofInfo? info
  match contained with
  | some key => .ok key
  | none => .error .curvePublic

/-- A public key as armored text. -/
def PublicKey.toPem (key : PublicKey) : String :=
  Armor.encode publicLabel (PublicKey.toInfo key).toElement.encode

namespace SecretKey

/-- The scalar, if keys may have it. -/
def ofScalar? (n : Nat) : Option SecretKey :=
  if h : 0 < n ∧ n < groupOrder then some ⟨n, h⟩ else none

/-- The public key. -/
def toPublic (key : SecretKey) : PublicKey := Point.mul key.scalar generator

/-- The fewest octets that a bare private key may have. -/
def minOctets : Nat := 24

/-- The scalar of 24 to 32 octets. -/
def ofScalarOctets? (octets : Bytes) : Option SecretKey :=
  if minOctets ≤ octets.length ∧ octets.length ≤ 32 then ofScalar? (BigEndian.value octets)
  else none

/-- Whether the field with the curve is absent or names some curve. -/
def parametersAllowed (field : Option Element) : Bool :=
  match field with
  | none => true
  | some e => ((e.unwrapField 0).bind Der.Oid.ofElement?).isSome

/-- Whether the field with the public key is absent or fits the private key. -/
def publicKeyAllowed (key : SecretKey) (field : Option Element) : Bool :=
  match field with
  | none => true
  | some e =>
    match ((e.unwrapField 1).bind BitString.ofElement?).bind BitString.wholeOctets? with
    | none => false
    | some octets => octets == key.toPublic.uncompressed || octets == key.toPublic.compressed

/-- A bare private key. -/
def ofOctets? (octets : Bytes) : Option SecretKey :=
  match Element.readSequence octets with
  | some (version :: scalar :: fields) =>
    let (parameters, fields) := Element.contextField 0 fields
    let (publicKey, fields) := Element.contextField 1 fields
    match version.natural?, scalar.octets?.bind ofScalarOctets? with
    | some 1, some key =>
      if fields = [] ∧ parametersAllowed parameters ∧ publicKeyAllowed key publicKey then some key
      else none
    | _, _ => none
  | _ => none

/-- The octets of a bare private key, with its public key. -/
def toOctets (key : SecretKey) : Bytes :=
  let publicKey := (BitString.whole key.toPublic.uncompressed).toElement
  (Element.sequence [Element.small 1, Element.ofOctets (BigEndian.digits 32 key.scalar),
    ⟨Der.Tag.field 1, publicKey.encode⟩]).encode

/-- A private key inside a container. -/
def ofInfo? (info : PrivateKeyInfo) : Option SecretKey :=
  if info.algorithm = Algorithm.curve then ofOctets? info.octets else none

/-- A private key from armored text, in a container or bare. -/
def ofPem (pem : String) : Except KeyFault SecretKey :=
  let octets := Utf8.encode (trim pem)
  let contained := do
    let der ← Armor.decode containerLabel octets
    let e ← Element.readOne der
    let info ← PrivateKeyInfo.ofElement? e
    ofInfo? info
  match contained with
  | some key => .ok key
  | none =>
    match (Armor.decode bareLabel octets).bind ofOctets? with
    | some key => .ok key
    | none => .error .curvePrivate

/-- A private key as armored text, in a container. -/
def toPem (key : SecretKey) : String :=
  Armor.encode containerLabel (PrivateKeyInfo.mk Algorithm.curve key.toOctets).toElement.encode

/-- The `i`-th block of thirty-two octets of a source that starts again when it is used up. -/
def entropyBlock (entropy : Bytes) (i : Nat) : Bytes :=
  (List.range 32).map fun j => entropy.getD ((32 * i + j) % entropy.length) 0

/-- The first block of a source whose number is a scalar that keys may have. There are no more
different blocks than octets. -/
def draw? (entropy : Bytes) : Option SecretKey :=
  (List.range entropy.length).findSome? fun i =>
    ofScalar? (BigEndian.value (entropyBlock entropy i))

end SecretKey

/-- A key pair as armored text. -/
structure KeyPair where
  privatePem : String
  publicPem : String
  deriving DecidableEq, Repr

/-- The key pair of a private key. -/
def KeyPair.ofSecret (key : SecretKey) : KeyPair := ⟨key.toPem, PublicKey.toPem key.toPublic⟩

end AttestedPayments.Curve
