import AttestedPayments.Der.Primitive

/-!
# What keys of every family are packed in

* `Algorithm` — the identifier of an algorithm with its parameters.
* `PublicKeyInfo` — an algorithm and the bits of a public key.
* `PrivateKeyInfo` — an algorithm and the octets of a private key; attributes are ignored.
-/

namespace AttestedPayments.Key

open Der (Oid Element BitString)

/-- The identifier of RSA keys. -/
def rsaEncryption : Oid := Oid.ofArcs [1, 2, 840, 113549, 1, 1, 1]

/-- The identifier of keys on elliptic curves. -/
def curveKey : Oid := Oid.ofArcs [1, 2, 840, 10045, 2, 1]

/-- The identifier of the curve secp256k1. -/
def secp256k1 : Oid := Oid.ofArcs [1, 3, 132, 0, 10]

/-- An algorithm with its parameters. -/
structure Algorithm where
  oid : Oid
  parameters : Option Element
  deriving DecidableEq, Repr

namespace Algorithm

def toElement (a : Algorithm) : Element :=
  Element.sequence (a.oid.toElement :: a.parameters.toList)

def ofElement? (e : Element) : Option Algorithm :=
  match e.elements? with
  | some [oid] => (Oid.ofElement? oid).map fun oid => ⟨oid, none⟩
  | some [oid, parameters] => (Oid.ofElement? oid).map fun oid => ⟨oid, some parameters⟩
  | _ => none

/-- RSA, whose parameters say that there are none. -/
def rsa : Algorithm := ⟨rsaEncryption, some Element.null⟩

/-- The curve secp256k1. -/
def curve : Algorithm := ⟨curveKey, some secp256k1.toElement⟩

end Algorithm

/-- An algorithm and the bits of a public key. -/
structure PublicKeyInfo where
  algorithm : Algorithm
  bits : BitString
  deriving DecidableEq, Repr

namespace PublicKeyInfo

def toElement (info : PublicKeyInfo) : Element :=
  Element.sequence [info.algorithm.toElement, info.bits.toElement]

def ofElement? (e : Element) : Option PublicKeyInfo :=
  match e.elements? with
  | some [algorithm, bits] =>
    match Algorithm.ofElement? algorithm, BitString.ofElement? bits with
    | some algorithm, some bits => some ⟨algorithm, bits⟩
    | _, _ => none
  | _ => none

end PublicKeyInfo

/-- An algorithm and the octets of a private key. -/
structure PrivateKeyInfo where
  algorithm : Algorithm
  octets : Bytes
  deriving DecidableEq, Repr

namespace PrivateKeyInfo

def toElement (info : PrivateKeyInfo) : Element :=
  Element.sequence [Element.small 0, info.algorithm.toElement, Element.ofOctets info.octets]

/-- Whether a public key may stand in the numbered field 1: as plain octets of a bit string without
unused bits. -/
def isPublicKeyField (e : Element) : Bool :=
  e.tag == Der.Tag.plainField 1 &&
    ((BitString.ofContent? e.content).bind BitString.wholeOctets?).isSome

/-- An attribute field: a numbered field around a single element. -/
def isAttributeField (e : Element) : Bool :=
  Der.Tag.isField e.tag && (e.unwrapField (Der.Tag.number e.tag)).isSome

/-- Whether the fields after the key are in order: the public key is there in version 1 and not in
version 0, and the fields after it are well formed. -/
def fieldsAllowed (version : Nat) (fields : List Element) : Bool :=
  let (publicKey, rest) := Element.contextField 1 fields
  (match publicKey with
    | none => version == 0
    | some e => version == 1 && isPublicKeyField e) &&
  rest.all isAttributeField

def ofElement? (e : Element) : Option PrivateKeyInfo :=
  match e.elements? with
  | some (version :: algorithm :: octets :: fields) =>
    match version.natural?, Algorithm.ofElement? algorithm, octets.octets? with
    | some version, some algorithm, some octets =>
      if fieldsAllowed version fields then some ⟨algorithm, octets⟩ else none
    | _, _, _ => none
  | _ => none

end PrivateKeyInfo

end AttestedPayments.Key
