import AttestedPayments.Certificate.Name
import AttestedPayments.Der.Time
import AttestedPayments.Key.Container
import AttestedPayments.Text.Armor
import AttestedPayments.Text.Blank

/-!
# Certificates

* `Certificate.Body` — what a certificate says; `Certificate` — the body with a signature over it.
* `Body.toElement` — the one writing of a body, which signatures are checked over.
* `Certificate.read?`, `Certificate.ofPem?` — certificates from DER and from armored text.
* `Certificate.ofBundle?` — all certificates of a file, in order.
-/

namespace AttestedPayments.Certificate

open Der (Oid Element BitString Time)
open Key (Algorithm PublicKeyInfo)

/-- An extension: an identifier, whether it must be understood, and the octets of its value. -/
structure Extension where
  oid : Oid
  critical : Bool
  value : Bytes
  deriving DecidableEq, Repr

namespace Extension

/-- The element of an extension; one that need not be understood does not say so. -/
def toElement (x : Extension) : Element :=
  Element.sequence (x.oid.toElement ::
    ((if x.critical then [⟨Der.Tag.boolean, [0xff]⟩] else []) ++ [Element.ofOctets x.value]))

def ofElement? (e : Element) : Option Extension :=
  match e.elements? with
  | some [oid, value] =>
    match Oid.ofElement? oid, value.octets? with
    | some oid, some value => some ⟨oid, false, value⟩
    | _, _ => none
  | some [oid, critical, value] =>
    match Oid.ofElement? oid, critical.boolean?, value.octets? with
    | some oid, some critical, some value => some ⟨oid, critical, value⟩
    | _, _, _ => none
  | _ => none

end Extension

/-- What a certificate says. -/
structure Body where
  version : Nat
  serial : Bytes
  algorithm : Algorithm
  issuer : Name
  notBefore : Time
  notAfter : Time
  subject : Name
  keyInfo : PublicKeyInfo
  issuerId : Option BitString
  subjectId : Option BitString
  extensions : Option (List Extension)
  deriving DecidableEq, Repr

namespace Body

/-- The numbered field `n` around an element. -/
def inField (n : UInt8) (e : Element) : Element := ⟨Der.Tag.field n, e.encode⟩

/-- The numbered field `n` that holds the content of a bit string. -/
def idField (n : UInt8) (bits : BitString) : Element := ⟨Der.Tag.plainField n, bits.content⟩

/-- The elements of a body in order. Version zero is left out. -/
def elements (body : Body) : List Element :=
  (if body.version = 0 then [] else [inField 0 (Element.small (UInt8.ofNat body.version))]) ++
    [⟨Der.Tag.integer, body.serial⟩, body.algorithm.toElement, body.issuer.toElement,
      Element.sequence [body.notBefore.element, body.notAfter.element], body.subject.toElement,
      body.keyInfo.toElement] ++
    (body.issuerId.map (idField 1)).toList ++ (body.subjectId.map (idField 2)).toList ++
    (body.extensions.map fun list =>
      inField 3 (Element.sequence (list.map Extension.toElement))).toList

/-- The one writing of a body. -/
def toElement (body : Body) : Element := Element.sequence body.elements

/-- The version in its field: zero if the field is absent, two at most. -/
def version? (field : Option Element) : Option Nat :=
  match field with
  | none => some 0
  | some e =>
    match (e.unwrapField 0).bind Element.natural? with
    | some n => if n ≤ 2 then some n else none
    | none => none

/-- The most octets of a serial number. -/
def maxSerialOctets : Nat := 21

/-- The octets of a serial number, which may be negative. -/
def serial? (e : Element) : Option Bytes :=
  match e.integerOctets? with
  | some octets => if octets.length ≤ maxSerialOctets then some octets else none
  | none => none

/-- The start and the end of a period. -/
def period? (e : Element) : Option (Time × Time) :=
  match e.elements? with
  | some [start, stop] =>
    match Time.ofElement? start, Time.ofElement? stop with
    | some start, some stop => some (start, stop)
    | _, _ => none
  | _ => none

/-- The optional bit string in the numbered field `n`. -/
def id? (n : UInt8) (field : Option Element) : Option (Option BitString) :=
  match field with
  | none => some none
  | some e =>
    if e.tag = Der.Tag.plainField n then (BitString.ofContent? e.content).map some else none

/-- The optional extensions in their field. -/
def extensions? (field : Option Element) : Option (Option (List Extension)) :=
  match field with
  | none => some none
  | some e =>
    match (e.unwrapField 3).bind Element.elements? with
    | none => none
    | some elements => (elements.mapM Extension.ofElement?).map some

/-- The body with the given elements. -/
def ofElements? (elements : List Element) : Option Body :=
  let (versionField, elements) := Element.nextField 0 elements
  match elements with
  | serial :: algorithm :: issuer :: period :: subject :: keyInfo :: rest => do
    let (issuerField, rest) := Element.nextField 1 rest
    let (subjectField, rest) := Element.nextField 2 rest
    let (extensionField, rest) := Element.nextField 3 rest
    if rest ≠ [] then none
    else
      let version ← version? versionField
      let serial ← serial? serial
      let algorithm ← Algorithm.ofElement? algorithm
      let issuer ← Name.ofElement? issuer
      let (notBefore, notAfter) ← period? period
      let subject ← Name.ofElement? subject
      let keyInfo ← PublicKeyInfo.ofElement? keyInfo
      let issuerId ← id? 1 issuerField
      let subjectId ← id? 2 subjectField
      let extensions ← extensions? extensionField
      some ⟨version, serial, algorithm, issuer, notBefore, notAfter, subject, keyInfo, issuerId,
        subjectId, extensions⟩
  | _ => none

def ofElement? (e : Element) : Option Body := e.elements?.bind ofElements?

end Body

end AttestedPayments.Certificate

namespace AttestedPayments

open Der (Element BitString)
open Key (Algorithm)

/-- A body with a signature over it. -/
structure Certificate where
  body : Certificate.Body
  algorithm : Key.Algorithm
  signature : Der.BitString
  deriving DecidableEq, Repr

namespace Certificate

def subject (c : Certificate) : String := c.body.subject.text

def issuer (c : Certificate) : String := c.body.issuer.text

def ofElement? (e : Element) : Option Certificate :=
  match e.elements? with
  | some [body, algorithm, signature] =>
    match Body.ofElement? body, Algorithm.ofElement? algorithm, BitString.ofElement? signature with
    | some body, some algorithm, some signature => some ⟨body, algorithm, signature⟩
    | _, _, _ => none
  | _ => none

/-- The certificate at the front of octets, and what follows. -/
def read? (octets : Bytes) : Option (Certificate × Bytes) :=
  match Element.read octets with
  | none => none
  | some (e, rest) => (ofElement? e).map fun c => (c, rest)

/-- The label of armored certificates. -/
def label : String := "CERTIFICATE"

/-- The certificate in the armored text of a file or a piece of it; octets that follow the
certificate inside the armor are passed over. -/
def ofArmored? (octets : Bytes) : Option Certificate := Armor.decodeRuns read? label octets

/-- The certificate in an armored text that may have white space around it. -/
def ofPem? (pem : String) : Option Certificate := ofArmored? (Utf8.encode (trim pem))

/-- All certificates of a file, in order. -/
def ofBundle? (file : Bytes) : Option (List Certificate) :=
  match Armor.pieces label file with
  | none => none
  | some pieces => pieces.mapM ofArmored?

end Certificate

end AttestedPayments
