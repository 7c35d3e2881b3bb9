import AttestedPayments.Certificate.AttributeKeys
import AttestedPayments.Der.Primitive
import AttestedPayments.Text.Hex
import AttestedPayments.Text.Utf8

/-!
# Names of certificate holders

* `Attribute` — an identifier with a value; `Name` — a list of groups of attributes.
* `Name.ofElement?`, `Name.toElement` — the DER form. A group is brought into the order of its
  octets when it is read, and equal members are refused.
* `Name.text` — the name on one line: groups in reverse order, with a comma between groups and a
  plus sign between the attributes of a group.
-/

namespace AttestedPayments.Certificate

open Der (Oid Element)

/-- An identifier with a value. -/
structure Attribute where
  oid : Oid
  value : Element
  deriving DecidableEq, Repr

namespace Attribute

def toElement (a : Attribute) : Element := Element.sequence [a.oid.toElement, a.value]

def ofElement? (e : Element) : Option Attribute :=
  match e.elements? with
  | some [oid, value] => (Oid.ofElement? oid).map fun oid => ⟨oid, value⟩
  | _ => none

/-- The octets of an attribute, which decide its place in a group. -/
def octets (a : Attribute) : Bytes := a.toElement.encode

/-- A character that a printable string may hold. -/
def isPrintable (b : UInt8) : Bool :=
  (48 ≤ b && b ≤ 57) || (65 ≤ b && b ≤ 90) || (97 ≤ b && b ≤ 122) ||
    (Utf8.encode " '()+,-./:=?").contains b

/-- The text of a value, if it is valid for its kind of string. -/
def valueText? (value : Element) : Option String :=
  let allowed :=
    if value.tag = Der.Tag.printableString then value.content.all isPrintable
    else if value.tag = Der.Tag.ia5String ∨ value.tag = Der.Tag.teletexString then
      value.content.all fun b => b < 0x80
    else value.tag == Der.Tag.utf8String
  if allowed then (Utf8.decode value.content).toOption else none

/-- The characters that have a backslash before them wherever they stand. -/
def marked : List Char := ['"', '+', ',', ';', '<', '>', '\\']

/-- One character of a value. A blank needs a backslash at both ends of the value, a number sign
at the start. -/
def escape (first last : Bool) (c : Char) : String :=
  if (c = '#' ∧ first) ∨ (c = ' ' ∧ (first ∨ last)) ∨ marked.contains c then
    String.ofList ['\\', c]
  else if c.val < 0x20 ∨ c.val = 0x7f then "\\" ++ Hex.lower [c.val.toUInt8]
  else String.singleton c

/-- The characters of a value, each with the backslash that it needs. -/
def escapeAll (value : String) : String :=
  let chars := value.toList
  String.join (chars.zipIdx.map fun (c, i) => escape (i == 0) (i + 1 == chars.length) c)

/-- Key and value of an attribute; an attribute without a key or with a value that is no text shows
its octets. -/
def text (a : Attribute) : String :=
  match attributeKey? a.oid, valueText? a.value with
  | some key, some value => key ++ "=" ++ escapeAll value
  | _, _ => a.oid.text ++ "=#" ++ Hex.lower a.value.encode

end Attribute

/-- Whether one octet string comes before another or equals it, in lexicographic order. -/
def octetsLe : Bytes → Bytes → Bool
  | [], _ => true
  | _ :: _, [] => false
  | a :: as, b :: bs => a < b || (a == b && octetsLe as bs)

/-- A name: groups of attributes. -/
structure Name where
  groups : List (List Attribute)
  deriving DecidableEq, Repr

namespace Name

/-- The group with its members in the order of their octets, if no two of them are equal. -/
def sortGroup? (group : List Attribute) : Option (List Attribute) :=
  let sorted := group.mergeSort fun a b => octetsLe a.octets b.octets
  if sorted.Nodup then some sorted else none

/-- The group of attributes of an element. -/
def group? (e : Element) : Option (List Attribute) :=
  match e.inside Der.Tag.set with
  | none => none
  | some elements => (elements.mapM Attribute.ofElement?).bind sortGroup?

def ofElement? (e : Element) : Option Name :=
  match e.elements? with
  | none => none
  | some elements => (elements.mapM group?).map Name.mk

/-- The element of a group. -/
def groupElement (group : List Attribute) : Element :=
  ⟨Der.Tag.set, Element.encodeAll (group.map Attribute.toElement)⟩

def toElement (name : Name) : Element := Element.sequence (name.groups.map groupElement)

/-- The name on one line. -/
def text (name : Name) : String :=
  ",".intercalate (name.groups.reverse.map fun group =>
    "+".intercalate (group.map Attribute.text))

end Name

end AttestedPayments.Certificate
