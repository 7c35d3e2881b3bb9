import AttestedPayments.Der.Oid

/-!
# Plain values in DER

* `boolean?`, `natural?`, `integerOctets?`, `bits?`, `octets?` — the value of an element of one
  kind. Each value has one writing only.
* `BitString` — octets and the count of unused bits at their end.
-/

namespace AttestedPayments.Der

namespace Element

/-- A truth value. -/
def boolean? (e : Element) : Option Bool :=
  if e.tag ≠ Tag.boolean then none
  else if e.content = [0] then some false
  else if e.content = [0xff] then some true
  else none

/-- The shortest two's-complement octets of an integer. -/
def integerOctets? (e : Element) : Option Bytes :=
  if e.tag ≠ Tag.integer then none
  else
    match e.content with
    | [] => none
    | [b] => some [b]
    | first :: second :: rest =>
      if (first = 0 ∧ second < 0x80) ∨ (first = 0xff ∧ 0x80 ≤ second) then none
      else some (first :: second :: rest)

/-- A number that is not negative. -/
def natural? (e : Element) : Option Nat :=
  match e.integerOctets? with
  | some octets => if octets.headD 0 < 0x80 then some (BigEndian.value octets) else none
  | none => none

/-- The octets of an octet string. -/
def octets? (e : Element) : Option Bytes :=
  if e.tag = Tag.octetString then some e.content else none

/-- An element that says that there is no value. -/
def null : Element := ⟨Tag.null, []⟩

/-- The element of a small number. -/
def small (n : UInt8) : Element := ⟨Tag.integer, [n]⟩

/-- The element of octets. -/
def ofOctets (octets : Bytes) : Element := ⟨Tag.octetString, octets⟩

end Element

/-- Octets whose last bits may be unused. -/
structure BitString where
  unused : UInt8
  octets : Bytes
  deriving DecidableEq, Repr

namespace BitString

/-- Octets of which every bit is used. -/
def whole (octets : Bytes) : BitString := ⟨0, octets⟩

/-- The octets, if every bit is used. -/
def wholeOctets? (bits : BitString) : Option Bytes :=
  if bits.unused = 0 then some bits.octets else none

/-- The content octets of an element. -/
def content (bits : BitString) : Bytes := bits.unused :: bits.octets

/-- A bit string from content octets: at most seven unused bits, and none where there are no
octets. -/
def ofContent? : Bytes → Option BitString
  | [] => none
  | unused :: octets =>
    if unused ≤ 7 ∧ (octets = [] → unused = 0) then some ⟨unused, octets⟩ else none

def toElement (bits : BitString) : Element := ⟨Tag.bitString, bits.content⟩

def ofElement? (e : Element) : Option BitString :=
  if e.tag = Tag.bitString then ofContent? e.content else none

end BitString

end AttestedPayments.Der
