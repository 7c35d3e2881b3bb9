import AttestedPayments.Der.Element

/-!
# Object identifiers

* `Oid` — an identifier, held by its octets, of which there are 3 to 39.
* `Oid.ofOctets?` — the octets that are accepted: the first one below 120, every later number in
  at most five octets, a fifth octet below sixteen.
* `Oid.arcs`, `Oid.text` — the numbers, and the numbers joined by dots. Each number is kept
  modulo `2 ^ 32`.
* `Oid.ofArcs` — the identifier with given numbers, in the shortest writing.
-/

namespace AttestedPayments.Der

/-- An object identifier. -/
structure Oid where
  octets : Bytes
  deriving DecidableEq, Repr

namespace Oid

/-- Whether numbers in groups of seven bits end where the octets end; `place` counts the octets of
the number that is being read. -/
def groupsEnd (place : Nat) : Bytes → Bool
  | [] => place == 0
  | b :: rest =>
    if place = 4 then b < 0x10 && groupsEnd 0 rest
    else groupsEnd (if b < 0x80 then 0 else place + 1) rest

/-- The identifier with these octets. -/
def ofOctets? (octets : Bytes) : Option Oid :=
  if 3 ≤ octets.length ∧ octets.length ≤ 39 ∧ octets.headD 0 < 120 ∧
      groupsEnd 0 (octets.drop 1) then
    some ⟨octets⟩
  else none

/-- The numbers written in groups of seven bits, after a number read so far. -/
def groups (sofar : Nat) : Bytes → List Nat
  | [] => []
  | b :: rest =>
    let n := (128 * sofar + b.toNat % 128) % 0x100000000
    if b < 0x80 then n :: groups 0 rest else groups n rest

/-- The numbers of an identifier; the first two share an octet. -/
def arcs (oid : Oid) : List Nat :=
  match oid.octets with
  | [] => []
  | first :: rest => first.toNat / 40 :: first.toNat % 40 :: groups 0 rest

/-- The numbers joined by dots. -/
def text (oid : Oid) : String := ".".intercalate (oid.arcs.map toString)

/-- The last octet of a number, with the octets of its higher groups before it. -/
def groupOctets (n : Nat) : Bytes :=
  let rec higher (n : Nat) (after : Bytes) : Bytes :=
    if n = 0 then after else higher (n / 128) (UInt8.ofNat (128 + n % 128) :: after)
  higher (n / 128) [UInt8.ofNat (n % 128)]

/-- The identifier with the given numbers. -/
def ofArcs : List Nat → Oid
  | first :: second :: rest => ⟨UInt8.ofNat (40 * first + second) :: rest.flatMap groupOctets⟩
  | _ => ⟨[]⟩

def toElement (oid : Oid) : Element := ⟨Tag.objectIdentifier, oid.octets⟩

def ofElement? (e : Element) : Option Oid :=
  if e.tag = Tag.objectIdentifier then ofOctets? e.content else none

end Oid

end AttestedPayments.Der
