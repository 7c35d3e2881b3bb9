import AttestedPayments.Bytes

/-!
# Elements of DER

* `Element` — a tag and the octets of a value.
* `Element.encode` — tag, length in its shortest form, value.
* `Element.readAll` — octets as elements, with nothing left over; lengths must be in their
  shortest form.
* `Element.contextField`, `Element.nextField` — an optional numbered field among the rest of a
  sequence, with smaller ones skipped or not.
-/

namespace AttestedPayments.Der

/-- A tag and the octets of a value. -/
structure Element where
  tag : UInt8
  content : Bytes
  deriving DecidableEq, Repr

namespace Tag

def boolean : UInt8 := 0x01

def integer : UInt8 := 0x02

def bitString : UInt8 := 0x03

def octetString : UInt8 := 0x04

/-- The tag of the value that is none. -/
def null : UInt8 := 0x05

def objectIdentifier : UInt8 := 0x06

def utf8String : UInt8 := 0x0c

def printableString : UInt8 := 0x13

def teletexString : UInt8 := 0x14

def ia5String : UInt8 := 0x16

def utcTime : UInt8 := 0x17

def generalizedTime : UInt8 := 0x18

def sequence : UInt8 := 0x30

def set : UInt8 := 0x31

/-- The tag of the numbered field `n` whose value is an element or elements. -/
def field (n : UInt8) : UInt8 := 0xa0 + n

/-- The tag of the numbered field `n` whose value is plain octets. -/
def plainField (n : UInt8) : UInt8 := 0x80 + n

/-- Tags that an element may have: the universal ones in use, and numbers up to thirty of the
other classes. -/
def isKnown (tag : UInt8) : Bool :=
  if tag < 0x40 then
    [0x01, 0x02, 0x03, 0x04, 0x05, 0x06, 0x09, 0x0a, 0x0c, 0x12, 0x13, 0x14, 0x15, 0x16, 0x17,
      0x18, 0x1a, 0x1b, 0x1e, 0x30, 0x31].contains tag
  else tag &&& 0x1f != 0x1f

/-- A numbered field of a sequence. -/
def isField (tag : UInt8) : Bool := 0x80 ≤ tag && tag < 0xc0

/-- The number of a numbered field. -/
def number (tag : UInt8) : UInt8 := tag &&& 0x1f

end Tag

/-- A length in its shortest form. -/
def lengthOctets (n : Nat) : Bytes :=
  if n < 128 then [UInt8.ofNat n]
  else
    let digits := BigEndian.minimal n
    UInt8.ofNat (128 + digits.length) :: digits

/-- A length in its shortest form at the front, and what follows. Lengths of `2 ^ 28` and more are
not read. -/
def readLength : Bytes → Option (Nat × Bytes)
  | [] => none
  | first :: rest =>
    if first < 0x80 then some (first.toNat, rest)
    else
      let count := first.toNat - 128
      let n := BigEndian.value (rest.take count)
      if n < 0x10000000 ∧ lengthOctets n = first :: rest.take count then some (n, rest.drop count)
      else none

theorem length_readLength {octets rest : Bytes} {n : Nat} (h : readLength octets = some (n, rest)) :
    rest.length < octets.length := by
  unfold readLength at h
  split at h
  · cases h
  · split at h
    · simp only [Option.some.injEq, Prod.mk.injEq] at h
      simp [← h.2]
    · simp only at h
      split at h
      · simp only [Option.some.injEq, Prod.mk.injEq] at h
        simp only [← h.2, List.length_drop, List.length_cons]
        omega
      · cases h

namespace Element

/-- The octets of an element. -/
def encode (e : Element) : Bytes := e.tag :: lengthOctets e.content.length ++ e.content

/-- The octets of elements one after the other. -/
def encodeAll (elements : List Element) : Bytes := elements.flatMap encode

/-- The element at the front, and what follows. -/
def read : Bytes → Option (Element × Bytes)
  | [] => none
  | tag :: rest =>
    if Tag.isKnown tag then
      match readLength rest with
      | none => none
      | some (n, rest) =>
        if n ≤ rest.length then some (⟨tag, rest.take n⟩, rest.drop n) else none
    else none

theorem length_read {octets rest : Bytes} {e : Element} (h : read octets = some (e, rest)) :
    rest.length < octets.length := by
  unfold read at h
  split at h
  · cases h
  · split at h
    · split at h
      · cases h
      · rename_i hl
        split at h
        · simp only [Option.some.injEq, Prod.mk.injEq] at h
          have := length_readLength hl
          simp only [← h.2, List.length_drop, List.length_cons]
          omega
        · cases h
    · cases h

/-- All octets as elements. -/
def readAll (octets : Bytes) : Option (List Element) :=
  if octets = [] then some []
  else
    match _h : read octets with
    | none => none
    | some (e, rest) => (readAll rest).map (e :: ·)
termination_by octets.length
decreasing_by exact length_read _h

/-- All octets as one element. -/
def readOne (octets : Bytes) : Option Element :=
  match read octets with
  | some (e, []) => some e
  | _ => none

/-- The elements inside an element that has a given tag. -/
def inside (tag : UInt8) (e : Element) : Option (List Element) :=
  if e.tag = tag then readAll e.content else none

/-- A sequence of elements. -/
def sequence (elements : List Element) : Element := ⟨Tag.sequence, encodeAll elements⟩

/-- The elements of a sequence. -/
def elements? (e : Element) : Option (List Element) := e.inside Tag.sequence

/-- The elements of a sequence that is written alone. -/
def readSequence (octets : Bytes) : Option (List Element) :=
  match readOne octets with
  | none => none
  | some e => e.elements?

/-- The numbered field `n` if it comes next, and what follows it. Fields with a smaller number are
skipped; a greater number or any other tag means that the field is absent. -/
def contextField (n : UInt8) : List Element → Option Element × List Element
  | [] => (none, [])
  | e :: rest =>
    if Tag.isField e.tag ∧ Tag.number e.tag ≤ n then
      if Tag.number e.tag = n then (some e, rest) else contextField n rest
    else (none, e :: rest)

/-- The numbered field `n` if it comes next, and what follows it, with no other field skipped. -/
def nextField (n : UInt8) : List Element → Option Element × List Element
  | [] => (none, [])
  | e :: rest =>
    if Tag.isField e.tag ∧ Tag.number e.tag = n then (some e, rest) else (none, e :: rest)

/-- The single element inside the numbered field `n`. -/
def unwrapField (n : UInt8) (e : Element) : Option Element :=
  match e.inside (Tag.field n) with
  | some [inner] => some inner
  | _ => none

end Element

end AttestedPayments.Der
