import AttestedPayments.Message.Vocabulary
import AttestedPayments.Text.Utf8

/-!
# The layout of values as octets

* `WireFault` — why octets are not a value.
* `Codec` — a writing function and a reading function that takes a value off the front.
* Codecs of numbers, truth values, texts, octets and lists, and combinators for pairs, for values
  that another type stands for, and for values that only some others stand for.
* `Codec.decodeAll` — a value that must use up all octets.

Numbers have a fixed width, least significant octet first. A text or a list starts with its count
in eight octets.
-/

namespace AttestedPayments

/-- Why octets are not a value. -/
inductive WireFault where
  /-- The octets end inside a number, a truth value or a list. -/
  | unexpectedEnd
  /-- A text is longer than what is left. -/
  | textOverrun
  | badText (fault : Utf8.Fault)
  | badBool (octet : UInt8)
  /-- A number that none of `count` variants has. -/
  | badVariant (number : UInt32) (count : Nat)
  | unknown (what : Unknown)
  /-- Octets are left over after the value. -/
  | trailing
  deriving DecidableEq, Repr

def WireFault.message : WireFault → String
  | unexpectedEnd => "io error: unexpected end of file"
  | textOverrun => "io error: "
  | badText fault => "string is not valid utf8: " ++ fault.message
  | badBool octet =>
    "invalid u8 while decoding bool, expected 0 or 1, found " ++ toString octet.toNat
  | badVariant number count =>
    "invalid value: integer \x60" ++ toString number.toNat ++
      "\x60, expected variant index 0 <= i < " ++ toString count
  | unknown what => what.message
  | trailing => "Slice had bytes remaining after deserialization"

/-- A writing function, and a reading function that takes a value off the front. -/
structure Codec (α : Type) where
  encode : α → Bytes
  decode : Bytes → Except WireFault (α × Bytes)

namespace Codec

variable {α β : Type}

/-- Numbers in `width` octets. -/
def number (width : Nat) : Codec Nat where
  encode n := LittleEndian.digits width n
  decode octets :=
    if (octets.take width).length < width then .error .unexpectedEnd
    else .ok (LittleEndian.value (octets.take width), octets.drop width)

/-- Values that stand for those of another codec one to one. -/
def via (c : Codec α) (toBase : β → α) (ofBase : α → β) : Codec β where
  encode b := c.encode (toBase b)
  decode octets :=
    match c.decode octets with
    | .error fault => .error fault
    | .ok (a, rest) => .ok (ofBase a, rest)

/-- Values that stand for some of those of another codec. -/
def refine (c : Codec α) (toBase : β → α) (ofBase : α → Except WireFault β) : Codec β where
  encode b := c.encode (toBase b)
  decode octets :=
    match c.decode octets with
    | .error fault => .error fault
    | .ok (a, rest) =>
      match ofBase a with
      | .error fault => .error fault
      | .ok b => .ok (b, rest)

/-- A value after another. -/
def pair (c : Codec α) (d : Codec β) : Codec (α × β) where
  encode p := c.encode p.1 ++ d.encode p.2
  decode octets :=
    match c.decode octets with
    | .error fault => .error fault
    | .ok (a, rest) =>
      match d.decode rest with
      | .error fault => .error fault
      | .ok (b, rest) => .ok ((a, b), rest)

def uint32 : Codec UInt32 := (number 4).via UInt32.toNat UInt32.ofNat

def uint64 : Codec UInt64 := (number 8).via UInt64.toNat UInt64.ofNat

/-- Signed numbers of eight octets, in two's complement. -/
def int64 : Codec Int64 := uint64.via Int64.toUInt64 UInt64.toInt64

def octet : Codec UInt8 := (number 1).via UInt8.toNat UInt8.ofNat

/-- Truth values, zero or one. -/
def bool : Codec Bool :=
  octet.refine (fun b => if b then 1 else 0) fun b =>
    if b = 0 then .ok false else if b = 1 then .ok true else .error (.badBool b)

/-- Counts of what follows. -/
def count : Codec Nat := number 8

/-- Texts in UTF-8 after the count of their octets. -/
def text : Codec String where
  encode s :=
    let octets := Utf8.encode s
    count.encode octets.length ++ octets
  decode octets :=
    match count.decode octets with
    | .error fault => .error fault
    | .ok (n, rest) =>
      if (rest.take n).length < n then .error .textOverrun
      else
        match Utf8.decode (rest.take n) with
        | .error fault => .error (.badText fault)
        | .ok s => .ok (s, rest.drop n)

/-- Octets after their count. -/
def octets : Codec Bytes where
  encode bytes := count.encode bytes.length ++ bytes
  decode octets :=
    match count.decode octets with
    | .error fault => .error fault
    | .ok (n, rest) =>
      if (rest.take n).length < n then .error .unexpectedEnd
      else .ok (rest.take n, rest.drop n)

/-- Read `n` values. -/
def decodeMany (c : Codec α) : Nat → Bytes → Except WireFault (List α × Bytes)
  | 0, octets => .ok ([], octets)
  | n + 1, octets =>
    match c.decode octets with
    | .error fault => .error fault
    | .ok (a, rest) =>
      match decodeMany c n rest with
      | .error fault => .error fault
      | .ok (as, rest) => .ok (a :: as, rest)

/-- Lists after the count of their members. -/
def list (c : Codec α) : Codec (List α) where
  encode as := count.encode as.length ++ as.flatMap c.encode
  decode octets :=
    match count.decode octets with
    | .error fault => .error fault
    | .ok (n, rest) => decodeMany c n rest

/-- A value that uses up all octets. -/
def decodeAll (c : Codec α) (octets : Bytes) : Except WireFault α :=
  match c.decode octets with
  | .error fault => .error fault
  | .ok (a, []) => .ok a
  | .ok (_, _ :: _) => .error .trailing

/-- The error of an unknown name or number as a fault of the layout. -/
def known : Except Unknown α → Except WireFault α
  | .error what => .error (.unknown what)
  | .ok a => .ok a

end Codec

end AttestedPayments
