import AttestedPayments.Bytes
import AttestedPayments.Text.Quoted

/-!
# Hexadecimal text

* `Hex.lower`, `Hex.upper` — two digits per octet, in one case throughout.
* `Hex.decode` — reads both cases; an odd count of digits is found before a bad digit, and of
  several bad digits the first one is named.

Text is read as its UTF-8 octets, so a fault's position counts octets.
-/

namespace AttestedPayments.Hex

/-- Why a text is not hexadecimal. -/
inductive Fault where
  /-- The count of digits is odd. -/
  | oddLength
  /-- The octet at this position is no digit. -/
  | badDigit (octet : UInt8) (position : Nat)
  deriving DecidableEq, Repr

def Fault.message : Fault → String
  | oddLength => "Odd number of digits"
  | badDigit octet position =>
    "Invalid character " ++ Quoted.octet octet ++ " at position " ++ toString position

/-- The digit for a value below sixteen, with ten written as `ten`. -/
def digit (ten : UInt8) (n : UInt8) : UInt8 := if n < 10 then 48 + n else ten + (n - 10)

/-- Two digits per octet, as ASCII octets. -/
def digits (ten : UInt8) (bytes : Bytes) : Bytes :=
  bytes.flatMap fun b => [digit ten (b / 16), digit ten (b % 16)]

/-- Two lower-case digits per octet. -/
def lower (bytes : Bytes) : String := characters (digits 97 bytes)

/-- Two upper-case digits per octet. -/
def upper (bytes : Bytes) : String := characters (digits 65 bytes)

/-- The value of a digit of either case. -/
def value? (octet : UInt8) : Option UInt8 :=
  if 48 ≤ octet ∧ octet ≤ 57 then some (octet - 48)
  else if 97 ≤ octet ∧ octet ≤ 102 then some (octet - 87)
  else if 65 ≤ octet ∧ octet ≤ 70 then some (octet - 55)
  else none

/-- Read pairs of digits; `position` is the place of the first octet given. -/
def decodePairs (position : Nat) : Bytes → Except Fault Bytes
  | hi :: lo :: rest =>
    match value? hi, value? lo with
    | none, _ => .error (.badDigit hi position)
    | some _, none => .error (.badDigit lo (position + 1))
    | some h, some l =>
      match decodePairs (position + 2) rest with
      | .error f => .error f
      | .ok bytes => .ok ((16 * h + l) :: bytes)
  | _ => .ok []

/-- Read hexadecimal digits of either case. -/
def decode (octets : Bytes) : Except Fault Bytes :=
  if octets.length % 2 = 1 then .error .oddLength else decodePairs 0 octets

/-- Read hexadecimal text of either case. -/
def decodeText (text : String) : Except Fault Bytes := decode text.toUTF8.data.toList

theorem value?_digit (n : UInt8) (h : n < 16) :
    value? (digit 97 n) = some n ∧ value? (digit 65 n) = some n := by
  have key : ∀ m : Fin 16, value? (digit 97 (UInt8.ofNat m)) = some (UInt8.ofNat m) ∧
      value? (digit 65 (UInt8.ofNat m)) = some (UInt8.ofNat m) := by decide
  have := key ⟨n.toNat, UInt8.lt_iff_toNat_lt.mp h⟩
  simpa using this

end AttestedPayments.Hex
