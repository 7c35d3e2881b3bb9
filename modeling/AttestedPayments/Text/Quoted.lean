import AttestedPayments.Text.Visible

/-!
# Quoted text

* `Quoted.text` — a text between double quotes.
* `Quoted.octet` — an octet, read as the character of that number, between single quotes.

A backslash, the quote in use, and the characters NUL, tab, line feed and carriage return have
an escape of two characters. Any other character that is not visible is written by its number.
-/

namespace AttestedPayments.Quoted

/-- The lower-case hexadecimal writing of a number, without leading zeros. -/
def hexNumber (n : Nat) : String := String.ofList (Nat.toDigits 16 n)

/-- One character of a text that stands between the quotes `mark`. -/
def character (mark c : Char) : String :=
  if c = mark ∨ c = '\\' then String.ofList ['\\', c]
  else if c = '\x00' then "\\0"
  else if c = '\t' then "\\t"
  else if c = '\n' then "\\n"
  else if c = '\r' then "\\r"
  else if isVisible c then String.singleton c
  else "\\u\x7b" ++ hexNumber c.toNat ++ "\x7d"

/-- A text between double quotes. -/
def text (s : String) : String := "\"" ++ String.join (s.toList.map (character '"')) ++ "\""

/-- An octet between single quotes, as the character of that number. -/
def octet (b : UInt8) : String := "'" ++ character '\'' (Char.ofNat b.toNat) ++ "'"

end AttestedPayments.Quoted
