/-!
# White space around a text

* `isBlank` — the characters with the Unicode property White_Space.
* `trim` — a text without the white space at its two ends.
-/

namespace AttestedPayments

/-- A character with the Unicode property White_Space. -/
def isBlank (c : Char) : Bool :=
  (9 ≤ c.val && c.val ≤ 13) || c.val == 0x20 || c.val == 0x85 || c.val == 0xA0 ||
    c.val == 0x1680 || (0x2000 ≤ c.val && c.val ≤ 0x200A) || c.val == 0x2028 ||
    c.val == 0x2029 || c.val == 0x202F || c.val == 0x205F || c.val == 0x3000

/-- Characters without the white space at the end. -/
def trimEnd (chars : List Char) : List Char := (chars.reverse.dropWhile isBlank).reverse

/-- A text without the white space at its two ends. -/
def trim (text : String) : String := String.ofList (trimEnd (text.toList.dropWhile isBlank))

end AttestedPayments
