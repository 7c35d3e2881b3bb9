import AttestedPayments.Text.Quoted

/-!
# JSON

* `Json` — values with whole numbers; the fields of an object are a list of pairs.
* `Json.pretty` — a value on several lines: two blanks for each level, the fields of an object in
  the order of their names, nothing between the brackets of an empty array or object.
-/

namespace AttestedPayments

/-- A JSON value. -/
inductive Json where
  | null
  | bool (b : Bool)
  | number (n : Int)
  | text (s : String)
  | array (items : List Json)
  | object (fields : List (String × Json))
  deriving Repr

namespace Json

/-- One character inside a quoted text. -/
def character (c : Char) : String :=
  if c = '"' then "\\\""
  else if c = '\\' then "\\\\"
  else if c = '\x08' then "\\b"
  else if c = '\x0c' then "\\f"
  else if c = '\n' then "\\n"
  else if c = '\r' then "\\r"
  else if c = '\t' then "\\t"
  else if c.val < 0x20 then
    "\\u00" ++ (if c.val < 0x10 then "0" else "1") ++ Quoted.hexNumber (c.toNat % 16)
  else String.singleton c

/-- A quoted text. -/
def quoted (s : String) : String := "\"" ++ String.join (s.toList.map character) ++ "\""

/-- The start of a line at a level. -/
def newLine (level : Nat) : String := "\n" ++ String.ofList (List.replicate (2 * level) ' ')

/-- Parts between brackets, each on a line of its own. -/
def bracketed (level : Nat) (first last : String) (parts : List String) : String :=
  if parts.isEmpty then first ++ last
  else
    first ++ newLine (level + 1) ++ ("," ++ newLine (level + 1)).intercalate parts ++
      newLine level ++ last

/-- The text of a number. -/
def numberText (n : Int) : String :=
  if n < 0 then "-" ++ toString n.natAbs else toString n.natAbs

/-- Named parts in the order of their names. -/
def sortParts (parts : List (String × String)) : List (String × String) :=
  parts.mergeSort fun a b => a.1 ≤ b.1

mutual

/-- A value that starts at a level. -/
def prettyAt (level : Nat) : Json → String
  | null => "null"
  | bool b => if b then "true" else "false"
  | number n => numberText n
  | text s => quoted s
  | array items => bracketed level "[" "]" (prettyItems (level + 1) items)
  | object fields =>
    bracketed level "\x7b" "\x7d" ((sortParts (prettyFields (level + 1) fields)).map fun part =>
      quoted part.1 ++ ": " ++ part.2)

/-- The members of an array. -/
def prettyItems (level : Nat) : List Json → List String
  | [] => []
  | item :: rest => prettyAt level item :: prettyItems level rest

/-- The fields of an object. -/
def prettyFields (level : Nat) : List (String × Json) → List (String × String)
  | [] => []
  | (name, value) :: rest => (name, prettyAt level value) :: prettyFields level rest

end

/-- A value on several lines. -/
def pretty (value : Json) : String := prettyAt 0 value

end Json

end AttestedPayments
