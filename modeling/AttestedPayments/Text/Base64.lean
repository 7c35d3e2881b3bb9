import AttestedPayments.Bytes

/-!
# Base64

* `Base64.encode` — four symbols for three octets, filled up with `=` at the end.
* `Base64.decode` — reads only what `encode` writes: the filling must be there, and the bits that
  a last group leaves over must be zero.
* `Base64.length?`, `Base64.readable` — how many octets symbols stand for, judged by their number
  and the last group alone, and those of them that come before the first fault.
-/

namespace AttestedPayments.Base64

/-- The symbol of a value below sixty-four. -/
def symbol (n : Nat) : UInt8 :=
  if n < 26 then UInt8.ofNat (65 + n)
  else if n < 52 then UInt8.ofNat (97 + (n - 26))
  else if n < 62 then UInt8.ofNat (48 + (n - 52))
  else if n = 62 then 43
  else 47

/-- The value of a symbol. -/
def value? (c : UInt8) : Option Nat :=
  if 65 ≤ c ∧ c ≤ 90 then some (c.toNat - 65)
  else if 97 ≤ c ∧ c ≤ 122 then some (c.toNat - 97 + 26)
  else if 48 ≤ c ∧ c ≤ 57 then some (c.toNat - 48 + 52)
  else if c = 43 then some 62
  else if c = 47 then some 63
  else none

/-- The octet that fills up a last group. -/
def filler : UInt8 := 61

/-- Four symbols for three octets, filled up at the end. -/
def encode : Bytes → Bytes
  | a :: b :: c :: rest =>
    let n := 65536 * a.toNat + 256 * b.toNat + c.toNat
    symbol (n / 262144) :: symbol (n / 4096 % 64) :: symbol (n / 64 % 64) :: symbol (n % 64)
      :: encode rest
  | [a, b] =>
    let n := 1024 * a.toNat + 4 * b.toNat
    [symbol (n / 4096), symbol (n / 64 % 64), symbol (n % 64), filler]
  | [a] =>
    let n := 16 * a.toNat
    [symbol (n / 64), symbol (n % 64), filler, filler]
  | [] => []

/-- Three octets from four symbols. -/
def decodeGroup (a b c d : UInt8) : Option Bytes :=
  match value? a, value? b, value? c, value? d with
  | some a, some b, some c, some d =>
    let n := 262144 * a + 4096 * b + 64 * c + d
    some [UInt8.ofNat (n / 65536), UInt8.ofNat (n / 256), UInt8.ofNat n]
  | _, _, _, _ => none

/-- One to three octets from the last four symbols. -/
def decodeLast (a b c d : UInt8) : Option Bytes :=
  if d ≠ filler then decodeGroup a b c d
  else if c ≠ filler then
    match value? a, value? b, value? c with
    | some a, some b, some c =>
      let n := 4096 * a + 64 * b + c
      if n % 4 = 0 then some [UInt8.ofNat (n / 1024), UInt8.ofNat (n / 4)] else none
    | _, _, _ => none
  else
    match value? a, value? b with
    | some a, some b =>
      let n := 64 * a + b
      if n % 16 = 0 then some [UInt8.ofNat (n / 16)] else none
    | _, _ => none

/-- Read what `encode` writes. -/
def decode : Bytes → Option Bytes
  | [] => some []
  | [a, b, c, d] => decodeLast a b c d
  | a :: b :: c :: d :: rest =>
    match decodeGroup a b c d with
    | none => none
    | some group => (decode rest).map (group ++ ·)
  | _ => none

/-- How many octets symbols stand for, if the last group of four can be read. -/
def length? (symbols : Bytes) : Option Nat :=
  if symbols.length % 4 = 0 then
    (decode (symbols.drop (symbols.length - 4))).map fun last =>
      symbols.length / 4 * 3 - 3 + last.length
  else none

/-- The octets of the groups before the first one that cannot be read. -/
def readable : Bytes → Bytes
  | [a, b, c, d] => (decodeLast a b c d).getD []
  | a :: b :: c :: d :: rest =>
    match decodeGroup a b c d with
    | none => []
    | some group => group ++ readable rest
  | _ => []

end AttestedPayments.Base64
