import AttestedPayments.Bytes

/-!
# The block cipher AES with keys of thirty-two octets

* `substitute`, `shiftRows`, `mixColumns` — the three steps of a round, on sixteen octets column
  by column, and their inverses.
* `roundKeys` — the fifteen keys that a key expands to.
* `encryptBlock`, `decryptBlock` — one block of sixteen octets.
-/

namespace AttestedPayments.Cipher.Aes

/-- The substitution of octets: the upper half of an octet finds the row, the lower half the column. -/
def substitution : Array (Array UInt8) :=
  #[#[0x63, 0x7c, 0x77, 0x7b, 0xf2, 0x6b, 0x6f, 0xc5,
      0x30, 0x01, 0x67, 0x2b, 0xfe, 0xd7, 0xab, 0x76],
    #[0xca, 0x82, 0xc9, 0x7d, 0xfa, 0x59, 0x47, 0xf0,
      0xad, 0xd4, 0xa2, 0xaf, 0x9c, 0xa4, 0x72, 0xc0],
    #[0xb7, 0xfd, 0x93, 0x26, 0x36, 0x3f, 0xf7, 0xcc,
      0x34, 0xa5, 0xe5, 0xf1, 0x71, 0xd8, 0x31, 0x15],
    #[0x04, 0xc7, 0x23, 0xc3, 0x18, 0x96, 0x05, 0x9a,
      0x07, 0x12, 0x80, 0xe2, 0xeb, 0x27, 0xb2, 0x75],
    #[0x09, 0x83, 0x2c, 0x1a, 0x1b, 0x6e, 0x5a, 0xa0,
      0x52, 0x3b, 0xd6, 0xb3, 0x29, 0xe3, 0x2f, 0x84],
    #[0x53, 0xd1, 0x00, 0xed, 0x20, 0xfc, 0xb1, 0x5b,
      0x6a, 0xcb, 0xbe, 0x39, 0x4a, 0x4c, 0x58, 0xcf],
    #[0xd0, 0xef, 0xaa, 0xfb, 0x43, 0x4d, 0x33, 0x85,
      0x45, 0xf9, 0x02, 0x7f, 0x50, 0x3c, 0x9f, 0xa8],
    #[0x51, 0xa3, 0x40, 0x8f, 0x92, 0x9d, 0x38, 0xf5,
      0xbc, 0xb6, 0xda, 0x21, 0x10, 0xff, 0xf3, 0xd2],
    #[0xcd, 0x0c, 0x13, 0xec, 0x5f, 0x97, 0x44, 0x17,
      0xc4, 0xa7, 0x7e, 0x3d, 0x64, 0x5d, 0x19, 0x73],
    #[0x60, 0x81, 0x4f, 0xdc, 0x22, 0x2a, 0x90, 0x88,
      0x46, 0xee, 0xb8, 0x14, 0xde, 0x5e, 0x0b, 0xdb],
    #[0xe0, 0x32, 0x3a, 0x0a, 0x49, 0x06, 0x24, 0x5c,
      0xc2, 0xd3, 0xac, 0x62, 0x91, 0x95, 0xe4, 0x79],
    #[0xe7, 0xc8, 0x37, 0x6d, 0x8d, 0xd5, 0x4e, 0xa9,
      0x6c, 0x56, 0xf4, 0xea, 0x65, 0x7a, 0xae, 0x08],
    #[0xba, 0x78, 0x25, 0x2e, 0x1c, 0xa6, 0xb4, 0xc6,
      0xe8, 0xdd, 0x74, 0x1f, 0x4b, 0xbd, 0x8b, 0x8a],
    #[0x70, 0x3e, 0xb5, 0x66, 0x48, 0x03, 0xf6, 0x0e,
      0x61, 0x35, 0x57, 0xb9, 0x86, 0xc1, 0x1d, 0x9e],
    #[0xe1, 0xf8, 0x98, 0x11, 0x69, 0xd9, 0x8e, 0x94,
      0x9b, 0x1e, 0x87, 0xe9, 0xce, 0x55, 0x28, 0xdf],
    #[0x8c, 0xa1, 0x89, 0x0d, 0xbf, 0xe6, 0x42, 0x68,
      0x41, 0x99, 0x2d, 0x0f, 0xb0, 0x54, 0xbb, 0x16]]

/-- The rows of the table one after the other. -/
def substitutes : Bytes := (substitution.toList.map Array.toList).flatten

/-- Where the substitution puts each octet's original. -/
def inverseSubstitution : Array UInt8 :=
  (Array.range 256).map fun v => UInt8.ofNat (substitutes.idxOf (UInt8.ofNat v))

/-- Replace one octet. -/
def substituteOctet (b : UInt8) : UInt8 :=
  (substitution.getD (b / 16).toNat #[]).getD (b % 16).toNat 0

/-- Replace one octet by its original. -/
def restoreOctet (b : UInt8) : UInt8 := inverseSubstitution.getD b.toNat 0

/-- Replace every octet. -/
def substitute (state : Bytes) : Bytes := state.map substituteOctet

/-- Replace every octet by its original. -/
def restore (state : Bytes) : Bytes := state.map restoreOctet

/-- Row `r` of the four rows turned left by `r` places. -/
def shiftRows : Bytes → Bytes
  | [a0, a1, a2, a3, b0, b1, b2, b3, c0, c1, c2, c3, d0, d1, d2, d3] =>
    [a0, b1, c2, d3, b0, c1, d2, a3, c0, d1, a2, b3, d0, a1, b2, c3]
  | state => state

/-- Row `r` of the four rows turned right by `r` places. -/
def unshiftRows : Bytes → Bytes
  | [a0, b1, c2, d3, b0, c1, d2, a3, c0, d1, a2, b3, d0, a1, b2, c3] =>
    [a0, a1, a2, a3, b0, b1, b2, b3, c0, c1, c2, c3, d0, d1, d2, d3]
  | state => state

/-- Twice an octet as a polynomial over two elements, modulo `x⁸ + x⁴ + x³ + x + 1`. -/
def twice (b : UInt8) : UInt8 := if b < 0x80 then b + b else (b + b) ^^^ 0x1b

/-- One column multiplied by the polynomial `3x³ + x² + x + 2`. -/
def mixColumn (a b c d : UInt8) : Bytes :=
  [twice a ^^^ twice b ^^^ b ^^^ c ^^^ d, a ^^^ twice b ^^^ twice c ^^^ c ^^^ d,
    a ^^^ b ^^^ twice c ^^^ twice d ^^^ d, twice a ^^^ a ^^^ b ^^^ c ^^^ twice d]

/-- Every column mixed. -/
def mixColumns : Bytes → Bytes
  | a :: b :: c :: d :: rest => mixColumn a b c d ++ mixColumns rest
  | state => state

/-- One column multiplied by the inverse of that polynomial, which is the polynomial times
`4x² + 5`. -/
def unmixColumn (a b c d : UInt8) : Bytes :=
  let u := twice (twice (a ^^^ c))
  let v := twice (twice (b ^^^ d))
  mixColumn (a ^^^ u) (b ^^^ v) (c ^^^ u) (d ^^^ v)

/-- Every column as it was before mixing. -/
def unmixColumns : Bytes → Bytes
  | a :: b :: c :: d :: rest => unmixColumn a b c d ++ unmixColumns rest
  | state => state

/-- The constant that the key expansion adds for the `n`-th group of eight words. -/
def roundConstant (n : Nat) : UInt8 := Nat.repeat twice (n - 1) 1

/-- One more word in front of the expanded key, which is written newest first and holds `count`
words. -/
def expandKey (count : Nat) (words : List Bytes) : List Bytes :=
  let last := words.headD []
  let mixed :=
    if count % 8 = 0 then
      xorBytes (substitute (last.drop 1 ++ last.take 1)) [roundConstant (count / 8), 0, 0, 0]
    else if count % 8 = 4 then substitute last
    else last
  xorBytes (words.getD 7 []) mixed :: words

/-- The keys of the rounds, sixteen octets each. -/
def roundKeys (key : Bytes) : List Bytes :=
  let start := (chunks 4 key).reverse
  let words := (List.range 52).foldl (fun words i => expandKey (8 + i) words) start
  chunks 16 words.reverse.flatten

/-- The rounds after the first key; the last one mixes no columns. -/
def rounds : List Bytes → Bytes → Bytes
  | [], state => state
  | [key], state => xorBytes (shiftRows (substitute state)) key
  | key :: rest, state =>
    rounds rest (xorBytes (mixColumns (shiftRows (substitute state))) key)

/-- What the rounds were applied to. -/
def unrounds : List Bytes → Bytes → Bytes
  | [], state => state
  | [key], state => restore (unshiftRows (xorBytes state key))
  | key :: rest, state =>
    restore (unshiftRows (unmixColumns (xorBytes (unrounds rest state) key)))

/-- Encrypt sixteen octets. -/
def encryptBlock (keys : List Bytes) (block : Bytes) : Bytes :=
  match keys with
  | [] => block
  | first :: rest => rounds rest (xorBytes block first)

/-- Decrypt sixteen octets. -/
def decryptBlock (keys : List Bytes) (block : Bytes) : Bytes :=
  match keys with
  | [] => block
  | first :: rest => xorBytes (unrounds rest block) first

end AttestedPayments.Cipher.Aes
