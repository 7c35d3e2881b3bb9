import AttestedPayments.Hash.Sha256
import AttestedPayments.Hash.Sha512
import AttestedPayments.Number.Modular

/-!
# Signatures with RSA keys

* `PublicKey`, `PrivateKey` — the numbers of a key.
* `DigestKind` — the hash functions that a signature may name.
* `sign?`, `verify` — signatures over the padded digest of a message. The padding is fixed: 00 01,
  octets FF, 00, the name of the hash function and the digest.
-/

namespace AttestedPayments.Rsa

/-- A modulus and the exponent that verifies. -/
structure PublicKey where
  modulus : Nat
  exponent : Nat
  deriving DecidableEq, Repr

/-- A key that signs: the public numbers, the secret exponent and the two factors. -/
structure PrivateKey where
  modulus : Nat
  exponent : Nat
  secretExponent : Nat
  firstFactor : Nat
  secondFactor : Nat
  deriving DecidableEq, Repr

/-- The half that verifies. -/
def PrivateKey.toPublic (key : PrivateKey) : PublicKey := ⟨key.modulus, key.exponent⟩

/-- How many octets a number below the modulus may need. -/
def PublicKey.size (key : PublicKey) : Nat := BigEndian.width key.modulus

/-- A hash function that signatures may name. -/
inductive DigestKind where
  | sha256
  | sha384
  | sha512
  deriving DecidableEq, Repr

namespace DigestKind

/-- The digest of a message. -/
def digest : DigestKind → Bytes → Bytes
  | sha256 => Hash.Sha256.digest
  | sha384 => Hash.Sha512.digest384
  | sha512 => Hash.Sha512.digest

/-- The last octet of the hash function's object identifier. -/
def identifierEnd : DigestKind → UInt8
  | sha256 => 1
  | sha384 => 2
  | sha512 => 3

/-- The count of octets of a digest. -/
def digestLength : DigestKind → Nat
  | sha256 => 32
  | sha384 => 48
  | sha512 => 64

/-- The digest of a message under the name of its hash function, in DER. -/
def digestInfo (kind : DigestKind) (message : Bytes) : Bytes :=
  let n := UInt8.ofNat kind.digestLength
  [0x30, 17 + n, 0x30, 13, 6, 9, 0x60, 0x86, 0x48, 1, 0x65, 3, 4, 2, kind.identifierEnd, 5, 0,
    4, n] ++ kind.digest message

end DigestKind

/-- The padded digest in `size` octets, if they are enough for eight octets FF. -/
def padded (kind : DigestKind) (size : Nat) (message : Bytes) : Option Bytes :=
  let info := kind.digestInfo message
  if info.length + 11 ≤ size then
    some (0 :: 1 :: List.replicate (size - info.length - 3) 0xff ++ 0 :: info)
  else none

/-- The root of a number under the secret exponent: the roots modulo both factors put together, or the
power modulo their product if the factors have something in common. -/
def PrivateKey.root (key : PrivateKey) (n : Nat) : Nat :=
  let p := key.firstFactor
  let q := key.secondFactor
  match inverse? p q with
  | none => powMod key.modulus n key.secretExponent
  | some inverse =>
    recombine p q inverse (powMod p n (key.secretExponent % (p - 1)))
      (powMod q n (key.secretExponent % (q - 1)))

/-- The signature of a message: the root of its padded digest. There is none if the key is too small
for the padding, or if the public exponent does not lead back from the root, as when a factor is not a
prime. -/
def sign? (key : PrivateKey) (message : Bytes) : Option Bytes :=
  let size := key.toPublic.size
  match padded .sha256 size message with
  | none => none
  | some octets =>
    let value := BigEndian.value octets
    let root := key.root value
    if powMod key.modulus root key.exponent = value then some (BigEndian.digits size root) else none

/-- Whether a signature fits a message: as long as the modulus, below it, and a root of the padded
digest. -/
def verify (kind : DigestKind) (key : PublicKey) (message signature : Bytes) : Bool :=
  let value := BigEndian.value signature
  signature.length == key.size && value < key.modulus &&
    padded kind key.size message ==
      some (BigEndian.digits key.size (powMod key.modulus value key.exponent))

end AttestedPayments.Rsa
