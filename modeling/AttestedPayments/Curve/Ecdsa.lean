import AttestedPayments.Curve.Point
import AttestedPayments.Hash.Hmac

/-!
# Signatures on the curve

* `Signature` — the two numbers of a signature; `Signature.toDer`, `Signature.ofDer?` — their one
  writing as octets.
* `sign` — a signature whose nonce is derived from key and message, with the smaller of the two
  possible values of `s`.
* `verify` — whether a signature fits a message; the larger value of `s` is refused.
-/

namespace AttestedPayments.Curve

/-- The two numbers of a signature. -/
structure Signature where
  r : Nat
  s : Nat
  deriving DecidableEq, Repr

namespace Signature

/-- A positive number as a DER integer. -/
def integer (n : Nat) : Bytes :=
  let digits := BigEndian.minimal n
  let content := if digits.headD 0 < 0x80 ∧ digits ≠ [] then digits else 0 :: digits
  2 :: UInt8.ofNat content.length :: content

/-- The DER writing, a sequence of two integers. -/
def toDer (sig : Signature) : Bytes :=
  let content := integer sig.r ++ integer sig.s
  0x30 :: UInt8.ofNat content.length :: content

/-- A non-negative DER integer of at most thirty-three octets at the front, and what follows. -/
def readInteger (octets : Bytes) : Option (Nat × Bytes) :=
  match octets with
  | 2 :: length :: rest =>
    let content := rest.take length.toNat
    let n := BigEndian.value content
    if length < 0x80 ∧ integer n ++ rest.drop length.toNat = octets then
      some (n, rest.drop length.toNat)
    else none
  | _ => none

/-- The signature that is written so. Both numbers must be in the range of scalars. -/
def ofDer? (octets : Bytes) : Option Signature :=
  match octets with
  | 0x30 :: _ :: rest =>
    match readInteger rest with
    | none => none
    | some (r, rest) =>
      match readInteger rest with
      | some (s, []) =>
        let sig : Signature := ⟨r, s⟩
        if 0 < r ∧ r < groupOrder ∧ 0 < s ∧ s < groupOrder ∧ sig.toDer = octets then some sig
        else none
      | _ => none
  | _ => none

end Signature

/-- The number that a message's digest stands for. -/
def messageScalar (message : Bytes) : Nat := BigEndian.value (Hash.Sha256.digest message)

/-- The state of the nonce derivation: a key and a value of thirty-two octets each. -/
structure NonceState where
  key : Bytes
  value : Bytes
  deriving DecidableEq, Repr

namespace NonceState

/-- Both parts replaced, with some octets worked in after a separator. -/
def refresh (state : NonceState) (separator : UInt8) (octets : Bytes) : NonceState :=
  let key := Hash.hmacSha256 state.key (state.value ++ separator :: octets)
  ⟨key, Hash.hmacSha256 key state.value⟩

/-- The state for a secret and a message. -/
def start (secret : Nat) (message : Bytes) : NonceState :=
  let octets := BigEndian.digits 32 secret ++
    BigEndian.digits 32 (messageScalar message % groupOrder)
  let state : NonceState := ⟨List.replicate 32 0, List.replicate 32 1⟩
  (state.refresh 0 octets).refresh 1 octets

/-- The state whose value is the next candidate. -/
def advance (state : NonceState) : NonceState :=
  { state with value := Hash.hmacSha256 state.key state.value }

/-- The state after a candidate that was refused. -/
def afterRefusal (state : NonceState) : NonceState := state.refresh 0 []

end NonceState

/-- The signature with a nonce, unless one of its numbers is zero. -/
def signWith (secret : Nat) (message : Bytes) (nonce : Nat) : Option Signature :=
  let r := (Point.mul nonce generator).x % groupOrder
  let s := inverseMod groupOrder nonce * (messageScalar message + r * secret) % groupOrder
  if r = 0 ∨ s = 0 then none else some ⟨r, min s (groupOrder - s)⟩

/-- Try candidates for the nonce, `budget` of them at most. -/
def signFrom (secret : Nat) (message : Bytes) : Nat → NonceState → Signature
  | 0, _ => ⟨0, 0⟩
  | budget + 1, state =>
    let state := state.advance
    let nonce := BigEndian.value state.value
    if 0 < nonce ∧ nonce < groupOrder then
      match signWith secret message nonce with
      | some sig => sig
      | none => signFrom secret message budget state.afterRefusal
    else signFrom secret message budget state.afterRefusal

/-- How many candidates for a nonce are tried; each is refused with a chance below `2 ^ -127`. -/
def nonceBudget : Nat := 16

/-- The signature of a message. -/
def sign (secret : Nat) (message : Bytes) : Signature :=
  signFrom secret message nonceBudget (NonceState.start secret message)

/-- Whether a signature fits a message. -/
def verify (key : Point) (message : Bytes) (sig : Signature) : Bool :=
  let w := inverseMod groupOrder sig.s
  let u := messageScalar message * w % groupOrder
  let v := sig.r * w % groupOrder
  match Point.add (Point.mul u generator) (Point.mul v key) with
  | .infinity => false
  | .affine x _ => sig.s ≤ groupOrder / 2 && x % groupOrder == sig.r

end AttestedPayments.Curve
