import AttestedPayments.Bytes
import AttestedPayments.Number.Modular

/-!
# The curve secp256k1

The curve `y² = x³ + 7` over the integers modulo the prime `fieldPrime`.

* `Point` — a point of the plane, or the point at infinity; `Point.isOnCurve` says which lie on
  the curve.
* `Point.add`, `Point.mul` — the group law and multiples.
* `generator`, `groupOrder` — the group that keys live in.
* `Point.uncompressed`, `Point.ofOctets?` — points as octets, and back from the forms with both
  coordinates (04), with the parity of `y` (02, 03), or with `x` alone (05), which stands for the
  point with even `y`.
-/

namespace AttestedPayments.Curve

/-- The prime of the coordinates. -/
def fieldPrime : Nat := 0xfffffffffffffffffffffffffffffffffffffffffffffffffffffffefffffc2f

/-- The count of points. -/
def groupOrder : Nat := 0xfffffffffffffffffffffffffffffffebaaedce6af48a03bbfd25e8cd0364141

/-- A point. -/
inductive Point where
  | infinity
  | affine (x y : Nat)
  deriving DecidableEq, Repr

namespace Point

/-- A point with reduced coordinates that satisfy the equation of the curve. -/
def isOnCurve : Point → Bool
  | infinity => true
  | affine x y =>
    x < fieldPrime && y < fieldPrime && (y * y % fieldPrime == (x * x * x + 7) % fieldPrime)

/-- The sum of the points on the chord of the given slope through `x₁, y₁` and `x₂`. -/
def onChord (slope x₁ y₁ x₂ : Nat) : Point :=
  let x := subMod fieldPrime (subMod fieldPrime (slope * slope % fieldPrime) x₁) x₂
  affine x (subMod fieldPrime (slope * subMod fieldPrime x₁ x % fieldPrime) y₁)

/-- Twice a point. -/
def double : Point → Point
  | infinity => infinity
  | affine x y =>
    if y = 0 then infinity
    else onChord (3 * x * x * inverseMod fieldPrime (2 * y) % fieldPrime) x y x

/-- The sum of two points. -/
def add : Point → Point → Point
  | infinity, q => q
  | p, infinity => p
  | affine x₁ y₁, affine x₂ y₂ =>
    if x₁ = x₂ then
      if y₁ = y₂ then double (affine x₁ y₁) else infinity
    else
      let slope := subMod fieldPrime y₂ y₁ * inverseMod fieldPrime (subMod fieldPrime x₂ x₁)
      onChord (slope % fieldPrime) x₁ y₁ x₂

/-- A multiple of a point. -/
def mul (k : Nat) (p : Point) : Point :=
  if _h : k = 0 then infinity
  else
    let half := mul (k / 2) p
    let twice := double half
    if k % 2 = 0 then twice else add twice p
termination_by k
decreasing_by omega

/-- The first coordinate; the point at infinity counts as zero. -/
def x : Point → Nat
  | infinity => 0
  | affine x _ => x

/-- Both coordinates, thirty-two octets each, after the octet 04; infinity is the octet 00. -/
def uncompressed : Point → Bytes
  | infinity => [0]
  | affine x y => 4 :: BigEndian.digits 32 x ++ BigEndian.digits 32 y

/-- The first coordinate after an octet that tells the parity of the second. -/
def compressed : Point → Bytes
  | infinity => [0]
  | affine x y => (if y % 2 = 0 then 2 else 3) :: BigEndian.digits 32 x

/-- The point with the given first coordinate whose second one has the given parity. -/
def ofX? (x : Nat) (odd : Bool) : Option Point :=
  if x < fieldPrime then
    match rootMod fieldPrime (x * x * x + 7) with
    | none => none
    | some y => some (affine x (if (y % 2 == 1) == odd then y else subMod fieldPrime 0 y))
  else none

/-- A point other than infinity from one of its writings. -/
def ofOctets? (octets : Bytes) : Option Point :=
  match octets with
  | [] => none
  | form :: rest =>
    if form = 4 ∧ rest.length = 64 then
      let p := affine (BigEndian.value (rest.take 32)) (BigEndian.value (rest.drop 32))
      if p.isOnCurve then some p else none
    else if (form = 2 ∨ form = 3 ∨ form = 5) ∧ rest.length = 32 then
      ofX? (BigEndian.value rest) (form = 3)
    else none

end Point

/-- The point whose multiples are all points. -/
def generator : Point :=
  .affine 0x79be667ef9dcbbac55a06295ce870b07029bfcdb2dce28d959f2815b16f81798
    0x483ada7726a3c4655da4fbfc0e1108a8fd17b448a68554199c47d08ffb10d4b8

end AttestedPayments.Curve
