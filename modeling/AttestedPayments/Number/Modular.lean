/-!
# Arithmetic modulo a number

* `powMod` — a power of a number, reduced at every step.
* `inverseMod` — the inverse modulo a prime, as a power.
* `inverse?` — the inverse modulo any number, if there is one.
* `recombine` — a number put together of its residues modulo two numbers.
* `rootMod` — a square root modulo a prime that is 3 modulo 4, if there is one.
-/

namespace AttestedPayments

/-- The power `b ^ e` modulo `m`. -/
def powMod (m b : Nat) (e : Nat) : Nat :=
  if _h : e = 0 then 1 % m
  else
    let half := powMod m b (e / 2)
    let square := half * half % m
    if e % 2 = 0 then square else square * b % m
termination_by e
decreasing_by omega

/-- The inverse of `a` modulo the prime `p`; zero has none and gives zero. -/
def inverseMod (p a : Nat) : Nat := powMod p (a % p) (p - 2)

/-- `a - b` modulo `m`, for numbers below `m`. -/
def subMod (m a b : Nat) : Nat := (a + (m - b)) % m

/-- Divide with remainder until nothing is left, and give the last divisor. Beside each of the two
numbers another one is carried along, which is the multiple of one fixed number that it is. -/
def euclid (m r s r' s' : Nat) : Nat × Nat :=
  if _h : r' = 0 then (r, s)
  else euclid m r' s' (r % r') (subMod m s (r / r' * s' % m))
termination_by r'
decreasing_by exact Nat.mod_lt _ (Nat.pos_of_ne_zero _h)

/-- The inverse of `a` modulo `m`, if they have no common factor. -/
def inverse? (m a : Nat) : Option Nat :=
  let (divisor, inverse) := euclid m m 0 (a % m) 1
  if divisor = 1 then some inverse else none

/-- The number below `p * q` that is `a` modulo `p` and `b` modulo `q`, if `inverse` is that of `q`
modulo `p`. -/
def recombine (p q inverse a b : Nat) : Nat := b + subMod p a (b % p) * inverse % p * q

/-- A square root of `a` modulo the prime `p`, for `p` that is 3 modulo 4. -/
def rootMod (p a : Nat) : Option Nat :=
  let r := powMod p a ((p + 1) / 4)
  if r * r % p = a % p then some r else none

end AttestedPayments
