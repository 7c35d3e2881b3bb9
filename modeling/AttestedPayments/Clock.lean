import AttestedPayments.Bytes

/-!
# The time at which something happens

* `Clock` — a moment, in microseconds since the start of 1970; before it, the number is negative.
* `Clock.seconds` — whole seconds, which periods of validity are compared with.
* `Clock.nonce`, `Clock.octets` — the moment as a signed number and as eight octets.
-/

namespace AttestedPayments

/-- A moment, in microseconds since the start of 1970. -/
structure Clock where
  micros : Int64
  deriving DecidableEq, Repr

namespace Clock

/-- Whole seconds since the start of 1970; none for a moment before it. -/
def seconds (clock : Clock) : Nat := (clock.micros.toInt / 1000000).toNat

/-- The moment as a signed number of eight octets. -/
def nonce (clock : Clock) : Int64 := clock.micros

/-- The moment in eight octets, most significant first, with two's complement below zero. -/
def octets (clock : Clock) : Bytes := BigEndian.digits 8 clock.micros.toUInt64.toNat

end Clock

end AttestedPayments
