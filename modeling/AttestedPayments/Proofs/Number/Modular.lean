import AttestedPayments.Number.Modular
import Mathlib.FieldTheory.Finite.Basic
import Mathlib.Tactic.Ring

/-!
# Modular arithmetic on numbers is that of residues

* `powMod_eq` — `powMod m b e` is `b ^ e % m`.
* `subMod_lt` — differences are reduced.
* `cast_subMod`, `cast_inverseMod` — differences and inverses are those of residues.
* `euclid_spec` — division with remainder ends with the greatest common divisor, and what is carried
  along tells which multiple it is; `inverse?_eq_some` and `exists_inverse?` follow.
* `recombine_modEq_left`, `recombine_modEq_right`, `recombine_lt` — a number that is put together of
  residues has these residues.
* `val_natCast_eq_iff` — a reduced number is the value of its residue.
-/

set_option autoImplicit false

namespace AttestedPayments

variable {p m : Nat}

/-- A power by repeated squares is the power. -/
theorem powMod_eq (m b e : Nat) : powMod m b e = b ^ e % m := by
  fun_induction powMod m b e with
  | case1 => simp
  | case2 e h half square even ih =>
    have he : e = e / 2 + e / 2 := by omega
    have hpow : b ^ e = b ^ (e / 2 + e / 2) := congrArg (b ^ ·) he
    rw [hpow, Nat.pow_add, Nat.mul_mod, ← ih]
  | case3 e h half square odd ih =>
    have he : e = e / 2 + e / 2 + 1 := by omega
    have hpow : b ^ e = b ^ (e / 2 + e / 2 + 1) := congrArg (b ^ ·) he
    rw [hpow, Nat.pow_succ, Nat.pow_add, Nat.mul_mod (b ^ (e / 2) * b ^ (e / 2)),
      Nat.mul_mod (b ^ (e / 2)), ← ih]
    simp [square, half, Nat.mul_mod]

theorem subMod_lt (hm : 0 < m) (a b : Nat) : subMod m a b < m := Nat.mod_lt _ hm

theorem cast_subMod {b : Nat} (a : Nat) (hb : b ≤ m) : (subMod m a b : ZMod m) = a - b := by
  rw [subMod, ZMod.natCast_mod, Nat.cast_add, Nat.cast_sub hb, ZMod.natCast_self, zero_sub,
    sub_eq_add_neg]

/-- By the little theorem of Fermat the power is an inverse. -/
theorem cast_inverseMod (hp : p.Prime) (h2 : 2 < p) (a : Nat) :
    (inverseMod p a : ZMod p) = (a : ZMod p)⁻¹ := by
  have : Fact p.Prime := ⟨hp⟩
  rw [inverseMod, powMod_eq, ZMod.natCast_mod, Nat.cast_pow, ZMod.natCast_mod]
  by_cases ha : (a : ZMod p) = 0
  · rw [ha, inv_zero, zero_pow (by omega)]
  · have hfermat : (a : ZMod p) ^ (p - 2) * a = 1 := by
      rw [← pow_succ, show p - 2 + 1 = p - 1 by omega]
      exact ZMod.pow_card_sub_one_eq_one ha
    exact eq_inv_of_mul_eq_one_left hfermat

/-- Division with remainder ends with the greatest common divisor. If both numbers are the multiples of
`a` that go with them, then so is it. -/
theorem euclid_spec [NeZero m] (a r s r' s' : Nat) (h : (s * a : ZMod m) = r)
    (h' : (s' * a : ZMod m) = r') :
    (euclid m r s r' s').1 = r.gcd r' ∧
      ((euclid m r s r' s').2 * a : ZMod m) = (euclid m r s r' s').1 := by
  -- along the division: the invariant is `h`, for both numbers and what goes with them
  fun_induction euclid m r s r' s' with
  | case1 r s s' => exact ⟨(Nat.gcd_zero_right r).symm, h⟩
  | case2 r s r' s' hne ih =>
    have hrest : ((r % r' : Nat) : ZMod m) = r - r' * (r / r' : Nat) := by
      rw [eq_sub_iff_add_eq', ← Nat.cast_mul, ← Nat.cast_add, Nat.div_add_mod]
    have hcarried : ((subMod m s (r / r' * s' % m) * a : ZMod m)) = (r % r' : Nat) := by
      rw [cast_subMod _ (Nat.mod_lt _ (NeZero.pos m)).le, ZMod.natCast_mod, Nat.cast_mul, hrest,
        sub_mul, h, mul_assoc, h', mul_comm]
    obtain ⟨hgcd, hmultiple⟩ := ih h' hcarried
    exact ⟨hgcd.trans (by rw [Nat.gcd_comm, Nat.gcd_comm r r', Nat.gcd_rec r' r]), hmultiple⟩

/-- The two numbers that the search for an inverse begins with. -/
theorem euclid_inverse [NeZero m] (a : Nat) :
    (euclid m m 0 (a % m) 1).1 = m.gcd a ∧
      ((euclid m m 0 (a % m) 1).2 * a : ZMod m) = (euclid m m 0 (a % m) 1).1 := by
  have h := euclid_spec (m := m) a m 0 (a % m) 1 (by simp) (by simp)
  rwa [Nat.gcd_comm m, ← Nat.gcd_rec] at h

theorem inverse?_eq_some [NeZero m] {a inverse : Nat} (h : inverse? m a = some inverse) :
    (inverse * a : ZMod m) = 1 := by
  obtain ⟨hone, hsome⟩ := Option.ite_none_right_eq_some.mp h
  obtain rfl := Option.some.inj hsome
  rw [(euclid_inverse a).2, hone, Nat.cast_one]

/-- There is an inverse modulo numbers without a common factor. -/
theorem exists_inverse? [NeZero m] {a : Nat} (h : m.Coprime a) :
    ∃ inverse, inverse? m a = some inverse :=
  ⟨_, if_pos ((euclid_inverse a).1.trans h)⟩

theorem recombine_modEq_left [NeZero m] {q inverse : Nat} (h : inverse? m q = some inverse)
    (a b : Nat) : recombine m q inverse a b ≡ a [MOD m] := by
  rw [← ZMod.natCast_eq_natCast_iff]
  have hb : b % m ≤ m := (Nat.mod_lt _ (NeZero.pos m)).le
  rw [recombine, Nat.cast_add, Nat.cast_mul, ZMod.natCast_mod, Nat.cast_mul, cast_subMod a hb,
    ZMod.natCast_mod, mul_assoc, inverse?_eq_some h, mul_one, add_sub_cancel]

theorem recombine_modEq_right (p q inverse a b : Nat) : recombine p q inverse a b ≡ b [MOD q] :=
  Nat.add_mul_mod_self_right _ _ _

theorem recombine_lt {p q b : Nat} (hp : 0 < p) (hb : b < q) (inverse a : Nat) :
    recombine p q inverse a b < p * q := by
  have hfirst : subMod p a (b % p) * inverse % p + 1 ≤ p := Nat.mod_lt _ hp
  calc recombine p q inverse a b
      < q + subMod p a (b % p) * inverse % p * q := Nat.add_lt_add_right hb _
    _ = (subMod p a (b % p) * inverse % p + 1) * q := by ring
    _ ≤ p * q := Nat.mul_le_mul_right q hfirst

/-- A reduced number is the value of its residue. -/
theorem val_natCast_eq_iff [NeZero m] {n : Nat} (hn : n < m) (a : ZMod m) :
    a.val = n ↔ a = (n : ZMod m) := by
  constructor
  · rintro rfl
    exact (ZMod.natCast_zmod_val a).symm
  · rintro rfl
    exact ZMod.val_natCast_of_lt hn

end AttestedPayments
