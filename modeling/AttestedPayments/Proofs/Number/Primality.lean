import AttestedPayments.Curve.Point
import AttestedPayments.Proofs.Number.Modular
import Mathlib.Data.Nat.Prime.Basic
import Mathlib.NumberTheory.LucasPrimality

/-!
# The primes of the curve

* `PrimeLine` — why a number is prime: a witness whose order modulo the number is one less than the
  number, and the primes that divide this order.
* `allHold` — whether the lines of a table hold, each by the lines above it.
* `prime_of_allHold` — the numbers of such a table are prime.

Principal results: `prime_fieldPrime`, `prime_groupOrder`.
-/

set_option autoImplicit false

namespace AttestedPayments

/-- Why a number is prime. -/
structure PrimeLine where
  number : Nat
  witness : Nat
  factors : List Nat
  deriving Repr

namespace PrimeLine

/-- Whether a number below ten thousand is prime, by division. -/
def isSmall (q : Nat) : Bool :=
  1 < q && q < 100 * 100 && (List.range 98).all fun d => q % (d + 2) != 0 || q == d + 2

/-- A factor is a prime of a line above, or a small one. -/
def knows (known : List Nat) (q : Nat) : Bool := known.contains q || isSmall q

/-- Whether a line holds. Enough multiplicities are allowed for: no factor comes more than ten
times. -/
def holds (known : List Nat) (line : PrimeLine) : Bool :=
  1 < line.number &&
  line.factors.all (knows known) &&
  line.factors.prod ^ 10 % (line.number - 1) == 0 &&
  powMod line.number line.witness (line.number - 1) == 1 &&
  line.factors.all fun q => powMod line.number line.witness ((line.number - 1) / q) != 1

end PrimeLine

/-- Whether all lines of a table hold, each by those above it. -/
def allHold (known : List Nat) : List PrimeLine → Bool
  | [] => true
  | line :: rest => line.holds known && allHold (line.number :: known) rest

theorem powMod_eq_one_iff {m : Nat} (hm : 1 < m) (b e : Nat) :
    powMod m b e = 1 ↔ (b : ZMod m) ^ e = 1 := by
  have hone : 1 % m = 1 := Nat.mod_eq_of_lt hm
  rw [powMod_eq, ← Nat.cast_pow, ← Nat.cast_one (R := ZMod m), ZMod.natCast_eq_natCast_iff', hone]

namespace PrimeLine

variable {known : List Nat}

theorem prime_of_isSmall {q : Nat} (h : isSmall q = true) : q.Prime := by
  simp only [isSmall, Bool.and_eq_true, Bool.or_eq_true, decide_eq_true_eq, List.all_eq_true,
    List.mem_range, bne_iff_ne, ne_eq, beq_iff_eq] at h
  obtain ⟨⟨hone, hbound⟩, hdivs⟩ := h
  refine Nat.prime_def_le_sqrt.mpr ⟨hone, fun m hm hsqrt hdvd => ?_⟩
  have hm100 : m < 100 := Nat.lt_of_le_of_lt hsqrt (Nat.sqrt_lt.mpr hbound)
  have hd : m - 2 + 2 = m := by omega
  have hdiv := hdivs (m - 2) (by omega)
  rw [hd] at hdiv
  obtain hndvd | rfl := hdiv
  · exact hndvd (Nat.mod_eq_zero_of_dvd hdvd)
  · exact absurd (Nat.sqrt_lt_self hone) (Nat.not_lt.mpr hsqrt)

theorem prime_of_knows (hknown : ∀ n ∈ known, n.Prime) {q : Nat} (h : knows known q = true) :
    q.Prime := by
  simp only [knows, Bool.or_eq_true, List.contains_iff_mem] at h
  obtain hmem | hsmall := h
  · exact hknown q hmem
  · exact prime_of_isSmall hsmall

theorem prime_of_holds (hknown : ∀ n ∈ known, n.Prime) {line : PrimeLine}
    (h : line.holds known = true) : line.number.Prime := by
  simp only [holds, Bool.and_eq_true, decide_eq_true_eq, List.all_eq_true, beq_iff_eq, bne_iff_ne,
    ne_eq] at h
  obtain ⟨⟨⟨⟨hone, hknows⟩, hprod⟩, hfull⟩, hpart⟩ := h
  refine lucas_primality line.number line.witness ((powMod_eq_one_iff hone _ _).mp hfull) ?_
  intro q hq hdvd
  -- a prime of the order divides the product of the factors, so it is one of them
  have hpow : q ∣ line.factors.prod ^ 10 := hdvd.trans (Nat.dvd_of_mod_eq_zero hprod)
  obtain ⟨r, hr, hqr⟩ := (Prime.dvd_prod_iff hq.prime).mp (hq.dvd_of_dvd_pow hpow)
  obtain rfl := (Nat.prime_dvd_prime_iff_eq hq (prime_of_knows hknown (hknows r hr))).mp hqr
  exact fun heq => hpart q hr ((powMod_eq_one_iff hone _ _).mpr heq)

end PrimeLine

/-- All numbers of a table that holds are prime. -/
theorem prime_of_allHold {known : List Nat} (hknown : ∀ n ∈ known, n.Prime)
    {table : List PrimeLine} (h : allHold known table = true) :
    ∀ line ∈ table, line.number.Prime := by
  induction table generalizing known with
  | nil => exact fun _ hmem => nomatch hmem
  | cons line rest ih =>
    simp only [allHold, Bool.and_eq_true] at h
    have hline := PrimeLine.prime_of_holds hknown h.1
    have hrest := ih (List.forall_mem_cons.mpr ⟨hline, hknown⟩) h.2
    exact List.forall_mem_cons.mpr ⟨hline, hrest⟩

namespace Curve

/-- The primes below the prime of the coordinates. -/
def fieldLines : List PrimeLine := [
  ⟨13441, 11, [2, 3, 5, 7]⟩,
  ⟨24809, 6, [2, 7, 443]⟩,
  ⟨13331831, 13, [2, 5, 971, 1373]⟩,
  ⟨173378833005251801, 6, [2, 5, 2621, 13331831, 24809]⟩,
  ⟨22149492674086928081353, 5, [2, 3, 5323, 173378833005251801]⟩,
  ⟨132896956044521568488119, 6, [2, 3, 22149492674086928081353]⟩,
  ⟨41201, 3, [2, 5, 103]⟩,
  ⟨96557, 2, [2, 101, 239]⟩,
  ⟨20113, 10, [2, 3, 419]⟩,
  ⟨1206781, 10, [2, 3, 5, 20113]⟩,
  ⟨7240687, 3, [2, 3, 1206781]⟩,
  ⟨107590001, 3, [2, 5, 7, 29, 53]⟩,
  ⟨255515944373312847190720520512484175977, 3,
    [2, 7, 11, 1627, 2657, 4423, 107590001, 7240687, 96557, 41201]⟩,
  ⟨205115282021455665897114700593932402728804164701536103180137503955397371, 10,
    [2, 3, 5, 29, 31, 7723, 255515944373312847190720520512484175977, 132896956044521568488119]⟩,
  ⟨fieldPrime, 3, [2, 3, 7, 13441,
    205115282021455665897114700593932402728804164701536103180137503955397371]⟩]

/-- The primes below the count of points. -/
def orderLines : List PrimeLine := [
  ⟨16699, 3, [2, 3, 11, 23]⟩,
  ⟨85831, 3, [2, 3, 5, 2861]⟩,
  ⟨4681609, 23, [2, 3, 97, 2011]⟩,
  ⟨107361793816595537, 3, [2, 4681609, 85831, 16699]⟩,
  ⟨120233, 3, [2, 7, 19, 113]⟩,
  ⟨44706919, 6, [2, 3, 797, 9349]⟩,
  ⟨174723607534414371449, 3, [2, 17, 59, 4051, 44706919, 120233]⟩,
  ⟨305873, 3, [2, 7, 2731]⟩,
  ⟨28181, 2, [2, 5, 1409]⟩,
  ⟨545358713, 5, [2, 41, 59, 28181]⟩,
  ⟨1627771, 3, [2, 3, 5, 29, 1871]⟩,
  ⟨297159362677, 2, [2, 3, 11, 461, 1627771]⟩,
  ⟨29047611873442575647497758179, 2, [2, 293, 297159362677, 545358713, 305873]⟩,
  ⟨341948486974166000522343609283189, 2, [2, 3, 109, 29047611873442575647497758179]⟩,
  ⟨groupOrder, 7, [2, 3, 149, 631, 107361793816595537, 174723607534414371449,
    341948486974166000522343609283189]⟩]

/-- **Coordinates form a field.** -/
theorem prime_fieldPrime : fieldPrime.Prime := by
  have hholds : allHold [] fieldLines = true := by decide +kernel
  exact prime_of_allHold (List.forall_mem_nil _) hholds _ (List.getLast_mem (by simp [fieldLines]))

/-- **Scalars form a field.** -/
theorem prime_groupOrder : groupOrder.Prime := by
  have hholds : allHold [] orderLines = true := by decide +kernel
  exact prime_of_allHold (List.forall_mem_nil _) hholds _ (List.getLast_mem (by simp [orderLines]))

end Curve

end AttestedPayments
