import AttestedPayments.Proofs.Curve.Group
import Mathlib.GroupTheory.OrderOfElement

/-!
# The order of the generator

* `Scaled` — a point with a common denominator, so that sums need no inverses; `Scaled.Stands` — the
  point of the group that it stands for.
* `Scaled.double?`, `Scaled.add?` — twice a point, and the sum with the generator.
* `Scaled.multiple?` — a multiple of the generator; `x_mul_generator` — its first coordinate.

Principal result: `exists_generator` — the generator is a point of the group, and as many times the
generator as there are points is zero.
-/

set_option autoImplicit false

namespace AttestedPayments.Curve

/-- A point whose coordinates are `x / z ^ 2` and `y / z ^ 3`. -/
structure Scaled where
  x : Nat
  y : Nat
  z : Nat

namespace Scaled

/-- The generator. -/
def start : Scaled :=
  match generator with
  | .infinity => ⟨0, 0, 0⟩
  | .affine x y => ⟨x, y, 1⟩

/-- Twice a point whose second coordinate is not zero. -/
def double? (p : Scaled) : Option Scaled :=
  if p.y % fieldPrime = 0 then none
  else
    let m := 3 * p.x * p.x % fieldPrime
    let s := 4 * p.x * p.y * p.y % fieldPrime
    let x := subMod fieldPrime (m * m) (2 * s % fieldPrime)
    let y := subMod fieldPrime (m * subMod fieldPrime s x) (8 * p.y * p.y * p.y * p.y % fieldPrime)
    some ⟨x, y, 2 * p.y * p.z % fieldPrime⟩

/-- The sum of a point and the generator, if their first coordinates differ. -/
def add? (p : Scaled) : Option Scaled :=
  let zz := p.z * p.z % fieldPrime
  let h := subMod fieldPrime (start.x * zz) (p.x % fieldPrime)
  let r := subMod fieldPrime (start.y * zz * p.z) (p.y % fieldPrime)
  if h = 0 then none
  else
    let hh := h * h % fieldPrime
    let v := p.x * hh % fieldPrime
    let x := subMod fieldPrime (subMod fieldPrime (r * r) (hh * h % fieldPrime)) (2 * v % fieldPrime)
    let y := subMod fieldPrime (r * subMod fieldPrime v x) (p.y * hh * h % fieldPrime)
    some ⟨x, y, p.z * h % fieldPrime⟩

/-- A multiple of the generator, unless some step of it fails. -/
def multiple? (k : Nat) : Option Scaled :=
  if _h : k ≤ 1 then if k = 1 then some start else none
  else
    let twice := (multiple? (k / 2)).bind double?
    if k % 2 = 0 then twice else twice.bind add?
termination_by k
decreasing_by omega

/-- The point of the group that a scaled point stands for. -/
structure Stands (p : Scaled) (g : curve.Point) : Prop where
  z_ne_zero : (p.z : ZMod fieldPrime) ≠ 0
  eq_some : ∃ h : curve.Nonsingular (p.x / p.z ^ 2 : ZMod fieldPrime) (p.y / p.z ^ 3),
    g = .some _ _ h

theorem stands_of_eq {p : Scaled} {x y : ZMod fieldPrime} (h : curve.Nonsingular x y)
    (hz : (p.z : ZMod fieldPrime) ≠ 0) (hx : (p.x / p.z ^ 2 : ZMod fieldPrime) = x)
    (hy : (p.y / p.z ^ 3 : ZMod fieldPrime) = y) : p.Stands (.some x y h) := by
  subst hx
  subst hy
  exact ⟨hz, h, rfl⟩

theorem mod_le (n : Nat) : n % fieldPrime ≤ fieldPrime :=
  (Nat.mod_lt _ prime_fieldPrime.pos).le

theorem natCast_ne_zero {n : Nat} (h : n % fieldPrime ≠ 0) : (n : ZMod fieldPrime) ≠ 0 := by
  rw [ne_eq, ZMod.natCast_eq_zero_iff]
  exact fun hdvd => h (Nat.mod_eq_zero_of_dvd hdvd)

/-- The numbers of twice a point, as residues. -/
theorem double?_eq_some {p p' : Scaled} (h : p.double? = some p') :
    (p.y : ZMod fieldPrime) ≠ 0 ∧
      (p'.x : ZMod fieldPrime) = (3 * p.x * p.x) ^ 2 - 2 * (4 * p.x * p.y * p.y) ∧
      (p'.y : ZMod fieldPrime) =
        3 * p.x * p.x * (4 * p.x * p.y * p.y - p'.x) - 8 * p.y * p.y * p.y * p.y ∧
      (p'.z : ZMod fieldPrime) = 2 * p.y * p.z := by
  unfold double? at h
  split at h
  · cases h
  rename_i hy
  cases h
  refine ⟨natCast_ne_zero hy, ?_, ?_, ?_⟩
  · rw [cast_subMod _ (mod_le _)]
    simp only [ZMod.natCast_mod, Nat.cast_mul, Nat.cast_ofNat]
    ring
  · rw [cast_subMod _ (mod_le _), Nat.cast_mul, cast_subMod _ (subMod_lt prime_fieldPrime.pos _ _).le]
    simp only [ZMod.natCast_mod, Nat.cast_mul, Nat.cast_ofNat]
  · simp only [ZMod.natCast_mod, Nat.cast_mul, Nat.cast_ofNat]

/-- **Twice a scaled point stands for twice the point.** -/
theorem stands_double {p p' : Scaled} {g : curve.Point} (h : p.Stands g) (hp : p.double? = some p') :
    p'.Stands (g + g) := by
  obtain ⟨hz, hns, rfl⟩ := h
  obtain ⟨hy, hx', hy', hz'⟩ := double?_eq_some hp
  have htwo := two_ne_zero_mod
  have hne : (p.y / p.z ^ 3 : ZMod fieldPrime) ≠
      curve.negY (p.x / p.z ^ 2) (p.y / p.z ^ 3) := by
    rw [curve_negY]
    intro heq
    have hsum : 2 * (p.y / p.z ^ 3 : ZMod fieldPrime) = 0 := by linear_combination heq
    exact mul_ne_zero htwo (div_ne_zero hy (pow_ne_zero 3 hz)) hsum
  have hslope : curve.slope (p.x / p.z ^ 2 : ZMod fieldPrime) (p.x / p.z ^ 2) (p.y / p.z ^ 3)
      (p.y / p.z ^ 3) = 3 * p.x * p.x / (2 * p.y * p.z) := by
    rw [WeierstrassCurve.Affine.slope_of_Y_ne rfl hne, curve_negY, sub_neg_eq_add, ← two_mul]
    simp only [curve]
    field_simp
    ring
  rw [WeierstrassCurve.Affine.Point.add_some fun hxy => hne hxy.2]
  have hadd : (p'.x / p'.z ^ 2 : ZMod fieldPrime) = curve.addX (p.x / p.z ^ 2) (p.x / p.z ^ 2)
      (3 * p.x * p.x / (2 * p.y * p.z)) := by
    rw [curve_addX, hx', hz']
    field_simp
    ring
  refine stands_of_eq _ ?_ ?_ ?_
  · rw [hz']
    exact mul_ne_zero (mul_ne_zero htwo hy) hz
  · rw [hslope, hadd]
  · rw [hslope, curve_addY, ← hadd, hy', hz']
    field_simp
    ring

/-- The numbers of the sum with the generator, as residues. -/
theorem add?_eq_some {p p' : Scaled} (h : p.add? = some p') :
    ∃ d r : ZMod fieldPrime, d ≠ 0 ∧ d = start.x * p.z ^ 2 - p.x ∧ r = start.y * p.z ^ 3 - p.y ∧
      (p'.x : ZMod fieldPrime) = r ^ 2 - d ^ 3 - 2 * (p.x * d ^ 2) ∧
      (p'.y : ZMod fieldPrime) = r * (p.x * d ^ 2 - p'.x) - p.y * d ^ 3 ∧
      (p'.z : ZMod fieldPrime) = p.z * d := by
  have hlt := subMod_lt prime_fieldPrime.pos
  simp only [add?] at h
  split at h
  · cases h
  rename_i hne
  cases h
  refine ⟨_, subMod fieldPrime (start.y * (p.z * p.z % fieldPrime) * p.z) (p.y % fieldPrime),
    natCast_ne_zero (Nat.mod_eq_of_lt (hlt _ _) ▸ hne), ?_, ?_, ?_, ?_, ?_⟩
  · rw [cast_subMod _ (mod_le _)]
    simp only [ZMod.natCast_mod, Nat.cast_mul]
    ring
  · rw [cast_subMod _ (mod_le _)]
    simp only [ZMod.natCast_mod, Nat.cast_mul]
    ring
  · rw [cast_subMod _ (mod_le _), cast_subMod _ (mod_le _)]
    simp only [ZMod.natCast_mod, Nat.cast_mul, Nat.cast_ofNat]
    ring
  · rw [cast_subMod _ (mod_le _), Nat.cast_mul _ (subMod _ _ _), cast_subMod _ (hlt _ _).le]
    simp only [ZMod.natCast_mod, Nat.cast_mul]
    ring
  · simp only [ZMod.natCast_mod, Nat.cast_mul]

theorem natCast_start_z : (start.z : ZMod fieldPrime) = 1 := Nat.cast_one

variable {g₀ : curve.Point}

/-- **The sum of a scaled point with the generator stands for the sum of the points.** -/
theorem stands_add (h₀ : start.Stands g₀) {p p' : Scaled} {g : curve.Point} (h : p.Stands g)
    (hp : p.add? = some p') : p'.Stands (g + g₀) := by
  obtain ⟨hz, hns, rfl⟩ := h
  obtain ⟨_, hns₀, rfl⟩ := h₀
  obtain ⟨d, r, hd, hd', hr', hx', hy', hz'⟩ := add?_eq_some hp
  -- the differences of the coordinates have the denominators of the scaled point
  have hdx : (p.x / p.z ^ 2 : ZMod fieldPrime) - start.x / start.z ^ 2 = -d / p.z ^ 2 := by
    rw [hd', natCast_start_z]
    field_simp
    ring
  have hdy : (p.y / p.z ^ 3 : ZMod fieldPrime) - start.y / start.z ^ 3 = -r / p.z ^ 3 := by
    rw [hr', natCast_start_z]
    field_simp
    ring
  have hne : (p.x / p.z ^ 2 : ZMod fieldPrime) ≠ start.x / start.z ^ 2 := by
    rw [← sub_ne_zero, hdx]
    exact div_ne_zero (neg_ne_zero.mpr hd) (pow_ne_zero 2 hz)
  have hslope : curve.slope (p.x / p.z ^ 2 : ZMod fieldPrime) (start.x / start.z ^ 2)
      (p.y / p.z ^ 3) (start.y / start.z ^ 3) = r / (p.z * d) := by
    rw [WeierstrassCurve.Affine.slope_of_X_ne hne, hdx, hdy]
    field_simp
  have hstart : (start.x / start.z ^ 2 : ZMod fieldPrime) = (p.x + d) / p.z ^ 2 := by
    rw [add_div]
    linear_combination -hdx
  rw [WeierstrassCurve.Affine.Point.add_some fun hxy => hne hxy.1]
  have hadd : (p'.x / p'.z ^ 2 : ZMod fieldPrime) = curve.addX (p.x / p.z ^ 2)
      (start.x / start.z ^ 2) (r / (p.z * d)) := by
    rw [curve_addX, hstart, hx', hz']
    field_simp
    ring
  refine stands_of_eq _ ?_ ?_ ?_
  · rw [hz']
    exact mul_ne_zero hz hd
  · rw [hslope, hadd]
  · rw [hslope, curve_addY, ← hadd, hy', hz']
    field_simp

/-- **A multiple that is found is the multiple.** -/
theorem stands_multiple (h₀ : start.Stands g₀) {k : Nat} {p : Scaled} (hp : multiple? k = some p) :
    p.Stands (k • g₀) := by
  induction k using Nat.strongRecOn generalizing p with
  | ind k ih =>
    rw [multiple?] at hp
    by_cases hk : k ≤ 1
    · rw [dif_pos hk] at hp
      split at hp
      · rename_i hone
        cases hp
        rwa [hone, one_nsmul]
      · cases hp
    · have hhalf : ∀ twice, (multiple? (k / 2)).bind double? = some twice →
          twice.Stands ((k / 2 + k / 2) • g₀) := by
        intro twice htwice
        obtain ⟨half, hhalf, htwice⟩ := Option.bind_eq_some_iff.mp htwice
        rw [add_nsmul]
        exact stands_double (ih (k / 2) (by omega) hhalf) htwice
      rw [dif_neg hk] at hp
      dsimp only at hp
      split at hp
      · rename_i heven
        have := hhalf p hp
        rwa [show k / 2 + k / 2 = k by omega] at this
      · rename_i hodd
        obtain ⟨twice, htwice, hsum⟩ := Option.bind_eq_some_iff.mp hp
        have := stands_add h₀ (hhalf twice htwice) hsum
        rwa [← succ_nsmul, show k / 2 + k / 2 + 1 = k by omega] at this

theorem stands_start (h : generator = Point.ofGroup g₀) : start.Stands g₀ := by
  obtain _ | ⟨x, y, hns⟩ := g₀
  · cases h
  · have hstart : start = ⟨x.val, y.val, 1⟩ := by rw [start, h, Point.ofGroup_some]
    refine stands_of_eq hns ?_ ?_ ?_
    · rw [natCast_start_z]
      exact one_ne_zero
    · rw [natCast_start_z, hstart, ZMod.natCast_zmod_val, one_pow, div_one]
    · rw [natCast_start_z, hstart, ZMod.natCast_zmod_val, one_pow, div_one]

/-- Whether a scaled point stands for the opposite of the generator. -/
def isOpposite (p : Scaled) : Bool :=
  (start.x * p.z * p.z) % fieldPrime == p.x % fieldPrime &&
    (start.y * p.z * p.z * p.z + p.y) % fieldPrime == 0

theorem stands_neg {p : Scaled} (h₀ : start.Stands g₀) {g : curve.Point} (h : p.Stands g)
    (hp : p.isOpposite = true) : g = -g₀ := by
  obtain ⟨hz, hns, rfl⟩ := h
  obtain ⟨_, hns₀, rfl⟩ := h₀
  simp only [isOpposite, Bool.and_eq_true, beq_iff_eq] at hp
  have hx : (start.x * p.z * p.z : ZMod fieldPrime) = p.x := by
    have := (ZMod.natCast_eq_natCast_iff' _ _ fieldPrime).mpr hp.1
    exact_mod_cast this
  have hy : (start.y * p.z * p.z * p.z + p.y : ZMod fieldPrime) = 0 := by
    have := (ZMod.natCast_eq_zero_iff _ fieldPrime).mpr (Nat.dvd_of_mod_eq_zero hp.2)
    exact_mod_cast this
  rw [WeierstrassCurve.Affine.Point.neg_some]
  congr 1
  · rw [← hx, natCast_start_z]
    field_simp
  · rw [curve_negY, natCast_start_z]
    field_simp
    linear_combination hy

/-- The first coordinate without the denominator. -/
def affineX (p : Scaled) : Nat := p.x * inverseMod fieldPrime (p.z * p.z) % fieldPrime

/-- The first coordinate of the point that a scaled point stands for. -/
theorem x_of_stands {p : Scaled} {g : curve.Point} (h : p.Stands g) :
    (Point.ofGroup g).x = p.affineX := by
  obtain ⟨_, hns, rfl⟩ := h
  have hlt : p.affineX < fieldPrime := Nat.mod_lt _ prime_fieldPrime.pos
  rw [Point.ofGroup_some, Point.x, val_natCast_eq_iff hlt, affineX, ZMod.natCast_mod, Nat.cast_mul,
    cast_inverseMod prime_fieldPrime (by decide), Nat.cast_mul, pow_two, div_eq_mul_inv]

end Scaled

/-- **The generator is a point of the group, and as many times the generator as there are points is
zero.** -/
theorem exists_generator : ∃ g, generator = Point.ofGroup g ∧ groupOrder • g = 0 := by
  obtain ⟨g, hg⟩ := Point.isOnCurve_iff.mp isOnCurve_generator
  have h₀ := Scaled.stands_start hg
  have hfound : (Scaled.multiple? (groupOrder - 1)).any Scaled.isOpposite = true := by
    decide +kernel
  obtain ⟨p, hp, hopposite⟩ := (Option.any_eq_true _ _).mp hfound
  have hneg := Scaled.stands_neg h₀ (Scaled.stands_multiple h₀ hp) hopposite
  refine ⟨g, hg, ?_⟩
  have hsplit : groupOrder = groupOrder - 1 + 1 := (Nat.sub_add_cancel prime_groupOrder.pos).symm
  rw [hsplit, succ_nsmul, hneg, neg_add_cancel]

theorem Point.ofGroup_eq_infinity_iff (g : curve.Point) : ofGroup g = infinity ↔ g = 0 := by
  cases g with
  | zero => exact iff_of_true rfl rfl
  | some x y h => exact iff_of_false nofun nofun

/-- **No multiple of the generator is infinity**, up to its order. -/
theorem mul_generator_ne_infinity {k : Nat} (h : 0 < k ∧ k < groupOrder) :
    Point.mul k generator ≠ .infinity := by
  obtain ⟨g, hg, hzero⟩ := exists_generator
  have hne : g ≠ 0 := by
    intro h0
    rw [(Point.ofGroup_eq_infinity_iff g).mpr h0] at hg
    cases hg
  have : Fact groupOrder.Prime := ⟨prime_groupOrder⟩
  have horder : addOrderOf g = groupOrder := addOrderOf_eq_prime hzero hne
  intro hinfinity
  rw [hg, Point.mul_ofGroup, Point.ofGroup_eq_infinity_iff] at hinfinity
  have hdvd := addOrderOf_dvd_of_nsmul_eq_zero hinfinity
  rw [horder] at hdvd
  exact Nat.not_le.mpr h.2 (Nat.le_of_dvd h.1 hdvd)

/-- The first coordinate of a multiple of the generator that is found without inverses. -/
theorem x_mul_generator {k : Nat} {p : Scaled} (h : Scaled.multiple? k = some p) :
    (Point.mul k generator).x = p.affineX := by
  obtain ⟨g, hg, _⟩ := exists_generator
  rw [hg, Point.mul_ofGroup, Scaled.x_of_stands (Scaled.stands_multiple (Scaled.stands_start hg) h)]

end AttestedPayments.Curve
