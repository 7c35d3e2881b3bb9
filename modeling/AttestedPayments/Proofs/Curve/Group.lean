import AttestedPayments.Proofs.Number.Modular
import AttestedPayments.Proofs.Number.Primality
import Mathlib.AlgebraicGeometry.EllipticCurve.Affine.Point

/-!
# Points form a group

* `curve` — the curve over the field of coordinates.
* `Point.ofGroup` — a point of the curve in reduced coordinates.
* `Point.isOnCurve_iff` — the points that lie on the curve are those.

Principal results: `Point.add_ofGroup` and `Point.mul_ofGroup` — sums and multiples are those of the
group; `Point.mul_comm_mul` — multiples commute.
-/

set_option autoImplicit false

namespace AttestedPayments.Curve

instance : Fact fieldPrime.Prime := ⟨prime_fieldPrime⟩

/-- The curve `y² = x³ + 7` over the field of coordinates. -/
def curve : WeierstrassCurve.Affine (ZMod fieldPrime) where
  a₁ := 0
  a₂ := 0
  a₃ := 0
  a₄ := 0
  a₆ := 7

theorem two_ne_zero_mod : (2 : ZMod fieldPrime) ≠ 0 := by
  have h : ((2 : Nat) : ZMod fieldPrime) ≠ 0 := by
    rw [ne_eq, ZMod.natCast_eq_zero_iff]
    decide
  exact_mod_cast h

theorem curve_Δ_ne_zero : curve.Δ ≠ 0 := by
  have hΔ : curve.Δ = -((21168 : Nat) : ZMod fieldPrime) := by
    simp only [WeierstrassCurve.Δ, WeierstrassCurve.b₂, WeierstrassCurve.b₄, WeierstrassCurve.b₆,
      WeierstrassCurve.b₈, curve]
    push_cast
    ring
  rw [hΔ, neg_ne_zero, ne_eq, ZMod.natCast_eq_zero_iff]
  decide

@[simp] theorem curve_negY (x y : ZMod fieldPrime) : curve.negY x y = -y := by
  simp [WeierstrassCurve.Affine.negY, curve]

@[simp] theorem curve_addX (x₁ x₂ slope : ZMod fieldPrime) :
    curve.addX x₁ x₂ slope = slope ^ 2 - x₁ - x₂ := by
  simp [WeierstrassCurve.Affine.addX, curve]

theorem curve_addY (x₁ x₂ y₁ slope : ZMod fieldPrime) :
    curve.addY x₁ x₂ y₁ slope = slope * (x₁ - curve.addX x₁ x₂ slope) - y₁ := by
  simp only [WeierstrassCurve.Affine.addY, WeierstrassCurve.Affine.negAddY, curve_negY]
  ring

theorem curve_equation_iff (x y : ZMod fieldPrime) :
    curve.Equation x y ↔ y * y = x * x * x + 7 := by
  rw [WeierstrassCurve.Affine.equation_iff]
  simp only [curve]
  constructor <;> intro h <;> linear_combination h

theorem curve_nonsingular_iff (x y : ZMod fieldPrime) :
    curve.Nonsingular x y ↔ y * y = x * x * x + 7 := by
  rw [← curve_equation_iff]
  exact (curve.equation_iff_nonsingular_of_Δ_ne_zero curve_Δ_ne_zero).symm

namespace Point

open WeierstrassCurve.Affine.Point (some add_some add_of_Y_eq)

/-- A point of the curve in reduced coordinates. -/
def ofGroup : curve.Point → Point
  | .zero => infinity
  | .some x y _ => affine x.val y.val

@[simp] theorem ofGroup_zero : ofGroup 0 = infinity := rfl

@[simp] theorem ofGroup_some {x y : ZMod fieldPrime} (h : curve.Nonsingular x y) :
    ofGroup (.some x y h) = affine x.val y.val := rfl

/-- **The points that lie on the curve are those of the group.** -/
theorem isOnCurve_iff {p : Point} : p.isOnCurve = true ↔ ∃ g, p = ofGroup g := by
  constructor
  · intro h
    cases p with
    | infinity => exact ⟨0, rfl⟩
    | affine x y =>
      simp only [isOnCurve, Bool.and_eq_true, decide_eq_true_eq, beq_iff_eq] at h
      obtain ⟨⟨hx, hy⟩, heq⟩ := h
      have hcurve : curve.Nonsingular (x : ZMod fieldPrime) y := by
        rw [curve_nonsingular_iff]
        have := (ZMod.natCast_eq_natCast_iff' _ _ fieldPrime).mpr heq
        exact_mod_cast this
      refine ⟨.some x y hcurve, ?_⟩
      rw [ofGroup_some, ZMod.val_natCast_of_lt hx, ZMod.val_natCast_of_lt hy]
  · rintro ⟨_ | ⟨x, y, h⟩, rfl⟩
    · rfl
    · rw [curve_nonsingular_iff] at h
      simp only [ofGroup, isOnCurve, Bool.and_eq_true, decide_eq_true_eq, beq_iff_eq]
      refine ⟨⟨ZMod.val_lt x, ZMod.val_lt y⟩, (ZMod.natCast_eq_natCast_iff' _ _ fieldPrime).mp ?_⟩
      push_cast
      simpa only [ZMod.natCast_zmod_val] using h

theorem onChord_eq (slope : Nat) (x₁ y₁ x₂ : ZMod fieldPrime) :
    onChord slope x₁.val y₁.val x₂.val =
      affine (curve.addX x₁ x₂ slope).val (curve.addY x₁ x₂ y₁ slope).val := by
  have hx : ((subMod fieldPrime (subMod fieldPrime (slope * slope % fieldPrime) x₁.val) x₂.val : Nat) :
      ZMod fieldPrime) = curve.addX x₁ x₂ slope := by
    rw [cast_subMod _ (ZMod.val_lt x₂).le, cast_subMod _ (ZMod.val_lt x₁).le, ZMod.natCast_mod,
      Nat.cast_mul, ZMod.natCast_zmod_val, ZMod.natCast_zmod_val, curve_addX, pow_two]
  have hpos : 0 < fieldPrime := prime_fieldPrime.pos
  simp only [onChord, affine.injEq]
  refine ⟨?_, ?_⟩
  · rw [← hx, ZMod.val_natCast_of_lt (subMod_lt hpos _ _)]
  · refine ((val_natCast_eq_iff (subMod_lt hpos _ _) _).mpr ?_).symm
    rw [curve_addY, ← hx, cast_subMod _ (ZMod.val_lt y₁).le, ZMod.natCast_mod, Nat.cast_mul,
      cast_subMod _ (subMod_lt hpos _ _).le, ZMod.natCast_zmod_val, ZMod.natCast_zmod_val]

/-- **Doubling is that of the group.** -/
theorem double_ofGroup (g : curve.Point) : double (ofGroup g) = ofGroup (g + g) := by
  obtain _ | ⟨x, y, h⟩ := g
  · rfl
  rw [ofGroup_some, double]
  by_cases hy : y = 0
  · rw [if_pos ((ZMod.val_eq_zero y).mpr hy), add_of_Y_eq rfl ?_, ofGroup_zero]
    rw [curve_negY, hy, neg_zero]
  · rw [if_neg (mt (ZMod.val_eq_zero y).mp hy), onChord_eq]
    have hne : y ≠ curve.negY x y := by
      rw [curve_negY]
      intro heq
      have : 2 * y = 0 := by linear_combination heq
      exact (mul_ne_zero two_ne_zero_mod hy) this
    have hslope : ((3 * x.val * x.val * inverseMod fieldPrime (2 * y.val) % fieldPrime : Nat) :
        ZMod fieldPrime) = curve.slope x x y y := by
      rw [WeierstrassCurve.Affine.slope_of_Y_ne rfl hne, curve_negY, ZMod.natCast_mod, Nat.cast_mul,
        cast_inverseMod prime_fieldPrime (by decide)]
      push_cast
      simp only [ZMod.natCast_zmod_val, curve]
      rw [div_eq_mul_inv]
      ring_nf
    rw [add_some (fun hxy => hne hxy.2), ofGroup_some, hslope]

/-- **Addition is that of the group.** -/
theorem add_ofGroup (g g' : curve.Point) : add (ofGroup g) (ofGroup g') = ofGroup (g + g') := by
  obtain _ | ⟨x₁, y₁, h₁⟩ := g
  · exact congrArg ofGroup (zero_add g').symm
  obtain _ | ⟨x₂, y₂, h₂⟩ := g'
  · exact congrArg ofGroup (add_zero (WeierstrassCurve.Affine.Point.some x₁ y₁ h₁)).symm
  by_cases hx : x₁ = x₂
  · subst hx
    by_cases hy : y₁ = y₂
    · subst hy
      rw [← double_ofGroup]
      simp only [ofGroup_some, add, if_true]
    · -- only two points have the same first coordinate
      have hneg : y₁ = curve.negY x₁ y₂ :=
        (WeierstrassCurve.Affine.Y_eq_of_X_eq h₁.1 h₂.1 rfl).resolve_left hy
      rw [add_of_Y_eq rfl hneg, ofGroup_zero]
      simp only [ofGroup_some, add, if_true]
      rw [if_neg (mt (fun heq => ZMod.val_injective _ heq) hy)]
  · have hslope : ((subMod fieldPrime y₂.val y₁.val *
        inverseMod fieldPrime (subMod fieldPrime x₂.val x₁.val) % fieldPrime : Nat) :
        ZMod fieldPrime) = curve.slope x₁ x₂ y₁ y₂ := by
      rw [WeierstrassCurve.Affine.slope_of_X_ne hx, ZMod.natCast_mod, Nat.cast_mul,
        cast_inverseMod prime_fieldPrime (by decide), cast_subMod _ (ZMod.val_lt y₁).le,
        cast_subMod _ (ZMod.val_lt x₁).le]
      simp only [ZMod.natCast_zmod_val]
      rw [← div_eq_mul_inv, ← neg_sub y₁ y₂, ← neg_sub x₁ x₂, neg_div_neg_eq]
    rw [add_some (fun hxy => hx hxy.1)]
    simp only [ofGroup_some, add]
    rw [if_neg (mt (fun heq => ZMod.val_injective _ heq) hx), onChord_eq, hslope]

/-- **Multiples are those of the group.** -/
theorem mul_ofGroup (k : Nat) (g : curve.Point) : mul k (ofGroup g) = ofGroup (k • g) := by
  induction k using Nat.strongRecOn with
  | ind k ih =>
    rw [mul]
    by_cases hk : k = 0
    · rw [dif_pos hk, hk, zero_nsmul, ofGroup_zero]
    · have htwice : double (mul (k / 2) (ofGroup g)) = ofGroup ((k / 2 + k / 2) • g) := by
        rw [ih (k / 2) (by omega), double_ofGroup, add_nsmul]
      simp only [dif_neg hk, htwice]
      by_cases heven : k % 2 = 0
      · rw [if_pos heven, show k / 2 + k / 2 = k by omega]
      · rw [if_neg heven, add_ofGroup, ← succ_nsmul, show k / 2 + k / 2 + 1 = k by omega]

theorem isOnCurve_ofGroup (g : curve.Point) : (ofGroup g).isOnCurve = true :=
  isOnCurve_iff.mpr ⟨g, rfl⟩

/-- Multiples of a point of the curve lie on the curve. -/
theorem isOnCurve_mul (k : Nat) {p : Point} (hp : p.isOnCurve = true) :
    (mul k p).isOnCurve = true := by
  obtain ⟨g, rfl⟩ := isOnCurve_iff.mp hp
  rw [mul_ofGroup]
  exact isOnCurve_ofGroup _

/-- **Both sides of an exchange of keys come to the same point.** -/
theorem mul_comm_mul (a b : Nat) {p : Point} (hp : p.isOnCurve = true) :
    mul a (mul b p) = mul b (mul a p) := by
  obtain ⟨g, rfl⟩ := isOnCurve_iff.mp hp
  simp only [mul_ofGroup, ← mul_nsmul, Nat.mul_comm a b]

end Point

theorem isOnCurve_generator : generator.isOnCurve = true := by decide

end AttestedPayments.Curve
