import AttestedPayments.Key.CurveKey
import AttestedPayments.Proofs.Bytes
import AttestedPayments.Proofs.Curve.Group

/-!
# Points as octets

* `Point.ofOctets?_uncompressed` — a point of the curve is read back from both of its coordinates.
* `PublicKey.ne_infinity_of_ofPem` — public keys that are read are not the point at infinity.
-/

set_option autoImplicit false

namespace AttestedPayments.Curve

namespace Point

theorem lt_pow_of_lt_fieldPrime {n : Nat} (h : n < fieldPrime) : n < 256 ^ 32 :=
  Nat.lt_trans h (by decide)

theorem length_uncompressed {p : Point} (h : p ≠ infinity) : p.uncompressed.length = 65 := by
  cases p with
  | infinity => exact absurd rfl h
  | affine x y =>
    simp only [uncompressed, List.cons_append, List.length_cons, List.length_append,
      BigEndian.length_digits]

/-- **A point is read back from both of its coordinates.** -/
theorem ofOctets?_uncompressed {p : Point} (hne : p ≠ infinity) (hcurve : p.isOnCurve = true) :
    ofOctets? p.uncompressed = some p := by
  cases p with
  | infinity => exact absurd rfl hne
  | affine x y =>
    have hxy := hcurve
    simp only [isOnCurve, Bool.and_eq_true, decide_eq_true_eq] at hxy
    have hx := BigEndian.value_digits (lt_pow_of_lt_fieldPrime hxy.1.1)
    have hy := BigEndian.value_digits (lt_pow_of_lt_fieldPrime hxy.1.2)
    have htake : (BigEndian.digits 32 x ++ BigEndian.digits 32 y).take 32 = BigEndian.digits 32 x :=
      List.take_left' (BigEndian.length_digits 32 x)
    have hdrop : (BigEndian.digits 32 x ++ BigEndian.digits 32 y).drop 32 = BigEndian.digits 32 y :=
      List.drop_left' (BigEndian.length_digits 32 x)
    have hlen : (BigEndian.digits 32 x ++ BigEndian.digits 32 y).length = 64 := by
      rw [List.length_append, BigEndian.length_digits, BigEndian.length_digits]
    rw [uncompressed, List.cons_append, ofOctets?, if_pos ⟨rfl, hlen⟩, htake, hdrop, hx, hy]
    exact if_pos hcurve

theorem affine_ne_infinity (x y : Nat) : affine x y ≠ infinity := by
  intro h
  cases h

theorem ne_infinity_of_ofX? {x : Nat} {odd : Bool} {p : Point} (h : ofX? x odd = some p) :
    p ≠ infinity := by
  unfold ofX? at h
  split at h
  · split at h
    · cases h
    · rw [← Option.some.inj h]
      exact affine_ne_infinity _ _
  · cases h

theorem ne_infinity_of_ofOctets? {octets : Bytes} {p : Point} (h : ofOctets? octets = some p) :
    p ≠ infinity := by
  unfold ofOctets? at h
  split at h
  · cases h
  · split at h
    · dsimp only at h
      split at h
      · rw [← Option.some.inj h]
        exact affine_ne_infinity _ _
      · cases h
    · split at h
      · exact ne_infinity_of_ofX? h
      · cases h

end Point

/-- The key of the octets of both coordinates. -/
theorem PublicKey.ofOctets_uncompressed {key : PublicKey} (hne : key ≠ .infinity)
    (hcurve : key.isOnCurve = true) : PublicKey.ofOctets key.uncompressed = .ok key := by
  rw [PublicKey.ofOctets, Point.ofOctets?_uncompressed hne hcurve]

/-- Public keys that are read are not the point at infinity. -/
theorem PublicKey.ne_infinity_of_ofPem {pem : String} {key : PublicKey}
    (h : PublicKey.ofPem pem = .ok key) : key ≠ .infinity := by
  unfold PublicKey.ofPem at h
  dsimp only at h
  split at h
  · rename_i found hfound
    cases h
    simp only [Option.bind_eq_bind, Option.bind_eq_some_iff] at hfound
    obtain ⟨der, _, e, _, info, _, hinfo⟩ := hfound
    unfold PublicKey.ofInfo? at hinfo
    split at hinfo
    · obtain ⟨octets, _, hoctets⟩ := Option.bind_eq_some_iff.mp hinfo
      exact Point.ne_infinity_of_ofOctets? hoctets
    · cases hinfo
  · cases h

namespace SecretKey

theorem isOnCurve_toPublic (key : SecretKey) : key.toPublic.isOnCurve = true :=
  Point.isOnCurve_mul key.scalar isOnCurve_generator

/-- **Each side comes to the same product of its own secret and the key of the other side.** -/
theorem mul_toPublic_comm (a b : SecretKey) :
    Point.mul a.scalar b.toPublic = Point.mul b.scalar a.toPublic :=
  Point.mul_comm_mul a.scalar b.scalar isOnCurve_generator

end SecretKey

end AttestedPayments.Curve
