import AttestedPayments.Curve.Ecdsa
import AttestedPayments.Proofs.Bytes
import AttestedPayments.Proofs.Curve.Order

/-!
# Signatures on the curve fit

* `Signature.InRange` — both numbers are scalars other than zero.
* `Signature.ofDer?_toDer` — such a signature is read back from its writing.
* `sign_eq_signWith` — a signature was made with some nonce, unless none was found.
* `sign_ne_of_firstNonceSuits` — one is found if the first candidate for a nonce gives one.

Principal result: `verify_sign` — a signature fits what was signed.
-/

set_option autoImplicit false

namespace AttestedPayments.Curve

/-! ## Writings -/

namespace Signature

/-- Both numbers are scalars other than zero. -/
structure InRange (sig : Signature) : Prop where
  r_pos : 0 < sig.r
  r_lt : sig.r < groupOrder
  s_pos : 0 < sig.s
  s_lt : sig.s < groupOrder

/-- The octets of a number in its DER writing. -/
def content (n : Nat) : Bytes :=
  let digits := BigEndian.minimal n
  if digits.headD 0 < 0x80 ∧ digits ≠ [] then digits else 0 :: digits

theorem integer_eq (n : Nat) : integer n = 2 :: UInt8.ofNat (content n).length :: content n := rfl

theorem value_content (n : Nat) : BigEndian.value (content n) = n := by
  simp only [content]
  split
  · exact BigEndian.value_minimal n
  · rw [BigEndian.value_zero_cons, BigEndian.value_minimal]

theorem width_le_of_lt {n : Nat} (h : n < groupOrder) : BigEndian.width n ≤ 32 := by
  by_cases hn : n = 0
  · subst hn
    exact Nat.zero_le _
  · by_contra hwide
    have hpow : 256 ^ 32 ≤ 256 ^ (BigEndian.width n - 1) :=
      Nat.pow_le_pow_right (by decide) (by omega)
    have hbound : groupOrder < 256 ^ 32 := by decide
    have := BigEndian.pow_width_le hn
    omega

theorem length_content_le {n : Nat} (h : n < groupOrder) : (content n).length ≤ 33 := by
  have hwidth := width_le_of_lt h
  simp only [content]
  split
  · rw [BigEndian.length_minimal]
    omega
  · rw [List.length_cons, BigEndian.length_minimal]
    omega

/-- The writing of a signature is short. -/
theorem length_toDer_le {sig : Signature} (h : sig.InRange) : sig.toDer.length ≤ 72 := by
  have hr := length_content_le h.r_lt
  have hs := length_content_le h.s_lt
  have hder : sig.toDer = 0x30 :: UInt8.ofNat (integer sig.r ++ integer sig.s).length ::
      (integer sig.r ++ integer sig.s) := rfl
  rw [hder, integer_eq, integer_eq]
  simp only [List.length_cons, List.length_append]
  omega

theorem readInteger_append {n : Nat} (h : n < groupOrder) (rest : Bytes) :
    readInteger (integer n ++ rest) = some (n, rest) := by
  have hlen := length_content_le h
  have hnat : (UInt8.ofNat (content n).length).toNat = (content n).length :=
    UInt8.toNat_ofNat_of_lt' (by rw [UInt8.size]; omega)
  have hsmall : UInt8.ofNat (content n).length < 0x80 := by
    rw [UInt8.lt_iff_toNat_lt, hnat]
    exact Nat.lt_of_le_of_lt hlen (by decide)
  have hread := integer_eq n
  rw [hread, List.cons_append, List.cons_append, readInteger]
  simp only [hnat, List.take_left, List.drop_left, value_content, hread, List.cons_append,
    and_true, if_pos hsmall]

/-- **A signature is read back from its writing.** -/
theorem ofDer?_toDer {sig : Signature} (h : sig.InRange) : ofDer? sig.toDer = some sig := by
  have hr := readInteger_append h.r_lt (integer sig.s)
  have hs := readInteger_append h.s_lt []
  rw [List.append_nil] at hs
  have hder : sig.toDer = 0x30 :: UInt8.ofNat (integer sig.r ++ integer sig.s).length ::
      (integer sig.r ++ integer sig.s) := rfl
  rw [hder, ofDer?]
  simp only [hr, hs, ← hder]
  exact if_pos ⟨h.r_pos, h.r_lt, h.s_pos, h.s_lt, trivial⟩

end Signature

/-! ## Nonces -/

/-- The search for a nonce found one. -/
theorem signFrom_eq (secret : Nat) (message : Bytes) (budget : Nat) (state : NonceState) :
    signFrom secret message budget state = ⟨0, 0⟩ ∨
      ∃ nonce, 0 < nonce ∧ nonce < groupOrder ∧
        signWith secret message nonce = some (signFrom secret message budget state) := by
  induction budget generalizing state with
  | zero => exact .inl rfl
  | succ budget ih =>
    rw [signFrom]
    split
    · rename_i hrange
      split
      · rename_i sig hsig
        exact .inr ⟨_, hrange.1, hrange.2, hsig⟩
      · exact ih _
    · exact ih _

/-- A signature was made with some nonce, unless none was found. -/
theorem sign_eq_signWith {secret : Nat} {message : Bytes} (h : sign secret message ≠ ⟨0, 0⟩) :
    ∃ nonce, 0 < nonce ∧ nonce < groupOrder ∧
      signWith secret message nonce = some (sign secret message) :=
  (signFrom_eq secret message nonceBudget _).resolve_left h

/-- What a signature with a nonce is made of. Of the two numbers that `s` may be, it is the
smaller. -/
theorem signWith_eq_some {secret nonce : Nat} {message : Bytes} {sig : Signature}
    (h : signWith secret message nonce = some sig) :
    sig.r = (Point.mul nonce generator).x % groupOrder ∧ sig.InRange ∧
      sig.s ≤ groupOrder / 2 ∧
        ((sig.s : ZMod groupOrder) =
            (inverseMod groupOrder nonce : ZMod groupOrder) *
              (messageScalar message + sig.r * secret) ∨
          (sig.s : ZMod groupOrder) =
            -((inverseMod groupOrder nonce : ZMod groupOrder) *
              (messageScalar message + sig.r * secret))) := by
  have hpos : 0 < groupOrder := prime_groupOrder.pos
  simp only [signWith] at h
  split at h
  · cases h
  rename_i hzero
  obtain ⟨hr, hs⟩ := not_or.mp hzero
  set r := (Point.mul nonce generator).x % groupOrder with hrdef
  set s := inverseMod groupOrder nonce * (messageScalar message + r * secret) % groupOrder
    with hsdef
  have hrlt : r < groupOrder := Nat.mod_lt _ hpos
  have hslt : s < groupOrder := Nat.mod_lt _ hpos
  have hscast : (s : ZMod groupOrder) = (inverseMod groupOrder nonce : ZMod groupOrder) *
      (messageScalar message + r * secret) := by
    rw [hsdef, ZMod.natCast_mod]
    push_cast
    rfl
  cases h
  refine ⟨rfl, ⟨by show 0 < r; omega, hrlt, ?_, ?_⟩, ?_, ?_⟩
  · show 0 < min s (groupOrder - s)
    omega
  · show min s (groupOrder - s) < groupOrder
    omega
  · show min s (groupOrder - s) ≤ groupOrder / 2
    omega
  · obtain hmin | hmin := Nat.le_total s (groupOrder - s)
    · refine .inl ?_
      show ((min s (groupOrder - s) : Nat) : ZMod groupOrder) = _
      rw [Nat.min_eq_left hmin, hscast]
    · refine .inr ?_
      show ((min s (groupOrder - s) : Nat) : ZMod groupOrder) = _
      rw [Nat.min_eq_right hmin, Nat.cast_sub hslt.le, ZMod.natCast_self, zero_sub, hscast]

theorem inRange_sign {secret : Nat} {message : Bytes} (h : sign secret message ≠ ⟨0, 0⟩) :
    (sign secret message).InRange := by
  obtain ⟨nonce, _, _, hsign⟩ := sign_eq_signWith h
  exact (signWith_eq_some hsign).2.1

/-! ## A nonce that will do -/

/-- Whether a nonce gives a signature, computed without inverses of coordinates. -/
def nonceSuits (secret : Nat) (message : Bytes) (nonce : Nat) : Bool :=
  (Scaled.multiple? nonce).any fun p =>
    let r := p.affineX % groupOrder
    r != 0 && inverseMod groupOrder nonce * (messageScalar message + r * secret) % groupOrder != 0

theorem exists_signWith {secret nonce : Nat} {message : Bytes}
    (h : nonceSuits secret message nonce = true) :
    ∃ sig, signWith secret message nonce = some sig := by
  obtain ⟨p, hp, hsuits⟩ := (Option.any_eq_true _ _).mp h
  simp only [Bool.and_eq_true, bne_iff_ne] at hsuits
  simp only [signWith, x_mul_generator hp]
  exact ⟨_, if_neg (not_or.mpr hsuits)⟩

/-- Whether the first candidate for a nonce gives a signature. -/
def firstNonceSuits (secret : Nat) (message : Bytes) : Bool :=
  let nonce := BigEndian.value (NonceState.start secret message).advance.value
  decide (0 < nonce ∧ nonce < groupOrder) && nonceSuits secret message nonce

/-- A signature is found if the first candidate for a nonce gives one. -/
theorem sign_ne_of_firstNonceSuits {secret : Nat} {message : Bytes}
    (h : firstNonceSuits secret message = true) : sign secret message ≠ ⟨0, 0⟩ := by
  simp only [firstNonceSuits, Bool.and_eq_true, decide_eq_true_eq] at h
  obtain ⟨hrange, hsuits⟩ := h
  obtain ⟨sig, hsig⟩ := exists_signWith hsuits
  have hsign : sign secret message = sig := by
    rw [sign, nonceBudget, signFrom]
    simp only [if_pos hrange, hsig]
  intro hzero
  have hpos := (signWith_eq_some hsig).2.1.r_pos
  rw [← hsign, hzero] at hpos
  exact Nat.lt_irrefl 0 hpos

/-- A signature that is found is not written like the one that stands for a search without result. -/
theorem toDer_ne_of_sign_ne {secret : Nat} {message : Bytes} (h : sign secret message ≠ ⟨0, 0⟩) :
    (sign secret message).toDer ≠ (Signature.mk 0 0).toDer := by
  intro heq
  have hread := Signature.ofDer?_toDer (inRange_sign h)
  rw [heq] at hread
  have hnone : Signature.ofDer? (Signature.mk 0 0).toDer = none := by decide +kernel
  rw [hnone] at hread
  cases hread

/-! ## Verification -/

/-- What verification computes is a point other than infinity, and its first coordinate is `r`. -/
theorem verify_of_x {key : Point} {message : Bytes} {sig : Signature} (hrange : sig.InRange)
    (hhalf : sig.s ≤ groupOrder / 2)
    (h : (Point.add
        (Point.mul (messageScalar message * inverseMod groupOrder sig.s % groupOrder) generator)
        (Point.mul (sig.r * inverseMod groupOrder sig.s % groupOrder) key)).x % groupOrder =
      sig.r) : verify key message sig = true := by
  unfold verify
  dsimp only
  split
  · rename_i hinfinity
    -- the point at infinity counts as zero, which `r` is not
    rw [hinfinity, Point.x, Nat.zero_mod] at h
    exact absurd h.symm (Nat.pos_iff_ne_zero.mp hrange.r_pos)
  · rename_i haffine
    rw [haffine, Point.x] at h
    rw [h, beq_self_eq_true, Bool.and_true]
    exact decide_eq_true hhalf

/-- The two parts of what verification computes add up to the nonce or to its negative. -/
theorem scalars_add {nonce secret z r s : ZMod groupOrder} [Fact groupOrder.Prime]
    (hs : s ≠ 0) (hnonce : nonce ≠ 0)
    (h : s = nonce⁻¹ * (z + r * secret) ∨ s = -(nonce⁻¹ * (z + r * secret))) :
    z * s⁻¹ + r * s⁻¹ * secret = nonce ∨ z * s⁻¹ + r * s⁻¹ * secret = -nonce := by
  have hsum : z * s⁻¹ + r * s⁻¹ * secret = (z + r * secret) * s⁻¹ := by ring
  rw [hsum]
  obtain h | h := h
  · left
    have hz : z + r * secret = nonce * s := by
      rw [h]
      field_simp
    rw [hz, mul_assoc, mul_inv_cancel₀ hs, mul_one]
  · right
    have hz : z + r * secret = -nonce * s := by
      rw [h]
      field_simp
    rw [hz, mul_assoc, mul_inv_cancel₀ hs, mul_one]

/-- Multiples of the generator depend on the residue only. -/
theorem nsmul_eq_of_cast_eq {g : curve.Point} (hg : groupOrder • g = 0) {a b : Nat}
    (h : (a : ZMod groupOrder) = b) : a • g = b • g := by
  rw [nsmul_eq_mod_nsmul a hg, nsmul_eq_mod_nsmul b hg, (ZMod.natCast_eq_natCast_iff' _ _ _).mp h]

/-- Opposite points have the same first coordinate. -/
theorem Point.x_ofGroup_neg (g : curve.Point) : (ofGroup (-g)).x = (ofGroup g).x := by
  obtain _ | ⟨x, y, h⟩ := g <;> rfl

/-- **A signature fits what was signed.** -/
theorem verify_sign {secret : Nat} {message : Bytes} (h : sign secret message ≠ ⟨0, 0⟩) :
    verify (Point.mul secret generator) message (sign secret message) = true := by
  have : Fact groupOrder.Prime := ⟨prime_groupOrder⟩
  have htwo : 2 < groupOrder := by decide
  obtain ⟨nonce, hpos, hlt, hsign⟩ := sign_eq_signWith h
  obtain ⟨hr, hrange, hhalf, hs⟩ := signWith_eq_some hsign
  set sig := sign secret message
  obtain ⟨g, hg, horder⟩ := exists_generator
  have hnonce : (nonce : ZMod groupOrder) ≠ 0 := by
    rw [ne_eq, ZMod.natCast_eq_zero_iff]
    exact Nat.not_dvd_of_pos_of_lt hpos hlt
  have hszero : (sig.s : ZMod groupOrder) ≠ 0 := by
    rw [ne_eq, ZMod.natCast_eq_zero_iff]
    exact Nat.not_dvd_of_pos_of_lt hrange.s_pos hrange.s_lt
  rw [cast_inverseMod prime_groupOrder htwo] at hs
  have hscalars := scalars_add hszero hnonce hs
  -- the point that verification computes, as a multiple of the generator
  set u := messageScalar message * inverseMod groupOrder sig.s % groupOrder with hu
  set v := sig.r * inverseMod groupOrder sig.s % groupOrder with hv
  have hcast : ((u + v * secret : Nat) : ZMod groupOrder) =
      messageScalar message * (sig.s : ZMod groupOrder)⁻¹ +
        sig.r * (sig.s : ZMod groupOrder)⁻¹ * secret := by
    rw [Nat.cast_add, Nat.cast_mul, hu, hv, ZMod.natCast_mod, ZMod.natCast_mod, Nat.cast_mul,
      Nat.cast_mul, cast_inverseMod prime_groupOrder htwo]
  have hpoint : Point.add (Point.mul u generator) (Point.mul v (Point.mul secret generator)) =
      Point.ofGroup ((u + v * secret) • g) := by
    rw [hg, Point.mul_ofGroup, Point.mul_ofGroup, Point.mul_ofGroup, Point.add_ofGroup, add_nsmul,
      mul_nsmul']
  have hx : (Point.ofGroup ((u + v * secret) • g)).x = (Point.mul nonce generator).x := by
    rw [hg, Point.mul_ofGroup]
    obtain heq | heq := hscalars
    · rw [nsmul_eq_of_cast_eq horder (hcast.trans heq)]
    · have hneg : (u + v * secret) • g = -(nonce • g) := by
        rw [eq_neg_iff_add_eq_zero, ← add_nsmul, nsmul_eq_of_cast_eq (b := 0) horder, zero_nsmul]
        rw [Nat.cast_add, hcast, heq, neg_add_cancel, Nat.cast_zero]
      rw [hneg, Point.x_ofGroup_neg]
  refine verify_of_x hrange hhalf ?_
  rw [← hu, ← hv, hpoint, hx, hr]

end AttestedPayments.Curve
