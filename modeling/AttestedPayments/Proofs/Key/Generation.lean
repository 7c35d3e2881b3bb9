import AttestedPayments.Proofs.Envelope.Sealing

/-!
# Key pairs that are generated can be used

* `SecretKey.FirstScalar` — a scalar that keys may have, written by a block of random octets, with no
  such scalar in the blocks before it.
* `SecretKey.draw?_eq_some_iff` — that scalar is drawn. Octets that start again when they are used up
  have no new scalar to offer.

Principal result: `generated_keys_usable`.
-/

set_option autoImplicit false

namespace AttestedPayments.Curve

variable {α : Type} {entropy : Bytes} {d : Nat}

/-- The first number below a bound with a result. -/
theorem findSome?_range_eq_some_iff {f : Nat → Option α} {n : Nat} {a : α} :
    (List.range n).findSome? f = some a ↔ ∃ i < n, f i = some a ∧ ∀ j < i, f j = none := by
  induction n with
  | zero => simp
  | succ n ih =>
    rw [List.range_succ, List.findSome?_append, Option.or_eq_some_iff, ih,
      List.findSome?_singleton]
    constructor
    · rintro (⟨i, hi, hfound⟩ | ⟨hnone, hlast⟩)
      · exact ⟨i, Nat.lt_succ_of_lt hi, hfound⟩
      · refine ⟨n, Nat.lt_succ_self n, hlast, fun j hj => ?_⟩
        exact List.findSome?_eq_none_iff.mp hnone j (List.mem_range.mpr hj)
    · rintro ⟨i, hi, hfound, hbefore⟩
      rcases Nat.lt_succ_iff_lt_or_eq.mp hi with hlt | rfl
      · exact .inl ⟨i, hlt, hfound, hbefore⟩
      · refine .inr ⟨List.findSome?_eq_none_iff.mpr fun j hj => hbefore j (List.mem_range.mp hj),
          hfound⟩

namespace SecretKey

/-! ## Drawing a scalar -/

/-- The scalar is the number of a block, keys may have it, and no block before has such a number. -/
def FirstScalar (entropy : Bytes) (d : Nat) : Prop :=
  (0 < d ∧ d < groupOrder) ∧ ∃ i, BigEndian.value (entropyBlock entropy i) = d ∧
    ∀ j < i, ¬ (0 < BigEndian.value (entropyBlock entropy j) ∧
      BigEndian.value (entropyBlock entropy j) < groupOrder)

theorem ofScalar?_eq_some_iff {n : Nat} {key : SecretKey} :
    ofScalar? n = some key ↔ n = key.scalar := by
  unfold ofScalar?
  constructor
  · intro h
    split at h
    · cases h
      rfl
    · cases h
  · rintro rfl
    exact dif_pos key.inRange

theorem ofScalar?_eq_none_iff {n : Nat} : ofScalar? n = none ↔ ¬ (0 < n ∧ n < groupOrder) := by
  unfold ofScalar?
  constructor
  · intro h hn
    rw [dif_pos hn] at h
    cases h
  · intro h
    exact dif_neg h

/-- The octets start again when they are used up. -/
theorem entropyBlock_mod (entropy : Bytes) (i : Nat) :
    entropyBlock entropy (i % entropy.length) = entropyBlock entropy i := by
  refine List.map_congr_left fun j _ => ?_
  have hplace : (32 * (i % entropy.length) + j) % entropy.length =
      (32 * i + j) % entropy.length := by
    rw [Nat.add_mod, Nat.mul_mod, Nat.mod_mod, ← Nat.mul_mod, ← Nat.add_mod]
  rw [hplace]

theorem value_entropyBlock_nil (i : Nat) : BigEndian.value (entropyBlock [] i) = 0 := by
  have hblock : entropyBlock [] i = List.replicate 32 0 := rfl
  rw [hblock]
  decide

/-- **The first scalar is drawn.** -/
theorem draw?_eq_some_iff {key : SecretKey} :
    draw? entropy = some key ↔ FirstScalar entropy key.scalar := by
  rw [draw?, findSome?_range_eq_some_iff, FirstScalar]
  simp only [ofScalar?_eq_some_iff, ofScalar?_eq_none_iff]
  constructor
  · rintro ⟨i, _, hfirst⟩
    exact ⟨key.inRange, i, hfirst⟩
  · rintro ⟨hrange, i, hvalue, hbefore⟩
    refine ⟨i, Nat.lt_of_not_le fun hle => ?_, hvalue, hbefore⟩
    -- the block has stood before, unless there are no octets
    rcases Nat.eq_zero_or_pos entropy.length with hnil | hpos
    · rw [List.length_eq_zero_iff.mp hnil, value_entropyBlock_nil] at hvalue
      omega
    · have hearlier := hbefore _ (Nat.lt_of_lt_of_le (Nat.mod_lt i hpos) hle)
      rw [entropyBlock_mod, hvalue] at hearlier
      exact hearlier hrange

end SecretKey

/-- **Key pairs that are generated can be used.** The first scalar in a source of random octets is
drawn. From the texts of its pair, also with white space around them, the scalar is read and its
product with the generator; the public key that is read has the same text again. So both texts belong
together. -/
theorem generated_keys_usable (h : SecretKey.FirstScalar entropy d) :
    ∃ key : SecretKey, SecretKey.draw? entropy = some key ∧ key.scalar = d ∧
      (∀ before after, IsBlankText before → IsBlankText after →
        SecretKey.ofPem (before ++ (KeyPair.ofSecret key).privatePem ++ after) = .ok key ∧
        PublicKey.ofPem (before ++ (KeyPair.ofSecret key).publicPem ++ after) =
          .ok (Point.mul d generator)) ∧
      (∀ read, PublicKey.ofPem (KeyPair.ofSecret key).publicPem = .ok read →
        PublicKey.toPem read = (KeyPair.ofSecret key).publicPem) ∧
      Halves (KeyPair.ofSecret key).privatePem (KeyPair.ofSecret key).publicPem := by
  refine ⟨⟨d, h.1⟩, SecretKey.draw?_eq_some_iff.mpr h, rfl, fun before after hbefore hafter => ?_,
    fun read hread => ?_, halves_toPem _⟩
  · exact ⟨SecretKey.ofPem_surrounded _ hbefore hafter,
      SecretKey.ofPem_toPublic_surrounded _ hbefore hafter⟩
  · cases (SecretKey.ofPem_toPem_toPublic ⟨d, h.1⟩).symm.trans hread
    rfl

/-- Two blocks, of which the first is no scalar and the second is one with many leading zeros. -/
def sampleEntropy : Bytes := List.replicate 32 0xff ++ BigEndian.digits 32 1

/-- The second block is drawn, and its pair is read with white space around it. -/
theorem sampleEntropy_usable : ∃ key : SecretKey, SecretKey.draw? sampleEntropy = some key ∧
    key.scalar = 1 ∧
    SecretKey.ofPem ("\n\t" ++ (KeyPair.ofSecret key).privatePem ++ "\r\n") = .ok key ∧
    PublicKey.ofPem ("\n\t" ++ (KeyPair.ofSecret key).publicPem ++ "\r\n") =
      .ok (Point.mul 1 generator) ∧
    Halves (KeyPair.ofSecret key).privatePem (KeyPair.ofSecret key).publicPem := by
  have hfirst : SecretKey.FirstScalar sampleEntropy 1 := by
    refine ⟨by decide, 1, by decide +kernel, fun j hj => ?_⟩
    rw [Nat.lt_one_iff.mp hj]
    decide +kernel
  have hbefore : IsBlankText "\n\t" :=
    List.forall_mem_cons.mpr ⟨by decide, List.forall_mem_singleton.mpr (by decide)⟩
  have hafter : IsBlankText "\r\n" :=
    List.forall_mem_cons.mpr ⟨by decide, List.forall_mem_singleton.mpr (by decide)⟩
  obtain ⟨key, hdraw, hscalar, hread, _, hhalves⟩ := generated_keys_usable hfirst
  obtain ⟨hsecret, hpublic⟩ := hread _ _ hbefore hafter
  exact ⟨key, hdraw, hscalar, hsecret, hpublic, hhalves⟩

end AttestedPayments.Curve
