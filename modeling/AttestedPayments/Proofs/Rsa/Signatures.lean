import AttestedPayments.Key.RsaKey
import AttestedPayments.Proofs.Bytes
import AttestedPayments.Proofs.Hash.Lengths
import AttestedPayments.Proofs.Number.Modular
import Mathlib.Data.Nat.ModEq
import Mathlib.FieldTheory.Finite.Basic

/-!
# What signatures with RSA keys are worth

* `verify_iff` — what verification asks for.
* `digest_eq_of_verify` — under one key, a signature fits the messages of one digest only.
* `sign?_eq_some_iff`, `verify_of_sign?` — what there is to a signature, and that it verifies.
* `PrivateKey.CanSign` — a key signs every message.
* `PrivateKey.IsHalfOf` — a private key belongs to a public one: its numbers are those of the public
  key, its factors are two distinct primes, and its modulus has room for a digest. Such a key
  `canSign`.
* `sign`, `verify_sign` — the signature by a key that can sign, which fits what was signed with the
  private half.
-/

set_option autoImplicit false

namespace AttestedPayments.Rsa

variable {kind : DigestKind} {size : Nat} {a b message signature : Bytes}

/-! ## Padded digests -/

@[simp] theorem DigestKind.length_digest (kind : DigestKind) (message : Bytes) :
    (kind.digest message).length = kind.digestLength := by
  cases kind
  · exact Hash.Sha256.length_digest message
  · exact Hash.Sha512.length_digest384 message
  · exact Hash.Sha512.length_digest message

theorem DigestKind.length_digestInfo (kind : DigestKind) (message : Bytes) :
    (kind.digestInfo message).length = 19 + kind.digestLength := by
  rw [digestInfo, List.length_append, DigestKind.length_digest]
  rfl

theorem DigestKind.digest_eq_of_digestInfo_eq (h : kind.digestInfo a = kind.digestInfo b) :
    kind.digest a = kind.digest b :=
  List.append_cancel_left h

/-- A padded digest is the octet 00, then a number of one octet less. -/
theorem padded_eq_some (h : kind.digestLength + 30 ≤ size) (message : Bytes) :
    ∃ rest, padded kind size message = some (0 :: rest) ∧ rest.length + 1 = size := by
  have hlen := kind.length_digestInfo message
  have hsize : (kind.digestInfo message).length + 11 ≤ size := by omega
  refine ⟨1 :: List.replicate (size - (kind.digestInfo message).length - 3) 0xff ++
    0 :: kind.digestInfo message, ?_, ?_⟩
  · rw [padded, if_pos hsize]
    rfl
  · simp only [List.cons_append, List.length_cons, List.length_append, List.length_replicate]
    omega

/-- What is padded has room for the digest and eleven octets more. -/
theorem le_size_of_padded {octets : Bytes} (h : padded kind size message = some octets) :
    kind.digestLength + 30 ≤ size := by
  have hlen := kind.length_digestInfo message
  obtain ⟨hsize, _⟩ := Option.ite_none_right_eq_some.mp h
  omega

/-- Padding hides nothing of a digest. -/
theorem digest_eq_of_padded_eq {octets : Bytes} (ha : padded kind size a = some octets)
    (hb : padded kind size b = some octets) : kind.digest a = kind.digest b := by
  unfold padded at ha hb
  simp only [kind.length_digestInfo] at ha hb
  by_cases hsize : 19 + kind.digestLength + 11 ≤ size
  · rw [if_pos hsize] at ha hb
    have h := Option.some.inj (ha.trans hb.symm)
    have hinfo := (List.append_inj' h (by simp [kind.length_digestInfo])).2
    exact kind.digest_eq_of_digestInfo_eq (List.cons.inj hinfo).2
  · rw [if_neg hsize] at ha
    cases ha

/-! ## Verification -/

/-- What verification asks for. -/
theorem verify_iff {key : PublicKey} :
    verify kind key message signature = true ↔
      signature.length = key.size ∧ BigEndian.value signature < key.modulus ∧
        padded kind key.size message =
          some (BigEndian.digits key.size
            (BigEndian.value signature ^ key.exponent % key.modulus)) := by
  simp only [verify, powMod_eq, Bool.and_eq_true, beq_iff_eq, decide_eq_true_eq, and_assoc]

/-- **One key and one signature fit one digest.** -/
theorem digest_eq_of_verify {key : PublicKey} (ha : verify kind key a signature = true)
    (hb : verify kind key b signature = true) : kind.digest a = kind.digest b :=
  digest_eq_of_padded_eq (verify_iff.mp ha).2.2 (verify_iff.mp hb).2.2

/-! ## Signing -/

variable {key : PrivateKey}

/-- What there is to a signature: the root of the padded digest, from which the public exponent leads
back. -/
theorem sign?_eq_some_iff : sign? key message = some signature ↔
    ∃ octets, padded .sha256 key.toPublic.size message = some octets ∧
      key.root (BigEndian.value octets) ^ key.exponent % key.modulus = BigEndian.value octets ∧
      BigEndian.digits key.toPublic.size (key.root (BigEndian.value octets)) = signature := by
  unfold sign?
  cases hpadded : padded .sha256 key.toPublic.size message with
  | none => simp [hpadded]
  | some octets => simp [hpadded, powMod_eq]

/-- What signs has room for a digest. -/
theorem size_le_of_sign? (h : sign? key message = some signature) :
    DigestKind.sha256.digestLength + 30 ≤ key.toPublic.size := by
  obtain ⟨_, hpadded, _⟩ := sign?_eq_some_iff.mp h
  exact le_size_of_padded hpadded

theorem length_of_sign? (h : sign? key message = some signature) :
    signature.length = key.toPublic.size := by
  obtain ⟨_, _, _, rfl⟩ := sign?_eq_some_iff.mp h
  exact BigEndian.length_digits _ _

/-- A signature is never empty. -/
theorem ne_nil_of_sign? (h : sign? key message = some signature) : signature ≠ [] := by
  have hlength := length_of_sign? h
  have hsize := size_le_of_sign? h
  rintro rfl
  rw [List.length_nil] at hlength
  omega

/-- What a sound private key is made of. -/
theorem PrivateKey.isSound_iff (key : PrivateKey) :
    key.isSound = true ↔
      key.toPublic.isSound = true ∧ 1 < key.firstFactor ∧ 1 < key.secondFactor ∧
        key.firstFactor * key.secondFactor = key.modulus ∧ 0 < key.secretExponent ∧
        (key.secretExponent * key.exponent - 1) % (key.firstFactor - 1) = 0 ∧
        (key.secretExponent * key.exponent - 1) % (key.secondFactor - 1) = 0 := by
  simp only [isSound, Bool.and_eq_true, decide_eq_true_eq, and_assoc]

theorem PublicKey.isSound_iff (key : PublicKey) :
    key.isSound = true ↔
      key.modulus % 2 = 1 ∧ key.exponent % 2 = 1 ∧ key.exponent < key.modulus ∧
        3 ≤ key.exponent ∧ key.exponent ≤ maxExponent := by
  simp only [isSound, Bool.and_eq_true, decide_eq_true_eq, and_assoc]

theorem PrivateKey.isSound_of_ofOctets? {octets : Bytes} (h : ofOctets? octets = some key) :
    key.isSound = true := by
  unfold ofOctets? at h
  split at h
  · cases h
  · split at h
    · obtain ⟨hsound, hkey⟩ := Option.ite_none_right_eq_some.mp h
      cases hkey
      exact hsound
    · cases h

/-- Only sound private keys are read. -/
theorem PrivateKey.isSound_of_ofPem {pem : String} (h : ofPem pem = .ok key) :
    key.isSound = true := by
  unfold ofPem at h
  dsimp only at h
  split at h
  · rename_i hcontained
    cases h
    obtain ⟨_, _, hcontained⟩ := Option.bind_eq_some_iff.mp hcontained
    obtain ⟨_, _, hcontained⟩ := Option.bind_eq_some_iff.mp hcontained
    obtain ⟨_, _, hinfo⟩ := Option.bind_eq_some_iff.mp hcontained
    exact isSound_of_ofOctets? (Option.ite_none_right_eq_some.mp hinfo).2
  · split at h
    · rename_i hbare
      cases h
      obtain ⟨_, _, hoctets⟩ := Option.bind_eq_some_iff.mp hbare
      exact isSound_of_ofOctets? hoctets
    · cases h

/-- Roots are reduced. -/
theorem PrivateKey.root_lt (hsound : key.isSound = true) (n : Nat) : key.root n < key.modulus := by
  obtain ⟨_, hp, hq, hmul, _⟩ := key.isSound_iff.mp hsound
  cases hinverse : inverse? key.firstFactor key.secondFactor with
  | none =>
    simp only [root, hinverse, powMod_eq]
    exact Nat.mod_lt _ (hmul ▸ Nat.mul_pos (by omega) (by omega))
  | some inverse =>
    simp only [root, hinverse, powMod_eq, ← hmul]
    exact recombine_lt (by omega) (Nat.mod_lt _ (by omega)) _ _

/-- **What a sound key signs verifies with its public half**, whatever its factors are. -/
theorem verify_of_sign? (hsound : key.isSound = true) (h : sign? key message = some signature) :
    verify .sha256 key.toPublic message signature = true := by
  obtain ⟨octets, hpadded, hroot, rfl⟩ := sign?_eq_some_iff.mp h
  obtain ⟨rest, hrest, hlen⟩ := padded_eq_some (size_le_of_sign? h) message
  obtain rfl := Option.some.inj (hpadded.symm.trans hrest)
  have hlt : key.root (BigEndian.value (0 :: rest)) < key.modulus := PrivateKey.root_lt hsound _
  have hvalue : BigEndian.value (BigEndian.digits key.toPublic.size
      (key.root (BigEndian.value (0 :: rest)))) = key.root (BigEndian.value (0 :: rest)) :=
    BigEndian.value_digits (Nat.lt_trans hlt (BigEndian.lt_pow_width key.modulus))
  have hdigits : BigEndian.digits key.toPublic.size (BigEndian.value (0 :: rest)) = 0 :: rest := by
    rw [← hlen]
    exact BigEndian.digits_value (0 :: rest)
  refine verify_iff.mpr ⟨BigEndian.length_digits _ _, ?_, ?_⟩
  · rw [hvalue]
    exact hlt
  · rw [hvalue, hpadded]
    exact congrArg some (hdigits.symm.trans (congrArg _ hroot.symm))

/-! ## Keys that sign -/

/-- There is a signature of every message. -/
def PrivateKey.CanSign (key : PrivateKey) : Prop :=
  ∀ message, ∃ signature, sign? key message = some signature

/-- A private key belongs to a public one. Its factors are two distinct primes. A smaller modulus has
no room for a padded digest, and nothing can be signed with it. -/
structure PrivateKey.IsHalfOf (key : PrivateKey) (publicKey : PublicKey) : Prop where
  toPublic_eq : key.toPublic = publicKey
  sound : key.isSound = true
  first_prime : key.firstFactor.Prime
  second_prime : key.secondFactor.Prime
  factors_ne : key.firstFactor ≠ key.secondFactor
  size_le : DigestKind.sha256.digestLength + 30 ≤ publicKey.size

/-- An exponent that is one modulo `p - 1` changes nothing modulo `p`. -/
theorem pow_modEq_self {p e n : Nat} (hp : p.Prime) (h : e % (p - 1) = 1) : n ^ e ≡ n [MOD p] := by
  have hexp : (p - 1) * (e / (p - 1)) + 1 = e := by
    have := Nat.div_add_mod e (p - 1)
    rwa [h] at this
  by_cases hdvd : p ∣ n
  · have hn : n ≡ 0 [MOD p] := (Nat.modEq_zero_iff_dvd).mpr hdvd
    have hpow : n ^ e ≡ 0 [MOD p] := (Nat.modEq_zero_iff_dvd).mpr (dvd_pow hdvd (by omega))
    exact hpow.trans hn.symm
  · have hcop : n.Coprime p := ((Nat.Prime.coprime_iff_not_dvd hp).mpr hdvd).symm
    have hone : n ^ (p - 1) ≡ 1 [MOD p] := by
      have := Nat.ModEq.pow_totient hcop
      rwa [Nat.totient_prime hp] at this
    calc n ^ e = (n ^ (p - 1)) ^ (e / (p - 1)) * n := by
          rw [← pow_mul, ← pow_succ, hexp]
      _ ≡ 1 ^ (e / (p - 1)) * n [MOD p] := (hone.pow _).mul_right n
      _ = n := by rw [one_pow, one_mul]

/-- The public exponent leads back from a root modulo an odd prime. -/
theorem powMod_pow_modEq {p d e : Nat} (hp : p.Prime) (hodd : p % 2 = 1) (hpos : 0 < d * e)
    (h : (d * e - 1) % (p - 1) = 0) (n : Nat) : powMod p n (d % (p - 1)) ^ e ≡ n [MOD p] := by
  have htwo := hp.two_le
  have hone : d % (p - 1) * e % (p - 1) = 1 := by
    rw [Nat.mod_mul_mod, ← Nat.sub_add_cancel hpos, Nat.add_mod, h, Nat.zero_add, Nat.mod_mod]
    exact Nat.mod_eq_of_lt (by omega)
  calc powMod p n (d % (p - 1)) ^ e
      ≡ (n ^ (d % (p - 1))) ^ e [MOD p] := by
        rw [powMod_eq]
        exact (Nat.mod_modEq _ _).pow e
    _ = n ^ (d % (p - 1) * e) := (pow_mul _ _ _).symm
    _ ≡ n [MOD p] := pow_modEq_self hp hone

namespace PrivateKey.IsHalfOf

variable {publicKey : PublicKey}

/-- The public exponent leads back from a root. -/
theorem root_pow_mod (h : key.IsHalfOf publicKey) {n : Nat} (hn : n < key.modulus) :
    key.root n ^ key.exponent % key.modulus = n := by
  obtain ⟨rfl, hsound, hp, hq, hne, _⟩ := h
  obtain ⟨hpublic, _, _, hmul, hd, hmodp, hmodq⟩ := key.isSound_iff.mp hsound
  obtain ⟨hodd, _, _, he, _⟩ := key.toPublic.isSound_iff.mp hpublic
  have hpos : 0 < key.secretExponent * key.exponent :=
    Nat.mul_pos hd (Nat.lt_of_lt_of_le (by decide) he)
  have hodds : key.firstFactor % 2 = 1 ∧ key.secondFactor % 2 = 1 := by
    rw [← Nat.odd_iff, ← Nat.odd_iff, ← Nat.odd_mul, hmul]
    exact Nat.odd_iff.mpr hodd
  have hcop : key.firstFactor.Coprime key.secondFactor := (Nat.coprime_primes hp hq).mpr hne
  have : NeZero key.firstFactor := ⟨hp.ne_zero⟩
  obtain ⟨inverse, hinverse⟩ := exists_inverse? hcop
  -- two distinct primes have an inverse, so the root is put together of those modulo both factors
  have hroot : key.root n = recombine key.firstFactor key.secondFactor inverse
      (powMod key.firstFactor n (key.secretExponent % (key.firstFactor - 1)))
      (powMod key.secondFactor n (key.secretExponent % (key.secondFactor - 1))) := by
    rw [root, hinverse]
  have hboth : key.root n ^ key.exponent ≡ n [MOD key.firstFactor * key.secondFactor] := by
    refine (Nat.modEq_and_modEq_iff_modEq_mul hcop).mp ⟨?_, ?_⟩
    · rw [hroot]
      exact ((recombine_modEq_left hinverse _ _).pow _).trans
        (powMod_pow_modEq hp hodds.1 hpos hmodp n)
    · rw [hroot]
      exact ((recombine_modEq_right _ _ _ _ _).pow _).trans
        (powMod_pow_modEq hq hodds.2 hpos hmodq n)
  rw [hmul] at hboth
  exact Nat.mod_eq_of_modEq hboth hn

/-- **A key with room for a digest whose factors are two distinct primes signs every message.** -/
theorem canSign (h : key.IsHalfOf publicKey) : key.CanSign := by
  intro message
  have hsize : DigestKind.sha256.digestLength + 30 ≤ key.toPublic.size := h.toPublic_eq ▸ h.size_le
  obtain ⟨rest, hpadded, hlen⟩ := padded_eq_some hsize message
  have hne : key.modulus ≠ 0 := by
    intro hzero
    simp [PublicKey.size, toPublic, hzero, BigEndian.width] at hsize
  -- the padded digest begins with 00, so it is below the modulus
  have hbelow : BigEndian.value (0 :: rest) < key.modulus := by
    have hrest : rest.length = BigEndian.width key.modulus - 1 := by
      have : key.toPublic.size = BigEndian.width key.modulus := rfl
      omega
    have hlt := BigEndian.value_lt rest
    rw [hrest] at hlt
    rw [BigEndian.value_zero_cons]
    exact Nat.lt_of_lt_of_le hlt (BigEndian.pow_width_le hne)
  exact ⟨_, sign?_eq_some_iff.mpr ⟨_, hpadded, h.root_pow_mod hbelow, rfl⟩⟩

end PrivateKey.IsHalfOf

/-- The signature by a key that can sign. Keys that cannot are told apart by `sign?` alone. -/
def sign (key : PrivateKey) (message : Bytes) : Bytes := (sign? key message).getD []

theorem PrivateKey.CanSign.sign?_eq (h : key.CanSign) (message : Bytes) :
    sign? key message = some (sign key message) := by
  obtain ⟨signature, hsignature⟩ := h message
  rw [sign, hsignature, Option.getD_some]

namespace PrivateKey.IsHalfOf

variable {publicKey : PublicKey}

/-- **A signature fits what was signed with the private half.** -/
theorem verify_sign (h : key.IsHalfOf publicKey) (message : Bytes) :
    verify .sha256 publicKey message (sign key message) = true := by
  rw [← h.toPublic_eq]
  exact verify_of_sign? h.sound (h.canSign.sign?_eq message)

/-- A signature is as long as the modulus. -/
theorem length_sign (h : key.IsHalfOf publicKey) (message : Bytes) :
    (sign key message).length = publicKey.size := by
  rw [← h.toPublic_eq]
  exact length_of_sign? (h.canSign.sign?_eq message)

end PrivateKey.IsHalfOf

end AttestedPayments.Rsa
