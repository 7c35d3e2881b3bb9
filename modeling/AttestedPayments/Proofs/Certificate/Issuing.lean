import AttestedPayments.Proofs.Rsa.Signatures
import AttestedPayments.Proofs.Text.Armor
import AttestedPayments.Proofs.Text.Hex
import AttestedPayments.Trust.Chain
import Mathlib.NumberTheory.LucasLehmer

/-!
# Issuing certificates

* `Certificate.issue` — the certificate that the holder of a private key makes of a body.
* `Certificate.isIssuedBy_issue` — it is issued by everyone who is named as its issuer and has the
  public half of that key.
* `sampleKey`, `sampleKeyPem` — a private key, also as armored text.
* `sampleRoot`, `sampleClient` — a root and a certificate below it with a policy of extended
  validation.
-/

set_option autoImplicit false

namespace AttestedPayments

open Der (Oid Element BitString)
open Key (Algorithm PublicKeyInfo)

namespace Certificate

/-- The algorithm of signatures with RSA keys over digests of thirty-two octets. -/
def rsaWithSha256 : Algorithm := ⟨Oid.ofArcs [1, 2, 840, 113549, 1, 1, 11], none⟩

/-- The certificate that the holder of a private key makes of a body. -/
def issue (key : Rsa.PrivateKey) (body : Body) : Certificate :=
  ⟨body, rsaWithSha256, BitString.whole (Rsa.sign key body.toElement.encode)⟩

theorem isSignedBy_issue {key : Rsa.PrivateKey} {publicKey : Rsa.PublicKey} {issuer : Certificate}
    (hkey : key.IsHalfOf publicKey) (hissuer : issuer.rsaKey? = some publicKey) (body : Body) :
    (issue key body).isSignedBy issuer = true := by
  have hkind : digestKind? (issue key body).algorithm.oid = some .sha256 := if_pos rfl
  have hwhole : (issue key body).signature.wholeOctets? =
      some (Rsa.sign key body.toElement.encode) := rfl
  simp only [isSignedBy, hissuer, hkind, hwhole]
  exact hkey.verify_sign _

/-- **A certificate is issued by whoever is named in it and has the key that signed it.** -/
theorem isIssuedBy_issue {key : Rsa.PrivateKey} {publicKey : Rsa.PublicKey} {issuer : Certificate}
    (hkey : key.IsHalfOf publicKey) (hissuer : issuer.rsaKey? = some publicKey) {body : Body}
    (hname : body.issuer = issuer.body.subject) : (issue key body).isIssuedBy issuer = true := by
  have hsame : ((issue key body).body.issuer == issuer.body.subject) = true :=
    beq_iff_eq.mpr hname
  rw [isIssuedBy, hsame, isSignedBy_issue hkey hissuer body]
  rfl

/-- The octets of a certificate. -/
def toElement (c : Certificate) : Element :=
  Element.sequence [c.body.toElement, c.algorithm.toElement, c.signature.toElement]

/-- A certificate as armored text. -/
def toPem (c : Certificate) : String := Armor.encode label c.toElement.encode

theorem isAscii_label : Armor.IsAscii label := by
  unfold Armor.IsAscii
  decide +kernel

theorem encode_toPem (c : Certificate) :
    Utf8.encode c.toPem = Armor.octets label c.toElement.encode := by
  rw [toPem, Armor.encode_eq_characters,
    Utf8.encode_characters fun _ => Armor.lt_of_mem_octets isAscii_label]

/-- A certificate is read from its armored text if it is so from the octets of that text. -/
theorem ofPem?_toPem {c : Certificate}
    (h : ofArmored? (trimOctets (Armor.octets label c.toElement.encode)) = some c) :
    ofPem? c.toPem = some c := by
  rw [ofPem?, toPem, Armor.encode_trim_encode isAscii_label, h]

end Certificate

/-! ## A root and a certificate below it -/

/-- A key whose factors are Mersenne primes. -/
def sampleKey : Rsa.PrivateKey :=
  { modulus := (2 ^ 127 - 1) * (2 ^ 521 - 1)
    exponent := 65537
    secretExponent :=
      193900767558032071937636487021452117448910287312278971207800283425644781136078887330150457137153435273259066364624685827854923748501752122182388647400968388233585136878839649485385373845435689473
    firstFactor := 2 ^ 127 - 1
    secondFactor := 2 ^ 521 - 1 }

theorem sampleKey_isHalfOf : sampleKey.IsHalfOf sampleKey.toPublic where
  toPublic_eq := rfl
  sound := by decide +kernel
  first_prime := lucas_lehmer_sufficiency 127 (by norm_num) (by norm_num)
  second_prime := lucas_lehmer_sufficiency 521 (by norm_num) (by norm_num)
  factors_ne := by decide +kernel
  size_le := by decide +kernel

/-- The sample key signs in octets for twice as many digits. -/
theorem length_lower_sampleKey (message : Bytes) :
    (Utf8.encode (Hex.lower (Rsa.sign sampleKey message))).length = 162 := by
  have hsize : sampleKey.toPublic.size = 81 := by decide +kernel
  rw [Hex.encode_lower, Hex.length_digits, sampleKey_isHalfOf.length_sign, hsize]

/-- A natural number as an element, with a zero in front if it would read as a negative one. -/
def naturalElement (n : Nat) : Element :=
  let digits := BigEndian.minimal n
  ⟨Der.Tag.integer, if digits.headD 0x80 < 0x80 then digits else 0 :: digits⟩

/-- A private key in octets. Nothing is made of the last three numbers. -/
def bareKeyOctets (key : Rsa.PrivateKey) : Bytes :=
  (Element.sequence ([0, key.modulus, key.exponent, key.secretExponent, key.firstFactor,
    key.secondFactor, 0, 0, 0].map naturalElement)).encode

/-- A private key as armored text. -/
def bareKeyPem (key : Rsa.PrivateKey) : String := Armor.encode Rsa.bareLabel (bareKeyOctets key)

/-- The sample key as armored text. -/
def sampleKeyPem : String := bareKeyPem sampleKey

/-- What is read of a private key in armor. -/
theorem encode_trim_bareKeyPem (key : Rsa.PrivateKey) :
    Utf8.encode (trim (bareKeyPem key)) =
      trimOctets (Armor.octets Rsa.bareLabel (bareKeyOctets key)) := by
  have hlabel : Armor.IsAscii Rsa.bareLabel := by
    unfold Armor.IsAscii
    decide +kernel
  exact Armor.encode_trim_encode hlabel _

theorem ofPem_sampleKeyPem : Rsa.PrivateKey.ofPem sampleKeyPem = .ok sampleKey := by
  rw [Rsa.PrivateKey.ofPem, sampleKeyPem, encode_trim_bareKeyPem]
  decide +kernel

/-- A name of one attribute, the common name. -/
def sampleName (name : Bytes) : Certificate.Name :=
  ⟨[[⟨Oid.ofArcs [2, 5, 4, 3], ⟨Der.Tag.utf8String, name⟩⟩]]⟩

/-- The octets of a time with two digits for the year. -/
def sampleTime (digits : Bytes) (seconds : Nat) : Der.Time :=
  ⟨⟨Der.Tag.utcTime, digits⟩, seconds⟩

/-- What a certificate of the sample key says. -/
def sampleBody (serial : UInt8) (subject : Bytes) (extensions : List Certificate.Extension) :
    Certificate.Body :=
  { version := 0
    serial := [serial]
    algorithm := Certificate.rsaWithSha256
    issuer := sampleName [82]
    notBefore := sampleTime [55, 48, 48, 49, 48, 49, 48, 48, 48, 48, 48, 48, 90] 0
    notAfter := sampleTime [52, 57, 49, 50, 51, 49, 50, 51, 53, 57, 53, 57, 90] 2524607999
    subject := sampleName subject
    keyInfo := ⟨Algorithm.rsa, BitString.whole (Element.sequence
      [naturalElement sampleKey.modulus, naturalElement sampleKey.exponent]).encode⟩
    issuerId := none
    subjectId := none
    extensions := if extensions = [] then none else some extensions }

/-- An extension with the common policy of extended validation. -/
def samplePolicies : Certificate.Extension :=
  ⟨Certificate.certificatePolicies, false, (Element.sequence [Element.sequence
    [(Oid.ofArcs [2, 23, 140, 1, 1]).toElement]]).encode⟩

/-- The root `R`. -/
def sampleRoot : Certificate := Certificate.issue sampleKey (sampleBody 1 [82] [])

/-- The certificate `C` below the root, with a policy of extended validation. -/
def sampleClient : Certificate := Certificate.issue sampleKey (sampleBody 2 [67] [samplePolicies])

theorem sampleRoot_rsaKey? : sampleRoot.rsaKey? = some sampleKey.toPublic := by decide +kernel

theorem sampleClient_rsaKey? : sampleClient.rsaKey? = some sampleKey.toPublic :=
  sampleRoot_rsaKey?

theorem sampleRoot_isSelfSigned : sampleRoot.isSelfSigned = true :=
  Certificate.isIssuedBy_issue sampleKey_isHalfOf sampleRoot_rsaKey? rfl

/-- A certificate with another name than its issuer is not signed by its own key. -/
theorem isSelfSigned_issue_sampleBody (serial : UInt8) {subject : Bytes}
    (extensions : List Certificate.Extension) (h : subject ≠ [82]) :
    (Certificate.issue sampleKey (sampleBody serial subject extensions)).isSelfSigned = false := by
  have hname : sampleName [82] ≠ sampleName subject := by
    intro heq
    simp only [sampleName, Certificate.Name.mk.injEq, Certificate.Attribute.mk.injEq,
      Element.mk.injEq, List.cons.injEq, true_and, and_true] at heq
    exact h heq.symm
  have hissuer : (sampleName [82] == sampleName subject) = false := beq_false_of_ne hname
  show (sampleName [82] == sampleName subject && _) = false
  rw [hissuer, Bool.false_and]

theorem sampleClient_isSelfSigned : sampleClient.isSelfSigned = false :=
  isSelfSigned_issue_sampleBody 2 _ (by decide)

theorem ofPem?_sampleRoot : Certificate.ofPem? sampleRoot.toPem = some sampleRoot :=
  Certificate.ofPem?_toPem (by decide +kernel)

theorem ofPem?_sampleClient : Certificate.ofPem? sampleClient.toPem = some sampleClient :=
  Certificate.ofPem?_toPem (by decide +kernel)

theorem length_toPem_sampleClient : (Utf8.encode sampleClient.toPem).length = 481 := by
  rw [sampleClient.encode_toPem]
  decide +kernel

theorem sampleClient_isIssuedBy : sampleClient.isIssuedBy sampleRoot = true :=
  Certificate.isIssuedBy_issue sampleKey_isHalfOf sampleRoot_rsaKey? rfl

end AttestedPayments
