import AttestedPayments.Key.CurveKey
import AttestedPayments.Proofs.Curve.Octets
import AttestedPayments.Proofs.Curve.Order
import AttestedPayments.Proofs.Key.Containers
import AttestedPayments.Proofs.Text.Armor

/-!
# Keys on the curve are read back

* `SecretKey.toPublic_ne_infinity` — the public key of a private key is a point that can be written.
* `SecretKey.ofOctets?_toOctets` — a bare private key, with the public key in it.

Principal results: `SecretKey.ofPem_surrounded`, `SecretKey.ofPem_toPublic_surrounded`.
-/

set_option autoImplicit false

namespace AttestedPayments.Curve

open Der (Element BitString lengthLimit)
open Key (Algorithm PublicKeyInfo PrivateKeyInfo)

variable {before after : String}

/-! ## Public keys -/

theorem isAscii_publicLabel : Armor.IsAscii publicLabel := by
  unfold Armor.IsAscii
  decide +kernel

theorem length_curveContent : Algorithm.curve.toElement.content.length = 16 := by
  decide +kernel

namespace PublicKey

/-- **A public key is read back**, also with white space around it. -/
theorem ofPem_surrounded {key : PublicKey} (hne : key ≠ .infinity) (hcurve : key.isOnCurve = true)
    (hbefore : IsBlankText before) (hafter : IsBlankText after) :
    ofPem (before ++ toPem key ++ after) = .ok key := by
  have hlen : Algorithm.curve.toElement.content.length + key.uncompressed.length + 20 <
      lengthLimit := by
    rw [length_curveContent, Point.length_uncompressed hne]
    decide
  obtain ⟨e, hread, hinfo⟩ := PublicKeyInfo.readOne_encode Algorithm.isReadable_curve hlen
  have harmor : Armor.decode publicLabel (Utf8.encode (trim (before ++ toPem key ++ after))) =
      some (toInfo key).toElement.encode :=
    Armor.decode_trim_encode isAscii_publicLabel (List.cons_ne_nil _ _) hbefore hafter
  have hkey : ofInfo? ⟨Algorithm.curve, .whole key.uncompressed⟩ = some key := by
    rw [ofInfo?, if_pos rfl, BitString.wholeOctets?_whole, Option.bind_some,
      Point.ofOctets?_uncompressed hne hcurve]
  have hread : Element.readOne (toInfo key).toElement.encode = some e := hread
  simp only [ofPem, harmor, hread, hinfo, hkey, Option.bind_eq_bind, Option.bind_some]

end PublicKey

namespace SecretKey

theorem toPublic_ne_infinity (key : SecretKey) : key.toPublic ≠ .infinity :=
  mul_generator_ne_infinity key.inRange

theorem length_uncompressed_toPublic (key : SecretKey) : key.toPublic.uncompressed.length = 65 :=
  Point.length_uncompressed key.toPublic_ne_infinity

/-! ## Private keys -/

theorem isAscii_containerLabel : Armor.IsAscii containerLabel := by
  unfold Armor.IsAscii
  decide +kernel

theorem ofScalarOctets?_digits (key : SecretKey) :
    ofScalarOctets? (BigEndian.digits 32 key.scalar) = some key := by
  have hlt : key.scalar < 256 ^ 32 := Nat.lt_trans key.inRange.2 (by decide)
  have hlength : minOctets ≤ (BigEndian.digits 32 key.scalar).length ∧
      (BigEndian.digits 32 key.scalar).length ≤ 32 := by
    rw [BigEndian.length_digits]
    decide
  rw [ofScalarOctets?, if_pos hlength, BigEndian.value_digits hlt]
  exact dif_pos key.inRange

/-- The bits of the public key in a private key. -/
def publicBits (key : SecretKey) : Element := (BitString.whole key.toPublic.uncompressed).toElement

theorem isReadable_publicBits (key : SecretKey) : key.publicBits.IsReadable := by
  refine BitString.isReadable_whole ?_
  rw [key.length_uncompressed_toPublic]
  decide

/-- The field that the public key is in. -/
def publicField (key : SecretKey) : Element := ⟨Der.Tag.field 1, key.publicBits.encode⟩

theorem length_publicField_le (key : SecretKey) : key.publicField.content.length ≤ 72 := by
  have hbits := Element.length_encode_le key.isReadable_publicBits
  have hcontent : key.publicBits.content.length = 66 :=
    congrArg Nat.succ key.length_uncompressed_toPublic
  rwa [hcontent] at hbits

theorem isReadable_publicField (key : SecretKey) : key.publicField.IsReadable :=
  ⟨show Der.Tag.isKnown (Der.Tag.field 1) = true by decide,
    Nat.lt_of_le_of_lt key.length_publicField_le (by decide)⟩

theorem publicKeyAllowed_publicField (key : SecretKey) :
    publicKeyAllowed key (some key.publicField) = true := by
  have hunwrap : key.publicField.unwrapField 1 = some key.publicBits :=
    Element.unwrapField_field 1 key.isReadable_publicBits
  have hbits : BitString.ofElement? key.publicBits = some (.whole key.toPublic.uncompressed) :=
    BitString.ofElement?_whole _
  simp only [publicKeyAllowed, hunwrap, Option.bind_some, hbits, BitString.wholeOctets?_whole,
    BEq.rfl, Bool.true_or]

/-- The elements of a bare private key. -/
def bareElements (key : SecretKey) : List Element :=
  [Element.small 1, Element.ofOctets (BigEndian.digits 32 key.scalar), key.publicField]

theorem isReadable_of_mem_bareElements (key : SecretKey) : ∀ e ∈ key.bareElements, e.IsReadable := by
  have hscalar : (Element.ofOctets (BigEndian.digits 32 key.scalar)).IsReadable := by
    refine Element.isReadable_ofOctets ?_
    rw [BigEndian.length_digits]
    decide
  exact List.forall_mem_cons.mpr ⟨Element.isReadable_small 1, List.forall_mem_cons.mpr
    ⟨hscalar, List.forall_mem_singleton.mpr key.isReadable_publicField⟩⟩

theorem roomFor_bareElements_le (key : SecretKey) :
    Element.roomFor key.bareElements ≤ 123 := by
  have hfield := key.length_publicField_le
  have hscalar : (Element.ofOctets (BigEndian.digits 32 key.scalar)).content.length = 32 :=
    BigEndian.length_digits 32 key.scalar
  have hversion : (Element.small 1).content.length = 1 := rfl
  simp only [bareElements, Element.roomFor, hscalar, hversion]
  omega

/-- **A bare private key is read back.** The field with the curve is absent, and the public key in it
fits. -/
theorem ofOctets?_toOctets (key : SecretKey) : ofOctets? key.toOctets = some key := by
  have hread : Element.readSequence key.toOctets = some key.bareElements :=
    Element.readSequence_sequence key.isReadable_of_mem_bareElements
      (Nat.lt_of_le_of_lt key.roomFor_bareElements_le (by decide))
  have hversion : (Element.small 1).natural? = some 1 := by decide
  have htag : key.publicField.tag = Der.Tag.field 1 := rfl
  have hcurve : Element.contextField 0 [key.publicField] = (none, [key.publicField]) := by
    rw [Element.contextField, htag, if_neg (by decide)]
  have hpublic : Element.contextField 1 [key.publicField] = (some key.publicField, []) := by
    rw [Element.contextField, htag, if_pos (by decide), if_pos (by decide)]
  simp only [ofOctets?, hread, bareElements, hcurve, hpublic, hversion, Element.octets?_ofOctets,
    Option.bind_some, key.ofScalarOctets?_digits]
  exact if_pos ⟨trivial, rfl, key.publicKeyAllowed_publicField⟩

theorem length_toOctets_le (key : SecretKey) : key.toOctets.length ≤ 129 := by
  have hread := Element.isReadable_sequence key.isReadable_of_mem_bareElements
    (Nat.lt_of_le_of_lt key.roomFor_bareElements_le (by decide))
  have hcontent := (Element.length_encodeAll_le key.isReadable_of_mem_bareElements).trans
    key.roomFor_bareElements_le
  exact (Element.length_encode_le hread).trans (Nat.add_le_add_right hcontent 6)

/-- **A private key is read back**, also with white space around it. It is found in its container, so
it is never taken for a bare one. -/
theorem ofPem_surrounded (key : SecretKey) (hbefore : IsBlankText before) (hafter : IsBlankText after) :
    ofPem (before ++ key.toPem ++ after) = .ok key := by
  have hlen : Algorithm.curve.toElement.content.length + key.toOctets.length + 20 < lengthLimit := by
    rw [length_curveContent]
    exact Nat.lt_of_le_of_lt (Nat.add_le_add_right
      (Nat.add_le_add_left key.length_toOctets_le 16) 20) (by decide)
  obtain ⟨e, hread, hinfo⟩ := PrivateKeyInfo.readOne_encode Algorithm.isReadable_curve hlen
  have harmor : Armor.decode containerLabel (Utf8.encode (trim (before ++ key.toPem ++ after))) =
      some (PrivateKeyInfo.mk Algorithm.curve key.toOctets).toElement.encode :=
    Armor.decode_trim_encode isAscii_containerLabel (List.cons_ne_nil _ _) hbefore hafter
  have hkey : ofInfo? ⟨Algorithm.curve, key.toOctets⟩ = some key := by
    rw [ofInfo?, if_pos rfl, key.ofOctets?_toOctets]
  simp only [ofPem, harmor, hread, hinfo, hkey, Option.bind_eq_bind, Option.bind_some]

/-- **The public key of a private key is read back**, also with white space around it. -/
theorem ofPem_toPublic_surrounded (key : SecretKey) (hbefore : IsBlankText before)
    (hafter : IsBlankText after) :
    PublicKey.ofPem (before ++ PublicKey.toPem key.toPublic ++ after) = .ok key.toPublic :=
  PublicKey.ofPem_surrounded key.toPublic_ne_infinity key.isOnCurve_toPublic hbefore hafter

theorem ofPem_toPem (key : SecretKey) : ofPem key.toPem = .ok key := by
  have h := key.ofPem_surrounded isBlankText_empty isBlankText_empty
  rwa [String.empty_append, String.append_empty] at h

theorem ofPem_toPem_toPublic (key : SecretKey) :
    PublicKey.ofPem (PublicKey.toPem key.toPublic) = .ok key.toPublic := by
  have h := key.ofPem_toPublic_surrounded isBlankText_empty isBlankText_empty
  rwa [String.empty_append, String.append_empty] at h

end SecretKey

end AttestedPayments.Curve
