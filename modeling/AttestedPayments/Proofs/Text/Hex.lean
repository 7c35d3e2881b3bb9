import AttestedPayments.Proofs.Text.Characters
import AttestedPayments.Text.Hex

/-!
# Hexadecimal digits are read back

* `Hex.decode_digits` — digits of either case are read as the octets they were written for.
* `Hex.decodeText_lower`, `Hex.lower_injective` — the same for whole texts in lower case, which
  therefore belong to one octet string each.
* `Hex.decode_eq_ok_iff`, `Hex.decodeText_eq_ok_iff` — digits are read as octets exactly if their
  capitals are the capital digits of those octets.
-/

set_option autoImplicit false

namespace AttestedPayments

namespace Hex

/-- The two ways to write ten. -/
def IsCase (ten : UInt8) : Prop := ten = 97 ∨ ten = 65

theorem value?_digit_of_isCase {ten n : UInt8} (hten : IsCase ten) (hn : n < 16) :
    value? (digit ten n) = some n := by
  rcases hten with rfl | rfl
  · exact (value?_digit n hn).1
  · exact (value?_digit n hn).2

theorem digit_lt {ten n : UInt8} (hten : IsCase ten) (hn : n < 16) : digit ten n < 0x80 := by
  have key : ∀ m : Fin 16, digit 97 (UInt8.ofNat m) < 0x80 ∧ digit 65 (UInt8.ofNat m) < 0x80 := by
    decide
  have hboth := key ⟨n.toNat, UInt8.lt_iff_toNat_lt.mp hn⟩
  simp only [UInt8.ofNat_toNat] at hboth
  rcases hten with rfl | rfl
  · exact hboth.1
  · exact hboth.2

/-- An octet is made of two digits. -/
theorem octet_of_halves (b : UInt8) : 16 * (b / 16) + b % 16 = b := by
  apply UInt8.toNat_inj.mp
  have := b.toNat_lt
  simp only [UInt8.toNat_add, UInt8.toNat_mul, UInt8.toNat_div, UInt8.toNat_mod,
    UInt8.reduceToNat]
  omega

theorem div_sixteen_lt (b : UInt8) : b / 16 < 16 := by
  have := b.toNat_lt
  rw [UInt8.lt_iff_toNat_lt, UInt8.toNat_div]
  simp only [UInt8.reduceToNat]
  omega

theorem mod_sixteen_lt (b : UInt8) : b % 16 < 16 := by
  rw [UInt8.lt_iff_toNat_lt, UInt8.toNat_mod]
  simp only [UInt8.reduceToNat]
  omega

@[simp] theorem length_digits (ten : UInt8) (bytes : Bytes) :
    (digits ten bytes).length = 2 * bytes.length := by
  induction bytes with
  | nil => rfl
  | cons b bytes ih =>
    rw [digits, List.flatMap_cons, List.length_append, ← digits, ih]
    simp only [List.length_cons, List.length_nil]
    omega

theorem digits_cons (ten b : UInt8) (bytes : Bytes) :
    digits ten (b :: bytes) = digit ten (b / 16) :: digit ten (b % 16) :: digits ten bytes := by
  rw [digits, List.flatMap_cons]
  rfl

theorem digits_append (ten : UInt8) (a b : Bytes) :
    digits ten (a ++ b) = digits ten a ++ digits ten b := by
  rw [digits, List.flatMap_append, ← digits, ← digits]

theorem lt_of_mem_digits {ten d : UInt8} (hten : IsCase ten) {bytes : Bytes}
    (h : d ∈ digits ten bytes) : d < 0x80 := by
  obtain ⟨b, _, hd⟩ := List.mem_flatMap.mp h
  rcases List.mem_cons.mp hd with rfl | hd
  · exact digit_lt hten (div_sixteen_lt b)
  · rw [List.mem_singleton.mp hd]
    exact digit_lt hten (mod_sixteen_lt b)

theorem decodePairs_digits {ten : UInt8} (hten : IsCase ten) (position : Nat) (bytes : Bytes) :
    decodePairs position (digits ten bytes) = .ok bytes := by
  induction bytes generalizing position with
  | nil => rfl
  | cons b bytes ih =>
    have ih := ih (position + 2)
    simp only [digits] at ih
    simp only [digits, List.flatMap_cons, List.cons_append, List.nil_append, decodePairs,
      value?_digit_of_isCase hten (div_sixteen_lt b), value?_digit_of_isCase hten (mod_sixteen_lt b),
      ih, octet_of_halves]

/-- **Digits are read as the octets they were written for.** -/
theorem decode_digits {ten : UInt8} (hten : IsCase ten) (bytes : Bytes) :
    decode (digits ten bytes) = .ok bytes := by
  have hodd : ¬ (digits ten bytes).length % 2 = 1 := by
    rw [length_digits]
    omega
  rw [decode, if_neg hodd, decodePairs_digits hten]

theorem encode_lower (bytes : Bytes) : Utf8.encode (lower bytes) = digits 97 bytes :=
  Utf8.encode_characters fun _ => lt_of_mem_digits (Or.inl rfl)

theorem encode_upper (bytes : Bytes) : Utf8.encode (upper bytes) = digits 65 bytes :=
  Utf8.encode_characters fun _ => lt_of_mem_digits (Or.inr rfl)

theorem decodeText_lower (bytes : Bytes) : decodeText (lower bytes) = .ok bytes := by
  have h := encode_lower bytes
  show decode (Utf8.encode (lower bytes)) = .ok bytes
  rw [h, decode_digits (Or.inl rfl)]

/-- **A text in lower case belongs to one octet string.** -/
theorem lower_injective {a b : Bytes} (h : lower a = lower b) : a = b := by
  have ha := decodeText_lower a
  rw [h, decodeText_lower b] at ha
  exact (Except.ok.inj ha).symm

theorem lower_eq_empty_iff (bytes : Bytes) : lower bytes = "" ↔ bytes = [] := by
  constructor
  · intro h
    exact lower_injective (h.trans (by rfl : "" = lower []))
  · rintro rfl
    rfl

/-! ## Either case -/

/-- Small and capital digits have the same values. -/
theorem value?_upperOctet (b : UInt8) : value? (upperOctet b) = value? b := by
  have key : ∀ n : Fin 256, value? (upperOctet (UInt8.ofNat n)) = value? (UInt8.ofNat n) := by
    decide +kernel
  have := key ⟨b.toNat, b.toNat_lt⟩
  simpa only [UInt8.ofNat_toNat] using this

/-- The capital of an octet that has a value is the capital digit of that value. -/
theorem upperOctet_of_value? {b n : UInt8} (h : value? b = some n) :
    n < 16 ∧ upperOctet b = digit 65 n := by
  have key : ∀ m : Fin 256, ∀ n ∈ value? (UInt8.ofNat m),
      n < 16 ∧ upperOctet (UInt8.ofNat m) = digit 65 n := by
    decide +kernel
  have := key ⟨b.toNat, b.toNat_lt⟩
  simp only [UInt8.ofNat_toNat] at this
  exact this n h

theorem halves_of_octet {hi lo : UInt8} (hhi : hi < 16) (hlo : lo < 16) :
    (16 * hi + lo) / 16 = hi ∧ (16 * hi + lo) % 16 = lo := by
  have key : ∀ a b : Fin 16, (16 * UInt8.ofNat a + UInt8.ofNat b) / 16 = UInt8.ofNat a ∧
      (16 * UInt8.ofNat a + UInt8.ofNat b) % 16 = UInt8.ofNat b := by
    decide
  have := key ⟨hi.toNat, UInt8.lt_iff_toNat_lt.mp hhi⟩ ⟨lo.toNat, UInt8.lt_iff_toNat_lt.mp hlo⟩
  simpa only [UInt8.ofNat_toNat] using this

theorem map_upperOctet_of_decodePairs {octets bytes : Bytes} {position : Nat}
    (heven : octets.length % 2 = 0) (h : decodePairs position octets = .ok bytes) :
    octets.map upperOctet = digits 65 bytes := by
  fun_induction decodePairs position octets generalizing bytes with
  | case1 => cases h
  | case2 => cases h
  | case3 => cases h
  | case4 position hi lo rest first second hlo hhi more hmore ih =>
    cases h
    obtain ⟨hfirst, hhi⟩ := upperOctet_of_value? hhi
    obtain ⟨hsecond, hlo⟩ := upperOctet_of_value? hlo
    obtain ⟨hdiv, hmod⟩ := halves_of_octet hfirst hsecond
    have hrest : rest.map upperOctet = digits 65 more := by
      refine ih ?_ hmore
      simp only [List.length_cons] at heven
      omega
    rw [digits_cons, hdiv, hmod, List.map_cons, List.map_cons, hhi, hlo, hrest]
  | case5 octets position hshort =>
    cases h
    match octets, hshort, heven with
    | [], _, _ => rfl
    | [_], _, heven => cases heven
    | hi :: lo :: rest, hshort, _ => exact absurd rfl (hshort hi lo rest)

theorem decodePairs_of_map_upperOctet {octets bytes : Bytes}
    (h : octets.map upperOctet = digits 65 bytes) (position : Nat) :
    decodePairs position octets = .ok bytes := by
  induction bytes generalizing octets position with
  | nil =>
    obtain rfl := List.map_eq_nil_iff.mp h
    rfl
  | cons b bytes ih =>
    match octets, h with
    | [], h => cases h
    | [_], h =>
      rw [digits_cons] at h
      exact absurd (congrArg List.length h) (by simp)
    | hi :: lo :: rest, h =>
      rw [digits_cons, List.map_cons, List.map_cons] at h
      obtain ⟨hhi, h⟩ := List.cons.inj h
      obtain ⟨hlo, hrest⟩ := List.cons.inj h
      have hvalue : ∀ {d n : UInt8}, n < 16 → upperOctet d = digit 65 n → value? d = some n := by
        intro d n hn hd
        rw [← value?_upperOctet, hd, value?_digit_of_isCase (Or.inr rfl) hn]
      simp only [decodePairs, hvalue (div_sixteen_lt b) hhi, hvalue (mod_sixteen_lt b) hlo,
        ih hrest (position + 2), octet_of_halves]

/-- **Digits are read as octets exactly if their capitals are the capital digits of those octets.** -/
theorem decode_eq_ok_iff {octets bytes : Bytes} :
    decode octets = .ok bytes ↔ octets.map upperOctet = digits 65 bytes := by
  unfold decode
  constructor
  · intro h
    split at h
    · cases h
    · exact map_upperOctet_of_decodePairs (by omega) h
  · intro h
    have hlen := congrArg List.length h
    rw [List.length_map, length_digits] at hlen
    rw [if_neg (by omega), decodePairs_of_map_upperOctet h]

/-- **A text is read as octets exactly if it is their writing, apart from the case of its letters.** -/
theorem decodeText_eq_ok_iff {text : String} {bytes : Bytes} :
    decodeText text = .ok bytes ↔ text.toUpper = upper bytes := by
  show decode (Utf8.encode text) = .ok bytes ↔ text.toUpper = upper bytes
  rw [decode_eq_ok_iff, ← Utf8.encode_toUpper, ← encode_upper]
  exact ⟨Utf8.encode_injective, congrArg Utf8.encode⟩

@[simp] theorem toUpper_upper (bytes : Bytes) : (upper bytes).toUpper = upper bytes := by
  rw [← decodeText_eq_ok_iff]
  show decode (Utf8.encode (upper bytes)) = .ok bytes
  rw [encode_upper, decode_digits (Or.inr rfl)]

end Hex

end AttestedPayments
