import AttestedPayments.Text.Blank
import AttestedPayments.Text.Utf8

/-!
# Text of ASCII characters

* `Utf8.encode_characters` — text whose characters are ASCII octets has these as its octets.
* `trim_characters` — taking white space off such a text takes it off the octets.
* `trim_surrounded` — white space that was put around a text is taken off.
* `Utf8.encode_toUpper` — capital letters for small ones, in a text and in its octets.
-/

set_option autoImplicit false

namespace AttestedPayments

theorem Utf8.utf8EncodeChar_ofNat {b : UInt8} (h : b < 0x80) :
    String.utf8EncodeChar (Char.ofNat b.toNat) = [b] := by
  have key : ∀ n : Fin 128, String.utf8EncodeChar (Char.ofNat n) = [UInt8.ofNat n] := by decide
  have := key ⟨b.toNat, UInt8.lt_iff_toNat_lt.mp h⟩
  simpa using this

/-- Text of ASCII characters has one octet for each of them. -/
theorem Utf8.encode_characters {octets : Bytes} (h : ∀ b ∈ octets, b < 0x80) :
    encode (characters octets) = octets := by
  have hflat : (octets.map fun b => Char.ofNat b.toNat).flatMap String.utf8EncodeChar = octets := by
    induction octets with
    | nil => rfl
    | cons b octets ih =>
      rw [List.map_cons, List.flatMap_cons, utf8EncodeChar_ofNat (h b List.mem_cons_self),
        ih fun c hc => h c (List.mem_cons_of_mem b hc)]
      rfl
  rw [encode, characters, String.toByteArray_ofList, List.utf8Encode, hflat,
    List.toList_data_toByteArray]

/-- The octets of a text are those of its characters. -/
theorem Utf8.encode_eq_flatMap (s : String) : encode s = s.toList.flatMap String.utf8EncodeChar := by
  have h : encode (String.ofList s.toList) = s.toList.flatMap String.utf8EncodeChar := by
    rw [encode, String.toByteArray_ofList, List.utf8Encode, List.toList_data_toByteArray]
  rwa [String.ofList_toList] at h

theorem Utf8.encode_append (a b : String) : encode (a ++ b) = encode a ++ encode b := by
  rw [encode_eq_flatMap, encode_eq_flatMap, encode_eq_flatMap, String.toList_append,
    List.flatMap_append]

/-- The size of a text is the count of its octets. -/
theorem Utf8.length_encode (text : String) : (encode text).length = text.utf8ByteSize := rfl

/-- There is one character for each octet. -/
@[simp] theorem length_characters (octets : Bytes) : (characters octets).length = octets.length := by
  rw [characters, String.length_ofList, List.length_map]

/-- A text of ASCII octets is the text of these octets. -/
theorem Utf8.characters_encode {text : String} (h : ∀ b ∈ encode text, b < 0x80) :
    characters (encode text) = text :=
  encode_injective (encode_characters h)

theorem characters_append (a b : Bytes) : characters (a ++ b) = characters a ++ characters b := by
  rw [characters, List.map_append, String.ofList_append, ← characters, ← characters]

/-- An octet whose character is white space. -/
def isBlankOctet (b : UInt8) : Bool := isBlank (Char.ofNat b.toNat)

/-- Octets without the white space at their two ends. -/
def trimOctets (octets : Bytes) : Bytes :=
  ((octets.dropWhile isBlankOctet).reverse.dropWhile isBlankOctet).reverse

theorem trim_characters (octets : Bytes) : trim (characters octets) = characters (trimOctets octets) := by
  have hdrop : ∀ l : Bytes, (l.map fun b => Char.ofNat b.toNat).dropWhile isBlank =
      (l.dropWhile isBlankOctet).map fun b => Char.ofNat b.toNat := by
    intro l
    rw [List.dropWhile_map]
    rfl
  rw [trim, characters, String.toList_ofList, trimEnd, hdrop, ← List.map_reverse, hdrop,
    ← List.map_reverse]
  rfl

theorem mem_of_mem_trimOctets {octets : Bytes} {b : UInt8} (h : b ∈ trimOctets octets) :
    b ∈ octets := by
  have h := List.mem_reverse.mp h
  have h := (List.dropWhile_sublist _).mem h
  exact (List.dropWhile_sublist _).mem (List.mem_reverse.mp h)

/-- The octets of a text without the white space around it. -/
theorem encode_trim_characters {octets : Bytes} (h : ∀ b ∈ octets, b < 0x80) :
    Utf8.encode (trim (characters octets)) = trimOctets octets := by
  rw [trim_characters, Utf8.encode_characters fun b hb => h b (mem_of_mem_trimOctets hb)]

/-- A text of nothing but white space. -/
def IsBlankText (text : String) : Prop := ∀ c ∈ text.toList, isBlank c = true

theorem isBlankText_empty : IsBlankText "" := by
  intro c hc
  cases hc

/-- **White space around a text is taken off**, if the text itself neither starts nor ends with any. -/
theorem trim_surrounded {before text after : String} (hbefore : IsBlankText before)
    (hafter : IsBlankText after)
    (hfirst : ∃ c rest, text.toList = c :: rest ∧ isBlank c = false)
    (hlast : ∃ rest c, text.toList = rest ++ [c] ∧ isBlank c = false) :
    trim (before ++ text ++ after) = text := by
  have hfront : (before ++ text ++ after).toList.dropWhile isBlank =
      text.toList ++ after.toList := by
    obtain ⟨c, rest, htext, hc⟩ := hfirst
    rw [String.toList_append, String.toList_append, List.append_assoc,
      List.dropWhile_append_of_pos hbefore, htext, List.cons_append,
      List.dropWhile_cons_of_neg (Bool.eq_false_iff.mp hc)]
  have hback : (text.toList ++ after.toList).reverse.dropWhile isBlank = text.toList.reverse := by
    obtain ⟨rest, c, htext, hc⟩ := hlast
    rw [List.reverse_append, List.dropWhile_append_of_pos fun c h => hafter c (List.mem_reverse.mp h),
      htext, List.reverse_append, List.reverse_singleton, List.singleton_append,
      List.dropWhile_cons_of_neg (Bool.eq_false_iff.mp hc)]
  rw [trim, trimEnd, hfront, hback, List.reverse_reverse, String.ofList_toList]

/-! ## Capital letters -/

/-- The octet of a capital letter for that of a small one. -/
def upperOctet (b : UInt8) : UInt8 := if 97 ≤ b ∧ b ≤ 122 then b - 32 else b

theorem upperOctet_of_le {b : UInt8} (h : 0x80 ≤ b) : upperOctet b = b := by
  refine if_neg fun hb => ?_
  have hlow := UInt8.le_iff_toNat_le.mp h
  have hhigh := UInt8.le_iff_toNat_le.mp hb.2
  simp only [UInt8.reduceToNat] at hlow hhigh
  omega

theorem lt_of_upperOctet_lt {b : UInt8} (h : upperOctet b < 0x80) : b < 0x80 := by
  by_cases hle : 0x80 ≤ b
  · rwa [upperOctet_of_le hle] at h
  · exact UInt8.not_le.mp hle

/-- Characters beyond ASCII are written with octets beyond it. -/
theorem le_of_mem_utf8EncodeChar {c : Char} (hc : 128 ≤ c.toNat) {b : UInt8}
    (h : b ∈ String.utf8EncodeChar c) : 0x80 ≤ b := by
  have hlead : ∀ m n : Nat, 128 ≤ n → m + n < 256 → 0x80 ≤ UInt8.ofNat (m + n) := by
    intro m n hn hlt
    rw [UInt8.le_iff_toNat_le, UInt8.toNat_ofNat_of_lt' hlt]
    simp only [UInt8.reduceToNat]
    omega
  have hval : ¬ c.val.toNat ≤ 127 := by
    have : c.toNat = c.val.toNat := rfl
    omega
  simp only [String.utf8EncodeChar, if_neg hval] at h
  split at h
  · simp only [List.mem_cons, List.not_mem_nil, or_false] at h
    rcases h with rfl | rfl <;> exact hlead _ _ (by omega) (by omega)
  · split at h <;> simp only [List.mem_cons, List.not_mem_nil, or_false] at h
    · rcases h with rfl | rfl | rfl <;> exact hlead _ _ (by omega) (by omega)
    · rcases h with rfl | rfl | rfl | rfl <;> exact hlead _ _ (by omega) (by omega)

/-- Only ASCII characters have capital letters here. -/
theorem toUpper_of_le {c : Char} (hc : 128 ≤ c.toNat) : c.toUpper = c := by
  refine dif_neg fun h => ?_
  have hle : c.val.toNat ≤ 'z'.val.toNat := UInt32.le_iff_toNat_le.mp h.2
  have hz : 'z'.val.toNat = 122 := rfl
  have : c.toNat = c.val.toNat := rfl
  omega

theorem utf8EncodeChar_toUpper (c : Char) :
    String.utf8EncodeChar c.toUpper = (String.utf8EncodeChar c).map upperOctet := by
  by_cases hc : c.toNat < 128
  · have key : ∀ n : Fin 128, String.utf8EncodeChar (Char.ofNat n).toUpper =
        (String.utf8EncodeChar (Char.ofNat n)).map upperOctet := by decide
    have := key ⟨c.toNat, hc⟩
    rwa [Char.ofNat_toNat] at this
  · have hle : 128 ≤ c.toNat := Nat.le_of_not_lt hc
    rw [toUpper_of_le hle, eq_comm]
    refine (List.map_congr_left fun b hb => ?_).trans (List.map_id _)
    exact upperOctet_of_le (le_of_mem_utf8EncodeChar hle hb)

/-- **The octets of a text in capital letters are the capital octets of the text.** -/
theorem Utf8.encode_toUpper (s : String) : encode s.toUpper = (encode s).map upperOctet := by
  rw [encode_eq_flatMap, encode_eq_flatMap, String.toUpper, String.toList_map, List.flatMap_map,
    List.map_flatMap]
  simp only [utf8EncodeChar_toUpper]

theorem upperOctet_upperOctet (b : UInt8) : upperOctet (upperOctet b) = upperOctet b := by
  have key : ∀ n : Fin 256, upperOctet (upperOctet (UInt8.ofNat n)) = upperOctet (UInt8.ofNat n) := by
    decide +kernel
  have := key ⟨b.toNat, b.toNat_lt⟩
  simpa only [UInt8.ofNat_toNat] using this

/-- Capital letters stay as they are. -/
@[simp] theorem toUpper_toUpper (s : String) : s.toUpper.toUpper = s.toUpper := by
  apply Utf8.encode_injective
  rw [Utf8.encode_toUpper, Utf8.encode_toUpper, List.map_map]
  exact List.map_congr_left fun b _ => upperOctet_upperOctet b

end AttestedPayments
