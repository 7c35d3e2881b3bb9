import AttestedPayments.Der.Primitive
import AttestedPayments.Proofs.Bytes

/-!
# Elements of DER are read back

* `readLength_lengthOctets` — a length is read back, in one octet or in several.
* `Element.IsReadable` — the elements that are read at all: their tag is known and their length is not
  too great.
* `Element.read_encode`, `Element.readAll_encodeAll` — one element at the front, and all elements.
* `BitString.ofElement?_whole`, `Oid.ofElement?_toElement` — plain values.

Principal results: `Element.elements?_sequence`, `Element.readSequence_sequence`.
-/

set_option autoImplicit false

namespace AttestedPayments.Der

/-! ## Lengths -/

/-- Lengths of this size and more are not read. -/
def lengthLimit : Nat := 0x10000000

theorem width_le_of_lt_lengthLimit {n : Nat} (h : n < lengthLimit) : BigEndian.width n ≤ 4 := by
  by_cases h0 : n = 0
  · rw [BigEndian.width, if_pos h0]
    omega
  · refine Nat.le_of_not_lt fun hwide => ?_
    have hle : 256 ^ 4 ≤ 256 ^ (BigEndian.width n - 1) :=
      Nat.pow_le_pow_right (by decide) (by omega)
    have hpow := BigEndian.pow_width_le h0
    rw [lengthLimit] at h
    omega

theorem length_lengthOctets_le {n : Nat} (h : n < lengthLimit) : (lengthOctets n).length ≤ 5 := by
  have hwidth := width_le_of_lt_lengthLimit h
  unfold lengthOctets
  split
  · show 1 ≤ 5
    decide
  · simp only [List.length_cons, BigEndian.length_minimal]
    omega

/-- **A length is read back.** -/
theorem readLength_lengthOctets {n : Nat} (h : n < lengthLimit) (rest : Bytes) :
    readLength (lengthOctets n ++ rest) = some (n, rest) := by
  have hwidth := width_le_of_lt_lengthLimit h
  by_cases hshort : n < 128
  · have hn : (UInt8.ofNat n).toNat = n := UInt8.toNat_ofNat_of_lt' (show n < 256 by omega)
    have hfirst : UInt8.ofNat n < 0x80 := UInt8.lt_iff_toNat_lt.mpr (hn.symm ▸ hshort)
    rw [lengthOctets, if_pos hshort, List.singleton_append, readLength, if_pos hfirst, hn]
  · have hoctets : lengthOctets n =
        UInt8.ofNat (128 + BigEndian.width n) :: BigEndian.minimal n := by
      rw [lengthOctets, if_neg hshort]
      dsimp only
      rw [BigEndian.length_minimal]
    have hcount : (UInt8.ofNat (128 + BigEndian.width n)).toNat = 128 + BigEndian.width n :=
      UInt8.toNat_ofNat_of_lt' (show 128 + BigEndian.width n < 256 by omega)
    have hfirst : ¬ UInt8.ofNat (128 + BigEndian.width n) < 0x80 := by
      rw [UInt8.lt_iff_toNat_lt, hcount]
      exact Nat.not_lt.mpr (Nat.le_add_right _ _)
    have htake : (BigEndian.minimal n ++ rest).take (BigEndian.width n) = BigEndian.minimal n :=
      List.take_left' (BigEndian.length_minimal n)
    have hdrop : (BigEndian.minimal n ++ rest).drop (BigEndian.width n) = rest :=
      List.drop_left' (BigEndian.length_minimal n)
    rw [hoctets, List.cons_append, readLength, if_neg hfirst, hcount, Nat.add_sub_cancel_left]
    dsimp only
    rw [htake, hdrop, BigEndian.value_minimal]
    exact if_pos ⟨h, hoctets⟩

namespace Element

/-! ## Elements -/

/-- The elements that are read. -/
structure IsReadable (e : Element) : Prop where
  tag_known : Tag.isKnown e.tag = true
  length_lt : e.content.length < lengthLimit

theorem length_encode_le {e : Element} (h : e.IsReadable) :
    e.encode.length ≤ e.content.length + 6 := by
  have hlength := length_lengthOctets_le h.length_lt
  rw [encode, List.length_append, List.length_cons]
  omega

/-- **An element is read back, whatever follows.** -/
theorem read_encode {e : Element} (h : e.IsReadable) (rest : Bytes) :
    read (e.encode ++ rest) = some (e, rest) := by
  have hle : e.content.length ≤ (e.content ++ rest).length := by
    rw [List.length_append]
    omega
  rw [encode, List.append_assoc, List.cons_append, read, if_pos h.tag_known,
    readLength_lengthOctets h.length_lt]
  dsimp only
  rw [if_pos hle, List.take_left, List.drop_left]

theorem readOne_encode {e : Element} (h : e.IsReadable) : readOne e.encode = some e := by
  have hread := read_encode h []
  rw [List.append_nil] at hread
  rw [readOne, hread]

theorem encodeAll_cons (e : Element) (elements : List Element) :
    encodeAll (e :: elements) = e.encode ++ encodeAll elements :=
  List.flatMap_cons

/-- An upper bound on the octets of readable elements: six are enough for the tag and the length of
each. -/
def roomFor : List Element → Nat
  | [] => 0
  | e :: elements => e.content.length + 6 + roomFor elements

theorem length_encodeAll_le {elements : List Element} (h : ∀ e ∈ elements, e.IsReadable) :
    (encodeAll elements).length ≤ roomFor elements := by
  induction elements with
  | nil => exact Nat.le_refl 0
  | cons e elements ih =>
    obtain ⟨he, helements⟩ := List.forall_mem_cons.mp h
    rw [encodeAll_cons, List.length_append, roomFor]
    exact Nat.add_le_add (length_encode_le he) (ih helements)

/-- **All elements are read back**, one after the other. -/
theorem readAll_encodeAll {elements : List Element} (h : ∀ e ∈ elements, e.IsReadable) :
    readAll (encodeAll elements) = some elements := by
  induction elements with
  | nil =>
    rw [readAll]
    rfl
  | cons e elements ih =>
    obtain ⟨he, helements⟩ := List.forall_mem_cons.mp h
    have hread := read_encode he (encodeAll elements)
    have hne : e.encode ++ encodeAll elements ≠ [] := List.cons_ne_nil _ _
    rw [encodeAll_cons, readAll, if_neg hne]
    split
    · rename_i hnone
      cases hread.symm.trans hnone
    · rename_i hsome
      cases hread.symm.trans hsome
      rw [ih helements]
      rfl

theorem inside_encodeAll (tag : UInt8) {elements : List Element} (h : ∀ e ∈ elements, e.IsReadable) :
    inside tag ⟨tag, encodeAll elements⟩ = some elements := by
  rw [inside, if_pos rfl, readAll_encodeAll h]

/-- **The elements of a sequence are read back.** -/
theorem elements?_sequence {elements : List Element} (h : ∀ e ∈ elements, e.IsReadable) :
    (sequence elements).elements? = some elements :=
  inside_encodeAll Tag.sequence h

theorem isReadable_sequence {elements : List Element} (h : ∀ e ∈ elements, e.IsReadable)
    (hlen : roomFor elements < lengthLimit) :
    (sequence elements).IsReadable :=
  ⟨show Tag.isKnown Tag.sequence = true by decide, Nat.lt_of_le_of_lt (length_encodeAll_le h) hlen⟩

theorem readSequence_sequence {elements : List Element} (h : ∀ e ∈ elements, e.IsReadable)
    (hlen : roomFor elements < lengthLimit) :
    readSequence (sequence elements).encode = some elements := by
  rw [readSequence, readOne_encode (isReadable_sequence h hlen)]
  exact elements?_sequence h

/-- The single element in a numbered field. -/
theorem unwrapField_field (n : UInt8) {e : Element} (h : e.IsReadable) :
    unwrapField n ⟨Tag.field n, e.encode⟩ = some e := by
  have hinside := inside_encodeAll (Tag.field n) (List.forall_mem_singleton.mpr h)
  have hencode : encodeAll [e] = e.encode := List.append_nil _
  rw [hencode] at hinside
  rw [unwrapField, hinside]

end Element

/-! ## Plain values -/

theorem Element.octets?_ofOctets (octets : Bytes) : (ofOctets octets).octets? = some octets :=
  if_pos rfl

theorem Element.isReadable_small (n : UInt8) : (small n).IsReadable :=
  ⟨show Tag.isKnown Tag.integer = true by decide, show 1 < lengthLimit by decide⟩

theorem Element.isReadable_ofOctets {octets : Bytes} (h : octets.length < lengthLimit) :
    (ofOctets octets).IsReadable :=
  ⟨show Tag.isKnown Tag.octetString = true by decide, h⟩

namespace BitString

theorem ofElement?_whole (octets : Bytes) :
    ofElement? (whole octets).toElement = some (whole octets) := by
  rw [ofElement?, toElement, if_pos rfl]
  exact if_pos ⟨show (0 : UInt8) ≤ 7 by decide, fun _ => rfl⟩

theorem wholeOctets?_whole (octets : Bytes) : (whole octets).wholeOctets? = some octets := if_pos rfl

theorem isReadable_whole {octets : Bytes} (h : octets.length + 1 < lengthLimit) :
    (whole octets).toElement.IsReadable :=
  ⟨show Tag.isKnown Tag.bitString = true by decide, h⟩

end BitString

namespace Oid

theorem ofElement?_toElement {oid : Oid} (h : ofOctets? oid.octets = some oid) :
    ofElement? oid.toElement = some oid := by
  rw [ofElement?, toElement, if_pos rfl, h]

theorem isReadable_toElement {oid : Oid} (h : ofOctets? oid.octets = some oid) :
    oid.toElement.IsReadable := by
  refine ⟨show Tag.isKnown Tag.objectIdentifier = true by decide, ?_⟩
  unfold ofOctets? at h
  split at h
  · rename_i haccepted
    exact Nat.lt_of_le_of_lt haccepted.2.1 (by decide)
  · cases h

end Oid

end AttestedPayments.Der
