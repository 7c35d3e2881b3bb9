import AttestedPayments.Proofs.Bytes
import AttestedPayments.Wire.Codec

/-!
# Laws of codecs

* `Codec.Lawful c bare` — reading what `c` wrote gives the value, less what does not travel, and
  leaves what follows; what is read was written so; the part that does not travel, which `bare`
  takes off, makes no difference to the octets.
* `Codec.Lawful.pair`, `.list`, `.via`, `.refine` — the combinators keep the law.

Principal results: `Lawful.decodeAll_encode` and `Lawful.encode_of_decodeAll`, by which octets are
accepted as a value exactly if they are its writing, and `Lawful.eq_nil_of_decodeAll_append`, which
refuses every proper beginning and every continuation of a writing.

Counts travel in eight octets, so all of this is about octet strings of fewer than `2 ^ 64` octets.
-/

set_option autoImplicit false

namespace AttestedPayments.Codec

variable {α β : Type}

/-- More octets than any writing has: counts are below it. -/
def sizeLimit : Nat := 2 ^ 64

/-- Reading and writing belong together, and `bare` takes off what does not travel. -/
structure Lawful (c : Codec α) (bare : α → α) : Prop where
  encode_ne_nil : ∀ a, c.encode a ≠ []
  encode_bare : ∀ a, c.encode (bare a) = c.encode a
  decode_encode : ∀ a rest, (c.encode a).length < sizeLimit →
    c.decode (c.encode a ++ rest) = .ok (bare a, rest)
  encode_decode : ∀ octets a rest, c.decode octets = .ok (a, rest) →
    bare a = a ∧ c.encode a ++ rest = octets

/-! ## Numbers -/

/-- A number that fits is read back. -/
theorem number_decode_encode {width n : Nat} (h : n < 256 ^ width) (rest : Bytes) :
    (number width).decode ((number width).encode n ++ rest) = .ok (n, rest) := by
  have hlen := LittleEndian.length_digits width n
  simp only [number]
  rw [List.take_left' hlen, List.drop_left' hlen, hlen, if_neg (Nat.lt_irrefl width),
    LittleEndian.value_digits h]

/-- A number that is read fits, and was written so. -/
theorem number_encode_decode {width n : Nat} {octets rest : Bytes}
    (h : (number width).decode octets = .ok (n, rest)) :
    n < 256 ^ width ∧ (number width).encode n ++ rest = octets := by
  simp only [number] at h
  split at h
  · cases h
  · rename_i hlen
    cases h
    have hw : (octets.take width).length = width := by
      have := List.length_take_le width octets
      omega
    have hv := LittleEndian.value_lt (octets.take width)
    have hd := LittleEndian.digits_value (octets.take width)
    rw [hw] at hv hd
    refine ⟨hv, ?_⟩
    show LittleEndian.digits width _ ++ _ = _
    rw [hd, List.take_append_drop]

/-- Words that stand for all numbers of a positive width follow the law. -/
theorem Lawful.ofNumber {width : Nat} {toNat : α → Nat} {ofNat : Nat → α} (hw : width ≠ 0)
    (hlt : ∀ a, toNat a < 256 ^ width) (hof : ∀ a, ofNat (toNat a) = a)
    (hto : ∀ n, n < 256 ^ width → toNat (ofNat n) = n) :
    Lawful ((number width).via toNat ofNat) id where
  encode_ne_nil a h := by
    have hlen := LittleEndian.length_digits width (toNat a)
    have h : LittleEndian.digits width (toNat a) = [] := h
    rw [h] at hlen
    exact hw hlen.symm
  encode_bare _ := rfl
  decode_encode a rest _ := by
    simp only [via, number_decode_encode (hlt a), hof, id]
  encode_decode octets a rest h := by
    simp only [via] at h
    split at h
    · cases h
    · rename_i n more hn
      cases h
      obtain ⟨hn', he⟩ := number_encode_decode hn
      refine ⟨rfl, ?_⟩
      show (number width).encode (toNat (ofNat n)) ++ rest = octets
      rw [hto n hn', he]

theorem lawful_uint32 : Lawful uint32 id :=
  .ofNumber (by decide) (fun a => a.toNat_lt) (fun a => UInt32.ofNat_toNat)
    (fun _ h => UInt32.toNat_ofNat_of_lt' h)

theorem lawful_uint64 : Lawful uint64 id :=
  .ofNumber (by decide) (fun a => a.toNat_lt) (fun a => UInt64.ofNat_toNat)
    (fun _ h => UInt64.toNat_ofNat_of_lt' h)

theorem lawful_octet : Lawful octet id :=
  .ofNumber (by decide) (fun a => a.toNat_lt) (fun a => UInt8.ofNat_toNat)
    (fun _ h => UInt8.toNat_ofNat_of_lt' h)

/-! ## Combinators -/

namespace Lawful

variable {c : Codec α} {d : Codec β} {f : α → α} {g : β → β}

/-- The law with another description of the part that travels. -/
theorem congr {f' : α → α} (hc : Lawful c f) (h : ∀ a, f a = f' a) : Lawful c f' := by
  have hf : f = f' := funext h
  exact hf ▸ hc

/-- A value after another. -/
theorem pair (hc : Lawful c f) (hd : Lawful d g) : Lawful (c.pair d) (Prod.map f g) where
  encode_ne_nil p h := hc.encode_ne_nil p.1 (List.append_eq_nil_iff.mp h).1
  encode_bare p := by
    show c.encode (f p.1) ++ d.encode (g p.2) = c.encode p.1 ++ d.encode p.2
    rw [hc.encode_bare, hd.encode_bare]
  decode_encode p rest h := by
    obtain ⟨a, b⟩ := p
    simp only [Codec.pair, List.length_append] at h
    simp only [Codec.pair, List.append_assoc]
    rw [hc.decode_encode a _ (by omega)]
    simp only
    rw [hd.decode_encode b _ (by omega)]
    rfl
  encode_decode octets p rest h := by
    simp only [Codec.pair] at h
    split at h
    · cases h
    rename_i a more ha
    split at h
    · cases h
    rename_i b more' hb
    cases h
    obtain ⟨hfa, hea⟩ := hc.encode_decode _ _ _ ha
    obtain ⟨hgb, heb⟩ := hd.encode_decode _ _ _ hb
    refine ⟨by rw [Prod.map_apply, hfa, hgb], ?_⟩
    show (c.encode a ++ d.encode b) ++ rest = octets
    rw [List.append_assoc, heb, hea]

/-- Values of another type that stand for the values of a codec one to one, apart from what does
not travel. -/
theorem via (hc : Lawful c f) {toBase : β → α} {ofBase : α → β}
    (h : ∀ a, toBase (ofBase a) = a) :
    Lawful (c.via toBase ofBase) (fun b => ofBase (f (toBase b))) where
  encode_ne_nil b := hc.encode_ne_nil (toBase b)
  encode_bare b := by
    show c.encode (toBase (ofBase (f (toBase b)))) = c.encode (toBase b)
    rw [h, hc.encode_bare]
  decode_encode b rest hlen := by
    simp only [Codec.via]
    rw [hc.decode_encode (toBase b) rest hlen]
  encode_decode octets b rest hd := by
    simp only [Codec.via] at hd
    split at hd
    · cases hd
    rename_i a more ha
    cases hd
    obtain ⟨hfa, hea⟩ := hc.encode_decode _ _ _ ha
    refine ⟨by rw [h, hfa], ?_⟩
    show c.encode (toBase (ofBase a)) ++ rest = octets
    rw [h, hea]

/-- Values of another type that stand for some of the values of a codec. -/
theorem refine (hc : Lawful c id) {toBase : β → α} {ofBase : α → Except WireFault β}
    (hof : ∀ b, ofBase (toBase b) = .ok b) (hto : ∀ a b, ofBase a = .ok b → toBase b = a) :
    Lawful (c.refine toBase ofBase) id where
  encode_ne_nil b := hc.encode_ne_nil (toBase b)
  encode_bare _ := rfl
  decode_encode b rest hlen := by
    simp only [Codec.refine]
    rw [hc.decode_encode (toBase b) rest hlen]
    simp only [id, hof]
  encode_decode octets b rest hd := by
    simp only [Codec.refine] at hd
    split at hd
    · cases hd
    rename_i a more ha
    split at hd
    · cases hd
    rename_i b' hb
    cases hd
    obtain ⟨_, hea⟩ := hc.encode_decode _ _ _ ha
    refine ⟨rfl, ?_⟩
    show c.encode (toBase b) ++ rest = octets
    rw [hto a b hb, hea]

end Lawful

/-! ## Signed numbers and truth values -/

theorem lawful_int64 : Lawful int64 id :=
  (lawful_uint64.via fun a => UInt64.toUInt64_toInt64 a).congr fun a => Int64.toInt64_toUInt64 a

theorem lawful_bool : Lawful bool id := by
  refine lawful_octet.refine (fun b => by cases b <;> rfl) fun a b h => ?_
  split at h
  · cases h
    simp_all
  · split at h
    · cases h
      simp_all
    · cases h

/-! ## Texts, octets and lists -/

theorem count_decode_encode {n : Nat} (h : n < sizeLimit) (rest : Bytes) :
    count.decode (count.encode n ++ rest) = .ok (n, rest) :=
  number_decode_encode h rest

theorem length_count (n : Nat) : (count.encode n).length = 8 := LittleEndian.length_digits 8 n

theorem count_ne_nil (n : Nat) (rest : Bytes) : count.encode n ++ rest ≠ [] := by
  intro h
  have := congrArg List.length h
  simp [length_count] at this

theorem lawful_octets : Lawful octets id where
  encode_ne_nil bytes := count_ne_nil _ _
  encode_bare _ := rfl
  decode_encode bytes rest h := by
    have hlt : bytes.length < sizeLimit := by
      simp only [octets, List.length_append] at h
      omega
    simp only [octets, List.append_assoc]
    rw [count_decode_encode hlt]
    simp
  encode_decode bytes a rest h := by
    simp only [octets] at h
    split at h
    · cases h
    rename_i n more hn
    split at h
    · cases h
    rename_i hlen
    cases h
    have htake : (more.take n).length = n := by
      have := List.length_take_le n more
      omega
    obtain ⟨_, he⟩ := number_encode_decode hn
    refine ⟨rfl, ?_⟩
    show (count.encode (more.take n).length ++ more.take n) ++ more.drop n = bytes
    rw [htake, List.append_assoc, List.take_append_drop]
    exact he

theorem lawful_text : Lawful text id where
  encode_ne_nil s := count_ne_nil _ _
  encode_bare _ := rfl
  decode_encode s rest h := by
    have hlt : (Utf8.encode s).length < sizeLimit := by
      simp only [text, List.length_append] at h
      omega
    simp only [text, List.append_assoc]
    rw [count_decode_encode hlt]
    simp [Utf8.decode_encode]
  encode_decode bytes s rest h := by
    simp only [text] at h
    split at h
    · cases h
    rename_i n more hn
    split at h
    · cases h
    rename_i hlen
    split at h
    · cases h
    rename_i s' hs
    cases h
    have htake : (more.take n).length = n := by
      have := List.length_take_le n more
      omega
    obtain ⟨_, he⟩ := number_encode_decode hn
    refine ⟨rfl, ?_⟩
    show (count.encode (Utf8.encode s).length ++ Utf8.encode s) ++ more.drop n = bytes
    rw [Utf8.encode_of_decode hs, htake, List.append_assoc, List.take_append_drop]
    exact he

namespace Lawful

variable {c : Codec α} {f : α → α}

/-- Every member takes up at least one octet, so a list has no more members than octets. -/
theorem length_le_flatMap (hc : Lawful c f) (as : List α) :
    as.length ≤ (as.flatMap c.encode).length := by
  induction as with
  | nil => simp
  | cons a as ih =>
    have := List.length_pos_iff.mpr (hc.encode_ne_nil a)
    simp only [List.flatMap_cons, List.length_append, List.length_cons]
    omega

theorem decodeMany_flatMap (hc : Lawful c f) (as : List α) (rest : Bytes)
    (h : (as.flatMap c.encode).length < sizeLimit) :
    decodeMany c as.length (as.flatMap c.encode ++ rest) = .ok (as.map f, rest) := by
  induction as with
  | nil => rfl
  | cons a as ih =>
    simp only [List.flatMap_cons, List.length_append] at h
    simp only [List.length_cons, decodeMany, List.flatMap_cons, List.append_assoc]
    rw [hc.decode_encode a _ (by omega)]
    simp only
    rw [ih (by omega)]
    rfl

theorem flatMap_decodeMany (hc : Lawful c f) {n : Nat} {octets rest : Bytes} {as : List α}
    (h : decodeMany c n octets = .ok (as, rest)) :
    as.length = n ∧ as.map f = as ∧ as.flatMap c.encode ++ rest = octets := by
  induction n generalizing octets as with
  | zero =>
    cases h
    exact ⟨rfl, rfl, rfl⟩
  | succ n ih =>
    simp only [decodeMany] at h
    split at h
    · cases h
    rename_i a more ha
    split at h
    · cases h
    rename_i as' more' has
    cases h
    obtain ⟨hfa, hea⟩ := hc.encode_decode _ _ _ ha
    obtain ⟨hlen, hmap, heas⟩ := ih has
    refine ⟨by rw [List.length_cons, hlen], by rw [List.map_cons, hfa, hmap], ?_⟩
    rw [List.flatMap_cons, List.append_assoc, heas, hea]

/-- Lists of lawful members. -/
theorem list (hc : Lawful c f) : Lawful (Codec.list c) (List.map f) where
  encode_ne_nil as := count_ne_nil _ _
  encode_bare as := by
    have h : (as.map f).flatMap c.encode = as.flatMap c.encode := by
      rw [List.flatMap_map, funext hc.encode_bare]
    show count.encode (as.map f).length ++ _ = count.encode as.length ++ _
    rw [List.length_map, h]
  decode_encode as rest h := by
    have hcount := hc.length_le_flatMap as
    simp only [Codec.list, List.length_append] at h
    simp only [Codec.list, List.append_assoc]
    rw [count_decode_encode (by omega)]
    exact hc.decodeMany_flatMap as rest (by omega)
  encode_decode octets as rest h := by
    simp only [Codec.list] at h
    split at h
    · cases h
    rename_i n more hn
    obtain ⟨_, he⟩ := number_encode_decode hn
    obtain ⟨hlen, hmap, heas⟩ := hc.flatMap_decodeMany h
    refine ⟨hmap, ?_⟩
    show (count.encode as.length ++ as.flatMap c.encode) ++ rest = octets
    rw [hlen, List.append_assoc, heas]
    exact he

/-! ## Whole octet strings -/

/-- **A writing that fits is read back.** -/
theorem decodeAll_encode (hc : Lawful c f) {a : α} (h : (c.encode a).length < sizeLimit) :
    c.decodeAll (c.encode a) = .ok (f a) := by
  have := hc.decode_encode a [] h
  rw [List.append_nil] at this
  simp only [decodeAll, this]

/-- **What is read as a value is the writing of that value**, which has no part that does not travel. -/
theorem encode_of_decodeAll (hc : Lawful c f) {a : α} {octets : Bytes}
    (h : c.decodeAll octets = .ok a) : f a = a ∧ c.encode a = octets := by
  unfold decodeAll at h
  split at h
  · cases h
  · rename_i hd
    cases h
    obtain ⟨hf, he⟩ := hc.encode_decode _ _ _ hd
    exact ⟨hf, by rw [← he, List.append_nil]⟩
  · cases h

/-- A writing tells where it ends, whatever follows it. -/
theorem append_inj (hc : Lawful c f) {a b : α} {x y : Bytes}
    (ha : (c.encode a).length < sizeLimit) (hb : (c.encode b).length < sizeLimit)
    (h : c.encode a ++ x = c.encode b ++ y) : f a = f b ∧ x = y := by
  have hread := hc.decode_encode a x ha
  rw [h, hc.decode_encode b y hb] at hread
  obtain ⟨hvalue, hrest⟩ := Prod.mk.inj (Except.ok.inj hread)
  exact ⟨hvalue.symm, hrest.symm⟩

/-- Values with one writing are the same, apart from what does not travel. -/
theorem eq_of_encode_eq (hc : Lawful c f) {a b : α} (hlen : (c.encode a).length < sizeLimit)
    (h : c.encode a = c.encode b) : f a = f b :=
  (hc.append_inj hlen (h ▸ hlen) (congrArg (· ++ []) h)).1

/-- **No writing is a proper beginning of another one.** -/
theorem eq_nil_of_decodeAll_append (hc : Lawful c f) {a b : α} {octets more : Bytes}
    (hlen : octets.length < sizeLimit) (ha : c.encode a = octets)
    (hb : c.decodeAll (octets ++ more) = .ok b) : more = [] := by
  subst ha
  have hd := hc.decode_encode a more hlen
  simp only [decodeAll, hd] at hb
  cases more with
  | nil => rfl
  | cons x xs => cases hb

end Lawful

end AttestedPayments.Codec
