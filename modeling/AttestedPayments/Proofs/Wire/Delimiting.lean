import AttestedPayments.Proofs.Wire.Laws

/-!
# Where a writing ends

* `Codec.Delimits c fits` — what is written in front tells where it ends, as long as the values fit.
* `Codec.Delimits.pair` — a value after another keeps this, and asks no more of either than that it
  fits on its own.
* `Codec.delimits_octets`, `Codec.delimits_text` — counted octets and texts fit if their count does.

A law of codecs bounds a writing as a whole. Here each part has its own bound, so several parts may
be longer together than a count can say.
-/

set_option autoImplicit false

namespace AttestedPayments.Codec

variable {α β : Type}

/-- Two writings with something behind them are the same only if the values are, and what is behind
them. -/
def Delimits (c : Codec α) (fits : α → Prop) : Prop :=
  ∀ a b x y, fits a → fits b → c.encode a ++ x = c.encode b ++ y → a = b ∧ x = y

/-- A value after another. -/
theorem Delimits.pair {c : Codec α} {d : Codec β} {fits : α → Prop} {fits' : β → Prop}
    (hc : Delimits c fits) (hd : Delimits d fits') :
    Delimits (c.pair d) fun v => fits v.1 ∧ fits' v.2 := by
  rintro ⟨a, b⟩ ⟨a', b'⟩ x y ⟨ha, hb⟩ ⟨ha', hb'⟩ h
  simp only [Codec.pair, List.append_assoc] at h
  obtain ⟨rfl, hrest⟩ := hc a a' _ _ ha ha' h
  obtain ⟨rfl, rfl⟩ := hd b b' _ _ hb hb' hrest
  exact ⟨rfl, rfl⟩

/-- A count that is too large is written as what is left of it modulo the limit. -/
theorem count_encode_mod (n : Nat) : count.encode (n % sizeLimit) = count.encode n := by
  have hdigits := LittleEndian.digits_value (LittleEndian.digits 8 n)
  rw [LittleEndian.length_digits, LittleEndian.value_digits_mod] at hdigits
  exact hdigits

/-- The count in front of octets tells them apart from what follows. -/
theorem delimits_octets : Delimits octets fun bytes => bytes.length < sizeLimit := by
  intro a b x y ha hb h
  simp only [octets, List.append_assoc] at h
  obtain ⟨hcount, hrest⟩ := List.append_inj h (by rw [length_count, length_count])
  have hlen : a.length = b.length := by
    have hread := count_decode_encode ha []
    rw [hcount, count_decode_encode hb] at hread
    exact (Prod.mk.inj (Except.ok.inj hread)).1.symm
  exact List.append_inj hrest hlen

/-- A text is written as its octets are. -/
theorem delimits_text : Delimits text fun s => (Utf8.encode s).length < sizeLimit := by
  intro s t x y hs ht h
  obtain ⟨hoctets, hrest⟩ := delimits_octets _ _ x y hs ht h
  exact ⟨Utf8.encode_injective hoctets, hrest⟩

theorem length_int64 (n : Int64) : (int64.encode n).length = 8 := LittleEndian.length_digits 8 _

theorem delimits_int64 : Delimits int64 fun _ => True := by
  intro m n x y _ _ h
  have hsize : ∀ k, (int64.encode k).length < sizeLimit := by
    intro k
    rw [length_int64]
    decide
  exact lawful_int64.append_inj (hsize m) (hsize n) h

end AttestedPayments.Codec
