import AttestedPayments.Text.Base64
import Mathlib.Tactic.SplitIfs

/-!
# Base64 is read back

* `Base64.forall_mem_encode` — what holds of every symbol and of the filling holds of every octet that
  is written.
* `Base64.value?_symbol`, `Base64.decodeGroup_symbols` — one symbol, and one full group.

Principal result: `Base64.decode_encode`.
-/

set_option autoImplicit false

namespace AttestedPayments.Base64

/-! ## Symbols -/

theorem symbol_bounds (n : Nat) : 43 ≤ (symbol n).toNat ∧ (symbol n).toNat < 128 := by
  unfold symbol
  split_ifs <;> simp only [UInt8.toNat_ofNat', UInt8.reduceToNat] <;> omega

theorem symbol_lt (n : Nat) : symbol n < 0x80 :=
  UInt8.lt_iff_toNat_lt.mpr (symbol_bounds n).2

theorem value?_symbol {n : Nat} (h : n < 64) : value? (symbol n) = some n := by
  have key : ∀ n : Fin 64, value? (symbol n) = some n.val := by decide
  exact key ⟨n, h⟩

theorem symbol_ne_filler {n : Nat} (h : n < 64) : symbol n ≠ filler := by
  intro heq
  have hvalue := value?_symbol h
  rw [heq] at hvalue
  cases hvalue

/-- What holds of every symbol and of the filling holds of every octet that is written. -/
theorem forall_mem_encode {p : UInt8 → Prop} (hsymbol : ∀ n, p (symbol n)) (hfiller : p filler)
    (bytes : Bytes) : ∀ c ∈ encode bytes, p c := by
  fun_induction encode bytes with
  | case1 a b c rest n ih =>
    simp only [List.forall_mem_cons]
    exact ⟨hsymbol _, hsymbol _, hsymbol _, hsymbol _, ih⟩
  | case2 a b n =>
    simp only [List.forall_mem_cons]
    exact ⟨hsymbol _, hsymbol _, hsymbol _, hfiller, List.forall_mem_nil _⟩
  | case3 a n =>
    simp only [List.forall_mem_cons]
    exact ⟨hsymbol _, hsymbol _, hfiller, hfiller, List.forall_mem_nil _⟩
  | case4 => exact List.forall_mem_nil _

theorem lt_of_mem_encode (bytes : Bytes) : ∀ c ∈ encode bytes, c < 0x80 :=
  forall_mem_encode symbol_lt (by decide) bytes

theorem encode_ne_nil {bytes : Bytes} (h : bytes ≠ []) : encode bytes ≠ [] := by
  unfold encode
  split
  · exact List.cons_ne_nil _ _
  · exact List.cons_ne_nil _ _
  · exact List.cons_ne_nil _ _
  · exact absurd rfl h

/-! ## Groups -/

theorem ofNat_eq_of_mod {n : Nat} {b : UInt8} (h : n % 256 = b.toNat) : UInt8.ofNat n = b :=
  UInt8.toNat.inj (by rw [UInt8.toNat_ofNat', h])

theorem decodeGroup_symbols {n : Nat} (h : n < 16777216) :
    decodeGroup (symbol (n / 262144)) (symbol (n / 4096 % 64)) (symbol (n / 64 % 64))
      (symbol (n % 64)) = some [UInt8.ofNat (n / 65536), UInt8.ofNat (n / 256), UInt8.ofNat n] := by
  have hsum : 262144 * (n / 262144) + 4096 * (n / 4096 % 64) + 64 * (n / 64 % 64) + n % 64 = n := by
    omega
  rw [decodeGroup, value?_symbol (by omega), value?_symbol (by omega), value?_symbol (by omega),
    value?_symbol (by omega)]
  simp only [hsum]

/-- A full group is read whether another one follows or not. -/
theorem decode_group {a b c d : UInt8} {group : Bytes} (hd : d ≠ filler)
    (h : decodeGroup a b c d = some group) (rest : Bytes) :
    decode (a :: b :: c :: d :: rest) = (decode rest).map (group ++ ·) := by
  cases rest with
  | nil =>
    show decodeLast a b c d = some (group ++ [])
    rw [decodeLast, if_pos hd, h, List.append_nil]
  | cons e rest => simp only [decode, h]

/-- **Octets are read back.** -/
theorem decode_encode (bytes : Bytes) : decode (encode bytes) = some bytes := by
  fun_induction encode bytes with
  | case1 a b c rest n ih =>
    have ha := a.toNat_lt
    have hb := b.toNat_lt
    have hc := c.toNat_lt
    have hgroup := decodeGroup_symbols (show n < 16777216 by omega)
    rw [decode_group (symbol_ne_filler (by omega)) hgroup, ih, Option.map_some,
      ofNat_eq_of_mod (show n / 65536 % 256 = a.toNat by omega),
      ofNat_eq_of_mod (show n / 256 % 256 = b.toNat by omega),
      ofNat_eq_of_mod (show n % 256 = c.toNat by omega)]
    rfl
  | case2 a b n =>
    have ha := a.toNat_lt
    have hb := b.toNat_lt
    have hsum : 4096 * (n / 4096) + 64 * (n / 64 % 64) + n % 64 = n := by omega
    rw [decode, decodeLast, if_neg (not_not_intro rfl), if_pos (symbol_ne_filler (by omega)),
      value?_symbol (by omega), value?_symbol (by omega), value?_symbol (by omega)]
    simp only [hsum]
    rw [if_pos (by omega), ofNat_eq_of_mod (show n / 1024 % 256 = a.toNat by omega),
      ofNat_eq_of_mod (show n / 4 % 256 = b.toNat by omega)]
  | case3 a n =>
    have ha := a.toNat_lt
    have hsum : 64 * (n / 64) + n % 64 = n := by omega
    rw [decode, decodeLast, if_neg (not_not_intro rfl), if_neg (not_not_intro rfl),
      value?_symbol (by omega), value?_symbol (by omega)]
    simp only [hsum]
    rw [if_pos (by omega), ofNat_eq_of_mod (show n / 16 % 256 = a.toNat by omega)]
  | case4 => rfl

end AttestedPayments.Base64
