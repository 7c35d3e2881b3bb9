import AttestedPayments.Bytes
import Mathlib.Algebra.Group.Nat.Defs

/-!
# Octets of numbers, and pieces of octet strings

* `LittleEndian.value_digits`, `LittleEndian.digits_value` — the writing of fixed width is a bijection
  with the numbers below `256 ^ width`; the same holds with the most significant octet first.
* `LittleEndian.digits_add`, `LittleEndian.value_append` — a number in two parts, the lower one first.
* `BigEndian.lt_pow_width`, `BigEndian.pow_width_le` — how many octets a number needs.
* `BigEndian.value_minimal` — the shortest writing is read back.
* `chunks_flatten_of_forall` — pieces of one size are found again in what they make up together.
* `xorBytes_xorBytes` — adding octets twice changes nothing.
-/

set_option autoImplicit false

namespace AttestedPayments

namespace LittleEndian

theorem value_lt (bytes : Bytes) : value bytes < 256 ^ bytes.length := by
  induction bytes with
  | nil => simp [value]
  | cons b rest ih =>
    have hb := b.toNat_lt
    simp only [value, List.length_cons, Nat.pow_succ]
    omega

/-- A writing that is too short for a number writes what is left of it modulo the limit. -/
theorem value_digits_mod (width n : Nat) : value (digits width n) = n % 256 ^ width := by
  induction width generalizing n with
  | zero => simp [digits, value, Nat.mod_one]
  | succ width ih =>
    rw [digits, value, ih, Nat.pow_succ', Nat.mod_mul, UInt8.toNat_ofNat']

/-- Writing a number that fits and reading it back is the identity. -/
theorem value_digits {width n : Nat} (h : n < 256 ^ width) : value (digits width n) = n := by
  rw [value_digits_mod, Nat.mod_eq_of_lt h]

/-- Octets are the writing of the number they write. -/
theorem digits_value (bytes : Bytes) : digits bytes.length (value bytes) = bytes := by
  induction bytes with
  | nil => rfl
  | cons b rest ih =>
    have hb := b.toNat_lt
    have hdiv : (b.toNat + 256 * value rest) / 256 = value rest := by omega
    have hmod : UInt8.ofNat (b.toNat + 256 * value rest) = b := by
      apply UInt8.toNat_inj.mp
      simp only [UInt8.toNat_ofNat']
      omega
    simp only [List.length_cons, digits, value, hdiv, hmod, ih]

/-- A writing consists of one of the lower part of the number and one of the higher part. -/
theorem digits_add (low high n : Nat) :
    digits (low + high) n = digits low n ++ digits high (n / 256 ^ low) := by
  induction low generalizing n with
  | zero => simp [digits]
  | succ low ih =>
    rw [Nat.succ_add, digits, digits, ih, Nat.div_div_eq_div_mul, ← Nat.pow_succ', List.cons_append]

theorem value_append (low high : Bytes) :
    value (low ++ high) = value low + 256 ^ low.length * value high := by
  induction low with
  | nil => simp [value]
  | cons b low ih =>
    rw [List.cons_append, value, value, ih, List.length_cons, Nat.pow_succ', Nat.mul_add,
      Nat.add_assoc, Nat.mul_assoc]

end LittleEndian

namespace BigEndian

/-- Writing a number that fits and reading it back is the identity. -/
theorem value_digits {width n : Nat} (h : n < 256 ^ width) : value (digits width n) = n := by
  rw [value_eq_reverse, digits, List.reverse_reverse, LittleEndian.value_digits h]

/-- Octets are the writing of the number they write. -/
theorem digits_value (bytes : Bytes) : digits bytes.length (value bytes) = bytes := by
  have h := LittleEndian.digits_value bytes.reverse
  rw [List.length_reverse] at h
  rw [value_eq_reverse, digits, h, List.reverse_reverse]

theorem value_lt (bytes : Bytes) : value bytes < 256 ^ bytes.length := by
  have h := LittleEndian.value_lt bytes.reverse
  rwa [List.length_reverse, ← value_eq_reverse] at h

@[simp] theorem value_zero_cons (bytes : Bytes) : value (0 :: bytes) = value bytes := by
  simp [value]

/-- A number fits into as many octets as it needs. -/
theorem lt_pow_width (n : Nat) : n < 256 ^ width n := by
  unfold width
  split
  · rename_i h
    subst h
    decide
  · rename_i h
    have hlog : n.log2 < 8 * (n.log2 / 8 + 1) := by omega
    have hpow : (256 : Nat) = 2 ^ 8 := by decide
    rw [hpow, ← Nat.pow_mul]
    exact (Nat.log2_lt h).mp hlog

/-- A number does not fit into fewer octets than it needs. -/
theorem pow_width_le {n : Nat} (h : n ≠ 0) : 256 ^ (width n - 1) ≤ n := by
  have hpow : (256 : Nat) = 2 ^ 8 := by decide
  rw [width, if_neg h, Nat.add_sub_cancel, hpow, ← Nat.pow_mul]
  have hle : 8 * (n.log2 / 8) ≤ n.log2 := by omega
  exact Nat.le_trans (Nat.pow_le_pow_right (by decide) hle) (Nat.log2_self_le h)

/-- The shortest writing is read back. -/
@[simp] theorem value_minimal (n : Nat) : value (minimal n) = n := value_digits (lt_pow_width n)

@[simp] theorem length_minimal (n : Nat) : (minimal n).length = width n := length_digits _ _

end BigEndian

/-! ## Pieces -/

theorem length_of_mem_chunks {α : Type} {size : Nat} {items : List α} (h : size ∣ items.length) :
    ∀ piece ∈ chunks size items, piece.length = size := by
  fun_induction chunks size items with
  | case1 items hnil => exact List.forall_mem_nil _
  | case2 items hne ih =>
    have hpos : items.length ≠ 0 := fun h0 => hne (Or.inr (List.length_eq_zero_iff.mp h0))
    have hle : size ≤ items.length := Nat.le_of_dvd (Nat.pos_of_ne_zero hpos) h
    refine List.forall_mem_cons.mpr ⟨List.length_take_of_le hle, ih ?_⟩
    rw [List.length_drop]
    exact Nat.dvd_sub h (Nat.dvd_refl size)

/-- Pieces of one size together. -/
theorem length_flatten_of_forall {α : Type} {size : Nat} {pieces : List (List α)}
    (h : ∀ piece ∈ pieces, piece.length = size) :
    pieces.flatten.length = size * pieces.length := by
  induction pieces with
  | nil => rfl
  | cons piece pieces ih =>
    obtain ⟨hpiece, h⟩ := List.forall_mem_cons.mp h
    rw [List.flatten_cons, List.length_append, hpiece, ih h, List.length_cons, Nat.mul_succ,
      Nat.add_comm]

/-- Pieces of one size are found again. -/
theorem chunks_flatten_of_forall {α : Type} {size : Nat} (hs : size ≠ 0)
    {pieces : List (List α)} (h : ∀ piece ∈ pieces, piece.length = size) :
    chunks size pieces.flatten = pieces := by
  induction pieces with
  | nil =>
    rw [List.flatten_nil, chunks, dif_pos (Or.inr rfl)]
  | cons piece pieces ih =>
    obtain ⟨hpiece, h⟩ := List.forall_mem_cons.mp h
    have hne : ¬ (size = 0 ∨ (piece :: pieces).flatten = []) := by
      rintro (h0 | hnil)
      · exact hs h0
      · rw [List.flatten_cons, List.append_eq_nil_iff] at hnil
        rw [hnil.1] at hpiece
        exact hs hpiece.symm
    rw [chunks, dif_neg hne, List.flatten_cons, List.take_left' hpiece, List.drop_left' hpiece, ih h]

/-! ## Exclusive or -/

theorem length_xorBytes {a b : Bytes} (h : a.length = b.length) :
    (xorBytes a b).length = a.length := by
  rw [xorBytes, List.length_zipWith, h, Nat.min_self]

/-- Adding octets twice changes nothing. -/
theorem xorBytes_xorBytes {a b : Bytes} (h : a.length = b.length) :
    xorBytes (xorBytes a b) b = a := by
  induction a generalizing b with
  | nil => rfl
  | cons x a ih =>
    cases b with
    | nil => cases h
    | cons y b =>
      have := ih (Nat.succ.inj h)
      simp only [xorBytes, List.zipWith_cons_cons] at this ⊢
      rw [this, UInt8.xor_assoc, UInt8.xor_self, UInt8.xor_zero]

end AttestedPayments
