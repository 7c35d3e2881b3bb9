import AttestedPayments.Cipher.Chaining
import AttestedPayments.Proofs.Bytes
import Mathlib.Data.FinEnum
import Mathlib.Data.Set.Finite.List

/-!
# Decrypting a block undoes encrypting it

* `restoreOctet_substituteOctet`, `unshiftRows_shiftRows`, `unmixColumns_mixColumns` — each step of a
  round is undone.
* `unrounds_rounds` — all rounds are undone, from the last to the first.
* `length_of_mem_roundKeys` — a key of thirty-two octets expands to keys as long as a block.

Principal results: `decryptBlock_encryptBlock`, `encryptBlock_decryptBlock`.
-/

set_option autoImplicit false

namespace AttestedPayments.Cipher.Aes

variable {state key : Bytes}

/-! ## Substitution and rows -/

/-- Whether no number of a list comes twice or is among the bits that were seen before. -/
def allNew (seen : Nat) : List Nat → Bool
  | [] => true
  | n :: rest => !seen.testBit n && allNew (seen ||| 2 ^ n) rest

theorem nodup_of_allNew {seen : Nat} {l : List Nat} (h : allNew seen l = true) :
    l.Nodup ∧ ∀ n ∈ l, seen.testBit n = false := by
  induction l generalizing seen with
  | nil => exact ⟨List.nodup_nil, fun _ hn => nomatch hn⟩
  | cons n rest ih =>
    simp only [allNew, Bool.and_eq_true, Bool.not_eq_true'] at h
    obtain ⟨hnodup, hseen⟩ := ih h.2
    simp only [Nat.testBit_or, Nat.testBit_two_pow, Bool.or_eq_false_iff,
      decide_eq_false_iff_not] at hseen
    refine ⟨List.nodup_cons.mpr ⟨fun hmem => (hseen n hmem).2 rfl, hnodup⟩, ?_⟩
    exact List.forall_mem_cons.mpr ⟨h.1, fun m hm => (hseen m hm).1⟩

/-- The rows of the table are the substitutes of all octets. -/
theorem substitutes_eq :
    substitutes = (List.range 256).map fun n => substituteOctet (UInt8.ofNat n) := by
  decide +kernel

/-- No octet is put in the place of two. -/
theorem nodup_substitutes : substitutes.Nodup := by
  have h : allNew 0 (substitutes.map UInt8.toNat) = true := by decide +kernel
  exact List.Pairwise.of_map _ (fun a b hne heq => hne (congrArg _ heq)) (nodup_of_allNew h).1

/-- The original of an octet is its place in the table. -/
theorem restoreOctet_eq (b : UInt8) : restoreOctet b = UInt8.ofNat (substitutes.idxOf b) := by
  have hb := b.toNat_lt
  simp [restoreOctet, inverseSubstitution, Array.getD, hb]

theorem restoreOctet_substituteOctet (b : UInt8) : restoreOctet (substituteOctet b) = b := by
  have hlen : substitutes.length = 256 := by
    rw [substitutes_eq, List.length_map, List.length_range]
  have hb : b.toNat < substitutes.length := by
    rw [hlen]
    exact b.toNat_lt
  have hget : substituteOctet b = substitutes[b.toNat] := by
    simp only [substitutes_eq, List.getElem_map, List.getElem_range, UInt8.ofNat_toNat]
  rw [restoreOctet_eq, hget, nodup_substitutes.idxOf_getElem, UInt8.ofNat_toNat]

theorem restore_substitute (state : Bytes) : restore (substitute state) = state := by
  simp only [restore, substitute, List.map_map, Function.comp_def, restoreOctet_substituteOctet,
    List.map_id']

@[simp] theorem length_substitute (state : Bytes) : (substitute state).length = state.length :=
  List.length_map _

theorem unshiftRows_shiftRows (state : Bytes) : unshiftRows (shiftRows state) = state := by
  unfold shiftRows
  split
  · rfl
  · rename_i hne
    unfold unshiftRows
    split
    · exact absurd rfl (hne _ _ _ _ _ _ _ _ _ _ _ _ _ _ _ _)
    · rfl

theorem length_shiftRows (state : Bytes) : (shiftRows state).length = state.length := by
  unfold shiftRows
  split <;> rfl

/-! ## Columns -/

/-- What is added to twice an octet that has its highest bit set. -/
def overflow (b : UInt8) : UInt8 := if b < 0x80 then 0 else 0x1b

theorem twice_eq (b : UInt8) : twice b = (b + b) ^^^ overflow b := by
  unfold twice overflow
  split <;> simp

theorem lt_iff_msb (b : UInt8) : b < 0x80 ↔ b.toBitVec.msb = false := by
  rw [BitVec.msb_eq_decide, decide_eq_false_iff_not, UInt8.lt_iff_toNat_lt]
  simp

theorem overflow_xor (a b : UInt8) : overflow (a ^^^ b) = overflow a ^^^ overflow b := by
  simp only [overflow, lt_iff_msb, UInt8.toBitVec_xor, BitVec.msb_xor]
  cases a.toBitVec.msb <;> cases b.toBitVec.msb <;> decide

theorem double_xor (a b : UInt8) : (a ^^^ b) + (a ^^^ b) = (a + a) ^^^ (b + b) := by
  have hshift : ∀ x : BitVec 8, x + x = x <<< 1 := by
    intro x
    apply BitVec.eq_of_toNat_eq
    simp only [BitVec.toNat_add, BitVec.toNat_shiftLeft, Nat.shiftLeft_eq]
    omega
  apply UInt8.toBitVec_inj.mp
  simp only [UInt8.toBitVec_add, UInt8.toBitVec_xor, hshift, BitVec.shiftLeft_xor_distrib]

/-- Doubling is linear. -/
theorem twice_xor (a b : UInt8) : twice (a ^^^ b) = twice a ^^^ twice b := by
  simp only [twice_eq, double_xor, overflow_xor]
  ac_rfl

theorem xor_left_comm (a b c : UInt8) : a ^^^ (b ^^^ c) = b ^^^ (a ^^^ c) := by
  ac_rfl

theorem xor_cancel_left (a b : UInt8) : a ^^^ (a ^^^ b) = b := by
  rw [← UInt8.xor_assoc, UInt8.xor_self, UInt8.zero_xor]

/-- The first octet of a mixed column; the others are the same for the column turned. -/
def mixOctet (a b c d : UInt8) : UInt8 := twice (a ^^^ b) ^^^ a ^^^ (a ^^^ b ^^^ c ^^^ d)

theorem mixColumn_eq (a b c d : UInt8) :
    mixColumn a b c d =
      [mixOctet a b c d, mixOctet b c d a, mixOctet c d a b, mixOctet d a b c] := by
  simp only [mixColumn, mixOctet, twice_xor, List.cons.injEq, and_true]
  refine ⟨?_, ?_, ?_, ?_⟩ <;>
    simp only [UInt8.xor_assoc, UInt8.xor_comm, xor_left_comm, xor_cancel_left]

/-- Mixing keeps the sum of a column. -/
theorem mixOctet_sum (a b c d : UInt8) :
    mixOctet a b c d ^^^ mixOctet b c d a ^^^ mixOctet c d a b ^^^ mixOctet d a b c =
      a ^^^ b ^^^ c ^^^ d := by
  simp only [mixOctet, twice_xor]
  simp only [UInt8.xor_assoc, UInt8.xor_comm, xor_left_comm, UInt8.xor_self, UInt8.xor_zero,
    xor_cancel_left]

/-- Mixing twice multiplies by the square of the polynomial, `4x² + 5`. -/
theorem mixOctet_mixOctet (a b c d : UInt8) :
    mixOctet (mixOctet a b c d) (mixOctet b c d a) (mixOctet c d a b) (mixOctet d a b c) =
      a ^^^ twice (twice (a ^^^ c)) := by
  have hpair : mixOctet a b c d ^^^ mixOctet b c d a = twice (a ^^^ c) ^^^ (a ^^^ b) := by
    simp only [mixOctet, twice_xor]
    simp only [UInt8.xor_assoc, UInt8.xor_comm, xor_left_comm, xor_cancel_left]
  rw [mixOctet, mixOctet_sum, hpair, twice_xor (twice _), mixOctet]
  generalize twice (twice (a ^^^ c)) = t
  generalize twice (a ^^^ b) = u
  simp only [UInt8.xor_comm, xor_left_comm, UInt8.xor_self, UInt8.xor_zero, xor_cancel_left]

/-- The square of `4x² + 5` is one, so mixing four times changes nothing. -/
theorem mixOctet_four (a b c d : UInt8) :
    let a' := mixOctet a b c d
    let b' := mixOctet b c d a
    let c' := mixOctet c d a b
    let d' := mixOctet d a b c
    mixOctet (a' ^^^ twice (twice (a' ^^^ c'))) (b' ^^^ twice (twice (b' ^^^ d')))
      (c' ^^^ twice (twice (c' ^^^ a'))) (d' ^^^ twice (twice (d' ^^^ b'))) = a := by
  intro a' b' c' d'
  rw [← mixOctet_mixOctet a' b' c' d', ← mixOctet_mixOctet b' c' d' a',
    ← mixOctet_mixOctet c' d' a' b', ← mixOctet_mixOctet d' a' b' c', mixOctet_mixOctet,
    mixOctet_mixOctet a b c d, mixOctet_mixOctet c d a b, UInt8.xor_comm c a]
  have hcancel : ∀ t : UInt8, a ^^^ t ^^^ (c ^^^ t) = a ^^^ c := by
    intro t
    rw [UInt8.xor_comm c, ← UInt8.xor_assoc, UInt8.xor_assoc a, UInt8.xor_self, UInt8.xor_zero]
  rw [hcancel, UInt8.xor_assoc, UInt8.xor_self, UInt8.xor_zero]

/-- The two polynomials that columns are multiplied by are inverse to each other. -/
theorem unmixColumns_mixColumn_append (a b c d : UInt8) (rest : Bytes) :
    unmixColumns (mixColumn a b c d ++ rest) = a :: b :: c :: d :: unmixColumns rest := by
  have ha := mixOctet_four a b c d
  have hb := mixOctet_four b c d a
  have hc := mixOctet_four c d a b
  have hd := mixOctet_four d a b c
  rw [mixColumn_eq]
  simp only [List.cons_append, List.nil_append, unmixColumns, unmixColumn, mixColumn_eq]
  simp only at ha hb hc hd
  rw [UInt8.xor_comm (mixOctet c d a b) (mixOctet a b c d),
    UInt8.xor_comm (mixOctet d a b c) (mixOctet b c d a)] at ha hb hc hd
  rw [ha, hb, hc, hd]

theorem unmixColumns_mixColumns : ∀ state : Bytes, unmixColumns (mixColumns state) = state
  | a :: b :: c :: d :: rest => by
    rw [mixColumns, unmixColumns_mixColumn_append, unmixColumns_mixColumns rest]
  | [] => rfl
  | [_] => rfl
  | [_, _] => rfl
  | [_, _, _] => rfl

theorem length_mixColumns : ∀ state : Bytes, (mixColumns state).length = state.length
  | a :: b :: c :: d :: rest => by
    rw [mixColumns, List.length_append, length_mixColumns rest]
    simp only [mixColumn, List.length_cons, List.length_nil]
    omega
  | [] => rfl
  | [_] => rfl
  | [_, _] => rfl
  | [_, _, _] => rfl

/-! ## Keys -/

/-- The words of an expanded key: four octets each, and enough of them to go on. -/
def IsExpanded (words : List Bytes) : Prop := (∀ w ∈ words, w.length = 4) ∧ 8 ≤ words.length

theorem isExpanded_expandKey (count : Nat) {words : List Bytes} (h : IsExpanded words) :
    IsExpanded (expandKey count words) := by
  obtain ⟨hlen, hcount⟩ := h
  have hget : ∀ i, i < 8 → (words.getD i []).length = 4 := by
    intro i hi
    have hi' : i < words.length := Nat.lt_of_lt_of_le hi hcount
    rw [List.getD_eq_getElem?_getD, List.getElem?_eq_getElem hi', Option.getD_some]
    exact hlen _ (List.getElem_mem hi')
  have hlast : (words.headD []).length = 4 := by
    have := hget 0 (by decide)
    cases words with
    | nil => cases hcount
    | cons w words => exact this
  refine ⟨List.forall_mem_cons.mpr ⟨?_, hlen⟩, Nat.le_succ_of_le hcount⟩
  rw [length_xorBytes, hget 7 (by decide)]
  rw [hget 7 (by decide)]
  split
  · rw [length_xorBytes]
    · simp only [length_substitute, List.length_append, List.length_drop, List.length_take, hlast]
      rfl
    · simp only [length_substitute, List.length_append, List.length_drop, List.length_take, hlast]
      rfl
  · split
    · rw [length_substitute, hlast]
    · exact hlast.symm

theorem isExpanded_foldl (counts : List Nat) {words : List Bytes} (h : IsExpanded words) :
    let expanded := counts.foldl (fun words i => expandKey (8 + i) words) words
    IsExpanded expanded ∧ expanded.length = counts.length + words.length := by
  induction counts generalizing words with
  | nil => exact ⟨h, (Nat.zero_add _).symm⟩
  | cons i counts ih =>
    obtain ⟨hexpanded, hlen⟩ := ih (isExpanded_expandKey (8 + i) h)
    refine ⟨hexpanded, hlen.trans ?_⟩
    simp only [expandKey, List.length_cons]
    omega

theorem isExpanded_start (h : key.length = 32) :
    IsExpanded (chunks 4 key).reverse ∧ (chunks 4 key).reverse.length = 8 := by
  have hwords : ∀ w ∈ chunks 4 key, w.length = 4 := length_of_mem_chunks ⟨8, h⟩
  have hcount : (chunks 4 key).length = 8 := by
    have hflat := length_flatten_of_forall hwords
    rw [chunks_flatten (by decide), h] at hflat
    omega
  have hlen : (chunks 4 key).reverse.length = 8 := List.length_reverse.trans hcount
  exact ⟨⟨fun w hw => hwords w (List.mem_reverse.mp hw), Nat.le_of_eq hlen.symm⟩, hlen⟩

/-- A key of thirty-two octets expands to keys as long as a block. -/
theorem length_of_mem_roundKeys (h : key.length = 32) : ∀ k ∈ roundKeys key, k.length = 16 := by
  obtain ⟨hstart, hcount⟩ := isExpanded_start h
  obtain ⟨⟨hwords, _⟩, hlen⟩ := isExpanded_foldl (List.range 52) hstart
  refine length_of_mem_chunks ⟨15, ?_⟩
  rw [length_flatten_of_forall fun w hw => hwords w (List.mem_reverse.mp hw), List.length_reverse, hlen,
    hcount, List.length_range]

/-! ## Rounds -/

theorem length_rounds {keys : List Bytes} (hkeys : ∀ k ∈ keys, k.length = 16)
    (h : state.length = 16) : (rounds keys state).length = 16 := by
  fun_induction rounds keys state with
  | case1 state => exact h
  | case2 k state =>
    have hk := hkeys k (List.mem_singleton_self k)
    have hlen : (shiftRows (substitute state)).length = 16 := by
      rw [length_shiftRows, length_substitute, h]
    exact (length_xorBytes (hlen.trans hk.symm)).trans hlen
  | case3 k rest state hrest ih =>
    obtain ⟨hk, hkeys⟩ := List.forall_mem_cons.mp hkeys
    have hlen : (mixColumns (shiftRows (substitute state))).length = 16 := by
      rw [length_mixColumns, length_shiftRows, length_substitute, h]
    exact ih hkeys ((length_xorBytes (hlen.trans hk.symm)).trans hlen)

/-- An encrypted block is a block. -/
theorem length_encryptBlock {keys : List Bytes} (hkeys : ∀ k ∈ keys, k.length = 16)
    (h : state.length = 16) : (encryptBlock keys state).length = 16 := by
  cases keys with
  | nil => exact h
  | cons k rest =>
    obtain ⟨hk, hkeys⟩ := List.forall_mem_cons.mp hkeys
    exact length_rounds hkeys ((length_xorBytes (h.trans hk.symm)).trans h)

/-- **All rounds are undone**, from the last to the first. -/
theorem unrounds_rounds {keys : List Bytes} (hkeys : ∀ k ∈ keys, k.length = 16)
    (h : state.length = 16) : unrounds keys (rounds keys state) = state := by
  fun_induction rounds keys state with
  | case1 state => rfl
  | case2 k state =>
    have hk := hkeys k (List.mem_singleton_self k)
    have hlen : (shiftRows (substitute state)).length = k.length := by
      rw [length_shiftRows, length_substitute, h, hk]
    rw [unrounds, xorBytes_xorBytes hlen, unshiftRows_shiftRows, restore_substitute]
  | case3 k rest state hrest ih =>
    obtain ⟨hk, hkeys⟩ := List.forall_mem_cons.mp hkeys
    have hlen : (mixColumns (shiftRows (substitute state))).length = k.length := by
      rw [length_mixColumns, length_shiftRows, length_substitute, h, hk]
    rw [unrounds, ih hkeys ((length_xorBytes hlen).trans (hlen.trans hk)), xorBytes_xorBytes hlen,
      unmixColumns_mixColumns, unshiftRows_shiftRows, restore_substitute]
    exact hrest

/-- **Decrypting a block undoes encrypting it.** -/
theorem decryptBlock_encryptBlock {keys : List Bytes} (hkeys : ∀ k ∈ keys, k.length = 16)
    (h : state.length = 16) : decryptBlock keys (encryptBlock keys state) = state := by
  cases keys with
  | nil => rfl
  | cons k rest =>
    obtain ⟨hk, hkeys⟩ := List.forall_mem_cons.mp hkeys
    have hlen := length_xorBytes (h.trans hk.symm)
    rw [encryptBlock, decryptBlock, unrounds_rounds hkeys (hlen.trans h),
      xorBytes_xorBytes (h.trans hk.symm)]

/-- Every block is the encryption of a block: there are finitely many of them, and no two are
encrypted alike. -/
theorem exists_encryptBlock {keys : List Bytes} (hkeys : ∀ k ∈ keys, k.length = 16)
    (h : state.length = 16) :
    ∃ before : Bytes, before.length = 16 ∧ encryptBlock keys before = state := by
  have hfinite : Finite {block : Bytes // block.length = 16} := List.finite_length_eq UInt8 16
  let onBlocks (block : {block : Bytes // block.length = 16}) :
      {block : Bytes // block.length = 16} :=
    ⟨encryptBlock keys block, length_encryptBlock hkeys block.2⟩
  have hinjective : Function.Injective onBlocks := by
    intro a b hab
    have hundo := congrArg (decryptBlock keys) (congrArg Subtype.val hab)
    rw [decryptBlock_encryptBlock hkeys a.2, decryptBlock_encryptBlock hkeys b.2] at hundo
    exact Subtype.ext hundo
  obtain ⟨before, hbefore⟩ := Finite.injective_iff_surjective.mp hinjective ⟨state, h⟩
  exact ⟨before, before.2, congrArg Subtype.val hbefore⟩

/-- A decrypted block is a block. -/
theorem length_decryptBlock {keys : List Bytes} (hkeys : ∀ k ∈ keys, k.length = 16)
    (h : state.length = 16) : (decryptBlock keys state).length = 16 := by
  obtain ⟨before, hlen, rfl⟩ := exists_encryptBlock hkeys h
  rw [decryptBlock_encryptBlock hkeys hlen, hlen]

/-- **Encrypting a block undoes decrypting it.** -/
theorem encryptBlock_decryptBlock {keys : List Bytes} (hkeys : ∀ k ∈ keys, k.length = 16)
    (h : state.length = 16) : encryptBlock keys (decryptBlock keys state) = state := by
  obtain ⟨before, hlen, rfl⟩ := exists_encryptBlock hkeys h
  rw [decryptBlock_encryptBlock hkeys hlen]

end AttestedPayments.Cipher.Aes
