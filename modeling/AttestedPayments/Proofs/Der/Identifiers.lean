import AttestedPayments.Der.Oid
import Mathlib.Data.List.Forall2
import Mathlib.Data.Nat.ModEq
import Mathlib.Tactic.Ring

/-!
# Which octets write the numbers of an object identifier

* `Oid.IsNumber`, `Oid.number` — the octets of one number, and the number that they write. Zeros in
  front are not excluded, and there is no greatest number.
* `Oid.Writes` — the octets of an identifier write given numbers, if multiples of `2 ^ 32` are left out.
* `Oid.IsShortest` — each number is below `2 ^ 32` and written without zeros in front.
* `dotted_injective` — a dotted text belongs to one list of numbers.

Principal results: `Oid.arcs_eq_iff` — an identifier has given numbers exactly if its octets write them in
that weak sense; `Oid.IsShortest.arcs_eq_iff` — among shortest writings only one has.
-/

set_option autoImplicit false

namespace AttestedPayments.Der

/-! ## Dotted text -/

/-- Numbers joined by dots. -/
def dotted (arcs : List Nat) : String := ".".intercalate (arcs.map toString)

theorem dot_notMem_toString (n : Nat) : '.' ∉ (toString n).toList := by
  intro h
  have hdigits : '.' ∈ Nat.toDigits 10 n := by
    rwa [Nat.toString_eq_repr, Nat.repr, String.toList_ofList] at h
  exact absurd (Nat.isDigit_of_mem_toDigits (by decide) (by decide) hdigits) (by decide)

theorem splitOn_dotted {arcs : List Nat} (h : arcs ≠ []) :
    (dotted arcs).toList.splitOn '.' = arcs.map fun n => (toString n).toList := by
  have hdot : ".".toList = ['.'] := rfl
  rw [dotted, String.toList_intercalate, hdot, List.map_map, List.splitOn_intercalate]
  · rfl
  · simpa using fun n _ => dot_notMem_toString n
  · simpa using h

theorem ofDigitChars_toString (n : Nat) : Nat.ofDigitChars 10 (toString n).toList 0 = n := by
  rw [Nat.toString_eq_repr, Nat.repr, String.toList_ofList]
  exact Nat.ofDigitChars_toDigits (by decide) (by decide)

theorem toList_toString_injective {m n : Nat} (h : (toString m).toList = (toString n).toList) :
    m = n := by
  rw [← ofDigitChars_toString m, h, ofDigitChars_toString]

/-- **A dotted text belongs to one list of numbers.** -/
theorem dotted_injective {as bs : List Nat} (ha : as ≠ []) (hb : bs ≠ [])
    (h : dotted as = dotted bs) : as = bs := by
  have hsplit := congrArg (fun s => s.toList.splitOn '.') h
  simp only [splitOn_dotted ha, splitOn_dotted hb] at hsplit
  exact List.map_injective_iff.mpr (fun _ _ => toList_toString_injective) hsplit

namespace Oid

theorem text_eq (oid : Oid) : oid.text = dotted oid.arcs := rfl

/-! ## Numbers in groups of seven bits -/

/-- The octets of one number: all but the last one are marked by their highest bit. -/
inductive IsNumber : Bytes → Prop where
  | last {b : UInt8} : b < 0x80 → IsNumber [b]
  | more {b : UInt8} {rest : Bytes} : 0x80 ≤ b → IsNumber rest → IsNumber (b :: rest)

/-- The number that octets write, seven bits each. -/
def number : Bytes → Nat
  | [] => 0
  | b :: rest => b.toNat % 128 * 128 ^ rest.length + number rest

/-- Reading keeps the last thirty-two bits of a number. -/
theorem groups_append {piece : Bytes} (h : IsNumber piece) (sofar : Nat) (rest : Bytes) :
    groups sofar (piece ++ rest) =
      (128 ^ piece.length * sofar + number piece) % 2 ^ 32 :: groups 0 rest := by
  induction h generalizing sofar with
  | @last b hb =>
    rw [List.singleton_append, groups, if_pos hb]
    simp [number]
  | @more b piece hb _ ih =>
    rw [List.cons_append, groups, if_neg (UInt8.not_lt.mpr hb), ih]
    have hstep : (128 * sofar + b.toNat % 128) % 2 ^ 32 ≡ 128 * sofar + b.toNat % 128 [MOD 2 ^ 32] :=
      Nat.mod_modEq _ _
    have hmod := (hstep.mul_left (128 ^ piece.length)).add_right (number piece)
    rw [Nat.ModEq] at hmod
    show (_ * ((128 * sofar + b.toNat % 128) % 2 ^ 32) + _) % 2 ^ 32 :: _ = _
    rw [hmod, number, List.length_cons]
    congr 2
    ring

theorem groups_flatten {pieces : List Bytes} (h : ∀ piece ∈ pieces, IsNumber piece) :
    groups 0 pieces.flatten = pieces.map fun piece => number piece % 2 ^ 32 := by
  induction pieces with
  | nil => rfl
  | cons piece pieces ih =>
    obtain ⟨hpiece, h⟩ := List.forall_mem_cons.mp h
    rw [List.flatten_cons, groups_append hpiece, ih h, Nat.mul_zero, Nat.zero_add, List.map_cons]

/-- Octets in which groups end rightly are made of numbers. Inside a number there is more to come. -/
theorem exists_numbers {place : Nat} {octets : Bytes} (h : groupsEnd place octets = true) :
    (place ≠ 0 → octets ≠ []) ∧
      ∃ pieces : List Bytes, (∀ piece ∈ pieces, IsNumber piece) ∧ octets = pieces.flatten := by
  induction octets generalizing place with
  | nil =>
    refine ⟨fun hplace => absurd (beq_iff_eq.mp h) hplace, [], List.forall_mem_nil _, rfl⟩
  | cons b rest ih =>
    refine ⟨fun _ => List.cons_ne_nil _ _, ?_⟩
    have hlast : b < 0x80 → groupsEnd 0 rest = true →
        ∃ pieces : List Bytes, (∀ piece ∈ pieces, IsNumber piece) ∧ b :: rest = pieces.flatten := by
      intro hb hrest
      obtain ⟨_, pieces, hpieces, rfl⟩ := ih hrest
      exact ⟨[b] :: pieces, List.forall_mem_cons.mpr ⟨.last hb, hpieces⟩, rfl⟩
    rw [groupsEnd] at h
    -- a fifth octet ends its number whatever its mark says; being small, it has none
    split at h
    · rw [Bool.and_eq_true, decide_eq_true_eq] at h
      exact hlast (UInt8.lt_trans h.1 (by decide)) h.2
    · by_cases hb : b < 0x80
      · rw [if_pos hb] at h
        exact hlast hb h
      · rw [if_neg hb] at h
        obtain ⟨hmore, pieces, hpieces, rfl⟩ := ih h
        match pieces, hpieces, hmore (Nat.succ_ne_zero place) with
        | [], _, hne => exact absurd rfl hne
        | piece :: pieces, hpieces, _ =>
          obtain ⟨hpiece, hpieces⟩ := List.forall_mem_cons.mp hpieces
          exact ⟨(b :: piece) :: pieces,
            List.forall_mem_cons.mpr ⟨.more (UInt8.not_lt.mp hb) hpiece, hpieces⟩, rfl⟩

/-! ## The numbers of an identifier -/

/-- The octets of an identifier write numbers, where any multiple of `2 ^ 32` may be added to a number
after the second, and zeros may stand in front of it. -/
def Writes (oid : Oid) (arcs : List Nat) : Prop :=
  ∃ first second rest, arcs = first :: second :: rest ∧
    ∃ pieces : List Bytes, oid.octets = UInt8.ofNat (40 * first + second) :: pieces.flatten ∧
      List.Forall₂ (fun piece n => IsNumber piece ∧ number piece % 2 ^ 32 = n) pieces rest

/-- The first two numbers fit into the octet that they share. -/
def IsRooted : List Nat → Prop
  | first :: second :: _ => second < 40 ∧ 40 * first + second < 256
  | _ => False

instance (arcs : List Nat) : Decidable (IsRooted arcs) := by
  unfold IsRooted
  split <;> infer_instance

theorem IsRooted.exists_eq {arcs : List Nat} (h : IsRooted arcs) :
    ∃ first second rest, arcs = first :: second :: rest ∧ second < 40 ∧ 40 * first + second < 256 :=
  match arcs, h with
  | first :: second :: rest, h => ⟨first, second, rest, rfl, h⟩

theorem arcs_of_octets {oid : Oid} {first : UInt8} {rest : Bytes} (h : oid.octets = first :: rest) :
    oid.arcs = first.toNat / 40 :: first.toNat % 40 :: groups 0 rest := by
  rw [arcs, h]

theorem arcs_ne_nil {octets : Bytes} {oid : Oid} (h : ofOctets? octets = some oid) : oid.arcs ≠ [] := by
  unfold ofOctets? at h
  split at h
  · rename_i hread
    cases h
    match octets, hread.1 with
    | _ :: _, _ => rw [arcs_of_octets rfl]; exact List.cons_ne_nil _ _
  · cases h

/-- Two numbers and the octet that they share. -/
theorem halves_iff {b : UInt8} {first second : Nat} (hsecond : second < 40)
    (hlt : 40 * first + second < 256) :
    b.toNat / 40 = first ∧ b.toNat % 40 = second ↔ b = UInt8.ofNat (40 * first + second) := by
  rw [← UInt8.toNat_inj, UInt8.toNat_ofNat_of_lt' hlt]
  omega

theorem map_number_of_forall₂ {pieces : List Bytes} {rest : List Nat}
    (h : List.Forall₂ (fun piece n => IsNumber piece ∧ number piece % 2 ^ 32 = n) pieces rest) :
    (∀ piece ∈ pieces, IsNumber piece) ∧ (pieces.map fun piece => number piece % 2 ^ 32) = rest := by
  induction h with
  | nil => exact ⟨List.forall_mem_nil _, rfl⟩
  | cons hpiece _ ih =>
    exact ⟨List.forall_mem_cons.mpr ⟨hpiece.1, ih.1⟩, congrArg₂ List.cons hpiece.2 ih.2⟩

theorem arcs_of_writes {oid : Oid} {arcs : List Nat} (harcs : IsRooted arcs) (h : oid.Writes arcs) :
    oid.arcs = arcs := by
  obtain ⟨first, second, rest, rfl, pieces, hoctets, hpieces⟩ := h
  obtain ⟨hnumbers, hrest⟩ := map_number_of_forall₂ hpieces
  obtain ⟨hfirst, hsecond⟩ := (halves_iff harcs.1 harcs.2).mpr rfl
  rw [arcs_of_octets hoctets, hfirst, hsecond, groups_flatten hnumbers, hrest]

/-- **An identifier that is read has given numbers exactly if its octets write them**, up to multiples
of `2 ^ 32` and to zeros in front. -/
theorem arcs_eq_iff {octets : Bytes} {oid : Oid} (h : ofOctets? octets = some oid) {arcs : List Nat}
    (harcs : IsRooted arcs) : oid.arcs = arcs ↔ oid.Writes arcs := by
  refine ⟨fun heq => ?_, arcs_of_writes harcs⟩
  unfold ofOctets? at h
  split at h
  · rename_i hread
    cases h
    obtain ⟨hlen, -, -, hend⟩ := hread
    obtain ⟨first, second, rest, rfl, hsecond, hlt⟩ := harcs.exists_eq
    match octets, hlen, hend with
    | b :: more, _, hend =>
      obtain ⟨-, pieces, hpieces, hmore⟩ := exists_numbers hend
      rw [List.drop_succ_cons, List.drop_zero] at hmore
      subst hmore
      rw [arcs_of_octets rfl, groups_flatten hpieces] at heq
      obtain ⟨hfirst, heq⟩ := List.cons.inj heq
      obtain ⟨hremainder, rfl⟩ := List.cons.inj heq
      obtain rfl := (halves_iff hsecond hlt).mp ⟨hfirst, hremainder⟩
      refine ⟨first, second, _, rfl, pieces, rfl, ?_⟩
      rw [List.forall₂_map_right_iff, List.forall₂_same]
      exact fun piece hpiece => ⟨hpieces piece hpiece, rfl⟩
  · cases h

/-! ## Shortest writings -/

theorem isNumber_higher {n : Nat} {after : Bytes} (h : IsNumber after) :
    IsNumber (groupOctets.higher n after) ∧
      number (groupOctets.higher n after) = n * 128 ^ after.length + number after := by
  induction n using Nat.strongRecOn generalizing after with
  | ind n ih =>
    rw [groupOctets.higher]
    split
    · rename_i hzero
      subst hzero
      exact ⟨h, by simp⟩
    · rename_i hne
      have hoctet : (UInt8.ofNat (128 + n % 128)).toNat = 128 + n % 128 :=
        UInt8.toNat_ofNat_of_lt' (show _ < 256 by omega)
      have hmarked : IsNumber (UInt8.ofNat (128 + n % 128) :: after) := by
        refine .more ?_ h
        rw [UInt8.le_iff_toNat_le, hoctet]
        exact Nat.le_add_right _ _
      obtain ⟨hnumber, hvalue⟩ := ih (n / 128) (by omega) hmarked
      refine ⟨hnumber, ?_⟩
      rw [hvalue, number, hoctet, List.length_cons, Nat.pow_succ]
      have hdigit : (128 + n % 128) % 128 = n % 128 := by omega
      have hdiv := Nat.div_add_mod n 128
      rw [hdigit]
      calc n / 128 * (128 ^ after.length * 128) + (n % 128 * 128 ^ after.length + number after)
          = (128 * (n / 128) + n % 128) * 128 ^ after.length + number after := by ring
        _ = n * 128 ^ after.length + number after := by rw [hdiv]

/-- The shortest writing of a number is one. -/
theorem isNumber_groupOctets (n : Nat) : IsNumber (groupOctets n) ∧ number (groupOctets n) = n := by
  have hoctet : (UInt8.ofNat (n % 128)).toNat = n % 128 :=
    UInt8.toNat_ofNat_of_lt' (show _ < 256 by omega)
  have hlast : IsNumber [UInt8.ofNat (n % 128)] := by
    refine .last ?_
    rw [UInt8.lt_iff_toNat_lt, hoctet]
    exact n.mod_lt (by decide)
  obtain ⟨hnumber, hvalue⟩ := isNumber_higher (n := n / 128) hlast
  refine ⟨hnumber, ?_⟩
  rw [groupOctets, hvalue]
  simp only [number, hoctet, List.length_singleton, List.length_nil, Nat.pow_one, Nat.pow_zero,
    Nat.mod_mod, Nat.mul_one, Nat.add_zero]
  omega

/-- Each number is below `2 ^ 32` and has its shortest writing. -/
def IsShortest (oid : Oid) : Prop :=
  ∃ (first : UInt8) (rest : List Nat), (∀ n ∈ rest, n < 2 ^ 32) ∧
    oid.octets = first :: rest.flatMap groupOctets

theorem groups_flatMap_groupOctets {rest : List Nat} (h : ∀ n ∈ rest, n < 2 ^ 32) :
    groups 0 (rest.flatMap groupOctets) = rest := by
  induction rest with
  | nil => rfl
  | cons n rest ih =>
    obtain ⟨hn, h⟩ := List.forall_mem_cons.mp h
    obtain ⟨hnumber, hvalue⟩ := isNumber_groupOctets n
    rw [List.flatMap_cons, groups_append hnumber, ih h, hvalue, Nat.mul_zero, Nat.zero_add,
      Nat.mod_eq_of_lt hn]

theorem octets_ofArcs {first second : Nat} (rest : List Nat) :
    (ofArcs (first :: second :: rest)).octets =
      UInt8.ofNat (40 * first + second) :: rest.flatMap groupOctets := rfl

/-- The identifier of numbers has these numbers. -/
theorem arcs_ofArcs {arcs : List Nat} (harcs : IsRooted arcs) (h : ∀ n ∈ arcs, n < 2 ^ 32) :
    (ofArcs arcs).arcs = arcs := by
  obtain ⟨first, second, rest, rfl, hsecond, hlt⟩ := harcs.exists_eq
  obtain ⟨hfirst, hremainder⟩ := (halves_iff hsecond hlt).mpr rfl
  rw [arcs_of_octets (octets_ofArcs rest), hfirst, hremainder, groups_flatMap_groupOctets]
  exact fun n hn => h n (List.mem_cons_of_mem _ (List.mem_cons_of_mem _ hn))

/-- **Among shortest writings only one has given numbers.** -/
theorem IsShortest.arcs_eq_iff {oid : Oid} (h : oid.IsShortest) {arcs : List Nat}
    (harcs : IsRooted arcs) (hsmall : ∀ n ∈ arcs, n < 2 ^ 32) : oid.arcs = arcs ↔ oid = ofArcs arcs := by
  constructor
  · rintro rfl
    obtain ⟨b, numbers, hnumbers, hoctets⟩ := h
    obtain ⟨first, second, rest, hparts, hsecond, hlt⟩ := harcs.exists_eq
    rw [hparts]
    rw [arcs_of_octets hoctets, groups_flatMap_groupOctets hnumbers] at hparts
    obtain ⟨hfirst, hparts⟩ := List.cons.inj hparts
    obtain ⟨hremainder, rfl⟩ := List.cons.inj hparts
    obtain rfl := (halves_iff hsecond hlt).mp ⟨hfirst, hremainder⟩
    cases oid
    exact congrArg Oid.mk hoctets
  · rintro rfl
    exact arcs_ofArcs harcs hsmall

end Oid

end AttestedPayments.Der
