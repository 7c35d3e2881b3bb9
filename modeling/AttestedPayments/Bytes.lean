/-!
# Byte strings and the numbers they write

* `Bytes` — a byte string is a list of octets.
* `LittleEndian.digits`, `BigEndian.digits` — a number in a fixed count of octets.
* `LittleEndian.value`, `BigEndian.value` — the number that octets write.
* `BigEndian.minimal` — the shortest big-endian writing; zero is the empty string.
* `chunks` — a byte string cut into pieces of one size.
* `characters` — the text whose characters have the octets as their numbers.
-/

namespace AttestedPayments

/-- A byte string. -/
abbrev Bytes := List UInt8

namespace LittleEndian

/-- The last `width` octets of `n`, least significant first. -/
def digits : Nat → Nat → Bytes
  | 0, _ => []
  | width + 1, n => UInt8.ofNat n :: digits width (n / 256)

/-- The number whose octets are given, least significant first. -/
def value : Bytes → Nat
  | [] => 0
  | b :: rest => b.toNat + 256 * value rest

@[simp] theorem length_digits (width n : Nat) : (digits width n).length = width := by
  induction width generalizing n with
  | zero => rfl
  | succ width ih => simp [digits, ih]

end LittleEndian

namespace BigEndian

/-- The last `width` octets of `n`, most significant first. -/
def digits (width n : Nat) : Bytes := (LittleEndian.digits width n).reverse

/-- The number whose octets are given, most significant first. -/
def value (bytes : Bytes) : Nat := bytes.foldl (fun n b => 256 * n + b.toNat) 0

/-- How many octets the number needs; zero needs none. -/
def width (n : Nat) : Nat := if n = 0 then 0 else n.log2 / 8 + 1

/-- The shortest writing of a number. -/
def minimal (n : Nat) : Bytes := digits (width n) n

@[simp] theorem length_digits (width n : Nat) : (digits width n).length = width := by
  simp [digits]

theorem value_eq_reverse (bytes : Bytes) : value bytes = LittleEndian.value bytes.reverse := by
  suffices h : ∀ l : Bytes, value l.reverse = LittleEndian.value l by
    simpa using h bytes.reverse
  intro l
  induction l with
  | nil => rfl
  | cons b rest ih =>
    have : value (rest.reverse ++ [b]) = 256 * value rest.reverse + b.toNat := by
      simp [value, List.foldl_append]
    rw [List.reverse_cons, this, ih, LittleEndian.value]
    omega

end BigEndian

/-- Cut a list into pieces of `size` elements; the last piece may be shorter. -/
def chunks {α : Type} (size : Nat) (items : List α) : List (List α) :=
  if _h : size = 0 ∨ items = [] then []
  else items.take size :: chunks size (items.drop size)
termination_by items.length
decreasing_by
  have : items.length ≠ 0 := fun h0 => _h (Or.inr (List.length_eq_zero_iff.mp h0))
  simp only [List.length_drop]
  omega

theorem chunks_flatten {α : Type} {size : Nat} (hs : size ≠ 0) (items : List α) :
    (chunks size items).flatten = items := by
  fun_induction chunks size items with
  | case1 items h => simp_all
  | case2 items h ih => simp [ih, List.take_append_drop]

/-- Octet-wise exclusive or; the result is as long as the shorter string. -/
def xorBytes (a b : Bytes) : Bytes := List.zipWith (· ^^^ ·) a b

/-- The text whose characters have the octets as their numbers. -/
def characters (octets : Bytes) : String :=
  String.ofList (octets.map fun b => Char.ofNat b.toNat)

end AttestedPayments
