import AttestedPayments.Bytes

/-!
# UTF-8

* `Utf8.encode` — the octets of a text.
* `Utf8.decode` — the text of octets, or the place and extent of the first fault.
* `Utf8.firstFault` — where octets stop being UTF-8: the index of the first octet of the broken
  character, and how many octets are certainly wrong, none if the octets merely end too early.

Principal results: `decode_encode` and `encode_of_decode`, so the texts are in bijection with the
octet strings that are read.
-/

namespace AttestedPayments.Utf8

/-- Where octets stop being UTF-8. -/
structure Fault where
  /-- The index of the character that is broken. -/
  index : Nat
  /-- How many octets of it are wrong; `none` if the octets end inside a character. -/
  extent : Option Nat
  deriving DecidableEq, Repr

def Fault.message (fault : Fault) : String :=
  match fault.extent with
  | some n => s!"invalid utf-8 sequence of {n} bytes from index {fault.index}"
  | none => s!"incomplete utf-8 byte sequence from index {fault.index}"

/-- A continuation octet. -/
def isTail (b : UInt8) : Bool := 0x80 ≤ b && b ≤ 0xBF

/-- The octets that may follow a first octet, and how many tails come after them. -/
def second (first : UInt8) : Option (UInt8 × UInt8 × Nat) :=
  if 0xC2 ≤ first ∧ first ≤ 0xDF then some (0x80, 0xBF, 0)
  else if first = 0xE0 then some (0xA0, 0xBF, 1)
  else if first = 0xED then some (0x80, 0x9F, 1)
  else if 0xE1 ≤ first ∧ first ≤ 0xEF then some (0x80, 0xBF, 1)
  else if first = 0xF0 then some (0x90, 0xBF, 2)
  else if 0xF1 ≤ first ∧ first ≤ 0xF3 then some (0x80, 0xBF, 2)
  else if first = 0xF4 then some (0x80, 0x8F, 2)
  else none

/-- Drop `count` tails; otherwise say how many octets were read before the fault, if any octet
was wrong at all. -/
def dropTails (read : Nat) : Nat → Bytes → Except (Option Nat) Bytes
  | 0, rest => .ok rest
  | _ + 1, [] => .error none
  | count + 1, b :: rest => if isTail b then dropTails (read + 1) count rest else .error (some read)

/-- Drop the first character. -/
def dropCharacter (first : UInt8) (rest : Bytes) : Except (Option Nat) Bytes :=
  if first < 0x80 then .ok rest else
  match second first, rest with
  | none, _ => .error (some 1)
  | some _, [] => .error none
  | some (low, high, tails), b :: rest =>
    if low ≤ b ∧ b ≤ high then dropTails 2 tails rest else .error (some 1)

theorem length_of_dropTails {read count : Nat} {bytes rest : Bytes}
    (h : dropTails read count bytes = .ok rest) : rest.length ≤ bytes.length := by
  induction count generalizing read bytes with
  | zero => simp only [dropTails, Except.ok.injEq] at h; simp [h]
  | succ count ih =>
    cases bytes with
    | nil => simp [dropTails] at h
    | cons b bytes =>
      simp only [dropTails] at h
      split at h
      · have := ih h; simp only [List.length_cons]; omega
      · cases h

theorem length_of_dropCharacter {first : UInt8} {bytes rest : Bytes}
    (h : dropCharacter first bytes = .ok rest) : rest.length ≤ bytes.length := by
  unfold dropCharacter at h
  split at h
  · cases h; exact Nat.le_refl _
  · split at h
    · cases h
    · cases h
    · split at h
      · have := length_of_dropTails h; simp only [List.length_cons]; omega
      · cases h

/-- The first fault of octets that begin at `index`; past the last character there is none, and
the end stands for it. -/
def firstFault (index : Nat) (bytes : Bytes) : Fault :=
  match bytes with
  | [] => ⟨index, none⟩
  | first :: rest =>
    match _h : dropCharacter first rest with
    | .error extent => ⟨index, extent⟩
    | .ok more => firstFault (index + (rest.length + 1 - more.length)) more
termination_by bytes.length
decreasing_by
  have := length_of_dropCharacter _h
  simp only [List.length_cons]
  omega

/-- The octets of a text. -/
def encode (text : String) : Bytes := text.toByteArray.data.toList

/-- The text of octets, or the first fault. -/
def decode (bytes : Bytes) : Except Fault String :=
  match String.fromUTF8? ⟨bytes.toArray⟩ with
  | some text => .ok text
  | none => .error (firstFault 0 bytes)

theorem decode_encode (text : String) : decode (encode text) = .ok text := by
  have h : (⟨(encode text).toArray⟩ : ByteArray) = text.toByteArray := by
    simp [encode]
  unfold decode
  rw [h, String.fromUTF8?, dif_pos text.isValidUTF8]
  rfl

theorem encode_of_decode {bytes : Bytes} {text : String} (h : decode bytes = .ok text) :
    encode text = bytes := by
  unfold decode String.fromUTF8? at h
  by_cases hv : (⟨bytes.toArray⟩ : ByteArray).IsValidUTF8
  · rw [dif_pos hv] at h
    simp only [Except.ok.injEq] at h
    subst h
    simp [encode, String.fromUTF8]
  · rw [dif_neg hv] at h
    cases h

/-- Distinct texts have distinct octets. -/
theorem encode_injective {a b : String} (h : encode a = encode b) : a = b := by
  have := decode_encode a
  rw [h, decode_encode b] at this
  exact (Except.ok.inj this).symm

end AttestedPayments.Utf8
