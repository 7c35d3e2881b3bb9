import AttestedPayments.Proofs.Envelope.Opening

/-!
# Payloads and messages belong to each other

* `Segments.ofPayload_cut` — a payload of any characters is refused before it is cut, or the cuts
  are inside it and between two characters.
* `carriesKey_iff` — the key at the start of a payload that was cut is its first segment.
* `decryptWithPems_iff` — a payload that starts with the sender's key is unsealed exactly if it is
  what sealing the result gives, apart from the case of its letters.

Principal result: `unseals_iff_sealed`. The sender's key at the start is a condition of it because
unsealing does not ask for it: a payload may start with another key, if the keyed digest was made
for that one.
-/

set_option autoImplicit false

namespace AttestedPayments.Sealing

open Curve (SecretKey PublicKey)

/-! ## Cutting a payload -/

/-- The segments that three texts write. -/
def Segments.ofTexts (publicKey mac ciphertext : String) : Except SealingFault Segments := do
  let publicKey ← readSegment .publicKey (Utf8.encode publicKey)
  let mac ← readSegment .mac (Utf8.encode mac)
  let ciphertext ← readSegment .ciphertext (Utf8.encode ciphertext)
  match PublicKey.ofOctets publicKey with
  | .error fault => .error (.embeddedKey fault)
  | .ok _ => .ok ⟨publicKey, mac, ciphertext⟩

/-- **A payload is cut between characters.** It is refused for a character outside ASCII or for its
length, or else it consists of three texts of the expected sizes, and the segments are what these
write. -/
theorem Segments.ofPayload_cut (payload : String) :
    Segments.ofPayload payload = .error .notAscii ∨
    (∃ n < macEnd, Segments.ofPayload payload = .error (.tooShort n)) ∨
    ∃ publicKey mac ciphertext : String, payload = publicKey ++ mac ++ ciphertext ∧
      publicKey.utf8ByteSize = publicKeyEnd ∧ (publicKey ++ mac).utf8ByteSize = macEnd ∧
      Segments.ofPayload payload = Segments.ofTexts publicKey mac ciphertext := by
  by_cases hany : (Utf8.encode payload).any (0x80 ≤ ·) = true
  · left
    simp only [Segments.ofPayload, if_pos hany]
  have hascii : ∀ b ∈ Utf8.encode payload, b < 0x80 := by
    intro b hb
    have hsmall := fun hle => hany (List.any_eq_true.mpr ⟨b, hb, decide_eq_true hle⟩)
    exact UInt8.not_le.mp hsmall
  have hread : ∀ {octets : Bytes}, (∀ b ∈ octets, b ∈ Utf8.encode payload) →
      Utf8.encode (characters octets) = octets :=
    fun hsub => Utf8.encode_characters fun b hb => hascii b (hsub b hb)
  have hsize : ∀ {octets : Bytes}, (∀ b ∈ octets, b ∈ Utf8.encode payload) →
      (characters octets).utf8ByteSize = octets.length := by
    intro octets hsub
    rw [← Utf8.length_encode, hread hsub]
  right
  by_cases hlong : (Utf8.encode payload).length < macEnd
  · left
    exact ⟨_, hlong, by simp only [Segments.ofPayload, if_neg hany, if_pos hlong]⟩
  right
  have hpayload := Utf8.characters_encode hascii
  generalize hdigits : Utf8.encode payload = digits at *
  have hfirst : ∀ b ∈ digits.take publicKeyEnd, b ∈ digits := fun b hb => List.mem_of_mem_take hb
  have hsecond : ∀ b ∈ (digits.drop publicKeyEnd).take (2 * macLength), b ∈ digits :=
    fun b hb => List.mem_of_mem_drop (List.mem_of_mem_take hb)
  have hthird : ∀ b ∈ digits.drop macEnd, b ∈ digits := fun b hb => List.mem_of_mem_drop hb
  refine ⟨characters (digits.take publicKeyEnd),
    characters ((digits.drop publicKeyEnd).take (2 * macLength)), characters (digits.drop macEnd),
    ?_, ?_, ?_, ?_⟩
  · rw [← characters_append, ← characters_append, macEnd, ← List.drop_drop, List.append_assoc,
      List.take_append_drop, List.take_append_drop, hpayload]
  · rw [hsize hfirst, List.length_take]
    simp only [macEnd] at hlong
    omega
  · rw [String.utf8ByteSize_append, hsize hfirst, hsize hsecond, List.length_take,
      List.length_take, List.length_drop]
    simp only [macEnd] at hlong ⊢
    omega
  · rw [Segments.ofTexts, hread hfirst, hread hsecond, hread hthird, Segments.ofPayload, hdigits]
    exact (if_neg hany).trans (if_neg hlong)

/-! ## The key at the start of a payload -/

/-- The first characters of a text. -/
def firstCharacters (n : Nat) (text : String) : String := String.ofList (text.toList.take n)

/-- The first digits of a payload write the public key, with both of its coordinates. -/
def CarriesKey (payload senderPem : String) : Prop :=
  ∃ key, PublicKey.ofPem senderPem = .ok key ∧
    Hex.decodeText (firstCharacters publicKeyEnd payload) = .ok key.uncompressed

theorem toUpper_firstCharacters (n : Nat) (text : String) :
    (firstCharacters n text).toUpper = firstCharacters n text.toUpper := by
  apply String.toList_injective
  simp only [firstCharacters, String.toUpper, String.toList_map, String.toList_ofList,
    List.map_take]

theorem firstCharacters_upper {n : Nat} {first : Bytes} (rest : Bytes) (h : 2 * first.length = n) :
    firstCharacters n (Hex.upper (first ++ rest)) = Hex.upper first := by
  have hlen : (Hex.upper first).toList.length = n := by
    rw [String.length_toList, Hex.upper, length_characters, Hex.length_digits, h]
  rw [firstCharacters, Hex.upper, Hex.digits_append, characters_append, String.toList_append,
    ← Hex.upper, List.take_left' hlen, String.ofList_toList]

/-- The key at the start of a payload that was cut is its first segment. -/
theorem carriesKey_iff {payload senderPem : String} {segments : Segments} {key : PublicKey}
    (hsegments : Segments.ofPayload payload = .ok segments)
    (hkey : PublicKey.ofPem senderPem = .ok key) :
    CarriesKey payload senderPem ↔ segments.publicKey = key.uncompressed := by
  obtain ⟨hpayload, hlen, _⟩ := Segments.ofPayload_eq_ok_iff.mp hsegments
  have hread : Hex.decodeText (firstCharacters publicKeyEnd payload) = .ok segments.publicKey := by
    rw [Hex.decodeText_eq_ok_iff, toUpper_firstCharacters, hpayload, List.append_assoc]
    exact firstCharacters_upper _ (by rw [hlen, publicKeyEnd])
  constructor
  · rintro ⟨key', hkey', hcarried⟩
    obtain rfl := Except.ok.inj (hkey.symm.trans hkey')
    exact Except.ok.inj (hread.symm.trans hcarried)
  · intro hsame
    exact ⟨key, hkey, hread.trans (congrArg _ hsame)⟩

/-! ## Unsealing -/

variable {payload senderPem secretPem recipientPem readerPem : String} {message : Bytes}

/-- Unsealing with keys that can be read. -/
theorem decryptWithPems_eq_ok_iff {secret : SecretKey} {sender : PublicKey}
    (hsecret : SecretKey.ofPem readerPem = .ok secret)
    (hsender : PublicKey.ofPem senderPem = .ok sender) :
    decryptWithPems payload readerPem senderPem = .ok message ↔
      ∃ segments, Segments.ofPayload payload = .ok segments ∧
        segments.open (SharedKeys.derive secret sender) = .ok message := by
  rw [decryptWithPems, hsecret, hsender, bind_eq_ok_iff]
  rfl

/-- **A payload that starts with the sender's key is unsealed exactly if it is what sealing the
result gives**, apart from the case of its letters. -/
theorem decryptWithPems_iff (hsender : Halves secretPem senderPem)
    (hreader : Halves readerPem recipientPem) :
    decryptWithPems payload readerPem senderPem = .ok message ∧ CarriesKey payload senderPem ↔
      encryptWithPems message recipientPem senderPem secretPem = .ok payload.toUpper := by
  obtain ⟨a, hsecret, hpublic⟩ := hsender
  obtain ⟨b, hreaderSecret, hrecipient⟩ := hreader
  have hcipherKey := SharedKeys.length_cipherKey a b.toPublic
  rw [decryptWithPems_eq_ok_iff hreaderSecret hpublic, ← SharedKeys.derive_comm a b,
    encryptWithPems_of_halves hsecret hpublic hrecipient]
  constructor
  · rintro ⟨⟨segments, hsegments, hopen⟩, hcarries⟩
    obtain ⟨hpayload, _⟩ := Segments.ofPayload_eq_ok_iff.mp hsegments
    obtain ⟨hmac, hciphertext⟩ := (Segments.open_eq_ok_iff hcipherKey).mp hopen
    have hkey := (carriesKey_iff hsegments hpublic).mp hcarries
    rw [hpayload, hmac, hciphertext, hkey, encrypt]
  · intro hsealed
    have hsegments := ofPayload_encrypt b.toPublic (PublicKey.ne_infinity_of_ofPem hpublic) message
    rw [Except.ok.inj hsealed, Segments.ofPayload_toUpper] at hsegments
    refine ⟨⟨_, hsegments, (Segments.open_eq_ok_iff hcipherKey).mpr ⟨rfl, rfl⟩⟩, ?_⟩
    exact (carriesKey_iff hsegments hpublic).mpr rfl

/-- **Sealing and unsealing are exact inverses.** Of the payloads that start with the sender's key,
unsealing accepts what sealing gives and nothing else; every message is read back and has a payload
of its own; and no payload is cut outside its characters. -/
theorem unseals_iff_sealed (hsender : Halves secretPem senderPem)
    (hreader : Halves readerPem recipientPem) :
    (∀ payload message,
      decryptWithPems payload readerPem senderPem = .ok message ∧ CarriesKey payload senderPem ↔
        encryptWithPems message recipientPem senderPem secretPem = .ok payload.toUpper) ∧
    (∀ message, ∃ payload,
      encryptWithPems message recipientPem senderPem secretPem = .ok payload ∧
        decryptWithPems payload readerPem senderPem = .ok message) ∧
    (∀ message message' payload,
      encryptWithPems message recipientPem senderPem secretPem = .ok payload →
        encryptWithPems message' recipientPem senderPem secretPem = .ok payload →
          message = message') ∧
    (∀ payload, CarriesKey payload senderPem →
      (∀ message, encryptWithPems message recipientPem senderPem secretPem ≠ .ok payload.toUpper) →
        ∃ fault, decryptWithPems payload readerPem senderPem = .error fault) ∧
    ∀ payload,
      Segments.ofPayload payload = .error .notAscii ∨
      (∃ n < macEnd, Segments.ofPayload payload = .error (.tooShort n)) ∨
      ∃ publicKey mac ciphertext : String, payload = publicKey ++ mac ++ ciphertext ∧
        publicKey.utf8ByteSize = publicKeyEnd ∧ (publicKey ++ mac).utf8ByteSize = macEnd ∧
        Segments.ofPayload payload = Segments.ofTexts publicKey mac ciphertext := by
  refine ⟨fun payload message => decryptWithPems_iff hsender hreader, fun message => ?_,
    fun message message' payload h h' => ?_, fun payload hcarries hnone => ?_,
    Segments.ofPayload_cut⟩
  · obtain ⟨a, hsecret, hpublic⟩ := id hsender
    obtain ⟨b, _, hrecipient⟩ := id hreader
    have hsealed := encryptWithPems_of_halves hsecret hpublic hrecipient message
    exact ⟨_, hsealed, decryptWithPems_of_encryptWithPems hsealed hsender hreader⟩
  · have hmessage := decryptWithPems_of_encryptWithPems h hsender hreader
    have hmessage' := decryptWithPems_of_encryptWithPems h' hsender hreader
    exact Except.ok.inj (hmessage.symm.trans hmessage')
  · cases hopened : decryptWithPems payload readerPem senderPem with
    | error fault => exact ⟨fault, rfl⟩
    | ok message =>
      exact absurd ((decryptWithPems_iff hsender hreader).mp ⟨hopened, hcarries⟩) (hnone message)

/-- Two sides whose keys belong together, and a message of one octet between them. -/
theorem unseals_sealed_sample : ∃ payload,
    encryptWithPems [7] (sampleKeys recipientSecret).publicKeyPem
      (sampleKeys senderSecret).publicKeyPem senderSecret.toPem = .ok payload ∧
    decryptWithPems payload recipientSecret.toPem (sampleKeys senderSecret).publicKeyPem =
      .ok [7] :=
  (unseals_iff_sealed (halves_toPem senderSecret) (halves_toPem recipientSecret)).2.1 [7]

end AttestedPayments.Sealing
