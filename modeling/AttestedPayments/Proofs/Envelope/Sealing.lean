import AttestedPayments.Envelope.Sealing
import AttestedPayments.Proofs.Cipher.Chaining
import AttestedPayments.Proofs.Hash.Lengths
import AttestedPayments.Proofs.Key.CurveKeys
import AttestedPayments.Proofs.Results
import AttestedPayments.Proofs.Text.Hex

/-!
# A sealed payload is unsealed

* `Halves` — two armored keys belong together.
* `SharedKeys.derive_comm` — both sides derive the same keys.
* `Segments.ofPayload_eq_ok_iff` — a payload is cut into segments exactly if it is their writing.
* `Segments.open_eq_ok_iff` — segments give a message exactly if they were made of it.

Principal result: `decryptWithPems_of_encryptWithPems`.
-/

set_option autoImplicit false

namespace AttestedPayments

open Curve (SecretKey PublicKey)

/-- The public key in one text is the public half of the private key in the other. -/
def Halves (secretPem publicPem : String) : Prop :=
  ∃ key : SecretKey, SecretKey.ofPem secretPem = .ok key ∧
    PublicKey.ofPem publicPem = .ok key.toPublic

/-- The two texts of a private key belong together. -/
theorem halves_toPem (key : SecretKey) : Halves key.toPem (PublicKey.toPem key.toPublic) :=
  ⟨key, key.ofPem_toPem, key.ofPem_toPem_toPublic⟩

/-- **Both sides derive the same keys.** -/
theorem SharedKeys.derive_comm (a b : SecretKey) : derive a b.toPublic = derive b a.toPublic := by
  rw [derive, derive, a.mul_toPublic_comm b]

theorem SharedKeys.length_cipherKey (secret : SecretKey) (peer : PublicKey) :
    (derive secret peer).cipherKey.length = 32 := by
  rw [derive, List.length_take, Hash.Sha512.length_digest]
  rfl

namespace Sealing

theorem length_mac (keys : SharedKeys) (senderKey encrypted : Bytes) :
    (mac keys senderKey encrypted).length = macLength :=
  Hash.length_hmacSha1 _ _

theorem readSegment_eq_ok_iff {which : PayloadSegment} {digits octets : Bytes} :
    readSegment which digits = .ok octets ↔ digits.map upperOctet = Hex.digits 65 octets := by
  rw [← Hex.decode_eq_ok_iff, readSegment]
  cases Hex.decode digits with
  | error fault => exact ⟨nofun, nofun⟩
  | ok read => simp only [Except.ok.injEq]

/-- Capital digits are written with ASCII octets, so their small forms are ASCII too. -/
theorem not_any_of_map_upperOctet {digits octets : Bytes}
    (h : digits.map upperOctet = Hex.digits 65 octets) : ¬ digits.any (0x80 ≤ ·) = true := by
  rw [List.any_eq_true]
  rintro ⟨d, hd, hlarge⟩
  have hmem : upperOctet d ∈ Hex.digits 65 octets := h ▸ List.mem_map_of_mem hd
  have hsmall := lt_of_upperOctet_lt (Hex.lt_of_mem_digits (Or.inr rfl) hmem)
  exact UInt8.not_lt.mpr (of_decide_eq_true hlarge) hsmall

/-- **A payload is cut into segments exactly if it is the writing of them**, apart from the case of
its letters, and they are a public key, a keyed digest, and something more. -/
theorem Segments.ofPayload_eq_ok_iff {payload : String} {segments : Segments} :
    Segments.ofPayload payload = .ok segments ↔
      payload.toUpper = Hex.upper (segments.publicKey ++ segments.mac ++ segments.ciphertext) ∧
      segments.publicKey.length = publicKeyLength ∧ segments.mac.length = macLength ∧
      ∃ key, PublicKey.ofOctets segments.publicKey = .ok key := by
  have htext : payload.toUpper =
      Hex.upper (segments.publicKey ++ segments.mac ++ segments.ciphertext) ↔
        (Utf8.encode payload).map upperOctet = Hex.digits 65 segments.publicKey ++
          (Hex.digits 65 segments.mac ++ Hex.digits 65 segments.ciphertext) := by
    rw [← Utf8.encode_toUpper, ← Hex.digits_append, ← Hex.digits_append, ← Hex.encode_upper,
      List.append_assoc]
    exact ⟨congrArg Utf8.encode, fun h => Utf8.encode_injective h⟩
  rw [htext]
  unfold Segments.ofPayload
  generalize Utf8.encode payload = digits
  dsimp only
  constructor
  · intro h
    split at h
    · cases h
    split at h
    · cases h
    rename_i hlong
    obtain ⟨publicKey, hpublicKey, h⟩ := bind_eq_ok_iff.mp h
    obtain ⟨mac, hmac, h⟩ := bind_eq_ok_iff.mp h
    obtain ⟨ciphertext, hciphertext, h⟩ := bind_eq_ok_iff.mp h
    have hread : (∃ key, PublicKey.ofOctets publicKey = .ok key) ∧
        segments = ⟨publicKey, mac, ciphertext⟩ := by
      split at h
      · cases h
      · rename_i key hkey
        cases h
        exact ⟨⟨key, hkey⟩, rfl⟩
    obtain ⟨hkey, rfl⟩ := hread
    rw [readSegment_eq_ok_iff] at hpublicKey hmac hciphertext
    have hparts : digits = digits.take publicKeyEnd ++
        ((digits.drop publicKeyEnd).take (2 * macLength) ++ digits.drop macEnd) := by
      rw [macEnd, ← List.drop_drop, List.take_append_drop, List.take_append_drop]
    have hkeyLength := congrArg List.length hpublicKey
    have hmacLength := congrArg List.length hmac
    rw [List.length_map, List.length_take, Hex.length_digits] at hkeyLength hmacLength
    rw [List.length_drop] at hmacLength
    refine ⟨?_, ?_, ?_, hkey⟩
    · rw [hparts, List.map_append, List.map_append, hpublicKey, hmac, hciphertext]
    · simp only [macEnd, publicKeyEnd] at hlong hkeyLength ⊢
      omega
    · simp only [macEnd, publicKeyEnd] at hlong hmacLength ⊢
      omega
  · rintro ⟨hdigits, hkeyLength, hmacLength, key, hkey⟩
    have hwhole := hdigits
    rw [← Hex.digits_append, ← Hex.digits_append] at hwhole
    obtain ⟨first, rest, rfl, hfirst, hrest⟩ := List.map_eq_append_iff.mp hdigits
    obtain ⟨second, third, rfl, hsecond, hthird⟩ := List.map_eq_append_iff.mp hrest
    have hfirstLength : first.length = publicKeyEnd := by
      rw [← List.length_map upperOctet, hfirst, Hex.length_digits, hkeyLength, publicKeyEnd]
    have hsecondLength : second.length = 2 * macLength := by
      rw [← List.length_map upperOctet, hsecond, Hex.length_digits, hmacLength]
    have hlong : ¬ (first ++ (second ++ third)).length < macEnd := by
      rw [List.length_append, List.length_append, hfirstLength, hsecondLength, macEnd]
      omega
    rw [if_neg (not_any_of_map_upperOctet hwhole), if_neg hlong, List.take_left' hfirstLength,
      List.drop_left' hfirstLength, List.take_left' hsecondLength, macEnd, ← List.drop_drop,
      List.drop_left' hfirstLength, List.drop_left' hsecondLength,
      readSegment_eq_ok_iff.mpr hfirst, readSegment_eq_ok_iff.mpr hsecond,
      readSegment_eq_ok_iff.mpr hthird]
    simp only [bind, Except.bind, hkey]

/-- The case of its letters makes no difference to a payload. -/
theorem Segments.ofPayload_toUpper {payload : String} {segments : Segments} :
    Segments.ofPayload payload.toUpper = .ok segments ↔
      Segments.ofPayload payload = .ok segments := by
  rw [Segments.ofPayload_eq_ok_iff, Segments.ofPayload_eq_ok_iff, toUpper_toUpper]

/-- **Segments give a message exactly if they were made of it.** -/
theorem Segments.open_eq_ok_iff {keys : SharedKeys} (hkey : keys.cipherKey.length = 32)
    {segments : Segments} {message : Bytes} :
    segments.open keys = .ok message ↔
      segments.mac = Sealing.mac keys segments.publicKey segments.ciphertext ∧
      segments.ciphertext = Cipher.encrypt keys.cipherKey message := by
  rw [← Cipher.decrypt?_eq_some_iff hkey, Segments.open]
  constructor
  · intro h
    split at h
    · cases h
    · rename_i hmac
      refine ⟨not_not.mp hmac, ?_⟩
      split at h
      · cases h
      · rename_i found hfound
        rw [hfound, Except.ok.inj h]
  · rintro ⟨hmac, hciphertext⟩
    rw [if_neg (not_not_intro hmac), hciphertext]

/-- The segments of a payload that a sender makes. -/
theorem ofPayload_encrypt (recipient : PublicKey) {secret : SecretKey}
    (hne : secret.toPublic ≠ .infinity) (message : Bytes) :
    Segments.ofPayload (encrypt recipient secret.toPublic secret message) =
      .ok ⟨secret.toPublic.uncompressed,
        mac (SharedKeys.derive secret recipient) secret.toPublic.uncompressed
          (Cipher.encrypt (SharedKeys.derive secret recipient).cipherKey message),
        Cipher.encrypt (SharedKeys.derive secret recipient).cipherKey message⟩ := by
  have hread := PublicKey.ofOctets_uncompressed hne secret.isOnCurve_toPublic
  exact Segments.ofPayload_eq_ok_iff.mpr ⟨Hex.toUpper_upper _, Curve.Point.length_uncompressed hne,
    length_mac _ _ _, _, hread⟩

theorem withKey_eq_ok {α : Type} {read : Except KeyFault α} {key : α}
    (h : withKey read = .ok key) : read = .ok key := by
  cases read with
  | error fault => cases h
  | ok a =>
    cases h
    rfl

theorem withKey_ok {α : Type} {read : Except KeyFault α} {key : α} (h : read = .ok key) :
    withKey read = .ok key := by
  rw [h, withKey]

/-- What sealing reads and gives. -/
theorem encryptWithPems_eq_ok {message : Bytes} {payload : String}
    {recipientPem senderPem secretPem : String}
    (h : encryptWithPems message recipientPem senderPem secretPem = .ok payload) :
    ∃ recipient sender secret, PublicKey.ofPem recipientPem = .ok recipient ∧
      PublicKey.ofPem senderPem = .ok sender ∧ SecretKey.ofPem secretPem = .ok secret ∧
        payload = encrypt recipient sender secret message := by
  obtain ⟨recipient, hrecipient, h⟩ := bind_eq_ok_iff.mp h
  obtain ⟨sender, hsender, h⟩ := bind_eq_ok_iff.mp h
  obtain ⟨secret, hsecret, h⟩ := bind_eq_ok_iff.mp h
  exact ⟨recipient, sender, secret, withKey_eq_ok hrecipient, withKey_eq_ok hsender,
    withKey_eq_ok hsecret, (Except.ok.inj h).symm⟩

/-- Sealing with keys that belong together. -/
theorem encryptWithPems_of_halves {recipientPem senderPem secretPem : String} {a b : SecretKey}
    (hsecret : SecretKey.ofPem secretPem = .ok a)
    (hsender : PublicKey.ofPem senderPem = .ok a.toPublic)
    (hrecipient : PublicKey.ofPem recipientPem = .ok b.toPublic) (message : Bytes) :
    encryptWithPems message recipientPem senderPem secretPem =
      .ok (encrypt b.toPublic a.toPublic a message) := by
  rw [encryptWithPems, hsecret, hsender, hrecipient]
  rfl

/-- A payload has two digits for every octet of the key, the keyed digest and the filled message. -/
theorem length_encrypt {recipient sender : PublicKey} (hne : sender ≠ .infinity)
    (secret : SecretKey) (message : Bytes) :
    (Utf8.encode (encrypt recipient sender secret message)).length =
      2 * (publicKeyLength + macLength + (Cipher.pad message).length) := by
  rw [encrypt, Hex.encode_upper, Hex.length_digits, List.length_append, List.length_append,
    Curve.Point.length_uncompressed hne, length_mac,
    Cipher.length_encrypt (SharedKeys.length_cipherKey secret recipient)]
  rfl

/-- A payload is not shorter than its message. -/
theorem length_le_payload {message : Bytes} {payload : String}
    {recipientPem senderPem secretPem : String}
    (h : encryptWithPems message recipientPem senderPem secretPem = .ok payload) :
    message.length ≤ (Utf8.encode payload).length := by
  obtain ⟨recipient, sender, secret, _, _, _, rfl⟩ := encryptWithPems_eq_ok h
  have hle := Cipher.length_le_encrypt (SharedKeys.length_cipherKey secret recipient) message
  rw [encrypt, Hex.encode_upper, Hex.length_digits, List.length_append]
  omega

/-- **What was sealed for a recipient is unsealed with the recipient's private key**, and it is the
message. -/
theorem decryptWithPems_of_encryptWithPems {message : Bytes} {payload : String}
    {recipientPem senderPem secretPem readerPem : String}
    (h : encryptWithPems message recipientPem senderPem secretPem = .ok payload)
    (hsender : Halves secretPem senderPem) (hreader : Halves readerPem recipientPem) :
    decryptWithPems payload readerPem senderPem = .ok message := by
  obtain ⟨a, hsecret, hpublic⟩ := hsender
  obtain ⟨b, hreaderSecret, hrecipient⟩ := hreader
  have hpayload : payload = encrypt b.toPublic a.toPublic a message :=
    Except.ok.inj (h.symm.trans (encryptWithPems_of_halves hsecret hpublic hrecipient message))
  have hsegments := ofPayload_encrypt b.toPublic (PublicKey.ne_infinity_of_ofPem hpublic) message
  refine bind_eq_ok_iff.mpr ⟨_, hpayload ▸ hsegments, bind_eq_ok_iff.mpr ⟨b, ?_,
    bind_eq_ok_iff.mpr ⟨a.toPublic, ?_, ?_⟩⟩⟩
  · rw [withKey_ok hreaderSecret]
  · rw [withKey_ok hpublic]
  · rw [← SharedKeys.derive_comm a b]
    exact (Segments.open_eq_ok_iff (SharedKeys.length_cipherKey _ _)).mpr ⟨rfl, rfl⟩

end Sealing

end AttestedPayments
