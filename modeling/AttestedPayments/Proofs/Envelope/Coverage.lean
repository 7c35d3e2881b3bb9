import AttestedPayments.Proofs.Envelope.RoundTrip
import AttestedPayments.Proofs.Wire.Delimiting

/-!
# What the signature of an envelope covers

* `EncryptedEnvelope.SignedAlike` — two envelopes agree in payload, both keys, identifier and nonce.
* `EncryptedEnvelope.Countable` — each of the fields has a length that a count of eight octets can
  say, as has everything that a memory can hold.
* `EncryptedEnvelope.signedOctets_append_inj` — octets that are signed tell the five fields, and
  where they end.
* `EncryptedEnvelope.signedOctets_of_uncounted` — beyond the limit they do not.

Principal result: `EncryptedEnvelope.signedOctets_eq_iff`.
-/

set_option autoImplicit false

namespace AttestedPayments.EncryptedEnvelope

open Codec (count delimits_int64 delimits_octets delimits_text sizeLimit)

variable {a b e : EncryptedEnvelope}

/-- Two envelopes agree in what is signed. -/
structure SignedAlike (a b : EncryptedEnvelope) : Prop where
  payload_eq : a.payload = b.payload
  senderPublicKeyPem_eq : a.senderPublicKeyPem = b.senderPublicKeyPem
  recipientPublicKeyPem_eq : a.recipientPublicKeyPem = b.recipientPublicKeyPem
  identifier_eq : a.identifier = b.identifier
  nonce_eq : a.nonce = b.nonce

/-- The counts of the texts and octets that are signed are below their limit. -/
structure Countable (e : EncryptedEnvelope) : Prop where
  payload_lt : (Utf8.encode e.payload).length < sizeLimit
  senderPublicKeyPem_lt : (Utf8.encode e.senderPublicKeyPem).length < sizeLimit
  recipientPublicKeyPem_lt : (Utf8.encode e.recipientPublicKeyPem).length < sizeLimit
  identifier_lt : e.identifier.length < sizeLimit

/-- An envelope that can be read has such counts. -/
theorem countable_of_length_encode (h : (Envelope.encrypted e).encode.length < sizeLimit) :
    e.Countable := by
  rw [e.length_encode] at h
  exact ⟨by omega, by omega, by omega, by omega⟩

theorem SignedAlike.signedOctets_eq (h : SignedAlike a b) : a.signedOctets = b.signedOctets := by
  rw [signedOctets, h.payload_eq, h.senderPublicKeyPem_eq, h.recipientPublicKeyPem_eq,
    h.identifier_eq, h.nonce_eq, signedOctets]

/-- Nothing else than signature and status may differ. -/
theorem signedAlike_iff_exists : SignedAlike a b ↔ ∃ signature code message,
    b = { a with signature := signature, statusCode := code, statusMessage := message } := by
  constructor
  · rintro ⟨hpayload, hsender, hrecipient, hidentifier, hnonce⟩
    refine ⟨b.signature, b.statusCode, b.statusMessage, ?_⟩
    rw [hpayload, hsender, hrecipient, hidentifier, hnonce]
  · rintro ⟨signature, code, message, rfl⟩
    exact ⟨rfl, rfl, rfl, rfl, rfl⟩

/-- **Octets that are signed tell the five fields, and where they end**, whatever follows them. -/
theorem signedOctets_append_inj (ha : a.Countable) (hb : b.Countable) {x y : Bytes}
    (h : a.signedOctets ++ x = b.signedOctets ++ y) : SignedAlike a b ∧ x = y := by
  -- field by field, since the lengths together may be too large for a count
  have hdelimits := delimits_text.pair (delimits_text.pair (delimits_text.pair
    (delimits_octets.pair delimits_int64)))
  obtain ⟨hfields, hrest⟩ := hdelimits _ _ x y
    ⟨ha.payload_lt, ha.senderPublicKeyPem_lt, ha.recipientPublicKeyPem_lt, ha.identifier_lt, trivial⟩
    ⟨hb.payload_lt, hb.senderPublicKeyPem_lt, hb.recipientPublicKeyPem_lt, hb.identifier_lt, trivial⟩
    h
  simp only [Prod.mk.injEq] at hfields
  obtain ⟨hpayload, hsender, hrecipient, hidentifier, hnonce⟩ := hfields
  exact ⟨⟨hpayload, hsender, hrecipient, hidentifier, hnonce⟩, hrest⟩

/-- **The signature covers five fields and no others.** The octets that are signed are the same exactly
if payload, both keys, identifier and nonce are, that is, if the envelopes differ in nothing but signature
and status. So nothing can be moved from one of the fields to another under the same octets, and none
of these octet strings begins another one. -/
theorem signedOctets_eq_iff (ha : a.Countable) (hb : b.Countable) :
    (a.signedOctets = b.signedOctets ↔ SignedAlike a b) ∧
    (a.signedOctets = b.signedOctets ↔ ∃ signature code message,
      b = { a with signature := signature, statusCode := code, statusMessage := message }) ∧
    (a.signedOctets <+: b.signedOctets → a.signedOctets = b.signedOctets) := by
  have hbegins : a.signedOctets <+: b.signedOctets → SignedAlike a b := by
    rintro ⟨more, hmore⟩
    rw [← List.append_nil b.signedOctets] at hmore
    exact (signedOctets_append_inj ha hb hmore).1
  have halike : a.signedOctets = b.signedOctets ↔ SignedAlike a b :=
    ⟨fun h => hbegins (h ▸ List.prefix_rfl), SignedAlike.signedOctets_eq⟩
  exact ⟨halike, halike.trans signedAlike_iff_exists, fun h => (hbegins h).signedOctets_eq⟩

/-- A sealed payment as its recipient answers it. -/
def answeredPayment : EncryptedEnvelope :=
  { signedPayment with statusCode := .cancel, statusMessage := "NO" }

/-- A sealed payment as if it had been made at another moment. -/
def laterPayment : EncryptedEnvelope := { signedPayment with nonce := 1 }

/-- A sealed payment with one key run into the other. -/
def shiftedPayment : EncryptedEnvelope :=
  { signedPayment with
    senderPublicKeyPem := signedPayment.senderPublicKeyPem ++ signedPayment.recipientPublicKeyPem
    recipientPublicKeyPem := "" }

theorem countable_shiftedPayment : shiftedPayment.Countable := by
  have hlen := length_signedPayment
  have hcountable := countable_of_length_encode hlen
  refine { hcountable with senderPublicKeyPem_lt := ?_, recipientPublicKeyPem_lt := by decide }
  rw [length_encode] at hlen
  rw [shiftedPayment, Utf8.encode_append, List.length_append]
  omega

/-- The answer to a sealed payment has the same octets signed; another moment, or keys that are divided
in another place, have others. -/
theorem signedPayment_covered :
    (signedPayment.Countable ∧ answeredPayment.Countable ∧ laterPayment.Countable ∧
      shiftedPayment.Countable) ∧
    signedPayment.signedOctets = answeredPayment.signedOctets ∧
    signedPayment.signedOctets ≠ laterPayment.signedOctets ∧
    signedPayment.signedOctets ≠ shiftedPayment.signedOctets := by
  have hcountable := countable_of_length_encode length_signedPayment
  have hanswered : answeredPayment.Countable := { hcountable with }
  have hlater : laterPayment.Countable := { hcountable with }
  refine ⟨⟨hcountable, hanswered, hlater, countable_shiftedPayment⟩, ?_, fun h => ?_, fun h => ?_⟩
  · exact (signedOctets_eq_iff hcountable hanswered).2.1.mpr ⟨_, _, _, rfl⟩
  · have hnonce := ((signedOctets_eq_iff hcountable hlater).1.mp h).nonce_eq
    revert hnonce
    decide
  · have hkey :=
      ((signedOctets_eq_iff hcountable countable_shiftedPayment).1.mp h).recipientPublicKeyPem_eq
    revert hkey
    decide +kernel

/-! ## Texts that cannot be counted -/

/-- The limit cannot be dropped. A text of zeros whose length is a multiple of it is counted like the
empty text, so it could stand in either of two fields. -/
theorem signedOctets_of_uncounted {n : Nat} (h : sizeLimit ∣ n) (e : EncryptedEnvelope) :
    { e with payload := characters (List.replicate n 0), senderPublicKeyPem := "" }.signedOctets =
      { e with
        payload := "", senderPublicKeyPem := characters (List.replicate n 0) }.signedOctets := by
  have hzeros : Utf8.encode (characters (List.replicate n 0)) = List.replicate n 0 := by
    refine Utf8.encode_characters fun b hb => ?_
    rw [List.eq_of_mem_replicate hb]
    decide
  have hcount : count.encode n = List.replicate 8 0 := by
    rw [← Codec.count_encode_mod, Nat.mod_eq_zero_of_dvd h]
    rfl
  have hnone : count.encode 0 = List.replicate 8 0 := rfl
  have hempty : Utf8.encode "" = [] := rfl
  simp only [signedOctets, Wire.signedFields, Codec.pair, Codec.text, hzeros, hempty, hcount, hnone,
    List.length_replicate, List.length_nil, List.append_nil, ← List.append_assoc,
    List.replicate_append_replicate]
  rw [Nat.add_right_comm]

end AttestedPayments.EncryptedEnvelope
