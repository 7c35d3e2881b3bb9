import AttestedPayments.Proofs.Wire.Layout

/-!
# Reading accepts exactly what writing produces

* `MessageBody.decode_eq_ok_iff`, `Envelope.decode_eq_ok_iff` — octets are read as a value exactly
  if they are the writing of that value.
* `MessageBody.eq_of_encode_eq`, `Envelope.eq_of_encode_eq` — a writing belongs to one value only.
* `MessageBody.refuses_broken`, `Envelope.refuses_broken` — octets that are cut off or go on are
  refused.

What is known about addresses does not travel: `MessageBody.bare` takes it off.
-/

set_option autoImplicit false

namespace AttestedPayments

open Codec (Lawful sizeLimit)

/-- A writing that is cut off or goes on. -/
def Broken (octets writing : Bytes) : Prop :=
  octets ≠ writing ∧ (octets <+: writing ∨ writing <+: octets)

theorem Codec.Lawful.refuses_broken {α : Type} {c : Codec α} {f : α → α} (hc : Lawful c f) {a : α}
    {octets : Bytes} (hlen : (c.encode a).length < sizeLimit) (h : Broken octets (c.encode a)) :
    ∃ fault, c.decodeAll octets = .error fault := by
  obtain ⟨hne, hpart⟩ := h
  cases hd : c.decodeAll octets with
  | error fault => exact ⟨fault, rfl⟩
  | ok b =>
    exfalso
    rcases hpart with ⟨more, hmore⟩ | ⟨more, hmore⟩
    · -- what was read of the beginning would be a writing that goes on to another one
      obtain ⟨_, hb⟩ := hc.encode_of_decodeAll hd
      have hblen : octets.length < sizeLimit := by
        rw [← hmore, List.length_append] at hlen
        omega
      have ha := hc.decodeAll_encode hlen
      rw [← hmore] at ha
      have hnil := hc.eq_nil_of_decodeAll_append hblen hb ha
      rw [hnil, List.append_nil] at hmore
      exact hne hmore
    · rw [← hmore] at hd
      have hnil := hc.eq_nil_of_decodeAll_append hlen rfl hd
      rw [hnil, List.append_nil] at hmore
      exact hne hmore.symm

namespace MessageBody

@[simp] theorem encode_bare (body : MessageBody) : body.bare.encode = body.encode := by
  cases body with
  | invoiceRequest b => exact Wire.lawful_invoiceRequest.encode_bare b
  | paymentRequest b => exact Wire.lawful_paymentRequest.encode_bare b
  | payment b => exact Wire.lawful_payment.encode_bare b
  | paymentAck b => exact Wire.lawful_paymentAck.encode_bare b

/-- The bodies of one kind are the values of one lawful layout. -/
structure IsLayout {α : Type} (type : MessageType) (c : Codec α) (f : α → α)
    (inject : α → MessageBody) : Prop where
  lawful : Lawful c f
  messageType_eq_iff : ∀ body, body.messageType = type ↔ ∃ a, inject a = body
  inject_injective : ∀ a b, inject a = inject b → a = b
  bare_inject : ∀ a, (inject a).bare = inject (f a)
  encode_inject : ∀ a, (inject a).encode = c.encode a
  decode_eq : ∀ octets, decode type octets = decodeAs type c inject octets

theorem isLayout_invoiceRequest :
    IsLayout .invoiceRequest Wire.invoiceRequest InvoiceRequest.bare invoiceRequest where
  lawful := Wire.lawful_invoiceRequest
  messageType_eq_iff body := by cases body <;> simp [messageType]
  inject_injective _ _ := invoiceRequest.inj
  bare_inject _ := rfl
  encode_inject _ := rfl
  decode_eq _ := rfl

theorem isLayout_paymentRequest :
    IsLayout .paymentRequest Wire.paymentRequest PaymentRequest.bare paymentRequest where
  lawful := Wire.lawful_paymentRequest
  messageType_eq_iff body := by cases body <;> simp [messageType]
  inject_injective _ _ := paymentRequest.inj
  bare_inject _ := rfl
  encode_inject _ := rfl
  decode_eq _ := rfl

theorem isLayout_payment : IsLayout .payment Wire.payment Payment.bare payment where
  lawful := Wire.lawful_payment
  messageType_eq_iff body := by cases body <;> simp [messageType]
  inject_injective _ _ := payment.inj
  bare_inject _ := rfl
  encode_inject _ := rfl
  decode_eq _ := rfl

theorem isLayout_paymentAck : IsLayout .paymentAck Wire.paymentAck PaymentAck.bare paymentAck where
  lawful := Wire.lawful_paymentAck
  messageType_eq_iff body := by cases body <;> simp [messageType]
  inject_injective _ _ := paymentAck.inj
  bare_inject _ := rfl
  encode_inject _ := rfl
  decode_eq _ := rfl

/-- Every kind but the unknown one has a layout. -/
theorem exists_isLayout {type : MessageType} (h : type ≠ .unknown) :
    ∃ (α : Type) (c : Codec α) (f : α → α) (inject : α → MessageBody),
      IsLayout type c f inject := by
  cases type with
  | unknown => exact absurd rfl h
  | invoiceRequest => exact ⟨_, _, _, _, isLayout_invoiceRequest⟩
  | paymentRequest => exact ⟨_, _, _, _, isLayout_paymentRequest⟩
  | payment => exact ⟨_, _, _, _, isLayout_payment⟩
  | paymentAck => exact ⟨_, _, _, _, isLayout_paymentAck⟩

theorem messageType_ne_unknown (body : MessageBody) : body.messageType ≠ .unknown := by
  cases body <;> exact nofun

/-- A body is read from its writing, and from no other octets. -/
theorem of_decode_eq_ok {type : MessageType} {octets : Bytes} {body : MessageBody}
    (h : decode type octets = .ok body) :
    body.messageType = type ∧ body.IsBare ∧ body.encode = octets := by
  by_cases ht : type = .unknown
  · subst ht
    cases h
  · obtain ⟨α, c, f, inject, hl⟩ := exists_isLayout ht
    rw [hl.decode_eq] at h
    unfold decodeAs at h
    split at h
    · cases h
    · rename_i a ha
      cases h
      obtain ⟨hf, he⟩ := hl.lawful.encode_of_decodeAll ha
      refine ⟨(hl.messageType_eq_iff _).mpr ⟨a, rfl⟩, ?_, (hl.encode_inject a).trans he⟩
      rw [← bare_eq_self_iff, hl.bare_inject, hf]

/-- A body whose writing fits is read back, less what does not travel. -/
theorem decode_encode (body : MessageBody) (hlen : body.encode.length < sizeLimit) :
    decode body.messageType body.encode = .ok body.bare := by
  obtain ⟨α, c, f, inject, hl⟩ := exists_isLayout body.messageType_ne_unknown
  obtain ⟨a, ha⟩ := (hl.messageType_eq_iff body).mp rfl
  rw [hl.decode_eq, ← ha, hl.encode_inject, hl.bare_inject]
  rw [← ha, hl.encode_inject] at hlen
  simp only [decodeAs, hl.lawful.decodeAll_encode hlen]

/-- **Octets are read as a body exactly if they are its writing.** -/
theorem decode_eq_ok_iff (type : MessageType) {octets : Bytes} (hlen : octets.length < sizeLimit)
    (body : MessageBody) :
    decode type octets = .ok body ↔
      body.messageType = type ∧ body.IsBare ∧ body.encode = octets := by
  constructor
  · exact of_decode_eq_ok
  · rintro ⟨rfl, hbare, rfl⟩
    rw [decode_encode body hlen, (bare_eq_self_iff body).mpr hbare]

/-- A writing belongs to one body of its kind, apart from what does not travel. -/
theorem eq_of_encode_eq {a b : MessageBody} (ht : a.messageType = b.messageType)
    (hlen : a.encode.length < sizeLimit) (h : a.encode = b.encode) : a.bare = b.bare := by
  have ha := decode_encode a hlen
  rw [h, ht, decode_encode b (h ▸ hlen)] at ha
  exact (Except.ok.inj ha).symm

/-- A writing that is cut off or goes on is refused. -/
theorem refuses_broken {body : MessageBody} {octets : Bytes}
    (hlen : body.encode.length < sizeLimit) (h : Broken octets body.encode) :
    ∃ fault, decode body.messageType octets = .error fault := by
  obtain ⟨α, c, f, inject, hl⟩ := exists_isLayout body.messageType_ne_unknown
  obtain ⟨a, ha⟩ := (hl.messageType_eq_iff body).mp rfl
  rw [← ha, hl.encode_inject] at hlen h
  obtain ⟨fault, hf⟩ := hl.lawful.refuses_broken hlen h
  rw [hl.decode_eq]
  exact ⟨.malformed body.messageType fault, by simp only [decodeAs, hf]⟩

end MessageBody

namespace Envelope

theorem of_decode_eq_ok {expected : MessageType} {octets : Bytes} {e : Envelope}
    (h : decode expected octets = .ok e) : e.encode = octets := by
  unfold decode at h
  split at h
  · cases h
  · rename_i e' he
    cases h
    exact (Wire.lawful_envelope.encode_of_decodeAll he).2

theorem decode_encode (expected : MessageType) (e : Envelope)
    (hlen : e.encode.length < sizeLimit) : decode expected e.encode = .ok e := by
  have h := Wire.lawful_envelope.decodeAll_encode hlen
  simp only [decode, encode, h, id]

/-- **Octets are read as an envelope exactly if they are its writing.** -/
theorem decode_eq_ok_iff (expected : MessageType) {octets : Bytes}
    (hlen : octets.length < sizeLimit) (e : Envelope) :
    decode expected octets = .ok e ↔ e.encode = octets := by
  constructor
  · exact of_decode_eq_ok
  · rintro rfl
    exact decode_encode expected e hlen

/-- A writing belongs to one envelope. -/
theorem eq_of_encode_eq {a b : Envelope} (hlen : a.encode.length < sizeLimit)
    (h : a.encode = b.encode) : a = b :=
  Wire.lawful_envelope.eq_of_encode_eq hlen h

/-- A writing that is cut off or goes on is refused. -/
theorem refuses_broken (expected : MessageType) {e : Envelope} {octets : Bytes}
    (hlen : e.encode.length < sizeLimit) (h : Broken octets e.encode) :
    ∃ fault, decode expected octets = .error fault := by
  obtain ⟨fault, hf⟩ := Wire.lawful_envelope.refuses_broken hlen h
  exact ⟨.object (.badEnvelope expected fault), by simp only [decode, hf]⟩

end Envelope

/-- **Reading accepts exactly what writing produces**, for bodies of every kind and for envelopes:
octets are read as a value exactly if they are its writing; so reading undoes writing, writing undoes
reading, different values have different writings, and a writing that is cut off or goes on is
refused. What is known about addresses does not travel. -/
theorem reads_exactly_writings :
    (∀ (type : MessageType) (octets : Bytes) (body : MessageBody), octets.length < sizeLimit →
      (MessageBody.decode type octets = .ok body ↔
        body.messageType = type ∧ body.IsBare ∧ body.encode = octets)) ∧
    (∀ (expected : MessageType) (octets : Bytes) (e : Envelope), octets.length < sizeLimit →
      (Envelope.decode expected octets = .ok e ↔ e.encode = octets)) ∧
    (∀ body : MessageBody, body.encode.length < sizeLimit →
      MessageBody.decode body.messageType body.encode = .ok body.bare) ∧
    (∀ (expected : MessageType) (e : Envelope), e.encode.length < sizeLimit →
      Envelope.decode expected e.encode = .ok e) ∧
    (∀ (type : MessageType) (octets : Bytes) (body : MessageBody),
      MessageBody.decode type octets = .ok body → body.encode = octets) ∧
    (∀ (expected : MessageType) (octets : Bytes) (e : Envelope),
      Envelope.decode expected octets = .ok e → e.encode = octets) ∧
    (∀ a b : MessageBody, a.messageType = b.messageType → a.encode.length < sizeLimit →
      a.encode = b.encode → a.bare = b.bare) ∧
    (∀ a b : Envelope, a.encode.length < sizeLimit → a.encode = b.encode → a = b) ∧
    (∀ (body : MessageBody) (octets : Bytes), body.encode.length < sizeLimit →
      Broken octets body.encode → ∃ fault, MessageBody.decode body.messageType octets = .error fault) ∧
    (∀ (expected : MessageType) (e : Envelope) (octets : Bytes), e.encode.length < sizeLimit →
      Broken octets e.encode → ∃ fault, Envelope.decode expected octets = .error fault) :=
  ⟨fun type _ body hlen => MessageBody.decode_eq_ok_iff type hlen body,
    fun expected _ e hlen => Envelope.decode_eq_ok_iff expected hlen e,
    MessageBody.decode_encode,
    Envelope.decode_encode,
    fun _ _ _ h => (MessageBody.of_decode_eq_ok h).2.2,
    fun _ _ _ h => Envelope.of_decode_eq_ok h,
    fun _ _ ht hlen h => MessageBody.eq_of_encode_eq ht hlen h,
    fun _ _ hlen h => Envelope.eq_of_encode_eq hlen h,
    fun _ _ hlen h => MessageBody.refuses_broken hlen h,
    fun expected _ _ hlen h => Envelope.refuses_broken expected hlen h⟩

/-- A payment with an output about whose address something is known. -/
def refundedPayment : MessageBody :=
  .payment
    { merchantData := [1]
      transactions := [[2, 3], []]
      refundTo := [⟨5, "bc1q", .litecoin, some ⟨"id", true, ⟨0x3fe0000000000000⟩, none, [], "", "",
        0, "", "", "", "", "", "", "", ""⟩⟩]
      memo := "né"
      originators := [⟨true, [⟨.dateOfBirth, "pem", .x509Sha256, "00"⟩]⟩, ⟨false, []⟩]
      beneficiaries := [] }

theorem refundedPayment_reads_back :
    refundedPayment.encode.length < sizeLimit ∧ ¬ refundedPayment.IsBare ∧
      MessageBody.decode .payment refundedPayment.encode = .ok refundedPayment.bare ∧
      Broken refundedPayment.encode.dropLast refundedPayment.encode ∧
      (∃ fault,
        MessageBody.decode .payment refundedPayment.encode.dropLast = .error fault) ∧
      Envelope.decode .unknown (Envelope.plain ⟨1, .ok, "OK", .payment, [7], []⟩).encode =
        .ok (.plain ⟨1, .ok, "OK", .payment, [7], []⟩) := by
  have hlen : refundedPayment.encode.length < sizeLimit := by decide +kernel
  have hbroken : Broken refundedPayment.encode.dropLast refundedPayment.encode := by
    refine ⟨fun h => ?_, Or.inl (List.dropLast_prefix _)⟩
    have := congrArg List.length h
    revert this
    decide +kernel
  obtain ⟨-, -, hread, henv, -, -, -, -, hrefuse, -⟩ := reads_exactly_writings
  exact ⟨hlen, by simp [MessageBody.IsBare, MessageBody.allOutputs, refundedPayment], hread _ hlen,
    hbroken, hrefuse _ _ hlen hbroken, henv _ _ (by decide +kernel)⟩

end AttestedPayments
