import AttestedPayments.Proofs.Exchange.Agreement
import AttestedPayments.Proofs.Exchange.Preservation

/-!
# An acknowledgement is as valid as its payment

* `isBare_of_parseAs` — a body that was read is what travels: putting it into another envelope loses
  nothing of it.
* `PaymentAckDraft.ofPayment_eq_ok_iff` — what is acknowledged is the payment as it was read.
* `checkBody_paymentAck` — the check of an acknowledgement is that of the payment in it. Nobody signs
  it anew: its owners are those of the payment, and they have signed the payment.

Principal result: `acknowledgement_valid_as_payment`.
-/

set_option autoImplicit false

namespace AttestedPayments

open Codec (sizeLimit)

variable {octets : Bytes} {recipient : Option Recipient}

/-! ## Bodies that were read -/

theorem PlainEnvelope.isBare_of_body {e : PlainEnvelope} {body : MessageBody}
    (h : e.body = .ok body) : body.IsBare :=
  (MessageBody.of_decode_eq_ok (PlainEnvelope.body_eq_ok_iff.mp h)).2.1

/-- A body that was read holds nothing but what travels. -/
theorem isBare_of_openExpecting {expected : MessageType} {reader : Option EncryptionKeys}
    {opened : OpenedMessage} (h : openExpecting octets expected reader = .ok opened) :
    opened.body.IsBare := by
  obtain ⟨e, _, hbody, _⟩ | ⟨_, inner, _, _, hbody, _⟩ := openExpecting_eq_ok_iff.mp h
  · exact PlainEnvelope.isBare_of_body hbody
  · exact PlainEnvelope.isBare_of_body hbody

theorem isBare_of_parseAs {type : MessageType} {opened : OpenedMessage}
    (h : parseAs type octets recipient = .ok opened) : opened.body.IsBare :=
  isBare_of_openExpecting (parse_of_parseAs h)

/-! ## Acknowledged payments -/

/-- **What is acknowledged is the payment as it was read**, with the given memo. -/
theorem PaymentAckDraft.ofPayment_eq_ok_iff {memo : String} {draft : PaymentAckDraft} :
    PaymentAckDraft.ofPayment octets recipient memo = .ok draft ↔
      ∃ payment metadata, parseAs .payment octets recipient = .ok ⟨.payment payment, metadata⟩ ∧
        draft = ⟨payment, memo⟩ := by
  constructor
  · intro h
    obtain ⟨⟨body, metadata⟩, hopen, h⟩ := bind_eq_ok_iff.mp h
    obtain ⟨payment, hpayment, h⟩ := bind_eq_ok_iff.mp h
    cases h
    cases body with
    | payment b =>
      cases hpayment
      exact ⟨payment, metadata, hopen, rfl⟩
    | _ => cases hpayment
  · rintro ⟨payment, metadata, hopen, rfl⟩
    exact bind_eq_ok_iff.mpr ⟨_, hopen, rfl⟩

/-- **The check of an acknowledgement is that of the payment in it.** -/
theorem checkBody_paymentAck (chains : List Chain) (clock : Clock) (b : PaymentAck) :
    checkBody chains clock (.paymentAck b) = checkBody chains clock (.payment b.payment) := by
  have hsender : ∀ body : MessageBody, body.sender? = none →
      checkSender chains clock body = .ok () := by
    intro body h
    rw [checkSender, h]
  have hdigest : (MessageBody.paymentAck b).attestationDigest =
      (MessageBody.payment b.payment).attestationDigest := rfl
  have hlists : (MessageBody.paymentAck b).ownerLists =
      (MessageBody.payment b.payment).ownerLists := rfl
  rw [checkBody, checkBody, hsender _ rfl, hsender _ rfl, checkAttestations, checkAttestations,
    hdigest, hlists]

/-- A payment that was read travels in an acknowledgement as it is. -/
theorem bare_paymentAck {payment : Payment} (h : (MessageBody.payment payment).IsBare)
    (memo : String) :
    (MessageBody.paymentAck ⟨payment, memo⟩).bare = .paymentAck ⟨payment, memo⟩ :=
  (MessageBody.bare_eq_self_iff _).mpr h

/-- **An acknowledgement is exactly as valid as the payment that it acknowledges**, at any moment and
for any trusted chains: its reader comes to the same result as the reader of the payment, the same
fault included. It holds the given memo and the payment as it was read, with its signatures. Payment
and acknowledgement may both be encrypted, each to a recipient of its own. -/
theorem acknowledgement_valid_as_payment {memo : String} {draft : PaymentAckDraft} {created : Clock}
    {sender : Sender} {ackRecipient reader : Option Recipient} {settings : Settings} {ack : Bytes}
    (hdraft : PaymentAckDraft.ofPayment octets recipient memo = .ok draft)
    (hcreate : draft.create created sender ackRecipient settings = .ok ack)
    (hlen : ack.length < sizeLimit)
    (hreadable : ReadableBy settings sender ackRecipient reader ack) :
    (∀ chains clock, isValidAs .paymentAck chains clock ack reader =
      isValidAs .payment chains clock octets recipient) ∧
    ∃ payment metadata ackMetadata,
      parseAs .payment octets recipient = .ok ⟨.payment payment, metadata⟩ ∧
      parseAs .paymentAck ack reader = .ok ⟨.paymentAck ⟨payment, memo⟩, ackMetadata⟩ := by
  obtain ⟨payment, metadata, hpayment, rfl⟩ := PaymentAckDraft.ofPayment_eq_ok_iff.mp hdraft
  obtain ⟨keys, hkeys, hfinish⟩ := bind_eq_ok_iff.mp hcreate
  obtain ⟨ackMetadata, hack, _⟩ := exists_parseAs_of_finish hkeys hfinish hlen hreadable
  rw [bare_paymentAck (isBare_of_parseAs hpayment)] at hack
  have hack : parseAs .paymentAck ack reader =
      .ok ⟨.paymentAck ⟨payment, memo⟩, ackMetadata⟩ := hack
  refine ⟨fun chains clock => ?_, payment, metadata, ackMetadata, hpayment, hack⟩
  calc isValidAs .paymentAck chains clock ack reader
      = (do checkBody chains clock (.paymentAck ⟨payment, memo⟩); .ok true) := by
        rw [isValidAs, hack]
        rfl
    _ = (do checkBody chains clock (.payment payment); .ok true) := by
        rw [checkBody_paymentAck chains clock]
    _ = isValidAs .payment chains clock octets recipient := by
        rw [isValidAs, hpayment]
        rfl

/-- The acknowledgement of the sealed payment. -/
def sampleAck : PaymentAckDraft :=
  ⟨{ Payment.blank with originators := [⟨true, []⟩] }, "received"⟩

/-- It in a plain envelope. -/
def sampleAckOctets : Bytes :=
  plainOctets ⟨0⟩ (.paymentAck ⟨sampleAck.payment, sampleAck.memo⟩) sampleSettings

/-- The sealed payment is acknowledged in a plain envelope, for everyone to read. -/
theorem acknowledgement_of_signedPayment :
    PaymentAckDraft.ofPayment (Envelope.encrypted signedPayment).encode (some sampleRecipient)
        "received" = .ok sampleAck ∧
      sampleAck.create ⟨0⟩ ⟨none, none, none⟩ none sampleSettings = .ok sampleAckOctets ∧
      sampleAckOctets.length < sizeLimit ∧
      isValidAs .paymentAck [sampleChain] ⟨0⟩ sampleAckOctets none =
        isValidAs .payment [sampleChain] ⟨0⟩ (Envelope.encrypted signedPayment).encode
          (some sampleRecipient) ∧
      ∃ payment metadata ackMetadata,
        parseAs .payment (Envelope.encrypted signedPayment).encode (some sampleRecipient) =
          .ok ⟨.payment payment, metadata⟩ ∧
        parseAs .paymentAck sampleAckOctets none =
          .ok ⟨.paymentAck ⟨payment, "received"⟩, ackMetadata⟩ := by
  obtain ⟨metadata, hopen, _⟩ := openKind_enclosed (some (sampleKeys recipientSecret))
    enclose_signedPayment length_signedPayment fun s r hs hr => by
      cases hs
      cases hr
      exact ⟨sampleKeys_reach, signatureFound_signedPayment⟩
  have hbare : originatorPayment.bare = originatorPayment := rfl
  rw [hbare] at hopen
  have hdraft : PaymentAckDraft.ofPayment (Envelope.encrypted signedPayment).encode
      (some sampleRecipient) "received" = .ok sampleAck :=
    PaymentAckDraft.ofPayment_eq_ok_iff.mpr ⟨_, metadata, hopen, rfl⟩
  have hcreate : sampleAck.create ⟨0⟩ ⟨none, none, none⟩ none sampleSettings =
      .ok sampleAckOctets := rfl
  have hlen : sampleAckOctets.length < sizeLimit := by decide +kernel
  have hreadable : ReadableBy sampleSettings ⟨none, none, none⟩ none none sampleAckOctets := nofun
  obtain ⟨hvalid, hparse⟩ := acknowledgement_valid_as_payment hdraft hcreate hlen hreadable
  exact ⟨hdraft, hcreate, hlen, hvalid _ _, hparse⟩

end AttestedPayments
