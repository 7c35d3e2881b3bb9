import AttestedPayments.Message.Blank
import AttestedPayments.Proofs.Exchange.Attaching

/-!
# Digests while a body is signed and sent

* `SigningStep` — owners or the sender put in signatures; `MessageBody.signing` makes steps one after
  the other.
* `MessageBody.attestationDigest_signStep` — what one step preserves, and
  `MessageBody.attestationDigest_signing` what all of them do.
* `MessageBody.Received` — what puts records into a body and nothing else.

Principal result: `digests_stable` — the owners' digest is the same throughout, the sender's digest does
not depend on the sender's signature, and whoever reads the body computes the same digests.
-/

set_option autoImplicit false

namespace AttestedPayments

open Codec (sizeLimit)

/-- What puts signatures into a body. -/
inductive SigningStep where
  | attach (records : List SignatureRecord)
  | signSender (signature : String)
  deriving DecidableEq, Repr

namespace MessageBody

variable {body after : MessageBody}

/-! ## Steps -/

/-- The body after one step. -/
def signStep (body : MessageBody) : SigningStep → Except Fault MessageBody
  | .attach records => body.attach records
  | .signSender signature => .ok (body.withSenderSignature signature)

/-- The body after steps that all succeed. -/
def signing (body : MessageBody) : List SigningStep → Except Fault MessageBody
  | [] => .ok body
  | step :: rest => do (← body.signStep step).signing rest

theorem messageType_signStep {step : SigningStep} (h : body.signStep step = .ok after) :
    after.messageType = body.messageType := by
  cases step with
  | attach records => rw [attach_eq_ok h, messageType_mapOwners]
  | signSender signature =>
    cases h
    exact messageType_withSenderSignature _ _

/-- One step does not change what owners sign. -/
theorem attestationDigest_signStep {step : SigningStep} (h : body.signStep step = .ok after) :
    after.attestationDigest = body.attestationDigest := by
  cases step with
  | attach records => exact attestationDigest_attach h
  | signSender signature =>
    cases h
    exact attestationDigest_withSenderSignature _ _

/-- What every step preserves is preserved by all of them. -/
theorem signing_induction {α : Type} {f : MessageBody → α}
    (hstep : ∀ {a b step}, signStep a step = .ok b → f b = f a) {steps : List SigningStep}
    (h : body.signing steps = .ok after) : f after = f body := by
  induction steps generalizing body with
  | nil =>
    cases h
    rfl
  | cons step rest ih =>
    obtain ⟨middle, hmiddle, hrest⟩ := bind_eq_ok_iff.mp h
    exact (ih hrest).trans (hstep hmiddle)

theorem messageType_signing {steps : List SigningStep} (h : body.signing steps = .ok after) :
    after.messageType = body.messageType :=
  signing_induction messageType_signStep h

/-- All steps together do not change what owners sign. -/
theorem attestationDigest_signing {steps : List SigningStep} (h : body.signing steps = .ok after) :
    after.attestationDigest = body.attestationDigest :=
  signing_induction attestationDigest_signStep h

/-! ## What records change -/

/-- Records were put into a body: the last one for an entry counts, other entries keep their signatures,
and nothing else changes. -/
structure Received (body : MessageBody) (records : List SignatureRecord) (after : MessageBody) : Prop where
  last : ∀ before r later, records = before ++ r :: later →
    (∀ r' ∈ later, ¬ r'.Addresses r.role r.owner r.entry) →
      after.signatureAt? r.role r.owner r.entry = some r.signature
  others : ∀ role i j, (∀ r ∈ records, ¬ r.Addresses role i j) →
    after.signatureAt? role i j = body.signatureAt? role i j
  rest : after.withoutOwnerSignatures = body.withoutOwnerSignatures

theorem received_of_attach {records : List SignatureRecord} (h : body.attach records = .ok after) :
    body.Received records after := by
  refine ⟨fun before r later hsplit hlater => ?_,
    fun role i j hnone => signatureAt?_attach_of_forall_not h hnone, withoutOwnerSignatures_attach h⟩
  have hmem : r ∈ records := by rw [hsplit]; exact List.mem_append_cons_self
  obtain ⟨s, hs⟩ := (accepts_of_attach h r hmem).exists_signature
  rw [signatureAt?_attach h, hs, Option.map_some, hsplit, lastSignature_of_last ⟨rfl, rfl, rfl⟩ hlater]

/-- Only one body comes from putting records into another one. -/
theorem Received.unique {records : List SignatureRecord} {a b : MessageBody}
    (ha : body.Received records a) (hb : body.Received records b) : a = b := by
  refine eq_of_withoutOwnerSignatures (ha.rest.trans hb.rest.symm) fun role i j => ?_
  obtain hnone | ⟨before, r, later, hsplit, ⟨rfl, rfl, rfl⟩, hlater⟩ :=
    exists_last_or (SignatureRecord.Addresses · role i j) records
  · rw [ha.others role i j hnone, hb.others role i j hnone]
  · rw [ha.last before r later hsplit hlater, hb.last before r later hsplit hlater]

/-! ## Transport -/

/-- Whoever reads a body computes the digests of the body that was written, also if something is known
about its addresses. -/
theorem exists_read (body : MessageBody) (hlen : body.encode.length < sizeLimit) :
    ∃ read, decode body.messageType body.encode = .ok read ∧
      read.attestationDigest = body.attestationDigest ∧ read.senderDigest = body.senderDigest :=
  ⟨body.bare, body.decode_encode hlen, body.attestationDigest_bare, body.senderDigest_bare⟩

end MessageBody

/-- **Digests are stable under signing and transport.** Whatever signatures of owners and sender are put
into a body, in any order and any number of times: what owners sign stays the same; what the sender
signs does not depend on the sender's signature; records change the signatures of the entries that they
address, the last one for an entry counts, and nothing else changes; and whoever reads the body computes
the same two digests. -/
theorem digests_stable {body after : MessageBody} {steps : List SigningStep}
    (h : body.signing steps = .ok after) :
    after.attestationDigest = body.attestationDigest ∧
    (∀ signature, (after.withSenderSignature signature).senderDigest = after.senderDigest) ∧
    (∀ records final, after.attach records = .ok final →
      ∀ other, other = final ↔ after.Received records other) ∧
    (after.encode.length < sizeLimit →
      ∃ read, MessageBody.decode body.messageType after.encode = .ok read ∧
        read.attestationDigest = body.attestationDigest ∧
        read.senderDigest = after.senderDigest) := by
  have hdigest := MessageBody.attestationDigest_signing h
  refine ⟨hdigest, fun signature => after.senderDigest_withSenderSignature signature,
    fun records final hfinal other => ?_, fun hlen => ?_⟩
  · have hreceived := MessageBody.received_of_attach hfinal
    constructor
    · rintro rfl
      exact hreceived
    · exact fun hother => hother.unique hreceived
  · obtain ⟨read, hread, hattested, hsender⟩ := after.exists_read hlen
    rw [MessageBody.messageType_signing h] at hread
    exact ⟨read, hread, hattested.trans hdigest, hsender⟩

/-- An invoice request whose originator states a date of birth, with an output about whose address
something is known. -/
def addressedInvoice (signature : String) : MessageBody :=
  .invoiceRequest { InvoiceRequest.blank with
    originators := [⟨true, [⟨.dateOfBirth, "pem", .x509Sha256, signature⟩]⟩]
    originatorsAddresses := [⟨5, "bc1q", .litecoin, some ⟨"id", true, ⟨0x3fe0000000000000⟩, none, [],
      "", "", 0, "", "", "", "", "", "", "", ""⟩⟩] }

/-- Two records for one entry. -/
def repeatedRecords : List SignatureRecord :=
  [⟨.originator, 0, 0, .dateOfBirth, "aa"⟩, ⟨.originator, 0, 0, .dateOfBirth, "bb"⟩]

theorem addressedInvoice_signed :
    (addressedInvoice "").signing [.attach repeatedRecords, .signSender "cc"] =
        .ok ((addressedInvoice "bb").withSenderSignature "cc") ∧
      ((addressedInvoice "bb").withSenderSignature "cc").attestationDigest =
        (addressedInvoice "").attestationDigest ∧
      (∀ other, other = addressedInvoice "bb" ↔ (addressedInvoice "").Received repeatedRecords other) ∧
      ∃ read, MessageBody.decode .invoiceRequest
          ((addressedInvoice "bb").withSenderSignature "cc").encode = .ok read ∧
        read.attestationDigest = (addressedInvoice "").attestationDigest := by
  have hsigned : (addressedInvoice "").signing [.attach repeatedRecords, .signSender "cc"] =
      .ok ((addressedInvoice "bb").withSenderSignature "cc") := rfl
  have hbegin : (addressedInvoice "").signing [] = .ok (addressedInvoice "") := rfl
  obtain ⟨hdigest, -, -, hread⟩ := digests_stable hsigned
  obtain ⟨-, -, hreceived, -⟩ := digests_stable hbegin
  obtain ⟨read, hdecode, hattested, -⟩ := hread (by decide +kernel)
  exact ⟨hsigned, hdigest, hreceived _ _ rfl, read, hdecode, hattested⟩

end AttestedPayments
